import Sponge.NetworkSimulator.Delivery

/-!
# Why a segment falls silent

Every message has a rank, and what an interface says to a message that it hears has
a lower one: a request is followed by a reply, and a reply by the datagrams that
have waited for it.  When everything that was said before an exchange has been
heard, only messages of lower ranks are left.
-/

namespace Sponge.NetworkSimulator

open Lib Throwing NetworkInterface

universe u v

variable {ι : Type u} {κ : Type v} [DecidableEq ι] {layout : Layout ι κ} {weight : ι → ℕ}

/-- What can follow from a message of the interface `i`, one message after another.
A datagram that has been heard can still be sent on by its receiver, and the weight
of an interface stands for what follows from its datagrams. -/
def Message.rank (weight : ι → ℕ) (i : ι) : Message ι → ℕ
  | .request _ => weight i + 3
  | .reply asker => weight asker + 2
  | .datagram _ _ => weight i + 1

/-- The ranks of the messages that are still to be heard are bounded on every
segment. -/
def Restrained (layout : Layout ι κ) (weight : ι → ℕ) (bound : κ → ℕ) (s : ι → Station ι)
    (said : ι → List (Message ι)) : Prop :=
  ∀ i k, layout.Linked i k → ∀ message ∈ (said i).drop ((s k).heard i),
    message.rank weight i ≤ bound (layout.segment i)

/-- Exactly those frames have been heard that have been taken off the queues. -/
def Aligned (layout : Layout ι κ) (s : ι → Station ι) : Prop :=
  ∀ i k, layout.Linked i k → (s k).heard i = (s i).popped.length

variable {s start : ι → Station ι} {said more : ι → List (Message ι)} {bound : κ → ℕ} {j k : ι}
  {message : Message ι}

omit [DecidableEq ι] in
theorem Message.rank_pos (weight : ι → ℕ) (i : ι) (message : Message ι) :
    0 < message.rank weight i := by
  cases message <;> exact Nat.succ_pos _

omit [DecidableEq ι] in
theorem mem_drop_of_getElem? {said : List (Message ι)} {n : ℕ} (next : said[n]? = some message) :
    message ∈ said.drop n := by
  obtain ⟨here, isMessage⟩ := List.getElem?_eq_some_iff.mp next
  rw [List.drop_eq_getElem_cons here, isMessage]
  exact List.mem_cons_self

/-- What is the same at one place is the same at all of them. -/
theorem update_keeps {α γ : Type*} (view : α → γ) {f : ι → α} {a : α} (same : view a = view (f k))
    (i : ι) : view (Function.update f k a i) = view (f i) := by
  by_cases isThis : i = k
  · subst isThis
    rw [Function.update_self, same]
  · rw [Function.update_of_ne isThis]

/-- A datagram is said only while the request or its reply is still to be heard. -/
theorem Represents.answers_lt (inv : Represents layout s said)
    (restrained : Restrained layout weight bound s said) (linked : layout.Linked j k)
    (next : (said j)[(s k).heard j]? = some message) {after : NetworkInterface}
    {answers : List (Message ι)}
    (heard : layout.Answers k j message (s k).interface.toNetworkInterface after answers) :
    ∀ answer ∈ answers, answer.rank weight k < bound (layout.segment k) := by
  intro answer membership
  rw [← linked.1]
  rcases heard.answers answer membership with ⟨rfl, target, rfl⟩ | ⟨⟨dgram, rfl⟩, timer, _⟩
  · exact restrained j k linked _ (mem_drop_of_getElem? next)
  · rcases (inv.hears k j linked.symm).asked timer with request | reply
    · have bounded := restrained k j linked.symm _ request
      rw [← linked.1] at bounded
      exact Nat.lt_of_succ_lt bounded
    · exact restrained j k linked _ reply

/-- In the middle of an exchange on the segment `c`.  The stations have heard `count`
more messages than at the start, and they have said `more`. -/
structure Underway (layout : Layout ι κ) (weight : ι → ℕ) (c : κ) (bound : ℕ)
    (start : ι → Station ι) (said : ι → List (Message ι)) (count : ι → ι → ℕ) (cleared : ι → ℕ)
    (s : ι → Station ι) (more : ι → List (Message ι)) : Prop where
  represents : Represents layout s fun i => said i ++ more i
  lower : ∀ i, ∀ message ∈ more i, layout.segment i = c ∧ message.rank weight i < bound
  heard : ∀ i k, (s k).heard i = (start k).heard i + count i k
  popped : ∀ i, (s i).popped.length = (start i).popped.length + cleared i
  submitted : ∀ i, (s i).submitted = (start i).submitted
  collected : ∀ i, (s i).collected = (start i).collected
  arrived : ∀ k, (s k).interface.datagramsOut = (start k).interface.datagramsOut ∨
    ∃ i, layout.Linked i k ∧ weight i < bound

section Exchange

/-- The station `k` has heard some more messages of the station `j`. -/
def countMore (count : ι → ι → ℕ) (j k : ι) (amount : ℕ) (i l : ι) : ℕ :=
  if i = j ∧ l = k then count i l + amount else count i l

theorem countMore_self (count : ι → ι → ℕ) (j k : ι) (amount : ℕ) :
    countMore count j k amount j k = count j k + amount := if_pos ⟨rfl, rfl⟩

theorem countMore_zero (count : ι → ι → ℕ) (j k : ι) : countMore count j k 0 = count := by
  funext i l
  exact ite_self _

theorem countMore_countMore (count : ι → ι → ℕ) (j k : ι) (amount later : ℕ) :
    countMore (countMore count j k amount) j k later = countMore count j k (amount + later) := by
  funext i l
  by_cases same : i = j ∧ l = k <;> simp [countMore, same, Nat.add_assoc]

variable {c : κ} {count : ι → ι → ℕ} {cleared : ι → ℕ}

theorem underway_start (represents : Represents layout start said) (weight : ι → ℕ) (c : κ)
    (bound : ℕ) : Underway layout weight c bound start said (fun _ _ => 0) (fun _ => 0) start
      fun _ => [] where
  represents := by simpa using represents
  lower _ := List.forall_mem_nil _
  heard _ _ := rfl
  popped _ := rfl
  submitted _ := rfl
  collected _ := rfl
  arrived _ := .inl rfl

theorem Underway.restrained
    (underway : Underway layout weight c (bound c) start said count cleared s more)
    (restrained : Restrained layout weight bound start said) :
    Restrained layout weight bound s fun i => said i ++ more i := by
  intro i k linked message membership
  rw [List.drop_append] at membership
  rcases List.mem_append.mp membership with old | new
  · rw [underway.heard, ← List.drop_drop] at old
    exact restrained i k linked message (List.mem_of_mem_drop old)
  · obtain ⟨here, lower⟩ := underway.lower i message (List.mem_of_mem_drop new)
    rw [here]
    exact Nat.le_of_lt lower

/-- The station `k` hears the next message of the station `j`. -/
theorem Underway.hear
    (underway : Underway layout weight c (bound c) start said count cleared s more)
    (restrained : Restrained layout weight bound start said) (linked : layout.Linked j k)
    (here : layout.segment j = c) (next : (said j)[(s k).heard j]? = some message) :
    ∃ more', Underway layout weight c (bound c) start said (countMore count j k 1) cleared
      (Function.update s k ((s k).hear j (layout.frame j message))) more' := by
  have sayable := (underway.represents.speaks j).sayable message
    (List.mem_append_left _ (List.mem_of_getElem? next))
  have spoken : (said j ++ more j)[(s k).heard j]? = some message := by
    rw [List.getElem?_append_left (List.getElem?_eq_some_iff.mp next).1, next]
  obtain ⟨_, datagramsOut, _⟩ := hear_eq (underway.represents.speaks k).sound linked sayable
  obtain ⟨new, heard, represents⟩ := underway.represents.hear linked spoken
  have lower := underway.represents.answers_lt (underway.restrained restrained) linked spoken heard
  refine ⟨Function.update more k (more k ++ new), ?_⟩
  refine ⟨?_, fun i => ?_, fun i l => ?_, fun i => ?_, fun i => ?_, fun i => ?_, fun l => ?_⟩
  · convert represents using 1
    funext i
    by_cases same : i = k
    · subst same
      simp
    · simp [same]
  · by_cases same : i = k
    · subst same
      rw [Function.update_self]
      refine List.forall_mem_append.mpr ⟨underway.lower i, fun answer membership => ?_⟩
      rw [← linked.1, here] at lower
      exact ⟨linked.1.symm.trans here, lower answer membership⟩
    · rw [Function.update_of_ne same]
      exact underway.lower i
  · by_cases receives : l = k
    · subst receives
      by_cases sends : i = j
      · subst sends
        simp [Station.hear, underway.heard, countMore, Nat.add_assoc]
      · simp [Station.hear, underway.heard, countMore, sends]
    · simp [receives, underway.heard, countMore]
  · exact (update_keeps (fun s : Station ι => s.popped.length) (by rfl) i).trans (underway.popped i)
  · exact (update_keeps Station.submitted (by rfl) i).trans (underway.submitted i)
  · exact (update_keeps Station.collected (by rfl) i).trans (underway.collected i)
  · by_cases same : l = k
    · subst same
      rw [Function.update_self, datagramsOut]
      cases message with
      | datagram receiver dgram =>
          have bounded := underway.restrained restrained j l linked _ (mem_drop_of_getElem? spoken)
          rw [here] at bounded
          exact .inr ⟨j, linked, bounded⟩
      | request | reply => simpa [Message.datagramTo] using underway.arrived l
    · rw [Function.update_of_ne same]
      exact underway.arrived l

/-- The oldest frames of a station are taken off its queue. -/
theorem Underway.clear {bound : ℕ} {amount : ℕ} {s' : Station ι}
    (underway : Underway layout weight c bound start said count cleared s more)
    (requeued : Requeued (s k) s') (popped : s'.popped.length = (s k).popped.length + amount)
    (collected : s'.collected = (s k).collected) :
    Underway layout weight c bound start said count
      (fun i => if i = k then cleared i + amount else cleared i) (Function.update s k s') more where
  represents := underway.represents.requeued (requeued_update requeued)
  lower := underway.lower
  heard i l := by rw [update_keeps Station.heard requeued.heard, underway.heard]
  popped i := by
    by_cases same : i = k
    · subst same
      rw [Function.update_self, popped, underway.popped, if_pos rfl, Nat.add_assoc]
    · rw [Function.update_of_ne same, if_neg same, underway.popped]
  submitted i := by rw [update_keeps Station.submitted requeued.submitted, underway.submitted]
  collected i := by rw [update_keeps Station.collected collected, underway.collected]
  arrived l := by
    have queue := requeued.collected
    rw [collected, List.append_cancel_left_eq] at queue
    rw [update_keeps (fun s : Station ι => s.interface.datagramsOut) queue]
    exact underway.arrived l

/-- At the end of an exchange, the ranks on its segment are lower. -/
theorem Underway.finished [DecidableEq κ]
    (underway : Underway layout weight c (bound c) start said count cleared s more)
    (aligned : Aligned layout start) (restrained : Restrained layout weight bound start said)
    (all : ∀ i k, layout.Linked i k → layout.segment i = c →
      count i k = cleared i ∧ (start i).popped.length + cleared i = (said i).length)
    (others : ∀ i k, layout.Linked i k → layout.segment i ≠ c → count i k = 0 ∧ cleared i = 0) :
    Aligned layout s ∧ Restrained layout weight (Function.update bound c (bound c - 1)) s
      fun i => said i ++ more i := by
  refine ⟨fun i k linked => ?_, fun i k linked message membership => ?_⟩
  · rw [underway.heard, underway.popped, aligned i k linked]
    by_cases here : layout.segment i = c
    · rw [(all i k linked here).1]
    · rw [(others i k linked here).1, (others i k linked here).2]
  · by_cases here : layout.segment i = c
    · obtain ⟨counted, whole⟩ := all i k linked here
      rw [underway.heard, aligned i k linked, counted, whole, List.drop_left] at membership
      rw [here, Function.update_self]
      exact Nat.le_sub_one_of_lt (underway.lower i message membership).2
    · rw [Function.update_of_ne here]
      exact underway.restrained restrained i k linked message membership

end Exchange

end Sponge.NetworkSimulator
