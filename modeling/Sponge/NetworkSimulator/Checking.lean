import Mathlib.Algebra.Order.Group.Multiset
import Sponge.NetworkSimulator.Exchange

/-!
# The comparison at the end of a simulation

A host is content if the datagrams that have come out of its interface and those
that it expects have the same bytes, in any order and each as often.
-/

namespace Sponge

open Lib Throwing

namespace IPv4Datagram

/-- The bytes of a datagram. -/
def bytes (dgram : IPv4Datagram) : Buffer := dgram.serialized.concatenate

/-- The bytes of some datagrams, in no order. -/
def allBytes (dgrams : List IPv4Datagram) : Multiset Buffer := dgrams.map bytes

@[simp]
theorem allBytes_nil : allBytes [] = 0 := rfl

@[simp]
theorem allBytes_cons (dgram : IPv4Datagram) (dgrams : List IPv4Datagram) :
    allBytes (dgram :: dgrams) = dgram.bytes ::ₘ allBytes dgrams := rfl

@[simp]
theorem allBytes_append (dgrams more : List IPv4Datagram) :
    allBytes (dgrams ++ more) = allBytes dgrams + allBytes more := by
  rw [allBytes, List.map_append]
  rfl

theorem allBytes_eq_zero {dgrams : List IPv4Datagram} : allBytes dgrams = 0 ↔ dgrams = [] := by
  rw [allBytes, Multiset.coe_eq_zero, List.map_eq_nil_iff]

end IPv4Datagram

namespace NetworkSimulator

open IPv4Datagram

namespace Host

variable {x dgram : IPv4Datagram} {expected : List IPv4Datagram} {h : Host}

theorem isSame_run (first : x.Serializable) (second : dgram.Serializable) :
    isSame x dgram = .ok (x.bytes == dgram.bytes) := by
  rw [isSame, first.serialize_ok, second.serialize_ok]
  rfl

theorem expecting_run (serializable : dgram.Serializable)
    (all : ∀ x ∈ expected, x.Serializable) :
    expecting dgram expected = .ok (decide (dgram.bytes ∈ allBytes expected)) := by
  induction expected with
  | nil => rfl
  | cons x rest inductionHypothesis =>
      rw [List.forall_mem_cons] at all
      have either : dgram.bytes ∈ allBytes (x :: rest) ↔
          dgram.bytes = x.bytes ∨ dgram.bytes ∈ allBytes rest := by
        rw [allBytes_cons, Multiset.mem_cons]
      rw [expecting, isSame_run all.1 serializable, inductionHypothesis all.2]
      by_cases same : x.bytes = dgram.bytes
      · rw [beq_iff_eq.mpr same, decide_eq_true (either.mpr (.inl same.symm))]
        rfl
      · have later := either.trans (or_iff_right (Ne.symm same))
        rw [beq_false_of_ne same, decide_eq_decide.mpr later]
        rfl

/-- A datagram that is expected is expected once less. -/
theorem removeExpectation_run (serializable : dgram.Serializable)
    (all : ∀ x ∈ expected, x.Serializable) (isExpected : dgram.bytes ∈ allBytes expected) :
    ∃ rest, removeExpectation dgram expected = .ok rest ∧ (∀ x ∈ rest, x.Serializable) ∧
      allBytes expected = dgram.bytes ::ₘ allBytes rest := by
  induction expected with
  | nil => exact absurd isExpected (Multiset.notMem_zero _)
  | cons x rest inductionHypothesis =>
      rw [List.forall_mem_cons] at all
      rw [removeExpectation, isSame_run all.1 serializable, allBytes_cons]
      by_cases same : x.bytes = dgram.bytes
      · refine ⟨rest, ?_, all.2, by rw [same]⟩
        rw [beq_iff_eq.mpr same]
        rfl
      · have later : dgram.bytes ∈ allBytes rest :=
          (Multiset.mem_cons.mp isExpected).resolve_left (Ne.symm same)
        obtain ⟨fewer, removed, serializable, less⟩ := inductionHypothesis all.2 later
        refine ⟨x :: fewer, ?_, List.forall_mem_cons.mpr ⟨all.1, serializable⟩, ?_⟩
        · rw [removed, beq_false_of_ne same]
          rfl
        · rw [less, allBytes_cons, Multiset.cons_swap]

/-- The host after some datagrams have been found among those that it expects. -/
def found (h : Host) (count : ℕ) (rest : List IPv4Datagram) : Host :=
  { h with
    expectingToReceive := rest
    interface := { h.interface with datagramsOut := h.interface.datagramsOut.drop count } }

theorem found_found (h : Host) (count later : ℕ) (rest last : List IPv4Datagram) :
    (h.found count rest).found later last = h.found (count + later) last := by
  rw [found, found, List.drop_drop]
  rfl

/-- One turn of the loop. -/
theorem checkOne_ends (serializable : dgram.Serializable)
    (all : ∀ x ∈ h.expectingToReceive, x.Serializable) :
    Ends
      (fun _ next => ∃ rest, next = h.found 1 rest ∧ (∀ x ∈ rest, x.Serializable) ∧
        allBytes h.expectingToReceive = dgram.bytes ::ₘ allBytes rest)
      (fun _ _ => dgram.bytes ∉ allBytes h.expectingToReceive) (checkOne dgram h) := by
  rw [checkOne, get_bind_run, expecting_run serializable all, ofExcept_ok_bind]
  by_cases isExpected : dgram.bytes ∈ allBytes h.expectingToReceive
  · obtain ⟨rest, removed, fewer, less⟩ := removeExpectation_run serializable all isExpected
    rw [decide_eq_true isExpected, removed]
    refine ⟨rest, ?_, fewer, less⟩
    rw [found, List.drop_one]
  · rw [decide_eq_false isExpected]
    exact isExpected

/-- The loop over the datagrams that have come out. -/
theorem checkLoop_ends {queue : List IPv4Datagram} (queued : ∀ x ∈ queue, x.Serializable)
    (all : ∀ x ∈ h.expectingToReceive, x.Serializable) :
    Ends
      (fun _ next => ∃ rest, next = h.found queue.length rest ∧
        allBytes h.expectingToReceive = allBytes queue + allBytes rest)
      (fun _ _ => ¬ allBytes queue ≤ allBytes h.expectingToReceive)
      (queue.forM checkOne h) := by
  induction queue generalizing h with
  | nil => exact ⟨h.expectingToReceive, rfl, (zero_add _).symm⟩
  | cons dgram queue inductionHypothesis =>
      rw [List.forall_mem_cons] at queued
      have first := checkOne_ends queued.1 all
      rw [allBytes_cons]
      show Ends _ _ ((checkOne dgram >>= fun _ => queue.forM checkOne) h)
      cases ran : checkOne dgram h with
      | error e next =>
          rw [ran] at first
          rw [bind_of_error ran]
          exact fun le => first (Multiset.mem_of_le le (Multiset.mem_cons_self _ _))
      | ok _ next =>
          rw [ran] at first
          obtain ⟨rest, rfl, fewer, less⟩ := first
          rw [bind_of_ok ran, less]
          refine (inductionHypothesis queued.2 fewer).imp ?_ ?_
          · rintro _ _ ⟨last, rfl, remaining⟩
            refine ⟨last, ?_, ?_⟩
            · rw [found_found, List.length_cons, Nat.add_comm]
            · rw [Multiset.cons_add]
              exact congrArg _ remaining
          · intro _ _ tooMany le
            exact tooMany ((Multiset.cons_le_cons_iff _).mp le)

/-- The datagrams that have come out are those that are expected. -/
def Content (h : Host) : Prop :=
  allBytes h.interface.datagramsOut = allBytes h.expectingToReceive

/-- A host that has found what it expects. -/
def checked (h : Host) : Host :=
  { h with
    expectingToReceive := []
    interface := { h.interface with datagramsOut := [] } }

/-- The check returns for a host that is content, and for no other. -/
theorem check_ends (queued : ∀ x ∈ h.interface.datagramsOut, x.Serializable)
    (all : ∀ x ∈ h.expectingToReceive, x.Serializable) :
    Ends (fun _ next => h.Content ∧ next = h.checked) (fun _ _ => ¬ h.Content) (check h) := by
  have loop := checkLoop_ends queued all
  rw [check, get_bind_run]
  cases ran : h.interface.datagramsOut.forM checkOne h with
  | error e next =>
      rw [ran] at loop
      rw [bind_of_error ran]
      exact fun content => loop content.le
  | ok _ next =>
      rw [ran] at loop
      obtain ⟨rest, rfl, remaining⟩ := loop
      rw [bind_of_ok ran, get_bind_run]
      cases rest with
      | nil =>
          rw [allBytes_nil, add_zero] at remaining
          refine ⟨remaining.symm, ?_⟩
          rw [found, List.drop_length]
          rfl
      | cons missing rest =>
          intro content
          rw [← content, left_eq_add, allBytes_eq_zero] at remaining
          contradiction

end Host

section Order

variable {n : Network}

theorem onHost_ends {name : HostName} {method : Host.Method Unit} {post : Unit → Host → Prop}
    {thrown : Exception → Host → Prop} (ends : Ends post thrown (method (n.hosts name))) :
    Ends (fun a next => ∃ h, post a h ∧ next = { n with hosts := Function.update n.hosts name h })
      (fun e next => ∃ h, thrown e h ∧ next = { n with hosts := Function.update n.hosts name h })
      (Network.onHost name method n) := by
  rw [Network.onHost]
  exact Ends.within ends

/-- The network when some of the hosts have been checked. -/
def Network.checked (n : Network) (done : List HostName) : Network :=
  { n with hosts := fun name => if name ∈ done then (n.hosts name).checked else n.hosts name }

/-- The loop over the hosts.  A host that comes again has nothing left to check. -/
theorem checks_ends (order : List HostName)
    (queued : ∀ name, ∀ x ∈ (n.hosts name).interface.datagramsOut, x.Serializable)
    (all : ∀ name, ∀ x ∈ (n.hosts name).expectingToReceive, x.Serializable) :
    Ends (fun _ next => (∀ name ∈ order, (n.hosts name).Content) ∧ next = n.checked order)
      (fun _ _ => ∃ name, ¬ (n.hosts name).Content)
      (order.forM (fun name => Network.onHost name Host.check) n) := by
  let inv (done : List HostName) (now : Network) : Prop :=
    (∀ name ∈ done, (n.hosts name).Content) ∧ now = n.checked done
  have begun : inv [] n := ⟨List.forall_mem_nil _, by simp [Network.checked]⟩
  have loop : Triple (inv []) (order.forM fun name => Network.onHost name Host.check)
      (fun _ => inv order) fun _ _ => ∃ name, ¬ (n.hosts name).Content := by
    refine Triple.forM inv ?_
    rintro done name rest - _ ⟨content, rfl⟩
    have here : (n.checked done).hosts name =
        if name ∈ done then (n.hosts name).checked else n.hosts name := rfl
    have ends : Ends (fun _ next => (n.hosts name).Content ∧ next = (n.hosts name).checked)
        (fun _ _ => ¬ (n.hosts name).Content) (Host.check ((n.checked done).hosts name)) := by
      rw [here]
      split
      · next again => exact ⟨content name again, rfl⟩
      · exact Host.check_ends (queued name) (all name)
    refine (onHost_ends ends).imp ?_ ?_
    · rintro _ _ ⟨_, ⟨agrees, rfl⟩, rfl⟩
      refine ⟨List.forall_mem_append.mpr ⟨content, List.forall_mem_singleton.mpr agrees⟩, ?_⟩
      simp only [Network.checked, Network.mk.injEq, true_and]
      funext other
      by_cases same : other = name
      · subst same
        simp
      · simp [same]
    · rintro _ _ ⟨_, differs, _⟩
      exact ⟨name, differs⟩
  exact loop n begun

end Order

end NetworkSimulator

end Sponge
