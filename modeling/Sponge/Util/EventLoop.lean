import Sponge.Lib.Run
import Sponge.Util.FileDescriptor

/-!
# EventLoop

The loop waits for file descriptors and runs the callbacks of those that are
ready.  What a callback does to the program is a computation on the program's
state; what `poll` reports, and what the system calls inside the callbacks
answer, are arguments of each turn.
-/

namespace Sponge

open Lib Throwing

inductive Direction where
  | input
  | output
  deriving DecidableEq, Repr

namespace EventLoop

/-- A condition and a callback that the loop handles. -/
structure Rule (σ κ : Type) where
  fd : σ → FileDescriptor
  direction : Direction
  callback : κ → EStateM Exception σ Unit
  interest : σ → Bool := fun _ => true
  cancel : EStateM Exception σ Unit := pure ()

/-- The status of a descriptor that `poll` reports. -/
structure Revents where
  error : Bool := false
  hangup : Bool := false
  input : Bool := false
  output : Bool := false
  deriving DecidableEq, Repr

/-- What a call of `poll` answers. -/
inductive Poll where
  | timeout
  /-- A signal was caught. -/
  | interrupted
  /-- Any other error; it is not looked at, and nothing is reported. -/
  | failed
  | ready (revents : List Revents)
  deriving DecidableEq, Repr

inductive Result where
  | success
  | timeout
  | exit
  deriving DecidableEq, Repr

end EventLoop

/-- All rules that have been added and not cancelled. -/
abbrev EventLoop (σ κ : Type) := List (EventLoop.Rule σ κ)

namespace EventLoop

variable {σ κ : Type}

def addRule (rules : EventLoop σ κ) (rule : Rule σ κ) : EventLoop σ κ := rules ++ [rule]

namespace Rule

/-- The number of times the descriptor has been read or written. -/
def serviceCount (rule : Rule σ κ) (state : σ) : UInt32 :=
  match rule.direction with
  | .input => (rule.fd state).readCount
  | .output => (rule.fd state).writeCount

/-- Is nothing more to be read, or the descriptor closed? -/
def isDefunct (rule : Rule σ κ) (state : σ) : Bool :=
  (rule.direction == .input && (rule.fd state).eof) || (rule.fd state).closed

/-- Run the callback, and check that it did something about the descriptor. -/
def service (rule : Rule σ κ) (answers : κ) : EStateM Exception σ Unit := do
  let countBefore := rule.serviceCount (← get)
  rule.callback answers
  let state ← get
  if countBefore = rule.serviceCount state ∧ rule.interest state = true then
    throw (.runtimeError
      "EventLoop: busy wait detected: callback did not read/write fd and is still interested")

/-- A callback after which the rule is not interested, or which has read or written
the descriptor, is not taken for a busy wait. -/
theorem service_triple {rule : Rule σ κ} {answers : κ} {pre post : σ → Prop}
    {thrown : Exception → σ → Prop}
    (calls : ∀ start, pre start → Ends (fun _ state => post state ∧
      (rule.interest state = true → rule.serviceCount state ≠ rule.serviceCount start)) thrown
      (rule.callback answers start)) :
    Triple pre (rule.service answers) (fun _ => post) thrown := by
  intro start holds
  have ends := calls start holds
  rw [service, get_bind_run]
  cases ran : rule.callback answers start with
  | error e state =>
      rw [ran] at ends
      rw [bind_of_error ran]
      exact ends
  | ok done state =>
      rw [ran] at ends
      rw [bind_of_ok ran, get_bind_run, if_neg fun busy => ends.2 busy.2 busy.1.symm]
      exact ends.1

theorem keeps_service {γ : Type*} {view : σ → γ} {rule : Rule σ κ} {answers : κ}
    (keeps : Keeps view (rule.callback answers)) : Keeps view (rule.service answers) :=
  keeps_get.bind fun _ => keeps.bind fun _ => keeps_get.bind fun _ =>
    (keeps_throw _).branch (keeps_pure _)

end Rule

def Revents.isReady (revents : Revents) : Direction → Bool
  | .input => revents.input
  | .output => revents.output

/-- Set up what is polled for each rule: rules that are defunct are cancelled, and
those without interest are polled for errors only. -/
def setUp : EventLoop σ κ → EStateM Exception σ (List (Rule σ κ × Bool))
  | [] => return []
  | rule :: rest => do
      if rule.isDefunct (← get) then
        rule.cancel
        setUp rest
      else
        let polled := rule.interest (← get)
        return (rule, polled) :: (← setUp rest)

/-- Go through the poll results; the rules that are left. -/
def goThrough (answers : κ) :
    List (Rule σ κ × Bool) → List Revents → EStateM Exception σ (EventLoop σ κ)
  | [], _ => return []
  | (rule, polled) :: rest, reported => do
      let revents := reported.headD {}
      if revents.error then throw (.runtimeError "EventLoop: error on polled file descriptor")
      let pollReady := polled && revents.isReady rule.direction
      if revents.hangup && polled && !pollReady then
        rule.cancel
        goThrough answers rest reported.tail
      else
        if pollReady then rule.service answers
        return rule :: (← goThrough answers rest reported.tail)

/-- Wait for the descriptors and run the callbacks of those that are ready. -/
def waitNextEvent (rules : EventLoop σ κ) (poll : Poll) (answers : κ) :
    EStateM Exception σ (Result × EventLoop σ κ) := do
  let polls ← setUp rules
  let rules := polls.map Prod.fst
  if !polls.any Prod.snd then return (.exit, rules)
  match poll with
  | .timeout => return (.timeout, rules)
  | .interrupted => return (.exit, rules)
  | .failed => return (.success, ← goThrough answers polls [])
  | .ready revents => return (.success, ← goThrough answers polls revents)

/-- What the rules need so that `before` holds until all of them are set up, and
`inv` from then on; both may speak of the rules that are left.  A rule is asked for
its interest before the callbacks run, so what is known of a rule with interest,
`ready`, and of one without, `idle`, must outlast what the other rules do. -/
structure Sound {ι : Type} (rule : ι → Rule σ κ) (before inv : List ι → σ → Prop)
    (ready idle : ι → σ → Prop) (thrown : Exception → σ → Prop) (answers : κ) (all : List ι) :
    Prop where
  weaken : ∀ names state, before names state → inv names state
  interested : ∀ names i state, before names state → i ∈ names → (rule i).isDefunct state = false →
    (rule i).interest state = true → ready i state
  resting : ∀ names i state, before names state → i ∈ names → (rule i).isDefunct state = false →
    (rule i).interest state = false → idle i state
  cancelsFirst : ∀ done i rest, (done ++ i :: rest).Sublist all →
    Triple (before (done ++ i :: rest)) (rule i).cancel (fun _ => before (done ++ rest)) thrown
  cancels : ∀ done i rest, (done ++ i :: rest).Sublist all →
    Triple (inv (done ++ i :: rest)) (rule i).cancel (fun _ => inv (done ++ rest)) thrown
  serves : ∀ done i rest, (done ++ i :: rest).Sublist all →
    Triple (fun state => inv (done ++ i :: rest) state ∧ ready i state)
      ((rule i).service answers) (fun _ => inv (done ++ i :: rest)) thrown
  cancelledLater : all.Pairwise fun first later => ∀ state,
    (ready first state → ready first (finalState ((rule later).cancel state))) ∧
      (idle first state → idle first (finalState ((rule later).cancel state)))
  cancelledBefore : all.Pairwise fun first later =>
    ∀ state, ready later state → ready later (finalState ((rule first).cancel state))
  servedBefore : all.Pairwise fun first later =>
    ∀ state, ready first state → ready later state →
      ready later (finalState ((rule first).service answers state))

section Sound

variable {ι : Type} {rule : ι → Rule σ κ} {before inv : List ι → σ → Prop}
  {ready idle : ι → σ → Prop} {thrown : Exception → σ → Prop} {answers : κ} {all : List ι}

/-- What every cancellation keeps, the set-up keeps. -/
theorem setUp_keeps {kept : σ → Prop} {names : List ι}
    (cancels : ∀ i ∈ names, ∀ state, kept state → kept (finalState ((rule i).cancel state)))
    {state : σ} (holds : kept state) : kept (finalState (setUp (names.map rule) state)) := by
  induction names generalizing state with
  | nil => exact holds
  | cons i rest inductionHypothesis =>
      have later {state : σ} (holds : kept state) := inductionHypothesis
        (fun other membership => cancels other (List.mem_cons_of_mem _ membership)) holds
      rw [List.map_cons, setUp, get_bind_run, branch_run]
      split
      · have cancelled := cancels i List.mem_cons_self state holds
        cases ran : (rule i).cancel state with
        | error e next =>
            rw [ran] at cancelled
            rw [bind_of_error ran]
            exact cancelled
        | ok done next =>
            rw [ran] at cancelled
            rw [bind_of_ok ran]
            exact later cancelled
      · have kept := later holds
        rw [get_bind_run]
        cases ran : setUp (rest.map rule) state with
        | error e next =>
            rw [ran] at kept
            rw [bind_of_error ran]
            exact kept
        | ok polls next =>
            rw [ran] at kept
            rw [bind_of_ok ran]
            exact kept

/-- What is polled, by the names of the rules. -/
def named (rule : ι → Rule σ κ) (polls : List (ι × Bool)) : List (Rule σ κ × Bool) :=
  polls.map fun poll => (rule poll.1, poll.2)

theorem named_fst (rule : ι → Rule σ κ) (polls : List (ι × Bool)) :
    (named rule polls).map Prod.fst = (polls.map Prod.fst).map rule := by
  rw [named, List.map_map, List.map_map]
  rfl

/-- What is known of the rules that were set up. -/
def Asked (ready idle : ι → σ → Prop) (polls : List (ι × Bool)) (state : σ) : Prop :=
  ∀ poll ∈ polls, (poll.2 = true → ready poll.1 state) ∧ (poll.2 = false → idle poll.1 state)

theorem Sound.setUp_triple (sound : Sound rule before inv ready idle thrown answers all)
    (done : List ι) {names : List ι} (among : (done ++ names).Sublist all) :
    Triple (before (done ++ names)) (setUp (names.map rule))
      (fun polls state => ∃ polled, polls = named rule polled ∧
        (polled.map Prod.fst).Sublist names ∧ before (done ++ polled.map Prod.fst) state ∧
        Asked ready idle polled state)
      thrown := by
  induction names generalizing done with
  | nil => exact fun state holds => ⟨[], rfl, List.Sublist.refl [], holds, List.forall_mem_nil _⟩
  | cons i rest inductionHypothesis =>
      rw [List.map_cons, setUp]
      refine triple_get_bind fun state holds => ?_
      by_cases defunct : (rule i).isDefunct state = true
      · rw [if_pos defunct]
        have fewer : (done ++ rest).Sublist all :=
          ((List.sublist_cons_self i rest).append_left done).trans among
        have cancels := sound.cancelsFirst done i rest among
        refine (cancels.bind fun _ => inductionHypothesis done fewer).weaken ?_ ?_
        · rintro now rfl
          exact holds
        · rintro polls now ⟨polled, same, left, after, asked⟩
          exact ⟨polled, same, left.cons i, after, asked⟩
      · rw [if_neg defunct]
        rintro now rfl
        have split : done ++ [i] ++ rest = done ++ i :: rest := List.append_cons done i rest ▸ rfl
        have later := inductionHypothesis (done ++ [i]) (split ▸ among)
        rw [split] at later
        rw [get_bind_run]
        cases others : setUp (rest.map rule) now with
        | error e next =>
            rw [bind_of_error others]
            exact later.of_error holds others
        | ok polls next =>
            rw [bind_of_ok others]
            obtain ⟨polled, same, left, after, asked⟩ := later.of_ok holds others
            refine ⟨(i, (rule i).interest now) :: polled, ?_, left.cons_cons i, ?_, ?_⟩
            · rw [same]
              rfl
            · rw [List.map_cons, List.append_cons]
              exact after
            intro poll membership
            rcases List.mem_cons.mp membership with rfl | membership
            · -- the rule was asked before the rules behind it were set up
              have here : i ∈ done ++ i :: rest := List.mem_append_right done List.mem_cons_self
              have working : (rule i).isDefunct now = false := Bool.eq_false_of_not_eq_true defunct
              have outlasts := List.pairwise_cons.mp
                (sound.cancelledLater.sublist ((List.sublist_append_right done _).trans among))
              constructor
              · intro interest
                have kept := setUp_keeps (fun other member state => (outlasts.1 other member state).1)
                  (sound.interested _ i now holds here working interest)
                rwa [others] at kept
              · intro interest
                have kept := setUp_keeps (fun other member state => (outlasts.1 other member state).2)
                  (sound.resting _ i now holds here working interest)
                rwa [others] at kept
            · exact asked poll membership

/-- The callbacks of all rules that are polled can run. -/
def Runnable (ready : ι → σ → Prop) (polls : List (ι × Bool)) (state : σ) : Prop :=
  ∀ poll ∈ polls, poll.2 = true → ready poll.1 state

theorem Runnable.tail {poll : ι × Bool} {polls : List (ι × Bool)} {state : σ}
    (runnable : Runnable ready (poll :: polls) state) : Runnable ready polls state :=
  fun other membership => runnable other (List.mem_cons_of_mem poll membership)

/-- If an error is reported, the state in which the loop gives up is allowed. -/
def Allowed (inv : List ι → σ → Prop) (thrown : Exception → σ → Prop) (reported : List Revents) :
    Prop :=
  ∀ revents ∈ reported, revents.error = true → ∀ names state, inv names state →
    thrown (.runtimeError "EventLoop: error on polled file descriptor") state

theorem Sound.goThrough_triple (sound : Sound rule before inv ready idle thrown answers all)
    (done : List ι) {polls : List (ι × Bool)} (among : (done ++ polls.map Prod.fst).Sublist all)
    {reported : List Revents} (allowed : Allowed inv thrown reported) :
    Triple (fun state => inv (done ++ polls.map Prod.fst) state ∧ Runnable ready polls state)
      (goThrough answers (named rule polls) reported)
      (fun left state => ∃ fewer : List ι, left = fewer.map rule ∧
        fewer.Sublist (polls.map Prod.fst) ∧ inv (done ++ fewer) state) thrown := by
  induction polls generalizing done reported with
  | nil => exact fun state holds => ⟨[], rfl, List.Sublist.refl [], holds.1⟩
  | cons poll rest inductionHypothesis =>
      obtain ⟨i, polled⟩ := poll
      rw [List.map_cons] at among ⊢
      have still : Allowed inv thrown reported.tail :=
        fun revents membership => allowed revents (List.mem_of_mem_tail membership)
      have order : (i :: rest.map Prod.fst).Sublist all :=
        (List.sublist_append_right done _).trans among
      have shorter : named rule ((i, polled) :: rest) = (rule i, polled) :: named rule rest := rfl
      simp only [shorter, goThrough]
      by_cases error : (reported.headD {}).error = true
      · rw [if_pos error]
        cases reported with
        | nil => cases error
        | cons head tail =>
            exact fun state holds => allowed head List.mem_cons_self error _ state holds.1
      rw [if_neg error]
      by_cases hungUp : ((reported.headD {}).hangup && polled &&
          !(polled && (reported.headD {}).isReady (rule i).direction)) = true
      · rw [if_pos hungUp]
        have fewer : (done ++ rest.map Prod.fst).Sublist all :=
          ((List.sublist_cons_self i _).append_left done).trans among
        have cancels := (sound.cancels done i _ among).and_kept fun state _
            (runnable : Runnable ready rest state) other membership asked =>
          (List.pairwise_cons.mp (sound.cancelledBefore.sublist order)).1 other.1
            (List.mem_map_of_mem membership) state (runnable other membership asked)
        refine (cancels.bind fun _ => inductionHypothesis done fewer still).weaken
          (fun _ holds => ⟨holds.1, holds.2.tail⟩) ?_
        rintro left state ⟨fewer, same, sublist, after⟩
        exact ⟨fewer, same, sublist.cons i, after⟩
      rw [if_neg hungUp]
      have split : done ++ [i] ++ rest.map Prod.fst = done ++ i :: rest.map Prod.fst :=
        List.append_cons done i _ ▸ rfl
      have later := inductionHypothesis (done ++ [i]) (split ▸ among) still
      rw [split] at later
      have keepsRule : Triple
          (fun state => inv (done ++ i :: rest.map Prod.fst) state ∧ Runnable ready rest state)
          (do return rule i :: (← goThrough answers (named rule rest) reported.tail))
          (fun left state => ∃ fewer : List ι, left = fewer.map rule ∧
            fewer.Sublist (i :: rest.map Prod.fst) ∧ inv (done ++ fewer) state) thrown := by
        refine later.bind_pure ?_
        rintro left state ⟨fewer, rfl, sublist, after⟩
        exact ⟨i :: fewer, rfl, sublist.cons_cons i, List.append_cons done i fewer ▸ after⟩
      by_cases served : (polled && (reported.headD {}).isReady (rule i).direction) = true
      · rw [if_pos served]
        have serves := (sound.serves done i _ among).and_kept fun state holds
            (runnable : Runnable ready rest state) other membership asked =>
          (List.pairwise_cons.mp (sound.servedBefore.sublist order)).1 other.1
            (List.mem_map_of_mem membership) state holds.2 (runnable other membership asked)
        refine (serves.bind fun _ => keepsRule).weaken ?_ fun _ _ => id
        rintro state ⟨holds, runnable⟩
        have asked : polled = true := (Bool.and_eq_true_iff.mp served).1
        exact ⟨⟨holds, runnable _ List.mem_cons_self asked⟩, runnable.tail⟩
      · rw [if_neg served]
        exact keepsRule.weaken (fun _ holds => ⟨holds.1, holds.2.tail⟩) fun _ _ => id

/-- The rule for a turn of the loop: the invariant holds of the rules that are left,
the loop throws only where it may, and it tells its caller to exit only if `poll`
was interrupted or none of the rules has any interest. -/
theorem Sound.waitNextEvent_triple (sound : Sound rule before inv ready idle thrown answers all)
    {names : List ι} (among : names.Sublist all) {poll : Poll}
    (allowed : ∀ revents, poll = .ready revents → Allowed inv thrown revents) :
    Triple (before names) (waitNextEvent (names.map rule) poll answers)
      (fun result state => ∃ fewer : List ι, result.2 = fewer.map rule ∧ fewer.Sublist names ∧
        inv fewer state ∧
        (result.1 = .exit → poll = .interrupted ∨ ∀ i ∈ fewer, idle i state)) thrown := by
  intro state holds
  cases setup : setUp (names.map rule) state with
  | error e next =>
      rw [waitNextEvent, bind_of_error setup]
      exact (sound.setUp_triple [] among).of_error holds setup
  | ok polls next =>
      obtain ⟨polled, rfl, left, after, asked⟩ := (sound.setUp_triple [] among).of_ok holds setup
      have holdsNow := sound.weaken _ next after
      have runnable : Runnable ready polled next := fun poll membership => (asked poll membership).1
      have through {reported : List Revents} (allowed : Allowed inv thrown reported) :
          Triple (fun state => inv (polled.map Prod.fst) state ∧ Runnable ready polled state)
            (do return (Result.success, ← goThrough answers (named rule polled) reported))
            (fun result state => ∃ fewer : List ι, result.2 = fewer.map rule ∧
              fewer.Sublist names ∧ inv fewer state ∧
              (result.1 = .exit → poll = .interrupted ∨ ∀ i ∈ fewer, idle i state)) thrown := by
        refine (sound.goThrough_triple [] (left.trans among) allowed).bind_pure ?_
        rintro rules state ⟨fewer, rfl, sublist, kept⟩
        exact ⟨fewer, rfl, sublist.trans left, kept, Result.noConfusion⟩
      rw [waitNextEvent, bind_of_ok setup]
      by_cases nothing : (!(named rule polled).any Prod.snd) = true
      · rw [if_pos nothing]
        refine ⟨_, named_fst rule polled, left, holdsNow, fun _ => .inr ?_⟩
        intro i membership
        obtain ⟨poll, isPolled, rfl⟩ := List.mem_map.mp membership
        refine (asked poll isPolled).2 ?_
        rw [Bool.not_eq_true', List.any_eq_false] at nothing
        exact Bool.eq_false_of_not_eq_true
          (nothing (rule poll.1, poll.2) (List.mem_map_of_mem isPolled))
      rw [if_neg nothing]
      cases poll with
      | timeout => exact ⟨_, named_fst rule polled, left, holdsNow, Result.noConfusion⟩
      | interrupted => exact ⟨_, named_fst rule polled, left, holdsNow, fun _ => .inl rfl⟩
      | failed => exact through (List.forall_mem_nil _) next ⟨holdsNow, runnable⟩
      | ready revents => exact through (allowed revents rfl) next ⟨holdsNow, runnable⟩

end Sound

end EventLoop

end Sponge
