import Sponge.TCPConnection.Calls
import Sponge.TCPSender.Progress

/-!
# The sender inside a connection

A call runs at most one method of the sender that depends on its argument, and
then only routine ones.  An invariant of the sender therefore holds inside
every connection, whatever is called on it.
-/

namespace Sponge.TCPConnection

open Lib
open TCPSender (Op)

variable {c : TCPConnection}

/-- The method of the sender that depends on the argument of the call. -/
def Call.senderOp : Call → Option Op
  | .write data => some (.write data)
  | .endInputStream => some .endInput
  | .segmentReceived seg => some (.ackReceived seg.header.ackno seg.header.win)
  | .tick ms => some (.tick ms)
  | _ => none

def Call.carriesRst : Call → Bool
  | .segmentReceived seg => seg.header.rst
  | _ => false

/-- Does the call receive or send a reset? -/
def Call.resets (c : TCPConnection) (call : Call) : Bool := call.carriesRst || call.givesUp c

/-- The other methods that a call may run after it. -/
inductive Routine (resets : Bool) : Op → Prop where
  | fillWindow : Routine resets .fillWindow
  | sendEmptySegment : Routine resets .sendEmptySegment
  | popSegment : Routine resets .popSegment
  | setError : resets = true → Routine resets .setError

theorem processOps_routine (c : TCPConnection) (seg : TCPSegment) (resets : Bool) :
    ∃ rest, (∀ op ∈ rest, Routine resets op) ∧
      (c.processOps seg = rest ∨
        c.processOps seg = .ackReceived seg.header.ackno seg.header.win :: rest) := by
  refine ⟨if (c.receiver.segmentReceived seg).ackno.isSome then [.fillWindow] else [], ?_, ?_⟩
  · intro op membership
    split at membership
    · rw [List.mem_singleton.mp membership]
      exact .fillWindow
    · contradiction
  · rw [processOps]
    cases seg.header.ack
    · exact .inl rfl
    · exact .inr rfl

theorem replyOps_routine (c : TCPConnection) (seg : TCPSegment) (resets : Bool) :
    ∀ op ∈ c.replyOps seg, Routine resets op := by
  intro op membership
  rw [replyOps, List.mem_append] at membership
  rcases membership with reply | reply
  all_goals
    split at reply
    · rw [List.mem_singleton.mp reply]
      exact .sendEmptySegment
    · contradiction

theorem methodOps_routine (c : TCPConnection) (call : Call) :
    ∃ rest, (∀ op ∈ rest, Routine (call.resets c) op) ∧
      (c.methodOps call = rest ∨ ∃ op ∈ call.senderOp, c.methodOps call = op :: rest) := by
  have filled : ∀ op ∈ [Op.fillWindow], Routine (call.resets c) op := by
    intro op membership
    rw [List.mem_singleton.mp membership]
    exact .fillWindow
  have nothing : ∀ op ∈ ([] : List Op), Routine (call.resets c) op := by simp
  cases call with
  | connect => exact ⟨_, filled, .inl rfl⟩
  | write data => exact ⟨_, filled, .inr ⟨_, rfl, rfl⟩⟩
  | endInputStream => exact ⟨_, filled, .inr ⟨_, rfl, rfl⟩⟩
  | segmentReceived seg =>
      rw [methodOps]
      split_ifs with inactive rst
      · exact ⟨_, nothing, .inl rfl⟩
      · refine ⟨_, ?_, .inl rfl⟩
        intro op membership
        rw [List.mem_singleton.mp membership]
        exact .setError (Bool.or_eq_true_iff.mpr (.inl rst))
      · obtain ⟨rest, routine, shape⟩ := c.processOps_routine seg _
        refine ⟨rest ++ (c.process seg).replyOps seg, ?_, ?_⟩
        · intro op membership
          rcases List.mem_append.mp membership with processing | reply
          · exact routine op processing
          · exact (c.process seg).replyOps_routine seg _ op reply
        · rcases shape with plain | acked
          · exact .inl (by rw [plain])
          · exact .inr ⟨_, rfl, by rw [acked, List.cons_append]⟩
  | tick ms =>
      refine ⟨if c.givesUp ms then [.setError] else [], ?_, .inr ⟨_, rfl, rfl⟩⟩
      intro op membership
      split at membership
      next gives =>
        rw [List.mem_singleton.mp membership]
        exact .setError (Bool.or_eq_true_iff.mpr (.inr gives))
      next => contradiction
  | readInbound len => exact ⟨_, nothing, .inl rfl⟩
  | popSegment => exact ⟨_, nothing, .inl rfl⟩

/-- A guard holds along the methods of a call when it always lets the routine
ones through and admits the one that depends on the call. -/
theorem methodOps_guarded {guard : TCPSender → Op → Prop}
    {call : Call} (routine : ∀ s op, Routine (call.resets c) op → guard s op)
    (first : ∀ op ∈ call.senderOp, guard c.sender op) :
    Guarded TCPSender.apply guard c.sender (c.methodOps call) := by
  obtain ⟨rest, rests, plain | ⟨op, isFirst, special⟩⟩ := c.methodOps_routine call
  · rw [plain]
    exact guarded_of_forall _ fun op membership s => routine s op (rests op membership)
  · rw [special]
    refine ⟨first op isFirst, ?_⟩
    exact guarded_of_forall _ fun op membership s => routine s op (rests op membership)

/-- All that happens to the sender in a call, with the emptying of its queue. -/
def senderOps (c : TCPConnection) (call : Call) : List Op :=
  c.methodOps call ++ List.replicate (c.afterMethods call).segmentsOut.length .popSegment

theorem run_popSegments (s : TCPSender) (queue : List TCPSegment) (same : s.segmentsOut = queue) :
    run TCPSender.apply s (List.replicate queue.length .popSegment) =
      { s with segmentsOut := [] } := by
  induction queue generalizing s with
  | nil => rw [List.length_nil, List.replicate_zero, run_nil, ← same]
  | cons seg rest inductionHypothesis =>
      rw [List.length_cons, List.replicate_succ, run_cons, inductionHypothesis]
      · rfl
      · rw [TCPSender.apply, same, List.tail_cons]

theorem sender_run (drained : c.sender.segmentsOut = []) (call : Call) :
    (c.apply call).sender = run TCPSender.apply c.sender (c.senderOps call) := by
  rw [sender_apply drained, senderOps, run_append]
  exact (run_popSegments (c.afterMethods call) _ rfl).symm

theorem senderOps_guarded {guard : TCPSender → Op → Prop}
    {call : Call} (routine : ∀ s op, Routine (call.resets c) op → guard s op)
    (first : ∀ op ∈ call.senderOp, guard c.sender op) :
    Guarded TCPSender.apply guard c.sender (c.senderOps call) := by
  rw [senderOps, guarded_append]
  refine ⟨methodOps_guarded routine first, guarded_of_forall _ ?_⟩
  intro op membership s
  rw [List.eq_of_mem_replicate membership]
  exact routine s _ .popSegment

/-- An invariant of the sender that every method keeps, every call keeps. -/
theorem sender_invariant (inv : TCPSender → Prop) (guard : TCPSender → Op → Prop)
    (drained : c.sender.segmentsOut = []) {call : Call}
    (routine : ∀ s op, Routine (call.resets c) op → guard s op)
    (first : ∀ op ∈ call.senderOp, guard c.sender op) (holds : inv c.sender)
    (preserved : ∀ s op, inv s → guard s op → inv (s.apply op)) : inv (c.apply call).sender := by
  rw [sender_run drained]
  exact (senderOps_guarded routine first).invariant inv holds preserved

theorem later_apply (drained : c.sender.segmentsOut = []) (call : Call) :
    c.sender.Later (c.apply call).sender :=
  sender_invariant c.sender.Later (fun _ _ => True) drained (fun _ _ _ => trivial)
    (fun _ _ => trivial) (.refl _) fun s op before _ => before.trans (s.later_apply op)

theorem drained_apply (drained : c.sender.segmentsOut = []) (call : Call) :
    (c.apply call).sender.segmentsOut = [] := by
  rw [sender_apply drained]

/-- Between two calls nothing waits in the sender's queue. -/
theorem drained_run (cfg : TCPConfig) (random : UInt32) (calls : List Call) :
    (run apply (new cfg random) calls).sender.segmentsOut = [] :=
  run_invariant (fun c : TCPConnection => c.sender.segmentsOut = []) calls rfl
    fun _ call drained => drained_apply drained call

end Sponge.TCPConnection
