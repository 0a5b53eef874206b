import Sponge.TCPConnection.SenderInvariants
import Sponge.TCPSender.Retransmission

/-!
# After the end of a connection

A connection that has become inactive still has a retransmission timer, and
still looks for a SYN.  Here are exactly the calls that wake it up or make it
send.
-/

namespace Sponge.TCPConnection

open Lib

/-- An inactive connection lets the call pass: no SYN arrives, no timer expires
while a segment is outstanding, and the retransmissions stay below the limit. -/
def LetsPass (c : TCPConnection) : Call → Prop
  | .segmentReceived seg => seg.header.syn = false
  | .tick ms =>
      (if c.sender.retxTimer.expires ms = true ∧ c.sender.windowSize ≠ 0 then
          (c.sender.consecutiveRetransmissions + 1) % 2 ^ 32
        else c.sender.consecutiveRetransmissions) ≤ TCPConfig.maxRetxAttempts ∧
        (c.sender.retxTimer.expires ms = true → c.sender.outstandingSegments = [])
  | _ => False

instance (c : TCPConnection) (call : Call) : Decidable (c.LetsPass call) :=
  match call with
  | .segmentReceived _ => inferInstanceAs (Decidable (_ = _))
  | .tick _ => inferInstanceAs (Decidable (_ ∧ (_ → _)))
  | .connect | .write _ | .endInputStream | .readInbound _ | .popSegment => .isFalse id

theorem emitted_tick {c : TCPConnection} (drained : c.sender.segmentsOut = []) {ms : ℕ}
    (persists : c.givesUp ms = false) :
    c.emitted (.tick ms) =
      if c.sender.retxTimer.expires ms then
        c.sender.outstandingSegments.head?.toList.map (stamp c.receiver)
      else [] := by
  rw [emitted_eq (show Call.givesUp c (.tick ms) = false from persists), afterMethods,
    methodOps, receiverAfter, persists]
  simp only [Bool.false_eq_true, if_false, run_cons, run_nil, TCPSender.apply,
    TCPSender.tick_segmentsOut, drained, List.nil_append]
  split_ifs
  · rfl
  · rfl

theorem emitted_tick_eq_nil_iff {c : TCPConnection} (drained : c.sender.segmentsOut = [])
    (ms : ℕ) : c.emitted (.tick ms) = [] ↔ c.LetsPass (.tick ms) := by
  rw [LetsPass, ← TCPSender.tick_consecutiveRetransmissions]
  cases gives : c.givesUp ms with
  | true =>
      have exceeded := of_decide_eq_true gives
      have reset : c.emitted (.tick ms) ≠ [] := by
        rw [emitted, Call.givesUp, gives, if_pos rfl]
        exact List.cons_ne_nil _ _
      simp only [reset, false_iff]
      exact fun passes => Nat.not_lt.mpr passes.1 exceeded
  | false =>
      have below := Nat.not_lt.mp (of_decide_eq_false gives)
      rw [emitted_tick drained gives]
      simp only [below, true_and]
      cases c.sender.retxTimer.expires ms with
      | false => simp
      | true => cases c.sender.outstandingSegments <;> simp

theorem tick_inactive {c : TCPConnection} (inactive : c.isActive = false) (ms : ℕ) :
    (c.tick ms).isActive = false := by
  rw [tick_eq]
  cases c.givesUp ms with
  | true => rfl
  | false => simp [inactive]

theorem dead_step_iff {c : TCPConnection} (drained : c.sender.segmentsOut = [])
    (inactive : c.active = false) {call : Call} (external : call.isExternal = true) :
    (c.apply call).active = false ∧ (c.apply call).segmentsOut = c.segmentsOut ↔
      c.LetsPass call := by
  cases call with
  | segmentReceived seg =>
      rw [apply, segmentReceived_dead inactive]
      simp [active, LetsPass]
  | tick ms =>
      rw [segmentsOut_apply drained Call.noConfusion, List.append_right_eq_self,
        emitted_tick_eq_nil_iff drained]
      exact and_iff_right (tick_inactive inactive ms)
  | _ => contradiction

/-- A dead connection stays dead and silent under the calls that come from
outside exactly as long as it lets every one of them pass. -/
theorem stays_dead_iff (cfg : TCPConfig) (random : UInt32) (calls later : List Call)
    (external : ∀ call ∈ later, call.isExternal = true) :
    let c := run apply (new cfg random) calls
    c.active = false →
    ((∀ first, first <+: later → (run apply c first).active = false ∧
        (run apply c first).segmentsOut = c.segmentsOut) ↔
      Guarded apply LetsPass c later) := by
  intro c inactive
  have drained : c.sender.segmentsOut = [] := drained_run cfg random calls
  refine safe_throughout_iff (fun state : TCPConnection => state.sender.segmentsOut = [])
    (fun state => state.active = false ∧ state.segmentsOut = c.segmentsOut) ?_ ?_ drained
    ⟨inactive, rfl⟩ (guarded_of_forall c fun call membership _ => external call membership)
  · intro state call drained safely external
    rw [← safely.2]
    exact dead_step_iff drained safely.1 external
  · exact fun state call drained _ => drained_apply drained call

/-- A reset connection sends its SYN again when the timer expires, and a SYN
makes it active. -/
theorem reset_connection_wakes :
    let c := run apply (new {} 0)
      [.connect, .segmentReceived { header := { rst := true } }]
    c.active = false ∧
      (c.apply (.tick 1000)).segmentsOut.length = c.segmentsOut.length + 1 ∧
      (c.apply (.segmentReceived { header := { syn := true } })).active = true := by
  decide

theorem stays_dead_iff_after_reset :
    let later : List Call := [.tick 10, .segmentReceived { header := { ack := true } }]
    let c := run apply (new {} 0)
      [.connect, .segmentReceived { header := { rst := true } }]
    ((∀ first, first <+: later → (run apply c first).active = false ∧
        (run apply c first).segmentsOut = c.segmentsOut) ↔
      Guarded apply LetsPass c later) :=
  stays_dead_iff {} 0 [.connect, .segmentReceived { header := { rst := true } }]
    [.tick 10, .segmentReceived { header := { ack := true } }] (by decide) (by decide)

end Sponge.TCPConnection
