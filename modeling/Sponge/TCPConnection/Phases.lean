import Sponge.Network.Closing
import Sponge.Network.Trackers
import Sponge.TCPSender.Phases

/-!
# The phases of a connection

Whatever arrives, neither the outbound nor the inbound half of a connection
returns to a phase that it has left: no handshake is undone, no closed stream
is opened again, and an error stays.
-/

namespace Sponge.TCPReceiver

variable {r r' : TCPReceiver}

/-- The summary in the words of the protocol. -/
theorem summary_eq (noError : r.streamOut.error = false) :
    TCPState.receiverSummary r =
      if r.isn = none then .listen
      else if r.streamOut.inputEnded then .finRecv
      else .synRecv := by
  rw [TCPState.receiverSummary, noError, if_neg Bool.false_ne_true, ackno]
  cases r.isn <;> rfl

theorem summary_of_error (error : r.streamOut.error = true) :
    TCPState.receiverSummary r = .error := by
  rw [TCPState.receiverSummary, if_pos error]

theorem rank_le_error (summary : TCPReceiverStateSummary) :
    summary.rank ≤ TCPReceiverStateSummary.error.rank := by
  cases summary <;> decide

theorem Later.rank_le (later : r.Later r')
    (error : r.streamOut.error = true → r'.streamOut.error = true) :
    (TCPState.receiverSummary r).rank ≤ (TCPState.receiverSummary r').rank := by
  by_cases error' : r'.streamOut.error = true
  · rw [summary_of_error error']
    exact rank_le_error _
  rw [summary_eq (Bool.eq_false_iff.mpr (mt error error')),
    summary_eq (Bool.eq_false_iff.mpr error')]
  have ended := later.inputEnded
  cases known : r.isn with
  | none => exact Nat.zero_le _
  | some isn =>
      rw [later.isn isn known]
      simp only [reduceCtorEq, if_false]
      split_ifs <;> first | decide | simp_all

end Sponge.TCPReceiver

namespace Sponge.TCPConnection

open Lib

variable {c : TCPConnection}

theorem previousAckno_le_apply (drained : c.sender.segmentsOut = []) (call : Call) :
    c.sender.previousAckno ≤ (c.apply call).sender.previousAckno :=
  sender_invariant (fun s => c.sender.previousAckno ≤ s.previousAckno) (fun _ _ => True) drained
    (fun _ _ _ => trivial) (fun _ _ => trivial) (Nat.le_refl _)
    fun s op before _ => Nat.le_trans before (s.previousAckno_le_apply op)

theorem senderRank_apply (drained : c.sender.segmentsOut = []) (inv : c.sender.Handshaken)
    {call : Call} (bounded : c.Bounded call) :
    (TCPState.senderSummary c.sender).rank ≤
      (TCPState.senderSummary (c.apply call).sender).rank := by
  have both : (c.apply call).sender.Handshaken ∧ (TCPState.senderSummary c.sender).rank ≤
      (TCPState.senderSummary (c.apply call).sender).rank := by
    refine sender_invariant (fun s => s.Handshaken ∧ (TCPState.senderSummary c.sender).rank ≤
      (TCPState.senderSummary s).rank) TCPSender.Careful drained careful_of_routine
      bounded.careful ⟨inv, Nat.le_refl _⟩ ?_
    intro s op known careful
    exact ⟨.apply s op known.1 careful,
      Nat.le_trans known.2 (TCPSender.Handshaken.rank_apply s op known.1 careful)⟩
  exact both.2

/-- One call moves both halves forward, or not at all. -/
theorem precedes_apply (drained : c.sender.segmentsOut = []) (inv : c.sender.Handshaken)
    {call : Call} (bounded : c.Bounded call) : c.state.Precedes (c.apply call).state :=
  ⟨senderRank_apply drained inv bounded,
    (c.receiver_later call).rank_le fun error => error_apply error call⟩

/-- In every run, with whatever segments, neither half of a connection goes back
to an earlier phase, as long as the application does not write after the end of its
stream and fewer than `2^31` sequence numbers are in flight. -/
theorem phases_never_go_back (cfg : TCPConfig) (representable : cfg.sendCapacity < 2 ^ 64)
    (random : UInt32) (calls later : List Call)
    (bounded : Guarded apply Bounded (new cfg random) (calls ++ later)) :
    (run apply (new cfg random) calls).state.Precedes
      (run apply (new cfg random) (calls ++ later)).state := by
  let before := run apply (new cfg random) calls
  obtain ⟨first, second⟩ := (guarded_append _ calls later).mp bounded
  have kept (c : TCPConnection) (call : Call)
      (inv : c.sender.segmentsOut = [] ∧ c.sender.Handshaken) (bounded : c.Bounded call) :
      (c.apply call).sender.segmentsOut = [] ∧ (c.apply call).sender.Handshaken :=
    ⟨drained_apply inv.1 call, bounded.handshaken inv.1 inv.2⟩
  have inv : before.sender.segmentsOut = [] ∧ before.sender.Handshaken :=
    first.invariant (fun c => c.sender.segmentsOut = [] ∧ c.sender.Handshaken)
      ⟨rfl, TCPSender.handshaken_new representable _ _ _⟩ kept
  have forward : (before.sender.segmentsOut = [] ∧ before.sender.Handshaken) ∧
      before.state.Precedes before.state := ⟨inv, .refl _⟩
  rw [run_append]
  refine (second.invariant (fun c => (c.sender.segmentsOut = [] ∧ c.sender.Handshaken) ∧
    before.state.Precedes c.state) forward ?_).2
  intro c call known bounded
  exact ⟨kept c call known.1 bounded,
    known.2.trans (precedes_apply known.1.1 known.1.2 bounded)⟩

theorem phases_never_go_back_handshake :
    let calls : List Call := [.connect]
    let later : List Call :=
      [.segmentReceived { header := { syn := true, ack := true, ackno := ⟨1⟩, win := 10 } },
        .endInputStream, .segmentReceived { header := { rst := true } }, .connect]
    (run apply (new {} 0) calls).state.Precedes (run apply (new {} 0) (calls ++ later)).state :=
  phases_never_go_back {} (by decide) 0 [.connect]
    [.segmentReceived { header := { syn := true, ack := true, ackno := ⟨1⟩, win := 10 } },
      .endInputStream, .segmentReceived { header := { rst := true } }, .connect] (by decide)

end Sponge.TCPConnection
