import Sponge.Network.Endpoint
import Sponge.TCPConnection.Shutdown
import Sponge.TCPSender.Summary

/-!
# Three trackers of one progress

The sender counts sequence numbers and keeps a flag for its FIN, the
connection keeps a flag of its own, and `TCPState` reconstructs the state from
counters.  All of them agree with what has really been sent.
-/

namespace Sponge

open Lib TCPConnection
open TCPSender (Op)

theorem TCPConnection.Bounded.handshaken {c : TCPConnection} {call : Call}
    (bounded : c.Bounded call) (drained : c.sender.segmentsOut = [])
    (inv : c.sender.Handshaken) : (c.apply call).sender.Handshaken :=
  sender_invariant TCPSender.Handshaken TCPSender.Careful drained careful_of_routine
    bounded.careful inv TCPSender.Handshaken.apply

namespace Endpoint

variable {e : Endpoint} {filled : List TCPSegment}

def isSynSent (e : Endpoint) : Bool := e.sent.any (·.header.syn)

def isFinSent (e : Endpoint) : Bool := e.sent.any (·.header.fin)

/-- The segments that the sender made are those that have left, and the
connection has noticed the FIN among them. -/
structure Tracked (e : Endpoint) (filled : List TCPSegment) : Prop where
  sending : e.Sending filled
  handshaken : e.conn.sender.Handshaken
  left : ∀ seg ∈ filled, ∃ sent ∈ e.sent, unstamped sent = unstamped seg
  noticed : e.conn.isFinSent = e.isFinSent

theorem tracked_new {cfg : TCPConfig} (representable : cfg.sendCapacity < 2 ^ 64)
    (random : UInt32) : (new cfg random).Tracked [] :=
  ⟨sending_new representable random, TCPSender.handshaken_new representable _ _ _,
    List.forall_mem_nil _, rfl⟩

theorem Tracked.apply (inv : e.Tracked filled) {call : Call} (bounded : e.conn.Bounded call) :
    ∃ filled', (e.apply call).Tracked filled' := by
  have drained := inv.sending.drained
  have permitted : ∀ data, call = .write data → e.hasEnded = false := by
    rintro data rfl
    exact bounded
  obtain ⟨filled', sending, made⟩ := inv.sending.apply permitted
  refine ⟨filled', sending, bounded.handshaken drained inv.handshaken, ?_, ?_⟩
  · intro seg membership
    rw [sent_apply drained]
    rcases made seg membership with old | ⟨sent, emitted, same⟩
    · obtain ⟨sent, before, same⟩ := inv.left seg old
      exact ⟨sent, List.mem_append_left _ before, same⟩
    · exact ⟨sent, List.mem_append_right _ emitted, same⟩
  · rw [isFinSent, sent_apply drained, List.any_append]
    exact (isFinSent_apply drained call).trans (by rw [inv.noticed]; rfl)

/-- A flag of the header is on a segment that left exactly if it is on one that
the sender made. -/
theorem Tracked.any_sent (inv : e.Tracked filled) (flag : TCPHeader → Bool)
    (kept : ∀ {seg sent : TCPSegment}, unstamped seg = unstamped sent →
      flag seg.header = flag sent.header)
    (occupies : ∀ seg : TCPSegment, flag seg.header = true → seg.lengthInSequenceSpace ≠ 0) :
    e.sent.any (flag ·.header) = filled.any (flag ·.header) := by
  rw [Bool.eq_iff_iff, List.any_eq_true, List.any_eq_true]
  constructor
  · rintro ⟨seg, membership, flagged⟩
    rcases inv.sending.genuine seg membership with ⟨made, known, same⟩ | nothing
    · exact ⟨made, known, (kept same).symm.trans flagged⟩
    · exact absurd nothing (occupies seg flagged)
  · rintro ⟨seg, membership, flagged⟩
    obtain ⟨sent, left, same⟩ := inv.left seg membership
    exact ⟨sent, left, (kept same).trans flagged⟩

theorem Tracked.isFinSent_eq (inv : e.Tracked filled) :
    e.isFinSent = e.conn.sender.isFinSent := by
  rw [inv.sending.segmented.finSent, isFinSent]
  refine inv.any_sent (·.fin) (fun same => (unstamped_inj same).2.2.2) ?_
  intro seg fin
  simp [TCPSegment.lengthInSequenceSpace, fin]

theorem Tracked.isSynSent_eq (inv : e.Tracked filled) :
    e.isSynSent = decide (e.conn.sender.nextSeqno ≠ 0) := by
  have same : e.isSynSent = filled.any (·.header.syn) := by
    refine inv.any_sent (·.syn) (fun same => (unstamped_inj same).2.2.1) ?_
    intro seg syn
    simp [TCPSegment.lengthInSequenceSpace, syn]
  rw [same, inv.sending.segmented.nextSeqno]
  rcases inv.sending.segmented.shape with empty | ⟨rest, syn, _⟩
  · rw [empty]
    rfl
  · rw [syn]
    simp [TCPSender.synSegment, TCPSegment.lengthInSequenceSpace]

theorem Tracked.nextSeqno_eq (inv : e.Tracked filled) :
    e.conn.sender.nextSeqno = (if e.isSynSent then 1 else 0) +
      e.conn.sender.stream.bytesRead + if e.isFinSent then 1 else 0 := by
  have segmented := inv.sending.segmented
  rw [inv.isSynSent_eq, inv.isFinSent_eq]
  by_cases started : e.conn.sender.nextSeqno = 0
  · rcases segmented.shape with empty | ⟨rest, syn, _⟩
    · have read := segmented.taken
      have unsent := segmented.finSent
      rw [empty] at read unsent
      simp [started, unsent, ByteStream.bytesRead, ← read]
    · rw [segmented.nextSeqno, syn] at started
      simp [TCPSender.synSegment, TCPSegment.lengthInSequenceSpace] at started
  · rw [decide_eq_true started, if_pos rfl]
    exact segmented.nextSeqno_eq started

/-- Each value of the summary, in terms of what was sent and what is outstanding. -/
theorem Tracked.summary_iff (inv : e.Tracked filled)
    (noError : e.conn.sender.stream.error = false) :
    (TCPState.senderSummary e.conn.sender = .closed ↔ e.isSynSent = false) ∧
    (TCPState.senderSummary e.conn.sender = .synSent ↔
      ∃ seg ∈ e.conn.sender.outstandingSegments, seg.header.syn = true) ∧
    (TCPState.senderSummary e.conn.sender = .finSent ↔
      e.isFinSent = true ∧ e.conn.sender.outstandingSegments ≠ []) ∧
    (TCPState.senderSummary e.conn.sender = .finAcked ↔
      e.isFinSent = true ∧ e.conn.sender.outstandingSegments = []) ∧
    (TCPState.senderSummary e.conn.sender = .synAcked ↔
      e.isSynSent = true ∧ e.isFinSent = false ∧
        ∀ seg ∈ e.conn.sender.outstandingSegments, seg.header.syn = false) := by
  have outstanding := inv.handshaken.sound.syn_outstanding_iff
  have noSyn : (∀ seg ∈ e.conn.sender.outstandingSegments, seg.header.syn = false) ↔
      ¬ (e.conn.sender.nextSeqno ≠ 0 ∧ e.conn.sender.previousAckno = 0) := by
    rw [← outstanding]
    simp
  have late := inv.handshaken.acknowledged_of_finSent
  rw [inv.isSynSent_eq, inv.isFinSent_eq, noSyn, outstanding, inv.handshaken.summary_eq noError]
  split_ifs with unsent unacked running nothing <;> simp_all

/-- In every such run, the sequence numbers count the SYN, the bytes read and the
FIN; the two flags for the FIN agree; and the summary says what was sent and
what of it is acknowledged. -/
theorem trackers_agree (cfg : TCPConfig) (representable : cfg.sendCapacity < 2 ^ 64)
    (random : UInt32) (calls : List Call)
    (bounded : Guarded apply (fun e call => e.conn.Bounded call) (new cfg random) calls) :
    let e := run apply (new cfg random) calls
    let s := e.conn.sender
    s.nextSeqno = (if e.isSynSent then 1 else 0) + s.stream.bytesRead +
        (if e.isFinSent then 1 else 0) ∧
    e.conn.isFinSent = s.isFinSent ∧
    (s.stream.error = false →
      (TCPState.senderSummary s = .closed ↔ e.isSynSent = false) ∧
      (TCPState.senderSummary s = .synSent ↔
        ∃ seg ∈ s.outstandingSegments, seg.header.syn = true) ∧
      (TCPState.senderSummary s = .finSent ↔
        e.isFinSent = true ∧ s.outstandingSegments ≠ []) ∧
      (TCPState.senderSummary s = .finAcked ↔
        e.isFinSent = true ∧ s.outstandingSegments = []) ∧
      (TCPState.senderSummary s = .synAcked ↔
        e.isSynSent = true ∧ e.isFinSent = false ∧
          ∀ seg ∈ s.outstandingSegments, seg.header.syn = false)) := by
  intro e s
  obtain ⟨filled, inv⟩ : ∃ filled, e.Tracked filled :=
    bounded.invariant (fun e : Endpoint => ∃ filled, e.Tracked filled)
      ⟨[], tracked_new representable random⟩
      fun _ _ ⟨_, inv⟩ bounded => inv.apply bounded
  exact ⟨inv.nextSeqno_eq, inv.noticed.trans inv.isFinSent_eq, inv.summary_iff⟩

/-- The stream ends with its last byte, and all of it but the FIN is acknowledged. -/
theorem trackers_agree_closing :
    let cfg : TCPConfig := { recvCapacity := 4, sendCapacity := 4, fixedIsn := some ⟨0⟩ }
    let calls : List Call :=
      [.connect,
        .segmentReceived { header := { syn := true, seqno := ⟨7⟩, ack := true, ackno := ⟨1⟩, win := 9 } },
        .write [97, 98], .endInputStream,
        .segmentReceived { header := { ack := true, seqno := ⟨8⟩, ackno := ⟨3⟩, win := 9 } }]
    let e := run apply (new cfg 0) calls
    e.isFinSent = true ∧ e.conn.sender.nextSeqno = 4 ∧
      TCPState.senderSummary e.conn.sender = .finSent := by
  have agree := trackers_agree { recvCapacity := 4, sendCapacity := 4, fixedIsn := some ⟨0⟩ }
    (by decide) 0
    [.connect,
      .segmentReceived { header := { syn := true, seqno := ⟨7⟩, ack := true, ackno := ⟨1⟩, win := 9 } },
      .write [97, 98], .endInputStream,
      .segmentReceived { header := { ack := true, seqno := ⟨8⟩, ackno := ⟨3⟩, win := 9 } }]
    (by decide +kernel)
  exact ⟨by decide +kernel, by decide +kernel,
    (agree.2.2 (by decide +kernel)).2.2.1.mpr (by decide +kernel)⟩

end Endpoint

end Sponge
