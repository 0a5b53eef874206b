import Sponge.TCPConnection.Advertising

/-!
# Which segments are answered

A segment that occupies sequence numbers is always answered.  One that does
not is answered with data or not at all, unless it is a keep-alive, so two
connections never answer each other's acknowledgments.
-/

namespace Sponge.TCPConnection

open Lib
open TCPSender (Op)

variable {c : TCPConnection} {seg : TCPSegment}

/-- What is sent while a segment is processed occupies sequence numbers. -/
theorem occupying_process (drained : c.sender.segmentsOut = []) (seg : TCPSegment) :
    (c.process seg).sender.Occupying := by
  have nothing : c.sender.Occupying := by
    rw [TCPSender.Occupying, drained]
    exact List.forall_mem_nil _
  have acked := nothing.ackReceived seg.header.ackno seg.header.win
  simp only [process]
  split_ifs
  · exact acked.fillWindow
  · exact acked
  · exact nothing.fillWindow
  · exact nothing

/-- A reply without data is sent when one is needed and none is there. -/
theorem replyOps_of_length (needed : 0 < seg.lengthInSequenceSpace) :
    c.replyOps seg = if c.sender.segmentsOut.isEmpty then [.sendEmptySegment] else [] := by
  have notAlive : c.isKeepAlive seg = false := by
    unfold isKeepAlive
    cases c.receiver.ackno with
    | none => rfl
    | some ackno => simp [Nat.ne_of_gt needed]
  simp [replyOps, notAlive, needed]

theorem replyOps_of_no_length (nothing : seg.lengthInSequenceSpace = 0)
    (notAlive : c.isKeepAlive seg = false) : c.replyOps seg = [] := by
  simp [replyOps, nothing, notAlive]

/-- The sender after a live connection has taken a segment. -/
theorem afterMethods_live (active : c.isActive = true) (noRst : seg.header.rst = false) :
    c.afterMethods (.segmentReceived seg) =
      run TCPSender.apply (c.process seg).sender ((c.process seg).replyOps seg) := by
  rw [afterMethods, methodOps, active, noRst]
  simp only [Bool.not_true, Bool.false_eq_true, if_false, run_append]
  rw [process_eq]

theorem replies_to_length (active : c.isActive = true) (noRst : seg.header.rst = false)
    (needed : 0 < seg.lengthInSequenceSpace) :
    (c.afterMethods (.segmentReceived seg)).segmentsOut ≠ [] := by
  rw [afterMethods_live active noRst, replyOps_of_length needed]
  split
  · simp [TCPSender.apply, TCPSender.sendEmptySegment]
  · simp_all

/-- A segment that occupies no sequence numbers does not touch the receiver. -/
theorem receiver_of_no_length (quiet : c.receiver.Quiescent)
    (nothing : seg.lengthInSequenceSpace = 0) : c.receiver.segmentReceived seg = c.receiver := by
  simp only [TCPSegment.lengthInSequenceSpace, Nat.add_eq_zero_iff, List.length_eq_zero_iff] at nothing
  obtain ⟨⟨empty, syn⟩, fin⟩ := nothing
  have noSyn : seg.header.syn = false := by simpa using syn
  have noFin : seg.header.fin = false := by simpa using fin
  rw [TCPReceiver.segmentReceived_of_nothing quiet empty noFin, noSyn, Bool.and_false]
  rfl

theorem isKeepAlive_process (quiet : c.receiver.Quiescent)
    (nothing : seg.lengthInSequenceSpace = 0)
    (elsewhere : ∀ ackno ∈ c.receiver.ackno, seg.header.seqno ≠ ackno.sub 1) :
    (c.process seg).isKeepAlive seg = false := by
  rw [process_eq, isKeepAlive, receiver_of_no_length quiet nothing]
  cases known : c.receiver.ackno with
  | none => rfl
  | some ackno => simp [elsewhere ackno known]

/-- What every reply says: the acknowledgment and the window of the receiver
after the segment was taken. -/
theorem Resting.says (rest : c.Resting) {call : Call} {reply : TCPSegment}
    (sent : reply ∈ (c.afterMethods call).segmentsOut.map (stamp (c.receiverAfter call))) :
    (reply.header.ack = true ↔ (c.receiverAfter call).isn.isSome) ∧
    (∀ ackno ∈ (c.receiverAfter call).ackno, reply.header.ackno = ackno) ∧
    reply.header.win.toNat = min (c.receiverAfter call).windowSize 65535 := by
  obtain ⟨queued, membership, rfl⟩ := List.mem_map.mp sent
  have unset := ((blank_methods rest.blank call).queued queued membership).1
  refine ⟨?_, ?_, stamp_win _ _⟩
  · rw [stamp_eq, unset, Bool.or_false]
  · intro ackno known
    rw [stamp_eq, Option.mem_def.mp known]
    rfl

/-- In every reachable state, a live connection answers a segment that occupies
sequence numbers, answers any other with segments that do unless it is a
keep-alive, and says in every answer what its receiver knows by then. -/
theorem replies_disciplined (cfg : TCPConfig) (representable : cfg.recvCapacity < 2 ^ 64)
    (random : UInt32) (calls : List Call) (seg : TCPSegment) :
    let c := run apply (new cfg random) calls
    let after := (c.segmentReceived seg).receiver
    let replies := c.appended (.segmentReceived seg)
    c.isActive = true → seg.header.rst = false →
      (c.segmentReceived seg).segmentsOut = c.segmentsOut ++ replies ∧
      (0 < seg.lengthInSequenceSpace → replies ≠ []) ∧
      (seg.lengthInSequenceSpace = 0 →
        (∀ ackno ∈ c.receiver.ackno, seg.header.seqno ≠ ackno.sub 1) →
        ∀ reply ∈ replies, 0 < reply.lengthInSequenceSpace) ∧
      ∀ reply ∈ replies, (reply.header.ack = true ↔ after.isn.isSome) ∧
        (∀ ackno ∈ after.ackno, reply.header.ackno = ackno) ∧
        reply.header.win.toNat = min after.windowSize 65535 := by
  intro c after replies active noRst
  have rest : c.Resting := resting_run representable random calls
  have receiver : after = c.receiverAfter (.segmentReceived seg) :=
    c.receiver_apply (.segmentReceived seg)
  have isEmitted : replies = c.emitted (.segmentReceived seg) := appended_eq rest.drained
  have queue : (c.segmentReceived seg).segmentsOut = c.segmentsOut ++ replies := by
    have notPop : Call.segmentReceived seg ≠ .popSegment := Call.noConfusion
    rw [isEmitted]
    exact segmentsOut_apply rest.drained notPop
  rw [emitted_eq rfl] at isEmitted
  refine ⟨queue, ?_⟩
  rw [isEmitted, receiver]
  refine ⟨?_, ?_, fun reply => rest.says⟩
  · intro needed
    rw [ne_eq, List.map_eq_nil_iff]
    exact replies_to_length active noRst needed
  · intro nothing elsewhere reply sent
    obtain ⟨queued, membership, rfl⟩ := List.mem_map.mp sent
    rw [afterMethods_live active noRst, replyOps_of_no_length nothing
      (isKeepAlive_process rest.quiet nothing elsewhere)] at membership
    rw [stamp_length]
    exact occupying_process rest.drained seg queued membership

/-- A bare acknowledgment finds a byte to send, and a keep-alive is answered
with a bare acknowledgment. -/
theorem replies_disciplined_established :
    let cfg : TCPConfig := { recvCapacity := 4, sendCapacity := 4, fixedIsn := some ⟨0⟩ }
    let calls : List Call :=
      [.segmentReceived { header := { syn := true, seqno := ⟨7⟩, win := 1 } }, .write [97, 98],
        .segmentReceived { header := { ack := true, seqno := ⟨8⟩, ackno := ⟨1⟩, win := 1 } }]
    let acks : TCPSegment := { header := { ack := true, seqno := ⟨8⟩, ackno := ⟨2⟩, win := 1 } }
    let c := run apply (new cfg 0) calls
    c.isActive = true ∧
    (c.appended (.segmentReceived acks)).map (·.payload) = [[98]] ∧
    (∀ reply ∈ c.appended (.segmentReceived acks), 0 < reply.lengthInSequenceSpace) ∧
    (c.appended (.segmentReceived { header := { seqno := ⟨7⟩ } })).map (·.payload) = [[]] := by
  intro cfg calls acks c
  have active : c.isActive = true := by decide +kernel
  have disciplined := replies_disciplined cfg (by decide) 0 calls acks active rfl
  exact ⟨active, by decide +kernel, disciplined.2.2.1 rfl (by decide +kernel), by decide +kernel⟩

end Sponge.TCPConnection
