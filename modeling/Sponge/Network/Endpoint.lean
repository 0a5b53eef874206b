import Sponge.Network.Basic
import Sponge.TCPConnection.SenderInvariants
import Sponge.TCPReceiver.Reception
import Sponge.TCPSender.Segmentation

/-!
# The two roles of an endpoint

An endpoint sends one stream and receives another.  As a sender it puts only
segments on the wire that it made from the accepted bytes; as a receiver it
assembles the stream that the other side accepted.
-/

namespace Sponge

open Lib TCPConnection
open TCPSender (Op)

namespace TCPSender.History

/-- Whether an operation is permitted depends on the sender alone. -/
theorem guarded_of_sender {h : History} {ops : List Op}
    (guarded : Guarded TCPSender.apply (fun s op => Permitted { sender := s } op) h.sender ops) :
    Guarded apply Permitted h ops :=
  (@guarded_view _ _ _ apply TCPSender.apply sender (fun _ _ => rfl)
    (fun s op => Permitted { sender := s } op) h ops).mpr guarded

theorem accepted_run (h : History) {ops : List Op} (noWrite : ∀ op ∈ ops, ∀ data, op ≠ .write data) :
    (run apply h ops).accepted = h.accepted := by
  induction ops generalizing h with
  | nil => rfl
  | cons op rest inductionHypothesis =>
      rw [run_cons, inductionHypothesis _ fun later membership =>
        noWrite later (List.mem_cons_of_mem op membership)]
      cases op with
      | write data => exact absurd rfl (noWrite _ List.mem_cons_self data)
      | _ => rfl

theorem filled_run (h : History) (ops : List Op) : h.filled <+: (run apply h ops).filled := by
  induction ops generalizing h with
  | nil => exact List.prefix_rfl
  | cons op rest inductionHypothesis =>
      refine List.IsPrefix.trans ?_ (inductionHypothesis (h.apply op))
      cases op with
      | fillWindow => exact List.prefix_append _ _
      | ackReceived ackno windowSize => exact List.prefix_append _ _
      | _ => exact List.prefix_rfl

/-- Nothing is made that does not wait in the queue, as long as nothing is
taken off it. -/
theorem filled_queued (h : History) {ops : List Op} (noPop : ∀ op ∈ ops, op ≠ .popSegment) :
    ∀ seg ∈ (run apply h ops).filled,
      seg ∈ h.filled ∨ seg ∈ (run apply h ops).sender.segmentsOut := by
  have guarded : Guarded apply (fun _ op => op ≠ .popSegment) h ops :=
    guarded_of_forall h fun op membership _ => noPop op membership
  refine guarded.invariant
    (fun h' => ∀ seg ∈ h'.filled, seg ∈ h.filled ∨ seg ∈ h'.sender.segmentsOut)
    (fun _ => .inl) ?_
  intro h' op known notPop seg membership
  have kept := (h'.sender.segmentsOut_grows notPop).subset
  have made : seg ∈ h'.filled ∨ seg ∈ (h'.sender.apply op).segmentsOut := by
    cases op with
    | fillWindow => exact (List.mem_append.mp membership).imp_right List.mem_of_mem_drop
    | ackReceived ackno windowSize =>
        exact (List.mem_append.mp membership).imp_right List.mem_of_mem_drop
    | _ => exact .inl membership
  rcases made with old | new
  · exact (known seg old).imp_right fun waiting => kept waiting
  · exact .inr new

end TCPSender.History

/-- A segment made from one of the segments in `filled`, or an empty one. -/
def Genuine (filled : List TCPSegment) (seg : TCPSegment) : Prop :=
  (∃ sent ∈ filled, unstamped seg = unstamped sent) ∨ seg.lengthInSequenceSpace = 0

theorem Genuine.mono {filled filled' : List TCPSegment} {seg : TCPSegment}
    (genuine : Genuine filled seg) (grown : filled <+: filled') : Genuine filled' seg := by
  rcases genuine with ⟨sent, membership, same⟩ | nothing
  · exact .inl ⟨sent, grown.subset membership, same⟩
  · exact .inr nothing

namespace Endpoint

/-- All segments that ever left the connection, in order. -/
def sent (e : Endpoint) : List TCPSegment := e.wire ++ e.conn.segmentsOut

theorem sent_apply {e : Endpoint} (drained : e.conn.sender.segmentsOut = []) (call : Call) :
    (e.apply call).sent = e.sent ++ e.conn.emitted call := by
  by_cases pop : call = .popSegment
  · subst pop
    rw [emitted_popSegment drained, List.append_nil]
    show e.wire ++ e.conn.segmentsOut.head?.toList ++ e.conn.segmentsOut.tail = e.sent
    cases queue : e.conn.segmentsOut <;> simp [sent, queue]
  · have wire : (e.apply call).wire = e.wire := by
      cases call with
      | popSegment => contradiction
      | _ => rfl
    show (e.apply call).wire ++ (e.conn.apply call).segmentsOut = _
    rw [wire, segmentsOut_apply drained pop, ← List.append_assoc]
    rfl

theorem mem_sent_of_wire {e : Endpoint} {n : ℕ} {seg : TCPSegment} (picked : e.wire[n]? = some seg) :
    seg ∈ e.sent := List.mem_append_left _ (List.mem_of_getElem? picked)

/-- The endpoint as a sender: `filled` are the segments it made so far. -/
structure Sending (e : Endpoint) (filled : List TCPSegment) : Prop where
  drained : e.conn.sender.segmentsOut = []
  segmented : e.conn.sender.Segmented e.accepted filled
  genuine : ∀ seg ∈ e.sent, Genuine filled seg

theorem sending_new {cfg : TCPConfig} (representable : cfg.sendCapacity < 2 ^ 64)
    (random : UInt32) : (new cfg random).Sending [] :=
  ⟨rfl, TCPSender.segmented_new representable _ _ _, List.forall_mem_nil _⟩

variable {e : Endpoint}

theorem methodOps_noWrite {c : TCPConnection} {call : Call} (notWrite : ∀ data, call ≠ .write data) :
    ∀ op ∈ c.methodOps call, ∀ data, op ≠ Op.write data := by
  obtain ⟨rest, routine, plain | ⟨first, isFirst, special⟩⟩ := c.methodOps_routine call
  · rw [plain]
    intro op membership data
    cases routine op membership <;> exact Op.noConfusion
  · rw [special]
    intro op membership data
    rcases List.mem_cons.mp membership with rfl | later
    · cases call with
      | write data => exact absurd rfl (notWrite data)
      | _ => cases isFirst <;> exact Op.noConfusion
    · cases routine op later <;> exact Op.noConfusion

theorem methodOps_noPop (c : TCPConnection) (call : Call) :
    ∀ op ∈ c.methodOps call, op ≠ Op.popSegment := by
  rintro op membership rfl
  cases call with
  | segmentReceived seg =>
      simp only [methodOps, processOps, replyOps] at membership
      split_ifs at membership <;> simp at membership
  | tick ms =>
      rw [methodOps] at membership
      split_ifs at membership <;> simp at membership
  | _ => simp [methodOps] at membership

/-- The methods of a call make more segments from more accepted bytes. -/
theorem Sending.afterMethods {filled : List TCPSegment} (inv : e.Sending filled) {call : Call}
    (permitted : ∀ data, call = .write data → e.hasEnded = false) :
    ∃ filled', filled <+: filled' ∧
      (e.conn.afterMethods call).Segmented (e.apply call).accepted filled' ∧
      ∀ seg ∈ filled', seg ∈ filled ∨
        call.givesUp e.conn = false ∧ seg ∈ (e.conn.afterMethods call).segmentsOut := by
  let h : TCPSender.History := { sender := e.conn.sender, accepted := e.accepted, filled }
  have guarded : Guarded TCPSender.History.apply TCPSender.History.Permitted h
      (e.conn.methodOps call) := by
    apply TCPSender.History.guarded_of_sender
    apply methodOps_guarded
    · intro s op routine
      cases routine <;> trivial
    · intro op first
      cases call with
      | write data =>
          cases first
          exact permitted data rfl
      | _ => cases first <;> trivial
  have segmented := guarded.invariant TCPSender.History.Segmented inv.segmented
    TCPSender.History.Segmented.apply
  have sender : (run TCPSender.History.apply h (e.conn.methodOps call)).sender =
      e.conn.afterMethods call := run_view (fun _ _ => rfl) h _
  have accepted : (run TCPSender.History.apply h (e.conn.methodOps call)).accepted =
      (e.apply call).accepted := by
    cases call with
    | write data => rfl
    | _ => exact TCPSender.History.accepted_run h (methodOps_noWrite fun _ => Call.noConfusion)
  refine ⟨_, h.filled_run (e.conn.methodOps call), ?_, ?_⟩
  · rw [← sender, ← accepted]
    exact segmented
  · intro seg membership
    cases gives : call.givesUp e.conn with
    | false =>
        rw [← sender]
        exact (h.filled_queued (methodOps_noPop _ _) seg membership).imp_right (⟨rfl, ·⟩)
    | true =>
        cases call with
        | tick ms =>
            rw [Call.givesUp] at gives
            rw [methodOps, gives] at membership
            exact .inl membership
        | _ => contradiction

theorem Sending.apply {filled : List TCPSegment} (inv : e.Sending filled) {call : Call}
    (permitted : ∀ data, call = .write data → e.hasEnded = false) :
    ∃ filled', (e.apply call).Sending filled' ∧
      ∀ seg ∈ filled', seg ∈ filled ∨ ∃ sent ∈ e.conn.emitted call,
        unstamped sent = unstamped seg := by
  obtain ⟨filled', grown, segmented, made⟩ := inv.afterMethods permitted
  refine ⟨filled', ⟨drained_apply inv.drained call, ?_, ?_⟩, ?_⟩
  · show (e.conn.apply call).sender.Segmented _ _
    rw [sender_apply inv.drained]
    exact segmented.congr rfl rfl rfl rfl List.suffix_rfl (List.forall_mem_nil _)
  · intro seg membership
    rw [sent_apply inv.drained, List.mem_append] at membership
    rcases membership with old | new
    · exact (inv.genuine seg old).mono grown
    rw [emitted] at new
    split at new
    · rw [List.mem_singleton.mp new]
      exact .inr rfl
    · obtain ⟨queued, waiting, rfl⟩ := List.mem_map.mp new
      rcases segmented.queued queued waiting with known | nothing
      · exact .inl ⟨queued, known, unstamped_stamp _ _⟩
      · exact .inr ((stamp_length _ _).trans nothing)
  · intro seg membership
    refine (made seg membership).imp_right ?_
    rintro ⟨persists, waiting⟩
    rw [emitted_eq persists]
    exact ⟨_, List.mem_map_of_mem waiting, unstamped_stamp _ _⟩

/-- Every segment that leaves the endpoint carries a part of its stream. -/
theorem Sending.carries {filled : List TCPSegment} (inv : e.Sending filled) {seg : TCPSegment}
    (membership : seg ∈ e.sent) :
    TCPReceiver.Carries e.conn.sender.isn e.accepted seg ∧
      (seg.header.fin = true → e.hasEnded = true) := by
  rcases inv.genuine seg membership with ⟨sent, made, same⟩ | nothing
  · obtain ⟨payload, seqno, syn, fin⟩ := unstamped_inj same
    by_cases occupies : sent.payload ≠ [] ∨ sent.header.fin = true
    · obtain ⟨offset, chunk, inside, slice, last⟩ := inv.segmented.chunk_of_mem made occupies
      rw [fin]
      refine ⟨.bytes offset ?_ ?_ inside ?_ ?_, fun fin => (last fin).2⟩
      · rw [seqno, chunk.header]
      · rw [syn, chunk.header]
      · rw [payload]
        exact slice
      · rw [fin, payload]
        exact fun fin => (last fin).1
    · simp only [not_or, ne_eq, Decidable.not_not, Bool.not_eq_true] at occupies
      refine ⟨.nothing (payload.trans occupies.1) (fin.trans occupies.2) ?_, ?_⟩
      · intro isSyn
        rw [seqno]
        exact inv.segmented.seqno_of_syn made (syn.symm.trans isSyn)
      · rw [fin, occupies.2]
        exact nofun
  · simp only [TCPSegment.lengthInSequenceSpace, Nat.add_eq_zero_iff, List.length_eq_zero_iff,
      ite_eq_right_iff, one_ne_zero, imp_false, Bool.not_eq_true] at nothing
    obtain ⟨⟨payload, syn⟩, fin⟩ := nothing
    rw [fin]
    exact ⟨.nothing payload fin (by rw [syn]; exact nofun), nofun⟩

/-- The endpoint as a receiver of the stream `whole`, of which the indices in
`accepted` have arrived. -/
structure Receiving (e : Endpoint) (isn : WrappingInt32) (whole : List UInt8)
    (accepted : Finset ℕ) : Prop where
  isn : ∀ known ∈ e.conn.receiver.isn, known = isn
  settled : e.conn.receiver.reassembler.Settled whole accepted
  consumed : e.consumed = whole.take e.conn.receiver.streamOut.bytesRead

theorem receiving_new {cfg : TCPConfig} (positive : 0 < cfg.recvCapacity)
    (representable : cfg.recvCapacity < 2 ^ 64) (random : UInt32) (isn : WrappingInt32) :
    (new cfg random).Receiving isn [] ∅ :=
  ⟨nofun, StreamReassembler.settled_new positive representable [], rfl⟩

variable {isn : WrappingInt32} {whole : List UInt8} {accepted : Finset ℕ}

theorem Receiving.extend (inv : e.Receiving isn whole accepted) (more : List UInt8) :
    e.Receiving isn (whole ++ more) accepted := by
  refine ⟨inv.isn, inv.settled.extend more, ?_⟩
  have bound : e.conn.receiver.streamOut.bytesRead ≤ whole.length :=
    Nat.le_trans inv.settled.bytesRead_le inv.settled.first_le_length
  rw [List.take_append_of_le_length bound]
  exact inv.consumed

/-- What has been placed in the inbound stream is what the other side accepted,
up to the first byte that is missing. -/
theorem Receiving.placed_eq (inv : e.Receiving isn whole accepted) :
    e.placed = whole.take e.conn.receiver.reassembler.firstUnassembledIndex := by
  rw [placed, inv.consumed]
  exact inv.settled.take_append_buffer

theorem consumed_apply (e : Endpoint) {call : Call} (notRead : ∀ len, call ≠ .readInbound len) :
    (e.apply call).consumed = e.consumed := by
  cases call with
  | readInbound len => exact absurd rfl (notRead len)
  | _ => rfl

theorem Receiving.same (inv : e.Receiving isn whole accepted) {e' : Endpoint}
    (receiver : e'.conn.receiver = e.conn.receiver) (consumed : e'.consumed = e.consumed) :
    e'.Receiving isn whole accepted :=
  ⟨receiver ▸ inv.isn, receiver ▸ inv.settled, consumed.trans (receiver ▸ inv.consumed)⟩

theorem Receiving.error (inv : e.Receiving isn whole accepted) {e' : Endpoint}
    (receiver : e'.conn.receiver =
      e.conn.receiver.withStreamOut e.conn.receiver.streamOut.setError)
    (consumed : e'.consumed = e.consumed) : e'.Receiving isn whole accepted := by
  refine ⟨?_, ?_, ?_⟩
  · rw [receiver]
    exact inv.isn
  · rw [receiver]
    exact inv.settled.setError
  · rw [receiver, consumed]
    exact inv.consumed

theorem Receiving.read (inv : e.Receiving isn whole accepted) {len : ℕ}
    (receiver : (e.apply (.readInbound len)).conn.receiver =
      e.conn.receiver.withStreamOut (e.conn.receiver.streamOut.popOutput len)) :
    (e.apply (.readInbound len)).Receiving isn whole accepted := by
  refine ⟨?_, ?_, ?_⟩
  · rw [receiver]
    exact inv.isn
  · rw [receiver]
    exact inv.settled.popOutput len
  · show e.consumed ++ (e.conn.receiver.streamOut.read len).1 = _
    rw [receiver, ByteStream.read_eq, inv.consumed, TCPReceiver.withStreamOut_streamOut]
    simp only [ByteStream.bytesRead, ByteStream.popOutput_totalReadBytes]
    exact inv.settled.take_append_read len

theorem Receiving.written_le (inv : e.Receiving isn whole accepted) :
    e.conn.receiver.streamOut.bytesWritten ≤ whole.length := by
  rw [ByteStream.bytesWritten, TCPReceiver.streamOut, inv.settled.written]
  exact inv.settled.first_le_length

/-- The receiver takes a segment of the stream that does not start beyond its
window. -/
theorem Receiving.taken (inv : e.Receiving isn whole accepted) (small : whole.length < 2 ^ 31)
    {seg : TCPSegment} (carries : TCPReceiver.Carries isn whole seg)
    (inWindow : e.conn.receiver.InWindow seg) {e' : Endpoint}
    (receiver : e'.conn.receiver = e.conn.receiver.segmentReceived seg)
    (consumed : e'.consumed = e.consumed) :
    e'.Receiving isn whole (accepted ∪ e.conn.receiver.acceptedBy seg) := by
  rw [TCPReceiver.segmentReceived_eq] at receiver
  rw [TCPReceiver.acceptedBy]
  cases place : e.conn.receiver.streamIndex seg with
  | none =>
      rw [place] at receiver
      rw [Finset.union_empty]
      exact inv.same receiver consumed
  | some index =>
      obtain ⟨start, slice, _⟩ := carries.place inv.isn small inv.written_le place
      rw [place, start] at receiver
      refine ⟨?_, ?_, ?_⟩
      · rw [receiver]
        intro known same
        exact (Option.mem_some_iff.mp same).symm
      · rw [receiver]
        exact inv.settled.pushSubstring slice (inWindow index place) (by omega) seg.header.fin
      · rw [receiver, consumed, inv.consumed]
        exact congrArg whole.take (StreamReassembler.pushSubstring_frame _ _ _ _).2.1.symm

/-- Every call leaves the endpoint a receiver of the same stream, as long as
only segments of the stream arrive and none starts beyond the window. -/
theorem Receiving.apply (inv : e.Receiving isn whole accepted) (small : whole.length < 2 ^ 31)
    {call : Call}
    (arrives : ∀ seg, call = .segmentReceived seg →
      TCPReceiver.Carries isn whole seg ∧ e.conn.receiver.InWindow seg) :
    ∃ accepted', (e.apply call).Receiving isn whole accepted' := by
  rcases e.conn.receiver_cases call with
    ⟨notRead, same | error⟩ | ⟨len, rfl, read⟩ | ⟨seg, rfl, taken⟩
  · exact ⟨accepted, inv.same same (e.consumed_apply notRead)⟩
  · exact ⟨accepted, inv.error error (e.consumed_apply notRead)⟩
  · exact ⟨accepted, inv.read read⟩
  · obtain ⟨carries, inWindow⟩ := arrives seg rfl
    exact ⟨_, inv.taken small carries inWindow taken rfl⟩

end Endpoint

end Sponge
