import Sponge.TCPSender.Outstanding

/-!
# Segmentation

The segments enqueued by `fillWindow` over a whole run are a SYN followed by
chunks of the outgoing stream, in order and without a gap.  FIN closes the
last chunk, and only when the whole stream is in.
-/

namespace Sponge.TCPSender

open Lib

/-- The payloads of a list of segments, one after the other. -/
def payloads (segments : List TCPSegment) : List UInt8 := segments.flatMap TCPSegment.payload

@[simp]
theorem payloads_nil : payloads [] = [] := rfl

@[simp]
theorem payloads_cons (seg : TCPSegment) (rest : List TCPSegment) :
    payloads (seg :: rest) = seg.payload ++ payloads rest := List.flatMap_cons

@[simp]
theorem payloads_append (first second : List TCPSegment) :
    payloads (first ++ second) = payloads first ++ payloads second := List.flatMap_append

def synSegment (isn : WrappingInt32) : TCPSegment :=
  { header := { syn := true, seqno := wrap 0 isn } }

/-- A segment that carries the bytes of the stream from `offset` on. -/
structure IsChunk (isn : WrappingInt32) (offset : ℕ) (seg : TCPSegment) : Prop where
  header : seg.header = { seqno := wrap (1 + offset) isn, fin := seg.header.fin }
  small : seg.payload.length ≤ TCPConfig.maxPayloadSize
  occupies : seg.payload ≠ [] ∨ seg.header.fin = true

/-- Chunks that follow each other from `offset` on; FIN is on the last one only. -/
def Chunks (isn : WrappingInt32) : ℕ → List TCPSegment → Prop
  | _, [] => True
  | offset, seg :: rest =>
      IsChunk isn offset seg ∧ (seg.header.fin = true → rest = []) ∧
        Chunks isn (offset + seg.payload.length) rest

theorem Chunks.concat {isn : WrappingInt32} {offset : ℕ} {segments : List TCPSegment}
    (chunks : Chunks isn offset segments)
    (noFin : ∀ seg ∈ segments, seg.header.fin = false) {seg : TCPSegment}
    (next : IsChunk isn (offset + (payloads segments).length) seg) :
    Chunks isn offset (segments ++ [seg]) := by
  induction segments generalizing offset with
  | nil => exact ⟨by simpa using next, fun _ => rfl, trivial⟩
  | cons first rest inductionHypothesis =>
      refine ⟨chunks.1, ?_, ?_⟩
      · intro fin
        rw [noFin first (by simp)] at fin
        contradiction
      · apply inductionHypothesis chunks.2.2
        · intro other membership
          exact noFin other (by simp [membership])
        · rw [payloads_cons, List.length_append, ← Nat.add_assoc] at next
          exact next

theorem Chunks.split {isn : WrappingInt32} {offset : ℕ} {before after : List TCPSegment}
    {seg : TCPSegment} (chunks : Chunks isn offset (before ++ seg :: after)) :
    IsChunk isn (offset + (payloads before).length) seg ∧
      (seg.header.fin = true → after = []) := by
  induction before generalizing offset with
  | nil => exact ⟨chunks.1, chunks.2.1⟩
  | cons first rest inductionHypothesis =>
      have tail := inductionHypothesis chunks.2.2
      rw [payloads_cons, List.length_append, ← Nat.add_assoc]
      exact tail

theorem IsChunk.length {isn : WrappingInt32} {offset : ℕ} {seg : TCPSegment}
    (chunk : IsChunk isn offset seg) :
    seg.lengthInSequenceSpace = seg.payload.length + if seg.header.fin then 1 else 0 := by
  have noSyn : seg.header.syn = false := by
    rw [chunk.header]
  simp [TCPSegment.lengthInSequenceSpace, noSyn]

theorem Chunks.totalLength_eq {isn : WrappingInt32} {offset : ℕ} {segments : List TCPSegment}
    (chunks : Chunks isn offset segments) :
    totalLength segments =
      (payloads segments).length + if segments.any (·.header.fin) then 1 else 0 := by
  induction segments generalizing offset with
  | nil => rfl
  | cons seg rest inductionHypothesis =>
      have tail := inductionHypothesis chunks.2.2
      rw [totalLength_cons, payloads_cons, List.length_append, chunks.1.length, List.any_cons]
      cases fin : seg.header.fin with
      | false =>
          simp only [Bool.false_eq_true, if_false, Bool.false_or]
          omega
      | true =>
          rw [chunks.2.1 fin]
          simp

/-- The sender has enqueued the segments `filled` for the accepted bytes. -/
structure Segmented (s : TCPSender) (accepted : List UInt8) (filled : List TCPSegment) :
    Prop where
  stream : s.stream.WellFormed
  contents : payloads filled ++ s.stream.buffer = accepted
  taken : (payloads filled).length = s.stream.totalReadBytes
  shape : filled = [] ∨ ∃ rest, filled = synSegment s.isn :: rest ∧ Chunks s.isn 0 rest
  nextSeqno : s.nextSeqno = totalLength filled
  finSent : s.isFinSent = filled.any (·.header.fin)
  finEof : s.isFinSent = true → s.stream.isEof = true
  eofDrained : s.stream.isEof = true → s.stream.buffer = []
  outstanding : s.outstandingSegments <:+ filled
  /-- What waits to be sent is one of these segments or occupies nothing. -/
  queued : ∀ seg ∈ s.segmentsOut, seg ∈ filled ∨ seg.lengthInSequenceSpace = 0

theorem segmented_new {capacity : ℕ} (representable : capacity < 2 ^ 64) (retxTimeout : UInt16)
    (fixedIsn : Option WrappingInt32) (random : UInt32) :
    (new capacity retxTimeout fixedIsn random).Segmented [] [] := by
  refine ⟨ByteStream.wellFormed_new representable, rfl, rfl, .inl rfl, rfl, rfl, ?_, ?_, ?_, ?_⟩
  · simp [new]
  · simp [new, ByteStream.new]
  · exact List.suffix_rfl
  · simp [new]

variable {s s' : TCPSender} {accepted : List UInt8} {filled : List TCPSegment}

theorem Segmented.congr (inv : s.Segmented accepted filled) (isn : s'.isn = s.isn)
    (stream : s'.stream = s.stream) (nextSeqno : s'.nextSeqno = s.nextSeqno)
    (finSent : s'.isFinSent = s.isFinSent)
    (outstanding : s'.outstandingSegments <:+ s.outstandingSegments)
    (queued : ∀ seg ∈ s'.segmentsOut, seg ∈ s.segmentsOut ∨ seg ∈ filled ∨
      seg.lengthInSequenceSpace = 0) : s'.Segmented accepted filled := by
  refine ⟨?_, ?_, ?_, ?_, ?_, ?_, ?_, ?_, outstanding.trans inv.outstanding, ?_⟩
  · rw [stream]
    exact inv.stream
  · rw [stream]
    exact inv.contents
  · rw [stream]
    exact inv.taken
  · rw [isn]
    exact inv.shape
  · rw [nextSeqno]
    exact inv.nextSeqno
  · rw [finSent]
    exact inv.finSent
  · rw [finSent, stream]
    exact inv.finEof
  · rw [stream]
    exact inv.eofDrained
  · intro seg membership
    rcases queued seg membership with old | known
    · exact inv.queued seg old
    · exact known

theorem Segmented.shape_of_started (inv : s.Segmented accepted filled)
    (started : s.nextSeqno ≠ 0) :
    ∃ rest, filled = synSegment s.isn :: rest ∧ Chunks s.isn 0 rest := by
  rcases inv.shape with empty | shape
  · rw [inv.nextSeqno, empty] at started
    contradiction
  · exact shape

/-- Once the SYN is out, and before the FIN, sequence numbers count bytes. -/
theorem Segmented.nextSeqno_eq (inv : s.Segmented accepted filled) (started : s.nextSeqno ≠ 0) :
    s.nextSeqno = 1 + s.stream.totalReadBytes + if s.isFinSent then 1 else 0 := by
  obtain ⟨rest, split, chunks⟩ := inv.shape_of_started started
  have total := chunks.totalLength_eq
  rw [inv.nextSeqno, ← inv.taken, inv.finSent, split, totalLength_cons, total, payloads_cons,
    List.any_cons]
  simp only [synSegment, TCPSegment.lengthInSequenceSpace, List.length_nil, if_true,
    Bool.false_eq_true, if_false, List.nil_append, Bool.false_or]
  omega

/-- The queues after a segment is pushed, whatever it carries. -/
theorem Segmented.pushed (inv : s.Segmented accepted filled) (seg : TCPSegment) :
    (s.pushSegment seg).nextSeqno = totalLength (filled ++ [s.stamped seg]) ∧
    (s.pushSegment seg).outstandingSegments <:+ filled ++ [s.stamped seg] ∧
    ∀ queued ∈ (s.pushSegment seg).segmentsOut,
      queued ∈ filled ++ [s.stamped seg] ∨ queued.lengthInSequenceSpace = 0 := by
  refine ⟨?_, ?_, ?_⟩
  · rw [totalLength_concat, ← inv.nextSeqno]
    rfl
  · obtain ⟨older, suffix⟩ := inv.outstanding
    refine ⟨older, ?_⟩
    rw [← suffix, List.append_assoc]
    rfl
  · intro queued membership
    rw [pushSegment_segmentsOut, List.mem_append] at membership
    rcases membership with old | new
    · exact (inv.queued queued old).imp (List.mem_append_left _) id
    · exact .inl (List.mem_append_right _ new)

theorem Segmented.pushSyn (inv : s.Segmented accepted filled) (unsent : s.nextSeqno = 0) :
    (s.pushSegment { header := { syn := true } }).Segmented accepted
      (filled ++ [s.stamped { header := { syn := true } }]) := by
  have empty : filled = [] := by
    rcases inv.shape with empty | ⟨rest, split, chunks⟩
    · exact empty
    · have total := inv.nextSeqno
      rw [split, totalLength_cons, unsent] at total
      simp [synSegment, TCPSegment.lengthInSequenceSpace] at total
      omega
  have stamped : s.stamped { header := { syn := true } } = synSegment s.isn := by
    simp [TCPSender.stamped, synSegment, unsent]
  obtain ⟨nextSeqno, outstanding, queued⟩ := inv.pushed { header := { syn := true } }
  refine ⟨inv.stream, ?_, ?_, .inr ⟨[], ?_, trivial⟩, nextSeqno, ?_, inv.finEof,
    inv.eofDrained, outstanding, queued⟩
  · rw [payloads_append, stamped, ← inv.contents]
    simp [synSegment]
  · rw [payloads_append, stamped, List.length_append]
    exact inv.taken
  · rw [empty, stamped]
    rfl
  · rw [pushSegment_isFinSent, inv.finSent, List.any_append, stamped]
    exact (Bool.or_false _).symm

/-- Sending the next chunk extends the sequence of segments. -/
theorem Segmented.pushChunk (inv : s.Segmented accepted filled) (started : s.nextSeqno ≠ 0)
    (noFin : s.isFinSent = false) (stream : ByteStream) (fin : Bool) (payload : List UInt8)
    (wellFormed : stream.WellFormed) (split : s.stream.buffer = payload ++ stream.buffer)
    (read : stream.totalReadBytes = s.stream.totalReadBytes + payload.length)
    (small : payload.length ≤ TCPConfig.maxPayloadSize) (occupies : payload ≠ [] ∨ fin = true)
    (ends : fin = true → stream.isEof = true)
    (drained : stream.isEof = true → stream.buffer = []) :
    ({ s with stream, isFinSent := fin }.pushSegment { header := { fin }, payload }).Segmented
      accepted (filled ++ [s.stamped { header := { fin }, payload }]) := by
  have position := inv.nextSeqno_eq started
  simp only [noFin, Bool.false_eq_true, if_false, Nat.add_zero] at position
  have finFree : ∀ seg ∈ filled, seg.header.fin = false := by
    have finSent := inv.finSent
    rw [noFin, eq_comm, List.any_eq_false] at finSent
    intro seg membership
    simpa using finSent seg membership
  obtain ⟨rest, syn, chunks⟩ := inv.shape_of_started started
  have restBytes : (payloads rest).length = s.stream.totalReadBytes := by
    rw [← inv.taken, syn, payloads_cons]
    rfl
  have chunk : IsChunk s.isn (0 + (payloads rest).length)
      (s.stamped { header := { fin }, payload }) := by
    refine ⟨?_, small, occupies⟩
    rw [Nat.zero_add, restBytes]
    simp [TCPSender.stamped, position]
  obtain ⟨nextSeqno, outstanding, queued⟩ := inv.pushed { header := { fin }, payload }
  refine ⟨wellFormed, ?_, ?_, .inr ⟨rest ++ [s.stamped { header := { fin }, payload }], ?_, ?_⟩,
    nextSeqno, ?_, ends, drained, outstanding, queued⟩
  · rw [payloads_append, List.append_assoc, ← inv.contents, split]
    simp [TCPSender.stamped]
  · rw [payloads_append, List.length_append, inv.taken]
    simp [TCPSender.stamped, read]
  · rw [syn]
    rfl
  · apply chunks.concat _ chunk
    intro seg membership
    exact finFree seg (by simp [syn, membership])
  · rw [pushSegment_isFinSent, List.any_append, ← inv.finSent, noFin]
    simp [TCPSender.stamped]

/-- What a step of `fillWindow` enqueues continues the sequence of segments. -/
theorem Segmented.fillStep (step : FillStep s s') (inv : s.Segmented accepted filled) :
    s'.Segmented accepted (filled ++ s'.segmentsOut.drop s.segmentsOut.length) := by
  cases step with
  | syn unsent =>
      simpa using inv.pushSyn unsent
  | fin started eof unsent =>
      have pushed := inv.pushChunk started unsent s.stream true [] inv.stream rfl rfl
        (Nat.zero_le _) (.inr rfl) (fun _ => eof) inv.eofDrained
      simpa [TCPSender.stamped] using pushed
  | data len fin started eof positive small occupies ends =>
      have unsent : s.isFinSent = false := by
        cases sent : s.isFinSent with
        | false => rfl
        | true =>
            rw [ByteStream.eof, inv.finEof sent] at eof
            contradiction
      have notEof : s.stream.isEof = false := eof
      have wellFormed := inv.stream.popOutput len
      have eofAfter := inv.stream.popOutput_isEof len
      have pushed := inv.pushChunk started unsent (s.stream.popOutput len) fin
        (s.stream.buffer.take len) wellFormed
        (by rw [ByteStream.popOutput_buffer, List.take_append_drop])
        (by rw [ByteStream.popOutput_totalReadBytes, List.length_take])
        (by rw [List.length_take]; omega)
        (by
          rcases occupies with bytes | marked
          · refine .inl ?_
            rw [Ne, List.take_eq_nil_iff]
            exact fun nothing => nothing.elim (by omega) bytes
          · exact .inr marked)
        ends
        (by
          intro reported
          rw [eofAfter] at reported
          rw [ByteStream.popOutput_buffer]
          split_ifs at reported with ended
          · exact List.drop_eq_nil_of_le (of_decide_eq_true reported)
          · rw [notEof] at reported
            contradiction)
      simpa [TCPSender.stamped, unsent] using pushed
  | idle len started eof empty =>
      have unchanged := inv.stream.popOutput_idle len eof empty
      rw [unchanged]
      simpa using inv

theorem Segmented.fillWindow (inv : s.Segmented accepted filled) :
    s.fillWindow.Segmented accepted
      (filled ++ s.fillWindow.segmentsOut.drop s.segmentsOut.length) := by
  -- along the steps the queue only grows, so what was enqueued so far is its tail
  have along : s.segmentsOut <+: s.fillWindow.segmentsOut ∧ s.fillWindow.Segmented accepted
      (filled ++ s.fillWindow.segmentsOut.drop s.segmentsOut.length) := by
    refine fillWindow_invariant (fun t => s.segmentsOut <+: t.segmentsOut ∧
      t.Segmented accepted (filled ++ t.segmentsOut.drop s.segmentsOut.length)) ?_ ?_
    · exact ⟨List.prefix_rfl, by simpa using inv⟩
    · intro t t' step ⟨grown, segmented⟩
      have extended := segmented.fillStep step
      obtain ⟨first, split⟩ := grown
      obtain ⟨second, split'⟩ := step.segmentsOut_grows
      refine ⟨⟨first ++ second, by rw [← List.append_assoc, split, split']⟩, ?_⟩
      rw [← split', ← split] at extended ⊢
      simpa [List.append_assoc] using extended
  exact along.2

theorem popAcknowledged_suffix (isn : WrappingInt32) (ackno : ℕ) (segments : List TCPSegment)
    (bytesInFlight : ℕ) :
    (popAcknowledged isn ackno segments bytesInFlight).1 <:+ segments := by
  induction segments generalizing bytesInFlight with
  | nil => exact List.suffix_rfl
  | cons seg rest inductionHypothesis =>
      simp only [popAcknowledged]
      split
      · exact (inductionHypothesis _).trans (List.suffix_cons seg rest)
      · exact List.suffix_rfl

theorem Segmented.ackReceived (inv : s.Segmented accepted filled) (ackno : WrappingInt32)
    (windowSize : UInt16) :
    (s.ackReceived ackno windowSize).Segmented accepted
      (filled ++ (s.ackReceived ackno windowSize).segmentsOut.drop s.segmentsOut.length) := by
  rcases s.ackReceived_cases ackno windowSize with ⟨_, taken⟩ | ⟨_, ignored⟩
  · rw [taken]
    have acknowledged : (({ s with windowSize } : TCPSender).acknowledge
        (unwrap ackno s.isn s.previousAckno)).Segmented accepted filled :=
      inv.congr rfl rfl rfl rfl (popAcknowledged_suffix _ _ _ _) (fun _ => .inl)
    exact acknowledged.fillWindow.congr rfl rfl rfl rfl List.suffix_rfl (fun _ => .inl)
  · rw [ignored]
    have opened : ({ s with windowSize } : TCPSender).Segmented accepted filled :=
      inv.congr rfl rfl rfl rfl List.suffix_rfl (fun _ => .inl)
    simpa using opened

theorem Segmented.tick (inv : s.Segmented accepted filled) (ms : ℕ) :
    (s.tick ms).Segmented accepted filled := by
  refine inv.congr (s.tick_isn ms) (s.tick_stream ms) (s.tick_nextSeqno ms) (s.tick_isFinSent ms)
    (s.tick_outstandingSegments ms ▸ List.suffix_rfl) ?_
  intro seg membership
  rw [tick_segmentsOut, List.mem_append] at membership
  rcases membership with old | retransmitted
  · exact .inl old
  · split at retransmitted
    · rw [Option.mem_toList] at retransmitted
      exact .inr (.inl (inv.outstanding.subset (List.mem_of_mem_head? retransmitted)))
    · contradiction

theorem Segmented.write (inv : s.Segmented accepted filled) (notEnded : s.stream.inputEnded = false)
    (data : List UInt8) :
    ({ s with stream := (s.stream.write data).1 } : TCPSender).Segmented
      (accepted ++ data.take (s.stream.write data).2) filled := by
  have notEof : s.stream.isEof = false := by
    cases eof : s.stream.isEof with
    | false => rfl
    | true =>
        rw [ByteStream.inputEnded, inv.stream.ended eof] at notEnded
        contradiction
  refine ⟨inv.stream.write data, ?_, ?_, inv.shape, inv.nextSeqno, inv.finSent, ?_, ?_,
    inv.outstanding, inv.queued⟩
  · rw [ByteStream.write_eq, ← inv.contents, List.append_assoc]
  · rw [ByteStream.write_eq]
    exact inv.taken
  · intro sent
    rw [inv.finEof sent] at notEof
    contradiction
  · intro eof
    rw [ByteStream.write_eq] at eof
    rw [notEof] at eof
    contradiction

theorem Segmented.endInput (inv : s.Segmented accepted filled) :
    ({ s with stream := s.stream.endInput } : TCPSender).Segmented accepted filled := by
  have accounting := inv.stream.accounting
  refine ⟨inv.stream.endInput, inv.contents, inv.taken, inv.shape, inv.nextSeqno, inv.finSent,
    ?_, ?_, inv.outstanding, inv.queued⟩
  · intro sent
    have drained := inv.eofDrained (inv.finEof sent)
    rw [drained, List.length_nil] at accounting
    simp only [ByteStream.endInput, beq_iff_eq]
    exact accounting
  · intro eof
    simp only [ByteStream.endInput, beq_iff_eq] at eof
    apply List.length_eq_zero_iff.mp
    show s.stream.buffer.length = 0
    omega

theorem Segmented.setError (inv : s.Segmented accepted filled) :
    ({ s with stream := s.stream.setError } : TCPSender).Segmented accepted filled :=
  ⟨inv.stream.setError, inv.contents, inv.taken, inv.shape, inv.nextSeqno, inv.finSent,
    inv.finEof, inv.eofDrained, inv.outstanding, inv.queued⟩

/-- A segment that was enqueued is the SYN or a chunk. -/
theorem Segmented.mem_cases (inv : s.Segmented accepted filled) {seg : TCPSegment}
    (membership : seg ∈ filled) :
    seg = synSegment s.isn ∨
      ∃ before after, filled = synSegment s.isn :: (before ++ seg :: after) ∧
        IsChunk s.isn (payloads before).length seg ∧ (seg.header.fin = true → after = []) := by
  rcases inv.shape with empty | ⟨rest, split, chunks⟩
  · rw [empty] at membership
    contradiction
  rw [split, List.mem_cons] at membership
  rcases membership with syn | membership
  · exact .inl syn
  · obtain ⟨before, after, rfl⟩ := List.append_of_mem membership
    obtain ⟨chunk, last⟩ := chunks.split
    rw [Nat.zero_add] at chunk
    exact .inr ⟨before, after, split, chunk, last⟩

/-- A segment with a payload or FIN carries the accepted bytes from some offset
on, and FIN carries the last of them. -/
theorem Segmented.chunk_of_mem (inv : s.Segmented accepted filled) {seg : TCPSegment}
    (membership : seg ∈ filled) (occupies : seg.payload ≠ [] ∨ seg.header.fin = true) :
    ∃ offset, IsChunk s.isn offset seg ∧ offset ≤ accepted.length ∧
      seg.payload <+: accepted.drop offset ∧
      (seg.header.fin = true → offset + seg.payload.length = accepted.length ∧
        s.stream.isInputEnded = true) := by
  rcases inv.mem_cases membership with rfl | ⟨before, after, split, chunk, last⟩
  · rcases occupies with bytes | fin
    · contradiction
    · contradiction
  have contents := inv.contents
  rw [split, payloads_cons, payloads_append, payloads_cons] at contents
  have whole : accepted = payloads before ++
      (seg.payload ++ (payloads after ++ s.stream.buffer)) := by
    rw [← contents]
    simp [synSegment]
  refine ⟨(payloads before).length, chunk, ?_, ?_, ?_⟩
  · rw [whole, List.length_append]
    exact Nat.le_add_right _ _
  · rw [whole, List.drop_left]
    exact List.prefix_append _ _
  · intro fin
    have sent : s.isFinSent = true := inv.finSent.trans (List.any_eq_true.mpr ⟨seg, membership, fin⟩)
    have eof := inv.finEof sent
    refine ⟨?_, inv.stream.ended eof⟩
    rw [whole, last fin, inv.eofDrained eof]
    simp

theorem Segmented.seqno_of_syn (inv : s.Segmented accepted filled) {seg : TCPSegment}
    (membership : seg ∈ filled) (syn : seg.header.syn = true) : seg.header.seqno = s.isn := by
  rcases inv.mem_cases membership with rfl | ⟨before, after, split, chunk, last⟩
  · exact wrap_zero s.isn
  · rw [chunk.header] at syn
    contradiction

/-- A sender with the record of what was written to it and what it enqueued. -/
structure History where
  sender : TCPSender
  /-- The bytes that the stream accepted. -/
  accepted : List UInt8 := []
  /-- The segments enqueued by `fillWindow`, also from within `ackReceived`. -/
  filled : List TCPSegment := []

namespace History

def apply (h : History) (op : Op) : History where
  sender := h.sender.apply op
  accepted :=
    match op with
    | .write data => h.accepted ++ data.take (h.sender.stream.write data).2
    | _ => h.accepted
  filled :=
    match op with
    | .fillWindow | .ackReceived _ _ =>
        h.filled ++ (h.sender.apply op).segmentsOut.drop h.sender.segmentsOut.length
    | _ => h.filled

/-- The stream is not written after its end. -/
def Permitted (h : History) : Op → Prop
  | .write _ => h.sender.stream.inputEnded = false
  | _ => True

instance (h : History) (op : Op) : Decidable (h.Permitted op) :=
  match op with
  | .write _ => inferInstanceAs (Decidable (_ = _))
  | .endInput | .setError | .fillWindow | .ackReceived _ _ | .tick _ | .sendEmptySegment
  | .popSegment => .isTrue trivial

def Segmented (h : History) : Prop := h.sender.Segmented h.accepted h.filled

theorem Segmented.apply (h : History) (op : Op) (inv : h.Segmented) (permitted : h.Permitted op) :
    (h.apply op).Segmented := by
  have whole : h.sender.Segmented h.accepted h.filled := inv
  cases op with
  | write data => exact whole.write permitted data
  | endInput => exact whole.endInput
  | setError => exact whole.setError
  | fillWindow => exact whole.fillWindow
  | ackReceived ackno windowSize => exact whole.ackReceived ackno windowSize
  | tick ms => exact whole.tick ms
  | sendEmptySegment =>
      refine whole.congr rfl rfl rfl rfl List.suffix_rfl ?_
      intro seg membership
      rcases List.mem_append.mp membership with old | new
      · exact .inl old
      · rw [List.mem_singleton] at new
        subst new
        exact .inr (.inr rfl)
  | popSegment =>
      exact whole.congr rfl rfl rfl rfl List.suffix_rfl (fun _ => .inl ∘ List.mem_of_mem_tail)

end History

/-- Over a whole run, the segments enqueued by `fillWindow` are a SYN and
then chunks of the accepted bytes, in order, with FIN on the last chunk only;
and what a tick enqueues is one of them that is still outstanding. -/
theorem segmentation_lossless (capacity : ℕ) (representable : capacity < 2 ^ 64)
    (retxTimeout : UInt16) (fixedIsn : Option WrappingInt32) (random : UInt32) (ops : List Op)
    (permitted : Guarded History.apply History.Permitted
      { sender := new capacity retxTimeout fixedIsn random } ops) :
    let h := run History.apply { sender := new capacity retxTimeout fixedIsn random } ops
    (h.filled = [] ∧ h.sender.nextSeqno = 0 ∨
      ∃ rest, h.filled = synSegment h.sender.isn :: rest ∧
        ∀ before seg after, rest = before ++ seg :: after →
          seg.header.syn = false ∧ seg.payload.length ≤ TCPConfig.maxPayloadSize ∧
          seg.header.seqno = wrap (1 + (payloads before).length) h.sender.isn ∧
          (seg.payload ≠ [] ∨ seg.header.fin = true) ∧
          (seg.header.fin = true → after = [] ∧ h.sender.stream.inputEnded = true ∧
            payloads h.filled = h.accepted)) ∧
    payloads h.filled ++ h.sender.stream.buffer = h.accepted ∧
    (payloads h.filled).length = h.sender.stream.bytesRead ∧
    ∀ ms, ∀ seg ∈ (h.sender.tick ms).segmentsOut.drop h.sender.segmentsOut.length,
      seg ∈ h.filled ∧ seg ∈ (h.sender.tick ms).outstandingSegments := by
  intro h
  have inv : h.sender.Segmented h.accepted h.filled :=
    permitted.invariant History.Segmented (segmented_new representable retxTimeout fixedIsn random)
      History.Segmented.apply
  refine ⟨?_, inv.contents, inv.taken, ?_⟩
  · rcases inv.shape with empty | ⟨rest, syn, chunks⟩
    · refine .inl ⟨empty, ?_⟩
      rw [inv.nextSeqno, empty, totalLength_nil]
    · refine .inr ⟨rest, syn, ?_⟩
      intro before seg after split
      rw [split] at chunks
      obtain ⟨chunk, last⟩ := chunks.split
      rw [Nat.zero_add] at chunk
      have header := chunk.header
      refine ⟨by rw [header], chunk.small, by rw [header], chunk.occupies, ?_⟩
      intro fin
      have sent : h.sender.isFinSent = true := by
        rw [inv.finSent, List.any_eq_true]
        exact ⟨seg, by simp [syn, split], fin⟩
      have eof := inv.finEof sent
      have contents := inv.contents
      rw [inv.eofDrained eof, List.append_nil] at contents
      exact ⟨last fin, inv.stream.ended eof, contents⟩
  · intro ms seg membership
    rw [tick_segmentsOut, List.drop_left] at membership
    split at membership
    · rw [Option.mem_toList] at membership
      have outstanding := List.mem_of_mem_head? membership
      rw [tick_outstandingSegments]
      exact ⟨inv.outstanding.subset outstanding, outstanding⟩
    · contradiction

/-- Three bytes in two segments, the second one with FIN, which is sent again. -/
theorem segmentation_lossless_two_chunks :
    let ops : List Op := [.fillWindow, .ackReceived ⟨8⟩ 2, .write [97, 98, 99], .endInput,
      .fillWindow, .ackReceived ⟨10⟩ 2]
    let h := run History.apply { sender := new 10 1000 (some ⟨7⟩) 0 } ops
    h.filled.length = 3 ∧ payloads h.filled ++ h.sender.stream.buffer = h.accepted ∧
      (h.sender.tick 1000).segmentsOut.length = h.sender.segmentsOut.length + 1 ∧
      ∀ seg ∈ (h.sender.tick 1000).segmentsOut.drop h.sender.segmentsOut.length,
        seg ∈ h.filled ∧ seg ∈ (h.sender.tick 1000).outstandingSegments :=
  have lossless := segmentation_lossless 10 (by decide) 1000 (some ⟨7⟩) 0
    [.fillWindow, .ackReceived ⟨8⟩ 2, .write [97, 98, 99], .endInput,
      .fillWindow, .ackReceived ⟨10⟩ 2] (by decide)
  ⟨by decide, lossless.2.1, by decide, lossless.2.2.2 1000⟩

end Sponge.TCPSender
