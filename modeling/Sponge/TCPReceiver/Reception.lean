import Sponge.TCPReceiver.Basic
import Sponge.StreamReassembler.Quiescent

/-!
# Receiving a segment

Before and after the SYN the receiver takes different ways to the same end: it
pushes the payload at a stream index, or drops the segment.
-/

namespace Sponge.TCPReceiver

open Lib

@[simp]
theorem withStreamOut_streamOut (r : TCPReceiver) (stream : ByteStream) :
    (r.withStreamOut stream).streamOut = stream := rfl

/-- The stream index at which the receiver pushes the payload of a segment, if
it takes the segment at all. -/
def streamIndex (r : TCPReceiver) (seg : TCPSegment) : Option ℕ :=
  match r.isn with
  | none => if seg.header.syn then some 0 else none
  | some isn =>
      if r.absoluteSeqno isn seg.header.seqno ≠ 0 then
        some (r.absoluteSeqno isn seg.header.seqno - 1)
      else none

/-- A payload does not start beyond the window. -/
def InWindow (r : TCPReceiver) (seg : TCPSegment) : Prop :=
  ∀ index ∈ r.streamIndex seg, seg.payload ≠ [] →
    index ≤ r.streamOut.bytesRead + r.reassembler.capacity

instance (r : TCPReceiver) (seg : TCPSegment) : Decidable (r.InWindow seg) :=
  inferInstanceAs (Decidable (∀ index ∈ _, _ → _))

/-- A FIN without payload does not overtake the bytes in front of it. -/
def FinInOrder (r : TCPReceiver) (seg : TCPSegment) : Prop :=
  ∀ index ∈ r.streamIndex seg, seg.header.fin = true → seg.payload = [] →
    index ≤ r.streamOut.bytesWritten

instance (r : TCPReceiver) (seg : TCPSegment) : Decidable (r.FinInOrder seg) :=
  inferInstanceAs (Decidable (∀ index ∈ _, _ → _ → _))

theorem segmentReceived_eq (r : TCPReceiver) (seg : TCPSegment) :
    r.segmentReceived seg =
      match r.streamIndex seg with
      | some index =>
          { isn := some (r.isn.getD seg.header.seqno)
            reassembler := r.reassembler.pushSubstring seg.payload index seg.header.fin }
      | none => r := by
  obtain ⟨reassembler, isn⟩ := r
  cases isn with
  | none =>
      rw [segmentReceived, streamIndex]
      cases seg.header.syn <;> rfl
  | some isn =>
      rw [segmentReceived, streamIndex]
      simp only
      split_ifs <;> rfl

/-- The receiver finds the index of a byte from its sequence number, as long as
the index lies within `2^31` of the bytes written. -/
theorem streamIndex_of_near {r : TCPReceiver} {isn : WrappingInt32} (known : r.isn = some isn)
    {seg : TCPSegment} {index : ℕ} (seqno : seg.header.seqno = wrap (1 + index) isn)
    (above : index < r.streamOut.bytesWritten + 2 ^ 31)
    (below : r.streamOut.bytesWritten < index + 2 ^ 31) : r.streamIndex seg = some index := by
  have position : r.absoluteSeqno isn seg.header.seqno = 1 + index := by
    rw [absoluteSeqno, seqno]
    exact unwrap_wrap isn (by omega) (by omega)
  rw [streamIndex, known]
  simp only [position]
  rw [if_pos (by omega), Nat.add_sub_cancel_left]

theorem streamIndex_eq {r : TCPReceiver} {isn : WrappingInt32} (known : r.isn = some isn)
    {seg : TCPSegment} {index : ℕ} (seqno : seg.header.seqno = wrap (1 + index) isn)
    (small : index < 2 ^ 31) (written : r.streamOut.bytesWritten < 2 ^ 31) :
    r.streamIndex seg = some index :=
  streamIndex_of_near known seqno (by omega) (by omega)

/-- A segment without payload and without FIN at most opens the receiver. -/
theorem segmentReceived_of_nothing {r : TCPReceiver} (quiet : r.reassembler.Quiescent)
    {seg : TCPSegment} (empty : seg.payload = []) (noFin : seg.header.fin = false) :
    r.segmentReceived seg =
      { r with
        isn := if r.isn.isNone && seg.header.syn then some seg.header.seqno else r.isn } := by
  obtain ⟨reassembler, isn⟩ := r
  have same (index : ℕ) : reassembler.pushSubstring seg.payload index seg.header.fin =
      reassembler := by
    rw [empty, noFin]
    exact quiet.pushSubstring_nil index
  cases isn with
  | none =>
      rw [segmentReceived]
      cases seg.header.syn <;> simp [same]
  | some isn =>
      rw [segmentReceived]
      simp [same]

/-- A segment of the stream `whole` that starts at `isn`: it carries no byte and
no FIN, or the bytes from some offset on. -/
inductive Carries (isn : WrappingInt32) (whole : List UInt8) (seg : TCPSegment) : Prop where
  | nothing : seg.payload = [] → seg.header.fin = false →
      (seg.header.syn = true → seg.header.seqno = isn) → Carries isn whole seg
  | bytes (offset : ℕ) : seg.header.seqno = wrap (1 + offset) isn → seg.header.syn = false →
      offset ≤ whole.length → seg.payload <+: whole.drop offset →
      (seg.header.fin = true → offset + seg.payload.length = whole.length) → Carries isn whole seg

/-- The receiver pushes a segment of the stream at its place. -/
theorem Carries.place {r : TCPReceiver} {isn : WrappingInt32} {whole : List UInt8}
    {seg : TCPSegment} (carries : Carries isn whole seg) (known : ∀ known ∈ r.isn, known = isn)
    (small : whole.length < 2 ^ 31) (written : r.streamOut.bytesWritten ≤ whole.length)
    {index : ℕ} (place : r.streamIndex seg = some index) :
    r.isn.getD seg.header.seqno = isn ∧ seg.payload <+: whole.drop index ∧
      (seg.header.fin = true → index + seg.payload.length = whole.length) := by
  cases first : r.isn with
  | none =>
      rw [streamIndex, first] at place
      cases carries with
      | nothing empty noFin start =>
          have syn : seg.header.syn = true := by
            by_contra noSyn
            rw [if_neg noSyn] at place
            contradiction
          rw [empty, noFin]
          exact ⟨start syn, List.nil_prefix, nofun⟩
      | bytes offset _ noSyn =>
          rw [noSyn] at place
          contradiction
  | some own =>
      have same : own = isn := known own (by rw [first]; rfl)
      subst same
      cases carries with
      | nothing empty noFin =>
          rw [empty, noFin]
          exact ⟨rfl, List.nil_prefix, nofun⟩
      | bytes offset seqno noSyn inside slice last =>
          have found := streamIndex_eq first seqno (by omega) (by omega)
          rw [place] at found
          cases found
          exact ⟨rfl, slice, last⟩

/-- The stream indices that a segment adds to those already accepted. -/
def acceptedBy (r : TCPReceiver) (seg : TCPSegment) : Finset ℕ :=
  match r.streamIndex seg with
  | some index =>
      Finset.Ico index (index + r.reassembler.bytesCanBeStored seg.payload index)
  | none => ∅

/-- A stream ends only after the SYN. -/
def Opened (r : TCPReceiver) : Prop := r.streamOut.inputEnded = true → r.isn.isSome = true

theorem Opened.segmentReceived {r : TCPReceiver} (opened : r.Opened) (seg : TCPSegment) :
    (r.segmentReceived seg).Opened := by
  rw [segmentReceived_eq]
  cases r.streamIndex seg with
  | none => exact opened
  | some index => exact fun _ => rfl

/-- Before the SYN, everything but a SYN is dropped. -/
theorem segmentReceived_unopened {r : TCPReceiver} (noIsn : r.isn = none) {seg : TCPSegment}
    (noSyn : seg.header.syn = false) : r.segmentReceived seg = r := by
  have dropped : r.streamIndex seg = none := by
    rw [streamIndex, noIsn, noSyn]
    rfl
  rw [segmentReceived_eq, dropped]

theorem segmentReceived_syn (r : TCPReceiver) {seg : TCPSegment} (syn : seg.header.syn = true) :
    (r.segmentReceived seg).isn ≠ none := by
  cases known : r.isn with
  | none =>
      have taken : r.streamIndex seg = some 0 := by
        rw [streamIndex, known, syn]
        rfl
      rw [segmentReceived_eq, taken]
      exact Option.some_ne_none _
  | some isn =>
      rw [segmentReceived_eq]
      cases r.streamIndex seg with
      | none => exact known ▸ Option.some_ne_none isn
      | some index => exact Option.some_ne_none _

theorem segmentReceived_inputEnded {r : TCPReceiver} (ended : r.streamOut.inputEnded = true)
    (seg : TCPSegment) : (r.segmentReceived seg).streamOut.inputEnded = true := by
  rw [segmentReceived_eq]
  cases r.streamIndex seg with
  | none => exact ended
  | some index =>
      exact (StreamReassembler.pushSubstring_frame _ seg.payload index seg.header.fin).2.2.2 ended

theorem segmentReceived_error (r : TCPReceiver) (seg : TCPSegment) :
    (r.segmentReceived seg).streamOut.error = r.streamOut.error := by
  rw [segmentReceived_eq]
  cases r.streamIndex seg with
  | none => rfl
  | some index =>
      exact (StreamReassembler.pushSubstring_frame _ seg.payload index seg.header.fin).2.2.1

end Sponge.TCPReceiver
