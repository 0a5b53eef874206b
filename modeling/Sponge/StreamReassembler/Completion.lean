import Sponge.StreamReassembler.Ending
import Sponge.StreamReassembler.History

/-!
# When the end of the stream is signalled

A run pushes slices of one stream, and the slices that reach its end carry the
end-of-stream flag, the empty one among them.  The reassembler ends its output
as soon as it has seen the flag and holds back no byte.  That is too early
when the bytes stored until then are a proper prefix of the stream.
-/

namespace Sponge.StreamReassembler

open Lib

/-- A reassembler with what a run has done to it. -/
structure Record where
  reassembler : StreamReassembler
  /-- Indices of the bytes that lay in the window when they were pushed. -/
  stored : Finset ℕ := ∅
  /-- Has a slice with the end-of-stream flag been stored in full? -/
  eofStored : Bool := false
  /-- Bytes taken out of the output stream. -/
  readOut : List UInt8 := []

namespace Record

def new (capacity : ℕ) : Record where
  reassembler := StreamReassembler.new capacity

/-- Every byte the reassembler has written to its output. -/
def writtenOut (h : Record) : List UInt8 := h.readOut ++ h.reassembler.output.buffer

/-- How many bytes of a slice from `i` to `j` lie in the window.  The room behind `i`
is a 64-bit number. -/
def fitting (h : Record) (i j : ℕ) : ℕ :=
  min (j - i) ((h.reassembler.output.bytesRead + h.reassembler.capacity - i) % 2 ^ 64)

def apply (whole : List UInt8) (h : Record) : Op → Record
  | .push i j eof =>
      { h with
        reassembler := h.reassembler.pushSubstring ((whole.take j).drop i) i eof
        stored := h.stored ∪ Finset.Ico i (i + h.fitting i j)
        eofStored := h.eofStored || (eof && h.fitting i j == j - i) }
  | .read len =>
      let (bytes, output) := h.reassembler.output.read len
      { h with
        reassembler := { h.reassembler with output }
        readOut := h.readOut ++ bytes }

/-- A push is a slice of the stream that starts no later than the edge of the
window, and it is flagged exactly when it ends where the stream ends. -/
def Permitted (whole : List UInt8) (h : Record) : Op → Prop
  | .push i j eof =>
      i ≤ j ∧ j ≤ whole.length ∧
        i ≤ h.reassembler.output.bytesRead + h.reassembler.capacity ∧
        eof = decide (j = whole.length)
  | .read _ => True

instance (whole : List UInt8) (h : Record) (op : Op) : Decidable (h.Permitted whole op) :=
  match op with
  | .push i j eof =>
      inferInstanceAs (Decidable (i ≤ j ∧ j ≤ whole.length ∧
        i ≤ h.reassembler.output.bytesRead + h.reassembler.capacity ∧
        eof = decide (j = whole.length)))
  | .read _ => .isTrue trivial

/-- Once a flagged slice has been stored in full, the bytes that are stored after
a push are never exactly those of a proper prefix of the stream. -/
def NoPrematureEnd (whole : List UInt8) (h : Record) : Op → Prop
  | .push i j eof =>
      ¬ ((h.apply whole (.push i j eof)).eofStored = true ∧
        ∃ k < whole.length, (h.apply whole (.push i j eof)).stored = Finset.range k)
  | .read _ => True

instance (whole : List UInt8) (h : Record) (op : Op) : Decidable (h.NoPrematureEnd whole op) :=
  match op with
  | .push i j eof =>
      inferInstanceAs (Decidable (¬ ((h.apply whole (.push i j eof)).eofStored = true ∧
        ∃ k < whole.length, (h.apply whole (.push i j eof)).stored = Finset.range k)))
  | .read _ => .isTrue trivial

/-- The record agrees with the reassembler. -/
structure Consistent (whole : List UInt8) (h : Record) : Prop where
  settled : h.reassembler.Settled whole h.stored
  flag : h.reassembler.isEofDataReceived = h.eofStored
  readOut : h.readOut = whole.take h.reassembler.output.totalReadBytes

/-- The end of input is signalled exactly when a flagged slice has been stored in
full and the whole stream has been written. -/
def Signalled (whole : List UInt8) (h : Record) : Prop :=
  h.reassembler.output.inputEnded = true ↔ h.eofStored = true ∧ h.writtenOut = whole

variable {whole : List UInt8} {h : Record}

theorem consistent_new {capacity : ℕ} (positive : 0 < capacity)
    (representable : capacity < 2 ^ 64) (whole : List UInt8) : (new capacity).Consistent whole :=
  ⟨settled_new positive representable whole, rfl, by
    simp [new, StreamReassembler.new, ByteStream.new]⟩

/-- The bytes that `storeData` counts are those that lie in the window. -/
theorem Consistent.bytesCanBeStored_eq (inv : h.Consistent whole) {i j : ℕ}
    (inside : j ≤ whole.length)
    (inWindow : i ≤ h.reassembler.output.bytesRead + h.reassembler.capacity) :
    h.reassembler.bytesCanBeStored ((whole.take j).drop i) i = h.fitting i j := by
  rw [inv.settled.bytesCanBeStored_eq _ inWindow, List.length_drop, List.length_take,
    Nat.min_eq_left inside]
  rfl

theorem Consistent.push (inv : h.Consistent whole) (indexable : whole.length < 2 ^ 64) {i j : ℕ}
    (inside : j ≤ whole.length)
    (inWindow : i ≤ h.reassembler.output.bytesRead + h.reassembler.capacity) (eof : Bool) :
    (h.apply whole (.push i j eof)).Consistent whole := by
  have slice : (whole.take j).drop i <+: whole.drop i := by
    rw [List.drop_take]
    exact List.take_prefix _ _
  have sliceLength : ((whole.take j).drop i).length = j - i := by
    rw [List.length_drop, List.length_take, Nat.min_eq_left inside]
  have stored := inv.bytesCanBeStored_eq inside inWindow
  have settled := inv.settled.pushSubstring slice (fun _ => inWindow) indexable eof
  have frame := pushSubstring_frame h.reassembler ((whole.take j).drop i) i eof
  rw [stored] at settled
  refine ⟨settled, ?_, ?_⟩
  · show (h.reassembler.pushSubstring _ _ _).isEofDataReceived = _
    rw [pushSubstring_isEofDataReceived, inv.flag, sliceLength, stored]
    rfl
  · simp only [apply, frame.2.1]
    exact inv.readOut

theorem Consistent.read (inv : h.Consistent whole) (len : ℕ) :
    (h.apply whole (.read len)).Consistent whole := by
  refine ⟨inv.settled.popOutput len, inv.flag, ?_⟩
  simp only [apply, ByteStream.read_eq, ByteStream.popOutput_totalReadBytes]
  rw [inv.readOut]
  exact inv.settled.take_append_read len

theorem Consistent.apply (indexable : whole.length < 2 ^ 64) (h : Record) (op : Op)
    (inv : h.Consistent whole) (permitted : h.Permitted whole op) :
    (h.apply whole op).Consistent whole := by
  cases op with
  | push i j eof => exact inv.push indexable permitted.2.1 permitted.2.2.1 eof
  | read len => exact inv.read len

theorem Consistent.writtenOut_eq_iff (inv : h.Consistent whole) :
    h.writtenOut = whole ↔ h.reassembler.firstUnassembledIndex = whole.length := by
  have first := inv.settled.first_le_length
  rw [writtenOut, inv.readOut, inv.settled.take_append_buffer, List.take_eq_self_iff]
  omega

/-- What is stored is a prefix exactly when nothing waits behind a gap. -/
theorem Consistent.stored_eq_range_iff (inv : h.Consistent whole) (k : ℕ) :
    h.stored = Finset.range k ↔
      h.reassembler.unassembledBytes = 0 ∧ h.reassembler.firstUnassembledIndex = k := by
  have gap := inv.settled.gap
  have assembled := inv.settled.assembled
  rw [inv.settled.holds.count, Finset.card_eq_zero, Finset.filter_eq_empty_iff]
  constructor
  · intro isRange
    rw [isRange] at gap assembled ⊢
    simp only [Finset.mem_range] at gap assembled ⊢
    have first : h.reassembler.firstUnassembledIndex = k := by
      by_contra different
      exact absurd (assembled k (by omega)) (Nat.lt_irrefl k)
    exact ⟨fun x below => by omega, first⟩
  · rintro ⟨nothing, rfl⟩
    ext x
    rw [Finset.mem_range]
    constructor
    · intro membership
      have below := nothing membership
      omega
    · exact assembled x

/-- A push keeps the signal right exactly when it does not leave a proper prefix
behind the flag. -/
theorem Consistent.signalled_push_iff (inv : h.Consistent whole) (signalled : h.Signalled whole)
    {i j : ℕ} {eof : Bool} (next : (h.apply whole (.push i j eof)).Consistent whole) :
    (h.apply whole (.push i j eof)).Signalled whole ↔ h.NoPrematureEnd whole (.push i j eof) := by
  have ended := pushSubstring_isInputEnded h.reassembler ((whole.take j).drop i) i eof
  have first := (pushed_frame h.reassembler ((whole.take j).drop i) i eof).2.2.2.2.2.2
  rw [← (pushSubstring_ring h.reassembler ((whole.take j).drop i) i eof).2] at first
  have bound := next.settled.first_le_length
  have same : (h.apply whole (.push i j eof)).reassembler =
      h.reassembler.pushSubstring ((whole.take j).drop i) i eof := rfl
  have kept (before : h.eofStored = true) : (h.apply whole (.push i j eof)).eofStored = true := by
    show (h.eofStored || _) = true
    rw [before, Bool.true_or]
  rw [← same] at ended first
  rw [NoPrematureEnd, Signalled, next.writtenOut_eq_iff, ByteStream.inputEnded, ended,
    next.flag, Bool.or_eq_true, Bool.and_eq_true, beq_iff_eq]
  rw [Signalled, inv.writtenOut_eq_iff, ByteStream.inputEnded] at signalled
  simp only [next.stored_eq_range_iff]
  generalize h.apply whole (.push i j eof) = h' at *
  rw [signalled]
  constructor
  · rintro right ⟨flagged, k, proper, nothing, atK⟩
    have complete := (right.mp (.inr ⟨flagged, nothing⟩)).2
    omega
  · intro noPrefix
    constructor
    · rintro (⟨before, complete⟩ | ⟨flagged, nothing⟩)
      · exact ⟨kept before, by omega⟩
      · refine ⟨flagged, ?_⟩
        by_contra incomplete
        exact noPrefix ⟨flagged, _, Nat.lt_of_le_of_ne bound incomplete, nothing, rfl⟩
    · rintro ⟨flagged, complete⟩
      refine .inr ⟨flagged, ?_⟩
      -- nothing waits behind the end of the stream
      rw [next.settled.holds.count, Finset.card_eq_zero, Finset.filter_eq_empty_iff]
      intro x membership
      have inside := (next.settled.within x membership).2
      omega

/-- Reading does not change whether the signal is right. -/
theorem Consistent.signalled_read_iff (inv : h.Consistent whole) (len : ℕ) :
    (h.apply whole (.read len)).Signalled whole ↔ h.Signalled whole := by
  have ended : (h.apply whole (.read len)).reassembler.output.inputEnded =
      h.reassembler.output.inputEnded := h.reassembler.output.popOutput_inputEnded len
  rw [Signalled, Signalled, (inv.read len).writtenOut_eq_iff, inv.writtenOut_eq_iff, ended]
  rfl

/-- The end of input is signalled exactly on completion throughout a run, if and
only if no push of the run leaves exactly a proper prefix of the stream stored
once a flagged slice has been stored in full. -/
theorem signalled_throughout_iff (capacity : ℕ) (positive : 1 ≤ capacity)
    (representable : capacity < 2 ^ 64) (whole : List UInt8) (indexable : whole.length < 2 ^ 64)
    (ops : List Op)
    (permitted : Guarded (apply whole) (Permitted whole) (new capacity) ops) :
    (∀ first, first <+: ops →
      let h := run (apply whole) (new capacity) first
      h.reassembler.output.inputEnded = true ↔ h.eofStored = true ∧ h.writtenOut = whole) ↔
    Guarded (apply whole) (NoPrematureEnd whole) (new capacity) ops := by
  refine safe_throughout_iff (Consistent whole) (Signalled whole) ?_ (Consistent.apply indexable)
    (consistent_new positive representable whole) ?_ permitted
  · intro h op inv signalled permitted
    cases op with
    | push i j eof =>
        exact inv.signalled_push_iff signalled (inv.push indexable permitted.2.1 permitted.2.2.1 eof)
    | read len =>
        rw [inv.signalled_read_iff]
        exact ⟨fun _ => trivial, fun _ => signalled⟩
  · exact ⟨nofun, fun ⟨stored, _⟩ => nomatch stored⟩

/-- An empty slice with the flag comes after the last byte of the stream. -/
def LastByteFirst (whole : List UInt8) (h : Record) : Op → Prop
  | .push i j eof => i = j → eof = true → ∀ last, last + 1 = whole.length → last ∈ h.stored
  | .read _ => True

/-- Only an empty slice with the flag that comes before the last byte of the stream
leaves a proper prefix behind the flag. -/
theorem noPrematureEnd_of_lastByteFirst {ops : List Op}
    (permitted : Guarded (apply whole) (Permitted whole) h ops)
    (inOrder : Guarded (apply whole) (LastByteFirst whole) h ops)
    (unflagged : h.eofStored = false) : Guarded (apply whole) (NoPrematureEnd whole) h ops := by
  -- the flag is stored no earlier than the last byte
  refine (permitted.and inOrder).ensures
    (fun h => h.eofStored = true → ∀ last, last + 1 = whole.length → last ∈ h.stored) ?_ ?_
  · intro flagged
    rw [unflagged] at flagged
    contradiction
  intro h op known allowed
  cases op with
  | read len => exact ⟨trivial, known⟩
  | push i j eof =>
      obtain ⟨⟨ordered, inside, -, isEof⟩, inOrder⟩ := allowed
      have next : (h.apply whole (.push i j eof)).eofStored = true →
          ∀ last, last + 1 = whole.length → last ∈ (h.apply whole (.push i j eof)).stored := by
        simp only [apply, Bool.or_eq_true, Bool.and_eq_true, beq_iff_eq, Finset.mem_union,
          Finset.mem_Ico]
        rintro (before | ⟨flagged, full⟩) last isLast
        · exact .inl (known before last isLast)
        · by_cases empty : i = j
          · exact .inl (inOrder empty flagged last isLast)
          · rw [flagged, eq_comm, decide_eq_true_eq] at isEof
            omega
      refine ⟨?_, next⟩
      rintro ⟨flagged, k, proper, isRange⟩
      have stored := next flagged (whole.length - 1) (by omega)
      rw [isRange, Finset.mem_range] at stored
      omega

/-- The empty slice at the end of a stream ends it before its bytes arrive. -/
theorem ended_by_empty_slice :
    let whole : List UInt8 := [97, 98]
    let ops : List Op := [.push 2 2 true]
    let h := run (apply whole) (new 4) ops
    Guarded (apply whole) (Permitted whole) (new 4) ops ∧
      h.reassembler.output.inputEnded = true ∧ h.writtenOut = [] := by
  decide

/-- The empty slice comes while the last byte waits behind a gap. -/
theorem signalled_throughout_iff_last_byte_waiting :
    let whole : List UInt8 := [97, 98]
    let ops : List Op := [.push 1 2 true, .push 2 2 true, .read 1, .push 0 1 false]
    let h := run (apply whole) (new 4) ops
    Guarded (apply whole) (NoPrematureEnd whole) (new 4) ops ∧ h.writtenOut = whole ∧
      h.reassembler.output.inputEnded = true :=
  have guarded : Guarded (apply [97, 98]) (NoPrematureEnd [97, 98]) (new 4)
      [.push 1 2 true, .push 2 2 true, .read 1, .push 0 1 false] := by decide
  have signalled := (signalled_throughout_iff 4 (by decide) (by decide) [97, 98] (by decide) _
    (by decide)).mpr guarded _ List.prefix_rfl
  ⟨guarded, by decide, signalled.mpr (by decide)⟩

end Record

end Sponge.StreamReassembler
