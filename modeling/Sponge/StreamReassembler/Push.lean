import Sponge.StreamReassembler.Assembly

/-!
# Writing the assembled bytes out

`collect` empties the ring from the first unassembled index up to the first
gap, and `writeToOutput` hands what it finds to the output stream.  The window
is never larger than the room left in the output, so nothing is truncated.
-/

namespace Sponge.StreamReassembler

open Lib

variable {r : StreamReassembler} {whole data : List UInt8} {accepted : Finset ℕ} {index : ℕ}

/-- The loop of `writeToOutput` touches the ring and nothing else. -/
theorem collect_frame (fuel count : ℕ) (r : StreamReassembler) :
    (collect fuel count r).2.output = r.output ∧
    (collect fuel count r).2.capacity = r.capacity ∧
    (collect fuel count r).2.seperator = r.seperator ∧
    (collect fuel count r).2.firstUnassembledIndex = r.firstUnassembledIndex ∧
    (collect fuel count r).2.isEofDataReceived = r.isEofDataReceived := by
  induction fuel generalizing count r with
  | zero => exact ⟨rfl, rfl, rfl, rfl, rfl⟩
  | succ fuel inductionHypothesis =>
      simp only [collect]
      split
      · exact inductionHypothesis _ _
      · exact ⟨rfl, rfl, rfl, rfl, rfl⟩

theorem isOccupied_iff (r : StreamReassembler) (slot : ℕ) :
    r.isOccupied slot = true ↔ r.occupied[slot]? = some true := by
  rw [isOccupied, List.getD_eq_getElem?_getD]
  cases r.occupied[slot]? <;> simp

/-- Clearing an occupied slot leaves one less. -/
theorem count_cleared {r : StreamReassembler} {fuel slot : ℕ}
    (enough : r.occupied.count true ≤ fuel + 1) (occupied : r.isOccupied slot = true) :
    (r.occupied.set slot false).count true ≤ fuel := by
  obtain ⟨bound, bit⟩ := List.getElem?_eq_some_iff.mp ((r.isOccupied_iff slot).mp occupied)
  rw [List.count_set bound, bit]
  simpa using Nat.sub_le_of_le_add enough

/-- Every turn of the loop empties an occupied slot, so it needs no more turns
than there are such slots. -/
theorem collect_fuel_stable {r : StreamReassembler} {fuel : ℕ}
    (enough : r.occupied.count true ≤ fuel) (count extra : ℕ) :
    collect (fuel + extra) count r = collect fuel count r := by
  induction fuel generalizing count r with
  | zero =>
      have nowhere (slot : ℕ) : r.isOccupied slot = false := by
        have none : true ∉ r.occupied := List.count_eq_zero.mp (Nat.le_zero.mp enough)
        rw [← Bool.not_eq_true, isOccupied_iff]
        exact fun found => none (List.mem_of_getElem? found)
      cases extra with
      | zero => rfl
      | succ extra => simp [collect, nowhere]
  | succ fuel inductionHypothesis =>
      rw [Nat.succ_add]
      simp only [collect]
      split
      next occupied => rw [inductionHypothesis (count_cleared enough occupied)]
      next => rfl

/-- The loop of `writeToOutput` stops by itself within `capacity` turns. -/
theorem collect_capacity_sufficient {r : StreamReassembler}
    (ring : r.occupied.length = r.capacity) (count extra : ℕ) :
    collect (r.capacity + extra) count r = collect r.capacity count r := by
  apply collect_fuel_stable
  rw [← ring]
  exact List.count_le_length

/-- Taking the byte at the origin out of the ring moves the origin forward. -/
theorem Holds.take {origin : ℕ} (holds : r.Holds whole accepted origin)
    (positive : 0 < r.capacity) (representable : r.capacity < 2 ^ 64)
    (edge : ∀ x ∈ accepted, x < origin + r.capacity) (known : origin ∈ accepted) :
    ({ r with
        unassembledBuffer := r.unassembledBuffer.set (origin % r.capacity) 32
        occupied := r.occupied.set (origin % r.capacity) false
        unassembledBytes := Word.sub 64 r.unassembledBytes 1 } : StreamReassembler).Holds
      whole accepted (origin + 1) := by
  obtain ⟨content, view, agrees⟩ := holds.bytes
  have reused : origin + r.capacity ∉ accepted := by
    intro membership
    exact Nat.lt_irrefl _ (edge _ membership)
  refine ⟨?_, ⟨_, view.advance positive 32, ?_⟩, ?_⟩
  · refine (holds.occupied.advance positive false).congr ?_
    intro x _ _
    by_cases wrapped : x = origin + r.capacity
    · simp [wrapped, reused]
    · simp [wrapped]
  · intro x membership low
    have below := edge x membership
    rw [Function.update_of_ne (by omega)]
    exact agrees x membership (by omega)
  · have count := holds.count
    have few := card_filter_le edge (origin + 1)
    rw [card_filter_of_mem known] at count
    show Word.sub 64 r.unassembledBytes 1 = _
    rw [Word.sub_eq (by omega) (by omega)]
    omega

/-- The loop of `writeToOutput` returns the stream's bytes up to the first gap. -/
theorem Holds.collect (fuel count : ℕ)
    (holds : r.Holds whole accepted (r.firstUnassembledIndex + count))
    (positive : 0 < r.capacity) (representable : r.capacity < 2 ^ 64)
    (rotation : r.seperator = r.firstUnassembledIndex % r.capacity)
    (edge : ∀ x ∈ accepted, x < r.firstUnassembledIndex + count + r.capacity) :
    let collected := StreamReassembler.collect fuel count r
    let stop := r.firstUnassembledIndex + count + collected.1.length
    collected.2.Holds whole accepted stop ∧
    collected.1 = (whole.drop (r.firstUnassembledIndex + count)).take collected.1.length ∧
    (∀ x, r.firstUnassembledIndex + count ≤ x → x < stop → x ∈ accepted) ∧
    (collected.1.length = fuel ∨ stop ∉ accepted) := by
  induction fuel generalizing count r with
  | zero => exact ⟨holds, rfl, fun x low high => by simp [StreamReassembler.collect] at high; omega,
      .inl rfl⟩
  | succ fuel inductionHypothesis =>
      have slot : (count + r.seperator) % r.capacity =
          (r.firstUnassembledIndex + count) % r.capacity := by
        rw [rotation, Nat.add_mod_mod, Nat.add_comm]
      have occupied : r.isOccupied ((r.firstUnassembledIndex + count) % r.capacity) =
          decide (r.firstUnassembledIndex + count ∈ accepted) :=
        holds.occupied.getD (Nat.le_refl _) (by omega) false
      simp only [StreamReassembler.collect, slot, occupied]
      by_cases known : r.firstUnassembledIndex + count ∈ accepted
      · simp only [known, decide_true, if_true]
        obtain ⟨content, view, agrees⟩ := holds.bytes
        have byte := agrees _ known (Nat.le_refl _)
        have front : r.unassembledBuffer.getD ((r.firstUnassembledIndex + count) % r.capacity) 32 =
            content (r.firstUnassembledIndex + count) :=
          view.getD (Nat.le_refl _) (by omega) 32
        have taken := holds.take positive representable edge known
        obtain ⟨rest, bytes, interval, stopped⟩ :=
          inductionHypothesis (count + 1) taken positive representable rotation
            (fun x membership => by
              have below := edge x membership
              show x < r.firstUnassembledIndex + (count + 1) + r.capacity
              omega)
        refine ⟨?_, ?_, ?_, ?_⟩
        · simpa [Nat.add_assoc, Nat.add_comm 1] using rest
        · obtain ⟨bound, value⟩ := List.getElem?_eq_some_iff.mp byte
          rw [front, List.length_cons, List.drop_eq_getElem_cons bound, List.take_succ_cons, value]
          congr 1
        · intro x low high
          by_cases first : x = r.firstUnassembledIndex + count
          · rw [first]
            exact known
          · refine interval x (show r.firstUnassembledIndex + (count + 1) ≤ x by omega) ?_
            simp only [List.length_cons] at high
            show x < r.firstUnassembledIndex + (count + 1) + _
            omega
        · rcases stopped with exhausted | gap
          · exact .inl (by simp [exhausted])
          · refine .inr ?_
            simpa [Nat.add_assoc, Nat.add_comm 1] using gap
      · simp only [known, decide_false, Bool.false_eq_true, if_false, List.length_nil,
          Nat.add_zero]
        exact ⟨holds, by simp, fun x low high => by omega, .inr not_false⟩

/-- What the loop of `writeToOutput` finds when it starts at the first gap. -/
theorem Assembles.collect (inv : r.Assembles whole accepted) :
    let collected := StreamReassembler.collect r.capacity 0 r
    let stop := r.firstUnassembledIndex + collected.1.length
    collected.2.Holds whole accepted stop ∧
    collected.1 = (whole.drop r.firstUnassembledIndex).take collected.1.length ∧
    (∀ x, r.firstUnassembledIndex ≤ x → x < stop → x ∈ accepted) ∧ stop ∉ accepted := by
  have edge : ∀ x ∈ accepted, x < r.firstUnassembledIndex + 0 + r.capacity := by
    intro x membership
    have read := inv.bytesRead_le
    have bounds := inv.within x membership
    omega
  obtain ⟨holds, bytes, interval, stopped⟩ :=
    Holds.collect r.capacity 0 inv.holds inv.positive inv.capacity_lt inv.seperator edge
  refine ⟨holds, bytes, interval, ?_⟩
  rcases stopped with exhausted | gap
  · intro membership
    have below := edge _ membership
    omega
  · exact gap

/-- The output has room for everything that can be assembled. -/
theorem Assembles.write_collected (inv : r.Assembles whole accepted) :
    (r.output.write (StreamReassembler.collect r.capacity 0 r).1).1 =
      { r.output with
        buffer := r.output.buffer ++ (StreamReassembler.collect r.capacity 0 r).1
        totalWrittenBytes := r.output.totalWrittenBytes +
          (StreamReassembler.collect r.capacity 0 r).1.length } := by
  obtain ⟨_, _, interval, _⟩ := inv.collect
  have accounting := inv.accounting
  have bounded := inv.stream.bounded
  have remaining := inv.stream.remainingCapacity_eq
  rw [inv.outputCapacity] at bounded remaining
  have room : (StreamReassembler.collect r.capacity 0 r).1.length ≤
      r.output.remainingCapacity := by
    by_cases empty : (StreamReassembler.collect r.capacity 0 r).1.length = 0
    · omega
    · have last := interval
        (r.firstUnassembledIndex + (StreamReassembler.collect r.capacity 0 r).1.length - 1)
        (by omega) (by omega)
      have bounds := (inv.within _ last).1
      omega
  rw [ByteStream.write_eq, Nat.min_eq_left room, List.take_length]

/-- After the assembled bytes are written out, nothing that could be assembled
waits, and the output has taken all of them. -/
theorem Assembles.writeToOutput (inv : r.Assembles whole accepted) :
    r.writeToOutput.Settled whole accepted := by
  obtain ⟨holds, bytes, interval, gap⟩ := inv.collect
  obtain ⟨output, capacity, rotation, first, _⟩ := collect_frame r.capacity 0 r
  have written := inv.write_collected
  have wellFormed := inv.stream.write (StreamReassembler.collect r.capacity 0 r).1
  rw [written] at wellFormed
  simp only [StreamReassembler.writeToOutput]
  generalize StreamReassembler.collect r.capacity 0 r = collected at *
  obtain ⟨reassembled, r'⟩ := collected
  simp only at *
  rw [output, rotation, first, capacity, written]
  refine ⟨⟨?_, wellFormed, ?_, ?_, ?_, ?_, ?_, ?_, ?_⟩, gap⟩
  · simpa [capacity] using inv.positive
  · simpa [capacity] using inv.outputCapacity
  · simp only [inv.seperator, Nat.mod_add_mod]
  · simp only [inv.written]
  · have readBound : r.output.totalReadBytes ≤ (whole.take r.firstUnassembledIndex).length := by
      rw [List.length_take, Nat.min_eq_left inv.first_le_length]
      exact inv.bytesRead_le
    simp only [inv.buffered]
    rw [List.take_add, List.drop_append_of_le_length readBound, ← bytes]
  · obtain ⟨content, view, agrees⟩ := holds.bytes
    have occupied := holds.occupied
    rw [capacity] at view occupied
    exact ⟨occupied, ⟨content, view, agrees⟩, holds.count⟩
  · intro x below
    by_cases old : x < r.firstUnassembledIndex
    · exact inv.assembled x old
    · exact interval x (by omega) below
  · intro x membership
    simpa [capacity] using inv.within x membership

theorem writeToOutput_frame (r : StreamReassembler) :
    r.writeToOutput.capacity = r.capacity ∧
    r.writeToOutput.isEofDataReceived = r.isEofDataReceived ∧
    r.writeToOutput.output.totalReadBytes = r.output.totalReadBytes ∧
    r.writeToOutput.output.isInputEnded = r.output.isInputEnded ∧
    r.writeToOutput.output.hasError = r.output.hasError ∧
    r.writeToOutput.output.isEof = r.output.isEof ∧
    r.firstUnassembledIndex ≤ r.writeToOutput.firstUnassembledIndex := by
  obtain ⟨output, capacity, _, first, eofData⟩ := collect_frame r.capacity 0 r
  simp only [StreamReassembler.writeToOutput, ByteStream.write_eq, output, capacity, first, eofData]
  exact ⟨trivial, trivial, trivial, trivial, trivial, trivial, Nat.le_add_right _ _⟩

theorem Assembles.withEofData (inv : r.Assembles whole accepted) (flag : Bool) :
    ({ r with isEofDataReceived := flag } : StreamReassembler).Assembles whole accepted :=
  ⟨inv.positive, inv.stream, inv.outputCapacity, inv.seperator, inv.written, inv.buffered,
    ⟨inv.holds.occupied, inv.holds.bytes, inv.holds.count⟩, inv.assembled, inv.within⟩

/-- The state in which `pushSubstring` decides whether the stream has ended. -/
def pushed (r : StreamReassembler) (data : List UInt8) (index : ℕ) (eof : Bool) :
    StreamReassembler :=
  ({ (r.storeData data index).1 with
      isEofDataReceived := (r.storeData data index).1.isEofDataReceived ||
        (eof && (r.storeData data index).2 == data.length) } : StreamReassembler).writeToOutput

theorem pushSubstring_eq (r : StreamReassembler) (data : List UInt8) (index : ℕ) (eof : Bool) :
    r.pushSubstring data index eof =
      if (r.pushed data index eof).isEofDataReceived &&
          (r.pushed data index eof).unassembledBytes == 0 then
        { r.pushed data index eof with output := (r.pushed data index eof).output.endInput }
      else r.pushed data index eof := rfl

theorem pushed_frame (r : StreamReassembler) (data : List UInt8) (index : ℕ) (eof : Bool) :
    (r.pushed data index eof).capacity = r.capacity ∧
    (r.pushed data index eof).isEofDataReceived =
      (r.isEofDataReceived || (eof && r.bytesCanBeStored data index == data.length)) ∧
    (r.pushed data index eof).output.totalReadBytes = r.output.totalReadBytes ∧
    (r.pushed data index eof).output.isInputEnded = r.output.isInputEnded ∧
    (r.pushed data index eof).output.hasError = r.output.hasError ∧
    (r.pushed data index eof).output.isEof = r.output.isEof ∧
    r.firstUnassembledIndex ≤ (r.pushed data index eof).firstUnassembledIndex := by
  obtain ⟨output, capacity, first, eofData⟩ := storeData_frame r data index
  have count : (r.storeData data index).2 = r.bytesCanBeStored data index := rfl
  rw [← capacity, ← output, ← first, ← eofData, ← count, pushed]
  generalize r.storeData data index = stored
  exact writeToOutput_frame _

theorem Settled.pushed (inv : r.Settled whole accepted) (slice : data <+: whole.drop index)
    (inWindow : data ≠ [] → index ≤ r.output.totalReadBytes + r.capacity)
    (fits : whole.length < 2 ^ 64) (eof : Bool) :
    (r.pushed data index eof).Settled whole
      (accepted ∪ Finset.Ico index (index + r.bytesCanBeStored data index)) :=
  ((inv.storeData slice inWindow fits).withEofData _).writeToOutput

theorem Settled.endInput (inv : r.Settled whole accepted) :
    ({ r with output := r.output.endInput } : StreamReassembler).Settled whole accepted :=
  inv.withOutput inv.stream.endInput rfl rfl (Nat.le_refl _) (by simp [ByteStream.endInput])

theorem Settled.setError (inv : r.Settled whole accepted) :
    ({ r with output := r.output.setError } : StreamReassembler).Settled whole accepted :=
  inv.withOutput inv.stream.setError rfl rfl (Nat.le_refl _) (by simp [ByteStream.setError])

/-- Whether the output is ended in the last step of a push does not matter. -/
theorem settled_of_pushed {eof : Bool} (settled : (r.pushed data index eof).Settled whole accepted) :
    (r.pushSubstring data index eof).Settled whole accepted := by
  rw [pushSubstring_eq]
  generalize r.pushed data index eof = pushed at settled ⊢
  split
  · exact settled.endInput
  · exact settled

/-- Pushing a slice of the stream accepts exactly the bytes that fit. -/
theorem Settled.pushSubstring (inv : r.Settled whole accepted)
    (slice : data <+: whole.drop index)
    (inWindow : data ≠ [] → index ≤ r.output.totalReadBytes + r.capacity)
    (fits : whole.length < 2 ^ 64) (eof : Bool) :
    (r.pushSubstring data index eof).Settled whole
      (accepted ∪ Finset.Ico index (index + r.bytesCanBeStored data index)) :=
  settled_of_pushed (inv.pushed slice inWindow fits eof)

theorem pushSubstring_frame (r : StreamReassembler) (data : List UInt8) (index : ℕ)
    (eof : Bool) :
    (r.pushSubstring data index eof).capacity = r.capacity ∧
    (r.pushSubstring data index eof).output.totalReadBytes = r.output.totalReadBytes ∧
    (r.pushSubstring data index eof).output.hasError = r.output.hasError ∧
    (r.output.isInputEnded = true →
      (r.pushSubstring data index eof).output.isInputEnded = true) := by
  obtain ⟨capacity, _, read, ended, error, _⟩ := pushed_frame r data index eof
  rw [pushSubstring_eq]
  generalize r.pushed data index eof = pushed at capacity read ended error ⊢
  split
  · exact ⟨capacity, read, error, fun _ => rfl⟩
  · exact ⟨capacity, read, error, fun before => ended.trans before⟩

/-- The last step of a push does not touch the ring. -/
theorem pushSubstring_ring (r : StreamReassembler) (data : List UInt8) (index : ℕ) (eof : Bool) :
    (r.pushSubstring data index eof).unassembledBuffer =
      (r.pushed data index eof).unassembledBuffer ∧
    (r.pushSubstring data index eof).firstUnassembledIndex =
      (r.pushed data index eof).firstUnassembledIndex := by
  rw [pushSubstring_eq]
  generalize r.pushed data index eof = pushed
  split <;> exact ⟨rfl, rfl⟩

/-- Reading from the output opens the window and changes nothing else. -/
theorem Settled.popOutput (inv : r.Settled whole accepted) (len : ℕ) :
    ({ r with output := r.output.popOutput len } : StreamReassembler).Settled whole accepted := by
  have wellFormed := inv.stream.popOutput len
  rw [ByteStream.popOutput_eq] at wellFormed ⊢
  refine inv.withOutput wellFormed rfl rfl (Nat.le_add_right _ _) ?_
  simp only [Nat.add_sub_cancel_left]
  rcases Nat.le_total len r.output.buffer.length with short | long
  · rw [Nat.min_eq_left short]
  · rw [Nat.min_eq_right long, List.drop_eq_nil_of_le long, List.drop_length]

end Sponge.StreamReassembler
