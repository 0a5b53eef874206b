import Sponge.TCPSender.Progress
import Sponge.Lib.Run

/-!
# Respecting the advertised window

`fillWindow` computes the free part of the window by an unsigned subtraction,
and decides about FIN against the whole window.  Both are right only under
conditions on the state before the call, and here these conditions are exact.
-/

namespace Sponge.TCPSender

open Lib

theorem effectiveWindow_toNat (s : TCPSender) :
    s.effectiveWindow.toNat = max s.windowSize.toNat 1 := by
  unfold effectiveWindow
  split_ifs with zero
  · simp [zero]
  · have positive : s.windowSize.toNat ≠ 0 := by
      intro none
      exact zero (UInt16.toNat_inj.mp none)
    omega

/-- What holds of every reachable sender, whatever its owner does. -/
structure Coherent (s : TCPSender) : Prop where
  stream : s.stream.WellFormed
  acked_le : s.previousAckno ≤ s.nextSeqno

theorem coherent_new {capacity : ℕ} (representable : capacity < 2 ^ 64) (retxTimeout : UInt16)
    (fixedIsn : Option WrappingInt32) (random : UInt32) :
    (new capacity retxTimeout fixedIsn random).Coherent :=
  ⟨ByteStream.wellFormed_new representable, Nat.le_refl _⟩

theorem Coherent.fillStep {s s' : TCPSender} (step : FillStep s s') (inv : s.Coherent) :
    s'.Coherent := by
  have grown := step.nextSeqno_le
  cases step with
  | syn => exact ⟨inv.stream, Nat.le_trans inv.acked_le grown⟩
  | fin => exact ⟨inv.stream, Nat.le_trans inv.acked_le grown⟩
  | data len => exact ⟨inv.stream.popOutput len, Nat.le_trans inv.acked_le grown⟩
  | idle len => exact ⟨inv.stream.popOutput len, inv.acked_le⟩

theorem Coherent.fillWindow {s : TCPSender} (inv : s.Coherent) : s.fillWindow.Coherent :=
  fillWindow_invariant Coherent inv fun _ _ => Coherent.fillStep

theorem Coherent.ackReceived {s : TCPSender} (inv : s.Coherent) (ackno : WrappingInt32)
    (windowSize : UInt16) : (s.ackReceived ackno windowSize).Coherent := by
  rcases s.ackReceived_cases ackno windowSize with ⟨⟨_, sent⟩, taken⟩ | ⟨_, ignored⟩
  · rw [taken]
    have acknowledged : (({ s with windowSize } : TCPSender).acknowledge
        (unwrap ackno s.isn s.previousAckno)).Coherent := ⟨inv.stream, sent⟩
    exact ⟨acknowledged.fillWindow.stream, acknowledged.fillWindow.acked_le⟩
  · rw [ignored]
    exact ⟨inv.stream, inv.acked_le⟩

theorem Coherent.tick {s : TCPSender} (inv : s.Coherent) (ms : ℕ) : (s.tick ms).Coherent := by
  refine ⟨?_, ?_⟩
  · rw [tick_stream]
    exact inv.stream
  · rw [tick_previousAckno, tick_nextSeqno]
    exact inv.acked_le

theorem Coherent.apply (s : TCPSender) (op : Op) (inv : s.Coherent) : (s.apply op).Coherent := by
  cases op with
  | write data => exact ⟨inv.stream.write data, inv.acked_le⟩
  | endInput => exact ⟨inv.stream.endInput, inv.acked_le⟩
  | setError => exact ⟨inv.stream.setError, inv.acked_le⟩
  | fillWindow => exact inv.fillWindow
  | ackReceived ackno windowSize => exact inv.ackReceived ackno windowSize
  | tick ms => exact inv.tick ms
  | sendEmptySegment => exact ⟨inv.stream, inv.acked_le⟩
  | popSegment => exact ⟨inv.stream, inv.acked_le⟩

/-- As long as the window is not exceeded, its free part is what it seems. -/
theorem Coherent.availableWindowSize_eq {s : TCPSender} (inv : s.Coherent) {window : UInt16}
    (within : s.nextSeqno - s.previousAckno ≤ window.toNat) :
    s.availableWindowSize window = window.toNat - (s.nextSeqno - s.previousAckno) := by
  have bound := window.toNat_lt
  have inner := Word.sub_eq inv.acked_le (show s.nextSeqno - s.previousAckno < 2 ^ 64 by omega)
  rw [availableWindowSize, inner, Word.sub_eq within (by omega)]

/-- Once more is in flight than the window allows, the subtraction wraps and
the window looks wide open. -/
theorem Coherent.availableWindowSize_ne_zero {s : TCPSender} (inv : s.Coherent)
    {window : UInt16} (exceeded : window.toNat < s.nextSeqno - s.previousAckno)
    (representable : s.nextSeqno < 2 ^ 64) : s.availableWindowSize window ≠ 0 := by
  have inner := Word.sub_eq inv.acked_le (show s.nextSeqno - s.previousAckno < 2 ^ 64 by omega)
  rw [availableWindowSize, inner, Word.sub_borrow exceeded (by omega)]
  omega

@[simp]
theorem fillLoop_noRoom (window : UInt16) (fuel : ℕ) (s : TCPSender) :
    fillLoop window fuel 0 s = s := by
  cases fuel with
  | zero => rfl
  | succ fuel => simp [fillLoop_succ]

/-- A turn of the loop that pushes a segment makes the queue longer, whatever
comes after it. -/
theorem fillLoop_pushed_ne (window : UInt16) (fuel available : ℕ) (s next : TCPSender)
    (seg : TCPSegment) (started : next.nextSeqno ≠ 0)
    (queue : next.segmentsOut = s.segmentsOut) :
    fillLoop window fuel available (next.pushSegment seg) ≠ s := by
  have steps := fillLoop_steps window fuel available (next.pushSegment seg)
    (by simp only [pushSegment_nextSeqno]; omega)
  have grown : (next.pushSegment seg).segmentsOut <+:
      (fillLoop window fuel available (next.pushSegment seg)).segmentsOut := by
    generalize fillLoop window fuel available (next.pushSegment seg) = filled at steps
    induction steps with
    | refl => exact List.prefix_rfl
    | tail _ step inductionHypothesis => exact inductionHypothesis.trans step.segmentsOut_grows
  intro unchanged
  have length := grown.length_le
  rw [unchanged, pushSegment_segmentsOut, queue, List.length_append] at length
  exact Nat.not_succ_le_self _ length

/-- The state after a turn that pushed its segment. -/
def turned (s : TCPSender) (window : UInt16) (len : ℕ) : TCPSender :=
  (s.turnSender window len).pushSegment (s.turnSegment window len)

theorem fillLoop_turned (window : UInt16) (fuel : ℕ) {available len : ℕ} {s : TCPSender}
    (room : available ≠ 0) (running : s.stream.isEof = false) (size : bytesToSend available = len)
    (pushes : s.stream.buffer ≠ [] ∨ s.addsFin window len = true) :
    fillLoop window (fuel + 1) available s =
      fillLoop window fuel ((s.turned window len).availableWindowSize window)
        (s.turned window len) := by
  have positive := bytesToSend_pos room
  rw [fillLoop_succ, if_neg room, if_neg (by rw [ByteStream.eof, running]; decide), if_pos ?_,
    size]
  · rfl
  · rw [turnSegment_length, size]
    rcases pushes with bytes | fin
    · have length := List.length_pos_iff.mpr bytes
      omega
    · rw [fin]
      exact Nat.succ_ne_zero _

theorem fillLoop_idle {s : TCPSender} (wf : s.stream.WellFormed) (window : UInt16)
    (fuel available : ℕ) (running : s.stream.isEof = false) (empty : s.stream.buffer = []) :
    fillLoop window fuel available s = s := by
  cases fuel with
  | zero => rfl
  | succ fuel =>
      have unchanged := wf.popOutput_idle (bytesToSend available) running empty
      have noFin : s.addsFin window (bytesToSend available) = false := by
        rw [addsFin, unchanged, ByteStream.eof, running, Bool.and_false]
      have nothing : (s.turnSegment window (bytesToSend available)).lengthInSequenceSpace = 0 := by
        simp [turnSegment_length, noFin, empty]
      rw [fillLoop_succ, if_neg (show ¬ s.stream.eof = true by simp [ByteStream.eof, running])]
      simp only [nothing, turnSender, unchanged, noFin, Bool.or_false, ne_eq, not_true, if_false,
        ite_self]

/-- What a turn of the loop with room to spare leaves alone. -/
theorem fillLoop_idle_iff {s : TCPSender} (wf : s.stream.WellFormed) (window : UInt16)
    (fuel available : ℕ) (room : available ≠ 0) (started : s.nextSeqno ≠ 0) :
    fillLoop window (fuel + 1) available s = s ↔
      if s.stream.eof then s.isFinSent = true else s.stream.buffer = [] := by
  cases eof : s.stream.eof with
  | true =>
      rw [fillLoop_succ, if_neg room]
      simp only [eof, if_true]
      cases sent : s.isFinSent with
      | true => simp
      | false =>
          simp only [Bool.false_eq_true, if_false, iff_false]
          exact fillLoop_pushed_ne window 0 0 s { s with isFinSent := true } _ started rfl
  | false =>
      simp only [Bool.false_eq_true, if_false]
      constructor
      · intro unchanged
        by_contra bytes
        rw [fillLoop_turned window fuel room eof rfl (Or.inl bytes)] at unchanged
        exact fillLoop_pushed_ne window fuel _ s (s.turnSender window (bytesToSend available)) _
          started rfl unchanged
      · exact fillLoop_idle wf window _ available eof

/-- A full window stops the sender exactly when it is not overfull, the SYN is
still unacknowledged, or there is nothing to send. -/
theorem full_window_unchanged_iff (capacity : ℕ) (representable : capacity < 2 ^ 64)
    (retxTimeout : UInt16) (fixedIsn : Option WrappingInt32) (random : UInt32) (ops : List Op) :
    let s := run apply (new capacity retxTimeout fixedIsn random) ops
    s.nextSeqno ≠ 0 → s.nextSeqno < 2 ^ 64 →
    max s.windowSize.toNat 1 ≤ s.nextSeqno - s.previousAckno →
    (s.fillWindow = s ↔
      s.nextSeqno = s.bytesInFlight ∨
      s.nextSeqno - s.previousAckno = max s.windowSize.toNat 1 ∨
      if s.stream.eof then s.isFinSent = true else s.stream.buffer = []) := by
  intro s started bounded full
  have inv : s.Coherent :=
    run_invariant Coherent ops (coherent_new representable retxTimeout fixedIsn random)
      Coherent.apply
  rw [← effectiveWindow_toNat] at full ⊢
  rw [fillWindow, if_neg started]
  by_cases unacked : s.nextSeqno = s.bytesInFlight
  · simp [unacked]
  rw [if_neg unacked]
  simp only [unacked, false_or]
  by_cases exactly : s.nextSeqno - s.previousAckno = s.effectiveWindow.toNat
  · rw [inv.availableWindowSize_eq (Nat.le_of_eq exactly), exactly, Nat.sub_self, fillLoop_noRoom]
    simp
  · have room := inv.availableWindowSize_ne_zero (show s.effectiveWindow.toNat < _ by omega) bounded
    rw [fillLoop_idle_iff inv.stream _ _ _ room started]
    simp only [exactly, false_or]

/-- A window that shrinks below what is in flight opens the sender up. -/
theorem full_window_not_respected :
    let ops : List Op := [.fillWindow, .ackReceived ⟨1⟩ 3, .write [97, 98, 99], .fillWindow,
      .ackReceived ⟨1⟩ 1, .write [100]]
    let s := run apply (new 10 1000 (some ⟨0⟩) 0) ops
    s.nextSeqno ≠ 0 ∧ max s.windowSize.toNat 1 ≤ s.nextSeqno - s.previousAckno ∧
      s.fillWindow ≠ s ∧ s.segmentsOut.length < s.fillWindow.segmentsOut.length := by
  decide

theorem full_window_unchanged_iff_exactly_full :
    let ops : List Op := [.fillWindow, .ackReceived ⟨1⟩ 3, .write [97, 98, 99, 100], .fillWindow]
    let s := run apply (new 10 1000 (some ⟨0⟩) 0) ops
    s.fillWindow = s ↔
      s.nextSeqno = s.bytesInFlight ∨
      s.nextSeqno - s.previousAckno = max s.windowSize.toNat 1 ∨
      if s.stream.eof then s.isFinSent = true else s.stream.buffer = [] :=
  full_window_unchanged_iff 10 (by decide) 1000 (some ⟨0⟩) 0
    [.fillWindow, .ackReceived ⟨1⟩ 3, .write [97, 98, 99, 100], .fillWindow]
    (by decide) (by decide) (by decide)

/-- On a stream that is still running, a turn adds FIN exactly when it drains
the ended stream without filling the whole window by itself. -/
theorem addsFin_iff {s : TCPSender} (wf : s.stream.WellFormed) (running : s.stream.isEof = false)
    (window : UInt16) {len : ℕ} (small : len < 2 ^ 64) :
    s.addsFin window len = true ↔ window.toNat ≠ min len s.stream.buffer.length ∧
      s.stream.isInputEnded = true ∧ s.stream.buffer.length ≤ len := by
  have bound := window.toNat_lt
  have room := Word.sub_eq_zero_iff (show window.toNat < 2 ^ 64 by omega)
    (show (s.stream.buffer.take len).length < 2 ^ 64 by rw [List.length_take]; omega)
  rw [List.length_take] at room
  rw [addsFin, ByteStream.eof, wf.popOutput_isEof len, Bool.and_eq_true, decide_eq_true_eq,
    List.length_take, gt_iff_lt, Nat.pos_iff_ne_zero, ne_eq, room]
  cases ended : s.stream.isInputEnded with
  | false => simp [running]
  | true => simp

theorem turned_nextSeqno (s : TCPSender) (window : UInt16) (len : ℕ) :
    (s.turned window len).nextSeqno = s.nextSeqno +
      (min len s.stream.buffer.length + if s.addsFin window len then 1 else 0) := by
  rw [turned, pushSegment_nextSeqno, turnSegment_length]
  rfl

theorem turned_buffer (s : TCPSender) (window : UInt16) (len : ℕ) :
    (s.turned window len).stream.buffer = s.stream.buffer.drop len :=
  s.stream.popOutput_buffer len

theorem turned_isInputEnded (s : TCPSender) (window : UInt16) (len : ℕ) :
    (s.turned window len).stream.isInputEnded = s.stream.isInputEnded :=
  s.stream.popOutput_inputEnded len

theorem Coherent.turned {s : TCPSender} (inv : s.Coherent) (window : UInt16) (len : ℕ) :
    (s.turned window len).Coherent :=
  ⟨inv.stream.popOutput len, Nat.le_trans inv.acked_le (Nat.le_add_right _ _)⟩

/-- A turn that does not drain an ended stream leaves it running. -/
theorem Coherent.turned_running {s : TCPSender} (inv : s.Coherent)
    (running : s.stream.isEof = false) (window : UInt16) {len : ℕ}
    (more : ¬ (s.stream.isInputEnded = true ∧ s.stream.buffer.length ≤ len)) :
    (s.turned window len).stream.isEof = false := by
  rw [TCPSender.turned, pushSegment_stream, turnSender, inv.stream.popOutput_isEof len, running]
  cases closed : s.stream.isInputEnded with
  | true => simpa [closed] using more
  | false => rfl

/-- A turn that drains the ended stream is the last one. -/
theorem Coherent.fillLoop_drained {s : TCPSender} (inv : s.Coherent) (window : UInt16)
    (fuel len : ℕ) (ended : s.stream.isInputEnded = true)
    (drains : s.stream.buffer.length ≤ len) (fin : s.addsFin window len = true) :
    fillLoop window fuel ((s.turned window len).availableWindowSize window)
      (s.turned window len) = s.turned window len := by
  apply fillLoop_finished
  · have eof := inv.stream.popOutput_isEof len
    rw [ended, if_pos rfl, decide_eq_true drains] at eof
    exact eof
  · show (s.isFinSent || s.addsFin window len) = true
    rw [fin, Bool.or_true]

/-- So is a turn that fills the window. -/
theorem Coherent.fillLoop_filled {s : TCPSender} (inv : s.Coherent) (window : UInt16) (fuel : ℕ)
    (full : s.nextSeqno - s.previousAckno = window.toNat) :
    fillLoop window fuel (s.availableWindowSize window) s = s := by
  rw [inv.availableWindowSize_eq (Nat.le_of_eq full), full, Nat.sub_self, fillLoop_noRoom]

/-- A turn asks for what is free, but for no more than fits into a segment. -/
theorem Coherent.bytesToSend_eq {s : TCPSender} (inv : s.Coherent) {window : UInt16}
    (within : s.nextSeqno - s.previousAckno ≤ window.toNat) :
    bytesToSend (s.availableWindowSize window) =
      min (window.toNat - (s.nextSeqno - s.previousAckno)) TCPConfig.maxPayloadSize := by
  rw [inv.availableWindowSize_eq within, bytesToSend]
  split_ifs <;> omega

/-- A turn that drains the ended stream sends FIN too, unless its bytes alone
fill the whole window. -/
theorem Coherent.fillLoop_draining {s : TCPSender} (inv : s.Coherent) {window : UInt16} (fuel : ℕ)
    (running : s.stream.isEof = false) (room : s.nextSeqno - s.previousAckno < window.toNat)
    (ended : s.stream.isInputEnded = true)
    (drains : s.stream.buffer.length ≤ bytesToSend (s.availableWindowSize window)) :
    (fillLoop window (fuel + 1) (s.availableWindowSize window) s).nextSeqno =
      s.nextSeqno + s.stream.buffer.length +
        if window.toNat = s.stream.buffer.length then 0 else 1 := by
  have available := inv.availableWindowSize_eq (Nat.le_of_lt room)
  have free : s.availableWindowSize window ≠ 0 := by omega
  have width := inv.bytesToSend_eq (Nat.le_of_lt room)
  generalize size : bytesToSend (s.availableWindowSize window) = len at drains width
  have small : len < 2 ^ 64 := by
    have bound := window.toNat_lt
    omega
  have fin := addsFin_iff inv.stream running window small
  have next := s.turned_nextSeqno window len
  simp only [ended, drains, and_true, Nat.min_eq_right] at fin next
  by_cases whole : window.toNat = s.stream.buffer.length
  · have noFin : s.addsFin window len = false := by simpa [whole] using fin
    have bytes : s.stream.buffer ≠ [] := List.length_pos_iff.mp (by omega)
    rw [noFin, if_neg Bool.false_ne_true] at next
    have full : (s.turned window len).nextSeqno - (s.turned window len).previousAckno =
        window.toNat := by
      show (s.turned window len).nextSeqno - s.previousAckno = window.toNat
      have acked := inv.acked_le
      omega
    rw [fillLoop_turned window fuel free running size (Or.inl bytes),
      (inv.turned window len).fillLoop_filled window fuel full, next, if_pos whole]
    rfl
  · have adds := fin.mpr whole
    rw [adds, if_pos rfl] at next
    rw [fillLoop_turned window fuel free running size (Or.inr adds),
      inv.fillLoop_drained window fuel len ended drains adds, next, if_neg whole, Nat.add_assoc]

/-- The loop on a running stream ends beyond the window exactly when the bytes
left in the ended stream fill what is free, and not a whole window of one
segment. -/
theorem fillLoop_within_iff (window : UInt16) (fuel : ℕ) (s : TCPSender) (inv : s.Coherent)
    (running : s.stream.isEof = false)
    (room : s.nextSeqno - s.previousAckno < window.toNat)
    (enough : s.stream.buffer.length < fuel) :
    (fillLoop window fuel (s.availableWindowSize window) s).nextSeqno - s.previousAckno ≤
        window.toNat ↔
      ¬ (s.stream.isInputEnded = true ∧
        s.stream.buffer.length = window.toNat - (s.nextSeqno - s.previousAckno) ∧
        ¬ (s.nextSeqno = s.previousAckno ∧ window.toNat ≤ TCPConfig.maxPayloadSize)) := by
  induction fuel generalizing s with
  | zero => contradiction
  | succ fuel inductionHypothesis =>
      have acked := inv.acked_le
      have available := inv.availableWindowSize_eq (Nat.le_of_lt room)
      have free : s.availableWindowSize window ≠ 0 := by omega
      have width := inv.bytesToSend_eq (Nat.le_of_lt room)
      have draining := inv.fillLoop_draining fuel running room
      generalize size : bytesToSend (s.availableWindowSize window) = len at width draining
      simp only [TCPConfig.maxPayloadSize] at width ⊢
      by_cases ended : s.stream.isInputEnded = true ∧ s.stream.buffer.length ≤ len
      · rw [draining ended.1 ended.2]
        simp only [ended.1, true_and]
        split_ifs <;> omega
      have noFin : s.addsFin window len = false := by
        have bound := window.toNat_lt
        rw [← Bool.not_eq_true, addsFin_iff inv.stream running window (by omega)]
        exact fun adds => ended adds.2
      by_cases empty : s.stream.buffer = []
      · have open' : s.stream.isInputEnded = false := by
          rw [← Bool.not_eq_true]
          exact fun closed => ended ⟨closed, by rw [empty]; exact Nat.zero_le _⟩
        rw [fillLoop_idle inv.stream window _ _ running empty, open']
        simp only [Bool.false_eq_true, false_and, not_false_eq_true, iff_true]
        omega
      have length := List.length_pos_iff.mpr empty
      have next := s.turned_nextSeqno window len
      rw [noFin, if_neg Bool.false_ne_true] at next
      rw [fillLoop_turned window fuel free running size (Or.inl empty)]
      by_cases full : (s.turned window len).nextSeqno - s.previousAckno = window.toNat
      · -- the window is full before the stream is drained
        rw [(inv.turned window len).fillLoop_filled window fuel full]
        cases closed : s.stream.isInputEnded with
        | true =>
            have long : ¬ s.stream.buffer.length ≤ len := fun short => ended ⟨closed, short⟩
            omega
        | false =>
            simp only [Bool.false_eq_true, false_and, not_false_eq_true, iff_true]
            omega
      · have left := s.turned_buffer window len
        have rest := inductionHypothesis (s.turned window len) (inv.turned window len)
          (inv.turned_running running window ended) (by
            show (s.turned window len).nextSeqno - s.previousAckno < window.toNat
            omega) (by rw [left, List.length_drop]; omega)
        rw [left, List.length_drop, turned_isInputEnded,
          show (s.turned window len).previousAckno = s.previousAckno from rfl] at rest
        rw [rest]
        cases closed : s.stream.isInputEnded with
        | true =>
            have long : ¬ s.stream.buffer.length ≤ len := fun short => ended ⟨closed, short⟩
            clear rest inductionHypothesis draining
            simp only [true_and, TCPConfig.maxPayloadSize]
            omega
        | false => simp

/-- `fillWindow` stays within a window that is not full unless the ended stream
holds exactly what is free, and something else is in flight or the bytes do not
fit into one segment. -/
theorem open_window_respected_iff (capacity : ℕ) (representable : capacity < 2 ^ 64)
    (retxTimeout : UInt16) (fixedIsn : Option WrappingInt32) (random : UInt32) (ops : List Op) :
    let s := run apply (new capacity retxTimeout fixedIsn random) ops
    s.nextSeqno - s.previousAckno < max s.windowSize.toNat 1 →
    (s.fillWindow.nextSeqno - s.fillWindow.previousAckno ≤ max s.windowSize.toNat 1 ↔
      ¬ (s.nextSeqno ≠ 0 ∧ s.nextSeqno ≠ s.bytesInFlight ∧ s.stream.eof = false ∧
        s.stream.inputEnded = true ∧
        s.stream.bufferSize = max s.windowSize.toNat 1 - (s.nextSeqno - s.previousAckno) ∧
        (s.nextSeqno ≠ s.previousAckno ∨
          TCPConfig.maxPayloadSize < max s.windowSize.toNat 1))) := by
  intro s room
  have inv : s.Coherent :=
    run_invariant Coherent ops (coherent_new representable retxTimeout fixedIsn random)
      Coherent.apply
  rw [fillWindow_previousAckno]
  rw [← effectiveWindow_toNat] at room ⊢
  rw [fillWindow]
  by_cases unsent : s.nextSeqno = 0
  · rw [if_pos unsent]
    simp [unsent, TCPSegment.lengthInSequenceSpace]
    omega
  rw [if_neg unsent]
  by_cases unacked : s.nextSeqno = s.bytesInFlight
  · rw [if_pos unacked]
    simp [unacked]
    omega
  rw [if_neg unacked]
  cases eof : s.stream.eof with
  | true =>
      rw [fillLoop_succ]
      simp only [eof, Bool.true_eq_false, false_and, and_false, not_false_eq_true, iff_true, if_true]
      split_ifs with none sent
      · omega
      · omega
      · rw [pushSegment_nextSeqno]
        simp only [TCPSegment.lengthInSequenceSpace]
        simp
        omega
  | false =>
      rw [fillLoop_within_iff _ _ s inv eof room (by omega)]
      simp [unsent, unacked, ByteStream.inputEnded, ByteStream.bufferSize, imp_iff_not_or]

/-- The last bytes of an ended stream fill the window behind bytes in flight,
and FIN goes one beyond it. -/
theorem open_window_exceeded_by_fin :
    let ops : List Op := [.fillWindow, .ackReceived ⟨1⟩ 5, .write [97, 98], .fillWindow,
      .write [99, 100, 101], .endInput]
    let s := run apply (new 10 1000 (some ⟨0⟩) 0) ops
    s.nextSeqno - s.previousAckno < max s.windowSize.toNat 1 ∧
      max s.windowSize.toNat 1 < s.fillWindow.nextSeqno - s.fillWindow.previousAckno := by
  decide

theorem open_window_respected_iff_room_for_fin :
    let ops : List Op := [.fillWindow, .ackReceived ⟨1⟩ 6, .write [97, 98], .fillWindow,
      .write [99, 100, 101], .endInput]
    let s := run apply (new 10 1000 (some ⟨0⟩) 0) ops
    (s.fillWindow.nextSeqno - s.fillWindow.previousAckno ≤ max s.windowSize.toNat 1 ↔
      ¬ (s.nextSeqno ≠ 0 ∧ s.nextSeqno ≠ s.bytesInFlight ∧ s.stream.eof = false ∧
        s.stream.inputEnded = true ∧
        s.stream.bufferSize = max s.windowSize.toNat 1 - (s.nextSeqno - s.previousAckno) ∧
        (s.nextSeqno ≠ s.previousAckno ∨
          TCPConfig.maxPayloadSize < max s.windowSize.toNat 1))) :=
  open_window_respected_iff 10 (by decide) 1000 (some ⟨0⟩) 0
    [.fillWindow, .ackReceived ⟨1⟩ 6, .write [97, 98], .fillWindow, .write [99, 100, 101],
      .endInput] (by decide)

end Sponge.TCPSender
