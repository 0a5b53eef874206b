import Sponge.TCPSender.Segmentation
import Sponge.TCPSender.Window

/-!
# Filling the window to the end

The loop of `fillWindow` leaves in four places.  In each of them there is
nothing left to do, so that a second call finds the same state.  And once the
SYN is acknowledged the loop is always reached, whatever acknowledgments have
arrived.
-/

namespace Sponge.TCPSender

open Lib

variable {s s' : TCPSender}

section Loop

/-- Nothing is left to send: there is no room, FIN is sent, or the stream has no
bytes yet. -/
inductive Exhausted (window : UInt16) (s : TCPSender) : Prop where
  | noRoom : s.availableWindowSize window = 0 → Exhausted window s
  | finished : s.stream.eof = true → s.isFinSent = true → Exhausted window s
  | idle : s.stream.eof = false → s.stream.buffer = [] → Exhausted window s

theorem Exhausted.fillLoop_eq {window : UInt16} (exhausted : s.Exhausted window)
    (wf : s.stream.WellFormed) (fuel : ℕ) :
    fillLoop window fuel (s.availableWindowSize window) s = s := by
  cases exhausted with
  | noRoom none => rw [none, fillLoop_noRoom]
  | finished eof sent => exact fillLoop_finished window fuel _ eof sent
  | idle running empty => exact fillLoop_idle wf window fuel _ running empty

/-- The loop runs until nothing is left to send. -/
theorem fillLoop_exhausted (window : UInt16) {fuel : ℕ} (wf : s.stream.WellFormed)
    (enough : s.stream.buffer.length + 2 ≤ fuel) :
    (fillLoop window fuel (s.availableWindowSize window) s).Exhausted window := by
  induction fuel generalizing s with
  | zero => contradiction
  | succ fuel inductionHypothesis =>
      by_cases full : s.availableWindowSize window = 0
      · rw [full, fillLoop_noRoom]
        exact .noRoom full
      cases eof : s.stream.eof with
      | true =>
          rw [fillLoop_succ, if_neg full, if_pos eof]
          split_ifs with sent
          · exact .finished eof sent
          · exact .finished eof rfl
      | false =>
          generalize size : bytesToSend (s.availableWindowSize window) = len
          have positive : 0 < len := size ▸ bytesToSend_pos full
          by_cases empty : s.stream.buffer = []
          · rw [fillLoop_idle wf window _ _ eof empty]
            exact .idle eof empty
          rw [fillLoop_turned window fuel full eof size (.inl empty)]
          have bytes := List.length_pos_iff.mpr empty
          have left : (s.turned window len).stream.buffer = s.stream.buffer.drop len :=
            s.turned_buffer window len
          refine inductionHypothesis (wf.popOutput len) ?_
          rw [left, List.length_drop]
          omega

/-- No room means that the window is full, or more than full by a multiple of
`2^64`. -/
theorem Coherent.full_of_noRoom (inv : s.Coherent) {window : UInt16}
    (noRoom : s.availableWindowSize window = 0) :
    window.toNat ≤ s.nextSeqno - s.previousAckno := by
  have bound := window.toNat_lt
  rw [availableWindowSize, Word.sub_eq_mod inv.acked_le] at noRoom
  have reduced := Nat.mod_lt (s.nextSeqno - s.previousAckno) (Nat.two_pow_pos 64)
  rw [Word.sub_eq_zero_iff (by omega) reduced] at noRoom
  rw [noRoom]
  exact Nat.mod_le _ _

end Loop

section Handshake

/-- The count of what is in flight, on 64 bits, and the room that is left below
it for an acknowledged SYN. -/
structure InFlight (s : TCPSender) : Prop where
  counted : ∃ turns, totalLength s.outstandingSegments = s.bytesInFlight + turns * 2 ^ 64
  below : totalLength s.outstandingSegments < s.nextSeqno

theorem InFlight.ne (inv : s.InFlight) : s.nextSeqno ≠ s.bytesInFlight := by
  obtain ⟨turns, counted⟩ := inv.counted
  have below := inv.below
  omega

theorem InFlight.pushSegment (inv : s.InFlight) (seg : TCPSegment) : (s.pushSegment seg).InFlight := by
  obtain ⟨turns, counted⟩ := inv.counted
  have below := inv.below
  have stamped : (s.stamped seg).lengthInSequenceSpace = seg.lengthInSequenceSpace := rfl
  refine ⟨⟨turns, ?_⟩, ?_⟩
  · rw [pushSegment_outstandingSegments, totalLength_concat, pushSegment_bytesInFlight, stamped]
    omega
  · rw [pushSegment_outstandingSegments, totalLength_concat, pushSegment_nextSeqno, stamped]
    omega

theorem InFlight.congr (inv : s.InFlight) (nextSeqno : s'.nextSeqno = s.nextSeqno)
    (inFlight : s'.bytesInFlight = s.bytesInFlight)
    (outstanding : s'.outstandingSegments = s.outstandingSegments) : s'.InFlight := by
  refine ⟨?_, ?_⟩
  · rw [outstanding, inFlight]
    exact inv.counted
  · rw [outstanding, nextSeqno]
    exact inv.below

theorem InFlight.fillStep (step : FillStep s s') (inv : s.InFlight) : s'.InFlight := by
  cases step with
  | syn => exact inv.pushSegment _
  | fin =>
      have closing : ({ s with isFinSent := true } : TCPSender).InFlight := inv.congr rfl rfl rfl
      exact closing.pushSegment _
  | data len fin =>
      have read : ({ s with
          stream := s.stream.popOutput len
          isFinSent := s.isFinSent || fin } : TCPSender).InFlight := inv.congr rfl rfl rfl
      exact read.pushSegment _
  | idle => exact inv.congr rfl rfl rfl

/-- Popping segments keeps the count, whichever are popped. -/
theorem popAcknowledged_counted (isn : WrappingInt32) (ackno : ℕ) (segments : List TCPSegment)
    {inFlight : ℕ} (counted : ∃ turns, totalLength segments = inFlight + turns * 2 ^ 64) :
    let popped := popAcknowledged isn ackno segments inFlight
    (∃ turns, totalLength popped.1 = popped.2 + turns * 2 ^ 64) ∧
      totalLength popped.1 ≤ totalLength segments := by
  induction segments generalizing inFlight with
  | nil => exact ⟨counted, Nat.le_refl _⟩
  | cons seg rest inductionHypothesis =>
      simp only [popAcknowledged]
      split
      · obtain ⟨turns, total⟩ := counted
        rw [totalLength_cons] at total
        have left : ∃ turns, totalLength rest =
            Word.sub 64 inFlight seg.lengthInSequenceSpace + turns * 2 ^ 64 :=
          ⟨totalLength rest / 2 ^ 64, by rw [Word.sub]; omega⟩
        obtain ⟨counted, fewer⟩ := inductionHypothesis left
        exact ⟨counted, fewer.trans (Nat.le_add_left _ _)⟩
      · exact ⟨counted, Nat.le_refl _⟩

/-- Until the SYN is acknowledged it is all there is; afterwards its sequence
number is no longer in flight. -/
structure Counted (s : TCPSender) : Prop where
  unacked : s.previousAckno = 0 →
    s.nextSeqno = 0 ∧ s.bytesInFlight = 0 ∧ s.outstandingSegments = [] ∨
    s.nextSeqno = 1 ∧ s.bytesInFlight = 1 ∧ s.outstandingSegments = [synSegment s.isn]
  acked : s.previousAckno ≠ 0 → s.InFlight

theorem counted_new (capacity : ℕ) (retxTimeout : UInt16) (fixedIsn : Option WrappingInt32)
    (random : UInt32) : (new capacity retxTimeout fixedIsn random).Counted :=
  ⟨fun _ => .inl ⟨rfl, rfl, rfl⟩, fun acked => absurd rfl acked⟩

theorem Counted.congr (inv : s.Counted) (isn : s'.isn = s.isn)
    (nextSeqno : s'.nextSeqno = s.nextSeqno) (inFlight : s'.bytesInFlight = s.bytesInFlight)
    (acked : s'.previousAckno = s.previousAckno)
    (outstanding : s'.outstandingSegments = s.outstandingSegments) : s'.Counted := by
  refine ⟨?_, ?_⟩
  · rw [isn, nextSeqno, inFlight, acked, outstanding]
    exact inv.unacked
  · rw [acked]
    exact fun acked => (inv.acked acked).congr nextSeqno inFlight outstanding

theorem Counted.fillWindow (inv : s.Counted) : s.fillWindow.Counted := by
  refine ⟨?_, ?_⟩
  · rw [fillWindow_previousAckno]
    intro unacked
    rcases inv.unacked unacked with ⟨unsent, none, empty⟩ | ⟨sent, one, syn⟩
    · right
      rw [TCPSender.fillWindow, if_pos unsent]
      refine ⟨?_, ?_, ?_⟩
      · rw [pushSegment_nextSeqno, unsent]
        rfl
      · rw [pushSegment_bytesInFlight, none]
        rfl
      · rw [pushSegment_outstandingSegments, empty, stamped, unsent]
        rfl
    · right
      rw [TCPSender.fillWindow, if_neg (by omega), if_pos (by omega)]
      exact ⟨sent, one, syn⟩
  · rw [fillWindow_previousAckno]
    intro acked
    exact fillWindow_invariant InFlight (inv.acked acked) fun _ _ => InFlight.fillStep

theorem Counted.acknowledge (inv : s.Counted) {ackno : ℕ} (new : s.previousAckno < ackno)
    (sent : ackno ≤ s.nextSeqno) : (s.acknowledge ackno).InFlight := by
  by_cases unacked : s.previousAckno = 0
  · -- the SYN is outstanding alone, and it is acknowledged
    obtain ⟨_, one, syn⟩ := (inv.unacked unacked).resolve_left (by omega)
    have first : ackno = 1 := by omega
    have position : unwrap (wrap 0 s.isn) s.isn 1 = 0 := unwrap_wrap s.isn (by omega) (by omega)
    have popped : popAcknowledged s.isn ackno s.outstandingSegments s.bytesInFlight = ([], 0) := by
      have length : (synSegment s.isn).lengthInSequenceSpace = 1 := rfl
      rw [syn, one, first, popAcknowledged, if_pos, popAcknowledged, length]
      · rfl
      · show unwrap (wrap 0 s.isn) s.isn 1 + 1 ≤ 1
        rw [position]
    simp only [TCPSender.acknowledge, popped]
    exact ⟨⟨0, rfl⟩, show 0 < s.nextSeqno by omega⟩
  · have before := inv.acked unacked
    have popped := popAcknowledged_counted s.isn ackno s.outstandingSegments before.counted
    exact ⟨popped.1, Nat.lt_of_le_of_lt popped.2 before.below⟩

theorem Counted.ackReceived (inv : s.Counted) (ackno : WrappingInt32) (windowSize : UInt16) :
    (s.ackReceived ackno windowSize).Counted := by
  have opened : ({ s with windowSize } : TCPSender).Counted := inv.congr rfl rfl rfl rfl rfl
  rcases s.ackReceived_cases ackno windowSize with ⟨⟨new, sent⟩, taken⟩ | ⟨_, ignored⟩
  · rw [taken]
    have acknowledged : (({ s with windowSize } : TCPSender).acknowledge
        (unwrap ackno s.isn s.previousAckno)).Counted := by
      refine ⟨?_, fun _ => opened.acknowledge new sent⟩
      intro unacked
      have unacked : unwrap ackno s.isn s.previousAckno = 0 := unacked
      omega
    exact acknowledged.fillWindow.congr rfl rfl rfl rfl rfl
  · rw [ignored]
    exact opened

theorem Counted.apply (s : TCPSender) (op : Op) (inv : s.Counted) : (s.apply op).Counted := by
  cases op with
  | fillWindow => exact inv.fillWindow
  | ackReceived ackno windowSize => exact inv.ackReceived ackno windowSize
  | tick ms =>
      exact inv.congr (s.tick_isn ms) (s.tick_nextSeqno ms) (s.tick_bytesInFlight ms)
        (s.tick_previousAckno ms) (s.tick_outstandingSegments ms)
  | _ => exact inv.congr rfl rfl rfl rfl rfl

end Handshake

/-- After the SYN is acknowledged, filling the window runs the loop to its end. -/
theorem Counted.fillWindow_exhausted (inv : s.Counted) (wf : s.stream.WellFormed)
    (acked : s.previousAckno ≠ 0) : s.fillWindow.Exhausted s.fillWindow.effectiveWindow := by
  have inFlight := inv.acked acked
  have started : s.nextSeqno ≠ 0 := Nat.ne_of_gt (Nat.zero_lt_of_lt inFlight.below)
  have window : s.fillWindow.effectiveWindow = s.effectiveWindow := by
    rw [effectiveWindow, fillWindow_windowSize]
    rfl
  rw [window, TCPSender.fillWindow, if_neg started, if_neg inFlight.ne]
  exact fillLoop_exhausted s.effectiveWindow wf (Nat.le_refl _)

theorem Counted.fillWindow_idempotent (inv : s.Counted) (coherent : s.Coherent) :
    s.fillWindow.fillWindow = s.fillWindow := by
  have counted := inv.fillWindow
  by_cases acked : s.previousAckno = 0
  · have unacked : s.fillWindow.previousAckno = 0 := (fillWindow_previousAckno s).trans acked
    rcases counted.unacked unacked with ⟨unsent, -, -⟩ | ⟨sent, one, -⟩
    · -- the first call has sent the SYN
      rcases inv.unacked acked with ⟨before, -, -⟩ | ⟨before, -, -⟩
      · rw [TCPSender.fillWindow, if_pos before] at unsent
        contradiction
      · have grown := (later_fillWindow s).nextSeqno
        omega
    · rw [TCPSender.fillWindow.eq_def s.fillWindow, if_neg (by omega), if_pos (by omega)]
  · have kept : s.fillWindow.previousAckno ≠ 0 := by
      rw [fillWindow_previousAckno]
      exact acked
    have inFlight := counted.acked kept
    have started : s.fillWindow.nextSeqno ≠ 0 :=
      Nat.ne_of_gt (Nat.zero_lt_of_lt inFlight.below)
    have exhausted := inv.fillWindow_exhausted coherent.stream acked
    rw [TCPSender.fillWindow.eq_def s.fillWindow, if_neg started, if_neg inFlight.ne]
    exact exhausted.fillLoop_eq coherent.fillWindow.stream _

/-- In every reachable state the loop of `fillWindow` ends by itself: a turn that
is not the last moves `nextSeqno`, and more fuel gives the same state.  Once the
SYN is acknowledged, the call returns with the window full, with nothing to
send, or with FIN sent; and a second call changes nothing. -/
theorem fillWindow_maximal_idempotent (capacity : ℕ) (representable : capacity < 2 ^ 64)
    (retxTimeout : UInt16) (fixedIsn : Option WrappingInt32) (random : UInt32) (ops : List Op) :
    let s := run apply (new capacity retxTimeout fixedIsn random) ops
    (s.nextSeqno ≠ 0 → s.nextSeqno ≠ s.bytesInFlight → ∀ fuel, s.stream.bufferSize + 2 ≤ fuel →
      fillLoop s.effectiveWindow fuel (s.availableWindowSize s.effectiveWindow) s = s.fillWindow) ∧
    (s.fillWindow.previousAckno ≠ 0 →
      max s.fillWindow.windowSize.toNat 1 ≤ s.fillWindow.nextSeqno - s.fillWindow.previousAckno ∨
      s.fillWindow.stream.bufferEmpty = true ∧ s.fillWindow.stream.inputEnded = false ∨
      s.fillWindow.isFinSent = true) ∧
    s.fillWindow.fillWindow = s.fillWindow := by
  intro s
  have counted : s.Counted :=
    run_invariant Counted ops (counted_new capacity retxTimeout fixedIsn random) Counted.apply
  have coherent : s.Coherent :=
    run_invariant Coherent ops (coherent_new representable retxTimeout fixedIsn random)
      Coherent.apply
  refine ⟨?_, ?_, counted.fillWindow_idempotent coherent⟩
  · intro started acked fuel enough
    obtain ⟨extra, rfl⟩ := Nat.exists_eq_add_of_le enough
    rw [ByteStream.bufferSize, fillLoop_fuel_stable _ (Nat.le_refl _), TCPSender.fillWindow,
      if_neg started, if_neg acked]
  · rw [fillWindow_previousAckno]
    intro acked
    rw [← fillWindow_previousAckno s, ← effectiveWindow_toNat]
    cases counted.fillWindow_exhausted coherent.stream acked with
    | noRoom full => exact .inl (coherent.fillWindow.full_of_noRoom full)
    | finished eof sent => exact .inr (.inr sent)
    | idle running empty =>
        refine .inr (.inl ⟨List.isEmpty_iff.mpr empty, ?_⟩)
        -- a stream that has ended and is empty is at its end
        rw [← Bool.not_eq_true]
        intro ended
        rw [ByteStream.eof, coherent.fillWindow.stream.drained ended empty] at running
        contradiction

/-- More is in flight than the window allows, and the loop sends the rest. -/
theorem fillWindow_maximal_idempotent_overfull :
    let ops : List Op := [.fillWindow, .ackReceived ⟨1⟩ 3, .write [97, 98, 99], .fillWindow,
      .ackReceived ⟨1⟩ 1, .write [100]]
    let s := run apply (new 10 1000 (some ⟨0⟩) 0) ops
    max s.windowSize.toNat 1 < s.nextSeqno - s.previousAckno ∧ s.fillWindow ≠ s ∧
      s.fillWindow.fillWindow = s.fillWindow :=
  ⟨by decide, by decide, (fillWindow_maximal_idempotent 10 (by decide) 1000 (some ⟨0⟩) 0
    [.fillWindow, .ackReceived ⟨1⟩ 3, .write [97, 98, 99], .fillWindow, .ackReceived ⟨1⟩ 1,
      .write [100]]).2.2⟩

end Sponge.TCPSender
