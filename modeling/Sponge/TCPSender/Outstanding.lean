import Sponge.TCPSender.Progress
import Sponge.Lib.Run
import Mathlib.Algebra.BigOperators.Group.List.Basic

/-!
# The outstanding queue partitions the unacknowledged sequence space

`ackReceived` finds the absolute position of a queued segment by unwrapping
its 32-bit number against the acknowledgment number that has just arrived.
This is exact as long as fewer than `2^31` sequence numbers are outstanding,
whatever acknowledgment numbers arrive.
-/

namespace Sponge.TCPSender

open Lib

/-- The sequence numbers occupied by a list of segments. -/
def totalLength (segments : List TCPSegment) : ℕ :=
  (segments.map TCPSegment.lengthInSequenceSpace).sum

@[simp]
theorem totalLength_nil : totalLength [] = 0 := rfl

@[simp]
theorem totalLength_cons (seg : TCPSegment) (rest : List TCPSegment) :
    totalLength (seg :: rest) = seg.lengthInSequenceSpace + totalLength rest := rfl

@[simp]
theorem totalLength_concat (segments : List TCPSegment) (seg : TCPSegment) :
    totalLength (segments ++ [seg]) = totalLength segments + seg.lengthInSequenceSpace := by
  simp [totalLength]

/-- The segments cover `[start, stop)` one after the other, and none is empty. -/
def Covers (isn : WrappingInt32) : ℕ → List TCPSegment → ℕ → Prop
  | start, [], stop => start = stop
  | start, seg :: rest, stop =>
      0 < seg.lengthInSequenceSpace ∧ seg.header.seqno = wrap start isn ∧
        Covers isn (start + seg.lengthInSequenceSpace) rest stop

theorem Covers.length {isn : WrappingInt32} {start stop : ℕ} {segments : List TCPSegment}
    (covers : Covers isn start segments stop) : start + totalLength segments = stop := by
  induction segments generalizing start with
  | nil => exact covers
  | cons seg rest inductionHypothesis =>
      have tail := inductionHypothesis covers.2.2
      rw [totalLength_cons]
      omega

theorem Covers.concat {isn : WrappingInt32} {start stop : ℕ} {segments : List TCPSegment}
    (covers : Covers isn start segments stop) {seg : TCPSegment}
    (occupies : 0 < seg.lengthInSequenceSpace) (seqno : seg.header.seqno = wrap stop isn) :
    Covers isn start (segments ++ [seg]) (stop + seg.lengthInSequenceSpace) := by
  induction segments generalizing start with
  | nil =>
      have same : start = stop := covers
      subst same
      exact ⟨occupies, seqno, rfl⟩
  | cons first rest inductionHypothesis =>
      exact ⟨covers.1, covers.2.1, inductionHypothesis covers.2.2⟩

/-- Every segment of a cover starts where the segments before it end. -/
theorem Covers.seqno_eq {isn : WrappingInt32} {start stop : ℕ}
    {before after : List TCPSegment} {seg : TCPSegment}
    (covers : Covers isn start (before ++ seg :: after) stop) :
    0 < seg.lengthInSequenceSpace ∧ seg.header.seqno = wrap (start + totalLength before) isn := by
  induction before generalizing start with
  | nil => exact ⟨covers.1, covers.2.1⟩
  | cons first rest inductionHypothesis =>
      have tail := inductionHypothesis covers.2.2
      rw [totalLength_cons, ← Nat.add_assoc]
      exact tail

/-- What the fields of a sender say about the unacknowledged sequence space. -/
structure Partitioned (s : TCPSender) : Prop where
  inFlight_le : s.bytesInFlight ≤ s.nextSeqno
  covers : Covers s.isn (s.nextSeqno - s.bytesInFlight) s.outstandingSegments s.nextSeqno
  base_le : s.nextSeqno - s.bytesInFlight ≤ s.previousAckno
  acked_le : s.previousAckno ≤ s.nextSeqno
  unacked : ∀ seg ∈ s.outstandingSegments.head?,
    s.previousAckno < s.nextSeqno - s.bytesInFlight + seg.lengthInSequenceSpace

theorem partitioned_new (capacity : ℕ) (retxTimeout : UInt16) (fixedIsn : Option WrappingInt32)
    (random : UInt32) : (new capacity retxTimeout fixedIsn random).Partitioned :=
  ⟨Nat.le_refl _, rfl, Nat.le_refl _, Nat.le_refl _, by simp [new]⟩

theorem Partitioned.congr {s s' : TCPSender} (inv : s.Partitioned) (isn : s'.isn = s.isn)
    (nextSeqno : s'.nextSeqno = s.nextSeqno) (inFlight : s'.bytesInFlight = s.bytesInFlight)
    (acked : s'.previousAckno = s.previousAckno)
    (outstanding : s'.outstandingSegments = s.outstandingSegments) : s'.Partitioned := by
  refine ⟨?_, ?_, ?_, ?_, ?_⟩
  · rw [inFlight, nextSeqno]
    exact inv.inFlight_le
  · rw [isn, nextSeqno, inFlight, outstanding]
    exact inv.covers
  · rw [nextSeqno, inFlight, acked]
    exact inv.base_le
  · rw [acked, nextSeqno]
    exact inv.acked_le
  · rw [outstanding, acked, nextSeqno, inFlight]
    exact inv.unacked

theorem Partitioned.totalLength_eq {s : TCPSender} (inv : s.Partitioned) :
    totalLength s.outstandingSegments = s.bytesInFlight := by
  have length := inv.covers.length
  have bound := inv.inFlight_le
  omega

theorem Partitioned.pushSegment {s : TCPSender} (inv : s.Partitioned) {seg : TCPSegment}
    (occupies : 0 < seg.lengthInSequenceSpace) : (s.pushSegment seg).Partitioned := by
  have inFlight := inv.inFlight_le
  have base := inv.base_le
  have acked := inv.acked_le
  have shifted : s.nextSeqno + seg.lengthInSequenceSpace -
      (s.bytesInFlight + seg.lengthInSequenceSpace) = s.nextSeqno - s.bytesInFlight := by
    omega
  refine ⟨?_, ?_, ?_, ?_, ?_⟩
  · simp only [pushSegment_bytesInFlight, pushSegment_nextSeqno]
    omega
  · simp only [pushSegment_isn, pushSegment_nextSeqno, pushSegment_bytesInFlight,
      pushSegment_outstandingSegments, shifted]
    exact inv.covers.concat occupies rfl
  · simp only [pushSegment_nextSeqno, pushSegment_bytesInFlight, pushSegment_previousAckno, shifted]
    exact base
  · simp only [pushSegment_previousAckno, pushSegment_nextSeqno]
    omega
  · simp only [pushSegment_outstandingSegments, pushSegment_previousAckno, pushSegment_nextSeqno,
      pushSegment_bytesInFlight, shifted]
    intro first isFirst
    cases queue : s.outstandingSegments with
    | nil =>
        have nothing := inv.totalLength_eq
        rw [queue, totalLength_nil] at nothing
        rw [queue, List.nil_append, List.head?_cons, Option.mem_some_iff] at isFirst
        subst isFirst
        show s.previousAckno < s.nextSeqno - s.bytesInFlight + seg.lengthInSequenceSpace
        omega
    | cons oldest rest =>
        rw [queue, List.cons_append, List.head?_cons, Option.mem_some_iff] at isFirst
        subst isFirst
        exact inv.unacked oldest (by rw [queue]; rfl)

theorem Partitioned.fillStep {s s' : TCPSender} (step : FillStep s s') (inv : s.Partitioned) :
    s'.Partitioned := by
  cases step with
  | syn unsent => exact inv.pushSegment Nat.zero_lt_one
  | fin started eof unsent =>
      have marked : ({ s with isFinSent := true } : TCPSender).Partitioned :=
        inv.congr rfl rfl rfl rfl rfl
      exact marked.pushSegment Nat.zero_lt_one
  | data len fin started eof positive small occupies ends =>
      have read : ({ s with
          stream := s.stream.popOutput len
          isFinSent := s.isFinSent || fin } : TCPSender).Partitioned :=
        inv.congr rfl rfl rfl rfl rfl
      apply read.pushSegment
      rcases occupies with bytes | marked
      · have payload := List.length_pos_iff.mpr bytes
        simp only [TCPSegment.lengthInSequenceSpace, List.length_take]
        omega
      · simp [TCPSegment.lengthInSequenceSpace, marked]
  | idle len started eof empty => exact inv.congr rfl rfl rfl rfl rfl

theorem Partitioned.fillWindow {s : TCPSender} (inv : s.Partitioned) :
    s.fillWindow.Partitioned :=
  fillWindow_invariant Partitioned inv fun _ _ => Partitioned.fillStep

/-- Popping what is acknowledged leaves a cover of the rest, and the
acknowledgment number lies inside its first segment. -/
theorem Covers.popAcknowledged {isn : WrappingInt32} {start stop ackno : ℕ}
    {segments : List TCPSegment} (covers : Covers isn start segments stop)
    (low : start ≤ ackno) (high : ackno ≤ stop) (few : stop < start + 2 ^ 31) :
    let popped := TCPSender.popAcknowledged isn ackno segments (stop - start)
    popped.2 ≤ stop ∧ Covers isn (stop - popped.2) popped.1 stop ∧ stop - popped.2 ≤ ackno ∧
      ∀ seg ∈ popped.1.head?, ackno < stop - popped.2 + seg.lengthInSequenceSpace := by
  induction segments generalizing start with
  | nil =>
      have same : start = stop := covers
      subst same
      simpa [TCPSender.popAcknowledged, Covers] using low
  | cons seg rest inductionHypothesis =>
      have bound := covers.2.2.length
      have position : unwrap seg.header.seqno isn ackno = start := by
        rw [covers.2.1]
        exact unwrap_wrap isn (by omega) (by omega)
      simp only [TCPSender.popAcknowledged, position]
      split_ifs with acknowledged
      · have remaining : Word.sub 64 (stop - start) seg.lengthInSequenceSpace =
            stop - (start + seg.lengthInSequenceSpace) := by
          rw [Word.sub_eq (by omega) (by omega)]
          omega
        rw [remaining]
        exact inductionHypothesis covers.2.2 acknowledged (by omega)
      · have restored : stop - (stop - start) = start := by omega
        simp only [restored]
        refine ⟨by omega, covers, low, ?_⟩
        intro first isFirst
        rw [List.head?_cons, Option.mem_some_iff] at isFirst
        subst isFirst
        omega

theorem Partitioned.acknowledge {s : TCPSender} (inv : s.Partitioned)
    (few : s.bytesInFlight < 2 ^ 31) {ackno : ℕ} (new : s.previousAckno < ackno)
    (sent : ackno ≤ s.nextSeqno) : (s.acknowledge ackno).Partitioned := by
  have inFlight := inv.inFlight_le
  have base := inv.base_le
  have popped := inv.covers.popAcknowledged (by omega) sent (by omega)
  have restored : s.nextSeqno - (s.nextSeqno - s.bytesInFlight) = s.bytesInFlight := by omega
  rw [restored] at popped
  obtain ⟨bound, covers, low, unacked⟩ := popped
  exact ⟨bound, covers, low, sent, unacked⟩

theorem Partitioned.restartTimer {s : TCPSender} (inv : s.Partitioned) :
    s.restartTimer.Partitioned := inv.congr rfl rfl rfl rfl rfl

theorem Partitioned.ackReceived {s : TCPSender} (inv : s.Partitioned)
    (few : s.bytesInFlight < 2 ^ 31) (ackno : WrappingInt32) (windowSize : UInt16) :
    (s.ackReceived ackno windowSize).Partitioned := by
  have opened : ({ s with windowSize } : TCPSender).Partitioned := inv.congr rfl rfl rfl rfl rfl
  rcases s.ackReceived_cases ackno windowSize with ⟨⟨new, sent⟩, taken⟩ | ⟨_, ignored⟩
  · rw [taken]
    exact (opened.acknowledge few new sent).fillWindow.restartTimer
  · rw [ignored]
    exact opened

theorem Partitioned.tick {s : TCPSender} (inv : s.Partitioned) (ms : ℕ) :
    (s.tick ms).Partitioned :=
  inv.congr (s.tick_isn ms) (s.tick_nextSeqno ms) (s.tick_bytesInFlight ms)
    (s.tick_previousAckno ms) (s.tick_outstandingSegments ms)

theorem Partitioned.apply {s : TCPSender} (op : Op) (inv : s.Partitioned)
    (few : s.bytesInFlight < 2 ^ 31) : (s.apply op).Partitioned := by
  cases op with
  | write data => exact inv.congr rfl rfl rfl rfl rfl
  | endInput => exact inv.congr rfl rfl rfl rfl rfl
  | setError => exact inv.congr rfl rfl rfl rfl rfl
  | fillWindow => exact inv.fillWindow
  | ackReceived ackno windowSize => exact inv.ackReceived few ackno windowSize
  | tick ms => exact inv.tick ms
  | sendEmptySegment => exact inv.congr rfl rfl rfl rfl rfl
  | popSegment => exact inv.congr rfl rfl rfl rfl rfl

/-- In every run during which fewer than `2^31` sequence numbers are
outstanding, the outstanding segments are non-empty and lie back to back from
`nextSeqno - bytesInFlight` up to `nextSeqno`, and the highest acknowledgment
number lies inside the first of them. -/
theorem outstanding_partition (capacity : ℕ) (retxTimeout : UInt16)
    (fixedIsn : Option WrappingInt32) (random : UInt32) (ops : List Op)
    (few : Guarded apply (fun s _ => totalLength s.outstandingSegments < 2 ^ 31)
      (new capacity retxTimeout fixedIsn random) ops) :
    let s := run apply (new capacity retxTimeout fixedIsn random) ops
    (∀ before seg after, s.outstandingSegments = before ++ seg :: after →
      0 < seg.lengthInSequenceSpace ∧
      seg.header.seqno = wrap (s.nextSeqno - s.bytesInFlight + totalLength before) s.isn) ∧
    s.nextSeqno - s.bytesInFlight + totalLength s.outstandingSegments = s.nextSeqno ∧
    s.bytesInFlight = totalLength s.outstandingSegments ∧ s.bytesInFlight ≤ s.nextSeqno ∧
    s.nextSeqno - s.bytesInFlight ≤ s.previousAckno ∧ s.previousAckno ≤ s.nextSeqno ∧
    ∀ seg ∈ s.outstandingSegments.head?,
      s.previousAckno < s.nextSeqno - s.bytesInFlight + seg.lengthInSequenceSpace := by
  intro s
  have inv : s.Partitioned := by
    refine few.invariant Partitioned (partitioned_new capacity retxTimeout fixedIsn random) ?_
    intro s op inv few
    rw [inv.totalLength_eq] at few
    exact inv.apply op few
  refine ⟨?_, inv.covers.length, inv.totalLength_eq.symm, inv.inFlight_le, inv.base_le,
    inv.acked_le, inv.unacked⟩
  intro before seg after split
  have covers := inv.covers
  rw [split] at covers
  exact covers.seqno_eq

/-- Two segments are sent, and an acknowledgment ends inside the second. -/
theorem outstanding_partition_partial_ack :
    let ops : List Op := [.fillWindow, .ackReceived ⟨8⟩ 5, .write [97, 98], .fillWindow,
      .write [99, 100], .fillWindow, .ackReceived ⟨11⟩ 5]
    let s := run apply (new 10 1000 (some ⟨7⟩) 0) ops
    s.outstandingSegments.length = 1 ∧ s.bytesInFlight = totalLength s.outstandingSegments ∧
      ∀ seg ∈ s.outstandingSegments.head?,
        s.previousAckno < s.nextSeqno - s.bytesInFlight + seg.lengthInSequenceSpace :=
  have partition := outstanding_partition 10 1000 (some ⟨7⟩) 0
    [.fillWindow, .ackReceived ⟨8⟩ 5, .write [97, 98], .fillWindow,
      .write [99, 100], .fillWindow, .ackReceived ⟨11⟩ 5] (by decide)
  ⟨by decide, partition.2.2.1, partition.2.2.2.2.2.2⟩

end Sponge.TCPSender
