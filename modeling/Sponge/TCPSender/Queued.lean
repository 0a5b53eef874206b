import Sponge.TCPSender.Segmentation

/-!
# The segments on a sender's queues

The sender leaves the acknowledgment to the receiver and never resets.  What
it puts on its queue while it fills the window occupies sequence numbers.
-/

namespace Sponge

open Lib

/-- Neither an acknowledgment nor a reset. -/
def TCPSegment.Blank (seg : TCPSegment) : Prop :=
  seg.header.ack = false ∧ seg.header.rst = false

namespace TCPSender

variable {s : TCPSender}

/-- What one step of `fillWindow` puts on the queues. -/
theorem FillStep.queued {s' : TCPSender} (step : FillStep s s') :
    (s'.segmentsOut = s.segmentsOut ∧ s'.outstandingSegments = s.outstandingSegments) ∨
    ∃ seg, seg.Blank ∧ 0 < seg.lengthInSequenceSpace ∧
      s'.segmentsOut = s.segmentsOut ++ [seg] ∧
      s'.outstandingSegments = s.outstandingSegments ++ [seg] := by
  cases step with
  | syn => exact .inr ⟨s.stamped { header := { syn := true } }, ⟨rfl, rfl⟩, Nat.one_pos, rfl, rfl⟩
  | fin => exact .inr ⟨s.stamped { header := { fin := true } }, ⟨rfl, rfl⟩, Nat.one_pos, rfl, rfl⟩
  | data len fin started open' positive short something =>
      refine .inr ⟨s.stamped _, ⟨rfl, rfl⟩, ?_, rfl, rfl⟩
      simp only [stamped, TCPSegment.lengthInSequenceSpace, List.length_take]
      rcases something with bytes | rfl
      · have length := List.length_pos_iff.mpr bytes
        omega
      · exact Nat.succ_pos _
  | idle => exact .inl ⟨rfl, rfl⟩

/-- Every segment on the two queues is blank. -/
structure Blank (s : TCPSender) : Prop where
  queued : ∀ seg ∈ s.segmentsOut, seg.Blank
  outstanding : ∀ seg ∈ s.outstandingSegments, seg.Blank

theorem blank_new (capacity : ℕ) (retxTimeout : UInt16) (fixedIsn : Option WrappingInt32)
    (random : UInt32) : (new capacity retxTimeout fixedIsn random).Blank :=
  ⟨List.forall_mem_nil _, List.forall_mem_nil _⟩

theorem Blank.fillWindow (blank : s.Blank) : s.fillWindow.Blank := by
  refine fillWindow_invariant Blank blank ?_
  intro s s' step blank
  rcases step.queued with ⟨queue, outstanding⟩ | ⟨seg, plain, _, queue, outstanding⟩
  · exact ⟨queue ▸ blank.queued, outstanding ▸ blank.outstanding⟩
  · constructor
    · rw [queue, List.forall_mem_append, List.forall_mem_singleton]
      exact ⟨blank.queued, plain⟩
    · rw [outstanding, List.forall_mem_append, List.forall_mem_singleton]
      exact ⟨blank.outstanding, plain⟩

theorem Blank.acknowledge (blank : s.Blank) (ackno : ℕ) : (s.acknowledge ackno).Blank := by
  refine ⟨blank.queued, ?_⟩
  intro seg membership
  exact blank.outstanding seg ((popAcknowledged_suffix _ _ _ _).mem membership)

theorem Blank.ackReceived (blank : s.Blank) (ackno : WrappingInt32) (windowSize : UInt16) :
    (s.ackReceived ackno windowSize).Blank := by
  have resized : ({ s with windowSize } : TCPSender).Blank := ⟨blank.queued, blank.outstanding⟩
  rcases s.ackReceived_cases ackno windowSize with ⟨_, taken⟩ | ⟨_, ignored⟩
  · rw [taken]
    have filled := (resized.acknowledge (unwrap ackno s.isn s.previousAckno)).fillWindow
    exact ⟨filled.queued, filled.outstanding⟩
  · rw [ignored]
    exact resized

theorem Blank.apply (s : TCPSender) (op : Op) (blank : s.Blank) : (s.apply op).Blank := by
  cases op with
  | fillWindow => exact blank.fillWindow
  | ackReceived ackno windowSize => exact blank.ackReceived ackno windowSize
  | tick ms =>
      refine ⟨?_, ?_⟩
      · rw [TCPSender.apply, tick_segmentsOut, List.forall_mem_append]
        refine ⟨blank.queued, ?_⟩
        intro seg membership
        split at membership
        · exact blank.outstanding seg (List.mem_of_mem_head? (Option.mem_toList.mp membership))
        · contradiction
      · rw [TCPSender.apply, tick_outstandingSegments]
        exact blank.outstanding
  | sendEmptySegment =>
      refine ⟨?_, blank.outstanding⟩
      rw [TCPSender.apply, sendEmptySegment, List.forall_mem_append, List.forall_mem_singleton]
      exact ⟨blank.queued, rfl, rfl⟩
  | popSegment => exact ⟨fun seg membership => blank.queued seg (List.mem_of_mem_tail membership),
      blank.outstanding⟩
  | _ => exact ⟨blank.queued, blank.outstanding⟩

/-- Every segment on the queue occupies sequence numbers. -/
def Occupying (s : TCPSender) : Prop := ∀ seg ∈ s.segmentsOut, 0 < seg.lengthInSequenceSpace

theorem Occupying.fillWindow (occupying : s.Occupying) : s.fillWindow.Occupying := by
  refine fillWindow_invariant Occupying occupying ?_
  intro s s' step occupying
  rcases step.queued with ⟨queue, _⟩ | ⟨seg, _, length, queue, _⟩
  · rw [Occupying, queue]
    exact occupying
  · rw [Occupying, queue, List.forall_mem_append, List.forall_mem_singleton]
    exact ⟨occupying, length⟩

theorem Occupying.ackReceived (occupying : s.Occupying) (ackno : WrappingInt32)
    (windowSize : UInt16) : (s.ackReceived ackno windowSize).Occupying := by
  rcases s.ackReceived_cases ackno windowSize with ⟨_, taken⟩ | ⟨_, ignored⟩
  · rw [taken]
    have acknowledged : (({ s with windowSize } : TCPSender).acknowledge
        (unwrap ackno s.isn s.previousAckno)).Occupying := occupying
    exact acknowledged.fillWindow
  · rw [ignored]
    exact occupying

end TCPSender

end Sponge
