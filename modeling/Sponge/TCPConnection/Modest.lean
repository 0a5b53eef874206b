import Sponge.TCPConnection.SenderInvariants
import Sponge.TCPSender.Queued

/-!
# The segments that a connection sends

No segment of a connection has options, and none carries more payload than the
configuration allows, so that every one of them fits in a datagram.  A segment
that acknowledges nothing leaves the acknowledgment number at zero.
-/

namespace Sponge

open Lib

/-- A segment without options, with no more payload than a connection sends, and
without an acknowledgment number that is not one. -/
structure TCPSegment.Modest (seg : TCPSegment) : Prop where
  doff : seg.header.doff = 5
  payload : seg.payload.length ≤ TCPConfig.maxPayloadSize
  unset : seg.header.ack = false → seg.header.ackno = ⟨0⟩

namespace TCPSender

variable {s : TCPSender}

theorem FillStep.modest {s' : TCPSender} (step : FillStep s s') :
    (s'.segmentsOut = s.segmentsOut ∧ s'.outstandingSegments = s.outstandingSegments) ∨
    ∃ seg, seg.Modest ∧ s'.segmentsOut = s.segmentsOut ++ [seg] ∧
      s'.outstandingSegments = s.outstandingSegments ++ [seg] := by
  cases step with
  | syn =>
      exact .inr ⟨s.stamped { header := { syn := true } }, ⟨rfl, Nat.zero_le _, fun _ => rfl⟩, rfl, rfl⟩
  | fin =>
      exact .inr ⟨s.stamped { header := { fin := true } }, ⟨rfl, Nat.zero_le _, fun _ => rfl⟩, rfl, rfl⟩
  | data len fin _ _ _ short =>
      refine .inr ⟨s.stamped _, ⟨rfl, ?_, fun _ => rfl⟩, rfl, rfl⟩
      exact Nat.le_trans (List.length_take_le _ _) short
  | idle => exact .inl ⟨rfl, rfl⟩

/-- Every segment on the two queues is modest. -/
structure Modest (s : TCPSender) : Prop where
  queued : ∀ seg ∈ s.segmentsOut, seg.Modest
  outstanding : ∀ seg ∈ s.outstandingSegments, seg.Modest

theorem Modest.fillWindow (modest : s.Modest) : s.fillWindow.Modest := by
  refine fillWindow_invariant Modest modest ?_
  intro s s' step modest
  rcases step.modest with ⟨queue, outstanding⟩ | ⟨seg, small, queue, outstanding⟩
  · exact ⟨queue ▸ modest.queued, outstanding ▸ modest.outstanding⟩
  · constructor
    · rw [queue, List.forall_mem_append, List.forall_mem_singleton]
      exact ⟨modest.queued, small⟩
    · rw [outstanding, List.forall_mem_append, List.forall_mem_singleton]
      exact ⟨modest.outstanding, small⟩

theorem Modest.acknowledge (modest : s.Modest) (ackno : ℕ) : (s.acknowledge ackno).Modest := by
  refine ⟨modest.queued, ?_⟩
  intro seg membership
  exact modest.outstanding seg ((popAcknowledged_suffix _ _ _ _).mem membership)

theorem Modest.ackReceived (modest : s.Modest) (ackno : WrappingInt32) (windowSize : UInt16) :
    (s.ackReceived ackno windowSize).Modest := by
  have resized : ({ s with windowSize } : TCPSender).Modest := ⟨modest.queued, modest.outstanding⟩
  rcases s.ackReceived_cases ackno windowSize with ⟨_, taken⟩ | ⟨_, ignored⟩
  · rw [taken]
    have filled := (resized.acknowledge (unwrap ackno s.isn s.previousAckno)).fillWindow
    exact ⟨filled.queued, filled.outstanding⟩
  · rw [ignored]
    exact resized

theorem Modest.apply (modest : s.Modest) (op : Op) : (s.apply op).Modest := by
  cases op with
  | fillWindow => exact modest.fillWindow
  | ackReceived ackno windowSize => exact modest.ackReceived ackno windowSize
  | tick ms =>
      refine ⟨?_, ?_⟩
      · -- what a tick sends again waits in the other queue
        rw [TCPSender.apply, tick_segmentsOut, List.forall_mem_append]
        refine ⟨modest.queued, ?_⟩
        intro seg membership
        split at membership
        · exact modest.outstanding seg (List.mem_of_mem_head? (Option.mem_toList.mp membership))
        · contradiction
      · rw [TCPSender.apply, tick_outstandingSegments]
        exact modest.outstanding
  | sendEmptySegment =>
      refine ⟨?_, modest.outstanding⟩
      rw [TCPSender.apply, sendEmptySegment, List.forall_mem_append, List.forall_mem_singleton]
      exact ⟨modest.queued, rfl, Nat.zero_le _, fun _ => rfl⟩
  | popSegment =>
      exact ⟨fun seg membership => modest.queued seg (List.mem_of_mem_tail membership),
        modest.outstanding⟩
  | _ => exact ⟨modest.queued, modest.outstanding⟩

end TCPSender

namespace TCPConnection

theorem modest_stamp (receiver : TCPReceiver) {seg : TCPSegment} (modest : seg.Modest) :
    (stamp receiver seg).Modest := by
  rw [stamp_eq]
  refine ⟨modest.doff, modest.payload, fun noAck => ?_⟩
  obtain ⟨noIsn, unset⟩ := Bool.or_eq_false_iff.mp noAck
  rw [Option.isSome_eq_false_iff, Option.isNone_iff_eq_none] at noIsn
  have nothing : receiver.ackno = none := by rw [TCPReceiver.ackno, noIsn, Option.map_none]
  show receiver.ackno.getD seg.header.ackno = ⟨0⟩
  rw [nothing]
  exact modest.unset unset

/-- Between two calls: nothing waits in the sender's queue, and every segment that
the connection sends, or may send again, is modest. -/
structure Modest (c : TCPConnection) : Prop where
  drained : c.sender.segmentsOut = []
  sender : c.sender.Modest
  out : ∀ seg ∈ c.segmentsOut, seg.Modest

theorem modest_new (cfg : TCPConfig) (random : UInt32) : (new cfg random).Modest :=
  ⟨rfl, ⟨List.forall_mem_nil _, List.forall_mem_nil _⟩, List.forall_mem_nil _⟩

variable {c : TCPConnection}

theorem Modest.emitted (modest : c.Modest) (call : Call) : ∀ seg ∈ c.emitted call, seg.Modest := by
  have methods : (c.afterMethods call).Modest :=
    run_invariant TCPSender.Modest (c.methodOps call) modest.sender fun _ op inv => inv.apply op
  intro seg membership
  rw [TCPConnection.emitted] at membership
  split at membership
  · rw [List.mem_singleton.mp membership]
    exact ⟨rfl, Nat.zero_le _, fun _ => rfl⟩
  · obtain ⟨queued, waiting, rfl⟩ := List.mem_map.mp membership
    exact modest_stamp _ (methods.queued queued waiting)

theorem Modest.apply (modest : c.Modest) (call : Call) : (c.apply call).Modest := by
  refine ⟨drained_apply modest.drained call, ?_, ?_⟩
  · exact sender_invariant TCPSender.Modest (fun _ _ => True) modest.drained (fun _ _ _ => trivial)
      (fun _ _ => trivial) modest.sender fun _ op inv _ => inv.apply op
  · by_cases pop : call = .popSegment
    · subst pop
      exact fun seg membership => modest.out seg (List.mem_of_mem_tail membership)
    · rw [segmentsOut_apply modest.drained pop, List.forall_mem_append]
      exact ⟨modest.out, modest.emitted call⟩

end TCPConnection

end Sponge
