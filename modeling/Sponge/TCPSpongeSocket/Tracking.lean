import Sponge.Adapter.Genuine
import Sponge.Network.Delivery
import Sponge.TCPSpongeSocket.Basic

/-!
# A socket follows its connection

Between two callbacks a socket is in step with an endpoint: the bytes it took
from its owner are those that the connection accepted, the bytes it gave to its
owner are those that were read from the connection, and its packets carry the
segments that left the connection.
-/

namespace Sponge

open Lib Throwing TCPConnection
open TCPSender (Op)

namespace TCPSender

/-- Only `endInput` ends the outbound stream. -/
theorem notEnded_apply {s : TCPSender} (notEnded : s.stream.inputEnded = false) {op : Op}
    (other : op ≠ .endInput) : (s.apply op).stream.inputEnded = false := by
  have filled {s : TCPSender} (notEnded : s.stream.inputEnded = false) :
      s.fillWindow.stream.inputEnded = false := by
    refine fillWindow_invariant (fun s => s.stream.inputEnded = false) notEnded ?_
    intro s s' step notEnded
    cases step with
    | syn => exact notEnded
    | fin => exact notEnded
    | data len => exact (s.stream.popOutput_inputEnded len).trans notEnded
    | idle len => exact (s.stream.popOutput_inputEnded len).trans notEnded
  cases op with
  | write data =>
      rw [TCPSender.apply, ByteStream.write_eq]
      exact notEnded
  | endInput => exact absurd rfl other
  | fillWindow => exact filled notEnded
  | ackReceived ackno windowSize =>
      rw [TCPSender.apply]
      rcases s.ackReceived_cases ackno windowSize with ⟨_, taken⟩ | ⟨_, ignored⟩
      · rw [taken]
        exact filled (s := ({ s with windowSize } : TCPSender).acknowledge _) notEnded
      · rw [ignored]
        exact notEnded
  | tick ms =>
      rw [TCPSender.apply, tick_stream]
      exact notEnded
  | _ => exact notEnded

end TCPSender

namespace Endpoint

theorem hasEnded_of_apply {e : Endpoint} (drained : e.conn.sender.segmentsOut = []) {call : Call}
    (other : call ≠ .endInputStream) (ended : (e.apply call).hasEnded = true) :
    e.hasEnded = true := by
  by_contra open'
  have still : (e.apply call).hasEnded = false := by
    refine sender_invariant (fun s => s.stream.inputEnded = false) (fun _ op => op ≠ .endInput)
      drained ?_ ?_ (Bool.eq_false_of_not_eq_true open') ?_
    · intro s op routine
      cases routine <;> exact Op.noConfusion
    · intro op first
      cases call with
      | endInputStream => exact absurd rfl other
      | _ => cases first <;> exact Op.noConfusion
    · exact fun s op notEnded guarded => TCPSender.notEnded_apply notEnded guarded
  rw [still] at ended
  exact Bool.noConfusion ended

/-- What the socket does with its connection of its own accord: it never writes
after it has ended the stream. -/
def Orderly (e : Endpoint) : Call → Prop
  | .write _ => e.hasEnded = false
  | .segmentReceived _ => False
  | _ => True

end Endpoint

/-- What is known of the endpoint that a socket follows, and of one whose inbound
stream has met its end. -/
structure Contract where
  Holds : Endpoint → Prop
  Over : Endpoint → Prop
  call : ∀ {e : Endpoint} {call : Call}, Holds e → e.Orderly call →
    Holds (e.apply call) ∧ (Over e → Over (e.apply call))
  sees : ∀ {e : Endpoint}, Holds e →
    (e.conn.inboundStream.eof || e.conn.inboundStream.error) = true → Over e

namespace TCPSpongeSocket

variable {A : Type} [DatagramAdapter A] [GenuineAdapter A]

/-- The socket is in step with an endpoint. -/
structure Tracks (k : Contract) (s : TCPSpongeSocket A) (e : Endpoint) : Prop where
  holds : k.Holds e
  tcp : s.tcp = e.conn
  received : s.threadData.received = e.accepted
  taken : s.threadData.taken = e.consumed
  carries : GenuineAdapter.Carries e.wire s.datagramAdapter
  ending : e.hasEnded = true → s.outboundShutdown = true
  shut : s.inboundShutdown = true → k.Over e
  modest : e.conn.Modest

/-- What is left of that when an exception has interrupted a callback. -/
structure Interrupted (k : Contract) (s : TCPSpongeSocket A) (e : Endpoint) : Prop where
  holds : k.Holds e
  tcp : s.tcp = e.conn
  received : s.threadData.received = e.accepted
  consumed : e.consumed <+: s.threadData.taken
  taken : s.threadData.taken <+: e.placed
  carries : GenuineAdapter.Carries e.wire s.datagramAdapter
  ending : e.hasEnded = true → s.outboundShutdown = true
  shut : s.inboundShutdown = true → k.Over e

variable {k : Contract} {s s' : TCPSpongeSocket A} {e : Endpoint}

theorem Tracks.interrupted (tracks : s.Tracks k e) : s.Interrupted k e where
  holds := tracks.holds
  tcp := tracks.tcp
  received := tracks.received
  consumed := tracks.taken ▸ List.prefix_rfl
  taken := tracks.taken ▸ List.prefix_append _ _
  carries := tracks.carries
  ending := tracks.ending
  shut := tracks.shut

/-- The fields that tell nothing about the endpoint may change. -/
theorem Tracks.congr (tracks : s.Tracks k e) (tcp : s'.tcp = s.tcp)
    (received : s'.threadData.received = s.threadData.received)
    (taken : s'.threadData.taken = s.threadData.taken)
    (carries : GenuineAdapter.Carries e.wire s'.datagramAdapter)
    (outbound : s'.outboundShutdown = s.outboundShutdown)
    (inbound : s'.inboundShutdown = true → k.Over e) : s'.Tracks k e where
  holds := tracks.holds
  tcp := tcp.trans tracks.tcp
  received := received.trans tracks.received
  taken := taken.trans tracks.taken
  carries := carries
  ending ended := outbound.trans (tracks.ending ended)
  shut := inbound
  modest := tracks.modest

/-- A call on the connection, and what the socket does with it. -/
theorem Tracks.call (tracks : s.Tracks k e) {call : Call}
    (follows : k.Holds (e.apply call) ∧ (k.Over e → k.Over (e.apply call)))
    (tcp : s'.tcp = s.tcp.apply call)
    (received : s'.threadData.received = (e.apply call).accepted)
    (taken : s'.threadData.taken = (e.apply call).consumed)
    (carries : GenuineAdapter.Carries (e.apply call).wire s'.datagramAdapter)
    (outbound : call = .endInputStream ∨ s.outboundShutdown = true → s'.outboundShutdown = true)
    (inbound : s'.inboundShutdown = s.inboundShutdown) :
    s'.Tracks k (e.apply call) where
  holds := follows.1
  tcp := tcp.trans (congrArg (·.apply call) tracks.tcp)
  received := received
  taken := taken
  carries := carries
  ending ended := by
    by_cases ends : call = .endInputStream
    · exact outbound (.inl ends)
    · have before := Endpoint.hasEnded_of_apply tracks.modest.drained ends ended
      exact outbound (.inr (tracks.ending before))
  shut shut := follows.2 (tracks.shut (inbound.symm.trans shut))
  modest := tracks.modest.apply call

theorem Tracks.tick (tracks : s.Tracks k e) (ms : ℕ) :
    Tracks k { s with tcp := s.tcp.tick ms } (e.apply (.tick ms)) :=
  tracks.call (k.call tracks.holds trivial) rfl tracks.received tracks.taken tracks.carries
    (fun either => either.resolve_left Call.noConfusion) rfl

theorem Tracks.endOutbound (tracks : s.Tracks k e) :
    Tracks k { s with tcp := s.tcp.endInputStream, outboundShutdown := true }
      (e.apply .endInputStream) :=
  tracks.call (k.call tracks.holds trivial) rfl tracks.received tracks.taken tracks.carries
    (fun _ => rfl) rfl

/-- What the kernel takes of the inbound stream is popped from it. -/
theorem Tracks.popInbound (tracks : s.Tracks k e) {n amount : ℕ} (fits : n ≤ amount)
    (fd : FileDescriptor) (received : fd.received = s.threadData.received)
    (taken : fd.taken = s.threadData.taken ++ (s.tcp.inboundStream.buffer.take amount).take n) :
    Tracks k { s with threadData := fd, tcp := s.tcp.popInbound n } (e.apply (.readInbound n)) := by
  refine tracks.call (k.call tracks.holds trivial) rfl (received.trans tracks.received) ?_
    tracks.carries (fun either => either.resolve_left Call.noConfusion) rfl
  show fd.taken = e.consumed ++ (e.conn.receiver.streamOut.read n).1
  rw [taken, List.take_take, Nat.min_eq_left fits, tracks.taken, tracks.tcp, ByteStream.read_eq]
  rfl

/-- The socket is in step with some endpoint. -/
def Follows (k : Contract) (s : TCPSpongeSocket A) : Prop := ∃ e, s.Tracks k e

/-- It was until an exception interrupted a callback. -/
def Followed (k : Contract) (s : TCPSpongeSocket A) : Prop := ∃ e, s.Interrupted k e

section Callbacks

variable {answers : Answers A}

/-- The debugging flag tells nothing about the endpoint. -/
theorem Tracks.debug (tracks : s.Tracks k e) (flag : Prop) [Decidable flag] :
    Tracks k (if flag then { s with fullyAcked := true } else s) e := by
  split
  · exact tracks.congr rfl rfl rfl tracks.carries rfl tracks.shut
  · exact tracks

/-- A segment that arrives is given to the connection. -/
theorem receiveSegment_ends (tracks : s.Tracks k e)
    (arrives : ∀ seg a, DatagramAdapter.read answers.packet s.datagramAdapter = .ok (some seg) a →
      k.Holds (e.apply (.segmentReceived seg)) ∧
        (k.Over e → k.Over (e.apply (.segmentReceived seg)))) :
    Ends
      (fun _ s' => Follows k s' ∧ (DatagramAdapter.fd s'.datagramAdapter).readCount =
        (DatagramAdapter.fd s.datagramAdapter).readCount + 1)
      (fun _ s' => Followed k s' ∧ ¬ GenuineAdapter.Readable (A := A) answers.packet)
      (receiveSegment answers s) := by
  have reads := GenuineAdapter.read_carries e.wire answers.packet
  rw [receiveSegment]
  cases ran : DatagramAdapter.read answers.packet s.datagramAdapter with
  | error ex a =>
      obtain ⟨carries, refused⟩ := reads.of_error tracks.carries ran
      have threw : onAdapter (DatagramAdapter.read answers.packet) s =
          .error ex { s with datagramAdapter := a } := by
        rw [onAdapter, within, ran]
      have left : Tracks k { s with datagramAdapter := a } e :=
        tracks.congr rfl rfl rfl carries rfl tracks.shut
      rw [bind_of_error threw]
      exact ⟨⟨e, left.interrupted⟩, refused⟩
  | ok result a =>
      have carries := reads.of_ok tracks.carries ran
      have counts := GenuineAdapter.read_counts ran
      have read : Tracks k { s with datagramAdapter := a } e :=
        tracks.congr rfl rfl rfl carries rfl tracks.shut
      rw [onAdapter, bind_of_ok (within_of_ok ran)]
      cases result with
      | none =>
          refine ⟨⟨e, read.debug _⟩, ?_⟩
          show (DatagramAdapter.fd (ite _ _ _ : TCPSpongeSocket A).datagramAdapter).readCount = _
          split <;> exact counts
      | some seg =>
          have taken : Tracks k { s with datagramAdapter := a, tcp := s.tcp.segmentReceived seg }
              (e.apply (.segmentReceived seg)) :=
            read.call (arrives seg a ran) rfl read.received read.taken read.carries
              (fun either => either.resolve_left Call.noConfusion) rfl
          refine ⟨⟨_, taken.debug _⟩, ?_⟩
          show (DatagramAdapter.fd (ite _ _ _ : TCPSpongeSocket A).datagramAdapter).readCount = _
          split <;> exact counts

theorem endOutbound_ends (follows : Follows k s) :
    Ends (fun _ s' => Follows k s' ∧ s'.datagramAdapter = s.datagramAdapter ∧
        s'.tcp.receiver = s.tcp.receiver)
      (fun _ _ => False) (endOutbound s) := by
  obtain ⟨e, tracks⟩ := follows
  exact ⟨⟨_, tracks.endOutbound⟩, rfl, receiver_apply s.tcp .endInputStream⟩

/-- The owner's bytes are never more than the connection accepts. -/
theorem write_whole (c : TCPConnection) {data : List UInt8}
    (fits : data.length ≤ c.remainingOutboundCapacity) : (c.write data).2 = data.length := by
  rw [TCPConnection.write, ByteStream.write_eq]
  exact Nat.min_eq_left fits

theorem takeFromOwner_ends (tracks : s.Tracks k e) (notEnded : s.outboundShutdown = false) :
    Ends
      (fun _ s' => Follows k s' ∧ s'.threadData.readCount = s.threadData.readCount + 1)
      (fun _ s' => Followed k s' ∧ ¬ ∀ limit, ∃ bytes, answers.fromOwner limit = .ok bytes ∧
        bytes.length ≤ min FileDescriptor.bufferSize limit)
      (takeFromOwner answers s) := by
  rw [takeFromOwner, get_bind_run]
  rcases FileDescriptor.read_cases s.tcp.remainingOutboundCapacity
      (answers.fromOwner s.tcp.remainingOutboundCapacity) s.threadData with
    ⟨bytes, given, fits, ran⟩ | ⟨ex, threw, refused⟩
  · have whole : (s.tcp.write bytes).2 = bytes.length :=
      write_whole s.tcp (Nat.le_trans fits (Nat.min_le_right _ _))
    have open' : e.hasEnded = false := by
      rw [← Bool.not_eq_true]
      intro ended
      rw [tracks.ending ended] at notEnded
      exact Bool.noConfusion notEnded
    have written : Tracks k
        { s with
          tcp := (s.tcp.write bytes).1
          threadData := s.threadData.afterRead s.tcp.remainingOutboundCapacity bytes }
        (e.apply (.write bytes)) := by
      refine tracks.call (k.call tracks.holds open') rfl ?_ tracks.taken tracks.carries
        (fun either => either.resolve_left Call.noConfusion) rfl
      show s.threadData.received ++ bytes = e.accepted ++ bytes.take (e.conn.write bytes).2
      rw [← tracks.tcp, whole, List.take_length, tracks.received]
    rw [onThreadData, bind_of_ok (within_of_ok ran)]
    simp only [get_bind_run, modify_bind_run, whole, ne_eq, not_true_eq_false, if_false]
    rw [branch_run]
    split
    · exact ⟨⟨_, written.endOutbound⟩, rfl⟩
    · exact ⟨⟨_, written⟩, rfl⟩
  · have threw : onThreadData (FileDescriptor.read s.tcp.remainingOutboundCapacity
        (answers.fromOwner s.tcp.remainingOutboundCapacity)) s = .error ex s := by
      rw [onThreadData, within, threw]
    rw [bind_of_error threw]
    exact ⟨⟨e, tracks.interrupted⟩, fun always => refused (always _)⟩

theorem giveToOwner_ends (tracks : s.Tracks k e) :
    Ends
      (fun _ s' => Follows k s' ∧ s'.threadData.writeCount ≠ s.threadData.writeCount)
      (fun _ s' => Followed k s' ∧ ¬ (answers.toOwner.Honest ∧ answers.shutdown = .ok ()))
      (giveToOwner answers s) := by
  have once (n : UInt32) : n + 1 ≠ n := by grind
  have twice (n : UInt32) : n + 1 + 1 ≠ n := by grind
  rw [giveToOwner, get_bind_run]
  generalize min 65536 s.tcp.inboundStream.bufferSize = amountToWrite
  have buffer : BufferList.concatenate [s.tcp.inboundStream.peekOutput amountToWrite] =
      s.tcp.inboundStream.buffer.take amountToWrite := by
    rw [ByteStream.peekOutput_eq]
    exact List.append_nil _
  rcases FileDescriptor.write_once_cases [s.tcp.inboundStream.peekOutput amountToWrite]
      answers.toOwner s.threadData with ⟨n, ran, fits⟩ | ⟨ex, n, threw, dishonest⟩
  · have short : n ≤ amountToWrite := by
      rw [← BufferList.length_concatenate, buffer] at fits
      exact Nat.le_trans fits (List.length_take_le _ _)
    have popped := tracks.popInbound short
      (s.threadData.handedOver [s.tcp.inboundStream.peekOutput amountToWrite] n).registerWrite
      rfl (congrArg (s.threadData.taken ++ List.take n ·) buffer)
    rw [onThreadData, bind_of_ok (within_of_ok ran)]
    simp only [modify_bind_run, get_bind_run, Option.getD_some]
    by_cases atEnd : ((s.tcp.popInbound n).inboundStream.eof ||
        (s.tcp.popInbound n).inboundStream.error) = true
    · have met : k.Over (e.apply (.readInbound n)) := k.sees popped.holds (popped.tcp ▸ atEnd)
      rw [if_pos atEnd]
      cases answers.shutdown with
      | error text => exact ⟨⟨_, popped.interrupted⟩, fun obliging => nomatch obliging.2⟩
      | ok done =>
          exact ⟨⟨_, popped.congr rfl rfl rfl popped.carries rfl fun _ => met⟩, twice _⟩
    · rw [if_neg atEnd]
      exact ⟨⟨_, popped⟩, once _⟩
  · have threw : onThreadData (FileDescriptor.write
        [s.tcp.inboundStream.peekOutput amountToWrite] false [answers.toOwner]) s =
        .error ex { s with
          threadData := s.threadData.handedOver [s.tcp.inboundStream.peekOutput amountToWrite] n } := by
      rw [onThreadData, within, threw]
    rw [bind_of_error threw]
    have given : (s.threadData.handedOver [s.tcp.inboundStream.peekOutput amountToWrite] n).taken =
        e.consumed ++ (e.conn.inboundStream.buffer.take amountToWrite).take n := by
      rw [FileDescriptor.handedOver, buffer, tracks.taken, tracks.tcp]
    have before := tracks.interrupted
    refine ⟨⟨e, { before with consumed := ?_, taken := ?_ }⟩, fun obliging => dishonest obliging.1⟩
    · exact given ▸ List.prefix_append _ _
    · show FileDescriptor.taken _ <+: e.consumed ++ e.conn.inboundStream.buffer
      rw [given, List.prefix_append_right_inj]
      exact (List.take_prefix _ _).trans (List.take_prefix _ _)

/-- The segments that leave the connection are given to the adapter, one after
another, and the queue is empty at the end. -/
theorem sendSegments_ends (tracks : s.Tracks k e) {queue : List TCPSegment}
    (same : s.tcp.segmentsOut = queue) :
    Ends (fun _ s' => Follows k s' ∧ s'.tcp.segmentsOut = []) (fun _ _ => False)
      (sendSegments queue s) := by
  induction queue generalizing s e with
  | nil => exact ⟨⟨e, tracks⟩, same⟩
  | cons seg rest inductionHypothesis =>
      have front : e.conn.segmentsOut = seg :: rest := tracks.tcp ▸ same
      have modest : seg.Modest := tracks.modest.out seg (front ▸ List.mem_cons_self)
      have writes := GenuineAdapter.write_carries (A := A) e.wire modest
      rw [sendSegments]
      cases ran : DatagramAdapter.write seg s.datagramAdapter with
      | error ex a => exact False.elim (writes.of_error tracks.carries ran)
      | ok done a =>
          rw [onAdapter, bind_of_ok (within_of_ok ran), modify_bind_run]
          have orderly : e.Orderly .popSegment := trivial
          refine inductionHypothesis (tracks.call (k.call tracks.holds orderly) rfl tracks.received
            tracks.taken ?_ (fun either => either.resolve_left Call.noConfusion) rfl) ?_
          · show GenuineAdapter.Carries (e.wire ++ e.conn.segmentsOut.head?.toList) a
            rw [front]
            exact writes.of_ok tracks.carries ran
          · show s.tcp.segmentsOut.tail = rest
            rw [same, List.tail_cons]

end Callbacks

end TCPSpongeSocket

end Sponge
