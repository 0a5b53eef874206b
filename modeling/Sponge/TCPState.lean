import Sponge.TCPReceiver.Basic
import Sponge.TCPSender.Basic

/-!
# TCPState

A summary of a connection in terms of the official TCP states, reconstructed
from the counters of the sender and the receiver.
-/

namespace Sponge

inductive TCPReceiverStateSummary where
  | error
  | listen
  | synRecv
  | finRecv
  deriving DecidableEq, Repr

inductive TCPSenderStateSummary where
  | error
  | closed
  | synSent
  | synAcked
  | finSent
  | finAcked
  deriving DecidableEq, Repr

structure TCPState where
  sender : TCPSenderStateSummary
  receiver : TCPReceiverStateSummary
  active : Bool := true
  lingerAfterStreamsFinish : Bool := true
  deriving DecidableEq, Repr

namespace TCPState

/-- Official state names from the TCP specification. -/
inductive State where
  | listen
  | synRcvd
  | synSent
  | established
  | closeWait
  | lastAck
  | finWait1
  | finWait2
  | closing
  | timeWait
  | closed
  | reset
  deriving DecidableEq, Repr

/-- The summary that corresponds to an official state name. -/
def ofState : State → TCPState
  | .listen => { receiver := .listen, sender := .closed }
  | .synRcvd => { receiver := .synRecv, sender := .synSent }
  | .synSent => { receiver := .listen, sender := .synSent }
  | .established => { receiver := .synRecv, sender := .synAcked }
  | .closeWait =>
      { receiver := .finRecv, sender := .synAcked, lingerAfterStreamsFinish := false }
  | .lastAck => { receiver := .finRecv, sender := .finSent, lingerAfterStreamsFinish := false }
  | .closing => { receiver := .finRecv, sender := .finSent }
  | .finWait1 => { receiver := .synRecv, sender := .finSent }
  | .finWait2 => { receiver := .synRecv, sender := .finAcked }
  | .timeWait => { receiver := .finRecv, sender := .finAcked }
  | .reset =>
      { receiver := .error, sender := .error,
        lingerAfterStreamsFinish := false, active := false }
  | .closed =>
      { receiver := .finRecv, sender := .finAcked,
        lingerAfterStreamsFinish := false, active := false }

def receiverSummary (receiver : TCPReceiver) : TCPReceiverStateSummary :=
  if receiver.streamOut.error then .error
  else if receiver.ackno.isNone then .listen
  else if receiver.streamOut.inputEnded then .finRecv
  else .synRecv

def senderSummary (sender : TCPSender) : TCPSenderStateSummary :=
  if sender.stream.error then .error
  else if sender.nextSeqno = 0 then .closed
  else if sender.nextSeqno = sender.bytesInFlight then .synSent
  else if !sender.stream.eof then .synAcked
  else if sender.nextSeqno < sender.stream.bytesWritten + 2 then .synAcked
  else if sender.bytesInFlight ≠ 0 then .finSent
  else .finAcked

/-- Summarize a sender, a receiver and the connection's two bits. -/
def ofParts (sender : TCPSender) (receiver : TCPReceiver) (active linger : Bool) : TCPState where
  sender := senderSummary sender
  receiver := receiverSummary receiver
  active := active
  lingerAfterStreamsFinish := if active then linger else false

end TCPState

def TCPReceiverStateSummary.text : TCPReceiverStateSummary → String
  | .error => "error (connection was reset)"
  | .listen => "waiting for SYN: ackno is empty"
  | .synRecv => "SYN received (ackno exists), and input to stream hasn't ended"
  | .finRecv => "input to stream has ended"

def TCPSenderStateSummary.text : TCPSenderStateSummary → String
  | .error => "error (connection was reset)"
  | .closed => "waiting for stream to begin (no SYN sent)"
  | .synSent => "stream started but nothing acknowledged"
  | .synAcked => "stream ongoing"
  | .finSent => "stream finished (FIN sent) but not fully acknowledged"
  | .finAcked => "stream finished and fully acknowledged"

def TCPState.name (state : TCPState) : String :=
  "sender=`" ++ state.sender.text ++ "`, receiver=`" ++ state.receiver.text ++
    "`, active=" ++ toString state.active.toNat ++
    ", linger_after_streams_finish=" ++ toString state.lingerAfterStreamsFinish.toNat

end Sponge
