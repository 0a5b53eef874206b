import Sponge.ByteStream
import Sponge.Util.EventLoop

/-!
# Copying between a socket and the standard streams

What is read from the standard input goes through a byte stream to the socket,
and what is read from the socket goes through another one to the standard
output.  Each of the two ways has a rule that fills its stream and one that
drains it.
-/

namespace Sponge

open Lib Throwing

namespace BidirectionalStreamCopy

def maxCopyLength : Nat := 65536

def bufferSize : Nat := 1048576

inductive Way where
  | outbound
  | inbound
  deriving DecidableEq, Repr

/-- One of the two ways: from where to where it copies. -/
structure Half where
  source : FileDescriptor
  stream : ByteStream
  sink : FileDescriptor
  /-- Has the sink been told of the end? -/
  shutdown : Bool

namespace Half

abbrev Method := EStateM Exception Half

def onSource {α : Type} : FileDescriptor.Method α → Method α :=
  within source fun h source => { h with source }

def onSink {α : Type} : FileDescriptor.Method α → Method α :=
  within sink fun h sink => { h with sink }

def endInput : Method Unit := modify fun h => { h with stream := h.stream.endInput }

/-- Read from the source into the stream. -/
def fill (answer : Nat → Answer Buffer) : Method Unit := do
  let capacity := (← get).stream.remainingCapacity
  let data ← onSource (FileDescriptor.read capacity (answer capacity))
  modify fun h => { h with stream := (h.stream.write data).1 }
  if (← get).source.eof then endInput

/-- Write from the stream to the sink, and `finish` the sink at the end. -/
def drain (kernel : FileDescriptor.Taking) (finish : FileDescriptor.Method Unit) : Method Unit := do
  let stream := (← get).stream
  let bytesToWrite := min maxCopyLength stream.bufferSize
  let bytesWritten ← onSink (FileDescriptor.write [stream.peekOutput bytesToWrite] false [kernel])
  modify fun h => { h with stream := h.stream.popOutput (bytesWritten.getD 0) }
  if (← get).stream.eof then
    onSink finish
    modify fun h => { h with shutdown := true }

def isDrainable (h : Half) : Bool := !h.stream.bufferEmpty || (h.stream.eof && !h.shutdown)

/-- An error of the other way stops the reading as well. -/
def isFillable (h other : Half) : Bool :=
  !h.stream.error && decide (h.stream.remainingCapacity > 0) && !other.stream.error

end Half

end BidirectionalStreamCopy

open BidirectionalStreamCopy

structure BidirectionalStreamCopy where
  socket : FileDescriptor
  input : FileDescriptor := {}
  output : FileDescriptor := {}
  outbound : ByteStream := ByteStream.new bufferSize
  inbound : ByteStream := ByteStream.new bufferSize
  outboundShutdown : Bool := false
  inboundShutdown : Bool := false

namespace BidirectionalStreamCopy

abbrev Method := EStateM Exception BidirectionalStreamCopy

def half (way : Way) (c : BidirectionalStreamCopy) : Half :=
  match way with
  | .outbound => ⟨c.input, c.outbound, c.socket, c.outboundShutdown⟩
  | .inbound => ⟨c.socket, c.inbound, c.output, c.inboundShutdown⟩

def withHalf (way : Way) (c : BidirectionalStreamCopy) (h : Half) : BidirectionalStreamCopy :=
  match way with
  | .outbound =>
      { c with
        input := h.source, outbound := h.stream, socket := h.sink, outboundShutdown := h.shutdown }
  | .inbound =>
      { c with
        socket := h.source, inbound := h.stream, output := h.sink, inboundShutdown := h.shutdown }

def onHalf {α : Type} (way : Way) : Half.Method α → Method α := within (half way) (withHalf way)

/-- What the kernel answers in one turn. -/
structure Answers where
  fromInput : Nat → Answer Buffer
  toSocket : FileDescriptor.Taking
  shutdown : Answer Unit
  fromSocket : Nat → Answer Buffer
  toOutput : FileDescriptor.Taking
  close : Answer Unit

inductive RuleName where
  | fill (way : Way)
  | drain (way : Way)
  deriving DecidableEq, Repr

def rule : RuleName → EventLoop.Rule BidirectionalStreamCopy Answers
  -- read from stdin into outbound byte stream
  | .fill .outbound =>
      { fd := input
        direction := .input
        callback := fun answers => onHalf .outbound (Half.fill answers.fromInput)
        interest := fun c => (c.half .outbound).isFillable (c.half .inbound)
        cancel := onHalf .outbound Half.endInput }
  -- read from outbound byte stream into socket
  | .drain .outbound =>
      { fd := socket
        direction := .output
        callback := fun answers =>
          onHalf .outbound (Half.drain answers.toSocket (FileDescriptor.shutdown .write answers.shutdown))
        interest := fun c => (c.half .outbound).isDrainable
        cancel := onHalf .outbound Half.endInput }
  -- read from socket into inbound byte stream
  | .fill .inbound =>
      { fd := socket
        direction := .input
        callback := fun answers => onHalf .inbound (Half.fill answers.fromSocket)
        interest := fun c => (c.half .inbound).isFillable (c.half .outbound)
        cancel := onHalf .inbound Half.endInput }
  -- read from inbound byte stream into stdout
  | .drain .inbound =>
      { fd := output
        direction := .output
        callback := fun answers =>
          onHalf .inbound (Half.drain answers.toOutput (FileDescriptor.close answers.close))
        interest := fun c => (c.half .inbound).isDrainable
        cancel := onHalf .inbound Half.endInput }

/-- The rules in the order in which they are added. -/
def ruleNames : List RuleName :=
  [.fill .outbound, .drain .outbound, .fill .inbound, .drain .inbound]

def eventloop : EventLoop BidirectionalStreamCopy Answers :=
  ruleNames.foldl (fun rules name => EventLoop.addRule rules (rule name)) []

inductive Phase where
  | copying
  | returned
  /-- An exception left the loop. -/
  | failed (e : Exception)
  deriving DecidableEq, Repr

/-- The copy with its loop. -/
structure Process where
  copy : BidirectionalStreamCopy
  rules : EventLoop BidirectionalStreamCopy Answers := eventloop
  phase : Phase := .copying

/-- One turn of the loop: what `poll` reports, and what the kernel answers. -/
structure Turn where
  poll : EventLoop.Poll
  answers : Answers

def Process.step (p : Process) (turn : Turn) : Process :=
  match p.phase with
  | .copying =>
      match EventLoop.waitNextEvent p.rules turn.poll turn.answers p.copy with
      | .ok (.exit, rules) copy => { copy, rules, phase := .returned }
      | .ok (_, rules) copy => { copy, rules }
      | .error e copy => { p with copy, phase := .failed e }
  | _ => p

end BidirectionalStreamCopy

end Sponge
