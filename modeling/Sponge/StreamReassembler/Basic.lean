import Sponge.ByteStream

/-!
# StreamReassembler

Excerpts of a byte stream arrive in any order, with overlaps.  Bytes that
cannot be written yet wait in a ring of `capacity` slots whose origin
`seperator` moves with every assembly.
-/

namespace Sponge

open Lib

structure StreamReassembler where
  /-- The reassembled in-order byte stream. -/
  output : ByteStream
  capacity : Nat
  unassembledBuffer : List UInt8
  occupied : List Bool
  /-- Border line within the ring. -/
  seperator : Nat := 0
  firstUnassembledIndex : Nat := 0
  unassembledBytes : Nat := 0
  isEofDataReceived : Bool := false
  deriving DecidableEq, Repr

namespace StreamReassembler

def new (capacity : Nat) : StreamReassembler where
  output := ByteStream.new capacity
  capacity := capacity
  unassembledBuffer := List.replicate capacity 32
  occupied := List.replicate capacity false

/-- Is the slot of the ring occupied? -/
def isOccupied (r : StreamReassembler) (slot : Nat) : Bool := r.occupied.getD slot false

/-- How many bytes of `data` may be stored: all of them, or what is left of
the capacity beyond `index`.  The 64-bit arithmetic wraps when `index` lies
beyond the window. -/
def bytesCanBeStored (r : StreamReassembler) (data : List UInt8) (index : Nat) : Nat :=
  min data.length
    (Word.add 64 (Word.sub 64 (Word.sub 64 r.capacity r.output.bufferSize) index)
      r.firstUnassembledIndex)

/-- Store byte `i` of `data`, the body of the loop of `storeData`. -/
def storeByte (data : List UInt8) (index : Nat) (r : StreamReassembler) (i : Nat) :
    StreamReassembler :=
  let bufI := Word.sub 64 (i + index + r.seperator) r.firstUnassembledIndex % r.capacity
  { r with
    unassembledBytes := if r.isOccupied bufI then r.unassembledBytes else r.unassembledBytes + 1
    unassembledBuffer := r.unassembledBuffer.set bufI (data.getD i 0)
    occupied := r.occupied.set bufI true }

/-- Store the bytes of `data` that fit and are not assembled yet.  Returns the
number of bytes that can be stored. -/
def storeData (r : StreamReassembler) (data : List UInt8) (index : Nat) :
    StreamReassembler × Nat :=
  let stored := r.bytesCanBeStored data index
  let first := if index < r.firstUnassembledIndex then r.firstUnassembledIndex - index else 0
  ((List.range' first (stored - first)).foldl (storeByte data index) r, stored)

/-- Take contiguous bytes out of the ring, starting `count` slots past the
border line.  Every turn clears a slot, so `capacity` turns are enough. -/
def collect : Nat → Nat → StreamReassembler → List UInt8 × StreamReassembler
  | 0, _, r => ([], r)
  | fuel + 1, count, r =>
      let bufI := (count + r.seperator) % r.capacity
      if r.isOccupied bufI then
        let (reassembled, r') := collect fuel (count + 1)
          { r with
            unassembledBuffer := r.unassembledBuffer.set bufI 32
            occupied := r.occupied.set bufI false
            unassembledBytes := Word.sub 64 r.unassembledBytes 1 }
        (r.unassembledBuffer.getD bufI 32 :: reassembled, r')
      else ([], r)

/-- Write the reassembled bytes to the output stream. -/
def writeToOutput (r : StreamReassembler) : StreamReassembler :=
  let (reassembled, r) := collect r.capacity 0 r
  let count := reassembled.length
  { r with
    output := (r.output.write reassembled).1
    firstUnassembledIndex := r.firstUnassembledIndex + count
    seperator := (r.seperator + count) % r.capacity }

/-- Accept a substring, possibly out of order, and assemble what is newly
contiguous. -/
def pushSubstring (r : StreamReassembler) (data : List UInt8) (index : Nat) (eof : Bool) :
    StreamReassembler :=
  let (r, storedBytes) := r.storeData data index
  let isAllStored := storedBytes == data.length
  let r := { r with isEofDataReceived := r.isEofDataReceived || (eof && isAllStored) }
  let r := r.writeToOutput
  -- the end of the stream is inferred from a flag and a count, not from an index
  if r.isEofDataReceived && r.unassembledBytes == 0 then
    { r with output := r.output.endInput }
  else r

end StreamReassembler

end Sponge
