import Sponge.TCPReceiver.Reception

/-!
# What a receiver never takes back

Whatever arrives, the bytes written and read only grow, the end of the stream
and the peer's initial sequence number stay, and the stream keeps its books.
The acknowledgment number and the right edge of the advertised window
therefore never retreat.
-/

namespace Sponge.TCPReceiver

open Lib

/-- The acknowledgment number before it is wrapped. -/
def absoluteAckno (r : TCPReceiver) : ℕ :=
  r.streamOut.bytesWritten + 1 + if r.streamOut.inputEnded then 1 else 0

theorem ackno_eq (r : TCPReceiver) : r.ackno = r.isn.map (wrap r.absoluteAckno) := by
  unfold ackno absoluteAckno
  cases r.streamOut.inputEnded <;> rfl

/-- The end of the advertised window, as far as the 16 bits of a header reach. -/
def rightEdge (r : TCPReceiver) : ℕ := r.absoluteAckno + min r.windowSize 65535

/-- What stays and what grows from a receiver to a later one. -/
structure Later (r r' : TCPReceiver) : Prop where
  isn : ∀ isn ∈ r.isn, r'.isn = some isn
  bytesWritten : r.streamOut.bytesWritten ≤ r'.streamOut.bytesWritten
  bytesRead : r.streamOut.bytesRead ≤ r'.streamOut.bytesRead
  inputEnded : r.streamOut.inputEnded = true → r'.streamOut.inputEnded = true
  capacity : r'.streamOut.totalCapacity = r.streamOut.totalCapacity

theorem Later.refl (r : TCPReceiver) : r.Later r :=
  ⟨fun _ => id, Nat.le_refl _, Nat.le_refl _, id, rfl⟩

theorem Later.trans {r r' r'' : TCPReceiver} (first : r.Later r') (second : r'.Later r'') :
    r.Later r'' :=
  ⟨fun isn known => second.isn isn (first.isn isn known),
    Nat.le_trans first.bytesWritten second.bytesWritten,
    Nat.le_trans first.bytesRead second.bytesRead, second.inputEnded ∘ first.inputEnded,
    second.capacity.trans first.capacity⟩

theorem later_setError (r : TCPReceiver) : r.Later (r.withStreamOut r.streamOut.setError) :=
  ⟨fun _ => id, Nat.le_refl _, Nat.le_refl _, id, rfl⟩

theorem later_popOutput (r : TCPReceiver) (len : ℕ) :
    r.Later (r.withStreamOut (r.streamOut.popOutput len)) := by
  refine ⟨fun _ => id, ?_, ?_, ?_, ?_⟩ <;>
    rw [withStreamOut_streamOut, ByteStream.popOutput_eq]
  · exact Nat.le_refl _
  · exact Nat.le_add_right _ _
  · exact id

theorem later_segmentReceived (r : TCPReceiver) (seg : TCPSegment) :
    r.Later (r.segmentReceived seg) := by
  rw [segmentReceived_eq]
  cases r.streamIndex seg with
  | none => exact .refl r
  | some index =>
      obtain ⟨_, read, _, ended⟩ :=
        StreamReassembler.pushSubstring_frame r.reassembler seg.payload index seg.header.fin
      obtain ⟨written, capacity⟩ :=
        StreamReassembler.pushSubstring_grows r.reassembler seg.payload index seg.header.fin
      refine ⟨?_, written, Nat.le_of_eq read.symm, ended, capacity⟩
      intro isn known
      rw [Option.mem_def.mp known]
      rfl

/-- Between two calls nothing is left to do for the reassembler. -/
def Quiescent (r : TCPReceiver) : Prop := r.reassembler.Quiescent

theorem Quiescent.segmentReceived {r : TCPReceiver} (quiet : r.Quiescent) (seg : TCPSegment) :
    (r.segmentReceived seg).Quiescent := by
  rw [segmentReceived_eq]
  cases r.streamIndex seg with
  | none => exact quiet
  | some index => exact StreamReassembler.Quiescent.pushSubstring quiet seg.payload index _

theorem Later.absoluteAckno_le {r r' : TCPReceiver} (later : r.Later r') :
    r.absoluteAckno ≤ r'.absoluteAckno := by
  have written := later.bytesWritten
  have ended := later.inputEnded
  unfold absoluteAckno
  split_ifs with before after
  · omega
  · exact absurd (ended before) after
  · omega
  · omega

/-- Bytes that arrive move from the window to the acknowledgment number, and
bytes that are read open the window. -/
theorem Quiescent.edge_eq {r : TCPReceiver} (quiet : r.Quiescent) :
    r.absoluteAckno + r.windowSize = r.streamOut.totalCapacity + r.streamOut.bytesRead + 1 +
      if r.streamOut.inputEnded then 1 else 0 := by
  have stream : r.streamOut.WellFormed := quiet.stream
  have accounting : r.streamOut.bytesWritten = r.streamOut.bytesRead + r.streamOut.buffer.length :=
    stream.accounting
  have bounded := stream.bounded
  rw [absoluteAckno, windowSize, stream.remainingCapacity_eq]
  omega

theorem Later.rightEdge_le {r r' : TCPReceiver} (later : r.Later r') (quiet : r.Quiescent)
    (quiet' : r'.Quiescent) : r.rightEdge ≤ r'.rightEdge := by
  have ackno := later.absoluteAckno_le
  have edge : r.absoluteAckno + r.windowSize ≤ r'.absoluteAckno + r'.windowSize := by
    have read := later.bytesRead
    have ended := later.inputEnded
    rw [quiet.edge_eq, quiet'.edge_eq, later.capacity]
    split_ifs with before after
    · omega
    · exact absurd (ended before) after
    · omega
    · omega
  unfold rightEdge
  omega

end Sponge.TCPReceiver
