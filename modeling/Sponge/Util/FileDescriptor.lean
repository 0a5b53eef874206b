import Sponge.Lib.Throwing
import Sponge.Util.Parser

/-!
# File descriptors

A read takes what the kernel gives, and a write hands the kernel a string in
several pieces, of which it takes as much as it likes.  What the kernel does is
an argument of each call, so that a statement about every argument is one about
every kernel.  A descriptor also records the bytes that went through it.
-/

namespace Sponge

open Lib Throwing

namespace BufferList

theorem length_concatenate (buffers : BufferList) :
    buffers.concatenate.length = buffers.size := List.length_flatten

end BufferList

/-- A view of a string in several pieces. -/
abbrev BufferViewList := BufferList

namespace BufferViewList

/-- Discard the first `n` bytes.  The pieces that the loop has gone through are
discarded also when it throws. -/
def removePrefix : Nat → EStateM Exception BufferViewList Unit
  | 0, views => .ok () views
  | _ + 1, [] => .error (.outOfRange "BufferListView::remove_prefix") []
  | n + 1, front :: rest =>
      if n + 1 < front.length then .ok () (front.drop (n + 1) :: rest)
      else removePrefix (n + 1 - front.length) rest

theorem removePrefix_of_le {n : Nat} {views : BufferViewList} (enough : n ≤ views.size) :
    ∃ rest, removePrefix n views = .ok () rest ∧
      rest.concatenate = views.concatenate.drop n := by
  induction views generalizing n with
  | nil =>
      obtain rfl : n = 0 := Nat.le_zero.mp enough
      exact ⟨[], rfl, rfl⟩
  | cons front rest inductionHypothesis =>
      cases n with
      | zero => exact ⟨front :: rest, rfl, rfl⟩
      | succ n =>
          rw [removePrefix]
          by_cases inside : n + 1 < front.length
          · refine ⟨front.drop (n + 1) :: rest, if_pos inside, ?_⟩
            rw [BufferList.concatenate, BufferList.concatenate, List.flatten_cons,
              List.flatten_cons, List.drop_append_of_le_length (Nat.le_of_lt inside)]
          · have remaining : n + 1 - front.length ≤ BufferList.size rest := by
              rw [BufferList.size, List.map_cons, List.sum_cons] at enough
              exact Nat.sub_le_iff_le_add'.mpr enough
            obtain ⟨left, removes, bytes⟩ := inductionHypothesis remaining
            refine ⟨left, (if_neg inside).trans removes, bytes.trans ?_⟩
            rw [BufferList.concatenate, BufferList.concatenate, List.flatten_cons,
              List.drop_append, List.drop_of_length_le (Nat.le_of_not_lt inside),
              List.nil_append]

/-- The pieces that are handed to the kernel. -/
def asIovecs (views : BufferViewList) : List Buffer := views

end BufferViewList

/-- What the kernel answers to a system call: a value, or the text of an error. -/
abbrev Answer := Except String

/-- A system call that fails throws, and says what was attempted. -/
def systemCall {σ α : Type} (attempt : String) : Answer α → EStateM Exception σ α
  | .ok a => pure a
  | .error text => throw (.runtimeError (attempt ++ ": " ++ text))

/-- A handle to a kernel file descriptor. -/
structure FileDescriptor where
  /-- Has a read met the end? -/
  eof : Bool := false
  closed : Bool := false
  /-- The number of times it has been read. -/
  readCount : UInt32 := 0
  /-- The number of times it has been written. -/
  writeCount : UInt32 := 0
  /-- All bytes that were read from it, in order. -/
  received : List UInt8 := []
  /-- All bytes that the kernel took, in order. -/
  taken : List UInt8 := []
  deriving DecidableEq, Repr

namespace FileDescriptor

abbrev Method := EStateM Exception FileDescriptor

def registerRead (fd : FileDescriptor) : FileDescriptor := { fd with readCount := fd.readCount + 1 }

def registerWrite (fd : FileDescriptor) : FileDescriptor :=
  { fd with writeCount := fd.writeCount + 1 }

/-- Maximum size of a read. -/
def bufferSize : Nat := 1024 * 1024

/-- Read up to `limit` bytes. -/
def read (limit : Nat) (answer : Answer Buffer) : Method Buffer := do
  let sizeToRead := min bufferSize limit
  let str ← systemCall "read" answer
  if limit > 0 ∧ str.length = 0 then modify fun fd => { fd with eof := true }
  if str.length > sizeToRead then throw (.runtimeError "read() read more than requested")
  modify fun fd => registerRead { fd with received := fd.received ++ str }
  return str

/-- What the kernel does with the pieces of a write, depending on their size: it
takes a number of bytes off their front, or fails. -/
abbrev Taking := Nat → Answer Nat

/-- A kernel that does not fail, and takes something of what it is offered. -/
def Taking.Honest (kernel : Taking) : Prop :=
  ∀ offered, ∃ n, kernel offered = .ok n ∧ n ≤ offered ∧ (n = 0 → offered = 0)

/-- One turn of the loop in `write`: what is left of the buffer, and the number of
bytes that were written. -/
def writeOnce (buffer : BufferViewList) (kernel : Taking) : Method (BufferViewList × Nat) := do
  let iovecs := buffer.asIovecs
  let bytesWritten ← systemCall "writev" (kernel (BufferList.size iovecs))
  modify fun fd =>
    { fd with taken := fd.taken ++ (BufferList.concatenate iovecs).take bytesWritten }
  if bytesWritten = 0 ∧ buffer.size ≠ 0 then
    throw (.runtimeError "write returned 0 given non-empty input buffer")
  if bytesWritten > buffer.size then
    throw (.runtimeError "write wrote more than length of input buffer")
  modify registerWrite
  match BufferViewList.removePrefix bytesWritten buffer with
  | .ok _ buffer => return (buffer, bytesWritten)
  | .error e _ => throw e

/-- Write the buffer, with `writeAll` until all of it is written.  The call has
not returned as long as the kernel has not answered. -/
def write (buffer : BufferViewList) (writeAll : Bool) : List Taking → Method (Option Nat)
  | [] => return none
  | kernel :: later => do
      let (buffer, bytesWritten) ← writeOnce buffer kernel
      if writeAll ∧ buffer.size ≠ 0 then
        return (← write buffer writeAll later).map (bytesWritten + ·)
      else return some bytesWritten

/-- Close the descriptor. -/
def close (answer : Answer Unit) : Method Unit := do
  systemCall "close" answer
  modify fun fd => { fd with eof := true, closed := true }

/-- What a shutdown of a socket is about. -/
inductive Shutdown where
  | read
  | write
  | both
  deriving DecidableEq, Repr

/-- Shut a socket down; that counts as reading or writing it. -/
def shutdown (how : Shutdown) (answer : Answer Unit) : Method Unit := do
  systemCall "shutdown" answer
  modify fun fd =>
    match how with
    | .read => fd.registerRead
    | .write => fd.registerWrite
    | .both => fd.registerRead.registerWrite

/-- The descriptor after a read has given `bytes`. -/
def afterRead (fd : FileDescriptor) (limit : Nat) (bytes : Buffer) : FileDescriptor :=
  registerRead
    { fd with
      eof := fd.eof || (decide (limit > 0) && bytes.isEmpty)
      received := fd.received ++ bytes }

/-- A read returns what the kernel gives, unless the system call fails or gives
too much; then it leaves the descriptor as it was. -/
theorem read_cases (limit : Nat) (answer : Answer Buffer) (fd : FileDescriptor) :
    (∃ bytes, answer = .ok bytes ∧ bytes.length ≤ min bufferSize limit ∧
      read limit answer fd = .ok bytes (fd.afterRead limit bytes)) ∨
    ∃ e, read limit answer fd = .error e fd ∧
      ¬ ∃ bytes, answer = .ok bytes ∧ bytes.length ≤ min bufferSize limit := by
  cases answer with
  | error text => exact .inr ⟨.runtimeError ("read" ++ ": " ++ text), rfl, by simp⟩
  | ok bytes =>
      by_cases tooMuch : bytes.length > min bufferSize limit
      · have some_read : ¬ (limit > 0 ∧ bytes.length = 0) := by omega
        refine .inr ⟨.runtimeError "read() read more than requested", ?_, ?_⟩
        · simp only [read, systemCall, pure_bind, if_neg some_read, if_pos tooMuch]
          rfl
        · rintro ⟨same, given, fits⟩
          cases given
          omega
      · refine .inl ⟨bytes, rfl, Nat.le_of_not_lt tooMuch, ?_⟩
        by_cases atEnd : limit > 0 ∧ bytes.length = 0
        · obtain rfl := List.eq_nil_of_length_eq_zero atEnd.2
          simp only [read, systemCall, pure_bind, if_pos atEnd, if_neg tooMuch, modify_bind_run,
            afterRead, decide_eq_true atEnd.1, List.isEmpty_nil, Bool.and_self, Bool.or_true]
          rfl
        · have more : (decide (limit > 0) && bytes.isEmpty) = false := by
            rw [Bool.and_eq_false_iff, decide_eq_false_iff_not, List.isEmpty_eq_false_iff]
            rcases not_and_or.mp atEnd with zero | nonempty
            · exact .inl zero
            · exact .inr fun empty => nonempty (List.length_eq_zero_iff.mpr empty)
          simp only [read, systemCall, pure_bind, if_neg atEnd, if_neg tooMuch, modify_bind_run,
            afterRead, more, Bool.or_false]
          rfl

/-- The descriptor after the kernel has taken `n` bytes. -/
def handedOver (fd : FileDescriptor) (buffer : BufferViewList) (n : Nat) : FileDescriptor :=
  { fd with taken := fd.taken ++ buffer.concatenate.take n }

/-- All that one turn can do. -/
theorem writeOnce_cases (buffer : BufferViewList) (kernel : Taking) (fd : FileDescriptor) :
    (∃ rest n, writeOnce buffer kernel fd = .ok (rest, n) (fd.handedOver buffer n).registerWrite ∧
      kernel buffer.size = .ok n ∧ n ≤ buffer.size ∧ (n = 0 → buffer.size = 0) ∧
      rest.concatenate = buffer.concatenate.drop n) ∨
    ∃ e n, writeOnce buffer kernel fd = .error e (fd.handedOver buffer n) ∧ ¬ kernel.Honest := by
  cases answer : kernel buffer.size with
  | error text =>
      refine .inr ⟨.runtimeError ("writev" ++ ": " ++ text), 0, ?_, ?_⟩
      · simp only [writeOnce, BufferViewList.asIovecs, answer, systemCall]
        rw [handedOver, List.take_zero, List.append_nil]
        rfl
      · intro honest
        obtain ⟨n, takes, _⟩ := honest buffer.size
        rw [answer] at takes
        cases takes
  | ok n =>
      have offers (honest : kernel.Honest) : n ≤ buffer.size ∧ (n = 0 → buffer.size = 0) := by
        obtain ⟨m, takes, fits⟩ := honest buffer.size
        rw [answer] at takes
        cases takes
        exact fits
      simp only [writeOnce, BufferViewList.asIovecs, answer, systemCall, pure_bind, modify_bind_run]
      by_cases nothing : n = 0 ∧ BufferList.size buffer ≠ 0
      · rw [if_pos nothing]
        exact .inr ⟨_, n, rfl, fun honest => nothing.2 ((offers honest).2 nothing.1)⟩
      · rw [if_neg nothing]
        by_cases tooMany : n > BufferList.size buffer
        · rw [if_pos tooMany]
          exact .inr ⟨_, n, rfl, fun honest => absurd (offers honest).1 (Nat.not_le.mpr tooMany)⟩
        · rw [if_neg tooMany]
          have fits := Nat.le_of_not_lt tooMany
          obtain ⟨rest, removes, bytes⟩ := BufferViewList.removePrefix_of_le fits
          rw [removes]
          refine .inl ⟨rest, n, rfl, rfl, fits, ?_, bytes⟩
          intro none_taken
          by_contra more
          exact nothing ⟨none_taken, more⟩

theorem handedOver_rest {fd : FileDescriptor} {buffer rest : BufferViewList} {n : Nat}
    (bytes : rest.concatenate = buffer.concatenate.drop n) (k : Nat) :
    ((fd.handedOver buffer n).registerWrite.handedOver rest k).taken =
      (fd.handedOver buffer (n + k)).taken := by
  show fd.taken ++ buffer.concatenate.take n ++ rest.concatenate.take k = _
  rw [bytes, List.append_assoc, ← List.take_add]
  rfl

theorem size_rest {buffer rest : BufferViewList} {n : Nat}
    (bytes : rest.concatenate = buffer.concatenate.drop n) : rest.size = buffer.size - n := by
  rw [← BufferList.length_concatenate, bytes, List.length_drop, BufferList.length_concatenate]

/-- What a write has done when it has returned, and when it has thrown or still
waits for the kernel. -/
def Written (fd : FileDescriptor) (buffer : BufferViewList) (writeAll : Bool) :
    EStateM.Result Exception FileDescriptor (Option Nat) → Prop
  | .ok (some n) fd' =>
      fd'.taken = (fd.handedOver buffer n).taken ∧ n ≤ buffer.size ∧
        (writeAll = true → n = buffer.size)
  | .ok none fd' | .error _ fd' => ∃ n, fd'.taken = (fd.handedOver buffer n).taken

theorem Written.later {fd : FileDescriptor} {buffer rest : BufferViewList} {writeAll : Bool} {n : Nat}
    {x : Method (Option Nat)}
    (written : (fd.handedOver buffer n).registerWrite.Written rest writeAll
      (x (fd.handedOver buffer n).registerWrite))
    (bytes : rest.concatenate = buffer.concatenate.drop n) (fits : n ≤ buffer.size) :
    fd.Written buffer writeAll
      ((do return (← x).map (n + ·) : Method (Option Nat)) (fd.handedOver buffer n).registerWrite) := by
  have left := size_rest bytes
  cases ran : x (fd.handedOver buffer n).registerWrite with
  | error e fd' =>
      rw [ran] at written
      rw [bind_of_error ran]
      obtain ⟨m, taken⟩ := written
      exact ⟨n + m, taken.trans (handedOver_rest bytes m)⟩
  | ok result fd' =>
      rw [ran] at written
      rw [bind_of_ok ran]
      cases result with
      | none =>
          obtain ⟨m, taken⟩ := written
          exact ⟨n + m, taken.trans (handedOver_rest bytes m)⟩
      | some m =>
          obtain ⟨taken, small, all⟩ := written
          have total : n + m ≤ buffer.size := by omega
          refine ⟨taken.trans (handedOver_rest bytes m), total, fun writesAll => ?_⟩
          have whole : n + m = buffer.size := by
            have rest_written := all writesAll
            omega
          exact whole

theorem written_write (fd : FileDescriptor) (buffer : BufferViewList) (writeAll : Bool)
    (kernels : List Taking) : fd.Written buffer writeAll (write buffer writeAll kernels fd) := by
  induction kernels generalizing fd buffer with
  | nil => exact ⟨0, (List.append_nil _).symm⟩
  | cons kernel later inductionHypothesis =>
      rw [write]
      rcases writeOnce_cases buffer kernel fd with
        ⟨rest, n, ran, _, fits, _, bytes⟩ | ⟨e, n, threw, _⟩
      · have left := size_rest bytes
        rw [bind_of_ok ran]
        by_cases more : writeAll = true ∧ BufferList.size rest ≠ 0
        · simp only [if_pos more]
          exact (inductionHypothesis (fd.handedOver buffer n).registerWrite rest).later bytes fits
        · simp only [if_neg more]
          refine ⟨rfl, fits, fun all => ?_⟩
          have done : BufferList.size rest = 0 := by
            by_contra some_left
            exact more ⟨all, some_left⟩
          omega
      · rw [bind_of_error threw]
        exact ⟨n, rfl⟩

/-- All that a write of one turn can do. -/
theorem write_once_cases (buffer : BufferViewList) (kernel : Taking) (fd : FileDescriptor) :
    (∃ n, write buffer false [kernel] fd = .ok (some n) (fd.handedOver buffer n).registerWrite ∧
      n ≤ buffer.size) ∨
    ∃ e n, write buffer false [kernel] fd = .error e (fd.handedOver buffer n) ∧
      ¬ kernel.Honest := by
  rw [write]
  rcases writeOnce_cases buffer kernel fd with
    ⟨rest, n, ran, _, fits, _, _⟩ | ⟨e, n, threw, dishonest⟩
  · refine .inl ⟨n, ?_, fits⟩
    rw [bind_of_ok ran]
    rfl
  · exact .inr ⟨e, n, bind_of_error threw _, dishonest⟩

/-- A kernel that always answers is not asked more often than there are bytes, and
the write returns. -/
theorem write_returns {kernels : List Taking} (honest : ∀ kernel ∈ kernels, kernel.Honest)
    (fd : FileDescriptor) (buffer : BufferViewList) (enough : max 1 buffer.size ≤ kernels.length) :
    ∃ n fd', write buffer true kernels fd = .ok (some n) fd' := by
  induction kernels generalizing fd buffer with
  | nil => exact absurd enough (by simp)
  | cons kernel later inductionHypothesis =>
      rw [write]
      rcases writeOnce_cases buffer kernel fd with
        ⟨rest, n, ran, _, fits, progress, bytes⟩ | ⟨e, n, threw, dishonest⟩
      · have left := size_rest bytes
        rw [bind_of_ok ran]
        by_cases more : BufferList.size rest ≠ 0
        · simp only [true_and, if_pos more]
          have remaining : max 1 (BufferList.size rest) ≤ later.length := by
            rw [List.length_cons] at enough
            omega
          obtain ⟨m, fd', returned⟩ := inductionHypothesis
            (fun kernel membership => honest kernel (List.mem_cons_of_mem _ membership))
            (fd.handedOver buffer n).registerWrite rest remaining
          exact ⟨n + m, fd', bind_of_ok returned⟩
        · simp only [true_and, if_neg more]
          exact ⟨n, _, rfl⟩
      · exact absurd (honest kernel List.mem_cons_self) dishonest

/-- Whatever the kernel does, the bytes that it has taken are the first bytes of
the buffer, each once and in order, also when the write throws or never returns.
A write that returns says how many they are, and with `writeAll` they are all. -/
theorem write_exact (fd : FileDescriptor) (buffer : BufferViewList) (writeAll : Bool)
    (kernels : List Taking) :
    (match write buffer writeAll kernels fd with
      | .ok (some n) fd' =>
          fd'.taken = fd.taken ++ buffer.concatenate.take n ∧ n ≤ buffer.size ∧
            (writeAll = true → n = buffer.size)
      | .ok none fd' | .error _ fd' =>
          ∃ n, fd'.taken = fd.taken ++ buffer.concatenate.take n) ∧
    ((∀ kernel ∈ kernels, kernel.Honest) → max 1 buffer.size ≤ kernels.length →
      ∃ fd', write buffer true kernels fd = .ok (some buffer.size) fd' ∧
        fd'.taken = fd.taken ++ buffer.concatenate) := by
  refine ⟨fd.written_write buffer writeAll kernels, fun honest enough => ?_⟩
  obtain ⟨n, fd', returned⟩ := write_returns honest fd buffer enough
  have written := fd.written_write buffer true kernels
  rw [returned] at written
  obtain ⟨taken, _, all⟩ := written
  obtain rfl := all rfl
  refine ⟨fd', returned, taken.trans ?_⟩
  rw [handedOver, List.take_of_length_le (Nat.le_of_eq (BufferList.length_concatenate buffer))]

theorem write_exact_two_at_a_time :
    ∃ fd, write [[1, 2, 3], [4]] true (List.replicate 4 fun offered => .ok (min 2 offered)) {} =
        .ok (some 4) fd ∧ fd.taken = [1, 2, 3, 4] := by
  refine (write_exact {} [[1, 2, 3], [4]] true _).2 ?_ (by decide)
  intro kernel membership offered
  rw [List.eq_of_mem_replicate membership]
  exact ⟨min 2 offered, rfl, Nat.min_le_right 2 offered, by omega⟩

end FileDescriptor

end Sponge
