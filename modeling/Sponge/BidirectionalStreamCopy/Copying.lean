import Sponge.BidirectionalStreamCopy.Basic
import Mathlib.Data.List.Nodup

/-!
# What the copy keeps

In each of the two ways the bytes that the source gave are those that the sink
took, followed by those in the stream.  Reading stops for good before the sink is
told of the end.
-/

namespace Sponge.BidirectionalStreamCopy

open Lib Throwing

namespace Half

/-- One way, of which the rules that fill and drain the stream may be cancelled. -/
structure Copies (h : Half) (fills drains : Prop) : Prop where
  stream : h.stream.WellFormed
  noError : h.stream.error = false
  room : h.stream.totalCapacity = bufferSize
  exact : h.source.received = h.sink.taken ++ h.stream.buffer
  stopped : ¬ fills → h.stream.isInputEnded = true
  /-- As long as the stream is drained, only the end of the source ends it. -/
  ended : drains → h.stream.isInputEnded = true → h.source.eof = true ∨ ¬ fills
  atEnd : drains → h.stream.isEof = true → h.stream.buffer = []
  shut : h.shutdown = true → h.stream.buffer = [] ∧ (h.source.eof = true ∨ ¬ fills)
  closed : h.sink.closed = true → h.shutdown = true

variable {h h' : Half} {fills drains : Prop}

theorem Copies.congr (copies : h.Copies fills drains) (stream : h'.stream = h.stream)
    (received : h'.source.received = h.source.received) (eof : h'.source.eof = h.source.eof)
    (taken : h'.sink.taken = h.sink.taken) (closed : h'.sink.closed = h.sink.closed)
    (shutdown : h'.shutdown = h.shutdown) : h'.Copies fills drains := by
  constructor
  · exact stream ▸ copies.stream
  · exact stream ▸ copies.noError
  · exact stream ▸ copies.room
  · rw [received, taken, stream]
    exact copies.exact
  · exact stream ▸ copies.stopped
  · rw [stream, eof]
    exact copies.ended
  · exact stream ▸ copies.atEnd
  · rw [shutdown, stream, eof]
    exact copies.shut
  · rw [closed, shutdown]
    exact copies.closed

/-- What `endInput` leaves. -/
def ended (h : Half) : Half := { h with stream := h.stream.endInput }

/-- A stream that ends with nothing in it is at its end. -/
theorem endInput_empty {s : ByteStream} (wf : s.WellFormed) (atEnd : s.endInput.isEof = true) :
    s.buffer = [] := by
  have accounting := wf.accounting
  have same : s.totalWrittenBytes = s.totalReadBytes := beq_iff_eq.mp atEnd
  exact List.length_eq_zero_iff.mp (by omega)

theorem Copies.stopFilling (copies : h.Copies fills drains) : h.ended.Copies False drains where
  stream := copies.stream.endInput
  noError := copies.noError
  room := copies.room
  exact := copies.exact
  stopped _ := rfl
  ended _ _ := .inr id
  atEnd _ := endInput_empty copies.stream
  shut shut := ⟨(copies.shut shut).1, .inr id⟩
  closed := copies.closed

theorem Copies.stopDraining (copies : h.Copies fills drains) : h.ended.Copies fills False where
  stream := copies.stream.endInput
  noError := copies.noError
  room := copies.room
  exact := copies.exact
  stopped _ := rfl
  ended := False.elim
  atEnd := False.elim
  shut := copies.shut
  closed := copies.closed

/-- What `fill` leaves when the source has given `bytes`. -/
def filled (h : Half) (bytes : Buffer) : Half :=
  let source := h.source.afterRead h.stream.remainingCapacity bytes
  let stream := (h.stream.write bytes).1
  { h with source, stream := if source.eof then stream.endInput else stream }

theorem fill_ends (answer : Nat → Answer Buffer) (h : Half) :
    Ends (fun _ h' => ∃ bytes : Buffer, bytes.length ≤ h.stream.remainingCapacity ∧
        h' = h.filled bytes)
      (fun _ h' => h' = h ∧ ¬ ∀ limit, ∃ bytes, answer limit = .ok bytes ∧
        bytes.length ≤ min FileDescriptor.bufferSize limit)
      (fill answer h) := by
  rw [fill, get_bind_run]
  rcases FileDescriptor.read_cases h.stream.remainingCapacity (answer h.stream.remainingCapacity)
      h.source with ⟨bytes, _, fits, ran⟩ | ⟨ex, threw, refused⟩
  · rw [onSource, bind_of_ok (within_of_ok ran), modify_bind_run, get_bind_run, branch_run]
    have short := Nat.le_trans fits (Nat.min_le_right _ _)
    by_cases eof : (h.source.afterRead h.stream.remainingCapacity bytes).eof = true
    · rw [if_pos eof]
      exact ⟨bytes, short, by rw [filled, if_pos eof]⟩
    · rw [if_neg eof]
      exact ⟨bytes, short, by rw [filled, if_neg eof]⟩
  · have threw : onSource (FileDescriptor.read h.stream.remainingCapacity
        (answer h.stream.remainingCapacity)) h = .error ex h := by
      rw [onSource, within, threw]
    rw [bind_of_error threw]
    exact ⟨rfl, fun always => refused (always _)⟩

/-- What arrives is stored, since no more is read than there is room for. -/
theorem Copies.fill (copies : h.Copies fills drains) (filling : fills)
    (open' : h.source.eof = false) {bytes : Buffer}
    (fits : bytes.length ≤ h.stream.remainingCapacity) : (h.filled bytes).Copies fills drains := by
  have going : ¬ (h.source.eof = true ∨ ¬ fills) := by
    rw [open', not_or, not_not]
    exact ⟨Bool.false_ne_true, filling⟩
  have wf := copies.stream.write bytes
  have buffer : (h.stream.write bytes).1.buffer = h.stream.buffer ++ bytes := by
    rw [ByteStream.write_eq, Nat.min_eq_left fits, List.take_length]
  have frame : (h.stream.write bytes).1.isInputEnded = h.stream.isInputEnded ∧
      (h.stream.write bytes).1.isEof = h.stream.isEof ∧
      (h.stream.write bytes).1.error = h.stream.error ∧
      (h.stream.write bytes).1.totalCapacity = h.stream.totalCapacity := by
    rw [ByteStream.write_eq]
    exact ⟨rfl, rfl, rfl, rfl⟩
  obtain ⟨ended, eof, error, capacity⟩ := frame
  have exact : (h.source.received ++ bytes) = h.sink.taken ++ (h.stream.write bytes).1.buffer := by
    rw [copies.exact, buffer, List.append_assoc]
  have unshut : ¬ h.shutdown = true := fun shut => going (copies.shut shut).2
  by_cases atEnd : (h.source.afterRead h.stream.remainingCapacity bytes).eof = true
  · rw [filled, if_pos atEnd]
    constructor
    · exact wf.endInput
    · exact error.trans copies.noError
    · exact capacity.trans copies.room
    · exact exact
    · exact fun _ => rfl
    · exact fun _ _ => .inl atEnd
    · exact fun _ => endInput_empty wf
    · exact fun shut => absurd shut unshut
    · exact copies.closed
  · rw [filled, if_neg atEnd]
    have notEnded (draining : drains) : ¬ h.stream.isInputEnded = true :=
      fun known => going (copies.ended draining known)
    constructor
    · exact wf
    · exact error.trans copies.noError
    · exact capacity.trans copies.room
    · exact exact
    · exact fun stopped => absurd filling stopped
    · exact fun draining known => absurd (ended ▸ known) (notEnded draining)
    · exact fun draining known => absurd (copies.stream.ended (eof ▸ known)) (notEnded draining)
    · exact fun shut => absurd shut unshut
    · exact copies.closed

/-- What `drain` leaves when the sink has taken `n` bytes; `fd` is the sink. -/
def drained (h : Half) (n : Nat) (fd : FileDescriptor) : Half :=
  let stream := h.stream.popOutput n
  { h with stream, sink := fd, shutdown := h.shutdown || stream.eof }

theorem Copies.drain (copies : h.Copies fills drains) (draining : drains) {n : ℕ}
    {fd : FileDescriptor} (taken : fd.taken = h.sink.taken ++ h.stream.buffer.take n)
    (closed : fd.closed = true → h.sink.closed = true ∨ (h.stream.popOutput n).eof = true) :
    (h.drained n fd).Copies fills drains := by
  have wf := copies.stream.popOutput n
  have ended : (h.stream.popOutput n).isInputEnded = h.stream.isInputEnded :=
    h.stream.popOutput_inputEnded n
  have empty (atEnd : (h.stream.popOutput n).eof = true) : (h.stream.popOutput n).buffer = [] :=
    copies.stream.popOutput_empty atEnd
  constructor
  · exact wf
  · exact (h.stream.popOutput_error n).trans copies.noError
  · show (h.stream.popOutput n).totalCapacity = bufferSize
    rw [ByteStream.popOutput_eq]
    exact copies.room
  · show h.source.received = fd.taken ++ (h.stream.popOutput n).buffer
    rw [taken, ByteStream.popOutput_buffer, List.append_assoc, List.take_append_drop]
    exact copies.exact
  · exact fun stopped => ended.trans (copies.stopped stopped)
  · exact fun _ known => copies.ended draining (ended.symm.trans known)
  · exact fun _ => empty
  · intro shut
    rcases Bool.or_eq_true_iff.mp shut with before | now
    · obtain ⟨nothing, reading⟩ := copies.shut before
      refine ⟨?_, reading⟩
      show (h.stream.popOutput n).buffer = []
      rw [ByteStream.popOutput_buffer, nothing, List.drop_nil]
    · exact ⟨empty now, copies.ended draining (ended.symm.trans (wf.ended now))⟩
  · intro isClosed
    rw [drained, Bool.or_eq_true_iff]
    exact (closed isClosed).imp_left copies.closed

/-- What is needed of the call that tells a sink of the end. -/
def Finishes (finish : FileDescriptor.Method Unit) (answer : Answer Unit) : Prop :=
  ∀ fd, Ends
    (fun _ fd' => fd'.taken = fd.taken ∧
      (fd'.writeCount = fd.writeCount ∨ fd'.writeCount = fd.writeCount + 1))
    (fun _ fd' => fd' = fd ∧ answer ≠ .ok ()) (finish fd)

theorem finishes_shutdown (answer : Answer Unit) :
    Finishes (FileDescriptor.shutdown .write answer) answer := by
  intro fd
  cases answer with
  | ok done => exact ⟨rfl, .inr rfl⟩
  | error text => exact ⟨rfl, nofun⟩

theorem finishes_close (answer : Answer Unit) : Finishes (FileDescriptor.close answer) answer := by
  intro fd
  cases answer with
  | ok done => exact ⟨rfl, .inl rfl⟩
  | error text => exact ⟨rfl, nofun⟩

theorem tellEnd_ends {finish : FileDescriptor.Method Unit} {answer : Answer Unit}
    (finishes : Finishes finish answer) (h : Half) :
    Ends
      (fun _ h' => ∃ fd, h' = { h with sink := fd, shutdown := true } ∧ fd.taken = h.sink.taken ∧
        (fd.writeCount = h.sink.writeCount ∨ fd.writeCount = h.sink.writeCount + 1))
      (fun _ h' => h' = h ∧ answer ≠ .ok ())
      ((do onSink finish; modify fun h => { h with shutdown := true } : Method Unit) h) := by
  have told := finishes h.sink
  cases ended : finish h.sink with
  | error e fd =>
      have run : onSink finish h = .error e { h with sink := fd } := by rw [onSink, within, ended]
      rw [ended] at told
      rw [bind_of_error run]
      obtain ⟨rfl, refused⟩ := told
      exact ⟨rfl, refused⟩
  | ok done fd =>
      rw [ended] at told
      rw [onSink, bind_of_ok (within_of_ok ended)]
      exact ⟨fd, rfl, told⟩

theorem drain_ends (kernel : FileDescriptor.Taking) {finish : FileDescriptor.Method Unit}
    {answer : Answer Unit} (finishes : Finishes finish answer) (h : Half) :
    Ends
      (fun _ h' => ∃ n fd, h' = h.drained n fd ∧ fd.taken = h.sink.taken ++ h.stream.buffer.take n ∧
        (fd.closed = true → h.sink.closed = true ∨ (h.stream.popOutput n).eof = true) ∧
        fd.writeCount ≠ h.sink.writeCount)
      (fun _ h' => h'.source = h.source ∧ h'.sink.taken <+: h.sink.taken ++ h.stream.buffer ∧
        ¬ (kernel.Honest ∧ answer = .ok ()))
      (drain kernel finish h) := by
  have once (n : UInt32) : n + 1 ≠ n := by grind
  have twice (n : UInt32) : n + 1 + 1 ≠ n := by grind
  rw [drain, get_bind_run]
  generalize min maxCopyLength h.stream.bufferSize = bytesToWrite
  have buffer : BufferList.concatenate [h.stream.peekOutput bytesToWrite] =
      h.stream.buffer.take bytesToWrite := by
    rw [ByteStream.peekOutput_eq]
    exact List.append_nil _
  rcases FileDescriptor.write_once_cases [h.stream.peekOutput bytesToWrite] kernel h.sink with
    ⟨n, ran, fits⟩ | ⟨ex, n, threw, dishonest⟩
  · have short : n ≤ bytesToWrite := by
      rw [← BufferList.length_concatenate, buffer] at fits
      exact Nat.le_trans fits (List.length_take_le _ _)
    let fd := (h.sink.handedOver [h.stream.peekOutput bytesToWrite] n).registerWrite
    have taken : fd.taken = h.sink.taken ++ h.stream.buffer.take n := by
      show h.sink.taken ++ (BufferList.concatenate _).take n = _
      rw [buffer, List.take_take, Nat.min_eq_left short]
    rw [onSink, bind_of_ok (within_of_ok ran)]
    simp only [modify_bind_run, get_bind_run, Option.getD_some]
    by_cases atEnd : (h.stream.popOutput n).eof = true
    · rw [if_pos atEnd]
      refine (tellEnd_ends finishes _).imp ?_ ?_
      · rintro _ _ ⟨fd', rfl, same, counted⟩
        refine ⟨n, fd', ?_, same.trans taken, fun _ => .inr atEnd, ?_⟩
        · rw [drained, atEnd, Bool.or_true]
        · rcases counted with count | count <;> rw [count]
          · exact once _
          · exact twice _
      · rintro _ _ ⟨rfl, refused⟩
        refine ⟨rfl, ?_, fun obliging => refused obliging.2⟩
        show fd.taken <+: _
        rw [taken, List.prefix_append_right_inj]
        exact List.take_prefix _ _
    · rw [if_neg atEnd]
      refine ⟨n, fd, ?_, taken, ?_, once _⟩
      · rw [drained, Bool.eq_false_of_not_eq_true atEnd, Bool.or_false]
      · exact .inl
  · have threw : onSink (FileDescriptor.write [h.stream.peekOutput bytesToWrite] false [kernel]) h =
        .error ex { h with sink := h.sink.handedOver [h.stream.peekOutput bytesToWrite] n } := by
      rw [onSink, within, threw]
    rw [bind_of_error threw]
    refine ⟨rfl, ?_, fun obliging => dishonest obliging.1⟩
    show h.sink.taken ++ (BufferList.concatenate _).take n <+: _
    rw [buffer, List.prefix_append_right_inj]
    exact (List.take_prefix _ _).trans (List.take_prefix _ _)

/-- Writing to a descriptor does not change what is read from it. -/
theorem keeps_drain {finish : FileDescriptor.Method Unit}
    (keeps : Keeps (fun fd => (fd.received, fd.eof)) finish) (kernel : FileDescriptor.Taking) :
    Keeps (fun h : Half => (h.sink.received, h.sink.eof)) (drain kernel finish) := by
  have writes (buffer : BufferViewList) :
      Keeps (fun fd => (fd.received, fd.eof)) (FileDescriptor.write buffer false [kernel]) := by
    intro fd
    rcases FileDescriptor.write_once_cases buffer kernel fd with ⟨n, ran, _⟩ | ⟨e, n, threw, _⟩
    · rw [ran]
      rfl
    · rw [threw]
      rfl
  have onSink {α : Type} {x : FileDescriptor.Method α}
      (keeps : Keeps (fun fd => (fd.received, fd.eof)) x) :
      Keeps (fun h : Half => (h.sink.received, h.sink.eof)) (onSink x) :=
    keeps.within fun _ _ => rfl
  refine keeps_get.bind fun h => (onSink (writes _)).bind fun n => ?_
  refine (keeps_modify ?_).bind fun _ => keeps_get.bind fun h => ?_
  · exact fun _ => rfl
  · refine ((onSink keeps).bind fun _ => keeps_modify ?_).branch (keeps_pure _)
    exact fun _ => rfl

theorem keeps_shutdown (how : FileDescriptor.Shutdown) (answer : Answer Unit) :
    Keeps (fun fd => (fd.received, fd.eof)) (FileDescriptor.shutdown how answer) := by
  intro fd
  cases answer <;> cases how <;> rfl

end Half

variable {c : BidirectionalStreamCopy} {turn : Turn} {names : List RuleName}

/-- Both ways are copied, as the rules that are left say. -/
def Copies (names : List RuleName) (c : BidirectionalStreamCopy) : Prop :=
  ∀ way, (c.half way).Copies (.fill way ∈ names) (.drain way ∈ names)

/-- No system call fails in the turn, and none gives more than it was asked for. -/
structure Turn.Obliging (turn : Turn) : Prop where
  poll : ∀ revents, turn.poll = .ready revents → ∀ reported ∈ revents, reported.error = false
  fromInput : ∀ limit, ∃ bytes, turn.answers.fromInput limit = .ok bytes ∧
    bytes.length ≤ min FileDescriptor.bufferSize limit
  toSocket : turn.answers.toSocket.Honest
  shutdown : turn.answers.shutdown = .ok ()
  fromSocket : ∀ limit, ∃ bytes, turn.answers.fromSocket limit = .ok bytes ∧
    bytes.length ≤ min FileDescriptor.bufferSize limit
  toOutput : turn.answers.toOutput.Honest
  close : turn.answers.close = .ok ()

/-- What the sinks have taken is what the sources gave, from the first byte on. -/
def Initial (c : BidirectionalStreamCopy) : Prop :=
  ∀ way, (c.half way).sink.taken <+: (c.half way).source.received

theorem Copies.initial (copies : Copies names c) : Initial c :=
  fun way => (copies way).exact ▸ List.prefix_append _ _

/-- The state in which an exception leaves the copy. -/
def GaveUp (turn : Turn) (c : BidirectionalStreamCopy) : Prop := Initial c ∧ ¬ turn.Obliging

/-- Cancelling a rule ends its stream. -/
theorem half_cancel (way other : Way) (c : BidirectionalStreamCopy) :
    (c.withHalf way (c.half way).ended).half other =
      if other = way then (c.half way).ended else c.half other := by
  cases way <;> cases other <;> rfl

theorem mem_rest {done rest : List RuleName} {i j : RuleName}
    (among : (done ++ i :: rest).Sublist ruleNames) :
    j ∈ done ++ rest ↔ j ∈ done ++ i :: rest ∧ j ≠ i := by
  have nodup : (done ++ i :: rest).Nodup := among.nodup (by decide)
  have different : i ∉ done ++ rest := (List.nodup_middle.mp nodup).notMem
  grind

theorem Half.Copies.of_iff {h : Half} {fills drains fills' drains' : Prop}
    (copies : h.Copies fills drains) (fill : fills ↔ fills') (drain : drains ↔ drains') :
    h.Copies fills' drains' := by
  obtain rfl := propext fill
  obtain rfl := propext drain
  exact copies

theorem cancel_copies (done : List RuleName) (i : RuleName) (rest : List RuleName)
    (among : (done ++ i :: rest).Sublist ruleNames) :
    Triple (Copies (done ++ i :: rest)) (rule i).cancel (fun _ => Copies (done ++ rest))
      (fun _ => GaveUp turn) := by
  intro c copies
  have left {j : RuleName} (different : j ≠ i) : j ∈ done ++ i :: rest ↔ j ∈ done ++ rest := by
    rw [mem_rest among, and_iff_left different]
  have gone : False ↔ i ∈ done ++ rest := by
    rw [mem_rest among]
    exact ⟨False.elim, fun both => both.2 rfl⟩
  cases i with
  | fill way =>
      have after : Copies (done ++ rest) (c.withHalf way (c.half way).ended) := by
        intro other
        rw [half_cancel]
        split
        next same =>
          subst same
          exact (copies other).stopFilling.of_iff gone (left RuleName.noConfusion)
        next different =>
          refine (copies other).of_iff (left fun same => different ?_) (left RuleName.noConfusion)
          exact RuleName.fill.inj same
      cases way <;> exact after
  | drain way =>
      have after : Copies (done ++ rest) (c.withHalf way (c.half way).ended) := by
        intro other
        rw [half_cancel]
        split
        next same =>
          subst same
          exact (copies other).stopDraining.of_iff (left RuleName.noConfusion) gone
        next different =>
          refine (copies other).of_iff (left RuleName.noConfusion) (left fun same => different ?_)
          exact RuleName.drain.inj same
      cases way <;> exact after

/-- What a callback relies on. -/
def Ready : RuleName → BidirectionalStreamCopy → Prop
  | .fill way, c => (c.half way).source.eof = false
  | .drain _, _ => True

/-- What is known of a rule without interest. -/
def Idle : RuleName → BidirectionalStreamCopy → Prop
  | .fill way, c => (c.half way).stream.remainingCapacity = 0
  | .drain way, c =>
      (c.half way).stream.buffer = [] ∧
        ((c.half way).stream.eof = true → (c.half way).shutdown = true)

/-- The socket is read on the one way and written on the other, and neither looks at
what the other does to it. -/
theorem Copies.update (copies : Copies names c) {way : Way} {h : Half}
    (copied : h.Copies (.fill way ∈ names) (.drain way ∈ names))
    (received : way = .outbound → h.sink.received = c.socket.received)
    (eof : way = .outbound → h.sink.eof = c.socket.eof)
    (taken : way = .inbound → h.source.taken = c.socket.taken)
    (closed : way = .inbound → h.source.closed = c.socket.closed) :
    Copies names (c.withHalf way h) := by
  intro other
  cases way with
  | outbound =>
      cases other with
      | outbound => exact copied
      | inbound =>
          exact (copies .inbound).congr rfl (received rfl) (eof rfl) rfl rfl rfl
  | inbound =>
      cases other with
      | outbound => exact (copies .outbound).congr rfl rfl rfl (taken rfl) (closed rfl) rfl
      | inbound => exact copied

theorem half_withHalf (way : Way) (c : BidirectionalStreamCopy) (h : Half) :
    (c.withHalf way h).half way = h := by
  cases way <;> rfl

theorem fill_copies {way : Way} (filling : .fill way ∈ names) (copies : Copies names c)
    (ready : Ready (.fill way) c) (answer : Nat → Answer Buffer) :
    Ends
      (fun _ c' => Copies names c' ∧
        (c'.half way).source.readCount ≠ (c.half way).source.readCount)
      (fun _ c' => Initial c' ∧ ¬ ∀ limit, ∃ bytes, answer limit = .ok bytes ∧
        bytes.length ≤ min FileDescriptor.bufferSize limit)
      (onHalf way (Half.fill answer) c) := by
  have counted (n : UInt32) : n + 1 ≠ n := by grind
  refine (Half.fill_ends answer (c.half way)).within.imp ?_ ?_
  · rintro _ _ ⟨_, ⟨bytes, fits, rfl⟩, rfl⟩
    constructor
    · refine copies.update ((copies way).fill filling ready fits) ?_ ?_ ?_ ?_ <;> rintro rfl <;> rfl
    · rw [half_withHalf]
      exact counted _
  · rintro _ _ ⟨_, ⟨rfl, refused⟩, rfl⟩
    refine ⟨?_, refused⟩
    have same : c.withHalf way (c.half way) = c := by cases way <;> rfl
    rw [same]
    exact copies.initial

theorem drain_copies {way : Way} (draining : .drain way ∈ names) (copies : Copies names c)
    (kernel : FileDescriptor.Taking) {finish : FileDescriptor.Method Unit} {answer : Answer Unit}
    (finishes : Half.Finishes finish answer)
    (keeps : way = .outbound → Keeps (fun fd => (fd.received, fd.eof)) finish) :
    Ends
      (fun _ c' => Copies names c' ∧ (c'.half way).sink.writeCount ≠ (c.half way).sink.writeCount)
      (fun _ c' => Initial c' ∧ ¬ (kernel.Honest ∧ answer = .ok ()))
      (onHalf way (Half.drain kernel finish) c) := by
  have ends := (Half.drain_ends kernel finishes (c.half way)).and_final
    (fun h => way = .outbound → (h.sink.received, h.sink.eof) = (c.socket.received, c.socket.eof))
    (by
      rintro rfl
      exact Half.keeps_drain (keeps rfl) kernel _)
  refine ends.within.imp ?_ ?_
  · rintro _ _ ⟨_, ⟨⟨n, fd, rfl, taken, closed, count⟩, apart⟩, rfl⟩
    constructor
    · refine copies.update ((copies way).drain draining taken closed) ?_ ?_ ?_ ?_
      · exact fun out => congrArg Prod.fst (apart out)
      · exact fun out => congrArg Prod.snd (apart out)
      · rintro rfl
        rfl
      · rintro rfl
        rfl
    · rw [half_withHalf]
      exact count
  · rintro _ _ ⟨h, ⟨⟨source, taken, refused⟩, apart⟩, rfl⟩
    refine ⟨fun other => ?_, refused⟩
    have initial := copies.initial
    have mine : h.sink.taken <+: h.source.received := by
      rw [source, (copies way).exact]
      exact taken
    cases way with
    | outbound =>
        cases other with
        | outbound => exact mine
        | inbound =>
            have same : h.sink.received = c.socket.received := congrArg Prod.fst (apart rfl)
            show c.output.taken <+: h.sink.received
            rw [same]
            exact initial .inbound
    | inbound =>
        cases other with
        | outbound =>
            show h.source.taken <+: c.input.received
            rw [source]
            exact initial .outbound
        | inbound => exact mine

theorem service_copies (done : List RuleName) (i : RuleName) (rest : List RuleName) :
    Triple (fun c => Copies (done ++ i :: rest) c ∧ Ready i c) ((rule i).service turn.answers)
      (fun _ => Copies (done ++ i :: rest)) (fun _ => GaveUp turn) := by
  have member : i ∈ done ++ i :: rest := List.mem_append_right done List.mem_cons_self
  apply EventLoop.Rule.service_triple
  rintro c ⟨copies, ready⟩
  cases i with
  | fill way =>
      cases way with
      | outbound =>
          refine (fill_copies member copies ready turn.answers.fromInput).imp ?_ ?_
          · exact fun _ c' ends => ⟨ends.1, fun _ => ends.2⟩
          · exact fun _ c' ends => ⟨ends.1, fun obliging => ends.2 obliging.fromInput⟩
      | inbound =>
          refine (fill_copies member copies ready turn.answers.fromSocket).imp ?_ ?_
          · exact fun _ c' ends => ⟨ends.1, fun _ => ends.2⟩
          · exact fun _ c' ends => ⟨ends.1, fun obliging => ends.2 obliging.fromSocket⟩
  | drain way =>
      cases way with
      | outbound =>
          refine (drain_copies member copies turn.answers.toSocket
            (Half.finishes_shutdown turn.answers.shutdown) fun _ => Half.keeps_shutdown _ _).imp ?_ ?_
          · exact fun _ c' ends => ⟨ends.1, fun _ => ends.2⟩
          · exact fun _ c' ends =>
              ⟨ends.1, fun obliging => ends.2 ⟨obliging.toSocket, obliging.shutdown⟩⟩
      | inbound =>
          refine (drain_copies member copies turn.answers.toOutput
            (Half.finishes_close turn.answers.close) Way.noConfusion).imp ?_ ?_
          · exact fun _ c' ends => ⟨ends.1, fun _ => ends.2⟩
          · exact fun _ c' ends =>
              ⟨ends.1, fun obliging => ends.2 ⟨obliging.toOutput, obliging.close⟩⟩

end Sponge.BidirectionalStreamCopy
