import Sponge.BidirectionalStreamCopy.Copying

/-!
# Runs of the copy

Whatever the kernel does, both ways are copied without loss, and the copy returns
by itself only when both are complete.
-/

namespace Sponge.BidirectionalStreamCopy

open Lib Throwing

variable {c : BidirectionalStreamCopy} {names : List RuleName}

theorem ready_cancel (name other : RuleName) (ready : Ready name c) :
    Ready name (finalState ((rule other).cancel c)) := by
  cases name with
  | fill way => rcases other with other | other <;> cases other <;> cases way <;> exact ready
  | drain way => trivial

theorem idle_cancel {first later : RuleName}
    (order : ∀ way, first = .drain way → later ≠ .fill way ∧ later ≠ .drain way)
    (idle : Idle first c) : Idle first (finalState ((rule later).cancel c)) := by
  cases first with
  | fill way => rcases later with later | later <;> cases later <;> cases way <;> exact idle
  | drain way =>
      obtain ⟨notFill, notDrain⟩ := order way rfl
      cases later with
      | fill other => cases other <;> cases way <;> first | exact idle | exact absurd rfl notFill
      | drain other => cases other <;> cases way <;> first | exact idle | exact absurd rfl notDrain

/-- Neither reading the input nor writing the socket meets the end of the socket. -/
theorem keeps_socket_eof {name : RuleName} (outbound : name = .fill .outbound ∨ name = .drain .outbound)
    (answers : Answers) : Keeps (fun c => c.socket.eof) ((rule name).service answers) := by
  apply EventLoop.Rule.keeps_service
  rcases outbound with rfl | rfl
  · have fills : Keeps (fun h : Half => h.sink.eof) (Half.fill answers.fromInput) := by
      refine keeps_get.bind fun h => (keeps_within ?_ _).bind fun data => ?_
      · exact fun _ _ => rfl
      refine (keeps_modify ?_).bind fun _ => keeps_get.bind fun h => ?_
      · exact fun _ => rfl
      · exact Keeps.branch (keeps_modify fun _ => rfl) (keeps_pure _)
    exact fills.within (half_withHalf .outbound)
  · have drains : Keeps (fun h : Half => h.sink.eof) (Half.drain answers.toSocket
        (FileDescriptor.shutdown .write answers.shutdown)) :=
      fun h => congrArg Prod.snd (Half.keeps_drain (Half.keeps_shutdown _ _) answers.toSocket h)
    exact drains.within (half_withHalf .outbound)

theorem ready_of_working {way : Way} (working : (rule (.fill way)).isDefunct c = false) :
    Ready (.fill way) c := by
  cases way with
  | outbound =>
      have defunct : (rule (.fill .outbound)).isDefunct c = (c.input.eof || c.input.closed) := rfl
      rw [defunct, Bool.or_eq_false_iff] at working
      exact working.1
  | inbound =>
      have defunct : (rule (.fill .inbound)).isDefunct c = (c.socket.eof || c.socket.closed) := rfl
      rw [defunct, Bool.or_eq_false_iff] at working
      exact working.1

theorem full_of_resting {h other : Half} (noError : h.stream.error = false)
    (others : other.stream.error = false) (resting : h.isFillable other = false) :
    h.stream.remainingCapacity = 0 := by
  rw [Half.isFillable, noError, others, Bool.not_false, Bool.true_and, Bool.and_true,
    decide_eq_false_iff_not] at resting
  omega

theorem empty_of_resting {h : Half} (resting : h.isDrainable = false) :
    h.stream.buffer = [] ∧ (h.stream.eof = true → h.shutdown = true) := by
  rw [Half.isDrainable, Bool.or_eq_false_iff, Bool.not_eq_false', Bool.and_eq_false_iff] at resting
  refine ⟨List.isEmpty_iff.mp resting.1, fun atEnd => ?_⟩
  rcases resting.2 with goesOn | shut
  · rw [atEnd] at goesOn
    exact Bool.noConfusion goesOn
  · rwa [Bool.not_eq_false'] at shut

theorem idle_of_resting (copies : Copies names c) (name : RuleName)
    (resting : (rule name).interest c = false) : Idle name c := by
  have noError way := (copies way).noError
  cases name with
  | fill way => cases way <;> exact full_of_resting (noError _) (noError _) resting
  | drain way => cases way <;> exact empty_of_resting resting

theorem sound (turn : Turn) :
    EventLoop.Sound rule Copies Copies Ready Idle (fun _ => GaveUp turn) turn.answers ruleNames := by
  have order : ruleNames.Pairwise fun first later =>
      (∀ way, first = .drain way → later ≠ .fill way ∧ later ≠ .drain way) ∧
      (∀ way, later = .fill way →
        way = .inbound ∧ (first = .fill .outbound ∨ first = .drain .outbound)) := by
    simp [ruleNames]
  constructor
  · exact fun _ _ => id
  · intro names name c copies _ working _
    cases name with
    | fill way => exact ready_of_working working
    | drain way => trivial
  · exact fun names name c copies _ _ resting => idle_of_resting copies name resting
  · exact cancel_copies
  · exact cancel_copies
  · exact fun done i rest _ => service_copies done i rest
  · exact order.imp fun different c => ⟨ready_cancel _ _, idle_cancel different.1⟩
  · exact order.imp fun _ c => ready_cancel _ _
  · refine order.imp ?_
    intro first later different c _ ready
    cases later with
    | fill way =>
        obtain ⟨rfl, outbound⟩ := different.2 way rfl
        exact (keeps_socket_eof outbound turn.answers c).trans ready
    | drain way => trivial

namespace Process

variable {p : Process}

/-- The sinks have got nothing but what the sources gave, and as long as no
exception has ended the copy, the rules that are left keep both ways. -/
structure Relates (p : Process) : Prop where
  initial : Initial p.copy
  working : (∀ ex, p.phase ≠ .failed ex) → ∃ names : List RuleName,
    p.rules = names.map rule ∧ names.Sublist ruleNames ∧ Copies names p.copy

/-- A copy that has returned has nothing left to do. -/
def Idles (p : Process) : Prop :=
  p.phase = .returned → ∃ names : List RuleName, p.rules = names.map rule ∧ Copies names p.copy ∧
    ∀ name ∈ names, Idle name p.copy

theorem Relates.turn_ends (relates : p.Relates) (copying : p.phase = .copying) (turn : Turn) :
    Ends
      (fun result copy => ∃ names : List RuleName, result.2 = names.map rule ∧
        names.Sublist ruleNames ∧ Copies names copy ∧
        (result.1 = .exit → turn.poll = .interrupted ∨ ∀ name ∈ names, Idle name copy))
      (fun _ => GaveUp turn)
      (EventLoop.waitNextEvent p.rules turn.poll turn.answers p.copy) := by
  have works : ∀ ex, p.phase ≠ .failed ex := by
    rw [copying]
    exact fun _ => Phase.noConfusion
  obtain ⟨names, rules, among, copies⟩ := relates.working works
  rw [rules]
  refine ((sound turn).waitNextEvent_triple among ?_ p.copy copies).imp ?_ fun _ _ => id
  · intro revents polled reported membership error names c copies
    refine ⟨copies.initial, fun obliging => ?_⟩
    rw [obliging.poll revents polled reported membership] at error
    exact Bool.noConfusion error
  · rintro result copy ⟨fewer, same, left, copies, exits⟩
    exact ⟨fewer, same, left.trans among, copies, exits⟩

/-- All that a turn of the loop can do to the process. -/
theorem step_cases (p : Process) (turn : Turn) :
    (p.phase ≠ .copying ∧ p.step turn = p) ∨ p.phase = .copying ∧
      ((∃ result rules copy, EventLoop.waitNextEvent p.rules turn.poll turn.answers p.copy =
          .ok (result, rules) copy ∧
        p.step turn =
          { copy, rules, phase := if result = .exit then .returned else .copying }) ∨
        ∃ e copy, EventLoop.waitNextEvent p.rules turn.poll turn.answers p.copy = .error e copy ∧
          p.step turn = { p with copy, phase := .failed e }) := by
  cases phase : p.phase with
  | copying =>
      rw [step, phase]
      cases ran : EventLoop.waitNextEvent p.rules turn.poll turn.answers p.copy with
      | error e copy => exact .inr ⟨rfl, .inr ⟨e, copy, rfl, rfl⟩⟩
      | ok result copy =>
          obtain ⟨ret, rules⟩ := result
          refine .inr ⟨rfl, .inl ⟨ret, rules, copy, rfl, ?_⟩⟩
          cases ret <;> rfl
  | _ =>
      left
      rw [step, phase]
      exact ⟨Phase.noConfusion, rfl⟩

theorem Relates.step (relates : p.Relates) (turn : Turn) : (p.step turn).Relates := by
  rcases p.step_cases turn with ⟨_, same⟩ | ⟨copying, ⟨ret, rules, copy, ran, same⟩ |
    ⟨e, copy, threw, same⟩⟩
  · rw [same]
    exact relates
  · have ends := relates.turn_ends copying turn
    rw [ran] at ends
    obtain ⟨names, left, among, copies, _⟩ := ends
    rw [same]
    exact ⟨copies.initial, fun _ => ⟨names, left, among, copies⟩⟩
  · have ends := relates.turn_ends copying turn
    rw [threw] at ends
    rw [same]
    exact ⟨ends.1, fun works => absurd rfl (works e)⟩

theorem Relates.step_idles (relates : p.Relates) {turn : Turn} (quiet : turn.poll ≠ .interrupted)
    (idles : p.Idles) : (p.step turn).Idles := by
  rcases p.step_cases turn with ⟨_, same⟩ | ⟨copying, ⟨ret, rules, copy, ran, same⟩ |
    ⟨e, copy, threw, same⟩⟩
  · rw [same]
    exact idles
  · have ends := relates.turn_ends copying turn
    rw [ran] at ends
    obtain ⟨names, left, _, copies, exits⟩ := ends
    rw [same]
    intro returned
    have exit : ret = .exit := by
      by_contra goesOn
      rw [if_neg goesOn] at returned
      cases returned
    exact ⟨names, left, copies, (exits exit).resolve_left quiet⟩
  · rw [same]
    exact Phase.noConfusion

theorem Relates.step_works (relates : p.Relates) {turn : Turn} (obliging : turn.Obliging)
    (works : ∀ ex, p.phase ≠ .failed ex) : ∀ ex, (p.step turn).phase ≠ .failed ex := by
  rcases p.step_cases turn with ⟨_, same⟩ | ⟨copying, ⟨ret, rules, copy, ran, same⟩ |
    ⟨e, copy, threw, same⟩⟩
  · rw [same]
    exact works
  · rw [same]
    intro ex
    show ite _ _ _ ≠ _
    split <;> exact Phase.noConfusion
  · have ends := relates.turn_ends copying turn
    rw [threw] at ends
    exact absurd obliging ends.2

end Process

/-- The copy as it starts, for a socket that has not been used. -/
def start : Process := { copy := { socket := {} } }

theorem copies_start : Copies ruleNames start.copy := by
  have wf : (ByteStream.new bufferSize).WellFormed := ByteStream.wellFormed_new (by decide)
  intro way
  cases way <;> exact ⟨wf, rfl, rfl, rfl, fun stopped => absurd (by decide) stopped,
    fun _ => Bool.noConfusion, fun _ => Bool.noConfusion, Bool.noConfusion, Bool.noConfusion⟩

theorem relates_start : start.Relates :=
  ⟨copies_start.initial, fun _ => ⟨ruleNames, rfl, List.Sublist.refl _, copies_start⟩⟩

theorem relates_run (turns : List Turn) : (run Process.step start turns).Relates :=
  run_invariant Process.Relates turns relates_start fun _ turn relates => relates.step turn

/-- At every moment of every run, what has been written to the socket is a part, from
the start on, of what has been read from the input, and what has been written to the
output one of what has been read from the socket.  The rest is in the two streams,
unless a system call has failed, and nothing else makes the copy throw. -/
theorem run_copies (turns : List Turn) :
    let p := run Process.step start turns
    (p.copy.socket.taken <+: p.copy.input.received ∧
      p.copy.output.taken <+: p.copy.socket.received) ∧
    ((∀ ex, p.phase ≠ .failed ex) →
      p.copy.input.received = p.copy.socket.taken ++ p.copy.outbound.buffer ∧
      p.copy.outbound.buffer.length ≤ bufferSize ∧
      p.copy.socket.received = p.copy.output.taken ++ p.copy.inbound.buffer ∧
      p.copy.inbound.buffer.length ≤ bufferSize) ∧
    ((∀ turn ∈ turns, turn.Obliging) → ∀ ex, p.phase ≠ .failed ex) := by
  intro p
  have relates : p.Relates := relates_run turns
  refine ⟨⟨relates.initial .outbound, relates.initial .inbound⟩, fun works => ?_, fun obliging => ?_⟩
  · obtain ⟨names, _, _, copies⟩ := relates.working works
    have bounded way := (copies way).room ▸ (copies way).stream.bounded
    exact ⟨(copies .outbound).exact, bounded .outbound, (copies .inbound).exact, bounded .inbound⟩
  · have guarded : Guarded Process.step (fun _ turn => turn.Obliging) start turns :=
      (guarded_iff_forall_mem Turn.Obliging start turns).mpr obliging
    exact (guarded.invariant (fun p => p.Relates ∧ ∀ ex, p.phase ≠ .failed ex)
      ⟨relates_start, fun _ => Phase.noConfusion⟩ fun p turn inv obliging =>
        ⟨inv.1.step turn, inv.1.step_works obliging inv.2⟩).2

/-- A turn in which the input and the socket give what they have, as far as there
is room for it, and the kernel takes what it is offered. -/
def exchangeTurn (revents : List EventLoop.Revents) (input socket : Buffer) : Turn where
  poll := .ready revents
  answers :=
    { fromInput := fun limit => .ok (input.take limit), toSocket := .ok, shutdown := .ok ()
      fromSocket := fun limit => .ok (socket.take limit), toOutput := .ok, close := .ok () }

/-- Two bytes go out, one comes in, and both ends are met. -/
def exchange : List Turn :=
  [exchangeTurn [{ input := true }, {}, {}, {}] [104, 105] [],
    exchangeTurn [{ input := true }, { output := true }, { input := true }, {}] [] [111],
    exchangeTurn [{}, { input := true }, { output := true }] [] [],
    exchangeTurn [] [] []]

theorem obliging_exchangeTurn {revents : List EventLoop.Revents} {input socket : Buffer}
    (calm : ∀ reported ∈ revents, reported.error = false)
    (short : input.length ≤ FileDescriptor.bufferSize ∧
      socket.length ≤ FileDescriptor.bufferSize) :
    (exchangeTurn revents input socket).Obliging := by
  have gives {bytes : Buffer} (fits : bytes.length ≤ FileDescriptor.bufferSize) (limit : ℕ) :
      (bytes.take limit).length ≤ min FileDescriptor.bufferSize limit := by
    rw [List.length_take]
    omega
  exact {
    poll := fun _ polled => by
      cases polled
      exact calm
    fromInput := fun limit => ⟨_, rfl, gives short.1 limit⟩
    toSocket := fun offered => ⟨offered, rfl, Nat.le_refl _, id⟩
    shutdown := rfl
    fromSocket := fun limit => ⟨_, rfl, gives short.2 limit⟩
    toOutput := fun offered => ⟨offered, rfl, Nat.le_refl _, id⟩
    close := rfl }

theorem run_copies_exchange :
    let p := run Process.step start exchange
    (∀ ex, p.phase ≠ .failed ex) ∧ p.copy.socket.taken = [104, 105] ∧
      p.copy.input.received = p.copy.socket.taken ++ p.copy.outbound.buffer := by
  have copies := run_copies exchange
  have works := copies.2.2 (by
    simp only [exchange, List.forall_mem_cons]
    refine ⟨?_, ?_, ?_, ?_, List.forall_mem_nil _⟩ <;>
      exact obliging_exchangeTurn (by decide) (by decide))
  exact ⟨works, by decide +kernel, (copies.2.1 works).1⟩

/-- A way of which nothing is left to do is complete. -/
theorem Half.Copies.complete {h : Half} {fills drains : Prop} (copies : h.Copies fills drains)
    (full : fills → h.stream.remainingCapacity = 0)
    (empty : drains → h.stream.buffer = [] ∧ (h.stream.eof = true → h.shutdown = true))
    (told : drains ∨ h.sink.closed = true) :
    h.sink.taken = h.source.received ∧ h.shutdown = true := by
  have finished : h.stream.buffer = [] ∧ h.shutdown = true := by
    rcases told with draining | closed
    · obtain ⟨nothing, shut⟩ := empty draining
      refine ⟨nothing, shut (copies.stream.drained ?_ nothing)⟩
      refine copies.stopped fun filling => ?_
      -- an empty stream has room, so that the rule that fills it is interested
      have room := full filling
      rw [copies.stream.remainingCapacity_eq, copies.room, nothing] at room
      cases room
    · have shut := copies.closed closed
      exact ⟨(copies.shut shut).1, shut⟩
  refine ⟨?_, finished.2⟩
  rw [copies.exact, finished.1, List.append_nil]

/-- The rules differ in their descriptor or in its direction. -/
theorem rule_injective : Function.Injective rule := by
  let c : BidirectionalStreamCopy :=
    { socket := {}, input := { readCount := 1 }, output := { readCount := 2 } }
  have seen : ∀ i j, (rule i).direction = (rule j).direction → (rule i).fd c = (rule j).fd c →
      i = j := by
    intro i j
    cases i with
    | fill way => cases j with
      | fill other => cases way <;> cases other <;> decide
      | drain other => cases way <;> cases other <;> decide
    | drain way => cases j with
      | fill other => cases way <;> cases other <;> decide
      | drain other => cases way <;> cases other <;> decide
  intro i j same
  exact seen i j (congrArg EventLoop.Rule.direction same)
    (congrFun (congrArg EventLoop.Rule.fd same) c)

/-- Unless a signal interrupts it, the copy returns only when it is complete: a way
whose sink has not hung up has passed on every byte that was read, and has told the
sink of the end. -/
theorem run_returns_complete (turns : List Turn)
    (quiet : ∀ turn ∈ turns, turn.poll ≠ .interrupted) :
    let p := run Process.step start turns
    p.phase = .returned →
      (rule (.drain .outbound) ∈ p.rules →
        p.copy.socket.taken = p.copy.input.received ∧ p.copy.outboundShutdown = true) ∧
      (rule (.drain .inbound) ∈ p.rules ∨ p.copy.output.closed = true →
        p.copy.output.taken = p.copy.socket.received ∧ p.copy.inboundShutdown = true) := by
  intro p returned
  have guarded : Guarded Process.step (fun _ turn => turn.poll ≠ .interrupted) start turns :=
    (guarded_iff_forall_mem (fun turn : Turn => turn.poll ≠ .interrupted) start turns).mpr quiet
  have inv := guarded.invariant (fun p => p.Relates ∧ p.Idles) ⟨relates_start, Phase.noConfusion⟩
    fun p turn inv quiet => ⟨inv.1.step turn, inv.1.step_idles quiet inv.2⟩
  obtain ⟨names, rules, copies, idle⟩ := inv.2 returned
  have left {name : RuleName} (present : rule name ∈ p.rules) : name ∈ names := by
    rw [rules] at present
    exact (List.mem_map_of_injective rule_injective).mp present
  exact ⟨fun present => (copies .outbound).complete (idle _) (idle _) (.inl (left present)),
    fun told => (copies .inbound).complete (idle _) (idle _) (told.imp_left left)⟩

theorem run_returns_complete_exchange :
    let p := run Process.step start exchange
    p.phase = .returned ∧ p.copy.output.closed = true ∧ p.copy.output.taken = [111] ∧
      p.copy.output.taken = p.copy.socket.received := by
  have complete := run_returns_complete exchange
    (by decide) (by decide +kernel)
  exact ⟨by decide +kernel, by decide +kernel, by decide +kernel,
    (complete.2 (.inr (by decide +kernel))).1⟩

end Sponge.BidirectionalStreamCopy
