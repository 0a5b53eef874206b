import Sponge.TCPSpongeSocket.Tracking

/-!
# Turns of the loop

A turn of the event loop leaves the socket in step with an endpoint that has
been reached by orderly calls.  The loop gives up only if a system call fails:
its checks for a busy wait and for a short write never fire.
-/

namespace Sponge

open Lib Throwing TCPConnection

namespace TCPSpongeSocket

variable {A : Type} [DatagramAdapter A] [GenuineAdapter A]

/-- No system call fails in the turn, and none gives more than it was asked for. -/
structure Turn.Obliging (turn : Turn A) : Prop where
  poll : ∀ revents, turn.poll = .ready revents → ∀ reported ∈ revents, reported.error = false
  packet : GenuineAdapter.Readable (A := A) turn.answers.packet
  fromOwner : ∀ limit, ∃ bytes, turn.answers.fromOwner limit = .ok bytes ∧
    bytes.length ≤ min FileDescriptor.bufferSize limit
  toOwner : turn.answers.toOwner.Honest
  shutdown : turn.answers.shutdown = .ok ()

/-- The state in which an exception leaves the socket. -/
def GaveUp (k : Contract) (turn : Turn A) (s : TCPSpongeSocket A) : Prop :=
  Followed k s ∧ ¬ turn.Obliging

/-- Until the callbacks run, nothing is read from the adapter. -/
def Starting (k : Contract) (start s : TCPSpongeSocket A) : Prop :=
  Follows k s ∧ s.datagramAdapter = start.datagramAdapter ∧ s.tcp.receiver = start.tcp.receiver

/-- What a callback relies on. -/
def Ready (start : TCPSpongeSocket A) : RuleName → TCPSpongeSocket A → Prop
  | .segmentsIn, s =>
      s.datagramAdapter = start.datagramAdapter ∧ s.tcp.receiver = start.tcp.receiver
  | .bytesIn, s => s.outboundShutdown = false
  | .bytesOut, _ | .segmentsOut, _ => True

variable {k : Contract} {turn : Turn A} {start s : TCPSpongeSocket A} {e : Endpoint}

theorem cancel_triple (name : RuleName) :
    Triple (Starting k start) (rule name).cancel (fun _ => Starting k start)
      (fun _ => GaveUp k turn) := by
  intro s starting
  cases name with
  | bytesIn =>
      obtain ⟨follows, adapter, receiver⟩ := endOutbound_ends starting.1
      exact ⟨follows, adapter.trans starting.2.1, receiver.trans starting.2.2⟩
  | _ => exact starting

theorem cancel_follows (name : RuleName) :
    Triple (Follows k) (rule name : EventLoop.Rule (TCPSpongeSocket A) _).cancel
      (fun _ => Follows k) (fun _ => GaveUp k turn) := by
  intro s follows
  cases name with
  | bytesIn => exact (endOutbound_ends follows).1
  | _ => exact follows

/-- The segments that the turn reads may be given to the connection. -/
def Arriving (k : Contract) (turn : Turn A) (start : TCPSpongeSocket A) : Prop :=
  ∀ e seg a, k.Holds e → e.conn.receiver = start.tcp.receiver →
    DatagramAdapter.read turn.answers.packet start.datagramAdapter = .ok (some seg) a →
    k.Holds (e.apply (.segmentReceived seg)) ∧ (k.Over e → k.Over (e.apply (.segmentReceived seg)))

theorem service_follows (arriving : Arriving k turn start) (name : RuleName) :
    Triple (fun s => Follows k s ∧ Ready start name s) ((rule name).service turn.answers)
      (fun _ => Follows k) (fun _ => GaveUp k turn) := by
  have counted {n m : UInt32} (same : m = n + 1) : m ≠ n := by grind
  apply EventLoop.Rule.service_triple
  rintro s ⟨⟨e, tracks⟩, ready⟩
  cases name with
  | segmentsIn =>
      refine (receiveSegment_ends tracks ?_).imp ?_ ?_
      · intro seg a ran
        exact arriving e seg a tracks.holds (tracks.tcp ▸ ready.2) (ready.1 ▸ ran)
      · exact fun _ s' ends => ⟨ends.1, fun _ => counted ends.2⟩
      · exact fun _ s' ends => ⟨ends.1, fun obliging => ends.2 obliging.packet⟩
  | bytesIn =>
      refine (takeFromOwner_ends tracks ready).imp ?_ ?_
      · exact fun _ s' ends => ⟨ends.1, fun _ => counted ends.2⟩
      · exact fun _ s' ends => ⟨ends.1, fun obliging => ends.2 obliging.fromOwner⟩
  | bytesOut =>
      refine (giveToOwner_ends tracks).imp ?_ ?_
      · exact fun _ s' ends => ⟨ends.1, fun _ => ends.2⟩
      · exact fun _ s' ends => ⟨ends.1, fun obliging => ends.2 ⟨obliging.toOwner, obliging.shutdown⟩⟩
  | segmentsOut =>
      refine (sendSegments_ends tracks rfl).imp ?_ fun _ _ => False.elim
      rintro _ s' ⟨follows, sent⟩
      refine ⟨follows, fun interested => ?_⟩
      -- an adapter may keep a segment back without writing, but then nothing is left to send
      have idle : (rule .segmentsOut).interest s' = !s'.tcp.segmentsOut.isEmpty := rfl
      rw [idle, sent] at interested
      exact Bool.noConfusion interested

/-- The loop does not wait for the event. -/
def Idle (name : RuleName) (s : TCPSpongeSocket A) : Prop := (rule name).interest s = false

omit [GenuineAdapter A] in
theorem ready_cancel {first later : RuleName} (different : first ≠ later)
    (ready : Ready start first s) : Ready start first (finalState ((rule later).cancel s)) := by
  cases later with
  | bytesIn =>
      cases first with
      | segmentsIn => exact ⟨ready.1, (receiver_apply s.tcp .endInputStream).trans ready.2⟩
      | bytesIn => exact absurd rfl different
      | _ => trivial
  | _ => exact ready

omit [GenuineAdapter A] in
theorem keeps_receiveSegment (answers : Answers A) :
    Keeps outboundShutdown (receiveSegment answers) := by
  have reads : Keeps outboundShutdown (onAdapter (DatagramAdapter.read answers.packet)) := by
    refine keeps_within ?_ _
    exact fun _ _ => rfl
  refine reads.bind fun read => ?_
  cases read with
  | none =>
      refine keeps_modify fun s => ?_
      split <;> rfl
  | some seg =>
      refine Keeps.bind (keeps_modify ?_) fun _ => keeps_modify fun s => ?_
      · exact fun _ => rfl
      · split <;> rfl

omit [GenuineAdapter A] in
theorem idle_cancel {first later : RuleName} (order : later = .bytesIn → first = .segmentsIn)
    (idle : Idle first s) : Idle first (finalState ((rule later).cancel s)) := by
  cases later with
  | bytesIn =>
      obtain rfl := order rfl
      show s.tcp.endInputStream.isActive = false
      rw [endInputStream, flushSender_eq]
      exact idle
  | _ => exact idle

theorem sound (arriving : Arriving k turn start) :
    EventLoop.Sound rule (fun _ => Starting k start) (fun _ => Follows k) (Ready start) Idle
      (fun _ => GaveUp k turn) turn.answers ruleNames := by
  have order : ruleNames.Pairwise fun first later => first ≠ later ∧ later ≠ .segmentsIn ∧
      (later = .bytesIn → first = .segmentsIn) := by decide
  constructor
  · exact fun _ s starting => starting.1
  · intro _ name s starting _ _ interested
    cases name with
    | segmentsIn => exact starting.2
    | bytesIn =>
        have polled : (rule .bytesIn).interest s = (s.tcp.active && !s.outboundShutdown &&
            decide (s.tcp.remainingOutboundCapacity > 0)) := rfl
        rw [polled, Bool.and_eq_true, Bool.and_eq_true, Bool.not_eq_true'] at interested
        exact interested.1.2
    | _ => trivial
  · exact fun _ _ _ _ _ _ resting => resting
  · exact fun _ name _ _ => cancel_triple name
  · exact fun _ name _ _ => cancel_follows name
  · exact fun _ name _ _ => service_follows arriving name
  · exact order.imp fun different s => ⟨ready_cancel different.1, idle_cancel different.2.2⟩
  · exact order.imp fun different s ready => ready_cancel different.1.symm ready
  · refine order.imp ?_
    intro first later different s _ ready
    cases later with
    | segmentsIn => exact absurd rfl different.2.1
    | bytesIn =>
        obtain rfl := different.2.2 rfl
        exact (EventLoop.Rule.keeps_service (keeps_receiveSegment turn.answers) s).trans ready
    | _ => trivial

/-- The rules of a loop that has cancelled some of the four. -/
def Remaining (rules : EventLoop (TCPSpongeSocket A) (Answers A)) : Prop :=
  ∃ names : List RuleName, rules = names.map rule ∧ names.Sublist ruleNames

/-- A loop that stops by itself has nothing left to do. -/
def Stops (turn : Turn A) (rules : EventLoop (TCPSpongeSocket A) (Answers A))
    (s : TCPSpongeSocket A) : Prop :=
  turn.abort = true ∨ turn.poll = .interrupted ∨
    ∀ r ∈ rules, r.interest s = false

theorem loopTurn_triple (arriving : Arriving k turn start)
    {rules : EventLoop (TCPSpongeSocket A) (Answers A)} (remaining : Remaining rules) :
    Triple (Starting k start) (loopTurn rules turn)
      (fun result s => (Follows k s ∧ Remaining result.2) ∧
        (result.1 = false → Stops turn result.2 s)) (fun _ => GaveUp k turn) := by
  obtain ⟨names, rfl, among⟩ := remaining
  have waits : Triple (Starting k start)
      (EventLoop.waitNextEvent (names.map rule) turn.poll turn.answers)
      (fun result s => (Follows k s ∧ Remaining result.2) ∧
        (result.1 = .exit → Stops turn result.2 s)) (fun _ => GaveUp k turn) := by
    refine ((sound arriving).waitNextEvent_triple among ?_).weaken (fun _ => id) ?_
    · rintro revents polled reported membership error _ s ⟨e, tracks⟩
      refine ⟨⟨e, tracks.interrupted⟩, fun obliging => ?_⟩
      rw [obliging.poll revents polled reported membership] at error
      exact Bool.noConfusion error
    · rintro result s ⟨fewer, same, left, follows, exits⟩
      refine ⟨⟨follows, fewer, same, left.trans among⟩, fun exit => .inr ?_⟩
      rw [same, List.forall_mem_map]
      exact exits exit
  refine waits.bind ?_
  rintro ⟨ret, rules⟩ s ⟨⟨⟨e, tracks⟩, left⟩, exits⟩
  dsimp only
  rw [branch_run]
  split
  next stops => exact ⟨⟨⟨e, tracks⟩, left⟩, fun _ => stops.elim exits .inl⟩
  rw [get_bind_run]
  by_cases active : s.tcp.active = true
  · have ticks := GenuineAdapter.tick_carries (A := A) e.wire turn.elapsed
    have ticked := tracks.tick turn.elapsed
    simp only [if_pos active, modify_bind_run]
    cases ran : DatagramAdapter.tick turn.elapsed s.datagramAdapter with
    | error ex a => exact False.elim (ticks.of_error tracks.carries ran)
    | ok done a =>
        have run : onAdapter (DatagramAdapter.tick turn.elapsed)
            { s with tcp := s.tcp.tick turn.elapsed } =
            .ok done { s with tcp := s.tcp.tick turn.elapsed, datagramAdapter := a } :=
          within_of_ok ran
        rw [bind_of_ok run]
        refine ⟨⟨⟨_, ticked.congr rfl rfl rfl ?_ rfl ticked.shut⟩, left⟩, Bool.noConfusion⟩
        exact ticks.of_ok tracks.carries ran
  · simp only [if_neg active]
    exact ⟨⟨⟨e, tracks⟩, left⟩, Bool.noConfusion⟩

namespace Process

/-- The socket of a process is in step with an endpoint; if an exception has ended
the process, as far as `Interrupted` says. -/
structure Relates (k : Contract) (p : Process A) (e : Endpoint) : Prop where
  interrupted : p.socket.Interrupted k e
  working : (∀ ex, p.phase ≠ .failed ex) → p.socket.Tracks k e ∧ Remaining p.rules

variable {p : Process A}

theorem Relates.step (arriving : Arriving k turn p.socket) (relates : p.Relates k e) :
    ∃ e', (p.step turn).Relates k e' := by
  rw [Process.step]
  by_cases finished : p.phase.isOver = true
  · rw [if_pos finished]
    exact ⟨e, relates⟩
  rw [if_neg finished]
  have works : ∀ ex, p.phase ≠ .failed ex := by
    rintro ex failed
    exact finished (failed ▸ rfl)
  obtain ⟨tracks, remaining⟩ := relates.working works
  have turns := loopTurn_triple arriving remaining
  have starting : Starting k p.socket p.socket := ⟨⟨e, tracks⟩, rfl, rfl⟩
  cases ran : loopTurn p.rules turn p.socket with
  | ok result socket =>
      obtain ⟨⟨⟨e', tracks⟩, left⟩, _⟩ := turns.of_ok starting ran
      exact ⟨e', tracks.interrupted, fun _ => ⟨tracks, left⟩⟩
  | error ex socket =>
      obtain ⟨⟨e', interrupted⟩, _⟩ := turns.of_error starting ran
      exact ⟨e', interrupted, fun works => absurd rfl (works ex)⟩

/-- A turn in which no system call fails throws nothing. -/
theorem Relates.step_works (arriving : Arriving k turn p.socket) (relates : p.Relates k e)
    (obliging : turn.Obliging) (works : ∀ ex, p.phase ≠ .failed ex) :
    ∀ ex, (p.step turn).phase ≠ .failed ex := by
  obtain ⟨tracks, remaining⟩ := relates.working works
  have turns := loopTurn_triple arriving remaining
  have starting : Starting k p.socket p.socket := ⟨⟨e, tracks⟩, rfl, rfl⟩
  have advances {phase : Phase} (works : ∀ ex, phase ≠ .failed ex) :
      ∀ ex, phase.next ≠ .failed ex := by
    cases phase with
    | failed ex => exact absurd rfl (works ex)
    | _ => exact fun _ => Phase.noConfusion
  rw [Process.step]
  split
  · exact works
  cases ran : loopTurn p.rules turn p.socket with
  | ok result socket =>
      have phase : ∀ ex, (if p.phase.condition p.socket.tcp then p.phase else p.phase.next) ≠
          .failed ex := by
        split
        · exact works
        · exact advances works
      show ∀ ex, (if result.1 then _ else _) ≠ Phase.failed ex
      split
      · exact phase
      · exact advances phase
  | error ex socket => exact absurd obliging (turns.of_error starting ran).2

/-- The turn in which the loop of the thread ends. -/
theorem Relates.step_finishes (arriving : Arriving k turn p.socket) (relates : p.Relates k e)
    (goesOn : p.phase.isOver = false) (finishes : (p.step turn).phase = .finished) :
    Stops turn (p.step turn).rules (p.step turn).socket := by
  have works : ∀ ex, p.phase ≠ .failed ex := by
    rintro ex failed
    rw [failed] at goesOn
    exact Bool.noConfusion goesOn
  obtain ⟨tracks, remaining⟩ := relates.working works
  have turns := loopTurn_triple arriving remaining
  have starting : Starting k p.socket p.socket := ⟨⟨e, tracks⟩, rfl, rfl⟩
  rw [Process.step, if_neg (Bool.eq_false_iff.mp goesOn)] at finishes ⊢
  cases ran : loopTurn p.rules turn p.socket with
  | ok result socket =>
      rw [ran] at finishes
      refine (turns.of_ok starting ran).2 ?_
      rw [← Bool.not_eq_true]
      intro stays
      -- a loop that goes on is that of the thread or the one before it
      have phase : (if p.phase.condition p.socket.tcp then p.phase else p.phase.next) = .finished := by
        simpa only [stays, if_true] using finishes
      cases now : p.phase with
      | running => simp [now, Phase.condition] at phase
      | finished => simp [now, Phase.isOver] at goesOn
      | failed ex => simp [now, Phase.isOver] at goesOn
      | _ =>
          rw [now] at phase
          split at phase <;> cases phase
  | error ex socket =>
      rw [ran] at finishes
      cases finishes

end Process

end TCPSpongeSocket

end Sponge
