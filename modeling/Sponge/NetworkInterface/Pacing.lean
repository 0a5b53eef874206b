import Sponge.EthernetFrame.Codec
import Sponge.NetworkInterface.Tables

/-!
# How often an address is asked for

The observer also keeps the ARP requests that the interface puts out.  For each
address their times are at least five seconds apart: either the timer has run
for that long, or it was stopped by a message, and what the message said has
been known for even longer.
-/

namespace Sponge.NetworkInterface

open Lib Throwing Observed

/-- The address that a frame asks for, if it is an ARP request. -/
def requestedIn (frame : EthernetFrame) : Option UInt32 :=
  if frame.header.type = EthernetHeader.typeARP then
    match frame.payload.toBuffer with
    | .ok payload =>
        let (msg, parsingResult) := ARPMessage.parse {} payload
        if parsingResult = .noError ∧ msg.opcode = ARPMessage.opcodeRequest then
          some msg.targetIpAddress
        else none
    | .error _ => none
  else none

theorem requestedIn_arp (i : NetworkInterface) (dst : EthernetAddress) {msg : ARPMessage}
    (supported : msg.supported = true) :
    requestedIn (i.frameTo dst EthernetHeader.typeARP [msg.fields]) =
      if msg.opcode = ARPMessage.opcodeRequest then some msg.targetIpAddress else none := by
  have parsed := ARPMessage.parse_supported supported {} []
  rw [List.append_nil] at parsed
  simp [requestedIn, frameTo, BufferList.toBuffer, parsed]

theorem requestedIn_request (i : NetworkInterface) (dst : EthernetAddress) (ip : UInt32) :
    requestedIn (i.frameTo dst EthernetHeader.typeARP [(i.arpRequest ip).fields]) = some ip :=
  i.requestedIn_arp dst rfl

theorem requestedIn_reply (i : NetworkInterface) (dst : EthernetAddress) (msg : ARPMessage) :
    requestedIn (i.frameTo dst EthernetHeader.typeARP [(i.arpReply msg).fields]) = none :=
  i.requestedIn_arp dst rfl

theorem requestedIn_framesTo (i : NetworkInterface) (dst : EthernetAddress)
    (dgrams : List IPv4Datagram) : (i.framesTo dst dgrams).filterMap requestedIn = [] := by
  rw [List.filterMap_eq_nil_iff]
  intro frame membership
  obtain ⟨dgram, -, rfl⟩ := List.mem_map.mp membership
  rfl

/-- The addresses that an operation asks for. -/
def newRequests (i : NetworkInterface) : Op → List UInt32
  | .send _ nextHop =>
      if i.ethernetAddrCache nextHop.ipv4Numeric = none ∧ i.requestDue nextHop.ipv4Numeric then
        [nextHop.ipv4Numeric]
      else []
  | _ => []

/-- Only a datagram for an unknown address makes the interface ask. -/
theorem Step.requests {i next : NetworkInterface} {op : Op} (step : i.Step op next) :
    ∃ frames, next.framesOut = i.framesOut ++ frames ∧
      frames.filterMap requestedIn = i.newRequests op := by
  cases step with
  | sent known => exact ⟨_, rfl, by simp [newRequests, known, requestedIn_framesTo]⟩
  | keptBack unknown =>
      refine ⟨_, rfl, ?_⟩
      rw [requestFrames, newRequests]
      split
      next due => simp [unknown, due, requestedIn_request]
      next notDue => simp [notDue]
  | ignored => exact ⟨[], (List.append_nil _).symm, rfl⟩
  | learnt =>
      refine ⟨_, rfl, ?_⟩
      rw [List.filterMap_append, requestedIn_framesTo, replyFrames]
      split
      next => simp [requestedIn_reply, newRequests]
      next => rfl
  | ticked => exact ⟨[], (List.append_nil _).symm, rfl⟩

section Pace

/-- How the times at which an address was asked for go with its timer and its
entry in the cache.  A request that the timer does not remember is older than
the message that stopped the timer. -/
structure Pace (clock : ℕ) (times : List ℕ) (timer : Option ℕ)
    (entry : Option (EthernetAddress × ℕ)) : Prop where
  apart : times.Pairwise fun earlier later => earlier + arpReqTime ≤ later
  past : ∀ time ∈ times, time ≤ clock
  timed : ∀ since, timer = some since →
    since ≤ clock ∧ clock - since ∈ times ∧ ∀ time ∈ times, time + since ≤ clock
  cached : ∀ dst age, entry = some (dst, age) →
    age ≤ clock ∧ ∀ time ∈ times, time + age ≤ clock
  idle : timer = none → entry = none → ∀ time ∈ times, time + arpReqTime ≤ clock

variable {clock : ℕ} {times : List ℕ} {timer : Option ℕ} {entry : Option (EthernetAddress × ℕ)}

/-- The timer tells whether the last request is long enough ago. -/
theorem Pace.due_iff (pace : Pace clock times timer entry) (unknown : entry = none) :
    (timer.all fun time => decide (time ≥ arpReqTime)) = true ↔
      ∀ time ∈ times, time + arpReqTime ≤ clock := by
  cases running : timer with
  | none => exact iff_of_true rfl (pace.idle running unknown)
  | some since =>
      obtain ⟨within, last, latest⟩ := pace.timed since running
      rw [Option.all_some, decide_eq_true_iff]
      constructor
      · intro due time asked
        exact (Nat.add_le_add_left due time).trans (latest time asked)
      · intro rested
        have := rested _ last
        omega

theorem Pace.asked (pace : Pace clock times timer none)
    (rested : ∀ time ∈ times, time + arpReqTime ≤ clock) :
    Pace clock (times ++ [clock]) (some 0) none where
  apart := by
    rw [List.pairwise_append]
    refine ⟨pace.apart, List.pairwise_singleton _ _, ?_⟩
    intro time asked now last
    rw [List.mem_singleton.mp last]
    exact rested time asked
  past := List.forall_mem_append.mpr ⟨pace.past, List.forall_mem_singleton.mpr (Nat.le_refl _)⟩
  timed := by
    rintro since ⟨⟩
    refine ⟨Nat.zero_le _, List.mem_append_right _ (List.mem_singleton_self _), ?_⟩
    exact List.forall_mem_append.mpr ⟨pace.past, List.forall_mem_singleton.mpr (Nat.le_refl _)⟩
  cached _ _ := nofun
  idle := nofun

theorem Pace.learnt (pace : Pace clock times timer entry) (dst : EthernetAddress) :
    Pace clock times none (some (dst, 0)) where
  apart := pace.apart
  past := pace.past
  timed _ := nofun
  cached := by
    rintro dst age ⟨⟩
    exact ⟨Nat.zero_le _, pace.past⟩
  idle _ := nofun

theorem older_add {age : ℕ} (older : ∀ time ∈ times, time + age ≤ clock) (ms : ℕ) :
    ∀ time ∈ times, time + (age + ms) ≤ clock + ms := by
  intro time asked
  rw [← Nat.add_assoc]
  exact Nat.add_le_add_right (older time asked) ms

/-- No entry expires before another request may be sent. -/
theorem Pace.ticked (pace : Pace clock times timer entry) {ms : ℕ} (short : clock + ms < 2 ^ 64) :
    Pace (clock + ms) times (timer.map (Word.add 64 · ms)) (agedEntry ms entry) where
  apart := pace.apart
  past time asked := (pace.past time asked).trans (Nat.le_add_right _ _)
  timed := by
    intro since running
    obtain ⟨before, started, rfl⟩ := Option.map_eq_some_iff.mp running
    obtain ⟨within, last, latest⟩ := pace.timed before started
    rw [Word.add_eq (by omega), Nat.add_sub_add_right]
    exact ⟨Nat.add_le_add_right within ms, last, older_add latest ms⟩
  cached := by
    intro dst age kept
    have short (address : EthernetAddress) (before : ℕ) (known : entry = some (address, before)) :
        before + ms < 2 ^ 64 := by
      have within := (pace.cached address before known).1
      omega
    obtain ⟨before, known, rfl, -⟩ := agedEntry_eq_some short kept
    obtain ⟨within, latest⟩ := pace.cached dst before known
    exact ⟨Nat.add_le_add_right within ms, older_add latest ms⟩
  idle := by
    intro stopped forgotten time asked
    have stopped := Option.map_eq_none_iff.mp stopped
    cases known : entry with
    | none => exact (pace.idle stopped known time asked).trans (Nat.le_add_right _ _)
    | some pair =>
        obtain ⟨dst, before⟩ := pair
        obtain ⟨within, latest⟩ := pace.cached dst before known
        have expired : cacheValidTime ≤ before + ms := by
          rw [known, agedEntry_some dst (by omega)] at forgotten
          by_contra young
          rw [if_neg young] at forgotten
          contradiction
        calc
          time + arpReqTime ≤ time + cacheValidTime := Nat.add_le_add_left (by decide) time
          _ ≤ time + (before + ms) := Nat.add_le_add_left expired time
          _ ≤ clock + ms := older_add latest ms time asked

end Pace

/-- An operation keeps the pace of every address. -/
theorem Pace.step {i next : NetworkInterface} {op : Op} {clock : ℕ} {times : List ℕ} {ip : UInt32}
    (pace : Pace clock times (i.arpTimer ip) (i.ethernetAddrCache ip)) (step : i.Step op next)
    (short : clock + op.duration < 2 ^ 64) :
    Pace (clock + op.duration)
      (times ++ ((i.newRequests op).filter (· = ip)).map fun _ => clock)
      (next.arpTimer ip) (next.ethernetAddrCache ip) := by
  cases step with
  | sent known => simpa [newRequests, known, Op.duration] using pace
  | @keptBack dgram nextHop unknown =>
      by_cases same : ip = nextHop.ipv4Numeric
      · subst same
        rw [unknown] at pace
        simp only [unknown]
        cases due : i.requestDue nextHop.ipv4Numeric with
        | true =>
            rw [askedTimer_of_due due]
            simpa [newRequests, unknown, due, Op.duration] using
              pace.asked ((pace.due_iff rfl).mp due)
        | false =>
            obtain ⟨_, _, _, unchanged⟩ := askedTimer_of_not_due due
            rw [unchanged]
            simpa [newRequests, due, Op.duration] using pace
      · have others : (i.newRequests (.send dgram nextHop)).filter (· = ip) = [] := by
          rw [newRequests]
          split <;> simp [Ne.symm same]
        rw [others]
        simpa [askedTimer_of_ne same, Op.duration] using pace
  | ignored => simpa [newRequests, Op.duration] using pace
  | @learnt frame msg accepted =>
      by_cases same : ip = msg.senderIpAddress
      · subst same
        simpa [newRequests, Op.duration] using pace.learnt msg.senderEthernetAddress
      · simpa [newRequests, Function.update_of_ne same, Op.duration] using pace
  | ticked =>
      simp only [newRequests, List.filter_nil, List.map_nil, List.append_nil]
      exact pace.ticked short

/-- An observer that also notes each request and its time. -/
structure Log extends Observed where
  requests : List (UInt32 × ℕ) := []

namespace Log

def step (l : Log) (op : Op) : Log where
  toObserved := l.toObserved.step op
  requests := l.requests ++
    (((l.interface.apply op).framesOut.drop l.interface.framesOut.length).filterMap
      requestedIn).map (·, l.clock)

/-- When an address was asked for. -/
def times (l : Log) (ip : UInt32) : List ℕ :=
  (l.requests.filter (·.1 = ip)).map (·.2)

structure Paced (l : Log) : Prop where
  faithful : l.Faithful
  complete : l.requests.map (·.1) = l.interface.framesOut.filterMap requestedIn
  pace : ∀ ip, Pace l.clock (l.times ip) (l.interface.arpTimer ip)
    (l.interface.ethernetAddrCache ip)

variable {l : Log} {op : Op}

theorem requests_step (step : l.interface.Step op (l.interface.apply op)) :
    (l.step op).requests = l.requests ++ (l.interface.newRequests op).map (·, l.clock) := by
  obtain ⟨frames, out, requested⟩ := step.requests
  rw [Log.step, out, List.drop_left, requested]

theorem times_step (step : l.interface.Step op (l.interface.apply op)) (ip : UInt32) :
    (l.step op).times ip =
      l.times ip ++ ((l.interface.newRequests op).filter (· = ip)).map fun _ => l.clock := by
  simp [times, requests_step step, List.filter_map, Function.comp_def]

theorem Paced.step (paced : l.Paced) (admissible : l.Admissible op) : (l.step op).Paced where
  faithful := paced.faithful.step admissible
  complete := by
    have step := step_apply paced.faithful.serializable admissible.1
    obtain ⟨frames, out, requested⟩ := step.requests
    have interface : (l.step op).interface = l.interface.apply op := interface_step l.toObserved op
    rw [requests_step step, interface, out, List.filterMap_append, requested, ← paced.complete]
    simp [Function.comp_def]
  pace := by
    intro ip
    have step := step_apply paced.faithful.serializable admissible.1
    have interface : (l.step op).interface = l.interface.apply op := interface_step l.toObserved op
    have clock : (l.step op).clock = l.clock + op.duration := clock_step l.toObserved op
    rw [times_step step, interface, clock]
    exact (paced.pace ip).step step admissible.2

theorem paced_new (ethernetAddress : EthernetAddress) (ipAddress : Address) :
    Paced { interface := { ethernetAddress, ipAddress } } where
  faithful := faithful_new ethernetAddress ipAddress
  complete := rfl
  pace _ := {
    apart := List.Pairwise.nil
    past := List.forall_mem_nil _
    timed := nofun
    cached := nofun
    idle _ _ := List.forall_mem_nil _ }

end Log

open Log

/-- In every run the requests for an address are at least five seconds apart,
and a datagram for an unknown address that was not asked for in the last five
seconds makes the interface ask. -/
theorem requests_paced (ethernetAddress : EthernetAddress) (ipAddress : Address)
    (ops : List Op) (serializes : ∀ op ∈ ops, op.Serializes)
    (short : (ops.map Op.duration).sum < 2 ^ 64) :
    let l := run Log.step { interface := { ethernetAddress, ipAddress } } ops
    l.requests.map (·.1) = l.interface.framesOut.filterMap requestedIn ∧
      (∀ ip, (l.times ip).Pairwise fun earlier later => earlier + arpReqTime ≤ later) ∧
      ∀ dgram nextHop, l.interface.ethernetAddrCache nextHop.ipv4Numeric = none →
        (∀ time ∈ l.times nextHop.ipv4Numeric, time + arpReqTime ≤ l.clock) →
        (l.step (.send dgram nextHop)).times nextHop.ipv4Numeric =
          l.times nextHop.ipv4Numeric ++ [l.clock] := by
  have admissible := admissible_throughout (o := { interface := { ethernetAddress, ipAddress } })
    serializes (by simpa using short)
  have commutes (l : Log) (op : Op) : (l.step op).toObserved = l.toObserved.step op := rfl
  have guarded := (guarded_view commutes { interface := { ethernetAddress, ipAddress } } ops).mpr
    admissible
  have paced := guarded.invariant Paced (paced_new ethernetAddress ipAddress)
    fun _ _ paced => paced.step
  refine ⟨paced.complete, fun ip => (paced.pace ip).apart, ?_⟩
  intro dgram nextHop unknown rested
  have due := ((paced.pace nextHop.ipv4Numeric).due_iff unknown).mpr rested
  rw [times_step (step_unknown unknown dgram), newRequests, if_pos ⟨unknown, due⟩]
  simp

/-- The second datagram comes too early for a request, the third does not. -/
theorem requests_paced_retry :
    let dgram : IPv4Datagram := { header := { len := 20 } }
    let ops : List Op :=
      [.send dgram { ip := 7 }, .tick 4999, .send dgram { ip := 7 }, .tick 1]
    let ethernetAddress : EthernetAddress := Vector.replicate 6 2
    let ipAddress : Address := { ip := 1 }
    let l := run Log.step { interface := { ethernetAddress, ipAddress } } ops
    l.times 7 = [0] ∧ (l.step (.send dgram { ip := 7 })).times 7 = [0, 5000] := by
  intro dgram ops ethernetAddress ipAddress
  have serializable : dgram.Serializable := by decide
  have serialized : ∃ payload, dgram.serialize = .ok payload := ⟨_, serializable.serialize_ok⟩
  have serializes : ∀ op ∈ ops, op.Serializes := by
    simp only [ops, List.forall_mem_cons]
    exact ⟨serialized, trivial, serialized, trivial, List.forall_mem_nil _⟩
  have asked : (run Log.step { interface := { ethernetAddress, ipAddress } } ops).times 7 = [0] ∧
      (run Log.step { interface := { ethernetAddress, ipAddress } } ops).clock = 5000 ∧
      (run Log.step { interface := { ethernetAddress, ipAddress } }
        ops).interface.ethernetAddrCache 7 = none := by
    decide +kernel
  have paced := requests_paced ethernetAddress ipAddress ops serializes (by decide)
  generalize run Log.step { interface := { ethernetAddress, ipAddress } } ops = l at asked paced ⊢
  obtain ⟨times, clock, unknown⟩ := asked
  obtain ⟨_, _, asks⟩ := paced
  have again := asks dgram { ip := 7 } unknown
  simp only [Address.ipv4Numeric, times, clock] at again
  exact ⟨times, again (by decide)⟩

end Sponge.NetworkInterface
