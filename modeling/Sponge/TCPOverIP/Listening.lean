import Sponge.Lib.Run
import Sponge.TCPOverIP.Basic

/-!
# A listening adapter takes one peer

Until a SYN comes to its port, an adapter that listens returns nothing and stays
as it is.  From then on it is bound to the addresses and ports of that SYN.
-/

namespace Sponge.TCPOverIPv4Adapter

open Lib Throwing

/-- The segment in a datagram, if it is TCP and parses. -/
def segmentIn (dgram : IPv4Datagram) : Option TCPSegment :=
  if dgram.header.proto = IPv4Header.protoTcp then
    match dgram.payload.toBuffer with
    | .ok payload =>
        let (seg, parsingResult) := TCPSegment.parse {} payload dgram.header.pseudoCksum
        if parsingResult = .noError then some seg else none
    | .error _ => none
  else none

/-- The segment in a datagram, if it opens a connection to a port. -/
def openingSegment (port : UInt16) (dgram : IPv4Datagram) : Option TCPSegment :=
  (segmentIn dgram).filter fun seg =>
    seg.header.dport = port ∧ seg.header.syn = true ∧ seg.header.rst = false

/-- The segment in a datagram, if it comes from the peer. -/
def relatedSegment (cfg : FdAdapterConfig) (dgram : IPv4Datagram) : Option TCPSegment :=
  (segmentIn dgram).filter fun seg =>
    dgram.header.dst = cfg.source.ipv4Numeric ∧ dgram.header.src = cfg.destination.ipv4Numeric ∧
      seg.header.dport = cfg.source.port ∧ seg.header.sport = cfg.destination.port

/-- What a call returns; a call that throws returns nothing. -/
def returned : EStateM.Result Exception TCPOverIPv4Adapter (Option TCPSegment) → Option TCPSegment
  | .ok seg _ => seg
  | .error _ _ => none

/-- The adapter after a call, whether or not the call has thrown. -/
def apply (a : TCPOverIPv4Adapter) (dgram : IPv4Datagram) : TCPOverIPv4Adapter :=
  finalState (unwrapTcpInIp dgram a)

/-- What the calls return one after another. -/
def returnedFrom : TCPOverIPv4Adapter → List IPv4Datagram → List (Option TCPSegment)
  | _, [] => []
  | a, dgram :: rest => returned (unwrapTcpInIp dgram a) :: returnedFrom (a.apply dgram) rest

variable {a : TCPOverIPv4Adapter} {dgram : IPv4Datagram} {seg : TCPSegment}

/-- The configuration that a segment fixes. -/
def peerOf (a : TCPOverIPv4Adapter) (dgram : IPv4Datagram) (seg : TCPSegment) :
    FdAdapterConfig where
  source := { ip := dgram.header.dst, port := a.cfg.source.port }
  destination := { ip := dgram.header.src, port := seg.header.sport }

theorem segmentIn_eq_some (inside : segmentIn dgram = some seg) :
    dgram.header.proto = IPv4Header.protoTcp ∧ ∃ payload, dgram.payload.toBuffer = .ok payload ∧
      TCPSegment.parse {} payload dgram.header.pseudoCksum = (seg, .noError) := by
  unfold segmentIn at inside
  split at inside
  next tcp =>
    refine ⟨tcp, ?_⟩
    cases buffer : dgram.payload.toBuffer with
    | error e =>
        rw [buffer] at inside
        contradiction
    | ok payload =>
        simp only [buffer, Option.ite_none_right_eq_some, Option.some.injEq] at inside
        exact ⟨payload, rfl, Prod.ext inside.2 inside.1⟩
  next => contradiction

/-- A datagram without a segment leaves no trace, also if reading it throws. -/
theorem unwrapTcpInIp_of_none (nothing : segmentIn dgram = none) (a : TCPOverIPv4Adapter) :
    a.apply dgram = a ∧ returned (unwrapTcpInIp dgram a) = none := by
  have outcome : unwrapTcpInIp dgram a = .ok none a ∨
      ∃ e, unwrapTcpInIp dgram a = .error e a := by
    -- One check after the other, in the order of the source.
    rw [unwrapTcpInIp, get_bind_run, branch_run]
    by_cases elsewhere : !a.listen ∧ dgram.header.dst ≠ a.cfg.source.ipv4Numeric
    · rw [if_pos elsewhere]
      exact .inl rfl
    rw [if_neg elsewhere, branch_run]
    by_cases stranger : !a.listen ∧ dgram.header.src ≠ a.cfg.destination.ipv4Numeric
    · rw [if_pos stranger]
      exact .inl rfl
    rw [if_neg stranger, branch_run]
    by_cases tcp : dgram.header.proto = IPv4Header.protoTcp
    · rw [segmentIn, if_pos tcp] at nothing
      rw [if_neg (not_not_intro tcp)]
      cases buffer : dgram.payload.toBuffer with
      | error e => exact .inr ⟨e, rfl⟩
      | ok payload =>
          have refused :
              (TCPSegment.parse {} payload dgram.header.pseudoCksum).2 ≠ .noError := by
            simpa [buffer] using nothing
          rw [ofExcept_ok_bind]
          dsimp only
          rw [branch_run, if_pos refused]
          exact .inl rfl
    · rw [if_pos tcp]
      exact .inl rfl
  rcases outcome with returned | ⟨e, thrown⟩
  · rw [apply, returned]
    exact ⟨rfl, rfl⟩
  · rw [apply, thrown]
    exact ⟨rfl, rfl⟩

/-- What becomes of a segment, after the checks in their order. -/
theorem unwrapTcpInIp_of_some (inside : segmentIn dgram = some seg) (a : TCPOverIPv4Adapter) :
    unwrapTcpInIp dgram a =
      if a.listen then
        if seg.header.dport = a.cfg.source.port ∧ seg.header.syn = true ∧
            seg.header.rst = false then
          .ok (some seg) { cfg := a.peerOf dgram seg, listen := false }
        else .ok none a
      else
        if dgram.header.dst = a.cfg.source.ipv4Numeric ∧
            dgram.header.src = a.cfg.destination.ipv4Numeric ∧
            seg.header.dport = a.cfg.source.port ∧
            seg.header.sport = a.cfg.destination.port then
          .ok (some seg) a
        else .ok none a := by
  obtain ⟨tcp, payload, buffer, parsed⟩ := segmentIn_eq_some inside
  cases listening : a.listen with
  | false => simp [unwrapTcpInIp, listening, tcp, branch_run, buffer, parsed, ite_and]
  | true => simp [unwrapTcpInIp, listening, tcp, branch_run, buffer, parsed, ite_and, peerOf]

/-- An adapter that does not listen keeps its configuration, and it returns what
comes from its peer. -/
theorem unwrapTcpInIp_bound (bound : a.listen = false) (dgram : IPv4Datagram) :
    a.apply dgram = a ∧ returned (unwrapTcpInIp dgram a) = relatedSegment a.cfg dgram := by
  cases inside : segmentIn dgram with
  | none =>
      rw [relatedSegment, inside]
      exact unwrapTcpInIp_of_none inside a
  | some seg =>
      rw [apply, unwrapTcpInIp_of_some inside, bound, if_neg Bool.false_ne_true, relatedSegment,
        inside, Option.filter_some]
      simp only [decide_eq_true_eq]
      split_ifs
      · exact ⟨rfl, rfl⟩
      · exact ⟨rfl, rfl⟩

theorem unwrapTcpInIp_not_opening (listening : a.listen = true)
    (closed : openingSegment a.cfg.source.port dgram = none) :
    a.apply dgram = a ∧ returned (unwrapTcpInIp dgram a) = none := by
  cases inside : segmentIn dgram with
  | none => exact unwrapTcpInIp_of_none inside a
  | some seg =>
      rw [openingSegment, inside] at closed
      rw [apply, unwrapTcpInIp_of_some inside, if_pos listening, if_neg (by simpa using closed)]
      exact ⟨rfl, rfl⟩

theorem unwrapTcpInIp_opening (listening : a.listen = true)
    (opens : openingSegment a.cfg.source.port dgram = some seg) :
    a.apply dgram = { cfg := a.peerOf dgram seg, listen := false } ∧
      returned (unwrapTcpInIp dgram a) = some seg := by
  obtain ⟨inside, opens⟩ := Option.filter_eq_some_iff.mp opens
  rw [apply, unwrapTcpInIp_of_some inside, if_pos listening, if_pos (by simpa using opens)]
  exact ⟨rfl, rfl⟩

/-- Up to the first opening segment. -/
theorem run_listening (listening : a.listen = true) {dgrams : List IPv4Datagram}
    (closed : ∀ dgram ∈ dgrams, openingSegment a.cfg.source.port dgram = none)
    (rest : List IPv4Datagram) :
    run apply a (dgrams ++ rest) = run apply a rest ∧
      returnedFrom a (dgrams ++ rest) = dgrams.map (fun _ => none) ++ returnedFrom a rest := by
  induction dgrams with
  | nil => exact ⟨rfl, rfl⟩
  | cons dgram later inductionHypothesis =>
      obtain ⟨first, closed⟩ := List.forall_mem_cons.mp closed
      obtain ⟨same, nothing⟩ := unwrapTcpInIp_not_opening listening first
      obtain ⟨state, outputs⟩ := inductionHypothesis closed
      simp only [List.cons_append, run_cons, returnedFrom, same, nothing, state, outputs,
        List.map_cons, and_self]

/-- After the first opening segment. -/
theorem run_bound (bound : a.listen = false) (dgrams : List IPv4Datagram) :
    run apply a dgrams = a ∧ returnedFrom a dgrams = dgrams.map (relatedSegment a.cfg) := by
  induction dgrams with
  | nil => exact ⟨rfl, rfl⟩
  | cons dgram rest inductionHypothesis =>
      obtain ⟨same, related⟩ := unwrapTcpInIp_bound bound dgram
      obtain ⟨state, outputs⟩ := inductionHypothesis
      simp only [run_cons, returnedFrom, same, related, state, outputs, List.map_cons, and_self]

/-- A listening adapter returns nothing and stays as it is as long as no datagram
opens a connection to its port.  The first one that does is returned and fixes
the peer for good, and from then on exactly the segments of the peer are
returned. -/
theorem locks_onto_peer (a : TCPOverIPv4Adapter) (listening : a.listen = true) :
    (∀ dgrams, (∀ dgram ∈ dgrams, openingSegment a.cfg.source.port dgram = none) →
      run apply a dgrams = a ∧ returnedFrom a dgrams = dgrams.map fun _ => none) ∧
    ∀ before first after seg,
      (∀ dgram ∈ before, openingSegment a.cfg.source.port dgram = none) →
      openingSegment a.cfg.source.port first = some seg →
      run apply a (before ++ first :: after) =
        { cfg := a.peerOf first seg, listen := false } ∧
      returnedFrom a (before ++ first :: after) =
        before.map (fun _ => none) ++
          some seg :: after.map (relatedSegment (a.peerOf first seg)) := by
  refine ⟨?_, ?_⟩
  · intro dgrams closed
    simpa [returnedFrom] using run_listening listening closed []
  · intro before first after seg closed opens
    obtain ⟨state, outputs⟩ := run_listening listening closed (first :: after)
    obtain ⟨bound, returned⟩ := unwrapTcpInIp_opening listening opens
    let peer : TCPOverIPv4Adapter := { cfg := a.peerOf first seg, listen := false }
    obtain ⟨kept, related⟩ : run apply peer after = peer ∧ returnedFrom peer after = _ :=
      run_bound rfl after
    rw [state, outputs, run_cons, returnedFrom, bound, returned, kept, related]
    exact ⟨rfl, rfl⟩

/-- A SYN to another port is passed over; after the SYN of the peer, what comes
from the peer is told from what comes from somewhere else. -/
theorem locks_onto_peer_second_syn :
    let dgram (src : UInt32) (header : TCPHeader) : IPv4Datagram :=
      let ip : IPv4Header := { len := 40, src, dst := 8 }
      let seg : TCPSegment := { header }
      { header := ip, payload := [seg.bytes (seg.checksum ip.pseudoCksum)] }
    let server : TCPOverIPv4Adapter :=
      { cfg := { source := { ip := 0, port := 80 } }, listen := true }
    let dgrams :=
      [dgram 7 { sport := 1, dport := 81, syn := true },
        dgram 7 { sport := 1, dport := 80, syn := true },
        dgram 7 { sport := 1, dport := 80, ack := true },
        dgram 9 { sport := 1, dport := 80, syn := true }]
    run apply server dgrams =
        { cfg := { source := { ip := 8, port := 80 }, destination := { ip := 7, port := 1 } },
          listen := false } ∧
      (returnedFrom server dgrams).map (·.isSome) = [false, true, true, false] := by
  intro dgram server dgrams
  let syn : TCPHeader := { sport := 1, dport := 80, syn := true }
  have opens : openingSegment 80 (dgram 7 syn) =
      some { header := { syn with cksum := 0xaf83 } } := by
    decide +kernel
  obtain ⟨state, outputs⟩ := (locks_onto_peer server rfl).2
    [dgram 7 { sport := 1, dport := 81, syn := true }] (dgram 7 syn)
    [dgram 7 { sport := 1, dport := 80, ack := true },
      dgram 9 { sport := 1, dport := 80, syn := true }] _ (by decide +kernel) opens
  refine ⟨state, (congrArg (List.map Option.isSome) outputs).trans ?_⟩
  decide +kernel

end Sponge.TCPOverIPv4Adapter
