import Sponge.TCPConnection.SenderInvariants
import Sponge.TCPReceiver.Progress
import Sponge.TCPSender.Queued

/-!
# The advertised window never retreats

A log keeps every acknowledgment that a connection sends, together with the
absolute acknowledgment number that its receiver had at that moment.
-/

namespace Sponge.TCPConnection

open Lib
open TCPSender (Op)

variable {c : TCPConnection}

/-- The segments that the sender leaves on its queue are blank. -/
theorem blank_methods (blank : c.sender.Blank) (call : Call) : (c.afterMethods call).Blank :=
  run_invariant TCPSender.Blank (c.methodOps call) blank TCPSender.Blank.apply

theorem blank_apply (drained : c.sender.segmentsOut = []) (blank : c.sender.Blank) (call : Call) :
    (c.apply call).sender.Blank :=
  sender_invariant TCPSender.Blank (fun _ _ => True) drained (fun _ _ _ => trivial)
    (fun _ _ => trivial) blank fun s op blank _ => blank.apply s op

theorem receiver_later (c : TCPConnection) (call : Call) :
    c.receiver.Later (c.apply call).receiver :=
  receiver_invariant c.receiver.Later call (.refl _) (fun r later => later.trans r.later_setError)
    (fun r len later => later.trans (r.later_popOutput len))
    fun r seg later => later.trans (r.later_segmentReceived seg)

theorem quiescent_apply (quiet : c.receiver.Quiescent) (call : Call) :
    (c.apply call).receiver.Quiescent :=
  receiver_invariant TCPReceiver.Quiescent call quiet
    (fun _ => StreamReassembler.Quiescent.setError)
    (fun _ len quiet => StreamReassembler.Quiescent.popOutput quiet len)
    fun _ seg quiet => quiet.segmentReceived seg

/-- The state in which a connection waits for the next call. -/
structure Resting (c : TCPConnection) : Prop where
  drained : c.sender.segmentsOut = []
  blank : c.sender.Blank
  quiet : c.receiver.Quiescent

theorem resting_new {cfg : TCPConfig} (representable : cfg.recvCapacity < 2 ^ 64)
    (random : UInt32) : (new cfg random).Resting :=
  ⟨rfl, TCPSender.blank_new _ _ _ _, StreamReassembler.quiescent_new representable⟩

theorem Resting.apply (c : TCPConnection) (call : Call) (rest : c.Resting) :
    (c.apply call).Resting :=
  ⟨drained_apply rest.drained call, blank_apply rest.drained rest.blank call,
    quiescent_apply rest.quiet call⟩

theorem resting_run {cfg : TCPConfig} (representable : cfg.recvCapacity < 2 ^ 64)
    (random : UInt32) (calls : List Call) : (run apply (new cfg random) calls).Resting :=
  run_invariant Resting calls (resting_new representable random) Resting.apply

/-- A segment that is no reset was on the sender's queue, and the receiver has
filled it in. -/
theorem mem_emitted {call : Call} {seg : TCPSegment} (sent : seg ∈ c.emitted call)
    (noRst : seg.header.rst = false) :
    ∃ queued ∈ (c.afterMethods call).segmentsOut, seg = stamp (c.apply call).receiver queued := by
  rw [emitted] at sent
  split at sent
  · rw [List.mem_singleton.mp sent] at noRst
    contradiction
  · obtain ⟨queued, membership, rfl⟩ := List.mem_map.mp sent
    exact ⟨queued, membership, by rw [receiver_apply]⟩

/-- An acknowledgment, with the number that is wrapped in it. -/
structure Advertisement where
  ackno : ℕ
  seg : TCPSegment

def Advertisement.rightEdge (a : Advertisement) : ℕ := a.ackno + a.seg.header.win.toNat

/-- The acknowledgments that a call sends. -/
def advertisements (c : TCPConnection) (call : Call) : List Advertisement :=
  ((c.appended call).filter fun seg => seg.header.ack && !seg.header.rst).map fun seg =>
    ⟨(c.apply call).receiver.absoluteAckno, seg⟩

/-- A connection, and all acknowledgments that it has sent so far. -/
structure Log where
  conn : TCPConnection
  advertised : List Advertisement := []

def Log.apply (l : Log) (call : Call) : Log where
  conn := l.conn.apply call
  advertised := l.advertised ++ l.conn.advertisements call

/-- What an acknowledgment says is what the receiver knows. -/
theorem Resting.mem_advertisements (rest : c.Resting) {call : Call} {a : Advertisement}
    (sent : a ∈ c.advertisements call) :
    a.ackno = (c.apply call).receiver.absoluteAckno ∧
    a.rightEdge = (c.apply call).receiver.rightEdge ∧
    ∃ isn, (c.apply call).receiver.isn = some isn ∧
      a.seg.header.ackno = wrap a.ackno isn := by
  rw [advertisements, appended_eq rest.drained] at sent
  obtain ⟨seg, kept, rfl⟩ := List.mem_map.mp sent
  simp only [List.mem_filter, Bool.and_eq_true, Bool.not_eq_true'] at kept
  obtain ⟨emitted, ack, noRst⟩ := kept
  obtain ⟨queued, membership, rfl⟩ := mem_emitted emitted noRst
  have unset := ((blank_methods rest.blank call).queued queued membership).1
  simp only [stamp_eq, unset, Bool.or_false, Option.isSome_iff_exists] at ack
  obtain ⟨isn, known⟩ := ack
  refine ⟨rfl, ?_, isn, known, ?_⟩
  · rw [Advertisement.rightEdge, stamp_win]
    rfl
  · rw [stamp_eq, TCPReceiver.ackno_eq, known]
    rfl

/-- The acknowledgments so far are ordered, and the receiver is past them. -/
structure Log.Advances (l : Log) : Prop where
  rest : l.conn.Resting
  numbered : ∀ a ∈ l.advertised, ∃ isn, l.conn.receiver.isn = some isn ∧
    a.seg.header.ackno = wrap a.ackno isn
  behind : ∀ a ∈ l.advertised, a.ackno ≤ l.conn.receiver.absoluteAckno ∧
    a.rightEdge ≤ l.conn.receiver.rightEdge
  ordered : l.advertised.Pairwise fun a b => a.ackno ≤ b.ackno ∧ a.rightEdge ≤ b.rightEdge

theorem Log.advances_new {cfg : TCPConfig} (representable : cfg.recvCapacity < 2 ^ 64)
    (random : UInt32) : Log.Advances { conn := new cfg random } :=
  ⟨resting_new representable random, List.forall_mem_nil _, List.forall_mem_nil _, .nil⟩

theorem Log.Advances.apply (l : Log) (call : Call) (inv : l.Advances) :
    (l.apply call).Advances := by
  have later := l.conn.receiver_later call
  have rest := inv.rest.apply l.conn call
  have fresh (a : Advertisement) (sent : a ∈ l.conn.advertisements call) :=
    inv.rest.mem_advertisements sent
  have passed (a : Advertisement) (old : a ∈ l.advertised) :
      a.ackno ≤ (l.conn.apply call).receiver.absoluteAckno ∧
        a.rightEdge ≤ (l.conn.apply call).receiver.rightEdge :=
    ⟨(inv.behind a old).1.trans later.absoluteAckno_le,
      (inv.behind a old).2.trans (later.rightEdge_le inv.rest.quiet rest.quiet)⟩
  refine ⟨rest, ?_, ?_, ?_⟩
  · rw [Log.apply, List.forall_mem_append]
    refine ⟨?_, fun a sent => (fresh a sent).2.2⟩
    intro a old
    obtain ⟨isn, known, ackno⟩ := inv.numbered a old
    exact ⟨isn, later.isn isn known, ackno⟩
  · rw [Log.apply, List.forall_mem_append]
    exact ⟨passed, fun a sent => ⟨(fresh a sent).1.le, (fresh a sent).2.1.le⟩⟩
  · rw [Log.apply, List.pairwise_append]
    refine ⟨inv.ordered, List.pairwise_of_forall_mem_list ?_, ?_⟩
    · intro a sent b sent'
      rw [(fresh a sent).1, (fresh a sent).2.1, (fresh b sent').1, (fresh b sent').2.1]
      exact ⟨Nat.le_refl _, Nat.le_refl _⟩
    · intro a old b sent
      rw [(fresh b sent).1, (fresh b sent).2.1]
      exact passed a old

/-- Over the acknowledgments that a connection sends in any run, neither the
acknowledgment number nor the end of the advertised window ever retreats. -/
theorem window_never_retreats (cfg : TCPConfig) (representable : cfg.recvCapacity < 2 ^ 64)
    (random : UInt32) (calls : List Call) :
    let log := run Log.apply { conn := new cfg random } calls
    (∀ a ∈ log.advertised, ∃ isn, log.conn.receiver.isn = some isn ∧
      a.seg.header.ackno = wrap a.ackno isn) ∧
    log.advertised.Pairwise fun a b => a.ackno ≤ b.ackno ∧
      a.ackno + a.seg.header.win.toNat ≤ b.ackno + b.seg.header.win.toNat := by
  intro log
  have inv : log.Advances := run_invariant Log.Advances calls (Log.advances_new representable random)
    Log.Advances.apply
  exact ⟨inv.numbered, inv.ordered⟩

/-- Bytes arrive, are read, and the stream ends; the window is closed in
between. -/
theorem window_never_retreats_closed :
    let calls : List Call :=
      [.segmentReceived { header := { syn := true, seqno := ⟨7⟩ } },
        .segmentReceived { header := { seqno := ⟨8⟩ }, payload := [97, 98] },
        .segmentReceived { header := { seqno := ⟨10⟩ }, payload := [99, 100, 101] },
        .readInbound 3,
        .segmentReceived { header := { seqno := ⟨12⟩, fin := true }, payload := [101] }]
    let log := run Log.apply { conn := new { recvCapacity := 4 } 0 } calls
    log.advertised.map (fun a => (a.ackno, a.seg.header.win)) = [(1, 4), (3, 2), (5, 0), (7, 2)] ∧
    log.advertised.Pairwise fun a b => a.ackno ≤ b.ackno ∧
      a.ackno + a.seg.header.win.toNat ≤ b.ackno + b.seg.header.win.toNat :=
  ⟨by decide +kernel, (window_never_retreats { recvCapacity := 4 } (by decide) 0 _).2⟩

end Sponge.TCPConnection
