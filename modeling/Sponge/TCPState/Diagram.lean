import Sponge.TCPState
import Mathlib.Logic.Relation

/-!
# The state diagram

The TCP specification draws its states as a diagram of arrows.  `TCPState`
knows the states but not the arrows.  A summary that only moves forward, and
that decides about lingering once, moves along them.
-/

namespace Sponge

namespace TCPSenderStateSummary

/-- How far the outbound stream has come; a reset is the end of it. -/
def rank : TCPSenderStateSummary → ℕ
  | .closed => 0
  | .synSent => 1
  | .synAcked => 2
  | .finSent => 3
  | .finAcked => 4
  | .error => 5

end TCPSenderStateSummary

namespace TCPReceiverStateSummary

/-- How far the inbound stream has come. -/
def rank : TCPReceiverStateSummary → ℕ
  | .listen => 0
  | .synRecv => 1
  | .finRecv => 2
  | .error => 3

end TCPReceiverStateSummary

namespace TCPState

/-- Neither stream is further than it is in `next`. -/
structure Precedes (state next : TCPState) : Prop where
  sender : state.sender.rank ≤ next.sender.rank
  receiver : state.receiver.rank ≤ next.receiver.rank

theorem Precedes.refl (state : TCPState) : state.Precedes state :=
  ⟨Nat.le_refl _, Nat.le_refl _⟩

theorem Precedes.trans {state next later : TCPState} (first : state.Precedes next)
    (second : next.Precedes later) : state.Precedes later :=
  ⟨Nat.le_trans first.sender second.sender, Nat.le_trans first.receiver second.receiver⟩

instance (state next : TCPState) : Decidable (state.Precedes next) :=
  decidable_of_iff (state.sender.rank ≤ next.sender.rank ∧
      state.receiver.rank ≤ next.receiver.rank)
    ⟨fun both => ⟨both.1, both.2⟩, fun precedes => ⟨precedes.sender, precedes.receiver⟩⟩

namespace State

/-- The arrows of the diagram.  A reset leads out of every state of a connection
that is not over; a CLOSE waits until the SYN is acknowledged, so no arrow leads
from SYN_RCVD to FIN_WAIT_1. -/
def arrows : State → List State
  | .listen => [.synSent, .synRcvd, .reset]
  | .synSent => [.synRcvd, .established, .reset]
  | .synRcvd => [.established, .reset]
  | .established => [.finWait1, .closeWait, .reset]
  | .finWait1 => [.finWait2, .closing, .reset]
  | .finWait2 => [.timeWait, .reset]
  | .closing => [.timeWait, .reset]
  | .closeWait => [.lastAck, .reset]
  | .lastAck => [.closed, .reset]
  | .timeWait => [.closed, .reset]
  | .closed => []
  | .reset => []

def Arrow (state next : State) : Prop := next ∈ state.arrows

/-- Some path of the diagram, possibly empty, leads from one state to the other. -/
def Leads : State → State → Prop := Relation.ReflTransGen Arrow

/-- Search for a path of at most so many arrows. -/
def finds : ℕ → State → State → Bool
  | 0, state, goal => state == goal
  | fuel + 1, state, goal => state == goal || state.arrows.any fun next => finds fuel next goal

theorem leads_of_finds {fuel : ℕ} {state goal : State} (found : finds fuel state goal = true) :
    state.Leads goal := by
  induction fuel generalizing state with
  | zero =>
      rw [finds, beq_iff_eq] at found
      exact found ▸ .refl
  | succ fuel inductionHypothesis =>
      rw [finds, Bool.or_eq_true, beq_iff_eq, List.any_eq_true] at found
      rcases found with here | ⟨next, arrow, found⟩
      · exact here ▸ .refl
      · exact .head arrow (inductionHypothesis found)

end State

/-- What one call may do to the summary of a connection: nothing once it is over;
otherwise both streams move forward, and lingering is given up at most once, and
not after the FIN. -/
structure Moves (state next : TCPState) : Prop where
  final : state.active = false → next = state
  forward : state.Precedes next
  givesUp : next.active = true → next.lingerAfterStreamsFinish = true →
    state.lingerAfterStreamsFinish = true
  keeps : next.active = true → TCPSenderStateSummary.finSent.rank ≤ state.sender.rank →
    next.lingerAfterStreamsFinish = state.lingerAfterStreamsFinish

instance (state next : TCPState) : Decidable (state.Moves next) :=
  decidable_of_iff ((state.active = false → next = state) ∧ state.Precedes next ∧
      (next.active = true → next.lingerAfterStreamsFinish = true →
        state.lingerAfterStreamsFinish = true) ∧
      (next.active = true → TCPSenderStateSummary.finSent.rank ≤ state.sender.rank →
        next.lingerAfterStreamsFinish = state.lingerAfterStreamsFinish))
    ⟨fun ⟨final, forward, givesUp, keeps⟩ => ⟨final, forward, givesUp, keeps⟩,
      fun ⟨final, forward, givesUp, keeps⟩ => ⟨final, forward, givesUp, keeps⟩⟩

/-- The longest way through the diagram has seven arrows. -/
theorem State.finds_of_moves (state next : State) :
    (ofState state).Moves (ofState next) → finds 7 state next = true := by
  cases state <;> cases next <;> decide

theorem State.leads_of_moves {state next : State} (moves : (ofState state).Moves (ofState next)) :
    state.Leads next :=
  leads_of_finds (finds_of_moves state next moves)

end TCPState

end Sponge
