import Sponge.Router.Forwarding

/-!
# Which route is taken

A datagram with time to live is sent along the longest prefix match among the
routes that were added, the earliest of several.
-/

namespace Sponge.Router

open Lib Throwing

variable {r : Router} {n : ℕ} {dgram : IPv4Datagram}

theorem sendCalls_sendDatagram (exist : n < r.interfaces.length) (dgram : IPv4Datagram)
    (nextHop : Address) :
    (finalState (sendDatagram n dgram nextHop r)).sendCalls =
      r.sendCalls ++ [{ interfaceNum := n, dgram, nextHop }] := by
  have there := List.getElem?_eq_getElem exist
  rw [sendDatagram, bind_of_ok (interface_read there (pure_run () _)), modify_bind_run]
  exact keeps_sendCalls n _ _

/-- The calls of `send_datagram` are what the route says. -/
theorem sendCalls_sendAlong (source : n < r.interfaces.length) {used : Option Route}
    (exist : ∀ route, used = some route → route.interfaceNum < r.interfaces.length) :
    (finalState (sendAlong n dgram used r)).sendCalls =
      r.sendCalls ++ used.toList.map (sendCall dgram) := by
  unfold sendAlong
  rw [bind_of_ok (interface_run (List.getElem?_eq_getElem source) (modify_run _ _))]
  cases used with
  | none => exact (List.append_nil _).symm
  | some route =>
      refine sendCalls_sendDatagram ?_ _ _
      rw [List.length_set]
      exact exist route rfl

/-- The route that is used for a datagram with time to live is the longest prefix
match, the first of several, and the datagram is dropped exactly when no route
agrees with its destination. -/
theorem routes_longest_prefix (interfaces : List AsyncNetworkInterface) (routes : List Route)
    (short : ∀ route ∈ routes, route.prefixLength.toNat ≤ 32) (n : ℕ) (dgram : IPv4Datagram)
    (alive : 1 < dgram.header.ttl) :
    let r := routes.foldl addRoute { interfaces }
    ∃ used : Option Route,
      routeOneDatagram n dgram r = sendAlong n dgram used r ∧
      (∀ route, used = some route → IsLongestPrefix routes dgram.header.dst route) ∧
      (used = none ↔ ∀ route ∈ routes, ¬ route.Covers dgram.header.dst) ∧
      (n < interfaces.length → (∀ route ∈ routes, route.interfaceNum < interfaces.length) →
        (finalState (routeOneDatagram n dgram r)).sendCalls =
          used.toList.map (sendCall dgram)) := by
  intro r
  obtain ⟨same, silent⟩ := interfaces_foldl_addRoute { interfaces } routes
  have found : routeOneDatagram n dgram r =
      sendAlong n dgram (longestPrefixRoute routes dgram.header.dst) r := by
    rw [routeOneDatagram_eq alive, lookup, find?_routingTable { interfaces } rfl short]
  have longest {route : Route} (used : longestPrefixRoute routes dgram.header.dst = some route) :
      IsLongestPrefix routes dgram.header.dst route := isFirstHighest_of_argmax used
  refine ⟨longestPrefixRoute routes dgram.header.dst, found, fun route => longest,
    longestPrefixRoute_eq_none_iff _, ?_⟩
  intro source exist
  have connected (route : Route) (used : longestPrefixRoute routes dgram.header.dst = some route) :
      route.interfaceNum < r.interfaces.length := by
    obtain ⟨_, before, after, split, _⟩ := longest used
    rw [same]
    exact exist route (by simp [split])
  rw [found, sendCalls_sendAlong (same ▸ source) connected, silent]
  rfl

/-- The prefixes are nested, one is there twice and has bits set behind its
length, and the default route comes first. -/
theorem routes_longest_prefix_nested :
    let i : AsyncNetworkInterface :=
      { ethernetAddress := Vector.replicate 6 2, ipAddress := { ip := 1 } }
    let dgram : IPv4Datagram := { header := { len := 20, ttl := 5, dst := 0x0a010007 } }
    let route (routePrefix : UInt32) (prefixLength : UInt8) (interfaceNum : ℕ) : Route :=
      { routePrefix, prefixLength, nextHop := none, interfaceNum }
    let routes := [route 0 0 0, route 0x0a010203 16 2, route 0x0a000000 8 1, route 0x0a010000 16 3]
    ∃ used, used.interfaceNum = 2 ∧ IsLongestPrefix routes dgram.header.dst used ∧
      (finalState (routeOneDatagram 0 dgram
        (routes.foldl addRoute { interfaces := [i, i, i, i] }))).sendCalls =
          [sendCall dgram used] := by
  intro i dgram route routes
  obtain ⟨used, _, longest, dropped, calls⟩ :=
    routes_longest_prefix [i, i, i, i] routes (by decide) 0 dgram (by decide)
  specialize calls (by decide) (by decide)
  cases used with
  | none => exact absurd (dropped.mp rfl) (by decide)
  | some used =>
      have through : (finalState (routeOneDatagram 0 dgram
          (routes.foldl addRoute { interfaces := [i, i, i, i] }))).sendCalls.map
            (·.interfaceNum) = [2] := by decide +kernel
      rw [calls] at through
      exact ⟨used, List.head_eq_of_cons_eq through, longest used rfl, calls⟩

end Sponge.Router
