import Sponge.NetworkSimulator.Stations
import Sponge.Router.Forwarding

/-!
# The simulated network

A router with seven interfaces, and hosts on five of their segments.  The hosts
send datagrams by way of the router, and each host has a list of the datagrams that
it expects.  A simulation lets the router and the segments work for a while, and
then compares what has come out of the hosts with what they expect.
-/

namespace Sponge

open Lib Throwing

/-- An address, from its four numbers. -/
def Address.ofOctets (a b c d : UInt8) : Address where
  ip := a.toUInt32 <<< 24 ||| b.toUInt32 <<< 16 ||| c.toUInt32 <<< 8 ||| d.toUInt32

section Text

def hexadecimal (n : ℕ) : String := String.ofList (Nat.toDigits 16 n)

/-- An address in the notation with dots. -/
def dotted (ip : UInt32) : String :=
  let shifts : List UInt32 := [24, 16, 8, 0]
  String.intercalate "." (shifts.map fun shift => toString ((ip >>> shift) &&& 0xff))

def IPv4Header.summary (h : IPv4Header) : String :=
  "IPv" ++ hexadecimal h.ver.toNat ++ ", len=" ++ hexadecimal h.len.toNat ++ ", protocol=" ++
    hexadecimal h.proto.toNat ++ ", " ++
    (if h.ttl ≥ 10 then "" else "ttl=" ++ toString h.ttl ++ ", ") ++
    "src=" ++ dotted h.src ++ ", dst=" ++ dotted h.dst

/-- The bytes of a text that has only ASCII characters. -/
def bytesOf (text : String) : Buffer := text.toList.map fun c => UInt8.ofNat c.toNat

def textOf (bytes : Buffer) : String := String.ofList (bytes.map fun b => Char.ofNat b.toNat)

def IPv4Datagram.summary (dgram : IPv4Datagram) : String :=
  dgram.header.summary ++ " payload=\"" ++ textOf dgram.payload.concatenate ++ "\""

end Text

namespace NetworkSimulator

/-- A random address with the mark of a private one. -/
def randomHostEthernetAddress (random : EthernetAddress) : EthernetAddress :=
  random.set 0 ((random[0] ||| 0x02) &&& 0xfe)

def randomRouterEthernetAddress (random : EthernetAddress) : EthernetAddress :=
  ((random.set 0 0x02).set 1 0).set 2 0

inductive HostName where
  | applesauce
  | defaultRouter
  | cherrypie
  | hsRouter
  | dm42
  | dm43
  deriving DecidableEq, Repr

namespace HostName

def text : HostName → String
  | applesauce => "applesauce"
  | defaultRouter => "default_router"
  | cherrypie => "cherrypie"
  | hsRouter => "hs_router"
  | dm42 => "dm42"
  | dm43 => "dm43"

def address : HostName → Address
  | applesauce => .ofOctets 10 0 0 2
  | defaultRouter => .ofOctets 171 67 76 1
  | cherrypie => .ofOctets 192 168 0 2
  | hsRouter => .ofOctets 143 195 0 1
  | dm42 => .ofOctets 198 178 229 42
  | dm43 => .ofOctets 198 178 229 43

def nextHop : HostName → Address
  | applesauce => .ofOctets 10 0 0 1
  | defaultRouter => .ofOctets 0 0 0 0
  | cherrypie => .ofOctets 192 168 0 1
  | hsRouter => .ofOctets 0 0 0 0
  | dm42 => .ofOctets 198 178 229 1
  | dm43 => .ofOctets 198 178 229 1

end HostName

structure Host where
  name : HostName
  myAddress : Address
  interface : AsyncNetworkInterface
  nextHop : Address
  expectingToReceive : List IPv4Datagram := []

namespace Host

abbrev Method := EStateM Exception Host

def onInterface {α : Type} (method : AsyncNetworkInterface.Method α) : Method α :=
  within interface (fun h i => { h with interface := i }) method

/-- Are two datagrams the same when they are serialized? -/
def isSame (x y : IPv4Datagram) : Except Exception Bool := do
  return (← x.serialize).concatenate == (← y.serialize).concatenate

def expecting (expected : IPv4Datagram) : List IPv4Datagram → Except Exception Bool
  | [] => return false
  | x :: rest => do if ← isSame x expected then return true else expecting expected rest

/-- The list without the first datagram that is the same. -/
def removeExpectation (expected : IPv4Datagram) :
    List IPv4Datagram → Except Exception (List IPv4Datagram)
  | [] => return []
  | x :: rest => do
      if ← isSame x expected then return rest else return x :: (← removeExpectation expected rest)

/-- The datagram that `send_to` makes, with a random number in its payload. -/
def datagram (src destination : Address) (ttl : UInt8) (random : UInt32) : IPv4Datagram :=
  let payload : BufferList := [bytesOf ("random payload: \x7b" ++ toString random ++ "\x7d")]
  let header : IPv4Header := { src := src.ipv4Numeric, dst := destination.ipv4Numeric, ttl }
  { header := { header with len := UInt16.ofNat (header.hlen.toNat * 4 + payload.size) }, payload }

def sendTo (destination : Address) (ttl : UInt8) (random : UInt32) : Method IPv4Datagram := do
  let h ← get
  let dgram := datagram h.myAddress destination ttl random
  onInterface (AsyncNetworkInterface.base (NetworkInterface.sendDatagram dgram h.nextHop))
  return dgram

def expect (h : Host) (expected : IPv4Datagram) : Host :=
  { h with expectingToReceive := h.expectingToReceive ++ [expected] }

/-- One turn of the loop in `check`, for the datagram at the front of the queue. -/
def checkOne (dgramReceived : IPv4Datagram) : Method Unit := do
  let h ← get
  let isExpected ← MonadExcept.ofExcept (expecting dgramReceived h.expectingToReceive)
  if !isExpected then
    throw (.runtimeError ("Host " ++ h.name.text ++ " received unexpected Internet datagram: " ++
      dgramReceived.summary))
  let rest ← MonadExcept.ofExcept (removeExpectation dgramReceived h.expectingToReceive)
  set { h with
    expectingToReceive := rest
    interface := { h.interface with datagramsOut := h.interface.datagramsOut.tail } }

def check : Method Unit := do
  (← get).interface.datagramsOut.forM checkOne
  let h ← get
  match h.expectingToReceive with
  | [] => pure ()
  | expected :: _ =>
      throw (.runtimeError ("Host " ++ h.name.text ++
        " did NOT receive an expected Internet datagram: " ++ expected.summary))

end Host

/-- The interfaces of the router. -/
inductive Port where
  | default
  | eth0
  | eth1
  | eth2
  | uun3
  | hs4
  | mit5
  deriving DecidableEq, Repr

namespace Port

/-- The order in which the interfaces are added. -/
def all : List Port := [default, eth0, eth1, eth2, uun3, hs4, mit5]

/-- The number that the interface gets. -/
def id (p : Port) : ℕ := all.idxOf p

def address : Port → Address
  | default => .ofOctets 171 67 76 46
  | eth0 => .ofOctets 10 0 0 1
  | eth1 => .ofOctets 172 16 0 1
  | eth2 => .ofOctets 192 168 0 1
  | uun3 => .ofOctets 198 178 229 1
  | hs4 => .ofOctets 143 195 0 2
  | mit5 => .ofOctets 128 30 76 255

end Port

/-- Where an interface is. -/
inductive Place where
  | port (p : Port)
  | host (name : HostName)
  deriving DecidableEq, Repr

def routes : List Route :=
  let route (p : Address) (prefixLength : UInt8) (nextHop : Option Address) (port : Port) : Route :=
    { routePrefix := p.ipv4Numeric, prefixLength, nextHop, interfaceNum := port.id }
  [ route (.ofOctets 0 0 0 0) 0 (some HostName.defaultRouter.address) .default,
    route (.ofOctets 10 0 0 0) 8 none .eth0,
    route (.ofOctets 172 16 0 0) 16 none .eth1,
    route (.ofOctets 192 168 0 0) 24 none .eth2,
    route (.ofOctets 198 178 229 0) 24 none .uun3,
    route (.ofOctets 143 195 0 0) 17 (some HostName.hsRouter.address) .hs4,
    route (.ofOctets 143 195 128 0) 18 (some HostName.hsRouter.address) .hs4,
    route (.ofOctets 143 195 192 0) 19 (some HostName.hsRouter.address) .hs4,
    route (.ofOctets 128 30 76 255) 16 (some (.ofOctets 128 30 0 1)) .mit5 ]

structure Network where
  router : Router
  hosts : HostName → Host

namespace Network

/-- A router to which interfaces have been added, with random numbers for their
Ethernet addresses. -/
def routerWith (random : Place → EthernetAddress) (ports : List Port) : Router :=
  ports.foldl (fun r p => (r.addInterface
    { ethernetAddress := randomRouterEthernetAddress (random (.port p))
      ipAddress := p.address }).1) {}

/-- The network, with the random numbers for the Ethernet addresses. -/
def new (random : Place → EthernetAddress) : Network where
  router := routes.foldl Router.addRoute (routerWith random Port.all)
  hosts name :=
    { name
      myAddress := name.address
      interface :=
        { ethernetAddress := randomHostEthernetAddress (random (.host name))
          ipAddress := name.address }
      nextHop := name.nextHop }

theorem length_routerWith (random : Place → EthernetAddress) (ports : List Port) :
    (routerWith random ports).interfaces.length = ports.length := by
  induction ports using List.reverseRecOn with
  | nil => rfl
  | append_singleton ports p inductionHypothesis =>
      rw [routerWith, List.foldl_concat, List.length_append, ← inductionHypothesis]
      exact List.length_append

/-- The numbers are those that the router gives to its interfaces. -/
theorem addInterface_eq_id (random : Place → EthernetAddress) {before after : List Port} {p : Port}
    (order : Port.all = before ++ p :: after) (i : AsyncNetworkInterface) :
    ((routerWith random before).addInterface i).2 = p.id := by
  have nodup : (before ++ p :: after).Nodup := order ▸ (by decide : Port.all.Nodup)
  have new : p ∉ before := fun old =>
    (List.nodup_append.mp nodup).2.2 p old p List.mem_cons_self rfl
  rw [Router.addInterface, length_routerWith, Port.id, order, List.idxOf_append_of_notMem new,
    List.idxOf_cons_self]
  rfl

abbrev Method := EStateM Exception Network

def onRouter {α : Type} (method : Router.Method α) : Method α :=
  within router (fun n r => { n with router := r }) method

def onHost {α : Type} (name : HostName) (method : Host.Method α) : Method α :=
  within (fun n => n.hosts name) (fun n h => { n with hosts := Function.update n.hosts name h })
    method

def interface {α : Type} (method : AsyncNetworkInterface.Method α) : Place → Method α
  | .port p => onRouter (Router.interface p.id method)
  | .host name => onHost name (Host.onInterface method)

/-- Hand over all the frames, with their payloads in one piece. -/
def deliver (src : List EthernetFrame) (dst : Place) : Method Unit :=
  src.forM fun frame => interface (AsyncNetworkInterface.recvFrame frame.joined) dst

/-- Take as many frames off the second queue as there are in the first. -/
def clear : List EthernetFrame → List EthernetFrame → List EthernetFrame
  | [], queue2 => queue2
  | _ :: queue1, queue2 => clear queue1 queue2.tail

def copyFrames (x : Place) : Method (Place × List EthernetFrame) := do
  return (x, ← interface ((fun i => i.framesOut) <$> get) x)

/-- Hand over what every one of the parties wants sent to all the others. -/
def exchangeFrames (parties : List Place) : Method Unit := do
  let copies ← parties.mapM copyFrames
  copies.forM fun (x, frames) => (parties.filter (· ≠ x)).forM fun y => deliver frames y
  copies.forM fun (x, frames) =>
    interface (modify fun i => { i with framesOut := clear frames i.framesOut }) x

/-- The parties on each segment, in the order of the exchanges. -/
def physicalConnections : List (List Place) :=
  [ [.port .default, .host .defaultRouter],
    [.port .eth0, .host .applesauce],
    [.port .eth2, .host .cherrypie],
    [.port .hs4, .host .hsRouter],
    [.port .uun3, .host .dm42, .host .dm43] ]

def simulatePhysicalConnections : Method Unit := physicalConnections.forM exchangeFrames

/-- One turn of the loop in `simulate`. -/
def round : Method Unit := do
  onRouter Router.route
  simulatePhysicalConnections

/-- The hosts are checked in the order in which the table of hosts is traversed. -/
def simulate (order : List HostName) : Method Unit := do
  (List.range 256).forM fun _ => round
  order.forM fun name => onHost name Host.check

def address (name : HostName) : Method Address := do
  return ((← get).hosts name).myAddress

def sendTo (name : HostName) (destination : Address) (ttl : UInt8) (random : UInt32) :
    Method IPv4Datagram :=
  onHost name (Host.sendTo destination ttl random)

def expect (name : HostName) (expected : IPv4Datagram) : Method Unit :=
  onHost name (modify fun h => h.expect expected)

/-- One test: a host sends a datagram, and another one expects it with its time to
live lowered by one. -/
def test (order : List HostName) (sender : HostName) (destination : Address)
    (receiver : HostName) (random : UInt32) : Method Unit := do
  let dgramSent ← sendTo sender destination 64 random
  expect receiver
    { dgramSent with header := { dgramSent.header with ttl := dgramSent.header.ttl - 1 } }
  simulate order

/-- A test in which the time to live is too short. -/
def testExpiration (order : List HostName) (sender : HostName) (destination : Address)
    (ttl : UInt8) (random : UInt32) : Method Unit := do
  let _ ← sendTo sender destination ttl random
  simulate order

end Network

/-- The tests, with the random numbers in the payloads. -/
def networkSimulator (order : List HostName) (random : ℕ → UInt32) : Network.Method Unit := do
  let test := Network.test order
  -- traffic between two ordinary hosts
  test .applesauce (← Network.address .cherrypie) .cherrypie (random 0)
  test .cherrypie (← Network.address .applesauce) .applesauce (random 1)
  -- to the Internet, and to the HS network
  test .applesauce (.ofOctets 1 2 3 4) .defaultRouter (random 2)
  test .applesauce (.ofOctets 143 195 131 17) .hsRouter (random 3)
  test .cherrypie (.ofOctets 143 195 193 52) .hsRouter (random 4)
  test .cherrypie (.ofOctets 143 195 223 255) .hsRouter (random 5)
  test .cherrypie (.ofOctets 143 195 224 0) .defaultRouter (random 6)
  -- between two hosts on the same network
  test .dm42 (← Network.address .dm43) .dm43 (random 7)
  Network.testExpiration order .applesauce (.ofOctets 1 2 3 4) 1 (random 8)
  Network.testExpiration order .applesauce (.ofOctets 1 2 3 4) 0 (random 9)

end NetworkSimulator

end Sponge
