/-
  The settings of a client.

  Durations are in milliseconds. `Settings.validate` refuses the values with which a client could
  not work: a retry budget, a socket timeout or a keep-alive interval of zero.
-/
import KnxIp.Endpoint
import KnxIp.Service

namespace KnxIp

open Text

/-- How telegrams reach the bus. -/
inductive Mode
  /-- Through a connection to one gateway. -/
  | tunneling
  /-- By multicast to every router. -/
  | routing
deriving DecidableEq, Repr

namespace Mode

/-- The name of a mode. -/
def name : Mode → String
  | tunneling => "Tunneling"
  | routing => "Routing"

/-- Reads a mode. Case and blanks at the two ends do not matter, and tunneling may be spelled with
two letters l. -/
def ofChars (cs : List Char) : Except ValueFault Mode :=
  let word := String.ofList ((trim cs).map Char.toLower)
  if word = "tunneling" ∨ word = "tunnelling" then .ok tunneling
  else if word = "routing" then .ok routing
  else .error (.unknownMode word)

end Mode

/-- The socket of one channel: its local port, where 0 asks for a free one, and how long one
attempt to receive may take. -/
structure SocketSettings where
  port : UInt16
  timeout : Nat
deriving DecidableEq, Repr

/-- How long to wait for the answer to a request of each kind. -/
structure Timeouts where
  search : Nat
  description : Nat
  connect : Nat
  connectionState : Nat
  disconnect : Nat
  tunneling : Nat
deriving DecidableEq, Repr

/-- How often a request of each kind is sent before it is given up. -/
structure Retries where
  discovery : UInt8
  description : UInt8
  connect : UInt8
  /-- How many keep-alive requests in a row may fail. -/
  connectionState : UInt8
  tunneling : UInt8
deriving DecidableEq, Repr

/-- The retry budgets. -/
def Retries.all (r : Retries) : List UInt8 :=
  [r.discovery, r.description, r.connect, r.connectionState, r.tunneling]

/-- The settings of a client. -/
structure Settings where
  mode : Mode
  /-- There is an address translator on the way: one socket for control and data, and the peer
  answers to where a datagram came from. -/
  nat : Bool
  /-- The control endpoint of the gateway; without it, the gateway is searched for. -/
  remote : Option Endpoint
  /-- Where search requests go. -/
  discoveryEndpoint : Endpoint
  /-- The multicast group of routing. -/
  routingEndpoint : Endpoint
  localAddress : Option Ipv4
  control : SocketSettings
  data : SocketSettings
  discovery : SocketSettings
  description : SocketSettings
  routing : SocketSettings
  timeouts : Timeouts
  retries : Retries
  /-- The time between two keep-alive requests. -/
  keepAliveInterval : Nat
  /-- How many workers hand events to observers. -/
  observerPool : Nat
  /-- How long closing waits for what runs in the background. -/
  shutdownGrace : Nat
  /-- The source of telegrams. -/
  individualAddress : IndividualAddress
deriving DecidableEq, Repr

namespace Settings

/-- The port of the protocol. -/
def defaultPort : UInt16 := 3671

/-- The multicast endpoint of the protocol. -/
def multicast : Endpoint := ⟨⟨224, 0, 23, 12⟩, defaultPort⟩

/-- The settings of the standard. -/
def standard : Settings where
  mode := .tunneling
  nat := false
  remote := none
  discoveryEndpoint := multicast
  routingEndpoint := multicast
  localAddress := none
  control := ⟨0, 100⟩
  data := ⟨0, 100⟩
  discovery := ⟨0, 100⟩
  description := ⟨0, 100⟩
  routing := ⟨defaultPort, 100⟩
  timeouts := ⟨3000, 10000, 10000, 10000, 10000, 1000⟩
  retries := ⟨3, 3, 3, 3, 2⟩
  keepAliveInterval := 60000
  observerPool := 2
  shutdownGrace := 1000
  individualAddress := .unspecified

/-- Tunneling through a known gateway. -/
def tunnelingTo (remote : Endpoint) : Settings := { standard with remote := some remote }

/-- Routing over the multicast group of the protocol. -/
def routingOnly : Settings := { standard with mode := .routing }

/-- The settings of the socket of a channel. -/
def socket (s : Settings) : Channel → SocketSettings
  | .discovery => s.discovery
  | .description => s.description
  | .control => s.control
  | .data => s.data
  | .routing => s.routing

/-- Replaces the settings of the socket of a channel. -/
def withSocket (s : Settings) (channel : Channel) (socket : SocketSettings) : Settings :=
  match channel with
  | .discovery => { s with discovery := socket }
  | .description => { s with description := socket }
  | .control => { s with control := socket }
  | .data => { s with data := socket }
  | .routing => { s with routing := socket }

/-- The settings of all sockets. -/
def sockets (s : Settings) : List SocketSettings := Channel.all.map s.socket

/-- Sets the receive timeout of every socket. -/
def withSocketTimeout (s : Settings) (timeout : Nat) : Settings :=
  { s with
    control := { s.control with timeout }
    data := { s.data with timeout }
    discovery := { s.discovery with timeout }
    description := { s.description with timeout }
    routing := { s.routing with timeout } }

/-- Whether a client can work with the settings: first the retry budgets are looked at, then the
socket timeouts, then the keep-alive interval. -/
def validate (s : Settings) : Except ValueFault Unit :=
  if 0 ∈ s.retries.all then .error .retryBudget
  else if s.sockets.any (·.timeout = 0) then .error .socketTimeout
  else if s.keepAliveInterval = 0 then .error .keepAliveInterval
  else .ok ()

end Settings
end KnxIp
