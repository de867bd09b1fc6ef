/-
  Settings read from a text of `KEY=VALUE` lines.

  A line is blank, a comment that begins with `#`, or an assignment; blanks around line, key and
  value do not matter, and a key that is not known is ignored. The gateway is put together from its
  address and its port when all lines are read, and the result is validated last.
-/
import KnxIp.Settings.Basic

namespace KnxIp

open Text

namespace Settings

/-- The keys of a settings text. -/
inductive Key
  | mode
  | nat
  | gatewayIp
  | gatewayPort
  | localAddress
  | discoveryEndpoint
  | routingEndpoint
  | controlPort
  | dataPort
  | discoveryPort
  | descriptionPort
  | routingPort
  | socketTimeout
  | searchTimeout
  | descriptionTimeout
  | connectTimeout
  | connectionStateTimeout
  | disconnectTimeout
  | tunnelingTimeout
  | discoveryRetries
  | descriptionRetries
  | connectRetries
  | connectionStateRetries
  | tunnelingAttempts
  | keepAliveInterval
  | observerPool
  | shutdownGrace
  | individualAddress
deriving DecidableEq, Repr

namespace Key

/-- Every key. -/
def all : List Key :=
  [mode, nat, gatewayIp, gatewayPort, localAddress, discoveryEndpoint, routingEndpoint,
   controlPort, dataPort, discoveryPort, descriptionPort, routingPort, socketTimeout,
   searchTimeout, descriptionTimeout, connectTimeout, connectionStateTimeout, disconnectTimeout,
   tunnelingTimeout, discoveryRetries, descriptionRetries, connectRetries, connectionStateRetries,
   tunnelingAttempts, keepAliveInterval, observerPool, shutdownGrace, individualAddress]

/-- The word for a key. -/
def word : Key → String
  | mode => "KNX_MODE"
  | nat => "KNX_NAT"
  | gatewayIp => "KNX_GATEWAY_IP"
  | gatewayPort => "KNX_GATEWAY_PORT"
  | localAddress => "KNX_LOCAL_ADDRESS"
  | discoveryEndpoint => "KNX_DISCOVERY_ENDPOINT"
  | routingEndpoint => "KNX_ROUTING_ENDPOINT"
  | controlPort => "KNX_CONTROL_PORT"
  | dataPort => "KNX_DATA_PORT"
  | discoveryPort => "KNX_DISCOVERY_PORT"
  | descriptionPort => "KNX_DESCRIPTION_PORT"
  | routingPort => "KNX_ROUTING_PORT"
  | socketTimeout => "KNX_SOCKET_TIMEOUT_MS"
  | searchTimeout => "KNX_TIMEOUT_SEARCH_MS"
  | descriptionTimeout => "KNX_TIMEOUT_DESCRIPTION_MS"
  | connectTimeout => "KNX_TIMEOUT_CONNECT_MS"
  | connectionStateTimeout => "KNX_TIMEOUT_CONNECTION_STATE_MS"
  | disconnectTimeout => "KNX_TIMEOUT_DISCONNECT_MS"
  | tunnelingTimeout => "KNX_TIMEOUT_TUNNELING_MS"
  | discoveryRetries => "KNX_RETRIES_DISCOVERY"
  | descriptionRetries => "KNX_RETRIES_DESCRIPTION"
  | connectRetries => "KNX_RETRIES_CONNECT"
  | connectionStateRetries => "KNX_RETRIES_CONNECTION_STATE"
  | tunnelingAttempts => "KNX_TUNNELING_ATTEMPTS"
  | keepAliveInterval => "KNX_CONNECTION_STATE_INTERVAL_S"
  | observerPool => "KNX_PLUGIN_POOL_SIZE"
  | shutdownGrace => "KNX_SHUTDOWN_GRACE_MS"
  | individualAddress => "KNX_INDIVIDUAL_ADDRESS"

/-- The key for a word. -/
def ofWord (word : String) : Option Key := all.find? (·.word = word)

end Key

/-- What the lines read so far have set. -/
structure Collected where
  settings : Settings
  gatewayIp : Option Ipv4
  gatewayPort : UInt16
deriving DecidableEq, Repr

namespace Collected

/-- Nothing read yet. -/
def empty : Collected := ⟨standard, none, defaultPort⟩

/-- The settings with the gateway put together: its port counts only if there is an address. -/
def finish (c : Collected) : Settings :=
  match c.gatewayIp with
  | some ip => { c.settings with remote := some ⟨ip, c.gatewayPort⟩ }
  | none => c.settings

end Collected

/-- Reads `true` or `false`. -/
def readBool (cs : List Char) : Option Bool :=
  if cs = "true".toList then some true else if cs = "false".toList then some false else none

/-- Reads a port. -/
def readPort (cs : List Char) : Option UInt16 := (readBounded 65535 cs).map Nat.toUInt16

/-- Reads a retry budget. -/
def readCount (cs : List Char) : Option UInt8 := (readBounded 255 cs).map Nat.toUInt8

/-- Reads a number of 64 bits: a duration or a size. -/
def readWide (cs : List Char) : Option Nat := readBounded 18446744073709551615 cs

/-- What the value `value` of a key changes. -/
def Key.assign (key : Key) (value : List Char) (c : Collected) : Except Fault Collected :=
  let read {α : Type} (r : Option α) (set : α → Collected) : Except Fault Collected :=
    match r with
    | some a => .ok (set a)
    | none => .error (.value (.invalidSetting (String.ofList value) key.word))
  let s := c.settings
  match key with
  | mode => match Mode.ofChars value with
    | .ok m => .ok { c with settings := { s with mode := m } }
    | .error f => .error (.value f)
  | nat => read (readBool value) fun nat => { c with settings := { s with nat } }
  | gatewayIp => read (Ipv4.ofChars value) fun ip => { c with gatewayIp := some ip }
  | gatewayPort => read (readPort value) fun gatewayPort => { c with gatewayPort }
  | localAddress => read (Ipv4.ofChars value) fun ip =>
    { c with settings := { s with localAddress := some ip } }
  | discoveryEndpoint => read (Endpoint.ofChars value) fun discoveryEndpoint =>
    { c with settings := { s with discoveryEndpoint } }
  | routingEndpoint => read (Endpoint.ofChars value) fun routingEndpoint =>
    { c with settings := { s with routingEndpoint } }
  | controlPort => read (readPort value) fun port =>
    { c with settings := { s with control := { s.control with port } } }
  | dataPort => read (readPort value) fun port =>
    { c with settings := { s with data := { s.data with port } } }
  | discoveryPort => read (readPort value) fun port =>
    { c with settings := { s with discovery := { s.discovery with port } } }
  | descriptionPort => read (readPort value) fun port =>
    { c with settings := { s with description := { s.description with port } } }
  | routingPort => read (readPort value) fun port =>
    { c with settings := { s with routing := { s.routing with port } } }
  | socketTimeout => read (readWide value) fun timeout =>
    { c with settings := s.withSocketTimeout timeout }
  | searchTimeout => read (readWide value) fun search =>
    { c with settings := { s with timeouts := { s.timeouts with search } } }
  | descriptionTimeout => read (readWide value) fun description =>
    { c with settings := { s with timeouts := { s.timeouts with description } } }
  | connectTimeout => read (readWide value) fun connect =>
    { c with settings := { s with timeouts := { s.timeouts with connect } } }
  | connectionStateTimeout => read (readWide value) fun connectionState =>
    { c with settings := { s with timeouts := { s.timeouts with connectionState } } }
  | disconnectTimeout => read (readWide value) fun disconnect =>
    { c with settings := { s with timeouts := { s.timeouts with disconnect } } }
  | tunnelingTimeout => read (readWide value) fun tunneling =>
    { c with settings := { s with timeouts := { s.timeouts with tunneling } } }
  | discoveryRetries => read (readCount value) fun discovery =>
    { c with settings := { s with retries := { s.retries with discovery } } }
  | descriptionRetries => read (readCount value) fun description =>
    { c with settings := { s with retries := { s.retries with description } } }
  | connectRetries => read (readCount value) fun connect =>
    { c with settings := { s with retries := { s.retries with connect } } }
  | connectionStateRetries => read (readCount value) fun connectionState =>
    { c with settings := { s with retries := { s.retries with connectionState } } }
  | tunnelingAttempts => read (readCount value) fun tunneling =>
    { c with settings := { s with retries := { s.retries with tunneling } } }
  | keepAliveInterval => read (readWide value) fun seconds =>
    { c with settings := { s with keepAliveInterval := 1000 * seconds } }
  | observerPool => read (readWide value) fun observerPool =>
    { c with settings := { s with observerPool } }
  | shutdownGrace => read (readWide value) fun shutdownGrace =>
    { c with settings := { s with shutdownGrace } }
  | individualAddress => match IndividualAddress.parse (String.ofList value) with
    | .ok a => .ok { c with settings := { s with individualAddress := a } }
    | .error f => .error (.address f)

/-- What one line says. -/
inductive Line
  /-- Nothing: it is blank, a comment, or an assignment to an unknown key. -/
  | ignored
  /-- A value for a key. -/
  | assignment (key : Key) (value : List Char)
deriving DecidableEq, Repr

/-- Reads a line. -/
def Line.read (line : List Char) : Except ValueFault Line :=
  let line := trim line
  if line = [] ∨ line.head? = some '#' then .ok .ignored
  else match cut '=' line with
    | none => .error (.malformedLine (String.ofList line))
    | some (key, value) =>
      match Key.ofWord (String.ofList (trim key)) with
      | some key => .ok (.assignment key (trim value))
      | none => .ok .ignored

/-- What one more line changes. -/
def Collected.addLine (c : Collected) (line : List Char) : Except Fault Collected :=
  match Line.read line with
  | .error f => .error (.value f)
  | .ok .ignored => .ok c
  | .ok (.assignment key value) => key.assign value c

/-- What the lines change, one after the other; the first fault ends the reading. -/
def Collected.addLines : Collected → List (List Char) → Except Fault Collected
  | c, [] => .ok c
  | c, line :: lines => do (← c.addLine line).addLines lines

/-- Reads the settings in a text. -/
def ofProperties (text : String) : Except Fault Settings := do
  let c ← Collected.empty.addLines (split '\n' text.toList)
  let settings := c.finish
  match settings.validate with
  | .ok _ => .ok settings
  | .error f => .error (.value f)

end Settings
end KnxIp
