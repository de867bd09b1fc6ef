/-
  The settings that values make up, in whatever order they are given.

  What is given is at most one value for each key (`Given`), and every field of the settings is read
  from the value of its own key, or is the standard one (`Given.settings`); this says nothing of
  lines. The gateway takes two keys, its address and its port, and without an address there is
  none.

  A key accepts a value if the value can be read, whatever was collected before. Assigning one to
  what some values make up gives what they and the new one make up (`assign_collected`), and so the
  last value of each key is all that counts.
-/
import KnxIp.Settings.Properties

namespace KnxIp.Settings

open Text

/-- Reads a mode. -/
def readMode (cs : List Char) : Option Mode := (Mode.ofChars cs).toOption

/-- Reads an individual address. -/
def readAddress (cs : List Char) : Option IndividualAddress :=
  (IndividualAddress.parse (String.ofList cs)).toOption

/-- Reads a duration of so many seconds. -/
def readSeconds (cs : List Char) : Option Nat := (readWide cs).map (1000 * ·)

namespace Key

/-- A value of the key can be read. -/
def accepts : Key → List Char → Bool
  | mode, cs => (readMode cs).isSome
  | nat, cs => (readBool cs).isSome
  | gatewayIp, cs | localAddress, cs => (Ipv4.ofChars cs).isSome
  | discoveryEndpoint, cs | routingEndpoint, cs => (Endpoint.ofChars cs).isSome
  | gatewayPort, cs | controlPort, cs | dataPort, cs | discoveryPort, cs | descriptionPort, cs
  | routingPort, cs => (readPort cs).isSome
  | discoveryRetries, cs | descriptionRetries, cs | connectRetries, cs
  | connectionStateRetries, cs | tunnelingAttempts, cs => (readCount cs).isSome
  | socketTimeout, cs | searchTimeout, cs | descriptionTimeout, cs | connectTimeout, cs
  | connectionStateTimeout, cs | disconnectTimeout, cs | tunnelingTimeout, cs
  | observerPool, cs | shutdownGrace, cs => (readWide cs).isSome
  | keepAliveInterval, cs => (readSeconds cs).isSome
  | individualAddress, cs => (readAddress cs).isSome

/-- What is reported of a value that cannot be read. The fault names the key, but for two keys whose
readers have faults of their own. -/
def refusal (key : Key) (value : List Char) : Fault :=
  let named : Fault := .value (.invalidSetting (String.ofList value) key.word)
  match key with
  | mode => match Mode.ofChars value with
    | .ok _ => named
    | .error f => .value f
  | individualAddress => match IndividualAddress.parse (String.ofList value) with
    | .ok _ => named
    | .error f => .address f
  | _ => named

end Key

/-- The value that is given for each key, if there is one. -/
abbrev Given := Key → Option (List Char)

namespace Given

/-- No key has a value. -/
def nothing : Given := fun _ => none

/-- A key gets another value. -/
def set (g : Given) (key : Key) (value : List Char) : Given :=
  fun k => if k = key then some value else g k

/-- What the value of a key reads as, or else the standard. -/
def read {α : Type} (g : Given) (key : Key) (reader : List Char → Option α) (standard : α) : α :=
  ((g key).bind reader).getD standard

/-- The address of the gateway. -/
def gatewayIp (g : Given) : Option Ipv4 := (g .gatewayIp).bind Ipv4.ofChars

/-- The port of the gateway. -/
def gatewayPort (g : Given) : UInt16 := g.read .gatewayPort readPort defaultPort

/-- The settings of a socket. There is one timeout for all sockets. -/
def socket (g : Given) (port : Key) (otherwise : SocketSettings) : SocketSettings where
  port := g.read port readPort otherwise.port
  timeout := g.read .socketTimeout readWide otherwise.timeout

/-- How long to wait for each answer. -/
def timeouts (g : Given) : Timeouts where
  search := g.read .searchTimeout readWide standard.timeouts.search
  description := g.read .descriptionTimeout readWide standard.timeouts.description
  connect := g.read .connectTimeout readWide standard.timeouts.connect
  connectionState := g.read .connectionStateTimeout readWide standard.timeouts.connectionState
  disconnect := g.read .disconnectTimeout readWide standard.timeouts.disconnect
  tunneling := g.read .tunnelingTimeout readWide standard.timeouts.tunneling

/-- How often each request is sent. -/
def retries (g : Given) : Retries where
  discovery := g.read .discoveryRetries readCount standard.retries.discovery
  description := g.read .descriptionRetries readCount standard.retries.description
  connect := g.read .connectRetries readCount standard.retries.connect
  connectionState := g.read .connectionStateRetries readCount standard.retries.connectionState
  tunneling := g.read .tunnelingAttempts readCount standard.retries.tunneling

/-- The settings that the values make up. -/
def settings (g : Given) : Settings where
  mode := g.read .mode readMode standard.mode
  nat := g.read .nat readBool standard.nat
  remote := g.gatewayIp.map fun ip => ⟨ip, g.gatewayPort⟩
  discoveryEndpoint := g.read .discoveryEndpoint Endpoint.ofChars standard.discoveryEndpoint
  routingEndpoint := g.read .routingEndpoint Endpoint.ofChars standard.routingEndpoint
  localAddress := (g .localAddress).bind Ipv4.ofChars
  control := g.socket .controlPort standard.control
  data := g.socket .dataPort standard.data
  discovery := g.socket .discoveryPort standard.discovery
  description := g.socket .descriptionPort standard.description
  routing := g.socket .routingPort standard.routing
  timeouts := g.timeouts
  retries := g.retries
  keepAliveInterval := g.read .keepAliveInterval readSeconds standard.keepAliveInterval
  observerPool := g.read .observerPool readWide standard.observerPool
  shutdownGrace := g.read .shutdownGrace readWide standard.shutdownGrace
  individualAddress := g.read .individualAddress readAddress standard.individualAddress

/-- What has been collected when these values have been read. -/
def collected (g : Given) : Collected :=
  ⟨{ g.settings with remote := none }, g.gatewayIp, g.gatewayPort⟩

theorem collected_nothing : nothing.collected = .empty := rfl

theorem finish_collected (g : Given) : g.collected.finish = g.settings := by
  unfold Collected.finish collected
  cases known : g.gatewayIp <;> simp [settings, known]

/-- Assigning a value adds it to those that are collected, if the key accepts it. There is one case
for each kind of reader. -/
theorem assign_collected (g : Given) (key : Key) (value : List Char) :
    key.assign value g.collected =
      if key.accepts value then .ok (g.set key value).collected
      else .error (key.refusal value) := by
  cases key with
  | mode =>
    cases h : Mode.ofChars value <;>
      simp [Key.assign, Key.accepts, Key.refusal, readMode, h, Except.toOption, collected, settings,
        gatewayIp, gatewayPort, socket, timeouts, retries, read, set]
  | individualAddress =>
    cases h : IndividualAddress.parse (String.ofList value) <;>
      simp [Key.assign, Key.accepts, Key.refusal, readAddress, h, Except.toOption, collected,
        settings, gatewayIp, gatewayPort, socket, timeouts, retries, read, set]
  | nat =>
    cases h : readBool value <;>
      simp [Key.assign, Key.accepts, Key.refusal, h, collected, settings,
        gatewayIp, gatewayPort, socket, timeouts, retries, read, set]
  | gatewayIp | localAddress =>
    cases h : Ipv4.ofChars value <;>
      simp [Key.assign, Key.accepts, Key.refusal, h, collected, settings,
        gatewayIp, gatewayPort, socket, timeouts, retries, read, set]
  | discoveryEndpoint | routingEndpoint =>
    cases h : Endpoint.ofChars value <;>
      simp [Key.assign, Key.accepts, Key.refusal, h, collected, settings,
        gatewayIp, gatewayPort, socket, timeouts, retries, read, set]
  | gatewayPort | controlPort | dataPort | discoveryPort | descriptionPort | routingPort =>
    cases h : readPort value <;>
      simp [Key.assign, Key.accepts, Key.refusal, h, collected, settings,
        gatewayIp, gatewayPort, socket, timeouts, retries, read, set]
  | discoveryRetries | descriptionRetries | connectRetries | connectionStateRetries
  | tunnelingAttempts =>
    cases h : readCount value <;>
      simp [Key.assign, Key.accepts, Key.refusal, h, collected, settings,
        gatewayIp, gatewayPort, socket, timeouts, retries, read, set]
  | socketTimeout | searchTimeout | descriptionTimeout | connectTimeout | connectionStateTimeout
  | disconnectTimeout | tunnelingTimeout | keepAliveInterval | observerPool | shutdownGrace =>
    cases h : readWide value <;>
      simp [Key.assign, Key.accepts, Key.refusal, readSeconds, h, withSocketTimeout, collected,
        settings, gatewayIp, gatewayPort, socket, timeouts, retries, read, set]

end Given
end KnxIp.Settings
