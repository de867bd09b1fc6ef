/-
  Sessions: one connection of a client, from its start to its end.

  A session is started and closed again, any number of times. Starting it in tunneling mode finds
  and describes the gateway, opens the sockets, connects, and begins the keep-alive; in routing
  mode it joins the multicast group. A start that fails closes the session before the failure is
  given back. Closing it disconnects the channel, unless the gateway has done so, and closes the
  sockets; closing a closed session does nothing.

  When the gateway or the keep-alive ends the connection, a helper is asked to close the session.
  Helpers run later: `pendingClosers` counts those that have not, and `runCloser` runs one.
-/
import KnxIp.Discovery
import KnxIp.KeepAlive
import KnxIp.Sequence

namespace KnxIp

/-- What was negotiated with the gateway. -/
structure Negotiated where
  /-- The control endpoint of the gateway, or the multicast group. -/
  remote : Option Endpoint
  /-- The endpoint announced for control. -/
  control : Option Endpoint
  /-- The endpoint announced for data. -/
  data : Option Endpoint
  description : Option Description
  /-- The individual address of the tunnel. -/
  tunnelAddress : Option IndividualAddress
deriving DecidableEq, Repr

/-- The keep-alive of a session: the control socket, the endpoint it announces, and the watch. -/
structure Monitor where
  socket : Socket
  endpoint : Endpoint
  watch : KeepAlive
deriving DecidableEq, Repr

/-- A session. -/
structure Session where
  settings : Settings
  world : World
  /-- The sequence numbers of tunneled telegrams. -/
  sequence : SequenceCounter
  phase : SessionPhase
  /-- There is nothing to close. -/
  closed : Bool
  negotiated : Negotiated
  monitor : Option Monitor
  /-- How many of the helpers that were asked to close the session have run. -/
  closersRun : Nat

namespace Session

/-- Who is told when the connection is to be closed. -/
def listenerName : String := "session"

/-- A session that was not started. -/
def new (settings : Settings) (context : Context) : Session where
  settings
  world := .new (context.withConnection fun c => { c with listener := some listenerName })
  sequence := .start
  phase := .notStarted
  closed := true
  negotiated := ⟨none, none, none, none, none⟩
  monitor := none
  closersRun := 0

/-- The context that the channels of the session share. -/
abbrev context (s : Session) : Context := s.world.context

/-- The channel that the gateway opened. -/
def channelId (s : Session) : Option UInt8 := s.context.connection.channelId

/-- The session is started. -/
def isStarted (s : Session) : Bool := s.phase = .started

/-- The session enters a phase. -/
def enter (s : Session) (phase : SessionPhase) : Session :=
  { s with phase, world := s.world.note (.entered phase) }

/-- The session with another context. -/
def withContext (s : Session) (f : Context → Context) : Session :=
  { s with world := s.world.withContext f }

/-- The session with another state of the connection. -/
def withConnection (s : Session) (f : Connection → Connection) : Session :=
  s.withContext (·.withConnection f)

/-- The first socket that takes frames of a channel. -/
def socketFor (s : Session) (channel : Channel) : Option Socket :=
  s.world.sockets.find? (·.role.accepts channel)

/-! ## Closing -/

/-- Disconnects a channel through the control socket. Whether the gateway answers does not
matter. -/
def disconnect (n : Network) (s : Session) (channel : UInt8) : Session :=
  match s.socketFor .control with
  | none => s
  | some control =>
    let endpoint := s.negotiated.control.getD .unspecified
    { s with world := (s.world.request n control (.disconnectRequest channel endpoint)).2 }

/-- Disconnects the channel that is held, unless the gateway has closed it. -/
def disconnectHeld (n : Network) (s : Session) : Session :=
  match s.channelId with
  | none => s
  | some channel =>
    if (s.context.correlator.slot .disconnect).hasInboundRequest then s
    else s.disconnect n channel

/-- Gives up everything that belongs to the connection. -/
def release (s : Session) : Session :=
  let s := s.withConnection fun c => { c with channelId := none }
  { s with
    negotiated := { s.negotiated with control := none, data := none }
    world := { s.world with sockets := [] } }

/-- Closes the session. -/
def close (n : Network) (s : Session) : Session :=
  if s.closed then s
  else
    let s := { s with closed := true, monitor := none }.enter .stopRequested
    let s := ((s.disconnectHeld n).release).enter .notStarted
    s.withContext (·.notify .shutdown)

/-- Whether closing the session ends all that runs in the background in time. -/
def closesInTime (n : Network) (s : Session) : Bool :=
  s.closed || ((s.monitor.isNone || n.endsInTime .keepAlive) &&
    s.world.sockets.all fun socket => n.endsInTime (.receiving socket.address))

/-! ## Starting -/

/-- Steps of a start: they may fail, and keep what they have changed. -/
abbrev Start := ExceptT Failure (StateM Session)

namespace Start

/-- A step on the network. -/
def onWorld {α : Type} (f : World → Except Failure α × World) : Start α :=
  fun s => let (r, world) := f s.world; (r, { s with world })

/-- Notes what was negotiated. -/
def negotiate (f : Negotiated → Negotiated) : Start Unit :=
  modify fun s => { s with negotiated := f s.negotiated }

/-- Joins the multicast group. -/
def routing (n : Network) : Start Unit := do
  let settings := (← get).settings
  let group := settings.routingEndpoint
  let _ ← onWorld (·.bind n .routing ⟨.unspecified, group.port⟩ group)
  negotiate fun g => { g with remote := some group }

/-- The control endpoint of the gateway: the one in the settings, or the one that is found. -/
def gateway (n : Network) (settings : Settings) : Start Endpoint :=
  match settings.remote with
  | some remote => pure remote
  | none => do return (← onWorld (World.discover n settings)).control

/-- Opens the sockets for control and data; behind an address translator they are one. -/
def openSockets (n : Network) (settings : Settings) (remote : Endpoint) :
    Start (Socket × Socket) := do
  let ip := settings.interfaceTo n remote
  if settings.nat then
    let shared ← onWorld (·.bind n .shared ⟨ip, settings.control.port⟩ remote)
    return (shared, shared)
  else
    let control ← onWorld (·.bind n .control ⟨ip, settings.control.port⟩ remote)
    let data ← onWorld (·.bind n .data ⟨ip, settings.data.port⟩ remote)
    return (control, data)

/-- What a connect response grants. -/
structure Grant where
  channel : UInt8
  data : Option Endpoint
  assigned : Option AssignedAddress

/-- The grant in a connect response with a good status. -/
def Grant.ofBody : Body → Option Grant
  | .connectResponse channel status data assigned =>
    if status = statusOk then some ⟨channel, data, assigned⟩ else none
  | _ => none

/-- Asks for a tunnel until one is granted. -/
def connect (n : Network) (settings : Settings) (control : Socket)
    (endpoints : Endpoint × Endpoint) : Start Grant := do
  let request : Body := .connectRequest endpoints.1 endpoints.2 .tunnelLinkLayer
  let budget := settings.retries.connect.toNat
  match ← onWorld (World.repeatRequest n control request Grant.ofBody budget none) with
  | .accepted grant => return grant
  | .exhausted last => throw (.connection (.channelIdNotReceived request last))

/-- Takes over what was granted: the channel, the data endpoint of the gateway, the address of the
tunnel. -/
def accept (remote : Endpoint) (data : Socket) (grant : Grant) : Start Unit := do
  modify (·.withConnection fun c => { c with channelId := some grant.channel })
  if let some endpoint := grant.data then
    let peer := endpoint.replyTo remote
    modify fun s => { s with world := s.world.setSocket data.address fun socket =>
      { socket with peers := { socket.peers with data := some peer } } }
  negotiate fun g => { g with tunnelAddress := grant.assigned.map (·.address) }

/-- Begins the keep-alive. -/
def keepWatch (n : Network) (settings : Settings) (control : Socket) (endpoint : Endpoint) :
    Start Unit := do
  match n.watchRefusal (← get).world.opened with
  | some fault => throw (.transport fault)
  | none =>
    let watch := KeepAlive.new settings.retries.connectionState.toNat
    modify fun s => { s with monitor := some ⟨control, endpoint, watch⟩ }

/-- Builds a tunnel to a gateway that offers it. -/
def openTunnel (n : Network) (settings : Settings) (remote : Endpoint) : Start Unit := do
  let (control, data) ← openSockets n settings remote
  let endpoints := (settings.announced control, settings.announced data)
  negotiate fun g => { g with control := some endpoints.1, data := some endpoints.2 }
  let grant ← connect n settings control endpoints
  accept remote data grant
  keepWatch n settings control endpoints.1

/-- Finds a gateway, asks what it can do, and builds the tunnel. -/
def tunneling (n : Network) : Start Unit := do
  let settings := (← get).settings
  let remote ← gateway n settings
  negotiate fun g => { g with remote := some remote }
  let description ← onWorld (World.describeForTunneling n settings remote)
  negotiate fun g => { g with description := some description }
  openTunnel n settings remote

/-- Starts what the mode needs, if the settings are good. -/
def services (n : Network) : Start Unit := do
  let settings := (← get).settings
  match settings.validate with
  | .error f => throw (.ofValue f)
  | .ok () =>
    match settings.mode with
    | .routing => routing n
    | .tunneling => tunneling n

end Start

/-- The session at the beginning of a start: nothing is left of an earlier connection. -/
def prepare (s : Session) : Session :=
  let s := { s with closed := false, sequence := .start }.enter .startRequested
  s.withContext fun c => { c with
    correlator := .empty
    connection := { c.connection with channelId := none, lastSequence := none } }

/-- Starts the session. Only a session that is not started can be. -/
def start (n : Network) (s : Session) : Except Failure Unit × Session :=
  if s.phase ≠ .notStarted then (.error (.connection .alreadyStarted), s)
  else match Start.services n s.prepare with
    | (.ok (), s) => (.ok (), (s.enter .started).withContext (·.notify .start))
    | (.error f, s) => (.error f, s.close n)

/-! ## Helpers and the keep-alive -/

/-- How many helpers have been asked to close the session and have not run yet. -/
def pendingClosers (s : Session) : Nat := s.context.connection.told.length - s.closersRun

/-- One helper runs, if one is pending. -/
def runCloser (n : Network) (s : Session) : Session :=
  if s.pendingClosers = 0 then s
  else { s with closersRun := s.closersRun + 1 }.close n

/-- So many helpers run. -/
def runClosers (n : Network) : Nat → Session → Session
  | 0, s => s
  | k + 1, s => runClosers n k (s.runCloser n)

/-- All pending helpers run. -/
def settle (n : Network) (s : Session) : Session := runClosers n s.pendingClosers s

/-- An interval of the keep-alive has passed. -/
def keepAlive (n : Network) (s : Session) : Session :=
  match s.monitor with
  | none => s
  | some m =>
    let (watch, world) := s.world.watch n m.socket m.endpoint m.watch
    { s with world, monitor := some { m with watch } }

/-! ## Sending -/

/-- The socket for a body. The session has to be started and to have one. -/
def route (s : Session) (b : Body) : Except Failure Socket :=
  if s.isStarted then
    match s.socketFor b.service.channel with
    | some socket => .ok socket
    | none => .error (.ofValue (.noChannel b.service.channel b.service))
  else .error (.connection .notStarted)

/-- Sends a body through the socket it belongs to. -/
def send (n : Network) (s : Session) (b : Body) : Except Failure Unit × Session :=
  match s.route b with
  | .error f => (.error f, s)
  | .ok socket => let (r, world) := s.world.send n socket b; (r, { s with world })

/-- Sends a request through the socket it belongs to, and waits for the response. -/
def request (n : Network) (s : Session) (b : Body) : Except Failure (Option Body) × Session :=
  match s.route b with
  | .error f => (.error f, s)
  | .ok socket => let (r, world) := s.world.request n socket b; (r, { s with world })

/-- Sends a tunneling request up to `attempts` times, until it is acknowledged. A bad status ends
the attempts. Pending helpers run between two attempts, and only there. A helper with a thread of
its own may also close the session while an acknowledgement is awaited, so that one which arrives
later in the same window is lost. -/
def transmit (n : Network) (socket : Socket) (b : Body) :
    Nat → Session → Except Failure Bool × Session
  | 0, s => (.ok false, s)
  | attempts + 1, s =>
    match s.world.request n socket b with
    | (.error f, world) => (.error f, { s with world })
    | (.ok (some (.tunnelingAck header)), world) =>
      (.ok (header.status = statusOk), { s with world })
    | (.ok _, world) => transmit n socket b attempts ({ s with world }.settle n)

/-- Puts a telegram on the bus: whether the gateway has taken it. Multicast is never acknowledged,
and counts as taken. -/
def sendTelegram (n : Network) (s : Session) (t : Telegram) : Except Failure Bool × Session :=
  match s.settings.mode with
  | .routing =>
    match s.send n (.routingIndication t) with
    | (.ok (), s) => (.ok true, s)
    | (.error f, s) => (.error f, s)
  | .tunneling =>
    match s.channelId with
    | none => (.error (.connection .notStarted), s)
    | some channel =>
      let (number, sequence) := s.sequence.take
      let s := { s with sequence }
      let request : Body := .tunnelingRequest ⟨channel, number, 0⟩ t
      match s.route request with
      | .error f => (.error f, s)
      | .ok socket => transmit n socket request s.settings.retries.tunneling.toNat s

/-- A datagram arrives unasked at a local endpoint. -/
def arrive (n : Network) (s : Session) (address source : Endpoint) (bytes : Bytes) : Session :=
  { s with world := s.world.arrive n address (.datagram source bytes) }

end Session
end KnxIp
