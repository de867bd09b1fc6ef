/-
  Networks: what the world does with the datagrams of a client.

  A `Network` is a strategy: given all datagrams handed over so far and the next one, it says
  whether that one is taken and which datagrams arrive while the sender waits for an answer. Any
  behaviour of gateways and of the socket layer is such a strategy.

  A `World` is the client's side: the context, its sockets, and the journal of what has happened.
  Each socket handles what arrives for it while it is running; before that, arrivals wait, and
  after it was closed they are lost. A datagram is cut to the size of the receive buffer.

  The threads of the client belong to the host, which `Network` stands for as well: it says
  whether the one of the keep-alive can be begun, and which of them stop in time.
-/
import KnxIp.Network.Journal

namespace KnxIp

/-- What arrives for the socket at a local endpoint. -/
structure Arrival where
  socket : Endpoint
  source : Endpoint
  bytes : Bytes
deriving DecidableEq, Repr

/-- How the network reacts to a datagram. -/
structure Reaction where
  /-- Why the datagram cannot be sent, if it cannot. -/
  refusal : Option TransportFault
  /-- What arrives while the caller waits. A datagram sent in reply is not waited for. -/
  arrivals : List Arrival
deriving DecidableEq, Repr

namespace Reaction

/-- The datagram goes out, and nothing arrives. -/
def silence : Reaction := ⟨none, []⟩

end Reaction

/-- What runs in the background. -/
inductive Background
  | keepAlive
  /-- Receiving at a local endpoint. -/
  | receiving (address : Endpoint)
deriving DecidableEq, Repr

/-- The behaviour of a network. -/
structure Network where
  /-- How it reacts to the next datagram, of a sender and a socket, after those before. -/
  react : List Attempt → Sender → Endpoint → Datagram → Reaction
  /-- The local address from which an endpoint can be reached. -/
  route : Endpoint → Option Ipv4
  /-- The free port for the next socket, when so many have been opened. -/
  freePort : Nat → UInt16
  /-- Why the next socket cannot be opened, when so many have been opened. -/
  openRefusal : Nat → Option TransportFault
  /-- Why the keep-alive cannot be begun, when so many sockets have been opened. -/
  watchRefusal : Nat → Option TransportFault
  /-- Whether something in the background ends in the time it is given. -/
  endsInTime : Background → Bool

namespace Network

/-- A network that takes every datagram and never answers. -/
def quiet : Network where
  react _ _ _ _ := .silence
  route _ := none
  freePort n := (49152 + n % 16384).toUInt16
  openRefusal _ := none
  watchRefusal _ := none
  endsInTime _ := true

/-- No network at all: no route, no socket. -/
def offline : Network where
  react _ _ _ _ := ⟨some ⟨.send, "Network is unreachable"⟩, []⟩
  route _ := none
  freePort _ := 0
  openRefusal _ := some ⟨.socket, "Operation not permitted"⟩
  watchRefusal _ := none
  endsInTime _ := true

end Network

/-- What waits to be received. -/
inductive Waiting
  | datagram (source : Endpoint) (bytes : Bytes)
  /-- The next attempt to receive fails. -/
  | failure (fault : TransportFault)
deriving DecidableEq, Repr

/-- A socket of a client. -/
structure Socket where
  role : Role
  /-- The local endpoint. -/
  address : Endpoint
  peers : Peers
  /-- Arrivals are being handled. -/
  running : Bool
  /-- The transport below was not closed yet. -/
  isOpen : Bool
  /-- What arrived before the socket was running. -/
  waiting : List Waiting
deriving DecidableEq, Repr

namespace Socket

/-- A socket that was not started yet. -/
def new (role : Role) (address peer : Endpoint) : Socket :=
  ⟨role, address, ⟨peer, none⟩, false, true, []⟩

end Socket

/-- The client's side of the network. -/
structure World where
  context : Context
  sockets : List Socket
  /-- What has happened, oldest first. -/
  journal : List Happening
  /-- How many sockets have been opened. -/
  opened : Nat

namespace World

/-- A world without sockets. -/
def new (context : Context) : World := ⟨context, [], [], 0⟩

/-- The datagrams handed over, oldest first. -/
def attempts (w : World) : List Attempt := w.journal.filterMap Happening.attempt?

/-- The world with another context. -/
def withContext (w : World) (f : Context → Context) : World := { w with context := f w.context }

/-- The socket at a local endpoint. -/
def socket? (w : World) (address : Endpoint) : Option Socket :=
  w.sockets.find? (·.address = address)

/-- Replaces the socket at a local endpoint. -/
def setSocket (w : World) (address : Endpoint) (f : Socket → Socket) : World :=
  { w with sockets := w.sockets.map fun s => if s.address = address then f s else s }

/-- Makes an entry in the journal. -/
def note (w : World) (h : Happening) : World := { w with journal := w.journal ++ [h] }

/-- Notes a datagram that was handed over. -/
def log (w : World) (sender : Sender) (socket : Endpoint) (d : Datagram) (refused : Bool) : World :=
  w.note (.handed ⟨sender, socket, d, refused⟩)

/-- The datagrams that the network took. -/
def sent (w : World) : List Datagram := (w.attempts.filter (!·.refused)).map (·.datagram)

/-- A running socket receives: it handles a datagram, or reports that receiving failed. -/
def receive (n : Network) (w : World) (s : Socket) : Waiting → World
  | .failure fault => w.withContext (·.report (.transport fault))
  | .datagram source bytes =>
    let part := bytes.take maxFrameSize
    let w := w.note (.received ⟨s.role, s.address, source, part⟩)
    let refusal : Refusal := fun d => (n.react w.attempts .receiver s.address d).refusal
    let h := w.context.dispatch s.role s.peers refusal source part
    let w := { w with context := h.context }
    match h.reply with
    | none => w
    | some d => w.log .receiver s.address d (refusal d).isSome

/-- A datagram that is received is noted and handled, and so is the answer, if there is one. -/
theorem receive_cases (n : Network) (w : World) (s : Socket) (source : Endpoint) (bytes : Bytes) :
    let r : Receipt := ⟨s.role, s.address, source, bytes.take maxFrameSize⟩
    let noted := w.note (.received r)
    let refusal : Refusal := fun d => (n.react noted.attempts .receiver s.address d).refusal
    let h := w.context.dispatch r.role s.peers refusal r.source r.bytes
    let handled := { noted with context := h.context }
    (h.reply = none ∧ w.receive n s (.datagram source bytes) = handled) ∨
      ∃ d, h.reply = some d ∧ w.receive n s (.datagram source bytes) =
        handled.log .receiver s.address d (refusal d).isSome := by
  intro r noted refusal h handled
  generalize ended : w.receive n s (.datagram source bytes) = v
  unfold receive at ended
  dsimp only at ended
  split at ended
  · next none => exact .inl ⟨none, ended.symm⟩
  · next d some => exact .inr ⟨d, some, ended.symm⟩

/-- What is left of a received datagram: the context in which it was handled, and the entries for it
and for its answer. -/
theorem context_and_journal_receive (n : Network) (w : World) (s : Socket) (source : Endpoint)
    (bytes : Bytes) :
    let r : Receipt := ⟨s.role, s.address, source, bytes.take maxFrameSize⟩
    let refusal : Refusal := fun d =>
      (n.react (w.note (.received r)).attempts .receiver s.address d).refusal
    let h := w.context.dispatch r.role s.peers refusal r.source r.bytes
    let v := w.receive n s (.datagram source bytes)
    v.context = h.context ∧ v.journal = w.journal ++ .received r ::
      h.reply.toList.map fun d => .handed ⟨.receiver, s.address, d, (refusal d).isSome⟩ := by
  intro r refusal h v
  obtain ⟨silent, ended⟩ | ⟨d, answer, ended⟩ := receive_cases n w s source bytes
  · rw [show v = _ from ended, show h.reply = none from silent]
    exact ⟨rfl, rfl⟩
  · rw [show v = _ from ended, show h.reply = some d from answer]
    exact ⟨rfl, List.append_assoc ..⟩

/-- Something arrives at a local endpoint. -/
def arrive (n : Network) (w : World) (address : Endpoint) (a : Waiting) : World :=
  match w.socket? address with
  | none => w
  | some s =>
    if !s.isOpen then w
    else if s.running then w.receive n s a
    else w.setSocket address fun s => { s with waiting := s.waiting ++ [a] }

/-- Several datagrams arrive one after the other. -/
def arriveAll (n : Network) (w : World) (arrivals : List Arrival) : World :=
  arrivals.foldl (fun w a => w.arrive n a.socket (.datagram a.source a.bytes)) w

/-- Sends a body from a socket. What arrives meanwhile is handled before the sent frame is counted
and shown to the observers. -/
def sendTo (n : Network) (w : World) (address : Endpoint) (b : Body) (destination : Endpoint) :
    Except Failure Unit × World :=
  let frame := Frame.ofBody b
  match frame.bytes with
  | .error f => (.error (.ofFraming f), w)
  | .ok bytes =>
    let d : Datagram := ⟨bytes, destination⟩
    let reaction := n.react w.attempts .caller address d
    match reaction.refusal with
    | some fault => (.error (.transport fault), w.log .caller address d true)
    | none =>
      let w := (w.log .caller address d false).arriveAll n reaction.arrivals
      (.ok (), w.withContext (·.sent frame bytes.length))

/-- Sends a body to the peer of its channel. -/
def send (n : Network) (w : World) (s : Socket) (b : Body) : Except Failure Unit × World :=
  w.sendTo n s.address b (s.peers.ofChannel b.service.channel)

/-- Sends a request and waits for the response. Nothing is sent if the body is no request. -/
def request (n : Network) (w : World) (s : Socket) (b : Body) :
    Except Failure (Option Body) × World :=
  match w.context.correlator.register b with
  | .error f => (.error (.ofValue f), w)
  | .ok (key, correlator) =>
    match (w.withContext fun c => { c with correlator }).send n s b with
    | (.error f, w) => (.error f, w)
    | (.ok (), w) => (.ok (w.context.correlator.response? key), w)

/-- Starts a socket: what has been waiting is handled first. -/
def start (n : Network) (w : World) (s : Socket) : Except Failure Unit × World :=
  if s.running then (.error (.connection .alreadyStarted), w)
  else
    let w := w.setSocket s.address fun s => { s with running := true, waiting := [] }
    if s.isOpen then
      (.ok (), s.waiting.foldl (fun w a => w.receive n { s with running := true } a) w)
    else (.ok (), w)

/-- Stops a socket and closes the transport below. -/
def stop (w : World) (address : Endpoint) : World :=
  w.setSocket address fun s => { s with running := false, isOpen := false, waiting := [] }

/-- Opens a socket of a role and starts it. Port 0 asks for a free one. -/
def bind (n : Network) (w : World) (role : Role) (here : Endpoint) (peer : Endpoint) :
    Except Failure Socket × World :=
  match n.openRefusal w.opened with
  | some fault => (.error (.transport fault), w)
  | none =>
    let port := if here.port = 0 then n.freePort w.opened else here.port
    let s := { Socket.new role ⟨here.ip, port⟩ peer with running := true }
    (.ok s, { w with sockets := w.sockets ++ [s], opened := w.opened + 1 })

/-- Closes a socket for good. -/
def drop (w : World) (address : Endpoint) : World :=
  { w with sockets := w.sockets.filter (·.address ≠ address) }

end World
end KnxIp
