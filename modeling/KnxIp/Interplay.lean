/-
  Interplay: what happens when several threads use a client at the same time.

  The threads of an application start and close the session, and each of their calls goes through
  its own stages: it looks up the channel, takes a sequence number, finds the socket, sends, and
  waits. Helpers that were asked to close the session get their turn at any later time, datagrams
  arrive, and the keep-alive checks the connection. A `Move` is one step of one of them, and a run
  is any list of moves.

  Only starting and closing take the lock of the session. Who waits for it has not begun, so at most
  one of them is under way (`Lock`). In a call every look at what others may change is a step of its
  own. These are single steps:

  * What a start forgets at its beginning. Whatever another thread does meanwhile touches only one
    of the things that are forgotten, and so comes before or after.
  * The services of a start. They take no sequence number and run no helper. What arrives while they
    run is up to the network; what arrives after them and before the session is started is not part
    of them.
  * Receiving a datagram and handling it: it may change the known values once, at the end.
  * A check of the keep-alive, and what is sent or asked beside the calls.

  Closing ends the keep-alive and the receivers in the time they are given, so none of them outlives
  its connection. The ledger notes what becomes of the sequence numbers; nothing reads it.
-/
import KnxIp.Client

namespace KnxIp

/-! ## Calls -/

/-- What a caller wants. -/
inductive Errand
  /-- Put a telegram on the bus. -/
  | send (telegram : Telegram)
  /-- Write a value to an address. -/
  | write (d : Destination) (data : Bytes)
  /-- Ask for the value of an address. -/
  | read (d : Destination)
  /-- Ask for the value of an address and wait for it. -/
  | readValue (d : Destination)
  /-- Wait for a fresh value of an address. -/
  | await (d : Destination)
deriving DecidableEq

/-- What a caller is told. -/
inductive Answer
  /-- Whether the gateway has taken the telegram. -/
  | taken (b : Bool)
  /-- The value, if it has come in time. -/
  | value (e : Option StatusEntry)
deriving DecidableEq

/-- How far a call has got. -/
inductive Stage
  | begun
  /-- What is known of the address is dirty now. -/
  | marked (d : Destination)
  /-- There is a telegram to send. -/
  | composed (t : Telegram)
  /-- The channel was looked up. -/
  | addressed (t : Telegram) (channel : UInt8)
  /-- A sequence number was taken, so the request can be made. -/
  | numbered (request : Body)
  /-- The session was started. -/
  | admitted (request : Body)
  /-- The socket was found, and the request may be sent so many times. -/
  | routed (request : Body) (socket : Socket) (attempts : Nat)
  /-- The request was registered once more. -/
  | registered (request : Body) (socket : Socket) (attempts : Nat)
  /-- The network has taken the request. -/
  | waiting (request : Body) (socket : Socket) (attempts : Nat)
  /-- A fresh value is waited for. -/
  | watching (d : Destination)
  /-- The call could not be carried out. -/
  | failed (f : Failure)
  /-- The caller was told this. -/
  | answered (answer : Answer)
deriving DecidableEq

/-- A call of a client. -/
structure Call where
  errand : Errand
  stage : Stage
deriving DecidableEq

/-- What becomes of sequence numbers. -/
inductive Entry
  /-- A start begins, and the numbers with it. -/
  | restarted
  /-- A call has taken a number. -/
  | drawn (call : Nat) (number : UInt8)
  /-- The network has taken a request of a call. -/
  | carried (call : Nat) (request : Body)
deriving DecidableEq

/-- What a step of a call leads to. -/
structure Taken where
  session : Session
  stage : Stage
  entry : Option Entry

namespace Session

/-- What is known of an address becomes dirty. -/
def markDirty (s : Session) (d : Destination) : Session :=
  ((Client.mk s).withStatus (·.markDirty d)).session

end Session

namespace Call

/-- The stage after the telegram was sent, or was not. -/
def sent (c : Call) : Except Failure Bool → Stage
  | .error f => .failed f
  | .ok taken =>
    match c.errand, taken with
    | .readValue d, true => .watching d
    | .readValue _, false => .answered (.value none)
    | _, taken => .answered (.taken taken)

/-- The stage after a draft was judged. -/
def drafted : Except ValueFault Telegram → Stage
  | .error f => .failed (.ofValue f)
  | .ok t => .composed t

/-- The beginning of a call. -/
def begin (s : Session) (c : Call) : Session × Stage :=
  match c.errand with
  | .send t => (s, .composed t)
  | .write d data =>
    let draft := ((Client.mk s).draftTo d).withData data
    match Telegram.Draft.build { draft with apci := some .groupValueWrite } with
    | .error f => (s, .failed (.ofValue f))
    | .ok t => (s.markDirty d, .composed t)
  | .read d =>
    (s, drafted (Telegram.Draft.build
      { (Client.mk s).draftTo d with apci := some .groupValueRead }))
  | .readValue d => (s.markDirty d, .marked d)
  | .await d => (s, .watching d)

/-- The next step of the call with the number `i`. Who waits goes on when what is waited for has
come, or when it is too late for it. -/
def step (n : Network) (late : Bool) (i : Nat) (s : Session) (c : Call) : Taken :=
  match c.stage with
  | .begun => let (s, stage) := c.begin s; ⟨s, stage, none⟩
  | .marked d =>
    ⟨s, drafted (Telegram.Draft.build
      { (Client.mk s).draftTo d with apci := some .groupValueRead }), none⟩
  | .composed t =>
    match s.settings.mode with
    | .routing =>
      let (r, s) := s.send n (.routingIndication t)
      ⟨s, c.sent (r.map fun _ => true), none⟩
    | .tunneling =>
      match s.channelId with
      | none => ⟨s, .failed (.connection .notStarted), none⟩
      | some channel => ⟨s, .addressed t channel, none⟩
  | .addressed t channel =>
    let (number, sequence) := s.sequence.take
    ⟨{ s with sequence }, .numbered (.tunnelingRequest ⟨channel, number, 0⟩ t),
      some (.drawn i number)⟩
  | .numbered b =>
    if s.isStarted then ⟨s, .admitted b, none⟩
    else ⟨s, .failed (.connection .notStarted), none⟩
  | .admitted b =>
    match s.socketFor b.service.channel with
    | some socket => ⟨s, .routed b socket s.settings.retries.tunneling.toNat, none⟩
    | none => ⟨s, .failed (.ofValue (.noChannel b.service.channel b.service)), none⟩
  | .routed _ _ 0 => ⟨s, c.sent (.ok false), none⟩
  | .routed b socket (attempts + 1) =>
    match s.context.correlator.register b with
    | .error f => ⟨s, .failed (.ofValue f), none⟩
    | .ok (_, correlator) =>
      ⟨s.withContext fun c => { c with correlator }, .registered b socket attempts, none⟩
  | .registered b socket attempts =>
    match s.world.send n socket b with
    | (.error f, world) => ⟨{ s with world }, .failed f, none⟩
    | (.ok (), world) => ⟨{ s with world }, .waiting b socket attempts, some (.carried i b)⟩
  | .waiting b socket attempts =>
    match (ExchangeKey.ofRequest b).bind s.context.correlator.response? with
    | some (.tunnelingAck header) => ⟨s, c.sent (.ok (header.status = statusOk)), none⟩
    | some _ => ⟨s, .routed b socket attempts, none⟩
    | none => ⟨s, if late then .routed b socket attempts else c.stage, none⟩
  | .watching d =>
    match s.context.status.get? d true with
    | some e => ⟨s, .answered (.value (some e)), none⟩
    | none => ⟨s, if late then .answered (.value none) else c.stage, none⟩
  | .failed _ | .answered _ => ⟨s, c.stage, none⟩

end Call

/-! ## The lock -/

/-- The lock of a session: whether someone has it, and how far that one has got. -/
inductive Lock
  | free
  /-- A start has forgotten the connection before. -/
  | starting
  /-- The services of the start run, or could not be started for this reason. -/
  | served (failure : Option Failure)
  /-- The session is being closed. -/
  | stopping
  /-- The keep-alive is stopped. -/
  | unwatched
  /-- The channel is disconnected. -/
  | parted
  /-- Everything that belonged to the connection was given up. -/
  | released
deriving DecidableEq

/-- A client that several threads use. -/
structure Interplay where
  session : Session
  lock : Lock
  /-- The calls, the first one first. -/
  calls : List Call
  /-- What became of the sequence numbers, oldest first. -/
  ledger : List Entry

/-- One step of one thread. -/
inductive Move
  /-- A start gets the lock. -/
  | start
  /-- The application closes the session, and gets the lock. -/
  | close
  /-- One of the helpers that were asked to close the session gets the lock. -/
  | helper
  /-- Who has the lock takes the next step. -/
  | proceed (n : Network)
  /-- The application makes a call. -/
  | call (errand : Errand)
  /-- A call takes its next step. -/
  | advance (call : Nat) (n : Network) (late : Bool)
  /-- A body is sent. -/
  | send (n : Network) (body : Body)
  /-- A request is sent, and its response waited for. -/
  | request (n : Network) (body : Body)
  /-- A datagram arrives unasked at a local endpoint. -/
  | arrive (n : Network) (address source : Endpoint) (bytes : Bytes)
  /-- An interval of the keep-alive passes. -/
  | interval (n : Network)
  /-- The application makes what is known of an address dirty. -/
  | markDirty (d : Destination)
  /-- The application forgets all known values. -/
  | clear

namespace Interplay

/-- A client before anything has happened. -/
def new (settings : Settings) (context : Context) : Interplay :=
  ⟨.new settings context, .free, [], []⟩

/-- A session begins to be closed. -/
def shut (s : Session) : Session := { s with closed := true }.enter .stopRequested

/-- Who has got the lock to close the session begins, unless there is nothing to close. -/
def teardown (x : Interplay) : Interplay :=
  if x.session.closed then x else { x with session := shut x.session, lock := .stopping }

/-- Who has the lock takes the next step. -/
def proceed (n : Network) (x : Interplay) : Interplay :=
  let s := x.session
  match x.lock with
  | .free => x
  | .starting =>
    match Session.Start.services n s with
    | (.ok (), s) => { x with session := s, lock := .served none }
    | (.error f, s) => { x with session := s, lock := .served (some f) }
  | .served none =>
    { x with session := (s.enter .started).withContext (·.notify .start), lock := .free }
  | .served (some _) => { x with session := shut s, lock := .stopping }
  | .stopping => { x with session := { s with monitor := none }, lock := .unwatched }
  | .unwatched => { x with session := s.disconnectHeld n, lock := .parted }
  | .parted => { x with session := s.release, lock := .released }
  | .released =>
    { x with session := (s.enter .notStarted).withContext (·.notify .shutdown), lock := .free }

/-- A call takes its next step. -/
def advance (n : Network) (late : Bool) (i : Nat) (x : Interplay) : Interplay :=
  match x.calls[i]? with
  | none => x
  | some c =>
    let taken := c.step n late i x.session
    { x with
      session := taken.session
      calls := x.calls.set i { c with stage := taken.stage }
      ledger := x.ledger ++ taken.entry.toList }

/-- The client after a move. A move that is not possible changes nothing. -/
def apply (x : Interplay) : Move → Interplay
  | .start =>
    if x.lock = .free ∧ x.session.phase = .notStarted then
      { x with
        session := x.session.prepare, lock := .starting, ledger := x.ledger ++ [.restarted] }
    else x
  | .close => if x.lock = .free then x.teardown else x
  | .helper =>
    if x.lock = .free ∧ x.session.pendingClosers ≠ 0 then
      { x with session := { x.session with closersRun := x.session.closersRun + 1 } }.teardown
    else x
  | .proceed n => x.proceed n
  | .call errand => { x with calls := x.calls ++ [⟨errand, .begun⟩] }
  | .advance i n late => x.advance n late i
  | .send n b => { x with session := (x.session.send n b).2 }
  | .request n b => { x with session := (x.session.request n b).2 }
  | .arrive n address source bytes =>
    { x with session := x.session.arrive n address source bytes }
  | .interval n => { x with session := x.session.keepAlive n }
  | .markDirty d => { x with session := x.session.markDirty d }
  | .clear => { x with session := x.session.withContext fun c => { c with status := .empty } }

/-- The client after several moves. -/
def run (x : Interplay) (moves : List Move) : Interplay := moves.foldl apply x

theorem run_append (x : Interplay) (xs ys : List Move) :
    x.run (xs ++ ys) = (x.run xs).run ys := by
  simp [run]

theorem run_concat (x : Interplay) (moves : List Move) (m : Move) :
    x.run (moves ++ [m]) = (x.run moves).apply m := x.run_append moves [m]

end Interplay
end KnxIp
