/-
  Traffic: what the users of one context send and receive, in any order.

  Any number of sockets share a context, and each is used and receives on its own. So a run is any
  list of deeds, and the network may be another one at each of them. To send takes two of them:
  first the transport takes the datagram, later the frame is counted and shown to the observers,
  and in between anything else may happen. A frame that was taken and is not counted yet is
  under way.

  To receive a datagram and to handle it is one deed. It only ever adds to the counters and to the
  queue of events, so it makes no difference for the sums what other deeds do meanwhile; an answer
  that the handling sends is counted within the deed.
-/
import KnxIp.Delivery
import KnxIp.Network.Basic

namespace KnxIp

/-- A frame that the transport has taken. -/
structure Transmission where
  body : Body
  datagram : Datagram
  written : (Frame.ofBody body).bytes = .ok datagram.bytes

namespace World

/-- Hands a body over to the network, the first half of sending: what was taken, and what arrives
before it is counted. -/
def hand (n : Network) (w : World) (address : Endpoint) (b : Body) (destination : Endpoint) :
    Except Failure (Transmission × List Arrival) × World :=
  match written : (Frame.ofBody b).bytes with
  | .error f => (.error (.ofFraming f), w)
  | .ok bytes =>
    let d : Datagram := ⟨bytes, destination⟩
    let reaction := n.react w.attempts .caller address d
    match reaction.refusal with
    | some fault => (.error (.transport fault), w.log .caller address d true)
    | none => (.ok (⟨b, d, written⟩, reaction.arrivals), w.log .caller address d false)

/-- Counts a frame that was taken, the second half of sending. -/
def count (w : World) (x : Transmission) : World :=
  w.withContext (·.sent (Frame.ofBody x.body) x.datagram.bytes.length)

/-- What handing over leads to: the frame cannot be written, or is refused, or is taken. -/
theorem hand_cases (n : Network) (w : World) (address : Endpoint) (b : Body)
    (destination : Endpoint) :
    (∃ f, (Frame.ofBody b).bytes = .error f ∧
      w.hand n address b destination = (.error (.ofFraming f), w)) ∨
    ∃ x : Transmission, x.body = b ∧ x.datagram.destination = destination ∧
      let reaction := n.react w.attempts .caller address x.datagram
      ((∃ fault, reaction.refusal = some fault ∧ w.hand n address b destination =
          (.error (.transport fault), w.log .caller address x.datagram true)) ∨
        reaction.refusal = none ∧ w.hand n address b destination =
          (.ok (x, reaction.arrivals), w.log .caller address x.datagram false)) := by
  unfold hand
  split
  · next f unwritten => exact .inl ⟨f, unwritten, rfl⟩
  · next bytes written =>
    refine .inr ⟨⟨b, ⟨bytes, destination⟩, written⟩, rfl, rfl, ?_⟩
    dsimp only
    cases refused : (n.react w.attempts .caller address ⟨bytes, destination⟩).refusal with
    | some fault => exact .inl ⟨fault, rfl, rfl⟩
    | none => exact .inr ⟨rfl, rfl⟩

/-- To send is to hand over, to handle what arrives, and to count. -/
theorem sendTo_eq (n : Network) (w : World) (address : Endpoint) (b : Body)
    (destination : Endpoint) :
    w.sendTo n address b destination =
      match w.hand n address b destination with
      | (.error f, v) => (.error f, v)
      | (.ok (x, arrivals), v) => (.ok (), (v.arriveAll n arrivals).count x) := by
  obtain ⟨f, unwritten, handed⟩ |
      ⟨⟨b, ⟨bytes, destination⟩, written⟩, rfl, rfl, ⟨fault, refused, handed⟩ | ⟨taken, handed⟩⟩ :=
    hand_cases n w address b destination
  · simp only [sendTo, unwritten, handed]
  · simp only [sendTo, written, refused, handed]
  · simp only [sendTo, written, taken, handed]
    rfl

end World

/-- There is a frame in a datagram, and it belongs to another channel. -/
def Context.rejects (c : Context) (bytes : Bytes) : Bool :=
  match Frame.bodyIn? bytes with
  | some b => !(verifyChannel c.connection.channelId b).isOk
  | none => false

/-- A world, and the frames that are under way. -/
structure Traffic where
  world : World
  underway : List Transmission

namespace Traffic

/-- The counters. -/
abbrev statistics (t : Traffic) : Statistics := t.world.context.statistics

/-- The observers. -/
abbrev observers (t : Traffic) : Observers := t.world.context.observers

/-- The datagrams of the frames under way. -/
def pending (t : Traffic) : List Datagram := t.underway.map (·.datagram)

/-- What can happen next. -/
inductive Deed
  /-- A frame is handed over to the network from a socket. -/
  | hand (n : Network) (socket : Endpoint) (b : Body) (destination : Endpoint)
  /-- The frame at this place of those under way is counted. -/
  | count (place : Nat)
  /-- A socket receives a datagram and handles it, or fails to receive. -/
  | receive (n : Network) (s : Socket) (x : Waiting)
  /-- A failure in the background is reported. -/
  | report (f : Failure)
  /-- Exchanges, known values and the connection become others. -/
  | alter (correlator : Correlator) (status : StatusPool) (connection : Connection)
  /-- Sockets are opened, changed or closed. -/
  | rearrange (sockets : List Socket) (opened : Nat)
  /-- The session enters a phase. -/
  | enter (phase : SessionPhase)
  /-- Something happens to the observers, but nobody tells them of a frame. -/
  | observe (d : Observers.Deed) (other : ∀ e, d = .notify e → e.isTraffic = false)

namespace Deed

/-- What is there after a deed. -/
def apply (t : Traffic) : Deed → Traffic
  | hand n socket b destination =>
    match t.world.hand n socket b destination with
    | (.error _, w) => { t with world := w }
    | (.ok (x, _), w) => ⟨w, t.underway ++ [x]⟩
  | count place =>
    match t.underway[place]? with
    | none => t
    | some x => ⟨t.world.count x, t.underway.eraseIdx place⟩
  | receive n s x => { t with world := t.world.receive n s x }
  | report f => { t with world := t.world.withContext (·.report f) }
  | alter correlator status connection =>
    { t with world := t.world.withContext fun c => { c with correlator, status, connection } }
  | rearrange sockets opened => { t with world := { t.world with sockets, opened } }
  | enter phase => { t with world := t.world.note (.entered phase) }
  | observe d _ =>
    { t with world := t.world.withContext fun c => { c with observers := d.apply c.observers } }

/-- A frame is received that belongs to another channel. -/
def rejects (t : Traffic) : Deed → Bool
  | receive _ _ (.datagram _ bytes) => t.world.context.rejects (bytes.take maxFrameSize)
  | _ => false

/-- A failure is reported that has to do with no datagram. -/
def reports : Deed → Bool
  | report _ | receive _ _ (.failure _) => true
  | _ => false

/-- The observers accept no more events. -/
def shuts : Deed → Bool
  | observe .shutdown _ => true
  | _ => false

/-- The events that a deed puts into the queue of the observers. A worker only takes some out. -/
def queues (t : Traffic) (d : Deed) : List Event :=
  (d.apply t).observers.queue.drop t.observers.queue.length

end Deed

/-- What is there after deeds, one after the other. -/
def run (t : Traffic) (deeds : List Deed) : Traffic := deeds.foldl Deed.apply t

/-- The deeds, each with what is there before it. -/
def steps (t : Traffic) : List Deed → List (Traffic × Deed)
  | [] => []
  | d :: deeds => (t, d) :: steps (d.apply t) deeds

/-- The events that were put into the queue of the observers, in order. -/
def queued (t : Traffic) (deeds : List Deed) : List Event :=
  (t.steps deeds).flatMap fun (before, d) => d.queues before

/-- How many frames were rejected because they belong to another channel. -/
def rejections (t : Traffic) (deeds : List Deed) : Nat :=
  (t.steps deeds).countP fun (before, d) => d.rejects before

end Traffic
end KnxIp
