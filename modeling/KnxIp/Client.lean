/-
  Clients: a session with observers, and reading and writing of values.

  A client is opened connected or not at all. Writing a value marks what is known of the address
  as dirty before anything is sent, and so does asking for a value; the next value that arrives
  makes it fresh again.
-/
import KnxIp.Session.Basic
import KnxIp.Telegram.Draft

namespace KnxIp

/-- A client. -/
structure Client where
  session : Session

namespace Client

/-- The known values. -/
def status (c : Client) : StatusPool := c.session.context.status

/-- The client with other known values. -/
def withStatus (c : Client) (f : StatusPool → StatusPool) : Client :=
  ⟨c.session.withContext fun x => { x with status := f x.status }⟩

/-- Closes the session for good; the observers are told of nothing that comes later. -/
def close (n : Network) (c : Client) : Client :=
  ⟨(c.session.close n).withContext fun x => { x with observers := x.observers.shutdown }⟩

/-- How opening a client ended. -/
inductive Opening
  /-- The settings are not good; nothing was begun. -/
  | refused (fault : ValueFault)
  /-- The start failed, and the client was closed again. -/
  | failed (failure : Failure) (client : Client)
  | opened (client : Client)

/-- Opens a client with these observers. -/
def connect (n : Network) (settings : Settings) (observers : List Observer) : Opening :=
  match settings.validate with
  | .error f => .refused f
  | .ok () =>
    let context := (Context.new (.pool observers settings.observerPool)).notify .init
    match (Session.new settings context).start n with
    | (.ok (), session) => .opened ⟨session⟩
    | (.error f, session) => .failed f (Client.mk session |>.close n)

/-- Puts a telegram on the bus. -/
def sendTelegram (n : Network) (c : Client) (t : Telegram) : Except Failure Bool × Client :=
  let (r, session) := c.session.sendTelegram n t
  (r, ⟨session⟩)

/-- A draft for an address with the source of this client. -/
def draftTo (c : Client) (d : Destination) : Telegram.Draft :=
  { Telegram.Draft.forDestination d with source := c.session.settings.individualAddress }

/-- Writes a value to an address: whether the gateway has taken the telegram. -/
def write (n : Network) (c : Client) (d : Destination) (data : Bytes) :
    Except Failure Bool × Client :=
  match Telegram.Draft.build { (c.draftTo d).withData data with apci := some .groupValueWrite } with
  | .error f => (.error (.ofValue f), c)
  | .ok t => (c.withStatus (·.markDirty d)).sendTelegram n t

/-- Asks for the value of an address: whether the gateway has taken the telegram. -/
def read (n : Network) (c : Client) (d : Destination) : Except Failure Bool × Client :=
  match Telegram.Draft.build { c.draftTo d with apci := some .groupValueRead } with
  | .error f => (.error (.ofValue f), c)
  | .ok t => c.sendTelegram n t

/-- Asks for the value of an address and waits for it. -/
def readValue (n : Network) (c : Client) (d : Destination) :
    Except Failure (Option StatusEntry) × Client :=
  match (c.withStatus (·.markDirty d)).read n d with
  | (.error f, c) => (.error f, c)
  | (.ok false, c) => (.ok none, c)
  | (.ok true, c) => (.ok (c.status.get? d true), c)

end Client
end KnxIp
