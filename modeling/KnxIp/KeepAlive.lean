/-
  Keep-alive: asking the gateway now and then whether the channel is still alive.

  `KeepAlive` is the watch over one connection. Between two checks it rests; when a check is due it
  sends one connection-state request, unless it was stopped or there is no channel any more. A
  success starts the count of failures anew, and so many failures in a row end the connection. A
  check that was under way when the watch was stopped has no effect.
-/
import KnxIp.Network.Basic

namespace KnxIp

/-- What a watch is doing. -/
inductive WatchPhase
  /-- It waits for the next check. -/
  | resting
  /-- It has asked about a channel. -/
  | checking (channel : UInt8)
  /-- It has ended, and has given the connection up or not. -/
  | over (gaveUp : Bool)
deriving DecidableEq, Repr

/-- The watch over a connection. -/
structure KeepAlive where
  /-- How many failures in a row end the connection; at least one does. -/
  maxFailures : Nat
  /-- How many checks in a row have failed. -/
  failures : Nat
  /-- It was not stopped. -/
  running : Bool
  phase : WatchPhase
deriving DecidableEq, Repr

namespace KeepAlive

/-- A watch before its first check. -/
def new (maxFailures : Nat) : KeepAlive := ⟨maxFailures, 0, true, .resting⟩

/-- Stops the watch. -/
def stop (k : KeepAlive) : KeepAlive := { k with running := false }

/-- An interval has passed: a check of the channel is due. -/
def due (k : KeepAlive) (channel : Option UInt8) : KeepAlive :=
  match k.phase with
  | .resting =>
    if !k.running then { k with phase := .over false }
    else match channel with
      | none => { k with phase := .over false }
      | some c => { k with phase := .checking c }
  | _ => k

/-- The check that is under way has ended. -/
def judge (k : KeepAlive) (alive : Bool) : KeepAlive :=
  match k.phase with
  | .checking _ =>
    if !k.running then { k with phase := .over false }
    else if alive then { k with failures := 0, phase := .resting }
    else if k.maxFailures ≤ k.failures + 1 then
      { k with failures := k.failures + 1, running := false, phase := .over true }
    else { k with failures := k.failures + 1, phase := .resting }
  | _ => k

end KeepAlive

namespace World

/-- Asks the gateway whether a channel is alive. It is if the response says so. -/
def check (n : Network) (w : World) (s : Socket) (channel : UInt8) (endpoint : Endpoint) :
    Except Failure Bool × World :=
  match w.request n s (.connectionStateRequest channel endpoint) with
  | (.error f, w) => (.error f, w)
  | (.ok (some (.connectionStateResponse _ status)), w) => (.ok (status = statusOk), w)
  | (.ok _, w) => (.ok false, w)

/-- Giving a connection up is reported, and the connection is asked to be closed. -/
def giveUp (w : World) : World :=
  w.withContext fun c => (c.report (.connection .connectionLost)).requestClose

/-- What the watch does when an interval has passed. A check that cannot be sent has failed. -/
def watch (n : Network) (w : World) (s : Socket) (endpoint : Endpoint) (k : KeepAlive) :
    KeepAlive × World :=
  let k := k.due w.context.connection.channelId
  match k.phase with
  | .checking channel =>
    let (alive, w) := w.check n s channel endpoint
    let k := k.judge (alive matches .ok true)
    (k, if k.phase = .over true then w.giveUp else w)
  | _ => (k, w)

/-- The watch over so many intervals. -/
def watchFor (n : Network) (s : Socket) (endpoint : Endpoint) :
    Nat → KeepAlive → World → KeepAlive × World
  | 0, k, w => (k, w)
  | intervals + 1, k, w =>
    let (k, w) := w.watch n s endpoint k
    watchFor n s endpoint intervals k w

end World
end KnxIp
