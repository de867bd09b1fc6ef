/-
  Runs of a session: what may happen to it, one thing after the other.
-/
import KnxIp.Session.Basic

namespace KnxIp.Session

/-- What may happen to a session. -/
inductive Operation
  | start
  | close
  | send (body : Body)
  | request (body : Body)
  | sendTelegram (telegram : Telegram)
  /-- A datagram arrives unasked at a local endpoint. -/
  | arrive (address source : Endpoint) (bytes : Bytes)
  /-- An interval of the keep-alive passes. -/
  | interval
  /-- One of the helpers that were asked to close the session runs. -/
  | helper
deriving DecidableEq

/-- The session after an operation. -/
def apply (n : Network) (s : Session) : Operation → Session
  | .start => (s.start n).2
  | .close => s.close n
  | .send b => (s.send n b).2
  | .request b => (s.request n b).2
  | .sendTelegram t => (s.sendTelegram n t).2
  | .arrive address source bytes => s.arrive n address source bytes
  | .interval => s.keepAlive n
  | .helper => s.runCloser n

/-- The session after several operations. -/
def run (n : Network) (s : Session) (operations : List Operation) : Session :=
  operations.foldl (apply n) s

/-- The session after several operations, each on the network as it is by then. -/
def runOn (s : Session) (steps : List (Network × Operation)) : Session :=
  steps.foldl (fun s step => s.apply step.1 step.2) s

end KnxIp.Session
