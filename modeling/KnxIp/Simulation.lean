/-
  Simulations: a session whose gateway is simulated.
-/
import KnxIp.Network.Gateway
import KnxIp.Session.Run

namespace KnxIp

/-- The settings of a simulation: all on the loopback interface, and patient. -/
def Gateway.settings : Settings :=
  { Settings.standard with
    localAddress := some .loopback
    discoveryEndpoint := main
    timeouts := ⟨5000, 5000, 5000, 5000, 5000, 5000⟩
    keepAliveInterval := 600000
    observerPool := 1
    shutdownGrace := 5000 }.withSocketTimeout 5

namespace Session

/-- Where a gateway reaches the session: the routing socket, or what was announced for control or
for data. -/
def endpointFor (s : Session) (control : Bool) : Option Endpoint :=
  match s.socketFor .routing with
  | some socket => some socket.address
  | none => (Gateway.announced s.world.attempts).map fun (c, d) => if control then c else d

/-- The gateway sends a datagram unasked. -/
def deliver (n : Network) (s : Session) (control : Bool) (bytes : Bytes) : Session :=
  match s.endpointFor control with
  | some address => s.arrive n address Gateway.main bytes
  | none => s

/-- So many intervals of the keep-alive pass, and then the helpers run. -/
def wait (n : Network) (s : Session) (intervals : Nat) : Session :=
  (s.run n (List.replicate intervals .interval)).settle n

end Session
end KnxIp
