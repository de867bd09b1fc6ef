/-
  Simulated gateways: a gateway on the loopback interface that answers by a script.

  It listens at two endpoints. The n-th request of a service, at whichever endpoint, is answered
  by the n-th entry of the script for that service; the last entry stands for all that follow it,
  and where there is no entry nothing is answered. Replies come from the endpoint that was asked
  and go to where the request came from.

  Multicast does not reach the gateway. It comes back to the socket that sent it, if that socket
  is bound to the port of the group.
-/
import KnxIp.Network.Basic

namespace KnxIp

/-- A simulated gateway. -/
structure Gateway where
  /-- The entries for a service: each gives the octets of the replies to a request. -/
  script : Service → List (Body → List Bytes)

namespace Gateway

/-- The endpoint of the gateway. -/
def main : Endpoint := ⟨.loopback, 3671⟩

/-- The second endpoint of the gateway. -/
def side : Endpoint := ⟨.loopback, 3672⟩

/-- Names for the endpoints of the gateway, and for its address without a port. -/
def names : List (Endpoint × String) :=
  [(main, "gateway"), (side, "side"), (⟨.loopback, 0⟩, "gateway:0")]

/-- The gateway listens at an endpoint. -/
def listens (e : Endpoint) : Bool := e = main ∨ e = side

/-- The frames that have reached the gateway: how each was handed over, and its body. -/
def received (attempts : List Attempt) : List (Attempt × Body) :=
  (attempts.filter fun a => !a.refused && listens a.datagram.destination).filterMap fun a =>
    a.datagram.body?.map (a, ·)

/-- How many frames of a service have reached the gateway. -/
def count (attempts : List Attempt) (s : Service) : Nat :=
  ((received attempts).filter (·.2.service = s)).length

/-- Where the client takes control and data, as it said in its last connect request. -/
def announced (attempts : List Attempt) : Option (Endpoint × Endpoint) :=
  (received attempts).reverse.findSome? fun
    | (a, .connectRequest control data _) => some (control.replyTo a.socket, data.replyTo a.socket)
    | _ => none

/-- The entry of a script for the request after `earlier` others. -/
def entry {α : Type} (entries : List α) (earlier : Nat) : Option α :=
  entries[min earlier (entries.length - 1)]?

/-- The replies to a request, after all that was handed over before. -/
def replies (g : Gateway) (earlier : List Attempt) (request : Body) : List Bytes :=
  match entry (g.script request.service) (count earlier request.service) with
  | some reply => reply request
  | none => []

/-- The reaction to a datagram. What a socket sends in reply is not answered. -/
def react (g : Gateway) (earlier : List Attempt) (sender : Sender) (socket : Endpoint)
    (d : Datagram) : Reaction :=
  if d.destination.ip.isMulticast then
    ⟨none, if d.destination.port = socket.port then [⟨socket, socket, d.bytes⟩] else []⟩
  else
    match sender, listens d.destination, d.body? with
    | .caller, true, some request =>
      ⟨none, (g.replies earlier request).map fun bytes => ⟨socket, d.destination, bytes⟩⟩
    | _, _, _ => .silence

/-- A network with only this gateway. -/
def network (g : Gateway) : Network :=
  { Network.quiet with react := g.react, route := fun _ => some .loopback }

end Gateway
end KnxIp
