/-
  A transport in memory: datagrams sent through it are kept, and those to be received are queued.

  An optional echo answers every datagram with copies of its octets in reverse.
-/
import KnxIp.Channel.Dispatch

namespace KnxIp

open Text

/-- A transport in memory. -/
structure MemoryTransport where
  address : Endpoint
  /-- What waits to be received, with its source. -/
  inbound : List (Bytes × Endpoint)
  /-- What was sent, oldest first. -/
  sent : List Datagram
  closed : Bool
  /-- How many copies the echo sends back. -/
  echo : Nat
deriving DecidableEq, Repr

namespace MemoryTransport

/-- The local endpoint unless another is given. -/
def defaultAddress : Endpoint := ⟨⟨192, 168, 1, 100⟩, 50000⟩

/-- Where queued datagrams come from unless they say otherwise. -/
def defaultPeer : Endpoint := ⟨⟨192, 168, 1, 10⟩, 3671⟩

/-- A new transport. -/
def new (address : Endpoint) : MemoryTransport := ⟨address, [], [], false, 0⟩

/-- Queues a datagram. -/
def add (t : MemoryTransport) (bytes : Bytes) (source : Endpoint) : MemoryTransport :=
  { t with inbound := t.inbound ++ [(bytes, source)] }

/-- Sends a datagram; the echo comes back from its destination. -/
def send (t : MemoryTransport) (bytes : Bytes) (destination : Endpoint) : MemoryTransport :=
  { t with
    sent := t.sent ++ [⟨bytes, destination⟩]
    inbound := t.inbound ++ List.replicate t.echo (bytes.reverse, destination) }

/-- Receives into a buffer: the number of octets written, the buffer, and the source. A datagram
that does not fit is cut. Nothing comes out of a closed transport. -/
def receive (t : MemoryTransport) (buffer : Bytes) :
    Option (Nat × Bytes × Endpoint) × MemoryTransport :=
  match t.closed, t.inbound with
  | false, (bytes, source) :: inbound =>
    let part := bytes.take buffer.length
    (some (part.length, overlay part buffer, source), { t with inbound })
  | _, _ => (none, t)

/-- Closes the transport; what was waiting is lost. -/
def close (t : MemoryTransport) : MemoryTransport := { t with closed := true, inbound := [] }

/-- The transport in one line. -/
def text (t : MemoryTransport) : String :=
  "MockTransport \x7b local: " ++ t.address.text ++ ", pending: " ++ decimal t.inbound.length ++
    ", sent: " ++ decimal t.sent.length ++ ", closed: " ++ (if t.closed then "true" else "false") ++
    ", .. \x7d"

end MemoryTransport
end KnxIp
