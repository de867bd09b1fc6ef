/-
  The loop of a receiver over a transport in memory.

  In each round the next datagram comes into a buffer of 512 octets, and what came in is handled.
  The buffer is used again for every datagram. The loop only learns how many octets came in: of a
  longer datagram it sees the front.
-/
import KnxIp.Network.Memory

namespace KnxIp

/-- A receiver in its loop. -/
structure Receiver where
  role : Role
  peers : Peers
  context : Context
  transport : MemoryTransport
  /-- What the last datagrams left behind. -/
  buffer : Bytes

namespace Receiver

/-- A receiver before its first round. -/
def new (role : Role) (peers : Peers) (context : Context) (transport : MemoryTransport) :
    Receiver :=
  ⟨role, peers, context, transport, List.replicate maxFrameSize 0⟩

/-- One round: a datagram is taken and handled, and the reply is sent. If nothing waits, the round
does nothing. -/
def round (r : Receiver) : Receiver :=
  match r.transport.receive r.buffer with
  | (none, transport) => { r with transport }
  | (some (n, buffer, source), transport) =>
    let h := r.context.dispatch r.role r.peers (fun _ => none) source (buffer.take n)
    let transport := match h.reply with
      | none => transport
      | some d => transport.send d.bytes d.destination
    { r with context := h.context, transport, buffer }

/-- What others may do between two rounds: they use the context, send, change the peers, and more
datagrams come in. -/
structure Meanwhile (r s : Receiver) : Prop where
  role : s.role = r.role
  buffer : s.buffer = r.buffer
  closed : s.transport.closed = r.transport.closed
  inbound : ∃ more, s.transport.inbound = r.transport.inbound ++ more

/-- The loop after so many rounds, before the next one. -/
inductive Run (r : Receiver) : Nat → Receiver → Prop
  | start {s : Receiver} : r.Meanwhile s → Run r 0 s
  | round {n : Nat} {s s' : Receiver} : Run r n s → s.round.Meanwhile s' → Run r (n + 1) s'

end Receiver
end KnxIp
