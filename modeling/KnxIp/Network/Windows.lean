/-
  Windows: what happens while a tunneling request waits for its acknowledgement.

  The journal tells it. The window of a request is what happens from its transmission on, until the
  next one, or until the session enters a phase. What the network lets arrive after the transmission
  (`Journal.scripts`) is in the window as far as there are sockets for it (`World.receipt?`).
-/
import KnxIp.Network.Basic

namespace KnxIp

/-- Neither a tunneling request was handed over nor a phase entered. -/
def Happening.Within (h : Happening) : Prop := h.tunneled? = none ∧ h.phase? = none

instance : DecidablePred Happening.Within := fun _ => inferInstanceAs (Decidable (_ ∧ _))

/-- The status in an acknowledgement with this channel and sequence number, received by a socket
that takes frames of the data channel. -/
def Receipt.ack? (channel number : UInt8) (r : Receipt) : Option UInt8 :=
  match Frame.bodyIn? r.bytes with
  | some (.tunnelingAck header) =>
    if r.role.accepts .data ∧ header.channel = channel ∧ header.sequence = number then
      some header.status
    else none
  | _ => none

/-- What arrives for a socket of the world is received as this. -/
def World.receipt? (w : World) (a : Arrival) : Option Receipt :=
  (w.socket? a.socket).map fun s => ⟨s.role, s.address, a.source, a.bytes.take maxFrameSize⟩

namespace Journal

/-- What happened after each tunneling request, until the next one or until a phase is entered. -/
def windows : List Happening → List (List Happening)
  | [] => []
  | h :: later =>
    if h.tunneled?.isSome then later.takeWhile (·.Within) :: windows later else windows later

/-- The statuses of the acknowledgements received. -/
def acks (channel number : UInt8) (journal : List Happening) : List UInt8 :=
  (received journal).filterMap (Receipt.ack? channel number)

/-- What the network lets arrive for each tunneling request in the journal, after these attempts. -/
def scripts (n : Network) (earlier : List Attempt) : List Happening → List (List Arrival)
  | [] => []
  | h :: later =>
    (h.tunneled?.toList.map fun a => (n.react earlier a.sender a.socket a.datagram).arrivals) ++
      scripts n (earlier ++ h.attempt?.toList) later

end Journal
end KnxIp
