/-
  Scripted networks: the next datagrams are refused, or answered from a list.
-/
import KnxIp.Network.Basic

namespace KnxIp

/-- A script for the datagrams to come. -/
structure Script where
  /-- Datagrams are refused until so many have been handed over in all. -/
  refuseUntil : Nat
  /-- So many datagrams had been handed over when the script began. -/
  first : Nat
  /-- What comes back for each datagram of a caller that is taken: the octets of the replies, which
  come from where the datagram went. -/
  replies : List (List Bytes)
deriving DecidableEq, Repr

namespace Script

/-- The reason for a refusal. -/
def refused : TransportFault := ⟨.socket, "send refused"⟩

/-- How many datagrams of callers were taken since the script began. -/
def taken (s : Script) (earlier : List Attempt) : Nat :=
  ((earlier.drop s.first).filter fun a => a.sender = .caller ∧ a.refused = false).length

/-- The reaction to a datagram. What a socket sends in reply is not answered. -/
def react (s : Script) (earlier : List Attempt) (sender : Sender) (socket : Endpoint)
    (d : Datagram) : Reaction :=
  if earlier.length < s.refuseUntil then ⟨some refused, []⟩
  else match sender with
    | .receiver => .silence
    | .caller =>
      ⟨none, ((s.replies[s.taken earlier]?).getD []).map fun bytes =>
        ⟨socket, d.destination, bytes⟩⟩

/-- The network that follows a script. -/
def network (s : Script) : Network := { Network.quiet with react := s.react }

end Script
end KnxIp
