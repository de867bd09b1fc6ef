/-
  Endpoints: an IPv4 address with a UDP port.

  In text, an octet has at most three digits and no leading zero, while a port may have leading
  zeros; neither takes a sign. On the wire an endpoint is a block of eight octets, the host
  protocol address information, that begins with its length and the code of UDP.
-/
import KnxIp.Fault

namespace KnxIp

open Text

/-- An IPv4 address. -/
structure Ipv4 where
  a : UInt8
  b : UInt8
  c : UInt8
  d : UInt8
deriving DecidableEq, Repr, Inhabited

namespace Ipv4

/-- The address `0.0.0.0`. -/
def unspecified : Ipv4 := ⟨0, 0, 0, 0⟩

/-- The address `127.0.0.1` of the host itself. -/
def loopback : Ipv4 := ⟨127, 0, 0, 1⟩

/-- Multicast groups have addresses from `224.0.0.0` to `239.255.255.255`. -/
def isMulticast (ip : Ipv4) : Bool := 224 ≤ ip.a && ip.a < 240

/-- The octets of an address. -/
def bytes (ip : Ipv4) : Bytes := [ip.a, ip.b, ip.c, ip.d]

/-- The dotted notation. -/
def text (ip : Ipv4) : String :=
  decimal ip.a.toNat ++ "." ++ decimal ip.b.toNat ++ "." ++ decimal ip.c.toNat ++ "." ++
    decimal ip.d.toNat

/-- Reads an octet: one to three digits, no leading zero, at most 255. -/
def readOctet (cs : List Char) : Option UInt8 :=
  if 3 < cs.length ∨ (1 < cs.length ∧ cs.head? = some '0') then none
  else (readUnsigned cs).bind fun n => if n ≤ 255 then some n.toUInt8 else none

/-- Reads the dotted notation. -/
def ofChars (cs : List Char) : Option Ipv4 :=
  match (split '.' cs).map readOctet with
  | [some a, some b, some c, some d] => some ⟨a, b, c, d⟩
  | _ => none

/-- Reads the dotted notation. -/
def ofText (text : String) : Option Ipv4 := ofChars text.toList

end Ipv4

/-- An address and a port. -/
structure Endpoint where
  ip : Ipv4
  port : UInt16
deriving DecidableEq, Repr, Inhabited

namespace Endpoint

/-- The endpoint `0.0.0.0:0`, which asks the peer to answer to where a datagram came from. -/
def unspecified : Endpoint := ⟨.unspecified, 0⟩

/-- Whether this is `0.0.0.0:0`. -/
def isUnspecified (e : Endpoint) : Bool := e = unspecified

/-- The notation with a colon before the port. -/
def text (e : Endpoint) : String := e.ip.text ++ ":" ++ decimal e.port.toNat

/-- Reads the notation with a colon before the port. -/
def ofChars (cs : List Char) : Option Endpoint :=
  match split ':' cs with
  | [ip, port] => do
    let ip ← Ipv4.ofChars ip
    let port ← readUnsigned port
    if port ≤ 65535 then some ⟨ip, port.toUInt16⟩ else none
  | _ => none

/-- Reads the notation with a colon before the port. -/
def ofText (text : String) : Option Endpoint := ofChars text.toList

/-- Where to send a reply: to the endpoint itself, or to `fallback` if its address or its port is
zero. -/
def replyTo (e fallback : Endpoint) : Endpoint :=
  if e.ip = .unspecified ∨ e.port = 0 then fallback else e

/-- How many octets the block of an endpoint takes. -/
def size : Nat := 8

/-- The block of an endpoint: length, UDP, address, port. -/
def bytes (e : Endpoint) : Bytes := [8, 1] ++ e.ip.bytes ++ wordBytes e.port

/-- The block in at most `room` octets. -/
def encode (e : Endpoint) (room : Nat) : Except FramingFault Bytes :=
  if room < size then .error .bufferTooSmall else .ok e.bytes

/-- Reads the block at the front. -/
def parse : Bytes → Except FramingFault Endpoint
  | length :: protocol :: a :: b :: c :: d :: p1 :: p0 :: _ =>
    if length ≠ 8 ∨ protocol ≠ 1 then .error .invalidStructure
    else .ok ⟨⟨a, b, c, d⟩, word p1 p0⟩
  | _ => .error .bufferTooSmall

theorem length_bytes (e : Endpoint) : e.bytes.length = size := rfl

theorem parse_of_short {bs : Bytes} (short : bs.length < size) :
    parse bs = .error .bufferTooSmall := by
  unfold parse
  split
  · simp only [List.length_cons, size] at short
    omega
  · rfl

/-- Behind an endpoint that was read there may be more octets, but not fewer. -/
theorem size_le_of_parse {bs : Bytes} {e : Endpoint} (h : parse bs = .ok e) : size ≤ bs.length := by
  apply Nat.le_of_not_lt
  intro short
  rw [parse_of_short short] at h
  cases h

/-- Reading a written block gives the endpoint back, whatever follows. -/
theorem parse_bytes_append (e : Endpoint) (rest : Bytes) : parse (e.bytes ++ rest) = .ok e := by
  simp [bytes, Ipv4.bytes, wordBytes, parse]

end Endpoint
end KnxIp
