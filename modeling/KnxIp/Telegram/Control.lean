/-
  The first octets of a telegram: message code, priority and the two control fields.

  A control field is kept as its octet; its parts are read off it. Control field 1 holds, from
  the top: standard frame, reserved, do not repeat, broadcast, priority (two bits), acknowledge
  requested, error. Control field 2 holds: group destination, hop count (three bits), extended
  frame format (four bits).
-/
import KnxIp.Fault

namespace KnxIp

/-- What a telegram is to the data link layer. -/
inductive MessageCode
  /-- A request to send. -/
  | request
  /-- The confirmation of a request. -/
  | confirmation
  /-- A telegram received from the bus. -/
  | indication
deriving DecidableEq, Repr

namespace MessageCode

/-- Every message code. -/
def all : List MessageCode := [request, confirmation, indication]

/-- The octet of a message code. -/
def code : MessageCode → UInt8
  | request => 0x11
  | confirmation => 0x2E
  | indication => 0x29

/-- The message code of an octet. -/
def ofCode : UInt8 → Option MessageCode
  | 0x11 => some request
  | 0x2E => some confirmation
  | 0x29 => some indication
  | _ => none

theorem ofCode_code (m : MessageCode) : ofCode m.code = some m := by cases m <;> rfl

theorem code_of_ofCode {c : UInt8} {m : MessageCode} (h : ofCode c = some m) : m.code = c := by
  unfold ofCode at h
  split at h <;> simp_all <;> subst h <;> rfl

/-- The name of a message code. -/
def name : MessageCode → String
  | request => "LDataReq"
  | confirmation => "LDataCon"
  | indication => "LDataInd"

end MessageCode

/-- The priority of a telegram on the bus. -/
inductive Priority
  | system
  | normal
  | urgent
  | low
deriving DecidableEq, Repr

namespace Priority

/-- Every priority, ascending by its bits. -/
def all : List Priority := [system, normal, urgent, low]

/-- A telegram has normal priority unless it says otherwise. -/
def standard : Priority := normal

/-- The two bits of a priority. -/
def bits : Priority → UInt8
  | system => 0
  | normal => 1
  | urgent => 2
  | low => 3

/-- The priority of the two lowest bits of an octet. -/
def ofBits (b : UInt8) : Priority :=
  match b % 4 with
  | 0 => system
  | 1 => normal
  | 2 => urgent
  | _ => low

/-- The name of a priority. -/
def name : Priority → String
  | system => "System"
  | normal => "Normal"
  | urgent => "Urgent"
  | low => "Low"

end Priority

/-- Whether the bit with weight `weight`, a power of two, is set in an octet. -/
def bitSet (octet weight : UInt8) : Bool := octet / weight % 2 = 1

/-- Control field 1. -/
structure Control1 where
  raw : UInt8
deriving DecidableEq, Repr, Inhabited

namespace Control1

/-- Standard frame, repetition allowed, broadcast, normal priority. -/
def standard : Control1 := ⟨0x94⟩

/-- The frame has the standard format. -/
def isStandard (c : Control1) : Bool := bitSet c.raw 128

/-- The frame is not repeated on the bus. -/
def doNotRepeat (c : Control1) : Bool := bitSet c.raw 32

/-- The frame is a broadcast, not a system broadcast. -/
def isBroadcast (c : Control1) : Bool := bitSet c.raw 16

/-- The priority on the bus. -/
def priority (c : Control1) : Priority := .ofBits (c.raw / 4)

/-- An acknowledgement is requested. -/
def ackRequested (c : Control1) : Bool := bitSet c.raw 2

/-- A confirmation that reports a failed transmission. -/
def hasError (c : Control1) : Bool := bitSet c.raw 1

/-- The field with these parts. -/
def ofParts (isStandard doNotRepeat isBroadcast : Bool) (priority : Priority)
    (ackRequested hasError : Bool) : Control1 :=
  let bit (b : Bool) (weight : UInt8) : UInt8 := if b then weight else 0
  ⟨bit isStandard 128 + bit doNotRepeat 32 + bit isBroadcast 16 + priority.bits * 4 +
    bit ackRequested 2 + bit hasError 1⟩

end Control1

/-- Control field 2. -/
structure Control2 where
  raw : UInt8
deriving DecidableEq, Repr, Inhabited

namespace Control2

/-- Group destination, hop count 6, standard format. -/
def standard : Control2 := ⟨0xE0⟩

/-- The destination is a group address. -/
def isGroup (c : Control2) : Bool := bitSet c.raw 128

/-- How many couplers the telegram may still pass. -/
def hopCount (c : Control2) : UInt8 := c.raw / 16 % 8

/-- The extended frame format; 0 is the standard one. -/
def frameFormat (c : Control2) : UInt8 := c.raw % 16

/-- The field with these parts: hop count at most 7, frame format at most 15. -/
def ofParts (isGroup : Bool) (hopCount frameFormat : UInt8) : Except ValueFault Control2 :=
  if 7 < hopCount then .error (.hopCount hopCount)
  else if 15 < frameFormat then .error (.frameFormat frameFormat)
  else .ok ⟨(if isGroup then 128 else 0) + hopCount * 16 + frameFormat⟩

/-- Hop count 6, standard format and the address type of a destination. -/
def forDestination (d : Destination) : Control2 := if d.isGroup then ⟨0xE0⟩ else ⟨0x60⟩

theorem isGroup_forDestination (d : Destination) : (forDestination d).isGroup = d.isGroup := by
  unfold forDestination
  cases d.isGroup <;> decide

end Control2
end KnxIp
