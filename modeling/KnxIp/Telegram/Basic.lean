/-
  Telegrams: what travels on the bus, in the common external message format.

  A `Content` is the list of fields; a `Telegram` is a content whose fields fit together
  (`WellFormed`), which is what makes every telegram readable again after it was written. A
  single value octet below 64 is written into the application octet (`isInline`); anything else
  follows it.
-/
import KnxIp.Bounded
import KnxIp.Telegram.Apci
import KnxIp.Telegram.Control
import KnxIp.Telegram.Tpci

namespace KnxIp

open Text

/-- The most octets of additional information. -/
def maxAdditionalInfo : Nat := 64

/-- The most octets of application data. -/
def maxApplicationData : Nat := 254

namespace Telegram

/-- The fields of a telegram. -/
structure Content where
  messageCode : MessageCode
  info : AtMost maxAdditionalInfo
  control1 : Control1
  control2 : Control2
  source : IndividualAddress
  destination : Destination
  tpci : Tpci
  apci : Option Apci
  data : AtMost maxApplicationData
deriving DecidableEq, Repr

/-- The fields fit together: the address-type bit tells the kind of the destination, the
transport numbers are in range, exactly the data packets have a service, that service is one its
code leads back to, a control packet has no data, and a value is never empty. -/
structure Content.WellFormed (c : Content) : Prop where
  addressType : c.control2.isGroup = c.destination.isGroup
  tpci_inRange : c.tpci.InRange
  service : c.apci.isSome = c.tpci.isData
  canonical : ∀ a ∈ c.apci, a.Canonical
  no_data : c.apci = none → c.data.val = []
  value_nonempty : ∀ a ∈ c.apci, a.carriesValue = true → c.data.val ≠ []

end Telegram

/-- A telegram: fields that fit together. -/
structure Telegram extends Telegram.Content where
  wellFormed : toContent.WellFormed
deriving DecidableEq

namespace Telegram

namespace Content

/-- The value stands in the lower six bits of the application octet. -/
def isInline (c : Content) : Bool :=
  c.apci.any Apci.carriesValue &&
    match c.data.val with
    | [b] => b < 64
    | _ => false

/-- How many octets follow the transport octet. -/
def npduLength (c : Content) : UInt8 :=
  match c.apci with
  | none => 0
  | some _ => if c.isInline then 1 else (1 + c.data.val.length).toUInt8

/-- How many octets the telegram takes. -/
def encodedLength (c : Content) : Nat := 10 + c.info.val.length + c.npduLength.toNat

/-- The telegram in one line: message code, source and destination, then the service with its
data, or the kind of control packet. -/
def text (c : Content) : String :=
  c.messageCode.name ++ " " ++ c.source.text ++ " -> " ++ c.destination.text ++ " " ++
    match c.apci with
    | some a => a.name ++ " " ++ octetList c.data.val
    | none => c.tpci.text

end Content

/-- The telegram with another message code. -/
def withMessageCode (t : Telegram) (messageCode : MessageCode) : Telegram :=
  ⟨{ t.toContent with messageCode }, ⟨t.wellFormed.addressType, t.wellFormed.tpci_inRange,
    t.wellFormed.service, t.wellFormed.canonical, t.wellFormed.no_data,
    t.wellFormed.value_nonempty⟩⟩

/-- The telegram with another source. -/
def withSource (t : Telegram) (source : IndividualAddress) : Telegram :=
  ⟨{ t.toContent with source }, ⟨t.wellFormed.addressType, t.wellFormed.tpci_inRange,
    t.wellFormed.service, t.wellFormed.canonical, t.wellFormed.no_data,
    t.wellFormed.value_nonempty⟩⟩

/-- The telegram carries a value of its destination. -/
def carriesValue (t : Telegram) : Bool := t.apci.any Apci.carriesValue

end Telegram
end KnxIp
