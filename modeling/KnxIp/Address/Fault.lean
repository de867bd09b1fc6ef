/-
  What can be wrong with an address.
-/

namespace KnxIp

/-- The faults of addresses. -/
inductive AddressFault
  /-- The text is not an individual address. -/
  | invalidIndividual
  /-- The text is not a group address. -/
  | invalidGroup
  /-- A component is too large for its place. -/
  | outOfRange
deriving DecidableEq, Repr

/-- The name of an address fault. -/
def AddressFault.name : AddressFault → String
  | invalidIndividual => "InvalidIndividualAddress"
  | invalidGroup => "InvalidGroupAddress"
  | outOfRange => "OutOfRange"

end KnxIp
