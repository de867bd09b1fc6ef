/-
  Application layer protocol control information: which service of the application layer a
  telegram carries.

  The code has ten bits: two in the transport octet, eight in the application octet. Most
  services use the upper four bits only, and the lower six are free; the codes that begin with
  `0x2C0` and `0x3C0` are extended, and all ten bits count. An extended code without a name of
  its own is `unassigned`.
-/
import KnxIp.Text.Decimal

namespace KnxIp

open Text

/-- The services of the application layer. -/
inductive Apci
  | groupValueRead
  | groupValueResponse
  | groupValueWrite
  | individualAddressWrite
  | individualAddressRead
  | individualAddressResponse
  | adcRead
  | adcResponse
  | memoryRead
  | memoryResponse
  | memoryWrite
  | deviceDescriptorRead
  | deviceDescriptorResponse
  | restart
  | userMemoryRead
  | userMemoryResponse
  | userMemoryWrite
  | userManufacturerInfoRead
  | userManufacturerInfoResponse
  | functionPropertyCommand
  | functionPropertyStateRead
  | functionPropertyStateResponse
  | memoryBitWrite
  | authorizeRequest
  | authorizeResponse
  | keyWrite
  | keyResponse
  | propertyValueRead
  | propertyValueResponse
  | propertyValueWrite
  | propertyDescriptionRead
  | propertyDescriptionResponse
  | networkParameterRead
  | networkParameterResponse
  | individualAddressSerialNumberRead
  | individualAddressSerialNumberResponse
  | individualAddressSerialNumberWrite
  | domainAddressWrite
  | domainAddressRead
  | domainAddressResponse
  | domainAddressSelectiveRead
  | networkParameterWrite
  | linkRead
  | linkResponse
  | linkWrite
  /-- A code without a name of its own. -/
  | unassigned (code : UInt16)
deriving DecidableEq, Repr

namespace Apci

/-- The services with a name. -/
def named : List Apci :=
  [groupValueRead, groupValueResponse, groupValueWrite, individualAddressWrite,
   individualAddressRead, individualAddressResponse, adcRead, adcResponse, memoryRead,
   memoryResponse, memoryWrite, deviceDescriptorRead, deviceDescriptorResponse, restart,
   userMemoryRead, userMemoryResponse, userMemoryWrite, userManufacturerInfoRead,
   userManufacturerInfoResponse, functionPropertyCommand, functionPropertyStateRead,
   functionPropertyStateResponse, memoryBitWrite, authorizeRequest, authorizeResponse, keyWrite,
   keyResponse, propertyValueRead, propertyValueResponse, propertyValueWrite,
   propertyDescriptionRead, propertyDescriptionResponse, networkParameterRead,
   networkParameterResponse, individualAddressSerialNumberRead,
   individualAddressSerialNumberResponse, individualAddressSerialNumberWrite, domainAddressWrite,
   domainAddressRead, domainAddressResponse, domainAddressSelectiveRead, networkParameterWrite,
   linkRead, linkResponse, linkWrite]

/-- The ten-bit code of a service. -/
def code : Apci → UInt16
  | groupValueRead => 0x000
  | groupValueResponse => 0x040
  | groupValueWrite => 0x080
  | individualAddressWrite => 0x0C0
  | individualAddressRead => 0x100
  | individualAddressResponse => 0x140
  | adcRead => 0x180
  | adcResponse => 0x1C0
  | memoryRead => 0x200
  | memoryResponse => 0x240
  | memoryWrite => 0x280
  | deviceDescriptorRead => 0x300
  | deviceDescriptorResponse => 0x340
  | restart => 0x380
  | userMemoryRead => 0x2C0
  | userMemoryResponse => 0x2C1
  | userMemoryWrite => 0x2C2
  | userManufacturerInfoRead => 0x2C5
  | userManufacturerInfoResponse => 0x2C6
  | functionPropertyCommand => 0x2C7
  | functionPropertyStateRead => 0x2C8
  | functionPropertyStateResponse => 0x2C9
  | memoryBitWrite => 0x3D0
  | authorizeRequest => 0x3D1
  | authorizeResponse => 0x3D2
  | keyWrite => 0x3D3
  | keyResponse => 0x3D4
  | propertyValueRead => 0x3D5
  | propertyValueResponse => 0x3D6
  | propertyValueWrite => 0x3D7
  | propertyDescriptionRead => 0x3D8
  | propertyDescriptionResponse => 0x3D9
  | networkParameterRead => 0x3DA
  | networkParameterResponse => 0x3DB
  | individualAddressSerialNumberRead => 0x3DC
  | individualAddressSerialNumberResponse => 0x3DD
  | individualAddressSerialNumberWrite => 0x3DE
  | domainAddressWrite => 0x3E0
  | domainAddressRead => 0x3E1
  | domainAddressResponse => 0x3E2
  | domainAddressSelectiveRead => 0x3E3
  | networkParameterWrite => 0x3E4
  | linkRead => 0x3E5
  | linkResponse => 0x3E6
  | linkWrite => 0x3E7
  | unassigned code => code % 1024

/-- Whether all ten bits of a code count. -/
def isExtendedCode (code : UInt16) : Bool :=
  code % 1024 / 64 = 0x2C0 / 64 ∨ code % 1024 / 64 = 0x3C0 / 64

/-- The bits of a code that count: all ten of an extended one, else the upper four. -/
def significant (code : UInt16) : UInt16 :=
  if isExtendedCode code then code % 1024 else code % 1024 / 64 * 64

/-- The service with a code. -/
def ofCode (code : UInt16) : Apci :=
  (named.find? (·.code = significant code)).getD (unassigned (code % 1024))

/-- The service whose code is spread over the transport octet and the application octet. -/
def ofOctets (transport application : UInt8) : Apci :=
  ofCode (transport.toUInt16 % 4 * 256 + application.toUInt16)

/-- The code uses all ten bits and leaves no room for a value. -/
def isExtended (a : Apci) : Bool := isExtendedCode a.code

/-- The service carries a value of the addressed datapoint. Such a value may stand in the lower
six bits of the application octet. -/
def carriesValue (a : Apci) : Bool := a = groupValueWrite ∨ a = groupValueResponse

/-- A service that its own code leads back to: every one with a name, and the unassigned codes
that are extended ten-bit codes without a name. -/
def Canonical (a : Apci) : Prop := ofCode a.code = a

instance (a : Apci) : Decidable a.Canonical := inferInstanceAs (Decidable (_ = _))

/-- Every service with a name is canonical. -/
theorem canonical_of_mem_named {a : Apci} (h : a ∈ named) : a.Canonical := by
  revert a; decide

theorem mod_mod_code (code : UInt16) : code % 1024 % 1024 = code % 1024 := by
  apply UInt16.toNat_inj.mp
  simp only [UInt16.toNat_mod, UInt16.reduceToNat]
  omega

theorem significant_mod (code : UInt16) : significant (code % 1024) = significant code := by
  have h : isExtendedCode (code % 1024) = isExtendedCode code := by
    simp only [isExtendedCode, mod_mod_code]
  simp only [significant, h, mod_mod_code]

/-- What a code leads to is canonical. -/
theorem canonical_ofCode (code : UInt16) : (ofCode code).Canonical := by
  unfold ofCode
  cases h : named.find? (·.code = significant code) with
  | some a => exact canonical_of_mem_named (List.mem_of_find?_eq_some h)
  | none =>
    have e : (unassigned (code % 1024)).code = code % 1024 := mod_mod_code code
    unfold Canonical
    rw [Option.getD_none, e]
    unfold ofCode
    rw [significant_mod, h, mod_mod_code]
    rfl

/-- The name of a service. -/
def name : Apci → String
  | groupValueRead => "GroupValueRead"
  | groupValueResponse => "GroupValueResponse"
  | groupValueWrite => "GroupValueWrite"
  | individualAddressWrite => "IndividualAddressWrite"
  | individualAddressRead => "IndividualAddressRead"
  | individualAddressResponse => "IndividualAddressResponse"
  | adcRead => "AdcRead"
  | adcResponse => "AdcResponse"
  | memoryRead => "MemoryRead"
  | memoryResponse => "MemoryResponse"
  | memoryWrite => "MemoryWrite"
  | deviceDescriptorRead => "DeviceDescriptorRead"
  | deviceDescriptorResponse => "DeviceDescriptorResponse"
  | restart => "Restart"
  | userMemoryRead => "UserMemoryRead"
  | userMemoryResponse => "UserMemoryResponse"
  | userMemoryWrite => "UserMemoryWrite"
  | userManufacturerInfoRead => "UserManufacturerInfoRead"
  | userManufacturerInfoResponse => "UserManufacturerInfoResponse"
  | functionPropertyCommand => "FunctionPropertyCommand"
  | functionPropertyStateRead => "FunctionPropertyStateRead"
  | functionPropertyStateResponse => "FunctionPropertyStateResponse"
  | memoryBitWrite => "MemoryBitWrite"
  | authorizeRequest => "AuthorizeRequest"
  | authorizeResponse => "AuthorizeResponse"
  | keyWrite => "KeyWrite"
  | keyResponse => "KeyResponse"
  | propertyValueRead => "PropertyValueRead"
  | propertyValueResponse => "PropertyValueResponse"
  | propertyValueWrite => "PropertyValueWrite"
  | propertyDescriptionRead => "PropertyDescriptionRead"
  | propertyDescriptionResponse => "PropertyDescriptionResponse"
  | networkParameterRead => "NetworkParameterRead"
  | networkParameterResponse => "NetworkParameterResponse"
  | individualAddressSerialNumberRead => "IndividualAddressSerialNumberRead"
  | individualAddressSerialNumberResponse => "IndividualAddressSerialNumberResponse"
  | individualAddressSerialNumberWrite => "IndividualAddressSerialNumberWrite"
  | domainAddressWrite => "DomainAddressWrite"
  | domainAddressRead => "DomainAddressRead"
  | domainAddressResponse => "DomainAddressResponse"
  | domainAddressSelectiveRead => "DomainAddressSelectiveRead"
  | networkParameterWrite => "NetworkParameterWrite"
  | linkRead => "LinkRead"
  | linkResponse => "LinkResponse"
  | linkWrite => "LinkWrite"
  | unassigned code => "Unknown(" ++ decimal code.toNat ++ ")"

end Apci
end KnxIp
