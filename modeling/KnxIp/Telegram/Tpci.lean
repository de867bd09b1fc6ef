/-
  Transport layer protocol control information: the upper six bits of the transport octet.

  Bits 7 and 6 tell the kind of packet, bits 5 to 2 hold the sequence number of a numbered one,
  and a control packet has its control code in bits 1 and 0. A value may name numbers that do
  not fit; `validate` tells them, and an octet never yields one (`inRange_ofOctet`).
-/
import KnxIp.Fault

namespace KnxIp

open Text

/-- The kind of a packet of the transport layer. -/
inductive Tpci
  | unnumberedData
  | numberedData (sequence : UInt8)
  | unnumberedControl (control : UInt8)
  | numberedControl (sequence control : UInt8)
deriving DecidableEq, Repr

namespace Tpci

/-- A sequence number of the transport layer is at most 15. -/
def checkSequence (n : UInt8) : Except ValueFault Unit :=
  if 15 < n then .error (.transportSequence n) else .ok ()

/-- A control code is at most 3. -/
def checkControl (n : UInt8) : Except ValueFault Unit :=
  if 3 < n then .error (.transportControl n) else .ok ()

/-- Whether all numbers fit; the sequence number is looked at first. -/
def validate : Tpci → Except ValueFault Unit
  | unnumberedData => .ok ()
  | numberedData s => checkSequence s
  | unnumberedControl c => checkControl c
  | numberedControl s c => do checkSequence s; checkControl c

/-- The packet kind if all its numbers fit. -/
def checked (t : Tpci) : Except ValueFault Tpci := t.validate.map fun _ => t

/-- All numbers fit into their bits. -/
def InRange : Tpci → Prop
  | unnumberedData => True
  | numberedData s => s.toNat ≤ 15
  | unnumberedControl c => c.toNat ≤ 3
  | numberedControl s c => s.toNat ≤ 15 ∧ c.toNat ≤ 3

theorem checkSequence_eq_ok_iff {n : UInt8} : checkSequence n = .ok () ↔ n.toNat ≤ 15 := by
  unfold checkSequence
  split <;> rename_i h <;> simp only [UInt8.lt_iff_toNat_lt, UInt8.reduceToNat] at h <;>
    simp <;> omega

theorem checkControl_eq_ok_iff {n : UInt8} : checkControl n = .ok () ↔ n.toNat ≤ 3 := by
  unfold checkControl
  split <;> rename_i h <;> simp only [UInt8.lt_iff_toNat_lt, UInt8.reduceToNat] at h <;>
    simp <;> omega

/-- Validation succeeds exactly for the packet kinds whose numbers fit. -/
theorem validate_eq_ok_iff {t : Tpci} : t.validate = .ok () ↔ t.InRange := by
  cases t with
  | unnumberedData => simp [validate, InRange]
  | numberedData s => exact checkSequence_eq_ok_iff
  | unnumberedControl c => exact checkControl_eq_ok_iff
  | numberedControl s c =>
    simp only [validate, InRange]
    cases h : checkSequence s with
    | error e =>
      have : ¬ s.toNat ≤ 15 := fun hs => by simp [checkSequence_eq_ok_iff.mpr hs] at h
      simp [bind, Except.bind, this]
    | ok u =>
      have : s.toNat ≤ 15 := checkSequence_eq_ok_iff.mp h
      simp [bind, Except.bind, this, checkControl_eq_ok_iff]

/-- The packet kind in a transport octet. -/
def ofOctet (b : UInt8) : Tpci :=
  match b / 64 with
  | 0 => unnumberedData
  | 1 => numberedData (b / 4 % 16)
  | 2 => unnumberedControl (b % 4)
  | _ => numberedControl (b / 4 % 16) (b % 4)

/-- The transport octet, with zeros where the application bits go. Numbers are cut to their
bits. -/
def octet : Tpci → UInt8
  | unnumberedData => 0
  | numberedData s => 64 + s % 16 * 4
  | unnumberedControl c => 128 + c % 4
  | numberedControl s c => 192 + s % 16 * 4 + c % 4

/-- Data packets carry an application service, control packets do not. -/
def isData : Tpci → Bool
  | unnumberedData | numberedData _ => true
  | unnumberedControl _ | numberedControl _ _ => false

/-- What an octet holds always fits. -/
theorem inRange_ofOctet (b : UInt8) : (ofOctet b).InRange := by
  have h4 : (b % 4).toNat ≤ 3 := by
    rw [UInt8.toNat_mod]; simp only [UInt8.reduceToNat]; omega
  have h16 : (b / 4 % 16).toNat ≤ 15 := by
    rw [UInt8.toNat_mod]; simp only [UInt8.reduceToNat]; omega
  unfold ofOctet
  split
  · trivial
  · exact h16
  · exact h4
  · exact ⟨h16, h4⟩

/-- The two top bits of a data packet are not those of a control packet. -/
theorem isData_ofOctet (b : UInt8) : (ofOctet b).isData = decide (b.toNat < 128) := by
  have h : (b / 64).toNat = b.toNat / 64 := by rw [UInt8.toNat_div]; rfl
  have lt := b.toNat_lt
  unfold ofOctet
  split
  · rename_i e; rw [e] at h; simp only [isData, UInt8.reduceToNat] at *; simp; omega
  · rename_i e; rw [e] at h; simp only [isData, UInt8.reduceToNat] at *; simp; omega
  · rename_i e; rw [e] at h; simp only [isData, UInt8.reduceToNat] at *; simp; omega
  · rename_i h0 h1 h2
    have : (b / 64).toNat ≠ 0 := fun e => h0 (UInt8.toNat_inj.mp (by simpa using e))
    have : (b / 64).toNat ≠ 1 := fun e => h1 (UInt8.toNat_inj.mp (by simpa using e))
    simp only [isData]; simp; omega

/-- The packet kind written out. -/
def text : Tpci → String
  | unnumberedData => "UnnumberedData"
  | numberedData s => "NumberedData \x7b sequence: " ++ decimal s.toNat ++ " \x7d"
  | unnumberedControl c => "UnnumberedControl \x7b control: " ++ decimal c.toNat ++ " \x7d"
  | numberedControl s c =>
    "NumberedControl \x7b sequence: " ++ decimal s.toNat ++ ", control: " ++ decimal c.toNat ++
      " \x7d"

end Tpci
end KnxIp
