/-
  The transport octet and the application octet of a telegram.

  The transport octet has the packet kind in its upper six bits and, in a data packet, the upper
  two bits of the service code in the lower two. The application octet has the other eight bits
  of the code, or the upper two of them and a value below 64.

  Nothing overlaps, so what was put into the two octets is read back: the packet kind by
  `ofOctet_octet_add`, the service by `ofOctets_code`, and the service next to a value by
  `ofOctets_code_add`.
-/
import KnxIp.Telegram.Apci
import KnxIp.Telegram.Tpci

namespace KnxIp

/-! ## The packet kind -/

namespace Tpci

/-- An octet made of two, four and two bits falls apart into them. -/
theorem split_octet (b top middle low : UInt8)
    (h : b.toNat = 64 * top.toNat + 4 * middle.toNat + low.toNat)
    (hm : middle.toNat ≤ 15) (hl : low.toNat ≤ 3) :
    b / 64 = top ∧ b / 4 % 16 = middle ∧ b % 4 = low := by
  refine ⟨?_, ?_, ?_⟩ <;> apply UInt8.toNat_inj.mp <;>
    simp only [UInt8.toNat_div, UInt8.toNat_mod, UInt8.reduceToNat] <;> omega

/-- The packet kind is read back, whatever a data packet has in the lower two bits. -/
theorem ofOctet_octet_add {t : Tpci} (h : t.InRange) {x : UInt8} (small : x.toNat ≤ 3)
    (free : t.isData = true ∨ x = 0) : ofOctet (t.octet + x) = t := by
  cases t with
  | unnumberedData =>
    obtain ⟨top, -, -⟩ := split_octet (0 + x) 0 0 x
      (by simp only [UInt8.toNat_add, UInt8.reduceToNat]; omega) (by decide) small
    simp only [octet, ofOctet, top]
  | numberedData s =>
    have hs : s.toNat ≤ 15 := h
    obtain ⟨top, middle, -⟩ := split_octet (64 + s % 16 * 4 + x) 1 s x
      (by simp only [UInt8.toNat_add, UInt8.toNat_mul, UInt8.toNat_mod, UInt8.reduceToNat]
          omega) hs small
    simp only [octet, ofOctet, top, middle]
  | unnumberedControl c =>
    have hc : c.toNat ≤ 3 := h
    obtain rfl : x = 0 := by simpa [isData] using free
    obtain ⟨top, -, low⟩ := split_octet (128 + c % 4 + 0) 2 0 c
      (by simp only [UInt8.toNat_add, UInt8.toNat_mod, UInt8.reduceToNat]; omega) (by decide) hc
    simp only [octet, ofOctet, top, low]
  | numberedControl s c =>
    obtain ⟨hs, hc⟩ : s.toNat ≤ 15 ∧ c.toNat ≤ 3 := h
    obtain rfl : x = 0 := by simpa [isData] using free
    obtain ⟨top, middle, low⟩ := split_octet (192 + s % 16 * 4 + c % 4 + 0) 3 s c
      (by simp only [UInt8.toNat_add, UInt8.toNat_mul, UInt8.toNat_mod, UInt8.reduceToNat]
          omega) hs hc
    simp only [octet, ofOctet, top, middle, low]
    rfl

/-- A data packet leaves the lower two bits of its octet free. -/
theorem octet_add_mod {t : Tpci} (data : t.isData = true) {x : UInt8} (small : x.toNat ≤ 3) :
    (t.octet + x) % 4 = x := by
  apply UInt8.toNat_inj.mp
  cases t with
  | unnumberedData =>
    simp only [octet, UInt8.toNat_mod, UInt8.toNat_add, UInt8.reduceToNat]
    omega
  | numberedData s =>
    simp only [octet, UInt8.toNat_mod, UInt8.toNat_add, UInt8.toNat_mul, UInt8.reduceToNat]
    omega
  | unnumberedControl c => cases data
  | numberedControl s c => cases data

end Tpci

/-! ## The service -/

namespace Apci

theorem code_lt (a : Apci) : a.code.toNat < 1024 := by
  cases a with
  | unassigned c => simp only [code, UInt16.toNat_mod, UInt16.reduceToNat]; omega
  | _ => decide

theorem highOctet_code_le (a : Apci) : (highOctet a.code).toNat ≤ 3 := by
  have h := a.code_lt
  rw [toNat_highOctet]
  omega

/-- What stands below the upper four bits of a code that is not extended does not count. -/
theorem significant_add {c v : UInt16} (short : isExtendedCode c = false) (lt : c.toNat < 1024)
    (clear : c.toNat % 64 = 0) (small : v.toNat < 64) : significant (c + v) = c := by
  have top : (c + v) % 1024 / 64 = c % 1024 / 64 := by
    apply UInt16.toNat_inj.mp
    simp only [UInt16.toNat_add, UInt16.toNat_mod, UInt16.toNat_div, UInt16.reduceToNat]
    omega
  have short' : isExtendedCode (c + v) = false := by
    simpa only [isExtendedCode, top] using short
  unfold significant
  rw [if_neg (by simp [short']), top]
  apply UInt16.toNat_inj.mp
  simp only [UInt16.toNat_mul, UInt16.toNat_mod, UInt16.toNat_div, UInt16.reduceToNat]
  omega

/-- A code leads to the named service that has the bits that count. -/
theorem ofCode_of_significant {a : Apci} (h : a ∈ named) {c : UInt16}
    (hc : significant c = a.code) : ofCode c = a := by
  have find : ∀ b ∈ named, named.find? (·.code = b.code) = some b := by decide
  unfold ofCode
  rw [hc, find a h]
  rfl

theorem carriesValue_iff {a : Apci} :
    a.carriesValue = true ↔ a = groupValueWrite ∨ a = groupValueResponse := by
  simp [carriesValue]

/-- A value below 64 on top of the code of a service that carries one does not hide it. -/
theorem ofCode_code_add {a : Apci} (h : a.carriesValue = true) {v : UInt16}
    (small : v.toNat < 64) : ofCode (a.code + v) = a := by
  have code : a ∈ named ∧ isExtendedCode a.code = false ∧ a.code.toNat < 1024 ∧
      a.code.toNat % 64 = 0 := by
    obtain rfl | rfl := carriesValue_iff.mp h <;> decide
  obtain ⟨mem, short, lt, clear⟩ := code
  exact ofCode_of_significant mem (significant_add short lt clear small)

/-- The two octets join to the code plus what was added to the second one. -/
theorem ofOctets_eq_ofCode_add {a : Apci} {transport v : UInt8}
    (upper : transport % 4 = highOctet a.code) (fits : a.code.toNat % 256 + v.toNat < 256) :
    ofOctets transport (lowOctet a.code + v) = ofCode (a.code + v.toUInt16) := by
  have lt := a.code_lt
  have hu : transport.toNat % 4 = a.code.toNat / 256 := by
    have e := congrArg UInt8.toNat upper
    rw [toNat_highOctet, UInt8.toNat_mod] at e
    exact e
  unfold ofOctets
  congr 1
  apply UInt16.toNat_inj.mp
  simp only [UInt16.toNat_add, UInt16.toNat_mul, UInt16.toNat_mod, UInt8.toNat_toUInt16,
    UInt8.toNat_add, toNat_lowOctet, UInt16.reduceToNat]
  omega

/-- A service that its code leads back to is read back. -/
theorem ofOctets_code {a : Apci} (h : a.Canonical) {transport : UInt8}
    (upper : transport % 4 = highOctet a.code) :
    ofOctets transport (lowOctet a.code) = a := by
  have e := ofOctets_eq_ofCode_add (v := 0) upper
    (by simp only [UInt8.reduceToNat]; omega)
  rw [UInt8.add_zero] at e
  rw [e]
  show ofCode (a.code + 0) = a
  rw [UInt16.add_zero]
  exact h

/-- A service that carries a value is read back next to one below 64. -/
theorem ofOctets_code_add {a : Apci} (h : a.carriesValue = true) {transport v : UInt8}
    (upper : transport % 4 = highOctet a.code) (small : v.toNat < 64) :
    ofOctets transport (lowOctet a.code + v) = a := by
  have low : a.code.toNat % 256 + 64 ≤ 256 := by
    obtain rfl | rfl := carriesValue_iff.mp h <;> decide
  rw [ofOctets_eq_ofCode_add upper (by omega)]
  exact ofCode_code_add h (by simpa using small)

/-- The value next to such a service is read back too. -/
theorem lowOctet_code_add_mod {a : Apci} (h : a.carriesValue = true) {v : UInt8}
    (small : v.toNat < 64) : (lowOctet a.code + v) % 64 = v := by
  have low : a.code.toNat % 64 = 0 := by
    obtain rfl | rfl := carriesValue_iff.mp h <;> decide
  apply UInt8.toNat_inj.mp
  simp only [UInt8.toNat_mod, UInt8.toNat_add, toNat_lowOctet, UInt8.reduceToNat]
  omega

end Apci
end KnxIp
