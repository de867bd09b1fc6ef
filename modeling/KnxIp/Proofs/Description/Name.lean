/-
  Names of devices in their thirty octets.

  What is read from the octets of any name is its first thirty characters in ISO 8859-1, up to
  the first zero among them (`readName_nameBytes`). A name of at most thirty characters that are
  all in the alphabet and not zero is read back as it was (`readName_nameBytes_of_fits`), and
  whatever is read is such a name (`fits_readName`).
-/
import KnxIp.Description.Device

namespace KnxIp.DeviceInfo

/-- The character that stands for a character in ISO 8859-1. -/
def inLatin1 (c : Char) : Char := if c.toNat < 256 then c else '?'

/-- A name fits: at most thirty characters, all of them in ISO 8859-1 and none of them zero. -/
structure NameFits (name : String) : Prop where
  length_le : name.toList.length ≤ nameSize
  latin : ∀ c ∈ name.toList, 1 ≤ c.toNat ∧ c.toNat ≤ 0xFF

theorem toNat_ofNat_octet (b : UInt8) : (Char.ofNat b.toNat).toNat = b.toNat := by
  have lt := b.toNat_lt
  have valid : b.toNat.isValidChar := Or.inl (by omega)
  rw [Char.ofNat, dif_pos valid]
  rfl

/-- An octet of a name stands for its character. -/
theorem ofNat_latin1 (c : Char) : Char.ofNat (latin1 c).toNat = inLatin1 c := by
  unfold latin1 inLatin1
  split
  · rename_i h
    have e : c.toNat.toUInt8.toNat = c.toNat := by
      simp only [Nat.toUInt8_eq, UInt8.toNat_ofNat']
      omega
    rw [e, Char.ofNat_toNat]
  · rfl

theorem latin1_ne_zero_iff (c : Char) : latin1 c ≠ 0 ↔ inLatin1 c ≠ '\x00' := by
  rw [← ofNat_latin1]
  constructor
  · intro h e
    have z := congrArg Char.toNat e
    rw [toNat_ofNat_octet] at z
    exact h (UInt8.toNat_inj.mp z)
  · intro h e
    rw [e] at h
    exact h rfl

/-- The octets up to the first zero are those of the characters up to the first zero. -/
theorem takeWhile_latin1 (cs : List Char) (fill : Nat) :
    ((cs.map latin1 ++ List.replicate fill 0).takeWhile (· ≠ 0)).map
        (fun b : UInt8 => Char.ofNat b.toNat) =
      (cs.map inLatin1).takeWhile (· ≠ '\x00') := by
  induction cs with
  | nil => cases fill <;> simp [List.replicate_succ]
  | cons c cs ih =>
    simp only [List.map_cons, List.cons_append, List.takeWhile_cons, decide_eq_true_eq,
      latin1_ne_zero_iff]
    split
    · rw [List.map_cons, ih, ofNat_latin1]
    · rfl

/-- What is read from the octets of a name, whatever its characters are. -/
theorem readName_nameBytes (name : String) :
    readName (nameBytes name) =
      String.ofList (((name.toList.take nameSize).map inLatin1).takeWhile (· ≠ '\x00')) := by
  rw [readName, nameBytes, takeWhile_latin1]

theorem inLatin1_of_le {c : Char} (h : c.toNat ≤ 0xFF) : inLatin1 c = c :=
  if_pos (by omega)

/-- A name that fits is read back. -/
theorem readName_nameBytes_of_fits {name : String} (h : NameFits name) :
    readName (nameBytes name) = name := by
  have whole : name.toList.take nameSize = name.toList := List.take_of_length_le h.length_le
  have plain : name.toList.map inLatin1 = name.toList :=
    (List.map_congr_left fun c hc => inLatin1_of_le (h.latin c hc).2).trans (List.map_id _)
  have all : name.toList.takeWhile (· ≠ '\x00') = name.toList := by
    rw [← List.append_nil name.toList, List.takeWhile_append_of_pos]
    · simp
    · intro c hc
      have one := (h.latin c hc).1
      simp only [decide_eq_true_eq]
      rintro rfl
      exact absurd one (by decide)
  rw [readName_nameBytes, whole, plain, all, String.ofList_toList]

/-- A name that is read from at most thirty octets fits. -/
theorem fits_readName {octets : Bytes} (h : octets.length ≤ nameSize) :
    NameFits (readName octets) := by
  constructor
  · have le := (List.takeWhile_prefix (fun b : UInt8 => decide (b ≠ 0)) (l := octets)).length_le
    simp only [readName, String.toList_ofList, List.length_map]
    omega
  · intro c hc
    simp only [readName, String.toList_ofList, List.mem_map] at hc
    obtain ⟨b, hb, rfl⟩ := hc
    have pos : b.toNat ≠ 0 := by
      have nonzero := List.all_eq_true.mp List.all_takeWhile b hb
      intro z
      exact of_decide_eq_true nonzero (UInt8.toNat_inj.mp z)
    have lt := b.toNat_lt
    rw [toNat_ofNat_octet]
    omega

end KnxIp.DeviceInfo
