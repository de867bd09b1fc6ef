/-
  Decimal numerals of natural numbers.

  `decimal` writes the shortest numeral; `readDecimal` accepts an optional plus sign followed by
  one or more ASCII digits, so leading zeros are fine and a minus sign, a blank or an underscore
  is not. Reading a written numeral gives the number back (`readDecimal_digits`).
-/

namespace KnxIp.Text

/-- The digit with value `n % 10`. -/
def digitChar (n : Nat) : Char := Char.ofNat (48 + n % 10)

/-- The value of an ASCII digit. -/
def digitValue? (c : Char) : Option Nat :=
  if '0' ≤ c ∧ c ≤ '9' then some (c.toNat - 48) else none

theorem digitValue?_digitChar (n : Nat) : digitValue? (digitChar n) = some (n % 10) := by
  unfold digitChar
  have h : n % 10 < 10 := Nat.mod_lt _ (by decide)
  generalize n % 10 = d at h
  match d, h with
  | 0, _ | 1, _ | 2, _ | 3, _ | 4, _ | 5, _ | 6, _ | 7, _ | 8, _ | 9, _ => decide

theorem digitChar_ne_plus (n : Nat) : digitChar n ≠ '+' := by
  intro h
  have := digitValue?_digitChar n
  rw [h] at this
  simp [digitValue?] at this

/-- The digits of `n`, most significant first. -/
def digits (n : Nat) : List Char :=
  if n < 10 then [digitChar n] else digits (n / 10) ++ [digitChar n]
termination_by n

/-- The numeral of `n`. -/
def decimal (n : Nat) : String := String.ofList (digits n)

/-- The value of a run of digits read behind the digits of `acc`. -/
def readDigits (acc : Nat) : List Char → Option Nat
  | [] => some acc
  | c :: cs => do readDigits (acc * 10 + (← digitValue? c)) cs

/-- The value of one or more ASCII digits. -/
def readUnsigned (cs : List Char) : Option Nat :=
  if cs = [] then none else readDigits 0 cs

/-- The value of a numeral: an optional plus sign and one or more ASCII digits. -/
def readDecimal : List Char → Option Nat
  | '+' :: cs => readUnsigned cs
  | cs => readUnsigned cs

/-- The value of a numeral that is at most `bound`. -/
def readBounded (bound : Nat) (cs : List Char) : Option Nat :=
  (readDecimal cs).filter (· ≤ bound)

theorem readDigits_append (acc : Nat) (xs ys : List Char) :
    readDigits acc (xs ++ ys) = (readDigits acc xs).bind (readDigits · ys) := by
  induction xs generalizing acc with
  | nil => rfl
  | cons c xs ih =>
    simp only [List.cons_append, readDigits]
    cases digitValue? c with
    | none => rfl
    | some d => exact ih _

theorem readDigits_digits (n : Nat) : readDigits 0 (digits n) = some n := by
  fun_induction digits n with
  | case1 n h => simp [readDigits, digitValue?_digitChar, Nat.mod_eq_of_lt h]
  | case2 n h ih =>
    rw [readDigits_append, ih]
    simp [readDigits, digitValue?_digitChar]
    omega

theorem digits_ne_nil (n : Nat) : digits n ≠ [] := by
  unfold digits; split <;> simp

/-- A numeral begins with a digit. -/
theorem exists_digits_eq_cons (n : Nat) : ∃ m cs, digits n = digitChar m :: cs := by
  fun_induction digits n with
  | case1 n h => exact ⟨n, [], rfl⟩
  | case2 n h ih =>
    obtain ⟨m, cs, e⟩ := ih
    exact ⟨m, cs ++ [digitChar n], by rw [e]; rfl⟩

/-- Reading a written numeral gives the number back. -/
theorem readDecimal_digits (n : Nat) : readDecimal (digits n) = some n := by
  obtain ⟨m, cs, e⟩ := exists_digits_eq_cons n
  have h : readDecimal (digits n) = readUnsigned (digits n) := by
    rw [e]
    unfold readDecimal
    split
    · rename_i heq
      exact absurd (List.cons.inj heq).1 (digitChar_ne_plus m)
    · rfl
  rw [h, readUnsigned, if_neg (digits_ne_nil n), readDigits_digits]

end KnxIp.Text
