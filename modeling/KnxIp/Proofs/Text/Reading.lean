/-
  What the readers of texts accept.

  A numeral is one or more digits, perhaps with a plus sign in front, and stands for what the digits
  say in their places, so leading zeros do not matter (`readDecimal_eq_some_iff`). The parts of a
  text are the only texts without the separator that give it back when they are joined
  (`split_eq_iff`). A text is trimmed by taking away blanks in front and behind and nothing else
  (`exists_eq_append_trim`, `trim_append`).
-/
import KnxIp.Text.Blank
import KnxIp.Text.Decimal
import KnxIp.Text.Split

namespace KnxIp.Text

/-! ## Numerals -/

/-- A digit of ASCII. -/
def IsDigit (c : Char) : Prop := '0' ≤ c ∧ c ≤ '9'

/-- What digits behind those of `n` say in their places. -/
def placeValue (n : Nat) (ds : List Char) : Nat := ds.foldl (fun n c => n * 10 + (c.toNat - 48)) n

/-- The numerals of a number. -/
inductive Numeral : List Char → Nat → Prop
  | digits {ds : List Char} (nonempty : ds ≠ []) (all : ∀ c ∈ ds, IsDigit c) :
    Numeral ds (placeValue 0 ds)
  | plus {ds : List Char} (nonempty : ds ≠ []) (all : ∀ c ∈ ds, IsDigit c) :
    Numeral ('+' :: ds) (placeValue 0 ds)

theorem digitValue?_of_digit {c : Char} (digit : IsDigit c) :
    digitValue? c = some (c.toNat - 48) :=
  if_pos digit

theorem digitValue?_of_not_digit {c : Char} (other : ¬ IsDigit c) : digitValue? c = none :=
  if_neg other

theorem readDigits_eq_some_iff {acc n : Nat} {ds : List Char} :
    readDigits acc ds = some n ↔ (∀ c ∈ ds, IsDigit c) ∧ placeValue acc ds = n := by
  induction ds generalizing acc with
  | nil => simp [readDigits, placeValue]
  | cons c ds ih =>
    rw [List.forall_mem_cons, readDigits]
    by_cases digit : IsDigit c
    · rw [digitValue?_of_digit digit]
      refine ih.trans ?_
      rw [and_iff_right digit]
      rfl
    · rw [digitValue?_of_not_digit digit]
      exact iff_of_false (fun h => by cases h) fun h => digit h.1.1

theorem readUnsigned_eq_some_iff {n : Nat} {ds : List Char} :
    readUnsigned ds = some n ↔ ds ≠ [] ∧ (∀ c ∈ ds, IsDigit c) ∧ placeValue 0 ds = n := by
  unfold readUnsigned
  split
  · rename_i empty
    exact iff_of_false (fun h => by cases h) fun h => h.1 empty
  · rename_i nonempty
    rw [and_iff_right nonempty, readDigits_eq_some_iff]

theorem readDecimal_eq_some_iff {n : Nat} {cs : List Char} :
    readDecimal cs = some n ↔ Numeral cs n := by
  constructor
  · intro read
    unfold readDecimal at read
    split at read
    · obtain ⟨nonempty, all, rfl⟩ := readUnsigned_eq_some_iff.mp read
      exact .plus nonempty all
    · obtain ⟨nonempty, all, rfl⟩ := readUnsigned_eq_some_iff.mp read
      exact .digits nonempty all
  · intro numeral
    cases numeral with
    | plus nonempty all => exact readUnsigned_eq_some_iff.mpr ⟨nonempty, all, rfl⟩
    | digits nonempty all =>
      unfold readDecimal
      split
      · rename_i ds
        have digit : IsDigit '+' := all '+' List.mem_cons_self
        exact absurd digit (by unfold IsDigit; decide)
      · exact readUnsigned_eq_some_iff.mpr ⟨nonempty, all, rfl⟩

theorem readBounded_eq_some_iff {bound n : Nat} {cs : List Char} :
    readBounded bound cs = some n ↔ Numeral cs n ∧ n ≤ bound := by
  rw [readBounded, Option.filter_eq_some_iff, readDecimal_eq_some_iff, decide_eq_true_eq]

theorem numeral_digits (n : Nat) : Numeral (digits n) n :=
  readDecimal_eq_some_iff.mp (readDecimal_digits n)

theorem Numeral.mem {cs : List Char} {n : Nat} (numeral : Numeral cs n) {c : Char} (h : c ∈ cs) :
    IsDigit c ∨ c = '+' := by
  cases numeral with
  | digits _ all => exact .inl (all c h)
  | plus _ all =>
    obtain rfl | h := List.mem_cons.mp h
    · exact .inr rfl
    · exact .inl (all c h)

/-- Only digits and the plus sign stand in a numeral. -/
theorem Numeral.not_mem {cs : List Char} {n : Nat} (numeral : Numeral cs n) {c : Char}
    (other : ¬ IsDigit c) (signless : c ≠ '+') : c ∉ cs :=
  fun h => (numeral.mem h).elim other signless

/-- No blank stands in a numeral. -/
theorem Numeral.solid {cs : List Char} {n : Nat} (numeral : Numeral cs n) :
    ∀ c ∈ cs, isBlank c = false := by
  intro c h
  obtain ⟨low, high⟩ | rfl := numeral.mem h
  · have low : 48 ≤ c.toNat := low
    have high : c.toNat ≤ 57 := high
    simp only [isBlank, Bool.or_eq_false_iff, Bool.and_eq_false_iff, decide_eq_false_iff_not,
      beq_eq_false_iff_ne]
    omega
  · decide

/-! ## Parts -/

theorem split_of_not_mem {sep : Char} {cs : List Char} (alone : sep ∉ cs) :
    split sep cs = [cs] := by
  induction cs with
  | nil => rfl
  | cons c cs ih =>
    obtain ⟨other, alone⟩ := not_or.mp (mt List.mem_cons.mpr alone)
    rw [split, if_neg (Ne.symm other), ih alone]

theorem split_append {sep : Char} {part : List Char} (alone : sep ∉ part) (rest : List Char) :
    split sep (part ++ sep :: rest) = part :: split sep rest := by
  induction part with
  | nil => exact if_pos rfl
  | cons c part ih =>
    obtain ⟨other, alone⟩ := not_or.mp (mt List.mem_cons.mpr alone)
    rw [List.cons_append, split, if_neg (Ne.symm other), ih alone]

theorem intercalate_split (sep : Char) (cs : List Char) :
    [sep].intercalate (split sep cs) = cs := by
  induction cs with
  | nil => rfl
  | cons c cs ih =>
    unfold split
    cases parts : split sep cs with
    | nil => exact absurd parts (split_ne_nil sep cs)
    | cons part parts' =>
      rw [parts] at ih
      split
      · rename_i here
        rw [List.intercalate_cons_cons, ih, here]
        rfl
      · cases parts' with
        | nil =>
          rw [List.intercalate_singleton] at ih ⊢
          rw [ih]
        | cons next parts' =>
          rw [List.intercalate_cons_cons] at ih ⊢
          rw [List.cons_append, List.cons_append, ih]

/-- The parts of a text are those without the separator that make it up. -/
theorem split_eq_iff {sep : Char} {cs : List Char} {parts : List (List Char)} :
    split sep cs = parts ↔
      parts ≠ [] ∧ (∀ part ∈ parts, sep ∉ part) ∧ [sep].intercalate parts = cs := by
  constructor
  · rintro rfl
    exact ⟨split_ne_nil sep cs, fun _ => not_mem_of_mem_split, intercalate_split sep cs⟩
  · rintro ⟨nonempty, alone, rfl⟩
    induction parts with
    | nil => exact absurd rfl nonempty
    | cons part parts ih =>
      obtain ⟨here, alone⟩ := List.forall_mem_cons.mp alone
      cases parts with
      | nil => rw [List.intercalate_singleton, split_of_not_mem here]
      | cons next parts =>
        rw [List.intercalate_cons_cons, List.append_assoc]
        exact (split_append here _).trans (congrArg _ (ih (List.cons_ne_nil _ _) alone))

theorem mem_intercalate_iff {sep c : Char} {parts : List (List Char)} :
    c ∈ [sep].intercalate parts ↔
      (∃ part ∈ parts, c ∈ part) ∨ (c = sep ∧ 2 ≤ parts.length) := by
  induction parts with
  | nil => simp
  | cons part parts ih =>
    cases parts with
    | nil => simp
    | cons next parts =>
      have parted : (∃ p ∈ part :: next :: parts, c ∈ p) ↔
          c ∈ part ∨ ∃ p ∈ next :: parts, c ∈ p := by
        simp
      rw [List.intercalate_cons_cons, List.mem_append, List.mem_append, ih, List.mem_singleton,
        parted]
      simp only [List.length_cons]
      constructor
      · rintro ((here | rfl) | later | ⟨rfl, -⟩)
        · exact .inl (.inl here)
        · exact .inr ⟨rfl, by omega⟩
        · exact .inl (.inr later)
        · exact .inr ⟨rfl, by omega⟩
      · rintro ((here | later) | ⟨rfl, -⟩)
        · exact .inl (.inl here)
        · exact .inr (.inl later)
        · exact .inl (.inr rfl)

theorem cut_eq_none_iff {sep : Char} {cs : List Char} : cut sep cs = none ↔ sep ∉ cs := by
  induction cs with
  | nil => simp [cut]
  | cons c cs ih =>
    unfold cut
    by_cases here : c = sep
    · simp [here]
    · rw [if_neg here, Option.map_eq_none_iff, ih, List.mem_cons, not_or]
      exact ⟨fun h => ⟨fun same => here same.symm, h⟩, And.right⟩

/-! ## Blanks at the ends -/

/-- No character but a blank is lost at an end of the text. -/
theorem mem_dropWhile_isBlank {c : Char} {cs : List Char} (solid : isBlank c = false) :
    c ∈ cs.dropWhile isBlank ↔ c ∈ cs := by
  refine ⟨fun h => (List.dropWhile_suffix isBlank).subset h, fun h => ?_⟩
  rw [← List.takeWhile_append_dropWhile (p := isBlank) (l := cs),
    List.mem_append] at h
  refine h.resolve_left fun front => ?_
  have blank : isBlank c = true := List.all_eq_true.mp List.all_takeWhile c front
  rw [blank] at solid
  cases solid

theorem mem_trim {c : Char} {cs : List Char} (solid : isBlank c = false) :
    c ∈ trim cs ↔ c ∈ cs := by
  rw [trim, trimEnd, List.mem_reverse, mem_dropWhile_isBlank solid, List.mem_reverse,
    mem_dropWhile_isBlank solid]

theorem exists_eq_append_dropWhile (cs : List Char) :
    ∃ front, cs = front ++ cs.dropWhile isBlank ∧ ∀ c ∈ front, isBlank c = true :=
  ⟨cs.takeWhile isBlank, List.takeWhile_append_dropWhile.symm,
    List.all_eq_true.mp List.all_takeWhile⟩

/-- Only blanks are taken away at the two ends. -/
theorem exists_eq_append_trim (cs : List Char) :
    ∃ front back, cs = front ++ trim cs ++ back ∧ ∀ c ∈ front ++ back, isBlank c = true := by
  obtain ⟨front, whole, blank⟩ := exists_eq_append_dropWhile cs
  obtain ⟨back, rest, blank'⟩ := exists_eq_append_dropWhile (cs.dropWhile isBlank).reverse
  have kept : cs.dropWhile isBlank = trim cs ++ back.reverse := by
    rw [trim, trimEnd, ← List.reverse_append, ← rest, List.reverse_reverse]
  refine ⟨front, back.reverse, ?_, fun c h => ?_⟩
  · rw [List.append_assoc, ← kept]
    exact whole
  · obtain h | h := List.mem_append.mp h
    · exact blank c h
    · exact blank' c (List.mem_reverse.mp h)

theorem dropWhile_append {front core : List Char} (blank : ∀ c ∈ front, isBlank c = true)
    (first : ∀ c ∈ core.head?, isBlank c = false) :
    (front ++ core).dropWhile isBlank = core := by
  rw [List.dropWhile_append_of_pos blank]
  cases core with
  | nil => rfl
  | cons c core => exact List.dropWhile_cons_of_neg (by simp [first c rfl])

/-- A text without blanks is what is left of it between blanks. -/
theorem trim_append {front core back : List Char} (blank : ∀ c ∈ front ++ back, isBlank c = true)
    (nonempty : core ≠ []) (solid : ∀ c ∈ core, isBlank c = false) :
    trim (front ++ core ++ back) = core := by
  obtain ⟨before, behind⟩ := List.forall_mem_append.mp blank
  have first : (front ++ (core ++ back)).dropWhile isBlank = core ++ back := by
    obtain ⟨c, rest, rfl⟩ := List.exists_cons_of_ne_nil nonempty
    refine dropWhile_append before fun d h => ?_
    obtain rfl : c = d := Option.some.inj h
    exact solid c List.mem_cons_self
  have last : (back.reverse ++ core.reverse).dropWhile isBlank = core.reverse := by
    refine dropWhile_append (fun c h => behind c (List.mem_reverse.mp h)) fun c h => solid c ?_
    exact List.mem_reverse.mp (List.mem_of_mem_head? h)
  rw [trim, List.append_assoc, first, trimEnd, List.reverse_append, last, List.reverse_reverse]

end KnxIp.Text
