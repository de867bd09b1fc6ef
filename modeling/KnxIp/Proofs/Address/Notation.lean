/-
  How addresses are written.

  An address is written as the numerals of its components with a separator between them: two or
  three numbers for the levels of a group, three for an individual address (`Components`). Reading
  takes blanks at the two ends away, splits, reads each part and puts the numbers in their places;
  so an address is read from just those texts in which its components are spelled
  (`Destination.parse_eq_ok_iff`).

  Main statement: this, that components within their ranges are those of exactly one address, and
  that every address is read back from each of its notations (`Destination.parse_notation`).
-/
import KnxIp.Address.Destination
import KnxIp.Proofs.Result
import KnxIp.Proofs.Text.Reading
import Mathlib.Data.List.Forall2

namespace KnxIp

open Text

/-- The numbers in one of the notations of addresses. -/
inductive Components
  /-- The levels of a group in the notation with three. -/
  | threeLevels (main middle sub : Nat)
  /-- The levels of a group in the notation with two. -/
  | twoLevels (main sub : Nat)
  /-- The components of an individual address. -/
  | individual (area line device : Nat)
deriving DecidableEq, Repr

namespace Components

/-- The numbers in the order in which they are written. -/
def numbers : Components → List Nat
  | threeLevels main middle sub => [main, middle, sub]
  | twoLevels main sub => [main, sub]
  | individual area line device => [area, line, device]

/-- The notation is one of groups. -/
def isGroup : Components → Bool
  | threeLevels .. | twoLevels .. => true
  | individual .. => false

/-- What stands between the numbers. -/
def separator (c : Components) : Char := if c.isGroup then '/' else '.'

/-- Every number fits into its place. -/
def InRange : Components → Prop
  | threeLevels main middle sub => main ≤ 31 ∧ middle ≤ 7 ∧ sub ≤ 255
  | twoLevels main sub => main ≤ 31 ∧ sub ≤ 2047
  | individual area line device => area ≤ 15 ∧ line ≤ 15 ∧ device ≤ 255

/-- The numbers are the components of this address. -/
def Of : Components → Destination → Prop
  | threeLevels main middle sub, .group g =>
    g.main.toNat = main ∧ g.middle.toNat = middle ∧ g.sub.toNat = sub
  | twoLevels main sub, .group g => g.main.toNat = main ∧ g.wideSub.toNat = sub
  | individual area line device, .individual a =>
    a.area.toNat = area ∧ a.line.toNat = line ∧ a.device.toNat = device
  | _, _ => False

/-- The text is a numeral for each number, with the separator between them. -/
def Spelled (cs : List Char) (c : Components) : Prop :=
  ∃ parts, parts.Forall₂ Numeral c.numbers ∧ [c.separator].intercalate parts = cs

end Components

/-! ## Components and wire values -/

namespace GroupAddress

variable (g : GroupAddress)

theorem toNat_main : g.main.toNat = g.raw.toNat / 2048 := by
  have := g.raw.toNat_lt
  simp only [main, UInt16.toNat_toUInt8, UInt16.toNat_div, UInt16.reduceToNat]
  omega

theorem toNat_middle : g.middle.toNat = g.raw.toNat / 256 % 8 := by
  simp only [middle, UInt16.toNat_toUInt8, UInt16.toNat_mod, UInt16.toNat_div, UInt16.reduceToNat]
  omega

theorem toNat_sub : g.sub.toNat = g.raw.toNat % 256 := by
  simp only [sub, UInt16.toNat_toUInt8, Nat.reducePow]

theorem toNat_wideSub : g.wideSub.toNat = g.raw.toNat % 2048 := by
  simp only [wideSub, UInt16.toNat_mod, UInt16.reduceToNat]

end GroupAddress

namespace IndividualAddress

variable (a : IndividualAddress)

theorem toNat_area : a.area.toNat = a.raw.toNat / 4096 := by
  have := a.raw.toNat_lt
  simp only [area, UInt16.toNat_toUInt8, UInt16.toNat_div, UInt16.reduceToNat]
  omega

theorem toNat_line : a.line.toNat = a.raw.toNat / 256 % 16 := by
  simp only [line, UInt16.toNat_toUInt8, UInt16.toNat_mod, UInt16.toNat_div, UInt16.reduceToNat]
  omega

theorem toNat_device : a.device.toNat = a.raw.toNat % 256 := by
  simp only [device, UInt16.toNat_toUInt8, Nat.reducePow]

end IndividualAddress

namespace Components

/-- The wire value that the numbers make up. -/
def raw : Components → Nat
  | threeLevels main middle sub => main * 2048 + middle * 256 + sub
  | twoLevels main sub => main * 2048 + sub
  | individual area line device => area * 4096 + line * 256 + device

theorem raw_lt {c : Components} (small : c.InRange) : c.raw < 65536 := by
  cases c <;> simp only [InRange] at small <;> simp only [raw] <;> omega

/-- Every component of an address is within its range. -/
theorem inRange_of {c : Components} {d : Destination} (of : c.Of d) : c.InRange := by
  cases d with
  | group g =>
    have := g.raw.toNat_lt
    cases c with
    | threeLevels main middle sub =>
      obtain ⟨rfl, rfl, rfl⟩ := of
      simp only [InRange, g.toNat_main, g.toNat_middle, g.toNat_sub]
      omega
    | twoLevels main sub =>
      obtain ⟨rfl, rfl⟩ := of
      simp only [InRange, g.toNat_main, g.toNat_wideSub]
      omega
    | individual area line device => exact of.elim
  | individual a =>
    have := a.raw.toNat_lt
    cases c with
    | individual area line device =>
      obtain ⟨rfl, rfl, rfl⟩ := of
      simp only [InRange, a.toNat_area, a.toNat_line, a.toNat_device]
      omega
    | threeLevels main middle sub => exact of.elim
    | twoLevels main sub => exact of.elim

/-- Numbers within their ranges are the components of the address with the wire value that they make
up. -/
theorem of_iff {c : Components} {d : Destination} (small : c.InRange) :
    c.Of d ↔ d.raw.toNat = c.raw ∧ d.isGroup = c.isGroup := by
  cases c with
  | threeLevels main middle sub =>
    cases d with
    | group g =>
      simp only [InRange] at small
      simp only [Of, raw, isGroup, Destination.raw, Destination.isGroup, g.toNat_main,
        g.toNat_middle, g.toNat_sub, and_true]
      omega
    | individual a => simp [Of, isGroup, Destination.isGroup]
  | twoLevels main sub =>
    cases d with
    | group g =>
      simp only [InRange] at small
      simp only [Of, raw, isGroup, Destination.raw, Destination.isGroup, g.toNat_main,
        g.toNat_wideSub, and_true]
      omega
    | individual a => simp [Of, isGroup, Destination.isGroup]
  | individual area line device =>
    cases d with
    | group g => simp [Of, isGroup, Destination.isGroup]
    | individual a =>
      simp only [InRange] at small
      simp only [Of, raw, isGroup, Destination.raw, Destination.isGroup, a.toNat_area,
        a.toNat_line, a.toNat_device, and_true]
      omega

/-- Numbers within their ranges are the components of the address with the wire value that they make
up, and of no other. -/
theorem of_iff_eq {c : Components} {w : UInt16} {d : Destination} (small : c.InRange)
    (value : w.toNat = c.raw) : c.Of d ↔ .ofRaw w c.isGroup = d := by
  rw [of_iff small, ← value, UInt16.toNat_inj]
  constructor
  · rintro ⟨rfl, kind⟩
    rw [← kind, Destination.ofRaw_raw]
  · rintro rfl
    exact ⟨Destination.raw_ofRaw _ _, Destination.isGroup_ofRaw _ _⟩

end Components

/-! ## Numbers in their places -/

namespace GroupAddress

variable {g : GroupAddress}

theorem ofThreeLevels_eq_ok_iff {main middle sub : UInt8} :
    ofThreeLevels main middle sub = .ok g ↔
      (Components.threeLevels main.toNat middle.toNat sub.toNat).InRange ∧
        (Components.threeLevels main.toNat middle.toNat sub.toNat).Of (.group g) := by
  have octet := sub.toNat_lt
  have places : ¬ (31 < main ∨ 7 < middle) ↔
      (Components.threeLevels main.toNat middle.toNat sub.toNat).InRange := by
    simp only [UInt8.lt_iff_toNat_lt, UInt8.reduceToNat, Components.InRange]
    omega
  rw [ofThreeLevels, ite_error_eq_ok_iff, places]
  refine and_congr_right fun small => ?_
  have value : (main.toUInt16 * 2048 + middle.toUInt16 * 256 + sub.toUInt16).toNat =
      (Components.threeLevels main.toNat middle.toNat sub.toNat).raw := by
    simp only [Components.InRange] at small
    simp only [Components.raw, UInt16.toNat_add, UInt16.toNat_mul, UInt8.toNat_toUInt16,
      UInt16.reduceToNat]
    omega
  exact (Destination.group.injEq _ _).symm.to_iff.trans (Components.of_iff_eq small value).symm

theorem ofTwoLevels_eq_ok_iff {main : UInt8} {sub : UInt16} :
    ofTwoLevels main sub = .ok g ↔
      (Components.twoLevels main.toNat sub.toNat).InRange ∧
        (Components.twoLevels main.toNat sub.toNat).Of (.group g) := by
  have places : ¬ (31 < main ∨ 2047 < sub) ↔
      (Components.twoLevels main.toNat sub.toNat).InRange := by
    simp only [UInt8.lt_iff_toNat_lt, UInt16.lt_iff_toNat_lt, UInt8.reduceToNat,
      UInt16.reduceToNat, Components.InRange]
    omega
  rw [ofTwoLevels, ite_error_eq_ok_iff, places]
  refine and_congr_right fun small => ?_
  have value : (main.toUInt16 * 2048 + sub).toNat =
      (Components.twoLevels main.toNat sub.toNat).raw := by
    simp only [Components.InRange] at small
    simp only [Components.raw, UInt16.toNat_add, UInt16.toNat_mul, UInt8.toNat_toUInt16,
      UInt16.reduceToNat]
    omega
  exact (Destination.group.injEq _ _).symm.to_iff.trans (Components.of_iff_eq small value).symm

theorem octetLevel_eq_ok_iff {n : Nat} {b : UInt8} : octetLevel n = .ok b ↔ b.toNat = n := by
  unfold octetLevel
  split
  · rename_i fits
    have value : n.toUInt8.toNat = n := Nat.mod_eq_of_lt (Nat.lt_succ_of_le fits)
    rw [Except.ok.injEq, ← UInt8.toNat_inj, value, eq_comm]
  · rename_i large
    have := b.toNat_lt
    exact iff_of_false (fun h => by cases h) (by omega)

/-- Numbers name a group if they are its levels, in either notation, each within its range. -/
theorem ofLevels_eq_ok_iff {levels : List (Option Nat)}
    (bounded : ∀ n, some n ∈ levels → n ≤ 65535) :
    ofLevels levels = .ok g ↔
      ∃ c : Components, c.numbers.map some = levels ∧ c.InRange ∧ c.Of (.group g) := by
  constructor
  · intro named
    unfold ofLevels at named
    split at named
    · obtain ⟨main, first, rest⟩ := bind_eq_ok_iff.mp named
      obtain ⟨middle, second, rest⟩ := bind_eq_ok_iff.mp rest
      obtain ⟨sub, third, whole⟩ := bind_eq_ok_iff.mp rest
      obtain rfl := octetLevel_eq_ok_iff.mp first
      obtain rfl := octetLevel_eq_ok_iff.mp second
      obtain rfl := octetLevel_eq_ok_iff.mp third
      exact ⟨_, rfl, ofThreeLevels_eq_ok_iff.mp whole⟩
    · rename_i n m
      obtain ⟨main, first, whole⟩ := bind_eq_ok_iff.mp named
      obtain rfl := octetLevel_eq_ok_iff.mp first
      -- what was read has sixteen bits, so the word keeps all of it
      have wide : m.toUInt16.toNat = m :=
        Nat.mod_eq_of_lt (Nat.lt_succ_of_le (bounded m (by simp)))
      have levels := ofTwoLevels_eq_ok_iff.mp whole
      rw [wide] at levels
      exact ⟨_, rfl, levels⟩
    · cases named
  · rintro ⟨c, rfl, small, levels⟩
    cases c with
    | threeLevels main middle sub =>
      obtain ⟨rfl, rfl, rfl⟩ := levels
      refine bind_eq_ok_iff.mpr ⟨g.main, octetLevel_eq_ok_iff.mpr rfl, ?_⟩
      refine bind_eq_ok_iff.mpr ⟨g.middle, octetLevel_eq_ok_iff.mpr rfl, ?_⟩
      refine bind_eq_ok_iff.mpr ⟨g.sub, octetLevel_eq_ok_iff.mpr rfl, ?_⟩
      exact ofThreeLevels_eq_ok_iff.mpr ⟨small, rfl, rfl, rfl⟩
    | twoLevels main sub =>
      obtain ⟨rfl, rfl⟩ := levels
      refine bind_eq_ok_iff.mpr ⟨g.main, octetLevel_eq_ok_iff.mpr rfl, ?_⟩
      have wide : g.wideSub.toNat.toUInt16 = g.wideSub := UInt16.ofNat_toNat
      rw [wide]
      exact ofTwoLevels_eq_ok_iff.mpr ⟨small, rfl, rfl⟩
    | individual area line device => exact levels.elim

end GroupAddress

namespace IndividualAddress

variable {a : IndividualAddress}

theorem ofComponents_eq_ok_iff {area line device : UInt8} :
    ofComponents area line device = .ok a ↔
      (Components.individual area.toNat line.toNat device.toNat).InRange ∧
        (Components.individual area.toNat line.toNat device.toNat).Of (.individual a) := by
  have octet := device.toNat_lt
  have places : ¬ (15 < area ∨ 15 < line) ↔
      (Components.individual area.toNat line.toNat device.toNat).InRange := by
    simp only [UInt8.lt_iff_toNat_lt, UInt8.reduceToNat, Components.InRange]
    omega
  rw [ofComponents, ite_error_eq_ok_iff, places]
  refine and_congr_right fun small => ?_
  have value : (area.toUInt16 * 4096 + line.toUInt16 * 256 + device.toUInt16).toNat =
      (Components.individual area.toNat line.toNat device.toNat).raw := by
    simp only [Components.InRange] at small
    simp only [Components.raw, UInt16.toNat_add, UInt16.toNat_mul, UInt8.toNat_toUInt16,
      UInt16.reduceToNat]
    omega
  exact (Destination.individual.injEq _ _).symm.to_iff.trans (Components.of_iff_eq small value).symm

/-- Numbers name a device if they are its components, each within its range. -/
theorem ofParts_eq_ok_iff {parts : List (Option Nat)} (bounded : ∀ n, some n ∈ parts → n ≤ 255) :
    ofParts parts = .ok a ↔
      ∃ c : Components, c.numbers.map some = parts ∧ c.InRange ∧ c.Of (.individual a) := by
  constructor
  · intro named
    unfold ofParts at named
    split at named
    · rename_i area line device
      have octet (n : Nat) (h : some n ∈ [some area, some line, some device]) :
          n.toUInt8.toNat = n := Nat.mod_eq_of_lt (Nat.lt_succ_of_le (bounded n h))
      have components := ofComponents_eq_ok_iff.mp named
      rw [octet area (by simp), octet line (by simp), octet device (by simp)] at components
      exact ⟨_, rfl, components⟩
    · cases named
  · rintro ⟨c, rfl, small, components⟩
    cases c with
    | individual area line device =>
      obtain ⟨rfl, rfl, rfl⟩ := components
      have octet (b : UInt8) : b.toNat.toUInt8 = b := UInt8.ofNat_toNat
      show ofComponents _ _ _ = .ok a
      rw [octet, octet, octet]
      exact ofComponents_eq_ok_iff.mpr ⟨small, rfl, rfl, rfl⟩
    | threeLevels main middle sub => exact components.elim
    | twoLevels main sub => exact components.elim

end IndividualAddress

/-! ## Texts -/

theorem map_readBounded_eq_iff {bound : Nat} {parts : List (List Char)} {ns : List Nat} :
    parts.map (readBounded bound) = ns.map some ↔
      parts.Forall₂ Numeral ns ∧ ∀ n ∈ ns, n ≤ bound := by
  induction parts generalizing ns with
  | nil => cases ns <;> simp
  | cons part parts ih =>
    cases ns with
    | nil => simp
    | cons n ns =>
      rw [List.map_cons, List.map_cons, List.cons.injEq, readBounded_eq_some_iff, ih,
        List.forall₂_cons, List.forall_mem_cons, and_and_and_comm]

theorem exists_numeral_of_mem {parts : List (List Char)} {ns : List Nat}
    (numerals : parts.Forall₂ Numeral ns) {part : List Char} (here : part ∈ parts) :
    ∃ n, Numeral part n := by
  induction numerals with
  | nil => cases here
  | cons first _ ih =>
    obtain rfl | later := List.mem_cons.mp here
    · exact ⟨_, first⟩
    · exact ih later

namespace Components

variable {c : Components} {cs : List Char}

theorem not_isDigit_separator (c : Components) : ¬ IsDigit c.separator := by
  unfold IsDigit separator
  cases c.isGroup <;> decide

theorem separator_ne_plus (c : Components) : c.separator ≠ '+' := by
  unfold separator
  cases c.isGroup <;> decide

theorem isBlank_separator (c : Components) : isBlank c.separator = false := by
  unfold separator
  cases c.isGroup <;> decide

theorem two_le_length_numbers (c : Components) : 2 ≤ c.numbers.length := by
  cases c <;> simp [numbers]

/-- Of the other characters only the separator stands in a notation. -/
theorem Spelled.mem_iff (spelled : c.Spelled cs) {x : Char} (other : ¬ IsDigit x)
    (signless : x ≠ '+') : x ∈ cs ↔ x = c.separator := by
  obtain ⟨parts, numerals, rfl⟩ := spelled
  have several : 2 ≤ parts.length := numerals.length_eq ▸ c.two_le_length_numbers
  rw [mem_intercalate_iff, and_iff_left several]
  refine or_iff_right ?_
  rintro ⟨part, here, inside⟩
  obtain ⟨n, numeral⟩ := exists_numeral_of_mem numerals here
  exact numeral.not_mem other signless inside

/-- No blank stands in a notation. -/
theorem Spelled.solid (spelled : c.Spelled cs) : ∀ x ∈ cs, isBlank x = false := by
  obtain ⟨parts, numerals, rfl⟩ := spelled
  intro x inside
  obtain ⟨part, here, inside⟩ | ⟨rfl, -⟩ := mem_intercalate_iff.mp inside
  · obtain ⟨n, numeral⟩ := exists_numeral_of_mem numerals here
    exact numeral.solid x inside
  · exact c.isBlank_separator

theorem Spelled.ne_nil (spelled : c.Spelled cs) : cs ≠ [] :=
  List.ne_nil_of_mem ((spelled.mem_iff c.not_isDigit_separator c.separator_ne_plus).mpr rfl)

theorem spelled_digits (c : Components) :
    c.Spelled ([c.separator].intercalate (c.numbers.map digits)) := by
  refine ⟨_, ?_, rfl⟩
  rw [List.forall₂_map_left_iff, List.forall₂_same]
  exact fun n _ => numeral_digits n

/-- The numbers are read from the parts of a text if it spells them. -/
theorem spelled_iff {bound : Nat} (small : ∀ n ∈ c.numbers, n ≤ bound) :
    c.numbers.map some = (split c.separator cs).map (readBounded bound) ↔ c.Spelled cs := by
  rw [eq_comm, map_readBounded_eq_iff, and_iff_left small]
  constructor
  · exact fun numerals => ⟨_, numerals, intercalate_split _ _⟩
  · rintro ⟨parts, numerals, rfl⟩
    have nonempty : parts ≠ [] := by
      rintro rfl
      have := numerals.length_eq ▸ c.two_le_length_numbers
      simp at this
    have alone : ∀ part ∈ parts, c.separator ∉ part := fun part here => by
      obtain ⟨n, numeral⟩ := exists_numeral_of_mem numerals here
      exact numeral.not_mem c.not_isDigit_separator c.separator_ne_plus
    rwa [split_eq_iff.mpr ⟨nonempty, alone, rfl⟩]

theorem separator_of_isGroup (group : c.isGroup = true) : c.separator = '/' := if_pos group

theorem separator_of_not_isGroup (device : c.isGroup = false) : c.separator = '.' :=
  if_neg (by rw [device]; decide)

theorem numbers_le (small : c.InRange) : ∀ n ∈ c.numbers, n ≤ 2047 := by
  cases c <;> simp only [InRange] at small <;> simp [numbers] <;> omega

theorem numbers_le_of_not_isGroup (small : c.InRange) (device : c.isGroup = false) :
    ∀ n ∈ c.numbers, n ≤ 255 := by
  cases c with
  | individual area line device =>
    simp only [InRange] at small
    simp [numbers]
    omega
  | threeLevels => cases device
  | twoLevels => cases device

theorem isGroup_of {d : Destination} (of : c.Of d) : d.isGroup = c.isGroup := by
  cases c <;> cases d <;> first | rfl | exact of.elim

end Components

/-- What is read from the parts of a text is within the bound. -/
theorem le_of_mem_map_readBounded {bound n : Nat} {parts : List (List Char)}
    (here : some n ∈ parts.map (readBounded bound)) : n ≤ bound := by
  obtain ⟨part, -, read⟩ := List.mem_map.mp here
  exact (readBounded_eq_some_iff.mp read).2

theorem GroupAddress.parse_eq_ok_iff {text : String} {g : GroupAddress} :
    parse text = .ok g ↔
      ∃ c : Components, c.Spelled (trim text.toList) ∧ c.InRange ∧ c.Of (.group g) := by
  rw [parse, ofLevels_eq_ok_iff fun n => le_of_mem_map_readBounded]
  refine exists_congr fun c => and_congr_left fun ⟨small, of⟩ => ?_
  rw [← Components.separator_of_isGroup (Components.isGroup_of of).symm]
  exact Components.spelled_iff fun n here =>
    Nat.le_trans (Components.numbers_le small n here) (by decide)

theorem IndividualAddress.parse_eq_ok_iff {text : String} {a : IndividualAddress} :
    parse text = .ok a ↔
      ∃ c : Components, c.Spelled (trim text.toList) ∧ c.InRange ∧ c.Of (.individual a) := by
  rw [parse, ofParts_eq_ok_iff fun n => le_of_mem_map_readBounded]
  refine exists_congr fun c => and_congr_left fun ⟨small, of⟩ => ?_
  have device : c.isGroup = false := (Components.isGroup_of of).symm
  rw [← Components.separator_of_not_isGroup device]
  exact Components.spelled_iff (Components.numbers_le_of_not_isGroup small device)

namespace Destination

/-- The separator in a text decides between the two kinds of address. -/
theorem parse_eq_ok_iff {text : String} {d : Destination} :
    parse text = .ok d ↔
      ∃ c : Components, c.Spelled (trim text.toList) ∧ c.InRange ∧ c.Of d := by
  have separator {x : Char} (solid : isBlank x = false) (other : ¬ IsDigit x)
      (signless : x ≠ '+') {c : Components} (spelled : c.Spelled (trim text.toList)) :
      x ∈ text.toList ↔ x = c.separator := by
    rw [← mem_trim solid, spelled.mem_iff other signless]
  have slash := @separator '/' (by decide) (by unfold IsDigit; decide) (by decide)
  have dot := @separator '.' (by decide) (by unfold IsDigit; decide) (by decide)
  constructor
  · intro read
    unfold parse at read
    split at read
    · obtain ⟨g, group, rfl⟩ := map_eq_ok_iff.mp read
      exact GroupAddress.parse_eq_ok_iff.mp group
    · split at read
      · obtain ⟨a, device, rfl⟩ := map_eq_ok_iff.mp read
        exact IndividualAddress.parse_eq_ok_iff.mp device
      · cases read
  · rintro ⟨c, spelled, small, of⟩
    have kind := Components.isGroup_of of
    cases d with
    | group g =>
      have group := Components.separator_of_isGroup kind.symm
      rw [parse, if_pos ((slash spelled).mpr group.symm)]
      exact map_eq_ok_iff.mpr ⟨g, GroupAddress.parse_eq_ok_iff.mpr ⟨c, spelled, small, of⟩, rfl⟩
    | individual a =>
      have device := Components.separator_of_not_isGroup kind.symm
      have slashless : '/' ∉ text.toList := fun h => by
        have := (slash spelled).mp h
        rw [device] at this
        exact absurd this (by decide)
      rw [parse, if_neg slashless, if_pos ((dot spelled).mpr device.symm)]
      exact map_eq_ok_iff.mpr
        ⟨a, IndividualAddress.parse_eq_ok_iff.mpr ⟨c, spelled, small, of⟩, rfl⟩

/-- An address is read from its notation between blanks, and from nothing else. -/
theorem parse_eq_ok_iff_between {text : String} {d : Destination} :
    parse text = .ok d ↔
      ∃ front core back, ∃ c : Components, text.toList = front ++ core ++ back ∧
        (∀ x ∈ front ++ back, isBlank x = true) ∧ c.Spelled core ∧ c.InRange ∧ c.Of d := by
  rw [parse_eq_ok_iff]
  constructor
  · rintro ⟨c, spelled, small, of⟩
    obtain ⟨front, back, whole, blank⟩ := exists_eq_append_trim text.toList
    exact ⟨front, _, back, c, whole, blank, spelled, small, of⟩
  · rintro ⟨front, core, back, c, whole, blank, spelled, small, of⟩
    refine ⟨c, ?_, small, of⟩
    rwa [whole, trim_append blank spelled.ne_nil spelled.solid]

theorem parse_of_written {text : String} {d : Destination} {c : Components} (of : c.Of d)
    (written : text.toList = [c.separator].intercalate (c.numbers.map digits)) :
    parse text = .ok d :=
  parse_eq_ok_iff_between.mpr
    ⟨[], text.toList, [], c, (List.append_nil _).symm, fun _ none => absurd none List.not_mem_nil,
      written ▸ c.spelled_digits, Components.inRange_of of, of⟩

end Destination

theorem GroupAddress.parse_text (g : GroupAddress) :
    Destination.parse g.text = .ok (.group g) := by
  have of : (Components.threeLevels g.main.toNat g.middle.toNat g.sub.toNat).Of (.group g) :=
    ⟨rfl, rfl, rfl⟩
  refine Destination.parse_of_written of ?_
  simp [text, decimal, Components.separator, Components.isGroup, Components.numbers,
    List.intercalate_cons_cons]

theorem GroupAddress.parse_twoLevelText (g : GroupAddress) :
    Destination.parse g.twoLevelText = .ok (.group g) := by
  have of : (Components.twoLevels g.main.toNat g.wideSub.toNat).Of (.group g) := ⟨rfl, rfl⟩
  refine Destination.parse_of_written of ?_
  simp [twoLevelText, decimal, Components.separator, Components.isGroup, Components.numbers,
    List.intercalate_cons_cons]

theorem IndividualAddress.parse_text (a : IndividualAddress) :
    Destination.parse a.text = .ok (.individual a) := by
  have of : (Components.individual a.area.toNat a.line.toNat a.device.toNat).Of (.individual a) :=
    ⟨rfl, rfl, rfl⟩
  refine Destination.parse_of_written of ?_
  simp [text, decimal, Components.separator, Components.isGroup, Components.numbers,
    List.intercalate_cons_cons]

namespace Destination

/-- An address is read from a text exactly if the text spells its components between blanks, each
within its range; such components are those of one address. What any address is written as, a group
also in the notation with two levels, is read as that address. -/
theorem parse_notation :
    (∀ text d, parse text = .ok d ↔
      ∃ front core back, ∃ c : Components, text.toList = front ++ core ++ back ∧
        (∀ x ∈ front ++ back, isBlank x = true) ∧ c.Spelled core ∧ c.InRange ∧ c.Of d) ∧
    (∀ c : Components, c.InRange → ∃ d, c.Of d ∧ ∀ d', c.Of d' → d' = d) ∧
    (∀ d : Destination, parse d.text = .ok d) ∧
    ∀ g : GroupAddress, parse g.twoLevelText = .ok (.group g) := by
  refine ⟨fun text d => parse_eq_ok_iff_between, fun c small => ?_, fun d => ?_,
    GroupAddress.parse_twoLevelText⟩
  · have value : c.raw.toUInt16.toNat = c.raw := Nat.mod_eq_of_lt (Components.raw_lt small)
    have only (d : Destination) := @Components.of_iff_eq c _ d small value
    exact ⟨_, (only _).mpr rfl, fun d' of => ((only d').mp of).symm⟩
  · cases d with
    | group g => exact g.parse_text
    | individual a => exact a.parse_text

example : (parse "\u00a01/+02/003 ").toOption = (parse "1/515").toOption := by decide +kernel

end Destination
end KnxIp
