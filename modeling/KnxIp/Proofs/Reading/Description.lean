/-
  Reading descriptions yields what `Description.parse` says.

  A round of the loop over the blocks fails or takes at least two octets away
  (`Description.yields_round`, `Description.two_le_of_advance`), so that half as many rounds as
  there are octets are enough (`Description.yields_read`).
-/
import KnxIp.Proofs.Reading.Blocks

namespace KnxIp

open Reading
open Body (framed framed_ok framed_error framed_bind framed_map framed_eq_ok_iff)

/-! ## Device information -/

theorem DeviceInfo.yields_read (bs : Bytes) : (read bs).Yields (framed (parse bs)) := by
  refine Yields.require (fun short => ?_) fun front rest enough shape => ?_
  · rw [parse_of_short short, framed_error]
  · match front, enough with
    | length :: kind :: medium :: status :: a1 :: a0 :: p1 :: p0 ::
        s0 :: s1 :: s2 :: s3 :: s4 :: s5 :: m0 :: m1 :: m2 :: m3 ::
        h0 :: h1 :: h2 :: h3 :: h4 :: h5 :: name, enough =>
      subst shape
      have whole : name.length = 30 := by
        simpa [size] using enough
      have cut : (name ++ rest).take 30 = name := by
        rw [← whole, List.take_left]
      simp only [parse, nameSize, List.cons_append, yields_octet_bind, yields_refuse_bind,
        yields_slice_bind, yields_sixOctets_bind, yields_pure, List.getElem?_cons_zero,
        List.getElem?_cons_succ, Option.some.injEq, List.length_cons, List.length_append,
        List.take_succ_cons, List.drop_succ_cons, List.take_zero, List.drop_zero, exists_eq_left',
        whole, cut]
      grind [framed_error, framed_ok]

/-! ## Families -/

/-- The entries, unless they are too many. -/
def Families.within (entries : List FamilyVersion) : Except Fault Families :=
  if h : entries.length ≤ maxFamilies then .ok ⟨entries, h⟩
  else .error (.framing .payloadTooLarge)

theorem Families.yields_readPairs (fs : Families) (bs : Bytes) :
    (readPairs fs bs).Yields (within (fs.entries ++ readEntries bs)) := by
  induction bs using readEntries.induct generalizing fs with
  | case1 family version rest ih =>
    simp only [readPairs, readEntries, yields_octet_bind, List.getElem?_cons_zero,
      List.getElem?_cons_succ, Option.some.injEq, exists_eq_left', yields_store_bind]
    split
    · rename_i room
      have rest_added := ih ⟨fs.entries ++ [⟨family, version⟩], room⟩
      rw [List.append_assoc] at rest_added
      exact rest_added
    · rename_i full
      rw [within, dif_neg]
      simp only [List.length_append, List.length_cons, List.length_nil] at full ⊢
      omega
  | case2 bs stop =>
    have last : readPairs fs bs = pure fs := by
      unfold readPairs
      split
      · exact absurd rfl (stop _ _ _)
      · rfl
    have nothing : readEntries bs = [] := by
      unfold readEntries
      split
      · exact absurd rfl (stop _ _ _)
      · rfl
    rw [last, nothing, List.append_nil, yields_pure, within, dif_pos fs.size_le]

/-- The conditions on the length octet, as a number. -/
theorem Families.length_conditions (length : UInt8) :
    (length < 2 ↔ length.toNat < 2) ∧ (length % 2 ≠ 0 ↔ length.toNat % 2 ≠ 0) := by
  constructor
  · exact UInt8.lt_iff_toNat_lt
  · rw [Ne, ← UInt8.toNat_inj, UInt8.toNat_mod]
    rfl

theorem Families.yields_read (bs : Bytes) : (read bs).Yields (framed (parse bs)) := by
  refine Yields.require (fun short => ?_) fun front rest enough shape => ?_
  · rw [parse_of_short short, framed_error]
  · match front, enough with
    | [length, kind], _ =>
      subst shape
      obtain ⟨small, odd⟩ := length_conditions length
      simp only [parse, List.cons_append, List.nil_append, yields_octet_bind, yields_refuse_bind,
        yields_require_bind, yields_slice_bind, List.getElem?_cons_zero, List.getElem?_cons_succ,
        Option.some.injEq, exists_eq_left', List.length_cons, small, odd]
      split
      · rfl
      · rename_i good
        split
        · rfl
        · rename_i present
          refine ⟨by omega, ?_⟩
          have content : ((length :: kind :: rest).take length.toNat).drop 2 =
              rest.take (length.toNat - 2) := by
            rw [List.drop_take]
            rfl
          have added := yields_readPairs ⟨[], Nat.zero_le _⟩ (rest.take (length.toNat - 2))
          rw [content]
          unfold within at added
          split <;> rename_i room <;> simpa [room, framed_ok, framed_error] using added

/-! ## Blocks -/

theorem Description.Gathered.yields_read (g : Gathered) {block : Bytes}
    (enough : 2 ≤ block.length) : (g.read block).Yields (framed (g.add block)) := by
  match block, enough with
  | length :: kind :: data, _ =>
    simp only [read, add, yields_octet_bind, List.getElem?_cons_zero, List.getElem?_cons_succ,
        Option.some.injEq, exists_eq_left']
    split
    · exact (DeviceInfo.yields_read _).framed_map _
    · split
      · exact (Families.yields_read _).framed_map _
      · rw [yields_sliceFrom_bind, yields_pure]
        exact ⟨by simp, rfl⟩

namespace Description

/-- What a round comes to: the block is added, and what follows it is left. -/
def advance (g : Gathered) (bs : Bytes) : Except FramingFault (Gathered × Bytes) :=
  match blockLength bs with
  | .error e => .error e
  | .ok ⟨n, _⟩ => (g.add (bs.take n)).map fun g => (g, bs.drop n)

theorem yields_round (g : Gathered) (bs : Bytes) :
    (round g bs).Yields (framed (advance g bs)) := by
  refine Yields.require (fun short => ?_) fun front rest enough shape => ?_
  · unfold advance blockLength
    match bs, short with
    | [], _ => rfl
    | [_], _ => rfl
  · match front, enough with
    | [length, kind], _ =>
      subst shape
      simp only [List.cons_append, List.nil_append, yields_octet_bind, yields_refuse_bind,
        yields_require_bind, yields_slice_bind, List.getElem?_cons_zero, Option.some.injEq,
        exists_eq_left']
      unfold advance blockLength
      split
      · rename_i low
        simp only [low, dif_pos, framed_error]
      · rename_i low
        split
        · rename_i high
          have beyond : rest.length + 2 < length.toNat := high
          simp only [low, beyond, dif_neg, dif_pos, not_false_eq_true, framed_error]
        · rename_i inside
          have within : ¬ rest.length + 2 < length.toNat := inside
          simp only [low, within, dif_neg, not_false_eq_true, framed_map, List.drop_zero]
          have fits : length.toNat ≤ (length :: kind :: rest).length := Nat.le_of_not_lt inside
          have enough : 2 ≤ ((length :: kind :: rest).take length.toNat).length := by
            rw [List.length_take]
            simp only [List.length_cons] at fits ⊢
            omega
          refine ⟨⟨Nat.zero_le _, fits⟩, (g.yields_read enough).bind_ok fun g _ => ?_⟩
          rw [yields_sliceFrom_bind, yields_pure]
          exact ⟨fits, rfl⟩

/-- A round takes at least two octets away. -/
theorem two_le_of_advance {g g' : Gathered} {bs rest : Bytes}
    (h : advance g bs = .ok (g', rest)) : rest.length + 2 ≤ bs.length := by
  unfold advance at h
  split at h
  · cases h
  · rename_i n bounds _
    obtain ⟨g, -, same⟩ := map_eq_ok_iff.mp h
    cases same
    rw [List.length_drop]
    omega

/-- Reading to the end is a round, and then reading to the end. -/
theorem readBlocks_eq_advance_bind {g : Gathered} {bs : Bytes} (h : bs ≠ []) :
    readBlocks g bs = advance g bs >>= fun next => readBlocks next.1 next.2 := by
  rw [readBlocks, if_neg h]
  unfold advance
  cases blockLength bs with
  | error e => rfl
  | ok n =>
    obtain ⟨n, bounds⟩ := n
    cases added : g.add (bs.take n) <;> simp only [added] <;> rfl

theorem yields_readRounds {rounds : Nat} {bs : Bytes} (enough : bs.length ≤ 2 * rounds)
    (g : Gathered) : (readRounds rounds g bs).Yields (framed (readBlocks g bs)) := by
  induction rounds generalizing g bs with
  | zero =>
    obtain rfl : bs = [] := List.eq_nil_of_length_eq_zero (Nat.le_zero.mp enough)
    rw [readBlocks, if_pos rfl]
    exact yields_pure.mpr rfl
  | succ rounds ih =>
    cases bs with
    | nil =>
      rw [readBlocks, if_pos rfl]
      exact yields_pure.mpr rfl
    | cons b bs =>
      rw [readBlocks_eq_advance_bind (List.cons_ne_nil b bs), framed_bind]
      refine (yields_round g (b :: bs)).bind fun next read => ?_
      obtain ⟨g, rest⟩ := next
      have shorter := two_le_of_advance (framed_eq_ok_iff.mp read)
      exact ih (by omega) g

/-- Half as many rounds as there are octets are enough to read a description. -/
theorem yields_read {rounds : Nat} {bs : Bytes} (enough : bs.length ≤ 2 * rounds) :
    (read rounds bs).Yields (framed (parse bs)) := by
  unfold parse
  rw [framed_bind]
  exact (yields_readRounds enough .empty).bind fun g _ => yields_ofResult _

end Description
end KnxIp
