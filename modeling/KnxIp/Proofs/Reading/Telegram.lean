/-
  Reading telegrams yields what `Telegram.parse` says.

  The reader takes the fields by their distance from the end of the additional information, and
  `parse` takes them from the front of what is left (`parseFields_eq`).
-/
import KnxIp.Proofs.Reading.Blocks
import KnxIp.Reading.Telegram

namespace KnxIp.Telegram

open Reading
open Body (framed framed_ok framed_error)

/-- The service and its data, as reading the fields finds them. -/
def application (transport : UInt8) (trailing : Bytes) :
    Except Fault (Option Apci × AtMost maxApplicationData) :=
  if (Tpci.ofOctet transport).isData then
    match trailing with
    | [] => .error (.value .missingApplicationOctet)
    | first :: rest =>
      let apci := Apci.ofOctets transport first
      match AtMost.ofBytes? maxApplicationData (readData apci first rest) with
      | some data => .ok (some apci, data)
      | none => .error (.framing .payloadTooLarge)
  else if trailing.length ≠ 0 then .error (.value (.controlPacketLength trailing.length))
  else .ok (none, AtMost.nothing)

theorem yields_readPayload (apci : Apci) (first : UInt8) (rest : Bytes) :
    (readPayload apci (rest.length + 1) (first :: rest)).Yields
      (.ok (readData apci first rest)) := by
  have alone : rest.length + 1 = 1 ↔ rest = [] := by simp
  simp only [readPayload, readData, alone, yields_octet_bind, List.getElem?_cons_zero,
    Option.some.injEq, exists_eq_left']
  split
  · exact yields_sliceFrom (Nat.zero_le _)
  · exact yields_sliceFrom (Nat.le_add_left 1 _)

theorem yields_readApplication (transport : UInt8) (trailing : Bytes) :
    (readApplication transport trailing.length trailing).Yields
      (application transport trailing) := by
  unfold readApplication application
  split
  · cases trailing with
    | nil => exact yields_refuse_bind.mpr (by simp)
    | cons first rest =>
      simp only [yields_refuse_bind, yields_octet_bind, List.length_cons, Nat.succ_ne_zero,
        if_false, List.getElem?_cons_zero, Option.some.injEq, exists_eq_left']
      refine (yields_readPayload _ first rest).bind_of_ok rfl (yields_store_bind.mpr ?_)
      unfold AtMost.ofBytes?
      split
      · exact yields_pure.mpr rfl
      · rfl
  · rw [yields_refuse_bind]
    split
    · rfl
    · exact yields_pure.mpr rfl

/-- Reading the fields finds the service and its data behind the others. -/
theorem parseFields_eq (m : MessageCode) (i : AtMost maxAdditionalInfo)
    (c1 c2 s1 s0 d1 d0 announced transport : UInt8) (trailing : Bytes) :
    parseFields m i
        (c1 :: c2 :: s1 :: s0 :: d1 :: d0 :: announced :: transport :: trailing) =
      if trailing.length ≠ announced.toNat then
        .error (.value (.npduLength announced.toNat trailing.length))
      else (application transport trailing).map fun (apci, data) =>
        { messageCode := m, info := i, control1 := ⟨c1⟩, control2 := ⟨c2⟩
          source := .ofOctets s1 s0
          destination := .ofRaw (word d1 d0) (Control2.isGroup ⟨c2⟩)
          tpci := .ofOctet transport, apci, data } := by
  unfold parseFields application
  dsimp only
  split
  · rfl
  · rename_i same
    rw [Decidable.not_not] at same
    rw [← same]
    split
    · cases trailing with
      | nil => rfl
      | cons first rest =>
        dsimp only
        generalize AtMost.ofBytes? maxApplicationData
          (readData (Apci.ofOctets transport first) first rest) = data
        cases data <;> rfl
    · split <;> rfl

theorem yields_readFields (m : MessageCode) (i : AtMost maxAdditionalInfo) {bs : Bytes} {o : Nat}
    (enough : o + 8 ≤ bs.length) :
    (readFields m i bs o).Yields (parseFields m i (bs.drop o)) := by
  have at_place (k : Nat) : bs[o + k]? = (bs.drop o)[k]? := List.getElem?_drop.symm
  have behind : bs.drop (o + 8) = (bs.drop o).drop 8 := List.drop_drop.symm
  have eight : 8 ≤ (bs.drop o).length := by
    rw [List.length_drop]
    omega
  match shape : bs.drop o, eight with
  | c1 :: c2 :: s1 :: s0 :: d1 :: d0 :: announced :: transport :: trailing, _ =>
    rw [shape] at at_place behind
    simp only [parseFields_eq, readFields, yields_octet_bind, yields_sliceFrom_bind,
      yields_refuse_bind, at_place, behind, List.getElem?_cons_zero, List.getElem?_cons_succ,
      List.drop_succ_cons, List.drop_zero, Option.some.injEq, exists_eq_left']
    refine ⟨enough, ?_⟩
    split
    · rfl
    · rename_i same
      rw [Decidable.not_not] at same
      rw [← same]
      exact (yields_readApplication transport trailing).map _

theorem parseContent_of_short {bs : Bytes} (short : bs.length < 2) :
    parseContent bs = .error (.framing .bufferTooSmall) := by
  unfold parseContent
  split
  · simp only [List.length_cons] at short
    omega
  · rfl

theorem yields_readContent (bs : Bytes) : (readContent bs).Yields (parseContent bs) := by
  refine Yields.require parseContent_of_short fun front rest enough shape => ?_
  match front, enough with
  | [code, infoLength], _ =>
    have info : ((code :: infoLength :: rest).take (2 + infoLength.toNat)).drop 2 =
        rest.take infoLength.toNat := by
      rw [List.drop_take, Nat.add_sub_cancel_left]
      rfl
    have behind : (code :: infoLength :: rest).drop (2 + infoLength.toNat) =
        rest.drop infoLength.toNat := List.drop_drop.symm
    subst shape
    simp only [parseContent, List.cons_append, List.nil_append, yields_octet_bind,
      yields_orFail_bind, yields_require_bind, yields_slice_bind, yields_store_bind,
      List.getElem?_cons_zero, List.getElem?_cons_succ, Option.some.injEq, exists_eq_left',
      List.length_cons, info]
    cases MessageCode.ofCode code with
    | none => rfl
    | some m =>
      dsimp only
      by_cases short : rest.length < infoLength.toNat + 8
      · have all_short : rest.length + 1 + 1 < 10 + infoLength.toNat := by omega
        simp only [short, all_short, if_true]
      · have all_long : ¬ rest.length + 1 + 1 < 10 + infoLength.toNat := by omega
        simp only [short, all_long, if_false, AtMost.ofBytes?]
        refine ⟨⟨by omega, by omega⟩, ?_⟩
        split
        · rw [← behind]
          exact yields_readFields m _ (by simp only [List.length_cons]; omega)
        · rfl

theorem toContent_parse (bs : Bytes) : (parse bs).map (·.toContent) = parseContent bs := by
  unfold parse
  split <;> rename_i found <;> exact found.symm

theorem yields_read (bs : Bytes) : (read bs).Yields (parse bs) := by
  have content : (readContent bs).Yields
      (((parse bs).map fun t => (⟨t.toContent, t.wellFormed⟩ :
        { c : Content // c.WellFormed })).map (·.val)) := by
    have same := yields_readContent bs
    rw [← toContent_parse] at same
    cases parsed : parse bs <;> rw [parsed] at same <;> exact same
  have whole := (content.attach (h := fun _ found => wellFormed_of_readContent found)).map
    fun c => (⟨c.val, c.property⟩ : Telegram)
  cases parsed : parse bs <;> rw [parsed] at whole <;> exact whole

end KnxIp.Telegram
