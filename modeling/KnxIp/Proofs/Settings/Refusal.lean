/-
  Why settings texts are refused, and which refusals are illegal arguments.

  A line that is not understood, a value that cannot be read and settings that do not validate are
  all reported as illegal arguments, with one exception: what is wrong with an individual address
  is reported as the reader of addresses says it (`refusal_eq_address`). The first fault of a text
  decides, so the exception shows in just those texts in which such an address is the first fault
  (`AddressFirst`).

  Main statement: a refused text is an illegal argument exactly if its first fault is no individual
  address (`ofProperties_illegal_iff`).
-/
import KnxIp.Failure
import KnxIp.Proofs.Settings.Lines

namespace KnxIp.Settings

open Text

/-- A line is at fault if it is not understood or gives a key a value that cannot be read. -/
theorem faultIn_eq_some_iff {line : List Char} {f : Fault} :
    faultIn line = some f ↔
      (∃ v, Line.read line = .error v ∧ f = .value v) ∨
        ∃ key value, valueIn line key = some value ∧ key.accepts value = false ∧
          f = key.refusal value := by
  simp only [valueIn_eq_some_iff]
  unfold faultIn
  cases Line.read line with
  | error v => simp [@eq_comm _ f]
  | ok said =>
    cases said with
    | ignored => simp
    | assignment key value =>
      simp only [Except.ok.injEq, Line.assignment.injEq, reduceCtorEq, false_and, exists_false,
        false_or]
      constructor
      · intro h
        cases unread : key.accepts value with
        | true => simp [unread] at h
        | false =>
          rw [unread] at h
          exact ⟨key, value, ⟨rfl, rfl⟩, unread, (Option.some.inj h).symm⟩
      · rintro ⟨_, _, ⟨rfl, rfl⟩, unread, rfl⟩
        simp [unread]

/-- What cannot be understood in a line is an illegal argument. -/
theorem kind_of_read {line : List Char} {v : ValueFault} (refused : Line.read line = .error v) :
    v.kind = .illegalArgument := by
  simp only [Line.read] at refused
  split at refused
  · cases refused
  · split at refused
    · cases refused
      rfl
    · split at refused <;> cases refused

/-- What does not validate is an illegal argument. -/
theorem kind_of_validate {s : Settings} {v : ValueFault} (refused : s.validate = .error v) :
    v.kind = .illegalArgument := by
  unfold validate at refused
  split at refused
  · cases refused
    rfl
  · split at refused
    · cases refused
      rfl
    · split at refused <;> cases refused
      rfl

namespace Key

/-- A value of any other key that cannot be read is reported as an illegal argument. -/
theorem refusal_eq_value {key : Key} {value : List Char} (other : key ≠ individualAddress)
    (unread : key.accepts value = false) :
    ∃ v, key.refusal value = .value v ∧ v.kind = .illegalArgument := by
  cases key with
  | individualAddress => exact absurd rfl other
  | mode =>
    cases read : Mode.ofChars value with
    | ok m => simp [accepts, readMode, read, Except.toOption] at unread
    | error v =>
      refine ⟨v, by simp [refusal, read], ?_⟩
      simp only [Mode.ofChars] at read
      split at read
      · cases read
      · split at read <;> cases read
        rfl
  | _ => exact ⟨_, rfl, rfl⟩

/-- An individual address that cannot be read is reported in the words of its reader. -/
theorem refusal_eq_address {value : List Char} (unread : individualAddress.accepts value = false) :
    ∃ g, IndividualAddress.parse (String.ofList value) = .error g ∧
      individualAddress.refusal value = .address g := by
  cases read : IndividualAddress.parse (String.ofList value) with
  | ok a => simp [accepts, readAddress, read, Except.toOption] at unread
  | error g => exact ⟨g, rfl, by simp [refusal, read]⟩

end Key

theorem isIllegalArgument_value {v : ValueFault} (kind : v.kind = .illegalArgument) :
    (Failure.fault (.value v)).isIllegalArgument = true := by
  rw [Failure.isIllegalArgument, Failure.isValue, kind]
  rfl

/-- The first line of the text that is at fault gives an individual address that cannot be read. -/
def AddressFirst (text : String) : Prop :=
  ∃ line value, (lines text).find? (fun line => (faultIn line).isSome) = some line ∧
    valueIn line .individualAddress = some value ∧ Key.individualAddress.accepts value = false

/-- The first fault of a text is that of an individual address, or else an illegal argument. -/
theorem first_fault_cases {text : String} {f : Fault}
    (first : (lines text).findSome? faultIn = some f) :
    (AddressFirst text ∧ ∃ g, f = .address g) ∨
      (¬ AddressFirst text ∧ (Failure.fault f).isIllegalArgument = true) := by
  obtain ⟨front, line, back, whole, here, sound⟩ := List.findSome?_eq_some_iff.mp first
  have found : (lines text).find? (fun line => (faultIn line).isSome) = some line := by
    rw [List.find?_eq_some_iff_append]
    refine ⟨by rw [here]; rfl, front, back, whole, fun earlier before => ?_⟩
    rw [sound earlier before]
    rfl
  obtain ⟨v, read, rfl⟩ | ⟨key, value, gives, unread, rfl⟩ := faultIn_eq_some_iff.mp here
  · refine .inr ⟨?_, isIllegalArgument_value (kind_of_read read)⟩
    rintro ⟨line', value, found', gives, -⟩
    cases found.symm.trans found'
    rw [valueIn_eq_some_iff, read] at gives
    cases gives
  · by_cases address : key = .individualAddress
    · subst address
      obtain ⟨g, -, reported⟩ := Key.refusal_eq_address unread
      exact .inl ⟨⟨line, value, found, gives, unread⟩, g, reported⟩
    · obtain ⟨v, reported, kind⟩ := Key.refusal_eq_value address unread
      rw [reported]
      refine .inr ⟨?_, isIllegalArgument_value kind⟩
      rintro ⟨line', value', found', gives', -⟩
      cases found.symm.trans found'
      rw [valueIn_eq_some_iff] at gives gives'
      cases gives.symm.trans gives'
      exact address rfl

/-- A refusal is an illegal argument, unless the first fault is an individual address; that is
reported as the fault of an address. -/
theorem ofProperties_illegal_iff {text : String} {f : Fault}
    (refused : ofProperties text = .error f) :
    ((Failure.fault f).isIllegalArgument = true ↔ ¬ AddressFirst text) ∧
      (AddressFirst text → ∃ g, f = .address g) := by
  obtain first | ⟨sound, v, invalid, rfl⟩ := ofProperties_eq_error_iff.mp refused
  · obtain ⟨address, g, rfl⟩ | ⟨other, illegal⟩ := first_fault_cases first
    · have other : (Failure.fault (.address g)).isIllegalArgument ≠ true := Bool.noConfusion
      exact ⟨iff_of_false other (not_not_intro address), fun _ => ⟨g, rfl⟩⟩
    · exact ⟨iff_of_true illegal other, fun address => absurd address other⟩
  · have other : ¬ AddressFirst text := by
      rintro ⟨line, value, found, -⟩
      have faulty := List.find?_some found
      rw [sound line (List.mem_of_find?_eq_some found)] at faulty
      cases faulty
    exact ⟨iff_of_true (isIllegalArgument_value (kind_of_validate invalid)) other,
      fun address => absurd address other⟩

/-- An area of 16 is refused as the fault of an address. -/
theorem area_out_of_range :
    ofProperties "KNX_INDIVIDUAL_ADDRESS=16.0.0" = .error (.address .outOfRange) ∧
      (Failure.fault (.address .outOfRange)).isIllegalArgument = false := by
  refine ⟨ofProperties_eq_error_iff.mpr (.inl ?_), rfl⟩
  decide +kernel

/-- A mode that is not known is an illegal argument, also in front of such an address. -/
theorem ofProperties_illegal_mode :
    ofProperties "KNX_MODE=serial\nKNX_INDIVIDUAL_ADDRESS=16.0.0" =
        .error (.value (.unknownMode "serial")) ∧
      (Failure.fault (.value (.unknownMode "serial"))).isIllegalArgument = true ∧
      ¬ AddressFirst "KNX_MODE=serial\nKNX_INDIVIDUAL_ADDRESS=16.0.0" := by
  have refused : ofProperties "KNX_MODE=serial\nKNX_INDIVIDUAL_ADDRESS=16.0.0" =
      .error (.value (.unknownMode "serial")) := by
    refine ofProperties_eq_error_iff.mpr (.inl ?_)
    decide +kernel
  have illegal : (Failure.fault (.value (.unknownMode "serial"))).isIllegalArgument = true := rfl
  exact ⟨refused, illegal, (ofProperties_illegal_iff refused).1.mp illegal⟩

end KnxIp.Settings
