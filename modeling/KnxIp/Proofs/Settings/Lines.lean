/-
  What the lines of a settings text give, and that their order does not matter.

  A line gives at most one value to at most one key (`valueIn`), or it is at fault (`faultIn`): it
  is no note and has no equals sign, or the value that it gives cannot be read. Reading the lines
  one after the other either ends at the first fault or collects what the last values make up
  (`addLines_collected`). So the settings of a text are those of the last value of each key
  (`ofProperties_eq_ok_iff`), and only these and the absence of faults survive a rewording.

  Main statement: a text is accepted exactly if no line is at fault and the last values make up
  settings that validate; rewording it changes nothing; and the port of the gateway matters just
  when there is an address for it (`ofProperties_order_independent`).
-/
import KnxIp.Proofs.Result
import KnxIp.Proofs.Settings.Given
import KnxIp.Proofs.Text.Reading
import Mathlib.Logic.Relation

namespace KnxIp.Settings

open Text

namespace Key

theorem ofWord_word (key : Key) : ofWord key.word = some key := by
  cases key <;> decide +kernel

/-- No two keys have the same word. -/
theorem ofWord_eq_some_iff {word : String} {key : Key} :
    ofWord word = some key ↔ word = key.word := by
  refine ⟨fun found => ?_, fun h => h ▸ ofWord_word key⟩
  have same := List.find?_some found
  exact (of_decide_eq_true same).symm

end Key

/-! ## Single lines -/

/-- A line that is blank or a comment. -/
def IsNote (line : List Char) : Prop := trim line = [] ∨ (trim line).head? = some '#'

instance (line : List Char) : Decidable (IsNote line) :=
  inferInstanceAs (Decidable (_ ∨ _))

/-- The value that a line gives to a key: what stands behind its first equals sign, if the word of
the key stands in front. -/
def valueIn (line : List Char) (key : Key) : Option (List Char) :=
  if IsNote line then none
  else (cut '=' (trim line)).bind fun (word, value) =>
    if String.ofList (trim word) = key.word then some (trim value) else none

/-- What is wrong with a line: it says nothing that can be understood, or the value in it cannot be
read. -/
def faultIn (line : List Char) : Option Fault :=
  match Line.read line with
  | .error f => some (.value f)
  | .ok .ignored => none
  | .ok (.assignment key value) => if key.accepts value then none else some (key.refusal value)

theorem valueIn_eq_some_iff {line value : List Char} {key : Key} :
    valueIn line key = some value ↔ Line.read line = .ok (.assignment key value) := by
  rw [valueIn, Line.read]
  by_cases note : IsNote line
  · rw [if_pos note]
    have ignored : trim line = [] ∨ (trim line).head? = some '#' := note
    simp [ignored]
  · rw [if_neg note]
    have spoken : ¬ (trim line = [] ∨ (trim line).head? = some '#') := note
    simp only [spoken, if_false]
    cases cut '=' (trim line) with
    | none => simp
    | some parts =>
      obtain ⟨word, rest⟩ := parts
      simp only [Option.bind_some]
      cases found : Key.ofWord (String.ofList (trim word)) with
      | none =>
        have other : String.ofList (trim word) ≠ key.word := fun same => by
          rw [Key.ofWord_eq_some_iff.mpr same] at found
          cases found
        simp [other]
      | some known =>
        have same := Key.ofWord_eq_some_iff.mp found
        have unique : known.word = key.word ↔ known = key := by
          refine ⟨fun h => ?_, congrArg _⟩
          rw [h] at same
          rw [Key.ofWord_eq_some_iff.mpr same] at found
          exact (Option.some.inj found).symm
        simp only [same, unique]
        by_cases h : known = key <;> simp [h]

/-- A line is understood if it is a note or has an equals sign. -/
theorem read_eq_error_iff {line : List Char} :
    (∃ f, Line.read line = .error f) ↔ ¬ (IsNote line ∨ '=' ∈ line) := by
  have solid : isBlank '=' = false := by decide
  rw [← @mem_trim '=' line solid, not_or, ← cut_eq_none_iff, Line.read]
  by_cases note : IsNote line
  · have ignored : trim line = [] ∨ (trim line).head? = some '#' := note
    simp [ignored, note]
  · have spoken : ¬ (trim line = [] ∨ (trim line).head? = some '#') := note
    simp only [spoken, if_false, note, not_false_iff, true_and]
    cases cut '=' (trim line) with
    | none => simp
    | some parts =>
      obtain ⟨word, rest⟩ := parts
      simp only [reduceCtorEq, iff_false]
      cases Key.ofWord (String.ofList (trim word)) <;> simp

/-- A line is sound if it is understood and what it gives can be read. -/
theorem faultIn_eq_none_iff {line : List Char} :
    faultIn line = none ↔
      (IsNote line ∨ '=' ∈ line) ∧
        ∀ key value, valueIn line key = some value → key.accepts value := by
  have understood : (IsNote line ∨ '=' ∈ line) ↔ ¬ ∃ f, Line.read line = .error f := by
    rw [read_eq_error_iff, Classical.not_not]
  simp only [understood, valueIn_eq_some_iff]
  unfold faultIn
  cases Line.read line with
  | error f => simp
  | ok said => cases said <;> simp

/-! ## All lines of a text -/

/-- The lines of a text. -/
def lines (text : String) : List (List Char) := split '\n' text.toList

/-- All values that the lines give to a key. -/
def values (ls : List (List Char)) (key : Key) : List (List Char) :=
  ls.filterMap fun line => valueIn line key

/-- The last value that the lines give to each key. -/
def given (ls : List (List Char)) : Given := fun key => (values ls key).getLast?

theorem values_append (ls more : List (List Char)) (key : Key) :
    values (ls ++ more) key = values ls key ++ values more key :=
  List.filterMap_append

theorem values_cons (line : List Char) (ls : List (List Char)) (key : Key) :
    values (line :: ls) key = (valueIn line key).toList ++ values ls key := by
  rw [values, List.filterMap_cons]
  cases valueIn line key <;> rfl

/-- What values become when the lines give others. -/
def Given.over (g : Given) (ls : List (List Char)) : Given := fun key => (given ls key).or (g key)

theorem Given.over_singleton (g : Given) (line : List Char) (key : Key) :
    g.over [line] key = (valueIn line key).or (g key) := by
  rw [Given.over, given, values_cons]
  cases valueIn line key <;> rfl

theorem Given.over_cons (g : Given) (line : List Char) (ls : List (List Char)) :
    g.over (line :: ls) = (g.over [line]).over ls := by
  funext key
  rw [Given.over, Given.over, Given.over_singleton, given, values_cons, List.getLast?_append,
    Option.or_assoc, given]
  cases valueIn line key <;> rfl

theorem Given.nothing_over (ls : List (List Char)) : Given.nothing.over ls = given ls := by
  funext key
  exact Option.or_none

/-- One line ends the reading by its fault, or else adds what it gives. -/
theorem addLine_collected (g : Given) (line : List Char) :
    g.collected.addLine line =
      (faultIn line).elim (.ok (g.over [line]).collected) .error := by
  have said (key : Key) (value : List Char) := @valueIn_eq_some_iff line value key
  rw [Collected.addLine, faultIn]
  cases read : Line.read line with
  | error f => rfl
  | ok saying =>
    rw [read] at said
    cases saying with
    | ignored =>
      have same : g.over [line] = g := by
        funext key
        have silent : valueIn line key = none :=
          Option.eq_none_iff_forall_ne_some.mpr fun value h => by
            cases (said key value).mp h
        rw [Given.over_singleton, silent, Option.none_or]
      rw [same]
      rfl
    | assignment key value =>
      have same : g.over [line] = g.set key value := by
        funext other
        rw [Given.over_singleton, Given.set]
        by_cases here : other = key
        · rw [if_pos here, here, (said key value).mpr rfl]
          rfl
        · have silent : valueIn line other = none :=
            Option.eq_none_iff_forall_ne_some.mpr fun w h => by
              cases (said other w).mp h
              exact here rfl
          rw [if_neg here, silent, Option.none_or]
      simp only [same, Given.assign_collected]
      cases key.accepts value <;> rfl

/-- The lines end the reading by the first fault in them, or else add what they give. -/
theorem addLines_collected (g : Given) (ls : List (List Char)) :
    g.collected.addLines ls =
      (ls.findSome? faultIn).elim (.ok (g.over ls).collected) .error := by
  induction ls generalizing g with
  | nil => rfl
  | cons line ls ih =>
    rw [Collected.addLines, addLine_collected, Given.over_cons g line ls]
    cases here : faultIn line with
    | some f =>
      rw [List.findSome?_cons_of_isSome (by rw [here]; rfl), here]
      rfl
    | none =>
      rw [List.findSome?_cons_of_isNone (by rw [here]; rfl)]
      exact ih (g.over [line])

/-- Reading a text ends by the first fault of a line, or by what is wrong with the settings that
the last values make up, or with these. -/
theorem ofProperties_eq (text : String) :
    ofProperties text = ((lines text).findSome? faultIn).elim
      ((given (lines text)).settings.validate.mapError .value |>.map fun _ =>
        (given (lines text)).settings) .error := by
  have read := addLines_collected .nothing (lines text)
  rw [Given.nothing_over, Given.collected_nothing] at read
  rw [ofProperties, show split '\n' text.toList = lines text from rfl, read]
  cases (lines text).findSome? faultIn with
  | some f => rfl
  | none =>
    simp only [Option.elim_none, bind, Except.bind, Given.finish_collected]
    cases (given (lines text)).settings.validate <;> rfl

/-- A text is accepted if every line is sound and what the last values make up validates. -/
theorem ofProperties_eq_ok_iff {text : String} {s : Settings} :
    ofProperties text = .ok s ↔
      (∀ line ∈ lines text, faultIn line = none) ∧
        s = (given (lines text)).settings ∧ s.validate = .ok () := by
  rw [ofProperties_eq, ← List.findSome?_eq_none_iff]
  cases (lines text).findSome? faultIn with
  | some f => simp
  | none =>
    simp only [Option.elim_none, true_and]
    cases valid : (given (lines text)).settings.validate with
    | error f =>
      refine iff_of_false (fun h : Except.error (Fault.value f) = .ok s => by cases h) ?_
      rintro ⟨rfl, h⟩
      rw [valid] at h
      cases h
    | ok u =>
      show Except.ok (given (lines text)).settings = .ok s ↔ _
      rw [Except.ok.injEq]
      exact ⟨fun h => ⟨h.symm, h ▸ valid⟩, fun h => h.1.symm⟩

/-- A text is refused for the first fault of a line, or for what is wrong with all the values. -/
theorem ofProperties_eq_error_iff {text : String} {f : Fault} :
    ofProperties text = .error f ↔
      (lines text).findSome? faultIn = some f ∨
        (∀ line ∈ lines text, faultIn line = none) ∧
          ∃ v, (given (lines text)).settings.validate = .error v ∧ f = .value v := by
  rw [ofProperties_eq, ← List.findSome?_eq_none_iff]
  cases (lines text).findSome? faultIn with
  | some g => simp
  | none =>
    simp only [Option.elim_none, reduceCtorEq, false_or, true_and]
    cases (given (lines text)).settings.validate with
    | error v =>
      show Except.error (Fault.value v) = .error f ↔ _
      simp [eq_comm]
    | ok u =>
      show Except.ok (given (lines text)).settings = .error f ↔ _
      simp

/-! ## Texts in other words -/

/-- A line that says nothing: a note, or one that gives a value to an unknown key. -/
def Idle (line : List Char) : Prop :=
  IsNote line ∨ ('=' ∈ line ∧ ∀ key, valueIn line key = none)

/-- One change of the lines that should not matter. -/
inductive Rewording : List (List Char) → List (List Char) → Prop
  /-- Two lines that do not give values to the same key change places. -/
  | swap {front back : List (List Char)} {a b : List Char}
      (apart : ∀ key, valueIn a key = none ∨ valueIn b key = none) :
      Rewording (front ++ a :: b :: back) (front ++ b :: a :: back)
  /-- A line that says nothing comes in. -/
  | insert {front back : List (List Char)} {line : List Char} (idle : Idle line) :
      Rewording (front ++ back) (front ++ line :: back)

namespace Idle

variable {line : List Char}

theorem valueIn_eq_none (idle : Idle line) (key : Key) : valueIn line key = none := by
  obtain note | ⟨-, others⟩ := idle
  · rw [valueIn, if_pos note]
  · exact others key

theorem faultIn_eq_none (idle : Idle line) : faultIn line = none := by
  refine faultIn_eq_none_iff.mpr ⟨idle.imp_right And.left, fun key value h => ?_⟩
  rw [idle.valueIn_eq_none key] at h
  cases h

end Idle

namespace Rewording

variable {ls ls' : List (List Char)}

/-- A rewording keeps the last value of each key. -/
theorem given_eq (change : Rewording ls ls') : given ls = given ls' := by
  funext key
  rw [given, given]
  cases change with
  | swap apart =>
    rw [values_append, values_append, values_cons, values_cons, values_cons, values_cons]
    obtain h | h := apart key <;> rw [h] <;> rfl
  | insert idle =>
    rw [values_append, values_append, values_cons, idle.valueIn_eq_none key]
    rfl

/-- A rewording neither brings nor takes a fault. -/
theorem sound_iff (change : Rewording ls ls') :
    (∀ line ∈ ls, faultIn line = none) ↔ ∀ line ∈ ls', faultIn line = none := by
  cases change with
  | swap =>
    simp only [List.forall_mem_append, List.forall_mem_cons, and_left_comm]
  | insert idle =>
    simp only [List.forall_mem_append, List.forall_mem_cons, idle.faultIn_eq_none, true_and]

/-- Any number of rewordings, in either direction, keep what makes up the settings. -/
theorem chain (changes : Relation.EqvGen Rewording ls ls') :
    given ls = given ls' ∧
      ((∀ line ∈ ls, faultIn line = none) ↔ ∀ line ∈ ls', faultIn line = none) := by
  induction changes with
  | rel _ _ change => exact ⟨change.given_eq, change.sound_iff⟩
  | refl _ => exact ⟨rfl, Iff.rfl⟩
  | symm _ _ _ ih => exact ⟨ih.1.symm, ih.2.symm⟩
  | trans _ _ _ _ _ ih ih' => exact ⟨ih.1.trans ih'.1, ih.2.trans ih'.2⟩

end Rewording

/-- No line is at fault if all lines are understood and all values can be read, also those that a
later line replaces. -/
theorem sound_iff_values {ls : List (List Char)} :
    (∀ line ∈ ls, faultIn line = none) ↔
      (∀ line ∈ ls, IsNote line ∨ '=' ∈ line) ∧
        ∀ key, ∀ value ∈ values ls key, key.accepts value := by
  simp only [faultIn_eq_none_iff, values, List.mem_filterMap]
  constructor
  · intro sound
    refine ⟨fun line here => (sound line here).1, ?_⟩
    rintro key value ⟨line, here, gives⟩
    exact (sound line here).2 key value gives
  · rintro ⟨understood, accepted⟩ line here
    exact ⟨understood line here, fun key value gives => accepted key value ⟨line, here, gives⟩⟩

/-- Texts that come out alike when they are accepted at all. -/
theorem toOption_eq_of_ok_iff {text text' : String}
    (alike : ∀ s, ofProperties text = .ok s ↔ ofProperties text' = .ok s) :
    (ofProperties text).toOption = (ofProperties text').toOption := by
  ext s
  rw [toOption_eq_some_iff, toOption_eq_some_iff, alike s]

/-- Of two collections of values that are the same but for the port of the gateway, the settings are
the same if there is no gateway or the two ports are one. -/
theorem Given.settings_eq_iff {g g' : Given}
    (same : ∀ key, key ≠ .gatewayPort → g key = g' key) :
    g.settings = g'.settings ↔ g.gatewayIp = none ∨ g.gatewayPort = g'.gatewayPort := by
  have ip : g'.gatewayIp = g.gatewayIp := by
    rw [Given.gatewayIp, Given.gatewayIp, same .gatewayIp (by decide)]
  have rest : { g.settings with remote := none } = { g'.settings with remote := none } := by
    simp (disch := decide) only [Given.settings, Given.socket, Given.timeouts, Given.retries,
      Given.read, same]
  have remote : g.settings = g'.settings ↔ g.settings.remote = g'.settings.remote := by
    refine ⟨congrArg _, fun h => ?_⟩
    have joined (x y : Settings) (others : { x with remote := none } = { y with remote := none })
        (h : x.remote = y.remote) : x = y := by
      cases x
      cases y
      simp_all
    exact joined _ _ rest h
  rw [remote]
  simp only [Given.settings, ip]
  cases g.gatewayIp <;> simp

/-- Settings texts do not depend on the order of their lines. -/
theorem ofProperties_order_independent :
    (∀ text s, ofProperties text = .ok s ↔
      (∀ line ∈ lines text, IsNote line ∨ '=' ∈ line) ∧
      (∀ key, ∀ value ∈ values (lines text) key, key.accepts value) ∧
      s = (given (lines text)).settings ∧ s.validate = .ok ()) ∧
    (∀ text text', Relation.EqvGen Rewording (lines text) (lines text') →
      (ofProperties text).toOption = (ofProperties text').toOption) ∧
    (∀ text text' s s', ofProperties text = .ok s → ofProperties text' = .ok s' →
      (∀ key, key ≠ .gatewayPort → given (lines text) key = given (lines text') key) →
      (s = s' ↔ given (lines text) .gatewayIp = none ∨
        (given (lines text)).gatewayPort = (given (lines text')).gatewayPort)) := by
  refine ⟨fun text s => ?_, fun text text' changes => ?_, fun text text' s s' read read' same => ?_⟩
  · rw [ofProperties_eq_ok_iff, sound_iff_values, and_assoc]
  · obtain ⟨last, sound⟩ := Rewording.chain changes
    refine toOption_eq_of_ok_iff fun s => ?_
    rw [ofProperties_eq_ok_iff, ofProperties_eq_ok_iff, last, sound]
  · obtain ⟨sound, rfl, -⟩ := ofProperties_eq_ok_iff.mp read
    obtain ⟨-, rfl, -⟩ := ofProperties_eq_ok_iff.mp read'
    have readable : (given (lines text)).gatewayIp = none ↔
        given (lines text) .gatewayIp = none := by
      rw [Given.gatewayIp]
      cases known : given (lines text) .gatewayIp with
      | none => simp
      | some value =>
        have accepted := (sound_iff_values.mp sound).2 .gatewayIp value
          (List.mem_of_getLast? known)
        rw [Key.accepts, Option.isSome_iff_exists] at accepted
        obtain ⟨ip, h⟩ := accepted
        simp [h]
    rw [Given.settings_eq_iff same, readable]

/-- The port of the gateway may stand in front of its address, and without an address it says
nothing. -/
theorem ofProperties_port_first :
    ofProperties "KNX_GATEWAY_PORT=3700\nKNX_GATEWAY_IP=10.0.0.1" =
        .ok (tunnelingTo ⟨⟨10, 0, 0, 1⟩, 3700⟩) ∧
      (ofProperties "KNX_GATEWAY_PORT=3700\nKNX_GATEWAY_IP=10.0.0.1").toOption =
        (ofProperties "KNX_GATEWAY_IP=10.0.0.1\nKNX_GATEWAY_PORT=3700").toOption ∧
      ∃ s s', ofProperties "KNX_GATEWAY_PORT=3700" = .ok s ∧ ofProperties "" = .ok s' ∧
        s = s' := by
  obtain ⟨-, reworded, port⟩ := ofProperties_order_independent
  have swapped : Relation.EqvGen Rewording
      (lines "KNX_GATEWAY_PORT=3700\nKNX_GATEWAY_IP=10.0.0.1")
      (lines "KNX_GATEWAY_IP=10.0.0.1\nKNX_GATEWAY_PORT=3700") := by
    have apart : ∀ key, valueIn "KNX_GATEWAY_PORT=3700".toList key = none ∨
        valueIn "KNX_GATEWAY_IP=10.0.0.1".toList key = none := by
      intro key
      cases key <;> decide +kernel
    have change := @Rewording.swap [] [] _ _ apart
    have here : lines "KNX_GATEWAY_PORT=3700\nKNX_GATEWAY_IP=10.0.0.1" =
        ["KNX_GATEWAY_PORT=3700".toList, "KNX_GATEWAY_IP=10.0.0.1".toList] := by decide +kernel
    have there : lines "KNX_GATEWAY_IP=10.0.0.1\nKNX_GATEWAY_PORT=3700" =
        ["KNX_GATEWAY_IP=10.0.0.1".toList, "KNX_GATEWAY_PORT=3700".toList] := by decide +kernel
    rw [here, there]
    exact .rel _ _ change
  have alone : ofProperties "KNX_GATEWAY_PORT=3700" = .ok standard :=
    toOption_eq_some_iff.mp (by decide +kernel)
  have empty : ofProperties "" = .ok standard := toOption_eq_some_iff.mp (by decide +kernel)
  have same : ∀ key, key ≠ .gatewayPort →
      given (lines "KNX_GATEWAY_PORT=3700") key = given (lines "") key := by
    intro key
    cases key <;> decide +kernel
  have unchanged := (port _ _ _ _ alone empty same).mpr (.inl (by decide +kernel))
  exact ⟨toOption_eq_some_iff.mp (by decide +kernel), reworded _ _ swapped, _, _, alone, empty,
    unchanged⟩

end KnxIp.Settings
