/-
  What a watch writes down.

  Each entry of a record is judged by the entries before it (`Follows`): when the watch asks, when a
  check may end, and when the connection is given up. The invariant of a run is that the watch knows
  what its record says: the row of failures at the end of it is the one that it counts (`Attested`).
-/
import KnxIp.Session.Vigil

namespace KnxIp

/-! ## Failures in a row -/

/-- How many of the last outcomes in a row are failures. -/
def streak (outcomes : List Bool) : Nat := (outcomes.reverse.takeWhile (!·)).length

theorem streak_concat_success (outcomes : List Bool) : streak (outcomes ++ [true]) = 0 := by
  simp [streak]

theorem streak_concat_failure (outcomes : List Bool) :
    streak (outcomes ++ [false]) = streak outcomes + 1 := by
  simp [streak]

theorem replicate_prefix_iff {m : Nat} {outcomes : List Bool} :
    List.replicate m false <+: outcomes ↔ m ≤ (outcomes.takeWhile (!·)).length := by
  induction outcomes generalizing m with
  | nil => simp
  | cons alive outcomes ih =>
    cases m with
    | zero => simp
    | succ m => cases alive <;> simp [List.replicate_succ, ih]

theorem replicate_suffix_iff {m : Nat} {outcomes : List Bool} :
    List.replicate m false <:+ outcomes ↔ m ≤ streak outcomes := by
  rw [← List.reverse_prefix, List.reverse_replicate, replicate_prefix_iff]
  rfl

/-! ## What a watch does at a look -/

namespace KeepAlive

variable {k : KeepAlive}

theorem due_cases (rests : k.phase = .resting) (channel : Option UInt8) :
    (k.running = false ∧ k.due channel = { k with phase := .over false }) ∨
    (k.running = true ∧ channel = none ∧ k.due channel = { k with phase := .over false }) ∨
    ∃ c, k.running = true ∧ channel = some c ∧ k.due channel = { k with phase := .checking c } := by
  unfold due
  rw [rests]
  cases running : k.running with
  | false => exact .inl ⟨rfl, rfl⟩
  | true =>
    cases channel with
    | none => exact .inr (.inl ⟨rfl, rfl, rfl⟩)
    | some c => exact .inr (.inr ⟨c, rfl, rfl, rfl⟩)

theorem judge_cases {c : UInt8} (checks : k.phase = .checking c) (alive : Bool) :
    (k.running = false ∧ k.judge alive = { k with phase := .over false }) ∨
    (k.running = true ∧ alive = true ∧
      k.judge alive = { k with failures := 0, phase := .resting }) ∨
    (k.running = true ∧ alive = false ∧ k.maxFailures ≤ k.failures + 1 ∧ k.judge alive =
      { k with failures := k.failures + 1, running := false, phase := .over true }) ∨
    (k.running = true ∧ alive = false ∧ k.failures + 1 < k.maxFailures ∧
      k.judge alive = { k with failures := k.failures + 1, phase := .resting }) := by
  unfold judge
  rw [checks]
  cases running : k.running with
  | false => exact .inl ⟨rfl, rfl⟩
  | true =>
    cases alive with
    | true => exact .inr (.inl ⟨rfl, rfl, rfl⟩)
    | false =>
      by_cases enough : k.maxFailures ≤ k.failures + 1
      · exact .inr (.inr (.inl ⟨rfl, rfl, enough, if_pos enough⟩))
      · exact .inr (.inr (.inr ⟨rfl, rfl, by omega, if_neg enough⟩))

end KeepAlive

namespace Vigil

/-! ## Records -/

/-- How the checks have ended, in order. -/
def outcomes (record : List Mark) : List Bool :=
  record.filterMap fun | .ended alive => some alive | _ => none

/-- The last thing that the watch has done itself. -/
def last? (record : List Mark) : Option Mark := (record.filter (· ≠ .stopped)).getLast?

/-- The check before has ended, if there was one. -/
def Rested (record : List Mark) : Prop :=
  last? record = none ∨ ∃ alive, last? record = some (.ended alive)

/-- What comes next in a record, if anything does, after these entries. -/
structure Follows (m : Nat) (before : List Mark) (next : Option Mark) : Prop where
  /-- It wakes from a rest, which begins when the check before has ended. -/
  wakes : ∀ channel, next = some (.woke channel) → Rested before
  /-- It asks about the channel that there is when it wakes, unless it was stopped. -/
  asks : ∀ c, next = some (.asked c) ↔
    last? before = some (.woke (some c)) ∧ .stopped ∉ before
  /-- A check that ends was begun. -/
  concludes : ∀ alive, next = some (.ended alive) → ∃ c, last? before = some (.asked c)
  /-- It gives up when a check has failed, and so many in a row, unless it was stopped. -/
  givesUp : next = some .gaveUp ↔
    last? before = some (.ended false) ∧ List.replicate m false <:+ outcomes before ∧
      .stopped ∉ before

section

variable {m : Nat} {record before : List Mark}

@[simp] theorem last?_concat_stopped (record : List Mark) :
    last? (record ++ [.stopped]) = last? record := by
  simp [last?]

theorem last?_concat (record : List Mark) {x : Mark} (own : x ≠ .stopped) :
    last? (record ++ [x]) = some x := by
  simp [last?, List.filter_append, own]

theorem rested_concat_stopped (record : List Mark) :
    Rested (record ++ [.stopped]) ↔ Rested record := by
  unfold Rested
  rw [last?_concat_stopped]

theorem not_rested_of_last {x : Mark} (last : last? record = some x)
    (other : ∀ alive, x ≠ .ended alive) : ¬ Rested record := by
  intro rested
  obtain none | ⟨alive, ended⟩ := rested
  · cases last.symm.trans none
  · exact other alive (Option.some.inj (last.symm.trans ended))

/-- Nothing has to come next. -/
theorem follows_none (silent : ∀ c, last? before = some (.woke (some c)) → .stopped ∈ before)
    (kept : last? before = some (.ended false) → List.replicate m false <:+ outcomes before →
      .stopped ∈ before) : Follows m before none where
  wakes _ next := by cases next
  asks c := by
    refine ⟨nofun, fun ⟨woke, running⟩ => ?_⟩
    exact absurd (silent c woke) running
  concludes _ next := by cases next
  givesUp := by
    refine ⟨nofun, fun ⟨failed, all, running⟩ => ?_⟩
    exact absurd (kept failed all) running

theorem follows_none_of_last {x : Mark} (last : last? before = some x)
    (answered : ∀ c, x ≠ .woke (some c)) (well : x ≠ .ended false) : Follows m before none := by
  refine follows_none (fun c woke => ?_) (fun failed => ?_)
  · exact absurd (Option.some.inj (last.symm.trans woke)) (answered c)
  · exact absurd (Option.some.inj (last.symm.trans failed)) well

/-- Where nothing has to come next, anything may that is no request and no giving up. -/
theorem Follows.next (h : Follows m before none) {x : Mark} (unasked : ∀ c, x ≠ .asked c)
    (kept : x ≠ .gaveUp)
    (wakes : ∀ channel, x = .woke channel → Rested before)
    (concludes : ∀ alive, x = .ended alive → ∃ c, last? before = some (.asked c)) :
    Follows m before (some x) where
  wakes channel next := wakes channel (Option.some.inj next)
  asks c := by
    rw [← h.asks c]
    exact ⟨fun next => absurd (Option.some.inj next) (unasked c), nofun⟩
  concludes alive next := concludes alive (Option.some.inj next)
  givesUp := by
    rw [← h.givesUp]
    exact ⟨fun next => absurd (Option.some.inj next) kept, nofun⟩

/-- After the connection was given up, or no channel was found, the watch does nothing. -/
theorem stopped_of_last {x : Mark} (last : last? before = some x)
    (final : x = .gaveUp ∨ x = .woke none) {after : List Mark}
    (led : ∀ first rest, after = first ++ rest → Follows m (before ++ first) rest.head?) :
    ∀ y ∈ after, y = .stopped := by
  -- A stop leaves the last deed as it is, so the induction goes from one stop to the next.
  induction after generalizing before with
  | nil => nofun
  | cons y after ih =>
    have next := led [] (y :: after) rfl
    rw [List.append_nil] at next
    have stopped : y = .stopped := by
      cases y with
      | woke channel =>
        refine absurd (next.wakes channel rfl) (not_rested_of_last last ?_)
        obtain rfl | rfl := final <;> nofun
      | asked c =>
        have asked := ((next.asks c).mp rfl).1
        rw [last] at asked
        obtain rfl | rfl := final <;> simp at asked
      | ended alive =>
        obtain ⟨c, asked⟩ := next.concludes alive rfl
        rw [last] at asked
        obtain rfl | rfl := final <;> simp at asked
      | gaveUp =>
        have failed := (next.givesUp.mp rfl).1
        rw [last] at failed
        obtain rfl | rfl := final <;> simp at failed
      | stopped => rfl
    subst stopped
    intro z mem
    obtain rfl | mem := List.mem_cons.mp mem
    · rfl
    · refine ih ((last?_concat_stopped before).trans last) (fun first rest parts => ?_) z mem
      have here := led (.stopped :: first) rest (by rw [parts, List.cons_append])
      rwa [List.append_cons] at here

/-- A record in which each entry follows from those before it. -/
inductive Led (m : Nat) : List Mark → Prop
  | nil : Led m []
  | concat {record : List Mark} {x : Mark} (led : Led m record)
    (follows : Follows m record (some x)) : Led m (record ++ [x])

theorem Led.follows (led : Led m record) {next : Option Mark} (last : Follows m record next)
    {before after : List Mark} (parts : record = before ++ after) :
    Follows m before (after.head?.or next) := by
  -- What comes last in a longer record is what comes next after the shorter one.
  induction led generalizing next after with
  | nil =>
    obtain ⟨rfl, rfl⟩ := List.append_eq_nil_iff.mp parts.symm
    exact last
  | @concat record x led follows ih =>
    obtain rfl | ⟨after, y, rfl⟩ := List.eq_nil_or_concat after
    · rw [List.append_nil] at parts
      exact parts ▸ last
    · rw [List.concat_eq_append] at parts ⊢
      rw [← List.append_assoc] at parts
      obtain ⟨front, same⟩ := List.append_inj' parts rfl
      cases same
      rw [List.head?_append, Option.or_assoc]
      exact ih follows front

end

/-! ## The watch and its record -/

/-- What a watch knows is what the record says, as long as it goes on. -/
structure Attested (m : Nat) (k : KeepAlive) (record : List Mark) : Prop where
  maxFailures : k.maxFailures = m
  led : Led m record
  settled : Follows m record none
  running : (∀ gaveUp, k.phase ≠ .over gaveUp) → (k.running = true ↔ .stopped ∉ record)
  failures : (∀ gaveUp, k.phase ≠ .over gaveUp) → k.failures = streak (outcomes record)
  resting : k.phase = .resting → Rested record
  rests : Rested record → .stopped ∉ record → k.phase = .resting
  checking : ∀ c, k.phase = .checking c ↔ last? record = some (.asked c)

theorem attested_new (m : Nat) : Attested m (.new m) [] where
  maxFailures := rfl
  led := .nil
  settled := follows_none nofun nofun
  running _ := by simp [KeepAlive.new]
  failures _ := rfl
  resting _ := .inl rfl
  rests _ _ := rfl
  checking c := ⟨nofun, nofun⟩

namespace Attested

variable {m : Nat} {k : KeepAlive} {record : List Mark}

/-- A watch that is over has nothing to know. -/
theorem of_over (maxFailures : k.maxFailures = m) {gaveUp : Bool} (ended : k.phase = .over gaveUp)
    (led : Led m record) (settled : Follows m record none) {x : Mark}
    (last : last? record = some x) (unasked : ∀ c, x ≠ .asked c)
    (stopped : Rested record → .stopped ∈ record) : Attested m k record where
  maxFailures
  led
  settled
  running goesOn := absurd ended (goesOn gaveUp)
  failures goesOn := absurd ended (goesOn gaveUp)
  resting rests := by rw [ended] at rests; cases rests
  rests rested running := absurd (stopped rested) running
  checking c := by
    rw [ended, last]
    exact ⟨nofun, fun asked => absurd (Option.some.inj asked) (unasked c)⟩

theorem stop (h : Attested m k record) : Attested m k.stop (record ++ [.stopped]) where
  maxFailures := h.maxFailures
  led := h.led.concat (h.settled.next nofun nofun nofun nofun)
  settled := follows_none (fun _ _ => by simp) (fun _ _ => by simp)
  running _ := by simp [KeepAlive.stop]
  failures goesOn := by
    rw [outcomes, List.filterMap_append]
    exact (h.failures goesOn).trans (by simp [outcomes])
  resting rests := (rested_concat_stopped record).mpr (h.resting rests)
  rests _ running := by simp at running
  checking c := by
    rw [last?_concat_stopped]
    exact h.checking c

/-- A watch that wakes asks about the channel, or it is over. -/
theorem due (h : Attested m k record) (rests : k.phase = .resting) (channel : Option UInt8) :
    (∃ c, (k.due channel).phase = .checking c ∧
      Attested m (k.due channel) (record ++ [.woke channel] ++ [.asked c])) ∨
    (∀ c, (k.due channel).phase ≠ .checking c) ∧
      Attested m (k.due channel) (record ++ [.woke channel]) := by
  have woken : Led m (record ++ [.woke channel]) :=
    h.led.concat (h.settled.next nofun nofun (fun _ _ => h.resting rests) nofun)
  have last := last?_concat record (x := .woke channel) nofun
  have running := h.running (by simp [rests])
  obtain ⟨flag, ended⟩ | ⟨flag, rfl, ended⟩ | ⟨c, flag, rfl, begun⟩ :=
    KeepAlive.due_cases rests channel
  · have stopped : .stopped ∈ record := by simpa [flag] using running
    rw [ended]
    exact .inr ⟨nofun, of_over h.maxFailures rfl woken
      (follows_none (fun _ _ => by simp [stopped]) fun _ _ => by simp [stopped])
      last nofun fun _ => by simp [stopped]⟩
  · rw [ended]
    exact .inr ⟨nofun, of_over h.maxFailures rfl woken (follows_none_of_last last nofun nofun)
      last nofun fun rested => absurd rested (not_rested_of_last last nofun)⟩
  · have unstopped : .stopped ∉ record := running.mp flag
    have asked : Follows m (record ++ [.woke (some c)]) (some (.asked c)) :=
      { wakes := nofun
        asks := fun c' => by rw [last]; simp [unstopped]
        concludes := nofun
        givesUp := ⟨nofun, fun ⟨failed, _⟩ => by cases last.symm.trans failed⟩ }
    have now := last?_concat (record ++ [.woke (some c)]) (x := .asked c) nofun
    rw [begun]
    refine .inl ⟨c, rfl, h.maxFailures, woken.concat asked, follows_none_of_last now nofun nofun,
      ?_, ?_, nofun, fun rested => absurd rested (not_rested_of_last now nofun), ?_⟩
    · intro _
      simp [flag, unstopped]
    · intro _
      rw [outcomes, List.filterMap_append, List.filterMap_append]
      simpa [outcomes] using h.failures (by simp [rests])
    · intro c'
      rw [now]
      simp

/-- When a check ends, the connection is given up, or it is not. -/
theorem judge (h : Attested m k record) {c : UInt8} (checks : k.phase = .checking c)
    (alive : Bool) :
    ((k.judge alive).phase = .over true ∧
      Attested m (k.judge alive) (record ++ [.ended alive] ++ [.gaveUp])) ∨
    (k.judge alive).phase ≠ .over true ∧
      Attested m (k.judge alive) (record ++ [.ended alive]) := by
  have ended : Led m (record ++ [.ended alive]) :=
    h.led.concat (h.settled.next nofun nofun nofun fun _ _ => ⟨c, (h.checking c).mp checks⟩)
  have last := last?_concat record (x := .ended alive) nofun
  have silent : ∀ c', last? (record ++ [.ended alive]) = some (.woke (some c')) →
      .stopped ∈ record ++ [.ended alive] := by
    intro c' woke
    cases last.symm.trans woke
  have unasked : ∀ c', WatchPhase.resting = .checking c' ↔
      last? (record ++ [.ended alive]) = some (.asked c') := by
    intro c'
    rw [last]
    exact ⟨nofun, nofun⟩
  have results : outcomes (record ++ [.ended alive]) = outcomes record ++ [alive] := by
    rw [outcomes, List.filterMap_append]
    rfl
  have running := h.running (by simp [checks])
  have failures := h.failures (by simp [checks])
  have unstopped : k.running = true → .stopped ∉ record ++ [.ended alive] := by
    intro flag
    simpa using running.mp flag
  -- A failure is the last of a row that is longer by one.
  have lost : alive = false → (List.replicate m false <:+ outcomes (record ++ [.ended alive]) ↔
      k.maxFailures ≤ k.failures + 1) := by
    intro failed
    rw [replicate_suffix_iff, results, failed, streak_concat_failure, ← failures, h.maxFailures]
  obtain ⟨flag, same⟩ | ⟨flag, rfl, same⟩ | ⟨flag, rfl, enough, same⟩ | ⟨flag, rfl, few, same⟩ :=
    KeepAlive.judge_cases checks alive
  · have stopped : .stopped ∈ record := by simpa [flag] using running
    rw [same]
    exact .inr ⟨nofun, of_over h.maxFailures rfl ended
      (follows_none silent fun _ _ => by simp [stopped]) last nofun fun _ => by simp [stopped]⟩
  · rw [same]
    refine .inr ⟨nofun, h.maxFailures, ended, follows_none_of_last last nofun nofun,
      ?_, ?_, ?_, fun _ _ => rfl, unasked⟩
    · intro _
      exact iff_of_true flag (unstopped flag)
    · intro _
      rw [results, streak_concat_success]
    · intro _
      exact .inr ⟨true, last⟩
  · have gaveUp : Follows m (record ++ [.ended false]) (some .gaveUp) :=
      { wakes := nofun
        asks := fun c' => ⟨nofun, fun ⟨woke, _⟩ => by cases last.symm.trans woke⟩
        concludes := nofun
        givesUp := iff_of_true rfl ⟨last, (lost rfl).mpr enough, unstopped flag⟩ }
    have now := last?_concat (record ++ [.ended false]) (x := .gaveUp) nofun
    rw [same]
    exact .inl ⟨rfl, of_over h.maxFailures rfl (ended.concat gaveUp)
      (follows_none_of_last now nofun nofun) now nofun
      fun rested => absurd rested (not_rested_of_last now nofun)⟩
  · rw [same]
    refine .inr ⟨nofun, h.maxFailures, ended, follows_none silent ?_, ?_, ?_, ?_,
      fun _ _ => rfl, unasked⟩
    · intro _ all
      have enough := (lost rfl).mp all
      omega
    · intro _
      exact iff_of_true flag (unstopped flag)
    · intro _
      rw [results, streak_concat_failure, ← failures]
    · intro _
      exact .inr ⟨false, last⟩

end Attested

theorem attested_wake {m : Nat} {v : Vigil} (h : Attested m v.watch v.record) (n : Network) :
    Attested m (v.wake n).watch (v.wake n).record := by
  unfold wake
  split
  · next rests =>
    obtain ⟨c, checks, asked⟩ | ⟨silent, woken⟩ :=
      h.due rests v.world.context.connection.channelId
    · dsimp only
      rw [checks]
      exact asked
    · dsimp only
      split
      · next c checks => exact absurd checks (silent c)
      · exact woken
  · exact h

theorem attested_conclude {m : Nat} {v : Vigil} (h : Attested m v.watch v.record) :
    Attested m v.conclude.watch v.conclude.record := by
  unfold conclude
  split
  · next c checks =>
    obtain ⟨lost, gaveUp⟩ | ⟨other, kept⟩ := h.judge checks v.foundAlive
    · dsimp only
      rw [if_pos lost]
      exact gaveUp
    · dsimp only
      rw [if_neg other]
      exact kept
  · exact h

theorem attested_run {m : Nat} {v : Vigil} (h : Attested m v.watch v.record)
    (turns : List Turn) : Attested m (v.run turns).watch (v.run turns).record := by
  induction turns generalizing v with
  | nil => exact h
  | cons t turns ih =>
    refine ih (v := v.apply t) ?_
    cases t with
    | wake n => exact attested_wake h n
    | conclude => exact attested_conclude h
    | stop => exact h.stop
    | meanwhile world => exact h

end Vigil
end KnxIp
