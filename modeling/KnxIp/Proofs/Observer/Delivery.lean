/-
  Every event reaches every observer once.

  Several workers share the queue, so the handings of several events mix. `Account` keeps apart
  what the pool itself does not: which event, by its number, a worker has, which event each
  handing was of, and how far each event has got. `Account.Of` relates the account to the pool;
  it holds of a new pool and is kept by every deed (`Account.Of.exists_run`).

  Main statement: when all workers have ended, each observer was handed the events notified
  before the shutdown, each of them once and no other; each event went through the observers in
  the order of their registration; and a single worker hands out the events in the order in
  which they were notified (`delivered_of_run`). That the workers do come to their end is
  `load_step`: after a shutdown each step of a worker leaves less to do.
-/
import KnxIp.Delivery
import Mathlib.Algebra.GroupWithZero.Nat
import Mathlib.Data.List.Nodup
import Mathlib.Data.List.Perm.Basic

namespace KnxIp.Observers

variable {o : Observers} {events : List Event}

/-! ## What a worker's step does -/

/-- What one step of a worker can be. -/
inductive Steps (o : Observers) (i : Nat) : Observers → Prop
  /-- It waits, or it is none that works. -/
  | rest (idle : o.accepting = true ∨ ∀ w, o.workers[i]? = some w → w = .ended) : Steps o i o
  /-- It takes the next event. -/
  | take (e : Event) (queue : List Event) (idle : o.workers[i]? = some .idle)
      (next : o.queue = e :: queue) :
      Steps o i { o with queue, workers := o.workers.set i (.handing e 0) }
  /-- It ends. -/
  | quit (idle : o.workers[i]? = some .idle) (shut : o.accepting = false) (none : o.queue = []) :
      Steps o i { o with workers := o.workers.set i .ended }
  /-- It hands its event to the next observer. -/
  | hand (e : Event) (place : Nat) (failed : List (Nat × Event))
      (busy : o.workers[i]? = some (.handing e place)) (there : place < o.observers.length) :
      Steps o i { o with
        workers := o.workers.set i (.handing e (place + 1))
        handed := o.handed ++ [(place, e)]
        failed }
  /-- It has been to all observers. -/
  | finish (e : Event) (place : Nat) (busy : o.workers[i]? = some (.handing e place))
      (all : o.observers.length ≤ place) :
      Steps o i { o with workers := o.workers.set i .idle }

theorem steps_step (o : Observers) (i : Nat) : Steps o i (o.step i) := by
  unfold step
  split
  · next none => exact .rest (.inr fun w h => by cases none.symm.trans h)
  · next ended => exact .rest (.inr fun w h => (Option.some.inj (ended.symm.trans h)).symm)
  · next idle =>
    split
    · next e queue next => exact .take e queue idle next
    · next none =>
      split
      · next accepting => exact .rest (.inl accepting)
      · next shut => exact .quit idle (by simpa using shut) none
  · next e place busy =>
    split
    · next all => exact .finish e place busy (by simpa using all)
    · next observer there =>
      exact .hand e place _ busy (List.getElem?_eq_some_iff.mp there).1

theorem accepting_step (o : Observers) (i : Nat) : (o.step i).accepting = o.accepting := by
  generalize o.step i = o', steps_step o i = steps
  cases steps <;> rfl

/-- Failing on other events makes them neither more nor fewer. -/
theorem length_temper (o : Observers) (place : Nat) (failsOn : Event → Bool) :
    (Deed.apply o (.temper place failsOn)).observers.length = o.observers.length :=
  List.length_modify ..

/-- What every deed keeps true, of the pool and the events notified so far, is true after all
deeds, of the events notified before the shutdown. -/
theorem holds_run {P : Observers → List Event → Prop}
    (notify : ∀ {o events}, o.accepting = true → ∀ e, P o events → P (o.notify e) (events ++ [e]))
    (work : ∀ {o events} (i), P o events → P (o.step i) events)
    (temper : ∀ {o events} (place failsOn), P o events →
      P (Deed.apply o (.temper place failsOn)) events)
    (shutdown : ∀ {o events}, P o events → P o.shutdown events)
    (deeds : List Deed) (h : P o events) :
    P (o.run deeds) (events ++ if o.accepting then notified deeds else []) := by
  induction deeds generalizing o events with
  | nil => simpa [run, notified] using h
  | cons d deeds ih =>
    show P ((d.apply o).run deeds) _
    cases d with
    | notify e =>
      by_cases accepting : o.accepting = true
      · have still : (o.notify e).accepting = true := by rwa [Observers.notify, if_pos accepting]
        simpa [Deed.apply, notified, accepting, still] using ih (notify accepting e h)
      · have same : o.notify e = o := if_neg accepting
        simpa [Deed.apply, same, accepting] using ih h
    | work i => simpa [Deed.apply, notified, accepting_step] using ih (work i h)
    | temper place failsOn => exact ih (temper place failsOn h)
    | shutdown => simpa [Deed.apply, notified, Observers.shutdown] using ih (shutdown h)

/-! ## The account -/

/-- The worker at this place has an event, and hands it to this observer next. -/
def Busy (o : Observers) (i : Nat) (e : Event) (place : Nat) : Prop :=
  o.workers[i]? = some (.handing e place)

/-- What happened to the events, by their numbers. -/
structure Account where
  /-- To how many observers each event was handed that a worker has taken. -/
  reached : List Nat
  /-- Of each handing, the observer and the number of the event. -/
  handings : List (Nat × Nat)
  /-- The number of the event that each worker took last. -/
  holds : Nat → Nat

/-- A handing is of this observer and the event of this number. -/
def IsHanding (events : List Event) (h : Nat × Event) (t : Nat × Nat) : Prop :=
  h.1 = t.1 ∧ events[t.2]? = some h.2

/-- The observers that were handed the event of this number, in order. -/
def placesOf (handings : List (Nat × Nat)) (number : Nat) : List Nat :=
  (handings.filter (·.2 == number)).map (·.1)

/-- The account is one of this pool, which was told of these events. -/
structure Account.Of (a : Account) (o : Observers) (events : List Event) : Prop where
  taken_le : a.reached.length ≤ events.length
  queue : o.queue = events.drop a.reached.length
  handings : List.Forall₂ (IsHanding events) o.handed a.handings
  places : ∀ k, placesOf a.handings k = List.range (a.reached.getD k 0)
  busy : ∀ i e place, o.Busy i e place →
    events[a.holds i]? = some e ∧ a.reached[a.holds i]? = some place ∧ place ≤ o.observers.length
  apart : ∀ i e place j f there, o.Busy i e place → o.Busy j f there →
    a.holds i = a.holds j → i = j
  reached : ∀ k place, a.reached[k]? = some place → place = o.observers.length ∨
    ∃ i e there, o.Busy i e there ∧ a.holds i = k
  ended : .ended ∈ o.workers → o.accepting = false ∧ o.queue = []

theorem getElem?_append_of_some {l : List Event} {k : Nat} {e : Event} (more : List Event)
    (h : l[k]? = some e) : (l ++ more)[k]? = some e := by
  rw [List.getElem?_append_left (List.getElem?_eq_some_iff.mp h).1, h]

theorem placesOf_concat (l : List (Nat × Nat)) (place number k : Nat) :
    placesOf (l ++ [(place, number)]) k =
      placesOf l k ++ if number = k then [place] else [] := by
  by_cases h : number = k <;> simp [placesOf, h]

/-- What the workers do after one of them went on to something else. -/
theorem busy_set {o : Observers} {i j : Nat} {e : Event} {place : Nat} {w : Worker}
    (h : (o.workers.set i w)[j]? = some (.handing e place)) :
    j = i ∧ w = .handing e place ∨ j ≠ i ∧ o.Busy j e place := by
  rw [List.getElem?_set] at h
  by_cases same : i = j
  · subst same
    simp only [if_true] at h
    split at h
    · exact .inl ⟨rfl, Option.some.inj h⟩
    · cases h
  · rw [if_neg same] at h
    exact .inr ⟨Ne.symm same, h⟩

theorem busy_set_self {o : Observers} {i : Nat} {w w' : Worker} (h : o.workers[i]? = some w) :
    (o.workers.set i w')[i]? = some w' := by
  rw [List.getElem?_set_self (List.getElem?_eq_some_iff.mp h).1]

theorem busy_set_of_ne {o : Observers} {i j : Nat} {e : Event} {place : Nat} (w : Worker)
    (ne : j ≠ i) (h : o.Busy j e place) : (o.workers.set i w)[j]? = some (.handing e place) := by
  rw [List.getElem?_set_ne (Ne.symm ne)]
  exact h

theorem account_pool (observers : List Observer) (size : Nat) :
    (⟨[], [], fun _ => 0⟩ : Account).Of (pool observers size) [] := by
  have idle : ∀ w ∈ (pool observers size).workers, w = .idle := by
    intro w h
    simp only [pool] at h
    split at h
    · cases h
    · exact List.eq_of_mem_replicate h
  have free : ∀ i e place, ¬ (pool observers size).Busy i e place := fun i e place h => by
    cases idle _ (List.mem_of_getElem? h)
  exact {
    taken_le := Nat.le_refl _
    queue := rfl
    handings := .nil
    places := fun k => rfl
    busy := fun i e place h => absurd h (free i e place)
    apart := fun i e place j f there h => absurd h (free i e place)
    reached := fun k place h => by simp at h
    ended := fun h => by cases idle _ h }

namespace Account.Of

variable {a : Account}

theorem notify (h : a.Of o events) (accepting : o.accepting = true) (e : Event) :
    a.Of (o.notify e) (events ++ [e]) := by
  rw [Observers.notify, if_pos accepting]
  exact { h with
    taken_le := by have := h.taken_le; simp; omega
    queue := by rw [List.drop_append_of_le_length h.taken_le, ← h.queue]
    handings := h.handings.imp fun _ _ is => ⟨is.1, getElem?_append_of_some _ is.2⟩
    busy := fun i f place b =>
      have ⟨number, rest⟩ := h.busy i f place b
      ⟨getElem?_append_of_some _ number, rest⟩
    ended := fun ended => by cases (h.ended ended).1.symm.trans accepting }

theorem shutdown (h : a.Of o events) : a.Of o.shutdown events :=
  { h with ended := fun ended => ⟨rfl, (h.ended ended).2⟩ }

theorem temper (h : a.Of o events) (place : Nat) (failsOn : Event → Bool) :
    a.Of (Deed.apply o (.temper place failsOn)) events where
  taken_le := h.taken_le
  queue := h.queue
  handings := h.handings
  places := h.places
  busy i e at' b := by
    rw [length_temper]
    exact h.busy i e at' b
  apart := h.apart
  reached k at' r := by
    rw [length_temper]
    exact h.reached k at' r
  ended := h.ended

/-- A worker takes the next event, which has the next number. -/
theorem take (h : a.Of o events) {i : Nat} {e : Event} {queue : List Event}
    (idle : o.workers[i]? = some .idle) (next : o.queue = e :: queue) :
    (⟨a.reached ++ [0], a.handings, Function.update a.holds i a.reached.length⟩ : Account).Of
      { o with queue, workers := o.workers.set i (.handing e 0) } events := by
  have dropped : events.drop a.reached.length = e :: queue := h.queue.symm.trans next
  have number : events[a.reached.length]? = some e := by
    rw [← List.head?_drop, dropped, List.head?_cons]
  have lt : a.reached.length < events.length := (List.getElem?_eq_some_iff.mp number).1
  -- the numbers of the events that others have are below the new one
  have below : ∀ j f place, o.Busy j f place → a.holds j < a.reached.length := fun j f place b =>
    (List.getElem?_eq_some_iff.mp (h.busy j f place b).2.1).1
  exact {
    taken_le := by simp; omega
    queue := by
      rw [List.length_append, List.length_singleton, ← List.tail_drop, dropped, List.tail_cons]
    handings := h.handings
    places := fun k => by
      rw [h.places, List.getD_eq_getElem?_getD, List.getD_eq_getElem?_getD, List.getElem?_append]
      split
      · rfl
      · next ge =>
        rw [List.getElem?_eq_none (by omega)]
        cases k - a.reached.length <;> rfl
    busy := fun j f place b => by
      obtain ⟨rfl, same⟩ | ⟨ne, b⟩ := busy_set b
      · cases same
        simp [number]
      · have lt := below j f place b
        simpa [Function.update_of_ne ne, List.getElem?_append_left lt] using h.busy j f place b
    apart := fun j f place j' f' place' b b' same => by
      obtain ⟨rfl, -⟩ | ⟨ne, was⟩ := busy_set b <;>
        obtain ⟨rfl, -⟩ | ⟨ne', was'⟩ := busy_set b'
      · rfl
      · simp only [Function.update_self, Function.update_of_ne ne'] at same
        have := below j' f' place' was'
        omega
      · simp only [Function.update_self, Function.update_of_ne ne] at same
        have := below j f place was
        omega
      · simp only [Function.update_of_ne ne, Function.update_of_ne ne'] at same
        exact h.apart j f place j' f' place' was was' same
    reached := fun k place r => by
      rw [List.getElem?_append] at r
      split at r
      · obtain all | ⟨j, f, there, b, rfl⟩ := h.reached k place r
        · exact .inl all
        · have ne : j ≠ i := by
            rintro rfl
            cases idle.symm.trans b
          exact .inr ⟨j, f, there, busy_set_of_ne _ ne b, Function.update_of_ne ne _ _⟩
      · next ge =>
        have last : k = a.reached.length := by
          have := (List.getElem?_eq_some_iff.mp r).1
          simp at this
          omega
        exact .inr ⟨i, e, 0, busy_set_self idle, by simp [last]⟩
    ended := fun ended => by
      obtain ended | same := List.mem_or_eq_of_mem_set ended
      · cases next.symm.trans (h.ended ended).2
      · cases same }

/-- A worker hands its event to the next observer. -/
theorem hand (h : a.Of o events) {i : Nat} {e : Event} {place : Nat}
    (failed : List (Nat × Event)) (busy : o.Busy i e place)
    (there : place < o.observers.length) :
    (⟨a.reached.set (a.holds i) (place + 1), a.handings ++ [(place, a.holds i)], a.holds⟩ :
      Account).Of
      { o with
        workers := o.workers.set i (.handing e (place + 1))
        handed := o.handed ++ [(place, e)]
        failed } events := by
  obtain ⟨number, reached, -⟩ := h.busy i e place busy
  have lt : a.holds i < a.reached.length := (List.getElem?_eq_some_iff.mp reached).1
  exact {
    taken_le := by simpa using h.taken_le
    queue := by simpa using h.queue
    handings := List.rel_append h.handings (.cons ⟨rfl, number⟩ .nil)
    places := fun k => by
      rw [placesOf_concat, h.places, List.getD_eq_getElem?_getD, List.getD_eq_getElem?_getD,
        List.getElem?_set]
      split
      · next same =>
        subst same
        rw [reached]
        exact (List.range_succ ..).symm
      · rw [List.append_nil]
    busy := fun j f at' b => by
      obtain ⟨rfl, same⟩ | ⟨ne, b⟩ := busy_set b
      · cases same
        exact ⟨number, List.getElem?_set_self lt, there⟩
      · have apart : a.holds i ≠ a.holds j := fun same =>
          ne (h.apart j f at' i e place b busy same.symm)
        simpa [List.getElem?_set_ne apart] using h.busy j f at' b
    apart := fun j f at' j' f' at'' b b' same => by
      obtain ⟨rfl, -⟩ | ⟨ne, was⟩ := busy_set b <;>
        obtain ⟨rfl, -⟩ | ⟨ne', was'⟩ := busy_set b'
      · rfl
      · exact h.apart _ _ _ _ _ _ busy was' same
      · exact h.apart _ _ _ _ _ _ was busy same
      · exact h.apart _ _ _ _ _ _ was was' same
    reached := fun k at' r => by
      rw [List.getElem?_set] at r
      split at r
      · next same => exact .inr ⟨i, e, place + 1, busy_set_self busy, same⟩
      · next apart =>
        obtain all | ⟨j, f, there', b, rfl⟩ := h.reached k at' r
        · exact .inl all
        · have ne : j ≠ i := fun same => apart (by rw [same])
          exact .inr ⟨j, f, there', busy_set_of_ne _ ne b, rfl⟩
    ended := fun ended => by
      obtain ended | same := List.mem_or_eq_of_mem_set ended
      · exact h.ended ended
      · cases same }

/-- A worker that has no event, or has handed its event to all observers, goes on without one. -/
theorem release (h : a.Of o events) {i : Nat} {w : Worker} (free : ∀ e place, w ≠ .handing e place)
    (all : ∀ e place, o.Busy i e place → o.observers.length ≤ place)
    (ends : w = .ended → o.accepting = false ∧ o.queue = []) :
    a.Of { o with workers := o.workers.set i w } events :=
  have still : ∀ j f place, (o.workers.set i w)[j]? = some (.handing f place) → o.Busy j f place :=
    fun j f place b => by
      obtain ⟨-, same⟩ | ⟨-, b⟩ := busy_set b
      · exact absurd same (free f place)
      · exact b
  { h with
    busy := fun j f place b => h.busy j f place (still j f place b)
    apart := fun j f place j' f' place' b b' =>
      h.apart j f place j' f' place' (still j f place b) (still j' f' place' b')
    reached := fun k at' r => by
      obtain every | ⟨j, f, there, b, rfl⟩ := h.reached k at' r
      · exact .inl every
      · by_cases same : j = i
        · subst same
          obtain ⟨-, reached, le⟩ := h.busy j f there b
          cases reached.symm.trans r
          exact .inl (Nat.le_antisymm le (all f at' b))
        · exact .inr ⟨j, f, there, busy_set_of_ne _ same b, rfl⟩
    ended := fun ended => by
      obtain ended | same := List.mem_or_eq_of_mem_set ended
      · exact h.ended ended
      · exact ends same.symm }

end Account.Of

/-- A worker's step can be entered into the account. -/
theorem exists_account_step {a : Account} (h : a.Of o events) (i : Nat) :
    ∃ a' : Account, a'.Of (o.step i) events := by
  generalize o.step i = o', steps_step o i = steps
  cases steps with
  | rest => exact ⟨a, h⟩
  | take e queue idle next => exact ⟨_, h.take idle next⟩
  | quit idle shut none =>
    refine ⟨a, h.release (by simp) (fun e place b => ?_) fun _ => ⟨shut, none⟩⟩
    cases idle.symm.trans b
  | hand e place failed busy there => exact ⟨_, h.hand failed busy there⟩
  | finish e place busy all =>
    refine ⟨a, h.release (by simp) (fun f at' b => ?_) (by simp)⟩
    cases busy.symm.trans b
    exact all

theorem Account.Of.exists_run {a : Account} (h : a.Of o events) (deeds : List Deed) :
    ∃ a' : Account, a'.Of (o.run deeds)
      (events ++ if o.accepting then notified deeds else []) :=
  holds_run (P := fun o events => ∃ a : Account, a.Of o events)
    (fun accepting e ⟨a, h⟩ => ⟨a, h.notify accepting e⟩)
    (fun i ⟨_, h⟩ => exists_account_step h i)
    (fun place failsOn ⟨a, h⟩ => ⟨a, h.temper place failsOn⟩)
    (fun ⟨a, h⟩ => ⟨a, h.shutdown⟩) deeds ⟨a, h⟩

/-! ## One worker -/

/-- What a worker will still hand over of the event it has. -/
def due (size : Nat) : Worker → List (Nat × Event)
  | .handing e place => (List.range' place (size - place)).map (·, e)
  | .idle | .ended => []

/-- What was handed over, what the only worker has left of its event, and what is in the queue
make up the events, each for all observers in turn. -/
def InTurn (o : Observers) (events : List Event) : Prop :=
  ∃ w, o.workers = [w] ∧
    o.handed ++ due o.observers.length w ++ o.queue.flatMap (fan o.observers.length) =
      events.flatMap (fan o.observers.length)

theorem due_start (size : Nat) (e : Event) : due size (.handing e 0) = fan size e := by
  rw [due, fan, List.range_eq_range', Nat.sub_zero]

theorem due_next {size place : Nat} (e : Event) (there : place < size) :
    due size (.handing e place) = (place, e) :: due size (.handing e (place + 1)) := by
  have left : size - place = size - (place + 1) + 1 := by omega
  rw [due, left, List.range'_succ, List.map_cons, due]

theorem due_end {size place : Nat} (e : Event) (all : size ≤ place) :
    due size (.handing e place) = [] := by
  rw [due, Nat.sub_eq_zero_of_le all]
  rfl

theorem inTurn_step (h : InTurn o events) (i : Nat) : InTurn (o.step i) events := by
  generalize o.step i = o', steps_step o i = steps
  obtain ⟨w, only, told⟩ := h
  -- the only worker is the one that takes the step
  have first : ∀ {w'}, o.workers[i]? = some w' → i = 0 ∧ w' = w := fun {w'} h => by
    rw [only] at h
    cases i with
    | zero => exact ⟨rfl, (Option.some.inj h).symm⟩
    | succ i => cases h
  cases steps with
  | rest => exact ⟨w, only, told⟩
  | take e queue idle next =>
    obtain ⟨rfl, rfl⟩ := first idle
    refine ⟨.handing e 0, by rw [only]; rfl, ?_⟩
    rw [← told, next, due_start]
    simp [due]
  | quit idle shut none =>
    obtain ⟨rfl, rfl⟩ := first idle
    exact ⟨.ended, by rw [only]; rfl, told⟩
  | hand e place failed busy there =>
    obtain ⟨rfl, rfl⟩ := first busy
    refine ⟨.handing e (place + 1), by rw [only]; rfl, ?_⟩
    rw [← told, due_next e there]
    simp
  | finish e place busy all =>
    obtain ⟨rfl, rfl⟩ := first busy
    refine ⟨.idle, by rw [only]; rfl, ?_⟩
    rw [← told, due_end e all]
    rfl

theorem inTurn_run (h : InTurn o events) (deeds : List Deed) :
    InTurn (o.run deeds) (events ++ if o.accepting then notified deeds else []) := by
  refine holds_run (P := InTurn) ?_ (fun i h => inTurn_step h i) ?_ id deeds h
  · rintro o events accepting e ⟨w, only, told⟩
    rw [notify, if_pos accepting]
    refine ⟨w, only, ?_⟩
    simp only [List.flatMap_append, ← told, List.append_assoc]
  · rintro o events place failsOn ⟨w, only, told⟩
    refine ⟨w, only, ?_⟩
    rwa [length_temper]

/-! ## Delivery -/

theorem Account.Of.done {a : Account} (h : a.Of o events) (some : o.workers ≠ [])
    (ended : ∀ w ∈ o.workers, w = .ended) (k : Nat) :
    placesOf a.handings k = if k < events.length then List.range o.observers.length else [] := by
  obtain ⟨w, there⟩ := List.exists_mem_of_ne_nil _ some
  have none : o.queue = [] := (h.ended (ended w there ▸ there)).2
  have all : events.length ≤ a.reached.length := List.drop_eq_nil_iff.mp (h.queue ▸ none)
  rw [h.places, List.getD_eq_getElem?_getD]
  split
  · next lt =>
    have taken : k < a.reached.length := by omega
    rw [List.getElem?_eq_getElem taken, Option.getD_some]
    obtain every | ⟨i, e, place, busy, -⟩ := h.reached k _ (List.getElem?_eq_getElem taken)
    · rw [every]
    · cases ended _ (List.mem_of_getElem? busy)
  · next ge =>
    have := h.taken_le
    rw [List.getElem?_eq_none (by omega)]
    rfl

/-- The numbers of the events that an observer was handed, in order. -/
def numbersOf (handings : List (Nat × Nat)) (place : Nat) : List Nat :=
  (handings.filter (·.1 == place)).map (·.2)

theorem count_numbersOf (handings : List (Nat × Nat)) (place number : Nat) :
    (numbersOf handings place).count number = (placesOf handings number).count place := by
  induction handings with
  | nil => rfl
  | cons h handings ih =>
    by_cases here : h.1 = place <;> by_cases this : h.2 = number <;>
      simp_all [numbersOf, placesOf]

theorem count_range (size k : Nat) : (List.range size).count k = if k < size then 1 else 0 := by
  split
  · next lt => exact List.count_eq_one_of_mem List.nodup_range (List.mem_range.mpr lt)
  · next ge => exact List.count_eq_zero_of_not_mem (mt List.mem_range.mp ge)

/-- Each observer was handed each event once. -/
theorem numbersOf_perm {handings : List (Nat × Nat)} {size place : Nat} (there : place < size)
    (places : ∀ k, placesOf handings k = if k < events.length then List.range size else []) :
    (numbersOf handings place).Perm (List.range events.length) := by
  refine List.perm_iff_count.mpr fun k => ?_
  rw [count_numbersOf, places, count_range]
  split
  · rw [count_range, if_pos there]
  · rfl

theorem map_handedTo {handings : List (Nat × Nat)}
    (h : List.Forall₂ (IsHanding events) o.handed handings) (place : Nat) :
    (o.handedTo place).map some = (numbersOf handings place).map (events[·]?) := by
  unfold handedTo numbersOf
  generalize o.handed = handed at h
  induction h with
  | nil => rfl
  | cons is _ ih =>
    obtain ⟨same, event⟩ := is
    rw [List.filter_cons, List.filter_cons, same]
    split
    · simp only [List.map_cons, event, ih]
    · exact ih

theorem handedTo_perm {handings : List (Nat × Nat)} {size place : Nat} (there : place < size)
    (h : List.Forall₂ (IsHanding events) o.handed handings)
    (places : ∀ k, placesOf handings k = if k < events.length then List.range size else []) :
    (o.handedTo place).Perm events := by
  refine (List.map_perm_map_iff (fun _ _ => Option.some.inj)).mp ?_
  rw [map_handedTo h]
  have all : (List.range events.length).map (events[·]?) = events.map some := by
    refine List.ext_getElem (by simp) fun k _ _ => by simp
  exact all ▸ (numbersOf_perm there places).map _

theorem filter_fan {size place : Nat} (there : place < size) (e : Event) :
    (fan size e).filter (·.1 == place) = [(place, e)] := by
  have once : (List.range size).filter (· == place) = [place] := by
    rw [List.filter_beq, count_range, if_pos there]
    rfl
  rw [fan, List.filter_map, show ((·.1 == place) ∘ (·, e) : Nat → Bool) = (· == place) from rfl,
    once]
  rfl

theorem handedTo_of_inTurn (h : InTurn o events) (ended : ∀ w ∈ o.workers, w = .ended)
    (none : o.queue = []) {place : Nat} (there : place < o.observers.length) :
    o.handedTo place = events := by
  obtain ⟨w, only, told⟩ := h
  have done : w = .ended := ended w (by rw [only]; exact List.mem_singleton_self w)
  rw [done, none, due, List.append_nil, List.flatMap_nil, List.append_nil] at told
  rw [handedTo, told]
  clear told
  induction events with
  | nil => rfl
  | cons e events ih =>
    rw [List.flatMap_cons, List.filter_append, List.map_append, ih, filter_fan there]
    rfl

/-- Neither workers nor observers come or go. -/
theorem manned_run (deeds : List Deed) (some : o.workers ≠ []) :
    (o.run deeds).workers ≠ [] ∧ (o.run deeds).observers.length = o.observers.length := by
  let P : Observers → List Event → Prop := fun o' _ =>
    o'.workers ≠ [] ∧ o'.observers.length = o.observers.length
  refine @holds_run o [] P ?_ ?_ ?_ id deeds ⟨some, rfl⟩
  · intro o' _ accepting e h
    rwa [notify, if_pos accepting]
  · rintro o' _ i ⟨some, same⟩
    generalize o'.step i = o'', steps_step o' i = steps
    cases steps <;> exact ⟨by simpa using some, same⟩
  · rintro o' _ place failsOn ⟨some, same⟩
    exact ⟨some, (length_temper ..).trans same⟩

/-- Whoever fails on what, and in whatever order the workers take their steps: when all workers
have ended, each observer was handed each event notified before the shutdown once, and no other;
there is a numbering of the handings by which each event went to all observers in the order of
their registration; and a single worker keeps the order of the events. -/
theorem delivered_of_run (observers : List Observer) (size : Nat) (deeds : List Deed)
    (some : observers ≠ [])
    (ended : ∀ w ∈ ((pool observers size).run deeds).workers, w = .ended) :
    (∀ place < observers.length,
      (((pool observers size).run deeds).handedTo place).Perm (notified deeds)) ∧
    (∃ handings,
      List.Forall₂ (IsHanding (notified deeds)) ((pool observers size).run deeds).handed handings ∧
      ∀ k < (notified deeds).length, placesOf handings k = List.range observers.length) ∧
    (size ≤ 1 → ∀ place < observers.length,
      ((pool observers size).run deeds).handedTo place = notified deeds) := by
  have any : observers.isEmpty = false := by simpa using some
  have accepting : (pool observers size).accepting = true := by simp [pool, any]
  have manned : (pool observers size).workers ≠ [] := by
    simp [pool, any, List.replicate_eq_nil_iff]
  obtain ⟨manned, same⟩ := manned_run deeds manned
  replace same : ((pool observers size).run deeds).observers.length = observers.length := same
  obtain ⟨a, account⟩ := (account_pool observers size).exists_run deeds
  rw [accepting, if_pos rfl, List.nil_append] at account
  have places := account.done manned ended
  rw [same] at places
  refine ⟨fun place there => handedTo_perm there account.handings places, ⟨a.handings,
    account.handings, fun k lt => by rw [places, if_pos lt]⟩, fun single place there => ?_⟩
  have inTurn : InTurn (pool observers size) [] :=
    ⟨.idle, by simp [pool, any, Nat.max_eq_right single], rfl⟩
  replace inTurn := inTurn_run inTurn deeds
  rw [accepting, if_pos rfl, List.nil_append] at inTurn
  obtain ⟨w, member⟩ := List.exists_mem_of_ne_nil _ manned
  exact handedTo_of_inTurn inTurn ended (account.ended (ended w member ▸ member)).2
    (same.symm ▸ there)

/-- Two workers, the first observer failing on the start: the start is taken first and handed
over last, what is notified after the shutdown is not handed over. -/
theorem delivered_of_run_two :
    let deeds : List Deed := [.temper 0 (· == .start), .notify .start, .notify .init, .work 0,
      .work 1, .work 1, .work 1, .shutdown, .work 0, .notify .shutdown, .work 0, .work 0, .work 1,
      .work 1, .work 0]
    let o := (pool [.steady, .steady] 2).run deeds
    (∀ w ∈ o.workers, w = .ended) ∧ o.failed = [(0, .start)] ∧
      o.handed = [(0, .init), (1, .init), (0, .start), (1, .start)] ∧
      (o.handedTo 0).Perm [.start, .init] := by
  intro deeds o
  have ended : ∀ w ∈ o.workers, w = .ended := by decide
  exact ⟨ended, by decide, by decide,
    (delivered_of_run [.steady, .steady] 2 deeds (by decide) ended).1 0 (by decide)⟩

/-! ## The end of the workers -/

/-- So many steps a worker still has with its event and before it ends. -/
def stepsLeft (size : Nat) : Worker → Nat
  | .idle => 1
  | .handing _ place => size - place + 2
  | .ended => 0

/-- So many steps are left to all workers if no more events come. -/
def load (o : Observers) : Nat :=
  o.queue.length * (o.observers.length + 2) + (o.workers.map (stepsLeft o.observers.length)).sum

theorem sum_map_set (f : Worker → Nat) {l : List Worker} {i : Nat} {w : Worker} (w' : Worker)
    (h : l[i]? = some w) : ((l.set i w').map f).sum + f w = (l.map f).sum + f w' := by
  induction l generalizing i with
  | nil => cases h
  | cons v l ih =>
    cases i with
    | zero =>
      cases h
      simp only [List.set_cons_zero, List.map_cons, List.sum_cons]
      omega
    | succ i =>
      have := ih h
      simp only [List.set_cons_succ, List.map_cons, List.sum_cons]
      omega

/-- After a shutdown every step of a worker that has not ended leaves less to do. -/
theorem load_step (shut : o.accepting = false) {i : Nat} {w : Worker}
    (there : o.workers[i]? = some w) (working : w ≠ .ended) : (o.step i).load < o.load := by
  generalize o.step i = o', steps_step o i = steps
  cases steps with
  | rest idle =>
    obtain accepting | ended := idle
    · cases shut.symm.trans accepting
    · exact absurd (ended w there) working
  | take e queue idle next =>
    have := sum_map_set (stepsLeft o.observers.length) (.handing e 0) idle
    simp only [load, next, stepsLeft, List.length_cons, Nat.succ_mul] at this ⊢
    omega
  | quit idle _ none =>
    have := sum_map_set (stepsLeft o.observers.length) .ended idle
    simp only [load, stepsLeft] at this ⊢
    omega
  | hand e place failed busy here =>
    have := sum_map_set (stepsLeft o.observers.length) (.handing e (place + 1)) busy
    simp only [load, stepsLeft] at this ⊢
    omega
  | finish e place busy all =>
    have := sum_map_set (stepsLeft o.observers.length) .idle busy
    simp only [load, stepsLeft] at this ⊢
    omega

/-- After a shutdown the workers can come to their end, whatever they have left to do. -/
theorem exists_ended {o : Observers} (shut : o.accepting = false) :
    ∃ works : List Nat, ∀ w ∈ (o.run (works.map .work)).workers, w = .ended := by
  by_cases ended : ∀ w ∈ o.workers, w = .ended
  · exact ⟨[], ended⟩
  · simp only [not_forall] at ended
    obtain ⟨w, member, working⟩ := ended
    obtain ⟨i, there⟩ := List.mem_iff_getElem?.mp member
    have less := load_step shut there working
    obtain ⟨works, h⟩ := exists_ended (o := o.step i) ((accepting_step o i).trans shut)
    exact ⟨i :: works, h⟩
termination_by o.load

end KnxIp.Observers
