/-
  When polling looks, and that it misses nothing up to the deadline.

  The looks are made every `interval` ticks below the deadline and once more at the deadline
  itself (`looks`); polling is looking at these times, one after the other, until a look finds
  something (`poll_eq_along`). This says of any check what it is asked and when, also of one that
  changes something whenever it looks; a check that only counts gives `run` (`pollFrom_counted`).

  Main statement: the times of the looks, how many there are if nothing is found, and that what
  appears and stays until the deadline is found (`looks_until_deadline`). Waiting for a response
  and waiting for a value are polling with a pause of ten milliseconds.
-/
import KnxIp.Correlation
import KnxIp.Proofs.Polling
import KnxIp.StatusPool

namespace KnxIp.Polling

variable {σ α : Type} {look : Nat → σ → Option α × σ} {check : Nat → Nat → Option α}
  {timeout interval : Nat}

/-- How often the interval has to pass until the deadline is reached. -/
def pauses (timeout interval : Nat) : Nat := (timeout + interval - 1) / interval

/-- The times of the looks: every `interval` ticks below the deadline, and the deadline. -/
def looks (timeout interval : Nat) : List Nat :=
  (List.range (pauses timeout interval)).map (· * interval) ++ [timeout]

/-- Looks at these times, one after the other, until a look finds something. -/
def along (look : Nat → σ → Option α × σ) : List Nat → σ → Option α × σ
  | [], s => (none, s)
  | time :: times, s =>
    match look time s with
    | (some a, s) => (some a, s)
    | (none, s) => along look times s

/-! ## The times of the looks -/

theorem lt_pauses_iff (positive : 0 < interval) {k : Nat} :
    k < pauses timeout interval ↔ k * interval < timeout := by
  rw [pauses, Nat.lt_div_iff_mul_lt positive]
  omega

theorem length_looks : (looks timeout interval).length = pauses timeout interval + 1 := by
  simp [looks]

theorem mem_looks_iff (positive : 0 < interval) {time : Nat} :
    time ∈ looks timeout interval ↔ time < timeout ∧ interval ∣ time ∨ time = timeout := by
  simp only [looks, List.mem_append, List.mem_map, List.mem_range, lt_pauses_iff positive,
    List.mem_singleton]
  constructor
  · rintro (⟨k, early, rfl⟩ | last)
    · exact .inl ⟨early, Nat.dvd_mul_left interval k⟩
    · exact .inr last
  · rintro (⟨early, k, rfl⟩ | last)
    · exact .inl ⟨k, Nat.mul_comm interval k ▸ early, Nat.mul_comm k interval⟩
    · exact .inr last

/-- Every look comes later than those before it. -/
theorem pairwise_looks (positive : 0 < interval) : (looks timeout interval).Pairwise (· < ·) := by
  refine List.pairwise_append.mpr ⟨?_, List.pairwise_singleton _ _, fun time before last h => ?_⟩
  · refine List.pairwise_map.mpr (List.pairwise_lt_range.imp fun h => ?_)
    exact Nat.mul_lt_mul_of_pos_right h positive
  · obtain ⟨k, early, rfl⟩ := List.mem_map.mp before
    rw [List.mem_singleton.mp h]
    exact (lt_pauses_iff positive).mp (List.mem_range.mp early)

/-- The looks from the `k`-th interval on. -/
def looksFrom (timeout interval k : Nat) : List Nat :=
  (List.range' k (pauses timeout interval - k)).map (· * interval) ++ [timeout]

theorem looksFrom_zero : looksFrom timeout interval 0 = looks timeout interval := by
  rw [looksFrom, looks, Nat.sub_zero, List.range_eq_range']

theorem looksFrom_of_lt {k : Nat} (early : k < pauses timeout interval) :
    looksFrom timeout interval k = k * interval :: looksFrom timeout interval (k + 1) := by
  have left : pauses timeout interval - k = pauses timeout interval - (k + 1) + 1 := by omega
  rw [looksFrom, left, List.range'_succ]
  rfl

theorem looksFrom_of_le {k : Nat} (late : pauses timeout interval ≤ k) :
    looksFrom timeout interval k = [timeout] := by
  rw [looksFrom, Nat.sub_eq_zero_of_le late]
  rfl

/-! ## Polling looks at these times -/

section
variable {now : Nat} {s s' : σ} {a : α}

theorem pollFrom_of_seen (seen : look now s = (some a, s')) :
    pollFrom look timeout interval now s = (some a, s') := by
  rw [pollFrom, seen]

theorem pollFrom_of_late (unseen : look now s = (none, s')) (late : timeout ≤ now) :
    pollFrom look timeout interval now s = (none, s') := by
  rw [pollFrom, unseen]
  exact if_pos late

theorem pollFrom_of_early (unseen : look now s = (none, s')) (early : now < timeout) :
    pollFrom look timeout interval now s =
      pollFrom look timeout interval (now + min (max interval 1) (timeout - now)) s' := by
  rw [pollFrom, unseen]
  exact if_neg (Nat.not_le.mpr early)

end

/-- Polling goes on where the looks go on: the next time is that of the next interval, but never
behind the deadline. -/
theorem pollFrom_eq_along (positive : 0 < interval) (k : Nat) (s : σ) :
    pollFrom look timeout interval (min (k * interval) timeout) s =
      along look (looksFrom timeout interval k) s := by
  induction left : pauses timeout interval - k generalizing k s with
  | zero =>
    have late : pauses timeout interval ≤ k := by omega
    have behind : timeout ≤ k * interval := by
      rw [← Nat.not_lt, ← lt_pauses_iff positive]
      omega
    rw [looksFrom_of_le late, Nat.min_eq_right behind, along]
    rcases here : look timeout s with ⟨_ | a, s'⟩
    · exact pollFrom_of_late here (Nat.le_refl timeout)
    · exact pollFrom_of_seen here
  | succ left ih =>
    have early : k < pauses timeout interval := by omega
    have before : k * interval < timeout := (lt_pauses_iff positive).mp early
    have next : k * interval + min (max interval 1) (timeout - k * interval) =
        min ((k + 1) * interval) timeout := by
      rw [Nat.add_one_mul]
      omega
    rw [looksFrom_of_lt early, Nat.min_eq_left (Nat.le_of_lt before), along]
    rcases here : look (k * interval) s with ⟨_ | a, s'⟩
    · rw [pollFrom_of_early here before, next]
      exact ih (k + 1) s' (by omega)
    · exact pollFrom_of_seen here

theorem poll_eq_along (positive : 0 < interval) (s : σ) :
    poll look timeout interval s = along look (looks timeout interval) s := by
  have h : pollFrom look timeout interval (min (0 * interval) timeout) s =
      along look (looksFrom timeout interval 0) s := pollFrom_eq_along positive 0 s
  rwa [Nat.zero_mul, Nat.zero_min, looksFrom_zero] at h

/-- Polling by numbers is polling with a check that counts. -/
theorem pollFrom_counted (made now : Nat) :
    pollFrom (counted check) timeout interval now made =
      ((runFrom check timeout interval made now).found,
        (runFrom check timeout interval made now).checks) := by
  fun_induction runFrom check timeout interval made now with
  | case1 made now a seen => exact pollFrom_of_seen (by rw [counted, seen])
  | case2 made now unseen late => exact pollFrom_of_late (by rw [counted, unseen]) late
  | case3 made now unseen early ih =>
    rw [pollFrom_of_early (by rw [counted, unseen]) (Nat.not_le.mp early), ih]

/-- Looks that find nothing are all made. -/
theorem checks_of_unseen {times : List Nat} {made : Nat}
    (unseen : (along (counted check) times made).1 = none) :
    (along (counted check) times made).2 = made + times.length := by
  induction times generalizing made with
  | nil => rfl
  | cons time times ih =>
    rw [along, counted] at unseen ⊢
    cases here : check (made + 1) time with
    | some a =>
      rw [here] at unseen
      cases unseen
    | none =>
      rw [here] at unseen
      rw [ih unseen, List.length_cons]
      omega

/-! ## What appears in time is found -/

/-- Something appears at the time `since`, and is still there at the deadline. -/
structure Stays (seen : Nat → Option α) (a : α) (since timeout : Nat) : Prop where
  in_time : since ≤ timeout
  before : ∀ time < since, seen time = none
  after : ∀ time, since ≤ time → time ≤ timeout → seen time = some a

/-- What appears in time and stays is found, at whatever times the looks are made. -/
theorem found_of_stays {seen : Nat → Option α} {a : α} {since : Nat}
    (stays : Stays seen a since timeout) :
    (run (fun _ => seen) timeout interval).found = some a := by
  cases found : (run (fun _ => seen) timeout interval).found with
  | none =>
    obtain ⟨_, unseen⟩ := unseen_at_deadline found
    rw [stays.after timeout stays.in_time (Nat.le_refl timeout)] at unseen
    cases unseen
  | some b =>
    obtain ⟨_, time, early, here⟩ := seen_of_found found
    by_cases sooner : time < since
    · rw [stays.before time sooner] at here
      cases here
    · rw [stays.after time (Nat.not_lt.mp sooner) early] at here
      exact here.symm

/-- Polling looks at every multiple of the interval below the deadline and at the deadline, asks
the check at these times and no others until it finds something, and so misses nothing that is there
at the deadline. The interval may be counted in ticks of any length. -/
theorem looks_until_deadline {timeout interval : Nat} (positive : 0 < interval) :
    (looks timeout interval).Pairwise (· < ·) ∧
    (∀ time, time ∈ looks timeout interval ↔
      time < timeout ∧ interval ∣ time ∨ time = timeout) ∧
    (looks timeout interval).length = (timeout + interval - 1) / interval + 1 ∧
    (∀ {σ α : Type} (look : Nat → σ → Option α × σ) (s : σ),
      poll look timeout interval s = along look (looks timeout interval) s) ∧
    (∀ {α : Type} (check : Nat → Nat → Option α),
      poll (counted check) timeout interval 0 =
        ((run check timeout interval).found, (run check timeout interval).checks) ∧
      ((run check timeout interval).found = none →
        (run check timeout interval).checks = (timeout + interval - 1) / interval + 1)) ∧
    (∀ {α : Type} (seen : Nat → Option α),
      (∀ a since, Stays seen a since timeout →
        (run (fun _ => seen) timeout interval).found = some a) ∧
      ((run (fun _ => seen) timeout interval).found = none → seen timeout = none)) ∧
    (∀ (c : Nat → Correlator) (k : ExchangeKey),
      (∀ response since, Stays (fun time => (c time).response? k) response since timeout →
        Correlator.await c k timeout = some response) ∧
      (Correlator.await c k timeout = none → (c timeout).response? k = none)) ∧
    (∀ (s : Nat → StatusPool) (d : Destination) (fresh : Bool),
      (∀ entry since, Stays (fun time => (s time).get? d fresh) entry since timeout →
        StatusPool.await s d fresh timeout = some entry) ∧
      (StatusPool.await s d fresh timeout = none → (s timeout).get? d fresh = none)) := by
  refine ⟨pairwise_looks positive, fun _ => mem_looks_iff positive, length_looks,
    fun look s => poll_eq_along positive s, fun check => ⟨pollFrom_counted 0 0, fun unseen => ?_⟩,
    fun seen => ⟨fun a since stays => found_of_stays stays, fun unseen => ?_⟩,
    fun c k => ⟨fun response since stays => found_of_stays stays, fun unseen => ?_⟩,
    fun s d fresh => ⟨fun entry since stays => found_of_stays stays, fun unseen => ?_⟩⟩
  · have same : along (counted check) (looks timeout interval) 0 =
        ((run check timeout interval).found, (run check timeout interval).checks) :=
      (poll_eq_along positive 0).symm.trans (pollFrom_counted 0 0)
    have all : (along (counted check) (looks timeout interval) 0).2 =
        0 + (looks timeout interval).length := checks_of_unseen (by rw [same, unseen])
    rwa [same, Nat.zero_add, length_looks] at all
  · exact (unseen_at_deadline unseen).choose_spec
  · exact (unseen_at_deadline unseen).choose_spec
  · exact (unseen_at_deadline unseen).choose_spec

/-- With pauses of ten ticks and a deadline after 25, the last pause is cut short; what appears at
the deadline is found by the fourth look. -/
theorem looks_until_deadline_25 :
    0 < 10 ∧ looks 25 10 = [0, 10, 20, 25] ∧
      (run (fun _ _ => (none : Option Unit)) 25 10).checks = 4 ∧
      Stays (fun time => if 25 ≤ time then some time else none) 25 25 25 ∧
      (run (fun _ time => if 25 ≤ time then some time else none) 25 10).found = some 25 := by
  obtain ⟨-, -, -, -, counts, finds, -, -⟩ := @looks_until_deadline 25 10 (by decide)
  have stays : Stays (fun time => if 25 ≤ time then some time else none) 25 25 25 :=
    ⟨Nat.le_refl 25, fun time sooner => if_neg (Nat.not_le.mpr sooner), fun time late early => by
      rw [if_pos late, Nat.le_antisymm early late]⟩
  exact ⟨by decide, by decide, (counts _).2 (found_run_const none 25 10), stays,
    (finds _).1 25 25 stays⟩

end KnxIp.Polling
