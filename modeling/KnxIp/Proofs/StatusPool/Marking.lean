/-
  Marks, and the telegrams that are noted after them.

  A pool is known by its entries (`ext_find?`). Noting telegrams never makes an entry dirty, and a
  telegram that brings a value for an address leaves nothing of what was known before
  (`find?_noteAll_of_renewed`). So a mark is lost when a value comes after it
  (`markDirty_noteAll_eq_iff`), and else it makes dirty the one entry that it is about, if that was
  fresh (`isDirty?_markDirty_noteAll_iff`).
-/
import KnxIp.Proofs.StatusPool.History
import Mathlib.Data.List.Sort

namespace KnxIp.StatusPool

theorem mem_entries_iff {s : StatusPool} {d : Destination} {e : StatusEntry} :
    (d, e) ∈ s.entries ↔ s.find? d = some e := by
  unfold find?
  constructor
  · intro mem
    obtain ⟨ps, ascending⟩ := s
    dsimp only at mem ⊢
    induction ps with
    | nil => cases mem
    | cons p ps ih =>
      obtain ⟨above, rest⟩ := List.pairwise_cons.mp ascending
      rw [List.find?_cons]
      obtain rfl | mem := List.mem_cons.mp mem
      · simp
      · have other : p.1 ≠ d := fun same => by
          have less := above _ mem
          rw [same] at less
          exact lt_irrefl _ less
        simp only [other, decide_false]
        exact ih rest mem
  · intro found
    obtain ⟨p, here, rfl⟩ := Option.map_eq_some_iff.mp found
    have same : p.1 = d := by simpa using List.find?_some here
    rw [← same]
    exact List.mem_of_find?_eq_some here

/-- Pools with the same entries are the same. -/
theorem ext_find? {s t : StatusPool} (same : ∀ d, s.find? d = t.find? d) : s = t := by
  have members (p : Destination × StatusEntry) : p ∈ s.entries ↔ p ∈ t.entries := by
    rw [mem_entries_iff, mem_entries_iff, same]
  have entries : s.entries = t.entries :=
    List.Pairwise.eq_of_mem_iff (r := fun p q : Destination × StatusEntry => p.1.rank < q.1.rank)
      s.ascending t.ascending members
  cases s
  cases t
  cases entries
  rfl

/-- The pool after telegrams were noted. -/
def noteAll (s : StatusPool) (telegrams : List Telegram) : StatusPool :=
  s.run (telegrams.map .note)

theorem noteAll_append (s : StatusPool) (xs ys : List Telegram) :
    s.noteAll (xs ++ ys) = (s.noteAll xs).noteAll ys := by
  rw [noteAll, List.map_append, run, List.foldl_append]
  rfl

/-- One of the telegrams brings a value for the address. -/
def Renewed (telegrams : List Telegram) (d : Destination) : Prop :=
  ∃ t ∈ telegrams, ∃ value, (Operation.note t).update? = some (d, value)

theorem find?_noteAll_of_not_renewed (s : StatusPool) {telegrams : List Telegram} {d : Destination}
    (old : ¬ Renewed telegrams d) : (s.noteAll telegrams).find? d = s.find? d := by
  have none : ∀ o ∈ telegrams.map Operation.note, ¬ o.Renews d := by
    rintro o mem (clears | renews)
    · obtain ⟨t, -, rfl⟩ := List.mem_map.mp mem
      cases clears
    · obtain ⟨t, among, rfl⟩ := List.mem_map.mp mem
      exact old ⟨t, among, renews⟩
  have unmarked : Operation.markDirty d ∉ telegrams.map Operation.note := by
    rintro mem
    obtain ⟨t, -, same⟩ := List.mem_map.mp mem
    cases same
  rw [noteAll, find?_run_of_not_renews s none]
  simp [unmarked]

/-- Once a value has come for an address, its entry is fresh, and nothing of it is left from
before. -/
theorem find?_noteAll_of_renewed {telegrams : List Telegram} {d : Destination}
    (renewed : Renewed telegrams d) :
    ∃ e : StatusEntry,
      e.dirty = false ∧ ∀ s : StatusPool, (s.noteAll telegrams).find? d = some e := by
  obtain ⟨t, mem, value, updates⟩ := renewed
  obtain old | ⟨before, op, since, split, renews, old⟩ :=
    exists_last_renewal (telegrams.map Operation.note) d
  · exact absurd (.inr ⟨value, updates⟩) (old _ (List.mem_map_of_mem mem))
  · have notes : ∀ o ∈ before ++ op :: since, ∃ t, o = .note t := by
      rw [← split]
      intro o mem
      obtain ⟨t, -, rfl⟩ := List.mem_map.mp mem
      exact ⟨t, rfl⟩
    have unmarked : Operation.markDirty d ∉ since := fun mem => by
      obtain ⟨t, same⟩ := notes (.markDirty d) (by simp [mem])
      cases same
    obtain rfl | ⟨⟨apci, data, source⟩, updates⟩ := renews
    · obtain ⟨t, same⟩ := notes .clear (by simp)
      cases same
    · refine ⟨⟨apci, data, source, false⟩, rfl, fun s => ?_⟩
      rw [noteAll, split, run_split, find?_run_of_not_renews _ old, apply_of_update? _ updates,
        update, find?_insert, if_pos rfl]
      simp [unmarked]

/-- A mark has no effect in the end exactly if there was nothing fresh, or a value has come. -/
theorem markDirty_noteAll_eq_iff (s : StatusPool) (telegrams : List Telegram) (d : Destination) :
    (s.markDirty d).noteAll telegrams = s.noteAll telegrams ↔
      s.get? d true = none ∨ Renewed telegrams d := by
  constructor
  · intro same
    by_cases renewed : Renewed telegrams d
    · exact .inr renewed
    · have entry := congrArg (·.find? d) same
      simp only [find?_noteAll_of_not_renewed _ renewed, find?_markDirty, if_pos] at entry
      refine .inl (Option.filter_eq_none_iff.mpr fun e known fresh => ?_)
      rw [known] at entry
      have dirty : true = e.dirty := congrArg StatusEntry.dirty (Option.some.inj entry)
      simp [← dirty] at fresh
  · intro unseen
    refine ext_find? fun a => ?_
    by_cases renewed : Renewed telegrams a
    · obtain ⟨e, -, known⟩ := find?_noteAll_of_renewed renewed
      rw [known, known]
    · rw [find?_noteAll_of_not_renewed _ renewed, find?_noteAll_of_not_renewed _ renewed,
        find?_markDirty]
      by_cases here : a = d
      · subst here
        rw [if_pos rfl]
        have stale := Option.filter_eq_none_iff.mp (unseen.resolve_right renewed)
        cases known : s.find? a with
        | none => rfl
        | some e =>
          have dirty : e.dirty = true := by simpa using stale e known
          rw [Option.map_some, ← dirty]
      · rw [if_neg here]

/-- An entry becomes dirty by a mark exactly if it is that of the address, was fresh, and no value
has come. -/
theorem isDirty?_markDirty_noteAll_iff (s : StatusPool) (telegrams : List Telegram)
    (d a : Destination) :
    s.isDirty? a ≠ some true ∧ ((s.markDirty d).noteAll telegrams).isDirty? a = some true ↔
      a = d ∧ s.get? d true ≠ none ∧ ¬ Renewed telegrams d := by
  unfold isDirty?
  by_cases renewed : Renewed telegrams a
  · obtain ⟨e, fresh, known⟩ := find?_noteAll_of_renewed renewed
    rw [known]
    constructor
    · rintro ⟨-, dirty⟩
      simp [fresh] at dirty
    · rintro ⟨rfl, -, old⟩
      exact absurd renewed old
  · rw [find?_noteAll_of_not_renewed _ renewed, find?_markDirty]
    by_cases here : a = d
    · subst here
      rw [if_pos rfl, get?]
      cases known : s.find? a with
      | none => simp
      | some e => simp [renewed, Option.filter]
    · rw [if_neg here]
      constructor
      · rintro ⟨clean, dirty⟩
        exact absurd dirty clean
      · rintro ⟨same, -⟩
        exact absurd same here

end KnxIp.StatusPool
