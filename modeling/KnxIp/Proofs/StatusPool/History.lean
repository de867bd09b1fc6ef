/-
  What a status pool knows after any history.

  Seen from one address, an operation either renews what is known, because it clears the pool or
  updates this address, or it can at most make the entry dirty (`find?_apply_of_not_renews`). So
  the last operation that renews decides: if it is an update, the entry holds what it has set, and
  is dirty exactly if the address was marked after it (`Leaves`).

  Main statement: after any history that begins with the empty pool, every address has just the
  entry that the history leaves for it (`entry_of_run`).
-/
import KnxIp.Proofs.Polling
import KnxIp.StatusPool
import Mathlib.Data.List.Induction

namespace KnxIp.StatusPool

/-! ## Entries of a pool -/

theorem find?_put (d a : Destination) (e : StatusEntry) (ps : List (Destination × StatusEntry)) :
    (put d e ps).find? (·.1 = a) = if a = d then some (d, e) else ps.find? (·.1 = a) := by
  induction ps with
  | nil =>
    rw [put, List.find?_cons]
    by_cases h : d = a <;> simp [h, eq_comm]
  | cons p ps ih =>
    rw [put]
    by_cases here : d = p.1
    · rw [if_pos here, List.find?_cons, List.find?_cons, ← here]
      by_cases h : d = a <;> simp [h, eq_comm]
    · rw [if_neg here]
      by_cases before : d.rank < p.1.rank
      · rw [if_pos before, List.find?_cons]
        by_cases h : d = a <;> simp [h, eq_comm]
      · rw [if_neg before, List.find?_cons, List.find?_cons, ih]
        by_cases h : p.1 = a
        · have other : a ≠ d := fun same => here (same.symm.trans h.symm)
          simp [h, other]
        · simp [h]

theorem find?_insert (s : StatusPool) (d a : Destination) (e : StatusEntry) :
    (s.insert d e).find? a = if a = d then some e else s.find? a := by
  rw [find?, insert, find?_put]
  split <;> rfl

theorem find?_markDirty (s : StatusPool) (d a : Destination) :
    (s.markDirty d).find? a =
      if a = d then (s.find? a).map ({ · with dirty := true }) else s.find? a := by
  unfold markDirty
  cases known : s.find? d with
  | some e =>
    rw [find?_insert]
    by_cases h : a = d
    · rw [if_pos h, if_pos h, h, known]
      rfl
    · rw [if_neg h, if_neg h]
  | none =>
    by_cases h : a = d
    · rw [if_pos h, h, known]
      rfl
    · rw [if_neg h]

theorem mem_addresses_iff {s : StatusPool} {d : Destination} :
    d ∈ s.addresses ↔ ∃ e, s.find? d = some e := by
  rw [addresses, List.mem_map, ← Option.isSome_iff_exists, find?, Option.isSome_map,
    List.find?_isSome]
  simp only [decide_eq_true_eq]

/-- The addresses are listed in strictly ascending order. -/
theorem pairwise_addresses (s : StatusPool) : s.addresses.Pairwise (·.rank < ·.rank) :=
  List.pairwise_map.mpr s.ascending

/-! ## One operation -/

namespace Operation

/-- The update that an operation amounts to: the address with its service, data and source. Of the
telegrams, the writes and the responses of group values are updates of their destinations. -/
def update? : Operation → Option (Destination × Apci × Bytes × IndividualAddress)
  | .update d apci data source => some (d, apci, data, source)
  | .note t =>
    (t.apci.filter fun a => a = .groupValueWrite ∨ a = .groupValueResponse).map fun a =>
      (t.destination, a, t.data.val, t.source)
  | .markDirty _ | .clear => none

/-- The address that an operation is about. Clearing is about all of them. -/
def address? : Operation → Option Destination
  | .update d _ _ _ | .markDirty d => some d
  | .note t => some t.destination
  | .clear => none

/-- What was known of an address before the operation does not count any more. -/
def Renews (op : Operation) (d : Destination) : Prop :=
  op = .clear ∨ ∃ value, op.update? = some (d, value)

theorem address?_of_update? {op : Operation} {d : Destination}
    {value : Apci × Bytes × IndividualAddress} (h : op.update? = some (d, value)) :
    op.address? = some d := by
  cases op with
  | update => cases h; rfl
  | note t =>
    obtain ⟨a, -, same⟩ := Option.map_eq_some_iff.mp h
    exact congrArg (fun v => some v.1) same
  | markDirty => cases h
  | clear => cases h

end Operation

/-- A telegram changes the pool exactly if it writes a group value or responds with one. -/
theorem note_eq (s : StatusPool) (t : Telegram) :
    s.note t =
      match (Operation.note t).update? with
      | some (d, apci, data, source) => (true, s.update d apci data source)
      | none => (false, s) := by
  dsimp only [note, Operation.update?]
  cases t.apci with
  | none => rfl
  | some a =>
    by_cases h : a = .groupValueWrite ∨ a = .groupValueResponse
    · simp [Option.filter, Apci.carriesValue, h]
    · simp [Option.filter, Apci.carriesValue, h]

theorem apply_of_update? {op : Operation} {d : Destination} {apci : Apci} {data : Bytes}
    {source : IndividualAddress} (s : StatusPool)
    (h : op.update? = some (d, apci, data, source)) : s.apply op = s.update d apci data source := by
  cases op with
  | update => cases h; rfl
  | note t => rw [apply, note_eq, h]
  | markDirty => cases h
  | clear => cases h

/-- An operation that does not renew what is known of an address can only mark its entry. -/
theorem find?_apply_of_not_renews (s : StatusPool) {op : Operation} {d : Destination}
    (h : ¬ op.Renews d) :
    (s.apply op).find? d =
      (s.find? d).map fun e => { e with dirty := e.dirty || op = .markDirty d } := by
  cases updates : op.update? with
  | some update =>
    obtain ⟨a, apci, data, source⟩ := update
    have other : d ≠ a := fun same => h (.inr ⟨_, same ▸ updates⟩)
    have unmarked : op ≠ .markDirty d := fun marks => by cases marks ▸ updates
    rw [s.apply_of_update? updates, update, find?_insert, if_neg other]
    simp [unmarked]
  | none =>
    cases op with
    | update => cases updates
    | note t =>
      rw [apply, note_eq, updates]
      simp
    | markDirty a =>
      rw [apply, find?_markDirty]
      by_cases here : d = a
      · simp [here]
      · simp [here, Ne.symm here]
    | clear => exact absurd (.inl rfl) h

theorem find?_apply_of_address?_ne (s : StatusPool) {op : Operation} {d : Destination}
    (other : op.address? ≠ some d) (kept : op ≠ .clear) :
    (s.apply op).find? d = s.find? d := by
  have unmarked : op ≠ .markDirty d := fun marks => other (marks ▸ rfl)
  have old : ¬ op.Renews d := by
    rintro (clears | ⟨value, updates⟩)
    · exact kept clears
    · exact other (Operation.address?_of_update? updates)
  rw [s.find?_apply_of_not_renews old]
  simp [unmarked]

/-! ## Histories -/

/-- The entry that a history leaves for an address: it holds what the last update of the address
since the last clearing has set, and it is dirty exactly if the address was marked after that. -/
def Leaves (history : List Operation) (d : Destination) (e : StatusEntry) : Prop :=
  ∃ before op since, history = before ++ op :: since ∧
    op.update? = some (d, e.apci, e.data, e.source) ∧ (∀ o ∈ since, ¬ o.Renews d) ∧
    (e.dirty = true ↔ .markDirty d ∈ since)

/-- By induction on the operations. -/
theorem find?_run_of_not_renews (s : StatusPool) {since : List Operation} {d : Destination}
    (h : ∀ o ∈ since, ¬ o.Renews d) :
    (s.run since).find? d =
      (s.find? d).map fun e => { e with dirty := e.dirty || .markDirty d ∈ since } := by
  induction since generalizing s with
  | nil => simp [run]
  | cons op since ih =>
    obtain ⟨first, rest⟩ := List.forall_mem_cons.mp h
    rw [run, List.foldl_cons, ← run, ih _ rest, s.find?_apply_of_not_renews first, Option.map_map]
    refine congrArg (Option.map · _) (funext fun e => ?_)
    simp [eq_comm, Bool.or_assoc]

/-- A history renews nothing about an address, or there is a last operation that does. -/
theorem exists_last_renewal (history : List Operation) (d : Destination) :
    (∀ o ∈ history, ¬ o.Renews d) ∨
      ∃ before op since, history = before ++ op :: since ∧ op.Renews d ∧
        ∀ o ∈ since, ¬ o.Renews d := by
  induction history with
  | nil => exact .inl (List.forall_mem_nil _)
  | cons op history ih =>
    obtain old | ⟨before, last, since, rfl, renews, old⟩ := ih
    · by_cases renews : op.Renews d
      · exact .inr ⟨[], op, history, rfl, renews, old⟩
      · exact .inl (List.forall_mem_cons.mpr ⟨renews, old⟩)
    · exact .inr ⟨op :: before, last, since, rfl, renews, old⟩

theorem find?_empty (d : Destination) : empty.find? d = none := rfl

theorem run_split (s : StatusPool) (before : List Operation) (op : Operation)
    (since : List Operation) :
    s.run (before ++ op :: since) = ((s.run before).apply op).run since := by
  rw [run, List.foldl_append, List.foldl_cons]
  rfl

theorem find?_of_leaves {history : List Operation} {d : Destination} {e : StatusEntry}
    (h : Leaves history d e) : (empty.run history).find? d = some e := by
  obtain ⟨before, op, since, rfl, updates, old, dirty⟩ := h
  rw [run_split, find?_run_of_not_renews _ old, apply_of_update? _ updates, update, find?_insert,
    if_pos rfl]
  simp [← dirty]

theorem leaves_of_find? {history : List Operation} {d : Destination} {e : StatusEntry}
    (h : (empty.run history).find? d = some e) : Leaves history d e := by
  obtain old | ⟨before, op, since, rfl, renews, old⟩ := exists_last_renewal history d
  · rw [find?_run_of_not_renews _ old, find?_empty] at h
    cases h
  · rw [run_split, find?_run_of_not_renews _ old] at h
    obtain rfl | ⟨⟨apci, data, source⟩, updates⟩ := renews
    · rw [apply, find?_empty] at h
      cases h
    · rw [apply_of_update? _ updates, update, find?_insert, if_pos rfl] at h
      obtain rfl := Option.some.inj h
      exact ⟨before, op, since, rfl, updates, old, by simp⟩

theorem await_const (s : StatusPool) (d : Destination) (fresh : Bool) (timeout : Nat) :
    await (fun _ => s) d fresh timeout = s.get? d fresh := Polling.found_run_const _ timeout _

/-- After any history the entry of an address holds what the last update since the last clearing
has set, and is dirty exactly if the address was marked after that update. A telegram updates its
destination exactly if it writes a group value or responds with one, and what is done to another
address, also to one with the same wire value, has no effect. An entry is handed out at once unless
it is dirty and a fresh one is asked for, and the addresses with an entry are listed in strictly
ascending order. -/
theorem entry_of_run (history : List Operation) (d : Destination) :
    let s := empty.run history
    (∀ e, s.find? d = some e ↔ Leaves history d e) ∧
    (∀ t : Telegram,
      (∀ a, t.apci = some a → a = .groupValueWrite ∨ a = .groupValueResponse →
        s.note t = (true, s.update t.destination a t.data.val t.source)) ∧
      (t.apci ≠ some .groupValueWrite → t.apci ≠ some .groupValueResponse →
        s.note t = (false, s))) ∧
    (∀ op : Operation, op.address? ≠ some d → op ≠ .clear → (s.apply op).find? d = s.find? d) ∧
    (∀ fresh e, await (fun _ => s) d fresh 0 = some e ↔
      s.find? d = some e ∧ ¬ (e.dirty = true ∧ fresh = true)) ∧
    (d ∈ s.addresses ↔ ∃ e, s.find? d = some e) ∧
    s.addresses.Pairwise (·.rank < ·.rank) := by
  intro s
  refine ⟨fun e => ⟨leaves_of_find?, find?_of_leaves⟩,
    fun t => ⟨fun a ha value => ?_, fun w r => ?_⟩, fun op => s.find?_apply_of_address?_ne,
    fun fresh e => ?_, mem_addresses_iff, s.pairwise_addresses⟩
  · rw [note_eq, Operation.update?, ha]
    simp [Option.filter, value]
  · have valueless : (Operation.note t).update? = none := by
      simp only [Operation.update?, Option.map_eq_none_iff, Option.filter_eq_none_iff]
      intro a ha
      have noWrite : a ≠ .groupValueWrite := fun same => w (same ▸ ha)
      have noResponse : a ≠ .groupValueResponse := fun same => r (same ▸ ha)
      simp [noWrite, noResponse]
    rw [note_eq, valueless]
  · rw [await_const, get?, Option.filter_eq_some_iff]
    cases fresh <;> simp

/-- The device with the same wire value is another address. -/
example : ((empty.run [.update (.group ⟨0x1105⟩) .groupValueWrite [1] ⟨0x1101⟩,
    .markDirty (.individual ⟨0x1105⟩)]).find? (.group ⟨0x1105⟩)).map (·.dirty) = some false := rfl

end KnxIp.StatusPool
