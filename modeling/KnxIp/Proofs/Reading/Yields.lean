/-
  Readings that stay inside their buffers.

  A reading yields a result (`Reading.Yields`) if it ends with it, has used only octets that are
  there, and reports every vector that was given too much. Each primitive has one rule, about
  itself and what follows it, that says when the whole yields a result; `Yields.bind` puts readers
  together. The rules are all that is used of readings.
-/
import KnxIp.Reading

namespace KnxIp.Reading

variable {α β : Type}

/-- The reading ends with this result, stays inside its buffers, and the result reports a vector
that was given too much. -/
structure Yields (r : Reading α) (e : Except Fault α) : Prop where
  result : r.result = e.mapError .fault
  inside : ∀ a ∈ r.accesses, a.Inside
  reported : ∀ a ∈ r.accesses, a.Overflows → e = .error (.framing .payloadTooLarge)

/-- A reading yields only one result. -/
theorem Yields.eq {r : Reading α} {e e' : Except Fault α} (h : r.Yields e)
    (result : r.result = e'.mapError .fault) : e = e' := by
  have same := h.result.symm.trans result
  cases e <;> cases e' <;> cases same <;> rfl

/-! ## Putting readings together -/

theorem accesses_bind_of_ok {r : Reading α} {a : α} (h : r.result = .ok a) (f : α → Reading β) :
    (r >>= f).accesses = r.accesses ++ (f a).accesses := by
  simp only [bind, h]

theorem result_bind_of_ok {r : Reading α} {a : α} (h : r.result = .ok a) (f : α → Reading β) :
    (r >>= f).result = (f a).result := by
  simp only [bind, h]

theorem bind_of_error {r : Reading α} {s : Stop} (h : r.result = .error s) (f : α → Reading β) :
    r >>= f = ⟨r.accesses, .error s⟩ := by
  simp only [bind, h]

/-- Behind accesses that are in order and overflow nothing, the rest decides. -/
theorem yields_bind_of_ok {r : Reading α} {a : α} (h : r.result = .ok a)
    (inside : ∀ x ∈ r.accesses, x.Inside) (fits : ∀ x ∈ r.accesses, ¬ x.Overflows)
    {f : α → Reading β} {e : Except Fault β} : (r >>= f).Yields e ↔ (f a).Yields e := by
  constructor
  · rintro ⟨result, inside', reported⟩
    rw [result_bind_of_ok h] at result
    rw [accesses_bind_of_ok h] at inside' reported
    exact ⟨result, fun x mem => inside' x (List.mem_append_right _ mem),
      fun x mem => reported x (List.mem_append_right _ mem)⟩
  · rintro ⟨result, inside', reported⟩
    refine ⟨by rw [result_bind_of_ok h, result], ?_, ?_⟩ <;> rw [accesses_bind_of_ok h]
    · intro x mem
      exact (List.mem_append.mp mem).elim (inside x) (inside' x)
    · intro x mem overflows
      rcases List.mem_append.mp mem with mem | mem
      · exact absurd overflows (fits x mem)
      · exact reported x mem overflows

theorem Yields.bind {r : Reading α} {e : Except Fault α} {f : α → Reading β}
    {g : α → Except Fault β} (first : r.Yields e) (rest : ∀ a, e = .ok a → (f a).Yields (g a)) :
    (r >>= f).Yields (e >>= g) := by
  cases e with
  | ok a =>
    refine (yields_bind_of_ok first.result first.inside fun x mem overflows => ?_).mpr (rest a rfl)
    cases first.reported x mem overflows
  | error fault =>
    rw [bind_of_error first.result]
    refine ⟨rfl, first.inside, fun x mem overflows => ?_⟩
    cases first.reported x mem overflows
    rfl

theorem Yields.bind_of_ok {r : Reading α} {e : Except Fault α} {a : α} {f : α → Reading β}
    {e' : Except Fault β} (first : r.Yields e) (found : e = .ok a) (rest : (f a).Yields e') :
    (r >>= f).Yields e' := by
  subst found
  refine first.bind (g := fun _ => e') fun a' same => ?_
  cases same
  exact rest

/-- A reading whose result goes through a function that cannot fail. -/
theorem Yields.bind_ok {r : Reading α} {e : Except Fault α} {f : α → Reading β} {g : α → β}
    (first : r.Yields e) (rest : ∀ a, e = .ok a → (f a).Yields (.ok (g a))) :
    (r >>= f).Yields (e.map g) := by
  have together := first.bind rest
  cases e <;> exact together

theorem yields_pure {a : α} {e : Except Fault α} : (pure a : Reading α).Yields e ↔ e = .ok a := by
  constructor
  · exact fun yields => yields.eq rfl
  · rintro rfl
    exact ⟨rfl, by simp [Pure.pure], by simp [Pure.pure]⟩

theorem Yields.map {r : Reading α} {e : Except Fault α} (h : r.Yields e) (g : α → β) :
    (r >>= fun a => pure (g a)).Yields (e.map g) :=
  h.bind_ok fun _ _ => yields_pure.mpr rfl

/-! ## One rule for each primitive -/

section Rules

variable {f : β → Reading α} {e : Except Fault α}

theorem yields_ofResult (e : Except Fault α) : (ofResult e).Yields e :=
  ⟨rfl, by simp [ofResult], by simp [ofResult]⟩

/-- A fault ends the reading, whatever would follow. -/
theorem yields_fault_bind {x : Fault} :
    (ofResult (.error x) >>= f).Yields e ↔ e = .error x := by
  constructor
  · exact fun yields => yields.eq rfl
  · rintro rfl
    rw [bind_of_error rfl]
    exact ⟨rfl, by simp [ofResult], by simp [ofResult]⟩

theorem yields_refuse_bind {c : Prop} [Decidable c] {x : Fault} {f : Unit → Reading α} :
    (refuse c x >>= f).Yields e ↔ if c then e = .error x else (f ()).Yields e := by
  by_cases h : c
  · simpa only [refuse, h, if_true] using yields_fault_bind
  · simp only [h, if_false]
    exact yields_bind_of_ok (by simp only [refuse, if_false]; rfl) (by simp [refuse, ofResult])
      (by simp [refuse, ofResult])

theorem yields_require_bind {bs : Bytes} {needed : Nat} {f : Unit → Reading α} :
    (require bs needed >>= f).Yields e ↔
      if bs.length < needed then e = .error (.framing .bufferTooSmall) else (f ()).Yields e :=
  yields_refuse_bind

theorem yields_orFail_bind {b : Option β} {x : Fault} :
    (orFail b x >>= f).Yields e ↔ match b with
      | some b => (f b).Yields e
      | none => e = .error x := by
  cases b with
  | some b => exact yields_bind_of_ok rfl (by simp [orFail, ofResult]) (by simp [orFail, ofResult])
  | none => exact yields_fault_bind

/-- A reading that has left its buffers yields nothing. -/
theorem not_yields_outside {r : Reading β} (h : r.result = .error .outside) :
    ¬ (r >>= f).Yields e := by
  rintro ⟨result, -, -⟩
  rw [bind_of_error h] at result
  cases e <;> cases result

theorem yields_octet_bind {bs : Bytes} {place : Nat} {f : UInt8 → Reading α} :
    (octet bs place >>= f).Yields e ↔ ∃ b, bs[place]? = some b ∧ (f b).Yields e := by
  cases found : bs[place]? with
  | some b =>
    obtain ⟨inside, -⟩ := List.getElem?_eq_some_iff.mp found
    rw [yields_bind_of_ok (a := b) (by simp only [octet, found])
      (by simpa [octet, Access.Inside] using inside) (by simp [octet, Access.Overflows])]
    simp
  | none =>
    have outside : ¬ (octet bs place >>= f).Yields e :=
      not_yields_outside (by simp only [octet, found])
    simp [outside]

theorem yields_slice_bind {bs : Bytes} {start stop : Nat} {f : Bytes → Reading α} :
    (slice bs start stop >>= f).Yields e ↔
      (start ≤ stop ∧ stop ≤ bs.length) ∧ (f ((bs.take stop).drop start)).Yields e := by
  by_cases inside : start ≤ stop ∧ stop ≤ bs.length
  · rw [yields_bind_of_ok (a := (bs.take stop).drop start) (by simp [slice, inside])
      (by simpa [slice, Access.Inside] using inside) (by simp [slice, Access.Overflows])]
    simp [inside]
  · have outside : ¬ (slice bs start stop >>= f).Yields e :=
      not_yields_outside (by simp only [slice, inside, if_false])
    simp [outside, inside]

theorem yields_sliceFrom_bind {bs : Bytes} {start : Nat} {f : Bytes → Reading α} :
    (sliceFrom bs start >>= f).Yields e ↔
      start ≤ bs.length ∧ (f (bs.drop start)).Yields e := by
  rw [sliceFrom, yields_slice_bind, List.take_length]
  simp

theorem yields_sliceFrom {bs : Bytes} {start : Nat} (h : start ≤ bs.length) :
    (sliceFrom bs start).Yields (.ok (bs.drop start)) := by
  refine ⟨?_, ?_, ?_⟩
  · simp only [sliceFrom, slice, h, Nat.le_refl, and_self, if_true, List.take_length]
    rfl
  · simpa [sliceFrom, slice, Access.Inside] using h
  · simp [sliceFrom, slice, Access.Overflows]

theorem yields_sixOctets_bind {o0 o1 o2 o3 o4 o5 : UInt8} {f : SixOctets → Reading α} :
    (sixOctets [o0, o1, o2, o3, o4, o5] >>= f).Yields e ↔
      (f ⟨o0, o1, o2, o3, o4, o5⟩).Yields e :=
  yields_bind_of_ok rfl (by simp [sixOctets, Access.Inside])
    (by simp [sixOctets, Access.Overflows])

/-- Storing in a vector and reporting that it is too small. -/
theorem yields_store_bind {capacity : Nat} {xs : List β}
    {f : { xs : List β // xs.length ≤ capacity } → Reading α} :
    (store capacity xs >>= fun v => orFail v (.framing .payloadTooLarge) >>= f).Yields e ↔
      if h : xs.length ≤ capacity then (f ⟨xs, h⟩).Yields e
      else e = .error (.framing .payloadTooLarge) := by
  by_cases h : xs.length ≤ capacity
  · rw [yields_bind_of_ok (a := some ⟨xs, h⟩) (by simp [store, h])
      (by simp [store, Access.Inside]) (by simpa [store, Access.Overflows] using h)]
    simp only [h, dif_pos]
    exact yields_orFail_bind
  · have whole : (store capacity xs >>= fun v => orFail v (.framing .payloadTooLarge) >>= f) =
        ⟨[.store capacity xs.length], .error (.fault (.framing .payloadTooLarge))⟩ := by
      simp only [store, h, dif_neg, not_false_eq_true]
      rfl
    simp only [whole, h, dif_neg, not_false_eq_true]
    constructor
    · exact fun yields => yields.eq rfl
    · rintro rfl
      exact ⟨rfl, by simp [Access.Inside], fun _ _ _ => rfl⟩

end Rules

theorem Yields.attach {r : Reading α} {p : α → Prop} {h : ∀ a, r.result = .ok a → p a}
    {e : Except Fault { a // p a }} (yields : r.Yields (e.map (·.val))) :
    (r.attach h).Yields e := by
  obtain ⟨result, inside, reported⟩ := yields
  refine ⟨?_, inside, fun a mem overflows => ?_⟩
  · unfold Reading.attach
    split
    · rename_i a found
      cases e <;> cases found.symm.trans result
      rfl
    · rename_i s found
      cases e <;> cases found.symm.trans result
      rfl
  · have faulty := reported a mem overflows
    cases e <;> cases faulty
    rfl

/-- A reader that needs `n` octets: too few are a fault, and otherwise it has `n` of them in
front. -/
theorem Yields.require {n : Nat} {bs : Bytes} {f : Unit → Reading α} {e : Except Fault α}
    (short : bs.length < n → e = .error (.framing .bufferTooSmall))
    (long : ∀ front rest, front.length = n → bs = front ++ rest → (f ()).Yields e) :
    (Reading.require bs n >>= f).Yields e := by
  rw [yields_require_bind]
  split
  · rename_i h
    exact short h
  · rename_i h
    exact long (bs.take n) (bs.drop n) (List.length_take_of_le (Nat.le_of_not_lt h))
      (List.take_append_drop n bs).symm

end KnxIp.Reading
