/-
  Cutting a text at a separator character.

  `split` cuts at every occurrence, so that no part holds the separator (`not_mem_of_mem_split`).
  `cut` cuts at the first occurrence only.
-/

namespace KnxIp.Text

/-- The parts of a text between the occurrences of `sep`. -/
def split (sep : Char) : List Char → List (List Char)
  | [] => [[]]
  | c :: cs =>
    if c = sep then [] :: split sep cs
    else match split sep cs with
      | [] => [[c]]
      | part :: parts => (c :: part) :: parts

theorem split_ne_nil (sep : Char) (cs : List Char) : split sep cs ≠ [] := by
  cases cs with
  | nil => simp [split]
  | cons c cs =>
    unfold split
    split
    · simp
    · split <;> simp

/-- No part holds the separator. -/
theorem not_mem_of_mem_split {sep : Char} {cs part : List Char} (h : part ∈ split sep cs) :
    sep ∉ part := by
  induction cs generalizing part with
  | nil => simp [split] at h; simp [h]
  | cons c cs ih =>
    unfold split at h
    by_cases hc : c = sep
    · rw [if_pos hc] at h
      rcases List.mem_cons.mp h with rfl | h
      · simp
      · exact ih h
    · rw [if_neg hc] at h
      rcases hs : split sep cs with _ | ⟨p, ps⟩
      · exact absurd hs (split_ne_nil sep cs)
      · rw [hs] at h ih
        rcases List.mem_cons.mp h with rfl | h
        · have := ih (List.mem_cons_self)
          simp only [List.mem_cons, not_or]
          exact ⟨fun e => hc e.symm, this⟩
        · exact ih (List.mem_cons_of_mem _ h)

/-- The text before the first `sep` and the text behind it; nothing when there is no `sep`. -/
def cut (sep : Char) : List Char → Option (List Char × List Char)
  | [] => none
  | c :: cs => if c = sep then some ([], cs) else (cut sep cs).map fun (a, b) => (c :: a, b)

end KnxIp.Text
