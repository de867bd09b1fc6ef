/-
  What polling sees.

  A value that polling finds was seen by some check no later than the deadline (`seen_of_found`).
  If nothing is found, the last check was made at the deadline itself and saw nothing either
  (`unseen_at_deadline`). So what is there at the deadline cannot be missed, and looking again and
  again at what does not change is looking at it once (`found_run_const`).
-/
import KnxIp.Polling

namespace KnxIp.Polling

variable {α : Type} {check : Nat → Nat → Option α} {timeout interval : Nat}

theorem seen_of_found_from {made now : Nat} {a : α} (early : now ≤ timeout)
    (h : (runFrom check timeout interval made now).found = some a) :
    ∃ n, ∃ time ≤ timeout, check n time = some a := by
  fun_induction runFrom check timeout interval made now with
  | case1 made now b seen =>
    have same : b = a := Option.some.inj h
    exact ⟨made + 1, now, early, same ▸ seen⟩
  | case2 => cases h
  | case3 made now _ _ ih => exact ih (by omega) h

theorem unseen_at_deadline_from {made now : Nat} (early : now ≤ timeout)
    (h : (runFrom check timeout interval made now).found = none) :
    ∃ n, check n timeout = none := by
  fun_induction runFrom check timeout interval made now with
  | case1 => cases h
  | case2 made now unseen late =>
    have deadline : now = timeout := Nat.le_antisymm early late
    exact ⟨made + 1, deadline ▸ unseen⟩
  | case3 made now _ _ ih => exact ih (by omega) h

theorem seen_of_found {a : α} (h : (run check timeout interval).found = some a) :
    ∃ n, ∃ time ≤ timeout, check n time = some a :=
  seen_of_found_from (Nat.zero_le _) h

theorem unseen_at_deadline (h : (run check timeout interval).found = none) :
    ∃ n, check n timeout = none :=
  unseen_at_deadline_from (Nat.zero_le _) h

theorem found_run_const (seen : Option α) (timeout interval : Nat) :
    (run (fun _ _ => seen) timeout interval).found = seen := by
  cases found : (run (fun _ _ => seen) timeout interval).found with
  | none =>
    obtain ⟨_, unseen⟩ := unseen_at_deadline found
    exact unseen.symm
  | some a =>
    obtain ⟨_, _, _, same⟩ := seen_of_found found
    exact same.symm

end KnxIp.Polling
