/-
  Octet strings of bounded length.
-/
import KnxIp.Bytes

namespace KnxIp

/-- Octet strings with at most `bound` octets. -/
abbrev AtMost (bound : Nat) := { bytes : Bytes // bytes.length ≤ bound }

namespace AtMost

/-- The empty string. -/
def nothing {bound : Nat} : AtMost bound := ⟨[], Nat.zero_le _⟩

/-- The string as a bounded one, unless it is too long. -/
def ofBytes? (bound : Nat) (bytes : Bytes) : Option (AtMost bound) :=
  if h : bytes.length ≤ bound then some ⟨bytes, h⟩ else none

theorem ofBytes?_val {bound : Nat} (b : AtMost bound) : ofBytes? bound b.val = some b :=
  dif_pos b.property

theorem val_of_ofBytes? {bound : Nat} {bytes : Bytes} {b : AtMost bound}
    (h : ofBytes? bound bytes = some b) : b.val = bytes := by
  unfold ofBytes? at h
  split at h
  · cases h; rfl
  · cases h

theorem ofBytes?_eq_none_iff {bound : Nat} {bytes : Bytes} :
    ofBytes? bound bytes = none ↔ bound < bytes.length := by
  simp [ofBytes?]

end AtMost
end KnxIp
