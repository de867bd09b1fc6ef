/-
  Destinations: what a telegram is sent to, a group or one device.

  On the wire a destination is sixteen bits whose kind is told by a bit elsewhere in the
  telegram. Destinations are ordered: groups before devices, then by wire value.
-/
import KnxIp.Address.Group
import KnxIp.Address.Individual

namespace KnxIp

/-- A group address or an individual address. -/
inductive Destination
  | group (address : GroupAddress)
  | individual (address : IndividualAddress)
deriving DecidableEq, Repr, Inhabited

namespace Destination

/-- The wire value. -/
def raw : Destination → UInt16
  | group g => g.raw
  | individual a => a.raw

/-- Whether this is a group address. -/
def isGroup : Destination → Bool
  | group _ => true
  | individual _ => false

/-- The destination with a wire value, of the kind that the address-type bit tells. -/
def ofRaw (raw : UInt16) (isGroup : Bool) : Destination :=
  if isGroup then group ⟨raw⟩ else individual ⟨raw⟩

@[simp] theorem ofRaw_raw (d : Destination) : ofRaw d.raw d.isGroup = d := by
  cases d <;> rfl

@[simp] theorem raw_ofRaw (w : UInt16) (b : Bool) : (ofRaw w b).raw = w := by
  cases b <;> rfl

@[simp] theorem isGroup_ofRaw (w : UInt16) (b : Bool) : (ofRaw w b).isGroup = b := by
  cases b <;> rfl

/-- The notation of the address. -/
def text : Destination → String
  | group g => g.text
  | individual a => a.text

/-- Reads an address: a text with a slash is a group address, otherwise one with a dot is an
individual address. -/
def parse (text : String) : Except AddressFault Destination :=
  if '/' ∈ text.toList then (GroupAddress.parse text).map group
  else if '.' ∈ text.toList then (IndividualAddress.parse text).map individual
  else .error .invalidGroup

/-- The place of a destination in the order: groups by wire value, then devices. -/
def rank : Destination → Nat
  | group g => g.raw.toNat
  | individual a => 65536 + a.raw.toNat

theorem rank_inj {d e : Destination} (h : d.rank = e.rank) : d = e := by
  cases d with
  | group g =>
    cases e with
    | group g' =>
      have : g.raw = g'.raw := UInt16.toNat_inj.mp h
      cases g; cases g'; simp_all
    | individual a => have := g.raw.toNat_lt; simp [rank] at h; omega
  | individual a =>
    cases e with
    | group g => have := g.raw.toNat_lt; simp [rank] at h; omega
    | individual a' =>
      have : a.raw = a'.raw := UInt16.toNat_inj.mp (by simpa [rank] using h)
      cases a; cases a'; simp_all

/-- Insertion into a list in ascending order; a destination that is there already is not put in
again. -/
def insert (d : Destination) : List Destination → List Destination
  | [] => [d]
  | e :: es =>
    if d = e then e :: es else if d.rank < e.rank then d :: e :: es else e :: insert d es

/-- The destinations of a list in ascending order, each once. -/
def sorted (ds : List Destination) : List Destination := ds.foldr insert []

end Destination
end KnxIp
