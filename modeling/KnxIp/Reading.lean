/-
  Readings: what a reader of octets does to its buffers.

  A reader takes octets and slices out of the buffer it is given, and it puts what it has read
  into arrays of fixed size and vectors of fixed capacity. A `Reading` is the record of this, with
  the result. An octet or a slice that is not there ends it at once (`Stop.outside`), and so does
  a loop that is not done after the rounds it was allowed (`Stop.unfinished`); neither is a fault,
  which a reader reports and its caller can deal with.
-/
import KnxIp.Bounded
import KnxIp.Description.Device

namespace KnxIp

/-- A use of a buffer, an array or a vector. -/
inductive Access
  /-- The octet at a place of a buffer of this size. -/
  | octet (size place : Nat)
  /-- The octets of a buffer of this size from `start` up to the one before `stop`. -/
  | slice (size start stop : Nat)
  /-- So many octets copied over an array of this size. -/
  | copy (size count : Nat)
  /-- So many elements in a vector that has room for `capacity`. -/
  | store (capacity count : Nat)
deriving DecidableEq, Repr

namespace Access

/-- There is what is asked for, and an array is given as many octets as it has. -/
def Inside : Access → Prop
  | octet size place => place < size
  | slice size start stop => start ≤ stop ∧ stop ≤ size
  | copy size count => count = size
  | store _ _ => True

/-- A vector is given more than it has room for. -/
def Overflows : Access → Prop
  | store capacity count => capacity < count
  | _ => False

end Access

/-- Why a reading ended without a value. -/
inductive Stop
  /-- The reader reports a fault. -/
  | fault (fault : Fault)
  /-- The reader used octets that are not there. -/
  | outside
  /-- A loop was not done after its rounds. -/
  | unfinished
deriving DecidableEq, Repr

/-- What a reader did, first access first, and how it ended. -/
structure Reading (α : Type) where
  accesses : List Access
  result : Except Stop α

namespace Reading

variable {α β : Type}

instance : Monad Reading where
  pure a := ⟨[], .ok a⟩
  bind r f :=
    match r.result with
    | .ok a => ⟨r.accesses ++ (f a).accesses, (f a).result⟩
    | .error s => ⟨r.accesses, .error s⟩

theorem result_bind_eq_ok_iff {r : Reading α} {f : α → Reading β} {b : β} :
    (r >>= f).result = .ok b ↔ ∃ a, r.result = .ok a ∧ (f a).result = .ok b := by
  simp only [bind]
  cases r.result <;> simp

/-- A result that was found without the use of a buffer. -/
def ofResult (e : Except Fault α) : Reading α := ⟨[], e.mapError .fault⟩

/-- Ends with a fault if the condition holds. -/
def refuse (condition : Prop) [Decidable condition] (f : Fault) : Reading Unit :=
  ofResult (if condition then .error f else .ok ())

/-- Goes on with a value if there is one, and ends with a fault otherwise. -/
def orFail (a : Option α) (f : Fault) : Reading α :=
  ofResult (a.elim (.error f) .ok)

theorem not_of_result_refuse {condition : Prop} [Decidable condition] {f : Fault} {u : Unit}
    (h : (refuse condition f).result = .ok u) : ¬ condition := by
  intro holds
  rw [refuse, if_pos holds] at h
  cases h

theorem result_orFail_eq_ok_iff {a : Option α} {f : Fault} {x : α} :
    (orFail a f).result = .ok x ↔ a = some x := by
  cases a with
  | none => constructor <;> intro impossible <;> cases impossible
  | some y =>
    have found : (orFail (some y) f).result = .ok y := rfl
    rw [found, Except.ok.injEq, Option.some.injEq]

/-- Ends unless there are as many octets as needed. -/
def require (bs : Bytes) (needed : Nat) : Reading Unit :=
  refuse (bs.length < needed) (.framing .bufferTooSmall)

/-- The octet at a place. -/
def octet (bs : Bytes) (place : Nat) : Reading UInt8 :=
  ⟨[.octet bs.length place], match bs[place]? with
    | some b => .ok b
    | none => .error .outside⟩

/-- The octets from `start` up to the one before `stop`. -/
def slice (bs : Bytes) (start stop : Nat) : Reading Bytes :=
  ⟨[.slice bs.length start stop],
    if start ≤ stop ∧ stop ≤ bs.length then .ok ((bs.take stop).drop start)
    else .error .outside⟩

/-- The octets from `start` to the end. -/
def sliceFrom (bs : Bytes) (start : Nat) : Reading Bytes := slice bs start bs.length

/-- An array of six octets with these copied over it. -/
def sixOctets (bs : Bytes) : Reading SixOctets :=
  ⟨[.copy 6 bs.length], match SixOctets.ofBytes? bs with
    | some s => .ok s
    | none => .error .outside⟩

/-- A vector with these elements, if it has room for them. -/
def store (capacity : Nat) (xs : List α) :
    Reading (Option { xs : List α // xs.length ≤ capacity }) :=
  ⟨[.store capacity xs.length], .ok (if h : xs.length ≤ capacity then some ⟨xs, h⟩ else none)⟩

theorem val_of_result_store {capacity : Nat} {xs : List α}
    {v : { xs : List α // xs.length ≤ capacity }}
    (h : (store capacity xs).result = .ok (some v)) : v.val = xs := by
  have stored := Except.ok.inj h
  split at stored
  · cases stored
    rfl
  · cases stored

/-- A loop that may not go on. -/
def unfinished : Reading α := ⟨[], .error .unfinished⟩

/-- The result together with what is known of it. -/
def attach (r : Reading α) {p : α → Prop} (h : ∀ a, r.result = .ok a → p a) :
    Reading { a // p a } :=
  ⟨r.accesses, match found : r.result with
    | .ok a => .ok ⟨a, h a found⟩
    | .error s => .error s⟩

end Reading
end KnxIp
