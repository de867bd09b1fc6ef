/-
  The status pool: the last known value of every address.

  A telegram that carries a value sets the entry of its destination and makes it fresh. An entry
  is dirty from the moment something was asked of the bus that may change it until the next
  value arrives. The entries stand in ascending order of their addresses, each address once.
-/
import KnxIp.Polling
import KnxIp.Telegram.Basic

namespace KnxIp

/-- What is known of one address. -/
structure StatusEntry where
  apci : Apci
  data : Bytes
  source : IndividualAddress
  dirty : Bool
deriving DecidableEq, Repr

/-- The entries of addresses, in ascending order of the addresses. -/
structure StatusPool where
  entries : List (Destination × StatusEntry)
  ascending : entries.Pairwise fun p q => p.1.rank < q.1.rank
deriving DecidableEq

namespace StatusPool

/-- Nothing is known. -/
def empty : StatusPool := ⟨[], .nil⟩

/-- The list with an entry put in its place. -/
def put (d : Destination) (e : StatusEntry) :
    List (Destination × StatusEntry) → List (Destination × StatusEntry)
  | [] => [(d, e)]
  | p :: ps =>
    if d = p.1 then (d, e) :: ps
    else if d.rank < p.1.rank then (d, e) :: p :: ps
    else p :: put d e ps

theorem mem_put {d : Destination} {e : StatusEntry} {ps : List (Destination × StatusEntry)}
    {q : Destination × StatusEntry} (h : q ∈ put d e ps) : q = (d, e) ∨ q ∈ ps := by
  induction ps with
  | nil => simp [put] at h; exact Or.inl h
  | cons p ps ih =>
    unfold put at h
    split at h
    · rcases List.mem_cons.mp h with h | h
      · exact Or.inl h
      · exact Or.inr (List.mem_cons_of_mem _ h)
    · split at h
      · exact List.mem_cons.mp h
      · rcases List.mem_cons.mp h with h | h
        · exact Or.inr (h ▸ List.mem_cons_self)
        · exact (ih h).imp_right (List.mem_cons_of_mem _)

theorem pairwise_put {d : Destination} {e : StatusEntry} {ps : List (Destination × StatusEntry)}
    (h : ps.Pairwise fun p q => p.1.rank < q.1.rank) :
    (put d e ps).Pairwise fun p q => p.1.rank < q.1.rank := by
  induction ps with
  | nil => simp [put]
  | cons p ps ih =>
    obtain ⟨hp, hs⟩ := List.pairwise_cons.mp h
    unfold put
    split
    · rename_i hd
      exact List.pairwise_cons.mpr ⟨fun q hq => hd ▸ hp q hq, hs⟩
    · rename_i hd
      split
      · rename_i hl
        refine List.pairwise_cons.mpr ⟨fun q hq => ?_, h⟩
        rcases List.mem_cons.mp hq with rfl | hq
        · exact hl
        · exact Nat.lt_trans hl (hp q hq)
      · rename_i hl
        refine List.pairwise_cons.mpr ⟨fun q hq => ?_, ih hs⟩
        rcases mem_put hq with rfl | hq
        · have : d.rank ≠ p.1.rank := fun e => hd (Destination.rank_inj e)
          show p.1.rank < d.rank
          omega
        · exact hp q hq

/-- The entry of an address. -/
def find? (s : StatusPool) (d : Destination) : Option StatusEntry :=
  (s.entries.find? (·.1 = d)).map Prod.snd

/-- The addresses with an entry, in ascending order. -/
def addresses (s : StatusPool) : List Destination := s.entries.map Prod.fst

/-- Sets the entry of an address. -/
def insert (s : StatusPool) (d : Destination) (e : StatusEntry) : StatusPool :=
  ⟨put d e s.entries, pairwise_put s.ascending⟩

/-- A value of an address: its entry becomes fresh. -/
def update (s : StatusPool) (d : Destination) (apci : Apci) (data : Bytes)
    (source : IndividualAddress) : StatusPool :=
  s.insert d ⟨apci, data, source, false⟩

/-- Whether a telegram carries a value, and the pool with this value. -/
def note (s : StatusPool) (t : Telegram) : Bool × StatusPool :=
  match t.apci with
  | some apci =>
    if apci.carriesValue then (true, s.update t.destination apci t.data.val t.source)
    else (false, s)
  | none => (false, s)

/-- The value that a telegram carries, if it does. -/
def updateFrom (s : StatusPool) (t : Telegram) : StatusPool := (s.note t).2

/-- Makes the entry of an address dirty, if there is one. -/
def markDirty (s : StatusPool) (d : Destination) : StatusPool :=
  match s.find? d with
  | some e => s.insert d { e with dirty := true }
  | none => s

/-- The entry of an address, or only a fresh one. -/
def get? (s : StatusPool) (d : Destination) (fresh : Bool) : Option StatusEntry :=
  (s.find? d).filter fun e => !fresh || !e.dirty

/-- The entry of an address, or only a fresh one, as soon as there is one before the deadline; the
pool may be another one at every time. -/
def await (s : Nat → StatusPool) (d : Destination) (fresh : Bool) (timeout : Nat) :
    Option StatusEntry :=
  (Polling.run (fun _ now => (s now).get? d fresh) timeout Polling.pause).found

/-- Whether the entry of an address is dirty. -/
def isDirty? (s : StatusPool) (d : Destination) : Option Bool := (s.find? d).map (·.dirty)

/-- How many addresses have an entry. -/
def size (s : StatusPool) : Nat := s.entries.length

/-- What may be done with a pool. -/
inductive Operation
  /-- A value of an address is known. -/
  | update (d : Destination) (apci : Apci) (data : Bytes) (source : IndividualAddress)
  /-- A telegram was seen. -/
  | note (t : Telegram)
  /-- What is known of an address may have changed. -/
  | markDirty (d : Destination)
  /-- Everything is forgotten. -/
  | clear
deriving DecidableEq

/-- The pool after an operation. -/
def apply (s : StatusPool) : Operation → StatusPool
  | .update d apci data source => s.update d apci data source
  | .note t => (s.note t).2
  | .markDirty d => s.markDirty d
  | .clear => .empty

/-- The pool after several operations. -/
def run (s : StatusPool) (operations : List Operation) : StatusPool := operations.foldl apply s

end StatusPool
end KnxIp
