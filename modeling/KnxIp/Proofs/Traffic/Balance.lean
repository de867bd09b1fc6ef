/-
  The counters balance.

  `Settles` is what a run has counted, held against the journal: each frame that came in, each
  datagram that the transport took and that is not under way any more, and each failure. It holds
  for every deed and composes, so it holds for every run (`exists_settles`).

  Main statement: after a reset the counters are the sums of what the journal tells, and the
  observers were told of each frame once, in the direction in which it was counted
  (`balance_of_run`).
-/
import KnxIp.Proofs.Traffic.Counting
import KnxIp.Proofs.Observer.Delivery

namespace KnxIp

namespace Happening

/-- The datagram that the network took. -/
def taken? : Happening → Option Datagram
  | handed a => if a.refused then none else some a.datagram
  | _ => none

/-- The frame that was received, and the size of its datagram. -/
def frame? : Happening → Option (Frame × Nat)
  | received r => Frame.sized? r.bytes
  | _ => none

/-- A datagram was received that holds no frame. -/
def isUnreadable : Happening → Bool
  | received r => (Frame.bodyIn? r.bytes).isNone
  | _ => false

/-- What a received frame asks for has failed: the answer was refused. -/
def isFailedTask : Happening → Bool
  | handed a => a.sender = .receiver && a.refused
  | _ => false

end Happening

namespace Event

/-- The frame that came in. -/
def incoming? : Event → Option Frame
  | incoming frame => some frame
  | _ => none

/-- The frame that went out. -/
def outgoing? : Event → Option Frame
  | outgoing frame => some frame
  | _ => none

end Event

namespace Traffic

variable {t : Traffic}

/-- How much has gone wrong in a run: datagrams that hold no frame, frames of another channel,
answers that were refused, and failures that have to do with no datagram. -/
def mishaps (t : Traffic) (deeds : List Deed) (later : List Happening) : Nat :=
  later.countP Happening.isUnreadable + t.rejections deeds + later.countP Happening.isFailedTask +
    deeds.countP Deed.reports

theorem run_cons (t : Traffic) (d : Deed) (deeds : List Deed) :
    t.run (d :: deeds) = (d.apply t).run deeds := rfl

theorem run_append (t : Traffic) (deeds more : List Deed) :
    t.run (deeds ++ more) = (t.run deeds).run more := List.foldl_append ..

/-- The deeds have led to these entries in the journal, and just this was counted. -/
structure Settles (t : Traffic) (deeds : List Deed) (later : List Happening)
    (counts : List Count) : Prop where
  journal : (t.run deeds).world.journal = t.world.journal ++ later
  statistics : (t.run deeds).statistics = counts.foldl Statistics.count t.statistics
  incoming : counts.filterMap Count.incoming? = later.filterMap Happening.frame?
  outgoing : (counts.filterMap Count.outgoing? ++ (t.run deeds).pending).Perm
    (t.pending ++ later.filterMap Happening.taken?)
  errors : counts.countP Count.isError = t.mishaps deeds later
  told : t.observers.accepting = true → (∀ d ∈ deeds, d.shuts = false) →
    (t.run deeds).observers.accepting = true ∧
      (t.queued deeds).filter Event.isTraffic = (counts.map Count.event).filter Event.isTraffic

theorem Settles.nil (t : Traffic) : t.Settles [] [] [] where
  journal := (List.append_nil _).symm
  statistics := rfl
  incoming := rfl
  outgoing := by rw [List.filterMap_nil, List.filterMap_nil, List.append_nil]; rfl
  errors := rfl
  told accepting _ := ⟨accepting, rfl⟩

theorem Settles.cons {d : Deed} {deeds : List Deed} {first rest : List Happening}
    {counts counts' : List Count} (h : t.Settles [d] first counts)
    (k : (d.apply t).Settles deeds rest counts') :
    t.Settles (d :: deeds) (first ++ rest) (counts ++ counts') where
  journal := by
    rw [← List.append_assoc, ← h.journal]
    exact k.journal
  statistics := by
    rw [List.foldl_append, ← h.statistics]
    exact k.statistics
  incoming := by rw [List.filterMap_append, List.filterMap_append, h.incoming, k.incoming]
  outgoing := by
    rw [List.filterMap_append, List.filterMap_append, List.append_assoc,
      ← List.append_assoc t.pending]
    refine (k.outgoing.append_left _).trans ?_
    rw [← List.append_assoc]
    exact h.outgoing.append_right _
  errors := by
    have here := h.errors
    have there := k.errors
    simp only [mishaps, rejections, steps, List.countP_append, List.countP_cons, List.countP_nil]
      at here there ⊢
    omega
  told accepting lasting := by
    obtain ⟨first, others⟩ := List.forall_mem_cons.mp lasting
    obtain ⟨still, here⟩ := h.told accepting (by simpa using first)
    obtain ⟨last, there⟩ := k.told still others
    refine ⟨last, ?_⟩
    rw [List.map_append, List.filter_append, ← here, ← there, ← List.filter_append]
    simp [queued, steps]

/-! ## One deed -/

/-- The entry for an answer to a received frame. -/
def answered (socket : Endpoint) (refusal : Refusal) (d : Datagram) : Happening :=
  .handed ⟨.receiver, socket, d, (refusal d).isSome⟩

theorem exists_run_arrive (n : Network) (w : World) (underway : List Transmission)
    (address : Endpoint) (x : Waiting) :
    ∃ deeds, run ⟨w, underway⟩ deeds = ⟨w.arrive n address x, underway⟩ := by
  unfold World.arrive
  split
  · exact ⟨[], rfl⟩
  · next s _ =>
    split
    · exact ⟨[], rfl⟩
    · split
      · exact ⟨[.receive n s x], rfl⟩
      · exact ⟨[.rearrange _ w.opened], rfl⟩

theorem exists_run_arriveAll (n : Network) (w : World) (underway : List Transmission)
    (arrivals : List Arrival) :
    ∃ deeds, run ⟨w, underway⟩ deeds = ⟨w.arriveAll n arrivals, underway⟩ := by
  induction arrivals generalizing w with
  | nil => exact ⟨[], rfl⟩
  | cons a arrivals ih =>
    obtain ⟨first, here⟩ :=
      exists_run_arrive n w underway a.socket (.datagram a.source a.bytes)
    obtain ⟨rest, there⟩ := ih (w.arrive n a.socket (.datagram a.source a.bytes))
    refine ⟨first ++ rest, ?_⟩
    rw [run_append, here, there]
    rfl

/-- To send, and to handle what arrives meanwhile, is a run, which leaves the same frames under
way. -/
theorem exists_run_sendTo (n : Network) (w : World) (underway : List Transmission)
    (address : Endpoint) (b : Body) (destination : Endpoint) :
    ∃ deeds, run ⟨w, underway⟩ deeds = ⟨(w.sendTo n address b destination).2, underway⟩ := by
  let d : Deed := .hand n address b destination
  rw [World.sendTo_eq]
  cases handed : w.hand n address b destination with
  | mk result v =>
    cases result with
    | error f => exact ⟨[d], by simp only [run, d, List.foldl, Deed.apply, handed]⟩
    | ok taken =>
      obtain ⟨x, arrivals⟩ := taken
      obtain ⟨deeds, arrived⟩ := exists_run_arriveAll n v (underway ++ [x]) arrivals
      refine ⟨d :: (deeds ++ [.count underway.length]), ?_⟩
      have first : d.apply ⟨w, underway⟩ = ⟨v, underway ++ [x]⟩ := by
        simp only [d, Deed.apply, handed]
      rw [run_cons, first, run_append, arrived]
      have last : (underway ++ [x])[underway.length]? = some x := List.getElem?_concat_length
      simp only [run, List.foldl, Deed.apply, last]
      rw [List.eraseIdx_append_of_length_le (Nat.le_refl _), Nat.sub_self, List.eraseIdx_cons_zero,
        List.append_nil]

end Traffic
end KnxIp
