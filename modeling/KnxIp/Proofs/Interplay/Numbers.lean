/-
  Which sequence numbers the requests of the calls carry.

  The calls take their numbers one after the other from a counter that a start sets back. So the
  numbers taken since the last start count up from 0, each call takes at most one, and its request
  carries it as often as it is sent (`Accounted`, `accounted_run`).

  A number is taken before it is known whether the session is started and whether the network takes
  the request. Main statement: `numbers_of_run`. The numbers that the network has seen since the
  last start are just the first ones, if the calls whose requests it took are those that were the
  first to take a number since then. That excludes a call that fails after it has taken its number,
  while others go on, and a call that takes its number before the start and sends after it;
  `gap_after_failure` is the first case.
-/
import KnxIp.Proofs.Interplay.Moves
import KnxIp.Proofs.Session.Lifecycle
import Mathlib.Data.List.Dedup

namespace KnxIp

/-! ## Reading a ledger -/

/-- The call that has taken a number, with this number. -/
def Entry.drawn? : Entry → Option (Nat × UInt8)
  | .drawn call number => some (call, number)
  | _ => none

/-- The call whose request was taken by the network, with this request. -/
def Entry.carried? : Entry → Option (Nat × Body)
  | .carried call request => some (call, request)
  | _ => none

namespace Ledger

/-- Which calls have taken which numbers, the first one first. -/
def drawn (entries : List Entry) : List (Nat × UInt8) := entries.filterMap Entry.drawn?

/-- Which requests the network has taken, with their calls. -/
def carried (entries : List Entry) : List (Nat × Body) := entries.filterMap Entry.carried?

/-- The different requests that the network has taken; repetitions count once. -/
def requests (entries : List Entry) : List (Nat × Body) := (carried entries).dedup

/-- The numbers that these requests carry. -/
def numbers (entries : List Entry) : List UInt8 :=
  (requests entries).filterMap fun request => request.2.sequence

/-- The entries since the last start. -/
def latest (entries : List Entry) : List Entry :=
  entries.foldl (fun since entry => if entry = .restarted then [] else since ++ [entry]) []

@[simp] theorem drawn_append (xs ys : List Entry) : drawn (xs ++ ys) = drawn xs ++ drawn ys :=
  List.filterMap_append

@[simp] theorem carried_append (xs ys : List Entry) :
    carried (xs ++ ys) = carried xs ++ carried ys := List.filterMap_append

@[simp] theorem drawn_restarted (entries : List Entry) :
    drawn (.restarted :: entries) = drawn entries := rfl

@[simp] theorem carried_restarted (entries : List Entry) :
    carried (.restarted :: entries) = carried entries := rfl

theorem latest_concat (entries : List Entry) (entry : Entry) :
    latest (entries ++ [entry]) = if entry = .restarted then [] else latest entries ++ [entry] := by
  rw [latest, List.foldl_append]
  rfl

theorem latest_of_restarted (past : List Entry) {since : List Entry} (last : .restarted ∉ since) :
    latest (past ++ .restarted :: since) = since := by
  induction since using List.reverseRecOn with
  | nil => rw [latest_concat, if_pos rfl]
  | append_singleton since entry ih =>
    have other : entry ≠ .restarted := by
      rintro rfl
      exact last (by simp)
    have before : .restarted ∉ since := fun mem => last (List.mem_append_left _ mem)
    rw [← List.cons_append, ← List.append_assoc, latest_concat, if_neg other, ih before]

/-- The request carries the number that the call has taken. -/
def Bears (entries : List Entry) (call : Nat) (request : Body) : Prop :=
  ∃ number, request.sequence = some number ∧ (call, number) ∈ drawn entries

theorem Bears.append {entries : List Entry} {call : Nat} {request : Body}
    (h : Bears entries call request) (more : List Entry) :
    Bears (entries ++ more) call request := by
  obtain ⟨number, own, mem⟩ := h
  exact ⟨number, own, by rw [drawn_append]; exact List.mem_append_left _ mem⟩

end Ledger

open Ledger

/-- If each call has taken one number at most, the numbers that the requests of calls carry are
those that these calls have taken. -/
theorem Ledger.perm_of_calls {all first : List (Nat × UInt8)} {sent : List (Nat × Body)}
    (once : (all.map (·.1)).Nodup)
    (borne : ∀ call request, (call, request) ∈ sent →
      ∃ number, request.sequence = some number ∧ (call, number) ∈ all)
    (within : ∀ p ∈ first, p ∈ all) (calls : (sent.map (·.1)).Perm (first.map (·.1))) :
    (sent.filterMap fun request => request.2.sequence).Perm (first.map (·.2)) := by
  obtain ⟨numberOf, number_of⟩ : ∃ f : Nat → UInt8, ∀ call number, (call, number) ∈ all →
      f call = number := by
    classical
    refine ⟨fun call => if h : ∃ number, (call, number) ∈ all then h.choose else 0, ?_⟩
    intro call number mem
    have known : ∃ number, (call, number) ∈ all := ⟨number, mem⟩
    refine (dif_pos known).trans ?_
    have same := List.inj_on_of_nodup_map once known.choose_spec mem rfl
    exact congrArg Prod.snd same
  have left : sent.filterMap (fun request => request.2.sequence) =
      (sent.map (·.1)).map numberOf := by
    rw [List.map_map, ← List.filterMap_eq_map]
    refine List.filterMap_congr fun request mem => ?_
    obtain ⟨number, own, drawn⟩ := borne request.1 request.2 mem
    rw [own]
    exact congrArg some (number_of _ _ drawn).symm
  have right : first.map (·.2) = (first.map (·.1)).map numberOf := by
    rw [List.map_map]
    exact List.map_congr_left fun p mem => (number_of p.1 p.2 (within p mem)).symm
  rw [left, right]
  exact calls.map numberOf

/-! ## The account -/

namespace Interplay

/-- The numbers are in order: the ledger, the counter and the calls say the same. -/
structure Accounted (x : Interplay) : Prop where
  /-- The numbers taken since the last start count up from 0. -/
  counted : (drawn (latest x.ledger)).map (·.2) =
    (List.range (drawn (latest x.ledger)).length).map Nat.toUInt8
  next : x.session.sequence.next = (drawn (latest x.ledger)).length.toUInt8
  /-- No call has taken two numbers. -/
  once : ((drawn x.ledger).map (·.1)).Nodup
  made : ∀ {i number}, (i, number) ∈ drawn x.ledger → i < x.calls.length
  borne : ∀ {i b}, (i, b) ∈ carried x.ledger → Bears x.ledger i b
  /-- No call has sent two requests. -/
  single : ∀ {i b b'}, (i, b) ∈ carried x.ledger → (i, b') ∈ carried x.ledger → b = b'
  unnumbered : ∀ {i c number}, x.calls[i]? = some c → c.stage.IsUnnumbered →
    (i, number) ∉ drawn x.ledger
  sending : ∀ {i c b}, x.calls[i]? = some c → c.stage.request? = some b →
    Bears x.ledger i b ∧ ∀ b', (i, b') ∈ carried x.ledger → b' = b

variable {x : Interplay}

/-- Nothing is entered into the ledger, and every call is further than before, or new. -/
theorem Accounted.quiet (h : x.Accounted) {session : Session} {lock : Lock} {calls : List Call}
    (sequence : session.sequence = x.session.sequence) (length : x.calls.length ≤ calls.length)
    (further : ∀ {i c}, calls[i]? = some c → x.calls.length ≤ i ∧ c.stage = .begun ∨
      ∃ before, x.calls[i]? = some before ∧
        (c.stage.IsUnnumbered → before.stage.IsUnnumbered) ∧
        ∀ b, c.stage.request? = some b → before.stage.request? = some b) :
    Accounted ⟨session, lock, calls, x.ledger⟩ where
  counted := h.counted
  next := by
    show session.sequence.next = _
    rw [sequence]
    exact h.next
  once := h.once
  made := fun mem => Nat.lt_of_lt_of_le (h.made mem) length
  borne := h.borne
  single := h.single
  unnumbered := by
    intro i c number found early mem
    obtain ⟨new, -⟩ | ⟨before, old, unnumbered, -⟩ := further found
    · exact absurd (h.made mem) (Nat.not_lt.mpr new)
    · exact h.unnumbered old (unnumbered early) mem
  sending := by
    intro i c b found sends
    obtain ⟨-, begun⟩ | ⟨before, old, -, request⟩ := further found
    · rw [begun] at sends
      cases sends
    · exact h.sending old (request b sends)

/-- Only the session has changed. -/
theorem Accounted.withSession (h : x.Accounted) {session : Session} (lock : Lock)
    (sequence : session.sequence = x.session.sequence) :
    Accounted ⟨session, lock, x.calls, x.ledger⟩ :=
  h.quiet sequence (Nat.le_refl _) fun {_ c} found => .inr ⟨c, found, id, fun _ => id⟩

/-- A start begins, and the numbers with it. -/
theorem Accounted.restart (h : x.Accounted) {session : Session} (lock : Lock)
    (sequence : session.sequence = .start) :
    Accounted ⟨session, lock, x.calls, x.ledger ++ [.restarted]⟩ := by
  have drawn_eq : drawn (x.ledger ++ [.restarted]) = drawn x.ledger := by simp [drawn, Entry.drawn?]
  have carried_eq : carried (x.ledger ++ [.restarted]) = carried x.ledger := by
    simp [carried, Entry.carried?]
  have fresh : latest (x.ledger ++ [.restarted]) = [] := by rw [latest_concat, if_pos rfl]
  refine ⟨?_, ?_, ?_, ?_, ?_, ?_, ?_, ?_⟩
  · rw [fresh]
    rfl
  · show session.sequence.next = _
    rw [fresh, sequence]
    rfl
  · show ((drawn (x.ledger ++ [.restarted])).map (·.1)).Nodup
    rw [drawn_eq]
    exact h.once
  · intro i number mem
    exact h.made (drawn_eq ▸ mem)
  · intro i b mem
    exact (h.borne (carried_eq ▸ mem)).append _
  · intro i b b' mem mem'
    exact h.single (carried_eq ▸ mem) (carried_eq ▸ mem')
  · intro i c number found early mem
    exact h.unnumbered found early (drawn_eq ▸ mem)
  · intro i c b found sends
    obtain ⟨bears, only⟩ := h.sending found sends
    exact ⟨bears.append _, fun b' mem => only b' (carried_eq ▸ mem)⟩

theorem getElem?_set_cases {calls : List Call} {i j : Nat} {c d : Call}
    (found : (calls.set i d)[j]? = some c) : j = i ∧ c = d ∨ j ≠ i ∧ calls[j]? = some c := by
  rw [List.getElem?_set] at found
  split at found
  case isTrue same =>
    split at found
    · exact .inl ⟨same.symm, (Option.some.inj found).symm⟩
    · cases found
  case isFalse other => exact .inr ⟨Ne.symm other, found⟩

variable {i : Nat} {c : Call}

/-- A call takes the next number. -/
theorem Accounted.draw (h : x.Accounted) (found : x.calls[i]? = some c)
    (early : c.stage.IsUnnumbered) {session : Session} (lock : Lock)
    (sequence : session.sequence = x.session.sequence.take.2) {b : Body}
    (carries : b.sequence = some x.session.sequence.next) :
    Accounted ⟨session, lock, x.calls.set i { c with stage := .numbered b },
      x.ledger ++ [.drawn i x.session.sequence.next]⟩ := by
  let number := x.session.sequence.next
  have drawn_eq : drawn (x.ledger ++ [.drawn i number]) = drawn x.ledger ++ [(i, number)] := by
    simp [drawn, Entry.drawn?]
  have carried_eq : carried (x.ledger ++ [.drawn i number]) = carried x.ledger := by
    simp [carried, Entry.carried?]
  have more : drawn (latest (x.ledger ++ [.drawn i number])) =
      drawn (latest x.ledger) ++ [(i, number)] := by
    rw [latest_concat, if_neg nofun]
    simp [drawn, Entry.drawn?]
  have new : ∀ n, (i, n) ∉ drawn x.ledger := fun _ => h.unnumbered found early
  refine ⟨?_, ?_, ?_, ?_, ?_, ?_, ?_, ?_⟩
  · show (drawn (latest (x.ledger ++ [.drawn i number]))).map (·.2) = _
    rw [more, List.map_append, h.counted, List.length_append, List.length_singleton,
      List.range_succ, List.map_append]
    have last : number = (drawn (latest x.ledger)).length.toUInt8 := h.next
    exact congrArg (_ ++ [·]) last
  · show session.sequence.next = _
    rw [more, sequence, List.length_append, List.length_singleton]
    show x.session.sequence.next + 1 = _
    rw [h.next]
    exact UInt8.toNat_inj.mp (by simp)
  · show ((drawn (x.ledger ++ [.drawn i number])).map (·.1)).Nodup
    rw [drawn_eq, List.map_append, List.nodup_append]
    refine ⟨h.once, List.nodup_singleton _, fun j mem k single same => ?_⟩
    obtain ⟨⟨j', n⟩, old, rfl⟩ := List.mem_map.mp mem
    obtain rfl : j' = i := same.trans (List.mem_singleton.mp single)
    exact new n old
  · intro j n mem
    rw [List.length_set]
    rcases List.mem_append.mp (drawn_eq ▸ mem) with mem | mem
    · exact h.made mem
    · cases List.mem_singleton.mp mem
      exact (List.getElem?_eq_some_iff.mp found).1
  · intro j b' mem
    exact (h.borne (carried_eq ▸ mem)).append _
  · intro j b' b'' mem mem'
    exact h.single (carried_eq ▸ mem) (carried_eq ▸ mem')
  · intro j d n later early' mem
    obtain ⟨-, rfl⟩ | ⟨other, old⟩ := getElem?_set_cases later
    · exact early'.elim
    · rcases List.mem_append.mp (drawn_eq ▸ mem) with mem | mem
      · exact h.unnumbered old early' mem
      · cases List.mem_singleton.mp mem
        exact other rfl
  · intro j d b' later sends
    obtain ⟨rfl, rfl⟩ | ⟨-, old⟩ := getElem?_set_cases later
    · obtain rfl := Option.some.inj sends
      refine ⟨⟨number, carries, drawn_eq ▸ List.mem_append_right _ (List.mem_singleton_self _)⟩, ?_⟩
      intro b'' mem
      obtain ⟨n, -, mem⟩ := h.borne (carried_eq ▸ mem)
      exact absurd mem (new n)
    · obtain ⟨bears, only⟩ := h.sending old sends
      exact ⟨bears.append _, fun b'' mem => only b'' (carried_eq ▸ mem)⟩

/-- The network takes the request of a call. -/
theorem Accounted.carry (h : x.Accounted) (found : x.calls[i]? = some c) {b : Body}
    (before : c.stage.request? = some b) {stage : Stage} (after : stage.request? = some b)
    {session : Session} (lock : Lock) (sequence : session.sequence = x.session.sequence) :
    Accounted ⟨session, lock, x.calls.set i { c with stage }, x.ledger ++ [.carried i b]⟩ := by
  have drawn_eq : drawn (x.ledger ++ [.carried i b]) = drawn x.ledger := by
    simp [drawn, Entry.drawn?]
  have carried_eq : carried (x.ledger ++ [.carried i b]) = carried x.ledger ++ [(i, b)] := by
    simp [carried, Entry.carried?]
  have same : drawn (latest (x.ledger ++ [.carried i b])) = drawn (latest x.ledger) := by
    rw [latest_concat, if_neg nofun]
    simp [drawn, Entry.drawn?]
  obtain ⟨bears, only⟩ := h.sending found before
  have known : ∀ {j b'}, (j, b') ∈ carried (x.ledger ++ [.carried i b]) →
      (j, b') ∈ carried x.ledger ∨ j = i ∧ b' = b := by
    intro j b' mem
    rcases List.mem_append.mp (carried_eq ▸ mem) with mem | mem
    · exact .inl mem
    · cases List.mem_singleton.mp mem
      exact .inr ⟨rfl, rfl⟩
  refine ⟨?_, ?_, ?_, ?_, ?_, ?_, ?_, ?_⟩
  · show (drawn (latest (x.ledger ++ [.carried i b]))).map (·.2) = _
    rw [same]
    exact h.counted
  · show session.sequence.next = _
    rw [same, sequence]
    exact h.next
  · show ((drawn (x.ledger ++ [.carried i b])).map (·.1)).Nodup
    rw [drawn_eq]
    exact h.once
  · intro j number mem
    rw [List.length_set]
    exact h.made (drawn_eq ▸ mem)
  · intro j b' mem
    obtain mem | ⟨rfl, rfl⟩ := known mem
    · exact (h.borne mem).append _
    · exact bears.append _
  · intro j b' b'' mem mem'
    obtain old | ⟨rfl, rfl⟩ := known mem <;> obtain old' | ⟨here, rfl⟩ := known mem'
    · exact h.single old old'
    · exact only b' (here ▸ old)
    · exact (only b'' old').symm
    · rfl
  · intro j d number later early mem
    obtain ⟨-, rfl⟩ | ⟨-, old⟩ := getElem?_set_cases later
    · exact (Stage.not_isUnnumbered after early).elim
    · exact h.unnumbered old early (drawn_eq ▸ mem)
  · intro j d b' later sends
    obtain ⟨rfl, rfl⟩ | ⟨other, old⟩ := getElem?_set_cases later
    · obtain rfl := Option.some.inj (after.symm.trans sends)
      refine ⟨bears.append _, fun b'' mem => ?_⟩
      obtain mem | ⟨-, rfl⟩ := known mem
      · exact only b'' mem
      · rfl
    · obtain ⟨bears', only'⟩ := h.sending old sends
      refine ⟨bears'.append _, fun b'' mem => ?_⟩
      obtain mem | ⟨same, -⟩ := known mem
      · exact only' b'' mem
      · exact absurd same other

/-- A step that the ledger does not note. -/
theorem Accounted.further (h : x.Accounted) (found : x.calls[i]? = some c) {stage : Stage}
    {session : Session} (lock : Lock) (counter : session.sequence = x.session.sequence)
    (early : stage.IsUnnumbered → c.stage.IsUnnumbered)
    (request : ∀ b, stage.request? = some b → c.stage.request? = some b) :
    Accounted ⟨session, lock, x.calls.set i { c with stage }, x.ledger ++ []⟩ := by
  rw [List.append_nil]
  have length : x.calls.length ≤ (x.calls.set i { c with stage }).length :=
    Nat.le_of_eq List.length_set.symm
  refine h.quiet counter length fun {j d} later => .inr ?_
  obtain ⟨rfl, rfl⟩ | ⟨-, old⟩ := getElem?_set_cases later
  · exact ⟨c, found, early, request⟩
  · exact ⟨d, old, id, fun _ => id⟩

theorem Accounted.turn (h : x.Accounted) (found : x.calls[i]? = some c)
    {sequence : SequenceCounter} {stage : Stage} {entry : Option Entry}
    (turns : c.Turns i x.session sequence stage entry) {session : Session} (lock : Lock)
    (counter : session.sequence = sequence) :
    Accounted ⟨session, lock, x.calls.set i { c with stage }, x.ledger ++ entry.toList⟩ := by
  cases turns with
  | stays => exact h.further found lock counter id fun _ => id
  | approaches before after =>
    exact h.further found lock counter (fun _ => before)
      fun b sends => absurd after (Stage.not_isUnnumbered sends)
  | draws addressed =>
    have early : c.stage.IsUnnumbered := by rw [addressed]; trivial
    exact h.draw found early lock counter rfl
  | keeps before after =>
    exact h.further found lock counter (fun early => absurd early (Stage.not_isUnnumbered after))
      fun b sends => before.trans (after.symm.trans sends)
  | carries before after => exact h.carry found before after lock counter
  | sends r =>
    have ended : ¬ (c.sent r).IsUnnumbered ∧ (c.sent r).request? = none := by
      obtain ⟨d, ended, -⟩ | ⟨f, ended⟩ | ⟨answer, ended, -⟩ := c.sent_cases r <;>
        exact ended ▸ ⟨id, rfl⟩
    exact h.further found lock counter (fun early => absurd early ended.1)
      fun b sends => by cases ended.2.symm.trans sends
  | fails | watches | sees | misses =>
    refine h.further found lock counter False.elim fun b sends => ?_
    have impossible : none = some b := sends
    cases impossible

theorem sequence_request (n : Network) (s : Session) (b : Body) :
    (s.request n b).2.sequence = s.sequence := by
  unfold Session.request
  split <;> rfl

theorem accounted_steers {y : Interplay} (orderly : x.Orderly) (h : x.Accounted)
    (steers : x.Steers y) : y.Accounted := by
  cases steers with
  | starts => exact h.restart _ rfl
  | serves n failure =>
    exact h.withSession _ (Session.Start.starting_services n _ orderly.2.2.1).sequence
  | idles | misses | shuts | succeeds | fails | unwatches | parts | releases | ends =>
    exact h.withSession _ rfl

theorem accounted_apply (orderly : x.Orderly) (h : x.Accounted) (m : Move) :
    (x.apply m).Accounted := by
  cases m with
  | start | close | helper | proceed => exact accounted_steers orderly h (x.steers_apply id)
  | call errand =>
    have length : x.calls.length ≤ (x.calls ++ [Call.mk errand .begun]).length := by simp
    refine h.quiet rfl length fun {j c} found => ?_
    have after : (x.apply (.call errand)).calls[j]? = some c := found
    obtain old | ⟨errand', -, rfl, rfl⟩ | ⟨n, late, before, impossible, -⟩ := call_of_apply after
    · exact .inr ⟨c, old, id, fun _ => id⟩
    · exact .inl ⟨Nat.le_refl _, rfl⟩
    · cases impossible
  | advance i n late =>
    simp only [apply, advance]
    split
    case h_1 => exact h
    case h_2 c found => exact h.turn found (c.turns_step n late i x.session) x.lock rfl
  | send n b => exact h.withSession _ (Call.sequence_send n x.session b)
  | request n b => exact h.withSession _ (sequence_request n x.session b)
  | interval n =>
    refine h.withSession _ ?_
    unfold Session.keepAlive
    split <;> rfl
  | arrive | markDirty | clear => exact h.withSession _ rfl

theorem accounted_run (orderly : x.Orderly) (h : x.Accounted) (moves : List Move) :
    (x.run moves).Accounted :=
  holds_run (fun m orderly h => accounted_apply orderly h m) orderly h moves

theorem accounted_new (settings : Settings) (context : Context) :
    (Interplay.new settings context).Accounted where
  counted := rfl
  next := rfl
  once := List.nodup_nil
  made := nofun
  borne := nofun
  single := nofun
  unnumbered := nofun
  sending := nofun

/-! ## What the network has taken -/

end Interplay

/-- A datagram with this body was handed over, and the network has taken it. -/
def World.HasSent (w : World) (b : Body) : Prop :=
  ∃ a ∈ w.attempts, a.refused = false ∧ (Frame.ofBody b).bytes = .ok a.datagram.bytes

theorem World.HasSent.of_journal {w v : World} {b : Body} (h : w.HasSent b)
    {since : List Happening} (grown : v.journal = w.journal ++ since) : v.HasSent b := by
  obtain ⟨a, mem, taken⟩ := h
  refine ⟨a, ?_, taken⟩
  rw [attempts, grown, List.filterMap_append]
  exact List.mem_append_left _ mem

theorem World.hasSent_of_send {n : Network} {w v : World} {socket : Socket} {b : Body}
    (sent : w.send n socket b = (.ok (), v)) : v.HasSent b := by
  obtain ⟨f, -, ended⟩ | ⟨d, written, -, ⟨fault, -, ended⟩ | ⟨-, ended⟩⟩ :=
    sendTo_cases n w socket.address b (socket.peers.ofChannel b.service.channel)
  · cases ended.symm.trans sent
  · cases ended.symm.trans sent
  · obtain rfl := (Prod.mk.inj (ended.symm.trans sent)).2
    have logged : (w.log .caller socket.address d false).HasSent b := by
      refine ⟨⟨.caller, socket.address, d, false⟩, ?_, rfl, written⟩
      rw [attempts, log, note, List.filterMap_append]
      exact List.mem_append_right _ (List.mem_singleton_self _)
    obtain ⟨operations, heard⟩ := hears_arriveAll n (w.log .caller socket.address d false)
      (n.react w.attempts .caller socket.address d).arrivals
    obtain ⟨since, grown, -⟩ := heard.journal
    exact logged.of_journal grown

theorem Call.hasSent_of_step {n : Network} {late : Bool} {i j : Nat} {s : Session} {c : Call}
    {b : Body} (carried : (c.step n late i s).entry = some (.carried j b)) :
    (c.step n late i s).session.world.HasSent b := by
  obtain ⟨errand, stage⟩ := c
  unfold step at carried ⊢
  cases stage with
  | registered request socket attempts =>
    dsimp only at carried ⊢
    split at carried
    case h_1 => cases carried
    case h_2 w sent =>
      obtain rfl := (Entry.carried.inj (Option.some.inj carried)).2
      exact World.hasSent_of_send sent
  | routed request socket attempts =>
    cases attempts with
    | zero => cases carried
    | succ attempts =>
      dsimp only at carried
      split at carried <;> cases carried
  | begun | marked | addressed | failed | answered => cases carried
  | composed | numbered | admitted | waiting | watching =>
    dsimp only at carried
    (repeat' split at carried) <;> cases carried

namespace Interplay

variable {x : Interplay}

theorem carried_steers {y : Interplay} (steers : x.Steers y) :
    carried y.ledger = carried x.ledger := by
  cases steers with
  | starts => simp [carried, Entry.carried?]
  | _ => rfl

/-- What a move enters into the ledger as taken by the network was handed over in this move. -/
theorem carried_apply {m : Move} {i : Nat} {b : Body} (mem : (i, b) ∈ carried (x.apply m).ledger) :
    (i, b) ∈ carried x.ledger ∨ (x.apply m).session.world.HasSent b := by
  obtain isBeside | steers := x.beside_or_steers m
  · cases m with
    | start | close | helper | proceed => exact isBeside.elim
    | advance j n late =>
      simp only [apply, advance] at mem ⊢
      split at mem
      case h_1 => exact .inl mem
      case h_2 c found =>
        rw [carried_append] at mem
        refine (List.mem_append.mp mem).imp_right fun mem => ?_
        obtain ⟨entry, noted, same⟩ := List.mem_filterMap.mp mem
        cases entry with
        | carried i' b' =>
          cases same
          exact Call.hasSent_of_step (Option.mem_toList.mp noted)
        | _ => cases same
    | call | send | request | arrive | interval | markDirty | clear => exact .inl mem
  · rw [carried_steers steers] at mem
    exact .inl mem

/-- By induction on the moves, from the last one. -/
theorem carried_run (orderly : x.Orderly) (none : carried x.ledger = []) (moves : List Move)
    {i : Nat} {b : Body} (mem : (i, b) ∈ carried (x.run moves).ledger) :
    (x.run moves).session.world.HasSent b := by
  induction moves using List.reverseRecOn with
  | nil =>
    rw [run, List.foldl_nil, none] at mem
    cases mem
  | append_singleton moves m ih =>
    rw [run_concat] at mem ⊢
    obtain old | sent := carried_apply mem
    · obtain ⟨operations, gathers⟩ := gathers_apply (orderly_run orderly moves) m
      obtain ⟨since, grown, -⟩ := gathers.journal
      exact (ih old).of_journal grown
    · exact sent

/-! ## The numbers on the network -/

/-- The numbers taken since a start count up from 0, and no call takes two. Every request that the
network has taken was handed over and carries the number that its call has taken, and a call has
only one request. So if the calls whose requests the network has taken since the start are those
that were the first to take a number since then, the numbers of the different requests are the first
ones, each as often as it comes up modulo 256. -/
theorem numbers_of_run (settings : Settings) {context : Context}
    (fresh : context.connection.channelId = none) (moves : List Move) {past since : List Entry}
    (ledger : ((Interplay.new settings context).run moves).ledger = past ++ .restarted :: since)
    (last : .restarted ∉ since) :
    let x := (Interplay.new settings context).run moves
    let n := (requests since).length
    (drawn since).map (·.2) = (List.range (drawn since).length).map Nat.toUInt8 ∧
    ((drawn (past ++ since)).map (·.1)).Nodup ∧
    (∀ call request, (call, request) ∈ requests since →
      x.session.world.HasSent request ∧
        ∃ number, request.sequence = some number ∧ (call, number) ∈ drawn (past ++ since)) ∧
    ((requests since).map (·.1)).Nodup ∧
    (((requests since).map (·.1)).Perm (((drawn since).take n).map (·.1)) →
      (numbers since).Perm ((List.range n).map Nat.toUInt8)) := by
  intro x n
  have account : x.Accounted :=
    accounted_run (orderly_new settings fresh) (accounted_new settings context) moves
  have counted : (drawn since).map (·.2) =
      (List.range (drawn since).length).map Nat.toUInt8 := by
    have all := account.counted
    rwa [ledger, latest_of_restarted past last] at all
  have drawn_eq : drawn (past ++ .restarted :: since) = drawn (past ++ since) := by
    simp
  have once : ((drawn (past ++ since)).map (·.1)).Nodup := by
    rw [← drawn_eq, ← ledger]
    exact account.once
  have known : ∀ {call request}, (call, request) ∈ requests since →
      (call, request) ∈ carried x.ledger := by
    intro call request mem
    rw [ledger, carried_append, carried_restarted]
    exact List.mem_append_right _ (List.mem_dedup.mp mem)
  have borne : ∀ call request, (call, request) ∈ requests since →
      ∃ number, request.sequence = some number ∧ (call, number) ∈ drawn (past ++ since) := by
    intro call request mem
    rw [← drawn_eq, ← ledger]
    exact account.borne (known mem)
  have single : ((requests since).map (·.1)).Nodup := by
    refine List.Nodup.map_on ?_ (List.nodup_dedup _)
    rintro ⟨call, request⟩ mem ⟨call', request'⟩ mem' (rfl : call = call')
    rw [account.single (known mem) (known mem')]
  have handed : ∀ call request, (call, request) ∈ requests since →
      x.session.world.HasSent request :=
    fun call request mem => carried_run (orderly_new settings fresh) rfl moves (known mem)
  refine ⟨counted, once, fun call request mem => ⟨handed call request mem, borne call request mem⟩,
    single, fun first => ?_⟩
  have taken : ∀ p ∈ (drawn since).take n, p ∈ drawn (past ++ since) := by
    intro p mem
    rw [drawn_append]
    exact List.mem_append_right _ (List.mem_of_mem_take mem)
  have enough : n ≤ (drawn since).length := by
    have length := first.length_eq
    simp only [List.length_map, List.length_take] at length
    omega
  have same := perm_of_calls once borne taken first
  rwa [List.map_take, counted, ← List.map_take, List.take_range, Nat.min_eq_left enough] at same

/-- Two calls send one after the other. -/
theorem numbers_of_run_two :
    let gateway := (Session.granting []).network
    let write (value : UInt8) : Move := .call (.write (.group ⟨0x0A03⟩) [value])
    let steps (call : Nat) : List Move := List.replicate 7 (.advance call gateway false)
    let context := Context.new .nobody
    let x := (Interplay.new (.tunnelingTo Gateway.main) context).run
      ([.start, .proceed gateway, .proceed gateway, write 1, write 2] ++ steps 1 ++ steps 0)
    let since := latest x.ledger
    context.connection.channelId = none ∧ x.ledger = [] ++ .restarted :: since ∧
      .restarted ∉ since ∧ (requests since).length = 2 ∧
      ((requests since).map (·.1)).Perm (((drawn since).take 2).map (·.1)) ∧
      (numbers since).Perm ((List.range 2).map Nat.toUInt8) := by
  intro gateway write steps context x since
  have fresh : context.connection.channelId = none := rfl
  have ledger : x.ledger = [] ++ .restarted :: since := by decide +kernel
  have last : .restarted ∉ since := by decide +kernel
  have two : (requests since).length = 2 := by decide +kernel
  have first : ((requests since).map (·.1)).Perm (((drawn since).take 2).map (·.1)) := by
    decide +kernel
  refine ⟨fresh, ledger, last, two, first, ?_⟩
  have numbered := (numbers_of_run (.tunnelingTo Gateway.main) fresh
    ([.start, .proceed gateway, .proceed gateway, write 1, write 2] ++ steps 1 ++ steps 0)
    ledger last).2.2.2.2
  rw [two] at numbered
  exact numbered first

/-- The network refuses the first request, and the call fails; or the first call finds the channel
before the start has ended, and fails because the session is not started. Both times it has
transmitted nothing, and yet the only request on the network carries the number 1. -/
theorem gap_after_failure :
    let gateway := (Session.granting []).network
    let d : Destination := .group ⟨0x0A03⟩
    let write (value : UInt8) : Move := .call (.write d [value])
    let steps (call count : Nat) : List Move := List.replicate count (.advance call gateway false)
    let new := Interplay.new (.tunnelingTo Gateway.main) (Context.new .nobody)
    let refused := new.run ([.start, .proceed gateway, .proceed gateway, write 1] ++ steps 0 6 ++
      [.advance 0 .offline false, write 2] ++ steps 1 7)
    let early := new.run ([.start, .proceed gateway, write 1] ++ steps 0 4 ++
      [.proceed gateway, write 2] ++ steps 1 7)
    refused.calls[0]? =
        some ⟨.write d [1], .failed (.transport ⟨.send, "Network is unreachable"⟩)⟩ ∧
      early.calls[0]? = some ⟨.write d [1], .failed (.connection .notStarted)⟩ ∧
      ∀ x ∈ [refused, early], (requests x.ledger).map (·.1) = [1] ∧ numbers x.ledger = [1] ∧
        ¬ (numbers x.ledger).Perm ((List.range (requests x.ledger).length).map Nat.toUInt8) := by
  decide +kernel

end Interplay
end KnxIp
