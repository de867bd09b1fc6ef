/-
  What one move does.

  A move either goes on beside starting and closing (`beside_apply`), or takes the session a step
  through a start or a close, which only who has the lock can do (`Steers`, `steers_apply`). So what
  the session holds is determined by how far the one with the lock has got (`Orderly`), in every run
  (`orderly_run`). Of the calls, a move touches at most the one whose turn it is (`call_of_apply`,
  `call_apply`).
-/
import KnxIp.Proofs.Interplay.Calls
import KnxIp.Proofs.Session.Listening
import KnxIp.Proofs.Session.Progress

namespace KnxIp

open Journal StatusPool

/-! ## Beside starting and closing -/

/-- A move that takes no part in starting and closing. -/
def Move.IsBeside : Move → Prop
  | .start | .close | .helper | .proceed _ => False
  | _ => True

namespace Interplay

variable {x : Interplay}

theorem beside_advance (x : Interplay) (n : Network) (late : Bool) (i : Nat) :
    (x.advance n late i).lock = x.lock ∧
      ∃ operations, Session.Beside operations x.session (x.advance n late i).session := by
  unfold advance
  split
  · exact ⟨rfl, [], .refl _⟩
  · exact ⟨rfl, Call.beside_step ..⟩

/-- One lemma for all moves that go on beside starting and closing. -/
theorem beside_apply (x : Interplay) {m : Move} (h : m.IsBeside) :
    (x.apply m).lock = x.lock ∧
      ∃ operations, Session.Beside operations x.session (x.apply m).session := by
  cases m with
  | start | close | helper | proceed => exact h.elim
  | call => exact ⟨rfl, [], .refl _⟩
  | advance i n late => exact x.beside_advance n late i
  | send n b => exact ⟨rfl, x.session.beside_send n b⟩
  | request n b => exact ⟨rfl, x.session.beside_request n b⟩
  | arrive n address source bytes => exact ⟨rfl, x.session.beside_arrive n address source bytes⟩
  | interval n => exact ⟨rfl, x.session.beside_keepAlive n⟩
  | markDirty d => exact ⟨rfl, _, x.session.beside_markDirty d⟩
  | clear => exact ⟨rfl, _, .withStatus .clear rfl⟩

/-! ## Starting and closing -/

/-- Disconnecting changes nothing but the world. -/
theorem disconnectHeld_eq (n : Network) (s : Session) :
    ∃ w operations, s.disconnectHeld n = { s with world := w } ∧ s.world.Hears operations w := by
  have same : ∃ w operations, s = { s with world := w } ∧ s.world.Hears operations w :=
    ⟨s.world, [], rfl, .refl _⟩
  unfold Session.disconnectHeld
  split
  · exact same
  · split
    · exact same
    · unfold Session.disconnect
      split
      · exact same
      · obtain ⟨operations, heard⟩ := s.world.hears_request n _ _
        exact ⟨_, operations, rfl, heard⟩

/-- What a move does that takes part in starting and closing. -/
inductive Steers : Interplay → Interplay → Prop
  /-- The move is not possible. -/
  | idles (x : Interplay) : Steers x x
  | starts {s : Session} {calls : List Call} {ledger : List Entry} (idle : s.phase = .notStarted) :
      Steers ⟨s, .free, calls, ledger⟩ ⟨s.prepare, .starting, calls, ledger ++ [.restarted]⟩
  /-- A helper finds nothing to close. -/
  | misses {s : Session} {calls : List Call} {ledger : List Entry} (closed : s.closed = true) :
      Steers ⟨s, .free, calls, ledger⟩
        ⟨{ s with closersRun := s.closersRun + 1 }, .free, calls, ledger⟩
  /-- The application or a helper begins to close the session. -/
  | shuts {s : Session} {calls : List Call} {ledger : List Entry} (isOpen : s.closed = false)
      (closersRun : Nat) :
      Steers ⟨s, .free, calls, ledger⟩ ⟨shut { s with closersRun }, .stopping, calls, ledger⟩
  /-- The services of a start end, well or not. -/
  | serves {s : Session} {calls : List Call} {ledger : List Entry} (n : Network)
      (failure : Option Failure) :
      Steers ⟨s, .starting, calls, ledger⟩
        ⟨(Session.Start.services n s).2, .served failure, calls, ledger⟩
  | succeeds {s : Session} {calls : List Call} {ledger : List Entry} :
      Steers ⟨s, .served none, calls, ledger⟩
        ⟨(s.enter .started).withContext (·.notify .start), .free, calls, ledger⟩
  | fails {s : Session} {calls : List Call} {ledger : List Entry} (f : Failure) :
      Steers ⟨s, .served (some f), calls, ledger⟩ ⟨shut s, .stopping, calls, ledger⟩
  | unwatches {s : Session} {calls : List Call} {ledger : List Entry} :
      Steers ⟨s, .stopping, calls, ledger⟩ ⟨{ s with monitor := none }, .unwatched, calls, ledger⟩
  | parts {s : Session} {calls : List Call} {ledger : List Entry} {w : World}
      {operations : List StatusPool.Operation} (heard : s.world.Hears operations w) :
      Steers ⟨s, .unwatched, calls, ledger⟩ ⟨{ s with world := w }, .parted, calls, ledger⟩
  | releases {s : Session} {calls : List Call} {ledger : List Entry} :
      Steers ⟨s, .parted, calls, ledger⟩ ⟨s.release, .released, calls, ledger⟩
  | ends {s : Session} {calls : List Call} {ledger : List Entry} :
      Steers ⟨s, .released, calls, ledger⟩
        ⟨(s.enter .notStarted).withContext (·.notify .shutdown), .free, calls, ledger⟩

theorem steers_proceed (n : Network) (x : Interplay) : x.Steers (x.proceed n) := by
  obtain ⟨s, lock, calls, ledger⟩ := x
  cases lock with
  | free => exact .idles _
  | starting =>
    have served := @Steers.serves s calls ledger n
    unfold proceed
    dsimp only
    generalize Session.Start.services n s = ended at served ⊢
    obtain ⟨result, t⟩ := ended
    cases result <;> exact served _
  | served failure =>
    cases failure with
    | none => exact .succeeds
    | some f => exact .fails f
  | stopping => exact .unwatches
  | unwatched =>
    obtain ⟨w, operations, ended, heard⟩ := disconnectHeld_eq n s
    unfold proceed
    dsimp only
    rw [ended]
    exact .parts heard
  | parted => exact .releases
  | released => exact .ends

/-- One lemma for all moves that take part in starting and closing. -/
theorem steers_apply (x : Interplay) {m : Move} (h : ¬ m.IsBeside) : x.Steers (x.apply m) := by
  cases m with
  | start =>
    simp only [apply]
    split
    case isTrue possible =>
      obtain ⟨s, lock, calls, ledger⟩ := x
      obtain ⟨rfl, idle⟩ : lock = .free ∧ s.phase = .notStarted := possible
      exact .starts idle
    case isFalse => exact .idles x
  | close =>
    simp only [apply, teardown]
    split
    case isTrue free =>
      obtain ⟨s, lock, calls, ledger⟩ := x
      obtain rfl : lock = .free := free
      split
      case isTrue => exact .idles _
      case isFalse isOpen => exact .shuts (eq_false_of_ne_true isOpen) s.closersRun
    case isFalse => exact .idles x
  | helper =>
    simp only [apply, teardown]
    split
    case isTrue possible =>
      obtain ⟨s, lock, calls, ledger⟩ := x
      obtain rfl : lock = .free := possible.1
      split
      case isTrue closed => exact .misses closed
      case isFalse isOpen => exact .shuts (eq_false_of_ne_true isOpen) (s.closersRun + 1)
    case isFalse => exact .idles x
  | proceed n => exact steers_proceed n x
  | call | advance | send | request | arrive | interval | markDirty | clear =>
    exact (h trivial).elim

theorem Steers.calls_eq {x y : Interplay} (h : x.Steers y) : y.calls = x.calls := by
  cases h <;> rfl

/-- A move goes on beside starting and closing, or takes part in them. -/
theorem beside_or_steers (x : Interplay) (m : Move) : m.IsBeside ∨ x.Steers (x.apply m) := by
  by_cases h : m.IsBeside
  · exact .inl h
  · exact .inr (x.steers_apply h)

/-! ## Which call takes a step -/

/-- A call after a move was there before, or is made by the move, or has taken a step in it. -/
theorem call_of_apply {m : Move} {j : Nat} {c : Call} (h : (x.apply m).calls[j]? = some c) :
    x.calls[j]? = some c ∨
      (∃ errand, m = .call errand ∧ j = x.calls.length ∧ c = ⟨errand, .begun⟩) ∨
      ∃ n late before, m = .advance j n late ∧ x.calls[j]? = some before ∧
        c = { before with stage := (before.step n late j x.session).stage } := by
  cases m with
  | call errand =>
    have here : (x.calls ++ [⟨errand, .begun⟩])[j]? = some c := h
    rw [List.getElem?_append] at here
    split at here
    case isTrue => exact .inl here
    case isFalse old =>
      rw [List.getElem?_singleton] at here
      split at here
      case isTrue last => exact .inr (.inl ⟨errand, rfl, by omega, (Option.some.inj here).symm⟩)
      case isFalse => cases here
  | advance i n late =>
    simp only [apply, advance] at h
    split at h
    case h_1 => exact .inl h
    case h_2 before found =>
      rw [List.getElem?_set] at h
      split at h
      case isTrue same =>
        subst same
        split at h
        · exact .inr (.inr ⟨n, late, before, rfl, found, (Option.some.inj h).symm⟩)
        · cases h
      case isFalse => exact .inl h
  | start | close | helper | proceed =>
    rw [(x.steers_apply id).calls_eq] at h
    exact .inl h
  | send | request | arrive | interval | markDirty | clear => exact .inl h

/-- A call that was there before a move is there after it, and has taken a step if it was its
turn. -/
theorem call_apply {j : Nat} {c : Call} (h : x.calls[j]? = some c) (m : Move) :
    (x.apply m).calls[j]? = some c ∨
      ∃ n late, m = .advance j n late ∧
        (x.apply m).session = (c.step n late j x.session).session ∧
        (x.apply m).calls[j]? =
          some { c with stage := (c.step n late j x.session).stage } := by
  have known : j < x.calls.length := (List.getElem?_eq_some_iff.mp h).1
  cases m with
  | call errand => exact .inl ((List.getElem?_append_left known).trans h)
  | advance i n late =>
    by_cases turn : i = j
    · subst turn
      refine .inr ⟨n, late, rfl, ?_⟩
      simp only [apply, advance, h]
      exact ⟨trivial, List.getElem?_set_self known⟩
    · refine .inl ?_
      simp only [apply, advance]
      split
      · exact h
      · exact (List.getElem?_set_ne turn).trans h
  | start | close | helper | proceed =>
    rw [(x.steers_apply id).calls_eq]
    exact .inl h
  | send | request | arrive | interval | markDirty | clear => exact .inl h

end Interplay

/-! ## Who has the lock -/

/-- Nothing of a connection is left, whatever the phase. -/
structure Session.Spent (s : Session) : Prop where
  closed : s.closed = true
  sockets : s.world.sockets = []
  monitor : s.monitor = none
  channelId : s.channelId = none
  control : s.negotiated.control = none
  data : s.negotiated.data = none

theorem Session.Spent.down {s : Session} (h : s.Spent) (phase : s.phase = .notStarted) : s.Down :=
  ⟨phase, h.closed, h.sockets, h.monitor, h.channelId, h.control, h.data⟩

theorem Session.Beside.spent {s t : Session} {operations : List StatusPool.Operation}
    (h : Session.Beside operations s t) (spent : s.Spent) : t.Spent where
  closed := h.closed.trans spent.closed
  sockets := h.sockets spent.sockets
  monitor := h.monitor spent.monitor
  channelId := h.channelId.trans spent.channelId
  control := h.negotiated ▸ spent.control
  data := h.negotiated ▸ spent.data

namespace Interplay

variable {x : Interplay}

/-- What the session holds goes with how far the one who has the lock has got. -/
def Orderly (x : Interplay) : Prop :=
  let s := x.session
  match x.lock with
  | .free => s.phase = .notStarted ∧ s.Spent ∨ s.phase = .started ∧ s.closed = false
  | .starting =>
    s.phase = .startRequested ∧ s.closed = false ∧ s.channelId = none ∧ s.monitor = none
  | .served _ => s.phase = .startRequested ∧ s.closed = false
  | .stopping => s.phase = .stopRequested ∧ s.closed = true
  | .unwatched | .parted => s.phase = .stopRequested ∧ s.closed = true ∧ s.monitor = none
  | .released => s.phase = .stopRequested ∧ s.Spent

theorem orderly_beside (h : x.Orderly) {m : Move} (isBeside : m.IsBeside) :
    (x.apply m).Orderly := by
  obtain ⟨lock, operations, beside⟩ := x.beside_apply isBeside
  unfold Orderly at h ⊢
  dsimp only at h ⊢
  rw [lock, beside.phase, beside.closed, beside.channelId]
  generalize x.lock = l at h
  cases l with
  | free => exact h.imp_left fun ⟨phase, spent⟩ => ⟨phase, beside.spent spent⟩
  | starting => exact ⟨h.1, h.2.1, h.2.2.1, beside.monitor h.2.2.2⟩
  | served | stopping => exact h
  | unwatched | parted => exact ⟨h.1, h.2.1, beside.monitor h.2.2⟩
  | released => exact ⟨h.1, beside.spent h.2⟩

theorem orderly_steers {y : Interplay} (h : x.Orderly) (steers : x.Steers y) : y.Orderly := by
  cases steers with
  | idles => exact h
  | starts idle =>
    obtain ⟨-, spent⟩ | ⟨started, -⟩ := h
    · exact ⟨rfl, rfl, rfl, spent.monitor⟩
    · cases idle.symm.trans started
  | misses closed =>
    refine Or.imp_left (fun ⟨phase, spent⟩ => ⟨phase, ?_⟩) h
    exact ⟨closed, spent.sockets, spent.monitor, spent.channelId, spent.control, spent.data⟩
  | shuts | fails => exact ⟨rfl, rfl⟩
  | serves n failure =>
    obtain ⟨phase, isOpen, free, -⟩ := h
    have starting := Session.Start.starting_services n _ free
    exact ⟨starting.phase.trans phase, starting.closed.trans isOpen⟩
  | succeeds => exact .inr ⟨rfl, h.2⟩
  | unwatches => exact ⟨h.1, h.2, rfl⟩
  | parts => exact h
  | releases => exact ⟨h.1, h.2.1, rfl, h.2.2, rfl, rfl, rfl⟩
  | ends =>
    obtain ⟨-, closed, sockets, monitor, channelId, control, data⟩ := h
    exact .inl ⟨rfl, closed, sockets, monitor, channelId, control, data⟩

theorem orderly_apply (h : x.Orderly) (m : Move) : (x.apply m).Orderly :=
  (x.beside_or_steers m).elim (orderly_beside h) (orderly_steers h)

/-- By induction on the moves. -/
theorem orderly_run (h : x.Orderly) (moves : List Move) : (x.run moves).Orderly := by
  induction moves generalizing x with
  | nil => exact h
  | cons m moves ih => exact ih (orderly_apply h m)

/-- What every move keeps, holds after every run. By induction on the moves. -/
theorem holds_run {P : Interplay → Prop}
    (kept : ∀ {y : Interplay} (m : Move), y.Orderly → P y → P (y.apply m)) (orderly : x.Orderly)
    (holds : P x) (moves : List Move) : P (x.run moves) := by
  induction moves generalizing x with
  | nil => exact holds
  | cons m moves ih => exact ih (orderly_apply orderly m) (kept m orderly holds)

theorem orderly_new (settings : Settings) {context : Context}
    (fresh : context.connection.channelId = none) : (Interplay.new settings context).Orderly :=
  .inl ⟨rfl, rfl, rfl, rfl, fresh, rfl, rfl⟩

end Interplay

/-! ## What comes into the known values -/

namespace Session

/-- The known values of the second session have come about from those of the first one by these
operations, and what they brought was received meanwhile, in this order. -/
structure Gathers (operations : List StatusPool.Operation) (s t : Session) : Prop where
  status : t.context.status = s.context.status.run operations
  journal : ∃ since, t.world.journal = s.world.journal ++ since ∧
    (renewals operations).Sublist (values since)

variable {operations operations' : List StatusPool.Operation} {s t u : Session}

theorem Gathers.trans (h : Gathers operations s t) (k : Gathers operations' t u) :
    Gathers (operations ++ operations') s u := by
  obtain ⟨since, grown, brought⟩ := h.journal
  obtain ⟨since', grown', brought'⟩ := k.journal
  refine ⟨?_, since ++ since', ?_, ?_⟩
  · rw [k.status, h.status, StatusPool.run_append]
  · rw [grown', grown, List.append_assoc]
  · rw [renewals_append, values_append]
    exact brought.append brought'

/-- Nothing comes into the known values. -/
theorem gathers_of_eq (status : t.context.status = s.context.status) {since : List Happening}
    (grown : t.world.journal = s.world.journal ++ since) : Gathers [] s t :=
  ⟨status, since, grown, List.nil_sublist _⟩

theorem Gathers.refl (s : Session) : Gathers [] s s := gathers_of_eq rfl (List.append_nil _).symm

theorem Beside.gathers (h : Beside operations s t) : Gathers operations s t := by
  obtain ⟨since, grown, brought, -⟩ := h.journal
  exact ⟨h.status, since, grown, brought⟩

theorem Starting.gathers (h : s.Starting t) : ∃ operations, Gathers operations s t := by
  obtain ⟨operations, since, status, grown, brought⟩ := h.heard
  exact ⟨operations, status, since, grown, brought⟩

end Session

namespace Interplay

variable {x : Interplay}

theorem gathers_steers {y : Interplay} (h : x.Orderly) (steers : x.Steers y) :
    ∃ operations, Session.Gathers operations x.session y.session := by
  cases steers with
  | idles => exact ⟨[], .refl _⟩
  | serves n failure => exact (Session.Start.starting_services n _ h.2.2.1).gathers
  | parts heard =>
    obtain ⟨since, grown, brought, -⟩ := heard.journal
    exact ⟨_, heard.status, since, grown, brought⟩
  | starts | shuts | succeeds | fails | ends => exact ⟨[], Session.gathers_of_eq rfl rfl⟩
  | misses | unwatches | releases =>
    exact ⟨[], Session.gathers_of_eq rfl (List.append_nil _).symm⟩

theorem gathers_beside (x : Interplay) {m : Move} (isBeside : m.IsBeside) :
    ∃ operations, Session.Gathers operations x.session (x.apply m).session := by
  obtain ⟨-, operations, beside⟩ := x.beside_apply isBeside
  exact ⟨operations, beside.gathers⟩

/-- One lemma for all moves: what comes into the known values was received. -/
theorem gathers_apply (h : x.Orderly) (m : Move) :
    ∃ operations, Session.Gathers operations x.session (x.apply m).session :=
  (x.beside_or_steers m).elim x.gathers_beside (gathers_steers h)

/-- By induction on the moves. -/
theorem gathers_run (h : x.Orderly) (moves : List Move) :
    ∃ operations, Session.Gathers operations x.session (x.run moves).session := by
  induction moves generalizing x with
  | nil => exact ⟨[], .refl _⟩
  | cons m moves ih =>
    obtain ⟨first, here⟩ := gathers_apply h m
    obtain ⟨rest, later⟩ := ih (orderly_apply h m)
    exact ⟨first ++ rest, here.trans later⟩

end Interplay

end KnxIp
