/-
  One thing after the other.

  What a session or a client does when nobody interferes is one of the ways in which the steps of
  an interplay may follow each other: every call goes through its stages to the result that sending,
  writing, reading or reading a value has (`leads_alone`), and every run of a session is an
  interplay (`leads_runOn`). So what holds of every interplay holds of these.
-/
import KnxIp.Proofs.Interplay.Moves
import KnxIp.Session.Run

namespace KnxIp

/-- What a call comes to when nobody interferes: what the caller is told, and the session
afterwards. -/
def Errand.alone (n : Network) (s : Session) : Errand → Stage × Session
  | .send t => let (r, s) := s.sendTelegram n t; (told r, s)
  | .write d data => let (r, c) := Client.write n ⟨s⟩ d data; (told r, c.session)
  | .read d => let (r, c) := Client.read n ⟨s⟩ d; (told r, c.session)
  | .readValue d =>
    match Client.readValue n ⟨s⟩ d with
    | (.ok value, c) => (.answered (.value value), c.session)
    | (.error f, c) => (.failed f, c.session)
  | .await d => (.answered (.value (s.context.status.get? d true)), s)
where
  told : Except Failure Bool → Stage
    | .ok taken => .answered (.taken taken)
    | .error f => .failed f

namespace Interplay

/-- The client can go on to this session and these calls, with nobody having the lock. -/
def Leads (x : Interplay) (s : Session) (calls : List Call) : Prop :=
  ∃ moves ledger, x.run moves = ⟨s, .free, calls, ledger⟩

variable {s t u : Session} {calls calls' : List Call} {ledger : List Entry}

theorem Leads.refl : Leads ⟨s, .free, calls, ledger⟩ s calls := ⟨[], ledger, rfl⟩

theorem Leads.trans {x : Interplay} (first : x.Leads s calls)
    (next : ∀ ledger, Leads ⟨s, .free, calls, ledger⟩ t calls') : x.Leads t calls' := by
  obtain ⟨moves, ledger, ended⟩ := first
  obtain ⟨more, ledger', ended'⟩ := next ledger
  exact ⟨moves ++ more, ledger', by rw [run_append, ended, ended']⟩

/-! ## Starting and closing -/

variable (n : Network)

theorem run_shut (s : Session) :
    (⟨shut s, .stopping, calls, ledger⟩ : Interplay).run (List.replicate 4 (.proceed n)) =
      ⟨({ s with closed := false }).close n, .free, calls, ledger⟩ := rfl

theorem leads_teardown (s : Session) :
    ∃ moves, (teardown ⟨s, .free, calls, ledger⟩).run moves =
      ⟨s.close n, .free, calls, ledger⟩ := by
  unfold teardown
  dsimp only
  split
  case isTrue closed => exact ⟨[], by rw [Session.close, if_pos closed]; rfl⟩
  case isFalse isOpen =>
    refine ⟨List.replicate 4 (.proceed n), ?_⟩
    rw [run_shut, Session.close, Session.close, if_neg isOpen]
    rfl

theorem leads_close (s : Session) : Leads ⟨s, .free, calls, ledger⟩ (s.close n) calls := by
  obtain ⟨moves, ended⟩ := leads_teardown n s
  exact ⟨.close :: moves, ledger, ended⟩

theorem leads_helper (s : Session) : Leads ⟨s, .free, calls, ledger⟩ (s.runCloser n) calls := by
  unfold Session.runCloser
  split
  case isTrue => exact .refl
  case isFalse pending =>
    obtain ⟨moves, ended⟩ := leads_teardown n { s with closersRun := s.closersRun + 1 }
    refine ⟨.helper :: moves, ledger, ?_⟩
    have turn : (⟨s, .free, calls, ledger⟩ : Interplay).apply .helper =
        teardown ⟨{ s with closersRun := s.closersRun + 1 }, .free, calls, ledger⟩ :=
      if_pos ⟨rfl, pending⟩
    show run (apply _ .helper) moves = _
    rw [turn, ended]

/-- By induction on the helpers. -/
theorem leads_helpers (k : Nat) (s : Session) :
    Leads ⟨s, .free, calls, ledger⟩ (Session.runClosers n k s) calls := by
  induction k generalizing s ledger with
  | zero => exact .refl
  | succ k ih => exact (leads_helper n s).trans fun _ => ih (s.runCloser n)

theorem leads_settle (s : Session) : Leads ⟨s, .free, calls, ledger⟩ (s.settle n) calls :=
  leads_helpers n _ s

theorem leads_start (s : Session) : Leads ⟨s, .free, calls, ledger⟩ (s.start n).2 calls := by
  unfold Session.start
  split
  case isTrue => exact .refl
  case isFalse idle =>
    have began : (⟨s, .free, calls, ledger⟩ : Interplay).apply .start =
        ⟨s.prepare, .starting, calls, ledger ++ [.restarted]⟩ := if_pos ⟨rfl, not_not.mp idle⟩
    have isOpen : (Session.Start.services n s.prepare).2.closed = false :=
      (Session.Start.starting_services n s.prepare rfl).closed
    have served : (⟨s.prepare, .starting, calls, ledger ++ [.restarted]⟩ : Interplay).proceed n =
        ⟨(Session.Start.services n s.prepare).2,
          .served (match (Session.Start.services n s.prepare).1 with
            | .ok _ => none
            | .error f => some f), calls, ledger ++ [.restarted]⟩ := by
      simp only [proceed]
      generalize Session.Start.services n s.prepare = ended
      obtain ⟨result, t⟩ := ended
      cases result <;> rfl
    generalize Session.Start.services n s.prepare = ended at isOpen served ⊢
    obtain ⟨result, t⟩ := ended
    cases result with
    | ok _ =>
      refine ⟨[.start, .proceed n, .proceed n], ledger ++ [.restarted], ?_⟩
      show (proceed n (apply _ .start)).proceed n = _
      rw [began, served]
      rfl
    | error f =>
      refine ⟨[.start, .proceed n, .proceed n] ++ List.replicate 4 (.proceed n),
        ledger ++ [.restarted], ?_⟩
      rw [run_append]
      show run ((proceed n (apply _ .start)).proceed n) _ = _
      rw [began, served]
      refine (run_shut n t).trans ?_
      have same : { t with closed := false } = t := by rw [← isOpen]
      rw [same]

/-! ## Calls -/

/-- A call can go on from its stage to this one, and the session with it. -/
def Goes (i : Nat) (c : Call) (s t : Session) (stage : Stage) : Prop :=
  ∀ calls ledger, calls[i]? = some c →
    Leads ⟨s, .free, calls, ledger⟩ t (calls.set i { c with stage })

variable {i : Nat} {c : Call} {stage stage' : Stage}

theorem Goes.trans (first : Goes i c s t stage) (next : Goes i { c with stage } t u stage') :
    Goes i c s u stage' := by
  intro calls ledger found
  refine (first calls ledger found).trans fun ledger => ?_
  have after := next (calls.set i { c with stage }) ledger
    (List.getElem?_set_self (List.getElem?_eq_some_iff.mp found).1)
  rwa [List.set_set] at after

/-- Helpers run in between. -/
theorem Goes.settle (first : Goes i c s t stage) : Goes i c s (t.settle n) stage :=
  fun calls ledger found => (first calls ledger found).trans fun _ => leads_settle n t

theorem goes_of_step (late : Bool) (entry : Option Entry)
    (h : c.step n late i s = ⟨t, stage, entry⟩) : Goes i c s t stage := by
  intro calls ledger found
  refine ⟨[.advance i n late], ledger ++ entry.toList, ?_⟩
  show advance n late i _ = _
  simp only [advance, found, h]

/-- One attempt of a request: it is registered and handed over. Then it is waited for, or the call
has failed. -/
theorem goes_request (errand : Errand) (socket : Socket) (b : Body) (attempts : Nat) (s : Session) :
    let after : Session := { s with world := (s.world.request n socket b).2 }
    (∃ f, (s.world.request n socket b).1 = .error f ∧
      Goes i ⟨errand, .routed b socket (attempts + 1)⟩ s after (.failed f)) ∨
    ∃ key, ExchangeKey.ofRequest b = some key ∧
      (s.world.request n socket b).1 = .ok (after.context.correlator.response? key) ∧
      Goes i ⟨errand, .routed b socket (attempts + 1)⟩ s after (.waiting b socket attempts) := by
  obtain ⟨f, refused, ended⟩ | ⟨key, correlator, registered, ended⟩ :=
    World.request_cases n s.world socket b
  · rw [ended]
    refine .inl ⟨_, rfl, goes_of_step n false none ?_⟩
    simp only [Call.step, refused]
  · have register : Goes i ⟨errand, .routed b socket (attempts + 1)⟩ s
        (s.withContext fun c => { c with correlator }) (.registered b socket attempts) := by
      refine goes_of_step n false none ?_
      simp only [Call.step, registered]
    obtain ⟨f, failed, ended⟩ | ⟨sent, ended⟩ := ended
    · rw [ended]
      refine .inl ⟨f, rfl, register.trans (goes_of_step n false none ?_)⟩
      simp only [Call.step, Session.withContext]
      generalize World.send n _ socket b = handed at failed ⊢
      obtain ⟨result, w⟩ := handed
      obtain rfl : result = .error f := failed
      rfl
    · rw [ended]
      refine .inr ⟨key, (Correlator.register_eq_ok registered).1, rfl,
        register.trans (goes_of_step n false (some (.carried i b)) ?_)⟩
      simp only [Call.step, Session.withContext]
      generalize World.send n _ socket b = handed at sent ⊢
      obtain ⟨result, w⟩ := handed
      obtain rfl : result = .ok () := sent
      rfl

/-- By induction on the attempts that are left. -/
theorem goes_transmit (errand : Errand) (socket : Socket) (b : Body) (attempts : Nat)
    (s : Session) :
    Goes i ⟨errand, .routed b socket attempts⟩ s (Session.transmit n socket b attempts s).2
      (Call.sent ⟨errand, .begun⟩ (Session.transmit n socket b attempts s).1) := by
  induction attempts generalizing s with
  | zero => exact goes_of_step n true none rfl
  | succ attempts ih =>
    have asked := goes_request (i := i) n errand socket b attempts s
    unfold Session.transmit
    generalize s.world.request n socket b = ended at asked ⊢
    obtain ⟨result, w⟩ := ended
    obtain ⟨f, failed, goes⟩ | ⟨key, keyed, found, waiting⟩ := asked
    · obtain rfl : result = .error f := failed
      exact goes
    · have again : ∀ unacked : (⟨errand, .waiting b socket attempts⟩ : Call).step n true i
          { s with world := w } = ⟨{ s with world := w }, .routed b socket attempts, none⟩,
          Goes i ⟨errand, .routed b socket (attempts + 1)⟩ s
            (Session.transmit n socket b attempts (Session.settle n { s with world := w })).2
            (Call.sent ⟨errand, .begun⟩
              (Session.transmit n socket b attempts (Session.settle n { s with world := w })).1) :=
        fun unacked => ((waiting.trans (goes_of_step n true none unacked)).settle n).trans (ih _)
      obtain rfl : result = .ok (w.context.correlator.response? key) := found
      cases response : w.context.correlator.response? key with
      | none => exact again (by simp only [Call.step, keyed, Option.bind_some, response, if_true])
      | some r =>
        cases r with
        | tunnelingAck header =>
          refine waiting.trans (goes_of_step n true none ?_)
          simp only [Call.step, keyed, Option.bind_some, response]
          rfl
        | _ => exact again (by simp only [Call.step, keyed, Option.bind_some, response])

/-- A request with its number finds its socket, or the call has failed. -/
theorem goes_route (errand : Errand) (b : Body) (s : Session) :
    (∃ f, s.route b = .error f ∧ Goes i ⟨errand, .numbered b⟩ s s (.failed f)) ∨
    ∃ socket, s.route b = .ok socket ∧
      Goes i ⟨errand, .numbered b⟩ s s (.routed b socket s.settings.retries.tunneling.toNat) := by
  unfold Session.route
  cases started : s.isStarted with
  | false =>
    refine .inl ⟨_, rfl, goes_of_step .quiet false none ?_⟩
    simp only [Call.step, started]
    rfl
  | true =>
    have admitted : Goes i ⟨errand, .numbered b⟩ s s (.admitted b) := by
      refine goes_of_step .quiet false none ?_
      simp only [Call.step, started, if_true]
    cases found : s.socketFor b.service.channel with
    | none =>
      refine .inl ⟨_, rfl, admitted.trans (goes_of_step .quiet false none ?_)⟩
      simp only [Call.step, found]
    | some socket =>
      refine .inr ⟨socket, rfl, admitted.trans (goes_of_step .quiet false none ?_)⟩
      simp only [Call.step, found]

/-- From the telegram to the end of the call. -/
theorem goes_sendTelegram (errand : Errand) (t : Telegram) (s : Session) :
    Goes i ⟨errand, .composed t⟩ s (s.sendTelegram n t).2
      (Call.sent ⟨errand, .begun⟩ (s.sendTelegram n t).1) := by
  unfold Session.sendTelegram
  cases mode : s.settings.mode with
  | routing =>
    refine goes_of_step n false none ?_
    simp only [Call.step, mode]
    generalize s.send n (.routingIndication t) = ended
    obtain ⟨result, u⟩ := ended
    cases result <;> rfl
  | tunneling =>
    cases held : s.channelId with
    | none =>
      refine goes_of_step n false none ?_
      simp only [Call.step, mode, held]
      rfl
    | some channel =>
      dsimp only
      have addressed : Goes i ⟨errand, .composed t⟩ s s (.addressed t channel) := by
        refine goes_of_step n false none ?_
        simp only [Call.step, mode, held]
      have drawn : Goes i ⟨errand, .composed t⟩ s { s with sequence := s.sequence.take.2 }
          (.numbered (.tunnelingRequest ⟨channel, s.sequence.take.1, 0⟩ t)) :=
        addressed.trans (goes_of_step n false (some (.drawn i s.sequence.take.1)) rfl)
      obtain ⟨f, refused, goes⟩ | ⟨socket, found, goes⟩ := goes_route (i := i) errand
        (.tunnelingRequest ⟨channel, s.sequence.take.1, 0⟩ t)
        { s with sequence := s.sequence.take.2 }
      · rw [refused]
        exact drawn.trans goes
      · rw [found]
        exact (drawn.trans goes).trans (goes_transmit n errand socket _ _ _)

/-! ## What is done alone -/

theorem sent_eq_told (errand : Errand) (noReader : ∀ d, errand ≠ .readValue d)
    (r : Except Failure Bool) : Call.sent ⟨errand, .begun⟩ r = Errand.alone.told r := by
  cases r with
  | error f => rfl
  | ok taken =>
    cases errand with
    | readValue d => exact (noReader d rfl).elim
    | _ => cases taken <;> rfl

/-- Who waits for a value looks once more when it is too late. -/
theorem goes_watching (errand : Errand) (d : Destination) (s : Session) :
    Goes i ⟨errand, .watching d⟩ s s (.answered (.value (s.context.status.get? d true))) := by
  refine goes_of_step .quiet true none ?_
  simp only [Call.step]
  cases s.context.status.get? d true <;> rfl

/-- From the draft of a question to its end. -/
theorem goes_read {d : Destination}
    (drafts : c.step n false i s = ⟨s, Call.drafted (Telegram.Draft.build
      { (Client.mk s).draftTo d with apci := some .groupValueRead }), none⟩) :
    Goes i c s (Client.read n ⟨s⟩ d).2.session
      (Call.sent ⟨c.errand, .begun⟩ (Client.read n ⟨s⟩ d).1) := by
  have asked : Goes i c s s _ := goes_of_step n false none drafts
  unfold Client.read
  cases drafted : Telegram.Draft.build { (Client.mk s).draftTo d with
      apci := some .groupValueRead } with
  | error f =>
    rw [drafted] at asked
    exact asked
  | ok t =>
    rw [drafted] at asked
    exact asked.trans (goes_sendTelegram n c.errand t s)

theorem goes_alone (errand : Errand) (s : Session) :
    Goes i ⟨errand, .begun⟩ s (errand.alone n s).2 (errand.alone n s).1 := by
  cases errand with
  | send t =>
    have begun : Goes i ⟨.send t, .begun⟩ s s (.composed t) := goes_of_step n false none rfl
    have sent := begun.trans (goes_sendTelegram n (.send t) t s)
    rwa [sent_eq_told (.send t) (fun _ => nofun)] at sent
  | write d data =>
    cases drafted : Telegram.Draft.build { ((Client.mk s).draftTo d).withData data with
      apci := some .groupValueWrite } with
    | error f =>
      simp only [Errand.alone, Client.write, drafted]
      refine goes_of_step n false none ?_
      simp only [Call.step, Call.begin, drafted]
      rfl
    | ok t =>
      simp only [Errand.alone, Client.write, drafted]
      have begun : Goes i ⟨.write d data, .begun⟩ s (s.markDirty d) (.composed t) := by
        refine goes_of_step n false none ?_
        simp only [Call.step, Call.begin, drafted]
      have sent := begun.trans (goes_sendTelegram n (.write d data) t (s.markDirty d))
      rwa [sent_eq_told (.write d data) (fun _ => nofun)] at sent
  | read d =>
    have asked := goes_read (c := ⟨.read d, .begun⟩) (i := i) n (d := d) (s := s) rfl
    rwa [sent_eq_told (.read d) (fun _ => nofun)] at asked
  | readValue d =>
    have begun : Goes i ⟨.readValue d, .begun⟩ s (s.markDirty d) (.marked d) :=
      goes_of_step n false none rfl
    have asked := begun.trans (goes_read n (d := d) rfl)
    have marked : (Client.mk s).withStatus (·.markDirty d) = ⟨s.markDirty d⟩ := rfl
    simp only [Errand.alone, Client.readValue, marked]
    generalize Client.read n ⟨s.markDirty d⟩ d = ended at asked ⊢
    obtain ⟨result, c⟩ := ended
    match result with
    | .error f => exact asked
    | .ok false => exact asked
    | .ok true => exact asked.trans (goes_watching (.readValue d) d c.session)
  | await d =>
    have begun : Goes i ⟨.await d, .begun⟩ s s (.watching d) := goes_of_step n false none rfl
    exact begun.trans (goes_watching (.await d) d s)

/-- A call that nobody interferes with comes to what sending, writing or reading leads to. -/
theorem leads_alone (x : Interplay) (free : x.lock = .free) (errand : Errand) :
    (x.apply (.call errand)).Leads (errand.alone n x.session).2
      (x.calls ++ [⟨errand, (errand.alone n x.session).1⟩]) := by
  obtain ⟨s, lock, calls, ledger⟩ := x
  obtain rfl : lock = .free := free
  let made : Call := ⟨errand, .begun⟩
  have begun : (calls ++ [made])[calls.length]? = some made := List.getElem?_concat_length
  have ended := goes_alone n errand s (calls ++ [made]) ledger begun
  rw [List.set_append_right _ _ (Nat.le_refl _), Nat.sub_self] at ended
  exact ended

theorem leads_apply (s : Session) (op : Session.Operation) :
    ∃ calls', Leads ⟨s, .free, calls, ledger⟩ (s.apply n op) calls' := by
  cases op with
  | start => exact ⟨calls, leads_start n s⟩
  | close => exact ⟨calls, leads_close n s⟩
  | helper => exact ⟨calls, leads_helper n s⟩
  | send b => exact ⟨calls, [.send n b], ledger, rfl⟩
  | request b => exact ⟨calls, [.request n b], ledger, rfl⟩
  | arrive address source bytes => exact ⟨calls, [.arrive n address source bytes], ledger, rfl⟩
  | interval => exact ⟨calls, [.interval n], ledger, rfl⟩
  | sendTelegram t =>
    obtain ⟨moves, ledger', ended⟩ := leads_alone n ⟨s, .free, calls, ledger⟩ rfl (.send t)
    exact ⟨_, .call (.send t) :: moves, ledger', ended⟩

/-- Every run of a session, one operation after the other, is an interplay. By induction on the
operations. -/
theorem leads_runOn (s : Session) (steps : List (Network × Session.Operation)) :
    ∃ calls', Leads ⟨s, .free, calls, ledger⟩ (s.runOn steps) calls' := by
  induction steps generalizing s calls ledger with
  | nil => exact ⟨calls, .refl⟩
  | cons step steps ih =>
    obtain ⟨made, moves, entered, first⟩ :=
      leads_apply step.1 s step.2
    obtain ⟨calls', more, ledger', rest⟩ :=
      ih (s.apply step.1 step.2)
    exact ⟨calls', moves ++ more, ledger', by rw [run_append, first, rest]; rfl⟩

end Interplay
end KnxIp
