/-
  What a call that writes or asks for a value does to the known values.

  Such a call marks its address first and looks afterwards whether anything can be sent, so the mark
  is left behind by every failure but one: data that no telegram can carry are refused before. What
  else changes the known values meanwhile are the telegrams that are received, and none is received
  unless the network has taken something of the call (`statusOrOut_sendTelegram`).

  Main statement: after the call the known values are those from before, marked and with the
  telegrams that were received; the mark shows exactly if there was a fresh value and no other one
  has come (`status_of_inquiry`). So a call that fails can make the value of its address dirty
  although nothing was asked of the bus (`write_when_closed`).
-/
import KnxIp.Client
import KnxIp.Proofs.Network.Hearing
import KnxIp.Proofs.Session.Steps
import KnxIp.Proofs.StatusPool.Marking
import KnxIp.Proofs.Telegram.Assembly

namespace KnxIp

open StatusPool

/-! ## What is learned -/

namespace Journal

theorem telegrams_append (xs ys : List Happening) :
    telegrams (xs ++ ys) = telegrams xs ++ telegrams ys := List.filterMap_append

end Journal

open Journal

namespace World

/-- The second world has come about from the first one, and these telegrams were noted. -/
def Learns (heard : List Telegram) (w v : World) : Prop :=
  v.context.status = w.context.status.noteAll heard ∧
    ∃ since, v.journal = w.journal ++ since ∧ heard.Sublist (telegrams since)

section

variable {heard heard' : List Telegram} {w v u : World}

theorem learns_nothing (status : v.context.status = w.context.status) {since : List Happening}
    (journal : v.journal = w.journal ++ since) : Learns [] w v :=
  ⟨status, since, journal, List.nil_sublist _⟩

theorem Learns.trans (h : Learns heard w v) (k : Learns heard' v u) :
    Learns (heard ++ heard') w u := by
  obtain ⟨status, since, journal, among⟩ := h
  obtain ⟨status', since', journal', among'⟩ := k
  refine ⟨by rw [status', status, noteAll_append], since ++ since', ?_, ?_⟩
  · rw [journal', journal, List.append_assoc]
  · rw [telegrams_append]
    exact among.append among'

end

/-- A socket notes the telegram that it receives, or nothing. -/
theorem exists_learns_receive (n : Network) (w : World) (s : Socket) (x : Waiting) :
    ∃ heard, Learns heard w (w.receive n s x) := by
  cases x with
  | failure fault => exact ⟨[], learns_nothing rfl (List.append_nil _).symm⟩
  | datagram source bytes =>
    let r : Receipt := ⟨s.role, s.address, source, bytes.take maxFrameSize⟩
    let refusal : Refusal := fun d =>
      (n.react (w.note (.received r)).attempts .receiver s.address d).refusal
    let h := w.context.dispatch r.role s.peers refusal r.source r.bytes
    obtain ⟨context, journal⟩ := context_and_journal_receive n w s source bytes
    have status : (w.receive n s (.datagram source bytes)).context.status = h.context.status :=
      congrArg Context.status context
    obtain ⟨f, handled, -⟩ | ⟨frame, size, read, handled⟩ :=
      w.context.dispatch_cases r.role s.peers refusal r.source r.bytes
    · refine ⟨[], learns_nothing (status.trans ?_) journal⟩
      show h.context.status = _
      rw [show h = _ from handled]
      rfl
    · have minds := ((w.context.received frame size).minds_handleFrame r.role s.peers refusal
        r.source frame.body).1.status
      rw [← handled] at minds
      obtain same | ⟨t, carried, noted⟩ := minds
      · exact ⟨[], learns_nothing (status.trans same) journal⟩
      · refine ⟨[t], status.trans noted, _, journal, ?_⟩
        have brought : Happening.telegram? (.received r) = some t := by
          show (Frame.bodyIn? r.bytes).bind Body.telegram? = some t
          rw [read, Option.bind_some, carried]
        rw [telegrams, List.filterMap_cons, brought]
        exact List.singleton_sublist.mpr (List.mem_cons_self ..)

theorem exists_learns_step {uses : Peers → Body → Prop} {w v : World} (step : Step uses w v) :
    ∃ heard, Learns heard w v := by
  cases step with
  | arrive n address x =>
    unfold arrive
    split
    · exact ⟨[], learns_nothing rfl (List.append_nil _).symm⟩
    · split
      · exact ⟨[], learns_nothing rfl (List.append_nil _).symm⟩
      · split
        · exact exists_learns_receive n w _ x
        · exact ⟨[], learns_nothing rfl (List.append_nil _).symm⟩
  | hand => exact ⟨[], learns_nothing rfl rfl⟩
  | account f same => exact ⟨[], learns_nothing same (List.append_nil _).symm⟩
  | enter => exact ⟨[], learns_nothing rfl rfl⟩
  | vacate => exact ⟨[], learns_nothing rfl (List.append_nil _).symm⟩

/-- By induction on the steps. -/
theorem exists_learns {uses : Peers → Body → Prop} {w v : World} (steps : Steps uses w v) :
    ∃ heard, Learns heard w v := by
  induction steps with
  | refl => exact ⟨[], learns_nothing rfl (List.append_nil _).symm⟩
  | tail _ step ih =>
    obtain ⟨heard, learns⟩ := ih
    obtain ⟨last, learns'⟩ := exists_learns_step step
    exact ⟨heard ++ last, learns.trans learns'⟩

/-! ## Nothing is learned before something is out -/

/-- Something of a caller has gone out between the two moments. -/
def HasOut (w v : World) : Prop := ∃ since, v.journal = w.journal ++ since ∧ Out since

/-- What has gone out stays so. -/
theorem HasOut.further {w v u : World} (out : HasOut w v) {uses : Peers → Body → Prop}
    (steps : Steps uses v u) : HasOut w u := by
  obtain ⟨since, journal, a, mem, caller, taken⟩ := out
  obtain ⟨later, journal'⟩ := steps.journal
  refine ⟨since ++ later, ?_, a, List.mem_append_left _ mem, caller, taken⟩
  rw [← journal', journal, List.append_assoc]

/-- What sending or asking has come to: it has failed and nothing was noted, or something has gone
out. -/
def FailsOrOut {α : Type} (w : World) (ended : Except Failure α × World) : Prop :=
  (∃ f, ended.1 = .error f) ∧ ended.2.context.status = w.context.status ∨ HasOut w ended.2

theorem failsOrOut_send (n : Network) (w : World) (s : Socket) (b : Body) :
    FailsOrOut w (w.send n s b) := by
  unfold send
  obtain ⟨f, -, ended⟩ | ⟨d, -, -, ⟨fault, -, ended⟩ | ⟨-, ended⟩⟩ :=
    sendTo_cases n w s.address b (s.peers.ofChannel b.service.channel)
  · rw [ended]
    exact .inl ⟨⟨_, rfl⟩, rfl⟩
  · rw [ended]
    exact .inl ⟨⟨_, rfl⟩, rfl⟩
  · rw [ended]
    let handed := w.log .caller s.address d false
    have out : HasOut w handed := ⟨_, rfl, _, List.mem_singleton_self _, rfl, rfl⟩
    have arrived : Steps (fun _ _ => True) handed _ :=
      steps_arriveAll n handed (n.react w.attempts .caller s.address d).arrivals
    exact .inr (out.further (arrived.tail (.account (·.sent (Frame.ofBody b) d.bytes.length) rfl)))

theorem failsOrOut_request (n : Network) (w : World) (s : Socket) (b : Body) :
    FailsOrOut w (w.request n s b) := by
  obtain ⟨f, -, ended⟩ | ⟨key, correlator, -, ended⟩ := request_cases n w s b
  · rw [ended]
    exact .inl ⟨⟨_, rfl⟩, rfl⟩
  · have sent := failsOrOut_send n (w.withContext fun c => { c with correlator }) s b
    obtain ⟨f, failed, ended⟩ | ⟨taken, ended⟩ := ended
    · rw [ended]
      exact sent.imp (fun h => ⟨⟨f, rfl⟩, h.2⟩) id
    · rw [ended]
      refine sent.imp (fun h => ?_) id
      obtain ⟨f, failed⟩ := h.1
      cases taken.symm.trans failed

end World

namespace Session

/-- Sockets may be used for anything. -/
theorem fits_any (s : Session) : s.Fits fun _ _ => True :=
  ⟨fun _ _ _ _ => trivial, fun _ _ _ _ => trivial⟩

variable (n : Network) (s : Session)

/-- Nothing was noted between the two moments, or something of a caller has gone out. -/
def StatusOrOut (s t : Session) : Prop :=
  t.context.status = s.context.status ∨ World.HasOut s.world t.world

/-- If the first attempt has not gone out, there is no second one. -/
theorem statusOrOut_transmit (socket : Socket) (b : Body) (attempts : Nat) :
    s.StatusOrOut (transmit n socket b attempts s).2 := by
  cases attempts with
  | zero => exact .inl rfl
  | succ attempts =>
    have asked := World.failsOrOut_request n s.world socket b
    unfold transmit
    generalize s.world.request n socket b = ended at asked ⊢
    obtain ⟨result, w⟩ := ended
    obtain ⟨⟨f, failed⟩, same⟩ | out := asked
    · change result = .error f at failed
      subst failed
      exact .inl same
    · have first : World.HasOut s.world w := out
      let tried : Session := { s with world := w }
      have settled := continues_settle n tried.fits_any
      have again : Continues _ tried (transmit n socket b attempts (tried.settle n)).2 :=
        settled.trans (continues_transmit n trivial attempts (fits_any _))
      split
      case h_1 ended => cases ended; exact .inr first
      case h_2 ended => cases ended; exact .inr first
      case h_3 ended => cases ended; exact .inr (first.further again.world)

theorem statusOrOut_sendTelegram (t : Telegram) :
    s.StatusOrOut (s.sendTelegram n t).2 := by
  unfold sendTelegram
  split
  · have sent : s.StatusOrOut (s.send n (.routingIndication t)).2 := by
      unfold send
      split
      · exact .inl rfl
      · next socket _ =>
        exact (World.failsOrOut_send n s.world socket (.routingIndication t)).imp_left And.right
    generalize s.send n (.routingIndication t) = ended at sent ⊢
    obtain ⟨result, u⟩ := ended
    cases result <;> exact sent
  · split
    · exact .inl rfl
    · dsimp only
      split
      · exact .inl rfl
      · exact statusOrOut_transmit n { s with sequence := s.sequence.take.2 } _ _ _

end Session

/-! ## Calls that mark -/

namespace Client

/-- A call that marks what is known of an address. -/
inductive Inquiry
  /-- To write a value. -/
  | write (data : Bytes)
  /-- To ask for the value. -/
  | readValue
deriving DecidableEq

namespace Inquiry

/-- The draft of the telegram that the call is to send. -/
def draft (c : Client) (d : Destination) : Inquiry → Telegram.Draft
  | write data => { (c.draftTo d).withData data with apci := some .groupValueWrite }
  | readValue => { c.draftTo d with apci := some .groupValueRead }

/-- The call: whether it fails, and the client afterwards. -/
def run (n : Network) (c : Client) (d : Destination) : Inquiry → Except Failure Unit × Client
  | write data => let (r, c) := c.write n d data; (r.map fun _ => (), c)
  | readValue => let (r, c) := c.readValue n d; (r.map fun _ => (), c)

variable (n : Network) (c : Client) (d : Destination)

/-- There is always a telegram to ask for a value with. -/
theorem exists_build_readValue : ∃ t, (readValue.draft c d).build = .ok t := by
  have sound : (readValue.draft c d).Sound AtMost.nothing :=
    { addressType := Control2.isGroup_forDestination d
      info := rfl
      tpci := trivial
      given := rfl
      service := rfl
      noData := fun _ => rfl
      canonical := fun a given => by
        cases given
        rfl }
  have fields := Telegram.Draft.fields_eq_ok_iff.mpr ⟨_, sound, rfl⟩
  exact ⟨⟨_, Telegram.Draft.wellFormed_of_fields fields⟩, Telegram.Draft.build_eq_ok_iff.mpr fields⟩

/-- A call without a telegram to send fails and changes nothing. -/
theorem run_of_error {q : Inquiry} {f : ValueFault} (refused : (q.draft c d).build = .error f) :
    q.run n c d = (.error (.ofValue f), c) := by
  cases q with
  | write data =>
    have ended : c.write n d data = (.error (.ofValue f), c) := by
      unfold draft at refused
      rw [Client.write, refused]
    rw [run, ended]
    rfl
  | readValue =>
    obtain ⟨t, built⟩ := exists_build_readValue c d
    cases built.symm.trans refused

/-- A call with a telegram to send marks the address and sends it. -/
theorem run_of_ok {q : Inquiry} {t : Telegram} (built : (q.draft c d).build = .ok t) :
    (q.run n c d).2 = ((c.withStatus (·.markDirty d)).sendTelegram n t).2 := by
  unfold draft at built
  cases q with
  | write data =>
    have ended : c.write n d data = (c.withStatus (·.markDirty d)).sendTelegram n t := by
      rw [Client.write, built]
    rw [run, ended]
  | readValue =>
    have asked : (c.withStatus (·.markDirty d)).read n d =
        (c.withStatus (·.markDirty d)).sendTelegram n t := by
      unfold read
      rw [show (c.withStatus (·.markDirty d)).draftTo d = c.draftTo d from rfl, built]
    rw [run, Client.readValue, asked]
    generalize (c.withStatus (·.markDirty d)).sendTelegram n t = ended
    obtain ⟨failed | _ | _, c⟩ := ended <;> rfl

end Inquiry

variable (n : Network) (c : Client) (d : Destination) (q : Inquiry)

/-- A call that has no telegram to send changes nothing. Any other one marks its address, whether
it fails or not; beside this, telegrams are noted that were received during the call, and none are
unless something has gone out. What is known is as if nothing had been marked exactly if there was
no fresh value or one has come. -/
theorem status_of_inquiry :
    (∀ f, (q.draft c d).build = .error f → q.run n c d = (.error (.ofValue f), c)) ∧
    ∀ t, (q.draft c d).build = .ok t →
      ∃ heard since,
        (q.run n c d).2.session.world.journal = c.session.world.journal ++ since ∧
        heard.Sublist (telegrams since) ∧ (¬ Out since → heard = []) ∧
        (q.run n c d).2.status = (c.status.markDirty d).noteAll heard ∧
        ((q.run n c d).2.status = c.status.noteAll heard ↔
          c.status.get? d true = none ∨ Renewed heard d) ∧
        ∀ a, (c.status.isDirty? a ≠ some true ∧ (q.run n c d).2.status.isDirty? a = some true) ↔
          a = d ∧ c.status.get? d true ≠ none ∧ ¬ Renewed heard d := by
  refine ⟨fun f => Inquiry.run_of_error n c d, fun t built => ?_⟩
  let marked := c.withStatus (·.markDirty d)
  have ended : (q.run n c d).2.session = (marked.session.sendTelegram n t).2 :=
    congrArg Client.session (Inquiry.run_of_ok n c d built)
  have continues := Session.continues_sendTelegram n marked.session.fits_any t
  obtain ⟨heard, since, journal, among, quiet, status⟩ : ∃ heard since,
      (q.run n c d).2.session.world.journal = c.session.world.journal ++ since ∧
      heard.Sublist (telegrams since) ∧ (¬ Out since → heard = []) ∧
      (q.run n c d).2.status = (c.status.markDirty d).noteAll heard := by
    rw [Client.status, ended]
    obtain ⟨heard, status, since, journal, among⟩ := World.exists_learns continues.world
    -- If nothing has gone out, what was heard has left no trace, and nothing serves as well.
    obtain same | ⟨since', journal', out⟩ := Session.statusOrOut_sendTelegram n marked.session t
    · exact ⟨[], since, journal, List.nil_sublist _, fun _ => rfl, same⟩
    · refine ⟨heard, since, journal, among, fun silent => absurd ?_ silent, status⟩
      obtain rfl : since' = since := List.append_cancel_left (journal'.symm.trans journal)
      exact out
  refine ⟨heard, since, journal, among, quiet, status, ?_, fun a => ?_⟩
  · rw [status]
    exact markDirty_noteAll_eq_iff c.status heard d
  · rw [status]
    exact isDirty?_markDirty_noteAll_iff c.status heard d a

/-- A client of a routing session that has heard the value 1 of 1/2/3 and was closed. -/
def closedRouter : Client :=
  let group := Settings.routingOnly.routingEndpoint
  ⟨(Session.new .routingOnly (.new .nobody)).run .quiet [.start,
    .arrive ⟨.unspecified, group.port⟩ group
      [6, 16, 5, 48, 0, 17, 0x29, 0, 0x94, 0xE0, 0x11, 5, 0x0A, 3, 1, 0, 0x81],
    .close]⟩

/-- To write a value to it fails without a datagram, and its value is dirty afterwards. -/
theorem write_when_closed :
    ∃ c, closedRouter.write .quiet (.group ⟨0x0A03⟩) [0] = (.error (.connection .notStarted), c) ∧
      c.session.world.journal = closedRouter.session.world.journal ∧
      closedRouter.status.isDirty? (.group ⟨0x0A03⟩) = some false ∧
      c.status.isDirty? (.group ⟨0x0A03⟩) = some true := by
  refine ⟨closedRouter.withStatus (·.markDirty (.group ⟨0x0A03⟩)), rfl, rfl, ?_, ?_⟩ <;>
    decide +kernel

/-- To write too much changes nothing; to ask for the value without a connection marks it. -/
theorem status_of_inquiry_closed :
    (Inquiry.write (List.replicate 255 0)).run .quiet closedRouter (.group ⟨0x0A03⟩) =
        (.error (.ofValue .applicationData), closedRouter) ∧
      ∃ heard since,
        (Inquiry.readValue.run .quiet closedRouter (.group ⟨0x0A03⟩)).2.session.world.journal =
          closedRouter.session.world.journal ++ since ∧
        heard.Sublist (telegrams since) ∧ (¬ Out since → heard = []) ∧
        ((Inquiry.readValue.run .quiet closedRouter (.group ⟨0x0A03⟩)).2.status =
          closedRouter.status.noteAll heard ↔ Renewed heard (.group ⟨0x0A03⟩)) := by
  have fresh : closedRouter.status.get? (.group ⟨0x0A03⟩) true ≠ none := by decide +kernel
  have long : AtMost.ofBytes? maxApplicationData (List.replicate 255 0) = none := by
    decide +kernel
  have refused : ((Inquiry.write (List.replicate 255 0)).draft closedRouter
      (.group ⟨0x0A03⟩)).build = .error .applicationData := by
    rw [Inquiry.draft, Telegram.Draft.withData, long]
    rfl
  obtain ⟨t, built⟩ := Inquiry.exists_build_readValue closedRouter (.group ⟨0x0A03⟩)
  refine ⟨(status_of_inquiry .quiet closedRouter (.group ⟨0x0A03⟩) _).1 _ refused, ?_⟩
  obtain ⟨heard, since, journal, among, quiet, -, unseen, -⟩ :=
    (status_of_inquiry .quiet closedRouter (.group ⟨0x0A03⟩) .readValue).2 t built
  exact ⟨heard, since, journal, among, quiet,
    unseen.trans ⟨fun known => known.resolve_left fresh, .inr⟩⟩

end Client
end KnxIp
