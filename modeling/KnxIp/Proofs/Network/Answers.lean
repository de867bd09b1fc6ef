/-
  Whose response ends a request.

  A request waits under a key. Of all that may happen beside it, only three things matter to the
  responses under that key: a socket handles the response that the request waits for
  (`Action.Answers`), another request begins them anew, or the session starts again
  (`responses_act`). So what is found under the key was handled after the request was registered
  (`answered_of_mem_responses`), and once a response is there, nothing but a new beginning takes it
  away (`responses_actAll_ne_nil`).

  Main statement: `answered_by_own_response`, for every course of events. A request on a network
  takes one of them (`request_is_asked`).
-/
import KnxIp.Network.Course
import KnxIp.Proofs.Channel.Reaction
import KnxIp.Proofs.Network.Requests
import KnxIp.Proofs.Polling

namespace KnxIp

open ExchangeKey (ofRequest ofResponse)

/-- A body is the response that a request waits for: of the service type that goes with it, with
the same sequence number, and not of another channel than the expected one. -/
structure Body.IsAnswerTo (r b : Body) (channel : Option UInt8) : Prop where
  service : b.service.response = some r.service
  sequence : r.sequence = b.sequence
  own : ¬ r.Foreign channel

/-- The key of a request says which response it waits for. -/
theorem ExchangeKey.ofResponse_eq_some_iff {b r : Body} {k : ExchangeKey}
    (key : ofRequest b = some k) :
    ofResponse r = some k ↔ b.service.response = some r.service ∧ r.sequence = b.sequence := by
  cases b <;> cases key <;> cases r <;>
    simp [ofResponse, Body.service, Service.response, Body.sequence]

theorem ExchangeKey.task_of_ofResponse {r : Body} {k : ExchangeKey} (h : ofResponse r = some k) :
    r.service.task = .record := by
  cases r <;> first | rfl | cases h

namespace Action

/-- A datagram with the response that a request waits for is dispatched, by a socket that notes
responses of this service type. -/
inductive Answers (b r : Body) (channel : Option UInt8) : Action → Prop
  | dispatched {x : Receipt} {peers : Peers} {refusal : Refusal}
      (read : Frame.bodyIn? x.bytes = some r) (answer : r.IsAnswerTo b channel)
      (notes : x.role.handling r.service = some .record) :
      Answers b r channel (.dispatch x peers refusal)

/-- After such an action the responses under a key begin anew. -/
def Renews (k : ExchangeKey) : Action → Prop
  | .register request => ofRequest request = some k
  | .reset => True
  | _ => False

end Action

/-! ## One action -/

variable {b : Body} {k : ExchangeKey}

/-- A received body is noted under the key of a request exactly if the request waits for it and the
socket notes responses of its service type. -/
theorem Correlator.responses_heard (key : ofRequest b = some k) (c : Correlator)
    (channel : Option UInt8) (role : Role) (r : Body) :
    (r.IsAnswerTo b channel ∧ role.handling r.service = some .record ∧
      ((c.heard channel role r).slot k).responses = withResponse k (c.slot k).responses r) ∨
    ¬ (r.IsAnswerTo b channel ∧ role.handling r.service = some .record) ∧
      ((c.heard channel role r).slot k).responses = (c.slot k).responses := by
  by_cases same : ofResponse r = some k
  · obtain ⟨service, sequence⟩ := (ExchangeKey.ofResponse_eq_some_iff key).mp same
    by_cases foreign : r.Foreign channel
    · refine .inr ⟨fun h => h.1.own foreign, ?_⟩
      rw [heard, verifyChannel_of_foreign foreign]
    · have verified : verifyChannel channel r = .ok () := verifyChannel_of_not_foreign foreign
      cases known : role.handling r.service with
      | none =>
        refine .inr ⟨fun h => (by cases h.2), ?_⟩
        rw [heard, verified, known]
      | some handling =>
        obtain rfl : handling = .record :=
          (Role.eq_task_of_handling known).trans (ExchangeKey.task_of_ofResponse same)
        refine .inl ⟨⟨service, sequence, foreign⟩, rfl, ?_⟩
        rw [heard_of_ok verified known]
        exact c.responses_record same
  · refine .inr ⟨fun h => ?_, c.responses_heard_of_ne channel role same⟩
    exact same ((ExchangeKey.ofResponse_eq_some_iff key).mpr ⟨h.1.service, h.1.sequence⟩)

theorem Correlator.mem_withResponse {responses : List Body} {r s : Body}
    (h : s ∈ withResponse k responses r) : s ∈ responses ∨ s = r := by
  unfold withResponse at h
  split at h
  · simpa using h
  · exact .inr (List.mem_singleton.mp h)

theorem Correlator.withResponse_ne_nil (responses : List Body) (r : Body) :
    withResponse k responses r ≠ [] := by
  unfold withResponse
  split <;> simp

namespace Context

/-- The responses noted under a key. -/
def responses (c : Context) (k : ExchangeKey) : List Body := (c.correlator.slot k).responses

theorem responses_register (key : ofRequest b = some k) (c : Context) :
    (c.act (.register b)).responses k = [] := by
  have slot := Correlator.slot_apply c.correlator (.register b) k
  rw [Correlator.after, if_pos key] at slot
  exact congrArg Exchange.responses slot

theorem correlator_act_sent (c : Context) (b : Body) :
    (c.act (.sent b)).correlator = c.correlator := by
  unfold act
  dsimp only
  split <;> rfl

/-- What an action does to the responses under the key of a request. -/
theorem responses_act (key : ofRequest b = some k) (c : Context) (a : Action) :
    (a.Renews k ∧ (c.act a).responses k = []) ∨
    (∃ r, a.Answers b r c.connection.channelId ∧
      (c.act a).responses k = Correlator.withResponse k (c.responses k) r) ∨
    (∀ r, ¬ a.Answers b r c.connection.channelId) ∧ (c.act a).responses k = c.responses k := by
  cases a with
  | dispatch x peers refusal =>
    have learned := c.correlator_dispatch x.role peers refusal x.source x.bytes
    refine .inr ?_
    rw [responses, act, learned]
    cases read : Frame.bodyIn? x.bytes with
    | none =>
      refine .inr ⟨fun r answers => ?_, rfl⟩
      cases answers with
      | dispatched read' => cases read.symm.trans read'
    | some r =>
      obtain ⟨answer, notes, noted⟩ | ⟨other, same⟩ :=
        c.correlator.responses_heard key c.connection.channelId x.role r
      · exact .inl ⟨r, .dispatched read answer notes, noted⟩
      · refine .inr ⟨fun s answers => ?_, same⟩
        cases answers with
        | dispatched read' answer notes =>
          obtain rfl : r = s := Option.some.inj (read.symm.trans read')
          exact other ⟨answer, notes⟩
  | register request =>
    by_cases again : ofRequest request = some k
    · exact .inl ⟨again, c.responses_register again⟩
    · have slot := Correlator.slot_apply c.correlator (.register request) k
      rw [Correlator.after, if_neg again] at slot
      exact .inr (.inr ⟨fun r answers => (by cases answers), congrArg Exchange.responses slot⟩)
  | reset =>
    refine .inl ⟨trivial, ?_⟩
    rw [responses, act, Correlator.reset_eq_empty]
    rfl
  | sent request =>
    refine .inr (.inr ⟨fun r answers => (by cases answers), ?_⟩)
    rw [responses, correlator_act_sent, responses]
  | _ => exact .inr (.inr ⟨fun r answers => (by cases answers), rfl⟩)

/-! ## A course of actions -/

theorem actAll_append (c : Context) (past future : List Action) :
    c.actAll (past ++ future) = (c.actAll past).actAll future := List.foldl_append

/-- Every response under the key of a request was handled on the way, if there was none before. By
induction on the actions, from their end. -/
theorem answered_of_mem_responses (key : ofRequest b = some k) {c : Context}
    (fresh : c.responses k = []) {actions : List Action} {r : Body}
    (h : r ∈ (c.actAll actions).responses k) :
    ∃ past a future, actions = past ++ a :: future ∧
      a.Answers b r (c.actAll past).connection.channelId := by
  induction actions using List.reverseRecOn with
  | nil =>
    rw [actAll, List.foldl_nil, fresh] at h
    cases h
  | append_singleton actions a ih =>
    have later : r ∈ (c.actAll actions).responses k → ∃ past a' future,
        actions ++ [a] = past ++ a' :: future ∧
          a'.Answers b r (c.actAll past).connection.channelId := fun before => by
      obtain ⟨past, a', future, split, answers⟩ := ih before
      exact ⟨past, a', future ++ [a], by rw [split, List.append_assoc, List.cons_append], answers⟩
    rw [actAll_append, show (c.actAll actions).actAll [a] = (c.actAll actions).act a from rfl] at h
    obtain ⟨-, none⟩ | ⟨s, answers, noted⟩ | ⟨-, same⟩ := responses_act key (c.actAll actions) a
    · rw [none] at h
      cases h
    · rw [noted] at h
      obtain before | rfl := Correlator.mem_withResponse h
      · exact later before
      · exact ⟨actions, a, [], rfl, answers⟩
    · exact later (same ▸ h)

/-- Responses stay until they begin anew. -/
theorem responses_actAll_ne_nil (key : ofRequest b = some k) {c : Context} {actions : List Action}
    (noted : c.responses k ≠ []) (kept : ∀ a ∈ actions, ¬ a.Renews k) :
    (c.actAll actions).responses k ≠ [] := by
  induction actions generalizing c with
  | nil => exact noted
  | cons a actions ih =>
    obtain ⟨first, rest⟩ := List.forall_mem_cons.mp kept
    refine ih ?_ rest
    obtain ⟨renews, -⟩ | ⟨r, -, more⟩ | ⟨-, same⟩ := responses_act key c a
    · exact absurd renews first
    · exact more ▸ Correlator.withResponse_ne_nil _ r
    · exact same ▸ noted

theorem responses_of_answers (key : ofRequest b = some k) {c : Context} {a : Action} {r : Body}
    (answers : a.Answers b r c.connection.channelId) : (c.act a).responses k ≠ [] := by
  obtain ⟨renews, -⟩ | ⟨s, -, more⟩ | ⟨none, -⟩ := responses_act key c a
  · cases answers
    exact renews.elim
  · exact more ▸ Correlator.withResponse_ne_nil _ s
  · exact absurd answers (none r)

end Context

/-- What has happened until a time has happened until any later time. -/
theorem Course.history_of_le (x : Course) (b : Body) {time later : Nat} (h : time ≤ later) :
    ∃ rest, x.history b later = x.history b time ++ rest := by
  obtain ⟨d, rfl⟩ := Nat.exists_eq_add_of_le h
  refine ⟨((List.range d).map (time + 1 + ·)).flatMap x.waiting, ?_⟩
  have times : time + d + 1 = time + 1 + d := Nat.add_right_comm time d 1
  rw [history, upTo, times, List.range_add, List.flatMap_append, history, upTo, List.append_assoc,
    List.cons_append]

/-! ## Asking -/

namespace Context

/-- If the caller is told of a response, or of none, this is what looking for it again and again has
found. -/
theorem found_of_ask {c : Context} {x : Course} {peers : Peers} {refusal : Refusal} {timeout : Nat}
    {found : Option Body} (h : (c.ask x peers refusal b timeout).result = .ok found) :
    ∃ k, ofRequest b = some k ∧ found = Correlator.await
      (fun now => ((c.act (.register b)).actAll (x.history b now)).correlator) k timeout := by
  unfold ask at h
  cases registered : c.correlator.register b with
  | error f =>
    rw [registered] at h
    cases h
  | ok opened =>
    obtain ⟨k, correlator⟩ := opened
    have after : c.act (.register b) = { c with correlator } := by
      rw [act, Correlator.apply, registered]
    rw [registered] at h
    refine ⟨k, (Correlator.register_eq_ok registered).1, ?_⟩
    rw [after]
    dsimp only at h
    split at h
    · cases h
    · split at h
      · cases h
      · exact (Except.ok.inj h).symm

theorem ask_of_no_request (request : b.service.response = none) (c : Context) (x : Course)
    (peers : Peers) (refusal : Refusal) (timeout : Nat) :
    c.ask x peers refusal b timeout = ⟨.error (.ofValue (.notARequest b.service)), none⟩ := by
  rw [ask, Correlator.register_eq_error _ request]

end Context

/-- If nothing happens while the response is waited for, what has come by then decides. -/
theorem Correlator.await_idle (c : Context) (actions : List Action) (b : Body) (k : ExchangeKey)
    (timeout : Nat) :
    let x : Course := ⟨actions, fun _ => []⟩
    Correlator.await (fun now => (c.actAll (x.history b now)).correlator) k timeout =
      (c.actAll actions).correlator.response? k := by
  intro x
  have same : ∀ now, (c.actAll (x.history b now)).correlator = (c.actAll actions).correlator := by
    intro now
    have nothing : x.upTo now = [] := by simp [x, Course.upTo]
    rw [Course.history, nothing, Context.actAll_append]
    exact Context.correlator_act_sent _ b
  simp only [same]
  exact Polling.found_run_const _ timeout _

section

variable {c : Context} {correlator : Correlator} {peers : Peers} {refusal : Refusal} {d : Datagram}
  (registered : c.correlator.register b = .ok (k, correlator))
  (written : (Frame.ofBody b).bytes = .ok d.bytes)
  (destination : d.destination = peers.ofChannel b.service.channel)

include registered written destination

theorem Context.ask_of_refused {fault : TransportFault} (refused : refusal d = some fault)
    (x : Course) (timeout : Nat) :
    c.ask x peers refusal b timeout = ⟨.error (.transport fault), some d⟩ := by
  obtain ⟨bytes, peer⟩ := d
  obtain rfl := destination
  simp only [ask, registered, written, refused]

theorem Context.ask_of_taken (taken : refusal d = none) (actions : List Action) (timeout : Nat) :
    c.ask ⟨actions, fun _ => []⟩ peers refusal b timeout =
      ⟨.ok (({ c with correlator }.actAll actions).correlator.response? k), some d⟩ := by
  obtain ⟨bytes, peer⟩ := d
  obtain rfl := destination
  simp only [ask, registered, written, taken, Correlator.await_idle]

end

namespace World

variable (n : Network)

/-- The datagrams that the sockets have received, oldest first. -/
def receipts (w : World) : List Receipt := w.journal.filterMap Happening.receipt?

theorem receipts_log (w : World) (sender : Sender) (socket : Endpoint) (d : Datagram)
    (refused : Bool) : (w.log sender socket d refused).receipts = w.receipts :=
  List.filterMap_append.trans (List.append_nil _)

/-- Some actions are what has happened to the context from one world to another, and each of them is
the dispatch of a datagram that a socket has received meanwhile. -/
structure Receives (w v : World) (actions : List Action) : Prop where
  context : v.context = w.context.actAll actions
  receipts : v.receipts.map some = w.receipts.map some ++ actions.map Action.receipt?

theorem Receives.refl (w : World) : w.Receives w [] := ⟨rfl, (List.append_nil _).symm⟩

theorem Receives.trans {u v w : World} {first rest : List Action} (h : u.Receives v first)
    (h' : v.Receives w rest) : u.Receives w (first ++ rest) := by
  refine ⟨?_, ?_⟩
  · rw [h'.context, h.context, Context.actAll_append]
  · rw [h'.receipts, h.receipts, List.map_append, List.append_assoc]

/-- What arrives for a running socket is dispatched. -/
theorem receives_arrive (w : World) (a : Arrival) :
    ∃ actions, w.Receives (w.arrive n a.socket (.datagram a.source a.bytes)) actions := by
  unfold arrive
  split
  case h_1 => exact ⟨[], .refl w⟩
  case h_2 s _ =>
    split
    · exact ⟨[], .refl w⟩
    · split
      · let r : Receipt := ⟨s.role, s.address, a.source, a.bytes.take maxFrameSize⟩
        let noted := w.note (.received r)
        let refusal : Refusal := fun d => (n.react noted.attempts .receiver s.address d).refusal
        let h := w.context.dispatch r.role s.peers refusal r.source r.bytes
        have entered : noted.receipts = w.receipts ++ [r] := List.filterMap_append
        have received : (w.receive n s (.datagram a.source a.bytes)).context = h.context ∧
            (w.receive n s (.datagram a.source a.bytes)).receipts = noted.receipts := by
          unfold receive
          dsimp only
          split
          · exact ⟨rfl, rfl⟩
          · exact ⟨rfl, receipts_log ..⟩
        refine ⟨[.dispatch r s.peers refusal], received.1, ?_⟩
        rw [received.2, entered, List.map_append]
        rfl
      · exact ⟨[], rfl, (List.append_nil _).symm⟩

theorem receives_arriveAll (w : World) (arrivals : List Arrival) :
    ∃ actions, w.Receives (w.arriveAll n arrivals) actions := by
  induction arrivals generalizing w with
  | nil => exact ⟨[], .refl w⟩
  | cons a arrivals ih =>
    obtain ⟨first, here⟩ := receives_arrive n w a
    obtain ⟨rest, later⟩ := ih (w.arrive n a.socket (.datagram a.source a.bytes))
    exact ⟨first ++ rest, here.trans later⟩

theorem request_of_send {n : Network} {w v : World} {s : Socket} {correlator : Correlator}
    (registered : w.context.correlator.register b = .ok (k, correlator))
    {result : Except Failure Unit}
    (sent : (w.withContext fun c => { c with correlator }).send n s b = (result, v)) :
    w.request n s b = (result.map fun _ => v.context.correlator.response? k, v) := by
  cases result <;> simp only [request, registered, sent] <;> rfl

/-- A request on a network is asked in this way: what its sockets receive meanwhile is dispatched
while it is being sent, and nothing happens later. -/
theorem request_is_asked (w : World) (s : Socket) (b : Body) :
    ∃ x refusal, let v := (w.request n s b).2
      v.receipts.map some = w.receipts.map some ++ x.sending.map Action.receipt? ∧
      (∀ time, x.waiting time = []) ∧
      ∀ timeout, let asked := w.context.ask x s.peers refusal b timeout
        (w.request n s b).1 = asked.result ∧ (asked.handed = none → v.attempts = w.attempts) := by
  let refusal : Refusal := fun d => (n.react w.attempts .caller s.address d).refusal
  let idle : Course := ⟨[], fun _ => []⟩
  cases registered : w.context.correlator.register b with
  | error f =>
    have ended : w.request n s b = (.error (.ofValue f), w) := by simp only [request, registered]
    refine ⟨idle, refusal, ?_, fun _ => rfl, fun timeout => ?_⟩
    · rw [ended]
      exact (List.append_nil _).symm
    · have asked : w.context.ask idle s.peers refusal b timeout = ⟨.error (.ofValue f), none⟩ := by
        simp only [Context.ask, registered]
      rw [ended, asked]
      exact ⟨rfl, fun _ => rfl⟩
  | ok opened =>
    obtain ⟨k, correlator⟩ := opened
    let ready := w.withContext fun c => { c with correlator }
    obtain ⟨f, unwritten, sent⟩ | ⟨d, written, destination, fate⟩ :=
      sendTo_cases n ready s.address b (s.peers.ofChannel b.service.channel)
    · have ended := request_of_send registered sent
      refine ⟨idle, refusal, ?_, fun _ => rfl, fun timeout => ?_⟩
      · rw [ended]
        exact (List.append_nil _).symm
      · have asked : w.context.ask idle s.peers refusal b timeout =
            ⟨.error (.ofFraming f), none⟩ := by
          simp only [Context.ask, registered, unwritten]
        rw [ended, asked]
        exact ⟨rfl, fun _ => rfl⟩
    obtain ⟨fault, refused, sent⟩ | ⟨taken, sent⟩ := fate
    · have ended := request_of_send registered sent
      refine ⟨idle, refusal, ?_, fun _ => rfl, fun timeout => ?_⟩
      · rw [ended, receipts_log]
        exact (List.append_nil _).symm
      · rw [ended, Context.ask_of_refused registered written destination refused]
        exact ⟨rfl, fun silent => by cases silent⟩
    · have ended := request_of_send registered sent
      let noted := ready.log .caller s.address d false
      let arrived := noted.arriveAll n (n.react w.attempts .caller s.address d).arrivals
      obtain ⟨actions, receives⟩ : ∃ actions, noted.Receives arrived actions :=
        receives_arriveAll n noted _
      refine ⟨⟨actions, fun _ => []⟩, refusal, ?_, fun _ => rfl, fun timeout => ?_⟩
      · have before : noted.receipts = w.receipts := receipts_log ..
        rw [ended, ← before]
        exact receives.receipts
      · rw [ended, Context.ask_of_taken registered written destination taken]
        refine ⟨?_, fun silent => by cases silent⟩
        show Except.ok (arrived.context.correlator.response? k) = _
        rw [receives.context]
        rfl

end World

/-- A request is answered only by its own response, whatever else happens. A response that the
caller is given was in a datagram that was dispatched after the request had been registered; it is
of the service type that goes with the request, has the same sequence number, and does not belong
to another channel than the one the session had when it was dispatched. Conversely, if such a
datagram is dispatched until the deadline by a socket that notes responses of this type, and
afterwards no other request is registered under the same key and the session does not start again,
the caller is not told that no response has come. A body that is no request is an illegal argument,
and nothing is sent. A request on a network takes one of these courses: the dispatch of what the
sockets receive meanwhile. -/
theorem Context.answered_by_own_response (c : Context) (x : Course) (peers : Peers)
    (refusal : Refusal) (b : Body) (timeout : Nat) :
    let registered := c.act (.register b)
    let asked := c.ask x peers refusal b timeout
    (∀ r, asked.result = .ok (some r) → ∃ past a future,
      x.history b timeout = past ++ a :: future ∧
        a.Answers b r (registered.actAll past).connection.channelId) ∧
    (∀ past a future r, x.history b timeout = past ++ a :: future →
      a.Answers b r (registered.actAll past).connection.channelId →
      (∀ other, .register other ∈ future → ofRequest other ≠ ofRequest b) →
      .reset ∉ future → asked.result ≠ .ok none) ∧
    (b.service.response = none →
      asked = ⟨.error (.ofValue (.notARequest b.service)), none⟩ ∧
        (Failure.ofValue (.notARequest b.service)).isIllegalArgument = true) ∧
    ∀ (n : Network) (w : World) (s : Socket), ∃ x refusal, let v := (w.request n s b).2
      v.receipts.map some = w.receipts.map some ++ x.sending.map Action.receipt? ∧
      (∀ time, x.waiting time = []) ∧
      ∀ timeout, let asked := w.context.ask x s.peers refusal b timeout
        (w.request n s b).1 = asked.result ∧ (asked.handed = none → v.attempts = w.attempts) := by
  intro registered asked
  refine ⟨fun r told => ?_, fun past a future r course answers alone kept told => ?_,
    fun noRequest => ⟨ask_of_no_request noRequest c x peers refusal timeout, rfl⟩,
    fun n w s => World.request_is_asked n w s b⟩
  · obtain ⟨k, key, found⟩ := found_of_ask told
    obtain ⟨_, time, early, seen⟩ := Polling.seen_of_found found.symm
    have noted : r ∈ (registered.actAll (x.history b time)).responses k :=
      List.mem_of_mem_head? (Option.mem_def.mpr seen)
    obtain ⟨past, a, future, course, answers⟩ :=
      answered_of_mem_responses key (c.responses_register key) noted
    obtain ⟨rest, later⟩ := x.history_of_le b early
    refine ⟨past, a, future ++ rest, ?_, answers⟩
    rw [later, course, List.append_assoc, List.cons_append]
  · obtain ⟨k, key, found⟩ := found_of_ask told
    obtain ⟨_, unseen⟩ := Polling.unseen_at_deadline found.symm
    have kept' : ∀ a ∈ future, ¬ a.Renews k := by
      intro a within renews
      cases a with
      | register other => exact alone other within (renews.trans key.symm)
      | reset => exact kept within
      | _ => exact renews
    have noted : (registered.actAll (x.history b timeout)).responses k ≠ [] := by
      rw [course, actAll_append]
      show (((registered.actAll past).act a).actAll future).responses k ≠ []
      exact responses_actAll_ne_nil key (responses_of_answers key answers) kept'
    exact noted (List.head?_eq_none_iff.mp unseen)

/-- The response of another channel comes first, while the request is being sent, and does not end
it; the own one comes 15 ms later. -/
example :
    let gateway : Endpoint := ⟨⟨192, 168, 1, 10⟩, 3671⟩
    let taken : Refusal := fun _ => none
    let response (channel : UInt8) : Action :=
      .dispatch ⟨.control, ⟨.loopback, 50001⟩, gateway, [6, 0x10, 2, 8, 0, 8, channel, 0]⟩
        ⟨gateway, none⟩ taken
    let c := (Context.new .nobody).withConnection fun s => { s with channelId := some 5 }
    let x : Course := ⟨[response 6], fun time => if time = 15 then [response 5] else []⟩
    (c.ask x ⟨gateway, none⟩ taken (.connectionStateRequest 5 gateway) 20).result =
      .ok (some (.connectionStateResponse 5 statusOk)) := by
  cbv

end KnxIp
