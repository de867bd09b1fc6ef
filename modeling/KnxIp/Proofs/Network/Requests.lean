/-
  Questions and their answers.

  A `Question` is a request, with the socket it is sent from and where it goes. While there is no
  channel, asking it hands over one datagram, and what comes of it can be read off the network
  alone: the responses that arrive at the socket, the first of them for a search and the latest one
  otherwise (`Question.answer`). Main statement: asked again and again, it is handed over once for
  each answer up to the first that is accepted, or as often as the budget allows
  (`repeatRequest_ends`).
-/
import KnxIp.Proofs.Correlation.History
import KnxIp.Proofs.Network.Progress

namespace KnxIp

/-- Nothing that belongs to the host fails: sockets can be opened, and the network takes what the
caller hands over. -/
structure Network.Works (n : Network) : Prop where
  opens : ∀ opened, n.openRefusal opened = none
  takes : ∀ earlier socket d, (n.react earlier .caller socket d).refusal = none

/-- A request, the socket it is sent from, and where it goes. -/
structure Question where
  socket : Endpoint
  peer : Endpoint
  body : Body
deriving DecidableEq

namespace Question

/-- The datagram that asks the question. -/
def datagram (q : Question) : Datagram :=
  ⟨((Frame.ofBody q.body).bytes.toOption).getD [], q.peer⟩

/-- The question is asked once. -/
def attempt (q : Question) : Attempt := ⟨.caller, q.socket, q.datagram, false⟩

/-- The response in something that arrives, if it answers the question. -/
def response? (q : Question) (a : Arrival) : Option Body :=
  if a.socket = q.socket then
    (Frame.bodyIn? (a.bytes.take maxFrameSize)).filter fun r =>
      ExchangeKey.ofResponse r = ExchangeKey.ofRequest q.body
  else none

/-- The responses to the question, when it is asked after these attempts. -/
def responses (n : Network) (q : Question) (earlier : List Attempt) : List Body :=
  (n.react earlier .caller q.socket q.datagram).arrivals.filterMap q.response?

/-- What counts as the answer: the first response to a search, the latest one to another
question. -/
def answer (n : Network) (q : Question) (earlier : List Attempt) : Option Body :=
  if ExchangeKey.ofRequest q.body = some .search then (q.responses n earlier).head?
  else (q.responses n earlier).getLast?

/-- The answer when the question has been asked `k` times in vain. -/
def answerAfter (n : Network) (q : Question) (earlier : List Attempt) (k : Nat) : Option Body :=
  q.answer n (earlier ++ List.replicate k q.attempt)

/-- What comes of a question that may be asked so many times, and how often it is asked. -/
inductive Ends {α : Type} (n : Network) (q : Question) (accept : Body → Option α) (budget : Nat)
    (earlier : List Attempt) : Nat → Repeated α → Prop
  /-- The answer to the last attempt is accepted, and none before. -/
  | accepted (k : Nat) (a : α) (within : k < budget)
      (misses : ∀ i < k, (q.answerAfter n earlier i).bind accept = none)
      (hit : (q.answerAfter n earlier k).bind accept = some a) :
      Ends n q accept budget earlier (k + 1) (.accepted a)
  /-- No answer is accepted; the last one that came is kept. -/
  | exhausted (misses : ∀ i < budget, (q.answerAfter n earlier i).bind accept = none) :
      Ends n q accept budget earlier budget
        (.exhausted ((List.range budget).filterMap (q.answerAfter n earlier)).getLast?)

end Question

/-! ## Who hears the responses -/

namespace Role

/-- Without a channel, a socket of this role notes the responses of an exchange. -/
def Hears (role : Role) (k : ExchangeKey) : Prop :=
  ∀ r, ExchangeKey.ofResponse r = some k →
    verifyChannel none r = .ok () ∧ role.handling r.service = some .record

/-- A socket of this role does nothing with the responses of an exchange. -/
def Ignores (role : Role) (k : ExchangeKey) : Prop :=
  ∀ r, ExchangeKey.ofResponse r = some k → role.handling r.service = none

theorem discovery_hears : discovery.Hears .search := fun r h => by
  cases r <;> cases h
  exact ⟨rfl, rfl⟩

theorem description_hears : description.Hears .description := fun r h => by
  cases r <;> cases h
  exact ⟨rfl, rfl⟩

theorem control_hears : control.Hears .connect := fun r h => by
  cases r <;> cases h
  exact ⟨rfl, rfl⟩

theorem shared_hears : shared.Hears .connect := fun r h => by
  cases r <;> cases h
  exact ⟨rfl, rfl⟩

theorem data_ignores : data.Ignores .connect := fun r h => by
  cases r <;> cases h
  rfl

end Role

/-! ## Responses in a correlator -/

namespace Correlator

/-- The responses of an exchange after another one has come. -/
def withResponse (k : ExchangeKey) (responses : List Body) (r : Body) : List Body :=
  if k.isShared then responses ++ [r] else [r]

theorem responses_learn_of_ne (c : Correlator) {k : ExchangeKey} {handling : Handling} {b : Body}
    (h : ExchangeKey.ofResponse b ≠ some k) :
    ((c.learn handling b).slot k).responses = (c.slot k).responses := by
  cases handling with
  | record =>
    have slot : (c.record b).slot k = after k (c.slot k) (.record b) := slot_apply c (.record b) k
    exact congrArg Exchange.responses (slot.trans (if_neg h))
  | endConnection =>
    have slot : (c.registerInbound b).slot k = after k (c.slot k) (.registerInbound b) :=
      slot_apply c (.registerInbound b) k
    refine (congrArg Exchange.responses slot).trans ?_
    unfold after
    dsimp only
    split <;> rfl
  | _ => rfl

theorem responses_heard_of_ne (c : Correlator) {k : ExchangeKey} (channel : Option UInt8)
    (role : Role) {b : Body} (h : ExchangeKey.ofResponse b ≠ some k) :
    ((c.heard channel role b).slot k).responses = (c.slot k).responses := by
  unfold heard
  split
  · exact c.responses_learn_of_ne h
  · rfl

/-- A role that does nothing with the responses of an exchange leaves it alone. -/
theorem responses_heard_of_unhandled (c : Correlator) {k : ExchangeKey} (channel : Option UInt8)
    {role : Role} (h : role.Ignores k) (b : Body) :
    ((c.heard channel role b).slot k).responses = (c.slot k).responses := by
  by_cases key : ExchangeKey.ofResponse b = some k
  · have unheard : c.heard channel role b = c := by
      rw [heard, h b key]
      split
      case h_1 handled => cases handled
      case h_2 => rfl
    rw [unheard]
  · exact c.responses_heard_of_ne channel role key

theorem responses_record (c : Correlator) {k : ExchangeKey} {b : Body}
    (h : ExchangeKey.ofResponse b = some k) :
    ((c.record b).slot k).responses = withResponse k (c.slot k).responses b := by
  have slot : (c.record b).slot k = after k (c.slot k) (.record b) := slot_apply c (.record b) k
  rw [slot, after, if_pos h, Exchange.record, withResponse]
  split <;> simp

theorem head?_foldl_withResponse (k : ExchangeKey) (rs : List Body) :
    (rs.foldl (withResponse k) []).head? = if k = .search then rs.head? else rs.getLast? := by
  by_cases shared : k = .search
  · subst shared
    have all : ∀ acc : List Body, rs.foldl (withResponse .search) acc = acc ++ rs := by
      induction rs with
      | nil => simp
      | cons r rs ih => simp [ih, withResponse, ExchangeKey.isShared]
    rw [all, if_pos rfl, List.nil_append]
  · rw [if_neg shared]
    rcases List.eq_nil_or_concat rs with rfl | ⟨front, last, rfl⟩
    · rfl
    · simp [withResponse, ExchangeKey.isShared, shared]

end Correlator

/-! ## Asking once -/

namespace World

/-- While there is no channel, the socket of a question hears the answers, and no other does. -/
structure Listens (w : World) (s : Socket) (k : ExchangeKey) : Prop where
  free : w.channelId = none
  up : w.Up
  found : w.socket? s.address = some s
  hears : s.role.Hears k
  alone : ∀ other ∈ w.sockets, other.address ≠ s.address → other.role.Ignores k

/-- The responses noted under a key. -/
def responses (w : World) (k : ExchangeKey) : List Body := (w.context.correlator.slot k).responses

variable {n : Network} {w : World} {s : Socket} {k : ExchangeKey}

theorem Listens.of_goes {asked : List UInt8} {v : World} (h : w.Listens s k)
    (goes : w.Goes asked v) : v.Listens s k :=
  ⟨goes.keeps.channelId.trans h.free, goes.up h.up,
    by rw [socket?, goes.sockets]; exact h.found, h.hears, by rw [goes.sockets]; exact h.alone⟩

/-- Without a channel, receiving is never answered. -/
theorem receive_free (n : Network) (free : w.channelId = none) (s : Socket) (source : Endpoint)
    (bytes : Bytes) :
    let v := w.receive n s (.datagram source bytes)
    v.attempts = w.attempts ∧ v.context.correlator =
      match Frame.bodyIn? (bytes.take maxFrameSize) with
      | some b => w.context.correlator.heard none s.role b
      | none => w.context.correlator := by
  let r : Receipt := ⟨s.role, s.address, source, bytes.take maxFrameSize⟩
  let noted := w.note (.received r)
  let refusal : Refusal := fun d => (n.react noted.attempts .receiver s.address d).refusal
  let h := w.context.dispatch r.role s.peers refusal r.source r.bytes
  have received : w.receive n s (.datagram source bytes) = { noted with context := h.context } := by
    obtain ⟨-, ended⟩ | ⟨d, answer, -⟩ := receive_cases n w s source bytes
    · exact ended
    · exact absurd free (Context.reply_dispatch _ _ _ _ _ _ answer).1
  rw [received]
  refine ⟨?_, ?_⟩
  · show List.filterMap _ (w.journal ++ [_]) = _
    rw [List.filterMap_append]
    exact List.append_nil _
  · have learned := w.context.correlator_dispatch r.role s.peers refusal r.source r.bytes
    rw [show w.context.connection.channelId = none from free] at learned
    exact learned

/-- The response under a key in something that arrives at a local endpoint. -/
def responseAt (k : ExchangeKey) (address : Endpoint) (a : Arrival) : Option Body :=
  if a.socket = address then
    (Frame.bodyIn? (a.bytes.take maxFrameSize)).filter fun r => ExchangeKey.ofResponse r = some k
  else none

/-- Only what arrives at the socket of the question is noted under its key. -/
theorem arrive_listens (n : Network) (h : w.Listens s k) (a : Arrival) :
    let v := w.arrive n a.socket (.datagram a.source a.bytes)
    v.attempts = w.attempts ∧ v.responses k =
      (responseAt k s.address a).toList.foldl (Correlator.withResponse k) (w.responses k) := by
  unfold arrive
  cases found : w.socket? a.socket with
  | none =>
    have elsewhere : a.socket ≠ s.address := fun same => by
      rw [same, h.found] at found
      cases found
    simp [responseAt, elsewhere]
  | some other =>
    have used := List.mem_of_find?_eq_some found
    have address : other.address = a.socket := by simpa using List.find?_some found
    obtain ⟨isOpen, running⟩ := h.up other used
    obtain ⟨same, learned⟩ := receive_free n h.free other a.source a.bytes
    simp only [isOpen, running, if_true, Bool.not_true, Bool.false_eq_true, if_false]
    refine ⟨same, ?_⟩
    rw [responses, learned]
    by_cases here : a.socket = s.address
    · rw [here, h.found] at found
      cases found
      rw [responseAt, if_pos here]
      cases Frame.bodyIn? (a.bytes.take maxFrameSize) with
      | none => rfl
      | some b =>
        by_cases key : ExchangeKey.ofResponse b = some k
        · obtain ⟨verified, known⟩ := h.hears b key
          have recorded : w.context.correlator.heard none s.role b =
              w.context.correlator.record b := Correlator.heard_of_ok verified known
          simpa [key, recorded, Option.filter, responses] using
            w.context.correlator.responses_record key
        · simpa [key, Option.filter, responses] using
            w.context.correlator.responses_heard_of_ne none s.role key
    · rw [responseAt, if_neg here]
      have unhandled := h.alone other used (address ▸ here)
      cases Frame.bodyIn? (a.bytes.take maxFrameSize) with
      | none => rfl
      | some b => exact w.context.correlator.responses_heard_of_unhandled none unhandled b

theorem arriveAll_listens (n : Network) (h : w.Listens s k) (arrivals : List Arrival) :
    let v := w.arriveAll n arrivals
    v.attempts = w.attempts ∧ v.responses k =
      (arrivals.filterMap (responseAt k s.address)).foldl (Correlator.withResponse k)
        (w.responses k) := by
  induction arrivals generalizing w with
  | nil => exact ⟨rfl, rfl⟩
  | cons a arrivals ih =>
    obtain ⟨same, first⟩ := arrive_listens n h a
    obtain ⟨same', rest⟩ := ih (h.of_goes (w.goes_arrive n h.up a.socket _))
    refine ⟨same'.trans same, rest.trans ?_⟩
    rw [first, List.filterMap_cons]
    cases responseAt k s.address a <;> rfl

/-- Asking a question: it is handed over once, and its answer is what the network makes of it. -/
theorem request_listens (works : n.Works) {b : Body} (key : ExchangeKey.ofRequest b = some k)
    (writes : b.Representable ∧ b.encodedLength ≤ 506) (h : w.Listens s k) :
    let q : Question := ⟨s.address, s.peers.ofChannel b.service.channel, b⟩
    ∃ v, w.request n s b = (.ok (q.answer n w.attempts), v) ∧ v.Listens s k ∧
      v.attempts = w.attempts ++ [q.attempt] := by
  intro q
  let correlator := w.context.correlator.set k (.registered b)
  let ready := w.withContext fun c => { c with correlator }
  let noted := ready.log .caller s.address q.datagram false
  let arrivals := (n.react w.attempts .caller s.address q.datagram).arrivals
  have asking : noted.Listens s k := ⟨h.free, h.up, h.found, h.hears, h.alone⟩
  obtain ⟨same, heard⟩ := arriveAll_listens n asking arrivals
  let v := (noted.arriveAll n arrivals).withContext
    (·.sent (Frame.ofBody b) q.datagram.bytes.length)
  have sent : ready.send n s b = (.ok (), v) := by
    obtain ⟨f, unwritten, -⟩ | ⟨d, wrote, destination, ended⟩ :=
      sendTo_cases n ready s.address b (s.peers.ofChannel b.service.channel)
    · cases unwritten.symm.trans (Frame.bytes_ofBody writes.1 writes.2)
    · have same : d = q.datagram := by
        obtain ⟨bytes, _⟩ := d
        simp only [Question.datagram, q, wrote, Except.toOption, Option.getD_some]
        exact congrArg _ destination
      subst same
      obtain ⟨fault, refused, -⟩ | ⟨-, ended⟩ := ended
      · cases refused.symm.trans (works.takes _ _ _)
      · exact ended
  have asked : w.request n s b = (.ok (v.context.correlator.response? k), v) := by
    have registered : w.context.correlator.register b = .ok (k, correlator) := by
      rw [Correlator.register, key]
    simp only [request, registered]
    rw [sent]
  have answered : v.context.correlator.response? k = q.answer n w.attempts := by
    have began : noted.responses k = [] := by
      show (correlator.slot k).responses = []
      rw [Correlator.slot_set_self]
      rfl
    have reads : q.response? = responseAt k s.address := by
      funext a
      simp only [Question.response?, responseAt, q, key]
    rw [began] at heard
    show ((noted.arriveAll n arrivals).responses k).head? = _
    rw [heard, Correlator.head?_foldl_withResponse, Question.answer, Question.responses, reads]
    simp only [q, key, Option.some.injEq]
    rfl
  refine ⟨v, by rw [asked, answered], ?_, same.trans (List.filterMap_append ..)⟩
  have arrived := asking.of_goes (goes_arriveAll n noted asking.up arrivals)
  exact arrived.of_goes (.of_keeps (Context.keeps_sent _ _ _) rfl)

/-! ## Asking again and again -/

/-- How often a question is asked, by induction on what is left of the budget. `made` attempts came
to nothing before. -/
theorem repeatRequest_from {α : Type} (works : n.Works) {b : Body}
    (key : ExchangeKey.ofRequest b = some k)
    (writes : b.Representable ∧ b.encodedLength ≤ 506)
    (accept : Body → Option α) (earlier : List Attempt) (budget made : Nat) {w : World}
    (h : w.Listens s k) :
    let q : Question := ⟨s.address, s.peers.ofChannel b.service.channel, b⟩
    w.attempts = earlier ++ List.replicate made q.attempt →
    (∀ i < made, (q.answerAfter n earlier i).bind accept = none) →
    ∃ v count result, repeatRequest n s b accept budget
        ((List.range made).filterMap (q.answerAfter n earlier)).getLast? w = (.ok result, v) ∧
      q.Ends n accept (made + budget) earlier count result ∧ v.Listens s k ∧
      v.attempts = earlier ++ List.replicate count q.attempt := by
  intro q
  induction budget generalizing made w with
  | zero =>
    intro so misses
    exact ⟨w, made, _, rfl, .exhausted misses, h, so⟩
  | succ budget ih =>
    intro so misses
    obtain ⟨v, asked, listens, grown⟩ := request_listens works key writes h
    have now : q.answer n w.attempts = q.answerAfter n earlier made := by
      rw [so, Question.answerAfter]
    have more : v.attempts = earlier ++ List.replicate (made + 1) q.attempt := by
      rw [grown, so, List.append_assoc, List.replicate_succ']
    have again (missed : (q.answerAfter n earlier made).bind accept = none) :
        ∃ v' count result, repeatRequest n s b accept budget
            ((List.range (made + 1)).filterMap (q.answerAfter n earlier)).getLast? v =
          (.ok result, v') ∧
        q.Ends n accept (made + (budget + 1)) earlier count result ∧ v'.Listens s k ∧
        v'.attempts = earlier ++ List.replicate count q.attempt := by
      have rest := ih (made + 1) listens more fun i hi => by
        rcases Nat.lt_succ_iff_lt_or_eq.mp hi with before | rfl
        · exact misses i before
        · exact missed
      rwa [Nat.add_right_comm, Nat.add_assoc] at rest
    have heard : (List.range (made + 1)).filterMap (q.answerAfter n earlier) =
        (List.range made).filterMap (q.answerAfter n earlier) ++
          (q.answerAfter n earlier made).toList := by
      rw [List.range_succ, List.filterMap_append, List.filterMap_cons]
      cases q.answerAfter n earlier made <;> rfl
    rw [heard] at again
    unfold repeatRequest
    rw [asked]
    rw [now]
    cases answer : q.answerAfter n earlier made with
    | none =>
      rw [answer, Option.toList_none, List.append_nil] at again
      exact again rfl
    | some r =>
      rw [answer, Option.toList_some, List.getLast?_concat] at again
      dsimp only
      cases hit : accept r with
      | some a =>
        refine ⟨v, made + 1, .accepted a, rfl, .accepted made a (by omega) misses ?_, listens, more⟩
        rw [answer]
        exact hit
      | none => exact again hit

/-- A question asked up to `budget` times is asked once for each answer up to the first that is
accepted, and as often as the budget allows if none is. -/
theorem repeatRequest_ends {α : Type} (works : n.Works) {b : Body}
    (key : ExchangeKey.ofRequest b = some k)
    (writes : b.Representable ∧ b.encodedLength ≤ 506)
    (accept : Body → Option α) (budget : Nat) (h : w.Listens s k) :
    let q : Question := ⟨s.address, s.peers.ofChannel b.service.channel, b⟩
    ∃ v count result, repeatRequest n s b accept budget none w = (.ok result, v) ∧
      q.Ends n accept budget w.attempts count result ∧ v.Listens s k ∧
      v.attempts = w.attempts ++ List.replicate count q.attempt := by
  have asked := repeatRequest_from works key writes accept w.attempts budget 0 h
    (List.append_nil _).symm (fun i hi => absurd hi (Nat.not_lt_zero i))
  rwa [Nat.zero_add] at asked

/-- A procedure with a socket of its own, when sockets can be opened. -/
theorem withSocket_works {α : Type} (works : n.Works) (bare : w.Bare) {settings : Settings}
    {role : Role} (hears : role.Hears k) {socket : SocketSettings} {peer : Endpoint}
    {procedure : Socket → World → Except Failure α × World}
    (Ends : Except Failure α × World → Prop)
    (h : ∀ (s : Socket) (v : World), s.peers = ⟨peer, none⟩ → v.Listens s k →
      v.attempts = w.attempts → Ends ((procedure s v).1, (procedure s v).2.drop s.address)) :
    Ends (w.withSocket n settings role socket peer procedure) := by
  unfold withSocket
  obtain ⟨fault, refused, -⟩ | ⟨-, opened⟩ :=
    bind_cases n w role ⟨settings.interfaceTo n peer, socket.port⟩ peer
  · cases refused.symm.trans (works.opens _)
  · rw [opened]
    generalize next : w.nextSocket n role ⟨settings.interfaceTo n peer, socket.port⟩ peer = s
    have sockets : (w.opening s).sockets = [s] := by simp [opening, bare.sockets]
    refine h s (w.opening s) (next ▸ rfl) ⟨bare.channelId, ?_, ?_, next ▸ hears, ?_⟩ rfl
    · rw [Up, sockets, ← next]
      simp [nextSocket, Socket.new]
    · simp [socket?, sockets]
    · simp [sockets]

end World

end KnxIp
