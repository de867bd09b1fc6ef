/-
  What comes in while a tunneling request waits for its acknowledgement.

  A request that is handed over opens a window in the journal, and nothing else does. The exchange
  of the request holds the acknowledgements received in the window and no others (`World.Waits`).

  Main statement: whatever arrives, asking once opens one window, and the answer is the last
  acknowledgement received in it (`request_window`).
-/
import KnxIp.Network.Windows
import KnxIp.Proofs.Network.Answers

namespace KnxIp

/-! ## Windows in a journal -/

namespace Journal

theorem received_append (xs ys : List Happening) :
    received (xs ++ ys) = received xs ++ received ys := List.filterMap_append

theorem tunneled_append (xs ys : List Happening) :
    tunneled (xs ++ ys) = tunneled xs ++ tunneled ys := List.filterMap_append

theorem acks_append (channel number : UInt8) (xs ys : List Happening) :
    acks channel number (xs ++ ys) = acks channel number xs ++ acks channel number ys := by
  rw [acks, received_append, List.filterMap_append]
  rfl

theorem tunneled_of_within {window : List Happening} (h : ∀ x ∈ window, x.Within) :
    tunneled window = [] := List.filterMap_eq_nil_iff.mpr fun x mem => (h x mem).1

/-- What holds no transmission opens no window. -/
theorem windows_append_of_untunneled {xs : List Happening} (ys : List Happening)
    (h : tunneled xs = []) : windows (xs ++ ys) = windows ys := by
  induction xs with
  | nil => rfl
  | cons x xs ih =>
    have none := List.filterMap_eq_nil_iff.mp h
    rw [List.cons_append, windows, none x (List.mem_cons_self ..)]
    exact ih (List.filterMap_eq_nil_iff.mpr fun y mem => none y (List.mem_cons_of_mem _ mem))

/-- A window ends where the next entry does not belong to it. -/
theorem windows_cons {x : Happening} (sent : x.tunneled?.isSome = true) {window : List Happening}
    (within : ∀ y ∈ window, y.Within) {later : List Happening}
    (ends : ∀ y ∈ later.head?, ¬ y.Within) :
    windows (x :: (window ++ later)) = window :: windows later := by
  have all : (window ++ later).takeWhile (·.Within) = window := by
    rw [List.takeWhile_append_of_pos (by simpa using within)]
    cases later with
    | nil => simp
    | cons y later => simp [ends y rfl]
  rw [windows, if_pos sent, all, windows_append_of_untunneled later (tunneled_of_within within)]

end Journal

open Journal

/-- A tunneling request can always be written. -/
theorem Frame.exists_bytes_tunnelingRequest (header : TunnelHeader) (t : Telegram) :
    ∃ bytes, (Frame.ofBody (.tunnelingRequest header t)).bytes = .ok bytes := by
  refine ⟨_, Frame.bytes_ofBody trivial ?_⟩
  show 4 + t.encodedLength ≤ 506
  have := Frame.telegram_le t
  omega

/-! ## What is noted of what arrives -/

/-- The acknowledgement of a tunneled telegram. -/
def Body.ack (channel number status : UInt8) : Body := .tunnelingAck ⟨channel, number, status⟩

theorem Role.handling_tunnelingAck (role : Role) :
    role.handling .tunnelingAck = some .record ↔ role.accepts .data = true := by
  cases role <;> decide

theorem Body.isAnswerTo_tunnelingRequest_iff {r : Body} {channel number reserved : UInt8}
    {t : Telegram} :
    r.IsAnswerTo (.tunnelingRequest ⟨channel, number, reserved⟩ t) (some channel) ↔
      ∃ status, r = .ack channel number status := by
  constructor
  · rintro ⟨service, sequence, own⟩
    cases r <;> cases service
    next header =>
      obtain ⟨c, m, status⟩ := header
      cases sequence
      have same : c = channel := Decidable.byContradiction fun other =>
        own ⟨nofun, c, rfl, fun h => other (Option.some.inj h)⟩
      exact ⟨status, by rw [same, ack]⟩
  · rintro ⟨status, rfl⟩
    refine ⟨rfl, rfl, ?_⟩
    rintro ⟨-, id, carries, other⟩
    cases carries
    exact other rfl

theorem Receipt.ack?_eq_some_iff {channel number status : UInt8} {r : Receipt} :
    r.ack? channel number = some status ↔
      Frame.bodyIn? r.bytes = some (.ack channel number status) ∧
        r.role.handling .tunnelingAck = some .record := by
  rw [Role.handling_tunnelingAck]
  unfold ack?
  split
  · next header read =>
    obtain ⟨c, m, s⟩ := header
    rw [read]
    simp [Body.ack]
    tauto
  · next other =>
    simp only [reduceCtorEq, false_iff, not_and]
    intro read
    exact absurd read (other _)

namespace World

variable {n : Network} {w v u : World} {channel number : UInt8}

/-- From one world to another, this is what was entered into the journal, and the acknowledgements
received meanwhile are noted. -/
structure Waits (channel number : UInt8) (w v : World) (window : List Happening) : Prop where
  journal : v.journal = w.journal ++ window
  within : ∀ h ∈ window, h.Within
  noted : v.responses (.tunneling number) =
    ((acks channel number window).map (Body.ack channel number)).foldl
      (Correlator.withResponse (.tunneling number)) (w.responses (.tunneling number))

theorem Waits.refl (w : World) : w.Waits channel number w [] :=
  ⟨(List.append_nil _).symm, nofun, rfl⟩

theorem Waits.trans {first rest : List Happening} (h : w.Waits channel number v first)
    (k : v.Waits channel number u rest) : w.Waits channel number u (first ++ rest) := by
  refine ⟨?_, ?_, ?_⟩
  · rw [k.journal, h.journal, List.append_assoc]
  · intro x mem
    exact (List.mem_append.mp mem).elim (h.within x) (k.within x)
  · rw [k.noted, h.noted, acks_append, List.map_append, List.foldl_append]

/-- A reply is never a tunneling request. -/
theorem within_reply {c : Context} {role : Role} {peers : Peers} {refusal : Refusal}
    {source : Endpoint} {bytes : Bytes} {d : Datagram}
    (h : (c.dispatch role peers refusal source bytes).reply = some d) (socket : Endpoint)
    (refused : Bool) : (Happening.handed ⟨.receiver, socket, d, refused⟩).Within := by
  obtain ⟨-, r, written, none⟩ := Context.reply_dispatch _ _ _ _ _ _ h
  refine ⟨if_neg ?_, rfl⟩
  rw [Datagram.service?_of_written written]
  intro same
  rw [Option.some.inj same] at none
  cases none

section

-- the telegram of the request that waits
variable (t : Telegram)

include t

theorem waits_receive (n : Network) (held : w.channelId = some channel) (s : Socket)
    (source : Endpoint) (bytes : Bytes) :
    ∃ window, w.Waits channel number (w.receive n s (.datagram source bytes)) window ∧
      received window = [⟨s.role, s.address, source, bytes.take maxFrameSize⟩] := by
  let r : Receipt := ⟨s.role, s.address, source, bytes.take maxFrameSize⟩
  let noted := w.note (.received r)
  let refusal : Refusal := fun d => (n.react noted.attempts .receiver s.address d).refusal
  let h := w.context.dispatch r.role s.peers refusal r.source r.bytes
  let replies : List Happening :=
    h.reply.toList.map fun d => .handed ⟨.receiver, s.address, d, (refusal d).isSome⟩
  have came : received (.received r :: replies) = [r] := by
    show r :: received replies = [r]
    simp only [replies]
    cases h.reply <;> rfl
  obtain ⟨context, journal⟩ := context_and_journal_receive n w s source bytes
  refine ⟨_, ⟨journal, ?_, ?_⟩, came⟩
  · intro x mem
    obtain rfl | mem := List.mem_cons.mp mem
    · exact ⟨rfl, rfl⟩
    · obtain ⟨d, answer, rfl⟩ := List.mem_map.mp mem
      exact within_reply (Option.mem_toList.mp answer) _ _
  · have learned := w.context.correlator_dispatch r.role s.peers refusal r.source r.bytes
    rw [show w.context.connection.channelId = some channel from held] at learned
    rw [responses, context, learned, acks, came, List.filterMap_cons, List.filterMap_nil]
    cases read : Frame.bodyIn? r.bytes with
    | none => simp [Receipt.ack?, read, responses]
    | some b =>
      obtain ⟨answer, notes, noted⟩ | ⟨other, same⟩ := Correlator.responses_heard
        (b := .tunnelingRequest ⟨channel, number, 0⟩ t) rfl w.context.correlator (some channel)
        r.role b
      · obtain ⟨status, rfl⟩ := Body.isAnswerTo_tunnelingRequest_iff.mp answer
        rw [Receipt.ack?_eq_some_iff.mpr ⟨read, notes⟩]
        exact noted
      · have unheard : r.ack? channel number = none := by
          cases heard : r.ack? channel number with
          | none => rfl
          | some status =>
            obtain ⟨read', notes⟩ := Receipt.ack?_eq_some_iff.mp heard
            cases read.symm.trans read'
            exact absurd ⟨Body.isAnswerTo_tunnelingRequest_iff.mpr ⟨status, rfl⟩, notes⟩ other
        rw [unheard]
        exact same

theorem waits_arrive (n : Network) (up : w.Up) (held : w.sockets = [] ∨ w.channelId = some channel)
    (a : Arrival) :
    ∃ window, w.Waits channel number (w.arrive n a.socket (.datagram a.source a.bytes)) window ∧
      received window = (w.receipt? a).toList := by
  unfold arrive receipt?
  cases found : w.socket? a.socket with
  | none => exact ⟨[], .refl w, rfl⟩
  | some s =>
    have used := List.mem_of_find?_eq_some found
    obtain ⟨isOpen, running⟩ := up s used
    have held : w.channelId = some channel :=
      held.resolve_left fun none => by simp [none] at used
    simp only [isOpen, running, Bool.not_true, Bool.false_eq_true, if_false, if_true]
    exact waits_receive t n held s a.source a.bytes

variable (number) in
theorem waits_arriveAll (n : Network) (up : w.Up)
    (held : w.sockets = [] ∨ w.channelId = some channel) (arrivals : List Arrival) :
    ∃ window, w.Waits channel number (w.arriveAll n arrivals) window ∧
      received window = arrivals.filterMap w.receipt? := by
  induction arrivals generalizing w with
  | nil => exact ⟨[], .refl w, rfl⟩
  | cons a arrivals ih =>
    have goes := w.goes_arrive n up a.socket (.datagram a.source a.bytes)
    obtain ⟨first, here, came⟩ := waits_arrive t n up held a
    obtain ⟨rest, later, came'⟩ := ih (goes.up up)
      (held.imp goes.sockets.trans goes.keeps.channelId.trans)
    refine ⟨first ++ rest, here.trans later, ?_⟩
    have same : (w.arrive n a.socket (.datagram a.source a.bytes)).receipt? = w.receipt? := by
      funext x
      rw [receipt?, receipt?, socket?, socket?, goes.sockets]
    rw [received_append, came, came', same, List.filterMap_cons]
    cases w.receipt? a <;> rfl

end

/-- The datagram of a tunneling request. -/
structure IsTunneled (s : Socket) (b : Body) (a : Attempt) : Prop where
  sender : a.sender = .caller
  socket : a.socket = s.address
  written : (Frame.ofBody b).bytes = .ok a.datagram.bytes
  destination : a.datagram.destination = s.peers.ofChannel .data
  refused : a.refused = false

/-- The request was handed over, and this is what the journal has gained since. What the sockets
have received is all that the network let arrive for them. -/
structure Opens (n : Network) (a : Attempt) (w v : World) (window : List Happening) : Prop where
  tunneled : (Happening.handed a).tunneled? = some a
  journal : v.journal = w.journal ++ .handed a :: window
  within : ∀ h ∈ window, h.Within
  goes : w.Goes [] v
  received : received window =
    (n.react w.attempts a.sender a.socket a.datagram).arrivals.filterMap w.receipt?

/-- A tunneling request that the network takes opens a window, and the answer is the last
acknowledgement received in it. -/
theorem request_window {n : Network}
    (takes : ∀ earlier socket d, (n.react earlier .caller socket d).refusal = none)
    (up : w.Up) (held : w.sockets = [] ∨ w.channelId = some channel) (s : Socket) (t : Telegram)
    {a : Attempt} (asks : IsTunneled s (.tunnelingRequest ⟨channel, number, 0⟩ t) a) :
    ∃ v window,
      w.request n s (.tunnelingRequest ⟨channel, number, 0⟩ t) =
        (.ok ((acks channel number window).getLast?.map (Body.ack channel number)), v) ∧
      w.Opens n a v window := by
  let b : Body := .tunnelingRequest ⟨channel, number, 0⟩ t
  let k : ExchangeKey := .tunneling number
  let correlator := w.context.correlator.set k (.registered b)
  let ready := w.withContext fun c => { c with correlator }
  let noted := ready.log .caller s.address a.datagram false
  let arrivals := (n.react w.attempts .caller s.address a.datagram).arrivals
  let v := (noted.arriveAll n arrivals).withContext
    (·.sent (Frame.ofBody b) a.datagram.bytes.length)
  have sent : ready.send n s b = (.ok (), v) := by
    obtain ⟨f, unwritten, -⟩ | ⟨⟨bytes, peer⟩, wrote, destination, ended⟩ :=
      sendTo_cases n ready s.address b (s.peers.ofChannel b.service.channel)
    · cases unwritten.symm.trans asks.written
    · have same : (⟨bytes, peer⟩ : Datagram) = a.datagram := by
        obtain ⟨sender, socket, ⟨bytes', peer'⟩, refused⟩ := a
        cases wrote.symm.trans asks.written
        exact congrArg _ (destination.trans asks.destination.symm)
      rw [same] at ended
      obtain ⟨fault, refused, -⟩ | ⟨-, ended⟩ := ended
      · cases refused.symm.trans (takes _ _ _)
      · exact ended
  have asked : w.request n s b = (.ok (v.context.correlator.response? k), v) :=
    request_of_send (b := b) (k := k) (show _ = Except.ok (k, correlator) from rfl) sent
  obtain ⟨window, waits, came⟩ := waits_arriveAll (w := noted) number t n up held arrivals
  have entry : (⟨.caller, s.address, a.datagram, false⟩ : Attempt) = a := by
    rw [← asks.sender, ← asks.socket, ← asks.refused]
  have goes : w.Goes [] v := by
    have goes := goes_request n w up s b
    rwa [asked] at goes
  refine ⟨v, window, ?_, if_pos (Datagram.service?_of_written asks.written), ?_, waits.within,
    goes, ?_⟩
  · have began : noted.responses k = [] := by
      show (correlator.slot k).responses = []
      rw [Correlator.slot_set_self]
      rfl
    rw [asked]
    show (Except.ok ((noted.arriveAll n arrivals).responses k).head?, v) = _
    rw [waits.noted, began, Correlator.head?_foldl_withResponse, if_neg nofun, List.getLast?_map]
  · refine waits.journal.trans ?_
    show w.journal ++ [_] ++ window = _
    rw [entry, List.append_assoc]
    rfl
  · rw [came, asks.sender, asks.socket]
    rfl

/-- A request that is no tunneling request opens no window. -/
theorem untunneled_request (n : Network) (up : w.Up)
    (held : w.sockets = [] ∨ w.channelId = some channel) (t : Telegram) (s : Socket) {b : Body}
    (other : b.service ≠ .tunnelingRequest) :
    ∃ gained, (w.request n s b).2.journal = w.journal ++ gained ∧ tunneled gained = [] := by
  obtain ⟨f, -, ended⟩ | ⟨key, correlator, -, ended⟩ := request_cases n w s b
  · exact ⟨[], by rw [ended, List.append_nil], rfl⟩
  · have same : (w.request n s b).2 =
        ((w.withContext fun c => { c with correlator }).send n s b).2 := by
      obtain ⟨f, -, ended⟩ | ⟨-, ended⟩ := ended <;> rw [ended]
    rw [same]
    obtain ⟨f, -, sent⟩ | ⟨d, written, -, sent⟩ := sendTo_cases n
      (w.withContext fun c => { c with correlator }) s.address b
      (s.peers.ofChannel b.service.channel)
    · exact ⟨[], by rw [send, sent]; exact (List.append_nil _).symm, rfl⟩
    · have none : ∀ refused, (Happening.handed ⟨.caller, s.address, d, refused⟩).tunneled? = none :=
        fun refused => if_neg (by
          rw [Datagram.service?_of_written written]
          exact fun same => other (Option.some.inj same))
      obtain ⟨fault, -, sent⟩ | ⟨-, sent⟩ := sent
      · exact ⟨[_], by rw [send, sent]; rfl, List.filterMap_eq_nil_iff.mpr (by simp [none])⟩
      · obtain ⟨window, waits, -⟩ := waits_arriveAll
          (w := (w.withContext fun c => { c with correlator }).log .caller s.address d false)
          0 t n up held (n.react w.attempts .caller s.address d).arrivals
        refine ⟨.handed ⟨.caller, s.address, d, false⟩ :: window, ?_, ?_⟩
        · rw [send, sent]
          refine waits.journal.trans ?_
          exact List.append_assoc ..
        · rw [tunneled, List.filterMap_cons, none]
          exact tunneled_of_within waits.within

end World

end KnxIp
