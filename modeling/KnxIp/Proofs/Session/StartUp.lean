/-
  The requests of a start.

  In tunneling mode a start asks up to three questions, one after the other: who is there, what can
  it do, and may there be a tunnel. Each is asked until its answer is accepted or its budget is used
  up, and the next one only after success (`StartUp`). Main statement: as long as the sockets work,
  these are the requests that are sent, and how a start ends is decided by their answers
  (`startUp_of_start`).
-/
import KnxIp.Proofs.Network.Requests
import KnxIp.Proofs.Session.Lifecycle

namespace KnxIp

/-! ## The questions -/

namespace Settings

/-- The search for gateways, from a socket. -/
def search (settings : Settings) (s : Socket) : Question :=
  ⟨s.address, settings.discoveryEndpoint, .searchRequest (settings.announced s)⟩

/-- The request for a description, from a socket. -/
def inquiry (settings : Settings) (remote : Endpoint) (s : Socket) : Question :=
  ⟨s.address, remote, .descriptionRequest (settings.announced s)⟩

/-- The request for a tunnel with these sockets. -/
def proposal (settings : Settings) (remote : Endpoint) (control data : Socket) : Question :=
  ⟨control.address, remote,
    .connectRequest (settings.announced control) (settings.announced data) .tunnelLinkLayer⟩

end Settings

namespace Session

open Journal Start

section

variable (n : Network) (settings : Settings)

/-- How the gateway is found, after these attempts, and by which further ones. -/
inductive Located (earlier : List Attempt) : List Attempt → Except Failure Endpoint → Prop
  | known (remote : Endpoint) (set : settings.remote = some remote) :
      Located earlier [] (.ok remote)
  /-- The first gateway that answers is the one. -/
  | found (unset : settings.remote = none) (s : Socket) (count : Nat) (g : FoundGateway)
      (asked : (settings.search s).Ends n FoundGateway.ofBody settings.retries.discovery.toNat
        earlier count (.accepted g)) :
      Located earlier (.replicate count (settings.search s).attempt) (.ok g.control)
  | missed (unset : settings.remote = none) (s : Socket) (count : Nat) (last : Option Body)
      (asked : (settings.search s).Ends n FoundGateway.ofBody settings.retries.discovery.toNat
        earlier count (.exhausted last)) :
      Located earlier (.replicate count (settings.search s).attempt)
        (.error (.connection (.discoveryNotReceived (settings.search s).body)))

/-- How a gateway is described. -/
inductive Described (remote : Endpoint) (earlier : List Attempt) :
    List Attempt → Except Failure Description → Prop
  | fit (s : Socket) (count : Nat) (d : Description)
      (asked : (settings.inquiry remote s).Ends n Description.ofBody
        settings.retries.description.toNat earlier count (.accepted d))
      (offered : d.families.supports .tunneling = true) :
      Described remote earlier (.replicate count (settings.inquiry remote s).attempt) (.ok d)
  /-- A gateway that does not offer tunneling is not asked for it. -/
  | unfit (s : Socket) (count : Nat) (d : Description)
      (asked : (settings.inquiry remote s).Ends n Description.ofBody
        settings.retries.description.toNat earlier count (.accepted d))
      (lacking : d.families.supports .tunneling = false) :
      Described remote earlier (.replicate count (settings.inquiry remote s).attempt)
        (.error (.connection (.tunnelingNotSupported (settings.inquiry remote s).body
          (.descriptionResponse d))))
  | missed (s : Socket) (count : Nat) (last : Option Body)
      (asked : (settings.inquiry remote s).Ends n Description.ofBody
        settings.retries.description.toNat earlier count (.exhausted last)) :
      Described remote earlier (.replicate count (settings.inquiry remote s).attempt)
        (.error (.connection (.descriptionNotReceived (settings.inquiry remote s).body)))

/-- How a tunnel is granted. A response with another status than success grants nothing. -/
inductive Connected (remote : Endpoint) (earlier : List Attempt) :
    List Attempt → Except Failure Grant → Prop
  | granted (control data : Socket) (count : Nat) (grant : Grant)
      (asked : (settings.proposal remote control data).Ends n Grant.ofBody
        settings.retries.connect.toNat earlier count (.accepted grant)) :
      Connected remote earlier
        (.replicate count (settings.proposal remote control data).attempt) (.ok grant)
  /-- The failure tells which response came last, whatever it was. -/
  | missed (control data : Socket) (count : Nat) (last : Option Body)
      (asked : (settings.proposal remote control data).Ends n Grant.ofBody
        settings.retries.connect.toNat earlier count (.exhausted last)) :
      Connected remote earlier
        (.replicate count (settings.proposal remote control data).attempt)
        (.error (.connection (.channelIdNotReceived
          (settings.proposal remote control data).body last)))

/-- What a start asks for, after these attempts, and what it gets. -/
inductive StartUp (earlier : List Attempt) : List Attempt → Except Failure Grant → Prop
  | lost (located : List Attempt) (f : Failure)
      (h : Located n settings earlier located (.error f)) :
      StartUp earlier located (.error f)
  | unfit (located described : List Attempt) (remote : Endpoint) (f : Failure)
      (h : Located n settings earlier located (.ok remote))
      (k : Described n settings remote (earlier ++ located) described (.error f)) :
      StartUp earlier (located ++ described) (.error f)
  | asked (located described connected : List Attempt) (remote : Endpoint) (d : Description)
      (result : Except Failure Grant) (h : Located n settings earlier located (.ok remote))
      (k : Described n settings remote (earlier ++ located) described (.ok d))
      (l : Connected n settings remote (earlier ++ located ++ described) connected result) :
      StartUp earlier (located ++ described ++ connected) result

end

/-! ## Each step -/

variable {n : Network}

theorem ofChannel_main (peer : Endpoint) (channel : Channel) :
    Peers.ofChannel ⟨peer, none⟩ channel = peer := by
  unfold Peers.ofChannel
  split <;> rfl

/-- A procedure has ended with this result, and has asked these questions. -/
def Asks {α : Type} (w : World) (Φ : List Attempt → Except Failure α → Prop)
    (ended : Except Failure α × World) : Prop :=
  ∃ requests, Φ requests ended.1 ∧ ended.2.attempts = w.attempts ++ requests

theorem asks_discover (works : n.Works) {w : World} (bare : w.Bare) (settings : Settings)
    (unset : settings.remote = none) :
    Asks w (fun located result => Located n settings w.attempts located (result.map (·.control)))
      (World.discover n settings w) := by
  refine World.withSocket_works works bare Role.discovery_hears _ fun s v peers listens same => ?_
  obtain ⟨u, count, result, ran, ends, -, grown⟩ := World.repeatRequest_ends works
    (b := .searchRequest (settings.announced s)) rfl ⟨trivial, Nat.le_of_ble_eq_true rfl⟩
    FoundGateway.ofBody settings.retries.discovery.toNat listens
  rw [same, peers, ofChannel_main] at ends grown
  dsimp only
  rw [ran]
  cases result with
  | accepted g => exact ⟨_, .found unset s count g ends, grown⟩
  | exhausted last => exact ⟨_, .missed unset s count last ends, grown⟩

theorem asks_describe (works : n.Works) {w : World} (bare : w.Bare) (settings : Settings)
    (remote : Endpoint) :
    Asks w (Described n settings remote w.attempts)
      (World.describeForTunneling n settings remote w) := by
  refine World.withSocket_works works bare Role.description_hears
    (fun ended => World.exchangeDescription n settings remote w = ended →
      Asks w (Described n settings remote w.attempts)
        (World.describeForTunneling n settings remote w))
    (fun s v peers listens same exchanged => ?_) rfl
  obtain ⟨u, count, result, ran, ends, -, grown⟩ := World.repeatRequest_ends works
    (b := .descriptionRequest (settings.announced s)) rfl ⟨trivial, Nat.le_of_ble_eq_true rfl⟩
    Description.ofBody settings.retries.description.toNat listens
  rw [same, peers, ofChannel_main] at ends grown
  dsimp only at exchanged
  rw [ran] at exchanged
  rw [World.describeForTunneling, exchanged]
  cases result with
  | accepted d =>
    show Asks w _ (if d.families.supports .tunneling then (.ok d, u.drop s.address)
      else (_, u.drop s.address))
    cases offered : d.families.supports .tunneling with
    | true =>
      rw [if_pos rfl]
      exact ⟨_, .fit s count d ends offered, grown⟩
    | false =>
      rw [if_neg Bool.false_ne_true]
      exact ⟨_, .unfit s count d ends offered, grown⟩
  | exhausted last => exact ⟨_, .missed s count last ends, grown⟩

theorem onWorld_apply {α : Type} (f : World → Except Failure α × World) (t : Session) :
    onWorld f t = ((f t.world).1, { t with world := (f t.world).2 }) := rfl

theorem negotiate_apply (f : Negotiated → Negotiated) (t : Session) :
    negotiate f t = (.ok (), { t with negotiated := f t.negotiated }) := rfl

theorem gateway_works (works : n.Works) (t : Session) (bare : t.world.Bare) :
    ∃ located result v, gateway n t.settings t = (result, { t with world := v }) ∧ v.Bare ∧
      v.attempts = t.world.attempts ++ located ∧
      Located n t.settings t.world.attempts located result := by
  unfold gateway
  cases set : t.settings.remote with
  | some remote =>
    exact ⟨[], .ok remote, t.world, rfl, bare, (List.append_nil _).symm, .known remote set⟩
  | none =>
    obtain ⟨located, found, grown⟩ := asks_discover works bare t.settings set
    have still := (World.leads_discover n t.world bare t.settings).2
    dsimp only
    rw [bind_apply, onWorld_apply]
    generalize World.discover n t.settings t.world = ended at found grown still ⊢
    obtain ⟨result, v⟩ := ended
    cases result with
    | ok g => exact ⟨located, .ok g.control, v, rfl, still, grown, found⟩
    | error f => exact ⟨located, .error f, v, rfl, still, grown, found⟩

theorem onWorld_bind (works : n.Works) (t : Session) (role : Role) (here peer : Endpoint) :
    let s := t.world.nextSocket n role here peer
    onWorld (·.bind n role here peer) t = (.ok s, { t with world := t.world.opening s }) := by
  obtain ⟨fault, refused, -⟩ | ⟨-, opened⟩ := World.bind_cases n t.world role here peer
  · cases refused.symm.trans (works.opens _)
  · simp only [onWorld, opened]

/-- The sockets of a tunnel: the one for control hears whether it is granted. -/
theorem openSockets_works (works : n.Works) (t : Session) (bare : t.world.Bare)
    (settings : Settings) (remote : Endpoint) :
    ∃ control data v, openSockets n settings remote t =
        (.ok (control, data), { t with world := v }) ∧
      v.Listens control .connect ∧ control.peers = ⟨remote, none⟩ ∧
      v.attempts = t.world.attempts := by
  unfold openSockets
  split
  · let shared := t.world.nextSocket n .shared
      ⟨settings.interfaceTo n remote, settings.control.port⟩ remote
    let v := t.world.opening shared
    have sockets : v.sockets = [shared] := by simp [v, World.opening, bare.sockets]
    refine ⟨shared, shared, v, ?_, ⟨bare.channelId, ?_, ?_, Role.shared_hears, ?_⟩, rfl, rfl⟩
    · rw [bind_apply, onWorld_bind works]
      rfl
    · simp [World.Up, sockets, shared, World.nextSocket, Socket.new]
    · simp [World.socket?, sockets]
    · simp [sockets]
  · let control := t.world.nextSocket n .control
      ⟨settings.interfaceTo n remote, settings.control.port⟩ remote
    let w := t.world.opening control
    let data := w.nextSocket n .data ⟨settings.interfaceTo n remote, settings.data.port⟩ remote
    let v := w.opening data
    have sockets : v.sockets = [control, data] := by simp [v, w, World.opening, bare.sockets]
    refine ⟨control, data, v, ?_, ⟨bare.channelId, ?_, ?_, Role.control_hears, ?_⟩, rfl, rfl⟩
    · rw [bind_apply, onWorld_bind works]
      dsimp only
      rw [bind_apply, onWorld_bind works]
      rfl
    · simp [World.Up, sockets, control, data, World.nextSocket, Socket.new]
    · simp [World.socket?, sockets]
    · rw [sockets]
      intro other used elsewhere
      have which : other = control ∨ other = data := by simpa using used
      rcases which with rfl | rfl
      · exact absurd rfl elsewhere
      · exact Role.data_ignores

theorem connect_works (works : n.Works) (t : Session) (settings : Settings) {remote : Endpoint}
    {control : Socket} (data : Socket) (listens : t.world.Listens control .connect)
    (peers : control.peers = ⟨remote, none⟩) :
    ∃ connected result v,
      connect n settings control (settings.announced control, settings.announced data) t =
        (result, { t with world := v }) ∧
      Connected n settings remote t.world.attempts connected result ∧
      v.attempts = t.world.attempts ++ connected ∧ v.channelId = none := by
  obtain ⟨v, count, result, ran, ends, still, grown⟩ := World.repeatRequest_ends works
    (b := .connectRequest (settings.announced control) (settings.announced data) .tunnelLinkLayer)
    rfl ⟨trivial, Nat.le_of_ble_eq_true rfl⟩
    Grant.ofBody settings.retries.connect.toNat listens
  rw [peers, ofChannel_main] at ends grown
  unfold connect
  rw [bind_apply]
  simp only [onWorld, ran]
  cases result with
  | accepted grant =>
    exact ⟨_, _, v, rfl, .granted control data count grant ends, grown, still.free⟩
  | exhausted last =>
    exact ⟨_, _, v, rfl, .missed control data count last ends, grown, still.free⟩

theorem accept_ends (t : Session) (remote : Endpoint) (data : Socket) (grant : Grant) :
    ∃ u, accept remote data grant t = (.ok (), u) ∧
      u.world.attempts = t.world.attempts ∧ u.channelId = some grant.channel := by
  obtain ⟨channel, endpoint, assigned⟩ := grant
  cases endpoint <;> exact ⟨_, rfl, rfl, rfl⟩

theorem keepWatch_ends (t : Session) (settings : Settings) (control : Socket)
    (endpoint : Endpoint) :
    ∃ result u, keepWatch n settings control endpoint t = (result, u) ∧
      u.world = t.world ∧ (result = .ok () ∨ ∃ opened fault,
        n.watchRefusal opened = some fault ∧ result = .error (.transport fault)) := by
  unfold keepWatch
  rw [bind_apply, get_apply]
  dsimp only
  cases begun : n.watchRefusal t.world.opened with
  | some fault => exact ⟨_, _, rfl, rfl, .inr ⟨_, fault, begun, rfl⟩⟩
  | none => exact ⟨_, _, rfl, rfl, .inl rfl⟩

/-- What a session in which a tunnel was asked for has come to: a channel, unless asking has failed.
Only the keep-alive can still be missing then. -/
def Tunneled (n : Network) (outcome : Except Failure Grant) (result : Except Failure Unit)
    (channelId : Option UInt8) : Prop :=
  match outcome with
  | .error f => result = .error f ∧ channelId = none
  | .ok grant => channelId = some grant.channel ∧
    (result = .ok () ∨ ∃ opened fault, n.watchRefusal opened = some fault ∧
      result = .error (.transport fault))

theorem openTunnel_works (works : n.Works) (t : Session) (bare : t.world.Bare)
    (settings : Settings) (remote : Endpoint) :
    ∃ connected outcome result u, openTunnel n settings remote t = (result, u) ∧
      Connected n settings remote t.world.attempts connected outcome ∧
      u.world.attempts = t.world.attempts ++ connected ∧
      Tunneled n outcome result u.channelId := by
  unfold openTunnel
  obtain ⟨control, data, v, opened, listens, peers, same⟩ :=
    openSockets_works works t bare settings remote
  rw [bind_apply, opened]
  dsimp only
  rw [bind_apply, negotiate_apply]
  dsimp only
  obtain ⟨connected, outcome, w, asked, granted, grown, free⟩ := connect_works works
    { t with world := v, negotiated := _ } settings data listens peers
  rw [same] at granted grown
  rw [bind_apply, asked]
  cases outcome with
  | error f => exact ⟨connected, .error f, _, _, rfl, granted, grown, rfl, free⟩
  | ok grant =>
    dsimp only
    obtain ⟨x, accepted, same, held⟩ := accept_ends
      { t with world := w, negotiated := _ } remote data grant
    rw [bind_apply, accepted]
    dsimp only
    obtain ⟨result, u, watched, same', ended⟩ :=
      keepWatch_ends (n := n) x settings control (settings.announced control)
    refine ⟨connected, .ok grant, result, u, watched, granted, ?_, ?_, ended⟩
    · rw [same', same, grown]
    · show u.world.channelId = _
      rw [same']
      exact held

theorem tunneling_works (works : n.Works) (t : Session) (bare : t.world.Bare) :
    ∃ requests outcome result u, tunneling n t = (result, u) ∧
      StartUp n t.settings t.world.attempts requests outcome ∧
      u.world.attempts = t.world.attempts ++ requests ∧
      Tunneled n outcome result u.channelId := by
  unfold tunneling
  rw [bind_apply, get_apply]
  dsimp only
  obtain ⟨located, place, v, ran, bare, grown, found⟩ := gateway_works works t bare
  rw [bind_apply, ran]
  cases place with
  | error f => exact ⟨_, _, _, _, rfl, .lost located f found, grown, rfl, bare.channelId⟩
  | ok remote =>
    obtain ⟨described, asked, grown'⟩ := asks_describe works bare t.settings remote
    have bare := (World.leads_describeForTunneling n v bare t.settings remote).2
    dsimp only
    rw [bind_apply, negotiate_apply]
    dsimp only
    rw [bind_apply, onWorld_apply]
    dsimp only
    generalize World.describeForTunneling n t.settings remote v = ended at asked grown' bare ⊢
    obtain ⟨answer, w⟩ := ended
    rw [grown] at asked grown'
    cases answer with
    | error f =>
      refine ⟨_, _, _, _, rfl, .unfit located described remote f found asked, ?_, rfl,
        bare.channelId⟩
      exact grown'.trans (List.append_assoc ..)
    | ok d =>
      dsimp only
      rw [bind_apply, negotiate_apply]
      dsimp only
      obtain ⟨connected, outcome, result, u, opened, granted, grown'', ended⟩ :=
        openTunnel_works works { t with world := w, negotiated := _ } bare t.settings remote
      have before : w.attempts = t.world.attempts ++ located ++ described := grown'
      change Connected n t.settings remote w.attempts connected outcome at granted
      change u.world.attempts = w.attempts ++ connected at grown''
      rw [before] at granted grown''
      refine ⟨_, outcome, result, u, opened,
        .asked located described connected remote d outcome found asked granted, ?_, ended⟩
      rw [grown'']
      simp

/-- Closing a session without a channel sends nothing. -/
theorem journal_close_of_free (n : Network) {s : Session} (isOpen : s.closed = false)
    (free : s.channelId = none) :
    (s.close n).world.journal =
      s.world.journal ++ [.entered .stopRequested, .entered .notStarted] := by
  have silent : s.stopping.disconnectHeld n = s.stopping := by
    have free : s.stopping.channelId = none := free
    rw [disconnectHeld, free]
  rw [close_of_open n isOpen, silent]
  show s.world.journal ++ [_] ++ [_] = _
  rw [List.append_assoc]
  rfl

theorem requests_eq {s t : Session} {requests : List Attempt} {starting : List Happening}
    (grown : t.world.attempts = s.world.attempts ++ requests)
    (journal : t.world.journal = s.world.journal ++ .entered .startRequested :: starting) :
    requests = starting.filterMap Happening.attempt? := by
  rw [World.attempts, journal, List.filterMap_append] at grown
  exact (List.append_cancel_left grown).symm

/-- As long as the sockets work, the requests of a start in tunneling mode are its questions up to
the first that is not answered as it should be, and this decides how the start ends. -/
theorem startUp_of_start (n : Network) (works : n.Works) (s : Session) (down : s.Down)
    (valid : s.settings.validate = .ok ()) (mode : s.settings.mode = .tunneling) :
    ∃ starting outcome,
      StartUp n s.settings s.world.attempts (starting.filterMap Happening.attempt?) outcome ∧
      match outcome with
      | .error f => (s.start n).1 = .error f ∧
        (s.start n).2.world.journal = s.world.journal ++ .entered .startRequested :: starting ++
          [.entered .stopRequested, .entered .notStarted]
      | .ok grant =>
        (s.start n).1 = .ok () ∧ (s.start n).2.channelId = some grant.channel ∧
          (s.start n).2.world.journal = s.world.journal ++ .entered .startRequested :: starting ++
            [.entered .started] ∨
        ∃ opened fault rest, n.watchRefusal opened = some fault ∧
          (s.start n).1 = .error (.transport fault) ∧
          (s.start n).2.world.journal = s.world.journal ++ .entered .startRequested :: starting ++
            .entered .stopRequested :: rest := by
  have bare : s.prepare.world.Bare := ⟨down.sockets, rfl⟩
  have ran : Start.services n s.prepare = tunneling n s.prepare := by
    have known : s.prepare.settings = s.settings := rfl
    unfold services
    rw [bind_apply, get_apply]
    dsimp only
    rw [known, valid, mode]
  obtain ⟨requests, outcome, result', u, tunneled, asks, grown, ended⟩ :=
    tunneling_works works s.prepare bare
  rw [← ran] at tunneled
  have before : s.prepare.world.attempts = s.world.attempts :=
    (List.filterMap_append ..).trans (List.append_nil _)
  rw [before] at asks grown
  cases starts_of_down n down with
  | runs t services begins live result =>
    obtain ⟨rfl, rfl⟩ := Prod.mk.inj (services.symm.trans tunneled)
    obtain ⟨starting, journal, -⟩ := starting_of_begins begins
    refine ⟨starting, outcome, requests_eq grown journal ▸ asks, ?_⟩
    cases outcome with
    | error f => cases ended.1
    | ok grant =>
      rw [result]
      refine .inl ⟨rfl, ended.1, ?_⟩
      show t.world.journal ++ [_] = _
      rw [journal]
  | fails t f services begins closable result =>
    obtain ⟨rfl, rfl⟩ := Prod.mk.inj (services.symm.trans tunneled)
    obtain ⟨starting, journal, -⟩ := starting_of_begins begins
    refine ⟨starting, outcome, requests_eq grown journal ▸ asks, ?_⟩
    rw [result]
    cases outcome with
    | error g =>
      refine ⟨ended.1, ?_⟩
      show (t.close n).world.journal = _
      rw [journal_close_of_free n begins.closed ended.2, journal]
    | ok grant =>
      obtain ⟨-, started | ⟨opened, fault, refused, failed⟩⟩ := ended
      · cases started
      · obtain ⟨closing, closed, -⟩ := (closes_close n begins.closed closable).journal
        refine .inr ⟨opened, fault, closing ++ [.entered .notStarted], refused, failed, ?_⟩
        show (t.close n).world.journal = _
        rw [closed, journal]
        simp

theorem works_network (g : Gateway) : g.network.Works where
  opens _ := rfl
  takes earlier socket d := by
    show (g.react earlier .caller socket d).refusal = none
    unfold Gateway.react
    split
    · rfl
    · split <;> rfl

/-- A gateway that describes itself and grants channel 5. -/
theorem startUp_of_start_granted :
    let n := (granting []).network
    let s := Session.new (.tunnelingTo Gateway.main) (.new .nobody)
    (n.Works ∧ s.Down ∧ s.settings.validate = .ok () ∧ s.settings.mode = .tunneling) ∧
    ∃ requests grant, StartUp n s.settings [] requests (.ok grant) ∧ grant.channel = 5 := by
  intro n s
  have works : n.Works := works_network _
  have down : s.Down := down_new _ rfl
  have valid : s.settings.validate = .ok () := by decide +kernel
  have started : (s.start n).1.isOk = true := by decide +kernel
  have held : (s.start n).2.channelId = some 5 := by decide +kernel
  refine ⟨⟨works, down, valid, rfl⟩, ?_⟩
  obtain ⟨starting, outcome, asks, ended⟩ := startUp_of_start n works s down valid rfl
  cases outcome with
  | error f =>
    rw [ended.1] at started
    cases started
  | ok grant =>
    obtain ⟨-, channel, -⟩ | ⟨_, _, _, refused, -⟩ := ended
    · exact ⟨_, grant, asks, Option.some.inj (channel.symm.trans held)⟩
    · cases refused

end Session
end KnxIp
