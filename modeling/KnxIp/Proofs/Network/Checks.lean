/-
  What a request leaves in the journal, and what a check of the channel finds.

  A request that can be written is handed over to the network once, whatever becomes of it; all that
  is handed over until it ends are answers to what the sockets receive (`hands_request`).
-/
import KnxIp.Proofs.Network.Progress

namespace KnxIp

namespace World

/-- What was noted in between, but nothing that was handed over by a caller. -/
def Receiving (w v : World) : Prop :=
  ∃ rest, v.journal = w.journal ++ rest ∧ ∀ a, .handed a ∈ rest → a.sender = .receiver

theorem Receiving.refl (w : World) : w.Receiving w := ⟨[], (List.append_nil _).symm, nofun⟩

theorem Receiving.trans {w v u : World} (h : w.Receiving v) (k : v.Receiving u) :
    w.Receiving u := by
  obtain ⟨first, here, replies⟩ := h
  obtain ⟨rest, later, replies'⟩ := k
  refine ⟨first ++ rest, by rw [later, here, List.append_assoc], fun a mem => ?_⟩
  obtain mem | mem := List.mem_append.mp mem
  · exact replies a mem
  · exact replies' a mem

theorem receiving_receive (n : Network) (w : World) (s : Socket) (x : Waiting) :
    w.Receiving (w.receive n s x) := by
  cases x with
  | failure fault => exact .refl w
  | datagram source bytes =>
    obtain ⟨-, journal⟩ := context_and_journal_receive n w s source bytes
    refine ⟨_, journal, fun a mem => ?_⟩
    obtain same | mem := List.mem_cons.mp mem
    · cases same
    · obtain ⟨d, -, same⟩ := List.mem_map.mp mem
      cases same
      rfl

theorem receiving_arriveAll (n : Network) (w : World) (arrivals : List Arrival) :
    w.Receiving (w.arriveAll n arrivals) := by
  induction arrivals generalizing w with
  | nil => exact .refl w
  | cons a arrivals ih =>
    refine .trans ?_ (ih (w.arrive n a.socket (.datagram a.source a.bytes)))
    unfold arrive
    split
    · exact .refl w
    · next s _ =>
      split
      · exact .refl w
      · split
        · exact receiving_receive n w s _
        · exact .refl w

/-- A datagram is handed over by a caller, and nothing else is. -/
structure Hands (w v : World) (a : Attempt) : Prop where
  sender : a.sender = .caller
  journal : ∃ rest, v.journal = w.journal ++ .handed a :: rest ∧
    ∀ b, .handed b ∈ rest → b.sender = .receiver

/-- A request that can be written is handed over once, whether or not the network takes it. -/
theorem hands_request (n : Network) (w : World) (s : Socket) {b : Body} {bytes : Bytes}
    (written : (Frame.ofBody b).bytes = .ok bytes)
    (request : ∃ key, ExchangeKey.ofRequest b = some key) :
    ∃ refused, w.Hands (w.request n s b).2
      ⟨.caller, s.address, ⟨bytes, s.peers.ofChannel b.service.channel⟩, refused⟩ := by
  obtain ⟨f, refused, -⟩ | ⟨key, correlator, -, ended⟩ := request_cases n w s b
  · obtain ⟨key, request⟩ := request
    simp [Correlator.register, request] at refused
  · have same : (w.request n s b).2 =
        ((w.withContext fun c => { c with correlator }).send n s b).2 := by
      obtain ⟨f, -, ended⟩ | ⟨-, ended⟩ := ended <;> rw [ended]
    rw [same]
    obtain ⟨f, unwritten, -⟩ | ⟨⟨bytes', peer⟩, written', rfl, sent⟩ := sendTo_cases n
      (w.withContext fun c => { c with correlator }) s.address b
      (s.peers.ofChannel b.service.channel)
    · cases unwritten.symm.trans written
    · cases written'.symm.trans written
      obtain ⟨fault, -, sent⟩ | ⟨-, sent⟩ := sent
      · refine ⟨true, rfl, [], ?_, nofun⟩
        rw [send, sent]
        rfl
      · obtain ⟨rest, journal, replies⟩ := receiving_arriveAll n
          ((w.withContext fun c => { c with correlator }).log .caller s.address _ false) _
        refine ⟨false, rfl, rest, ?_, replies⟩
        rw [send, sent]
        refine journal.trans ?_
        exact List.append_assoc ..

/-- A check leaves the world that its request leaves. -/
theorem world_check (n : Network) (w : World) (s : Socket) (channel : UInt8)
    (endpoint : Endpoint) : (w.check n s channel endpoint).2 =
      (w.request n s (.connectionStateRequest channel endpoint)).2 := by
  unfold check
  split <;> next asked => rw [asked]

/-- A check finds the channel alive only if the response is positive. -/
theorem check_eq_ok_true_iff (n : Network) (w : World) (s : Socket) (channel : UInt8)
    (endpoint : Endpoint) : (w.check n s channel endpoint).1 = .ok true ↔
      ∃ c, (w.request n s (.connectionStateRequest channel endpoint)).1 =
        .ok (some (.connectionStateResponse c statusOk)) := by
  unfold check
  split
  · next asked => simp [asked]
  · next c status v asked => simp [asked]
  · next answer v other asked =>
    rw [asked]
    exact iff_of_false nofun fun ⟨c, same⟩ => other c statusOk (Except.ok.inj same)

end World

end KnxIp
