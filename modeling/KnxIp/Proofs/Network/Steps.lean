/-
  What is done to a world, one step after the other.

  Whoever sends, asks, receives, watches or closes does it in steps of five kinds (`World.Step`):
  something arrives at a local endpoint; a caller hands over a frame for the peer of its channel;
  something is noted in the context that is no known value; the session enters a phase; the sockets
  are given up. What each step keeps is kept by all of them, so it need not be shown again for each
  function that takes such steps.

  The peers with which callers hand over a body are kept in sight: `uses` says which they may be,
  and the sockets of a world fit to it if each of them may be used for all that its role sends
  (`World.Fits`). No step changes that.
-/
import KnxIp.KeepAlive
import KnxIp.Proofs.Network.Progress
import Mathlib.Logic.Relation

namespace KnxIp

namespace World

/-- One step. The network may be another one every time. -/
inductive Step (uses : Peers → Body → Prop) (w : World) : World → Prop
  /-- A datagram or a failure to receive arrives at a local endpoint. -/
  | arrive (n : Network) (address : Endpoint) (x : Waiting) : Step uses w (w.arrive n address x)
  /-- A caller hands over a frame, and the network takes it or not. -/
  | hand (s : Socket) (b : Body) (d : Datagram) (refused : Bool) (used : uses s.peers b)
      (written : (Frame.ofBody b).bytes = .ok d.bytes)
      (there : d.destination = s.peers.ofChannel b.service.channel) :
      Step uses w (w.log .caller s.address d refused)
  /-- Something is noted, but no value. -/
  | account (f : Context → Context) (same : (f w.context).status = w.context.status) :
      Step uses w (w.withContext f)
  /-- The session enters a phase. -/
  | enter (phase : SessionPhase) : Step uses w (w.note (.entered phase))
  /-- All sockets are given up. -/
  | vacate : Step uses w { w with sockets := [] }

/-- Any number of steps. -/
abbrev Steps (uses : Peers → Body → Prop) : World → World → Prop :=
  Relation.ReflTransGen (Step uses)

/-- Every socket may be used for all that its role sends. -/
def Fits (uses : Peers → Body → Prop) (w : World) : Prop :=
  ∀ s ∈ w.sockets, ∀ b : Body, s.role.accepts b.service.channel = true → uses s.peers b

variable {uses : Peers → Body → Prop}

section

variable {w v : World}

theorem sockets_receive (n : Network) (w : World) (s : Socket) (x : Waiting) :
    (w.receive n s x).sockets = w.sockets := by
  cases x with
  | failure fault => rfl
  | datagram source bytes =>
    obtain ⟨-, ended⟩ | ⟨d, -, ended⟩ := receive_cases n w s source bytes <;> rw [ended] <;> rfl

theorem prefix_receive (n : Network) (w : World) (s : Socket) (x : Waiting) :
    w.journal <+: (w.receive n s x).journal := by
  cases x with
  | failure fault => exact List.prefix_rfl
  | datagram source bytes =>
    rw [(context_and_journal_receive n w s source bytes).2]
    exact List.prefix_append ..

/-- What arrives may have to wait, and changes nothing else about the sockets. -/
theorem Fits.arrive (fits : w.Fits uses) (n : Network) (address : Endpoint) (x : Waiting) :
    (w.arrive n address x).Fits uses := by
  unfold World.arrive
  split
  · exact fits
  · split
    · exact fits
    · split
      · intro s mem
        rw [sockets_receive] at mem
        exact fits s mem
      · intro s mem
        obtain ⟨before, was, rfl⟩ := List.mem_map.mp mem
        have same := fits before was
        split <;> exact same

theorem Step.fits (step : Step uses w v) (fits : w.Fits uses) : v.Fits uses := by
  cases step with
  | arrive n address x => exact fits.arrive n address x
  | hand | account | enter => exact fits
  | vacate => exact nofun

theorem Steps.fits (steps : Steps uses w v) (fits : w.Fits uses) : v.Fits uses := by
  induction steps with
  | refl => exact fits
  | tail _ step ih => exact step.fits ih

theorem Step.journal (step : Step uses w v) : w.journal <+: v.journal := by
  cases step with
  | arrive n address x =>
    unfold World.arrive
    split
    · exact List.prefix_rfl
    · split
      · exact List.prefix_rfl
      · split
        · exact prefix_receive n w _ x
        · exact List.prefix_rfl
  | hand | enter => exact List.prefix_append ..
  | account | vacate => exact List.prefix_rfl

/-- The journal only grows. -/
theorem Steps.journal (steps : Steps uses w v) : w.journal <+: v.journal := by
  induction steps with
  | refl => exact List.prefix_rfl
  | tail _ step ih => exact ih.trans step.journal

end

/-! ## Functions that take such steps -/

variable (n : Network) (w : World)

theorem steps_arriveAll (arrivals : List Arrival) : Steps uses w (w.arriveAll n arrivals) := by
  induction arrivals generalizing w with
  | nil => exact .refl
  | cons a arrivals ih =>
    exact .head (.arrive n a.socket (.datagram a.source a.bytes))
      (ih (w.arrive n a.socket (.datagram a.source a.bytes)))

theorem steps_send {s : Socket} {b : Body} (used : uses s.peers b) :
    Steps uses w (w.send n s b).2 := by
  unfold send
  obtain ⟨f, -, ended⟩ | ⟨d, written, there, ⟨fault, -, ended⟩ | ⟨-, ended⟩⟩ :=
    sendTo_cases n w s.address b (s.peers.ofChannel b.service.channel)
  · rw [ended]
  · rw [ended]
    exact .single (.hand s b d true used written there)
  · rw [ended]
    let handed := w.log .caller s.address d false
    let arrived := handed.arriveAll n (n.react w.attempts .caller s.address d).arrivals
    have out : Step uses w handed := .hand s b d false used written there
    have counted : Step uses arrived
        (arrived.withContext (·.sent (Frame.ofBody b) d.bytes.length)) := .account _ rfl
    exact ((steps_arriveAll n handed _).head out).tail counted

theorem steps_request {s : Socket} {b : Body} (used : uses s.peers b) :
    Steps uses w (w.request n s b).2 := by
  obtain ⟨f, -, ended⟩ | ⟨key, correlator, -, ended⟩ := request_cases n w s b
  · rw [ended]
  · have registered : Step uses w (w.withContext fun c => { c with correlator }) := .account _ rfl
    have sent := (steps_send n _ used).head registered
    obtain ⟨f, -, ended⟩ | ⟨-, ended⟩ := ended <;> rw [ended] <;> exact sent

theorem steps_check {s : Socket} {channel : UInt8} {endpoint : Endpoint}
    (used : uses s.peers (.connectionStateRequest channel endpoint)) :
    Steps uses w (w.check n s channel endpoint).2 := by
  have asked := steps_request n w used
  unfold check
  split
  case h_1 ended => rwa [ended] at asked
  case h_2 ended => rwa [ended] at asked
  case h_3 ended => rwa [ended] at asked

theorem steps_watch {s : Socket} {endpoint : Endpoint}
    (used : ∀ channel, uses s.peers (.connectionStateRequest channel endpoint)) (k : KeepAlive) :
    Steps uses w (w.watch n s endpoint k).2 := by
  unfold watch
  dsimp only
  split
  case h_1 channel _ =>
    have checked := steps_check n w (used channel)
    generalize w.check n s channel endpoint = ended at checked ⊢
    obtain ⟨alive, v⟩ := ended
    dsimp only
    generalize KeepAlive.judge _ _ = judged
    show Steps uses w (if judged.phase = .over true then v.giveUp else v)
    split
    · exact checked.tail (.account _ rfl)
    · exact checked
  case h_2 => exact .refl

end World
end KnxIp
