/-
  What one step of a call does.

  A step goes on beside starting and closing (`beside_step`), and takes the call to one of a few
  kinds of stages (`Call.Turns`, `turns_step`): it comes closer to taking a number, takes one, goes
  on with the request that has the number, or ends.
-/
import KnxIp.Interplay
import KnxIp.Proofs.Session.Beside

namespace KnxIp

theorem Session.beside_markDirty (s : Session) (d : Destination) :
    Beside [.markDirty d] s (s.markDirty d) := .withStatus (.markDirty d) rfl

/-- The address whose value a call waits for. -/
def Errand.awaited? : Errand → Option Destination
  | .readValue d | .await d => some d
  | _ => none

/-- No number was taken yet. -/
def Stage.IsUnnumbered : Stage → Prop
  | .begun | .marked _ | .composed _ | .addressed _ _ => True
  | _ => False

/-- The request that a call is about to send, or waits to be acknowledged. -/
def Stage.request? : Stage → Option Body
  | .numbered b | .admitted b | .routed b _ _ | .registered b _ _ | .waiting b _ _ => some b
  | _ => none

theorem Stage.not_isUnnumbered {stage : Stage} {b : Body} (h : stage.request? = some b) :
    ¬ stage.IsUnnumbered := by
  cases stage with
  | begun | marked | composed | addressed => cases h
  | _ => exact id

namespace Call

/-! ## The session -/

theorem beside_begin (s : Session) (c : Call) :
    ∃ operations, Session.Beside operations s (c.begin s).1 := by
  obtain ⟨errand, stage⟩ := c
  cases errand with
  | write d data =>
    unfold begin
    dsimp only
    split
    · exact ⟨[], .refl s⟩
    · exact ⟨_, s.beside_markDirty d⟩
  | readValue d => exact ⟨_, s.beside_markDirty d⟩
  | send | read | await => exact ⟨[], .refl s⟩

theorem beside_step (n : Network) (late : Bool) (i : Nat) (s : Session) (c : Call) :
    ∃ operations, Session.Beside operations s (c.step n late i s).session := by
  have same : ∃ operations, Session.Beside operations s s := ⟨[], .refl s⟩
  obtain ⟨errand, stage⟩ := c
  unfold step
  cases stage with
  | begun => exact beside_begin s ⟨errand, .begun⟩
  | composed t =>
    dsimp only
    split
    · exact s.beside_send n (.routingIndication t)
    · split <;> exact same
  | addressed t channel => exact ⟨[], (Session.Beside.refl s).withSequence _⟩
  | routed b socket attempts =>
    cases attempts with
    | zero => exact same
    | succ attempts =>
      dsimp only
      split
      · exact same
      · exact ⟨[], .withWorld id (s.world.hears_withCorrelator _)⟩
  | registered b socket attempts =>
    obtain ⟨operations, beside⟩ := s.beside_sendWorld n socket b
    refine ⟨operations, ?_⟩
    dsimp only
    split
    case h_1 ended => rwa [ended] at beside
    case h_2 ended => rwa [ended] at beside
  | marked | failed | answered => exact same
  | numbered | admitted | waiting | watching =>
    dsimp only
    (repeat' split) <;> exact same

/-! ## The call -/

/-- Where a step takes the call with the number `i`: the counter afterwards, the stage, and what is
entered into the ledger. -/
inductive Turns (i : Nat) (s : Session) (c : Call) : SequenceCounter → Stage → Option Entry → Prop
  /-- It waits on, or has ended before. -/
  | stays : Turns i s c s.sequence c.stage none
  /-- It comes closer to taking a number. -/
  | approaches {stage : Stage} (before : c.stage.IsUnnumbered) (after : stage.IsUnnumbered) :
      Turns i s c s.sequence stage none
  /-- It takes the next number. -/
  | draws {t : Telegram} {channel : UInt8} (found : c.stage = .addressed t channel) :
      Turns i s c s.sequence.take.2
        (.numbered (.tunnelingRequest ⟨channel, s.sequence.next, 0⟩ t))
        (some (.drawn i s.sequence.next))
  /-- It goes on with its request. -/
  | keeps {b : Body} {stage : Stage} (before : c.stage.request? = some b)
      (after : stage.request? = some b) : Turns i s c s.sequence stage none
  /-- The network takes its request. -/
  | carries {b : Body} {stage : Stage} (before : c.stage.request? = some b)
      (after : stage.request? = some b) : Turns i s c s.sequence stage (some (.carried i b))
  /-- The telegram was sent, or was not. -/
  | sends (r : Except Failure Bool) : Turns i s c s.sequence (c.sent r) none
  | fails (f : Failure) : Turns i s c s.sequence (.failed f) none
  /-- It begins to wait for a value. -/
  | watches {d : Destination} (awaited : c.errand.awaited? = some d) :
      Turns i s c s.sequence (.watching d) none
  /-- It sees a fresh value. -/
  | sees {d : Destination} {e : StatusEntry} (waits : c.stage = .watching d)
      (fresh : s.context.status.get? d true = some e) :
      Turns i s c s.sequence (.answered (.value (some e))) none
  | misses : Turns i s c s.sequence (.answered (.value none)) none

variable {i : Nat} {s : Session} {c : Call}

theorem turns_drafted (before : c.stage.IsUnnumbered) (r : Except ValueFault Telegram) :
    c.Turns i s s.sequence (drafted r) none := by
  cases r with
  | error f => exact .fails _
  | ok t => exact .approaches before trivial

theorem turns_begin (found : c.stage = .begun) :
    c.Turns i s (c.begin s).1.sequence (c.begin s).2 none := by
  have before : c.stage.IsUnnumbered := by rw [found]; trivial
  obtain ⟨errand, stage⟩ := c
  cases errand with
  | send t => exact .approaches before trivial
  | write d data =>
    unfold begin
    dsimp only
    split
    · exact .fails _
    · exact .approaches before trivial
  | read d => exact turns_drafted before _
  | readValue d => exact .approaches before trivial
  | await d => exact .watches rfl

theorem sequence_send (n : Network) (s : Session) (b : Body) :
    (s.send n b).2.sequence = s.sequence := by
  unfold Session.send
  split <;> rfl

theorem turns_step (n : Network) (late : Bool) (i : Nat) (s : Session) (c : Call) :
    let taken := c.step n late i s
    c.Turns i s taken.session.sequence taken.stage taken.entry := by
  obtain ⟨errand, stage⟩ := c
  unfold step
  cases stage with
  | begun => exact turns_begin rfl
  | marked d => exact turns_drafted (c := ⟨errand, .marked d⟩) trivial _
  | composed t =>
    dsimp only
    split
    · rw [sequence_send]
      exact .sends _
    · split
      · exact .fails _
      · exact .approaches trivial trivial
  | addressed t channel => exact .draws rfl
  | numbered b =>
    dsimp only
    split
    · exact .keeps rfl rfl
    · exact .fails _
  | admitted b =>
    dsimp only
    split
    · exact .keeps rfl rfl
    · exact .fails _
  | routed b socket attempts =>
    cases attempts with
    | zero => exact .sends (.ok false)
    | succ attempts =>
      dsimp only
      split
      · exact .fails _
      · exact .keeps rfl rfl
  | registered b socket attempts =>
    dsimp only
    split
    · exact .fails _
    · exact .carries rfl rfl
  | waiting b socket attempts =>
    dsimp only
    split
    case h_1 header _ => exact .sends (.ok (header.status = statusOk))
    case h_2 => exact .keeps rfl rfl
    case h_3 =>
      split
      · exact .keeps rfl rfl
      · exact .stays
  | watching d =>
    dsimp only
    split
    case h_1 fresh => exact .sees rfl fresh
    case h_2 =>
      split
      · exact .misses
      · exact .stays
  | failed | answered => exact .stays

/-- After sending, a call waits for the value it was asked for, or ends without an entry. -/
theorem sent_cases (c : Call) (r : Except Failure Bool) :
    (∃ d, c.sent r = .watching d ∧ c.errand.awaited? = some d) ∨ (∃ f, c.sent r = .failed f) ∨
      ∃ answer, c.sent r = .answered answer ∧ ∀ e, answer ≠ .value (some e) := by
  obtain ⟨errand, stage⟩ := c
  cases r with
  | error f => exact .inr (.inl ⟨f, rfl⟩)
  | ok taken =>
    cases errand with
    | readValue d =>
      cases taken with
      | true => exact .inl ⟨d, rfl, rfl⟩
      | false => exact .inr (.inr ⟨_, rfl, nofun⟩)
    | _ => exact .inr (.inr ⟨_, rfl, nofun⟩)

end Call
end KnxIp
