/-
  What a correlator knows after any history.

  Every operation acts on each slot by itself (`slot_apply`): `after` says how, and it looks only
  at bodies that belong to the key of the slot. So the content of a slot can be read off the
  history of operations, newest first: the last registration since the last reset, and the
  responses since the last outgoing request or reset.

  Main statement: after any history that begins with the empty correlator, every slot holds just
  that, whatever was done under other keys (`content_of_run`).
-/
import KnxIp.Correlation
import Mathlib.Data.List.Induction

namespace KnxIp.Correlator

open ExchangeKey (ofRequest ofResponse)

/-! ## One slot -/

/-- The key under which an operation acts. A reset acts under all keys, and some bodies belong to
none. -/
def Operation.key? : Operation → Option ExchangeKey
  | .register b | .registerInbound b => ofRequest b
  | .record b => ofResponse b
  | .reset => none

/-- What an operation does to the exchange of a key. -/
def after (k : ExchangeKey) (x : Exchange) : Operation → Exchange
  | .register b => if ofRequest b = some k then .registered b else x
  | .registerInbound b => if ofRequest b = some k then x.registerInbound b else x
  | .record b => if ofResponse b = some k then x.record k.isShared b else x
  | .reset => .empty

theorem mem_all (k : ExchangeKey) : k ∈ ExchangeKey.all := by
  cases k with
  | tunneling s =>
    refine List.mem_append_right _ (List.mem_map.mpr ⟨s.toNat, ?_, by simp⟩)
    exact List.mem_range.mpr s.toNat_lt
  | _ => exact List.mem_append_left _ (by decide)

theorem slot_foldl_clear (ks : List ExchangeKey) (c : Correlator) (k : ExchangeKey) :
    (ks.foldl clear c).slot k = if k ∈ ks then .empty else c.slot k := by
  induction ks generalizing c with
  | nil => rfl
  | cons j ks ih =>
    rw [List.foldl_cons, ih, clear]
    by_cases h : k = j
    · rw [h, slot_set_self]
      simp
    · rw [slot_set_of_ne _ _ h]
      simp [h]

/-- A reset reaches every slot, also those of all the sequence numbers. -/
theorem reset_eq_empty (c : Correlator) : c.reset = empty := by
  have slots : c.reset.slot = empty.slot := funext fun k => by
    rw [reset, slot_foldl_clear, if_pos (mem_all k), empty]
  exact congrArg mk slots

/-- An operation acts on each slot by itself. -/
theorem slot_apply (c : Correlator) (op : Operation) (k : ExchangeKey) :
    (c.apply op).slot k = after k (c.slot k) op := by
  -- Replacing the slot of one key, seen from the slot of another.
  have replaced (j : ExchangeKey) (x : ExchangeKey → Exchange) :
      (c.set j (x j)).slot k = if some j = some k then x k else c.slot k := by
    by_cases h : j = k
    · rw [h, slot_set_self, if_pos rfl]
    · rw [slot_set_of_ne _ _ (Ne.symm h), if_neg (fun e => h (Option.some.inj e))]
  cases op with
  | register b =>
    cases h : ofRequest b with
    | none => simp [apply, register, after, h]
    | some j => simpa [apply, register, after, h] using replaced j fun _ => .registered b
  | registerInbound b =>
    cases h : ofRequest b with
    | none => simp [apply, registerInbound, after, h]
    | some j =>
      simpa [apply, registerInbound, after, h] using
        replaced j fun i => (c.slot i).registerInbound b
  | record b =>
    cases h : ofResponse b with
    | none => simp [apply, record, after, h]
    | some j =>
      simpa [apply, record, after, h] using replaced j fun i => (c.slot i).record i.isShared b
  | reset => rw [apply, reset_eq_empty]; rfl

theorem after_of_key_ne {op : Operation} {k : ExchangeKey} (x : Exchange)
    (other : op.key? ≠ some k) (noReset : op ≠ .reset) : after k x op = x := by
  cases op with
  | reset => exact absurd rfl noReset
  | _ => exact if_neg other

/-! ## Reading a slot off the history -/

namespace Operation

/-- The request that an operation registers under a key, and whether it came from the peer. -/
def registration? (k : ExchangeKey) : Operation → Option (Body × Bool)
  | .register b => if ofRequest b = some k then some (b, false) else none
  | .registerInbound b => if ofRequest b = some k then some (b, true) else none
  | _ => none

/-- The response that an operation records under a key. -/
def response? (k : ExchangeKey) : Operation → Option Body
  | .record b => if ofResponse b = some k then some b else none
  | _ => none

/-- After such an operation the responses under a key begin anew: a reset, or an outgoing request
under this key. -/
def renews (k : ExchangeKey) : Operation → Bool
  | .register b => ofRequest b = some k
  | .reset => true
  | _ => false

end Operation

/-- The last registration under a key since the last reset. -/
def lastRegistration (k : ExchangeKey) (history : List Operation) : Option (Body × Bool) :=
  (history.reverse.takeWhile (· ≠ .reset)).findSome? (·.registration? k)

/-- The responses under a key since the last outgoing request or reset, in the order of their
arrival. -/
def responsesSince (k : ExchangeKey) (history : List Operation) : List Body :=
  ((history.reverse.takeWhile (!·.renews k)).filterMap (·.response? k)).reverse

/-- What a history says about the exchange of a key: a search keeps all its responses, any other
exchange the latest one. -/
def content (k : ExchangeKey) (history : List Operation) : Exchange where
  request := (lastRegistration k history).map (·.1)
  inbound := (lastRegistration k history).any (·.2)
  responses :=
    if k = .search then responsesSince k history else (responsesSince k history).getLast?.toList

theorem lastRegistration_concat (k : ExchangeKey) (history : List Operation) (op : Operation) :
    lastRegistration k (history ++ [op]) =
      if op = .reset then none else (op.registration? k).or (lastRegistration k history) := by
  rw [lastRegistration, List.reverse_concat]
  by_cases h : op = .reset
  · simp [h]
  · rw [List.takeWhile_cons_of_pos (by simpa using h), if_neg h, List.findSome?_cons]
    cases op.registration? k <;> rfl

theorem responsesSince_concat (k : ExchangeKey) (history : List Operation) (op : Operation) :
    responsesSince k (history ++ [op]) =
      if op.renews k then [] else responsesSince k history ++ (op.response? k).toList := by
  rw [responsesSince, List.reverse_concat]
  cases h : op.renews k with
  | true => simp [h]
  | false =>
    rw [List.takeWhile_cons_of_pos (by simp [h])]
    cases hr : op.response? k <;> simp [hr, responsesSince]

/-- One more operation changes what the history says as it changes the slot. -/
theorem content_concat (k : ExchangeKey) (history : List Operation) (op : Operation) :
    content k (history ++ [op]) = after k (content k history) op := by
  unfold content
  rw [lastRegistration_concat, responsesSince_concat]
  cases op with
  | reset => simp [after, Exchange.empty, Operation.renews]
  | register b =>
    by_cases h : ofRequest b = some k
    · simp [after, h, Operation.registration?, Operation.renews, Exchange.registered]
    · simp [after, h, Operation.registration?, Operation.renews, Operation.response?]
  | registerInbound b =>
    by_cases h : ofRequest b = some k
    · simp [after, h, Operation.registration?, Operation.renews, Operation.response?,
        Exchange.registerInbound]
    · simp [after, h, Operation.registration?, Operation.renews, Operation.response?]
  | record b =>
    by_cases h : ofResponse b = some k
    · by_cases shared : k = .search
      · simp [after, h, shared, Operation.registration?, Operation.renews, Operation.response?,
          Exchange.record, ExchangeKey.isShared]
      · simp [after, h, shared, Operation.registration?, Operation.renews, Operation.response?,
          Exchange.record, ExchangeKey.isShared]
    · simp [after, h, Operation.registration?, Operation.renews, Operation.response?]

/-- By induction on the history, from its end. -/
theorem slot_run (history : List Operation) (k : ExchangeKey) :
    (empty.run history).slot k = content k history := by
  induction history using List.reverseRecOn with
  | nil => simp [run, empty, content, lastRegistration, responsesSince, Exchange.empty]
  | append_singleton history op ih =>
    have last : empty.run (history ++ [op]) = (empty.run history).apply op := by
      simp [run, List.foldl_append]
    rw [last, slot_apply, ih, content_concat]

theorem hasInboundRequest_content (k : ExchangeKey) (history : List Operation) :
    (content k history).hasInboundRequest = true ↔
      ∃ b, lastRegistration k history = some (b, true) := by
  unfold content Exchange.hasInboundRequest
  cases lastRegistration k history with
  | none => simp
  | some r => obtain ⟨b, inbound⟩ := r; cases inbound <;> simp

theorem register_eq_error {b : Body} (c : Correlator) (h : b.service.response = none) :
    c.register b = .error (.notARequest b.service) := by
  cases b with
  | searchRequest | descriptionRequest | connectRequest | connectionStateRequest
  | disconnectRequest | tunnelingRequest => cases h
  | _ => rfl

/-- After any history the slot of a key holds the last request registered since the last reset,
inbound if it came from the peer, and the responses since the last outgoing request or reset: all
for a search, and otherwise the latest one. What is done under other keys does not touch the slot,
and a body that asks for no answer is not registered. -/
theorem content_of_run (history : List Operation) (k : ExchangeKey) :
    let c := empty.run history
    (c.slot k).request = (lastRegistration k history).map (·.1) ∧
    ((c.slot k).hasInboundRequest = true ↔
      ∃ b, lastRegistration k history = some (b, true)) ∧
    ((c.slot k).responses =
      if k = .search then responsesSince k history
      else (responsesSince k history).getLast?.toList) ∧
    (∀ op : Operation, op.key? ≠ some k → op ≠ .reset → (c.apply op).slot k = c.slot k) ∧
    ∀ b : Body, b.service.response = none →
      c.register b = .error (.notARequest b.service) ∧ c.apply (.register b) = c := by
  intro c
  have held : c.slot k = content k history := slot_run history k
  refine ⟨?_, ?_, ?_, fun op other noReset => ?_, fun b h => ⟨register_eq_error c h, ?_⟩⟩
  · rw [held]; rfl
  · rw [held]; exact hasInboundRequest_content k history
  · rw [held]; rfl
  · rw [slot_apply, after_of_key_ne _ other noReset]
  · rw [apply, register_eq_error c h]

end KnxIp.Correlator
