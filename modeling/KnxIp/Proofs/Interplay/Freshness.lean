/-
  No value that is known from before is handed out as a fresh one.

  Whatever the threads do, the known values are changed by what is received and by the application,
  and every value that comes into them was received (`Session.Gathers`, `gathers_run`). Once an
  address was marked, only an update makes its entry fresh again (`leaves_of_marked`). A call that
  asks for a value marks the address first (`marked_run`), and answers with an entry only if it has
  seen that entry as a fresh one (`seen_of_answer`).

  Main statement: `fresh_since`, for a call that asks for a value, and for all that are handed a
  fresh value after a writing call has marked the address.
-/
import KnxIp.Proofs.Interplay.Moves

namespace KnxIp

open Journal StatusPool

/-! ## Pools -/

namespace StatusPool

/-- Without a fresh entry at first, a fresh entry is one that the operations leave. -/
theorem leaves_of_get? {s : StatusPool} {operations : List Operation} {d : Destination}
    {e : StatusEntry} (none : s.get? d true = none)
    (found : (s.run operations).get? d true = some e) :
    Leaves operations d e ∧ e.dirty = false := by
  rw [get?, Option.filter_eq_some_iff] at found
  obtain ⟨known, fresh⟩ := found
  have clean : e.dirty = false := by simpa using fresh
  obtain old | ⟨before, op, since, rfl, renews, old⟩ := exists_last_renewal operations d
  · rw [find?_run_of_not_renews _ old] at known
    obtain ⟨e', known', rfl⟩ := Option.map_eq_some_iff.mp known
    have clean' : e'.dirty = false := (Bool.or_eq_false_iff.mp clean).1
    have seen : s.get? d true = some e' := by simp [get?, known', clean']
    cases none.symm.trans seen
  · rw [run_split, find?_run_of_not_renews _ old] at known
    obtain rfl | ⟨⟨apci, data, source⟩, updates⟩ := renews
    · rw [apply, find?_empty] at known
      cases known
    · rw [apply_of_update? _ updates, update, find?_insert, if_pos rfl] at known
      obtain rfl := Option.some.inj known
      exact ⟨⟨before, op, since, rfl, updates, old, by simp⟩, clean⟩

theorem get?_markDirty (s : StatusPool) (d : Destination) : (s.markDirty d).get? d true = none := by
  rw [get?, find?_markDirty, if_pos rfl]
  cases s.find? d <;> simp [Option.filter]

/-- A fresh entry of an address that was marked meanwhile is one that the operations leave. -/
theorem leaves_of_marked {s : StatusPool} {operations : List Operation} {d : Destination}
    {e : StatusEntry} (marked : .markDirty d ∈ operations)
    (found : (s.run operations).get? d true = some e) :
    Leaves operations d e ∧ e.dirty = false := by
  obtain ⟨first, rest, rfl⟩ := List.append_of_mem marked
  rw [run_split] at found
  obtain ⟨⟨before, op, since, rfl, left⟩, clean⟩ := leaves_of_get? (get?_markDirty _ d) found
  exact ⟨⟨first ++ .markDirty d :: before, op, since, by simp, left⟩, clean⟩

end StatusPool

/-- The entry is what the last telegram to the address has written, and this telegram was received
between the two moments. Nothing has happened to the address since. -/
def Session.WrittenSince (s t : Session) (d : Destination) (e : StatusEntry) : Prop :=
  ∃ operations, Session.Gathers operations s t ∧ Leaves operations d e ∧ e.dirty = false

/-! ## Answers of calls -/

namespace Call

/-- The call has answered with an entry. -/
def HasSeen (c : Call) (e : StatusEntry) : Prop := c.stage = .answered (.value (some e))

/-- What the call waits for is what it was asked for. -/
def Fits (c : Call) : Prop := ∀ d, c.stage = .watching d → c.errand.awaited? = some d

variable {c : Call} {i : Nat} {s : Session} {sequence : SequenceCounter} {stage : Stage}
  {entry : Option Entry}

theorem fits_of_turns (turns : c.Turns i s sequence stage entry) (fits : c.Fits) :
    Call.Fits { c with stage } := by
  intro d waits
  change stage = .watching d at waits
  cases turns with
  | stays => exact fits d waits
  | approaches before after => rw [waits] at after; exact after.elim
  | keeps before after | carries before after => rw [waits] at after; cases after
  | sends r =>
    obtain ⟨d', ended, awaited⟩ | ⟨f, ended⟩ | ⟨answer, ended, -⟩ := c.sent_cases r
    · cases ended.symm.trans waits
      exact awaited
    · cases ended.symm.trans waits
    · cases ended.symm.trans waits
  | watches awaited => cases waits; exact awaited
  | draws | fails | sees | misses => cases waits

/-- A call answers with an entry when it waits and sees that entry as a fresh one. -/
theorem seen_of_turns (turns : c.Turns i s sequence stage entry) {e : StatusEntry}
    (seen : Call.HasSeen { c with stage } e) :
    c.HasSeen e ∨ ∃ d, c.stage = .watching d ∧ s.context.status.get? d true = some e := by
  change stage = .answered (.value (some e)) at seen
  cases turns with
  | stays => exact .inl seen
  | approaches before after => rw [seen] at after; exact after.elim
  | keeps before after | carries before after => rw [seen] at after; cases after
  | sends r =>
    obtain ⟨d, ended, -⟩ | ⟨f, ended⟩ | ⟨answer, ended, other⟩ := c.sent_cases r
    · cases ended.symm.trans seen
    · cases ended.symm.trans seen
    · exact absurd (Stage.answered.inj (ended.symm.trans seen)) (other e)
  | sees waits fresh => cases seen; exact .inr ⟨_, waits, fresh⟩
  | draws | fails | watches | misses => cases seen

end Call

namespace Interplay

variable {x : Interplay}

theorem fits_apply (fits : ∀ c ∈ x.calls, c.Fits) (m : Move) : ∀ c ∈ (x.apply m).calls, c.Fits := by
  intro c mem
  obtain ⟨j, found⟩ := List.mem_iff_getElem?.mp mem
  obtain old | ⟨errand, -, -, rfl⟩ | ⟨n, late, before, -, old, rfl⟩ := call_of_apply found
  · exact fits c (List.mem_of_getElem? old)
  · nofun
  · exact Call.fits_of_turns (before.turns_step n late j x.session)
      (fits before (List.mem_of_getElem? old))

/-- By induction on the moves. -/
theorem fits_run (fits : ∀ c ∈ x.calls, c.Fits) (moves : List Move) :
    ∀ c ∈ (x.run moves).calls, c.Fits := by
  induction moves generalizing x with
  | nil => exact fits
  | cons m moves ih => exact ih (fits_apply fits m)

/-- A call that has answered with an entry meanwhile has seen it as a fresh one, at some moment when
it was waiting. By induction on the moves, from the last one. -/
theorem seen_of_answer {j : Nat} {e : StatusEntry}
    (before : ∀ c, x.calls[j]? = some c → ¬ c.HasSeen e)
    (moves : List Move) {c : Call} (found : (x.run moves).calls[j]? = some c) (seen : c.HasSeen e) :
    ∃ earlier d, earlier <+: moves ∧
      (x.run earlier).calls[j]? = some ⟨c.errand, .watching d⟩ ∧
      (x.run earlier).session.context.status.get? d true = some e := by
  induction moves using List.reverseRecOn generalizing c with
  | nil => exact absurd seen (before c found)
  | append_singleton moves m ih =>
    have further : ∀ {c' : Call}, (x.run moves).calls[j]? = some c' → c'.HasSeen e →
        ∃ earlier d, earlier <+: moves ++ [m] ∧
          (x.run earlier).calls[j]? = some ⟨c'.errand, .watching d⟩ ∧
          (x.run earlier).session.context.status.get? d true = some e := by
      intro c' found' seen'
      obtain ⟨earlier, d, prior, waited, fresh⟩ := ih found' seen'
      exact ⟨earlier, d, prior.trans (List.prefix_append ..), waited, fresh⟩
    rw [run_concat] at found
    obtain old | ⟨errand, -, -, rfl⟩ | ⟨n, late, c', -, old, rfl⟩ := call_of_apply found
    · exact further old seen
    · cases seen
    · obtain seen' | ⟨d, waits, fresh⟩ :=
        Call.seen_of_turns (c'.turns_step n late j (x.run moves).session) seen
      · exact (further old seen' :)
      · refine ⟨moves, d, List.prefix_append .., old.trans (congrArg some ?_), fresh⟩
        rw [← waits]

/-- A call that asks for a value and has begun to do so has marked the address. By induction on the
moves, from the last one. -/
theorem marked_run (h : x.Orderly) {j : Nat} {d : Destination}
    (made : x.calls[j]? = some ⟨.readValue d, .begun⟩) (moves : List Move) :
    ∃ c, (x.run moves).calls[j]? = some c ∧ c.errand = .readValue d ∧ (c.stage ≠ .begun →
      ∃ operations, Session.Gathers operations x.session (x.run moves).session ∧
        .markDirty d ∈ operations) := by
  induction moves using List.reverseRecOn with
  | nil => exact ⟨_, made, rfl, fun begun => (begun rfl).elim⟩
  | append_singleton moves m ih =>
    obtain ⟨c, found, errand, marked⟩ := ih
    rw [run_concat]
    obtain ⟨next, here⟩ := gathers_apply (orderly_run h moves) m
    have further : c.stage ≠ .begun → ∃ operations,
        Session.Gathers operations x.session ((x.run moves).apply m).session ∧
          .markDirty d ∈ operations := by
      intro begun
      obtain ⟨operations, gathers, mem⟩ := marked begun
      exact ⟨operations ++ next, gathers.trans here, List.mem_append_left _ mem⟩
    obtain old | ⟨n, late, -, session, turned⟩ := call_apply found m
    · exact ⟨c, old, errand, further⟩
    · refine ⟨_, turned, errand, fun _ => ?_⟩
      by_cases begun : c.stage = .begun
      · obtain ⟨before, gathers⟩ := gathers_run h moves
        have marks : (c.step n late j (x.run moves).session).session =
            (x.run moves).session.markDirty d := by
          simp only [Call.step, begun, Call.begin, errand]
        rw [session, marks]
        exact ⟨before ++ [.markDirty d],
          gathers.trans ((x.run moves).session.beside_markDirty d).gathers, by simp⟩
      · exact further begun

/-- What is seen as fresh of an address that was marked before has been written since. -/
theorem writtenSince_of_marked {s t : Session} {operations : List StatusPool.Operation}
    {d : Destination} {e : StatusEntry} (gathers : Session.Gathers operations s t)
    (marked : .markDirty d ∈ operations) (fresh : t.context.status.get? d true = some e) :
    s.WrittenSince t d e := by
  rw [gathers.status] at fresh
  exact ⟨operations, gathers, leaves_of_marked marked fresh⟩

/-- Once a writing call has a telegram to send, it has marked the address. -/
theorem marks_of_composed {d : Destination} {data : Bytes} {t : Telegram} (n : Network)
    (late : Bool) (i : Nat) (s : Session)
    (composed : (Call.step n late i s ⟨.write d data, .begun⟩).stage = .composed t) :
    (Call.step n late i s ⟨.write d data, .begun⟩).session = s.markDirty d := by
  unfold Call.step Call.begin at composed ⊢
  dsimp only at composed ⊢
  split at composed
  · cases composed
  · rfl

/-- Whatever the threads do: an entry with which a call answers that asks for the value of an
address was written by a telegram to this address which was received after the call was made, and
was still what is known when the call saw it. And once a writing call has marked an address, every
entry that is known of it as a fresh one, and every entry with which a call then answers that waits
for it, was written by a telegram to this address which was received after that. -/
theorem fresh_since (settings : Settings) {context : Context}
    (fresh : context.connection.channelId = none) (before : List Move) :
    let u := (Interplay.new settings context).run before
    (∀ d moves e,
      let asked := u.apply (.call (.readValue d))
      (asked.run moves).calls[u.calls.length]? =
          some ⟨.readValue d, .answered (.value (some e))⟩ →
        ∃ earlier, earlier <+: moves ∧ u.session.WrittenSince (asked.run earlier).session d e) ∧
    ∀ i d data n late t, u.calls[i]? = some ⟨.write d data, .begun⟩ →
      let marked := u.apply (.advance i n late)
      marked.calls[i]? = some ⟨.write d data, .composed t⟩ →
        ∀ moves e,
          ((marked.run moves).session.context.status.get? d true = some e →
            marked.session.WrittenSince (marked.run moves).session d e) ∧
          ∀ (j : Nat) (errand : Errand), errand.awaited? = some d →
            (∀ c : Call, marked.calls[j]? = some c → ¬ c.HasSeen e) →
            (marked.run moves).calls[j]? = some ⟨errand, .answered (.value (some e))⟩ →
              ∃ earlier, earlier <+: moves ∧
                marked.session.WrittenSince (marked.run earlier).session d e := by
  intro u
  have orderly : u.Orderly := orderly_run (orderly_new settings fresh) before
  have fits : ∀ c ∈ u.calls, c.Fits :=
    fits_run (x := Interplay.new settings context) (by simp [Interplay.new]) before
  constructor
  · intro d moves e asked answered
    have made : asked.calls[u.calls.length]? = some ⟨.readValue d, .begun⟩ :=
      List.getElem?_concat_length
    have quiet : ∀ c, asked.calls[u.calls.length]? = some c → ¬ c.HasSeen e := by
      intro c found
      obtain rfl := Option.some.inj (made.symm.trans found)
      nofun
    obtain ⟨earlier, d', prior, waiting, seen⟩ := seen_of_answer quiet moves answered rfl
    obtain ⟨c, found, -, marks⟩ := marked_run (orderly_apply orderly _) made earlier
    obtain rfl := Option.some.inj (found.symm.trans waiting)
    have same : some d = some d' := fits_run (fits_apply fits (.call (.readValue d))) earlier _
      (List.mem_of_getElem? waiting) d' rfl
    obtain rfl := Option.some.inj same
    obtain ⟨operations, gathers, mem⟩ := marks nofun
    exact ⟨earlier, prior, writtenSince_of_marked gathers mem seen⟩
  · intro i d data n late t begun marked composed
    have marks : marked.session = u.session.markDirty d := by
      obtain old | ⟨n', late', same, session, turned⟩ := call_apply begun (.advance i n late)
      · cases (old.symm.trans composed)
      · have stage := congrArg Call.stage (Option.some.inj (turned.symm.trans composed))
        exact session.trans (marks_of_composed n' late' i u.session stage)
    have known : ∀ moves e, (marked.run moves).session.context.status.get? d true = some e →
        marked.session.WrittenSince (marked.run moves).session d e := by
      intro moves e seen
      obtain ⟨operations, gathers⟩ := gathers_run (orderly_apply orderly _) moves
      have none : marked.session.context.status.get? d true = none := by
        rw [marks]
        exact get?_markDirty ..
      rw [gathers.status] at seen
      exact ⟨operations, gathers, leaves_of_get? none seen⟩
    refine fun moves e => ⟨known moves e, fun j errand awaited quiet answered => ?_⟩
    obtain ⟨earlier, d', prior, waiting, seen⟩ := seen_of_answer quiet moves answered rfl
    have same : errand.awaited? = some d' :=
      fits_run (fits_apply fits (.advance i n late)) earlier _ (List.mem_of_getElem? waiting) d' rfl
    obtain rfl := Option.some.inj (awaited.symm.trans same)
    exact ⟨earlier, prior, known earlier e seen⟩

/-- A device answers a read request; and it sends a value after a write. -/
theorem fresh_since_response :
    let context := Context.new .nobody
    let d : Destination := .group ⟨0x0A03⟩
    let e : StatusEntry := ⟨.groupValueResponse, [1], ⟨0⟩, false⟩
    let group := Settings.routingOnly.routingEndpoint
    let response : Move := .arrive .quiet ⟨.unspecified, group.port⟩ group
      [6, 0x10, 5, 0x30, 0, 17, 0x29, 0, 0x94, 0xE0, 0, 0, 0x0A, 3, 1, 0, 0x41]
    let started :=
      (Interplay.new .routingOnly context).run [.start, .proceed .quiet, .proceed .quiet]
    let step : Move := .advance 0 .quiet false
    let asked := started.apply (.call (.readValue d))
    let writing := started.apply (.call (.write d [0]))
    let marked := writing.apply step
    (context.connection.channelId = none ∧
      (asked.run [step, step, step, response, step]).calls[0]? =
        some ⟨.readValue d, .answered (.value (some e))⟩ ∧
      ∃ earlier, earlier <+: [step, step, step, response, step] ∧
        started.session.WrittenSince (asked.run earlier).session d e) ∧
    writing.calls[0]? = some ⟨.write d [0], .begun⟩ ∧
    (∃ t, marked.calls[0]? = some ⟨.write d [0], .composed t⟩) ∧
    marked.session.WrittenSince (marked.run [step, response]).session d e := by
  intro context d e group response started step asked writing marked
  have fresh : context.connection.channelId = none := rfl
  have answered : (asked.run [step, step, step, response, step]).calls[0]? =
      some ⟨.readValue d, .answered (.value (some e))⟩ := by decide +kernel
  have begun : writing.calls[0]? = some ⟨.write d [0], .begun⟩ := by decide +kernel
  have composed : ∃ t, marked.calls[0]? = some ⟨.write d [0], .composed t⟩ :=
    ⟨(Telegram.groupWrite ⟨0x0A03⟩ [0]).toOption.get (by decide +kernel), by decide +kernel⟩
  have known : (marked.run [step, response]).session.context.status.get? d true = some e := by
    decide +kernel
  refine ⟨⟨fresh, answered, ?_⟩, begun, composed, ?_⟩
  · exact (fresh_since .routingOnly fresh [.start, .proceed .quiet, .proceed .quiet]).1 d _ e
      answered
  · obtain ⟨t, composed⟩ := composed
    have history : (Interplay.new .routingOnly context).run
        [.start, .proceed .quiet, .proceed .quiet, .call (.write d [0])] = writing := rfl
    have law := (fresh_since .routingOnly fresh
      [.start, .proceed .quiet, .proceed .quiet, .call (.write d [0])]).2
    rw [history] at law
    -- from here on it does not matter what the history has led to
    clear_value writing
    exact (law 0 d [0] .quiet false t begun composed [step, response] e).1 known

end Interplay
end KnxIp
