/-
  Writers that write what an encoding says.

  An encoding says which octets there are to write when there is so much room, or why there are
  none. A writer that goes on behind an offset writes what an encoding says (`Writing.WritesAt`) if
  it overlays just these octets and leaves all others as they were, and if it ends with the fault of
  the encoding, and with as many octets in the slice as before, where there is one. So it ends in
  one of these two ways and never uses an octet that is not there.

  What is written once there is room for it is put together from parts, each behind the other
  (`PutsAt.bind`), and a part may also be put in front of those that are there already
  (`PutsAt.bind_front`). One rule makes a writer of it that looks at the room first (`writes_fit`),
  another lets a writer go on where the one before has ended (`WritesAt.bind`). The encodings go one
  behind the other in the same way (`followedBy`).
-/
import KnxIp.Frame.Body
import KnxIp.Proofs.Result
import KnxIp.Writing

namespace KnxIp

open Body (fit)

/-- An encoding, and another one in the room that is left behind its octets. -/
def followedBy (first second : Nat → Except FramingFault Bytes) (room : Nat) :
    Except FramingFault Bytes := do
  let front ← first room
  let rest ← second (room - front.length)
  return front ++ rest

theorem fit_eq_ok_iff {bs bs' : Bytes} {room : Nat} :
    fit bs room = .ok bs' ↔ bs' = bs ∧ bs.length ≤ room := by
  unfold fit
  split
  · rename_i short
    constructor
    · intro h
      cases h
    · intro h
      omega
  · rename_i enough
    rw [Except.ok.injEq]
    constructor
    · intro h
      exact ⟨h.symm, Nat.le_of_not_lt enough⟩
    · intro h
      exact h.1.symm

theorem fit_eq_error_iff {bs : Bytes} {room : Nat} {f : FramingFault} :
    fit bs room = .error f ↔ room < bs.length ∧ f = .bufferTooSmall := by
  unfold fit
  split
  · rename_i short
    rw [Except.error.injEq]
    constructor
    · intro h
      exact ⟨short, h.symm⟩
    · intro h
      exact h.2.symm
  · rename_i enough
    constructor
    · intro h
      cases h
    · intro h
      exact absurd h.1 enough

theorem followedBy_eq_ok_iff {first second : Nat → Except FramingFault Bytes} {room : Nat}
    {bs : Bytes} : followedBy first second room = .ok bs ↔
      ∃ front rest, first room = .ok front ∧ second (room - front.length) = .ok rest ∧
        bs = front ++ rest := by
  unfold followedBy
  rw [bind_eq_ok_iff]
  constructor
  · rintro ⟨front, hf, h⟩
    obtain ⟨rest, hr, h⟩ := bind_eq_ok_iff.mp h
    exact ⟨front, rest, hf, hr, (Except.ok.inj h).symm⟩
  · rintro ⟨front, rest, hf, hr, rfl⟩
    exact ⟨front, hf, bind_eq_ok_iff.mpr ⟨rest, hr, rfl⟩⟩

theorem followedBy_eq_error_iff {first second : Nat → Except FramingFault Bytes} {room : Nat}
    {f : FramingFault} : followedBy first second room = .error f ↔
      first room = .error f ∨
        ∃ front, first room = .ok front ∧ second (room - front.length) = .error f := by
  unfold followedBy
  rw [bind_eq_error_iff]
  refine or_congr_right (exists_congr fun front => and_congr_right fun _ => ?_)
  rw [bind_eq_error_iff]
  constructor
  · rintro (h | ⟨rest, -, h⟩)
    · exact h
    · cases h
  · exact Or.inl

/-- Two strings fit one after the other exactly if they fit as one. -/
theorem followedBy_fit (a b : Bytes) : followedBy (fit a) (fit b) = fit (a ++ b) := by
  funext room
  unfold followedBy
  rcases Nat.lt_or_ge room a.length with short | enough
  · have first : fit a room = .error .bufferTooSmall := if_pos short
    have both : room < (a ++ b).length := by
      rw [List.length_append]
      omega
    rw [first, fit, if_pos both]
    rfl
  · have first : fit a room = .ok a := if_neg (Nat.not_lt.mpr enough)
    rw [first]
    show (fit b (room - a.length) >>= fun rest => .ok (a ++ rest)) = _
    have same : room - a.length < b.length ↔ room < (a ++ b).length := by
      rw [List.length_append]
      omega
    unfold fit
    by_cases short : room - a.length < b.length
    · rw [if_pos short, if_pos (same.mp short)]
      rfl
    · rw [if_neg short, if_neg (mt same.mpr short)]
      rfl

theorem overlay_append (a b slice : Bytes) :
    overlay (a ++ b) slice = a ++ overlay b (slice.drop a.length) := by
  simp [overlay, List.drop_drop]

namespace Writing

variable {α β : Type}

/-! ## Writers one after the other -/

theorem run_bind_of_ok {w : Writing α} {slice slice' : Bytes} {a : α}
    (h : w.run slice = .ok a slice') (f : α → Writing β) :
    (w >>= f).run slice = (f a).run slice' := by
  show EStateM.bind w f slice = (f a) slice'
  rw [EStateM.bind, show w slice = _ from h]

theorem run_bind_of_error {w : Writing α} {slice slice' : Bytes} {s : Stop}
    (h : w.run slice = .error s slice') (f : α → Writing β) :
    (w >>= f).run slice = .error s slice' := by
  show EStateM.bind w f slice = _
  rw [EStateM.bind, show w slice = _ from h]

theorem run_refuse_bind {condition : Prop} [Decidable condition] {fault : FramingFault}
    {f : Unit → Writing β} {slice : Bytes} :
    (refuse condition fault >>= f).run slice =
      if condition then .error (.fault (.framing fault)) slice else (f ()).run slice := by
  by_cases h : condition
  · rw [if_pos h]
    exact run_bind_of_error (by rw [refuse, if_pos h]; rfl) f
  · rw [if_neg h]
    exact run_bind_of_ok (by rw [refuse, if_neg h]; rfl) f

theorem run_require_bind {needed : Nat} {f : Unit → Writing β} {slice : Bytes} :
    (require needed >>= f).run slice =
      if slice.length < needed then .error (.fault (.framing .bufferTooSmall)) slice
      else (f ()).run slice :=
  run_refuse_bind

/-! ## Parts -/

/-- A part is handed to a writer and comes back with what it has made of it. -/
theorem run_within {front part : Bytes} (rest : Bytes) {start stop : Nat}
    (hstart : start = front.length) (hstop : stop = start + part.length) (w : Writing α) :
    (within start stop w).run (front ++ (part ++ rest)) = match w.run part with
      | .ok a part => .ok a (front ++ (part ++ rest))
      | .error s part => .error s (front ++ (part ++ rest)) := by
  subst hstart hstop
  have inside : front.length ≤ front.length + part.length ∧
      front.length + part.length ≤ (front ++ (part ++ rest)).length := by
    simp only [List.length_append]
    omega
  have taken : ((front ++ (part ++ rest)).take (front.length + part.length)).drop front.length =
      part := by
    rw [List.take_length_add_append, List.drop_left, List.take_left]
  have before : (front ++ (part ++ rest)).take front.length = front := List.take_left
  have after : (front ++ (part ++ rest)).drop (front.length + part.length) = rest := by
    rw [← List.append_assoc, ← List.length_append, List.drop_left]
  show within _ _ w (front ++ (part ++ rest)) = _
  rw [within, if_pos inside, taken, before, after]
  cases w.run part <;> simp only [List.append_assoc]

theorem run_behind {front slice : Bytes} {start : Nat} (h : start = front.length)
    (w : Writing α) :
    (behind start w).run (front ++ slice) = match w.run slice with
      | .ok a slice => .ok a (front ++ slice)
      | .error s slice => .error s (front ++ slice) := by
  have stop : (front ++ slice).length = start + slice.length := by
    rw [List.length_append, h]
  have part := run_within [] h stop w
  simp only [List.append_nil] at part
  exact part

theorem run_fill (b : UInt8) (slice : Bytes) :
    (fill b).run slice = .ok () (List.replicate slice.length b) := by
  show EStateM.Result.ok () (slice.map fun _ => b) = _
  rw [List.map_const']

/-- As many octets as there are places in the slice find one. -/
theorem run_sideBySide (octets slice : Bytes) :
    (sideBySide octets).run slice = .ok () (overlay (octets.take slice.length) slice) := by
  show EStateM.Result.ok () (sideBySide.overlaid octets slice) = _
  congr 1
  induction octets generalizing slice with
  | nil => rw [List.take_nil]; rfl
  | cons b octets ih =>
    cases slice with
    | nil => rfl
    | cons c slice => rw [sideBySide.overlaid, ih]; rfl

/-! ## Octets that are put where there is room for them -/

/-- Where there is room, the writer puts these octets behind `offset` octets, leaves all others
alone, and ends with a value. -/
def PutsAt (w : Writing α) (offset : Nat) (octets : Bytes) (a : α) : Prop :=
  ∀ front slice : Bytes, front.length = offset → octets.length ≤ slice.length →
    w.run (front ++ slice) = .ok a (front ++ overlay octets slice)

theorem putsAt_pure (offset : Nat) (a : α) : PutsAt (pure a) offset [] a :=
  fun _ _ _ _ => rfl

theorem putsAt_put {place offset : Nat} (h : place = offset) (b : UInt8) :
    PutsAt (put place b) offset [b] () := by
  intro front slice start room
  subst h start
  obtain ⟨c, slice, rfl⟩ := List.exists_cons_of_length_pos room
  have inside : front.length < (front ++ c :: slice).length := by
    rw [List.length_append, List.length_cons]
    omega
  show put _ b (front ++ c :: slice) = _
  rw [put, if_pos inside, List.set_append_right _ _ (Nat.le_refl _), Nat.sub_self]
  rfl

/-- A part that a writer covers. -/
theorem putsAt_within {start stop offset : Nat} {w : Writing Unit} {octets : Bytes}
    (hstart : start = offset) (hstop : stop = offset + octets.length)
    (h : ∀ part : Bytes, part.length = octets.length → w.run part = .ok () octets) :
    PutsAt (within start stop w) offset octets () := by
  intro front slice start' room
  subst hstart start'
  have size : (slice.take octets.length).length = octets.length := List.length_take_of_le room
  have part := run_within (slice.drop octets.length) rfl
    (show stop = front.length + (slice.take octets.length).length by rw [hstop, size]) w
  rw [List.take_append_drop, h _ size] at part
  exact part

theorem putsAt_copy {start stop offset : Nat} {octets : Bytes} (hstart : start = offset)
    (hstop : stop = offset + octets.length) : PutsAt (copy start stop octets) offset octets () :=
  putsAt_within hstart hstop fun _ size => if_pos size

/-- Octets, and others behind them. -/
theorem PutsAt.bind {w : Writing α} {f : α → Writing β} {offset : Nat} {x : α} {y : β}
    {a b : Bytes} (hw : PutsAt w offset a x) (hf : PutsAt (f x) (offset + a.length) b y) :
    PutsAt (w >>= f) offset (a ++ b) y := by
  intro front slice start room
  rw [List.length_append] at room
  have further : (front ++ a).length = offset + a.length := by
    rw [List.length_append, start]
  have rest := hf (front ++ a) (slice.drop a.length) further (by rw [List.length_drop]; omega)
  rw [run_bind_of_ok (hw front slice start (by omega)), overlay, ← List.append_assoc, rest,
    overlay_append, List.append_assoc]

/-- Octets, and then the one in front of them. -/
theorem PutsAt.bind_front {w : Writing Unit} {place offset : Nat} {octets : Bytes}
    (hw : PutsAt w (offset + 1) octets ()) (h : place = offset) (b : UInt8) (a : α) :
    PutsAt (w >>= fun _ => put place b >>= fun _ => pure a) offset (b :: octets) a := by
  intro front slice start room
  obtain ⟨c, slice, rfl⟩ :=
    List.exists_cons_of_length_pos (Nat.lt_of_lt_of_le octets.length.succ_pos room)
  have written : w.run (front ++ c :: slice) = .ok () (front ++ c :: overlay octets slice) := by
    have behind := hw (front ++ [c]) slice (by rw [List.length_append, start]; rfl)
      (Nat.le_of_succ_le_succ room)
    rwa [List.append_assoc, List.append_assoc] at behind
  have last := putsAt_put h b front (c :: overlay octets slice) start (Nat.le_add_left 1 _)
  rw [run_bind_of_ok written]
  exact run_bind_of_ok last _

/-! ## What an encoding says -/

/-- Behind `offset` octets, which it leaves alone, the writer writes what the encoding says. -/
structure WritesAt (w : Writing Nat) (offset : Nat)
    (encode : Nat → Except FramingFault Bytes) : Prop where
  ok : ∀ (front : Bytes) {slice bytes : Bytes}, front.length = offset →
    encode slice.length = .ok bytes → bytes.length ≤ slice.length ∧
      w.run (front ++ slice) = .ok (offset + bytes.length) (front ++ overlay bytes slice)
  error : ∀ (front : Bytes) {slice : Bytes} {f : FramingFault}, front.length = offset →
    encode slice.length = .error f → ∃ left : Bytes, left.length = slice.length ∧
      w.run (front ++ slice) = .error (.fault (.framing f)) (front ++ left)

/-- The writer writes what the encoding says. -/
abbrev Writes (w : Writing Nat) (encode : Nat → Except FramingFault Bytes) : Prop :=
  WritesAt w 0 encode

theorem Writes.run_of_ok {w : Writing Nat} {encode : Nat → Except FramingFault Bytes}
    (h : Writes w encode) {slice bytes : Bytes} (found : encode slice.length = .ok bytes) :
    bytes.length ≤ slice.length ∧ w.run slice = .ok bytes.length (overlay bytes slice) := by
  obtain ⟨room, written⟩ := h.ok [] rfl found
  rw [List.nil_append, List.nil_append, Nat.zero_add] at written
  exact ⟨room, written⟩

theorem Writes.run_of_error {w : Writing Nat} {encode : Nat → Except FramingFault Bytes}
    (h : Writes w encode) {slice : Bytes} {f : FramingFault}
    (found : encode slice.length = .error f) : ∃ left : Bytes, left.length = slice.length ∧
      w.run slice = .error (.fault (.framing f)) left := by
  obtain ⟨left, size, stopped⟩ := h.error [] rfl found
  rw [List.nil_append, List.nil_append] at stopped
  exact ⟨left, size, stopped⟩

/-- A writer that writes what an encoding says ends as the encoding does, and the rest of the
buffer is as it was. -/
theorem writes_iff_run {w : Writing Nat} {encode : Nat → Except FramingFault Bytes} :
    Writes w encode ↔ ∀ slice : Bytes,
      (∃ bytes, encode slice.length = .ok bytes ∧ bytes.length ≤ slice.length ∧
        w.run slice = .ok bytes.length (overlay bytes slice)) ∨
      ∃ f left, encode slice.length = .error f ∧ left.length = slice.length ∧
        w.run slice = .error (.fault (.framing f)) left := by
  constructor
  · intro h slice
    cases found : encode slice.length with
    | ok bytes => exact .inl ⟨bytes, rfl, h.run_of_ok found⟩
    | error f =>
      obtain ⟨left, stopped⟩ := h.run_of_error found
      exact .inr ⟨f, left, rfl, stopped⟩
  · intro h
    constructor
    · intro front slice bytes start found
      obtain rfl := List.eq_nil_of_length_eq_zero start
      obtain ⟨bytes', found', written⟩ | ⟨f, left, refused, -⟩ := h slice
      · obtain rfl : bytes = bytes' := Except.ok.inj (found.symm.trans found')
        rw [List.nil_append, List.nil_append, Nat.zero_add]
        exact written
      · rw [found] at refused
        cases refused
    · intro front slice f start found
      obtain rfl := List.eq_nil_of_length_eq_zero start
      obtain ⟨bytes, accepted, -⟩ | ⟨f', left, found', stopped⟩ := h slice
      · rw [found] at accepted
        cases accepted
      · obtain rfl : f = f' := Except.error.inj (found.symm.trans found')
        exact ⟨left, stopped⟩

/-- Octets that are written once there is room for them. -/
theorem writes_fit {octets : Bytes} {needed : Nat} {f : Unit → Writing Nat}
    (size : octets.length = needed) (h : PutsAt (f ()) 0 octets needed) :
    Writes (require needed >>= f) (fit octets) := by
  subst size
  rw [writes_iff_run]
  intro slice
  rw [run_require_bind]
  rcases Nat.lt_or_ge slice.length octets.length with short | enough
  · rw [if_pos short]
    exact .inr ⟨_, slice, fit_eq_error_iff.mpr ⟨short, rfl⟩, rfl, rfl⟩
  · rw [if_neg (Nat.not_lt.mpr enough)]
    exact .inl ⟨octets, fit_eq_ok_iff.mpr ⟨rfl, enough⟩, enough, h [] slice rfl enough⟩

theorem WritesAt.putsAt {w : Writing Nat} {offset : Nat} {octets : Bytes}
    (h : WritesAt w offset (fit octets)) : PutsAt w offset octets (offset + octets.length) :=
  fun front _ start room => (h.ok front start (fit_eq_ok_iff.mpr ⟨rfl, room⟩)).2

/-- A writer that ends with a fault whatever room there is, or goes on. -/
theorem writes_refuse {condition : Prop} [Decidable condition] {fault : FramingFault}
    {f : Unit → Writing Nat} {encode : Nat → Except FramingFault Bytes} (h : Writes (f ()) encode) :
    Writes (refuse condition fault >>= f) fun room =>
      if condition then .error fault else encode room := by
  rw [writes_iff_run]
  intro slice
  rw [run_refuse_bind]
  by_cases refused : condition
  · rw [if_pos refused, if_pos refused]
    exact .inr ⟨fault, slice, rfl, rfl, rfl⟩
  · rw [if_neg refused, if_neg refused]
    exact writes_iff_run.mp h slice

/-- A writer that has nothing more to write. -/
theorem writesAt_pure (offset : Nat) : WritesAt (pure offset) offset fun _ => .ok [] where
  ok := by
    intro front slice bytes _ found
    obtain rfl := Except.ok.inj found
    exact ⟨Nat.zero_le _, rfl⟩
  error := by
    intro front slice fault _ found
    cases found

/-- A writer that goes on behind an offset. -/
theorem Writes.append {w : Writing Nat} {encode : Nat → Except FramingFault Bytes}
    (h : Writes w encode) (offset : Nat) : WritesAt (append offset w) offset encode where
  ok := by
    intro front slice bytes start found
    obtain ⟨room, written⟩ := h.run_of_ok found
    refine ⟨room, run_bind_of_ok ?_ _⟩
    rw [run_behind start.symm, written]
  error := by
    intro front slice fault start found
    obtain ⟨left, size, stopped⟩ := h.run_of_error found
    refine ⟨left, size, run_bind_of_error ?_ _⟩
    rw [run_behind start.symm, stopped]

/-- A writer, and another one that goes on where it has ended. -/
theorem WritesAt.bind {w : Writing Nat} {offset : Nat} {f : Nat → Writing Nat}
    {first second : Nat → Except FramingFault Bytes} (hw : WritesAt w offset first)
    (hf : ∀ offset, WritesAt (f offset) offset second) :
    WritesAt (w >>= f) offset (followedBy first second) where
  ok := by
    intro front slice bytes start found
    obtain ⟨a, b, ha, hb, rfl⟩ := followedBy_eq_ok_iff.mp found
    obtain ⟨room, written⟩ := hw.ok front start ha
    rw [← List.length_drop] at hb
    have further : (front ++ a).length = offset + a.length := by
      rw [List.length_append, start]
    obtain ⟨room', written'⟩ := (hf _).ok _ further hb
    refine ⟨?_, ?_⟩
    · rw [List.length_drop] at room'
      rw [List.length_append]
      omega
    · rw [run_bind_of_ok written, overlay, ← List.append_assoc, written', overlay_append,
        List.length_append, List.append_assoc, Nat.add_assoc]
  error := by
    intro front slice fault start found
    obtain ha | ⟨a, ha, hb⟩ := followedBy_eq_error_iff.mp found
    · obtain ⟨left, size, stopped⟩ := hw.error front start ha
      exact ⟨left, size, run_bind_of_error stopped f⟩
    · obtain ⟨room, written⟩ := hw.ok front start ha
      rw [← List.length_drop] at hb
      have further : (front ++ a).length = offset + a.length := by
        rw [List.length_append, start]
      obtain ⟨left, size, stopped⟩ := (hf _).error _ further hb
      refine ⟨a ++ left, ?_, ?_⟩
      · rw [List.length_drop] at size
        rw [List.length_append]
        omega
      · rw [run_bind_of_ok written, overlay, ← List.append_assoc, stopped, List.append_assoc]

/-! ## How a writer ends -/

/-- It writes what is put into the buffer when its encoding is. -/
theorem Writes.run_eq_ok_iff {w : Writing Nat} {encode : Nat → Except FramingFault Bytes}
    (h : Writes w encode) {buffer after : Bytes} {n : Nat} :
    w.run buffer = .ok n after ↔ intoBuffer encode buffer = .ok (n, after) := by
  unfold intoBuffer
  obtain ⟨bytes, found, -, written⟩ | ⟨f, left, found, -, stopped⟩ := writes_iff_run.mp h buffer
  · rw [written, found]
    constructor
    · rintro ⟨⟩
      rfl
    · rintro ⟨⟩
      rfl
  · rw [stopped, found]
    constructor <;> intro impossible <;> cases impossible

/-- Given this buffer, a writer writes the announced number of octets if and only if the condition
holds. The octets behind them stay as they were. Otherwise it ends with a fault, and never because a
place is not there. -/
structure Announces (w : Writing Nat) (length : Nat) (condition : Prop) (buffer : Bytes) :
    Prop where
  written_iff : (∃ n after, w.run buffer = .ok n after) ↔ condition
  written : ∀ n after, w.run buffer = .ok n after →
    n = length ∧ after.length = buffer.length ∧ after.drop n = buffer.drop n
  refused : ∀ s left, w.run buffer = .error s left →
    (∃ f, s = .fault (.framing f)) ∧ left.length = buffer.length

theorem Writes.announces {w : Writing Nat} {encode : Nat → Except FramingFault Bytes}
    (h : Writes w encode) {buffer bytes : Bytes} {condition : Prop}
    (exactly : ∀ bs, encode buffer.length = .ok bs ↔ bs = bytes ∧ condition) :
    Announces w bytes.length condition buffer := by
  obtain ⟨bs, found, room, written⟩ | ⟨f, left, found, size, stopped⟩ := writes_iff_run.mp h buffer
  · obtain ⟨rfl, holds⟩ := (exactly bs).mp found
    refine ⟨iff_of_true ⟨_, _, written⟩ holds, ?_, ?_⟩
    · intro n after again
      rw [written] at again
      cases again
      exact ⟨rfl, length_overlay room, List.drop_left⟩
    · intro s left stopped
      rw [written] at stopped
      cases stopped
  · have fails : ¬ condition := by
      intro holds
      have found' := (exactly bytes).mpr ⟨rfl, holds⟩
      rw [found] at found'
      cases found'
    refine ⟨iff_of_false ?_ fails, ?_, ?_⟩
    · rintro ⟨n, after, written⟩
      rw [stopped] at written
      cases written
    · intro n after written
      rw [stopped] at written
      cases written
    · intro s left' again
      rw [stopped] at again
      cases again
      exact ⟨⟨f, rfl⟩, size⟩

end Writing
end KnxIp
