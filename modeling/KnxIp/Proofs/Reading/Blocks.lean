/-
  Reading headers, endpoints and the small blocks of connections yields what the `parse` of each
  block says.
-/
import KnxIp.Proofs.Frame.Body
import KnxIp.Proofs.Reading.Yields
import KnxIp.Reading.Blocks

namespace KnxIp

open Reading

namespace Body

theorem framed_ok {α : Type} (a : α) : framed (.ok a) = .ok a := rfl

theorem framed_error {α : Type} (f : FramingFault) :
    framed (.error f : Except FramingFault α) = .error (.framing f) := rfl

theorem framed_bind {α β : Type} (r : Except FramingFault α) (g : α → Except FramingFault β) :
    framed (r >>= g) = framed r >>= fun a => framed (g a) := by
  cases r <;> rfl

theorem framed_map {α β : Type} (r : Except FramingFault α) (g : α → β) :
    framed (r.map g) = (framed r).map g := by
  cases r <;> rfl

end Body

theorem Reading.Yields.framed_map {α β : Type} {r : Reading α} {e : Except FramingFault α}
    (h : r.Yields (Body.framed e)) (g : α → β) :
    (r >>= fun a => pure (g a)).Yields (Body.framed (e.map g)) := by
  rw [Body.framed_map]
  exact h.map g

open Body (framed framed_ok framed_error)

theorem Header.yields_read (bs : Bytes) : (read bs).Yields (framed (parse bs)) := by
  refine Yields.require (fun short => ?_) fun front rest enough shape => ?_
  · rw [parse_of_short short, framed_error]
  · match front, enough with
    | [length, version, s1, s0, t1, t0], _ =>
      subst shape
      simp only [parse, List.cons_append, List.nil_append, yields_octet_bind, yields_refuse_bind,
        yields_orFail_bind, yields_pure, List.getElem?_cons_zero, List.getElem?_cons_succ,
        Option.some.injEq]
      grind [framed_error, framed_ok]

theorem Endpoint.yields_read (bs : Bytes) : (read bs).Yields (framed (parse bs)) := by
  refine Yields.require (fun short => ?_) fun front rest enough shape => ?_
  · rw [parse_of_short short, framed_error]
  · match front, enough with
    | [length, protocol, a, b, c, d, p1, p0], _ =>
      subst shape
      simp only [parse, List.cons_append, List.nil_append, yields_octet_bind, yields_refuse_bind,
        yields_pure, List.getElem?_cons_zero, List.getElem?_cons_succ, Option.some.injEq]
      grind [framed_error, framed_ok]

theorem ConnectionKind.yields_read (bs : Bytes) : (read bs).Yields (framed (parse bs)) := by
  refine Yields.require (fun short => ?_) fun front rest enough shape => ?_
  · rw [parse_of_short short, framed_error]
  · match front, enough with
    | [length, connectionType, layer, reserved], _ =>
      subst shape
      simp only [parse, List.cons_append, List.nil_append, yields_octet_bind, yields_refuse_bind,
        yields_pure, List.getElem?_cons_zero, List.getElem?_cons_succ, Option.some.injEq]
      grind [framed_error, framed_ok]

theorem AssignedAddress.yields_read (bs : Bytes) : (read bs).Yields (framed (parse bs)) := by
  refine Yields.require (fun short => ?_) fun front rest enough shape => ?_
  · rw [parse_of_short short, framed_error]
  · match front, enough with
    | [length, connectionType, a1, a0], _ =>
      subst shape
      simp only [parse, List.cons_append, List.nil_append, yields_octet_bind, yields_refuse_bind,
        yields_pure, List.getElem?_cons_zero, List.getElem?_cons_succ, Option.some.injEq]
      grind [framed_error, framed_ok]

theorem TunnelHeader.yields_read (bs : Bytes) : (read bs).Yields (framed (parse bs)) := by
  refine Yields.require (fun short => ?_) fun front rest enough shape => ?_
  · rw [parse_of_short short, framed_error]
  · match front, enough with
    | [length, channel, sequence, status], _ =>
      subst shape
      simp only [parse, List.cons_append, List.nil_append, yields_octet_bind, yields_refuse_bind,
        yields_pure, List.getElem?_cons_zero, List.getElem?_cons_succ, Option.some.injEq]
      grind [framed_error, framed_ok]

end KnxIp
