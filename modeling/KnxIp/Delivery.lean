/-
  The observers over time: those who tell them of events, the workers that hand the events on,
  observers that begin or cease to fail, and the shutdown, in any order.
-/
import KnxIp.Observer

namespace KnxIp.Observers

/-- What can happen to a pool of observers next. -/
inductive Deed
  /-- They are told of an event. -/
  | notify (event : Event)
  /-- The worker at this place takes its next step. -/
  | work (worker : Nat)
  /-- From now on the observer at this place fails on these events. -/
  | temper (place : Nat) (failsOn : Event → Bool)
  /-- No event is accepted any more. -/
  | shutdown

/-- The pool after a deed. -/
def Deed.apply (o : Observers) : Deed → Observers
  | notify e => o.notify e
  | work i => o.step i
  | temper place failsOn =>
    { o with observers := o.observers.modify place fun observer => { observer with failsOn } }
  | shutdown => o.shutdown

/-- The pool after deeds, one after the other. -/
def run (o : Observers) (deeds : List Deed) : Observers := deeds.foldl Deed.apply o

/-- The events of which observers are told before the first shutdown, in order. -/
def notified : List Deed → List Event
  | [] => []
  | .notify e :: deeds => e :: notified deeds
  | .shutdown :: _ => []
  | .work _ :: deeds | .temper _ _ :: deeds => notified deeds

/-- The events that the observer at this place was handed, in order. -/
def handedTo (o : Observers) (place : Nat) : List Event :=
  (o.handed.filter (·.1 == place)).map (·.2)

/-- All observers, by their places, are handed an event, in the order of their registration. -/
def fan (size : Nat) (event : Event) : List (Nat × Event) := (List.range size).map (·, event)

end KnxIp.Observers
