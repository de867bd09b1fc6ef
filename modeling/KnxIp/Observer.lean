/-
  Observers: those who are told what happens to a client.

  Events are put into a queue, and a pool of workers hands them to the observers: a worker takes
  the event at the head of the queue and hands it to one observer after the other, in the order
  of their registration. An observer that fails on an event does not keep it from the others.
  After `shutdown` no event is accepted any more, but what is in the queue is still handed over.

  `Observers.step` is one step of one worker; any order in which the workers take their steps is
  possible.
-/
import KnxIp.Failure

namespace KnxIp

/-- What observers are told. -/
inductive Event
  /-- The client was made. -/
  | init
  /-- The connection is up. -/
  | start
  /-- The connection was closed. -/
  | shutdown
  /-- A frame came in. -/
  | incoming (frame : Frame)
  /-- A frame went out. -/
  | outgoing (frame : Frame)
  /-- Something went wrong in the background. -/
  | error (failure : Failure)
deriving DecidableEq

/-- The event in one line. -/
def Event.text : Event → String
  | init => "init"
  | start => "start"
  | shutdown => "shutdown"
  | incoming f => "in " ++ f.body.service.name
  | outgoing f => "out " ++ f.body.service.name
  | error f => "error " ++ f.message

/-- The event is about a frame that came in or went out. -/
def Event.isTraffic : Event → Bool
  | incoming _ | outgoing _ => true
  | _ => false

/-- An observer: its name, and the events on which it fails. -/
structure Observer where
  name : String
  failsOn : Event → Bool

namespace Observer

/-- The name of an observer that has none of its own. -/
def defaultName : String := "plugin"

/-- An observer that never fails. -/
def steady : Observer := ⟨defaultName, fun _ => false⟩

end Observer

/-- What a worker is doing. -/
inductive Worker
  /-- It waits for an event. -/
  | idle
  /-- It hands an event to the observers from this place on. -/
  | handing (event : Event) (place : Nat)
  /-- It has ended. -/
  | ended
deriving DecidableEq

/-- The observers, the queue of events, and the workers between them. -/
structure Observers where
  observers : List Observer
  /-- New events are accepted. -/
  accepting : Bool
  /-- The events that no worker has taken yet. -/
  queue : List Event
  workers : List Worker
  /-- Which observer, by its place, was handed which event, in the order of handing. -/
  handed : List (Nat × Event)
  /-- Which of these the observer failed on. -/
  failed : List (Nat × Event)

namespace Observers

/-- A pool of `size` workers, at least one, for these observers. Without observers there are no
workers either. -/
def pool (observers : List Observer) (size : Nat) : Observers where
  observers
  accepting := !observers.isEmpty
  queue := []
  workers := if observers.isEmpty then [] else List.replicate (max size 1) .idle
  handed := []
  failed := []

/-- No observer. -/
def nobody : Observers := pool [] 0

/-- Queues an event for the observers. -/
def notify (o : Observers) (e : Event) : Observers :=
  if o.accepting then { o with queue := o.queue ++ [e] } else o

/-- Accepts no more events. -/
def shutdown (o : Observers) : Observers := { o with accepting := false }

/-- What one worker does next. An idle one takes the next event, or ends when there will be none;
a busy one hands its event to the next observer, or is idle again after the last. -/
def step (o : Observers) (i : Nat) : Observers :=
  match o.workers[i]? with
  | none | some .ended => o
  | some .idle =>
    match o.queue with
    | e :: queue => { o with queue, workers := o.workers.set i (.handing e 0) }
    | [] => if o.accepting then o else { o with workers := o.workers.set i .ended }
  | some (.handing e place) =>
    match o.observers[place]? with
    | none => { o with workers := o.workers.set i .idle }
    | some observer =>
      { o with
        workers := o.workers.set i (.handing e (place + 1))
        handed := o.handed ++ [(place, e)]
        failed := if observer.failsOn e then o.failed ++ [(place, e)] else o.failed }

/-- So many steps of one worker. -/
def steps (i : Nat) : Nat → Observers → Observers
  | 0, o => o
  | n + 1, o => steps i n (o.step i)

/-- Lets the first worker hand over all that is in the queue. -/
def drain (o : Observers) : Observers :=
  steps 0 ((o.queue.length + 1) * (o.observers.length + 2)) o

end Observers
end KnxIp
