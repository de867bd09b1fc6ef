/-
  Vigils: the keep-alive of a session beside everybody else, turn by turn.

  A watch runs in a thread of its own. It looks whether it was stopped when it wakes from a rest and
  when a check has ended, and in between it goes on undisturbed. So what it does from one look to
  the next is one turn, and a stop counts at the next look. Between two turns anybody may stop the
  watch, and the world may become another one.

  The record is what an onlooker would write down of the watch. Nothing reads it.
-/
import KnxIp.Session.Basic

namespace KnxIp

/-- An entry of the record of a watch. -/
inductive Mark
  /-- It has woken from a rest, and this was the channel. -/
  | woke (channel : Option UInt8)
  /-- It has asked about a channel. -/
  | asked (channel : UInt8)
  /-- A check has ended. -/
  | ended (alive : Bool)
  /-- It has given the connection up. -/
  | gaveUp
  /-- It was stopped. -/
  | stopped
deriving DecidableEq, Repr

/-- A keep-alive in its world. -/
structure Vigil extends Monitor where
  world : World
  /-- The outcome of the check that was begun last. -/
  outcome : Except Failure Bool
  /-- What was written down, oldest first. -/
  record : List Mark

namespace Vigil

/-- A watch before its first rest. -/
def begin (socket : Socket) (endpoint : Endpoint) (maxFailures : Nat) (world : World) : Vigil where
  socket
  endpoint
  watch := .new maxFailures
  world
  outcome := .ok false
  record := []

/-- What happens to a vigil next. -/
inductive Turn
  /-- The watch wakes: it has rested for an interval, or it was stopped meanwhile. A check that is
  due runs on a network that may be another one each time. -/
  | wake (n : Network)
  /-- The check that is under way has ended. -/
  | conclude
  /-- Somebody stops the watch. -/
  | stop
  /-- Others have made the world another one. -/
  | meanwhile (world : World)

/-- The watch wakes, if it rests. It asks about the channel, unless it finds that it was stopped or
that there is none. -/
def wake (n : Network) (v : Vigil) : Vigil :=
  match v.watch.phase with
  | .resting =>
    let channel := v.world.context.connection.channelId
    let woken : Vigil :=
      { v with watch := v.watch.due channel, record := v.record ++ [.woke channel] }
    match woken.watch.phase with
    | .checking c =>
      let (outcome, world) := v.world.check n v.socket c v.endpoint
      { woken with outcome, world, record := woken.record ++ [.asked c] }
    | _ => woken
  | _ => v

/-- The check that was begun last has found the channel alive. One that could not be sent has
not. -/
def foundAlive (v : Vigil) : Bool := v.outcome matches .ok true

theorem foundAlive_iff {v : Vigil} : v.foundAlive = true ↔ v.outcome = .ok true := by
  unfold foundAlive
  split <;> simp_all

/-- The check ends, if one is under way, and the connection may have to be given up. -/
def conclude (v : Vigil) : Vigil :=
  match v.watch.phase with
  | .checking _ =>
    let alive := v.foundAlive
    let judged : Vigil :=
      { v with watch := v.watch.judge alive, record := v.record ++ [.ended alive] }
    if judged.watch.phase = .over true then
      { judged with world := v.world.giveUp, record := judged.record ++ [.gaveUp] }
    else judged
  | _ => v

/-- The vigil after a turn. -/
def apply (v : Vigil) : Turn → Vigil
  | .wake n => v.wake n
  | .conclude => v.conclude
  | .stop => { v with watch := v.watch.stop, record := v.record ++ [.stopped] }
  | .meanwhile world => { v with world }

/-- The vigil after several turns. -/
def run (v : Vigil) (turns : List Turn) : Vigil := turns.foldl apply v

theorem run_append (v : Vigil) (turns more : List Turn) :
    v.run (turns ++ more) = (v.run turns).run more := by
  simp [run]

end Vigil
end KnxIp
