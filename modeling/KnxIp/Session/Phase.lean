/-
  The phases in the life of a session.
-/

namespace KnxIp

/-- Where a session is in its life. -/
inductive SessionPhase
  | notStarted
  | startRequested
  | started
  | stopRequested
deriving DecidableEq, Repr

/-- The name of a phase. -/
def SessionPhase.name : SessionPhase → String
  | notStarted => "NotStarted"
  | startRequested => "StartRequested"
  | started => "Started"
  | stopRequested => "StopRequested"

end KnxIp
