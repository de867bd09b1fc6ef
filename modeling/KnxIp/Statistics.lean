/-
  Counters of traffic: frames and octets in each direction, frames of each service type in both
  directions together, and errors. Every counter has 64 bits.
-/
import KnxIp.Service

namespace KnxIp

/-- The counters. -/
structure Statistics where
  framesIn : UInt64
  framesOut : UInt64
  bytesIn : UInt64
  bytesOut : UInt64
  /-- Frames of a service type, sent or received. -/
  frames : Service → UInt64
  errors : UInt64

namespace Statistics

/-- Nothing has happened. -/
def zero : Statistics := ⟨0, 0, 0, 0, fun _ => 0, 0⟩

/-- One more frame of a service type. -/
def countFrame (s : Statistics) (service : Service) : Service → UInt64 :=
  fun t => if t = service then s.frames t + 1 else s.frames t

/-- A frame came in. -/
def received (s : Statistics) (service : Service) (size : Nat) : Statistics :=
  { s with
    framesIn := s.framesIn + 1
    bytesIn := s.bytesIn + size.toUInt64
    frames := s.countFrame service }

/-- A frame went out. -/
def sent (s : Statistics) (service : Service) (size : Nat) : Statistics :=
  { s with
    framesOut := s.framesOut + 1
    bytesOut := s.bytesOut + size.toUInt64
    frames := s.countFrame service }

/-- Something went wrong. -/
def failed (s : Statistics) : Statistics := { s with errors := s.errors + 1 }

/-- The counter of one service type is zero again. -/
def clearFrames (s : Statistics) (service : Service) : Statistics :=
  { s with frames := fun t => if t = service then 0 else s.frames t }

/-- All counters are zero again: those of all frames together, then those of each service type. -/
def reset (s : Statistics) : Statistics :=
  Service.all.foldl clearFrames
    { s with framesIn := 0, framesOut := 0, bytesIn := 0, bytesOut := 0, errors := 0 }

/-- Nothing has been counted, or everything was wrapped back to zero. -/
def isZero (s : Statistics) : Bool :=
  s.framesIn = 0 && s.framesOut = 0 && s.bytesIn = 0 && s.bytesOut = 0 && s.errors = 0 &&
    Service.all.all fun t => s.frames t = 0

end Statistics
end KnxIp
