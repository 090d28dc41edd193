import ObjectStore.Timestamp
import ObjectStore.Width

/-!
A clock that moves only when it is told to. A move that the calendar cannot follow leaves it as it was.
-/

namespace ObjectStore

inductive ClockFault where
  | durationOverflow
  | timeOverflow
deriving DecidableEq, Repr

def ClockFault.message : ClockFault → String
  | .durationOverflow => "overflow constructing `time::Duration`"
  | .timeOverflow => "resulting value is out of range"

def durationOfParts (seconds nanos : Int) : Except ClockFault Int :=
  let whole := seconds + Int.tdiv nanos nanosPerSecond
  if Width.fitsSigned 64 whole then .ok (seconds * nanosPerSecond + nanos)
  else .error .durationOverflow

structure Clock where
  now : Timestamp
deriving DecidableEq, Repr

namespace Clock

def setTime (_clock : Clock) (time : Timestamp) : Clock :=
  ⟨time⟩

def advance (clock : Clock) (nanos : Int) : Except ClockFault Clock :=
  match clock.now.add? nanos with
  | some time => .ok ⟨time⟩
  | none => .error .timeOverflow

end Clock

end ObjectStore
