import PlcLink.Calendar.Decimal
import PlcLink.Variable.DataItem

/-!
# Pending alarms

An alarm list is a sequence of objects, each behind a byte with its length. An
object is a head of eleven bytes, the transition that raised the alarm and, if
bytes are left, one that ended it. A transition is a timestamp, a count and
that many data items.
-/

namespace PlcLink

/-- When an alarm changed, and the values that came with the change. -/
structure Transition where
  moment? : Option DateTime
  values : List DataItem
  deriving DecidableEq

namespace Transition

/-- Number of bytes in front of the values. -/
def headLength : Nat := 9

/-- Read a transition and hand out what follows it. -/
def parse (input : Bytes) : Except Error (Transition × Bytes) :=
  match input.drop 8 with
  | [] => .error (.insufficientData headLength input.length)
  | count :: rest => do
      let (values, rest) <- DataItem.parseMany count.toNat rest
      return ({ moment? := DecimalTime.decode? input, values }, rest)

end Transition

/-- A pending alarm. -/
structure Alarm where
  type : UInt8
  eventId : UInt32
  state : UInt8
  ackGoing : UInt8
  ackComing : UInt8
  coming : Transition
  going? : Option Transition
  deriving DecidableEq

namespace Alarm

/-- Read the transition that ended an alarm, which ends the object, or nothing
at its end. -/
def parseGoing (input : Bytes) : Except Error (Option Transition) :=
  if input = [] then
    .ok none
  else do
    let (going, rest) <- Transition.parse input
    if rest = [] then
      return some going
    else
      .error (.protocolViolation .trailingAlarm)

/-- Read one whole alarm object. -/
def parseObject : Bytes -> Except Error Alarm
  | _ :: _ :: type :: first :: second :: third :: fourth :: _ :: state ::
      ackGoing :: ackComing :: rest => do
      let (coming, rest) <- Transition.parse rest
      let going? <- parseGoing rest
      return {
        type
        eventId := Word.ofBytes32 first second third fourth
        state
        ackGoing
        ackComing
        coming
        going? }
  | _ => .error (.decode .alarmObject)

/-- Read a list of alarms to its end. -/
def parseAll : Bytes -> Except Error (List Alarm)
  | [] => .ok []
  | length :: rest =>
      if rest.length < length.toNat then
        .error (.insufficientData (1 + length.toNat) (1 + rest.length))
      else do
        let alarm <- parseObject (rest.take length.toNat)
        let alarms <- parseAll (rest.drop length.toNat)
        return alarm :: alarms
termination_by bytes => bytes.length
decreasing_by
  simp only [List.length_drop, List.length_cons]
  omega

end Alarm
end PlcLink
