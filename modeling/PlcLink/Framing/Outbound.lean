import PlcLink.Transport.Frame

/-!
# The sending side of a stream

Frames that are to be sent are written one behind the other to a buffer that
grows.
-/

namespace PlcLink

/-- What was written and not yet sent. -/
structure Outbound where
  buffer : Bytes
  deriving DecidableEq, Repr

namespace Outbound

/-- Write a frame. Whatever was appended before an error stays in the
buffer. -/
def push (outbound : Outbound) (frame : Frame) : Except Error Unit × Outbound :=
  (frame.emit.result.map fun _ => (),
    { buffer := frame.emit.appendTo outbound.buffer })

/-- The encoder of the frame runs on a destination that grows. -/
theorem runOn?_emit (outbound : Outbound) (frame : Frame) :
    frame.emit.runOn? (.growing outbound.buffer)
      = some
        ((outbound.push frame).1,
          .growing (outbound.push frame).2.buffer) := rfl

/-- Write one frame after the other, whether or not each can be written. -/
def pushAll (outbound : Outbound) :
    List Frame -> List (Except Error Unit) × Outbound
  | [] => ([], outbound)
  | frame :: frames =>
      let (outcome, outbound) := outbound.push frame
      let (outcomes, outbound) := outbound.pushAll frames
      (outcome :: outcomes, outbound)

end Outbound
end PlcLink
