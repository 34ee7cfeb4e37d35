import PlcLink.Transport.Frame
import PlcLink.Tsap

/-!
# The connection handshake

One connection request is sent and one confirm accepted. The confirm must name
the two access points of the request, in either order or in part, and may ask
for smaller TPDUs. Anything else breaks the handshake for good.
-/

namespace PlcLink

/-- How far a handshake has come. -/
inductive HandshakeState
  | disconnected
  | awaitingConfirm
  /-- The largest TPDU is known. -/
  | connected (frameSize : Nat)
  | broken
  deriving DecidableEq, Repr

/-- The wording of a state. -/
def HandshakeState.text : HandshakeState -> String
  | .disconnected => "Disconnected"
  | .awaitingConfirm => "AwaitingConnectionConfirm"
  | .connected frameSize =>
      "Connected \x7b frame_size: " ++ toString frameSize ++ " \x7d"
  | .broken => "Broken"

/-- A handshake for one connection. -/
structure Handshake where
  state : HandshakeState
  tsaps : TsapPair
  /-- Code of the largest TPDU that is asked for. -/
  sizeCode : UInt8
  deriving DecidableEq, Repr

namespace Handshake

/-- The reference of the client's end. -/
def clientRef : UInt16 := 1

/-- The handshake that asks for TPDUs of the given size. -/
def ofSize (tsaps : TsapPair) (tpduSize : Nat) : Except Error Handshake :=
  match TpduSize.code? tpduSize with
  | some sizeCode => .ok { state := .disconnected, tsaps, sizeCode }
  | none => .error (.invalidConfiguration .tpduSize)

/-- Ask for the connection. -/
def request (handshake : Handshake) : Handshake × Except Error Frame :=
  if handshake.state ≠ .disconnected then
    (handshake, .error (.protocolViolation .requestOutsideDisconnected))
  else
    let parameters :=
      ConnectParameters.request clientRef handshake.sizeCode
        handshake.tsaps.localPoint.value handshake.tsaps.remotePoint.value
    match Frame.ofTpdu (.connectRequest parameters) [] with
    | .ok frame => ({ handshake with state := .awaitingConfirm }, .ok frame)
    | .error error => (handshake, .error error)

/-- Whether the access points of a confirm are those of the request, the same
way round or swapped; one of them alone suffices, and so does none. -/
def tsapsMatch (tsaps : TsapPair) (parameters : ConnectParameters) : Bool :=
  let near := tsaps.localPoint.value
  let far := tsaps.remotePoint.value
  match parameters.sourceTsap?, parameters.destinationTsap? with
  | some source, some destination =>
      (source == near && destination == far)
        || (source == far && destination == near)
  | some single, none | none, some single => single == near || single == far
  | none, none => true

/-- The code of the largest TPDU after a confirm. A larger one than asked for
is not taken up. -/
def confirmedCode (asked : UInt8) (confirmed? : Option UInt8) :
    Except Error UInt8 :=
  match confirmed? with
  | none => .ok asked
  | some code =>
      if TpduSize.ofCode? code = none then
        .error (.handshakeRejected .confirmedSize)
      else
        .ok (min code asked)

/-- The TPDU size of a confirm, if it accepts the request. -/
def accepted (handshake : Handshake) : Tpdu -> Except Error Nat
  | .connectConfirm parameters =>
      if tsapsMatch handshake.tsaps parameters then do
        let code <- confirmedCode handshake.sizeCode parameters.sizeCode?
        return Nat.pow 2 code.toNat
      else
        .error (.handshakeRejected .tsapMismatch)
  | .disconnectRequest _ => .error (.handshakeRejected .refused)
  | _ => .error (.handshakeRejected .expectedConfirm)

/-- Take the TPDU that should confirm the connection. -/
def confirm (handshake : Handshake) (tpdu : Tpdu) :
    Handshake × Except Error Nat :=
  if handshake.state ≠ .awaitingConfirm then
    ({ handshake with state := .broken },
      .error (.protocolViolation .confirmNotAwaited))
  else
    match handshake.accepted tpdu with
    | .ok frameSize =>
        ({ handshake with state := .connected frameSize }, .ok frameSize)
    | .error error => ({ handshake with state := .broken }, .error error)

end Handshake
end PlcLink
