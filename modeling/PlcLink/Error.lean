import PlcLink.ErrorCode
import PlcLink.ReturnCode

/-!
# Errors

An error is its cause. Each family of causes has one function that words it,
and `Error.message` puts the family's words in front.
-/

namespace PlcLink

/-- What a configuration or an argument got wrong. -/
inductive Setting
  | host
  | port
  | pduSize
  | tpduSize
  | maxAmqCalling
  | maxAmqCalled
  | connectTimeout
  | requestTimeout
  | sendQueueCapacity
  | maxItemsPerRequest
  | maxReassemblyBytes
  | reconnectInterval
  | recvBufferSize
  | frameSize
  | pduTooSmallForElement
  | severalEndMarkers
  | endRuleWithoutEndMarker
  | noBeginMarker
  | emptyMarker
  deriving DecidableEq, Repr

/-- The wording of a bad setting. -/
def Setting.text : Setting -> String
  | .host => "host"
  | .port => "port"
  | .pduSize => "pduSize"
  | .tpduSize => "tpduSize"
  | .maxAmqCalling => "maxAmqCalling"
  | .maxAmqCalled => "maxAmqCalled"
  | .connectTimeout => "connectTimeoutMs"
  | .requestTimeout => "requestTimeoutMs"
  | .sendQueueCapacity => "sendQueueCapacity"
  | .maxItemsPerRequest => "maxItemsPerRequest"
  | .maxReassemblyBytes => "maxReassemblyBytes"
  | .reconnectInterval => "reconnectIntervalMs"
  | .recvBufferSize => "recvBufferSize"
  | .frameSize => "frame size"
  | .pduTooSmallForElement => "PDU size too small for one element"
  | .severalEndMarkers => "more than one end marker"
  | .endRuleWithoutEndMarker => "end-marker length without end marker"
  | .noBeginMarker => "policy without begin marker"
  | .emptyMarker => "empty marker"

/-- A value that cannot be read. -/
inductive DecodeFault
  | variableType
  | functionType
  | functionGroup
  | alarmObject
  | clockValue
  deriving DecidableEq, Repr

/-- The wording of an unreadable value. -/
def DecodeFault.text : DecodeFault -> String
  | .variableType => "unknown data variable type"
  | .functionType => "user-data function type"
  | .functionGroup => "user-data function group"
  | .alarmObject => "alarm object"
  | .clockValue => "clock value"

/-- A value that has no wire form. -/
inductive EncodeFault
  | datagramTooLong
  | tpduHeaderTooLong
  | sectionLengthsDisagree
  | parameterTooLong
  | dataTooLong
  | tooManyItems
  | addressTooLarge
  | itemTooLong
  deriving DecidableEq, Repr

/-- The wording of a value without wire form. -/
def EncodeFault.text : EncodeFault -> String
  | .datagramTooLong => "TPKT length exceeds u16"
  | .tpduHeaderTooLong => "COTP header exceeds LI range"
  | .sectionLengthsDisagree => "header lengths disagree with sections"
  | .parameterTooLong => "parameter section too long"
  | .dataTooLong => "data section too long"
  | .tooManyItems => "too many items in one PDU"
  | .addressTooLarge => "byte address exceeds 21 bits"
  | .itemTooLong => "data item too long"

/-- A rule of the protocol that one side broke. -/
inductive Violation
  | tpduLengthIndicator
  | tpduType
  | payloadWithoutData
  | pduType
  | sectionLengths
  | emptyParameter
  | setupLength
  | trailingVarSpecs
  | writeCodeCount
  | varSpecForm
  | missingFillByte
  | trailingItems
  | userDataHead
  | userDataLength
  | trailingAlarm
  | requestOutsideDisconnected
  | confirmNotAwaited
  | readReplyCount
  | readItemCount
  | readItemLength
  | writeReplyCount
  | noFreeReference
  | userDataCeiling
  deriving DecidableEq, Repr

/-- The wording of a broken rule. -/
def Violation.text : Violation -> String
  | .tpduLengthIndicator => "invalid COTP LI"
  | .tpduType => "unknown COTP PDU type"
  | .payloadWithoutData => "user data on a non-DT TPDU"
  | .pduType => "unknown S7 PDU type"
  | .sectionLengths => "S7 section lengths disagree with frame size"
  | .emptyParameter => "empty parameter section"
  | .setupLength => "setup communication parameter length"
  | .trailingVarSpecs => "trailing bytes after var specs"
  | .writeCodeCount => "write response return code count mismatch"
  | .varSpecForm => "unsupported var spec syntax"
  | .missingFillByte => "missing fill byte between data items"
  | .trailingItems => "trailing bytes after data items"
  | .userDataHead => "user-data parameter head"
  | .userDataLength => "user-data parameter length"
  | .trailingAlarm => "trailing bytes in alarm object"
  | .requestOutsideDisconnected => "connection request outside Disconnected"
  | .confirmNotAwaited => "connection confirm while not awaiting one"
  | .readReplyCount => "read response count mismatch"
  | .readItemCount => "read response item count mismatch"
  | .readItemLength => "read item length mismatch"
  | .writeReplyCount => "write response count mismatch"
  | .noFreeReference => "no free job reference"
  | .userDataCeiling => "user-data reply exceeds reassembly ceiling"

/-- Why no connection came about. -/
inductive Rejection
  | refused
  | expectedConfirm
  | tsapMismatch
  | confirmedSize
  | closedBeforeConfirm
  | closedDuringSetup
  | pduSizeTooSmall
  deriving DecidableEq, Repr

/-- The wording of a rejected handshake. -/
def Rejection.text : Rejection -> String
  | .refused => "peer refused the connection"
  | .expectedConfirm => "expected connection confirm"
  | .tsapMismatch => "TSAP pairing mismatch"
  | .confirmedSize => "invalid TPDU size in confirm"
  | .closedBeforeConfirm => "connection closed before confirm"
  | .closedDuringSetup => "connection closed during setup communication"
  | .pduSizeTooSmall => "negotiated PDU size below 240"

/-- Everything that can go wrong between a client and a controller. -/
inductive Error
  /-- The network failed. -/
  | io
  | connectTimeout
  | requestTimeout
  | invalidFrame
  | unexpectedPdu
  | invalidParameter
  | notConnected
  | invalidConfiguration (setting : Setting)
  | decode (fault : DecodeFault)
  | encode (fault : EncodeFault)
  | protocolViolation (violation : Violation)
  | handshakeRejected (rejection : Rejection)
  | insufficientData (needed available : Nat)
  /-- A function code that is none of the supported ones. -/
  | unsupportedFunction
  /-- The controller answered with an error word. -/
  | reported (code : ErrorCode)
  | itemRejected (code : ReturnCode)
  | rackOutOfRange (rack : UInt8)
  | slotOutOfRange (slot : UInt8)
  deriving DecidableEq, Repr

namespace Error

/-- The wording of an error. The network's own wording is not part of it. -/
def message : Error -> String
  | io => "I/O error"
  | connectTimeout => "connect timeout"
  | requestTimeout => "request timeout"
  | invalidFrame => "invalid frame"
  | unexpectedPdu => "unexpected PDU or function"
  | invalidParameter => "invalid parameter"
  | notConnected => "not connected"
  | invalidConfiguration setting =>
      "invalid configuration for: " ++ setting.text
  | decode fault => "decode error: " ++ fault.text
  | encode fault => "encode error: " ++ fault.text
  | protocolViolation violation =>
      "protocol violation: " ++ violation.text
  | handshakeRejected rejection =>
      "handshake rejected: " ++ rejection.text
  | insufficientData needed available =>
      s!"insufficient data: needed {needed} bytes, available {available} bytes"
  | unsupportedFunction => "unsupported feature: S7 function code"
  | reported code => "S7 error: " ++ code.text
  | itemRejected code => "item rejected by PLC: " ++ code.name
  | rackOutOfRange rack =>
      s!"Rack value {rack.toNat} is out of range (0..=7)"
  | slotOutOfRange slot =>
      s!"Slot value {slot.toNat} is out of range (0..=31)"

/-- A short label for each kind of error. -/
def label : Error -> String
  | io => "Io"
  | connectTimeout => "ErrConnectTimeout"
  | requestTimeout => "ErrRequestTimeout"
  | invalidFrame => "ErrInvalidFrame"
  | unexpectedPdu => "ErrUnexpectedPdu"
  | invalidParameter => "ErrInvalidParam"
  | notConnected => "ErrNotConnected"
  | invalidConfiguration _ => "InvalidConfiguration"
  | decode _ => "Decode"
  | encode _ => "Encode"
  | protocolViolation _ => "ProtocolViolation"
  | handshakeRejected _ => "HandshakeRejected"
  | insufficientData _ _ => "InsufficientData"
  | unsupportedFunction => "UnsupportedFeature"
  | reported _ => "S7Error"
  | itemRejected _ => "ItemRejected"
  | rackOutOfRange _ => "InvalidRack"
  | slotOutOfRange _ => "InvalidSlot"

/-- Whether the connection, rather than the request, is at fault. -/
def isTransport : Error -> Bool
  | io | connectTimeout | notConnected | handshakeRejected _ => true
  | _ => false

end Error
end PlcLink
