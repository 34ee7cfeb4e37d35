import PlcLink.Session.Exchange
import PlcLink.UserData.Alarm
import PlcLink.UserData.BlockInfo
import PlcLink.UserData.Clock

/-!
# Requests to a client

A client turns a request into one operation of its session, and the answer to
that operation into the answer to the request.
-/

namespace PlcLink

/-- What a client can be asked for. -/
inductive ClientRequest
  | read
      (area : Area)
      (blockNumber : UInt16)
      (byteAddress : UInt32)
      (transportSize : TransportSize)
      (count : UInt16)
  | readBit
      (area : Area)
      (blockNumber : UInt16)
      (byteAddress : UInt32)
      (bitIndex : UInt8)
  | readMany (specs : List VarSpec)
  | write
      (area : Area)
      (blockNumber : UInt16)
      (byteAddress : UInt32)
      (data : Bytes)
  | writeBit
      (area : Area)
      (blockNumber : UInt16)
      (byteAddress : UInt32)
      (bitIndex : UInt8)
      (value : Bool)
  | writeMany (items : List WriteItem)
  | blockInfo (type : BlockType) (number : UInt16)
  | alarms
  | clock
  deriving DecidableEq, Repr

/-- What a client answers. -/
inductive ClientAnswer
  | bytes (data : Bytes)
  | bit (value : Bool)
  | results (results : List ReadResult)
  | done
  | codes (codes : List ReturnCode)
  | blockInfo (info : BlockInfo)
  | alarms (alarms : List Alarm)
  | moment (moment : DateTime)

namespace ClientRequest

/-- The longest data that can be written at once. -/
def maxWriteLength : Nat := 65535

/-- The operation that answers a request. -/
def operation : ClientRequest -> Except Error Operation
  | read area blockNumber byteAddress transportSize count =>
      .ok (.read
        [.elements area blockNumber byteAddress transportSize count])
  | readBit area blockNumber byteAddress bitIndex =>
      .ok (.read [.singleBit area blockNumber byteAddress bitIndex])
  | readMany specs => .ok (.read specs)
  | write area blockNumber byteAddress data =>
      if maxWriteLength < data.length then
        .error .invalidParameter
      else
        .ok (.write [.ofBytes area blockNumber byteAddress data])
  | writeBit area blockNumber byteAddress bitIndex value =>
      .ok (.write
        [{ spec := .singleBit area blockNumber byteAddress bitIndex
           data := [if value then 1 else 0] }])
  | writeMany items => .ok (.write items)
  | blockInfo type number =>
      .ok (.userData (UserData.blockInfoRequest type number))
  | alarms => .ok (.userData UserData.alarmRequest)
  | clock => .ok (.userData UserData.clockRequest)

/-- The data of a single result that must be a success. -/
def single : List ReadResult -> Except Error Bytes
  | [] => .error .unexpectedPdu
  | result :: _ =>
      if result.returnCode.isSuccess then .ok result.data
      else .error (.itemRejected result.returnCode)

/-- Check a single code that must be a success. -/
def singleWritten : List ReturnCode -> Except Error ClientAnswer
  | [] => .error .unexpectedPdu
  | code :: _ =>
      if code.isSuccess then .ok .done else .error (.itemRejected code)

/-- Whether the first byte has its lowest bit set. -/
def lowestBit (data : Bytes) : Bool :=
  (data.head?.map fun byte => byte &&& 1 != 0).getD false

/-- The answer to a request whose operation gave an answer. -/
def conclude (request : ClientRequest) (answer : Answer) :
    Except Error ClientAnswer :=
  match request, answer with
  | read .., .results results => (single results).map .bytes
  | readBit .., .results results =>
      (single results).map fun data => .bit (lowestBit data)
  | readMany _, .results results => .ok (.results results)
  | write .., .codes codes | writeBit .., .codes codes => singleWritten codes
  | writeMany _, .codes codes => .ok (.codes codes)
  | blockInfo .., .bytes data => (BlockInfo.parse data).map .blockInfo
  | alarms, .bytes data => (Alarm.parseAll data).map .alarms
  | clock, .bytes data => (Clock.parse data).map .moment
  | _, _ => .error .unexpectedPdu

end ClientRequest
end PlcLink
