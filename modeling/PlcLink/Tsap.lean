import PlcLink.Error

/-!
# Transport access points

A connection joins two access points, one word each. For most families the
remote one follows from the kind of connection, the rack and the slot.
-/

namespace PlcLink

/-- Families of controllers. -/
inductive CpuFamily
  | s7200
  | s7200Smart
  | s7300
  | s7400
  | s71200
  | s71500
  deriving DecidableEq, Repr

namespace CpuFamily

/-- The number of a family. -/
def toNat : CpuFamily -> Nat
  | s7200 => 0
  | s7200Smart => 1
  | s7300 => 2
  | s7400 => 3
  | s71200 => 4
  | s71500 => 5

/-- The family of a number. -/
def ofNat? : Nat -> Option CpuFamily
  | 0 => some s7200
  | 1 => some s7200Smart
  | 2 => some s7300
  | 3 => some s7400
  | 4 => some s71200
  | 5 => some s71500
  | _ => none

end CpuFamily

/-- Kinds of connections a controller reserves resources for. -/
inductive ConnectionType
  | programmer
  | operatorPanel
  | basic
  deriving DecidableEq, Repr

namespace ConnectionType

/-- The number of a kind of connection. -/
def toNat : ConnectionType -> Nat
  | programmer => 1
  | operatorPanel => 2
  | basic => 3

/-- The kind of connection of a number. -/
def ofNat? : Nat -> Option ConnectionType
  | 1 => some programmer
  | 2 => some operatorPanel
  | 3 => some basic
  | _ => none

end ConnectionType

/-- A transport access point. -/
structure Tsap where
  value : UInt16
  deriving DecidableEq, Repr

namespace Tsap

/-- The access point of two bytes. -/
def ofBytes (high low : UInt8) : Tsap :=
  ⟨Word.ofBytes16 high low⟩

/-- Both bytes in hexadecimal with a colon between them. -/
def text (tsap : Tsap) : String :=
  ErrorCode.hexByte (Word.high tsap.value) ++ ":"
    ++ ErrorCode.hexByte (Word.low tsap.value)

end Tsap

/-- The two access points of a connection. -/
structure TsapPair where
  localPoint : Tsap
  remotePoint : Tsap
  deriving DecidableEq, Repr

namespace TsapPair

/-- The pair of two words. -/
def ofWords (localWord remoteWord : UInt16) : TsapPair :=
  { localPoint := ⟨localWord⟩, remotePoint := ⟨remoteWord⟩ }

/-- The low byte of a remote access point: the rack in the high three bits. -/
def rackSlotByte (rack slot : UInt8) : UInt8 :=
  UInt8.ofNat (rack.toNat * 32 ||| slot.toNat)

/-- The pair a family uses. The oldest families have fixed pairs, but rack and
slot are checked for them as well. -/
def derive
    (family : CpuFamily)
    (connection : ConnectionType)
    (rack slot : UInt8) : Except Error TsapPair :=
  if 7 < rack then
    .error (.rackOutOfRange rack)
  else if 31 < slot then
    .error (.slotOutOfRange slot)
  else
    match family with
    | .s7200 => .ok (ofWords 0x4D57 0x4D57)
    | .s7200Smart => .ok (ofWords 0x1000 0x0300)
    | _ =>
        .ok
          { localPoint := ⟨0x0100⟩
            remotePoint :=
              .ofBytes (UInt8.ofNat connection.toNat)
                (rackSlotByte rack slot) }

end TsapPair
end PlcLink
