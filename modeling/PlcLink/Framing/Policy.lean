import PlcLink.Framing.Marker
import PlcLink.Pdu.Header
import PlcLink.Transport.Tpkt

/-!
# Policies

A policy recognises datagrams of one shape: its begin markers must all match,
and its length rule tells where the datagram ends.
-/

namespace PlcLink

/-- The shape of datagrams a policy recognises. -/
inductive DatagramKind
  /-- A datagram with a header and any TPDU. -/
  | transport
  | connectRequest
  | connectConfirm
  | disconnectRequest
  | data
  /-- A datagram that only markers delimit. -/
  | delimited
  deriving DecidableEq, Repr

namespace DatagramKind

/-- The name of a shape. -/
def name : DatagramKind -> String
  | transport => "Transport"
  | connectRequest => "ConnectRequest"
  | connectConfirm => "ConnectConfirm"
  | disconnectRequest => "DisconnectRequest"
  | data => "Data"
  | delimited => "Delimited"

/-- The shape of a name. -/
def ofName? (text : String) : Option DatagramKind :=
  [transport, connectRequest, connectConfirm, disconnectRequest, data,
    delimited].find? fun kind => kind.name == text

end DatagramKind

/-- How a datagram's length is found. -/
inductive LengthRule
  /-- The datagram's header announces it. -/
  | announced
  /-- The datagram ends with its end marker. -/
  | endMarker
  deriving DecidableEq, Repr

/-- What the bytes at hand tell about a datagram's length. -/
inductive DatagramLength
  | known (length : Nat)
  | needMore (count : Nat)
  /-- No datagram can have the announced length. -/
  | invalid
  deriving DecidableEq, Repr

/-- A field of a datagram, for inspection. -/
inductive Attribute
  | length
  | announcedLength
  | tpduType
  | endOfPdu
  | pduType
  | reference
  | parameterLength
  | dataLength
  deriving DecidableEq, Repr

/-- The name of a field. -/
def Attribute.name : Attribute -> String
  | .length => "length"
  | .announcedLength => "tpkt.length"
  | .tpduType => "cotp.type"
  | .endOfPdu => "cotp.eot"
  | .pduType => "s7.pdu_type"
  | .reference => "s7.pdu_ref"
  | .parameterLength => "s7.param_len"
  | .dataLength => "s7.data_len"

/-- An exclusive marker that does not lie within its datagram. -/
inductive ExclusionFault
  | outsideDatagram
  deriving DecidableEq, Repr

/-- How to recognise datagrams of one shape. -/
structure Policy where
  name : String
  kind : DatagramKind
  begins : List Marker
  terminator? : Option Marker
  rule : LengthRule
  hasEnd : rule = .endMarker → terminator?.isSome
  hasBegin : begins ≠ []
  noneEmpty : ∀ marker ∈ begins ++ terminator?.toList, marker.bytes ≠ []

namespace Policy

/-- Length of the shortest datagram with a header: one with a data TPDU and no
payload. -/
def minAnnounced : Nat := 7

/-- The policy of the given markers. -/
def ofMarkers
    (name : String)
    (kind : DatagramKind)
    (begins ends : List Marker)
    (rule : LengthRule) : Except Error Policy :=
  if 1 < ends.length then
    .error (.invalidConfiguration .severalEndMarkers)
  else if hasEnd : rule = .endMarker → ends.head?.isSome then
    if hasBegin : begins ≠ [] then
      if noneEmpty :
          ∀ marker ∈ begins ++ ends.head?.toList, marker.bytes ≠ [] then
        .ok
          { name, kind, begins, rule
            terminator? := ends.head?
            hasEnd, hasBegin, noneEmpty }
      else
        .error (.invalidConfiguration .emptyMarker)
    else
      .error (.invalidConfiguration .noBeginMarker)
  else
    .error (.invalidConfiguration .endRuleWithoutEndMarker)

/-- Bytes that all begin markers together reach over. A policy that reaches
further is the more specific one. -/
def beginExtent (policy : Policy) : Nat :=
  (policy.begins.map Marker.extent).foldl max 0

/-- Bytes that must be there before a datagram's length can be found. -/
def minimumSize (policy : Policy) : Nat :=
  max policy.beginExtent <|
    match policy.rule with
    | .announced => minAnnounced
    | .endMarker => (policy.terminator?.map Marker.extent).getD 0

/-- Compare all begin markers. One that differs settles the matter. -/
def compareBegin (policy : Policy) (buffer : Bytes) : MatchState :=
  let states := policy.begins.map (·.compare buffer)
  if .mismatch ∈ states then .mismatch
  else if .partialMatch ∈ states then .partialMatch
  else .full

/-- The length a datagram's header announces. -/
def announcedLength : Bytes -> DatagramLength
  | _ :: _ :: high :: low :: _ =>
      let length := (Word.ofBytes16 high low).toNat
      if length < minAnnounced then .invalid else .known length
  | buffer => .needMore (Tpkt.headerLength - buffer.length)

/-- The length of a datagram that ends with an end marker. -/
def delimitedLength (marker : Marker) (buffer : Bytes) : DatagramLength :=
  match marker.find? buffer with
  | some place => .known (place + marker.bytes.length)
  | none => .needMore 1

/-- The length of the datagram at the front of the buffer. -/
def datagramLength (policy : Policy) (buffer : Bytes) : DatagramLength :=
  match policy.rule, policy.terminator? with
  | .announced, _ => announcedLength buffer
  | .endMarker, some marker => delimitedLength marker buffer
  | .endMarker, none => .invalid

/-- The stretches of a datagram that exclusive markers take up, in order of
their beginnings. -/
def excluded (policy : Policy) (length : Nat) :
    Except ExclusionFault (List (Nat × Nat)) :=
  let begins :=
    (policy.begins.filter Marker.exclusive).map
      fun marker => (marker.offset, marker.extent)
  let inOrder := fun stretches : List (Nat × Nat) =>
    stretches.mergeSort fun first second => first.1 ≤ second.1
  match policy.terminator?.filter Marker.exclusive with
  | none => .ok (inOrder begins)
  | some marker =>
      if length < marker.bytes.length then
        .error .outsideDatagram
      else
        .ok (inOrder (begins ++ [(length - marker.bytes.length, length)]))

/-- The bytes from a place on that lie in none of the stretches. -/
def cutOut (datagram : Bytes) :
    Nat -> List (Nat × Nat) -> Except ExclusionFault Bytes
  | place, [] => .ok (datagram.drop place)
  | place, (start, stop) :: stretches =>
      if start ≤ place then
        cutOut datagram (max place stop) stretches
      else if datagram.length < start then
        .error .outsideDatagram
      else do
        let later <- cutOut datagram (max place stop) stretches
        return (datagram.drop place).take (start - place) ++ later

/-- A datagram without the bytes of exclusive markers. -/
def strip (policy : Policy) (datagram : Bytes) :
    Except ExclusionFault Bytes := do
  cutOut datagram 0 (<- policy.excluded datagram.length)

/-- The fields of a PDU header, as far as they are there. -/
def headerAttributes : Bytes -> List (Attribute × Nat)
  | first :: type :: _ :: _ :: refHigh :: refLow :: parameterHigh ::
      parameterLow :: dataHigh :: dataLow :: _ =>
      if first = Header.identifier then
        [(.pduType, type.toNat),
          (.reference, (Word.ofBytes16 refHigh refLow).toNat),
          (.parameterLength,
            (Word.ofBytes16 parameterHigh parameterLow).toNat),
          (.dataLength, (Word.ofBytes16 dataHigh dataLow).toNat)]
      else
        []
  | _ => []

/-- The fields of a datagram. A PDU header is looked for behind the shortest
header a data TPDU can have. -/
def attributes (policy : Policy) (datagram : Bytes) :
    List (Attribute × Nat) :=
  (.length, datagram.length) ::
    match policy.rule, datagram with
    | .announced, _ :: _ :: high :: low :: _ :: type :: last :: payload =>
        [(.announcedLength, (Word.ofBytes16 high low).toNat),
          (.tpduType, type.toNat)]
          ++ if policy.kind = .data then
              (.endOfPdu, last.toNat / 128) :: headerAttributes payload
            else
              []
    | _, _ => []

theorem announcedLength_pos {buffer : Bytes} {length : Nat}
    (known : announcedLength buffer = .known length) : 0 < length := by
  unfold announcedLength at known
  split at known
  · rename_i high low _
    by_cases short : (Word.ofBytes16 high low).toNat < minAnnounced
    · simp [short] at known
    · simp only [short, if_false, DatagramLength.known.injEq] at known
      simp only [minAnnounced] at short
      omega
  · simp at known

theorem datagramLength_pos {policy : Policy} {buffer : Bytes} {length : Nat}
    (known : policy.datagramLength buffer = .known length) : 0 < length := by
  unfold datagramLength at known
  split at known
  · exact announcedLength_pos known
  · rename_i marker _ isEnd
    have nonempty : marker.bytes ≠ [] :=
      policy.noneEmpty marker (by simp [isEnd])
    have positive := List.length_pos_iff.2 nonempty
    unfold delimitedLength at known
    split at known
    · simp only [DatagramLength.known.injEq] at known
      omega
    · simp at known
  · simp at known

theorem minimumSize_pos_of_invalid {policy : Policy} {buffer : Bytes}
    (invalid : policy.datagramLength buffer = .invalid) :
    0 < policy.minimumSize := by
  have announced : policy.rule = .announced := by
    unfold datagramLength at invalid
    split at invalid
    · assumption
    · unfold delimitedLength at invalid
      split at invalid <;> simp at invalid
    · rename_i isRule isNone
      have := policy.hasEnd isRule
      simp [isNone] at this
  simp only [minimumSize, announced, minAnnounced]
  omega

end Policy
end PlcLink
