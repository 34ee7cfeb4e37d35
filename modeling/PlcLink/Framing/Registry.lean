import PlcLink.Framing.Policy
import PlcLink.Transport.Tpdu

/-!
# Registries of policies

A registry chooses who owns the bytes of a buffer: the first place at which any
policy matches or may still match, and there the most specific one. A more
specific policy that may still match holds the choice up.
-/

namespace PlcLink

/-- The policies to choose from, in order. -/
structure Registry where
  policies : List Policy

/-- Who owns the front of a buffer. -/
inductive Choice
  | found (policy : Policy)
  /-- A policy can be confirmed with so many more bytes. -/
  | pending (needed : Nat)
  | nobody

/-- Who owns the bytes of a buffer, and where they begin. -/
inductive Selection
  | found (start : Nat) (policy : Policy)
  | pending (start needed : Nat)
  | nobody

namespace Selection

/-- The same selection one byte further on. -/
def shift : Selection -> Selection
  | found start policy => found (start + 1) policy
  | pending start needed => pending (start + 1) needed
  | nobody => nobody

end Selection

namespace Registry

/-- The first of the policies that reach furthest. -/
def mostSpecific? : List Policy -> Option Policy
  | [] => none
  | policy :: policies =>
      match mostSpecific? policies with
      | none => some policy
      | some other =>
          if policy.beginExtent < other.beginExtent then some other
          else some policy

/-- Bytes that are missing to confirm a policy, at least one. -/
def missing (policy : Policy) (buffer : Bytes) : Nat :=
  max (policy.beginExtent - buffer.length) 1

/-- The policies whose begin markers compare with the given outcome. -/
def comparing (registry : Registry) (state : MatchState) (buffer : Bytes) :
    List Policy :=
  registry.policies.filter fun policy => policy.compareBegin buffer == state

/-- Who owns the front of the buffer. -/
def choose (registry : Registry) (buffer : Bytes) : Choice :=
  let best? := mostSpecific? (registry.comparing .full buffer)
  let pending? := mostSpecific? (registry.comparing .partialMatch buffer)
  match best?, pending? with
  | none, none => .nobody
  | some best, none => .found best
  | none, some pending => .pending (missing pending buffer)
  | some best, some pending =>
      if best.beginExtent < pending.beginExtent then
        .pending (missing pending buffer)
      else
        .found best

/-- Who owns the bytes of the buffer, from the first place on that anybody
claims. -/
def select (registry : Registry) : Bytes -> Selection
  | [] => .nobody
  | first :: rest =>
      match registry.choose (first :: rest) with
      | .found policy => .found 0 policy
      | .pending needed => .pending 0 needed
      | .nobody => (registry.select rest).shift

/-- A begin marker that stays in its datagrams. -/
def marker (bytes : Bytes) (offset : Nat) : Marker :=
  { bytes, offset, exclusive := false }

/-- The policy of datagrams with any TPDU. -/
def anyTpdu : Policy :=
  { name := "tpkt"
    kind := .transport
    begins := [marker [0x03, 0x00] 0]
    terminator? := none
    rule := .announced
    hasEnd := by decide
    hasBegin := by decide
    noneEmpty := by decide }

/-- The policy of datagrams with a TPDU of one type. -/
def typed (name : String) (kind : DatagramKind) (type : TpduType) : Policy :=
  { name
    kind
    begins := [marker [0x03, 0x00] 0, marker [type.toByte] 5]
    terminator? := none
    rule := .announced
    hasEnd := by simp
    hasBegin := by simp
    noneEmpty := by simp [marker] }

/-- The policies of the transport: one for each type of TPDU, and one for
whatever else begins like a datagram. -/
def transport : Registry :=
  { policies :=
      [anyTpdu,
        typed "cotp-dt" .data .data,
        typed "cotp-cr" .connectRequest .connectRequest,
        typed "cotp-cc" .connectConfirm .connectConfirm,
        typed "cotp-dr" .disconnectRequest .disconnectRequest] }

end Registry
end PlcLink
