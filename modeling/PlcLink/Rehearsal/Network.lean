import PlcLink.Session.Basic

/-!
# A rehearsed network

A network whose peers act by script. It serves one connection after another; on
each, the peer takes a cue from its script for every message that it receives.
A message is a run of datagrams up to the first that is the last of its PDU.
-/

namespace PlcLink
namespace Rehearsal

/-- What a peer does when it has received a message. -/
structure Cue where
  /-- Bytes to send. -/
  send : Bytes
  /-- How to end the connection after sending, if at all. -/
  streamEnd? : Option StreamEnd
  /-- Whether to let later writes of the client fail. -/
  failsWrites : Bool
  deriving DecidableEq, Repr

/-- A connection from the peer's side. -/
structure PeerConnection where
  /-- Cues for the messages to come. -/
  cues : List Cue
  /-- What was received of an unfinished message. -/
  unfinished : Bytes
  /-- Messages received, the oldest first. -/
  messages : List Bytes
  /-- Bytes sent and not yet read. -/
  outbox : Bytes
  streamEnd? : Option StreamEnd
  failsWrites : Bool

namespace PeerConnection

/-- A connection just accepted. -/
def ofCues (cues : List Cue) : PeerConnection :=
  { cues
    unfinished := []
    messages := []
    outbox := []
    streamEnd? := none
    failsWrites := false }

/-- Whether the client can still write. -/
def takesWrites (connection : PeerConnection) : Bool :=
  !connection.failsWrites && connection.streamEnd?.isNone

/-- Whether a datagram is to be followed by another of the same message. -/
def isContinued (datagram : Bytes) : Bool :=
  match Frame.parse datagram with
  | .ok frame =>
      match frame.tpdu with
      | .data parameters => !parameters.endOfPdu
      | _ => false
  | .error _ => false

/-- Follow the next cue, if one is left. -/
def followCue (connection : PeerConnection) : PeerConnection :=
  match connection.cues with
  | [] => connection
  | cue :: cues =>
      { connection with
        cues
        outbox := connection.outbox ++ cue.send
        streamEnd? := cue.streamEnd?
        failsWrites := cue.failsWrites }

/-- Receive a datagram. -/
def receive (connection : PeerConnection) (datagram : Bytes) :
    PeerConnection :=
  let message := connection.unfinished ++ datagram
  if isContinued datagram then
    { connection with unfinished := message }
  else
    { connection with
      unfinished := []
      messages := connection.messages ++ [message] }.followCue

/-- What the client reads next, if there is anything: all that was sent, and
after that how the stream ended. -/
def read? (connection : PeerConnection) :
    Option (NetworkReport × PeerConnection) :=
  if !connection.outbox.isEmpty then
    some (.received connection.outbox, { connection with outbox := [] })
  else
    connection.streamEnd?.map fun streamEnd => (.ended streamEnd, connection)

end PeerConnection

/-- What a client asks of a socket. -/
inductive SocketCall
  | keepAlive (address : Address) (isOn : Bool)
  | receiveBuffer (address : Address) (size : UInt32)
  | connect (endpoint : Endpoint)
  | noDelay (isOn : Bool)
  deriving DecidableEq, Repr

namespace SocketCall

/-- The version of the addresses of a socket. -/
def version (address : Address) : String :=
  if address.isV4 then "v4" else "v6"

/-- Write a switch. -/
def switch (isOn : Bool) : String :=
  if isOn then "true" else "false"

/-- Write what was asked. -/
def text : SocketCall -> String
  | keepAlive address isOn =>
      version address ++ " keepalive " ++ switch isOn
  | receiveBuffer address size =>
      version address ++ " rcvbuf " ++ toString size.toNat
  | connect endpoint =>
      version endpoint.address ++ " connect " ++ endpoint.text
  | noDelay isOn => "nodelay " ++ switch isOn

end SocketCall

/-- A network and what happened on it. -/
structure Network where
  /-- What every host resolves to, if resolving succeeds. -/
  endpoints? : Option (List Endpoint)
  /-- Endpoints that refuse connections. -/
  refused : List Endpoint
  /-- Scripts of the connections to come; without one, none is accepted. -/
  scripts : List (List Cue)
  /-- Connections accepted so far. -/
  connections : List PeerConnection
  lookups : List (String × UInt16)
  socketCalls : List SocketCall

namespace Network

/-- The endpoint of a peer on this machine. -/
def localEndpoint : Endpoint :=
  { address := .v4 127 0 0 1, port := 102 }

/-- A network on which nothing happened yet. Without endpoints of its own,
every host is this machine. -/
def ofScripts
    (endpoints? : Option (Option (List Endpoint)))
    (refused : List Endpoint)
    (scripts : List (List Cue)) : Network :=
  { endpoints? := endpoints?.getD (some [localEndpoint])
    refused
    scripts
    connections := []
    lookups := []
    socketCalls := [] }

/-- Number of messages received on all connections. -/
def messageCount (network : Network) : Nat :=
  (network.connections.flatMap PeerConnection.messages).length

/-- What the client asks of a socket before it connects. -/
def preparation (settings : SessionSettings) (endpoint : Endpoint) :
    List SocketCall :=
  .keepAlive endpoint.address settings.keepAlive
    :: (settings.recvBufferSize?.map fun size =>
          .receiveBuffer endpoint.address size).toList
    ++ [.connect endpoint]

/-- Try an endpoint. The number of the connection is there if it came
about. -/
def connect
    (network : Network)
    (settings : SessionSettings)
    (endpoint : Endpoint) : Option Nat × Network :=
  let calls := network.socketCalls ++ preparation settings endpoint
  match network.scripts with
  | [] => (none, { network with socketCalls := calls })
  | cues :: scripts =>
      if network.refused.contains endpoint then
        (none, { network with socketCalls := calls })
      else
        (some network.connections.length,
          { network with
            scripts
            connections := network.connections ++ [.ofCues cues]
            socketCalls := calls ++ [.noDelay settings.noDelay] })

/-- Put a connection in the place of the one with its number. -/
def setConnection
    (network : Network)
    (number : Nat)
    (connection : PeerConnection) : Network :=
  { network with connections := network.connections.set number connection }

/-- The end of a session on the network: its settings, and the number of its
connection, if there is one. -/
structure Line where
  settings : SessionSettings
  connection? : Option Nat

/-- The connection of a line. -/
def connectionOf? (network : Network) (line : Line) :
    Option (Nat × PeerConnection) := do
  let number <- line.connection?
  let connection <- network.connections[number]?
  return (number, connection)

/-- Fulfil a wish, if that is possible now. -/
def fulfil? (network : Network) (line : Line) :
    Wish -> Option (NetworkReport × Network × Line)
  | .nothing => none
  | .resolve host port =>
      some
        (.resolved network.endpoints?,
          { network with lookups := network.lookups ++ [(host, port)] },
          line)
  | .connect endpoint =>
      let (connection?, network) := network.connect line.settings endpoint
      some
        (.connected connection?.isSome, network, { line with connection? })
  | .write datagram =>
      match network.connectionOf? line with
      | none => some (.written false, network, line)
      | some (number, connection) =>
          if connection.takesWrites then
            some
              (.written true,
                network.setConnection number (connection.receive datagram),
                line)
          else
            some (.written false, network, line)
  | .read => do
      let (number, connection) <- network.connectionOf? line
      let (report, connection) <- connection.read?
      return (report, network.setConnection number connection, line)

end Network
end Rehearsal
end PlcLink
