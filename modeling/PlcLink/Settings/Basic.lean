import PlcLink.Session.Lifecycle
import PlcLink.Text.Blank
import PlcLink.Transport.Tpdu

/-!
# Settings of a client

What a client is told about the controller and the connection to it. Settings
are checked before use, one after the other, and the first that is wrong is
reported.
-/

namespace PlcLink

/-- Where the access points of a connection come from. -/
inductive TsapSource
  /-- They follow from the controller's family, a rack and a slot. -/
  | rackSlot (rack slot : UInt8)
  | pair (localWord remoteWord : UInt16)
  deriving DecidableEq, Repr

/-- The settings of a client. Times are in milliseconds. -/
structure Settings where
  host : String
  port : UInt16
  family : CpuFamily
  tsap : TsapSource
  connectionType : ConnectionType
  recvBufferSize? : Option UInt32
  keepAlive : Bool
  noDelay : Bool
  autoReconnect : Bool
  reconnectInterval : Nat
  maxCalling : UInt16
  maxCalled : UInt16
  pduSize : UInt16
  tpduSize : Nat
  connectTimeout : Nat
  requestTimeout : Nat
  sendQueueCapacity : Nat
  maxItemsPerRequest : Nat
  referenceGrace : Nat
  maxReassemblyBytes : Nat
  deriving DecidableEq, Repr

/-- What one session needs to know. -/
structure SessionSettings where
  host : String
  port : UInt16
  tsaps : TsapPair
  tpduSize : Nat
  pduSize : UInt16
  calling : UInt16
  called : UInt16
  connectTimeout : Nat
  requestTimeout : Nat
  sendQueueCapacity : Nat
  maxItemsPerRequest : Nat
  referenceGrace : Nat
  maxReassemblyBytes : Nat
  keepAlive : Bool
  noDelay : Bool
  recvBufferSize? : Option UInt32
  deriving DecidableEq, Repr

namespace Settings

/-- The settings that hold where nothing else is said. -/
def default : Settings :=
  { host := "127.0.0.1"
    port := 102
    family := .s7300
    tsap := .rackSlot 0 2
    connectionType := .programmer
    recvBufferSize? := none
    keepAlive := true
    noDelay := true
    autoReconnect := true
    reconnectInterval := 2000
    maxCalling := 8
    maxCalled := 8
    pduSize := 960
    tpduSize := 1024
    connectTimeout := 5000
    requestTimeout := 3000
    sendQueueCapacity := 256
    maxItemsPerRequest := 20
    referenceGrace := 10000
    maxReassemblyBytes := 65536 }

/-- The default settings for a host. -/
def ofHost (host : String) : Settings :=
  { default with host }

/-- The same settings with a reconnect interval in microseconds, of which whole
milliseconds count. -/
def withAutoReconnect
    (settings : Settings)
    (enabled : Bool)
    (microseconds : Nat) : Settings :=
  { settings with
    autoReconnect := enabled
    reconnectInterval := microseconds / 1000 }

/-- The access points of the connection. -/
def tsapPair (settings : Settings) : Except Error TsapPair :=
  match settings.tsap with
  | .rackSlot rack slot =>
      TsapPair.derive settings.family settings.connectionType rack slot
  | .pair localWord remoteWord => .ok (.ofWords localWord remoteWord)

/-- The settings that can be wrong by themselves and whether they are, in the
order they are checked. -/
def faults (settings : Settings) : List (Setting × Bool) :=
  [(.host, isBlank settings.host),
    (.port, settings.port = 0),
    (.pduSize, settings.pduSize < Context.minPduSize),
    (.tpduSize, (TpduSize.code? settings.tpduSize).isNone),
    (.maxAmqCalling, settings.maxCalling = 0),
    (.maxAmqCalled, settings.maxCalled = 0),
    (.connectTimeout, settings.connectTimeout = 0),
    (.requestTimeout, settings.requestTimeout = 0),
    (.sendQueueCapacity, settings.sendQueueCapacity = 0),
    (.maxItemsPerRequest, settings.maxItemsPerRequest = 0),
    (.maxReassemblyBytes,
      settings.maxReassemblyBytes < settings.pduSize.toNat),
    (.reconnectInterval,
      settings.autoReconnect && settings.reconnectInterval = 0),
    (.recvBufferSize, settings.recvBufferSize? = some 0)]

/-- Check all settings. The access points are looked at last. -/
def validate (settings : Settings) : Except Error Unit :=
  match settings.faults.find? Prod.snd with
  | some (setting, _) => .error (.invalidConfiguration setting)
  | none => settings.tsapPair.map fun _ => ()

/-- What a session needs to know of the settings, once they are checked. -/
def session (settings : Settings) : Except Error SessionSettings := do
  settings.validate
  let tsaps <- settings.tsapPair
  return {
    host := settings.host
    port := settings.port
    tsaps
    tpduSize := settings.tpduSize
    pduSize := settings.pduSize
    calling := settings.maxCalling
    called := settings.maxCalled
    connectTimeout := settings.connectTimeout
    requestTimeout := settings.requestTimeout
    sendQueueCapacity := settings.sendQueueCapacity
    maxItemsPerRequest := settings.maxItemsPerRequest
    referenceGrace := settings.referenceGrace
    maxReassemblyBytes := settings.maxReassemblyBytes
    keepAlive := settings.keepAlive
    noDelay := settings.noDelay
    recvBufferSize? := settings.recvBufferSize? }

end Settings

/-- The setup that a session asks for. -/
def SessionSettings.setup (settings : SessionSettings) : Setup :=
  { calling := settings.calling
    called := settings.called
    pduSize := settings.pduSize }

end PlcLink
