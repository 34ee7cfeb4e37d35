import PlcLink.Json.Parse
import PlcLink.Settings.Basic

/-!
# Settings as documents

Settings are written as a JSON object. They are read from an object, whose
missing members have their defaults and whose unknown members are ignored, or
from an array of the values in order, whose end may be missing.
-/

namespace PlcLink

/-- Members of an object or items of an array, to be read by place and name. -/
inductive Entries
  | named (members : List (String × JsonTree))
  | listed (items : List JsonTree)

namespace Entries

/-- The members of an object whose keys all consist of whole characters. -/
def ofMembers? (members : List (Option String × JsonTree)) :
    Option (List (String × JsonTree)) :=
  members.mapM fun member => member.1.map fun key => (key, member.2)

/-- The value at a place or of a name, read in the given way. Where there is
none the default holds; a name may not occur twice. -/
def read?
    (entries : Entries)
    (place : Nat)
    (name : String)
    (convert : JsonTree -> Option value)
    (default : Option value) : Option value :=
  match entries with
  | listed items =>
      match items[place]? with
      | some tree => convert tree
      | none => default
  | named members =>
      match members.filter fun member => member.1 == name with
      | [] => default
      | [(_, tree)] => convert tree
      | _ => none

/-- The value at a place or of a name, or the default where there is none. -/
def readOr?
    (entries : Entries)
    (place : Nat)
    (name : String)
    (convert : JsonTree -> Option value)
    (default : value) : Option value :=
  entries.read? place name convert (some default)

end Entries

namespace TsapSource

/-- Name of the source that derives the access points. -/
def rackSlotName : String := "rackSlot"

/-- Name of the source that gives the access points. -/
def pairName : String := "tsap"

/-- Arrays and objects that may be inside one another below the settings. -/
def maxDepth : Nat := 126

/-- Read a source of the given name from two numbers. -/
def ofNumbers? (name : String) (entries : Entries) (place : Nat) :
    Option TsapSource :=
  let number := fun place name bound =>
    entries.read? place name (JsonTree.below? bound) none
  if name = rackSlotName then do
    return .rackSlot
      (UInt8.ofNat (<- number place "rack" 256))
      (UInt8.ofNat (<- number (place + 1) "slot" 256))
  else if name = pairName then do
    return .pair
      (UInt16.ofNat (<- number place "local" 65536))
      (UInt16.ofNat (<- number (place + 1) "remote" 65536))
  else
    none

/-- Read a source. Its kind is a member anywhere in an object, or the first of
exactly three items of an array. -/
def ofJson? (tree : JsonTree) : Option TsapSource :=
  if !tree.isSound || maxDepth < tree.depth then
    none
  else
    match tree with
    | .object members => do
        let entries := Entries.named (<- Entries.ofMembers? members)
        let name <- entries.read? 0 "kind" JsonTree.text? none
        ofNumbers? name entries 0
    | .array items => do
        if items.length = 3 then
          let name <- (Entries.listed items).read? 0 "kind" JsonTree.text? none
          ofNumbers? name (.listed items) 1
        else
          none
    | _ => none

/-- Write a source. -/
def toJson : TsapSource -> JsonTree
  | rackSlot rack slot =>
      .ofMembers
        [("kind", .ofText rackSlotName), ("rack", .ofNat rack.toNat),
          ("slot", .ofNat slot.toNat)]
  | pair localWord remoteWord =>
      .ofMembers
        [("kind", .ofText pairName), ("local", .ofNat localWord.toNat),
          ("remote", .ofNat remoteWord.toNat)]

end TsapSource

namespace Settings

/-- Number of settings. -/
def entryCount : Nat := 20

/-- Read a 16-bit word. -/
def word? (tree : JsonTree) : Option UInt16 :=
  (tree.below? 65536).map UInt16.ofNat

/-- Read a number of 64 bits. -/
def wide? (tree : JsonTree) : Option Nat :=
  tree.below? (Nat.pow 2 64)

/-- Read the size of a buffer, which may be absent. -/
def bufferSize? : JsonTree -> Option (Option UInt32)
  | .null => some none
  | tree => (tree.below? (Nat.pow 2 32)).map fun size => some (UInt32.ofNat size)

/-- Read a number that stands for something. -/
def code? (meaning : Nat -> Option value) (tree : JsonTree) : Option value := do
  meaning (<- tree.below? 256)

/-- Read all settings. -/
def ofEntries? (entries : Entries) : Option Settings := do
  let base := default
  return {
    host := <- entries.readOr? 0 "host" JsonTree.text? base.host
    port := <- entries.readOr? 1 "port" word? base.port
    family := <- entries.readOr? 2 "cpu" (code? CpuFamily.ofNat?) base.family
    tsap := <- entries.readOr? 3 "tsap" TsapSource.ofJson? base.tsap
    connectionType :=
      <- entries.readOr? 4 "connectionType" (code? ConnectionType.ofNat?)
        base.connectionType
    recvBufferSize? :=
      <- entries.readOr? 5 "recvBufferSize" bufferSize? base.recvBufferSize?
    keepAlive := <- entries.readOr? 6 "keepAlive" JsonTree.bool? base.keepAlive
    noDelay := <- entries.readOr? 7 "tcpNodelay" JsonTree.bool? base.noDelay
    autoReconnect :=
      <- entries.readOr? 8 "autoReconnect" JsonTree.bool? base.autoReconnect
    reconnectInterval :=
      <- entries.readOr? 9 "reconnectIntervalMs" wide? base.reconnectInterval
    maxCalling := <- entries.readOr? 10 "maxAmqCalling" word? base.maxCalling
    maxCalled := <- entries.readOr? 11 "maxAmqCalled" word? base.maxCalled
    pduSize := <- entries.readOr? 12 "pduSize" word? base.pduSize
    tpduSize := <- entries.readOr? 13 "tpduSize" wide? base.tpduSize
    connectTimeout :=
      <- entries.readOr? 14 "connectTimeoutMs" wide? base.connectTimeout
    requestTimeout :=
      <- entries.readOr? 15 "requestTimeoutMs" wide? base.requestTimeout
    sendQueueCapacity :=
      <- entries.readOr? 16 "sendQueueCapacity" wide? base.sendQueueCapacity
    maxItemsPerRequest :=
      <- entries.readOr? 17 "maxItemsPerRequest" wide? base.maxItemsPerRequest
    referenceGrace :=
      <- entries.readOr? 18 "refGraceMs" wide? base.referenceGrace
    maxReassemblyBytes :=
      <- entries.readOr? 19 "maxReassemblyBytes" wide?
        base.maxReassemblyBytes }

/-- Read settings from a JSON value. -/
def ofJson? : JsonTree -> Option Settings
  | .object members => do ofEntries? (.named (<- Entries.ofMembers? members))
  | .array items =>
      if items.length ≤ entryCount then ofEntries? (.listed items) else none
  | _ => none

/-- Read settings from a text. -/
def ofText? (text : String) : Option Settings := do
  ofJson? (<- JsonTree.ofText? text)

/-- Write settings. -/
def toJson (settings : Settings) : JsonTree :=
  .ofMembers
    [("host", .ofText settings.host),
      ("port", .ofNat settings.port.toNat),
      ("cpu", .ofNat settings.family.toNat),
      ("tsap", settings.tsap.toJson),
      ("connectionType", .ofNat settings.connectionType.toNat),
      ("recvBufferSize",
        match settings.recvBufferSize? with
        | some size => .ofNat size.toNat
        | none => .null),
      ("keepAlive", .bool settings.keepAlive),
      ("tcpNodelay", .bool settings.noDelay),
      ("autoReconnect", .bool settings.autoReconnect),
      ("reconnectIntervalMs", .ofNat settings.reconnectInterval),
      ("maxAmqCalling", .ofNat settings.maxCalling.toNat),
      ("maxAmqCalled", .ofNat settings.maxCalled.toNat),
      ("pduSize", .ofNat settings.pduSize.toNat),
      ("tpduSize", .ofNat settings.tpduSize),
      ("connectTimeoutMs", .ofNat settings.connectTimeout),
      ("requestTimeoutMs", .ofNat settings.requestTimeout),
      ("sendQueueCapacity", .ofNat settings.sendQueueCapacity),
      ("maxItemsPerRequest", .ofNat settings.maxItemsPerRequest),
      ("refGraceMs", .ofNat settings.referenceGrace),
      ("maxReassemblyBytes", .ofNat settings.maxReassemblyBytes)]

end Settings
end PlcLink
