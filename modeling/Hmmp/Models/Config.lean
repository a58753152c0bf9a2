import Hmmp.Foundation.Dict
import Hmmp.Wire.Binary

/-!
# Configuration models

Configuration entries, the bodies of the requests about them, the response
that carries one chunk of an entry, and the notice of a change.
-/

namespace Hmmp
namespace Models

open Foundation
open Wire

structure ConfigEntry where
  tenant : Text
  group : Text
  dataId : Text
  content : Bytes := []
  md5 : Bytes := []
  isDeleted : Bool := false
  totalChunks : Nat := 1
  chunkIndex : Nat := 0
  versionId : Text := []
  stableVersionId : Text := []
  matchLabels : Dict Text Text := Dict.empty
  deriving DecidableEq

namespace ConfigEntry

def writeGetRequest (e : ConfigEntry) (canaryLabels : Option (Dict Text Text)) :
    Writing Unit := do
  BinaryWriter.writeStringU8 e.tenant
  BinaryWriter.writeStringU8 e.group
  BinaryWriter.writeStringU8 e.dataId
  match canaryLabels with
  | some labels =>
      if labels.entries.isEmpty then
        BinaryWriter.writeU8 0
      else do
        BinaryWriter.writeU8 1
        BinaryWriter.writeU8 labels.entries.length
        labels.entries.forM BinaryWriter.writeLabel
  | none => BinaryWriter.writeU8 0

def toGetRequestBytes (e : ConfigEntry)
    (canaryLabels : Option (Dict Text Text)) : Except PyError Bytes :=
  BinaryWriter.getvalue (e.writeGetRequest canaryLabels)

/-- Read pairs of short strings into a dictionary. -/
def readLabels : Nat -> Dict Text Text -> Reading (Dict Text Text)
  | 0, labels => pure labels
  | count + 1, labels => do
      let key ← BinaryReader.readStringU8
      let value ← BinaryReader.readStringU8
      readLabels count (labels.set key value)

/-- Read the canary fields that may follow the content. -/
def readCanary (entry : ConfigEntry) : Reading ConfigEntry := do
  if ← BinaryReader.hasRemaining then
    let hasCanary ← BinaryReader.readU8
    if hasCanary = 1 then
      let versionId ← BinaryReader.readStringU16
      let stableVersionId ← BinaryReader.readStringU16
      let matchCount ← BinaryReader.readU8
      let matchLabels ← readLabels matchCount entry.matchLabels
      pure
        { entry with
          versionId := versionId
          stableVersionId := stableVersionId
          matchLabels := matchLabels }
    else pure entry
  else pure entry

def readResponse : Reading ConfigEntry := do
  let tenant ← BinaryReader.readStringU8
  let group ← BinaryReader.readStringU8
  let dataId ← BinaryReader.readStringU8
  let md5 ← BinaryReader.readBytes 16
  let totalChunks ← BinaryReader.readU16
  let chunkIndex ← BinaryReader.readU16
  let isDeleted ← BinaryReader.readU8
  let rawLen ← BinaryReader.readU32
  let rawBytes ← BinaryReader.readBytes rawLen
  readCanary
    { tenant := tenant
      group := group
      dataId := dataId
      md5 := md5
      totalChunks := totalChunks
      chunkIndex := chunkIndex
      isDeleted := isDeleted == 1
      content := rawBytes }

def fromResponseBytes (data : Bytes) : Except PyError ConfigEntry := do
  let (entry, _) ← readResponse.run (BinaryReader.new data)
  pure entry

end ConfigEntry

structure ListenConfigEntry where
  tenant : Text
  group : Text
  dataId : Text
  currentMd5 : Bytes := List.replicate 16 0
  deriving DecidableEq

namespace ListenConfigEntry

def write (e : ListenConfigEntry) : Writing Unit := do
  BinaryWriter.writeStringU8 e.tenant
  BinaryWriter.writeStringU8 e.group
  BinaryWriter.writeStringU8 e.dataId
  BinaryWriter.writeBytes e.currentMd5

def toBytes (e : ListenConfigEntry) : Except PyError Bytes :=
  BinaryWriter.getvalue e.write

end ListenConfigEntry

/-- The notice that a configuration has changed. -/
structure ConfigChangedNotification where
  tenant : Text
  group : Text
  dataId : Text
  newMd5 : Bytes
  versionId : Text := []
  changedReason : Nat := 0
  deriving DecidableEq

namespace ConfigChangedNotification

def read : Reading ConfigChangedNotification := do
  let tenant ← BinaryReader.readStringU16
  let group ← BinaryReader.readStringU16
  let dataId ← BinaryReader.readStringU16
  let newMd5 ← BinaryReader.readBytes 16
  let notification : ConfigChangedNotification :=
    { tenant := tenant
      group := group
      dataId := dataId
      newMd5 := newMd5 }
  if ← BinaryReader.hasRemaining then
    let hasCanary ← BinaryReader.readU8
    if hasCanary = 1 then
      let versionId ← BinaryReader.readStringU16
      let changedReason ← BinaryReader.readU8
      pure
        { notification with
          versionId := versionId
          changedReason := changedReason }
    else pure notification
  else pure notification

def fromBytes (data : Bytes) : Except PyError ConfigChangedNotification := do
  let (notification, _) ← read.run (BinaryReader.new data)
  pure notification

end ConfigChangedNotification

end Models
end Hmmp
