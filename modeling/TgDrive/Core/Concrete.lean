import TgDrive.Core.Device
import TgDrive.Data.Json
import TgDrive.Data.Sha256

/-!
# The Primitives, Concretely

An instance of the third-party primitives, so that the results that take them
as parameters can be used on given inputs: SHA-256 as it is, and JSON with the
field names and the order of the source. The JSON is compact, and UUIDs and
times, which are numbers here, are printed as numbers.

## Main definitions

* `manifestFields`, `rootFields`, `leafFields`, `superblockFields`: The JSON
  of what the program stores.
* `concreteCrates`: The instance.
* `smallMap`: A device of two objects.
-/

namespace TgDrive

open Data

/-- A field whose name is plain. -/
def named {α : Type} (name : String) (F : Format α)
    (h : ∀ c ∈ name.toList, c.toNat < 128 := by decide) : Format α :=
  .field name.toList F h

/-- A list of records. -/
def records {α : Type} (F : Format α) : Format (List α) :=
  .list (.object F) (fun a => Format.object_head F a ']' [] (by decide))

/-- A record that may be `null`. -/
def optionalRecord {α : Type} (F : Format α) : Format (Option α) :=
  .option (.object F) (fun a => Format.object_head F a 'n' "ull".toList (by decide))

def optionalText : Format (Option Text) :=
  .option .text (fun l => Format.text_head l 'n' "ull".toList (by decide))

def optionalNat : Format (Option Nat) :=
  .option .nat (fun n => Format.nat_head n 'n' "ull".toList (by decide))

def optionalInt : Format (Option Int) :=
  .option .int (fun i => Format.int_head i 'n' "ull".toList (by decide) (by decide))

def string : Format String :=
  .map .text String.ofList String.toList (fun _ => String.ofList_toList)

def uuid : Format Uuid := .map .nat Uuid.mk Uuid.bits (fun _ => rfl)

def encoding : Format ManifestEncoding :=
  .map (.either "\"flat_json\"".toList "\"tree\"".toList (by decide) (by decide) (fun _ => rfl))
    (fun b => if b then .flatJson else .tree)
    (fun e => match e with
      | .flatJson => true
      | .tree => false)
    (fun e => by
      cases e with
      | flatJson => rfl
      | tree => rfl)

def remoteFields : Format RemoteObjectRef :=
  .map (.pair (named "chat_id" .int) <| .pair (named "message_id" .int) <|
      .pair (named "object_id" .nat) <| .pair (named "generation" .nat) <|
      named "sha256" .text)
    (fun p => {
      chatId := p.1
      messageId := p.2.1
      objectId := p.2.2.1
      generation := p.2.2.2.1
      sha256 := p.2.2.2.2 })
    (fun r => (r.chatId, r.messageId, r.objectId, r.generation, r.sha256))
    (fun _ => rfl)

def objectFields : Format ManifestObject :=
  .map (.pair (named "object_id" .nat) <| .pair (named "generation" .nat) <|
      .pair (named "remote" (optionalRecord remoteFields)) <|
      .pair (named "sha256" optionalText) <| named "zero" .bool)
    (fun p => {
      objectId := p.1
      generation := p.2.1
      remote := p.2.2.1
      sha256 := p.2.2.2.1
      zero := p.2.2.2.2 })
    (fun o => (o.objectId, o.generation, o.remote, o.sha256, o.zero))
    (fun _ => rfl)

def manifestFields : Format Manifest :=
  .map (.pair (named "magic" string) <| .pair (named "format_version" .nat) <|
      .pair (named "device_uuid" uuid) <| .pair (named "generation" .nat) <|
      .pair (named "object_size" .nat) <| .pair (named "object_count" .nat) <|
      .pair (named "objects" (records objectFields)) <|
      named "garbage" (records remoteFields))
    (fun p => {
      magic := p.1
      formatVersion := p.2.1
      deviceUuid := p.2.2.1
      generation := p.2.2.2.1
      objectSize := p.2.2.2.2.1
      objectCount := p.2.2.2.2.2.1
      objects := p.2.2.2.2.2.2.1
      garbage := p.2.2.2.2.2.2.2 })
    (fun m => (m.magic, m.formatVersion, m.deviceUuid, m.generation, m.objectSize,
      m.objectCount, m.objects, m.garbage))
    (fun _ => rfl)

def leafRefFields : Format ManifestTreeLeafRef :=
  .map (.pair (named "leaf_index" .nat) <| .pair (named "start_object_id" .nat) <|
      .pair (named "object_count" .nat) <| named "remote" (.object remoteFields))
    (fun p => {
      leafIndex := p.1
      startObjectId := p.2.1
      objectCount := p.2.2.1
      remote := p.2.2.2 })
    (fun l => (l.leafIndex, l.startObjectId, l.objectCount, l.remote))
    (fun _ => rfl)

def rootFields : Format ManifestTreeRoot :=
  .map (.pair (named "magic" string) <| .pair (named "format_version" .nat) <|
      .pair (named "device_uuid" uuid) <| .pair (named "generation" .nat) <|
      .pair (named "object_size" .nat) <| .pair (named "object_count" .nat) <|
      .pair (named "leaf_span" .nat) <| .pair (named "leaves" (records leafRefFields)) <|
      named "garbage" (records remoteFields))
    (fun p => {
      magic := p.1
      formatVersion := p.2.1
      deviceUuid := p.2.2.1
      generation := p.2.2.2.1
      objectSize := p.2.2.2.2.1
      objectCount := p.2.2.2.2.2.1
      leafSpan := p.2.2.2.2.2.2.1
      leaves := p.2.2.2.2.2.2.2.1
      garbage := p.2.2.2.2.2.2.2.2 })
    (fun r => (r.magic, r.formatVersion, r.deviceUuid, r.generation, r.objectSize,
      r.objectCount, r.leafSpan, r.leaves, r.garbage))
    (fun _ => rfl)

def leafFields : Format ManifestTreeLeaf :=
  .map (.pair (named "magic" string) <| .pair (named "format_version" .nat) <|
      .pair (named "device_uuid" uuid) <| .pair (named "generation" .nat) <|
      .pair (named "leaf_index" .nat) <| .pair (named "start_object_id" .nat) <|
      named "objects" (records objectFields))
    (fun p => {
      magic := p.1
      formatVersion := p.2.1
      deviceUuid := p.2.2.1
      generation := p.2.2.2.1
      leafIndex := p.2.2.2.2.1
      startObjectId := p.2.2.2.2.2.1
      objects := p.2.2.2.2.2.2 })
    (fun l => (l.magic, l.formatVersion, l.deviceUuid, l.generation, l.leafIndex,
      l.startObjectId, l.objects))
    (fun _ => rfl)

def superblockFields : Format Superblock :=
  .map (.pair (named "magic" string) <| .pair (named "format_version" .nat) <|
      .pair (named "device_uuid" uuid) <| .pair (named "device_size" .nat) <|
      .pair (named "logical_sector_size" .nat) <| .pair (named "object_size" .nat) <|
      .pair (named "current_manifest_message_id" .int) <|
      .pair (named "manifest_generation" .nat) <| .pair (named "manifest_hash" .text) <|
      .pair (named "previous_manifest_message_id" optionalInt) <|
      .pair (named "previous_manifest_hash" optionalText) <|
      .pair (named "previous_manifest_generation" optionalNat) <|
      .pair (named "manifest_encoding" encoding) <|
      .pair (named "root_index_message_id" optionalInt) <|
      .pair (named "created_at" .nat) <| named "last_commit_at" .nat)
    (fun p => {
      magic := p.1
      formatVersion := p.2.1
      deviceUuid := p.2.2.1
      deviceSize := p.2.2.2.1
      logicalSectorSize := p.2.2.2.2.1
      objectSize := p.2.2.2.2.2.1
      currentManifestMessageId := p.2.2.2.2.2.2.1
      manifestGeneration := p.2.2.2.2.2.2.2.1
      manifestHash := p.2.2.2.2.2.2.2.2.1
      previousManifestMessageId := p.2.2.2.2.2.2.2.2.2.1
      previousManifestHash := p.2.2.2.2.2.2.2.2.2.2.1
      previousManifestGeneration := p.2.2.2.2.2.2.2.2.2.2.2.1
      manifestEncoding := p.2.2.2.2.2.2.2.2.2.2.2.2.1
      rootIndexMessageId := p.2.2.2.2.2.2.2.2.2.2.2.2.2.1
      createdAt := p.2.2.2.2.2.2.2.2.2.2.2.2.2.2.1
      lastCommitAt := p.2.2.2.2.2.2.2.2.2.2.2.2.2.2.2 })
    (fun s => (s.magic, s.formatVersion, s.deviceUuid, s.deviceSize, s.logicalSectorSize,
      s.objectSize, s.currentManifestMessageId, s.manifestGeneration, s.manifestHash,
      s.previousManifestMessageId, s.previousManifestHash, s.previousManifestGeneration,
      s.manifestEncoding, s.rootIndexMessageId, s.createdAt, s.lastCommitAt))
    (fun _ => rfl)

/-- The serializer of a format, into bytes. -/
@[reducible] def bytesSerde {α : Type} (F : Format α) : Serde Bytes α where
  ser := (Format.object F).putBytes
  de := (Format.object F).readBytes
  de_ser := (Format.object F).readBytes_putBytes

/-- SHA-256, and JSON as printed above. -/
@[reducible] def concreteCrates : Crates where
  digest := Sha256.hash
  length_digest := Sha256.length_hash
  manifestJson := bytesSerde manifestFields
  rootJson := bytesSerde rootFields
  leafJson := bytesSerde leafFields
  superblockJson := {
    ser := (Format.object superblockFields).put
    de := (Format.object superblockFields).read
    de_ser := (Format.object superblockFields).read_put }

/-- A device of eight bytes, in two objects. -/
def smallMap : BlockMap where
  deviceSize := 8
  logicalSectorSize := 2
  objectSize := 4
  deviceSize_lt := by decide
  objectSize_lt := by decide
  deviceAligned := by decide
  objectAligned := by decide

end TgDrive
