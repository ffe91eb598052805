import TgDrive.Core.Primitives
import TgDrive.Data.BigEndian
import Mathlib.Data.List.Sort

/-!
# Stored Formats

What the program writes to the channel and reads back: the envelope around
each object, the superblock, and the manifest with its tree encoding.

An envelope is a 76-byte header followed by the payload. Decoding checks the
header against the object id and generation the caller expects, the length
against the number of bytes, and the payload against its checksum. The length
field is a full 64-bit integer and is added to the header length before it is
compared, so a hostile length makes the addition overflow; `DecodeFailure`
keeps that panic apart from the errors of the format.

A manifest lists the objects of a device. Above a number of objects it is
stored as a tree: its objects cut into leaves, each in its own envelope, and a
root that names them. `fromTreeRootAndLeaves` is the way back, with a check
for each way a leaf can be wrong.

Times are numbers of an unspecified unit, and a UUID is the number it spells.

## Main definitions

* `RemoteObjectRef`: Where an uploaded object is.
* `FormatError`, `DecodeFailure`: Why an envelope is not decoded.
* `ObjectEnvelope.encode`, `ObjectEnvelope.decode`: The envelope.
* `Manifest`, `ManifestObject`: The objects of a device.
* `Manifest.treeLeaves`, `Manifest.fromTreeRootAndLeaves`: The tree encoding.
* `Crates`: The digest and the serializers together.
* `Superblock.forManifest`, `Superblock.forTreeManifest`: A new superblock.
* `Superblock.encodeText`, `Superblock.decodeText`: Its message text.
-/

namespace TgDrive

open Data

/-- A reference to an object in the remote store. -/
structure RemoteObjectRef where
  chatId : Int
  messageId : Int
  objectId : Nat
  generation : Nat
  sha256 : Text
  deriving DecidableEq

def tgdriveMagic : Bytes := [84, 71, 68, 82, 86, 48, 48, 49]
def manifestObjectId : Nat := 2 ^ 64 - 1 - 1
def manifestTreeLeafBaseObjectId : Nat := 2 ^ 64 - 1 - 1000000
def manifestTreeLeafSpan : Nat := 4096
def objectHeaderLen : Nat := 8 + 2 + 2 + 8 + 8 + 8 + 4 + 32 + 4

inductive FormatError : Type
  | invalidMagic
  | unsupportedVersion (version : Nat)
  | truncated
  | objectIdMismatch (expected actual : Nat)
  | generationMismatch (expected actual : Nat)
  | checksumMismatch
  | payloadLengthMismatch
  deriving DecidableEq

/-- The text of each error. -/
def FormatError.message : FormatError → String
  | .invalidMagic => "invalid magic"
  | .unsupportedVersion v => s!"unsupported format version {v}"
  | .truncated => "truncated object"
  | .objectIdMismatch e a => s!"object id mismatch: expected {e}, got {a}"
  | .generationMismatch e a => s!"generation mismatch: expected {e}, got {a}"
  | .checksumMismatch => "checksum mismatch"
  | .payloadLengthMismatch => "payload length mismatch"

/-- Why an envelope is not decoded: the format is wrong, or adding the header
    length to the length field overflows, which is a panic. -/
inductive DecodeFailure : Type
  | format (e : FormatError)
  | overflow
  deriving DecidableEq

def DecodeFailure.message : DecodeFailure → String
  | .format e => e.message
  | .overflow => "attempt to add with overflow"

structure ObjectEnvelope where
  objectId : Nat
  generation : Nat
  objectSize : Nat
  flags : Nat
  payload : Bytes
  deriving DecidableEq

/-- The bytes from index `i` up to, but not including, index `j`. -/
def slice (b : Bytes) (i j : Nat) : Bytes := (b.drop i).take (j - i)

section Envelope

variable [Sha256]

/-- The header of an envelope: everything in front of the payload. -/
def ObjectEnvelope.header (e : ObjectEnvelope) : Bytes :=
  tgdriveMagic ++ toBe 2 1 ++ toBe 2 0 ++ toBe 8 e.objectId ++ toBe 8 e.generation ++
    toBe 8 e.payload.length ++ toBe 4 e.objectSize ++ Sha256.digest e.payload ++ toBe 4 e.flags

def ObjectEnvelope.encode (e : ObjectEnvelope) : Bytes := e.header ++ e.payload

/-- Read an envelope that has to carry the given object id and generation.
    The checks come in the order of the source. -/
def ObjectEnvelope.decode (bytes : Bytes) (expectedObjectId expectedGeneration : Nat) :
    Except DecodeFailure ObjectEnvelope :=
  if bytes.length < objectHeaderLen then .error (.format .truncated)
  else if slice bytes 0 8 ≠ tgdriveMagic then .error (.format .invalidMagic)
  else if fromBe (slice bytes 8 10) ≠ 1 then
    .error (.format (.unsupportedVersion (fromBe (slice bytes 8 10))))
  else if fromBe (slice bytes 12 20) ≠ expectedObjectId then
    .error (.format (.objectIdMismatch expectedObjectId (fromBe (slice bytes 12 20))))
  else if fromBe (slice bytes 20 28) ≠ expectedGeneration then
    .error (.format (.generationMismatch expectedGeneration (fromBe (slice bytes 20 28))))
  -- The length field is added to the header length before it is compared.
  else if 2 ^ 64 ≤ objectHeaderLen + fromBe (slice bytes 28 36) then .error .overflow
  else if bytes.length ≠ objectHeaderLen + fromBe (slice bytes 28 36) then
    .error (.format .payloadLengthMismatch)
  else if Sha256.digest (bytes.drop objectHeaderLen) ≠ slice bytes 40 72 then
    .error (.format .checksumMismatch)
  else .ok {
    objectId := fromBe (slice bytes 12 20)
    generation := fromBe (slice bytes 20 28)
    objectSize := fromBe (slice bytes 36 40)
    flags := fromBe (slice bytes 72 76)
    payload := bytes.drop objectHeaderLen }

end Envelope

structure Uuid where
  bits : Nat
  deriving DecidableEq

inductive ManifestEncoding : Type
  | flatJson
  | tree
  deriving DecidableEq

structure ManifestObject where
  objectId : Nat
  generation : Nat
  remote : Option RemoteObjectRef
  sha256 : Option Text
  zero : Bool
  deriving DecidableEq

structure Manifest where
  magic : String
  formatVersion : Nat
  deviceUuid : Uuid
  generation : Nat
  objectSize : Nat
  objectCount : Nat
  objects : List ManifestObject
  garbage : List RemoteObjectRef
  deriving DecidableEq

structure ManifestTreeLeafRef where
  leafIndex : Nat
  startObjectId : Nat
  objectCount : Nat
  remote : RemoteObjectRef
  deriving DecidableEq

structure ManifestTreeRoot where
  magic : String
  formatVersion : Nat
  deviceUuid : Uuid
  generation : Nat
  objectSize : Nat
  objectCount : Nat
  leafSpan : Nat
  leaves : List ManifestTreeLeafRef
  garbage : List RemoteObjectRef
  deriving DecidableEq

structure ManifestTreeLeaf where
  magic : String
  formatVersion : Nat
  deviceUuid : Uuid
  generation : Nat
  leafIndex : Nat
  startObjectId : Nat
  objects : List ManifestObject
  deriving DecidableEq

structure Superblock where
  magic : String
  formatVersion : Nat
  deviceUuid : Uuid
  deviceSize : Nat
  logicalSectorSize : Nat
  objectSize : Nat
  currentManifestMessageId : Int
  manifestGeneration : Nat
  manifestHash : Text
  previousManifestMessageId : Option Int
  previousManifestHash : Option Text
  previousManifestGeneration : Option Nat
  manifestEncoding : ManifestEncoding
  rootIndexMessageId : Option Int
  createdAt : Nat
  lastCommitAt : Nat
  deriving DecidableEq

/-- The manifest entry of an object that was never written. -/
def ManifestObject.zeroEntry (objectId : Nat) : ManifestObject :=
  { objectId := objectId, generation := 0, remote := none, sha256 := none, zero := true }

/-- The manifest of a blank device. -/
def Manifest.empty (deviceUuid : Uuid) (objectSize objectCount : Nat) : Manifest :=
  { magic := "TGDRIVE_MANIFEST"
    formatVersion := 1
    deviceUuid := deviceUuid
    generation := 0
    objectSize := objectSize
    objectCount := objectCount
    objects := (List.range objectCount).map ManifestObject.zeroEntry
    garbage := [] }

/-- The first entry with an object id, as `iter().find` returns it. -/
def Manifest.find (m : Manifest) (objectId : Nat) : Option ManifestObject :=
  m.objects.find? (fun object => decide (object.objectId = objectId))

/-- The leaf with a given index, holding one chunk of the objects. -/
def Manifest.treeLeaf (m : Manifest) (leafIndex : Nat) (objects : List ManifestObject) :
    ManifestTreeLeaf :=
  { magic := "TGDRIVE_MANIFEST_LEAF"
    formatVersion := 1
    deviceUuid := m.deviceUuid
    generation := m.generation
    leafIndex := leafIndex
    startObjectId := (objects.head?.map (fun object => object.objectId)).getD 0
    objects := objects }

/-- The objects cut into leaves of `leafSpan` objects. -/
def Manifest.treeLeaves (m : Manifest) (leafSpan : Nat) : List ManifestTreeLeaf :=
  (chunks leafSpan m.objects).mapIdx m.treeLeaf

/-- The objects of the leaves, which have to be those of the root, in order
    and without gaps from a given index on. -/
def collectLeaves (root : ManifestTreeRoot) :
    Nat → List ManifestTreeLeaf → Except String (List ManifestObject)
  | _, [] => .ok []
  | expectedIndex, leaf :: rest =>
      if leaf.magic ≠ "TGDRIVE_MANIFEST_LEAF" then .error "invalid manifest leaf magic"
      else if leaf.formatVersion ≠ 1 then .error "unsupported manifest leaf version"
      else if leaf.deviceUuid ≠ root.deviceUuid then .error "manifest leaf UUID mismatch"
      else if leaf.generation ≠ root.generation then .error "manifest leaf generation mismatch"
      else if leaf.leafIndex ≠ expectedIndex then .error "manifest leaf index mismatch"
      else match collectLeaves root (expectedIndex + 1) rest with
        | .ok objects => .ok (leaf.objects ++ objects)
        | .error msg => .error msg

/-- Put a manifest back together from its root and leaves, in any order. -/
def Manifest.fromTreeRootAndLeaves (root : ManifestTreeRoot) (leaves : List ManifestTreeLeaf) :
    Except String Manifest :=
  match collectLeaves root 0
      (leaves.insertionSort (fun a b => a.leafIndex ≤ b.leafIndex)) with
  | .error msg => .error msg
  | .ok objects =>
      if objects.length ≠ root.objectCount then .error "manifest tree object count mismatch"
      else if objects.map (fun object => object.objectId) ≠ List.range objects.length then
        .error "manifest tree object id mismatch"
      else .ok {
        magic := "TGDRIVE_MANIFEST"
        formatVersion := 1
        deviceUuid := root.deviceUuid
        generation := root.generation
        objectSize := root.objectSize
        objectCount := root.objectCount
        objects := objects
        garbage := root.garbage }

/-- The object id under which a leaf is stored. -/
def ManifestTreeLeaf.objectIdForIndex (leafIndex : Nat) : Nat :=
  manifestTreeLeafBaseObjectId - leafIndex

/-- What the program takes from other crates: the digest, and the JSON form of
    everything it stores. -/
class Crates extends Sha256 where
  manifestJson : Serde Bytes Manifest
  rootJson : Serde Bytes ManifestTreeRoot
  leafJson : Serde Bytes ManifestTreeLeaf
  superblockJson : Serde Text Superblock

instance [c : Crates] : Serde Bytes Manifest := c.manifestJson
instance [c : Crates] : Serde Bytes ManifestTreeRoot := c.rootJson
instance [c : Crates] : Serde Bytes ManifestTreeLeaf := c.leafJson
instance [c : Crates] : Serde Text Superblock := c.superblockJson

section Json

variable [Crates]

def Manifest.encodeJson (m : Manifest) : Bytes := Serde.ser m

def Manifest.decodeJson (b : Bytes) : Except String Manifest :=
  match (Serde.de b : Option Manifest) with
  | some m => .ok m
  | none => .error "invalid manifest JSON"

@[simp] theorem Manifest.decodeJson_encodeJson (m : Manifest) :
    Manifest.decodeJson m.encodeJson = .ok m := by
  rw [decodeJson, encodeJson, Serde.de_ser]

def Manifest.hashHex (m : Manifest) : Text := sha256Hex m.encodeJson

def ManifestTreeRoot.encodeJson (r : ManifestTreeRoot) : Bytes := Serde.ser r

def ManifestTreeRoot.decodeJson (b : Bytes) : Except String ManifestTreeRoot :=
  match (Serde.de b : Option ManifestTreeRoot) with
  | some r => .ok r
  | none => .error "invalid manifest root JSON"

@[simp] theorem ManifestTreeRoot.decodeJson_encodeJson (r : ManifestTreeRoot) :
    ManifestTreeRoot.decodeJson r.encodeJson = .ok r := by
  rw [decodeJson, encodeJson, Serde.de_ser]

def ManifestTreeLeaf.encodeJson (l : ManifestTreeLeaf) : Bytes := Serde.ser l

def ManifestTreeLeaf.decodeJson (b : Bytes) : Except String ManifestTreeLeaf :=
  match (Serde.de b : Option ManifestTreeLeaf) with
  | some l => .ok l
  | none => .error "invalid manifest leaf JSON"

@[simp] theorem ManifestTreeLeaf.decodeJson_encodeJson (l : ManifestTreeLeaf) :
    ManifestTreeLeaf.decodeJson l.encodeJson = .ok l := by
  rw [decodeJson, encodeJson, Serde.de_ser]

/-- The superblock of a manifest stored in one message. The creation time and
    the pointers back come from the superblock it follows, if there is one. -/
def Superblock.forManifest (now : Nat) (deviceUuid : Uuid)
    (deviceSize logicalSectorSize objectSize : Nat) (manifestRef : RemoteObjectRef)
    (previous : Option Superblock) : Superblock :=
  { magic := "TGDRIVE_SUPERBLOCK"
    formatVersion := 1
    deviceUuid := deviceUuid
    deviceSize := deviceSize
    logicalSectorSize := logicalSectorSize
    objectSize := objectSize
    currentManifestMessageId := manifestRef.messageId
    manifestGeneration := manifestRef.generation
    manifestHash := manifestRef.sha256
    previousManifestMessageId := previous.map (fun s => s.currentManifestMessageId)
    previousManifestHash := previous.map (fun s => s.manifestHash)
    previousManifestGeneration := previous.map (fun s => s.manifestGeneration)
    manifestEncoding := .flatJson
    rootIndexMessageId := none
    createdAt := (previous.map (fun s => s.createdAt)).getD now
    lastCommitAt := now }

/-- The superblock of a manifest stored as a tree. -/
def Superblock.forTreeManifest (now : Nat) (deviceUuid : Uuid)
    (deviceSize logicalSectorSize objectSize : Nat) (rootRef : RemoteObjectRef)
    (previous : Option Superblock) : Superblock :=
  { Superblock.forManifest now deviceUuid deviceSize logicalSectorSize objectSize rootRef
      previous with
    manifestEncoding := .tree
    rootIndexMessageId := some rootRef.messageId }

/-- The first line of a superblock message. -/
def superblockPrefix : Text := "TGDRIVE_SUPERBLOCK_V1\n".toList

def Superblock.encodeText (s : Superblock) : Text := superblockPrefix ++ Serde.ser s

def Superblock.decodeText (text : Text) : Except String Superblock :=
  match stripPrefix superblockPrefix text with
  | none => .error "missing superblock prefix"
  | some json => match (Serde.de json : Option Superblock) with
    | some s => .ok s
    | none => .error "invalid superblock JSON"

@[simp] theorem Superblock.decodeText_encodeText (s : Superblock) :
    Superblock.decodeText s.encodeText = .ok s := by
  rw [decodeText, encodeText, stripPrefix_append]
  simp only [Serde.de_ser]

end Json

end TgDrive
