import TgDrive.Core.Device

/-!
# The Methods of a Block Device

Reading, writing and flushing, as programs over the operations of the device.
Each follows its source line by line, and each point where the source gives up
a lock or awaits an answer is the boundary of an operation.

The loops of `read_at` and `write_at` go through one object at a time. They
carry a bound on the number of rounds that the length of the request meets,
since a round takes at least one byte.

A flush keeps the manifest lock from the moment it has listed the dirty
objects until it returns, failures included, and works on the manifest in
place: what a failed flush has entered stays entered.

## Main definitions

* `padObject`: A payload cut or filled to the object size.
* `BlockDevice.readObject`: One object, from the dirty file, the cache or the
  backend.
* `BlockDevice.prefetchObjects`: Fill the cache for the next objects.
* `BlockDevice.writeDirtyObject`: Store one object as dirty.
* `Manifest.recordUpload`: Enter an uploaded object into the manifest.
* `BlockDevice.readAt`, `BlockDevice.writeAt`, `BlockDevice.flush`: The
  methods.
-/

namespace TgDrive

open Data Effect

/-- Cut or fill a payload to the object size. -/
def padObject (payload : Bytes) (objectSize : Nat) : Bytes :=
  payload.take objectSize ++ List.replicate (objectSize - payload.length) 0

/-- A dirty object entered into the manifest under its new reference. The
    reference it had becomes garbage. -/
def ManifestObject.uploaded (entry : ManifestObject) (dirty : DirtyObject)
    (remote : RemoteObjectRef) (sha : Text) : ManifestObject :=
  { entry with
    generation := dirty.generation
    remote := some remote
    sha256 := some sha
    zero := false }

/-- Apply a function to the first entry with an object id. -/
def updateFirst (objectId : Nat) (f : ManifestObject → ManifestObject) :
    List ManifestObject → List ManifestObject
  | [] => []
  | object :: rest =>
      if object.objectId = objectId then f object :: rest
      else object :: updateFirst objectId f rest

/-- Enter an uploaded object into the manifest, if the manifest has it. -/
def Manifest.recordUpload (m : Manifest) (dirty : DirtyObject) (remote : RemoteObjectRef)
    (sha : Text) : Option Manifest :=
  match m.find dirty.objectId with
  | none => none
  | some entry => some { m with
      objects := updateFirst dirty.objectId (fun e => e.uploaded dirty remote sha) m.objects
      garbage := m.garbage ++ entry.remote.toList }

/-- An object a prefetch will ask for. -/
structure PrefetchEntry where
  objectId : Nat
  generation : Nat
  sha256 : Text
  remote : RemoteObjectRef

section Crates

variable [Crates]

/-- Decode an envelope, its failure being the failure of the program. -/
def decodeEnvelope (encoded : Bytes) (objectId generation : Nat) :
    Prog deviceSig ObjectEnvelope :=
  match ObjectEnvelope.decode encoded objectId generation with
  | .ok envelope => .pure envelope
  | .error failure => .fail failure.message

namespace BlockDevice

/-- One object, padded to the object size. -/
def readObject (dev : BlockDevice) (objectId : Nat) : Prog deviceSig Bytes := do
  match ← disk (.readDirty objectId) with
  | some (dirty, encoded) =>
      Prog.ensure (sha256Hex encoded = dirty.sha256)
        s!"dirty cache checksum mismatch for object {objectId}"
      let envelope ← decodeEnvelope encoded objectId dirty.generation
      pure (padObject envelope.payload dev.map.objectSize)
  | none =>
      let manifest ← disk .peekManifest
      let entry ← Prog.ofOption (manifest.find objectId)
        s!"object {objectId} out of manifest range"
      if entry.zero then pure (List.replicate dev.map.objectSize 0)
      else
        let remote ← Prog.ofOption entry.remote s!"object {objectId} has no remote ref"
        let sha ← Prog.ofOption entry.sha256 s!"object {objectId} has no checksum"
        match ← disk (.readCache objectId entry.generation sha) with
        | some cached =>
            let envelope ← decodeEnvelope cached objectId entry.generation
            pure (padObject envelope.payload dev.map.objectSize)
        | none =>
            let encoded ← call (.fetchObject remote)
            Prog.ensure (sha256Hex encoded = sha)
              s!"remote checksum mismatch for object {objectId}"
            disk (.writeCache objectId entry.generation encoded)
            let envelope ← decodeEnvelope encoded objectId entry.generation
            pure (padObject envelope.payload dev.map.objectSize)

/-- The objects of a range that a prefetch has to ask for: those that are not
    dirty, not blank and not in the cache. An id the manifest does not have
    ends the range. -/
def collectPrefetch (dirtyIds : List Nat) (manifest : Manifest) :
    List Nat → Prog deviceSig (List PrefetchEntry)
  | [] => pure []
  | objectId :: rest =>
      if objectId ∈ dirtyIds then collectPrefetch dirtyIds manifest rest
      else match manifest.find objectId with
      | none => pure []
      | some entry =>
          if entry.zero then collectPrefetch dirtyIds manifest rest
          else match entry.remote, entry.sha256 with
          | some remote, some sha => do
              match ← disk (.readCache objectId entry.generation sha) with
              | some _ => collectPrefetch dirtyIds manifest rest
              | none =>
                  let entries ← collectPrefetch dirtyIds manifest rest
                  pure ({
                    objectId := objectId
                    generation := entry.generation
                    sha256 := sha
                    remote := remote } :: entries)
          | _, _ => collectPrefetch dirtyIds manifest rest

/-- Put a downloaded object into the cache, if it is the one asked for. -/
def storePrefetched (entry : PrefetchEntry) (encoded : Option Bytes) : Prog deviceSig Unit :=
  match encoded with
  | none => pure ()
  | some bytes =>
      if sha256Hex bytes ≠ entry.sha256 then pure ()
      else match ObjectEnvelope.decode bytes entry.objectId entry.generation with
      | .ok _ => disk (.writeCache entry.objectId entry.generation bytes)
      | .error _ => pure ()

/-- The ids of a range, cut at the greatest 64-bit integer. -/
def prefetchRange (startObjectId count : Nat) : List Nat :=
  List.range' startObjectId (min count (2 ^ 64 - 1 - startObjectId))

def prefetchObjects (startObjectId count : Nat) : Prog deviceSig Unit := do
  let dirty ← disk .dirtyObjects
  disk .lockManifest
  let manifest ← disk .getManifest
  let collected ← (collectPrefetch (dirty.map DirtyObject.objectId) manifest
    (prefetchRange startObjectId count)).attempt
  -- The lock goes with the loop, whether it failed or not.
  disk .unlockManifest
  let entries ← Prog.ofExcept collected
  if entries.isEmpty then pure ()
  else
    let messages ← call (.getMessagesById (entries.map (fun e => e.remote.messageId)))
    (entries.zip messages).foldlM (fun _ p => storePrefetched p.1 p.2) ()

/-- Store one object as dirty, under the generation after the manifest's. -/
def writeDirtyObject (dev : BlockDevice) (objectId : Nat) (object : Bytes) (offset len : Nat) :
    Prog deviceSig Unit := do
  let dirtyCount ← disk .dirtyCount
  Prog.ensure (dirtyCount < dev.maxDirtyObjects) "dirty object backpressure limit reached"
  let manifest ← disk .peekManifest
  let generation ← Prog.ofExcept (checkedAdd manifest.generation 1)
  let envelope : ObjectEnvelope := {
    objectId := objectId
    generation := generation
    objectSize := dev.map.objectSize
    flags := 0
    payload := padObject object dev.map.objectSize }
  disk (.storeDirty objectId generation envelope.encode offset len)

/-- The rounds of a read, with what was read and where it ended. -/
def readLoop (dev : BlockDevice) : Nat → Nat → Nat → Bytes → Prog deviceSig (Bytes × Nat)
  | _, cursor, 0, out => pure (out, cursor)
  | 0, _, _ + 1, _ => .fail "out of rounds"
  | rounds + 1, cursor, left + 1, out => do
      let (objectId, objectOffset) ← Prog.ofExcept (dev.map.locate cursor)
      let take := min (left + 1) (dev.map.objectSize - objectOffset)
      let object ← dev.readObject objectId
      dev.readLoop rounds (cursor + take) (left + 1 - take)
        (out ++ (object.drop objectOffset).take take)

def readAt (dev : BlockDevice) (offset len : Nat) : Prog deviceSig Bytes := do
  let stop ← Prog.ofExcept (checkedAdd offset len)
  Prog.ensure (stop ≤ dev.map.deviceSize) "read out of bounds"
  let (out, cursor) ← dev.readLoop len offset len []
  if cursor < dev.map.deviceSize then
    match dev.map.locate cursor with
    | .ok (nextObjectId, 0) =>
        let _ ← (prefetchObjects nextObjectId dev.readAheadObjects).attempt
        pure out
    | _ => pure out
  else pure out

/-- An object with a run of bytes written over it from an offset on. -/
def overwrite (object : Bytes) (objectOffset : Nat) (bytes : Bytes) : Bytes :=
  object.take objectOffset ++ bytes ++ object.drop (objectOffset + bytes.length)

/-- The rounds of a write. -/
def writeLoop (dev : BlockDevice) : Nat → Nat → Bytes → Prog deviceSig Unit
  | _, _, [] => pure ()
  | 0, _, _ :: _ => .fail "out of rounds"
  | rounds + 1, cursor, b :: bs => do
      let (objectId, objectOffset) ← Prog.ofExcept (dev.map.locate cursor)
      let take := min (bs.length + 1) (dev.map.objectSize - objectOffset)
      let object ← if objectOffset = 0 ∧ take = dev.map.objectSize then
          pure (List.replicate dev.map.objectSize 0)
        else dev.readObject objectId
      dev.writeDirtyObject objectId (overwrite object objectOffset ((b :: bs).take take))
        objectOffset take
      dev.writeLoop rounds (cursor + take) ((b :: bs).drop take)

def writeAt (dev : BlockDevice) (offset : Nat) (bytes : Bytes) : Prog deviceSig Unit := do
  let stop ← Prog.ofExcept (checkedAdd offset bytes.length)
  Prog.ensure (stop ≤ dev.map.deviceSize) "write out of bounds"
  dev.writeLoop bytes.length offset bytes

/-- Upload one dirty object and enter it into the manifest. -/
def uploadDirty (manifest : Manifest) (dirty : DirtyObject) : Prog deviceSig Manifest := do
  let encoded ← disk (.readFile dirty.cachePath)
  let _ ← decodeEnvelope encoded dirty.objectId dirty.generation
  Prog.ensure (sha256Hex encoded = dirty.sha256) "dirty cache checksum mismatch"
  let remote ← call (.sendObject dirty.objectId dirty.generation encoded (sha256Hex encoded))
  let manifest ← Prog.ofOption (manifest.recordUpload dirty remote (sha256Hex encoded))
    s!"manifest missing object {dirty.objectId}"
  disk (.setManifest manifest)
  pure manifest

/-- The greatest generation of the dirty objects. -/
def newGeneration (dirty : List DirtyObject) (fallback : Nat) : Nat :=
  ((dirty.map DirtyObject.generation).max?).getD fallback

/-- The part of a flush that holds the manifest lock. -/
def flushLocked (dev : BlockDevice) (dirty : List DirtyObject) : Prog deviceSig Unit := do
  let manifest ← disk .getManifest
  -- The fallback is an argument, so it is computed although it is not used.
  let fallback ← Prog.ofExcept (checkedAdd manifest.generation 1)
  let manifest := { manifest with generation := newGeneration dirty fallback }
  disk (.setManifest manifest)
  let manifest ← dirty.foldlM uploadDirty manifest
  if dev.committer then
    call (.commitManifest manifest dev.map.deviceSize dev.map.logicalSectorSize
      dev.map.objectSize)
  else pure ()
  disk (.commitLocal manifest)

def flush (dev : BlockDevice) : Prog deviceSig Unit := do
  let dirty ← disk .dirtyObjects
  if dirty.isEmpty then pure ()
  else
    disk .lockManifest
    let result ← (dev.flushLocked dirty).attempt
    disk .unlockManifest
    Prog.ofExcept result

end BlockDevice

end Crates

end TgDrive
