import TgDrive.Core.Backend
import TgDrive.Telegram.Channel

/-!
# The Telegram Client

`TelegramStorage`: what the program does with a channel. An object is a
document in an envelope, a manifest is an object of its own or a tree of them,
and a superblock is a text that names the newest manifest. The first
superblock is pinned; later ones are sent beside it and the pin stays where it
is. The newest manifest is found by looking through the last messages for the
superblock with the greatest generation, and by asking for the pinned message
when there is none.

The connection, the login and the limits on concurrent transfers are left out,
and so is the variable that makes a commit abort after its manifest.

## Main definitions

* `TelegramStorage`: A connection to a channel.
* `TelegramStorage.sendObject`, `TelegramStorage.fetchObject`,
  `TelegramStorage.getMessagesById`: Objects.
* `TelegramStorage.upsertPinnedSuperblock`,
  `TelegramStorage.recoverSuperblockText`: Superblocks.
* `TelegramStorage.commit`: Committing a manifest.
* `TelegramStorage.fetchManifestFromSuperblock`: The way back.
* `TelegramStorage.backend`: The channel as a backend.
-/

namespace TgDrive

open Data Effect

/-- A request to Telegram. -/
def request (e : TgOp) : Prog tgSig e.Resp := Prog.perform (S := tgSig) e

/-- A connection to the channel. The id of the channel is put into the
    references it hands out. -/
structure TelegramStorage where
  chatId : Int

/-- The text beside an object. -/
def caption (objectId generation : Nat) (sha256 : Text) : Text :=
  "TGDRIVE object=".toList ++ (toString objectId).toList ++ " generation=".toList ++
    (toString generation).toList ++ " sha256=".toList ++ sha256

section Crates

variable [Crates]

/-- Decode an envelope, its failure being the failure of the program. -/
def openEnvelope (encoded : Bytes) (objectId generation : Nat) : Prog tgSig ObjectEnvelope :=
  match ObjectEnvelope.decode encoded objectId generation with
  | .ok envelope => .pure envelope
  | .error failure => .fail failure.message

/-- Whether a superblock is better than the best one so far. -/
def improves (best : Option (Nat × Text)) (superblock : Superblock) : Bool :=
  match best with
  | none => true
  | some (generation, _) => decide (generation < superblock.manifestGeneration)

/-- The best superblock of a run of messages, after those seen before. -/
def bestSuperblock : Option (Nat × Text) → List Message → Option (Nat × Text)
  | best, [] => best
  | best, message :: rest => match Superblock.decodeText message.text with
    | .ok superblock =>
        if improves best superblock then
          bestSuperblock (some (superblock.manifestGeneration, message.text)) rest
        else bestSuperblock best rest
    | .error _ => bestSuperblock best rest

namespace TelegramStorage

variable (storage : TelegramStorage)

def sendObject (objectId generation : Nat) (payload : Bytes) (sha256 : Text) :
    Prog tgSig RemoteObjectRef := do
  let _ ← openEnvelope payload objectId generation
  let id ← request (.sendDocument (caption objectId generation sha256) payload)
  pure {
    chatId := storage.chatId
    messageId := id
    objectId := objectId
    generation := generation
    sha256 := sha256 }

/-- The document of a message, if there is a message. -/
def downloadMessageMedia : Option Message → Prog tgSig (Option Bytes)
  | none => pure none
  | some message => do
      let media ← Prog.ofOption message.media s!"message {message.id} has no media"
      let bytes ← request (.download media)
      pure (some bytes)

/-- One request of at most a hundred ids, and the documents it leads to. -/
def getMessagesChunk (out : List (Option Bytes)) (chunk : List Int) :
    Prog tgSig (List (Option Bytes)) := do
  let messages ← request (.getMessages chunk)
  messages.foldlM (fun out message => do
    let bytes ← downloadMessageMedia message
    pure (out ++ [bytes])) out

def getMessagesById (ids : List Int) : Prog tgSig (List (Option Bytes)) :=
  (chunks 100 ids).foldlM getMessagesChunk []

def fetchObject (reference : RemoteObjectRef) : Prog tgSig Bytes := do
  let messages ← getMessagesById [reference.messageId]
  let payload ← Prog.ofOption (messages.head?.bind id) s!"message {reference.messageId} not found"
  let _ ← openEnvelope payload reference.objectId reference.generation
  Prog.ensure (sha256Hex payload = reference.sha256) "remote payload checksum mismatch"
  pure payload

def sendSuperblockBackup (text : Text) : Prog tgSig Int := request (.sendText text)

/-- Send a superblock. Where one is pinned already it is sent beside it. -/
def upsertPinnedSuperblock (text : Text) : Prog tgSig Int := do
  match ← request .getPinned with
  | some message =>
      if superblockPrefix.isPrefixOf message.text then do
        let _ ← sendSuperblockBackup text
        pure message.id
      else pinNew text
  | none => pinNew text
where
  /-- Send a superblock, pin it and send it once more. -/
  pinNew (text : Text) : Prog tgSig Int := do
    let id ← request (.sendText text)
    request (.pin id)
    let _ ← sendSuperblockBackup text
    pure id

def pinnedSuperblockText : Prog tgSig (Option Text) := do
  let message ← request .getPinned
  pure (message.map (fun m => m.text))

def recoverSuperblockText (scanLimit : Nat) : Prog tgSig (Option Text) := do
  let messages ← request (.iterMessages scanLimit)
  match bestSuperblock none messages with
  | some (_, text) => pure (some text)
  | none =>
      let text ← pinnedSuperblockText
      pure (text.bind (fun t => match Superblock.decodeText t with
        | .ok _ => some t
        | .error _ => none))

/-- One leaf of a tree, which has to be the one its reference names. -/
def openLeaf (leafRef : ManifestTreeLeafRef) (encoded : Option Bytes) :
    Prog tgSig ManifestTreeLeaf := do
  let encoded ← Prog.ofOption encoded s!"manifest leaf {leafRef.leafIndex} missing"
  let envelope ← openEnvelope encoded leafRef.remote.objectId leafRef.remote.generation
  Prog.ensure (sha256Hex encoded = leafRef.remote.sha256) "manifest leaf checksum mismatch"
  Prog.ofExcept (ManifestTreeLeaf.decodeJson envelope.payload)

def fetchManifestTreeLeaves (root : ManifestTreeRoot) : Prog tgSig (List ManifestTreeLeaf) := do
  let messages ← getMessagesById (root.leaves.map (fun leaf => leaf.remote.messageId))
  (root.leaves.zip messages).foldlM (fun leaves p => do
    let leaf ← openLeaf p.1 p.2
    pure (leaves ++ [leaf])) []

/-- The reference to the manifest that a superblock names. -/
def rootRef (superblock : Superblock) : RemoteObjectRef :=
  { chatId := storage.chatId
    messageId := superblock.currentManifestMessageId
    objectId := manifestObjectId
    generation := superblock.manifestGeneration
    sha256 := superblock.manifestHash }

def fetchManifestFromSuperblock (superblock : Superblock) : Prog tgSig Manifest := do
  let rootRef := storage.rootRef superblock
  match superblock.manifestEncoding with
  | .flatJson =>
      let encoded ← fetchObject rootRef
      let envelope ← openEnvelope encoded manifestObjectId rootRef.generation
      Prog.ofExcept (Manifest.decodeJson envelope.payload)
  | .tree =>
      let encoded ← fetchObject rootRef
      let envelope ← openEnvelope encoded manifestObjectId rootRef.generation
      let root ← Prog.ofExcept (ManifestTreeRoot.decodeJson envelope.payload)
      let leaves ← fetchManifestTreeLeaves root
      Prog.ofExcept (Manifest.fromTreeRootAndLeaves root leaves)

/-- An object of the manifest's own, in its envelope. -/
def sendEnvelope (objectId generation objectSize : Nat) (payload : Bytes) :
    Prog tgSig RemoteObjectRef :=
  let envelope : ObjectEnvelope := {
    objectId := objectId
    generation := generation
    objectSize := objectSize
    flags := 0
    payload := payload }
  storage.sendObject objectId generation envelope.encode (sha256Hex envelope.encode)

/-- Send one leaf of a manifest. -/
def sendLeaf (manifest : Manifest) (objectSize : Nat) (refs : List ManifestTreeLeafRef)
    (leaf : ManifestTreeLeaf) : Prog tgSig (List ManifestTreeLeafRef) := do
  let remote ← storage.sendEnvelope (ManifestTreeLeaf.objectIdForIndex leaf.leafIndex)
    manifest.generation objectSize leaf.encodeJson
  pure (refs ++ [{
    leafIndex := leaf.leafIndex
    startObjectId := leaf.startObjectId
    objectCount := leaf.objects.length
    remote := remote }])

def sendManifestTree (manifest : Manifest) (objectSize : Nat) : Prog tgSig RemoteObjectRef := do
  let refs ← (manifest.treeLeaves manifestTreeLeafSpan).foldlM
    (storage.sendLeaf manifest objectSize) []
  let root : ManifestTreeRoot := {
    magic := "TGDRIVE_MANIFEST_ROOT"
    formatVersion := 1
    deviceUuid := manifest.deviceUuid
    generation := manifest.generation
    objectSize := manifest.objectSize
    objectCount := manifest.objectCount
    leafSpan := manifestTreeLeafSpan
    leaves := refs
    garbage := manifest.garbage }
  let rootRef ← storage.sendEnvelope manifestObjectId manifest.generation objectSize
    root.encodeJson
  let _ ← fetchObject rootRef
  pure rootRef

/-- Whether a manifest is stored as a tree. -/
def usesTree (manifest : Manifest) : Bool := decide (manifestTreeLeafSpan < manifest.objects.length)

/-- Send a manifest, as one object or as a tree. -/
def sendManifest (manifest : Manifest) (objectSize : Nat) : Prog tgSig RemoteObjectRef :=
  if usesTree manifest then storage.sendManifestTree manifest objectSize
  else do
    let manifestRef ← storage.sendEnvelope manifestObjectId manifest.generation objectSize
      manifest.encodeJson
    let _ ← fetchObject manifestRef
    pure manifestRef

/-- The superblock of a manifest that was sent. -/
def superblockFor (manifest : Manifest) (deviceSize logicalSectorSize objectSize now : Nat)
    (manifestRef : RemoteObjectRef) (previous : Option Superblock) : Superblock :=
  if usesTree manifest then
    Superblock.forTreeManifest now manifest.deviceUuid deviceSize logicalSectorSize objectSize
      manifestRef previous
  else
    Superblock.forManifest now manifest.deviceUuid deviceSize logicalSectorSize objectSize
      manifestRef previous

/-- Commit a manifest. The answer is the superblock that was sent, which the
    source does not return. -/
def commit (manifest : Manifest) (deviceSize logicalSectorSize objectSize : Nat) :
    Prog tgSig Superblock := do
  let manifestRef ← storage.sendManifest manifest objectSize
  let previous ← pinnedSuperblockText
  let previous := previous.bind (fun text => (Superblock.decodeText text).toOption)
  let now ← request .now
  let superblock := superblockFor manifest deviceSize logicalSectorSize objectSize now
    manifestRef previous
  let _ ← upsertPinnedSuperblock superblock.encodeText
  pure superblock

def commitManifest (manifest : Manifest) (deviceSize logicalSectorSize objectSize : Nat) :
    Prog tgSig Unit := do
  let _ ← storage.commit manifest deviceSize logicalSectorSize objectSize
  pure ()

/-- The calls of a block device, as programs of the client. -/
def program : (c : Call) → Prog tgSig c.Resp
  | .sendObject objectId generation payload sha256 =>
      storage.sendObject objectId generation payload sha256
  | .fetchObject reference => fetchObject reference
  | .getMessagesById ids => getMessagesById ids
  | .commitManifest manifest deviceSize logicalSectorSize objectSize =>
      storage.commitManifest manifest deviceSize logicalSectorSize objectSize

/-- The channel as a backend: a call is any execution of its program. -/
def backend : Backend Channel where
  step c s r s' := Exec Telegram (storage.program c) s (.done r) s'
  crash c s s' := Exec Telegram (storage.program c) s .crashed s'

/-- The backend of a channel that carries out every request. -/
def run (c : Call) (s : Channel) : Except String c.Resp × Channel :=
  (storage.program c).eval Channel.run s

end TelegramStorage

end Crates

end TgDrive
