import TgDrive.Core.Format
import TgDrive.Data.Table
import TgDrive.Effect.Atomic
import Mathlib.Logic.Function.Basic

/-!
# The Local Store

The SQLite database and the directory of cached objects beside it. A cached
object is a file named by an object id and a generation, and nothing else
decides its name: two contents of one object in one generation share a file.

Every operation is the list of its persistent effects in the order of the
source, each `fs::write`, each SQL statement and each transaction being one.
The order matters more than the operations do, since what a crash leaves is a
prefix of it. The file of a write is overwritten in place before the row that
carries its checksum.

Object ids are stored as signed integers, so `ORDER BY object_id` puts the ids
from `2 ^ 63` on first. Access times, and the two tables nothing reads back,
are left out.

## Main definitions

* `CachePath`: The name of a cached object.
* `LocalStore`: The tables and the files.
* `LocalStore.writeCache`: Store a file and its row.
* `LocalStore.markDirty`: Record an object as dirty, with its WAL range.
* `LocalStore.readCache`: A cached object, if it is there and intact.
* `LocalStore.replaceFromManifest`: Replace the stored manifest.
* `LocalStore.clearDirtyAndWal`: Forget all dirty objects.
* `LocalStore.loadManifest`: The stored manifest.

## Theorems

* `mem_dirtyRows`: The dirty objects listed are those found by id.
* `dirtyObject_writeFile`, `files_upsertDirty`: What an operation leaves alone.
* `dirtyObject_clear`: A flush leaves no dirty object.
* `loadManifest_setManifestState`: A manifest that is stored is loaded again.
-/

namespace TgDrive

open Data Effect

/-- The file of a cached object, below the cache directory. -/
structure CachePath where
  objectId : Nat
  generation : Nat
  deriving DecidableEq

structure DirtyObject where
  objectId : Nat
  generation : Nat
  cachePath : CachePath
  sha256 : Text
  deriving DecidableEq

structure WalEntry where
  objectId : Nat
  offset : Nat
  len : Nat
  generation : Nat
  sha256 : Text
  deriving DecidableEq

structure CacheEntry where
  objectId : Nat
  generation : Nat
  cachePath : CachePath
  sha256 : Text
  dirty : Bool
  deriving DecidableEq

def CacheEntry.key (e : CacheEntry) : Nat × Nat := (e.objectId, e.generation)

/-- The single row of `manifest_state`. -/
structure ManifestState where
  deviceUuid : Uuid
  generation : Nat
  manifestHash : Text
  manifestJson : Bytes
  deriving DecidableEq

structure LocalStore where
  manifestState : Option ManifestState
  dirtyObjects : Table DirtyObject.objectId
  walEntries : List WalEntry
  cacheEntries : Table CacheEntry.key
  files : CachePath → Option Bytes

/-- A number of 64 bits as the database stores it. -/
def asSigned (n : Nat) : Int := if n < 2 ^ 63 then n else n - 2 ^ 64

namespace LocalStore

/-- A store just created. -/
def empty : LocalStore :=
  { manifestState := none
    dirtyObjects := Table.empty
    walEntries := []
    cacheEntries := Table.empty
    files := fun _ => none }

def cachePath (objectId generation : Nat) : CachePath := ⟨objectId, generation⟩

/-- The dirty object with an id. -/
def dirtyObject (s : LocalStore) (objectId : Nat) : Option DirtyObject :=
  s.dirtyObjects.get? objectId

/-- All dirty objects, by object id. -/
def dirtyRows (s : LocalStore) : List DirtyObject :=
  s.dirtyObjects.select (fun a b => asSigned a.objectId ≤ asSigned b.objectId)

/-- The number of dirty objects, as `stats` counts them. -/
def dirtyCount (s : LocalStore) : Nat := s.dirtyObjects.rows.length

/-- Overwrite a file of the cache. -/
def writeFile (path : CachePath) (bytes : Bytes) (s : LocalStore) : LocalStore :=
  { s with files := Function.update s.files path (some bytes) }

/-- Insert or replace a row of `cache_entries`. -/
def upsertCacheEntry (e : CacheEntry) (s : LocalStore) : LocalStore :=
  { s with cacheEntries := s.cacheEntries.upsert e }

/-- Insert or replace a row of `dirty_objects`. -/
def upsertDirty (d : DirtyObject) (s : LocalStore) : LocalStore :=
  { s with dirtyObjects := s.dirtyObjects.upsert d }

/-- The WAL rows of an object and generation that touch a range. -/
def touches (objectId generation start stop : Nat) (e : WalEntry) : Bool :=
  decide (e.objectId = objectId ∧ e.generation = generation ∧
    e.offset ≤ stop ∧ start ≤ e.offset + e.len)

/-- A range widened to cover the WAL rows it touches. -/
def mergedRange (entries : List WalEntry) (objectId generation offset len : Nat) : Nat × Nat :=
  let touched := entries.filter (touches objectId generation offset (offset + len))
  (touched.foldl (fun start e => min start e.offset) offset,
    touched.foldl (fun stop e => max stop (e.offset + e.len)) (offset + len))

def deleteWal (objectId generation start stop : Nat) (s : LocalStore) : LocalStore :=
  { s with
    walEntries := s.walEntries.filter (fun e => !touches objectId generation start stop e) }

def insertWal (e : WalEntry) (s : LocalStore) : LocalStore :=
  { s with walEntries := s.walEntries ++ [e] }

section Crates

variable [Crates]

/-- The effects of `write_cache`: the file, then its row. -/
def writeCache (objectId generation : Nat) (bytes : Bytes) (dirty : Bool) :
    List (LocalStore → LocalStore) :=
  [ writeFile (cachePath objectId generation) bytes
  , upsertCacheEntry {
      objectId := objectId
      generation := generation
      cachePath := cachePath objectId generation
      sha256 := sha256Hex bytes
      dirty := dirty } ]

/-- The effects of `mark_dirty`: the row, then the WAL ranges it touches
    replaced by one. The merged range is read before the first of them. -/
def markDirty (s : LocalStore) (objectId generation : Nat) (path : CachePath) (sha256 : Text)
    (offset len : Nat) : List (LocalStore → LocalStore) :=
  let merged := mergedRange s.walEntries objectId generation offset len
  [ upsertDirty {
      objectId := objectId
      generation := generation
      cachePath := path
      sha256 := sha256 }
  , deleteWal objectId generation merged.1 merged.2
  , insertWal {
      objectId := objectId
      offset := merged.1
      len := merged.2 - merged.1
      generation := generation
      sha256 := sha256 } ]

/-- A cached object, if its file is there. A file with other contents than
    expected is an error. -/
def readCache (s : LocalStore) (objectId generation : Nat) (expectedSha : Text) :
    Except String (Option Bytes) :=
  match s.files (cachePath objectId generation) with
  | none => .ok none
  | some bytes =>
      if sha256Hex bytes ≠ expectedSha then
        .error s!"cache checksum mismatch for object {objectId}"
      else .ok (some bytes)

/-- The effect of a `read_cache` that finds its file: the row is refreshed and
    keeps its dirty flag. -/
def touchCache (s : LocalStore) (objectId generation : Nat) (expectedSha : Text) :
    List (LocalStore → LocalStore) :=
  [ upsertCacheEntry {
      objectId := objectId
      generation := generation
      cachePath := cachePath objectId generation
      sha256 := expectedSha
      dirty := ((s.cacheEntries.get? (objectId, generation)).map (fun e => e.dirty)).getD
        false } ]

/-- Store a manifest, replacing the one that was stored. -/
def setManifestState (m : Manifest) (s : LocalStore) : LocalStore :=
  { s with manifestState := some {
      deviceUuid := m.deviceUuid
      generation := m.generation
      manifestHash := m.hashHex
      manifestJson := m.encodeJson } }

/-- The transaction of `replace_from_manifest`. Its rows are keyed by object
    id, so a manifest that repeats one is refused. -/
def replaceFromManifest (m : Manifest) : Except String (List (LocalStore → LocalStore)) :=
  if (m.objects.map (fun object => object.objectId)).Nodup then .ok [setManifestState m]
  else .error "UNIQUE constraint failed: objects.object_id"

/-- The stored manifest, if there is one and it can be read. -/
def loadManifest (s : LocalStore) : Except String (Option Manifest) :=
  match s.manifestState with
  | none => .ok none
  | some row => match Manifest.decodeJson row.manifestJson with
    | .ok m => .ok (some m)
    | .error msg => .error msg

end Crates

/-- The transaction of `clear_dirty_and_wal`. -/
def clearDirtyAndWal (s : LocalStore) : LocalStore :=
  { s with
    dirtyObjects := Table.empty
    walEntries := []
    cacheEntries := {
      rows := s.cacheEntries.rows.map (fun e => { e with dirty := false })
      nodup := by
        rw [List.map_map]
        exact s.cacheEntries.nodup } }

@[simp] theorem mem_dirtyRows (s : LocalStore) (d : DirtyObject) :
    d ∈ s.dirtyRows ↔ s.dirtyObject d.objectId = some d := by
  rw [dirtyRows, Table.mem_select, Table.mem_rows_iff_get?, dirtyObject]

theorem nodup_dirtyRows (s : LocalStore) : (s.dirtyRows.map DirtyObject.objectId).Nodup :=
  s.dirtyObjects.nodup_select _

theorem dirtyRows_eq_nil (s : LocalStore) :
    s.dirtyRows = [] ↔ ∀ id, s.dirtyObject id = none := by
  rw [dirtyRows, Table.select_eq_nil, Table.rows_eq_nil_iff_get?]
  exact Iff.rfl

theorem objectId_of_dirtyObject (s : LocalStore) (id : Nat) (d : DirtyObject)
    (h : s.dirtyObject id = some d) : d.objectId = id :=
  (s.dirtyObjects.get?_mem id d h).2

@[simp] theorem dirtyObject_writeFile (path : CachePath) (b : Bytes) (s : LocalStore) (id : Nat) :
    (writeFile path b s).dirtyObject id = s.dirtyObject id := rfl

@[simp] theorem dirtyObject_upsertCacheEntry (e : CacheEntry) (s : LocalStore) (id : Nat) :
    (upsertCacheEntry e s).dirtyObject id = s.dirtyObject id := rfl

@[simp] theorem dirtyObject_deleteWal (i g a b : Nat) (s : LocalStore) (id : Nat) :
    (deleteWal i g a b s).dirtyObject id = s.dirtyObject id := rfl

@[simp] theorem dirtyObject_insertWal (e : WalEntry) (s : LocalStore) (id : Nat) :
    (insertWal e s).dirtyObject id = s.dirtyObject id := rfl

@[simp] theorem dirtyObject_clear (s : LocalStore) (id : Nat) :
    (clearDirtyAndWal s).dirtyObject id = none := rfl

theorem dirtyObject_upsertDirty (d : DirtyObject) (s : LocalStore) (id : Nat) :
    (upsertDirty d s).dirtyObject id = if id = d.objectId then some d else s.dirtyObject id :=
  s.dirtyObjects.get?_upsert d id

@[simp] theorem files_upsertCacheEntry (e : CacheEntry) (s : LocalStore) :
    (upsertCacheEntry e s).files = s.files := rfl

@[simp] theorem files_upsertDirty (d : DirtyObject) (s : LocalStore) :
    (upsertDirty d s).files = s.files := rfl

@[simp] theorem files_deleteWal (i g a b : Nat) (s : LocalStore) :
    (deleteWal i g a b s).files = s.files := rfl

@[simp] theorem files_insertWal (e : WalEntry) (s : LocalStore) :
    (insertWal e s).files = s.files := rfl

@[simp] theorem files_clear (s : LocalStore) : (clearDirtyAndWal s).files = s.files := rfl

theorem files_writeFile (path : CachePath) (b : Bytes) (s : LocalStore) (p : CachePath) :
    (writeFile path b s).files p = if p = path then some b else s.files p :=
  Function.update_apply s.files path (some b) p

@[simp] theorem manifestState_writeFile (path : CachePath) (b : Bytes) (s : LocalStore) :
    (writeFile path b s).manifestState = s.manifestState := rfl

@[simp] theorem manifestState_upsertCacheEntry (e : CacheEntry) (s : LocalStore) :
    (upsertCacheEntry e s).manifestState = s.manifestState := rfl

@[simp] theorem manifestState_upsertDirty (d : DirtyObject) (s : LocalStore) :
    (upsertDirty d s).manifestState = s.manifestState := rfl

@[simp] theorem manifestState_deleteWal (i g a b : Nat) (s : LocalStore) :
    (deleteWal i g a b s).manifestState = s.manifestState := rfl

@[simp] theorem manifestState_insertWal (e : WalEntry) (s : LocalStore) :
    (insertWal e s).manifestState = s.manifestState := rfl

@[simp] theorem manifestState_clear (s : LocalStore) :
    (clearDirtyAndWal s).manifestState = s.manifestState := rfl

section Crates

variable [Crates]

@[simp] theorem dirtyObject_setManifestState (m : Manifest) (s : LocalStore) (id : Nat) :
    (setManifestState m s).dirtyObject id = s.dirtyObject id := rfl

@[simp] theorem files_setManifestState (m : Manifest) (s : LocalStore) :
    (setManifestState m s).files = s.files := rfl

/-- A replaced manifest is loaded again. -/
@[simp] theorem loadManifest_setManifestState (m : Manifest) (s : LocalStore) :
    (setManifestState m s).loadManifest = .ok (some m) := by
  simp only [loadManifest, setManifestState, Manifest.decodeJson_encodeJson]

/-- What is loaded depends on the stored row alone. -/
theorem loadManifest_congr (s s' : LocalStore) (h : s'.manifestState = s.manifestState) :
    s'.loadManifest = s.loadManifest := by
  rw [loadManifest, loadManifest, h]

end Crates

end LocalStore

end TgDrive
