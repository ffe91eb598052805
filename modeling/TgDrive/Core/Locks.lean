import TgDrive.Core.Concrete
import TgDrive.Core.CrashSafety
import TgDrive.Core.Operations
import TgDrive.Effect.Locks

/-!
# The Locks of a Device

The two mutexes of a device, and what each operation of its methods does with
them. A guard that is a temporary lives to the end of its statement; the one
in the head of an `if let` lives to the end of its body, and the body of the
first one in `read_object` reads a file under it. The guard of the manifest is
held by name: in a flush from the listing of the dirty objects to the end, in
a prefetch around the loop that asks the cache.

So the store is taken while the manifest is owned, and never the manifest
while the store is. That order rules deadlocks out.

## Main definitions

* `Mutex`: The two mutexes, and their order.
* `DeviceOp.script`: The actions of each operation.
* `deviceLocks`: What the operations do with the mutexes.

## Theorems

* `readAt_ordered`, `writeAt_ordered`, `flush_ordered`: The methods keep to the
  order.
* `device_progress`: The requests of a device do not block each other.
-/

namespace TgDrive

open Data Effect

inductive Mutex : Type
  | store
  | manifest
  deriving DecidableEq

/-- The order in which the mutexes are taken. -/
def Mutex.rank : Mutex → Nat
  | .manifest => 0
  | .store => 1

/-- A section under a guard of the store, with the file access inside it. -/
def underStore : List (LockAct Mutex) := [.acquire .store, .work, .release .store]

/-- The actions of an operation of the process. -/
def LocalOp.script : LocalOp → List (LockAct Mutex)
  -- `{ self.store.lock().await.dirty_objects()? }` and the block of the prefetch.
  | .dirtyObjects => underStore
  -- The guard in the head of the `if let`, over the read of the file.
  | .readDirty _ => underStore
  | .dirtyCount => underStore
  | .readCache _ _ _ => underStore
  | .writeCache _ _ _ => underStore
  -- `let store = self.store.lock().await` to the end of `write_dirty_object`.
  | .storeDirty _ _ _ _ _ => underStore
  -- `let mut store = self.store.lock().await` to the end of `flush`.
  | .commitLocal _ => underStore
  | .readFile _ => [.work]
  -- The manifest looked at and let go in one block.
  | .peekManifest => [.acquire .manifest, .work, .release .manifest]
  | .lockManifest => [.acquire .manifest]
  | .getManifest => [.work]
  | .setManifest _ => [.work]
  | .unlockManifest => [.release .manifest]

def DeviceOp.script : DeviceOp → List (LockAct Mutex)
  | .disk l => l.script
  | .call _ => [.work]

/-- An operation in memory does not fail. What else an operation answers is left
    open, since it is not the data that decides who waits. -/
def DeviceOp.answers : (e : DeviceOp) → Except String e.Resp → Prop
  | .disk l, r => l.onDisk = false → ∃ a, r = .ok a
  | .call _, _ => True

theorem DeviceOp.answered (e : DeviceOp) : ∃ r, e.answers r := by
  cases e with
  | call c => exact ⟨.error "", trivial⟩
  | disk l =>
      cases l with
      | peekManifest => exact ⟨.ok (Manifest.empty ⟨0⟩ 0 0), fun _ => ⟨_, rfl⟩⟩
      | getManifest => exact ⟨.ok (Manifest.empty ⟨0⟩ 0 0), fun _ => ⟨_, rfl⟩⟩
      | setManifest m => exact ⟨.ok (), fun _ => ⟨_, rfl⟩⟩
      | lockManifest => exact ⟨.ok (), fun _ => ⟨_, rfl⟩⟩
      | unlockManifest => exact ⟨.ok (), fun _ => ⟨_, rfl⟩⟩
      | _ => exact ⟨.error "", fun h => Bool.noConfusion h⟩

/-- What the operations of a device do with the mutexes. -/
def deviceLocks : Locking deviceSig Mutex where
  script := DeviceOp.script
  answers := DeviceOp.answers
  answered := DeviceOp.answered

/-- The operations that take and give back within themselves, from a task that
    owns nothing. -/
def DeviceOp.Brief : DeviceOp → Prop
  | .disk .lockManifest => False
  | .disk .unlockManifest => False
  | _ => True

/-- The operations that do so from a task that owns the manifest. -/
def DeviceOp.Inner : DeviceOp → Prop
  | .disk .lockManifest => False
  | .disk .unlockManifest => False
  | .disk .peekManifest => False
  | _ => True

theorem held_brief (e : DeviceOp) (h : e.Brief) :
    held Mutex.rank [] (deviceLocks.script e) = some [] := by
  cases e with
  | call c => rfl
  | disk l =>
      cases l with
      | lockManifest => exact h.elim
      | unlockManifest => exact h.elim
      | _ => rfl

theorem held_inner (e : DeviceOp) (h : e.Inner) :
    held Mutex.rank [.manifest] (deviceLocks.script e) = some [.manifest] := by
  cases e with
  | call c => rfl
  | disk l =>
      cases l with
      | lockManifest => exact h.elim
      | unlockManifest => exact h.elim
      | peekManifest => exact h.elim
      | _ => rfl

theorem brief_writeClass : DeviceOp.WriteClass DeviceOp.Brief where
  readDirty _ := trivial
  peekManifest := trivial
  readCache _ _ _ := trivial
  writeCache _ _ _ := trivial
  fetchObject _ := trivial
  dirtyCount := trivial
  storeDirty _ _ _ _ _ := trivial

theorem inner_uploadClass : DeviceOp.UploadClass DeviceOp.Inner where
  getManifest := trivial
  setManifest _ := trivial
  readFile _ := trivial
  commitLocal _ := trivial
  sendObject _ _ _ _ := trivial
  commitManifest _ _ _ _ := trivial

section Crates

variable [Crates]

/-- A program that keeps to the order of the mutexes. -/
abbrev Ordered {α : Type} (p : Prog deviceSig α) : Prop := p.Holds Mutex.rank deviceLocks [] []

omit [Crates] in
theorem ordered_of_brief {α : Type} (p : Prog deviceSig α) (h : p.Only DeviceOp.Brief) :
    Ordered p :=
  holds_of_only DeviceOp.Brief held_brief p h

/-- Prefetching keeps to the order: the cache is asked while the manifest is
    owned. -/
theorem prefetchObjects_ordered (start count : Nat) :
    Ordered (BlockDevice.prefetchObjects start count) := by
  have hstore : ∀ (entry : PrefetchEntry) (b : Option Bytes),
      (BlockDevice.storePrefetched entry b).Only DeviceOp.Brief :=
    storePrefetched_only fun _ _ _ => trivial
  have hcollect : ∀ (dirtyIds : List Nat) (m : Manifest) (ids : List Nat),
      (BlockDevice.collectPrefetch dirtyIds m ids).Only DeviceOp.Inner :=
    collectPrefetch_only fun _ _ _ => trivial
  unfold BlockDevice.prefetchObjects
  refine holds_bind _ _ (ordered_of_brief _ (only_perform (S := deviceSig) _ trivial))
    fun dirty => ?_
  refine holds_perform (S := deviceSig) (DeviceOp.disk .lockManifest) _ rfl (fun r hr => hr rfl) fun _ => ?_
  refine holds_perform (S := deviceSig) (DeviceOp.disk .getManifest) _ rfl (fun r hr => hr rfl) fun m => ?_
  refine holds_attempt_bind _ _ (holds_of_only DeviceOp.Inner held_inner _ (hcollect _ m _))
    fun collected => ?_
  refine holds_perform (S := deviceSig) (DeviceOp.disk .unlockManifest) _ rfl (fun r hr => hr rfl) fun _ => ?_
  -- The guard is gone before anything is downloaded.
  refine ordered_of_brief _ (only_bind _ _ (only_ofExcept _) fun entries => ?_)
  by_cases hnone : entries.isEmpty = true
  · rw [if_pos hnone]
    exact trivial
  · rw [if_neg hnone]
    refine only_bind _ _ (only_perform (S := deviceSig) _ trivial) fun messages => ?_
    exact only_foldlM _ (fun _ (p : PrefetchEntry × Option Bytes) =>
      BlockDevice.storePrefetched p.1 p.2) (fun _ p => hstore p.1 p.2) ()

/-- Reading keeps to the order. -/
theorem readAt_ordered (dev : BlockDevice) (offset len : Nat) : Ordered (dev.readAt offset len) := by
  have hpure : ∀ out : Bytes, Ordered (pure out : Prog deviceSig Bytes) := fun _ => rfl
  unfold BlockDevice.readAt
  refine holds_bind _ _ (ordered_of_brief _ (only_ofExcept _)) fun stop => ?_
  refine holds_bind _ _ (ordered_of_brief _ (only_ensure _ _)) fun _ => ?_
  refine holds_bind _ _ (ordered_of_brief _
    (readLoop_only brief_writeClass.toReadClass brief_writeClass.readDirty dev _ _ _ _)) fun p => ?_
  rcases p with ⟨out, cursor⟩
  simp only []
  by_cases hmore : cursor < dev.map.deviceSize
  · rw [if_pos hmore]
    rcases dev.map.locate cursor with _ | ⟨next, o⟩
    · exact hpure out
    · cases o with
      | zero => exact holds_attempt_bind _ _ (prefetchObjects_ordered _ _) fun _ => hpure out
      | succ o => exact hpure out
  · rw [if_neg hmore]
    exact hpure out

/-- Writing keeps to the order. -/
theorem writeAt_ordered (dev : BlockDevice) (offset : Nat) (bytes : Bytes) :
    Ordered (dev.writeAt offset bytes) := by
  unfold BlockDevice.writeAt
  refine ordered_of_brief _ (only_bind _ _ (only_ofExcept _) fun _ => ?_)
  exact only_bind _ _ (only_ensure _ _) fun _ => writeLoop_only brief_writeClass dev _ _ _

/-- Flushing keeps to the order: what is uploaded is stored while the manifest
    is owned. -/
theorem flush_ordered (dev : BlockDevice) : Ordered dev.flush := by
  unfold BlockDevice.flush
  refine holds_bind _ _ (ordered_of_brief _ (only_perform (S := deviceSig) _ trivial))
    fun dirty => ?_
  by_cases hnone : dirty.isEmpty = true
  · rw [if_pos hnone]
    exact rfl
  · rw [if_neg hnone]
    refine holds_perform (S := deviceSig) (DeviceOp.disk .lockManifest) _ rfl (fun r hr => hr rfl) fun _ => ?_
    refine holds_attempt_bind _ _ (holds_of_only DeviceOp.Inner held_inner _
      (flushLocked_only inner_uploadClass dev dirty)) fun result => ?_
    refine holds_perform (S := deviceSig) (DeviceOp.disk .unlockManifest) _ rfl (fun r hr => hr rfl) fun _ => ?_
    exact ordered_of_brief _ (only_ofExcept _)

theorem request_ordered (dev : BlockDevice) (request : Request) :
    Ordered (request.program dev) := by
  cases request with
  | read offset len => exact holds_bind _ _ (readAt_ordered dev offset len) fun _ => rfl
  | write offset bytes => exact writeAt_ordered dev offset bytes
  | flush => exact flush_ordered dev

/-- The requests of a device do not block each other: however many of them run
    side by side, and whatever state they have come to, while one of them is
    not finished some task can go on. -/
theorem device_progress {ι : Type} [DecidableEq ι] (dev : BlockDevice) (requests : ι → Request)
    (s : Tasks deviceSig Mutex Unit ι)
    (hreach : Relation.ReflTransGen (Tasks.Step deviceLocks)
      (deviceLocks.launch fun i => (requests i).program dev) s)
    (i : ι) (hi : s.task i ≠ .finished) : ∃ s', s.Step deviceLocks s' := by
  have hbound : ∀ l : Mutex, l.rank ≤ 1 := by
    intro l
    cases l with
    | store => exact Nat.le_refl 1
    | manifest => exact Nat.zero_le 1
  exact no_deadlock _ (fun j => request_ordered dev (requests j)) 1 hbound s hreach i hi

end Crates

section Small

attribute [local instance] concreteCrates

/-- A flush beside a read. -/
def flushAndRead (flushes : Bool) : Request := if flushes then .flush else .read 0 8

/-- While the flush has the store, the read waits and the flush goes on. -/
theorem device_progress_small : ∃ s s' : Tasks deviceSig Mutex Unit Bool,
    s.owner .store = some true ∧ s.task false ≠ .finished ∧ s.Step deviceLocks s' := by
  let first : Tasks deviceSig Mutex Unit Bool :=
    deviceLocks.launch fun i => (flushAndRead i).program smallDevice
  have hstep : first.Step deviceLocks _ := .acquire true .store _ _ _ rfl rfl
  have hread : ∀ s : Tasks deviceSig Mutex Unit Bool, s.task false = first.task false →
      s.task false ≠ .finished := by
    intro s hs hfin
    rw [hs] at hfin
    cases hfin
  obtain ⟨s', hs'⟩ := device_progress smallDevice flushAndRead _
    (Relation.ReflTransGen.single hstep) false (hread _ rfl)
  refine ⟨_, s', ?_, ?_, hs'⟩
  · rfl
  · exact hread _ rfl

end Small

end TgDrive
