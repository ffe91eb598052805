import TgDrive.Core.Backend
import TgDrive.Core.Cache

/-!
# The Device and its Environment

The geometry of a device, the state it works on, and the operations its
methods are made of. An operation is a critical section or a call to the
backend: between two operations another client of the same device may run,
the process may die, and the next operation may fail. A critical section that
reads a file while the guard of the store is still alive is one operation, and
so is a file write with the rows that follow it under one guard.

`DeviceEnv` runs the operations on a world with a given backend. Beside the
answer of an operation it allows what a policy admits: an error after some of
its effects, or a crash there. `deviceRun` is the same without errors of the
disk, as a function.

The manifest lock is part of the world. A method that finds it taken fails
here; the clients of one device that wait for it are modelled separately.

## Main definitions

* `BlockMap`: A geometry that `BlockMap::new` accepts.
* `World`: The local store, the manifest in memory and the remote side.
* `LocalOp`, `DeviceOp`: The operations of the methods.
* `LocalOp.answer`, `LocalOp.effects`: What an operation does.
* `Policy`, `DeviceEnv`: The environment of a device.
* `deviceRun`: The device on disks and backends that answer in one way.
* `BlockDevice`: The geometry and limits of a device.

## Theorems

* `wp_local`: The rule for an operation on the disk.
* `wp_memory`: The rule for an operation in memory.
* `wp_call`: The rule for a call to the backend.
* `wp_deviceRun`: A precondition over the quiet environment speaks of the
  function.
* `exec_deviceRun`: What the function computes is an execution.
-/

namespace TgDrive

open Effect

/-- The geometry of a device, as `BlockMap::new` accepts it. -/
structure BlockMap where
  deviceSize : Nat
  logicalSectorSize : Nat
  objectSize : Nat
  deviceSize_lt : deviceSize < 2 ^ 64
  objectSize_lt : objectSize < 2 ^ 32
  deviceAligned : logicalSectorSize ∣ deviceSize
  objectAligned : logicalSectorSize ∣ objectSize

namespace BlockMap

/-- The geometry of three integers, if the sizes are sector aligned. -/
def new (deviceSize : UInt64) (logicalSectorSize objectSize : UInt32) :
    Except String BlockMap :=
  if hd : logicalSectorSize.toNat ∣ deviceSize.toNat then
    if ho : logicalSectorSize.toNat ∣ objectSize.toNat then
      .ok {
        deviceSize := deviceSize.toNat
        logicalSectorSize := logicalSectorSize.toNat
        objectSize := objectSize.toNat
        deviceSize_lt := deviceSize.toNat_lt
        objectSize_lt := objectSize.toNat_lt
        deviceAligned := hd
        objectAligned := ho }
    else .error "object size must be sector aligned"
  else .error "device size must be sector aligned"

/-- The sizes of a geometry are the integers it was made from. -/
theorem new_sizes (deviceSize : UInt64) (logicalSectorSize objectSize : UInt32) (map : BlockMap)
    (h : new deviceSize logicalSectorSize objectSize = .ok map) :
    map.deviceSize = deviceSize.toNat ∧ map.objectSize = objectSize.toNat := by
  unfold new at h
  split at h
  · split at h
    · rw [← Except.ok.inj h]
      exact ⟨rfl, rfl⟩
    · cases h
  · cases h

/-- The number of objects that cover the device. -/
def objectCount (map : BlockMap) : Nat := (map.deviceSize + map.objectSize - 1) / map.objectSize

/-- The object that holds an offset, and the offset inside it. Dividing by an
    object size of zero is a panic. -/
def locate (map : BlockMap) (offset : Nat) : Except String (Nat × Nat) :=
  if map.deviceSize ≤ offset then .error "offset out of bounds"
  else if map.objectSize = 0 then .error "attempt to divide by zero"
  else .ok (offset / map.objectSize, offset % map.objectSize)

end BlockMap

/-- An object that begins inside the device is one of its objects. -/
theorem lt_objectCount (map : BlockMap) (id : Nat) (h : id * map.objectSize < map.deviceSize)
    (hsize : 0 < map.objectSize) : id < map.objectCount := by
  rw [BlockMap.objectCount, Nat.lt_iff_add_one_le, Nat.le_div_iff_mul_le hsize, Nat.succ_mul]
  omega

/-- A position inside the device is found in the object that has it. -/
theorem locate_inside (map : BlockMap) (cursor : Nat) (hpos : 0 < map.objectSize)
    (hin : cursor < map.deviceSize) :
    map.locate cursor = .ok (cursor / map.objectSize, cursor % map.objectSize) := by
  unfold BlockMap.locate
  rw [if_neg (by omega), if_neg (by omega)]

/-- What a device works on: its store, its manifest in memory with the lock
    around it, and the remote side. -/
structure World (ρ : Type) where
  store : LocalStore
  manifest : Manifest
  locked : Bool
  remote : ρ

/-- The operations answered by the process and its disk. -/
inductive LocalOp : Type
  | dirtyObjects
  | readDirty (objectId : Nat)
  | dirtyCount
  | readCache (objectId generation : Nat) (expectedSha : Text)
  | writeCache (objectId generation : Nat) (bytes : Bytes)
  | storeDirty (objectId generation : Nat) (encoded : Bytes) (offset len : Nat)
  | commitLocal (manifest : Manifest)
  | readFile (path : CachePath)
  | peekManifest
  | lockManifest
  | getManifest
  | setManifest (manifest : Manifest)
  | unlockManifest

abbrev LocalOp.Resp : LocalOp → Type
  | .dirtyObjects => List DirtyObject
  | .readDirty _ => Option (DirtyObject × Bytes)
  | .dirtyCount => Nat
  | .readCache _ _ _ => Option Bytes
  | .writeCache _ _ _ => Unit
  | .storeDirty _ _ _ _ _ => Unit
  | .commitLocal _ => Unit
  | .readFile _ => Bytes
  | .peekManifest => Manifest
  | .lockManifest => Unit
  | .getManifest => Manifest
  | .setManifest _ => Unit
  | .unlockManifest => Unit

inductive DeviceOp : Type
  | disk (l : LocalOp)
  | call (c : Call)

abbrev DeviceOp.Resp : DeviceOp → Type
  | .disk l => l.Resp
  | .call c => c.Resp

/-- The operations of a device as a signature. -/
abbrev deviceSig : Signature := { Op := DeviceOp, Resp := DeviceOp.Resp }

variable {ρ : Type}

/-- An effect on the store, as an effect on the world. -/
def onStore (f : LocalStore → LocalStore) (w : World ρ) : World ρ := { w with store := f w.store }

/-- The contents of a file, or the error of a file that is not there. -/
def readFileAt (s : LocalStore) (path : CachePath) : Except String Bytes :=
  match s.files path with
  | some bytes => .ok bytes
  | none => .error "No such file or directory"

namespace LocalOp

/-- Whether an operation touches the disk, where it may fail half-way. -/
def onDisk : LocalOp → Bool
  | .peekManifest | .lockManifest | .getManifest | .setManifest _ | .unlockManifest => false
  | _ => true

section Crates

variable [Crates]

/-- What an operation answers. -/
def answer : (l : LocalOp) → World ρ → Except String l.Resp
  | .dirtyObjects, w => .ok w.store.dirtyRows
  | .readDirty objectId, w =>
      match w.store.dirtyObject objectId with
      | none => .ok none
      | some dirty => match readFileAt w.store dirty.cachePath with
        | .ok encoded => .ok (some (dirty, encoded))
        | .error msg => .error msg
  | .dirtyCount, w => .ok w.store.dirtyCount
  | .readCache objectId generation expectedSha, w =>
      w.store.readCache objectId generation expectedSha
  | .writeCache _ _ _, _ => .ok ()
  | .storeDirty _ _ _ _ _, _ => .ok ()
  | .commitLocal m, _ => match LocalStore.replaceFromManifest m with
    | .ok _ => .ok ()
    | .error msg => .error msg
  | .readFile path, w => readFileAt w.store path
  | .peekManifest, w => if w.locked then .error "would block" else .ok w.manifest
  | .lockManifest, w => if w.locked then .error "would block" else .ok ()
  | .getManifest, w => .ok w.manifest
  | .setManifest _, _ => .ok ()
  | .unlockManifest, _ => .ok ()

/-- The effects of an operation that does not fail, in order. -/
def effects : LocalOp → World ρ → List (World ρ → World ρ)
  | .readCache objectId generation expectedSha, w =>
      if (w.store.files (LocalStore.cachePath objectId generation)).isSome then
        (w.store.touchCache objectId generation expectedSha).map onStore
      else []
  | .writeCache objectId generation bytes, _ =>
      (LocalStore.writeCache objectId generation bytes false).map onStore
  | .storeDirty objectId generation encoded offset len, w =>
      (LocalStore.writeCache objectId generation encoded true ++
        w.store.markDirty objectId generation (LocalStore.cachePath objectId generation)
          (sha256Hex encoded) offset len).map onStore
  | .commitLocal m, _ => match LocalStore.replaceFromManifest m with
    | .ok transaction => (transaction ++ [LocalStore.clearDirtyAndWal]).map onStore
    | .error _ => []
  | .lockManifest, _ => [fun w => { w with locked := true }]
  | .setManifest m, _ => [fun w => { w with manifest := m }]
  | .unlockManifest, _ => [fun w => { w with locked := false }]
  | _, _ => []

/-- An operation as a function: the answer and all effects, or the error. -/
def run (l : LocalOp) (w : World ρ) : Except String l.Resp × World ρ :=
  match l.answer w with
  | .ok a => (.ok a, applyAll (l.effects w) w)
  | .error msg => (.error msg, w)

theorem run_ok (l : LocalOp) (w w' : World ρ) (a : l.Resp) (h : (.ok a, w') = l.run w) :
    l.answer w = .ok a ∧ w' = applyAll (l.effects w) w := by
  unfold run at h
  rcases hans : l.answer w with msg | b
  · rw [hans] at h
    exact absurd (Prod.mk.inj h).1 (by simp only [reduceCtorEq, not_false_eq_true])
  · rw [hans] at h
    rw [Except.ok.inj (Prod.mk.inj h).1]
    exact ⟨rfl, (Prod.mk.inj h).2⟩

theorem run_error (l : LocalOp) (w w' : World ρ) (msg : String)
    (h : (.error msg, w') = l.run w) : l.answer w = .error msg ∧ w' = w := by
  unfold run at h
  rcases hans : l.answer w with msg' | b
  · rw [hans] at h
    rw [Except.error.inj (Prod.mk.inj h).1]
    exact ⟨rfl, (Prod.mk.inj h).2⟩
  · rw [hans] at h
    exact absurd (Prod.mk.inj h).1 (by simp only [reduceCtorEq, not_false_eq_true])

end Crates

end LocalOp

/-- After how many effects an operation may fail, and where the process may
    die in the middle of it. -/
structure Policy (ρ : Type) where
  fault : LocalOp → World ρ → Nat → Prop
  crash : LocalOp → World ρ → Nat → Prop

/-- Disks that do what they are told. -/
def Policy.quiet : Policy ρ := { fault := fun _ _ _ => False, crash := fun _ _ _ => False }

section Crates

variable [Crates]

/-- The environment of a device: its disk under a policy, and its backend. -/
def DeviceEnv (B : Backend ρ) (P : Policy ρ) : Env deviceSig (World ρ) where
  step
    | .disk l, w, r, w' => (r, w') = l.run w ∨
        ∃ k msg, l.onDisk = true ∧ P.fault l w k ∧ r = .error msg ∧ w' = cutOff (l.effects w) k w
    | .call c, w, r, w' => ∃ s', B.step c w.remote r s' ∧ w' = { w with remote := s' }
  crash
    | .disk l, w, w' => ∃ k, P.crash l w k ∧ w' = cutOff (l.effects w) k w
    | .call c, w, w' => ∃ s', B.crash c w.remote s' ∧ w' = { w with remote := s' }

/-- A device whose backend answers in one way, as a function. -/
def deviceRun (R : (c : Call) → ρ → Except String c.Resp × ρ) :
    (e : DeviceOp) → World ρ → Except String e.Resp × World ρ
  | .disk l, w => l.run w
  | .call c, w => ((R c w.remote).1, { w with remote := (R c w.remote).2 })

variable {α : Type} {B : Backend ρ} {P : Policy ρ}

/-- Ask for an operation on the disk. -/
def disk (l : LocalOp) : Prog deviceSig l.Resp := Prog.perform (S := deviceSig) (.disk l)

/-- Call the backend. -/
def call (c : Call) : Prog deviceSig c.Resp := Prog.perform (S := deviceSig) (.call c)

/-- The rule for an operation on the disk: it answers with all its effects
    done, it refuses, it fails half-way, or the process dies half-way. -/
theorem wp_local (l : LocalOp) (f : l.Resp → Prog deviceSig α)
    (Q : Except String α → World ρ → Prop) (C : World ρ → Prop) (w : World ρ)
    (hok : ∀ a, l.answer w = .ok a → wp (DeviceEnv B P) (f a) Q C (applyAll (l.effects w) w))
    (herr : ∀ msg, l.answer w = .error msg → Q (.error msg) w)
    (hfault : ∀ k msg, P.fault l w k → Q (.error msg) (cutOff (l.effects w) k w))
    (hcrash : ∀ k, P.crash l w k → C (cutOff (l.effects w) k w)) :
    wp (DeviceEnv B P) (disk l >>= f) Q C w := by
  refine (wp_perform_bind (S := deviceSig) (E := DeviceEnv B P) (DeviceOp.disk l) f Q C w).mpr
    ⟨fun a w' hstep => ?_, fun msg w' hstep => ?_, fun w' hc => ?_⟩
  · rcases hstep with hrun | ⟨k, msg, _, _, hr, _⟩
    · rcases LocalOp.run_ok l w w' a hrun with ⟨hans, hw⟩
      rw [hw]
      exact hok a hans
    · exact absurd hr (by simp only [reduceCtorEq, not_false_eq_true])
  · rcases hstep with hrun | ⟨k, msg', _, hp, hr, hw⟩
    · rcases LocalOp.run_error l w w' msg hrun with ⟨hans, hw⟩
      rw [hw]
      exact herr msg hans
    · rw [hw]
      exact hfault k msg hp
  · rcases hc with ⟨k, hp, hw⟩
    rw [hw]
    exact hcrash k hp

/-- The rule for an operation in memory, which does not fail half-way. -/
theorem wp_memory (l : LocalOp) (f : l.Resp → Prog deviceSig α)
    (Q : Except String α → World ρ → Prop) (C : World ρ → Prop) (w : World ρ)
    (hmem : l.onDisk = false)
    (hok : ∀ a, l.answer w = .ok a → wp (DeviceEnv B P) (f a) Q C (applyAll (l.effects w) w))
    (herr : ∀ msg, l.answer w = .error msg → Q (.error msg) w)
    (hcrash : ∀ k, C (cutOff (l.effects w) k w)) :
    wp (DeviceEnv B P) (disk l >>= f) Q C w := by
  refine (wp_perform_bind (S := deviceSig) (E := DeviceEnv B P) (DeviceOp.disk l) f Q C w).mpr
    ⟨fun a w' hstep => ?_, fun msg w' hstep => ?_, fun w' hc => ?_⟩
  · rcases hstep with hrun | ⟨k, msg, hdisk, _⟩
    · rcases LocalOp.run_ok l w w' a hrun with ⟨hans, hw⟩
      rw [hw]
      exact hok a hans
    · rw [hmem] at hdisk
      exact absurd hdisk Bool.false_ne_true
  · rcases hstep with hrun | ⟨k, msg', hdisk, _⟩
    · rcases LocalOp.run_error l w w' msg hrun with ⟨hans, hw⟩
      rw [hw]
      exact herr msg hans
    · rw [hmem] at hdisk
      exact absurd hdisk Bool.false_ne_true
  · rcases hc with ⟨k, _, hw⟩
    rw [hw]
    exact hcrash k

/-- The rule for an operation without effects. -/
theorem wp_query (l : LocalOp) (f : l.Resp → Prog deviceSig α)
    (Q : Except String α → World ρ → Prop) (C : World ρ → Prop) (w : World ρ)
    (hnone : l.effects w = [])
    (hok : ∀ a, l.answer w = .ok a → wp (DeviceEnv B P) (f a) Q C w)
    (herr : ∀ msg, l.answer w = .error msg → Q (.error msg) w)
    (hfault : ∀ k msg, P.fault l w k → Q (.error msg) w) (hcrash : C w) :
    wp (DeviceEnv B P) (disk l >>= f) Q C w := by
  refine wp_local l f Q C w ?_ herr ?_ ?_
  · rw [hnone]
    exact hok
  · rw [hnone]
    intro k msg hp
    rw [cutOff_nil]
    exact hfault k msg hp
  · rw [hnone]
    intro k _
    rw [cutOff_nil]
    exact hcrash

/-- The rule for a call to the backend. -/
theorem wp_call (c : Call) (f : c.Resp → Prog deviceSig α)
    (Q : Except String α → World ρ → Prop) (C : World ρ → Prop) (w : World ρ)
    (hok : ∀ a s', B.step c w.remote (.ok a) s' →
      wp (DeviceEnv B P) (f a) Q C { w with remote := s' })
    (herr : ∀ msg s', B.step c w.remote (.error msg) s' → Q (.error msg) { w with remote := s' })
    (hcrash : ∀ s', B.crash c w.remote s' → C { w with remote := s' }) :
    wp (DeviceEnv B P) (call c >>= f) Q C w := by
  refine (wp_perform_bind (S := deviceSig) (E := DeviceEnv B P) (DeviceOp.call c) f Q C w).mpr
    ⟨fun a w' hstep => ?_, fun msg w' hstep => ?_, fun w' hc => ?_⟩
  · rcases hstep with ⟨s', hs, rfl⟩
    exact hok a s' hs
  · rcases hstep with ⟨s', hs, rfl⟩
    exact herr msg s' hs
  · rcases hc with ⟨s', hs, rfl⟩
    exact hcrash s' hs

/-- On quiet disks and a backend that is a function, a precondition speaks of
    what the program computes. -/
theorem wp_deviceRun (R : (c : Call) → ρ → Except String c.Resp × ρ) (p : Prog deviceSig α)
    (Q : Except String α → World ρ → Prop) (C : World ρ → Prop) (w : World ρ)
    (h : wp (DeviceEnv (Env.ofRun (S := remoteSig) R) Policy.quiet) p Q C w) :
    Q (p.eval (deviceRun R) w).1 (p.eval (deviceRun R) w).2 := by
  refine (wp_ofRun (S := deviceSig) (deviceRun R) p Q C w).mp
    (wp_env_mono _ (fun e s r s' hs => ?_) (fun e s s' hs => False.elim hs) p Q C w h)
  have hrun : deviceRun R e s = (r, s') := hs
  cases e with
  | disk l => exact Or.inl hrun.symm
  | call c =>
      rcases Prod.mk.inj hrun with ⟨hr, hs⟩
      refine ⟨(R c s.remote).2, ?_, hs.symm⟩
      rw [← hr]
      exact rfl

/-- What a device with such a backend computes is one of its executions. -/
theorem exec_deviceRun (R : (c : Call) → ρ → Except String c.Resp × ρ) (p : Prog deviceSig α)
    (w : World ρ) : Exec (DeviceEnv (Env.ofRun (S := remoteSig) R) P) p w
      (.done (p.eval (deviceRun R) w).1) (p.eval (deviceRun R) w).2 := by
  refine exec_of_eval (S := deviceSig) (deviceRun R) (fun e s => ?_) p w
  cases e with
  | disk l => exact Or.inl rfl
  | call c => exact ⟨(R c s.remote).2, rfl, rfl⟩

/-- The state a crash after `k` effects of an operation on the disk leaves. -/
def diskCut (k : Nat) : DeviceOp → World ρ → Option (World ρ)
  | .disk l, w => some (cutOff (l.effects w) k w)
  | .call _, _ => none

/-- A device that computes so far and crashes there is an execution, if the
    policy allows it. -/
theorem exec_diskCut (R : (c : Call) → ρ → Except String c.Resp × ρ) (n k : Nat)
    (hP : ∀ l w, P.crash l w k) (p : Prog deviceSig α) (w w' : World ρ)
    (h : p.crashAt (deviceRun R) (diskCut k) n w = some w') :
    Exec (DeviceEnv (Env.ofRun (S := remoteSig) R) P) p w .crashed w' := by
  refine exec_of_crashAt (S := deviceSig) (deviceRun R) (diskCut k) (fun e s => ?_)
    (fun e s s' hs => ?_) n p w w' h
  · cases e with
    | disk l => exact Or.inl rfl
    | call c => exact ⟨(R c s.remote).2, rfl, rfl⟩
  · cases e with
    | disk l => exact ⟨k, hP l s, (Option.some.inj hs).symm⟩
    | call c => cases hs

end Crates

/-- A block device without its state: the geometry, whether a committer is
    attached, and the two limits. -/
structure BlockDevice where
  map : BlockMap
  committer : Bool
  maxDirtyObjects : Nat
  readAheadObjects : Nat

/-- A device with the limits `BlockDevice::new` sets. -/
def BlockDevice.new (map : BlockMap) (committer : Bool) : BlockDevice :=
  { map := map, committer := committer, maxDirtyObjects := 4096, readAheadObjects := 4 }

end TgDrive
