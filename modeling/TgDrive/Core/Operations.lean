import TgDrive.Core.Block
import TgDrive.Effect.Meets

/-!
# The Operations of a Method

Which operations each method of a device asks for, whatever they answer. A
class of operations enters only by what it contains, so that the same lemmas
serve every use of `Prog.Only`.

## Main definitions

* `DeviceOp.ReadClass`, `DeviceOp.PrefetchClass`, `DeviceOp.WriteClass`,
  `DeviceOp.UploadClass`: Classes that contain what reading, prefetching,
  writing and uploading ask for.

## Theorems

* `readObject_meets`, `readObject_only`, `readLoop_only`: Reading.
* `collectPrefetch_only`, `storePrefetched_only`, `prefetchObjects_only`:
  Prefetching.
* `writeDirtyObject_only`, `writeLoop_only`: Writing.
* `flushLocked_only`: Flushing, under the lock of the manifest.
-/

namespace TgDrive

open Data Effect

/-- A class with what reading an object asks for, apart from the object
    itself. -/
structure DeviceOp.ReadClass (K : DeviceOp → Prop) : Prop where
  peekManifest : K (.disk .peekManifest)
  readCache : ∀ id gen sha, K (.disk (.readCache id gen sha))
  writeCache : ∀ id gen b, K (.disk (.writeCache id gen b))
  fetchObject : ∀ r, K (.call (.fetchObject r))

/-- A class with what reading one object asks for. -/
structure DeviceOp.ReadClassAt (K : DeviceOp → Prop) (id : Nat) : Prop where
  readDirty : K (.disk (.readDirty id))
  peekManifest : K (.disk .peekManifest)
  readCache : ∀ gen sha, K (.disk (.readCache id gen sha))
  writeCache : ∀ gen b, K (.disk (.writeCache id gen b))
  fetchObject : ∀ r, K (.call (.fetchObject r))

theorem DeviceOp.ReadClass.forId {K : DeviceOp → Prop} (h : DeviceOp.ReadClass K) (id : Nat)
    (hid : K (.disk (.readDirty id))) : DeviceOp.ReadClassAt K id where
  readDirty := hid
  peekManifest := h.peekManifest
  readCache := h.readCache id
  writeCache := h.writeCache id
  fetchObject := h.fetchObject

/-- A class with what prefetching asks for. -/
structure DeviceOp.PrefetchClass (K : DeviceOp → Prop) : Prop where
  dirtyObjects : K (.disk .dirtyObjects)
  lockManifest : K (.disk .lockManifest)
  getManifest : K (.disk .getManifest)
  unlockManifest : K (.disk .unlockManifest)
  readCache : ∀ id gen sha, K (.disk (.readCache id gen sha))
  writeCache : ∀ id gen b, K (.disk (.writeCache id gen b))
  getMessages : ∀ ids, K (.call (.getMessagesById ids))

/-- A class with what writing asks for. -/
structure DeviceOp.WriteClass (K : DeviceOp → Prop) : Prop extends DeviceOp.ReadClass K where
  readDirty : ∀ id, K (.disk (.readDirty id))
  dirtyCount : K (.disk .dirtyCount)
  storeDirty : ∀ id gen b offset len, K (.disk (.storeDirty id gen b offset len))

/-- A class with what a flush asks for once it has the lock. -/
structure DeviceOp.UploadClass (K : DeviceOp → Prop) : Prop where
  getManifest : K (.disk .getManifest)
  setManifest : ∀ m, K (.disk (.setManifest m))
  readFile : ∀ path, K (.disk (.readFile path))
  commitLocal : ∀ m, K (.disk (.commitLocal m))
  sendObject : ∀ id gen b sha, K (.call (.sendObject id gen b sha))
  commitManifest : ∀ m d l o, K (.call (.commitManifest m d l o))

section Crates

variable [Crates] {K : DeviceOp → Prop}

theorem decodeEnvelope_only (b : Bytes) (id gen : Nat) : (decodeEnvelope b id gen).Only K := by
  unfold decodeEnvelope
  rcases ObjectEnvelope.decode b id gen with _ | _
  · exact trivial
  · exact trivial

/-- What reading an object asks for, and the length of what it returns. -/
theorem readObject_meets_at {A : (e : DeviceOp) → Except String e.Resp → Prop}
    (dev : BlockDevice) (id : Nat) (h : DeviceOp.ReadClassAt K id) :
    (dev.readObject id).Meets (S := deviceSig) A K
      (fun object => object.length = dev.map.objectSize) := by
  have hpad : ∀ payload : Bytes, (padObject payload dev.map.objectSize).length =
      dev.map.objectSize := by
    intro payload
    rw [padObject, List.length_append, List.length_take, List.length_replicate]
    omega
  have hrest : ∀ b gen, (decodeEnvelope b id gen >>= fun envelope =>
      pure (padObject envelope.payload dev.map.objectSize)).Meets (S := deviceSig) A K
        (fun object => object.length = dev.map.objectSize) :=
    fun b gen => meets_bind _ _ (meets_of_only _ (decodeEnvelope_only b id gen)) fun e _ =>
      hpad e.payload
  unfold BlockDevice.readObject
  refine meets_bind _ _ (meets_perform (S := deviceSig) (DeviceOp.disk (.readDirty id)) h.readDirty
    fun _ _ => trivial) fun found _ => ?_
  rcases found with _ | ⟨d, b⟩
  · refine meets_bind _ _ (meets_perform (S := deviceSig) (DeviceOp.disk .peekManifest)
      h.peekManifest fun _ _ => trivial) fun m _ => ?_
    refine meets_bind _ _ (meets_ofOption _ _) fun e _ => ?_
    by_cases hz : e.zero = true
    · rw [if_pos hz]
      exact List.length_replicate
    · rw [if_neg hz]
      refine meets_bind _ _ (meets_ofOption _ _) fun r _ => ?_
      refine meets_bind _ _ (meets_ofOption _ _) fun sha _ => ?_
      refine meets_bind _ _ (meets_perform (S := deviceSig)
        (DeviceOp.disk (.readCache id e.generation sha)) (h.readCache _ _)
        fun _ _ => trivial) fun cached _ => ?_
      rcases cached with _ | b
      · refine meets_bind _ _ (meets_perform (S := deviceSig) (DeviceOp.call (.fetchObject r))
          (h.fetchObject r) fun _ _ => trivial) fun b _ => ?_
        refine meets_bind _ _ (meets_ensure _ _) fun _ _ => ?_
        exact meets_bind _ _ (meets_perform (S := deviceSig)
          (DeviceOp.disk (.writeCache id e.generation b)) (h.writeCache _ _)
          fun _ _ => trivial) fun _ _ => hrest b _
      · exact hrest b _
  · exact meets_bind _ _ (meets_ensure _ _) fun _ _ => hrest b _

theorem readObject_meets {A : (e : DeviceOp) → Except String e.Resp → Prop}
    (h : DeviceOp.ReadClass K) (dev : BlockDevice) (id : Nat)
    (hid : K (.disk (.readDirty id))) :
    (dev.readObject id).Meets (S := deviceSig) A K
      (fun object => object.length = dev.map.objectSize) :=
  readObject_meets_at dev id (h.forId id hid)

/-- What reading an object asks for. -/
theorem readObject_only (h : DeviceOp.ReadClass K) (hread : ∀ id, K (.disk (.readDirty id)))
    (dev : BlockDevice) (id : Nat) : (dev.readObject id).Only K :=
  only_of_meets _ (readObject_meets h dev id (hread id))

/-- The rounds of a read ask for what reading an object does. -/
theorem readLoop_only (h : DeviceOp.ReadClass K) (hread : ∀ id, K (.disk (.readDirty id)))
    (dev : BlockDevice) :
    ∀ (rounds cursor left : Nat) (out : Bytes), (dev.readLoop rounds cursor left out).Only K := by
  intro rounds
  induction rounds with
  | zero =>
      intro cursor left out
      cases left with
      | zero => exact trivial
      | succ left => exact trivial
  | succ rounds ih =>
      intro cursor left out
      cases left with
      | zero => exact trivial
      | succ left =>
          unfold BlockDevice.readLoop
          refine only_bind _ _ (only_ofExcept _) fun p => ?_
          exact only_bind _ _ (readObject_only h hread dev p.1) fun _ => ih _ _ _

omit [Crates] in
/-- Collecting what to prefetch asks the cache. -/
theorem collectPrefetch_only (h : ∀ id gen sha, K (.disk (.readCache id gen sha)))
    (dirtyIds : List Nat) (m : Manifest) (ids : List Nat) :
    (BlockDevice.collectPrefetch dirtyIds m ids).Only K := by
  induction ids with
  | nil => exact trivial
  | cons id rest ih =>
      unfold BlockDevice.collectPrefetch
      by_cases hdirty : id ∈ dirtyIds
      · rw [if_pos hdirty]
        exact ih
      · rw [if_neg hdirty]
        rcases m.find id with _ | e
        · exact trivial
        · simp only []
          by_cases hz : e.zero = true
          · rw [if_pos hz]
            exact ih
          · rw [if_neg hz]
            rcases e.remote with _ | r
            · exact ih
            · rcases e.sha256 with _ | sha
              · exact ih
              · refine only_bind _ _ (only_perform (S := deviceSig) _ (h _ _ _)) fun found => ?_
                rcases found with _ | _
                · exact only_bind _ _ ih fun _ => trivial
                · exact ih

/-- Storing what was prefetched asks for a write to the cache. -/
theorem storePrefetched_only (h : ∀ id gen b, K (.disk (.writeCache id gen b)))
    (entry : PrefetchEntry) (encoded : Option Bytes) :
    (BlockDevice.storePrefetched entry encoded).Only K := by
  unfold BlockDevice.storePrefetched
  rcases encoded with _ | b
  · exact trivial
  · simp only []
    by_cases hsha : sha256Hex b = entry.sha256
    · rw [if_neg (not_not_intro hsha)]
      rcases ObjectEnvelope.decode b entry.objectId entry.generation with _ | _
      · exact trivial
      · exact only_perform (S := deviceSig) _ (h _ _ _)
    · rw [if_pos hsha]
      exact trivial

/-- What prefetching asks for. -/
theorem prefetchObjects_only (h : DeviceOp.PrefetchClass K) (start count : Nat) :
    (BlockDevice.prefetchObjects start count).Only K := by
  unfold BlockDevice.prefetchObjects
  refine only_bind _ _ (only_perform (S := deviceSig) _ h.dirtyObjects) fun dirty => ?_
  refine only_bind _ _ (only_perform (S := deviceSig) _ h.lockManifest) fun _ => ?_
  refine only_bind _ _ (only_perform (S := deviceSig) _ h.getManifest) fun m => ?_
  refine only_bind _ _ (only_attempt _ (collectPrefetch_only h.readCache _ m _)) fun collected => ?_
  refine only_bind _ _ (only_perform (S := deviceSig) _ h.unlockManifest) fun _ => ?_
  refine only_bind _ _ (only_ofExcept _) fun entries => ?_
  by_cases hnone : entries.isEmpty = true
  · rw [if_pos hnone]
    exact trivial
  · rw [if_neg hnone]
    refine only_bind _ _ (only_perform (S := deviceSig) _ (h.getMessages _)) fun messages => ?_
    exact only_foldlM _ (fun _ (p : PrefetchEntry × Option Bytes) =>
      BlockDevice.storePrefetched p.1 p.2)
      (fun _ p => storePrefetched_only h.writeCache p.1 p.2) ()

/-- What storing an object as dirty asks for. -/
theorem writeDirtyObject_only (h : DeviceOp.WriteClass K) (dev : BlockDevice) (id : Nat)
    (object : Bytes) (offset len : Nat) : (dev.writeDirtyObject id object offset len).Only K := by
  unfold BlockDevice.writeDirtyObject
  refine only_bind _ _ (only_perform (S := deviceSig) _ h.dirtyCount) fun n => ?_
  refine only_bind _ _ (only_ensure _ _) fun _ => ?_
  refine only_bind _ _ (only_perform (S := deviceSig) _ h.peekManifest) fun m => ?_
  refine only_bind _ _ (only_ofExcept _) fun gen => ?_
  exact only_perform (S := deviceSig) _ (h.storeDirty _ _ _ _ _)

/-- The rounds of a write. -/
theorem writeLoop_only (h : DeviceOp.WriteClass K) (dev : BlockDevice) :
    ∀ (rounds cursor : Nat) (bytes : Bytes), (dev.writeLoop rounds cursor bytes).Only K := by
  intro rounds
  induction rounds with
  | zero =>
      intro cursor bytes
      cases bytes with
      | nil => exact trivial
      | cons b bs => exact trivial
  | succ rounds ih =>
      intro cursor bytes
      cases bytes with
      | nil => exact trivial
      | cons b bs =>
          unfold BlockDevice.writeLoop
          refine only_bind _ _ (only_ofExcept _) fun p => ?_
          rcases p with ⟨id, objectOffset⟩
          have hstore : ∀ object : Bytes, (dev.writeDirtyObject id
              (BlockDevice.overwrite object objectOffset ((b :: bs).take
                (min (bs.length + 1) (dev.map.objectSize - objectOffset)))) objectOffset
              (min (bs.length + 1) (dev.map.objectSize - objectOffset)) >>= fun _ =>
            dev.writeLoop rounds (cursor + min (bs.length + 1) (dev.map.objectSize - objectOffset))
              ((b :: bs).drop (min (bs.length + 1) (dev.map.objectSize - objectOffset)))).Only K :=
            fun object => only_bind _ _ (writeDirtyObject_only h dev _ _ _ _) fun _ => ih _ _
          simp only []
          by_cases hfull : objectOffset = 0 ∧
              min (bs.length + 1) (dev.map.objectSize - objectOffset) = dev.map.objectSize
          · rw [if_pos hfull]
            exact hstore _
          · rw [if_neg hfull]
            exact only_bind _ _ (readObject_only h.toReadClass h.readDirty dev id) hstore

/-- What a flush asks for while it has the lock of the manifest. -/
theorem flushLocked_only (h : DeviceOp.UploadClass K) (dev : BlockDevice)
    (dirty : List DirtyObject) : (dev.flushLocked dirty).Only K := by
  have hupload : ∀ (m : Manifest) (d : DirtyObject), (BlockDevice.uploadDirty m d).Only K := by
    intro m d
    unfold BlockDevice.uploadDirty
    refine only_bind _ _ (only_perform (S := deviceSig) _ (h.readFile _)) fun b => ?_
    refine only_bind _ _ (decodeEnvelope_only _ _ _) fun _ => ?_
    refine only_bind _ _ (only_ensure _ _) fun _ => ?_
    refine only_bind _ _ (only_perform (S := deviceSig) _ (h.sendObject _ _ _ _)) fun r => ?_
    refine only_bind _ _ (only_ofOption _ _) fun m' => ?_
    exact only_bind _ _ (only_perform (S := deviceSig) _ (h.setManifest m')) fun _ => trivial
  unfold BlockDevice.flushLocked
  refine only_bind _ _ (only_perform (S := deviceSig) _ h.getManifest) fun m => ?_
  refine only_bind _ _ (only_ofExcept _) fun gen => ?_
  refine only_bind _ _ (only_perform (S := deviceSig) _ (h.setManifest _)) fun _ => ?_
  refine only_bind _ _ (only_foldlM _ _ hupload _) fun m' => ?_
  have hstore : (disk (.commitLocal m')).Only K := only_perform (S := deviceSig) _ (h.commitLocal m')
  by_cases hcommitter : dev.committer = true
  · simp only [hcommitter, if_true]
    exact only_bind _ _ (only_perform (S := deviceSig) _ (h.commitManifest _ _ _ _)) fun _ => hstore
  · simp only [hcommitter]
    exact hstore

end Crates

end TgDrive
