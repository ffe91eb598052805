import TgDrive.Core.CrashSafety
import TgDrive.Core.Operations

/-!
# Where the References Are

Every reference the backend ever returned is in the manifest, as the reference
of an object or as garbage, and none is there twice. A failed flush leaves the
manifest half-updated and the next one uploads the same rows again, so an
object may go through several references before one is committed. But a
reference is entered in the same step in which the one before it becomes
garbage, so nothing is lost at any point where a flush can fail.

`Receipts` is a backend that keeps what it returned. `Accounted` is the
invariant of a process: the references are accounted for, and the bytes that
were last written to a dirty object are in the file of its row.

## Main definitions

* `Manifest.references`: The references in a manifest.
* `Receipt`, `Receipts`: Uploads that succeeded, and a backend that keeps them.
* `LocalStore.Kept`: The stores that the operations of a device lead to.
* `Attempts`: The runs of one process.
* `Accounted`: The invariant.

## Theorems

* `references_recordUpload`: Entering an upload moves one reference.
* `Accounted.wp_writeAt`, `Accounted.wp_flush`: What keeps the invariant.
* `flushed_receipts`: What a flush that succeeds has uploaded.
* `references_partition`: Nothing is lost, and nothing is there twice.
-/

namespace TgDrive

open Data Effect

/-- The references of the objects. -/
def Manifest.liveReferences (m : Manifest) : List RemoteObjectRef :=
  m.objects.filterMap fun e => e.remote

/-- The references of the objects and the garbage. -/
def Manifest.references (m : Manifest) : List RemoteObjectRef := m.liveReferences ++ m.garbage

/-- An upload that succeeded. -/
structure Receipt where
  objectId : Nat
  generation : Nat
  bytes : Bytes
  ref : RemoteObjectRef

/-- The receipt of a call, if it was an upload that succeeded. -/
def Call.receipts : (c : Call) → Except String c.Resp → List Receipt
  | .sendObject objectId generation bytes _, .ok ref => [⟨objectId, generation, bytes, ref⟩]
  | _, _ => []

/-- A backend that keeps its receipts. -/
def Receipts {ρ : Type} (B : Backend ρ) : Backend (ρ × List Receipt) where
  step c s r s' := B.step c s.1 r s'.1 ∧ s'.2 = s.2 ++ c.receipts r
  crash c s s' := B.crash c s.1 s'.1 ∧ s'.2 = s.2

/-- Entering an upload adds its reference and drops none. -/
theorem references_recordUpload (m m' : Manifest) (d : DirtyObject) (ref : RemoteObjectRef)
    (sha : Text) (h : m.recordUpload d ref sha = some m') :
    m'.references.Perm (m.references ++ [ref]) := by
  obtain ⟨e, he, rfl⟩ := recordUpload_eq_some m m' d ref sha h
  -- The objects around the first one with the id.
  have hobjects : ∀ objects : List ManifestObject,
      objects.find? (fun x => x.objectId == d.objectId) = some e →
      ((updateFirst d.objectId (fun x => x.uploaded d ref sha) objects).filterMap (·.remote) ++
        e.remote.toList).Perm (objects.filterMap (·.remote) ++ [ref]) := by
    intro objects
    induction objects with
    | nil => exact fun h => (by cases h)
    | cons o rest ih =>
        intro hfind
        by_cases ho : o.objectId = d.objectId
        · rw [List.find?_cons_of_pos (by simp [ho]), Option.some.injEq] at hfind
          rw [updateFirst, if_pos ho, hfind]
          simp only [List.filterMap_cons, ManifestObject.uploaded]
          refine List.perm_iff_count.mpr fun x => ?_
          rcases e.remote with _ | r
          · simp only [List.count_append, List.count_cons, List.count_nil, Option.toList_none]
            omega
          · simp only [List.count_append, List.count_cons, List.count_nil, Option.toList_some]
            omega
        · rw [List.find?_cons_of_neg (by simp [ho])] at hfind
          rw [updateFirst, if_neg ho]
          refine List.perm_iff_count.mpr fun x => ?_
          have hrest := List.perm_iff_count.mp (ih hfind) x
          rcases ho' : o.remote with _ | r
          · simp only [List.filterMap_cons, ho', List.count_append] at hrest ⊢
            exact hrest
          · simp only [List.filterMap_cons, ho', List.count_append, List.count_cons] at hrest ⊢
            omega
  refine List.perm_iff_count.mpr fun x => ?_
  have hcount := List.perm_iff_count.mp (hobjects m.objects he) x
  simp only [Manifest.references, Manifest.liveReferences, List.count_append] at hcount ⊢
  omega

section Crates

variable {ρ : Type} [Crates] {B : Backend ρ} {P : Policy (ρ × List Receipt)}

/-- The stores that the operations of a device lead to, with manifests put in
    from outside. -/
inductive LocalStore.Kept : LocalStore → Prop
  | empty : Kept LocalStore.empty
  | operation {σ : Type} (w : World σ) (l : LocalOp) (k : Nat) (h : Kept w.store) :
      Kept (cutOff (l.effects w) k w).store
  | manifest (s : LocalStore) (m : Manifest) (h : Kept s) : Kept (s.setManifestState m)

/-- The rows of the WAL are about dirty objects. -/
def LocalStore.WalDirty (s : LocalStore) : Prop :=
  ∀ e ∈ s.walEntries, (s.dirtyObject e.objectId).isSome

/-- The rows of the WAL after an object was stored as dirty: those before, and
    one of the object once its dirty row is there. -/
theorem wal_storeDirty {σ : Type} (w : World σ) (id gen : Nat) (encoded : Bytes)
    (offset len k : Nat) : ∀ e ∈ (cutOff ((LocalOp.storeDirty id gen encoded offset len).effects w)
      k w).store.walEntries, e ∈ w.store.walEntries ∨ (e.objectId = id ∧ 3 ≤ k) := by
  intro e he
  match k with
  | 0 => exact Or.inl he
  | 1 => exact Or.inl he
  | 2 => exact Or.inl he
  | 3 => exact Or.inl he
  | 4 => exact Or.inl (List.mem_filter.mp he).1
  | k + 5 =>
      rw [cutOff_length _ _ (by rw [length_effects_storeDirty]; omega)] at he
      rcases List.mem_append.mp he with hold | hnew
      · exact Or.inl (List.mem_filter.mp hold).1
      · rw [List.mem_singleton.mp hnew]
        exact Or.inr ⟨rfl, by omega⟩

theorem walDirty_storeDirty {σ : Type} (w : World σ) (id gen : Nat) (encoded : Bytes)
    (offset len k : Nat) (h : w.store.WalDirty) :
    (cutOff ((LocalOp.storeDirty id gen encoded offset len).effects w) k w).store.WalDirty := by
  intro e he
  have hrow := wal_storeDirty w id gen encoded offset len k e he
  rcases cutOff_storeDirty w id gen encoded offset len k with ⟨_, heq⟩ | ⟨_, htorn⟩ | ⟨_, hdirty⟩
  · rw [heq] at he ⊢
    exact h e he
  · rw [htorn.rows]
    exact hrow.elim (h e) fun hnew => by omega
  · rw [hdirty.rows]
    by_cases hid : e.objectId = id
    · rw [if_pos hid]
      rfl
    · rw [if_neg hid]
      exact hrow.elim (h e) fun hnew => absurd hnew.1 hid

/-- Whatever happens on the disk, the rows of the WAL are about dirty
    objects. -/
theorem walDirty_cut {σ : Type} (w : World σ) (l : LocalOp) (k : Nat) (h : w.store.WalDirty) :
    (cutOff (l.effects w) k w).store.WalDirty := by
  -- What touches neither table keeps the relation between them.
  have hquiet : (∀ f ∈ l.effects w, ∀ w' : World σ, (f w').store.walEntries = w'.store.walEntries ∧
      (f w').store.dirtyObjects = w'.store.dirtyObjects) →
      (cutOff (l.effects w) k w).store.WalDirty := by
    intro hf
    refine cutOff_preserves (fun w' : World σ => w'.store.WalDirty) _ (fun f hmem w' hw' => ?_) k w h
    obtain ⟨hwal, hrows⟩ := hf f hmem w'
    intro e he
    rw [hwal] at he
    rw [LocalStore.dirtyObject, hrows]
    exact hw' e he
  cases l with
  | storeDirty id gen b offset len => exact walDirty_storeDirty w id gen b offset len k h
  | commitLocal m =>
      rcases cutOff_commitLocal w m k with ⟨store, heq, rfl | rfl | rfl⟩
      · rw [heq]
        exact h
      · rw [heq]
        exact h
      · rw [heq]
        exact fun e he => absurd he List.not_mem_nil
  | readCache id gen sha =>
      refine hquiet fun f hf w' => ?_
      simp only [LocalOp.effects] at hf
      by_cases hfile : (w.store.files (LocalStore.cachePath id gen)).isSome
      · rw [if_pos hfile] at hf
        obtain ⟨g, hg, rfl⟩ := List.mem_map.mp hf
        rw [List.mem_singleton.mp hg]
        exact ⟨rfl, rfl⟩
      · rw [if_neg hfile] at hf
        exact absurd hf List.not_mem_nil
  | writeCache id gen b =>
      refine hquiet fun f hf w' => ?_
      simp only [LocalOp.effects, LocalStore.writeCache, List.map_cons, List.map_nil,
        List.mem_cons, List.not_mem_nil, or_false] at hf
      rcases hf with rfl | rfl
      · exact ⟨rfl, rfl⟩
      · exact ⟨rfl, rfl⟩
  | lockManifest => exact hquiet fun f hf w' => by rw [List.mem_singleton.mp hf]; exact ⟨rfl, rfl⟩
  | setManifest m => exact hquiet fun f hf w' => by rw [List.mem_singleton.mp hf]; exact ⟨rfl, rfl⟩
  | unlockManifest =>
      exact hquiet fun f hf w' => by rw [List.mem_singleton.mp hf]; exact ⟨rfl, rfl⟩
  | dirtyObjects => exact hquiet fun f hf => absurd hf List.not_mem_nil
  | readDirty id => exact hquiet fun f hf => absurd hf List.not_mem_nil
  | dirtyCount => exact hquiet fun f hf => absurd hf List.not_mem_nil
  | readFile path => exact hquiet fun f hf => absurd hf List.not_mem_nil
  | peekManifest => exact hquiet fun f hf => absurd hf List.not_mem_nil
  | getManifest => exact hquiet fun f hf => absurd hf List.not_mem_nil

theorem LocalStore.Kept.walDirty (s : LocalStore) (h : s.Kept) : s.WalDirty := by
  induction h with
  | empty => exact fun e he => absurd he List.not_mem_nil
  | operation w l k h ih => exact walDirty_cut w l k ih
  | manifest s m h ih => exact ih

/-- The row of a dirty object whose file has what was last written to it. -/
structure DirtyObject.Spells (dev : BlockDevice) (written : Nat → Option UInt8)
    (files : CachePath → Option Bytes) (id : Nat) (d : DirtyObject) : Prop where
  inside : id < dev.map.objectCount
  path : d.cachePath = LocalStore.cachePath id d.generation
  file : ∃ b env, files d.cachePath = some b ∧ ObjectEnvelope.decode b id d.generation = .ok env ∧
    ∀ o v, o < dev.map.objectSize → written (id * dev.map.objectSize + o) = some v →
      (objectOf dev.map.objectSize b)[o]? = some v

/-- The references of a process are accounted for, and what was last written
    to the dirty objects is in their files. -/
structure Accounted (dev : BlockDevice) (initial : List RemoteObjectRef)
    (written : Nat → Option UInt8) (w : World (ρ × List Receipt)) : Prop where
  references : w.manifest.references.Perm (initial ++ w.remote.2.map Receipt.ref)
  listed : ∀ id, id < dev.map.objectCount → (w.manifest.find id).isSome
  rows : ∀ id d, w.store.dirtyObject id = some d → d.Spells dev written w.store.files id
  wal : w.store.WalDirty
  known : ∀ id o v, o < dev.map.objectSize → written (id * dev.map.objectSize + o) = some v →
    (w.store.dirtyObject id).isSome

namespace Accounted

variable {dev : BlockDevice} {initial : List RemoteObjectRef} {written written' : Nat → Option UInt8}
  {w w' : World (ρ × List Receipt)}

/-- Less may be known of what was written. -/
theorem forget (h : Accounted dev initial written w)
    (hless : ∀ p v, written' p = some v → written p = some v) :
    Accounted dev initial written' w where
  references := h.references
  listed := h.listed
  rows := by
    intro id d hd
    have hrow := h.rows id d hd
    obtain ⟨b, env, hb, henv, hspell⟩ := hrow.file
    exact ⟨hrow.inside, hrow.path, b, env, hb, henv, fun o v ho hv => hspell o v ho (hless _ v hv)⟩
  wal := h.wal
  known := fun id o v ho hv => h.known id o v ho (hless _ v hv)

/-- It does not depend on the lock, nor on the cache of objects that are not
    dirty. -/
theorem aside (h : Accounted dev initial written w) (hmanifest : w'.manifest = w.manifest)
    (hremote : w'.remote.2 = w.remote.2) (hrows : w'.store.dirtyObjects = w.store.dirtyObjects)
    (hwal : w'.store.walEntries = w.store.walEntries)
    (hfiles : ∀ p, (w.store.dirtyObject p.objectId).isSome → w'.store.files p = w.store.files p) :
    Accounted dev initial written w' := by
  have hobject : ∀ id, w'.store.dirtyObject id = w.store.dirtyObject id := by
    intro id
    rw [LocalStore.dirtyObject, hrows, LocalStore.dirtyObject]
  refine { references := ?_, listed := ?_, rows := ?_, wal := ?_, known := ?_ }
  · rw [hmanifest, hremote]
    exact h.references
  · rw [hmanifest]
    exact h.listed
  · intro id d hd
    rw [hobject] at hd
    have hrow := h.rows id d hd
    have hsame : w'.store.files d.cachePath = w.store.files d.cachePath := by
      refine hfiles _ ?_
      rw [hrow.path]
      simp only [LocalStore.cachePath, hd, Option.isSome_some]
    exact ⟨hrow.inside, hrow.path, by rw [hsame]; exact hrow.file⟩
  · intro e he
    rw [hwal] at he
    rw [hobject]
    exact h.wal e he
  · intro id o v ho hv
    rw [hobject]
    exact h.known id o v ho hv

end Accounted

/-- What reading the object with an id asks for. -/
def DeviceOp.Reads (id : Nat) : DeviceOp → Prop
  | .disk (.readDirty _) => True
  | .disk .peekManifest => True
  | .disk (.readCache i _ _) => i = id
  | .disk (.writeCache i _ _) => i = id
  | .call (.fetchObject _) => True
  | _ => False

namespace Accounted

variable {dev : BlockDevice} {initial : List RemoteObjectRef} {written written' : Nat → Option UInt8}
  {w w' : World (ρ × List Receipt)}

/-- Reading an object that is not dirty keeps the invariant, however far it
    gets. -/
theorem reads_cut (h : Accounted dev initial written w) (id : Nat)
    (hclean : w.store.dirtyObject id = none) (l : LocalOp) (hl : DeviceOp.Reads id (.disk l))
    (k : Nat) : Accounted dev initial written (cutOff (l.effects w) k w) ∧
      (cutOff (l.effects w) k w).store.dirtyObject id = none := by
  cases l with
  | readDirty i =>
      rw [show (LocalOp.readDirty i).effects w = [] from rfl, cutOff_nil]
      exact ⟨h, hclean⟩
  | peekManifest =>
      rw [show LocalOp.peekManifest.effects w = [] from rfl, cutOff_nil]
      exact ⟨h, hclean⟩
  | readCache i gen sha =>
      obtain ⟨t, ht⟩ := cutOff_readCache w i gen sha k
      rw [ht]
      exact ⟨h.aside rfl rfl rfl rfl fun _ _ => rfl, hclean⟩
  | writeCache i gen b =>
      have hid : i = id := hl
      refine cutOff_preserves (fun w' => Accounted dev initial written w' ∧
        w'.store.dirtyObject id = none) _ (fun f hf s hs => ?_) k w ⟨h, hclean⟩
      obtain ⟨hs, hnone⟩ := hs
      simp only [LocalOp.effects, LocalStore.writeCache, List.map_cons, List.map_nil,
        List.mem_cons, List.not_mem_nil, or_false] at hf
      rcases hf with rfl | rfl
      · refine ⟨hs.aside rfl rfl rfl rfl fun p hp => ?_, hnone⟩
        -- The file of another object.
        have hne : p ≠ LocalStore.cachePath i gen := by
          rintro rfl
          rw [show (LocalStore.cachePath i gen).objectId = i from rfl, hid, hnone] at hp
          cases hp
        exact (LocalStore.files_writeFile _ _ _ _).trans (if_neg hne)
      · exact ⟨hs.aside rfl rfl rfl rfl fun _ _ => rfl, hnone⟩
  | dirtyObjects => exact False.elim hl
  | dirtyCount => exact False.elim hl
  | storeDirty => exact False.elim hl
  | commitLocal => exact False.elim hl
  | readFile => exact False.elim hl
  | lockManifest => exact False.elim hl
  | getManifest => exact False.elim hl
  | setManifest => exact False.elim hl
  | unlockManifest => exact False.elim hl

/-- Reading an object keeps the invariant, and what is read has what was last
    written. -/
theorem wp_readObject (h : Accounted dev initial written w) (id : Nat) :
    wp (DeviceEnv (Receipts B) P) (dev.readObject id) (fun r w' =>
      Accounted dev initial written w' ∧ ∀ object, r = .ok object →
        object.length = dev.map.objectSize ∧ ∀ o v, o < dev.map.objectSize →
          written (id * dev.map.objectSize + o) = some v → object[o]? = some v)
      (fun _ => True) w := by
  rcases hd : w.store.dirtyObject id with _ | d
  · -- Nothing was written to it since the last flush.
    have hnone : ∀ o v, o < dev.map.objectSize →
        written (id * dev.map.objectSize + o) ≠ some v := by
      intro o v ho hv
      have hsome := h.known id o v ho hv
      rw [hd] at hsome
      cases hsome
    have hmeets : (dev.readObject id).Meets (S := deviceSig) (fun _ _ => True)
        (DeviceOp.Reads id) (fun object => object.length = dev.map.objectSize) :=
      readObject_meets_at dev id
        ⟨trivial, trivial, fun _ _ => rfl, fun _ _ => rfl, fun _ => trivial⟩
    refine wp_mono _ _ _ (fun _ => True) _ (fun r w' hr => ⟨hr.1.1, fun object hobject =>
      ⟨hr.2 object hobject, fun o v ho hv => absurd hv (hnone o v ho)⟩⟩) (fun _ _ => trivial) w
      (wp_of_meets _
        (fun w' => Accounted dev initial written w' ∧ w'.store.dirtyObject id = none) (fun _ => True)
        (fun e he s r s' hstep hs => ⟨trivial, ?_⟩) (fun _ _ _ _ _ _ => trivial) _
        hmeets w ⟨h, hd⟩)
    cases e with
    | disk l =>
        rcases hstep with hrun | ⟨k, msg, _, _, _, rfl⟩
        · rcases r with msg | a
          · rw [(LocalOp.run_error l s s' msg hrun).2]
            exact hs
          · rw [(LocalOp.run_ok l s s' a hrun).2, ← cutOff_length _ _ (Nat.le_refl _)]
            exact hs.1.reads_cut id hs.2 l he _
        · exact hs.1.reads_cut id hs.2 l he k
    | call c =>
        obtain ⟨t, ⟨_, hlog⟩, rfl⟩ := hstep
        refine ⟨hs.1.aside rfl ?_ rfl rfl fun _ _ => rfl, hs.2⟩
        cases c with
        | fetchObject ref => exact hlog.trans (List.append_nil _)
        | sendObject => exact False.elim he
        | commitManifest => exact False.elim he
        | getMessagesById => exact False.elim he
  · obtain ⟨b, env, hb, henv, hspell⟩ := (h.rows id d hd).file
    unfold BlockDevice.readObject
    refine wp_query (.readDirty id) _ _ _ w rfl (fun a ha => ?_)
      (fun msg hmsg => ⟨h, fun object ho => (by cases ho)⟩)
      (fun k msg _ => ⟨h, fun object ho => (by cases ho)⟩) trivial
    rcases answer_readDirty w id a ha with ⟨rfl, hnone⟩ | ⟨d', b', rfl, hd', hb'⟩
    · rw [hd] at hnone
      cases hnone
    · rw [hd, Option.some.injEq] at hd'
      rw [← hd', hb, Option.some.injEq] at hb'
      rw [← hd', ← hb']
      refine wp_ensure_bind _ _ _ _ _ _ (fun _ => ?_) (fun _ => ⟨h, fun object ho => (by cases ho)⟩)
      refine wp_decode _ _ _ _ _ _ _ (fun env' henv' => ?_)
        (fun failure _ => ⟨h, fun object ho => (by cases ho)⟩)
      refine ⟨h, fun object ho => ?_⟩
      rw [← Except.ok.inj ho, pad_decode _ _ _ _ env' henv']
      exact ⟨length_objectOf _ _, hspell⟩

/-- An object stored as dirty keeps the invariant if it has what is known of
    what was written to it. -/
theorem dirtied (h : Accounted dev initial written w) (id gen : Nat) (object : Bytes)
    (hid : id < dev.map.objectCount) (hid' : id < 2 ^ 64) (hgen : gen < 2 ^ 64)
    (hd : Dirtied id gen (dev.encodeDirty id gen object) w w') (hwal : w'.store.WalDirty)
    (hlength : object.length = dev.map.objectSize)
    (hobject : ∀ o v, o < dev.map.objectSize →
      written' (id * dev.map.objectSize + o) = some v → object[o]? = some v)
    (hother : ∀ i o v, i ≠ id → o < dev.map.objectSize →
      written' (i * dev.map.objectSize + o) = some v →
      written (i * dev.map.objectSize + o) = some v) : Accounted dev initial written' w' where
  references := by
    rw [hd.manifest, hd.remote]
    exact h.references
  listed := by
    rw [hd.manifest]
    exact h.listed
  rows := by
    intro i d hrow
    rw [hd.rows] at hrow
    by_cases hi : i = id
    · rw [if_pos hi, Option.some.injEq] at hrow
      obtain ⟨env, henv⟩ := decode_encodeDirty dev id gen object hid' hgen
      rw [hi, ← hrow]
      refine ⟨hid, rfl, dev.encodeDirty id gen object, env, ?_, henv, fun o v ho hv => ?_⟩
      · rw [hd.files, dirtyRow, if_pos rfl]
      · rw [objectOf_encodeDirty, padObject_self _ _ hlength]
        exact hobject o v ho hv
    · rw [if_neg hi] at hrow
      have hold := h.rows i d hrow
      obtain ⟨b, env, hb, henv, hspell⟩ := hold.file
      refine ⟨hold.inside, hold.path, b, env, ?_, henv, fun o v ho hv =>
        hspell o v ho (hother i o v hi ho hv)⟩
      rw [hd.files, hold.path, if_neg (cachePath_ne i _ hi), ← hold.path]
      exact hb
  wal := hwal
  known := by
    intro i o v ho hv
    rw [hd.rows]
    by_cases hi : i = id
    · rw [if_pos hi]
      rfl
    · rw [if_neg hi]
      exact h.known i o v ho (hother i o v hi ho hv)

/-- A file that was overwritten under its row has what is known of what was
    written, if what was stored has it. -/
theorem torn (h : Accounted dev initial written w) (id gen : Nat) (object : Bytes)
    (hid' : id < 2 ^ 64) (hgen : gen < 2 ^ 64)
    (ht : Torn id gen (dev.encodeDirty id gen object) w w') (hwal : w'.store.WalDirty)
    (hlength : object.length = dev.map.objectSize)
    (hobject : ∀ o v, o < dev.map.objectSize →
      written (id * dev.map.objectSize + o) = some v → object[o]? = some v) :
    Accounted dev initial written w' where
  references := by
    rw [ht.manifest, ht.remote]
    exact h.references
  listed := by
    rw [ht.manifest]
    exact h.listed
  rows := by
    intro i d hrow
    rw [ht.rows] at hrow
    have hold := h.rows i d hrow
    obtain ⟨b, env, hb, henv, hspell⟩ := hold.file
    by_cases hpath : d.cachePath = LocalStore.cachePath id gen
    · -- It is the file of the row: the object is the same, and so is the generation.
      have hsame := hpath
      rw [hold.path] at hsame
      have hi : i = id := congrArg CachePath.objectId hsame
      have hg : d.generation = gen := congrArg CachePath.generation hsame
      obtain ⟨env', henv'⟩ := decode_encodeDirty dev id gen object hid' hgen
      refine ⟨hold.inside, hold.path, dev.encodeDirty id gen object, env', ?_, ?_,
        fun o v ho hv => ?_⟩
      · rw [ht.files, if_pos hpath]
      · rw [hi, hg]
        exact henv'
      · rw [objectOf_encodeDirty, padObject_self _ _ hlength]
        rw [hi] at hv
        exact hobject o v ho hv
    · refine ⟨hold.inside, hold.path, b, env, ?_, henv, hspell⟩
      rw [ht.files, if_neg hpath]
      exact hb
  wal := hwal
  known := by
    intro i o v ho hv
    rw [ht.rows]
    exact h.known i o v ho hv

end Accounted

omit [Crates] in
/-- An object with a chunk written over it has what was written. -/
theorem overwrite_spells (size id o : Nat) (written : Nat → Option UInt8) (object chunk : Bytes)
    (hlength : object.length = size) (hfit : o + chunk.length ≤ size)
    (hobject : ∀ k v, k < size → k < o ∨ o + chunk.length ≤ k →
      written (id * size + k) = some v → object[k]? = some v) (k : Nat) (v : UInt8) (hk : k < size)
    (hv : splice written (id * size + o) (chunk.map some) (id * size + k) = some v) :
    (BlockDevice.overwrite object o chunk)[k]? = some v := by
  have hchunk : (chunk.map some).length = chunk.length := List.length_map _
  unfold BlockDevice.overwrite
  by_cases hbefore : k < o
  · rw [splice_before _ _ _ _ (by omega)] at hv
    rw [List.append_assoc, List.getElem?_append_left (by rw [List.length_take]; omega),
      List.getElem?_take_of_lt hbefore]
    exact hobject k v hk (Or.inl hbefore) hv
  have htake : (object.take o).length = o := by
    rw [List.length_take]
    omega
  by_cases hafter : o + chunk.length ≤ k
  · rw [splice_after _ _ _ _ (by omega)] at hv
    rw [List.getElem?_append_right (by rw [List.length_append, htake]; exact hafter),
      List.getElem?_drop, List.length_append, htake]
    have hsum : o + chunk.length + (k - (o + chunk.length)) = k := by omega
    rw [hsum]
    exact hobject k v hk (Or.inr hafter) hv
  · have hinside := splice_inside written (id * size + o) (chunk.map some) (k - o) (by omega)
    have hpos : id * size + o + (k - o) = id * size + k := by omega
    rw [hpos, hv, List.getElem?_map] at hinside
    rw [List.append_assoc, List.getElem?_append_right (by omega), htake,
      List.getElem?_append_left (by omega)]
    rcases hget : chunk[k - o]? with _ | u
    · rw [hget] at hinside
      cases hinside
    · rw [hget, Option.map_some, Option.some.injEq] at hinside
      exact hinside.symm

/-- What is known of what was written after a write, by how it ended. -/
def afterWrite (written : Nat → Option UInt8) (offset : Nat) (bytes : Bytes) :
    Except String Unit → Nat → Option UInt8
  | .ok _ => splice written offset (bytes.map some)
  | .error _ => splice written offset (bytes.map fun _ => none)

omit [Crates] in
/-- After a write that failed, less is known than before and than after one
    that did not. -/
theorem splice_none (written : Nat → Option UInt8) (offset : Nat) (bytes : Bytes) (p : Nat)
    (v : UInt8) (h : splice written offset (bytes.map fun _ => none) p = some v) :
    written p = some v ∧ splice written offset (bytes.map some) p = some v ∧
      (p < offset ∨ offset + bytes.length ≤ p) := by
  have hlength : (bytes.map fun _ => (none : Option UInt8)).length = bytes.length :=
    List.length_map _
  have hlength' : (bytes.map some).length = bytes.length := List.length_map _
  by_cases hbefore : p < offset
  · rw [splice_before _ _ _ _ hbefore] at h ⊢
    exact ⟨h, h, Or.inl hbefore⟩
  by_cases hafter : offset + bytes.length ≤ p
  · rw [splice_after _ _ _ _ (by omega)] at h ⊢
    exact ⟨h, h, Or.inr hafter⟩
  · have hinside := splice_inside written offset (bytes.map fun _ => none) (p - offset) (by omega)
    have hpos : offset + (p - offset) = p := by omega
    rw [hpos, h, List.getElem?_map] at hinside
    rcases hget : bytes[p - offset]? with _ | u
    · rw [hget] at hinside
      cases hinside
    · rw [hget] at hinside
      cases hinside

namespace Accounted

variable {dev : BlockDevice} {initial : List RemoteObjectRef} {written : Nat → Option UInt8}
  {w : World (ρ × List Receipt)}

/-- A write that fails leaves the invariant with what is still known. -/
theorem failed (h : Accounted dev initial written w) (offset : Nat) (bytes : Bytes) (msg : String) :
    Accounted dev initial (afterWrite written offset bytes (.error msg)) w :=
  h.forget fun p v hv => (splice_none written offset bytes p v hv).1

/-- Storing an object with a chunk written over it. -/
theorem wp_storeDirty (h : Accounted dev initial written w) (id gen o offset len : Nat)
    (object chunk : Bytes) (hid : id < dev.map.objectCount) (hid' : id < 2 ^ 64)
    (hgen : gen < 2 ^ 64) (hlength : object.length = dev.map.objectSize)
    (hfit : o + chunk.length ≤ dev.map.objectSize)
    (hobject : ∀ k v, k < dev.map.objectSize → k < o ∨ o + chunk.length ≤ k →
      written (id * dev.map.objectSize + k) = some v → object[k]? = some v) :
    wp (DeviceEnv (Receipts B) P) (disk (.storeDirty id gen
        (dev.encodeDirty id gen (BlockDevice.overwrite object o chunk)) offset len))
      (fun r w' => Accounted dev initial
        (afterWrite written (id * dev.map.objectSize + o) chunk r) w') (fun _ => True) w := by
  have hlength' : (BlockDevice.overwrite object o chunk).length = dev.map.objectSize := by
    unfold BlockDevice.overwrite
    rw [List.length_append, List.length_append, List.length_take, List.length_drop]
    omega
  have hspell := overwrite_spells dev.map.objectSize id o written object chunk hlength hfit hobject
  have hother : ∀ chunk' : List (Option UInt8), o + chunk'.length ≤ dev.map.objectSize →
      ∀ i k v, i ≠ id → k < dev.map.objectSize →
        splice written (id * dev.map.objectSize + o) chunk' (i * dev.map.objectSize + k) = some v →
        written (i * dev.map.objectSize + k) = some v := by
    intro chunk' hfit' i k v hi hk hv
    rwa [splice_other _ id i written o chunk' k hfit' hi hk] at hv
  have hwhole : ∀ w', Dirtied id gen (dev.encodeDirty id gen
      (BlockDevice.overwrite object o chunk)) w w' → w'.store.WalDirty →
      Accounted dev initial (splice written (id * dev.map.objectSize + o) (chunk.map some)) w' :=
    fun w' hd hwal => h.dirtied id gen _ hid hid' hgen hd hwal hlength' hspell
      (hother _ (by rw [List.length_map]; exact hfit))
  refine (wp_perform (S := deviceSig) _ _ _ w).mpr ⟨fun r w' hstep => ?_, fun _ _ => trivial⟩
  rcases hstep with hrun | ⟨k, msg, _, _, rfl, rfl⟩
  · rw [(Prod.mk.inj hrun).2, (Prod.mk.inj hrun).1]
    refine hwhole _ (applyAll_storeDirty w id gen _ offset len) ?_
    rw [← cutOff_length _ _ (Nat.le_refl _)]
    exact walDirty_storeDirty w id gen _ offset len _ h.wal
  · have hwal := walDirty_storeDirty w id gen (dev.encodeDirty id gen
      (BlockDevice.overwrite object o chunk)) offset len k h.wal
    rcases cutOff_storeDirty w id gen (dev.encodeDirty id gen
      (BlockDevice.overwrite object o chunk)) offset len k with ⟨_, heq⟩ | ⟨_, ht⟩ | ⟨_, hd⟩
    · rw [heq]
      exact h.failed _ _ msg
    · -- What is still known is in the new file as it was in the old one.
      refine (h.failed _ _ msg).torn id gen _ hid' hgen ht hwal hlength' fun k v hk hv => ?_
      exact hspell k v hk (splice_none written _ chunk _ v hv).2.1
    · exact (hwhole _ hd hwal).forget fun p v hv => (splice_none written _ chunk p v hv).2.1

/-- Storing one object as dirty. -/
theorem wp_writeDirtyObject (h : Accounted dev initial written w) (id o len : Nat)
    (object chunk : Bytes) (hid : id < dev.map.objectCount) (hid' : id < 2 ^ 64)
    (hlength : object.length = dev.map.objectSize)
    (hfit : o + chunk.length ≤ dev.map.objectSize)
    (hobject : ∀ k v, k < dev.map.objectSize → k < o ∨ o + chunk.length ≤ k →
      written (id * dev.map.objectSize + k) = some v → object[k]? = some v) :
    wp (DeviceEnv (Receipts B) P)
      (dev.writeDirtyObject id (BlockDevice.overwrite object o chunk) o len)
      (fun r w' => Accounted dev initial
        (afterWrite written (id * dev.map.objectSize + o) chunk r) w') (fun _ => True) w := by
  unfold BlockDevice.writeDirtyObject
  refine wp_query .dirtyCount _ _ _ w rfl (fun count _ => ?_) (fun msg _ => h.failed _ _ msg)
    (fun k msg _ => h.failed _ _ msg) trivial
  refine wp_ensure_bind _ _ _ _ _ _ (fun _ => ?_) (fun _ => h.failed _ _ _)
  refine wp_query .peekManifest _ _ _ w rfl (fun m hm => ?_) (fun msg _ => h.failed _ _ msg)
    (fun k msg _ => h.failed _ _ msg) trivial
  rw [(answer_peekManifest w m hm).1]
  refine wp_ofExcept_bind _ _ _ _ _ (fun gen hgen => ?_) (fun msg _ => h.failed _ _ msg)
  obtain ⟨rfl, hlt⟩ := checkedAdd_eq_ok _ _ gen hgen
  exact h.wp_storeDirty id _ o o len object chunk hid hid' hlt hlength hfit hobject

/-- The rounds of a write keep the invariant. -/
theorem wp_writeLoop (dev : BlockDevice) (initial : List RemoteObjectRef) :
    ∀ (rounds cursor : Nat) (bytes : Bytes) (written : Nat → Option UInt8)
      (w : World (ρ × List Receipt)), Accounted dev initial written w →
      cursor + bytes.length ≤ dev.map.deviceSize →
      wp (DeviceEnv (Receipts B) P) (dev.writeLoop rounds cursor bytes)
        (fun r w' => Accounted dev initial (afterWrite written cursor bytes r) w')
        (fun _ => True) w := by
  have hdevice := dev.map.deviceSize_lt
  intro rounds
  induction rounds with
  | zero =>
      intro cursor bytes written w h _
      cases bytes with
      | nil =>
          change Accounted dev initial (splice written cursor []) w
          rw [splice_nil]
          exact h
      | cons b bs => exact h.failed _ _ _
  | succ rounds ih =>
      intro cursor bytes written w h hend
      cases bytes with
      | nil =>
          change Accounted dev initial (splice written cursor []) w
          rw [splice_nil]
          exact h
      | cons b bs =>
          unfold BlockDevice.writeLoop
          refine wp_ofExcept_bind _ _ _ _ _ (fun p hp => ?_) (fun msg _ => h.failed _ _ msg)
          rw [List.length_cons] at hend
          have hpos : 0 < dev.map.objectSize := by
            by_contra hzero
            rw [BlockMap.locate, if_neg (by omega), if_pos (by omega)] at hp
            cases hp
          rw [locate_inside _ _ hpos (by omega)] at hp
          rw [← Except.ok.inj hp]
          simp only []
          -- The place of the round, and the chunk it takes.
          have hplace : cursor / dev.map.objectSize * dev.map.objectSize +
              cursor % dev.map.objectSize = cursor := by
            rw [Nat.mul_comm]
            exact Nat.div_add_mod _ _
          have hoffset := Nat.mod_lt cursor hpos
          have hid : cursor / dev.map.objectSize < dev.map.objectCount :=
            lt_objectCount dev.map _ (by omega) hpos
          have hid' : cursor / dev.map.objectSize < 2 ^ 64 := by
            have hle := Nat.div_le_self cursor dev.map.objectSize
            omega
          generalize hid_eq : cursor / dev.map.objectSize = id at hid hid' hplace ⊢
          generalize cursor % dev.map.objectSize = o at hoffset hplace ⊢
          generalize htake_eq : min (bs.length + 1) (dev.map.objectSize - o) = take
          have htake : take ≤ bs.length + 1 ∧ o + take ≤ dev.map.objectSize ∧ 0 < take := by omega
          have hchunk : ((b :: bs).take take).length = take := by
            rw [List.length_take, List.length_cons]
            omega
          have hsplit : (b :: bs).take take ++ (b :: bs).drop take = b :: bs :=
            List.take_append_drop take (b :: bs)
          -- What follows once the object to write over is there.
          have hrest : ∀ (object : Bytes) (w1 : World (ρ × List Receipt)),
              Accounted dev initial written w1 → object.length = dev.map.objectSize →
              (∀ k v, k < dev.map.objectSize → k < o ∨ o + take ≤ k →
                written (id * dev.map.objectSize + k) = some v → object[k]? = some v) →
              wp (DeviceEnv (Receipts B) P) (dev.writeDirtyObject id
                (BlockDevice.overwrite object o ((b :: bs).take take)) o take >>= fun _ =>
                  dev.writeLoop rounds (cursor + take) ((b :: bs).drop take))
                (fun r w' => Accounted dev initial (afterWrite written cursor (b :: bs) r) w')
                (fun _ => True) w1 := by
            intro object w1 h1 hlength hobject
            refine wp_seq _ _ _ (fun _ => True) _ _ _ (h1.wp_writeDirtyObject id o take object
              ((b :: bs).take take) hid hid' hlength (by omega) (by rw [hchunk]; exact hobject))
              (fun _ w2 h2 => ?_) (fun msg w2 h2 => ?_) (fun _ _ => trivial)
            · rw [hplace] at h2
              refine wp_mono _ _ _ _ _ (fun r w3 h3 => ?_) (fun _ _ => trivial) w2
                (ih (cursor + take) ((b :: bs).drop take) _ w2 h2 (by
                  rw [List.length_drop, List.length_cons]
                  omega))
              have hjoin := splice_append written cursor (((b :: bs).take take).map some)
                (((b :: bs).drop take).map some)
              rw [List.length_map, hchunk, ← List.map_append, hsplit] at hjoin
              cases r with
              | ok u =>
                  change Accounted dev initial (splice (splice written cursor _) _ _) w3 at h3
                  rw [hjoin] at h3
                  exact h3
              | error msg =>
                  -- What is known after the whole range failed is known after its rest did.
                  refine h3.forget fun p v hv => ?_
                  obtain ⟨hold, _, hout⟩ := splice_none written cursor (b :: bs) p v hv
                  rw [List.length_cons] at hout
                  have hdrop : ((b :: bs).drop take).length = bs.length + 1 - take := by
                    rw [List.length_drop, List.length_cons]
                  change splice (splice written cursor _) _ _ p = some v
                  rcases hout with hout | hout
                  · rw [splice_before _ _ _ _ (by omega), splice_before _ _ _ _ hout]
                    exact hold
                  · rw [splice_after _ _ _ _ (by rw [List.length_map]; omega),
                      splice_after _ _ _ _ (by rw [List.length_map]; omega)]
                    exact hold
            · rw [hplace] at h2
              refine h2.forget fun p v hv => ?_
              obtain ⟨hold, _, hout⟩ := splice_none written cursor (b :: bs) p v hv
              rw [List.length_cons] at hout
              change splice written cursor _ p = some v
              rcases hout with hout | hout
              · rw [splice_before _ _ _ _ hout]
                exact hold
              · rw [splice_after _ _ _ _ (by rw [List.length_map]; omega)]
                exact hold
          by_cases hfull : o = 0 ∧ take = dev.map.objectSize
          · rw [if_pos hfull]
            exact hrest _ w h List.length_replicate fun k v hk hout => by omega
          · rw [if_neg hfull]
            refine wp_seq _ _ _ (fun _ => True) _ _ _ (h.wp_readObject id)
              (fun object w1 h1 => ?_) (fun msg w1 h1 => h1.1.failed _ _ msg) (fun _ _ => trivial)
            obtain ⟨hlength, hspell⟩ := h1.2 object rfl
            exact hrest object w1 h1.1 hlength fun k v hk _ => hspell k v hk

/-- A write inside the device keeps the invariant, however it ends. -/
theorem wp_writeAt (h : Accounted dev initial written w) (offset : Nat) (bytes : Bytes)
    (hend : offset + bytes.length ≤ dev.map.deviceSize) :
    wp (DeviceEnv (Receipts B) P) (dev.writeAt offset bytes)
      (fun r w' => Accounted dev initial (afterWrite written offset bytes r) w')
      (fun _ => True) w := by
  unfold BlockDevice.writeAt
  refine wp_ofExcept_bind _ _ _ _ _ (fun _ _ => ?_) (fun msg _ => h.failed _ _ msg)
  exact wp_ensure_bind _ _ _ _ _ _ (fun _ => wp_writeLoop dev initial _ _ _ _ w h hend)
    (fun _ => h.failed _ _ _)

end Accounted

/-- What is known of what was written once a flush has ended: nothing, if no
    object is dirty any more. -/
def World.settled {σ : Type} (w : World σ) (written : Nat → Option UInt8) : Nat → Option UInt8 :=
  if w.store.dirtyRows.isEmpty then fun _ => none else written

namespace Accounted

variable {dev : BlockDevice} {initial : List RemoteObjectRef} {written : Nat → Option UInt8}
  {w w' : World (ρ × List Receipt)}

theorem settle (h : Accounted dev initial written w) :
    Accounted dev initial (w.settled written) w := by
  refine h.forget fun p v hv => ?_
  unfold World.settled at hv
  split at hv
  · cases hv
  · exact hv

/-- Another manifest that accounts for the references. -/
theorem replaced (h : Accounted dev initial written w) (hstore : w'.store = w.store)
    (hreferences : w'.manifest.references.Perm (initial ++ w'.remote.2.map Receipt.ref))
    (hlisted : ∀ id, (w'.manifest.find id).isSome = (w.manifest.find id).isSome) :
    Accounted dev initial written w' where
  references := hreferences
  listed := by
    intro id hid
    rw [hlisted]
    exact h.listed id hid
  rows := by
    rw [hstore]
    exact h.rows
  wal := by
    rw [hstore]
    exact h.wal
  known := by
    rw [hstore]
    exact h.known

/-- Uploading a dirty object: its reference is entered in the step in which
    the one before it becomes garbage. -/
theorem wp_uploadDirty (h : Accounted dev initial written w) (d : DirtyObject)
    (hd : d ∈ w.store.dirtyRows) :
    wp (DeviceEnv (Receipts B) P) (BlockDevice.uploadDirty w.manifest d)
      (fun r w' => (Accounted dev initial written w' ∧ w'.store = w.store) ∧
        ∀ m, r = .ok m → w'.manifest = m) (fun _ => True) w := by
  have hstay : ∀ msg : String, (Accounted dev initial written w ∧ w.store = w.store) ∧
      ∀ m, (Except.error msg : Except String Manifest) = .ok m → w.manifest = m :=
    fun msg => ⟨⟨h, rfl⟩, fun m hm => (by cases hm)⟩
  unfold BlockDevice.uploadDirty
  refine wp_query (.readFile d.cachePath) _ _ _ w rfl (fun b hb => ?_) (fun msg _ => hstay msg)
    (fun k msg _ => hstay msg) trivial
  refine wp_decode _ _ _ _ _ _ _ (fun env _ => ?_) (fun failure _ => hstay _)
  refine wp_ensure_bind _ _ _ _ _ _ (fun _ => ?_) (fun _ => hstay _)
  refine wp_call _ _ _ _ _ (fun ref s' hs => ?_) (fun msg s' hs => ?_) (fun _ _ => trivial)
  · refine wp_ofOption_bind _ _ _ _ _ _ (fun m' hm => ?_) (fun hm => ?_)
    · refine wp_memory (.setManifest m') _ _ _ _ rfl (fun _ _ => ?_)
        (fun msg hmsg => by cases hmsg) (fun _ => trivial)
      refine ⟨⟨h.replaced rfl ?_ fun id => ?_, rfl⟩, fun m hm' => Except.ok.inj hm'⟩
      · change m'.references.Perm (initial ++ s'.2.map Receipt.ref)
        rw [hs.2, List.map_append, ← List.append_assoc]
        exact (references_recordUpload _ m' d ref _ hm).trans (h.references.append_right [ref])
      · change (m'.find id).isSome = (w.manifest.find id).isSome
        rw [find_recordUpload _ m' d ref _ hm]
        by_cases hid : id = d.objectId
        · rw [if_pos hid, Option.isSome_map]
        · rw [if_neg hid]
    · -- A dirty object is one of the device, so the manifest has it.
      have hrow := h.rows d.objectId d ((LocalStore.mem_dirtyRows _ _).mp hd)
      have hsome := h.listed d.objectId hrow.inside
      unfold Manifest.recordUpload at hm
      rcases hf : w.manifest.find d.objectId with _ | e
      · rw [hf] at hsome
        cases hsome
      · rw [hf] at hm
        cases hm
  · refine ⟨⟨h.aside rfl ?_ rfl rfl fun _ _ => rfl, rfl⟩, fun m hm => (by cases hm)⟩
    exact hs.2.trans (List.append_nil _)

/-- The end of a flush, wherever it stops. -/
theorem wp_commitLocal (h : Accounted dev initial written w) (m : Manifest) :
    wp (DeviceEnv (Receipts B) P) (disk (.commitLocal m))
      (fun _ w' => Accounted dev initial (w'.settled written) w') (fun _ => True) w := by
  have hcut : ∀ k, Accounted dev initial
      ((cutOff ((LocalOp.commitLocal m).effects w) k w).settled written)
      (cutOff ((LocalOp.commitLocal m).effects w) k w) := by
    intro k
    obtain ⟨store, heq, hstore⟩ := cutOff_commitLocal w m k
    rw [heq]
    rcases hstore with rfl | rfl | rfl
    · exact h.settle
    · exact settle (h.aside rfl rfl rfl rfl fun _ _ => rfl)
    · exact {
        references := h.references
        listed := h.listed
        rows := fun id d hd => by cases hd
        wal := fun e he => absurd he List.not_mem_nil
        known := fun id o v ho hv => by cases hv }
  refine (wp_perform (S := deviceSig) _ _ _ w).mpr ⟨fun r w' hstep => ?_, fun _ _ => trivial⟩
  rcases hstep with hrun | ⟨k, msg, _, _, _, rfl⟩
  · rcases r with msg | a
    · rw [(LocalOp.run_error (.commitLocal m) w w' msg hrun).2]
      exact h.settle
    · rw [(LocalOp.run_ok (.commitLocal m) w w' a hrun).2, ← cutOff_length _ _ (Nat.le_refl _)]
      exact hcut _
  · exact hcut k

/-- A flush keeps the invariant, wherever it fails. -/
theorem wp_flush (h : Accounted dev initial written w) :
    wp (DeviceEnv (Receipts B) P) dev.flush
      (fun _ w' => Accounted dev initial (w'.settled written) w') (fun _ => True) w := by
  have hlocked : ∀ w1 : World (ρ × List Receipt), Accounted dev initial written w1 →
      wp (DeviceEnv (Receipts B) P) (dev.flushLocked w1.store.dirtyRows)
        (fun _ w' => Accounted dev initial (w'.settled written) w') (fun _ => True) w1 := by
    intro w1 h1
    unfold BlockDevice.flushLocked
    refine wp_memory .getManifest _ _ _ w1 rfl (fun m hm => ?_) (fun msg hmsg => by cases hmsg)
      (fun _ => trivial)
    rw [← Except.ok.inj hm]
    refine wp_ofExcept_bind _ _ _ _ _ (fun fallback _ => ?_) (fun _ _ => h1.settle)
    refine wp_memory (.setManifest _) _ _ _ _ rfl (fun _ _ => ?_) (fun msg hmsg => by cases hmsg)
      (fun _ => trivial)
    -- The uploads, one after the other. Each leaves the store alone.
    have hloop := wp_foldlM (E := DeviceEnv (Receipts B) P) w1.store.dirtyRows
      BlockDevice.uploadDirty
      { w1.manifest with generation := BlockDevice.newGeneration w1.store.dirtyRows fallback }
      (fun rest m w' => (Accounted dev initial written w' ∧ w'.store = w1.store) ∧
        w'.manifest = m ∧ ∀ d ∈ rest, d ∈ w1.store.dirtyRows)
      (fun _ w' => Accounted dev initial written w') (fun _ => True)
      (fun d rest m w2 hI => by
        obtain ⟨⟨h2, hstore⟩, rfl, hmem⟩ := hI
        refine wp_mono _ _ _ _ _ (fun r w3 hr => ?_) (fun _ _ => trivial) _
          (h2.wp_uploadDirty d (by rw [hstore]; exact hmem d List.mem_cons_self))
        cases r with
        | ok m' =>
            exact ⟨⟨hr.1.1, hr.1.2.trans hstore⟩, hr.2 m' rfl,
              fun d' hd' => hmem d' (List.mem_cons_of_mem d hd')⟩
        | error msg => exact hr.1.1)
      { w1 with manifest :=
          { w1.manifest with
            generation := BlockDevice.newGeneration w1.store.dirtyRows fallback } }
      ⟨⟨h1.replaced rfl h1.references fun _ => rfl, rfl⟩, rfl, fun d hd => hd⟩
    refine wp_seq _ _ _ _ _ _ _ hloop (fun m w2 hr => ?_) (fun msg w2 hr => settle hr)
      (fun _ _ => trivial)
    obtain ⟨⟨h2, _⟩, rfl, _⟩ := hr
    by_cases hc : dev.committer = true
    · rw [if_pos hc]
      have hsent : ∀ (r : Except String Unit) (s' : ρ × List Receipt),
          (Receipts B).step (dev.commit w2.manifest) w2.remote r s' →
          Accounted dev initial written { w2 with remote := s' } := fun r s' hs =>
        h2.aside rfl (hs.2.trans (List.append_nil _)) rfl rfl fun _ _ => rfl
      refine wp_call _ _ _ _ _ (fun a s' hs => ?_) (fun msg s' hs => settle (hsent _ s' hs))
        (fun _ _ => trivial)
      exact (hsent _ s' hs).wp_commitLocal w2.manifest
    · rw [if_neg hc]
      exact h2.wp_commitLocal w2.manifest
  unfold BlockDevice.flush
  refine wp_query .dirtyObjects _ _ _ w rfl (fun rows hrows => ?_) (fun _ _ => h.settle)
    (fun _ _ _ => h.settle) trivial
  rw [← Except.ok.inj hrows]
  by_cases hnone : w.store.dirtyRows.isEmpty = true
  · rw [if_pos hnone]
    exact h.settle
  rw [if_neg hnone]
  refine wp_memory .lockManifest _ _ _ w rfl (fun _ _ => ?_) (fun _ _ => h.settle)
    (fun _ => trivial)
  refine wp_attempt_bind _ _ _ _ _ _ _ (hlocked { w with locked := true }
    (h.aside rfl rfl rfl rfl fun _ _ => rfl)) (fun r w1 h1 => ?_) (fun _ _ => trivial)
  refine wp_memory .unlockManifest _ _ _ w1 rfl (fun _ _ => ?_) (fun msg hmsg => by cases hmsg)
    (fun _ => trivial)
  rw [wp_ofExcept]
  exact h1.aside rfl rfl rfl rfl fun _ _ => rfl

end Accounted

/-- The uploads of a list of dirty objects: the receipts they add, and the
    references they leave. -/
theorem Uploads.receipts {files : CachePath → Option Bytes} {m0 m : Manifest}
    {s0 s : ρ × List Receipt} {sent : List DirtyObject}
    (h : Uploads (Receipts B) files m0 s0 sent m s)
    (hnodup : (sent.map DirtyObject.objectId).Nodup) :
    ∃ new, s.2 = s0.2 ++ new ∧ ∀ d ∈ sent, ∃ b e, ∃ receipt ∈ new, d.Sound files b ∧
      m.find d.objectId = some e ∧ e.remote = some receipt.ref ∧
      receipt.objectId = d.objectId ∧ receipt.generation = d.generation ∧ receipt.bytes = b := by
  induction h with
  | none => exact ⟨[], (List.append_nil _).symm, fun d hd => absurd hd List.not_mem_nil⟩
  | next sent m m' s s' d b ref h hd hs hm ih =>
      rw [List.map_append, List.nodup_append] at hnodup
      obtain ⟨hbefore, _, hdis⟩ := hnodup
      obtain ⟨new, hnew, hsent⟩ := ih hbefore
      refine ⟨new ++ [⟨d.objectId, d.generation, b, ref⟩], ?_, fun d' hd' => ?_⟩
      · rw [← List.append_assoc, ← hnew]
        exact hs.2
      rcases List.mem_append.mp hd' with hold | hlast
      · -- An earlier upload, kept by the later one of another object.
        obtain ⟨b', e, receipt, hmem, hsound, hf, hrest⟩ := hsent d' hold
        have hne : d'.objectId ≠ d.objectId := fun hc =>
          hdis d'.objectId (List.mem_map.mpr ⟨d', hold, rfl⟩) d.objectId
            (List.mem_map.mpr ⟨d, List.mem_cons_self, rfl⟩) hc
        refine ⟨b', e, receipt, List.mem_append_left _ hmem, hsound, ?_, hrest⟩
        rw [find_recordUpload m m' d ref _ hm, if_neg hne, hf]
      · rw [List.mem_singleton.mp hlast]
        obtain ⟨e, he, _⟩ := recordUpload_eq_some m m' d ref _ hm
        refine ⟨b, e.uploaded d ref (sha256Hex b), ⟨d.objectId, d.generation, b, ref⟩,
          List.mem_append_right _ (List.mem_singleton.mpr rfl), hd, ?_, rfl, rfl, rfl, rfl⟩
        rw [find_recordUpload m m' d ref _ hm, if_pos rfl, he, Option.map_some]

/-- The runs of one process, with what is known of what its client last wrote
    to the objects that are dirty. Writes and flushes may fail anywhere. -/
inductive Attempts (B : Backend ρ) (P : Policy (ρ × List Receipt)) (dev : BlockDevice)
    (w0 : World (ρ × List Receipt)) :
    (Nat → Option UInt8) → World (ρ × List Receipt) → Prop
  | start : Attempts B P dev w0 (fun _ => none) w0
  | write (written : Nat → Option UInt8) (w w' : World (ρ × List Receipt)) (offset : Nat)
      (bytes : Bytes) (r : Except String Unit) (h : Attempts B P dev w0 written w)
      (hin : offset + bytes.length ≤ dev.map.deviceSize)
      (hex : Exec (DeviceEnv (Receipts B) P) (dev.writeAt offset bytes) w (.done r) w') :
      Attempts B P dev w0 (afterWrite written offset bytes r) w'
  | flush (written : Nat → Option UInt8) (w w' : World (ρ × List Receipt))
      (r : Except String Unit) (h : Attempts B P dev w0 written w)
      (hex : Exec (DeviceEnv (Receipts B) P) dev.flush w (.done r) w') :
      Attempts B P dev w0 (w'.settled written) w'

/-- A process keeps account of its references. -/
theorem Attempts.accounted (dev : BlockDevice) (w0 : World (ρ × List Receipt))
    (hkept : w0.store.Kept) (hrows : w0.store.dirtyRows = []) (hlog : w0.remote.2 = [])
    (hlisted : ∀ id, id < dev.map.objectCount → (w0.manifest.find id).isSome)
    (written : Nat → Option UInt8) (w : World (ρ × List Receipt))
    (h : Attempts B P dev w0 written w) : Accounted dev w0.manifest.references written w := by
  induction h with
  | start =>
      refine {
        references := ?_
        listed := hlisted
        rows := fun id d hd => ?_
        wal := hkept.walDirty
        known := fun id o v ho hv => by cases hv }
      · rw [hlog]
        exact List.Perm.of_eq (List.append_nil _).symm
      · rw [(LocalStore.dirtyRows_eq_nil w0.store).mp hrows id] at hd
        cases hd
  | write written w w' offset bytes r h hin hex ih =>
      exact wp_done _ _ _ w w' r (ih.wp_writeAt offset bytes hin) hex
  | flush written w w' r h hex ih => exact wp_done _ _ _ w w' r ih.wp_flush hex

/-- What a flush that succeeds leaves: nothing dirty, and for each object that
    was dirty the upload of what its file held. -/
theorem flushed_receipts (dev : BlockDevice) (w w' : World (ρ × List Receipt))
    (hwal : w.store.WalDirty) (h : Flushed (Receipts B) dev w (.done (.ok ())) w') :
    w'.store.dirtyRows = [] ∧ w'.store.walEntries = [] ∧
      ∃ new, w'.remote.2 = w.remote.2 ++ new ∧ ∀ id d, w.store.dirtyObject id = some d →
        ∃ b e, ∃ receipt ∈ new, d.Sound w.store.files b ∧ w'.manifest.find id = some e ∧
          e.remote = some receipt.ref ∧ receipt.objectId = id ∧
          receipt.generation = d.generation ∧ receipt.bytes = b := by
  cases h with
  | idle hnone =>
      have hno := (LocalStore.dirtyRows_eq_nil w.store).mp hnone
      refine ⟨hnone, List.eq_nil_iff_forall_not_mem.mpr fun e he => ?_, [],
        (List.append_nil _).symm, fun id d hd => ?_⟩
      · have hsome := hwal e he
        rw [hno] at hsome
        cases hsome
      · rw [hno] at hd
        cases hd
  | finished _ s hsome hup hs hstore =>
      obtain ⟨new, hnew, hsent⟩ := hup.receipts (LocalStore.nodup_dirtyRows w.store)
      have hremote : w'.remote.2 = s.2 := by
        unfold Committed at hs
        by_cases hc : dev.committer = true
        · rw [if_pos hc] at hs
          exact hs.2.trans (List.append_nil _)
        · rw [if_neg hc] at hs
          rw [hs]
      refine ⟨?_, ?_, new, hremote.trans hnew, fun id d hd => ?_⟩
      · rw [hstore]
        exact (LocalStore.dirtyRows_eq_nil _).mpr fun _ => rfl
      · rw [hstore]
        rfl
      · have hid := LocalStore.objectId_of_dirtyObject w.store id d hd
        obtain ⟨b, e, receipt, hmem, hrest⟩ := hsent d
          ((LocalStore.mem_dirtyRows w.store d).mpr (by rw [hid]; exact hd))
        rw [hid] at hrest
        exact ⟨b, e, receipt, hmem, hrest⟩
  | early _ _ ho => exact absurd rfl ho
  | stopped _ _ ho => exact absurd rfl ho
  | refused _ _ _ ho => exact absurd rfl ho
  | cut _ _ _ ho => exact absurd rfl ho

/-- In every state of a process the references of the objects and the garbage
    are those there were at first and those the backend returned, each as often
    as there; so if the backend repeats no message id, none is there twice.
    After a flush that succeeds nothing is dirty, and the reference of each
    object that was is that of an upload of what was last written to it. -/
theorem references_partition (B : Backend ρ) (P : Policy (ρ × List Receipt)) (dev : BlockDevice)
    (w0 : World (ρ × List Receipt)) (hkept : w0.store.Kept) (hrows : w0.store.dirtyRows = [])
    (hlog : w0.remote.2 = [])
    (hlisted : ∀ id, id < dev.map.objectCount → (w0.manifest.find id).isSome)
    (written : Nat → Option UInt8) (w : World (ρ × List Receipt))
    (h : Attempts B P dev w0 written w) :
    w.manifest.references.Perm (w0.manifest.references ++ w.remote.2.map Receipt.ref) ∧
    (((w0.manifest.references ++ w.remote.2.map Receipt.ref).map
      RemoteObjectRef.messageId).Nodup →
      (w.manifest.references.map RemoteObjectRef.messageId).Nodup) ∧
    ∀ w' : World (ρ × List Receipt),
      Exec (DeviceEnv (Receipts B) P) dev.flush w (.done (.ok ())) w' →
      w'.store.dirtyRows = [] ∧ w'.store.walEntries = [] ∧
      ∃ new, w'.remote.2 = w.remote.2 ++ new ∧ ∀ id d, w.store.dirtyObject id = some d →
        ∃ e env, ∃ receipt ∈ new, w'.manifest.find id = some e ∧ e.remote = some receipt.ref ∧
          receipt.objectId = id ∧ receipt.generation = d.generation ∧
          ObjectEnvelope.decode receipt.bytes id d.generation = .ok env ∧
          ∀ o v, o < dev.map.objectSize → written (id * dev.map.objectSize + o) = some v →
            (padObject env.payload dev.map.objectSize)[o]? = some v := by
  have hacc := h.accounted dev w0 hkept hrows hlog hlisted
  refine ⟨hacc.references, fun hfresh => ?_, fun w' hex => ?_⟩
  · exact (hacc.references.map RemoteObjectRef.messageId).nodup_iff.mpr hfresh
  obtain ⟨hflushed, _, _⟩ := wp_done _ _ _ w w' _ (TgDrive.wp_flush dev w) hex
  obtain ⟨hclean, hwal, new, hnew, hsent⟩ := flushed_receipts dev w w' hacc.wal hflushed
  refine ⟨hclean, hwal, new, hnew, fun id d hd => ?_⟩
  obtain ⟨b, e, receipt, hmem, hsound, hf, href, hid, hgen, hbytes⟩ := hsent id d hd
  obtain ⟨b', env, hb, henv, hspell⟩ := (hacc.rows id d hd).file
  -- The file that was uploaded is the file of the row.
  have hsame : b' = b := by
    have hfile := hsound.file
    rw [hb, Option.some.injEq] at hfile
    exact hfile
  refine ⟨e, env, receipt, hmem, hf, href, hid, hgen, ?_, fun o v ho hv => ?_⟩
  · rw [hbytes, ← hsame]
    exact henv
  · rw [pad_decode _ _ _ _ env henv]
    exact hspell o v ho hv

/-- A backend that is a function, with its receipts. -/
def Receipts.run (R : (c : Call) → ρ → Except String c.Resp × ρ) (c : Call)
    (s : ρ × List Receipt) : Except String c.Resp × (ρ × List Receipt) :=
  ((R c s.1).1, ((R c s.1).2, s.2 ++ c.receipts (R c s.1).1))

/-- What a device with such a backend computes is one of its executions. -/
theorem exec_receipts {α : Type} (R : (c : Call) → ρ → Except String c.Resp × ρ)
    (p : Prog deviceSig α) (w : World (ρ × List Receipt)) :
    Exec (DeviceEnv (Receipts (Env.ofRun (S := remoteSig) R)) P) p w
      (.done (p.eval (deviceRun (Receipts.run R)) w).1)
      (p.eval (deviceRun (Receipts.run R)) w).2 := by
  refine exec_of_eval (S := deviceSig) (deviceRun (Receipts.run R)) (fun e s => ?_) p w
  cases e with
  | disk l => exact Or.inl rfl
  | call c => exact ⟨(Receipts.run R c s.remote).2, ⟨rfl, rfl⟩, rfl⟩

end Crates

section Small

attribute [local instance] concreteCrates

/-- A device whose backend takes objects and refuses manifests. -/
def refusingRun : (c : Call) → MemoryBackend → Except String c.Resp × MemoryBackend
  | .commitManifest _ _ _ _, s => (.error "forced commit failure", s)
  | c, s => MemoryBackend.run c s

/-- A process that has written. -/
def retryWritten : World (MemoryBackend × List Receipt) :=
  (((BlockDevice.new smallMap true).writeAt 0 [1]).eval (deviceRun (Receipts.run refusingRun))
    (World.opened (Manifest.empty ⟨7⟩ 4 2) (MemoryBackend.new (-100), []))).2

/-- The same process after a flush that failed. -/
def retryFailed : World (MemoryBackend × List Receipt) :=
  ((BlockDevice.new smallMap true).flush.eval (deviceRun (Receipts.run refusingRun))
    retryWritten).2

/-- The same process after another. -/
def retryAgain : World (MemoryBackend × List Receipt) :=
  ((BlockDevice.new smallMap true).flush.eval (deviceRun (Receipts.run refusingRun))
    retryFailed).2

/-- The references of that process. -/
theorem references_partition_small : retryAgain.manifest.references.Perm
    ((Manifest.empty ⟨7⟩ 4 2).references ++ retryAgain.remote.2.map Receipt.ref) := by
  let first : World (MemoryBackend × List Receipt) :=
    World.opened (Manifest.empty ⟨7⟩ 4 2) (MemoryBackend.new (-100), [])
  have hstart : Attempts (Env.ofRun (S := remoteSig) refusingRun) Policy.quiet
      (BlockDevice.new smallMap true) first (fun _ => none) first := .start
  have hwritten := Attempts.write _ first retryWritten 0 [1] _ hstart (by decide)
    (exec_receipts refusingRun _ _)
  have hfailed := Attempts.flush _ retryWritten retryFailed _ hwritten
    (exec_receipts refusingRun _ _)
  have hretried := Attempts.flush _ retryFailed retryAgain _ hfailed
    (exec_receipts refusingRun _ _)
  have hlisted : ∀ id, id < (BlockDevice.new smallMap true).map.objectCount →
      (first.manifest.find id).isSome := by decide
  exact (references_partition _ _ _ first (.manifest _ _ .empty) rfl rfl hlisted _ _ hretried).1

/-- Both attempts left a reference, and the first is garbage. -/
example : retryAgain.manifest.liveReferences.length = 1 ∧
    retryAgain.manifest.garbage.length = 1 := by
  decide +kernel

end Small

end TgDrive
