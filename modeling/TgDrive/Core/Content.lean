import TgDrive.Core.Block
import TgDrive.Core.RoundTrip
import TgDrive.Data.Span

/-!
# What a Device Holds

The abstract side of a world: which bytes each object has, and so which flat
array the device is. An object with a dirty row is what the row's file
carries; any other is what the manifest says, a run of zeros or the object
under its remote reference. No checksum enters into it, so the reading is
total, and the methods are shown to find exactly it.

`Consistent` is what the reading needs to be stable: rows name their own
files, references of clean objects lead somewhere, and a cached file of a
clean object is a copy of the remote one. `CacheFill` is what reading does to
a world. It may add such copies and nothing else, so it preserves both.

## Main definitions

* `objectOf`: The object an encoded envelope carries.
* `Manifest.content`: The objects a manifest describes.
* `World.content`: The objects of a device.
* `Shows`: The device is a given flat array.
* `World.array`: The flat array a device is.
* `Consistent`: Rows, references and cached files fit together.
* `CacheFill`: Nothing happened but copies of remote objects.

## Theorems

* `length_padObject`: Every object has the object size.
* `find_updateFirst`: Finding after an update.
* `CacheFill.trans`: Filling twice is filling.
* `CacheFill.content`: Filling the cache leaves all contents alone.
* `CacheFill.consistent`: Filling the cache keeps a world consistent.
-/

namespace TgDrive

open Data Effect

@[simp] theorem length_padObject (payload : Bytes) (objectSize : Nat) :
    (padObject payload objectSize).length = objectSize := by
  rw [padObject, List.length_append, List.length_take, List.length_replicate]
  omega

/-- Padding an object of the right size changes nothing. -/
theorem padObject_self (payload : Bytes) (objectSize : Nat) (h : payload.length = objectSize) :
    padObject payload objectSize = payload := by
  rw [padObject, List.take_of_length_le (by omega), h, Nat.sub_self, List.replicate_zero,
    List.append_nil]

/-- The object an encoded envelope carries, padded to the object size. -/
def objectOf (objectSize : Nat) (encoded : Bytes) : Bytes :=
  padObject (encoded.drop objectHeaderLen) objectSize

/-- What an envelope decodes to pads to the object it carries. -/
theorem pad_decode [Sha256] (objectSize : Nat) (b : Bytes) (id gen : Nat) (e : ObjectEnvelope)
    (h : ObjectEnvelope.decode b id gen = .ok e) :
    padObject e.payload objectSize = objectOf objectSize b := by
  rw [objectOf, (decode_ok b id gen e h).2.2]

/-- The object a manifest describes, given what the message ids stand for. -/
def Manifest.content (m : Manifest) (messages : Int → Option Bytes) (objectSize id : Nat) :
    Bytes :=
  match m.find id with
  | none => List.replicate objectSize 0
  | some e =>
      if e.zero then List.replicate objectSize 0
      else match e.remote with
      | none => List.replicate objectSize 0
      | some r => objectOf objectSize ((messages r.messageId).getD [])

variable {ρ : Type}

/-- The object a device holds: the dirty one, or what the manifest says. -/
def World.content (raw : ρ → Int → Option Bytes) (objectSize : Nat) (w : World ρ) (id : Nat) :
    Bytes :=
  match w.store.dirtyObject id with
  | some d => objectOf objectSize ((w.store.files d.cachePath).getD [])
  | none => w.manifest.content (raw w.remote) objectSize id

@[simp] theorem length_objectOf (objectSize : Nat) (b : Bytes) :
    (objectOf objectSize b).length = objectSize := length_padObject _ _

theorem Manifest.content_none (m : Manifest) (messages : Int → Option Bytes)
    (objectSize id : Nat) (h : m.find id = none) :
    m.content messages objectSize id = List.replicate objectSize 0 := by
  simp only [Manifest.content, h]

theorem Manifest.content_zero (m : Manifest) (messages : Int → Option Bytes)
    (objectSize id : Nat) (e : ManifestObject) (h : m.find id = some e) (hz : e.zero = true) :
    m.content messages objectSize id = List.replicate objectSize 0 := by
  simp only [Manifest.content, h, hz, if_true]

theorem Manifest.content_remote (m : Manifest) (messages : Int → Option Bytes)
    (objectSize id : Nat) (e : ManifestObject) (r : RemoteObjectRef) (h : m.find id = some e)
    (hz : e.zero = false) (hr : e.remote = some r) :
    m.content messages objectSize id = objectOf objectSize ((messages r.messageId).getD []) := by
  simp only [Manifest.content, h, hz, hr, Bool.false_eq_true, if_false]

theorem Manifest.content_unsent (m : Manifest) (messages : Int → Option Bytes)
    (objectSize id : Nat) (e : ManifestObject) (h : m.find id = some e)
    (hz : e.zero = false) (hr : e.remote = none) :
    m.content messages objectSize id = List.replicate objectSize 0 := by
  simp only [Manifest.content, h, hz, hr, Bool.false_eq_true, if_false]

theorem World.content_dirty (raw : ρ → Int → Option Bytes) (objectSize : Nat) (w : World ρ)
    (id : Nat) (d : DirtyObject) (h : w.store.dirtyObject id = some d) :
    w.content raw objectSize id = objectOf objectSize ((w.store.files d.cachePath).getD []) := by
  simp only [World.content, h]

theorem World.content_clean (raw : ρ → Int → Option Bytes) (objectSize : Nat) (w : World ρ)
    (id : Nat) (h : w.store.dirtyObject id = none) :
    w.content raw objectSize id = w.manifest.content (raw w.remote) objectSize id := by
  simp only [World.content, h]

theorem Manifest.length_content (m : Manifest) (messages : Int → Option Bytes)
    (objectSize id : Nat) : (m.content messages objectSize id).length = objectSize := by
  rcases hf : m.find id with _ | e
  · rw [m.content_none _ _ _ hf, List.length_replicate]
  · rcases hz : e.zero with _ | _
    · rcases hr : e.remote with _ | r
      · rw [m.content_unsent _ _ _ e hf hz hr, List.length_replicate]
      · rw [m.content_remote _ _ _ e r hf hz hr, length_objectOf]
    · rw [m.content_zero _ _ _ e hf hz, List.length_replicate]

theorem World.length_content (raw : ρ → Int → Option Bytes) (objectSize : Nat) (w : World ρ)
    (id : Nat) : (w.content raw objectSize id).length = objectSize := by
  rcases hd : w.store.dirtyObject id with _ | d
  · rw [w.content_clean raw _ _ hd, Manifest.length_content]
  · rw [w.content_dirty raw _ _ d hd, length_objectOf]

/-- The device is a flat array: each object is its stretch of the array. -/
def Shows (raw : ρ → Int → Option Bytes) (objectSize : Nat) (w : World ρ) (a : Nat → UInt8) :
    Prop :=
  ∀ id, w.content raw objectSize id = span a (id * objectSize) objectSize

/-- The flat array whose stretches are given objects. -/
def arrayOf (objectSize : Nat) (objects : Nat → Bytes) : Nat → UInt8 :=
  fun i => (objects (i / objectSize)).getD (i % objectSize) 0

theorem span_arrayOf (objectSize : Nat) (objects : Nat → Bytes) (id : Nat)
    (h : (objects id).length = objectSize) :
    span (arrayOf objectSize objects) (id * objectSize) objectSize = objects id := by
  have hspan := eq_span (arrayOf objectSize objects) (id * objectSize) (objects id)
    (fun k hk => by
      have hpos : 0 < objectSize := by omega
      have hdiv : (id * objectSize + k) / objectSize = id := by
        rw [Nat.mul_comm, Nat.mul_add_div hpos, Nat.div_eq_of_lt (by omega), Nat.add_zero]
      have hmod : (id * objectSize + k) % objectSize = k := by
        rw [Nat.mul_comm, Nat.mul_add_mod, Nat.mod_eq_of_lt (by omega)]
      rw [arrayOf, hdiv, hmod, List.getElem?_eq_getElem hk, List.getD_eq_getElem _ _ hk])
  rw [h] at hspan
  exact hspan.symm

/-- The stretch of an object from a cursor on is a stretch of the array. -/
theorem stretch_arrayOf (objectSize : Nat) (objects : Nat → Bytes) (cursor take : Nat)
    (hlen : (objects (cursor / objectSize)).length = objectSize)
    (htake : cursor % objectSize + take ≤ objectSize) :
    ((objects (cursor / objectSize)).drop (cursor % objectSize)).take take
      = span (arrayOf objectSize objects) cursor take := by
  have hdiv := Nat.div_add_mod cursor objectSize
  rw [Nat.mul_comm] at hdiv
  rw [← span_arrayOf objectSize objects _ hlen, take_drop_span _ _ _ _ _ htake, hdiv]

/-- The flat array a device is. -/
def World.array (raw : ρ → Int → Option Bytes) (objectSize : Nat) (w : World ρ) :
    Nat → UInt8 := arrayOf objectSize (w.content raw objectSize)

theorem shows_array (raw : ρ → Int → Option Bytes) (objectSize : Nat) (w : World ρ) :
    Shows raw objectSize w (w.array raw objectSize) := fun id =>
  (span_arrayOf objectSize _ id (w.length_content raw objectSize id)).symm

/-- Finding an entry gives one with the id asked for. -/
theorem Manifest.objectId_of_find (m : Manifest) (id : Nat) (e : ManifestObject)
    (h : m.find id = some e) : e.objectId = id := by
  have hp := List.find?_some h
  simpa only [decide_eq_true_eq] using hp

theorem Manifest.mem_of_find (m : Manifest) (id : Nat) (e : ManifestObject)
    (h : m.find id = some e) : e ∈ m.objects := List.mem_of_find?_eq_some h

/-- Finding after an update of the first entry with an id. -/
theorem find_updateFirst (id : Nat) (f : ManifestObject → ManifestObject)
    (hf : ∀ e, (f e).objectId = e.objectId) (objects : List ManifestObject) (id' : Nat) :
    (updateFirst id f objects).find? (fun o => decide (o.objectId = id')) =
      if id' = id then (objects.find? (fun o => decide (o.objectId = id))).map f
      else objects.find? (fun o => decide (o.objectId = id')) := by
  induction objects with
  | nil =>
      rw [updateFirst]
      simp only [List.find?_nil, Option.map_none, ite_self]
  | cons o rest ih =>
      by_cases ho : o.objectId = id
      · rw [updateFirst, if_pos ho]
        by_cases hid : id' = id
        · rw [if_pos hid, List.find?_cons_of_pos (by simp only [hf, ho, hid, decide_true]),
            List.find?_cons_of_pos (by simp only [ho, decide_true]), Option.map_some]
        · have hne : ¬o.objectId = id' := fun hc => hid (hc.symm.trans ho)
          rw [if_neg hid, List.find?_cons_of_neg (by simpa only [hf, decide_eq_true_eq] using hne),
            List.find?_cons_of_neg (by simpa only [decide_eq_true_eq] using hne)]
      · rw [updateFirst, if_neg ho]
        by_cases ho' : o.objectId = id'
        · have hid : ¬id' = id := fun hc => ho (ho'.trans hc)
          rw [if_neg hid, List.find?_cons_of_pos (by simp only [ho', decide_true]),
            List.find?_cons_of_pos (by simp only [ho', decide_true])]
        · rw [List.find?_cons_of_neg (by simpa only [decide_eq_true_eq] using ho'), ih,
            List.find?_cons_of_neg (by simpa only [decide_eq_true_eq] using ho),
            List.find?_cons_of_neg (by simpa only [decide_eq_true_eq] using ho')]

/-- Rows name their own files, the references of clean objects lead somewhere,
    and a cached file of a clean object is a copy of what they lead to. -/
structure Consistent (raw : ρ → Int → Option Bytes) (w : World ρ) : Prop where
  path : ∀ id d, w.store.dirtyObject id = some d →
    d.cachePath = LocalStore.cachePath id d.generation
  clean : ∀ id e, w.store.dirtyObject id = none → w.manifest.find id = some e → e.zero = false →
    ∃ r b, e.remote = some r ∧ raw w.remote r.messageId = some b ∧
      ∀ b', w.store.files (LocalStore.cachePath id e.generation) = some b' → b' = b

/-- Nothing happened to a world but reads, and copies of the remote objects of
    clean entries put under their names. -/
structure CacheFill (B : Backend ρ) (raw : ρ → Int → Option Bytes) (w w' : World ρ) : Prop where
  manifest : w'.manifest = w.manifest
  rows : w'.store.dirtyObjects = w.store.dirtyObjects
  state : w'.store.manifestState = w.store.manifestState
  remote : Called B Call.isRead w.remote w'.remote
  files : ∀ p, w'.store.files p = w.store.files p ∨ ∃ e r b,
    w.store.dirtyObject p.objectId = none ∧ w.manifest.find p.objectId = some e ∧
    e.zero = false ∧ e.generation = p.generation ∧ e.remote = some r ∧
    raw w'.remote r.messageId = some b ∧ w'.store.files p = some b

section Fill

variable {B : Backend ρ} {raw : ρ → Int → Option Bytes}

theorem CacheFill.refl (w : World ρ) : CacheFill B raw w w where
  manifest := rfl
  rows := rfl
  state := rfl
  remote := Relation.ReflTransGen.refl
  files := fun _ => Or.inl rfl

theorem CacheFill.dirtyObject (w w' : World ρ) (h : CacheFill B raw w w') (id : Nat) :
    w'.store.dirtyObject id = w.store.dirtyObject id := by
  rw [LocalStore.dirtyObject, LocalStore.dirtyObject, h.rows]

theorem CacheFill.trans (hB : Returns B raw) (w w' w'' : World ρ) (h : CacheFill B raw w w')
    (h' : CacheFill B raw w' w'') : CacheFill B raw w w'' where
  manifest := h'.manifest.trans h.manifest
  rows := h'.rows.trans h.rows
  state := h'.state.trans h.state
  remote := h.remote.trans h'.remote
  files := by
    intro p
    rcases h'.files p with hsame | ⟨e, r, b, hd, hf, hz, hg, hr, hraw, hb⟩
    · rcases h.files p with hsame' | ⟨e, r, b, hd, hf, hz, hg, hr, hraw, hb⟩
      · exact Or.inl (hsame.trans hsame')
      · refine Or.inr ⟨e, r, b, hd, hf, hz, hg, hr, ?_, hsame.trans hb⟩
        exact hB.called_keeps B raw _ _ _ h'.remote _ _ hraw
    · rw [CacheFill.dirtyObject w w' h] at hd
      rw [h.manifest] at hf
      exact Or.inr ⟨e, r, b, hd, hf, hz, hg, hr, hraw, hb⟩

/-- Taking or giving up the manifest lock fills nothing. -/
theorem CacheFill.lock (w : World ρ) (b : Bool) : CacheFill B raw w { w with locked := b } where
  manifest := rfl
  rows := rfl
  state := rfl
  remote := Relation.ReflTransGen.refl
  files := fun _ => Or.inl rfl

theorem CacheFill.lockCut [Crates] (w : World ρ) (k : Nat) :
    CacheFill B raw w (cutOff (LocalOp.lockManifest.effects w) k w) := by
  cases k with
  | zero => exact CacheFill.refl w
  | succ k =>
      rw [cutOff_length _ _ (Nat.succ_le_succ (Nat.zero_le k))]
      exact CacheFill.lock w true

theorem CacheFill.unlockCut [Crates] (w : World ρ) (k : Nat) :
    CacheFill B raw w (cutOff (LocalOp.unlockManifest.effects w) k w) := by
  cases k with
  | zero => exact CacheFill.refl w
  | succ k =>
      rw [cutOff_length _ _ (Nat.succ_le_succ (Nat.zero_le k))]
      exact CacheFill.lock w false

/-- A call that reads fills nothing. -/
theorem CacheFill.call (w : World ρ) (s' : ρ) (h : Called B Call.isRead w.remote s') :
    CacheFill B raw w { w with remote := s' } where
  manifest := rfl
  rows := rfl
  state := rfl
  remote := h
  files := fun _ => Or.inl rfl

/-- A world with another table of cache rows. -/
def World.withRows (w : World ρ) (t : Data.Table CacheEntry.key) : World ρ :=
  { w with store := { w.store with cacheEntries := t } }

/-- Refreshing a row of the cache changes that table at most, however far it
    gets. -/
theorem cutOff_readCache [Crates] (w : World ρ) (objectId generation : Nat) (sha : Text)
    (k : Nat) : ∃ t,
      cutOff ((LocalOp.readCache objectId generation sha).effects w) k w = w.withRows t := by
  refine cutOff_preserves (fun w' => ∃ t, w' = w.withRows t) _ ?_ k w ⟨w.store.cacheEntries, rfl⟩
  intro f hf w' hw'
  rcases hw' with ⟨t, rfl⟩
  simp only [LocalOp.effects] at hf
  by_cases hsome : (w.store.files (LocalStore.cachePath objectId generation)).isSome = true
  · rw [if_pos hsome] at hf
    rcases List.mem_map.mp hf with ⟨g, hg, rfl⟩
    rw [LocalStore.touchCache, List.mem_singleton] at hg
    rw [hg]
    exact ⟨_, rfl⟩
  · rw [if_neg hsome] at hf
    exact absurd hf List.not_mem_nil

theorem applyAll_readCache [Crates] (w : World ρ) (objectId generation : Nat) (sha : Text) :
    ∃ t, applyAll ((LocalOp.readCache objectId generation sha).effects w) w = w.withRows t := by
  rcases cutOff_readCache w objectId generation sha
    ((LocalOp.readCache objectId generation sha).effects w).length with ⟨t, ht⟩
  rw [cutOff_length _ _ (Nat.le_refl _)] at ht
  exact ⟨t, ht⟩

theorem CacheFill.rowsOnly (w : World ρ) (t : Data.Table CacheEntry.key) :
    CacheFill B raw w (w.withRows t) where
  manifest := rfl
  rows := rfl
  state := rfl
  remote := Relation.ReflTransGen.refl
  files := fun _ => Or.inl rfl

theorem length_effects_writeCache [Crates] (w : World ρ) (objectId generation : Nat)
    (b : Bytes) : ((LocalOp.writeCache objectId generation b).effects w).length ≤ 2 := by
  simp only [LocalOp.effects, LocalStore.writeCache, List.length_map, List.length_cons,
    List.length_nil]
  exact Nat.le_refl 2

/-- A copy of a clean object put into the cache, however far it gets. -/
theorem CacheFill.copy [Crates] (w : World ρ) (id : Nat) (e : ManifestObject)
    (r : RemoteObjectRef) (b : Bytes) (hd : w.store.dirtyObject id = none)
    (hf : w.manifest.find id = some e) (hz : e.zero = false) (hr : e.remote = some r)
    (hraw : raw w.remote r.messageId = some b) (k : Nat) :
    CacheFill B raw w (cutOff ((LocalOp.writeCache id e.generation b).effects w) k w) := by
  have hfile : CacheFill B raw w
      (onStore (LocalStore.writeFile (LocalStore.cachePath id e.generation) b) w) := by
    refine { manifest := rfl, rows := rfl, state := rfl, remote := .refl, files := ?_ }
    intro p
    simp only [onStore, LocalStore.files_writeFile]
    by_cases hp : p = LocalStore.cachePath id e.generation
    · rw [if_pos hp, hp]
      exact Or.inr ⟨e, r, b, hd, hf, hz, rfl, hr, hraw, rfl⟩
    · rw [if_neg hp]
      exact Or.inl rfl
  -- The row that follows the file changes no file.
  have hrow : ∀ entry, CacheFill B raw w (onStore (LocalStore.upsertCacheEntry entry)
      (onStore (LocalStore.writeFile (LocalStore.cachePath id e.generation) b) w)) := fun entry =>
    { manifest := hfile.manifest
      rows := hfile.rows
      state := hfile.state
      remote := hfile.remote
      files := hfile.files }
  cases k with
  | zero => exact CacheFill.refl w
  | succ k => cases k with
    | zero => exact hfile
    | succ k =>
        rw [cutOff_length _ _ (Nat.le_trans (length_effects_writeCache w id e.generation b)
          (by omega))]
        exact hrow _

/-- Filling the cache keeps a world consistent. -/
theorem CacheFill.consistent (hB : Returns B raw) (w w' : World ρ) (h : CacheFill B raw w w')
    (hw : Consistent raw w) : Consistent raw w' where
  path := by
    intro id d hd
    rw [CacheFill.dirtyObject w w' h] at hd
    exact hw.path id d hd
  clean := by
    intro id e hd hf hz
    rw [CacheFill.dirtyObject w w' h] at hd
    rw [h.manifest] at hf
    rcases hw.clean id e hd hf hz with ⟨r, b, hr, hraw, hcopy⟩
    have hraw' := hB.called_keeps B raw _ _ _ h.remote _ _ hraw
    refine ⟨r, b, hr, hraw', fun b' hb' => ?_⟩
    rcases h.files (LocalStore.cachePath id e.generation) with hsame | ⟨e', r', b'', _, hf', _, _,
      hr', hraw'', hb''⟩
    · rw [hsame] at hb'
      exact hcopy b' hb'
    · -- The file is a copy of the entry the manifest has, which is this one.
      rw [show (LocalStore.cachePath id e.generation).objectId = id from rfl, hf,
        Option.some.injEq] at hf'
      rw [← hf', hr, Option.some.injEq] at hr'
      rw [← hr', hraw', Option.some.injEq] at hraw''
      rw [hb', Option.some.injEq] at hb''
      rw [hb'', ← hraw'']

/-- The file of a dirty row is not touched by filling the cache. -/
theorem CacheFill.dirtyFile (w w' : World ρ) (h : CacheFill B raw w w') (hw : Consistent raw w)
    (id : Nat) (d : DirtyObject) (hd : w.store.dirtyObject id = some d) :
    w'.store.files d.cachePath = w.store.files d.cachePath := by
  rcases h.files d.cachePath with hsame | ⟨e, r, b, hd', _⟩
  · exact hsame
  · rw [hw.path id d hd, show (LocalStore.cachePath id d.generation).objectId = id from rfl,
      hd] at hd'
    cases hd'

/-- Filling the cache leaves all contents alone. -/
theorem CacheFill.content (hB : Returns B raw) (objectSize : Nat) (w w' : World ρ)
    (h : CacheFill B raw w w') (hw : Consistent raw w) (id : Nat) :
    w'.content raw objectSize id = w.content raw objectSize id := by
  have hrow := CacheFill.dirtyObject w w' h id
  rcases hd : w.store.dirtyObject id with _ | d
  · rw [hd] at hrow
    rw [w'.content_clean raw _ _ hrow, w.content_clean raw _ _ hd, h.manifest]
    rcases hf : w.manifest.find id with _ | e
    · rw [Manifest.content_none _ _ _ _ hf, Manifest.content_none _ _ _ _ hf]
    · rcases hz : e.zero with _ | _
      · rcases hw.clean id e hd hf hz with ⟨r, b, hr, hraw, _⟩
        have hraw' := hB.called_keeps B raw _ _ _ h.remote _ _ hraw
        rw [Manifest.content_remote _ _ _ _ e r hf hz hr,
          Manifest.content_remote _ _ _ _ e r hf hz hr, hraw, hraw']
      · rw [Manifest.content_zero _ _ _ _ e hf hz, Manifest.content_zero _ _ _ _ e hf hz]
  · rw [hd] at hrow
    rw [w'.content_dirty raw _ _ d hrow, w.content_dirty raw _ _ d hd]
    rw [CacheFill.dirtyFile w w' h hw id d hd]

theorem CacheFill.shows (hB : Returns B raw) (objectSize : Nat) (w w' : World ρ)
    (h : CacheFill B raw w w') (hw : Consistent raw w) (a : Nat → UInt8)
    (ha : Shows raw objectSize w a) : Shows raw objectSize w' a := fun id =>
  (CacheFill.content hB objectSize w w' h hw id).trans (ha id)

end Fill

end TgDrive
