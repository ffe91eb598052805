import TgDrive.Core.Concrete
import TgDrive.Core.ReadSpec
import Mathlib.Data.Set.Function

/-!
# Read Integrity

What a read can return when nothing is known of the backend or of the files.
Every byte a read returns comes out of a string that hashes to a checksum the
device has on record, the one of the dirty row or that of the manifest's
entry, so two reads of the same range agree unless two strings collide.

No digest is free of collisions, so freedom from them is asked of a class `S`
of byte strings only: those that the files hold and that the backend answers.
A digest that is injective on `S` has no collision among the strings that an
execution meets.

`Kept` is what reading does to a world whatever the backend says: the manifest
and the rows stay, and a file is replaced by one that its entry's checksum
vouches for, and only if the file there was not a bad one.

## Main definitions

* `Recorded`: What is on record of an object.
* `Attested`: An object that the record vouches for.
* `Within`: The strings that a device and its backend can come up with.
* `Kept`: What reading leaves alone.
* `Reads`: A sequence of reads.

## Theorems

* `Attested.unique`: The record vouches for one object.
* `wp_readObject_attested`: Reading one object.
* `wp_prefetchObjects_kept`: A prefetch installs what the manifest vouches for.
* `wp_readAt_attested`: Reading a range.
* `reads_determined`: Two executions that read a range read the same bytes.
-/

namespace TgDrive

open Data Effect

/-- What is on record of an object: that it is blank, or a checksum. -/
inductive Recorded : Type
  | blank
  | sum (sha : Text)

/-- The record of an object: that of its dirty row, or of the manifest. -/
def recorded (rows : Table DirtyObject.objectId) (m : Manifest) (id : Nat) : Option Recorded :=
  match rows.get? id with
  | some dirty => some (.sum dirty.sha256)
  | none => match m.find id with
    | none => none
    | some e => if e.zero then some .blank else e.sha256.map .sum

/-- The sixteen digits differ. -/
theorem hexDigit_inj (m n : Nat) (hm : m < 16) (hn : n < 16) (h : hexDigit m = hexDigit n) :
    m = n := by
  have hall : ∀ m : Fin 16, ∀ n : Fin 16, hexDigit m = hexDigit n → m = n := by decide
  exact Fin.mk.inj_iff.mp (hall ⟨m, hm⟩ ⟨n, hn⟩ h)

/-- Byte strings with the same text are the same. -/
theorem hexEncode_inj (b b' : Bytes) (h : hexEncode b = hexEncode b') : b = b' := by
  induction b generalizing b' with
  | nil =>
      cases b' with
      | nil => rfl
      | cons y ys => cases h
  | cons x xs ih =>
      cases b' with
      | nil => cases h
      | cons y ys =>
          simp only [hexEncode, List.flatMap_cons, List.cons_append, List.nil_append,
            List.cons.injEq] at h
          have hx := x.toNat_lt
          have hy := y.toNat_lt
          have hhigh := hexDigit_inj _ _ (by omega) (by omega) h.1
          have hlow := hexDigit_inj _ _ (by omega) (by omega) h.2.1
          have hbyte : x = y := UInt8.toNat_inj.mp (by omega)
          rw [hbyte, ih ys h.2.2]

section Crates

variable [Crates]

/-- The objects a record vouches for, among the strings of a class. -/
def Recorded.Vouches (S : Set Bytes) (objectSize : Nat) : Recorded → Bytes → Prop
  | .blank, object => object = List.replicate objectSize 0
  | .sum sha, object => ∃ encoded ∈ S, sha256Hex encoded = sha ∧ object = objectOf objectSize encoded

/-- An object that the record vouches for. -/
def Attested (S : Set Bytes) (objectSize : Nat) (rows : Table DirtyObject.objectId) (m : Manifest)
    (id : Nat) (object : Bytes) : Prop :=
  ∃ r, recorded rows m id = some r ∧ r.Vouches S objectSize object

theorem digest_of_sha256Hex (b b' : Bytes) (h : sha256Hex b = sha256Hex b') :
    Sha256.digest b = Sha256.digest b' := hexEncode_inj _ _ h

/-- Without a collision the record vouches for one object. -/
theorem Attested.unique (S : Set Bytes) (hS : Set.InjOn Sha256.digest S) (objectSize : Nat)
    (rows : Table DirtyObject.objectId) (m : Manifest) (id : Nat) (a b : Bytes)
    (ha : Attested S objectSize rows m id a) (hb : Attested S objectSize rows m id b) : a = b := by
  rcases ha with ⟨r, hr, ha⟩
  rcases hb with ⟨r', hr', hb⟩
  rw [hr, Option.some.injEq] at hr'
  rw [← hr'] at hb
  cases r with
  | blank => exact Eq.trans ha (Eq.symm hb)
  | sum sha =>
      rcases ha with ⟨x, hx, hxs, rfl⟩
      rcases hb with ⟨y, hy, hys, rfl⟩
      rw [hS hx hy (digest_of_sha256Hex x y (hxs.trans hys.symm))]

variable {ρ : Type}

/-- A backend, from a state on, and files that come up with strings of a class
    only. -/
structure Within (B : Backend ρ) (S : Set Bytes) (w : World ρ) : Prop where
  fetched : ∀ s, Called B Call.isRead w.remote s → ∀ ref (b : Bytes) s',
    B.step (.fetchObject ref) s (.ok b) s' → b ∈ S
  got : ∀ s, Called B Call.isRead w.remote s → ∀ ids (out : List (Option Bytes)) s',
    B.step (.getMessagesById ids) s (.ok out) s' → ∀ b, some b ∈ out → b ∈ S
  files : ∀ p b, w.store.files p = some b → b ∈ S

/-- The cached file of an entry is not there, or is vouched for. -/
def World.CacheSound (w : World ρ) (id : Nat) (e : ManifestObject) : Prop :=
  ∀ b, w.store.files (LocalStore.cachePath id e.generation) = some b →
    e.sha256 = some (sha256Hex b)

/-- Nothing happened to a world but reads, whatever the backend said. -/
structure Kept (B : Backend ρ) (S : Set Bytes) (w w' : World ρ) : Prop where
  manifest : w'.manifest = w.manifest
  rows : w'.store.dirtyObjects = w.store.dirtyObjects
  remote : Called B Call.isRead w.remote w'.remote
  files : ∀ p, w'.store.files p = w.store.files p ∨ ∃ e b,
    w.manifest.find p.objectId = some e ∧ e.generation = p.generation ∧
    e.sha256 = some (sha256Hex b) ∧ b ∈ S ∧ w.CacheSound p.objectId e ∧
    w'.store.files p = some b

section Kept

variable {B : Backend ρ} {P : Policy ρ} {S : Set Bytes}

theorem Kept.refl (w : World ρ) : Kept B S w w where
  manifest := rfl
  rows := rfl
  remote := Relation.ReflTransGen.refl
  files := fun _ => Or.inl rfl

/-- A sound file stays sound. -/
theorem Kept.sound (w w' : World ρ) (h : Kept B S w w') (id : Nat) (e : ManifestObject)
    (hf : w.manifest.find id = some e) : w'.CacheSound id e ↔ w.CacheSound id e := by
  unfold World.CacheSound
  rcases h.files (LocalStore.cachePath id e.generation) with
    hsame | ⟨e', b, hf', _, hsha, _, hsound, hb⟩
  · rw [hsame]
  · rw [show (LocalStore.cachePath id e.generation).objectId = id from rfl, hf,
      Option.some.injEq] at hf'
    rw [← hf'] at hsha hsound
    refine ⟨fun _ => hsound, fun _ b' hb' => ?_⟩
    rw [hb, Option.some.injEq] at hb'
    rw [← hb']
    exact hsha

theorem Kept.trans (w w' w'' : World ρ) (h : Kept B S w w') (h' : Kept B S w' w'') :
    Kept B S w w'' where
  manifest := h'.manifest.trans h.manifest
  rows := h'.rows.trans h.rows
  remote := h.remote.trans h'.remote
  files := by
    intro p
    rcases h'.files p with hsame | ⟨e, b, hf, hg, hsha, hmem, hsound, hb⟩
    · rcases h.files p with hsame' | ⟨e, b, hf, hg, hsha, hmem, hsound, hb⟩
      · exact Or.inl (hsame.trans hsame')
      · exact Or.inr ⟨e, b, hf, hg, hsha, hmem, hsound, hsame.trans hb⟩
    · rw [h.manifest] at hf
      exact Or.inr ⟨e, b, hf, hg, hsha, hmem, (Kept.sound w w' h _ e hf).mp hsound, hb⟩

/-- A step that touches neither manifest, rows nor files. -/
theorem Kept.aside (w w' : World ρ) (hm : w'.manifest = w.manifest)
    (hrows : w'.store.dirtyObjects = w.store.dirtyObjects) (hfiles : w'.store.files = w.store.files)
    (hr : Called B Call.isRead w.remote w'.remote) : Kept B S w w' where
  manifest := hm
  rows := hrows
  remote := hr
  files := fun p => Or.inl (by rw [hfiles])

theorem Kept.within (w w' : World ρ) (h : Kept B S w w') (hw : Within B S w) : Within B S w' where
  fetched := fun s hs => hw.fetched s (h.remote.trans hs)
  got := fun s hs => hw.got s (h.remote.trans hs)
  files := by
    intro p b hb
    rcases h.files p with hsame | ⟨e, b', _, _, _, hmem, _, hb'⟩
    · rw [hsame] at hb
      exact hw.files p b hb
    · rw [hb', Option.some.injEq] at hb
      rw [← hb]
      exact hmem

/-- Looking into the cache changes nothing that is on record. -/
theorem Kept.lookCut (w : World ρ) (id gen : Nat) (sha : Text) (k : Nat) :
    Kept B S w (cutOff ((LocalOp.readCache id gen sha).effects w) k w) := by
  rcases cutOff_readCache w id gen sha k with ⟨t, ht⟩
  rw [ht]
  exact Kept.aside w _ rfl rfl rfl .refl

/-- Installing a file that the manifest vouches for, however far it gets. -/
theorem Kept.installCut (w : World ρ) (id : Nat) (e : ManifestObject) (b : Bytes)
    (hf : w.manifest.find id = some e) (hsha : e.sha256 = some (sha256Hex b)) (hb : b ∈ S)
    (hsound : w.CacheSound id e) (k : Nat) :
    Kept B S w (cutOff ((LocalOp.writeCache id e.generation b).effects w) k w) := by
  have hfile : Kept B S w
      (onStore (LocalStore.writeFile (LocalStore.cachePath id e.generation) b) w) := by
    refine { manifest := rfl, rows := rfl, remote := .refl, files := ?_ }
    intro p
    simp only [onStore, LocalStore.files_writeFile]
    by_cases hp : p = LocalStore.cachePath id e.generation
    · rw [if_pos hp, hp]
      exact Or.inr ⟨e, b, hf, rfl, hsha, hb, hsound, rfl⟩
    · rw [if_neg hp]
      exact Or.inl rfl
  cases k with
  | zero => exact Kept.refl w
  | succ k => cases k with
    | zero => exact hfile
    | succ k =>
        rw [cutOff_length _ _ (Nat.le_trans (length_effects_writeCache w id e.generation b)
          (by omega))]
        exact Kept.trans _ _ _ hfile (Kept.aside _ _ rfl rfl rfl .refl)

/-- What a read leaves behind, and that what it found is vouched for. -/
def ReadSound (B : Backend ρ) (S : Set Bytes) (objectSize id : Nat) (w : World ρ)
    (r : Except String Bytes) (w' : World ρ) : Prop :=
  Kept B S w w' ∧ w'.locked = w.locked ∧
    ∀ b, r = .ok b → Attested S objectSize w.store.dirtyObjects w.manifest id b

theorem ReadSound.of_error (objectSize id : Nat) (w w' : World ρ) (msg : String)
    (h : Kept B S w w') (hlock : w'.locked = w.locked) :
    ReadSound B S objectSize id w (.error msg) w' :=
  ⟨h, hlock, fun _ hb => (by cases hb)⟩

theorem locked_lookCut (w : World ρ) (id gen : Nat) (sha : Text) (k : Nat) :
    (cutOff ((LocalOp.readCache id gen sha).effects w) k w).locked = w.locked := by
  rcases cutOff_readCache w id gen sha k with ⟨t, ht⟩
  rw [ht]
  rfl

theorem locked_installCut (w : World ρ) (id gen : Nat) (b : Bytes) (k : Nat) :
    (cutOff ((LocalOp.writeCache id gen b).effects w) k w).locked = w.locked := by
  refine cutOff_preserves (fun w' : World ρ => w'.locked = w.locked) _ ?_ k _ rfl
  intro f hmem w' hw'
  rcases List.mem_map.mp hmem with ⟨g, _, rfl⟩
  exact hw'

/-- Looking into the cache answers nothing only if there is no file, and a
    file only if it is sound. -/
theorem cacheSound_of_look (w : World ρ) (id : Nat) (e : ManifestObject) (sha : Text)
    (hs : e.sha256 = some sha) (a : Option Bytes)
    (h : (LocalOp.readCache id e.generation sha).answer w = .ok a) :
    w.CacheSound id e ∧ ∀ b, a = some b →
      w.store.files (LocalStore.cachePath id e.generation) = some b ∧ sha256Hex b = sha := by
  have hfile := answer_readCache w id e.generation sha a h
  have hsum : ∀ b, w.store.files (LocalStore.cachePath id e.generation) = some b →
      sha256Hex b = sha := by
    intro b hb
    simp only [LocalOp.answer, LocalStore.readCache, hb] at h
    exact Classical.not_not.mp (ite_error_eq_ok _ _ _ a h).1
  refine ⟨fun b hb => ?_, fun b hb => ?_⟩
  · rw [hs, hsum b hb]
  · rw [hb] at hfile
    exact ⟨hfile.symm, hsum b hfile.symm⟩

/-- Reading one object: whichever of the four places it comes from, it passes
    the checksum on record first. -/
theorem wp_readObject_attested (dev : BlockDevice) (id : Nat) (w : World ρ)
    (hw : Within B S w) :
    wp (DeviceEnv B P) (dev.readObject id) (ReadSound B S dev.map.objectSize id w)
      (fun _ => True) w := by
  have hrefl : Kept B S w w := Kept.refl w
  unfold BlockDevice.readObject
  refine wp_query (.readDirty id) _ _ _ w rfl (fun a ha => ?_)
    (fun msg _ => ReadSound.of_error _ _ _ _ _ hrefl rfl)
    (fun k msg _ => ReadSound.of_error _ _ _ _ _ hrefl rfl) trivial
  rcases answer_readDirty w id a ha with ⟨rfl, hd⟩ | ⟨d, b, rfl, hd, hb⟩
  · refine wp_query .peekManifest _ _ _ w rfl (fun m hm => ?_)
      (fun msg _ => ReadSound.of_error _ _ _ _ _ hrefl rfl)
      (fun k msg _ => ReadSound.of_error _ _ _ _ _ hrefl rfl) trivial
    rw [(answer_peekManifest w m hm).1]
    refine wp_ofOption_bind _ _ _ _ _ _ (fun e hf => ?_)
      (fun _ => ReadSound.of_error _ _ _ _ _ hrefl rfl)
    have hrows : w.store.dirtyObjects.get? id = none := hd
    rcases hz : e.zero with _ | _
    · simp only [Bool.false_eq_true, if_false]
      refine wp_ofOption_bind _ _ _ _ _ _ (fun remote hr => ?_)
        (fun _ => ReadSound.of_error _ _ _ _ _ hrefl rfl)
      refine wp_ofOption_bind _ _ _ _ _ _ (fun sha hs => ?_)
        (fun _ => ReadSound.of_error _ _ _ _ _ hrefl rfl)
      have hrecord : recorded w.store.dirtyObjects w.manifest id = some (.sum sha) := by
        simp only [recorded, hrows, hf, hz, hs, Bool.false_eq_true, if_false, Option.map_some]
      -- A string of the class with the right checksum is vouched for.
      have hvouched : ∀ x, x ∈ S → sha256Hex x = sha →
          ∀ env, ObjectEnvelope.decode x id e.generation = .ok env →
          Attested S dev.map.objectSize w.store.dirtyObjects w.manifest id
            (padObject env.payload dev.map.objectSize) := by
        intro x hx hsum env henv
        exact ⟨_, hrecord, x, hx, hsum, pad_decode _ _ _ _ env henv⟩
      refine wp_local _ _ _ _ w (fun a ha => ?_)
        (fun msg _ => ReadSound.of_error _ _ _ _ _ hrefl rfl)
        (fun k msg _ => ReadSound.of_error _ _ _ _ _ (Kept.lookCut w id _ sha k)
          (locked_lookCut w id _ sha k)) (fun _ _ => trivial)
      rcases cacheSound_of_look w id e sha hs a ha with ⟨hsound, hfound⟩
      rcases applyAll_readCache w id e.generation sha with ⟨t, ht⟩
      rw [ht]
      have hlook : Kept B S w (w.withRows t) := Kept.aside w _ rfl rfl rfl .refl
      rcases a with _ | cached
      · -- The backend answers what it likes, and the answer is checked.
        refine wp_call _ _ _ _ _ (fun encoded s' hfetch => ?_) (fun msg s' hfetch => ?_)
          (fun _ _ => trivial)
        · have hasked : Kept B S w { w.withRows t with remote := s' } :=
            Kept.aside w _ rfl rfl rfl (Called.of_step B _ (.fetchObject remote) trivial _ _ _
              hfetch)
          have hmem : encoded ∈ S := hw.fetched w.remote .refl remote encoded s' hfetch
          refine wp_ensure_bind _ _ _ _ _ _ (fun hsum => ?_)
            (fun _ => ReadSound.of_error _ _ _ _ _ hasked rfl)
          rw [decide_eq_true_eq] at hsum
          have hcut := fun k => Kept.trans _ _ _ hasked (Kept.installCut (B := B)
            { w.withRows t with remote := s' } id e encoded hf (by rw [hs, hsum]) hmem
            ((Kept.sound w _ hasked id e hf).mpr hsound) k)
          have hlock := locked_installCut { w.withRows t with remote := s' } id e.generation
            encoded
          refine wp_local _ _ _ _ _ (fun _ _ => ?_)
            (fun msg hmsg => (by cases hmsg))
            (fun k msg _ => ReadSound.of_error _ _ _ _ _ (hcut k) (hlock k)) (fun _ _ => trivial)
          have hstored := hcut 2
          have hfree := hlock 2
          rw [cutOff_length _ 2 (length_effects_writeCache _ id e.generation encoded)]
            at hstored hfree
          refine wp_decode _ _ _ _ _ _ _ (fun env henv => ?_)
            (fun _ _ => ReadSound.of_error _ _ _ _ _ hstored hfree)
          refine ⟨hstored, hfree, fun b hb => ?_⟩
          rw [← Except.ok.inj hb]
          exact hvouched encoded hmem hsum env henv
        · exact ReadSound.of_error _ _ _ _ _ (Kept.aside w _ rfl rfl rfl
            (Called.of_step B _ (.fetchObject remote) trivial _ _ _ hfetch)) rfl
      · rcases hfound cached rfl with ⟨hfile, hsum⟩
        refine wp_decode _ _ _ _ _ _ _ (fun env henv => ?_)
          (fun _ _ => ReadSound.of_error _ _ _ _ _ hlook rfl)
        refine ⟨hlook, rfl, fun b hb => ?_⟩
        rw [← Except.ok.inj hb]
        exact hvouched cached (hw.files _ _ hfile) hsum env henv
    · simp only [if_true]
      refine ⟨hrefl, rfl, fun b hb => ?_⟩
      rw [← Except.ok.inj hb]
      refine ⟨.blank, ?_, rfl⟩
      simp only [recorded, hrows, hf, hz, if_true]
  · -- The file of a dirty row is checked against the row.
    have hrows : w.store.dirtyObjects.get? id = some d := hd
    refine wp_ensure_bind _ _ _ _ _ _ (fun hsum => ?_)
      (fun _ => ReadSound.of_error _ _ _ _ _ hrefl rfl)
    rw [decide_eq_true_eq] at hsum
    refine wp_decode _ _ _ _ _ _ _ (fun env henv => ?_)
      (fun _ _ => ReadSound.of_error _ _ _ _ _ hrefl rfl)
    refine ⟨hrefl, rfl, fun x hx => ?_⟩
    rw [← Except.ok.inj hx]
    refine ⟨.sum d.sha256, ?_, b, hw.files _ _ hb, hsum, pad_decode _ _ _ _ env henv⟩
    simp only [recorded, hrows]

/-- An entry of a prefetch that says what the manifest says, and whose file is
    not a bad one. -/
def PrefetchEntry.Sound (w : World ρ) (p : PrefetchEntry) : Prop :=
  ∃ e, w.manifest.find p.objectId = some e ∧ e.generation = p.generation ∧
    e.sha256 = some p.sha256 ∧ w.CacheSound p.objectId e

theorem PrefetchEntry.Sound.kept (w w' : World ρ) (p : PrefetchEntry) (h : p.Sound w)
    (hk : Kept B S w w') : p.Sound w' := by
  rcases h with ⟨e, hf, hg, hs, hsound⟩
  exact ⟨e, by rw [hk.manifest, hf], hg, hs, (Kept.sound w w' hk _ e hf).mpr hsound⟩

/-- Going through a range changes nothing on record, and what it collects is
    sound. -/
theorem wp_collectPrefetch_kept (dirtyIds : List Nat) (manifest : Manifest) (ids : List Nat)
    (w : World ρ) (hm : w.manifest = manifest) :
    wp (DeviceEnv B P) (BlockDevice.collectPrefetch dirtyIds manifest ids)
      (fun r w' => Kept B S w w' ∧ w'.locked = w.locked ∧
        ∀ entries, r = .ok entries → ∀ p ∈ entries, p.Sound w) (fun _ => True) w := by
  induction ids generalizing w with
  | nil =>
      refine ⟨Kept.refl w, rfl, fun entries hentries p hp => ?_⟩
      rw [← Except.ok.inj hentries] at hp
      exact absurd hp List.not_mem_nil
  | cons id rest ih =>
      unfold BlockDevice.collectPrefetch
      by_cases hdirty : id ∈ dirtyIds
      · rw [if_pos hdirty]
        exact ih w hm
      rw [if_neg hdirty]
      rcases hf : manifest.find id with _ | e
      · refine ⟨Kept.refl w, rfl, fun entries hentries p hp => ?_⟩
        rw [← Except.ok.inj hentries] at hp
        exact absurd hp List.not_mem_nil
      rcases hz : e.zero with _ | _
      · rcases hr : e.remote with _ | remote
        · simp only [hz, hr, Bool.false_eq_true, if_false]
          exact ih w hm
        rcases hs : e.sha256 with _ | sha
        · simp only [hz, hr, hs, Bool.false_eq_true, if_false]
          exact ih w hm
        simp only [hz, hr, hs, Bool.false_eq_true, if_false]
        refine wp_local _ _ _ _ w (fun a ha => ?_)
          (fun msg _ => ⟨Kept.refl w, rfl, fun all hall => (by cases hall)⟩)
          (fun k msg _ => ⟨Kept.lookCut w id _ sha k, locked_lookCut w id _ sha k,
            fun all hall => (by cases hall)⟩) (fun _ _ => trivial)
        rcases applyAll_readCache w id e.generation sha with ⟨t, ht⟩
        rw [ht]
        have hlook : Kept B S w (w.withRows t) := Kept.aside w _ rfl rfl rfl .refl
        -- The rest of the range starts from a world that differs by a row of the cache.
        have hrest := wp_mono _ _ (fun r w' => Kept B S w w' ∧ w'.locked = w.locked ∧
            ∀ entries, r = .ok entries → ∀ p ∈ entries, PrefetchEntry.Sound w p) _
          (fun _ => True) (fun r w' hpost => ⟨Kept.trans _ _ _ hlook hpost.1, hpost.2.1,
            fun entries hentries p hp => hpost.2.2 entries hentries p hp⟩) (fun _ _ => trivial) _
          (ih (w.withRows t) hm)
        rcases a with _ | cached
        · refine wp_seq _ _ _ _ _ _ _ hrest (fun entries w' hpost => ?_)
            (fun msg w' hpost => ⟨hpost.1, hpost.2.1, fun all hall => (by cases hall)⟩)
            (fun _ _ => trivial)
          refine ⟨hpost.1, hpost.2.1, fun all hall p hp => ?_⟩
          rw [← Except.ok.inj hall] at hp
          rcases List.mem_cons.mp hp with rfl | hp
          · exact ⟨e, by rw [hm]; exact hf, rfl, hs, (cacheSound_of_look w id e sha hs _ ha).1⟩
          · exact hpost.2.2 entries rfl p hp
        · exact hrest
      · simp only [hz, if_true]
        exact ih w hm

/-- Storing a downloaded object installs what the manifest vouches for, if
    anything. -/
theorem wp_storePrefetched_kept (w : World ρ) (p : PrefetchEntry) (encoded : Option Bytes)
    (hp : p.Sound w) (hmem : ∀ b, encoded = some b → b ∈ S) :
    wp (DeviceEnv B P) (BlockDevice.storePrefetched p encoded)
      (fun _ w' => Kept B S w w' ∧ w'.locked = w.locked) (fun _ => True) w := by
  rcases hp with ⟨e, hf, hg, hs, hsound⟩
  unfold BlockDevice.storePrefetched
  rcases encoded with _ | b
  · exact ⟨Kept.refl w, rfl⟩
  by_cases hsha : sha256Hex b ≠ p.sha256
  · simp only [hsha, ne_eq, not_false_eq_true, if_true]
    exact ⟨Kept.refl w, rfl⟩
  simp only [hsha, if_false]
  rcases ObjectEnvelope.decode b p.objectId p.generation with failure | env
  · exact ⟨Kept.refl w, rfl⟩
  have hcut := Kept.installCut (B := B) w p.objectId e b hf
    (by rw [hs, Classical.not_not.mp hsha]) (hmem b rfl) hsound
  rw [hg] at hcut
  have hlock := locked_installCut w p.objectId p.generation b
  refine (wp_perform (S := deviceSig) _ _ _ w).mpr ⟨fun r w' hstep => ?_, fun _ _ => trivial⟩
  rcases hstep with hrun | ⟨k, msg, _, _, _, hw⟩
  · have hall := cutOff_length ((LocalOp.writeCache p.objectId p.generation b).effects w)
      2 (length_effects_writeCache w _ _ b) w
    rw [(Prod.mk.inj hrun).2, ← hall]
    exact ⟨hcut 2, hlock 2⟩
  · rw [hw]
    exact ⟨hcut k, hlock k⟩

/-- A prefetch installs what the manifest vouches for and nothing else,
    whatever list of messages the backend comes up with. -/
theorem wp_prefetchObjects_kept (start count : Nat) (w : World ρ) (hw : Within B S w) :
    wp (DeviceEnv B P) (BlockDevice.prefetchObjects start count)
      (fun _ w' => Kept B S w w' ∧ w'.locked = w.locked) (fun _ => True) w := by
  have hrefl : Kept B S w w := Kept.refl w
  unfold BlockDevice.prefetchObjects
  refine wp_query .dirtyObjects _ _ _ w rfl (fun rows hrows => ?_) (fun msg _ => ⟨hrefl, rfl⟩)
    (fun k msg _ => ⟨hrefl, rfl⟩) trivial
  refine wp_memory .lockManifest _ _ _ w rfl (fun _ hfree => ?_) (fun msg _ => ⟨hrefl, rfl⟩)
    (fun _ => trivial)
  have hunlocked : w.locked = false := by
    rcases hl : w.locked with _ | _
    · rfl
    · simp only [LocalOp.answer, hl, if_true, reduceCtorEq] at hfree
  have htaken : Kept B S w { w with locked := true } := Kept.aside w _ rfl rfl rfl .refl
  refine wp_memory .getManifest _ _ _ _ rfl (fun m hm => ?_) (fun msg hmsg => (by cases hmsg))
    (fun _ => trivial)
  rw [← Except.ok.inj hm]
  refine wp_attempt_bind _ _ _ _ _ _ _ (wp_collectPrefetch_kept (S := S) _ _ _
    { w with locked := true } rfl) (fun collected w1 hpost => ?_) (fun _ _ => trivial)
  rcases hpost with ⟨hkept1, _, hsound1⟩
  have hall1 : Kept B S w { w1 with locked := false } :=
    Kept.trans _ _ _ (Kept.trans _ _ _ htaken hkept1) (Kept.aside w1 _ rfl rfl rfl .refl)
  refine wp_memory .unlockManifest _ _ _ w1 rfl (fun _ _ => ?_) (fun msg hmsg => (by cases hmsg))
    (fun _ => trivial)
  refine wp_ofExcept_bind _ _ _ _ _ (fun entries hentries => ?_)
    (fun msg _ => ⟨hall1, hunlocked.symm⟩)
  by_cases hempty : entries.isEmpty
  · simp only [hempty, if_true]
    exact ⟨hall1, hunlocked.symm⟩
  simp only [hempty, if_false, Bool.false_eq_true]
  refine wp_call _ _ _ _ _ (fun messages s' hgot => ?_) (fun msg s' hfail => ?_)
    (fun _ _ => trivial)
  · have hasked : Kept B S w { w1 with locked := false, remote := s' } :=
      Kept.trans _ _ _ hall1 (Kept.aside _ _ rfl rfl rfl
        (Called.of_step B _ _ (by exact trivial) _ _ _ hgot))
    have hwithin := Kept.within w _ hall1 hw
    -- Whatever is paired with an entry is a string of the class.
    have hgood : ∀ p ∈ entries.zip messages,
        p.1.Sound { w1 with locked := false, remote := s' } ∧ ∀ b, p.2 = some b → b ∈ S := by
      intro p hp
      refine ⟨?_, fun b hb => ?_⟩
      · have hmem := (List.of_mem_zip hp).1
        exact PrefetchEntry.Sound.kept w _ _ (hsound1 entries hentries p.1 hmem) hasked
      · have hmem := (List.of_mem_zip hp).2
        rw [hb] at hmem
        exact hwithin.got _ .refl _ messages s' hgot b hmem
    refine wp_mono _ _ _ _ _ (fun r w' hr => ?_) (fun w' hc => hc) _
      (wp_foldlM _ _ () (fun rest _ w' => Kept B S w w' ∧ w'.locked = w.locked ∧
        ∀ p ∈ rest, p.1.Sound w' ∧ ∀ b, p.2 = some b → b ∈ S)
        (fun _ w' => Kept B S w w' ∧ w'.locked = w.locked) _
        (fun p rest _ w2 hI => ?_) _ ⟨hasked, hunlocked.symm, hgood⟩)
    · cases r with
      | ok _ => exact ⟨hr.1, hr.2.1⟩
      | error msg => exact hr
    · rcases hI with ⟨hkept2, hlock2, hgood2⟩
      rcases hgood2 p List.mem_cons_self with ⟨hsound, hmem⟩
      refine wp_mono _ _ _ _ _ (fun r w3 hr => ?_) (fun _ _ => trivial) _
        (wp_storePrefetched_kept w2 p.1 p.2 hsound hmem)
      have hkept3 := Kept.trans _ _ _ hkept2 hr.1
      have hlock3 := hr.2.trans hlock2
      cases r with
      | ok _ =>
          refine ⟨hkept3, hlock3, fun q hq => ?_⟩
          rcases hgood2 q (List.mem_cons_of_mem p hq) with ⟨hsoundq, hmemq⟩
          exact ⟨PrefetchEntry.Sound.kept _ _ _ hsoundq hr.1, hmemq⟩
      | error msg => exact ⟨hkept3, hlock3⟩
  · exact ⟨Kept.trans _ _ _ hall1 (Kept.aside _ _ rfl rfl rfl
      (Called.of_step B _ _ (by exact trivial) _ _ _ hfail)), hunlocked.symm⟩

theorem Attested.length (S : Set Bytes) (objectSize : Nat) (rows : Table DirtyObject.objectId)
    (m : Manifest) (id : Nat) (b : Bytes) (h : Attested S objectSize rows m id b) :
    b.length = objectSize := by
  rcases h with ⟨r, _, h⟩
  cases r with
  | blank =>
      rw [show b = List.replicate objectSize 0 from h, List.length_replicate]
  | sum sha =>
      rcases h with ⟨x, _, _, rfl⟩
      exact length_objectOf objectSize x

/-- The objects that a range touches. -/
def Touched (map : BlockMap) (offset len id : Nat) : Prop :=
  ∃ i, offset ≤ i ∧ i < offset + len ∧ i / map.objectSize = id

/-- The bytes of a range each of whose objects is vouched for. -/
def AttestedRange (S : Set Bytes) (map : BlockMap) (rows : Table DirtyObject.objectId)
    (m : Manifest) (offset len : Nat) (b : Bytes) : Prop :=
  ∃ objects : Nat → Bytes, b = span (arrayOf map.objectSize objects) offset len ∧
    ∀ id, Touched map offset len id → Attested S map.objectSize rows m id (objects id)

theorem AttestedRange.empty (S : Set Bytes) (map : BlockMap) (rows : Table DirtyObject.objectId)
    (m : Manifest) (offset : Nat) : AttestedRange S map rows m offset 0 [] := by
  refine ⟨fun _ => [], rfl, fun id hid => ?_⟩
  rcases hid with ⟨i, hlo, hhi, _⟩
  omega

/-- A stretch of one object before a range of others, if the stretch goes to
    the end of its object or nothing follows. -/
theorem AttestedRange.cons (S : Set Bytes) (map : BlockMap) (rows : Table DirtyObject.objectId)
    (m : Manifest) (id o take rest : Nat) (object b : Bytes) (hpos : 0 < map.objectSize)
    (ho : o + take ≤ map.objectSize)
    (hend : o + take = map.objectSize ∨ rest = 0)
    (hobject : Attested S map.objectSize rows m id object)
    (hrest : AttestedRange S map rows m (id * map.objectSize + o + take) rest b) :
    AttestedRange S map rows m (id * map.objectSize + o) (take + rest)
      ((object.drop o).take take ++ b) := by
  rcases hrest with ⟨objects, hb, hall⟩
  have hsucc : (id + 1) * map.objectSize = id * map.objectSize + map.objectSize :=
    Nat.succ_mul id map.objectSize
  -- What follows is in later objects.
  have hlater : ∀ i, id * map.objectSize + o + take ≤ i →
      i < id * map.objectSize + o + take + rest → i / map.objectSize ≠ id := by
    intro i hlo hhi hdiv
    have hlt := Nat.lt_mul_div_succ i hpos
    rw [hdiv, Nat.mul_comm, hsucc] at hlt
    omega
  refine ⟨Function.update objects id object, ?_, fun j hj => ?_⟩
  · rw [span_add, hb]
    have hfirst : (object.drop o).take take
        = span (arrayOf map.objectSize (Function.update objects id object))
          (id * map.objectSize + o) take := by
      have hself : Function.update objects id object id = object :=
        Function.update_self id object objects
      have hwhole := span_arrayOf map.objectSize (Function.update objects id object) id
        (by rw [hself, hobject.length])
      rw [hself] at hwhole
      rw [← take_drop_span _ _ map.objectSize o take ho, hwhole]
    have hsecond : span (arrayOf map.objectSize objects) (id * map.objectSize + o + take) rest
        = span (arrayOf map.objectSize (Function.update objects id object))
          (id * map.objectSize + o + take) rest := by
      refine span_congr _ _ _ _ fun i hlo hhi => ?_
      rw [arrayOf, arrayOf, Function.update_of_ne (hlater i hlo hhi)]
    rw [hfirst, hsecond]
  · by_cases hid : j = id
    · rw [hid, Function.update_self]
      exact hobject
    · rw [Function.update_of_ne hid]
      rcases hj with ⟨i, hlo, hhi, hdiv⟩
      refine hall j ⟨i, ?_, by omega, hdiv⟩
      -- An index before the rest is in the object of the stretch.
      by_contra hbefore
      refine hid (hdiv.symm.trans ?_)
      refine Nat.div_eq_of_lt_le (by omega) ?_
      rw [hsucc]
      omega

/-- The rounds of a read return bytes that are vouched for. -/
theorem wp_readLoop_attested (dev : BlockDevice) (rounds : Nat) :
    ∀ (cursor left : Nat) (out : Bytes) (w : World ρ), Within B S w →
      wp (DeviceEnv B P) (dev.readLoop rounds cursor left out)
        (fun r w' => Kept B S w w' ∧ w'.locked = w.locked ∧ ∀ res, r = .ok res →
          res.2 = cursor + left ∧ ∃ b, res.1 = out ++ b ∧
            AttestedRange S dev.map w.store.dirtyObjects w.manifest cursor left b)
        (fun _ => True) w := by
  induction rounds with
  | zero =>
      intro cursor left out w hw
      cases left with
      | zero =>
          refine ⟨Kept.refl w, rfl, fun res hres => ?_⟩
          rw [← Except.ok.inj hres]
          exact ⟨rfl, [], (List.append_nil out).symm, AttestedRange.empty _ _ _ _ _⟩
      | succ left => exact ⟨Kept.refl w, rfl, fun res hres => (by cases hres)⟩
  | succ rounds ih =>
      intro cursor left out w hw
      cases left with
      | zero =>
          refine ⟨Kept.refl w, rfl, fun res hres => ?_⟩
          rw [← Except.ok.inj hres]
          exact ⟨rfl, [], (List.append_nil out).symm, AttestedRange.empty _ _ _ _ _⟩
      | succ left =>
          unfold BlockDevice.readLoop
          refine wp_ofExcept_bind _ _ _ _ _ (fun loc hloc => ?_)
            (fun msg _ => ⟨Kept.refl w, rfl, fun res hres => (by cases hres)⟩)
          rcases loc with ⟨id, o⟩
          rcases locate_ok dev.map cursor id o hloc with ⟨hin, hcur, ho⟩
          refine wp_seq _ _ _ _ _ _ _ (wp_readObject_attested dev id w hw)
            (fun object w1 hr => ?_)
            (fun msg w1 hr => ⟨hr.1, hr.2.1, fun res hres => (by cases hres)⟩) (fun _ _ => trivial)
          have hobject := hr.2.2 object rfl
          refine wp_mono _ _ _ _ _ (fun r w2 hpost => ?_) (fun _ _ => trivial) _
            (ih (cursor + min (left + 1) (dev.map.objectSize - o))
              (left + 1 - min (left + 1) (dev.map.objectSize - o)) _ w1 (Kept.within w w1 hr.1 hw))
          refine ⟨Kept.trans _ _ _ hr.1 hpost.1, hpost.2.1.trans hr.2.1, fun res hres => ?_⟩
          rcases hpost.2.2 res hres with ⟨hstop, b, hb, hrange⟩
          rw [hr.1.rows, hr.1.manifest, hcur] at hrange
          have hwhole := AttestedRange.cons S dev.map _ _ id o
            (min (left + 1) (dev.map.objectSize - o)) _ object b (by omega) (by omega) (by omega)
            hobject hrange
          have hsplit : left + 1 = min (left + 1) (dev.map.objectSize - o) +
              (left + 1 - min (left + 1) (dev.map.objectSize - o)) := by omega
          rw [← hsplit, ← hcur] at hwhole
          exact ⟨by omega, _, by rw [hb, List.append_assoc], hwhole⟩

/-- A read returns bytes that are vouched for, or none. -/
theorem wp_readAt_attested (dev : BlockDevice) (offset len : Nat) (w : World ρ)
    (hw : Within B S w) :
    wp (DeviceEnv B P) (dev.readAt offset len) (fun r w' => Kept B S w w' ∧
      w'.locked = w.locked ∧ ∀ b, r = .ok b →
        AttestedRange S dev.map w.store.dirtyObjects w.manifest offset len b)
      (fun _ => True) w := by
  unfold BlockDevice.readAt
  refine wp_ofExcept_bind _ _ _ _ _ (fun stop hstop => ?_)
    (fun msg _ => ⟨Kept.refl w, rfl, fun b hb => (by cases hb)⟩)
  refine wp_ensure_bind _ _ _ _ _ _ (fun _ => ?_)
    (fun _ => ⟨Kept.refl w, rfl, fun b hb => (by cases hb)⟩)
  refine wp_seq _ _ _ _ _ _ _ (wp_readLoop_attested dev len offset len [] w hw)
    (fun res w1 hr => ?_) (fun msg w1 hr => ⟨hr.1, hr.2.1, fun b hb => (by cases hb)⟩)
    (fun _ _ => trivial)
  rcases hr.2.2 res rfl with ⟨_, b, hb, hrange⟩
  rw [List.nil_append] at hb
  have hdone : ∀ w2, Kept B S w1 w2 → w2.locked = w1.locked → Kept B S w w2 ∧
      w2.locked = w.locked ∧ ∀ x, (Except.ok res.1 : Except String Bytes) = .ok x →
        AttestedRange S dev.map w.store.dirtyObjects w.manifest offset len x := by
    intro w2 hkept hlock
    refine ⟨Kept.trans _ _ _ hr.1 hkept, hlock.trans hr.2.1, fun x hx => ?_⟩
    rw [← Except.ok.inj hx, hb]
    exact hrange
  rcases res with ⟨out, cursor⟩
  simp only []
  by_cases hmore : cursor < dev.map.deviceSize
  · rw [if_pos hmore]
    rcases dev.map.locate cursor with msg | ⟨next, o⟩
    · exact hdone w1 (Kept.refl w1) rfl
    · cases o with
      | zero =>
          -- The prefetch comes after the bytes are there; its failure is dropped.
          refine wp_attempt_bind _ _ _ _ _ _ _ (wp_prefetchObjects_kept (S := S) next _ w1
            (Kept.within w w1 hr.1 hw)) (fun r w2 hp => ?_) (fun _ _ => trivial)
          exact hdone w2 hp.1 hp.2
      | succ o => exact hdone w1 (Kept.refl w1) rfl
  · rw [if_neg hmore]
    exact hdone w1 (Kept.refl w1) rfl

end Kept

/-- A sequence of reads, each with its range and what came of it. -/
inductive Reads (E : Env deviceSig (World ρ)) (dev : BlockDevice) :
    World ρ → List (Nat × Nat × Except String Bytes) → World ρ → Prop
  | nil (w : World ρ) : Reads E dev w [] w
  | cons (w w1 w2 : World ρ) (offset len : Nat) (r : Except String Bytes)
      (rest : List (Nat × Nat × Except String Bytes))
      (hread : Exec E (dev.readAt offset len) w (.done r) w1) (hrest : Reads E dev w1 rest w2) :
      Reads E dev w ((offset, len, r) :: rest) w2

/-- What a sequence of reads returns is vouched for, and so is what it leaves
    in the cache. -/
theorem Reads.attested (B : Backend ρ) (P : Policy ρ) (S : Set Bytes) (dev : BlockDevice)
    (w w' : World ρ) (l : List (Nat × Nat × Except String Bytes))
    (h : Reads (DeviceEnv B P) dev w l w') (hw : Within B S w) :
    Kept B S w w' ∧ w'.locked = w.locked ∧ ∀ offset len b, (offset, len, .ok b) ∈ l →
      AttestedRange S dev.map w.store.dirtyObjects w.manifest offset len b := by
  induction h with
  | nil w => exact ⟨Kept.refl w, rfl, fun offset len b hb => absurd hb List.not_mem_nil⟩
  | cons w w1 w2 offset len r rest hread _ ih =>
      have hpost := wp_done _ _ _ _ _ _ (wp_readAt_attested (P := P) dev offset len w hw) hread
      rcases ih (Kept.within w w1 hpost.1 hw) with ⟨hkept, hlock, hall⟩
      refine ⟨Kept.trans _ _ _ hpost.1 hkept, hlock.trans hpost.2.1, fun offset' len' b hb => ?_⟩
      rcases List.mem_cons.mp hb with heq | hb
      · rcases Prod.mk.inj heq with ⟨hoffset, heq⟩
        rcases Prod.mk.inj heq with ⟨hlen, heq⟩
        rw [hoffset, hlen]
        exact hpost.2.2 b heq.symm
      · have hlater := hall offset' len' b hb
        rw [hpost.1.rows, hpost.1.manifest] at hlater
        exact hlater

/-- Two ranges vouched for by the same record have the same bytes. -/
theorem AttestedRange.unique (S : Set Bytes) (hS : Set.InjOn Sha256.digest S) (map : BlockMap)
    (rows : Table DirtyObject.objectId) (m : Manifest) (offset len : Nat) (a b : Bytes)
    (ha : AttestedRange S map rows m offset len a)
    (hb : AttestedRange S map rows m offset len b) : a = b := by
  rcases ha with ⟨f, rfl, hf⟩
  rcases hb with ⟨g, rfl, hg⟩
  refine span_congr _ _ _ _ fun i hlo hhi => ?_
  have hi : Touched map offset len (i / map.objectSize) := ⟨i, hlo, hhi, rfl⟩
  rw [arrayOf, arrayOf, Attested.unique S hS _ rows m _ _ _ (hf _ hi) (hg _ hi)]

/-- Two sequences of reads with the same record, each over a backend and files
    that know no two strings with the same digest: where both read a range
    they read the same bytes, which are those that the record vouches for, and
    what the one leaves in the cache was there before or is a file that the
    manifest vouches for. -/
theorem reads_determined {ρ₁ ρ₂ : Type} (B₁ : Backend ρ₁) (P₁ : Policy ρ₁) (B₂ : Backend ρ₂)
    (P₂ : Policy ρ₂) (S : Set Bytes) (hS : Set.InjOn Sha256.digest S) (dev : BlockDevice)
    (w₁ w₁' : World ρ₁) (w₂ w₂' : World ρ₂) (hw₁ : Within B₁ S w₁) (hw₂ : Within B₂ S w₂)
    (hmanifest : w₂.manifest = w₁.manifest)
    (hrows : w₂.store.dirtyObjects = w₁.store.dirtyObjects)
    (l₁ l₂ : List (Nat × Nat × Except String Bytes))
    (h₁ : Reads (DeviceEnv B₁ P₁) dev w₁ l₁ w₁') (h₂ : Reads (DeviceEnv B₂ P₂) dev w₂ l₂ w₂') :
    (∀ offset len b₁ b₂, (offset, len, .ok b₁) ∈ l₁ → (offset, len, .ok b₂) ∈ l₂ → b₁ = b₂) ∧
    (∀ offset len b, (offset, len, .ok b) ∈ l₁ →
      AttestedRange S dev.map w₁.store.dirtyObjects w₁.manifest offset len b) ∧
    ∀ p b, w₁'.store.files p = some b → w₁.store.files p = some b ∨
      ∃ e, w₁.manifest.find p.objectId = some e ∧ e.generation = p.generation ∧
        e.sha256 = some (sha256Hex b) ∧ b ∈ S := by
  rcases Reads.attested B₁ P₁ S dev w₁ w₁' l₁ h₁ hw₁ with ⟨hkept, _, hall₁⟩
  rcases Reads.attested B₂ P₂ S dev w₂ w₂' l₂ h₂ hw₂ with ⟨_, _, hall₂⟩
  refine ⟨fun offset len b₁ b₂ hb₁ hb₂ => ?_, hall₁, fun p b hb => ?_⟩
  · have hrange := hall₂ offset len b₂ hb₂
    rw [hmanifest, hrows] at hrange
    exact AttestedRange.unique S hS dev.map _ _ offset len b₁ b₂ (hall₁ _ _ _ hb₁) hrange
  · rcases hkept.files p with hsame | ⟨e, b', hf, hg, hsha, hmem, _, hb'⟩
    · rw [hsame] at hb
      exact Or.inl hb
    · rw [hb', Option.some.injEq] at hb
      rw [← hb]
      exact Or.inr ⟨e, hf, hg, hsha, hmem⟩

omit [Crates] in
/-- Reading leaves the memory backend alone. -/
theorem MemoryBackend.run_read (c : Call) (hc : c.isRead) (s : MemoryBackend) :
    (MemoryBackend.run c s).2 = s := by
  cases c with
  | fetchObject ref =>
      rcases hm : s.messages ref.messageId with _ | b
      · simp only [MemoryBackend.run, hm]
      · simp only [MemoryBackend.run, hm]
  | getMessagesById ids => rfl
  | sendObject i g b sha => exact False.elim hc
  | commitManifest m a b c => exact False.elim hc

omit [Crates] in
theorem MemoryBackend.called_read (s s' : MemoryBackend)
    (h : Called MemoryBackend.backend Call.isRead s s') : s' = s := by
  induction h with
  | refl => rfl
  | tail _ hstep ih =>
      rcases hstep with ⟨c, hc, ⟨r, hr⟩ | hcrash⟩
      · have hrun : (MemoryBackend.run c _).2 = _ := congrArg Prod.snd hr
        exact hrun.symm.trans ((MemoryBackend.run_read c hc _).trans ih)
      · exact False.elim hcrash

omit [Crates] in
/-- A device on the memory backend knows the messages and the files. -/
theorem MemoryBackend.within (S : Set Bytes) (w : World MemoryBackend)
    (hmessages : ∀ i b, w.remote.messages i = some b → b ∈ S)
    (hfiles : ∀ p b, w.store.files p = some b → b ∈ S) : Within MemoryBackend.backend S w where
  fetched := by
    intro s hs ref b s' hstep
    rw [MemoryBackend.called_read _ _ hs] at hstep
    exact hmessages _ b (MemoryBackend.returns.fetched ref b _ s' hstep)
  got := by
    intro s hs ids out s' hstep b hb
    rw [MemoryBackend.called_read _ _ hs] at hstep
    have hrun : MemoryBackend.run (.getMessagesById ids) w.remote = (.ok out, s') := hstep
    rw [← Except.ok.inj (Prod.mk.inj hrun).1] at hb
    rcases List.mem_map.mp hb with ⟨i, _, hi⟩
    exact hmessages i b hi
  files := hfiles

end Crates

section Small

attribute [local instance] concreteCrates

/-- An uploaded object, and a manifest that names it. -/
def smallEncoded : Bytes :=
  ObjectEnvelope.encode
    { objectId := 0, generation := 1, objectSize := 4, flags := 0, payload := [1, 2, 3, 4] }

def smallUploaded : Manifest :=
  { Manifest.empty ⟨7⟩ 4 1 with
    objects := [
      { objectId := 0
        generation := 1
        remote := some ⟨-100, 1, 0, 1, sha256Hex smallEncoded⟩
        sha256 := some (sha256Hex smallEncoded)
        zero := false }] }

/-- The object is in the cache of the one world, and in the channel of the
    other. -/
def smallCached : World MemoryBackend :=
  { store := { LocalStore.empty with files := fun _ => some smallEncoded }
    manifest := smallUploaded
    locked := false
    remote := MemoryBackend.new (-100) }

def smallFetched : World MemoryBackend :=
  { store := LocalStore.empty
    manifest := smallUploaded
    locked := false
    remote := (MemoryBackend.new (-100)).insert smallEncoded }

theorem known_smallFetched (i : Int) (b : Bytes)
    (hb : smallFetched.remote.messages i = some b) : b ∈ ({smallEncoded} : Set Bytes) := by
  have hb' : Function.update (fun _ => none) 1 (some smallEncoded) i = some b := hb
  by_cases hi : i = 1
  · rw [hi, Function.update_self, Option.some.injEq] at hb'
    exact hb'.symm
  · rw [Function.update_of_ne hi] at hb'
    cases hb'

theorem reads_determined_small : AttestedRange {smallEncoded} smallMap
    LocalStore.empty.dirtyObjects smallUploaded 0 4 [1, 2, 3, 4] := by
  have hcached := exec_deviceRun (P := Policy.quiet) MemoryBackend.run
    ((BlockDevice.new smallMap false).readAt 0 4) smallCached
  have hfetched := exec_deviceRun (P := Policy.quiet) MemoryBackend.run
    ((BlockDevice.new smallMap false).readAt 0 4) smallFetched
  rw [show (((BlockDevice.new smallMap false).readAt 0 4).eval
    (deviceRun MemoryBackend.run) smallCached).1 = .ok [1, 2, 3, 4] by decide +kernel] at hcached
  exact (reads_determined MemoryBackend.backend Policy.quiet MemoryBackend.backend Policy.quiet
    {smallEncoded} (Set.injOn_singleton _ _) (BlockDevice.new smallMap false) smallCached _
    smallFetched _ (MemoryBackend.within _ _ (fun i b hb => (by cases hb))
      (fun p b hb => (Option.some.inj hb).symm))
    (MemoryBackend.within _ _ known_smallFetched (fun p b hb => (by cases hb))) rfl rfl _ _
    (.cons _ _ _ 0 4 _ _ hcached (.nil _)) (.cons _ _ _ 0 4 _ _ hfetched (.nil _))).2.1
    0 4 [1, 2, 3, 4] List.mem_cons_self

end Small

end TgDrive
