import TgDrive.Core.Content

/-!
# What Reading Does

Every read leaves a world that differs from the one before by copies of remote
objects in the cache, whether it succeeds, fails or is cut short, and a read
that succeeds has found the content of its objects. The second half needs the
world to be consistent and nothing of the environment but that the backend
returns what it was sent.

The same walk through the source also says when a read does not fail. An
object is readable when the bytes it stands on pass the checks; on a disk that
does not fail and a backend that serves what it has, a readable object is read.

## Main definitions

* `ManifestObject.Live`: An entry whose remote object passes all checks.
* `Readable`: An object that passes all checks of a read.
* `Smooth`: Neither the disk nor the backend gets in the way.
* `ObjectRead`: The outcome of reading one object.

## Theorems

* `wp_readObject`: Reading one object.
* `wp_prefetchObjects`: A prefetch only fills the cache.
* `wp_readLoop`: Reading the objects of a range.
* `wp_readAt`: A read that succeeds has read the array.
-/

namespace TgDrive

open Data Effect

variable {ρ α : Type} [Crates] {B : Backend ρ} {P : Policy ρ} {raw : ρ → Int → Option Bytes}

/-- An entry whose reference leads to an object that passes all checks, and
    names what the entry names. -/
def ManifestObject.Live (messages : Int → Option Bytes) (e : ManifestObject) : Prop :=
  ∃ r sha b env, e.remote = some r ∧ e.sha256 = some sha ∧ messages r.messageId = some b ∧
    sha256Hex b = sha ∧ ObjectEnvelope.decode b e.objectId e.generation = .ok env ∧
    r.objectId = e.objectId ∧ r.generation = e.generation ∧ r.sha256 = sha

/-- An object that passes all checks of a read. -/
structure Readable (raw : ρ → Int → Option Bytes) (w : World ρ) (id : Nat) : Prop where
  dirty : ∀ d, w.store.dirtyObject id = some d → ∃ b env, w.store.files d.cachePath = some b ∧
    sha256Hex b = d.sha256 ∧ ObjectEnvelope.decode b id d.generation = .ok env
  clean : w.store.dirtyObject id = none → ∃ e, w.manifest.find id = some e ∧
    (e.zero = false → e.Live (raw w.remote))

/-- Neither the disk nor the backend gets in the way of a read. -/
structure Smooth (B : Backend ρ) (P : Policy ρ) (raw : ρ → Int → Option Bytes) : Prop where
  noFault : ∀ l w k, ¬P.fault l w k
  serves : Serves B raw

/-- The outcome of reading one object: the cache may be fuller, the answer is
    the content, and there is an answer if nothing is in the way. -/
structure ObjectRead (B : Backend ρ) (P : Policy ρ) (raw : ρ → Int → Option Bytes)
    (objectSize id : Nat) (w : World ρ) (r : Except String Bytes) (w' : World ρ) : Prop where
  fill : CacheFill B raw w w'
  locked : w'.locked = w.locked
  answer : ∀ b, r = .ok b → b = w.content raw objectSize id
  answers : ∀ msg, r = .error msg → Smooth B P raw → w.locked = false → ¬Readable raw w id

theorem ObjectRead.of_ok (objectSize id : Nat) (w w' : World ρ) (b : Bytes)
    (hfill : CacheFill B raw w w') (hlock : w'.locked = w.locked)
    (hb : b = w.content raw objectSize id) :
    ObjectRead B P raw objectSize id w (.ok b) w' where
  fill := hfill
  locked := hlock
  answer := fun x hx => (Except.ok.inj hx).symm.trans hb
  answers := fun msg hmsg => absurd hmsg (by simp only [reduceCtorEq, not_false_eq_true])

theorem ObjectRead.of_error (objectSize id : Nat) (w w' : World ρ) (msg : String)
    (hfill : CacheFill B raw w w') (hlock : w'.locked = w.locked)
    (h : Smooth B P raw → w.locked = false → ¬Readable raw w id) :
    ObjectRead B P raw objectSize id w (.error msg) w' where
  fill := hfill
  locked := hlock
  answer := fun x hx => absurd hx (by simp only [reduceCtorEq, not_false_eq_true])
  answers := fun _ _ => h

/-- The rule for decoding. -/
theorem wp_decode (encoded : Bytes) (id gen : Nat) (f : ObjectEnvelope → Prog deviceSig α)
    (Q : Except String α → World ρ → Prop) (C : World ρ → Prop) (w : World ρ)
    (hok : ∀ e, ObjectEnvelope.decode encoded id gen = .ok e →
      wp (DeviceEnv B P) (f e) Q C w)
    (herr : ∀ failure, ObjectEnvelope.decode encoded id gen = .error failure →
      Q (.error failure.message) w) :
    wp (DeviceEnv B P) (decodeEnvelope encoded id gen >>= f) Q C w := by
  unfold decodeEnvelope
  rcases hdec : ObjectEnvelope.decode encoded id gen with failure | e
  · exact herr failure hdec
  · exact hok e hdec

/-- What reading a dirty object answers. -/
theorem answer_readDirty (w : World ρ) (id : Nat) (a : Option (DirtyObject × Bytes))
    (h : (LocalOp.readDirty id).answer w = .ok a) :
    (a = none ∧ w.store.dirtyObject id = none) ∨
    ∃ d b, a = some (d, b) ∧ w.store.dirtyObject id = some d ∧
      w.store.files d.cachePath = some b := by
  rcases hd : w.store.dirtyObject id with _ | d
  · simp only [LocalOp.answer, hd, Except.ok.injEq] at h
    exact Or.inl ⟨h.symm, rfl⟩
  · rcases hf : w.store.files d.cachePath with _ | b
    · simp only [LocalOp.answer, hd, readFileAt, hf, reduceCtorEq] at h
    · simp only [LocalOp.answer, hd, readFileAt, hf, Except.ok.injEq] at h
      exact Or.inr ⟨d, b, h.symm, rfl, hf⟩

/-- Reading a dirty object is refused only when its file is gone. -/
theorem answer_readDirty_error (w : World ρ) (id : Nat) (msg : String)
    (h : (LocalOp.readDirty id).answer w = .error msg) :
    ∃ d, w.store.dirtyObject id = some d ∧ w.store.files d.cachePath = none := by
  rcases hd : w.store.dirtyObject id with _ | d
  · simp only [LocalOp.answer, hd, reduceCtorEq] at h
  · rcases hf : w.store.files d.cachePath with _ | b
    · exact ⟨d, rfl, hf⟩
    · simp only [LocalOp.answer, hd, readFileAt, hf, reduceCtorEq] at h

/-- What looking into the cache answers. -/
theorem answer_readCache (w : World ρ) (id gen : Nat) (sha : Text) (a : Option Bytes)
    (h : (LocalOp.readCache id gen sha).answer w = .ok a) :
    a = w.store.files (LocalStore.cachePath id gen) := by
  rcases hf : w.store.files (LocalStore.cachePath id gen) with _ | b
  · simp only [LocalOp.answer, LocalStore.readCache, hf, Except.ok.injEq] at h
    exact h.symm
  · simp only [LocalOp.answer, LocalStore.readCache, hf] at h
    exact (Except.ok.inj (ite_error_eq_ok _ _ _ a h).2).symm

/-- Looking into the cache is refused only for a file with another checksum. -/
theorem answer_readCache_error (w : World ρ) (id gen : Nat) (sha : Text) (msg : String)
    (h : (LocalOp.readCache id gen sha).answer w = .error msg) :
    ∃ b, w.store.files (LocalStore.cachePath id gen) = some b ∧ sha256Hex b ≠ sha := by
  rcases hf : w.store.files (LocalStore.cachePath id gen) with _ | b
  · simp only [LocalOp.answer, LocalStore.readCache, hf, reduceCtorEq] at h
  · refine ⟨b, rfl, fun hsha => ?_⟩
    simp only [LocalOp.answer, LocalStore.readCache, hf, hsha, ne_eq, not_true_eq_false,
      if_false, reduceCtorEq] at h

/-- The bytes under the reference of a clean object that is readable pass every
    check. -/
theorem Readable.passes (w : World ρ) (id : Nat) (h : Readable raw w id)
    (hd : w.store.dirtyObject id = none) (e : ManifestObject) (hf : w.manifest.find id = some e)
    (hz : e.zero = false) (remote : RemoteObjectRef) (sha : Text) (hr : e.remote = some remote)
    (hs : e.sha256 = some sha) (b : Bytes) (hraw : raw w.remote remote.messageId = some b) :
    sha256Hex b = sha ∧ (∃ env, ObjectEnvelope.decode b id e.generation = .ok env) ∧
      remote.objectId = id ∧ remote.generation = e.generation ∧ remote.sha256 = sha := by
  rcases h.clean hd with ⟨e', hf', hl⟩
  rw [hf, Option.some.injEq] at hf'
  rw [← hf'] at hl
  rcases hl hz with ⟨r', sha', b', env, h1, h2, h3, h4, h5, h6, h7, h8⟩
  rw [hr, Option.some.injEq] at h1
  rw [hs, Option.some.injEq] at h2
  rw [← h1, hraw, Option.some.injEq] at h3
  have hid := w.manifest.objectId_of_find id e hf
  rw [hid] at h5 h6
  exact ⟨by rw [h3, h4, h2], ⟨env, by rw [h3, h5]⟩, by rw [h1, h6], by rw [h1, h7],
    by rw [h1, h8, h2]⟩

/-- The read of a clean object that is not in the cache: the backend is asked,
    and its answer is stored. -/
theorem wp_fetchEntry (hB : Returns B raw) (dev : BlockDevice) (id : Nat) (w : World ρ)
    (hd : w.store.dirtyObject id = none) (e : ManifestObject)
    (hf : w.manifest.find id = some e) (hz : e.zero = false) (remote : RemoteObjectRef)
    (sha : Text) (hr : e.remote = some remote) (hs : e.sha256 = some sha) (b : Bytes)
    (hraw : raw w.remote remote.messageId = some b) (t : Data.Table CacheEntry.key) :
    wp (DeviceEnv B P) (do
        let encoded ← call (.fetchObject remote)
        Prog.ensure (sha256Hex encoded = sha) s!"remote checksum mismatch for object {id}"
        disk (.writeCache id e.generation encoded)
        let envelope ← decodeEnvelope encoded id e.generation
        pure (padObject envelope.payload dev.map.objectSize) : Prog deviceSig Bytes)
      (ObjectRead B P raw dev.map.objectSize id w) (CacheFill B raw w) (w.withRows t) := by
  have hfill : CacheFill B raw w (w.withRows t) := CacheFill.rowsOnly w t
  have hcontent : w.content raw dev.map.objectSize id = objectOf dev.map.objectSize b := by
    rw [w.content_clean raw _ _ hd, Manifest.content_remote _ _ _ _ e remote hf hz hr, hraw,
      Option.getD_some]
  have hlive := fun hread : Readable raw w id =>
    hread.passes w id hd e hf hz remote sha hr hs b hraw
  refine wp_call _ _ _ _ _ ?_ ?_ ?_
  · intro encoded s' hfetch
    have hasked : CacheFill B raw w { w.withRows t with remote := s' } :=
      CacheFill.trans hB _ _ _ hfill
        (CacheFill.call _ s' (Called.of_step B _ (.fetchObject remote) trivial _ _ _ hfetch))
    -- The answer is what is under the reference.
    have hsame : encoded = b := by
      have hgot := hB.fetched remote encoded _ s' hfetch
      rw [show (w.withRows t).remote = w.remote from rfl, hraw] at hgot
      exact (Option.some.inj hgot).symm
    have hraw' : raw s' remote.messageId = some b :=
      hB.called_keeps B raw _ _ _ hasked.remote _ _ hraw
    refine wp_ensure_bind _ _ _ _ _ _ (fun _ => ?_) (fun hbad => ?_)
    · have hcut := fun k => CacheFill.trans hB _ _ _ hasked
        (CacheFill.copy { w.withRows t with remote := s' } id e remote encoded hd hf hz hr
          (by rw [hsame]; exact hraw') k)
      have hstored := hcut 2
      rw [cutOff_length _ 2 (length_effects_writeCache _ id e.generation encoded)] at hstored
      -- The file is there before its bytes are decoded.
      refine wp_local _ _ _ _ _ ?_ ?_ ?_ (fun k _ => hcut k)
      · intro _ _
        refine wp_decode _ _ _ _ _ _ _ (fun env henv => ?_) (fun failure hfail => ?_)
        · refine ObjectRead.of_ok _ _ _ _ _ hstored rfl ?_
          rw [pad_decode _ _ _ _ env henv, hcontent, hsame]
        · refine ObjectRead.of_error _ _ _ _ _ hstored rfl fun _ _ hread => ?_
          rcases (hlive hread).2.1 with ⟨env, henv⟩
          rw [hsame, henv] at hfail
          exact absurd hfail (by simp only [reduceCtorEq, not_false_eq_true])
      · intro msg hrefuse
        exact absurd hrefuse (by simp only [LocalOp.answer, reduceCtorEq, not_false_eq_true])
      · intro k msg hfault
        refine ObjectRead.of_error _ _ _ _ _ (hcut k) ?_ fun hsmooth => ?_
        · refine cutOff_preserves (fun w' : World ρ => w'.locked = w.locked) _ ?_ k _ rfl
          intro f hmem w' hw'
          rcases List.mem_map.mp hmem with ⟨g, _, rfl⟩
          exact hw'
        · exact absurd hfault (hsmooth.noFault _ _ _)
    · refine ObjectRead.of_error _ _ _ _ _ hasked rfl fun _ _ hread => ?_
      rw [hsame, (hlive hread).1] at hbad
      exact absurd hbad (by simp only [decide_true, Bool.true_eq_false, not_false_eq_true])
  · intro msg s' hfetch
    refine ObjectRead.of_error _ _ _ _ _ (CacheFill.trans hB _ _ _ hfill (CacheFill.call _ s'
      (Called.of_step B _ (.fetchObject remote) trivial _ _ _ hfetch))) rfl
      fun hsmooth _ hread => ?_
    rcases hlive hread with ⟨hsha, ⟨env, henv⟩, hid, hgen, hrsha⟩
    rw [← hid, ← hgen] at henv
    rcases hsmooth.serves remote _ _ s' b env hfetch hraw henv (hsha.trans hrsha.symm)
      with ⟨b', hb'⟩
    exact absurd hb' (by simp only [reduceCtorEq, not_false_eq_true])
  · intro s' hc
    exact CacheFill.trans hB _ _ _ hfill (CacheFill.call _ s'
      (Called.of_crash B _ (.fetchObject remote) trivial _ _ hc))

/-- The read of one object that is not dirty. -/
theorem wp_readObject_entry (hB : Returns B raw) (dev : BlockDevice) (id : Nat) (w : World ρ)
    (hw : Consistent raw w) (hd : w.store.dirtyObject id = none) (e : ManifestObject)
    (hf : w.manifest.find id = some e) (hz : e.zero = false) (remote : RemoteObjectRef)
    (sha : Text) (hr : e.remote = some remote) (hs : e.sha256 = some sha) :
    wp (DeviceEnv B P) (disk (.readCache id e.generation sha) >>= fun found => match found with
      | some cached => do
          let envelope ← decodeEnvelope cached id e.generation
          pure (padObject envelope.payload dev.map.objectSize)
      | none => do
          let encoded ← call (.fetchObject remote)
          Prog.ensure (sha256Hex encoded = sha) s!"remote checksum mismatch for object {id}"
          disk (.writeCache id e.generation encoded)
          let envelope ← decodeEnvelope encoded id e.generation
          pure (padObject envelope.payload dev.map.objectSize))
      (ObjectRead B P raw dev.map.objectSize id w) (CacheFill B raw w) w := by
  rcases hw.clean id e hd hf hz with ⟨r, b, hr', hraw, hcopy⟩
  rw [hr, Option.some.injEq] at hr'
  rw [← hr'] at hraw
  have hcontent : w.content raw dev.map.objectSize id = objectOf dev.map.objectSize b := by
    rw [w.content_clean raw _ _ hd, Manifest.content_remote _ _ _ _ e remote hf hz hr, hraw,
      Option.getD_some]
  have hlive := fun hread : Readable raw w id =>
    hread.passes w id hd e hf hz remote sha hr hs b hraw
  have htouch : ∀ k, CacheFill B raw w
      (cutOff ((LocalOp.readCache id e.generation sha).effects w) k w) := by
    intro k
    rcases cutOff_readCache w id e.generation sha k with ⟨t, ht⟩
    rw [ht]
    exact CacheFill.rowsOnly w t
  refine wp_local _ _ _ _ w ?_ ?_ ?_ (fun k _ => htouch k)
  · intro a ha
    have hans := answer_readCache w id e.generation sha a ha
    rcases applyAll_readCache w id e.generation sha with ⟨t, ht⟩
    rw [ht]
    have hfill : CacheFill B raw w (w.withRows t) := CacheFill.rowsOnly w t
    rcases a with _ | cached
    · exact wp_fetchEntry hB dev id w hd e hf hz remote sha hr hs b hraw t
    · -- In the cache: the file is a copy of the remote object.
      have hsame : cached = b := hcopy cached hans.symm
      refine wp_decode _ _ _ _ _ _ _ (fun env henv => ?_) (fun failure hfail => ?_)
      · refine ObjectRead.of_ok _ _ _ _ _ hfill rfl ?_
        rw [pad_decode _ _ _ _ env henv, hcontent, hsame]
      · refine ObjectRead.of_error _ _ _ _ _ hfill rfl fun _ _ hread => ?_
        rcases (hlive hread).2.1 with ⟨env, henv⟩
        rw [hsame, henv] at hfail
        exact absurd hfail (by simp only [reduceCtorEq, not_false_eq_true])
  · intro msg hrefuse
    refine ObjectRead.of_error _ _ _ _ _ (CacheFill.refl w) rfl fun _ _ hread => ?_
    rcases answer_readCache_error w id e.generation sha msg hrefuse with ⟨b', hb', hne⟩
    rw [hcopy b' hb'] at hne
    exact hne (hlive hread).1
  · intro k msg hfault
    refine ObjectRead.of_error _ _ _ _ _ (htouch k) ?_ fun hsmooth => ?_
    · rcases cutOff_readCache w id e.generation sha k with ⟨t, ht⟩
      rw [ht]
      rfl
    · exact absurd hfault (hsmooth.noFault _ _ _)

/-- Looking at the manifest answers it, unless somebody holds the lock. -/
theorem answer_peekManifest (w : World ρ) (m : Manifest)
    (h : LocalOp.peekManifest.answer w = .ok m) : m = w.manifest ∧ w.locked = false := by
  rcases hl : w.locked with _ | _
  · simp only [LocalOp.answer, hl, Bool.false_eq_true, if_false, Except.ok.injEq] at h
    exact ⟨h.symm, rfl⟩
  · simp only [LocalOp.answer, hl, if_true, reduceCtorEq] at h

theorem answer_peekManifest_error (w : World ρ) (msg : String)
    (h : LocalOp.peekManifest.answer w = .error msg) : w.locked = true := by
  rcases hl : w.locked with _ | _
  · simp only [LocalOp.answer, hl, Bool.false_eq_true, if_false, reduceCtorEq] at h
  · rfl

/-- The read of one object, over the three places it may come from. -/
theorem wp_readObject (hB : Returns B raw) (dev : BlockDevice) (id : Nat) (w : World ρ)
    (hw : Consistent raw w) :
    wp (DeviceEnv B P) (dev.readObject id) (ObjectRead B P raw dev.map.objectSize id w)
      (CacheFill B raw w) w := by
  have hrefl : CacheFill B raw w w := CacheFill.refl w
  unfold BlockDevice.readObject
  refine wp_query (.readDirty id) _ _ _ w rfl (fun a ha => ?_) (fun msg hmsg => ?_)
    (fun k msg hfault => ?_) hrefl
  · rcases answer_readDirty w id a ha with ⟨rfl, hd⟩ | ⟨d, b, rfl, hd, hb⟩
    · -- No dirty row: the manifest says where the object is.
      refine wp_query .peekManifest _ _ _ w rfl (fun m hm => ?_) (fun msg hmsg => ?_)
        (fun k msg hfault => ?_) hrefl
      · rw [(answer_peekManifest w m hm).1]
        refine wp_ofOption_bind _ _ _ _ _ _ (fun e hf => ?_) (fun hf => ?_)
        · rcases hz : e.zero with _ | _
          · simp only [Bool.false_eq_true, if_false]
            have hentry : Readable raw w id → e.Live (raw w.remote) := by
              intro hread
              rcases hread.clean hd with ⟨e', hf', hl⟩
              rw [hf, Option.some.injEq] at hf'
              rw [← hf'] at hl
              exact hl hz
            refine wp_ofOption_bind _ _ _ _ _ _ (fun remote hr => ?_) (fun hr => ?_)
            · refine wp_ofOption_bind _ _ _ _ _ _ (fun sha hs => ?_) (fun hs => ?_)
              · exact wp_readObject_entry hB dev id w hw hd e hf hz remote sha hr hs
              · refine ObjectRead.of_error _ _ _ _ _ hrefl rfl fun _ _ hread => ?_
                rcases hentry hread with ⟨r, sha, b, env, _, h2, _⟩
                rw [hs] at h2
                exact absurd h2 (by simp only [reduceCtorEq, not_false_eq_true])
            · refine ObjectRead.of_error _ _ _ _ _ hrefl rfl fun _ _ hread => ?_
              rcases hentry hread with ⟨r, sha, b, env, h1, _⟩
              rw [hr] at h1
              exact absurd h1 (by simp only [reduceCtorEq, not_false_eq_true])
          · simp only [if_true]
            refine ObjectRead.of_ok _ _ _ _ _ hrefl rfl ?_
            rw [w.content_clean raw _ _ hd, Manifest.content_zero _ _ _ _ e hf hz]
        · refine ObjectRead.of_error _ _ _ _ _ hrefl rfl fun _ _ hread => ?_
          rcases hread.clean hd with ⟨e, hf', _⟩
          rw [hf] at hf'
          exact absurd hf' (by simp only [reduceCtorEq, not_false_eq_true])
      · refine ObjectRead.of_error _ _ _ _ _ hrefl rfl fun _ hl => ?_
        rw [answer_peekManifest_error w msg hmsg] at hl
        exact absurd hl (by simp only [Bool.true_eq_false, not_false_eq_true])
      · exact ObjectRead.of_error _ _ _ _ _ hrefl rfl fun hsmooth =>
          absurd hfault (hsmooth.noFault _ _ _)
    · -- A dirty row: its file is the object.
      have hrow : Readable raw w id → sha256Hex b = d.sha256 ∧
          ∃ env, ObjectEnvelope.decode b id d.generation = .ok env := by
        intro hread
        rcases hread.dirty d hd with ⟨b', env, hb', hsha, henv⟩
        rw [hb, Option.some.injEq] at hb'
        rw [← hb'] at hsha henv
        exact ⟨hsha, env, henv⟩
      refine wp_ensure_bind _ _ _ _ _ _ (fun _ => ?_) (fun hbad => ?_)
      · refine wp_decode _ _ _ _ _ _ _ (fun env henv => ?_) (fun failure hfail => ?_)
        · refine ObjectRead.of_ok _ _ _ _ _ hrefl rfl ?_
          rw [w.content_dirty raw _ _ d hd, hb, Option.getD_some, pad_decode _ _ _ _ env henv]
        · refine ObjectRead.of_error _ _ _ _ _ hrefl rfl fun _ _ hread => ?_
          rcases (hrow hread).2 with ⟨env, henv⟩
          rw [henv] at hfail
          exact absurd hfail (by simp only [reduceCtorEq, not_false_eq_true])
      · refine ObjectRead.of_error _ _ _ _ _ hrefl rfl fun _ _ hread => ?_
        rw [(hrow hread).1] at hbad
        exact absurd hbad (by simp only [decide_true, Bool.true_eq_false, not_false_eq_true])
  · refine ObjectRead.of_error _ _ _ _ _ hrefl rfl fun _ _ hread => ?_
    rcases answer_readDirty_error w id msg hmsg with ⟨d, hd, hf⟩
    rcases hread.dirty d hd with ⟨b, env, hb, _⟩
    rw [hf] at hb
    exact absurd hb (by simp only [reduceCtorEq, not_false_eq_true])
  · exact ObjectRead.of_error _ _ _ _ _ hrefl rfl fun hsmooth =>
      absurd hfault (hsmooth.noFault _ _ _)

/-- An entry a prefetch may ask for: that of a clean object which is not
    blank. -/
def PrefetchEntry.Wanted (w : World ρ) (p : PrefetchEntry) : Prop :=
  ∃ e, w.store.dirtyObject p.objectId = none ∧ w.manifest.find p.objectId = some e ∧
    e.zero = false ∧ e.generation = p.generation ∧ e.remote = some p.remote

omit [Crates] in
theorem PrefetchEntry.Wanted.fill (w w' : World ρ) (p : PrefetchEntry) (h : p.Wanted w)
    (hfill : CacheFill B raw w w') : p.Wanted w' := by
  rcases h with ⟨e, hd, hf, hz, hg, hr⟩
  refine ⟨e, ?_, ?_, hz, hg, hr⟩
  · rw [CacheFill.dirtyObject w w' hfill, hd]
  · rw [hfill.manifest, hf]

/-- Going through a range only touches the cache, and what it collects is
    wanted. -/
theorem wp_collectPrefetch (hB : Returns B raw) (dirtyIds : List Nat) (manifest : Manifest)
    (ids : List Nat) (w : World ρ) (hm : w.manifest = manifest)
    (hids : ∀ id, id ∉ dirtyIds → w.store.dirtyObject id = none) :
    wp (DeviceEnv B P) (BlockDevice.collectPrefetch dirtyIds manifest ids)
      (fun r w' => CacheFill B raw w w' ∧ w'.locked = w.locked ∧
        ∀ entries, r = .ok entries → ∀ p ∈ entries, p.Wanted w) (CacheFill B raw w) w := by
  induction ids generalizing w with
  | nil =>
      refine ⟨CacheFill.refl w, rfl, fun entries hentries p hp => ?_⟩
      rw [← Except.ok.inj hentries] at hp
      exact absurd hp List.not_mem_nil
  | cons id rest ih =>
      unfold BlockDevice.collectPrefetch
      by_cases hdirty : id ∈ dirtyIds
      · rw [if_pos hdirty]
        exact ih w hm hids
      · rw [if_neg hdirty]
        have hd := hids id hdirty
        rcases hf : manifest.find id with _ | e
        · refine ⟨CacheFill.refl w, rfl, fun entries hentries p hp => ?_⟩
          rw [← Except.ok.inj hentries] at hp
          exact absurd hp List.not_mem_nil
        · rcases hz : e.zero with _ | _
          · rcases hr : e.remote with _ | remote
            · simp only [hz, hr, Bool.false_eq_true, if_false]
              exact ih w hm hids
            · rcases hs : e.sha256 with _ | sha
              · simp only [hz, hr, hs, Bool.false_eq_true, if_false]
                exact ih w hm hids
              · simp only [hz, hr, hs, Bool.false_eq_true, if_false]
                -- After the look into the cache the rest starts from a filled world.
                have hnext : ∀ t, wp (DeviceEnv B P)
                    (BlockDevice.collectPrefetch dirtyIds manifest rest)
                    (fun r w' => CacheFill B raw w w' ∧ w'.locked = w.locked ∧
                      ∀ entries, r = .ok entries → ∀ p ∈ entries, p.Wanted w)
                    (CacheFill B raw w) (w.withRows t) := by
                  intro t
                  have hfill : CacheFill B raw w (w.withRows t) := CacheFill.rowsOnly w t
                  refine wp_mono _ _ _ _ _ (fun r w' hpost => ?_) (fun w' hc => ?_) _
                    (ih (w.withRows t) hm hids)
                  · exact ⟨CacheFill.trans hB _ _ _ hfill hpost.1, hpost.2.1, hpost.2.2⟩
                  · exact CacheFill.trans hB _ _ _ hfill hc
                refine wp_local _ _ _ _ w (fun a ha => ?_) (fun msg hmsg => ?_)
                  (fun k msg hfault => ?_) (fun k hc => ?_)
                · rcases applyAll_readCache w id e.generation sha with ⟨t, ht⟩
                  rw [ht]
                  rcases a with _ | cached
                  · refine wp_seq _ _ _ _ _ _ _ (hnext t) (fun entries w' hpost => ?_)
                      (fun msg w' hpost => ?_) (fun w' hc => hc)
                    · refine ⟨hpost.1, hpost.2.1, fun all hall p hp => ?_⟩
                      rw [← Except.ok.inj hall] at hp
                      rcases List.mem_cons.mp hp with rfl | hp
                      · exact ⟨e, hd, by rw [hm]; exact hf, hz, rfl, hr⟩
                      · exact hpost.2.2 entries rfl p hp
                    · exact ⟨hpost.1, hpost.2.1, fun all hall => (by cases hall)⟩
                  · exact hnext t
                · exact ⟨CacheFill.refl w, rfl, fun all hall => (by cases hall)⟩
                · rcases cutOff_readCache w id e.generation sha k with ⟨t, ht⟩
                  rw [ht]
                  exact ⟨CacheFill.rowsOnly w t, rfl, fun all hall => (by cases hall)⟩
                · rcases cutOff_readCache w id e.generation sha k with ⟨t, ht⟩
                  rw [ht]
                  exact CacheFill.rowsOnly w t
          · simp only [hz, if_true]
            exact ih w hm hids

/-- Storing a downloaded object puts a copy into the cache, if anything. -/
theorem wp_storePrefetched (w : World ρ) (p : PrefetchEntry) (encoded : Option Bytes)
    (hp : p.Wanted w) (hraw : ∀ b, encoded = some b → raw w.remote p.remote.messageId = some b) :
    wp (DeviceEnv B P) (BlockDevice.storePrefetched p encoded)
      (fun _ w' => CacheFill B raw w w' ∧ w'.locked = w.locked) (CacheFill B raw w) w := by
  have hrefl : CacheFill B raw w w := CacheFill.refl w
  rcases hp with ⟨e, hd, hf, hz, hg, hr⟩
  unfold BlockDevice.storePrefetched
  rcases encoded with _ | b
  · exact ⟨hrefl, rfl⟩
  · have hcut := fun k => CacheFill.copy (B := B) w p.objectId e p.remote b hd hf hz hr
      (hraw b rfl) k
    rw [hg] at hcut
    have hlock : ∀ k, (cutOff ((LocalOp.writeCache p.objectId p.generation b).effects w) k
        w).locked = w.locked := by
      intro k
      refine cutOff_preserves (fun w' : World ρ => w'.locked = w.locked) _ ?_ k _ rfl
      intro f hmem w' hw'
      rcases List.mem_map.mp hmem with ⟨g, _, rfl⟩
      exact hw'
    by_cases hsha : sha256Hex b ≠ p.sha256
    · simp only [hsha, ne_eq, not_false_eq_true, if_true]
      exact ⟨hrefl, rfl⟩
    · simp only [hsha, if_false]
      rcases ObjectEnvelope.decode b p.objectId p.generation with failure | env
      · exact ⟨hrefl, rfl⟩
      · refine (wp_perform (S := deviceSig) _ _ _ w).mpr ⟨fun r w' hstep => ?_, fun w' hc => ?_⟩
        · rcases hstep with hrun | ⟨k, msg, _, _, _, hw⟩
          · have hall := cutOff_length ((LocalOp.writeCache p.objectId p.generation b).effects w)
              2 (length_effects_writeCache w _ _ b) w
            rw [(Prod.mk.inj hrun).2, ← hall]
            exact ⟨hcut 2, hlock 2⟩
          · rw [hw]
            exact ⟨hcut k, hlock k⟩
        · rcases hc with ⟨k, _, hw⟩
          rw [hw]
          exact hcut k

/-- A prefetch only fills the cache, whatever becomes of it. -/
theorem wp_prefetchObjects (hB : Returns B raw) (start count : Nat) (w : World ρ) :
    wp (DeviceEnv B P) (BlockDevice.prefetchObjects start count)
      (fun _ w' => CacheFill B raw w w' ∧ w'.locked = w.locked) (CacheFill B raw w) w := by
  have hrefl : CacheFill B raw w w := CacheFill.refl w
  unfold BlockDevice.prefetchObjects
  refine wp_query .dirtyObjects _ _ _ w rfl (fun rows hrows => ?_) (fun msg _ => ⟨hrefl, rfl⟩)
    (fun k msg _ => ⟨hrefl, rfl⟩) hrefl
  have hrows' : rows = w.store.dirtyRows := (Except.ok.inj hrows).symm
  refine wp_memory .lockManifest _ _ _ w rfl (fun _ hfree => ?_) (fun msg _ => ⟨hrefl, rfl⟩)
    (fun k => CacheFill.lockCut w k)
  · have hunlocked : w.locked = false := by
      rcases hl : w.locked with _ | _
      · rfl
      · simp only [LocalOp.answer, hl, if_true, reduceCtorEq] at hfree
    have hlockd : CacheFill B raw w { w with locked := true } := CacheFill.lock w true
    refine wp_memory .getManifest _ _ _ _ rfl (fun m hm => ?_) (fun msg hmsg => by cases hmsg)
      (fun k => ?_)
    · rw [← Except.ok.inj hm]
      have hids : ∀ id, id ∉ rows.map DirtyObject.objectId → w.store.dirtyObject id = none := by
        intro id hid
        rcases hd : w.store.dirtyObject id with _ | d
        · rfl
        · have hkey := w.store.objectId_of_dirtyObject id d hd
          have hmem : d ∈ rows := by
            rw [hrows', LocalStore.mem_dirtyRows, hkey, hd]
          exact absurd (List.mem_map.mpr ⟨d, hmem, hkey⟩) hid
      refine wp_attempt_bind _ _ _ _ _ _ _ (wp_collectPrefetch hB _ _ _ { w with locked := true }
        rfl hids) (fun collected w1 hpost => ?_) (fun w' hc => ?_)
      · -- The lock is given up in every case.
        rcases hpost with ⟨hfill1, _, hwanted⟩
        have hall1 : CacheFill B raw w { w1 with locked := false } :=
          CacheFill.trans hB _ _ _ (CacheFill.trans hB _ _ _ hlockd hfill1)
            (CacheFill.lock w1 false)
        refine wp_memory .unlockManifest _ _ _ w1 rfl (fun _ _ => ?_) (fun msg hmsg => by cases hmsg)
          (fun k => CacheFill.trans hB _ _ _ (CacheFill.trans hB _ _ _ hlockd hfill1)
            (CacheFill.unlockCut w1 k))
        · refine wp_ofExcept_bind _ _ _ _ _ (fun entries hentries => ?_) (fun msg _ => ?_)
          · by_cases hempty : entries.isEmpty
            · simp only [hempty, if_true]
              exact ⟨hall1, hunlocked.symm⟩
            · simp only [hempty, if_false, Bool.false_eq_true]
              refine wp_call _ _ _ _ _ (fun messages s' hgot => ?_) (fun msg s' hfail => ?_)
                (fun s' hc => ?_)
              · have hasked : CacheFill B raw w { w1 with locked := false, remote := s' } :=
                  CacheFill.trans hB _ _ _ hall1
                    (CacheFill.call _ s' (Called.of_step B _ _ (by exact trivial) _ _ _ hgot))
                -- Each message that came is what its reference stands for.
                have hgood : ∀ p ∈ entries.zip messages,
                    p.1.Wanted { w1 with locked := false, remote := s' } ∧
                    ∀ b, p.2 = some b → raw s' p.1.remote.messageId = some b := by
                  intro p hp
                  refine ⟨?_, fun b hb => ?_⟩
                  · have hmem := (List.of_mem_zip hp).1
                    exact PrefetchEntry.Wanted.fill _ _ _ (hwanted entries hentries p.1 hmem)
                      (CacheFill.trans hB _ _ _ hfill1 (CacheFill.trans hB _ _ _
                        (CacheFill.lock w1 false)
                        (CacheFill.call _ s'
                          (Called.of_step B _ _ (by exact trivial) _ _ _ hgot))))
                  · have hpair : (p.1.remote.messageId, p.2) ∈
                        (entries.map (fun e => e.remote.messageId)).zip messages := by
                      rw [List.zip_map_left]
                      exact List.mem_map.mpr ⟨p, hp, rfl⟩
                    exact hB.keeps _ _ _ s' hgot _ _ (hB.got _ _ _ _ hgot _ hpair b hb)
                refine wp_mono _ _ _ _ _ (fun r w' hr => ?_) (fun w' hc => hc) _
                  (wp_foldlM _ _ () (fun rest _ w' => CacheFill B raw w w' ∧
                    w'.locked = w.locked ∧ ∀ p ∈ rest, p.1.Wanted w' ∧
                      ∀ b, p.2 = some b → raw w'.remote p.1.remote.messageId = some b)
                    (fun _ w' => CacheFill B raw w w' ∧ w'.locked = w.locked) _
                    (fun p rest _ w2 hI => ?_) _ ⟨hasked, hunlocked.symm, hgood⟩)
                · cases r with
                  | ok _ => exact ⟨hr.1, hr.2.1⟩
                  | error msg => exact hr
                · rcases hI with ⟨hfill2, hlock2, hgood2⟩
                  rcases hgood2 p List.mem_cons_self with ⟨hwant, hraw⟩
                  refine wp_mono _ _ _ _ _ (fun r w3 hr => ?_) (fun w' hc => ?_) _
                    (wp_storePrefetched w2 p.1 p.2 hwant hraw)
                  · have hfill3 := CacheFill.trans hB _ _ _ hfill2 hr.1
                    have hlock3 := hr.2.trans hlock2
                    cases r with
                    | ok _ =>
                        refine ⟨hfill3, hlock3, fun q hq => ?_⟩
                        rcases hgood2 q (List.mem_cons_of_mem p hq) with ⟨hwantq, hrawq⟩
                        exact ⟨PrefetchEntry.Wanted.fill _ _ _ hwantq hr.1, fun b hb =>
                          hB.called_keeps B raw _ _ _ hr.1.remote _ _ (hrawq b hb)⟩
                    | error msg => exact ⟨hfill3, hlock3⟩
                  · exact CacheFill.trans hB _ _ _ hfill2 hc
              · exact ⟨CacheFill.trans hB _ _ _ hall1
                  (CacheFill.call _ s' (Called.of_step B _ _ (by exact trivial) _ _ _ hfail)),
                  hunlocked.symm⟩
              · exact CacheFill.trans hB _ _ _ hall1
                  (CacheFill.call _ s' (Called.of_crash B _ _ (by exact trivial) _ _ hc))
          · exact ⟨hall1, hunlocked.symm⟩
      · exact CacheFill.trans hB _ _ _ hlockd hc
    · rw [show LocalOp.getManifest.effects (ρ := ρ) _ = [] from rfl, cutOff_nil]
      exact hlockd

theorem ManifestObject.Live.mono (messages messages' : Int → Option Bytes) (e : ManifestObject)
    (h : e.Live messages) (hmono : ∀ i b, messages i = some b → messages' i = some b) :
    e.Live messages' := by
  rcases h with ⟨r, sha, b, env, h1, h2, h3, h4⟩
  exact ⟨r, sha, b, env, h1, h2, hmono _ _ h3, h4⟩

/-- Filling the cache leaves readable objects readable. -/
theorem Readable.fill (hB : Returns B raw) (w w' : World ρ) (hw : Consistent raw w)
    (hfill : CacheFill B raw w w') (id : Nat) (h : Readable raw w id) : Readable raw w' id where
  dirty := by
    intro d hd
    rw [CacheFill.dirtyObject w w' hfill] at hd
    rw [CacheFill.dirtyFile w w' hfill hw id d hd]
    exact h.dirty d hd
  clean := by
    intro hd
    rw [CacheFill.dirtyObject w w' hfill] at hd
    rcases h.clean hd with ⟨e, hf, hl⟩
    refine ⟨e, by rw [hfill.manifest, hf], fun hz => ?_⟩
    exact ManifestObject.Live.mono _ _ e (hl hz)
      (fun i b => hB.called_keeps B raw _ _ _ hfill.remote i b)

/-- The outcome of reading a range: the cache may be fuller, the answer is that
    stretch of the array, and there is an answer if nothing is in the way. -/
structure RangeRead (B : Backend ρ) (P : Policy ρ) (raw : ρ → Int → Option Bytes)
    (map : BlockMap) (a : Nat → UInt8) (offset len : Nat) (w : World ρ)
    (r : Except String Bytes) (w' : World ρ) : Prop where
  fill : CacheFill B raw w w'
  locked : w'.locked = w.locked
  answer : ∀ b, r = .ok b → b = span a offset len
  answers : ∀ msg, r = .error msg → Smooth B P raw → w.locked = false → 0 < map.objectSize →
    offset + len ≤ map.deviceSize →
    ¬∀ id, id * map.objectSize < map.deviceSize → Readable raw w id

omit [Crates] in
/-- Locating an offset inside the device gives the object that covers it. -/
theorem locate_ok (map : BlockMap) (offset id o : Nat) (h : map.locate offset = .ok (id, o)) :
    offset < map.deviceSize ∧ offset = id * map.objectSize + o ∧ o < map.objectSize := by
  unfold BlockMap.locate at h
  have h1 := ite_error_eq_ok _ _ _ _ h
  have h2 := ite_error_eq_ok _ _ _ _ h1.2
  have hpair := Prod.mk.inj (Except.ok.inj h2.2)
  have hpos : 0 < map.objectSize := Nat.pos_of_ne_zero h2.1
  have hmod := Nat.mod_lt offset hpos
  have hdiv := Nat.div_add_mod offset map.objectSize
  rw [hpair.1, hpair.2, Nat.mul_comm] at hdiv
  rw [hpair.2] at hmod
  exact ⟨by omega, hdiv.symm, hmod⟩

omit [Crates] in
theorem locate_error (map : BlockMap) (offset : Nat) (msg : String)
    (h : map.locate offset = .error msg) (hpos : 0 < map.objectSize) :
    map.deviceSize ≤ offset := by
  unfold BlockMap.locate at h
  by_cases hin : map.deviceSize ≤ offset
  · exact hin
  · rw [if_neg hin, if_neg (by omega)] at h
    cases h

/-- The rounds of a read. Each takes the stretch of one object, and what is
    left is a shorter read from where it ended. -/
theorem wp_readLoop (hB : Returns B raw) (dev : BlockDevice) (a : Nat → UInt8) (rounds : Nat) :
    ∀ (cursor left : Nat) (out : Bytes) (w : World ρ), Consistent raw w →
      Shows raw dev.map.objectSize w a →
      wp (DeviceEnv B P) (dev.readLoop rounds cursor left out)
        (fun r w' => CacheFill B raw w w' ∧ w'.locked = w.locked ∧
          (∀ res, r = .ok res → res = (out ++ span a cursor left, cursor + left)) ∧
          ∀ msg, r = .error msg → Smooth B P raw → w.locked = false → 0 < dev.map.objectSize →
            cursor + left ≤ dev.map.deviceSize → left ≤ rounds →
            ¬∀ id, id * dev.map.objectSize < dev.map.deviceSize → Readable raw w id)
        (CacheFill B raw w) w := by
  induction rounds with
  | zero =>
      intro cursor left out w hw ha
      cases left with
      | zero =>
          refine ⟨CacheFill.refl w, rfl, fun res hres => ?_, fun msg hmsg => (by cases hmsg)⟩
          rw [← Except.ok.inj hres, span_zero, List.append_nil, Nat.add_zero]
      | succ left =>
          refine ⟨CacheFill.refl w, rfl, fun res hres => (by cases hres), ?_⟩
          intro _ _ _ _ _ _ hle
          omega
  | succ rounds ih =>
      intro cursor left out w hw ha
      cases left with
      | zero =>
          refine ⟨CacheFill.refl w, rfl, fun res hres => ?_, fun msg hmsg => (by cases hmsg)⟩
          rw [← Except.ok.inj hres, span_zero, List.append_nil, Nat.add_zero]
      | succ left =>
          unfold BlockDevice.readLoop
          refine wp_ofExcept_bind _ _ _ _ _ (fun loc hloc => ?_) (fun msg hmsg => ?_)
          · rcases loc with ⟨id, o⟩
            rcases locate_ok dev.map cursor id o hloc with ⟨hin, hcur, ho⟩
            have htake : o + min (left + 1) (dev.map.objectSize - o) ≤ dev.map.objectSize := by
              omega
            refine wp_seq _ _ _ _ _ _ _ (wp_readObject hB dev id w hw) (fun object w1 hr => ?_)
              (fun msg w1 hr => ?_) (fun w1 hc => hc)
            · have hw1 := CacheFill.consistent hB w w1 hr.fill hw
              have ha1 := CacheFill.shows hB _ w w1 hr.fill hw a ha
              have hobj : (object.drop o).take (min (left + 1) (dev.map.objectSize - o))
                  = span a cursor (min (left + 1) (dev.map.objectSize - o)) := by
                rw [hr.answer object rfl, ha id, take_drop_span _ _ _ _ _ htake, ← hcur]
              refine wp_mono _ _ _ _ _ (fun r w2 hpost => ?_) (fun w2 hc => ?_) _
                (ih (cursor + min (left + 1) (dev.map.objectSize - o))
                  (left + 1 - min (left + 1) (dev.map.objectSize - o)) _ w1 hw1 ha1)
              · refine ⟨CacheFill.trans hB _ _ _ hr.fill hpost.1, hpost.2.1.trans hr.locked,
                  fun res hres => ?_, ?_⟩
                · have hsplit : left + 1 = min (left + 1) (dev.map.objectSize - o) +
                      (left + 1 - min (left + 1) (dev.map.objectSize - o)) := by omega
                  rw [hpost.2.2.1 res hres, hobj, List.append_assoc, ← span_add, ← hsplit,
                    Nat.add_assoc, ← hsplit]
                · intro msg hmsg hsmooth hlock hpos hle hrounds hread
                  refine hpost.2.2.2 msg hmsg hsmooth (hr.locked.trans hlock) hpos (by omega)
                    (by omega) fun id hid => ?_
                  exact Readable.fill hB w w1 hw hr.fill id (hread id hid)
              · exact CacheFill.trans hB _ _ _ hr.fill hc
            · refine ⟨hr.fill, hr.locked, fun res hres => (by cases hres), ?_⟩
              intro _ _ hsmooth hlock _ _ _ hread
              exact hr.answers msg rfl hsmooth hlock (hread id (by omega))
          · refine ⟨CacheFill.refl w, rfl, fun res hres => (by cases hres), ?_⟩
            intro _ _ _ _ hpos hle _ _
            have hout := locate_error dev.map cursor msg hmsg hpos
            omega

/-- A read that succeeds has read its stretch of the array. -/
theorem wp_readAt (hB : Returns B raw) (dev : BlockDevice) (a : Nat → UInt8) (offset len : Nat)
    (w : World ρ) (hw : Consistent raw w) (ha : Shows raw dev.map.objectSize w a) :
    wp (DeviceEnv B P) (dev.readAt offset len) (RangeRead B P raw dev.map a offset len w)
      (CacheFill B raw w) w := by
  have hsize := dev.map.deviceSize_lt
  unfold BlockDevice.readAt
  refine wp_ofExcept_bind _ _ _ _ _ (fun stop hstop => ?_) (fun msg hmsg => ?_)
  · rcases checkedAdd_eq_ok offset len stop hstop with ⟨rfl, _⟩
    refine wp_ensure_bind _ _ _ _ _ _ (fun _ => ?_) (fun hbad => ?_)
    · refine wp_seq _ _ _ _ _ _ _ (wp_readLoop hB dev a len offset len [] w hw ha)
        (fun res w1 hr => ?_) (fun msg w1 hr => ?_) (fun w1 hc => hc)
      · have hres := hr.2.2.1 res rfl
        rw [List.nil_append] at hres
        have hdone : RangeRead B P raw dev.map a offset len w (.ok (span a offset len)) w1 :=
          { fill := hr.1
            locked := hr.2.1
            answer := fun b hb => (Except.ok.inj hb).symm
            answers := fun msg hmsg => (by cases hmsg) }
        rw [hres]
        simp only []
        by_cases hmore : offset + len < dev.map.deviceSize
        · rw [if_pos hmore]
          -- The prefetch may fill the cache further; its failure is dropped.
          have hpre : ∀ next, wp (DeviceEnv B P)
              ((BlockDevice.prefetchObjects next dev.readAheadObjects).attempt >>= fun _ =>
                pure (span a offset len))
              (RangeRead B P raw dev.map a offset len w) (CacheFill B raw w) w1 := by
            intro next
            refine wp_attempt_bind _ _ _ _ _ _ _ (wp_prefetchObjects hB next _ w1)
              (fun r w2 hp => ?_) (fun w2 hc => CacheFill.trans hB _ _ _ hr.1 hc)
            exact {
              fill := CacheFill.trans hB _ _ _ hr.1 hp.1
              locked := hp.2.trans hr.2.1
              answer := fun b hb => (Except.ok.inj hb).symm
              answers := fun msg hmsg => (by cases hmsg) }
          rcases dev.map.locate (offset + len) with msg | ⟨next, o⟩
          · exact hdone
          · cases o with
            | zero => exact hpre next
            | succ o => exact hdone
        · rw [if_neg hmore]
          exact hdone
      · refine { fill := hr.1, locked := hr.2.1, answer := fun b hb => (by cases hb), answers := ?_ }
        intro _ _ hsmooth hlock hpos hle
        exact hr.2.2.2 msg rfl hsmooth hlock hpos hle (Nat.le_refl len)
    · refine {
        fill := CacheFill.refl w
        locked := rfl
        answer := fun b hb => (by cases hb)
        answers := ?_ }
      intro _ _ _ _ _ hle
      exact absurd hle (by simpa only [decide_eq_false_iff_not] using hbad)
  · refine {
      fill := CacheFill.refl w
      locked := rfl
      answer := fun b hb => (by cases hb)
      answers := ?_ }
    intro _ _ _ _ _ hle
    unfold checkedAdd at hmsg
    rw [if_pos (by omega)] at hmsg
    cases hmsg

end TgDrive
