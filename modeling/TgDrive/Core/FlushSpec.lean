import TgDrive.Core.WriteSpec

/-!
# What Flushing Does

A flush uploads the dirty objects one by one, entering each into the manifest,
commits the manifest, and then makes it the stored one and forgets the dirty
objects. `Flushed` lists every way this can end, from any world and with any
backend, with the world it leaves. Whatever a property of a device needs to
know about a flush is read off this list and not off the program.

`Uploads` is the part before the commit: which manifest the uploads of a list
of dirty objects lead to, and through which answers of the backend.

## Main definitions

* `Uploads`: Uploading a list of dirty objects.
* `SendStopped`: A flush that ended among its uploads.
* `Committed`: The commit, if a committer is attached.
* `Flushed`: Every way a flush can end.
* `Willing`: A backend that takes what it is sent.
* `FlushReady`: A world whose dirty objects pass all checks.

## Theorems

* `find_recordUpload`: Finding after an upload.
* `Uploads.find_other`: Other objects keep their entries.
* `Uploads.find_self`: An uploaded object has its new entry.
* `wp_flush`: A flush ends in one of the listed ways.
-/

namespace TgDrive

open Data Effect

variable {ρ α : Type} [Crates] {B : Backend ρ} {P : Policy ρ} {raw : ρ → Int → Option Bytes}

/-- A dirty object whose file passes the checks of a flush. -/
structure DirtyObject.Sound (files : CachePath → Option Bytes) (d : DirtyObject) (b : Bytes) :
    Prop where
  file : files d.cachePath = some b
  decodes : ∃ env, ObjectEnvelope.decode b d.objectId d.generation = .ok env
  sha : sha256Hex b = d.sha256

/-- The upload of a dirty object whose file holds `b`. -/
abbrev DirtyObject.send (d : DirtyObject) (b : Bytes) : Call :=
  .sendObject d.objectId d.generation b (sha256Hex b)

/-- Uploading a list of dirty objects, from a manifest and a backend. -/
inductive Uploads (B : Backend ρ) (files : CachePath → Option Bytes) (m0 : Manifest) (s0 : ρ) :
    List DirtyObject → Manifest → ρ → Prop
  | none : Uploads B files m0 s0 [] m0 s0
  | next (sent : List DirtyObject) (m m' : Manifest) (s s' : ρ) (d : DirtyObject) (b : Bytes)
      (ref : RemoteObjectRef) (h : Uploads B files m0 s0 sent m s) (hd : d.Sound files b)
      (hs : B.step (d.send b) s (.ok ref) s')
      (hm : m.recordUpload d ref (sha256Hex b) = some m') :
      Uploads B files m0 s0 (sent ++ [d]) m' s'

/-- The manifest a flush starts its uploads from. -/
def World.bumped (w : World ρ) : Manifest :=
  { w.manifest with
    generation := BlockDevice.newGeneration w.store.dirtyRows (w.manifest.generation + 1) }

/-- A flush that ended among its uploads: some are entered, and the next may
    have been sent without being entered. -/
def SendStopped (B : Backend ρ) (w w' : World ρ) : Prop :=
  w'.store = w.store ∧ ∃ sent s, sent <+: w.store.dirtyRows ∧
    Uploads B w.store.files w.bumped w.remote sent w'.manifest s ∧
    (w'.remote = s ∨ ∃ d b, sent ++ [d] <+: w.store.dirtyRows ∧ d.Sound w.store.files b ∧
      ((∃ r, B.step (d.send b) s r w'.remote) ∨ B.crash (d.send b) s w'.remote))

/-- The commit of a manifest by a device. -/
abbrev BlockDevice.commit (dev : BlockDevice) (m : Manifest) : Call :=
  .commitManifest m dev.map.deviceSize dev.map.logicalSectorSize dev.map.objectSize

/-- The commit, if a committer is attached. -/
def Committed (B : Backend ρ) (dev : BlockDevice) (m : Manifest) (s s' : ρ) : Prop :=
  if dev.committer then B.step (dev.commit m) s (.ok ()) s' else s' = s

/-- Every way a flush can end. -/
inductive Flushed (B : Backend ρ) (dev : BlockDevice) (w : World ρ) :
    Outcome Unit → World ρ → Prop
  | idle (h : w.store.dirtyRows = []) : Flushed B dev w (.done (.ok ())) w
  | early (o : Outcome Unit) (w' : World ρ) (ho : o ≠ .done (.ok ()))
      (hstore : w'.store = w.store) (hmanifest : w'.manifest = w.manifest)
      (hremote : w'.remote = w.remote) : Flushed B dev w o w'
  | stopped (o : Outcome Unit) (w' : World ρ) (ho : o ≠ .done (.ok ()))
      (hrows : w.store.dirtyRows ≠ []) (h : SendStopped B w w') : Flushed B dev w o w'
  | refused (o : Outcome Unit) (w' : World ρ) (s : ρ) (ho : o ≠ .done (.ok ()))
      (hrows : w.store.dirtyRows ≠ []) (hc : dev.committer = true)
      (hup : Uploads B w.store.files w.bumped w.remote w.store.dirtyRows w'.manifest s)
      (hs : (∃ msg, B.step (dev.commit w'.manifest) s (.error msg) w'.remote) ∨
        B.crash (dev.commit w'.manifest) s w'.remote)
      (hstore : w'.store = w.store) : Flushed B dev w o w'
  | cut (o : Outcome Unit) (w' : World ρ) (s : ρ) (ho : o ≠ .done (.ok ()))
      (hrows : w.store.dirtyRows ≠ [])
      (hup : Uploads B w.store.files w.bumped w.remote w.store.dirtyRows w'.manifest s)
      (hs : Committed B dev w'.manifest s w'.remote)
      (hstore : w'.store = w.store ∨ w'.store = w.store.setManifestState w'.manifest ∨
        w'.store = (w.store.setManifestState w'.manifest).clearDirtyAndWal) :
      Flushed B dev w o w'
  | finished (w' : World ρ) (s : ρ) (hrows : w.store.dirtyRows ≠ [])
      (hup : Uploads B w.store.files w.bumped w.remote w.store.dirtyRows w'.manifest s)
      (hs : Committed B dev w'.manifest s w'.remote)
      (hstore : w'.store = (w.store.setManifestState w'.manifest).clearDirtyAndWal) :
      Flushed B dev w (.done (.ok ())) w'

omit [Crates] in
/-- Entering an upload needs an entry and changes that entry. -/
theorem recordUpload_eq_some (m m' : Manifest) (d : DirtyObject) (ref : RemoteObjectRef)
    (sha : Text) (h : m.recordUpload d ref sha = some m') :
    ∃ e, m.find d.objectId = some e ∧ m' = { m with
      objects := updateFirst d.objectId (fun e => e.uploaded d ref sha) m.objects
      garbage := m.garbage ++ e.remote.toList } := by
  unfold Manifest.recordUpload at h
  rcases hf : m.find d.objectId with _ | e
  · rw [hf] at h
    cases h
  · rw [hf] at h
    exact ⟨e, rfl, (Option.some.inj h).symm⟩

omit [Crates] in
/-- Finding after an upload was entered. -/
theorem find_recordUpload (m m' : Manifest) (d : DirtyObject) (ref : RemoteObjectRef)
    (sha : Text) (h : m.recordUpload d ref sha = some m') (id : Nat) :
    m'.find id = if id = d.objectId then (m.find id).map (fun e => e.uploaded d ref sha)
      else m.find id := by
  rcases recordUpload_eq_some m m' d ref sha h with ⟨e, _, rfl⟩
  unfold Manifest.find
  rw [find_updateFirst d.objectId (fun e => e.uploaded d ref sha) (fun _ => rfl)]
  by_cases hid : id = d.objectId
  · rw [if_pos hid, if_pos hid, hid]
  · rw [if_neg hid, if_neg hid]

omit [Crates] in
theorem map_objectId_updateFirst (id : Nat) (f : ManifestObject → ManifestObject)
    (hf : ∀ e, (f e).objectId = e.objectId) (objects : List ManifestObject) :
    (updateFirst id f objects).map ManifestObject.objectId
      = objects.map ManifestObject.objectId := by
  induction objects with
  | nil => rfl
  | cons o rest ih =>
      by_cases ho : o.objectId = id
      · rw [updateFirst, if_pos ho, List.map_cons, List.map_cons, hf]
      · rw [updateFirst, if_neg ho, List.map_cons, List.map_cons, ih]

section Uploaded

variable {files : CachePath → Option Bytes} {m0 m : Manifest} {s0 s : ρ}
  {sent : List DirtyObject}

/-- Objects that were not uploaded keep their entries. -/
theorem Uploads.find_other (h : Uploads B files m0 s0 sent m s) (id : Nat)
    (hid : ∀ d ∈ sent, d.objectId ≠ id) : m.find id = m0.find id := by
  induction h with
  | none => rfl
  | next sent m m' s s' d b ref h hd hs hm ih =>
      have hne : id ≠ d.objectId := fun hc =>
        hid d (List.mem_append_right sent List.mem_cons_self) hc.symm
      rw [find_recordUpload m m' d ref _ hm, if_neg hne]
      exact ih fun d' hd' => hid d' (List.mem_append_left [d] hd')

/-- Uploads neither add nor remove objects. -/
theorem Uploads.ids (h : Uploads B files m0 s0 sent m s) :
    m.objects.map ManifestObject.objectId = m0.objects.map ManifestObject.objectId := by
  induction h with
  | none => rfl
  | next sent m m' s s' d b ref h hd hs hm ih =>
      rcases recordUpload_eq_some m m' d ref _ hm with ⟨e, _, rfl⟩
      exact (map_objectId_updateFirst _ (fun e => e.uploaded d ref (sha256Hex b)) (fun _ => rfl)
        m.objects).trans ih

theorem Uploads.find_isSome (h : Uploads B files m0 s0 sent m s) (id : Nat) :
    (m.find id).isSome = (m0.find id).isSome := by
  induction h with
  | none => rfl
  | next sent m m' s s' d b ref h hd hs hm ih =>
      rw [find_recordUpload m m' d ref _ hm, ← ih]
      by_cases hid : id = d.objectId
      · rw [if_pos hid, Option.isSome_map]
      · rw [if_neg hid]

/-- What an upload run leaves of the backend is reached by sending. -/
theorem Uploads.called (h : Uploads B files m0 s0 sent m s) :
    Called B (fun c => ∃ d b, d ∈ sent ∧ c = DirtyObject.send d b) s0 s := by
  induction h with
  | none => exact .refl
  | next sent m m' s s' d b ref h hd hs hm ih =>
      have hbefore : Called B (fun c => ∃ d' b', d' ∈ sent ++ [d] ∧ c = DirtyObject.send d' b')
          s0 s := by
        refine Called.mono B _ _ (fun c hc => ?_) s0 s ih
        rcases hc with ⟨d', b', hd', rfl⟩
        exact ⟨d', b', List.mem_append_left [d] hd', rfl⟩
      exact .tail hbefore
        ⟨_, ⟨d, b, List.mem_append_right sent List.mem_cons_self, rfl⟩, Or.inl ⟨_, hs⟩⟩

theorem Uploads.raw_keeps (hB : Returns B raw) (h : Uploads B files m0 s0 sent m s) (i : Int)
    (b : Bytes) (hi : raw s0 i = some b) : raw s i = some b :=
  hB.called_keeps B raw _ _ _ h.called i b hi

/-- An uploaded object has an entry under its row's generation that leads to
    what its file holds. -/
theorem Uploads.find_self (hB : Returns B raw) (h : Uploads B files m0 s0 sent m s)
    (hnodup : (sent.map DirtyObject.objectId).Nodup) (d : DirtyObject) (hd : d ∈ sent) :
    ∃ b ref e0, d.Sound files b ∧ m0.find d.objectId = some e0 ∧
      m.find d.objectId = some (e0.uploaded d ref (sha256Hex b)) ∧
      raw s ref.messageId = some b ∧
      (Echoes B → ref.objectId = d.objectId ∧ ref.generation = d.generation ∧
        ref.sha256 = sha256Hex b) := by
  induction h with
  | none => exact absurd hd List.not_mem_nil
  | next sent m m' s s' d' b ref h hd' hs hm ih =>
      rw [List.map_append, List.nodup_append] at hnodup
      rcases hnodup with ⟨hn, _, hdis⟩
      rcases List.mem_append.mp hd with hold | hnew
      · -- An earlier upload, kept by the later one of another object.
        rcases ih hn hold with ⟨b0, ref0, e0, hsound, he0, hf, hraw, hecho⟩
        have hne : d.objectId ≠ d'.objectId := fun hc =>
          hdis d.objectId (List.mem_map.mpr ⟨d, hold, rfl⟩) d'.objectId
            (List.mem_map.mpr ⟨d', List.mem_cons_self, rfl⟩) hc
        refine ⟨b0, ref0, e0, hsound, he0, ?_, hB.keeps _ _ _ s' hs _ _ hraw, hecho⟩
        rw [find_recordUpload m m' d' ref _ hm, if_neg hne, hf]
      · rw [List.mem_singleton] at hnew
        rw [hnew]
        rcases recordUpload_eq_some m m' d' ref _ hm with ⟨e, he, _⟩
        have hnot : ∀ x ∈ sent, x.objectId ≠ d'.objectId := fun x hx hc =>
          hdis x.objectId (List.mem_map.mpr ⟨x, hx, rfl⟩) d'.objectId
            (List.mem_map.mpr ⟨d', List.mem_cons_self, rfl⟩) hc
        have he0 := h.find_other d'.objectId hnot
        refine ⟨b, ref, e, hd', he0 ▸ he, ?_, hB.sent _ _ _ _ ref s s' hs, fun hecho => ?_⟩
        · rw [find_recordUpload m m' d' ref _ hm, if_pos rfl, he, Option.map_some]
        · exact hecho _ _ _ _ ref s s' hs

theorem Uploads.generation (h : Uploads B files m0 s0 sent m s) :
    m.generation = m0.generation := by
  induction h with
  | none => rfl
  | next sent m m' s s' d b ref h hd hs hm ih =>
      rcases recordUpload_eq_some m m' d ref _ hm with ⟨e, _, rfl⟩
      exact ih

end Uploaded

/-- A backend that takes what a device sends it. -/
structure Willing (B : Backend ρ) (dev : BlockDevice) : Prop where
  sends : ∀ id gen b sha s r s', B.step (.sendObject id gen b sha) s r s' → ∃ ref, r = .ok ref
  commits : dev.committer = true → ∀ m x y z s r s', B.step (.commitManifest m x y z) s r s' → r = .ok ()

omit [Crates] in
/-- The memory backend takes what a device without a committer sends it. -/
theorem MemoryBackend.willing (dev : BlockDevice) (h : dev.committer = false) :
    Willing MemoryBackend.backend dev where
  sends := by
    intro id gen b sha s r s' hs
    have hrun : MemoryBackend.run (.sendObject id gen b sha) s = (r, s') := hs
    exact ⟨_, (Prod.mk.inj hrun).1.symm⟩
  commits := by
    intro hc
    rw [h] at hc
    cases hc

/-- A world whose dirty objects pass all checks of a flush. -/
structure FlushReady (w : World ρ) : Prop where
  sound : ∀ id d, w.store.dirtyObject id = some d → ∃ b, d.Sound w.store.files b
  listed : ∀ id d, w.store.dirtyObject id = some d → (w.manifest.find id).isSome = true
  nodup : (w.manifest.objects.map ManifestObject.objectId).Nodup
  generation : w.manifest.generation + 1 < 2 ^ 64

/-- Nothing gets in the way of a flush. -/
def Easy (B : Backend ρ) (P : Policy ρ) (dev : BlockDevice) (w : World ρ) : Prop :=
  (∀ l w k, ¬P.fault l w k) ∧ Willing B dev ∧ FlushReady w

/-- Uploading one dirty object. -/
theorem wp_uploadDirty (dev : BlockDevice) (w w1 : World ρ) (sent rest : List DirtyObject) (d : DirtyObject)
    (hrows : w.store.dirtyRows = sent ++ d :: rest) (hstore : w1.store = w.store)
    (hup : Uploads B w.store.files w.bumped w.remote sent w1.manifest w1.remote) :
    wp (DeviceEnv B P) (BlockDevice.uploadDirty w1.manifest d)
      (fun r w' => match r with
        | .ok m' => w'.store = w.store ∧ w'.manifest = m' ∧ w'.locked = w1.locked ∧
            Uploads B w.store.files w.bumped w.remote (sent ++ [d]) m' w'.remote
        | .error _ => SendStopped B w w' ∧ w'.locked = w1.locked ∧ ¬Easy B P dev w)
      (SendStopped B w) w1 := by
  have hpre : sent <+: w.store.dirtyRows := by
    rw [hrows]
    exact List.prefix_append sent _
  have hpre' : sent ++ [d] <+: w.store.dirtyRows := by
    rw [hrows]
    exact ⟨rest, List.append_assoc sent [d] rest⟩
  have hhere : SendStopped B w w1 := ⟨hstore, sent, w1.remote, hpre, hup, Or.inl rfl⟩
  have hmem : w.store.dirtyObject d.objectId = some d := by
    rw [← LocalStore.mem_dirtyRows, hrows]
    exact List.mem_append_right sent List.mem_cons_self
  -- A failed check means that the object was not sound.
  have hsound : Easy B P dev w → ∃ b, d.Sound w1.store.files b := by
    intro heasy
    rw [hstore]
    exact heasy.2.2.sound d.objectId d hmem
  unfold BlockDevice.uploadDirty
  refine wp_query (.readFile d.cachePath) _ _ _ w1 rfl (fun b hb => ?_) (fun msg hmsg => ?_)
    (fun k msg hfault => ⟨hhere, rfl, fun heasy => heasy.1 _ _ _ hfault⟩) hhere
  · have hfile : w1.store.files d.cachePath = some b := by
      rcases hf : w1.store.files d.cachePath with _ | b'
      · simp only [LocalOp.answer, readFileAt, hf, reduceCtorEq] at hb
      · simp only [LocalOp.answer, readFileAt, hf, Except.ok.injEq] at hb
        rw [hb]
    have hsame : ∀ b', d.Sound w1.store.files b' → b' = b := by
      intro b' hs
      have hf := hs.file
      rw [hfile, Option.some.injEq] at hf
      exact hf.symm
    refine wp_decode _ _ _ _ _ _ _ (fun env henv => ?_) (fun failure hfail => ?_)
    · refine wp_ensure_bind _ _ _ _ _ _ (fun hsha => ?_) (fun hsha => ?_)
      · simp only [decide_eq_true_eq] at hsha
        have hd : d.Sound w.store.files b :=
          { file := by rw [← hstore]; exact hfile, decodes := ⟨env, henv⟩, sha := hsha }
        refine wp_call _ _ _ _ _ (fun ref s' hs => ?_) (fun msg s' hs => ?_) (fun s' hs => ?_)
        · have hsent : SendStopped B w { w1 with remote := s' } :=
            ⟨hstore, sent, w1.remote, hpre, hup, Or.inr ⟨d, b, hpre', hd, Or.inl ⟨_, hs⟩⟩⟩
          refine wp_ofOption_bind _ _ _ _ _ _ (fun m' hm => ?_) (fun hm => ?_)
          · have hdone : Uploads B w.store.files w.bumped w.remote (sent ++ [d]) m' s' :=
              .next sent _ m' _ s' d b ref hup hd hs hm
            refine wp_memory (.setManifest m') _ _ _ _ rfl (fun _ _ => ?_)
              (fun msg hmsg => by cases hmsg) (fun k => ?_)
            · exact ⟨hstore, rfl, rfl, hdone⟩
            · cases k with
              | zero => exact hsent
              | succ k =>
                  rw [cutOff_length _ _ (Nat.succ_le_succ (Nat.zero_le k))]
                  exact ⟨hstore, sent ++ [d], s', hpre', hdone, Or.inl rfl⟩
          · refine ⟨hsent, rfl, fun heasy => ?_⟩
            have hlisted := heasy.2.2.listed d.objectId d hmem
            have hsome := hup.find_isSome d.objectId
            rw [show w.bumped.find d.objectId = w.manifest.find d.objectId from rfl, hlisted]
              at hsome
            unfold Manifest.recordUpload at hm
            rcases hf : w1.manifest.find d.objectId with _ | e
            · rw [hf] at hsome
              cases hsome
            · rw [hf] at hm
              cases hm
        · refine ⟨⟨hstore, sent, w1.remote, hpre, hup,
            Or.inr ⟨d, b, hpre', hd, Or.inl ⟨_, hs⟩⟩⟩, rfl, fun heasy => ?_⟩
          rcases heasy.2.1.sends _ _ _ _ _ _ _ hs with ⟨ref, href⟩
          cases href
        · exact ⟨hstore, sent, w1.remote, hpre, hup, Or.inr ⟨d, b, hpre', hd, Or.inr hs⟩⟩
      · refine ⟨hhere, rfl, fun heasy => ?_⟩
        rcases hsound heasy with ⟨b', hs⟩
        simp only [decide_eq_false_iff_not] at hsha
        rw [← hsame b' hs] at hsha
        exact hsha hs.sha
    · refine ⟨hhere, rfl, fun heasy => ?_⟩
      rcases hsound heasy with ⟨b', hs⟩
      rcases hs.decodes with ⟨env, henv⟩
      rw [hsame b' hs, hfail] at henv
      cases henv
  · refine ⟨hhere, rfl, fun heasy => ?_⟩
    rcases hsound heasy with ⟨b, hs⟩
    simp only [LocalOp.answer, readFileAt, hs.file, reduceCtorEq] at hmsg

/-- How far the local commit of a manifest may get. -/
theorem cutOff_commitLocal (w : World ρ) (m : Manifest) (k : Nat) :
    ∃ store, cutOff ((LocalOp.commitLocal m).effects w) k w = { w with store := store } ∧
      (store = w.store ∨ store = w.store.setManifestState m ∨
        store = (w.store.setManifestState m).clearDirtyAndWal) := by
  by_cases hn : (m.objects.map ManifestObject.objectId).Nodup
  · have heff : (LocalOp.commitLocal m).effects w
        = [onStore (LocalStore.setManifestState m), onStore LocalStore.clearDirtyAndWal] := by
      simp only [LocalOp.effects, LocalStore.replaceFromManifest]
      rw [if_pos hn]
      rfl
    rw [heff]
    rcases k with _ | _ | k
    · exact ⟨w.store, rfl, Or.inl rfl⟩
    · exact ⟨_, rfl, Or.inr (Or.inl rfl)⟩
    · rw [cutOff_length _ (k + 2) (by
        simp only [List.length_cons, List.length_nil]
        omega)]
      exact ⟨_, rfl, Or.inr (Or.inr rfl)⟩
  · have heff : (LocalOp.commitLocal m).effects w = [] := by
      simp only [LocalOp.effects, LocalStore.replaceFromManifest]
      rw [if_neg hn]
    rw [heff, cutOff_nil]
    exact ⟨w.store, rfl, Or.inl rfl⟩

/-- The local commit of a manifest that is not refused. -/
theorem applyAll_commitLocal (w : World ρ) (m : Manifest) (u : Unit)
    (h : (LocalOp.commitLocal m).answer w = .ok u) :
    applyAll ((LocalOp.commitLocal m).effects w) w
      = { w with store := (w.store.setManifestState m).clearDirtyAndWal } := by
  by_cases hn : (m.objects.map ManifestObject.objectId).Nodup
  · simp only [LocalOp.effects, LocalStore.replaceFromManifest]
    rw [if_pos hn]
    rfl
  · simp only [LocalOp.answer, LocalStore.replaceFromManifest] at h
    rw [if_neg hn] at h
    cases h

/-- The end of a flush, after its commit. -/
theorem wp_commitLocal (dev : BlockDevice) (w w1 : World ρ) (s : ρ)
    (hrows : w.store.dirtyRows ≠ []) (hstore : w1.store = w.store)
    (hup : Uploads B w.store.files w.bumped w.remote w.store.dirtyRows w1.manifest s)
    (hs : Committed B dev w1.manifest s w1.remote) :
    wp (DeviceEnv B P) (disk (.commitLocal w1.manifest))
      (fun r w' => Flushed B dev w (.done r) w' ∧ w'.locked = w1.locked ∧
        ∀ msg, r = .error msg → ¬Easy B P dev w)
      (Flushed B dev w .crashed) w1 := by
  have hcut : ∀ o k, o ≠ .done (.ok ()) → Flushed B dev w o
        (cutOff ((LocalOp.commitLocal w1.manifest).effects w1) k w1) ∧
      (cutOff ((LocalOp.commitLocal w1.manifest).effects w1) k w1).locked = w1.locked := by
    intro o k ho
    rcases cutOff_commitLocal w1 w1.manifest k with ⟨store, heq, hwhich⟩
    rw [heq]
    rw [hstore] at hwhich
    exact ⟨.cut o _ s ho hrows hup hs hwhich, rfl⟩
  refine (wp_perform (S := deviceSig) _ _ _ w1).mpr ⟨fun r w' hstep => ?_, fun w' hc => ?_⟩
  · rcases hstep with hrun | ⟨k, msg, _, hp, hr, hw'⟩
    · cases r with
      | ok u =>
          rcases LocalOp.run_ok (.commitLocal w1.manifest) w1 w' u hrun with ⟨hans, hw'⟩
          rw [applyAll_commitLocal w1 w1.manifest u hans, hstore] at hw'
          refine ⟨?_, by rw [hw'], fun msg hmsg => (by cases hmsg)⟩
          rw [hw']
          exact .finished _ s hrows hup hs rfl
      | error msg =>
          rcases LocalOp.run_error (.commitLocal w1.manifest) w1 w' msg hrun with ⟨hans, hw'⟩
          rw [hw']
          refine ⟨.cut _ _ s (fun h => by cases h) hrows hup hs (Or.inl hstore), rfl,
            fun _ _ heasy => ?_⟩
          simp only [LocalOp.answer, LocalStore.replaceFromManifest] at hans
          have hids := hup.ids
          have hnodup := heasy.2.2.nodup
          rw [if_pos (by rw [hids]; exact hnodup)] at hans
          cases hans
    · rw [hr, hw']
      rcases hcut (.done (.error msg)) k (fun h => by cases h) with ⟨hflush, hlock⟩
      exact ⟨hflush, hlock, fun _ _ heasy => heasy.1 _ _ _ hp⟩
  · rcases hc with ⟨k, _, hw'⟩
    rw [hw']
    exact (hcut .crashed k (fun h => by cases h)).1

/-- The part of a flush that holds the lock, on the dirty objects that are
    there. -/
theorem wp_flushLocked (dev : BlockDevice) (w w0 : World ρ) (hrows : w.store.dirtyRows ≠ [])
    (hstore : w0.store = w.store) (hmanifest : w0.manifest = w.manifest)
    (hremote : w0.remote = w.remote) :
    wp (DeviceEnv B P) (dev.flushLocked w.store.dirtyRows)
      (fun r w' => Flushed B dev w (.done r) w' ∧ w'.locked = w0.locked ∧
        ∀ msg, r = .error msg → ¬Easy B P dev w)
      (Flushed B dev w .crashed) w0 := by
  have hne : ∀ msg, Outcome.done (Except.error msg : Except String Unit) ≠ .done (.ok ()) :=
    fun msg h => (by cases h)
  have hearly : Flushed B dev w .crashed w0 :=
    .early _ _ (fun h => by cases h) hstore hmanifest hremote
  unfold BlockDevice.flushLocked
  refine wp_memory .getManifest _ _ _ w0 rfl (fun m hm => ?_) (fun msg hmsg => by cases hmsg)
    (fun k => ?_)
  · rw [← Except.ok.inj hm, hmanifest]
    refine wp_ofExcept_bind _ _ _ _ _ (fun fallback hfall => ?_) (fun msg hmsg => ?_)
    · rcases checkedAdd_eq_ok _ _ fallback hfall with ⟨rfl, _⟩
      refine wp_memory (.setManifest w.bumped) _ _ _ _ rfl (fun _ _ => ?_)
        (fun msg hmsg => by cases hmsg) (fun k => ?_)
      · -- The uploads, one after the other, from the bumped manifest.
        have hloop := wp_foldlM (E := DeviceEnv B P) w.store.dirtyRows BlockDevice.uploadDirty
          w.bumped
          (fun rest m w' => w'.store = w.store ∧ w'.manifest = m ∧ w'.locked = w0.locked ∧
            ∃ sent, w.store.dirtyRows = sent ++ rest ∧
              Uploads B w.store.files w.bumped w.remote sent m w'.remote)
          (fun _ w' => SendStopped B w w' ∧ w'.locked = w0.locked ∧ ¬Easy B P dev w)
          (SendStopped B w)
          (fun d rest m w1 hI => by
            rcases hI with ⟨hs1, rfl, hl1, sent, hsplit, hup⟩
            refine wp_mono _ _ _ _ _ (fun r w2 hr => ?_) (fun w2 hc => hc) _
              (wp_uploadDirty dev w w1 sent rest d hsplit hs1 hup)
            cases r with
            | ok m' =>
                rcases hr with ⟨hs2, hm2, hl2, hup2⟩
                exact ⟨hs2, hm2, hl2.trans hl1, sent ++ [d],
                  hsplit.trans (List.append_assoc sent [d] rest).symm, hup2⟩
            | error msg => exact ⟨hr.1, hr.2.1.trans hl1, hr.2.2⟩)
          { w0 with manifest := w.bumped }
          ⟨hstore, rfl, rfl, [], rfl, by
            change Uploads B w.store.files w.bumped w.remote [] w.bumped w0.remote
            rw [hremote]
            exact .none⟩
        refine wp_seq _ _ _ _ _ _ _ hloop (fun m w1 hr => ?_) (fun msg w1 hr => ?_)
          (fun w1 hc => .stopped _ _ (fun h => by cases h) hrows hc)
        · rcases hr with ⟨hs1, hm1, hl1, sent, hsplit, hup⟩
          rw [List.append_nil] at hsplit
          rw [← hsplit, ← hm1] at hup
          rw [← hm1]
          -- What is left is to store the manifest and clear the rows.
          have hafter : ∀ s', Committed B dev w1.manifest w1.remote s' →
              wp (DeviceEnv B P) (disk (.commitLocal w1.manifest))
                (fun r w' => Flushed B dev w (.done r) w' ∧ w'.locked = w0.locked ∧
                  ∀ msg, r = .error msg → ¬Easy B P dev w)
                (Flushed B dev w .crashed) { w1 with remote := s' } := by
            intro s' hcommit
            rw [← hl1]
            exact wp_commitLocal dev w { w1 with remote := s' } w1.remote hrows hs1 hup hcommit
          by_cases hc : dev.committer = true
          · rw [if_pos hc]
            refine wp_call _ _ _ _ _ (fun _ s' hs => ?_) (fun msg s' hs => ?_) (fun s' hs => ?_)
            · refine hafter s' ?_
              rw [Committed, if_pos hc]
              exact hs
            · refine ⟨.refused _ _ w1.remote (hne msg) hrows hc hup (Or.inl ⟨msg, hs⟩) hs1, hl1,
                fun _ _ heasy => ?_⟩
              have hok := heasy.2.1.commits hc _ _ _ _ _ _ _ hs
              cases hok
            · exact .refused _ _ w1.remote (fun h => by cases h) hrows hc hup (Or.inr hs) hs1
          · -- Without a committer nothing is sent.
            rw [if_neg hc]
            refine hafter w1.remote ?_
            rw [Committed, if_neg hc]
        · exact ⟨.stopped _ _ (hne msg) hrows hr.1, hr.2.1, fun _ _ => hr.2.2⟩
      · -- The process died before the uploads, with the manifest bumped or not.
        cases k with
        | zero => exact hearly
        | succ k =>
            rw [cutOff_length _ _ (Nat.succ_le_succ (Nat.zero_le k))]
            refine .stopped _ _ (fun h => by cases h) hrows ⟨hstore, [], w.remote,
              List.nil_prefix, .none, Or.inl hremote⟩
    · refine ⟨.early _ _ (hne msg) hstore hmanifest hremote, rfl, fun _ _ heasy => ?_⟩
      unfold checkedAdd at hmsg
      rw [if_pos heasy.2.2.generation] at hmsg
      cases hmsg
  · rw [show LocalOp.getManifest.effects w0 = [] from rfl, cutOff_nil]
    exact hearly

/-- The lock is not part of how a flush ended. -/
theorem Flushed.lock (dev : BlockDevice) (w w' : World ρ) (o : Outcome Unit)
    (hrows : w.store.dirtyRows ≠ []) (h : Flushed B dev w o w') (b : Bool) :
    Flushed B dev w o { w' with locked := b } := by
  cases h with
  | idle h => exact absurd h hrows
  | early _ _ ho h1 h2 h3 => exact .early _ _ ho h1 h2 h3
  | stopped _ _ ho hr h => exact .stopped _ _ ho hr h
  | refused _ _ s ho hr hc hup hs hst => exact .refused _ _ s ho hr hc hup hs hst
  | cut _ _ s ho hr hup hs hst => exact .cut _ _ s ho hr hup hs hst
  | finished _ s hr hup hs hst => exact .finished _ s hr hup hs hst

/-- A process may also die right after a flush ended. -/
theorem Flushed.crash (dev : BlockDevice) (w w' : World ρ) (o : Outcome Unit)
    (hrows : w.store.dirtyRows ≠ []) (h : Flushed B dev w o w') :
    Flushed B dev w .crashed w' := by
  cases h with
  | idle h => exact absurd h hrows
  | early _ _ ho h1 h2 h3 => exact .early _ _ (fun h => by cases h) h1 h2 h3
  | stopped _ _ ho hr h => exact .stopped _ _ (fun h => by cases h) hr h
  | refused _ _ s ho hr hc hup hs hst => exact .refused _ _ s (fun h => by cases h) hr hc hup hs hst
  | cut _ _ s ho hr hup hs hst => exact .cut _ _ s (fun h => by cases h) hr hup hs hst
  | finished _ s hr hup hs hst =>
      exact .cut _ _ s (fun h => by cases h) hr hup hs (Or.inr (Or.inr hst))

/-- A flush ends in one of the listed ways, gives the lock back, and succeeds
    if nothing gets in its way. -/
theorem wp_flush (dev : BlockDevice) (w : World ρ) :
    wp (DeviceEnv B P) dev.flush
      (fun r w' => Flushed B dev w (.done r) w' ∧ w'.locked = w.locked ∧
        ∀ msg, r = .error msg → w.locked = false → ¬Easy B P dev w)
      (Flushed B dev w .crashed) w := by
  have hearly : ∀ o, o ≠ .done (.ok ()) → Flushed B dev w o w := fun o ho =>
    .early o w ho rfl rfl rfl
  unfold BlockDevice.flush
  refine wp_query .dirtyObjects _ _ _ w rfl (fun rows hrows => ?_) (fun msg hmsg => by cases hmsg)
    (fun k msg hfault => ⟨hearly _ (fun h => by cases h), rfl, fun _ _ _ heasy =>
      heasy.1 _ _ _ hfault⟩) (hearly _ (fun h => by cases h))
  rw [← Except.ok.inj hrows]
  rcases hd : w.store.dirtyRows with _ | ⟨d, rest⟩
  · exact ⟨.idle hd, rfl, fun msg hmsg => (by cases hmsg)⟩
  · have hne : w.store.dirtyRows ≠ [] := by
      rw [hd]
      exact List.cons_ne_nil d rest
    rw [← hd]
    have hsome : w.store.dirtyRows.isEmpty = false := by
      rw [hd]
      rfl
    rw [hsome, if_neg Bool.false_ne_true]
    refine wp_memory .lockManifest _ _ _ w rfl (fun _ hfree => ?_) (fun msg hmsg => ?_)
      (fun k => ?_)
    · have hunlocked : w.locked = false := by
        rcases hl : w.locked with _ | _
        · rfl
        · simp only [LocalOp.answer, hl, if_true, reduceCtorEq] at hfree
      -- The lock goes with the function, whether it failed or not.
      refine wp_attempt_bind _ _ _ _ _ _ _ (wp_flushLocked dev w { w with locked := true } hne
        rfl rfl rfl) (fun r w1 hr => ?_) (fun w1 hc => hc)
      rcases hr with ⟨hflush, _, hno⟩
      refine wp_memory .unlockManifest _ _ _ w1 rfl (fun _ _ => ?_)
        (fun msg hmsg => by cases hmsg) (fun k => ?_)
      · rw [wp_ofExcept]
        exact ⟨Flushed.lock dev w w1 _ hne hflush false, hunlocked.symm,
          fun msg hmsg _ => hno msg hmsg⟩
      · cases k with
        | zero => exact Flushed.crash dev w w1 _ hne hflush
        | succ k =>
            rw [cutOff_length _ _ (Nat.succ_le_succ (Nat.zero_le k))]
            exact Flushed.crash dev w _ _ hne (Flushed.lock dev w w1 _ hne hflush false)
    · refine ⟨hearly _ (fun h => by cases h), rfl, fun _ _ hl => ?_⟩
      simp only [LocalOp.answer, hl, Bool.false_eq_true, if_false, reduceCtorEq] at hmsg
    · cases k with
      | zero => exact hearly _ (fun h => by cases h)
      | succ k =>
          rw [cutOff_length _ _ (Nat.succ_le_succ (Nat.zero_le k))]
          exact .early _ _ (fun h => by cases h) rfl rfl rfl

end TgDrive
