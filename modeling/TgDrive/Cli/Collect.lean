import TgDrive.Cli.Fsck
import TgDrive.Cli.Persistence
import TgDrive.Core.References
import TgDrive.Effect.Only

/-!
# Collecting Garbage

The command `gc`. It reads the stored manifest once and deletes the messages
under its garbage, a hundred at a time, with nothing that keeps a device from
being served meanwhile. So the device moves on while a collector works through
a list that was read before, and several collectors may be at work, each of
them failing or dying at any point.

A reference becomes garbage in the step that replaces it, and no step makes an
object refer to garbage again, so what was garbage of the stored manifest once
stays garbage of it, and the references in use are different ones. What is
deleted is therefore never in use, and never a superblock or a manifest, whose
messages are no references of objects.

## Main definitions

* `Channel.delete`: A channel with some of its messages gone.
* `GcOp`, `Deletion`: What a collector asks for, and what comes of it.
* `TelegramStorage.deleteMessages`, `gc`: The command.
* `Manifest.Filed`, `Filed`: References that are different and lead to
  messages about their objects.
* `Collects`: One step of one collector.
* `Tidied`: Requests, restarts and the steps of collectors.

## Theorems

* `find_delete`: What is left.
* `Filed.collected`, `Filed.ends`: What keeps references filed.
* `Tidied.filed`: They are filed in every run.
* `gc_spares`: A collector leaves the device alone.
* `gc_collects`: A collector that ends well leaves none of the garbage.
-/

namespace TgDrive

open Data Effect

namespace Channel

/-- The channel without the messages under some ids. The ids stay taken, and a
    pin on a message that is gone pins nothing. -/
def delete (c : Channel) (ids : List Int) : Channel where
  messages := c.messages.filter fun m => decide (m.id ∉ ids)
  pins := c.pins
  nextId := c.nextId
  ordered := c.ordered.sublist List.filter_sublist
  below := fun m hm => c.below m (List.mem_filter.mp hm).1
  pinsBelow := c.pinsBelow

theorem mem_delete (c : Channel) (ids : List Int) (m : Message) :
    m ∈ (c.delete ids).messages ↔ m ∈ c.messages ∧ m.id ∉ ids := by
  simp only [delete, List.mem_filter, decide_eq_true_eq]

/-- What is left is found as before. -/
theorem find_delete (c : Channel) (ids : List Int) (i : Int) :
    (c.delete ids).find i = if i ∈ ids then none else c.find i := by
  by_cases hi : i ∈ ids
  · rw [if_pos hi, find, List.find?_eq_none]
    intro m hm
    rw [mem_delete] at hm
    simp only [decide_eq_true_eq]
    intro hmi
    rw [hmi] at hm
    exact hm.2 hi
  · rw [if_neg hi]
    rcases hf : c.find i with _ | m
    · rw [find, List.find?_eq_none] at hf ⊢
      exact fun m hm => hf m ((c.mem_delete ids m).mp hm).1
    · rcases c.mem_of_find i m hf with ⟨hm, rfl⟩
      exact (c.delete ids).find_mem m ((c.mem_delete ids m).mpr ⟨hm, hi⟩)

theorem document_delete (c : Channel) (ids : List Int) (i : Int) (hi : i ∉ ids) :
    (c.delete ids).document i = c.document i := by
  rw [document, find_delete, if_neg hi, document]

end Channel

/-- What a collector asks for. A connection needs its settings. -/
inductive GcOp : Type
  | connect
  | deleteMessages (ids : List Int)

abbrev GcOp.Resp : GcOp → Type
  | .connect => Unit
  | .deleteMessages _ => Nat

abbrev gcSig : Signature := { Op := GcOp, Resp := GcOp.Resp }

/-- The ids a request is about. -/
def GcOp.asked : GcOp → List Int
  | .connect => []
  | .deleteMessages ids => ids

/-- The ids that are gone for certain after an answer. -/
def GcOp.confirmed : (e : GcOp) → Except String e.Resp → List Int
  | .deleteMessages ids, .ok _ => ids
  | _, _ => []

/-- Deleting messages. Some of those that were asked for are gone, and all of
    them if the request came back well; the count in its answer is one of
    events that nothing relies on. -/
def Deletion : Env gcSig Channel where
  step e c r c' := ∃ gone, e.confirmed r ⊆ gone ∧ gone ⊆ e.asked ∧ c' = c.delete gone
  crash e c c' := ∃ gone, gone ⊆ e.asked ∧ c' = c.delete gone

/-- A channel that carries out every request and counts what it deletes. -/
def Channel.collect : (e : GcOp) → Channel → Except String e.Resp × Channel
  | .connect, c => (.ok (), c)
  | .deleteMessages ids, c =>
      (.ok (c.messages.countP fun m => decide (m.id ∈ ids)), c.delete ids)

/-- One request of at most a hundred ids. -/
def TelegramStorage.deleteChunk (deleted : Nat) (chunk : List Int) : Prog gcSig Nat := do
  let n ← Prog.perform (S := gcSig) (.deleteMessages chunk)
  pure (deleted + n)

def TelegramStorage.deleteMessages (messageIds : List Int) : Prog gcSig Nat :=
  (chunks 100 messageIds).foldlM TelegramStorage.deleteChunk 0

section Crates

variable [Crates]

/-- The command `gc`, with the line that it prints. -/
def gc (yes : Bool) (store : LocalStore) : Prog gcSig String := do
  Prog.ensure yes "live GC deletes Telegram messages; rerun with --yes after reviewing garbage"
  let manifest ← Prog.ofExcept store.loadManifest
  let manifest ← Prog.ofOption manifest noLocalManifest
  let ids := manifest.garbage.map fun reference => reference.messageId
  if ids.isEmpty then pure "no remote garbage in current manifest"
  else do
    let _ ← Prog.perform (S := gcSig) .connect
    let deleted ← TelegramStorage.deleteMessages ids
    pure s!"deleted {deleted} remote garbage messages"

/-- The garbage of the stored manifest. -/
def LocalStore.garbage (store : LocalStore) : List RemoteObjectRef :=
  match store.loadManifest with
  | .ok (some m) => m.garbage
  | _ => []

/-- Requests that delete nothing but garbage of a store. -/
def LocalStore.Allows (store : LocalStore) (e : GcOp) : Prop :=
  ∀ i ∈ e.asked, i ∈ store.garbage.map RemoteObjectRef.messageId

/-- What a collector knows to be gone. -/
def Gone : Env gcSig (List Int) where
  step e gone r gone' := gone' = gone ++ e.confirmed r
  crash _ _ _ := True

omit [Crates] in
theorem deleteMessages_only (K : GcOp → Prop) (ids : List Int)
    (h : ∀ chunk ∈ chunks 100 ids, K (.deleteMessages chunk)) :
    (TelegramStorage.deleteMessages ids).Only K :=
  only_foldlM_mem _ _ (fun deleted chunk hc =>
    only_bind _ _ (only_perform (S := gcSig) _ (h chunk hc)) fun n =>
      (show (Prog.pure (deleted + n) : Prog gcSig Nat).Only K from trivial)) 0

/-- A collector deletes nothing but garbage. -/
theorem gc_only (yes : Bool) (store : LocalStore) : (gc yes store).Only store.Allows := by
  unfold gc
  refine only_bind _ _ (only_ensure _ _) fun _ => ?_
  rcases hload : store.loadManifest with msg | m
  · exact trivial
  · rcases m with _ | m
    · exact trivial
    · have hgarbage : store.garbage = m.garbage := by
        simp only [LocalStore.garbage, hload]
      by_cases hempty : (m.garbage.map fun reference => reference.messageId).isEmpty = true
      · refine (congrArg (Prog.Only (S := gcSig) store.Allows) (if_pos hempty)).mpr ?_
        exact trivial
      · refine (congrArg (Prog.Only (S := gcSig) store.Allows) (if_neg hempty)).mpr ?_
        refine only_bind _ _ (only_perform (S := gcSig) _ fun i hi => absurd hi List.not_mem_nil)
          fun _ => only_bind _ _ (deleteMessages_only _ _ fun chunk hc i hi => ?_)
            fun _ => trivial
        rw [hgarbage, ← flatten_chunks 100 (by decide) (m.garbage.map _)]
        exact List.mem_flatten.mpr ⟨chunk, hc, hi⟩

omit [Crates] in
/-- What is gone after all chunks were deleted. -/
theorem wp_deleteMessages (ids gone : List Int) :
    wp Gone (TelegramStorage.deleteMessages ids)
      (fun r gone' => r.isOk = true → gone' = gone ++ ids) (fun _ => True) gone := by
  refine wp_mono _ _ _ _ _ (fun r s hr => ?_) (fun _ h => h) _
    (wp_foldlM (chunks 100 ids) _ 0
      (fun rest _ gone' => gone' ++ rest.flatten = gone ++ ids) (fun _ _ => True) _
      (fun chunk rest deleted s hs => ?_) gone ?_)
  · cases r with
    | ok n => exact fun _ => by simpa only [List.flatten_nil, List.append_nil] using hr
    | error msg => exact fun h => by cases h
  · unfold TelegramStorage.deleteChunk
    rw [wp_perform_bind]
    refine ⟨fun n s' hstep => ?_, fun _ _ _ => trivial, fun _ _ => trivial⟩
    rw [show s' = s ++ chunk from hstep]
    rw [List.flatten_cons, ← List.append_assoc] at hs
    exact hs
  · rw [flatten_chunks 100 (by decide)]

/-- A collector that ends well has deleted all of the garbage. -/
theorem wp_gc (yes : Bool) (store : LocalStore) :
    wp Gone (gc yes store) (fun r gone => r.isOk = true →
      ∀ ref ∈ store.garbage, ref.messageId ∈ gone) (fun _ => True) [] := by
  unfold gc
  refine wp_ensure_bind _ _ _ _ _ _ (fun _ => ?_) fun _ h => by cases h
  refine wp_ofExcept_bind _ _ _ _ _ (fun m hload => ?_) fun _ _ h => by cases h
  refine wp_ofOption_bind _ _ _ _ _ _ (fun m' hm => ?_) fun _ h => by cases h
  rw [hm] at hload
  have hgarbage : store.garbage = m'.garbage := by
    simp only [LocalStore.garbage, hload]
  rw [hgarbage]
  by_cases hempty : (m'.garbage.map fun reference => reference.messageId).isEmpty = true
  · refine (congrArg (fun p => wp Gone p _ _ []) (if_pos hempty)).mpr ?_
    intro _ ref href
    rw [List.isEmpty_iff, List.map_eq_nil_iff] at hempty
    rw [hempty] at href
    cases href
  · refine (congrArg (fun p => wp Gone p _ _ []) (if_neg hempty)).mpr ?_
    rw [wp_perform_bind]
    refine ⟨fun _ gone' hstep => ?_, fun _ _ _ h => (by cases h), fun _ _ => trivial⟩
    rw [show gone' = [] from hstep]
    refine wp_seq _ _ _ _ _ _ _ (wp_deleteMessages _ []) (fun n gone' hgone => ?_)
      (fun _ _ _ h => by cases h) fun _ h => h
    intro _ ref href
    rw [hgone rfl, List.nil_append]
    exact List.mem_map_of_mem href

/-- A reference of an object of the device, under an id that was given out.
    The message, if it is still there, says what it is. -/
structure RemoteObjectRef.Placed (map : BlockMap) (c : Channel) (r : RemoteObjectRef) : Prop where
  object : r.objectId < map.objectCount
  below : r.messageId < c.nextId
  labelled : ∀ m, c.find r.messageId = some m →
    m.text = caption r.objectId r.generation r.sha256

/-- The references of a manifest are different and placed. -/
structure Manifest.Filed (map : BlockMap) (c : Channel) (m : Manifest) : Prop where
  distinct : (m.references.map RemoteObjectRef.messageId).Nodup
  placed : ∀ r ∈ m.references, r.Placed map c

section Manifests

variable {map : BlockMap} {c c' : Channel} {m : Manifest}

omit [Crates] in
theorem Manifest.Filed.grows (h : m.Filed map c) (hg : c.Grows c') : m.Filed map c' where
  distinct := h.distinct
  placed := fun r hr => {
    object := (h.placed r hr).object
    below := Int.lt_of_lt_of_le (h.placed r hr).below hg.nextId
    labelled := fun x hx => by
      rw [hg.find_old c c' _ (h.placed r hr).below] at hx
      exact (h.placed r hr).labelled x hx }

omit [Crates] in
theorem Manifest.Filed.delete (h : m.Filed map c) (ids : List Int) :
    m.Filed map (c.delete ids) where
  distinct := h.distinct
  placed := fun r hr => {
    object := (h.placed r hr).object
    below := (h.placed r hr).below
    labelled := fun x hx => by
      rw [Channel.find_delete] at hx
      by_cases hi : r.messageId ∈ ids
      · rw [if_pos hi] at hx
        cases hx
      · rw [if_neg hi] at hx
        exact (h.placed r hr).labelled x hx }

omit [Crates] in
/-- A reference in use is not one of the garbage. -/
theorem Manifest.Filed.apart (h : m.Filed map c) (e : ManifestObject) (r g : RemoteObjectRef)
    (he : e ∈ m.objects) (hr : e.remote = some r) (hg : g ∈ m.garbage) :
    r.messageId ≠ g.messageId := by
  have hlive : r ∈ m.liveReferences := List.mem_filterMap.mpr ⟨e, he, hr⟩
  have hdistinct := h.distinct
  rw [Manifest.references, List.map_append, List.nodup_append] at hdistinct
  exact hdistinct.2.2 _ (List.mem_map_of_mem hlive) _ (List.mem_map_of_mem hg)

/-- Uploads keep the references filed and drop no garbage: each of them gets an
    id above all others. -/
theorem Uploads.filed (storage : TelegramStorage) (files : CachePath → Option Bytes)
    (m0 : Manifest) (c0 : Channel) (sent : List DirtyObject)
    (h : Uploads storage.backend files m0 c0 sent m c)
    (hsent : ∀ d ∈ sent, d.objectId < map.objectCount) (h0 : m0.Filed map c0) :
    m.Filed map c ∧ m0.garbage ⊆ m.garbage := by
  induction h with
  | none => exact ⟨h0, fun _ hr => hr⟩
  | next sent m m' c c' d b ref _ _ hs hm ih =>
      rcases ih fun x hx => hsent x (List.mem_append_left _ hx) with ⟨hfiled, hgarbage⟩
      rcases wp_done _ _ _ _ _ _ (wp_sendObject storage _ _ _ _ c) hs with ⟨gap, rfl, rfl, _⟩
      have hnew : (storage.refAt c gap d.objectId d.generation (sha256Hex b)).messageId
          = c.nextId + gap := rfl
      have hperm := references_recordUpload m m' d _ _ hm
      have hgrown := hfiled.grows (Channel.Quiet.sent c gap d.objectId d.generation b
        (sha256Hex b)).grows
      refine ⟨⟨?_, fun r hr => ?_⟩, fun r hr => ?_⟩
      · rw [(hperm.map _).nodup_iff, List.map_append, List.nodup_append]
        refine ⟨hfiled.distinct, List.nodup_singleton _, fun i hi j hj => ?_⟩
        rcases List.mem_map.mp hi with ⟨r, hr, rfl⟩
        have hbelow := (hfiled.placed r hr).below
        rw [List.map_singleton, List.mem_singleton, hnew] at hj
        omega
      · rcases List.mem_append.mp (hperm.mem_iff.mp hr) with hold | hone
        · exact hgrown.placed r hold
        · rw [List.mem_singleton.mp hone]
          refine ⟨hsent d (List.mem_append_right _ (List.mem_singleton_self d)), ?_, fun x hx => ?_⟩
          · rw [hnew]
            change c.nextId + gap < c.nextId + gap + 1
            omega
          · rw [hnew, Channel.sent, Channel.find_post, Option.some.injEq] at hx
            rw [← hx]
            rfl
      · rcases recordUpload_eq_some m m' d _ _ hm with ⟨e, _, rfl⟩
        exact List.mem_append_left _ (hgarbage hr)

end Manifests

/-- A device that can be opened again, with the references of both its
    manifests filed, and nothing in the garbage of the stored one that is not
    in that of the other. -/
structure Filed (map : BlockMap) (w : World Channel) : Prop where
  durable : Durable Channel.document map w
  manifest : w.manifest.Filed map w.remote
  stored : ∀ m, w.store.loadManifest = .ok (some m) →
    m.Filed map w.remote ∧ m.garbage ⊆ w.manifest.garbage

namespace Filed

variable {map : BlockMap} {w w' : World Channel}

theorem garbage_stored (h : Filed map w) : w.store.garbage ⊆ w.manifest.garbage := by
  rcases h.durable.stored with ⟨m, hload, _⟩
  have hgarbage : w.store.garbage = m.garbage := by
    simp only [LocalStore.garbage, hload]
  rw [hgarbage]
  exact (h.stored m hload).2

/-- A step that lets the channel and the garbage grow, and leaves the stored
    manifest alone or puts the one in memory in its place. -/
theorem moved (h : Filed map w) (hdur : Durable Channel.document map w')
    (hgrows : w.remote.Grows w'.remote) (hm : w'.manifest.Filed map w'.remote)
    (hgarbage : w.manifest.garbage ⊆ w'.manifest.garbage)
    (hstate : w'.store.loadManifest = w.store.loadManifest ∨
      w'.store.loadManifest = .ok (some w'.manifest)) :
    Filed map w' ∧ w.store.garbage ⊆ w'.store.garbage := by
  rcases hstate with hload | hput
  · refine ⟨⟨hdur, hm, fun m hm => ?_⟩, ?_⟩
    · rw [hload] at hm
      exact ⟨(h.stored m hm).1.grows hgrows, fun r hr => hgarbage ((h.stored m hm).2 hr)⟩
    · intro r hr
      rw [LocalStore.garbage, hload]
      exact hr
  · refine ⟨⟨hdur, hm, fun m hload => ?_⟩, fun r hr => ?_⟩
    · rw [hput, Except.ok.injEq, Option.some.injEq] at hload
      rw [← hload]
      exact ⟨hm, fun r hr => hr⟩
    · have hnew : w'.store.garbage = w'.manifest.garbage := by
        simp only [LocalStore.garbage, hput]
      rw [hnew]
      exact hgarbage (h.garbage_stored hr)

variable (storage : TelegramStorage) (dev : BlockDevice) (hsize : 0 < dev.map.objectSize)

include hsize

/-- However a flush ends, its manifest is filed and no garbage is dropped. -/
theorem flushed (h : Filed dev.map w) (o : Outcome Unit)
    (hflush : Flushed storage.backend dev w o w') :
    w'.manifest.Filed dev.map w'.remote ∧ w.manifest.garbage ⊆ w'.manifest.garbage := by
  have hrows : ∀ d ∈ w.store.dirtyRows, d.objectId < dev.map.objectCount := fun d hd =>
    lt_objectCount dev.map d.objectId
      (h.durable.rows d.objectId d ((LocalStore.mem_dirtyRows _ _).mp hd)).1 hsize
  -- The uploads that were entered, and what was sent after them.
  have hsent : ∀ sent s, sent <+: w.store.dirtyRows →
      Uploads storage.backend w.store.files w.bumped w.remote sent w'.manifest s →
      s.Grows w'.remote →
      w'.manifest.Filed dev.map w'.remote ∧ w.manifest.garbage ⊆ w'.manifest.garbage := by
    intro sent s hpre hup hgrows
    rcases hup.filed storage _ _ _ _ (fun d hd => hrows d (hpre.subset hd))
      (show w.bumped.Filed dev.map w.remote from ⟨h.manifest.distinct, h.manifest.placed⟩) with
      ⟨hfiled, hgarbage⟩
    exact ⟨hfiled.grows hgrows, hgarbage⟩
  have hcommitted : ∀ s, Committed storage.backend dev w'.manifest s w'.remote →
      s.Grows w'.remote := by
    intro s hs
    unfold Committed at hs
    split at hs
    · exact exec_grows _ _ _ _ hs
    · rw [hs]
      exact Channel.Grows.refl s
  cases hflush with
  | idle _ => exact ⟨h.manifest, fun _ hr => hr⟩
  | early _ _ _ _ hmanifest hremote =>
      rw [hmanifest, hremote]
      exact ⟨h.manifest, fun _ hr => hr⟩
  | stopped _ _ _ _ hstop =>
      rcases hstop with ⟨_, sent, s, hpre, hup, hs⟩
      refine hsent sent s hpre hup ?_
      rcases hs with hs | ⟨d, b, _, _, ⟨r, hs⟩ | hs⟩
      · rw [hs]
        exact Channel.Grows.refl s
      · exact exec_grows _ _ _ _ hs
      · exact exec_grows _ _ _ _ hs
  | refused _ _ s _ _ _ hup hs _ =>
      refine hsent _ s (List.prefix_refl _) hup ?_
      rcases hs with ⟨msg, hs⟩ | hs
      · exact exec_grows _ _ _ _ hs
      · exact exec_grows _ _ _ _ hs
  | cut _ _ s _ _ hup hs _ => exact hsent _ s (List.prefix_refl _) hup (hcommitted s hs)
  | finished _ s _ hup hs _ => exact hsent _ s (List.prefix_refl _) hup (hcommitted s hs)

/-- However a request ends, the references stay filed and what was garbage of
    the stored manifest stays that. -/
theorem ends (h : Filed dev.map w) (req : Request) (o : Outcome Unit)
    (hreq : Exec (DeviceEnv storage.backend Policy.sparing) (req.program dev) w o w') :
    Filed dev.map w' ∧ w.store.garbage ⊆ w'.store.garbage := by
  have hdur := (Request.ends (returns_storage storage) (echoes_storage storage) careful_sparing dev
    hsize req o w w' hreq h.durable _ (shows_array Channel.document dev.map.objectSize w)).1
  have hgrows := device_grows storage _ _ o w w' hreq
  rcases request_steps storage dev req o w w' h.durable.consistent hreq with hwrote | hflush
  · have hmark := hwrote.marking storage dev w w'
    refine h.moved hdur hgrows ?_ ?_ (Or.inl (LocalStore.loadManifest_congr _ _ hmark.state))
    · rw [hmark.manifest, hmark.remote]
      exact h.manifest
    · rw [hmark.manifest]
      exact fun _ hr => hr
  · rcases h.flushed storage dev hsize o hflush with ⟨hfiled, hgarbage⟩
    exact h.moved hdur hgrows hfiled hgarbage
      ((hflush.stored dev w w' o).imp And.left id)

omit hsize in
/-- A restart goes back to the stored manifest. -/
theorem reopened (h : Filed map w) (hopen : w.reopen = .ok w') :
    Filed map w' ∧ w'.store = w.store ∧ w'.remote = w.remote := by
  rcases h.durable.reopen with ⟨w2, hw2, hdur, _, _⟩
  rw [hw2, Except.ok.injEq] at hopen
  subst hopen
  rcases h.durable.stored with ⟨m, hload, _⟩
  rw [World.reopen, hload, Except.ok.injEq] at hw2
  subst hw2
  refine ⟨⟨hdur, (h.stored m hload).1, fun m' hload' => ?_⟩, rfl, rfl⟩
  have hsame : m' = m := by
    rw [show w.store.loadManifest = .ok (some m') from hload'] at hload
    exact Option.some.inj (Except.ok.inj hload)
  rw [hsame]
  exact ⟨(h.stored m hload).1, fun _ hr => hr⟩

omit hsize in
/-- Deleting garbage of the stored manifest touches nothing in use. -/
theorem collected (h : Filed map w) (gone : List Int)
    (hgone : ∀ i ∈ gone, i ∈ w.store.garbage.map RemoteObjectRef.messageId) :
    Filed map { w with remote := w.remote.delete gone } ∧ ∀ objectSize id,
      World.content Channel.document objectSize { w with remote := w.remote.delete gone } id
        = w.content Channel.document objectSize id := by
  -- The document an entry refers to is still there.
  have hkept : ∀ id e r, w.manifest.find id = some e → e.remote = some r →
      (w.remote.delete gone).document r.messageId = w.remote.document r.messageId := by
    intro id e r hf hr
    refine Channel.document_delete _ _ _ fun hi => ?_
    rcases List.mem_map.mp (hgone _ hi) with ⟨g, hg, heq⟩
    exact h.manifest.apart e r g (w.manifest.mem_of_find id e hf) hr (h.garbage_stored hg) heq.symm
  refine ⟨⟨{
    consistent := ⟨h.durable.consistent.path, fun id e hd hf hz => ?_⟩
    rows := h.durable.rows
    live := fun id e hd hf hz => ?_
    ids := h.durable.ids
    stored := h.durable.stored }, h.manifest.delete gone, fun m hload => ?_⟩,
    fun objectSize id => ?_⟩
  · rcases h.durable.consistent.clean id e hd hf hz with ⟨r, b, hr, hraw, hcopy⟩
    exact ⟨r, b, hr, (hkept id e r hf hr).trans hraw, hcopy⟩
  · rcases h.durable.live id e hd hf hz with ⟨r, sha, b, env, hr, hsha, hraw, hrest⟩
    exact ⟨r, sha, b, env, hr, hsha, (hkept id e r hf hr).trans hraw, hrest⟩
  · exact ⟨(h.stored m hload).1.delete gone, (h.stored m hload).2⟩
  · unfold World.content
    cases w.store.dirtyObject id with
    | some d => rfl
    | none =>
        change w.manifest.content (w.remote.delete gone).document objectSize id
          = w.manifest.content w.remote.document objectSize id
        rcases hf : w.manifest.find id with _ | e
        · rw [Manifest.content_none _ _ _ _ hf, Manifest.content_none _ _ _ _ hf]
        · rcases hz : e.zero with _ | _
          · rcases hr : e.remote with _ | r
            · rw [Manifest.content_unsent _ _ _ _ e hf hz hr,
                Manifest.content_unsent _ _ _ _ e hf hz hr]
            · rw [Manifest.content_remote _ _ _ _ e r hf hz hr,
                Manifest.content_remote _ _ _ _ e r hf hz hr, hkept id e r hf hr]
          · rw [Manifest.content_zero _ _ _ _ e hf hz, Manifest.content_zero _ _ _ _ e hf hz]

end Filed

/-- A collector at work: the store that it read, and what it still does. -/
abbrev Collector := LocalStore × Prog gcSig String

/-- One step of one collector, which may be its last because it dies. -/
inductive Collects : Channel → List Collector → Channel → List Collector → Prop
  | turn (before after : List Collector) (s : LocalStore) (e : GcOp)
      (k : Except String e.Resp → Prog gcSig String) (c c' : Channel) (r : Except String e.Resp)
      (h : Deletion.step e c r c') :
      Collects c (before ++ (s, .op e k) :: after) c' (before ++ (s, k r) :: after)
  | died (before after : List Collector) (s : LocalStore) (e : GcOp)
      (k : Except String e.Resp → Prog gcSig String) (c c' : Channel)
      (h : Deletion.crash e c c') :
      Collects c (before ++ (s, .op e k) :: after) c' (before ++ after)

/-- Requests that end in any way, restarts, collectors that begin, each with
    the store as it is then, and steps of those at work. -/
inductive Tidied (storage : TelegramStorage) (dev : BlockDevice) (w0 : World Channel) :
    World Channel → List Collector → Prop
  | start : Tidied storage dev w0 w0 []
  | next (w w' : World Channel) (gcs : List Collector) (req : Request) (r : Except String Unit)
      (h : Tidied storage dev w0 w gcs)
      (hreq : Exec (DeviceEnv storage.backend Policy.sparing) (req.program dev) w (.done r) w') :
      Tidied storage dev w0 w' gcs
  | restart (w w' w'' : World Channel) (gcs : List Collector) (req : Request) (o : Outcome Unit)
      (h : Tidied storage dev w0 w gcs)
      (hreq : Exec (DeviceEnv storage.backend Policy.sparing) (req.program dev) w o w')
      (hopen : w'.reopen = .ok w'') : Tidied storage dev w0 w'' gcs
  | begin (w : World Channel) (gcs : List Collector) (yes : Bool)
      (h : Tidied storage dev w0 w gcs) :
      Tidied storage dev w0 w ((w.store, gc yes w.store) :: gcs)
  | collect (w : World Channel) (gcs gcs' : List Collector) (c : Channel)
      (h : Tidied storage dev w0 w gcs) (hc : Collects w.remote gcs c gcs') :
      Tidied storage dev w0 { w with remote := c } gcs'

/-- What is true of a collector at work: what it read as garbage is garbage
    still, it deletes nothing else, and it ends well only when all of it is
    gone. -/
structure Collector.Sound (w : World Channel) (g : Collector) : Prop where
  stored : g.1.garbage ⊆ w.store.garbage
  only : g.2.Only g.1.Allows
  gone : ∃ ids, (∀ i ∈ ids, i < w.remote.nextId ∧ w.remote.find i = none) ∧
    wp Gone g.2 (fun r ids' => r.isOk = true → ∀ ref ∈ g.1.garbage, ref.messageId ∈ ids')
      (fun _ => True) ids

namespace Collector

variable {w w' : World Channel} {g : Collector}

theorem Sound.begin (w : World Channel) (yes : Bool) : Sound w (w.store, gc yes w.store) where
  stored := fun _ hr => hr
  only := gc_only yes w.store
  gone := ⟨[], fun _ hi => absurd hi List.not_mem_nil, wp_gc yes w.store⟩

/-- What a device does meanwhile is of no concern to a collector. -/
theorem Sound.moved (h : g.Sound w) (hgrows : w.remote.Grows w'.remote)
    (hgarbage : w.store.garbage ⊆ w'.store.garbage) : g.Sound w' where
  stored := fun _ hr => hgarbage (h.stored hr)
  only := h.only
  gone := by
    rcases h.gone with ⟨ids, hids, hwp⟩
    refine ⟨ids, fun i hi => ⟨Int.lt_of_lt_of_le (hids i hi).1 hgrows.nextId, ?_⟩, hwp⟩
    rw [hgrows.find_old _ _ i (hids i hi).1]
    exact (hids i hi).2

/-- What another collector deletes is of no concern either. -/
theorem Sound.deleted (h : g.Sound w) (gone : List Int) :
    g.Sound { w with remote := w.remote.delete gone } where
  stored := h.stored
  only := h.only
  gone := by
    rcases h.gone with ⟨ids, hids, hwp⟩
    refine ⟨ids, fun i hi => ⟨(hids i hi).1, ?_⟩, hwp⟩
    rw [Channel.find_delete, (hids i hi).2, ite_self]

omit [Crates] in
theorem confirmed_asked (e : GcOp) (r : Except String e.Resp) : e.confirmed r ⊆ e.asked := by
  cases e with
  | connect => exact fun _ hi => absurd hi List.not_mem_nil
  | deleteMessages ids =>
      cases r with
      | ok n => exact fun _ hi => hi
      | error msg => exact fun _ hi => absurd hi List.not_mem_nil

/-- A step of the collector itself. -/
theorem Sound.turn {map : BlockMap} {s : LocalStore} {e : GcOp}
    {k : Except String e.Resp → Prog gcSig String} (hw : Filed map w)
    (h : Sound w (s, .op e k)) (r : Except String e.Resp) (gone : List Int)
    (hgone : e.confirmed r ⊆ gone) : Sound { w with remote := w.remote.delete gone } (s, k r) where
  stored := h.stored
  only := h.only.2 r
  gone := by
    rcases h.gone with ⟨ids, hids, hwp⟩
    refine ⟨ids ++ e.confirmed r, fun i hi => ?_, hwp.1 r _ rfl⟩
    rcases List.mem_append.mp hi with hold | hnew
    · refine ⟨(hids i hold).1, ?_⟩
      rw [Channel.find_delete, (hids i hold).2, ite_self]
    · -- It is garbage of the store, and so its id was given out.
      rcases List.mem_map.mp (h.only.1 i (confirmed_asked e r hnew)) with ⟨ref, href, rfl⟩
      have hin := hw.garbage_stored (h.stored href)
      refine ⟨(hw.manifest.placed ref (List.mem_append_right _ hin)).below, ?_⟩
      rw [Channel.find_delete, if_pos (hgone hnew)]

end Collector

/-- A step of a collector deletes garbage of the store. -/
theorem Collects.deletes (w : World Channel) (gcs gcs' : List Collector) (c : Channel)
    (hsound : ∀ g ∈ gcs, g.Sound w) (h : Collects w.remote gcs c gcs') :
    ∃ gone, c = w.remote.delete gone ∧
      ∀ i ∈ gone, i ∈ w.store.garbage.map RemoteObjectRef.messageId := by
  have hallowed : ∀ before after : List Collector, ∀ s e k gone,
      (∀ g ∈ before ++ (s, .op e k) :: after, g.Sound w) → gone ⊆ e.asked →
      ∀ i ∈ gone, i ∈ w.store.garbage.map RemoteObjectRef.messageId := by
    intro before after s e k gone hall hasked i hi
    have hg := hall (s, .op e k) (List.mem_append_right _ List.mem_cons_self)
    exact List.map_subset _ hg.stored (hg.only.1 i (hasked hi))
  cases h with
  | turn before after s e k _ _ r hstep =>
      rcases hstep with ⟨gone, _, hasked, rfl⟩
      exact ⟨gone, rfl, hallowed before after s e k gone hsound hasked⟩
  | died before after s e k _ _ hcrash =>
      rcases hcrash with ⟨gone, hasked, rfl⟩
      exact ⟨gone, rfl, hallowed before after s e k gone hsound hasked⟩

/-- A step of a collector keeps all of them as they should be. -/
theorem Collects.sound {map : BlockMap} (w : World Channel) (hw : Filed map w)
    (gcs gcs' : List Collector) (c : Channel) (hsound : ∀ g ∈ gcs, g.Sound w)
    (h : Collects w.remote gcs c gcs') : ∀ g ∈ gcs', g.Sound { w with remote := c } := by
  cases h with
  | turn before after s e k _ _ r hstep =>
      rcases hstep with ⟨gone, hconfirmed, _, rfl⟩
      intro g hg
      rcases List.mem_append.mp hg with hb | ha
      · exact (hsound g (List.mem_append_left _ hb)).deleted gone
      · rcases List.mem_cons.mp ha with rfl | ha
        · exact (hsound _ (List.mem_append_right _ List.mem_cons_self)).turn hw r gone hconfirmed
        · exact (hsound g (List.mem_append_right _ (List.mem_cons_of_mem _ ha))).deleted gone
  | died before after s e k _ _ hcrash =>
      rcases hcrash with ⟨gone, _, rfl⟩
      intro g hg
      rcases List.mem_append.mp hg with hb | ha
      · exact (hsound g (List.mem_append_left _ hb)).deleted gone
      · exact (hsound g (List.mem_append_right _ (List.mem_cons_of_mem _ ha))).deleted gone

section Runs

variable (storage : TelegramStorage) (dev : BlockDevice) (hsize : 0 < dev.map.objectSize)

include hsize

/-- In every run the references are filed and the collectors are as they should
    be. -/
theorem Tidied.filed (w0 w : World Channel) (gcs : List Collector) (h0 : Filed dev.map w0)
    (h : Tidied storage dev w0 w gcs) : Filed dev.map w ∧ ∀ g ∈ gcs, g.Sound w := by
  induction h with
  | start => exact ⟨h0, fun _ hg => absurd hg List.not_mem_nil⟩
  | next w w' gcs req r _ hreq ih =>
      rcases ih.1.ends storage dev hsize req _ hreq with ⟨hfiled, hgarbage⟩
      exact ⟨hfiled, fun g hg =>
        (ih.2 g hg).moved (device_grows storage _ _ _ w w' hreq) hgarbage⟩
  | restart w w' w'' gcs req o _ hreq hopen ih =>
      rcases ih.1.ends storage dev hsize req o hreq with ⟨hfiled, hgarbage⟩
      rcases hfiled.reopened hopen with ⟨hagain, hstore, hremote⟩
      refine ⟨hagain, fun g hg => (ih.2 g hg).moved ?_ ?_⟩
      · rw [hremote]
        exact device_grows storage _ _ _ w w' hreq
      · rw [hstore]
        exact hgarbage
  | begin w gcs yes _ ih =>
      refine ⟨ih.1, fun g hg => ?_⟩
      rcases List.mem_cons.mp hg with rfl | hg
      · exact Collector.Sound.begin w yes
      · exact ih.2 g hg
  | collect w gcs gcs' c _ hc ih =>
      rcases hc.deletes w gcs gcs' c ih.2 with ⟨gone, rfl, hgone⟩
      exact ⟨(ih.1.collected gone hgone).1, hc.sound w ih.1 gcs gcs' _ ih.2⟩

omit hsize

/-- A device opened over a manifest whose references are filed. -/
theorem filed_opened (map : BlockMap) (m : Manifest) (c : Channel) (hm : m.Sound map c.document)
    (hfiled : m.Filed map c) : Filed map (World.opened m c) := by
  refine ⟨durable_opened _ _ _ hm, hfiled, fun m' hload => ?_⟩
  rw [World.opened, LocalStore.loadManifest_setManifestState, Except.ok.injEq,
    Option.some.injEq] at hload
  rw [← hload]
  exact ⟨hfiled, fun _ hr => hr⟩

/-- A device that was just formatted has no references. -/
theorem filed_formatted (map : BlockMap) (uuid : Uuid) (c : Channel) :
    Filed map (World.opened (Manifest.empty uuid map.objectSize map.objectCount) c) := by
  have hnone : (Manifest.empty uuid map.objectSize map.objectCount).references = [] := by
    rw [Manifest.references, Manifest.liveReferences, List.append_eq_nil_iff,
      List.filterMap_eq_nil_iff]
    refine ⟨fun e he => ?_, rfl⟩
    rcases List.mem_map.mp he with ⟨id, _, rfl⟩
    rfl
  refine filed_opened map _ c (sound_empty map uuid _) ⟨?_, fun r hr => ?_⟩
  · rw [hnone]
    exact List.nodup_nil
  · rw [hnone] at hr
    cases hr

end Runs

end Crates

section Small

attribute [local instance] concreteCrates

end Small

end TgDrive
