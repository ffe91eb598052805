import TgDrive.Cli.Interrupted
import TgDrive.Cli.Rollback
import TgDrive.Core.Generations

/-!
# Flushes and Other Machines

A device over a channel, and what another machine with an empty store reads
after it recovered from that channel. As long as the dirty objects are not
cleared by a flush whose superblock is outranked in the window, the last
superblock names what the device held when a flush had returned.

A write takes the generation after the one of the manifest in memory, and a
restart falls back to the stored manifest. A flush that died after its commit
can therefore leave a superblock that outranks the next one.

## Main definitions

* `Anchored`: The last superblock names what the device is.
* `Leads`: A step that clears the dirty objects is not outranked.
* `LeadingRun`: Requests and restarts whose flushes lead.
* `Formatted`: The channel of a formatted device.
* `FreshReads`: What another machine reads.

## Theorems

* `returns_storage`, `echoes_storage`: The channel as a backend.
* `device_grows`: A device only adds to its channel.
* `Anchored.ends`: What a request keeps.
* `LeadingRun.anchored`: What a run keeps.
* `flush_durable`: When a flush lasts.
-/

namespace TgDrive

open Data Effect

section Crates

variable [Crates] (storage : TelegramStorage) (cfg : Config)

/-- The channel returns the documents it was sent. -/
theorem returns_storage : Returns storage.backend Channel.document where
  sent := by
    intro objectId generation payload sha ref c c' hs
    rcases wp_done _ _ _ _ _ _ (wp_sendObject storage objectId generation payload sha c) hs with
      ⟨gap, rfl, rfl, _⟩
    exact document_sent c gap objectId generation payload sha
  fetched := by
    intro ref b c c' hs
    exact ((wp_done _ _ _ _ _ _ (wp_fetchObject c ref) hs).2 b rfl).1
  got := by
    intro ids out c c' hs p hp b hb
    have hsound := answers_sound c ids out
      ((wp_done _ _ _ _ _ _ (wp_getMessagesById c ids) hs).2 out rfl)
    exact (List.forall₂_iff_zip.mp hsound).2 hp b hb
  keeps := fun _ c _ c' hs => (exec_grows _ c c' _ hs).document c c'
  crashKeeps := fun _ c c' hs => (exec_grows _ c c' _ hs).document c c'

/-- The references name what was sent. -/
theorem echoes_storage : Echoes storage.backend := by
  intro objectId generation payload sha ref c c' hs
  rcases wp_done _ _ _ _ _ _ (wp_sendObject storage objectId generation payload sha c) hs with
    ⟨gap, rfl, _⟩
  exact ⟨rfl, rfl, rfl⟩

/-- Reading leaves the channel alone. -/
theorem called_isRead (c c' : Channel) (h : Called storage.backend Call.isRead c c') :
    c' = c := by
  induction h with
  | refl => rfl
  | tail _ hstep ih =>
      rcases hstep with ⟨e, he, hdo⟩
      rcases hdo with ⟨r, hr⟩ | hc
      · exact (call_isRead storage e he _ _ _ hr).trans ih
      · exact (call_isRead storage e he _ _ _ hc).trans ih

/-- The channel grows in whatever a device does. -/
theorem device_grows {α : Type} (P : Policy Channel) (p : Prog deviceSig α) (o : Outcome α)
    (w w' : World Channel) (h : Exec (DeviceEnv storage.backend P) p w o w') :
    w.remote.Grows w'.remote := by
  -- No effect of an operation on the disk is one on the channel.
  have hcut : ∀ (l : LocalOp) (w : World Channel) (k : Nat),
      (cutOff (l.effects w) k w).remote = w.remote := by
    intro l w k
    refine cutOff_preserves (fun s => s.remote = w.remote) _ (fun f hf s hs => ?_) k w rfl
    have hstore : ∀ effects : List (LocalStore → LocalStore), f ∈ effects.map onStore →
        (f s).remote = w.remote := by
      intro effects hin
      rcases List.mem_map.mp hin with ⟨g, _, rfl⟩
      exact hs
    cases l with
    | readCache id gen sha =>
        simp only [LocalOp.effects] at hf
        split at hf
        · exact hstore _ hf
        · cases hf
    | writeCache id gen b => exact hstore _ hf
    | storeDirty id gen b offset len => exact hstore _ hf
    | commitLocal m =>
        simp only [LocalOp.effects] at hf
        split at hf
        · exact hstore _ hf
        · cases hf
    | lockManifest =>
        rw [List.mem_singleton.mp hf]
        exact hs
    | setManifest m =>
        rw [List.mem_singleton.mp hf]
        exact hs
    | unlockManifest =>
        rw [List.mem_singleton.mp hf]
        exact hs
    | dirtyObjects => cases hf
    | readDirty id => cases hf
    | dirtyCount => cases hf
    | readFile path => cases hf
    | peekManifest => cases hf
    | getManifest => cases hf
  have hrun : ∀ (l : LocalOp) (w : World Channel), (l.run w).2.remote = w.remote := by
    intro l w
    unfold LocalOp.run
    rcases l.answer w with msg | a
    · rfl
    · have hall := hcut l w (l.effects w).length
      rw [cutOff_length _ _ (Nat.le_refl _)] at hall
      exact hall
  induction h with
  | pure a w => exact Channel.Grows.refl _
  | fail msg w => exact Channel.Grows.refl _
  | step e k w w1 w2 r o hstep _ ih =>
      refine Channel.Grows.trans _ _ _ ?_ ih
      cases e with
      | disk l =>
          have hsame : w1.remote = w.remote := by
            rcases hstep with hr | ⟨k, msg, _, _, _, hw⟩
            · rw [← hrun l w, ← hr]
            · rw [hw, hcut]
          rw [hsame]
          exact Channel.Grows.refl _
      | call c =>
          rcases hstep with ⟨c', hs, hw⟩
          rw [hw]
          exact exec_grows _ _ _ _ hs
  | crash e k w w1 hcrash =>
      cases e with
      | disk l =>
          rcases hcrash with ⟨k, _, hw⟩
          rw [hw, hcut]
          exact Channel.Grows.refl _
      | call c =>
          rcases hcrash with ⟨c', hs, hw⟩
          rw [hw]
          exact exec_grows _ _ _ _ hs

/-- The shape of the manifests of a device. -/
structure Manifest.Shaped (m : Manifest) (map : BlockMap) : Prop where
  canonical : m.Canonical
  ids : m.objects.map ManifestObject.objectId = List.range map.objectCount

omit [Crates] in
/-- The generation is not part of the shape. -/
theorem Manifest.Shaped.bumped {σ : Type} (w : World σ) (map : BlockMap)
    (h : w.manifest.Shaped map) : w.bumped.Shaped map :=
  ⟨⟨h.canonical.magic, h.canonical.version, h.canonical.count, h.canonical.ids⟩, h.ids⟩

/-- The manifests of a device have its shape, and without dirty objects the
    last superblock of the channel names what the device is, and is the one
    that is found. -/
structure Anchored (dev : BlockDevice) (w : World Channel) : Prop where
  shaped : w.manifest.Shaped dev.map
  stored : ∀ m, w.store.loadManifest = .ok (some m) → m.Shaped dev.map
  announced : w.store.dirtyRows = [] → ∃ n sb m, w.remote.Latest n sb ∧
    w.remote.Bounded 200 sb.manifestGeneration ∧ sb.Describes cfg dev.map w.remote m ∧
    ∀ id, m.find id = w.manifest.find id

/-- A step that leaves the manifests and the channel alone and may mark
    objects. -/
structure Marking (w w' : World Channel) : Prop where
  manifest : w'.manifest = w.manifest
  state : w'.store.manifestState = w.store.manifestState
  remote : w'.remote = w.remote
  rows : w'.store.dirtyRows = [] → w.store.dirtyRows = []

omit [Crates] in
theorem Marking.refl (w : World Channel) : Marking w w := ⟨rfl, rfl, rfl, id⟩

theorem CacheFill.marking (w w' : World Channel)
    (h : CacheFill storage.backend Channel.document w w') : Marking w w' where
  manifest := h.manifest
  state := h.state
  remote := called_isRead storage _ _ h.remote
  rows := fun hrows => by
    rw [LocalStore.dirtyRows_eq_nil] at hrows ⊢
    intro id
    rw [← hrows id, h.dirtyObject]

theorem Wrote.marking (dev : BlockDevice) (w w' : World Channel)
    (h : Wrote storage.backend Channel.document dev w w') : Marking w w' := by
  induction h with
  | refl => exact Marking.refl w
  | tail _ hstep ih =>
      have hlast : ∀ w1 w2, WriteStep storage.backend Channel.document dev w1 w2 →
          Marking w1 w2 := by
        intro w1 w2 hs
        cases hs with
        | fill hf => exact CacheFill.marking storage w1 w2 hf
        | dirtied id object _ _ hd =>
            refine ⟨hd.manifest, hd.state, hd.remote, fun hrows => ?_⟩
            -- A marked object is a row.
            rw [LocalStore.dirtyRows_eq_nil] at hrows
            have hrow := hd.rows id
            rw [hrows id, if_pos rfl] at hrow
            cases hrow
        | torn id object _ _ ht =>
            refine ⟨ht.manifest, ht.state, ht.remote, fun hrows => ?_⟩
            rw [LocalStore.dirtyRows_eq_nil] at hrows ⊢
            exact fun i => (ht.rows i).symm.trans (hrows i)
      have h2 := hlast _ _ hstep
      exact ⟨h2.manifest.trans ih.manifest, h2.state.trans ih.state, h2.remote.trans ih.remote,
        fun hrows => ih.rows (h2.rows hrows)⟩

theorem Anchored.marked (dev : BlockDevice) (w w' : World Channel) (h : Anchored cfg dev w)
    (hm : Marking w w') : Anchored cfg dev w' where
  shaped := by
    rw [hm.manifest]
    exact h.shaped
  stored := fun m hload => h.stored m (by
    rw [← LocalStore.loadManifest_congr _ _ hm.state]
    exact hload)
  announced := fun hrows => by
    rw [hm.remote, hm.manifest]
    exact h.announced (hm.rows hrows)

/-- A flush that succeeds leaves no dirty object. -/
theorem Flushed.cleared {B : Backend Channel} (dev : BlockDevice) (w w' : World Channel)
    (h : Flushed B dev w (.done (.ok ())) w') : w'.store.dirtyRows = [] := by
  cases h with
  | idle h => exact h
  | early _ _ ho => exact absurd rfl ho
  | stopped _ _ ho => exact absurd rfl ho
  | refused _ _ _ ho => exact absurd rfl ho
  | cut _ _ _ ho => exact absurd rfl ho
  | finished _ _ _ _ _ hstore =>
      rw [hstore, LocalStore.dirtyRows_eq_nil]
      exact fun id => LocalStore.dirtyObject_clear _ id

/-- Uploads send no superblock. -/
theorem Uploads.quiet (files : CachePath → Option Bytes) (m0 m : Manifest) (c0 c : Channel)
    (sent : List DirtyObject) (h : Uploads storage.backend files m0 c0 sent m c) :
    c0.Quiet c := by
  induction h with
  | none => exact Channel.Quiet.refl c0
  | next sent m m' c c' d b ref _ _ hs _ ih =>
      rcases wp_done _ _ _ _ _ _ (wp_sendObject storage _ _ _ _ c) hs with ⟨gap, _, rfl, _⟩
      exact ih.trans _ _ _ (Channel.Quiet.sent c gap _ _ _ _)

/-- Uploads keep the shape of a manifest. -/
theorem Uploads.shaped (files : CachePath → Option Bytes) (m0 m : Manifest) (c0 c : Channel)
    (sent : List DirtyObject) (h : Uploads storage.backend files m0 c0 sent m c)
    (map : BlockMap) (hm : m0.Shaped map) : m.Shaped map := by
  have hfields : m.magic = m0.magic ∧ m.formatVersion = m0.formatVersion ∧
      m.objectCount = m0.objectCount := by
    induction h with
    | none => exact ⟨rfl, rfl, rfl⟩
    | next sent m m' c c' d b ref _ _ _ hm ih =>
        rcases recordUpload_eq_some m m' d ref _ hm with ⟨e, _, rfl⟩
        exact ih
  have hlen : m.objects.length = m0.objects.length := by
    have hmap := congrArg List.length h.ids
    rw [List.length_map, List.length_map] at hmap
    exact hmap
  exact {
    canonical := {
      magic := hfields.1.trans hm.canonical.magic
      version := hfields.2.1.trans hm.canonical.version
      count := by rw [hlen, hfields.2.2, hm.canonical.count]
      ids := by rw [h.ids, hlen, hm.canonical.ids] }
    ids := h.ids.trans hm.ids }

/-- A superblock of no greater generation than the bound keeps the bound. -/
theorem Bounded.upserts (c c' : Channel) (sb : Superblock) (b : Bool) (limit generation : Nat)
    (h : c.Bounded limit generation) (hup : Upserts c sb.encodeText b c')
    (hle : sb.manifestGeneration ≤ generation) : c'.Bounded limit generation := by
  intro m hm sb' hsb
  rcases hup.grows.newest limit m hm with hm | ⟨hm, hnew⟩
  · exact h m hm sb' hsb
  · rcases hup.texts m hm hnew with htext | htext
    · rw [htext, Superblock.decodeText_encodeText] at hsb
      rw [← Except.ok.inj hsb]
      exact hle
    · have hp := isPrefixOf_of_decodeText _ sb' hsb
      rw [htext] at hp
      cases hp

variable (dev : BlockDevice)

/-- If a step clears the dirty objects, it begins with no superblock of a
    greater generation than theirs in the window. -/
def Leads (w w' : World Channel) : Prop :=
  w.store.dirtyRows ≠ [] → w'.store.dirtyRows = [] → w.remote.Bounded 200 w.bumped.generation

/-- Requests that end in any way, and restarts, where every flush leads. -/
inductive LeadingRun (w0 : World Channel) : World Channel → Prop
  | start : LeadingRun w0 w0
  | next (w w' : World Channel) (req : Request) (r : Except String Unit) (h : LeadingRun w0 w)
      (hreq : Exec (DeviceEnv storage.backend Policy.sparing) (req.program dev) w (.done r) w')
      (hlead : Leads w w') : LeadingRun w0 w'
  | restart (w w' w'' : World Channel) (req : Request) (o : Outcome Unit) (h : LeadingRun w0 w)
      (hreq : Exec (DeviceEnv storage.backend Policy.sparing) (req.program dev) w o w')
      (hlead : Leads w w') (hopen : w'.reopen = .ok w'') : LeadingRun w0 w''

/-- What a machine with an empty store reads after it recovered from the
    channel. -/
def FreshReads (c : Channel) (a : Nat → UInt8) : Prop :=
  ∃ sb m s w, (recoverRemoteManifest storage cfg).eval Channel.run c = (.ok (sb, m), c) ∧
    storeManifest m LocalStore.empty = .ok s ∧ openStore s c = .ok w ∧ w.Reads storage.run dev a

/-- The channel of a device that was formatted on an empty one. -/
def Formatted (uuid : Uuid) (c : Channel) : Prop :=
  Exec Telegram (storage.program
    (dev.commit (Manifest.empty uuid dev.map.objectSize dev.map.objectCount))) Channel.blank
    (.done (.ok ())) c

/-- The channel grows in any run. -/
theorem run_grows (w w' : World Channel) (h : Run storage.backend Policy.sparing dev w w') :
    w.remote.Grows w'.remote := by
  induction h with
  | start => exact Channel.Grows.refl _
  | next w1 w2 req r _ hreq ih => exact ih.trans _ _ _ (device_grows storage _ _ _ w1 w2 hreq)
  | restart w1 w2 w3 req o _ hreq hopen ih =>
      have hsame : w3.remote = w2.remote := by
        unfold World.reopen at hopen
        split at hopen
        · rw [← Except.ok.inj hopen]
        · cases hopen
        · cases hopen
      rw [hsame]
      exact ih.trans _ _ _ (device_grows storage _ _ _ w1 w2 hreq)

/-- A restart opens what is stored. -/
theorem Anchored.reopened (w w' : World Channel) (h : Anchored cfg dev w)
    (hdur : Durable Channel.document dev.map w) (hopen : w.reopen = .ok w') :
    Anchored cfg dev w' := by
  rcases hdur.stored with ⟨m, hload, _, hsame⟩
  rw [World.reopen, hload, Except.ok.injEq] at hopen
  rw [← hopen]
  refine ⟨h.stored m hload, h.stored, fun hrows => ?_⟩
  rcases h.announced hrows with ⟨n, sb, m', hlatest, hbound, hdesc, hfind⟩
  exact ⟨n, sb, m', hlatest, hbound, hdesc, fun id => (hfind id).trans
    (hsame id ((LocalStore.dirtyRows_eq_nil _).mp hrows id)).symm⟩

/-- A request either reads and writes objects or is a flush that ends in one of
    the ways a flush can end. -/
theorem request_steps (req : Request) (o : Outcome Unit) (w w' : World Channel)
    (hw : Consistent Channel.document w)
    (hreq : Exec (DeviceEnv storage.backend Policy.sparing) (req.program dev) w o w') :
    Wrote storage.backend Channel.document dev w w' ∨ Flushed storage.backend dev w o w' := by
  have hB := returns_storage storage
  have hshows := shows_array Channel.document dev.map.objectSize w
  have hfill : ∀ w1, CacheFill storage.backend Channel.document w w1 →
      Wrote storage.backend Channel.document dev w w1 := fun w1 hf => .single (.fill w w1 hf)
  cases req with
  | read offset len =>
      -- A read fills the cache at most.
      have hpost : wp (DeviceEnv storage.backend Policy.sparing)
          ((Request.read offset len).program dev)
          (fun _ w1 => Wrote storage.backend Channel.document dev w w1)
          (Wrote storage.backend Channel.document dev w) w :=
        wp_seq _ _ _ _ _ _ _ (wp_readAt hB dev _ offset len w hw hshows)
          (fun _ w1 hr => hfill w1 hr.fill) (fun _ w1 hr => hfill w1 hr.fill)
          (fun w1 hf => hfill w1 hf)
      have hall := (wp_iff_exec _ _ _ _).mp hpost o w' hreq
      rcases o with r | _
      · exact Or.inl hall
      · exact Or.inl hall
  | write offset bytes =>
      -- A write stores dirty objects, one after the other, as far as it gets.
      have hpost : wp (DeviceEnv storage.backend Policy.sparing)
          ((Request.write offset bytes).program dev)
          (fun _ w1 => Wrote storage.backend Channel.document dev w w1)
          (Wrote storage.backend Channel.document dev w) w :=
        wp_mono _ _ _ _ _ (fun _ w1 hr => hr.steps) (fun w1 hf => hf.1) _
          (wp_writeAt hB careful_sparing dev _ offset bytes w hw hshows)
      have hall := (wp_iff_exec _ _ _ _).mp hpost o w' hreq
      rcases o with r | _
      · exact Or.inl hall
      · exact Or.inl hall
  | flush =>
      have hall := (wp_iff_exec _ _ _ _).mp (wp_flush dev w) o w' hreq
      rcases o with r | _
      · exact Or.inr hall.1
      · exact Or.inr hall

variable (hdevice : dev.map.deviceSize = cfg.deviceSize)
  (hobject : dev.map.objectSize = cfg.objectSize)

include hdevice hobject

/-- A manifest that is committed, and no superblock of a greater generation
    before it, is what the last message of the channel announces. -/
theorem commit_first (m : Manifest) (c0 c c' : Channel) (hq : c0.Quiet c)
    (hs : storage.backend.step (dev.commit m) c (.ok ()) c')
    (hbound : c0.Bounded 200 m.generation) (hm : m.Shaped dev.map)
    (hlive : ∀ id e, m.find id = some e → e.zero = false → e.Live c'.document) :
    ∃ sb, c'.Latest 1 sb ∧ sb.manifestGeneration = m.generation ∧
      c'.Bounded 200 sb.manifestGeneration ∧ sb.Describes cfg dev.map c' m := by
  rcases (wp_done _ _ _ _ _ _ (wp_commitManifest storage m _ _ _ c) hs).2 rfl with
    ⟨c1, sb, hann, hup⟩
  refine ⟨sb, Channel.latest_of_upserts Nat.one_pos hup, hann.generation, ?_, ?_⟩
  · rw [hann.generation]
    exact Bounded.upserts c1 c' sb true 200 _ ((hbound.quiet _ hq.grows hq.plain).quiet _
      hann.quiet.grows hann.quiet.plain) hup
      (Nat.le_of_eq hann.generation)
  · exact {
      canonical := hm.canonical
      uuid := hann.uuid
      deviceSize := hann.deviceSize.trans hdevice
      objectSize := hann.objectSize.trans hobject
      names := hann.names.grows c1 c' hup.grows _ _ _ _ _
      sound := {
        ids := hm.ids
        live := fun e he => hlive e.objectId e (m.find_of_mem (by
          rw [hm.ids]
          exact List.nodup_range) e he) } }

/-- The same, without where the superblock is and of which generation. -/
theorem commit_announced (m : Manifest) (c0 c c' : Channel) (hq : c0.Quiet c)
    (hs : storage.backend.step (dev.commit m) c (.ok ()) c')
    (hbound : c0.Bounded 200 m.generation) (hm : m.Shaped dev.map)
    (hlive : ∀ id e, m.find id = some e → e.zero = false → e.Live c'.document) :
    ∃ n sb, c'.Latest n sb ∧ c'.Bounded 200 sb.manifestGeneration ∧
      sb.Describes cfg dev.map c' m := by
  rcases commit_first storage cfg dev hdevice hobject m c0 c c' hq hs hbound hm hlive with
    ⟨sb, hlatest, _, hbound', hdesc⟩
  exact ⟨1, sb, hlatest, hbound', hdesc⟩

/-- However a flush ends, if it begins with no superblock of a greater
    generation in the window whenever it clears the dirty objects. -/
theorem Anchored.flushed (hc : dev.committer = true) (o : Outcome Unit) (w w' : World Channel)
    (h : Anchored cfg dev w) (hdur : Durable Channel.document dev.map w')
    (hf : Flushed storage.backend dev w o w')
    (hok : w.store.dirtyRows ≠ [] → w'.store.dirtyRows = [] →
      w.remote.Bounded 200 w.bumped.generation) : Anchored cfg dev w' := by
  have hbumped := h.shaped.bumped w dev.map
  -- A flush that leaves the store alone, with dirty objects in it.
  have hkept : w'.manifest.Shaped dev.map → w.store.dirtyRows ≠ [] → w'.store = w.store →
      Anchored cfg dev w' := fun hshaped hrows hstore => {
    shaped := hshaped
    stored := fun m hload => h.stored m (by rw [← hstore]; exact hload)
    announced := fun hnone => absurd (by rw [← hstore]; exact hnone) hrows }
  -- A flush whose manifest was committed.
  have hcommitted : ∀ s, w.store.dirtyRows ≠ [] →
      Uploads storage.backend w.store.files w.bumped w.remote w.store.dirtyRows w'.manifest s →
      Committed storage.backend dev w'.manifest s w'.remote →
      (w'.store.loadManifest = w.store.loadManifest ∨
        w'.store.loadManifest = .ok (some w'.manifest)) → Anchored cfg dev w' := by
    intro s hrows hup hs hload
    have hshaped := hup.shaped storage _ _ _ _ _ _ dev.map hbumped
    refine ⟨hshaped, fun m hm => ?_, fun hnone => ?_⟩
    · rcases hload with hload | hload
      · exact h.stored m (hload.symm.trans hm)
      · rw [hload, Except.ok.injEq, Option.some.injEq] at hm
        rw [← hm]
        exact hshaped
    · rw [Committed, if_pos hc] at hs
      have hgen := hup.generation
      rcases commit_announced storage cfg dev hdevice hobject w'.manifest w.remote s w'.remote
        (hup.quiet storage _ _ _ _ _ _) hs (by rw [hgen]; exact hok hrows hnone) hshaped
        (fun id e hfind => hdur.live id e ((LocalStore.dirtyRows_eq_nil _).mp hnone id) hfind)
        with ⟨n, sb, hlatest, hbound, hdesc⟩
      exact ⟨n, sb, w'.manifest, hlatest, hbound, hdesc, fun _ => rfl⟩
  have hstored := hf.stored dev w w' o
  cases hf with
  | idle _ => exact h
  | early _ _ _ hstore hmanifest hremote =>
      exact {
        shaped := by
          rw [hmanifest]
          exact h.shaped
        stored := fun m hload => h.stored m (by rw [← hstore]; exact hload)
        announced := fun hnone => by
          rw [hremote, hmanifest]
          exact h.announced (by rw [← hstore]; exact hnone) }
  | stopped _ _ _ hrows hstop =>
      rcases hstop with ⟨hstore, sent, s, _, hup, _⟩
      exact hkept (hup.shaped storage _ _ _ _ _ _ dev.map hbumped) hrows hstore
  | refused _ _ s _ hrows _ hup _ hstore =>
      exact hkept (hup.shaped storage _ _ _ _ _ _ dev.map hbumped) hrows hstore
  | cut _ _ s _ hrows hup hs _ =>
      exact hcommitted s hrows hup hs (hstored.imp And.left id)
  | finished _ s hrows hup hs _ =>
      exact hcommitted s hrows hup hs (hstored.imp And.left id)

/-- However a request ends, if it leads. -/
theorem Anchored.ends (hc : dev.committer = true) (hsize : 0 < dev.map.objectSize)
    (req : Request) (o : Outcome Unit) (w w' : World Channel) (h : Anchored cfg dev w)
    (hdur : Durable Channel.document dev.map w)
    (hreq : Exec (DeviceEnv storage.backend Policy.sparing) (req.program dev) w o w')
    (hlead : Leads w w') : Anchored cfg dev w' := by
  rcases request_steps storage dev req o w w' hdur.consistent hreq with hwrote | hflushed
  · exact h.marked cfg dev w w' (Wrote.marking storage dev w w' hwrote)
  · have hdur' := (Request.ends (returns_storage storage) (echoes_storage storage) careful_sparing
      dev hsize req o w w' hreq hdur _ (shows_array Channel.document dev.map.objectSize w)).1
    exact h.flushed storage cfg dev hdevice hobject hc o w w' hdur' hflushed hlead

/-- A whole run keeps the device durable and the channel its anchor. -/
theorem LeadingRun.anchored (hc : dev.committer = true) (hsize : 0 < dev.map.objectSize)
    (w0 w : World Channel) (h0 : Anchored cfg dev w0)
    (hdur0 : Durable Channel.document dev.map w0) (h : LeadingRun storage dev w0 w) :
    Durable Channel.document dev.map w ∧ Anchored cfg dev w := by
  have hstep : ∀ (req : Request) (o : Outcome Unit) (w w' : World Channel),
      Durable Channel.document dev.map w ∧ Anchored cfg dev w →
      Exec (DeviceEnv storage.backend Policy.sparing) (req.program dev) w o w' → Leads w w' →
      Durable Channel.document dev.map w' ∧ Anchored cfg dev w' := fun req o w w' hw hreq hlead =>
    ⟨(Request.ends (returns_storage storage) (echoes_storage storage) careful_sparing dev hsize req
        o w w' hreq hw.1 _ (shows_array Channel.document dev.map.objectSize w)).1,
      hw.2.ends storage cfg dev hdevice hobject hc hsize req o w w' hw.1 hreq hlead⟩
  induction h with
  | start => exact ⟨hdur0, h0⟩
  | next w w' req r _ hreq hlead ih => exact hstep req _ w w' ih hreq hlead
  | restart w w' w'' req o _ hreq hlead hopen ih =>
      have hw := hstep req o w w' ih hreq hlead
      rcases hw.1.reopen with ⟨w2, hw2, hdur, _⟩
      have hsame := hw2.symm.trans hopen
      rw [Except.ok.injEq] at hsame
      rw [hsame] at hdur
      exact ⟨hdur, hw.2.reopened cfg dev w' w'' hw.1 hopen⟩

/-- The channel of a formatted device announces the blank manifest. -/
theorem formatted_first (uuid : Uuid) (c : Channel) (h : Formatted storage dev uuid c) :
    (Manifest.empty uuid dev.map.objectSize dev.map.objectCount).Shaped dev.map ∧
      ∃ sb, c.Latest 1 sb ∧ sb.manifestGeneration = 0 ∧ c.Bounded 200 sb.manifestGeneration ∧
        sb.Describes cfg dev.map c
          (Manifest.empty uuid dev.map.objectSize dev.map.objectCount) := by
  have hids := Manifest.ids_empty uuid dev.map.objectSize dev.map.objectCount
  have hlen : (Manifest.empty uuid dev.map.objectSize dev.map.objectCount).objects.length
      = dev.map.objectCount := by
    have hmap := congrArg List.length hids
    rw [List.length_map, List.length_range] at hmap
    exact hmap
  have hshaped : (Manifest.empty uuid dev.map.objectSize dev.map.objectCount).Shaped dev.map :=
    ⟨⟨rfl, rfl, hlen, by rw [hlen, hids]⟩, hids⟩
  exact ⟨hshaped, commit_first storage cfg dev hdevice hobject _ Channel.blank Channel.blank c
    (Channel.Quiet.refl _) h (fun m hm => absurd (List.mem_of_mem_take hm) List.not_mem_nil)
    hshaped (fun id e hf hz => by
      rw [(Manifest.mem_empty _ _ _ e (Manifest.mem_of_find _ _ _ hf)).1] at hz
      cases hz)⟩

/-- A formatted device is anchored. -/
theorem anchored_formatted (uuid : Uuid) (c : Channel) (h : Formatted storage dev uuid c) :
    Anchored cfg dev
      (World.opened (Manifest.empty uuid dev.map.objectSize dev.map.objectCount) c) := by
  rcases formatted_first storage cfg dev hdevice hobject uuid c h with
    ⟨hshaped, sb, hlatest, _, hbound, hdesc⟩
  refine ⟨hshaped, fun m hload => ?_, fun _ => ?_⟩
  · rw [World.opened, LocalStore.loadManifest_setManifestState, Except.ok.injEq,
      Option.some.injEq] at hload
    rw [← hload]
    exact hshaped
  · exact ⟨1, sb, _, hlatest, hbound, hdesc, fun _ => rfl⟩

/-- In every run of a formatted device whose flushes lead, what the device
    holds when a flush has returned is what another machine reads, as long as
    no other superblock is sent and one is in the window. -/
theorem flush_durable (hc : dev.committer = true) (hsize : 0 < dev.map.objectSize) (uuid : Uuid)
    (c0 : Channel) (hformat : Formatted storage dev uuid c0) (w1 w2 w3 : World Channel)
    (hrun : LeadingRun storage dev
      (World.opened (Manifest.empty uuid dev.map.objectSize dev.map.objectCount) c0) w1)
    (hflush : Exec (DeviceEnv storage.backend Policy.sparing) dev.flush w1 (.done (.ok ())) w2)
    (hlead : Leads w1 w2) (hafter : Run storage.backend Policy.sparing dev w2 w3)
    (hnone : ∀ m ∈ w3.remote.messages, m ∉ w2.remote.messages → m.isSuperblock = false)
    (hfew : ∃ m ∈ w3.remote.newest 200, m.isSuperblock = true) :
    FreshReads storage cfg dev w3.remote
      (arrayOf dev.map.objectSize (w2.content Channel.document dev.map.objectSize)) := by
  have hdur0 := durable_opened dev.map _ c0 (sound_empty dev.map uuid c0.document)
  rcases LeadingRun.anchored storage cfg dev hdevice hobject hc hsize _ w1
    (anchored_formatted storage cfg dev hdevice hobject uuid c0 hformat) hdur0 hrun with
    ⟨hdur1, hanch1⟩
  have hanch2 := hanch1.ends storage cfg dev hdevice hobject hc hsize .flush _ w1 w2 hdur1 hflush
    hlead
  have hrows := Flushed.cleared dev w1 w2 (wp_done _ _ _ _ _ _ (wp_flush dev w1) hflush).1
  rcases hanch2.announced hrows with ⟨n, sb, m, hlatest, hbound, hdesc, hfind⟩
  have hgrows := run_grows storage dev w2 w3 hafter
  have hlong : w3.remote.Latest (w3.remote.messages.length + n) sb :=
    hlatest.quiet n hgrows hnone (by omega)
  have hlatest3 : w3.remote.Latest 200 sb := Channel.Latest.within _ _ 200 sb hlong hfew
  have hfound := (Channel.superblockText_iff hlatest3).mpr (hbound.quiet _ hgrows hnone)
  rcases fresh_reads storage cfg dev hsize w3.remote sb m hfound (hdesc.grows hgrows) with
    ⟨heval, s, w, hstore, hopen, hreads⟩
  have harray : m.array dev.map w3.remote
      = arrayOf dev.map.objectSize (w2.content Channel.document dev.map.objectSize) := by
    refine congrArg (arrayOf dev.map.objectSize) (funext fun id => ?_)
    rw [hdesc.sound.content_grows hgrows, World.content,
      (LocalStore.dirtyRows_eq_nil _).mp hrows id]
    unfold Manifest.content
    rw [hfind id]
  rw [harray] at hreads
  exact ⟨sb, m, s, w, heval, hstore, hopen, hreads⟩

end Crates

/-- A channel that carries out every request but the sending of documents. -/
def Channel.refuse : (e : TgOp) → Channel → Except String e.Resp × Channel
  | .sendDocument _ _, c => (.error "timed out", c)
  | .sendText text, c => Channel.run (.sendText text) c
  | .pin id, c => Channel.run (.pin id) c
  | .getPinned, c => Channel.run .getPinned c
  | .getMessages ids, c => Channel.run (.getMessages ids) c
  | .download document, c => Channel.run (.download document) c
  | .iterMessages limit, c => Channel.run (.iterMessages limit) c
  | .now, c => Channel.run .now c

theorem telegram_refuse (e : TgOp) (c : Channel) :
    Telegram.step e c (Channel.refuse e c).1 (Channel.refuse e c).2 := by
  cases e with
  | sendDocument caption document => exact Or.inl rfl
  | sendText text => exact telegram_run (.sendText text) c
  | pin id => exact telegram_run (.pin id) c
  | getPinned => exact telegram_run .getPinned c
  | getMessages ids => exact telegram_run (.getMessages ids) c
  | download document => exact telegram_run (.download document) c
  | iterMessages limit => exact telegram_run (.iterMessages limit) c
  | now => exact telegram_run .now c

/-- A device over a channel that answers in one way. -/
theorem deviceRun_program [Crates] (storage : TelegramStorage)
    (answer : (e : TgOp) → Channel → Except String e.Resp × Channel)
    (hanswer : ∀ e c, Telegram.step e c (answer e c).1 (answer e c).2) (P : Policy Channel)
    (e : DeviceOp) (w : World Channel) :
    (DeviceEnv storage.backend P).step e w
      (deviceRun (fun c s => (storage.program c).eval answer s) e w).1
      (deviceRun (fun c s => (storage.program c).eval answer s) e w).2 := by
  cases e with
  | disk l => exact Or.inl rfl
  | call c =>
      have hex := exec_of_eval (S := tgSig) (E := Telegram) answer hanswer (storage.program c)
        w.remote
      exact ⟨(Prog.eval (S := tgSig) answer (storage.program c) w.remote).2, hex, rfl⟩

section Small

attribute [local instance] concreteCrates

/-- The channel after the small device was formatted. -/
def smallFormatted : Channel :=
  ((smallStorage.program (smallCommitting.commit (Manifest.empty ⟨7⟩ 4 2))).eval Channel.run
    Channel.blank).2

def smallOpened : World Channel := World.opened (Manifest.empty ⟨7⟩ 4 2) smallFormatted

/-- A write, a flush, and a flush that cannot send. -/
def tgWritten (b : UInt8) (w : World Channel) : World Channel :=
  (((Request.write 0 [b]).program smallCommitting).eval (deviceRun smallStorage.run) w).2

def tgFlushed (w : World Channel) : World Channel :=
  (smallCommitting.flush.eval (deviceRun smallStorage.run) w).2

def tgRefused (w : World Channel) : World Channel :=
  (((Request.flush).program smallCommitting).eval (deviceRun (fun c s =>
    (smallStorage.program c).eval Channel.refuse s)) w).2

/-- Two writes, with a flush in between that cannot send. -/
def smallRetried : World Channel := tgWritten 2 (tgRefused (tgWritten 1 smallOpened))

/-- A flush that dies after its commit and before it stores the manifest. -/
def smallCut : Option (World Channel) :=
  smallCommitting.flush.crashAt (deviceRun smallStorage.run) (diskCut 0) 8 smallRetried

/-- What another machine reads at the beginning of the device. -/
def smallFresh (c : Channel) : Option Bytes :=
  ((recoverRemoteManifest smallStorage smallConfig).eval Channel.run c).1.toOption.bind fun p =>
    (storeManifest p.2 LocalStore.empty).toOption.bind fun s =>
      (openStore s c).toOption.bind fun w =>
        ((smallCommitting.readAt 0 1).eval (deviceRun smallStorage.run) w).1.toOption

theorem FreshReads.small (c : Channel) (a : Nat → UInt8)
    (h : FreshReads smallStorage smallConfig smallCommitting c a) :
    smallFresh c = some (span a 0 1) := by
  rcases h with ⟨sb, m, s, w, heval, hstore, hopen, hreads⟩
  have hread := hreads 0 1 (by decide)
  rw [smallFresh, heval]
  simp only [Except.toOption, Option.bind_some, hstore, hopen, hread]

/-- Whether the flush of a device succeeds and its superblock is in the
    window. -/
def smallEnds (w : World Channel) : Bool :=
  (smallCommitting.flush.eval (deviceRun smallStorage.run) w).1.isOk &&
    ((tgFlushed w).remote.newest 200).any Message.isSuperblock

theorem exec_tgWritten (b : UInt8) (w : World Channel) : ∃ r,
    Exec (DeviceEnv smallStorage.backend Policy.sparing)
      ((Request.write 0 [b]).program smallCommitting) w (.done r) (tgWritten b w) :=
  ⟨_, exec_of_eval (S := deviceSig) _
    (deviceRun_program smallStorage Channel.run telegram_run _) _ w⟩

theorem exec_tgRefused (w : World Channel) : ∃ r,
    Exec (DeviceEnv smallStorage.backend Policy.sparing) ((Request.flush).program smallCommitting)
      w (.done r) (tgRefused w) :=
  ⟨_, exec_of_eval (S := deviceSig) _
    (deviceRun_program smallStorage Channel.refuse telegram_refuse _) _ w⟩

theorem formatted_small : Formatted smallStorage smallCommitting ⟨7⟩ smallFormatted := by
  have hlen : (Manifest.empty ⟨7⟩ 4 2).encodeJson.length < 2 ^ 32 :=
    length_smallManifest 0 (by decide)
  have hok := eval_commitManifest_isOk smallStorage (Manifest.empty ⟨7⟩ 4 2)
    smallMap.deviceSize smallMap.logicalSectorSize smallMap.objectSize Channel.blank rfl (by decide)
    (by decide) (by decide) (by unfold objectHeaderLen; omega)
  rcases exec_of_isOk (smallStorage.program (smallCommitting.commit (Manifest.empty ⟨7⟩ 4 2)))
    Channel.blank hok with ⟨u, hex⟩
  have hmanifest : Manifest.empty ⟨7⟩ smallCommitting.map.objectSize
      smallCommitting.map.objectCount = Manifest.empty ⟨7⟩ 4 2 := rfl
  rw [Formatted, smallFormatted, hmanifest]
  exact hex

/-- A flush that succeeds, with its superblock in the window. -/
theorem exec_tgFlushed (w : World Channel) (h : smallEnds w = true) :
    Exec (DeviceEnv smallStorage.backend Policy.sparing) smallCommitting.flush w (.done (.ok ()))
      (tgFlushed w) ∧ ∃ m ∈ (tgFlushed w).remote.newest 200, m.isSuperblock = true := by
  rw [smallEnds, Bool.and_eq_true, List.any_eq_true] at h
  have hex := exec_of_eval (S := deviceSig) (E := DeviceEnv smallStorage.backend Policy.sparing) _
    (deviceRun_program smallStorage Channel.run telegram_run _) smallCommitting.flush w
  rcases hr : (smallCommitting.flush.eval (deviceRun smallStorage.run) w).1 with msg | u
  · rw [hr] at h
    cases h.1
  · have hdone : (smallCommitting.flush.eval (deviceRun (fun c s =>
        (smallStorage.program c).eval Channel.run s)) w).1 = .ok u := hr
    rw [hdone] at hex
    exact ⟨hex, h.2⟩

/-- A device with a row, and no superblock of a greater generation than its
    rows in the window. -/
def smallLeads (w : World Channel) : Bool :=
  smallEnds w && !w.store.dirtyRows.isEmpty && (w.remote.newest 200).all (fun m =>
    (Superblock.decodeText m.text).toOption.all
      (fun sb => decide (sb.manifestGeneration ≤ w.bumped.generation)))

/-- One write and a flush. -/
theorem flush_durable_small : FreshReads smallStorage smallConfig smallCommitting
    (tgFlushed (tgWritten 1 smallOpened)).remote
    (arrayOf 4 ((tgFlushed (tgWritten 1 smallOpened)).content Channel.document 4)) := by
  have hleads : smallLeads (tgWritten 1 smallOpened) = true := by decide +kernel
  rcases exec_tgWritten 1 smallOpened with ⟨r, hwrite⟩
  generalize tgWritten 1 smallOpened = w at hleads hwrite ⊢
  rw [smallLeads, Bool.and_eq_true, Bool.and_eq_true, Bool.not_eq_true', List.isEmpty_eq_false_iff]
    at hleads
  rcases exec_tgFlushed w hleads.1.1 with ⟨hflush, hfew⟩
  refine flush_durable smallStorage smallConfig smallCommitting rfl rfl rfl (by decide) ⟨7⟩
    smallFormatted formatted_small w _ _ (.next _ _ (.write 0 [1]) r .start hwrite
      fun _ hrows => absurd hrows hleads.1.2) hflush (fun _ _ m hm sb hsb => ?_) .start
    (fun m hm hno => absurd hm hno) hfew
  have hle := List.all_eq_true.mp hleads.2 m hm
  rw [hsb] at hle
  exact of_decide_eq_true hle

/-- After a restart, another write and a flush, another machine reads what was
    written before. -/
theorem flush_not_durable : ¬∀ (uuid : Uuid) (c0 : Channel) (w1 w2 w3 : World Channel),
    Formatted smallStorage smallCommitting uuid c0 →
    Run smallStorage.backend Policy.sparing smallCommitting
      (World.opened (Manifest.empty uuid 4 2) c0) w1 →
    Exec (DeviceEnv smallStorage.backend Policy.sparing) smallCommitting.flush w1
      (.done (.ok ())) w2 →
    Run smallStorage.backend Policy.sparing smallCommitting w2 w3 →
    (∀ m ∈ w3.remote.messages, m ∉ w2.remote.messages → m.isSuperblock = false) →
    (∃ m ∈ w3.remote.newest 200, m.isSuperblock = true) →
    FreshReads smallStorage smallConfig smallCommitting w3.remote
      (arrayOf 4 (w2.content Channel.document 4)) := by
  intro hall
  have hcheck : (smallCut.bind (fun w => w.reopen.toOption)).map (fun w =>
      smallEnds (tgWritten 3 w) && decide (smallFresh (tgFlushed (tgWritten 3 w)).remote
        ≠ some (span (arrayOf 4 ((tgFlushed (tgWritten 3 w)).content Channel.document 4)) 0 1)))
      = some true := by decide +kernel
  -- A write, the flush that cannot send, and a write.
  have hretried : Run smallStorage.backend Policy.sparing smallCommitting smallOpened
      smallRetried := by
    rcases exec_tgWritten 1 smallOpened with ⟨r, hr⟩
    rcases exec_tgRefused (tgWritten 1 smallOpened) with ⟨r', hr'⟩
    rcases exec_tgWritten 2 (tgRefused (tgWritten 1 smallOpened)) with ⟨r'', hr''⟩
    exact .next _ _ (.write 0 [2]) r'' (.next _ _ .flush r' (.next _ _ (.write 0 [1]) r .start hr)
      hr') hr''
  rcases hcut : smallCut with _ | w
  · rw [hcut] at hcheck
    cases hcheck
  · rw [hcut] at hcheck
    rcases hopen : w.reopen with msg | w'
    · simp only [Option.bind_some, hopen, Except.toOption] at hcheck
      cases hcheck
    · simp only [Option.bind_some, hopen, Except.toOption, Option.map_some, Option.some.injEq,
        Bool.and_eq_true, decide_eq_true_eq] at hcheck
      have hcrash : Exec (DeviceEnv smallStorage.backend Policy.sparing)
          ((Request.flush).program smallCommitting) smallRetried .crashed w := by
        refine exec_of_crashAt (S := deviceSig) _ (diskCut 0)
          (deviceRun_program smallStorage Channel.run telegram_run _) (fun e s s' hs => ?_) 8 _ _ _
          hcut
        cases e with
        | disk l =>
            have hspares : l.Spares s 0 := by
              cases l <;> simp [LocalOp.Spares]
            exact ⟨0, hspares, (Option.some.inj hs).symm⟩
        | call c => cases hs
      rcases exec_tgWritten 3 w' with ⟨r, hr⟩
      rcases exec_tgFlushed _ hcheck.1 with ⟨hflush, hfew⟩
      -- The flush that dies, the restart, a write and a flush.
      have hfresh := hall ⟨7⟩ smallFormatted (tgWritten 3 w') _ _ formatted_small
        (.next _ _ (.write 0 [3]) r (.restart smallRetried w w' .flush .crashed hretried hcrash
          hopen) hr) hflush .start (fun m hm hno => absurd hm hno) hfew
      exact hcheck.2 (hfresh.small _ _)

end Small

end TgDrive
