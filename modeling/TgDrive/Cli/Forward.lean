import TgDrive.Cli.Format
import TgDrive.Core.Generations

/-!
# Which Way Generations Go

A flush takes the generation of its manifest from the dirty rows and not from
the manifest it changes. As long as a session finds no rows but those of
sessions before it on the same manifest, that makes no difference: a row is of
the generation after the manifest's, and a manifest that is stored or sent is
of the generation of a row. A recovery from the channel breaks the tie. It
puts a manifest of any generation next to the rows there are, and if all of
those are older, the next flush goes back to the newest of them.

`Lifetime` is the life of one store: sessions that write and flush and may fail
or die anywhere, restarts, and recoveries in between. `Forward` is the
invariant of a session whose flushes were all `Fresh`.

## Main definitions

* `Manifest.Capped`: No entry is newer than its manifest.
* `Lifetime`: Sessions on one store, with recoveries between them.
* `Fresh`: The dirty rows are not all older than the loaded manifest.
* `CommitsAs`: The manifest a flush commits.

## Theorems

* `Forward.flushed`: A fresh flush keeps the invariant.
* `generation_forward_iff`: A flush goes forward when it is fresh.
* `generation_back`: A flush that goes back.
-/

namespace TgDrive

open Data Effect

/-- No entry is newer than its manifest. -/
def Manifest.Capped (m : Manifest) : Prop := ∀ e ∈ m.objects, e.generation ≤ m.generation

/-- An entry after an upload is one from before, or of the generation of the
    uploaded row. -/
theorem mem_updateFirst (id : Nat) (f : ManifestObject → ManifestObject) (e : ManifestObject) :
    ∀ objects : List ManifestObject, e ∈ updateFirst id f objects →
      e ∈ objects ∨ ∃ e0 ∈ objects, e = f e0 := by
  intro objects
  induction objects with
  | nil => exact fun h => absurd h List.not_mem_nil
  | cons o rest ih =>
      intro h
      by_cases ho : o.objectId = id
      · rw [updateFirst, if_pos ho] at h
        rcases List.mem_cons.mp h with rfl | hrest
        · exact Or.inr ⟨o, List.mem_cons_self, rfl⟩
        · exact Or.inl (List.mem_cons_of_mem o hrest)
      · rw [updateFirst, if_neg ho] at h
        rcases List.mem_cons.mp h with rfl | hrest
        · exact Or.inl List.mem_cons_self
        · rcases ih hrest with hold | ⟨e0, he0, hf⟩
          · exact Or.inl (List.mem_cons_of_mem o hold)
          · exact Or.inr ⟨e0, List.mem_cons_of_mem o he0, hf⟩

section Crates

variable {ρ : Type} [Crates] {B : Backend ρ} {P : Policy (ρ × List Manifest)}

theorem Uploads.mem_objects {files : CachePath → Option Bytes} {m0 m : Manifest}
    {s0 s : ρ × List Manifest} {sent : List DirtyObject}
    (h : Uploads (Ledger B) files m0 s0 sent m s) (e : ManifestObject) (he : e ∈ m.objects) :
    e ∈ m0.objects ∨ ∃ d ∈ sent, e.generation = d.generation := by
  induction h generalizing e with
  | none => exact Or.inl he
  | next sent m m' s s' d b ref h hd hs hm ih =>
      obtain ⟨e1, _, rfl⟩ := recordUpload_eq_some m m' d ref _ hm
      rcases mem_updateFirst d.objectId _ e m.objects he with hold | ⟨e0, _, rfl⟩
      · rcases ih e hold with hbefore | ⟨d', hd', hgen⟩
        · exact Or.inl hbefore
        · exact Or.inr ⟨d', List.mem_append_left _ hd', hgen⟩
      · exact Or.inr ⟨d, List.mem_append_right _ (List.mem_singleton_self d), rfl⟩

/-- The dirty rows, if there are any, are not all older than the manifest the
    session loaded. -/
def Fresh (loaded : Manifest) (w : World (ρ × List Manifest)) : Prop :=
  w.store.dirtyRows ≠ [] →
    ∃ id d, w.store.dirtyObject id = some d ∧ loaded.generation ≤ d.generation

/-- The life of a store. While a session runs, the manifest it loaded is kept;
    between sessions there is none. Each request may fail or end the process
    anywhere, and a condition may be put on its flushes. A recovery puts in a
    manifest of the device as a flush somewhere committed it. -/
inductive Lifetime (ok : Manifest → World (ρ × List Manifest) → Prop) (B : Backend ρ)
    (P : Policy (ρ × List Manifest)) (w0 : World (ρ × List Manifest)) :
    Option Manifest → World (ρ × List Manifest) → Prop
  | formatted : Lifetime ok B P w0 none w0
  | serve (w w' : World (ρ × List Manifest)) (h : Lifetime ok B P w0 none w)
      (hopen : w.reopen = .ok w') : Lifetime ok B P w0 (some w'.manifest) w'
  | request (loaded : Manifest) (w w' : World (ρ × List Manifest)) (dev : BlockDevice) (req : Request)
      (r : Except String Unit) (h : Lifetime ok B P w0 (some loaded) w)
      (hok : req = .flush → ok loaded w)
      (hex : Exec (DeviceEnv (Ledger B) P) (req.program dev) w (.done r) w') :
      Lifetime ok B P w0 (some loaded) w'
  | crash (loaded : Manifest) (w w' : World (ρ × List Manifest)) (dev : BlockDevice) (req : Request)
      (h : Lifetime ok B P w0 (some loaded) w) (hok : req = .flush → ok loaded w)
      (hex : Exec (DeviceEnv (Ledger B) P) (req.program dev) w .crashed w') :
      Lifetime ok B P w0 none w'
  | stop (loaded : Manifest) (w : World (ρ × List Manifest))
      (h : Lifetime ok B P w0 (some loaded) w) : Lifetime ok B P w0 none w
  | recover (w : World (ρ × List Manifest)) (m : Manifest) (s : LocalStore)
      (h : Lifetime ok B P w0 none w) (hm : m.Capped)
      (huuid : m.deviceUuid = w0.manifest.deviceUuid) (hstore : storeManifest m w.store = .ok s) :
      Lifetime ok B P w0 none { w with store := s }

/-- The manifest a flush commits: one that reached the channel, or, when it
    succeeds with something to upload, the one it stores. -/
def CommitsAs (w w' : World (ρ × List Manifest)) (o : Outcome Unit) (m : Manifest) : Prop :=
  w'.remote.2 = w.remote.2 ++ [m] ∨
    (o = .done (.ok ()) ∧ w.store.dirtyRows ≠ [] ∧ m = w'.manifest)

omit [Crates] in
theorem append_ne_self {α : Type} (l : List α) (a : α) : l ≠ l ++ [a] := by
  intro h
  have hlen := congrArg List.length h
  rw [List.length_append, List.length_singleton] at hlen
  omega

/-- What a flush commits is its manifest with all rows entered. -/
theorem Flushed.commits (dev : BlockDevice) (w w' : World (ρ × List Manifest)) (o : Outcome Unit)
    (m : Manifest) (h : Flushed (Ledger B) dev w o w') (hm : CommitsAs w w' o m) :
    w.store.dirtyRows ≠ [] ∧ ∃ s,
      Uploads (Ledger B) w.store.files w.bumped w.remote w.store.dirtyRows m s := by
  -- Nothing reached the channel.
  have hsame : w'.remote.2 = w.remote.2 → o ≠ .done (.ok ()) → False := by
    intro hlist ho
    rcases hm with hm | ⟨hok, _⟩
    · exact append_ne_self _ m (hlist.symm.trans hm)
    · exact ho hok
  -- If something did, it is the manifest in memory.
  have hthis : ∀ s, w.store.dirtyRows ≠ [] →
      Uploads (Ledger B) w.store.files w.bumped w.remote w.store.dirtyRows w'.manifest s →
      w'.remote.2 = w.remote.2 ++ [w'.manifest] ∨ w'.remote.2 = w.remote.2 →
      w.store.dirtyRows ≠ [] ∧ ∃ s,
        Uploads (Ledger B) w.store.files w.bumped w.remote w.store.dirtyRows m s := by
    intro s hrows hup hlist
    have heq : m = w'.manifest := by
      rcases hm with hm | ⟨_, _, hm⟩
      · rcases hlist with hlist | hlist
        · rw [hlist] at hm
          exact (List.singleton_inj.mp (List.append_cancel_left hm)).symm
        · exact absurd (hlist.symm.trans hm) (append_ne_self _ m)
      · exact hm
    rw [heq]
    exact ⟨hrows, s, hup⟩
  have hcommitted : ∀ s, Uploads (Ledger B) w.store.files w.bumped w.remote w.store.dirtyRows
      w'.manifest s → Committed (Ledger B) dev w'.manifest s w'.remote →
      w'.remote.2 = w.remote.2 ++ [w'.manifest] ∨ w'.remote.2 = w.remote.2 := by
    intro s hup hs
    by_cases hc : dev.committer = true
    · exact Or.inl (committed_reached dev hc w w' s hup hs)
    · unfold Committed at hs
      rw [if_neg hc] at hs
      rw [hs]
      exact Or.inr hup.reached
  cases h with
  | idle hnone =>
      rcases hm with hm | ⟨_, hrows, _⟩
      · exact absurd hm (append_ne_self _ m)
      · exact absurd hnone hrows
  | early _ _ ho _ _ hremote => exact (hsame (by rw [hremote]) ho).elim
  | stopped _ _ ho _ hstop => exact (hsame (stopped_reached w w' hstop) ho).elim
  | refused _ _ s _ hrows _ hup hs _ => exact hthis s hrows hup (refused_reached dev w w' s hup hs)
  | cut _ _ s _ hrows hup hs _ => exact hthis s hrows hup (hcommitted s hup hs)
  | finished _ s hrows hup hs _ => exact hthis s hrows hup (hcommitted s hup hs)

/-- A session whose flushes went forward: the manifest in memory is not behind
    the loaded one, and the rows are not behind the manifest in memory unless
    they are all older than the loaded one and nothing has been written yet. -/
structure Forward (loaded : Manifest) (w : World (ρ × List Manifest)) : Prop where
  up : loaded.generation ≤ w.manifest.generation
  capped : w.manifest.Capped
  top : w.store.dirtyRows ≠ [] →
    (∃ id d, w.store.dirtyObject id = some d ∧ w.manifest.generation ≤ d.generation) ∨
    (w.manifest.generation = loaded.generation ∧
      ∀ id d, w.store.dirtyObject id = some d → d.generation < loaded.generation)

/-- The stored manifest has no entry newer than itself. -/
def StoredCapped (s : LocalStore) : Prop :=
  ∀ m : Manifest, s.loadManifest = .ok (some m) → m.Capped

namespace Forward

variable {loaded : Manifest} {w w' : World (ρ × List Manifest)}

/-- What a flush offers goes forward if the flush is fresh. -/
theorem offered (h : Forward loaded w) (hfresh : Fresh loaded w) (hrows : w.store.dirtyRows ≠ [])
    {sent : List DirtyObject} {m : Manifest} {s : ρ × List Manifest}
    (hpre : sent <+: w.store.dirtyRows)
    (hup : Uploads (Ledger B) w.store.files w.bumped w.remote sent m s) :
    loaded.generation ≤ m.generation ∧ m.Capped ∧
      ∃ id d, w.store.dirtyObject id = some d ∧ m.generation ≤ d.generation := by
  have hgen : m.generation
      = BlockDevice.newGeneration w.store.dirtyRows (w.manifest.generation + 1) := hup.generation
  obtain ⟨⟨dmax, hmax, hmax'⟩, hall⟩ :=
    newGeneration_rows w.store.dirtyRows (w.manifest.generation + 1) hrows
  rw [← hgen] at hmax' hall
  have hrow : ∀ id d, w.store.dirtyObject id = some d → d.generation ≤ m.generation := by
    intro id d hd
    have hid := w.store.objectId_of_dirtyObject id d hd
    exact hall d ((LocalStore.mem_dirtyRows w.store d).mpr (by rw [hid]; exact hd))
  have hmemory : w.manifest.generation ≤ m.generation := by
    rcases h.top hrows with ⟨id, d, hd, hle⟩ | ⟨_, hold⟩
    · exact Nat.le_trans hle (hrow id d hd)
    · obtain ⟨id, d, hd, hle⟩ := hfresh hrows
      have hlt := hold id d hd
      omega
  refine ⟨Nat.le_trans h.up hmemory, fun e he => ?_, dmax.objectId, dmax,
    (LocalStore.mem_dirtyRows w.store dmax).mp hmax, Nat.le_of_eq hmax'⟩
  rcases hup.mem_objects e he with hold | ⟨d, hd, heq⟩
  · exact Nat.le_trans (h.capped e hold) hmemory
  · rw [heq]
    exact hall d (hpre.subset hd)

/-- A fresh flush keeps the invariant, however it ends, and what it stores is
    capped. -/
theorem flushed (h : Forward loaded w) (hstored : StoredCapped w.store) (hfresh : Fresh loaded w)
    (dev : BlockDevice) (o : Outcome Unit) (hflush : Flushed (Ledger B) dev w o w') :
    Forward loaded w' ∧ StoredCapped w'.store := by
  -- The rows are there still, and the manifest has some of them entered.
  have hsome : ∀ sent s, w.store.dirtyRows ≠ [] → sent <+: w.store.dirtyRows →
      Uploads (Ledger B) w.store.files w.bumped w.remote sent w'.manifest s →
      (∀ id, w'.store.dirtyObject id = w.store.dirtyObject id) → Forward loaded w' := by
    intro sent s hrows hpre hup hsame
    obtain ⟨hle, hcap, id, d, hd, htop⟩ := h.offered hfresh hrows hpre hup
    exact ⟨hle, hcap, fun _ => Or.inl ⟨id, d, (hsame id).trans hd, htop⟩⟩
  have hcleared : ∀ s, w.store.dirtyRows ≠ [] →
      Uploads (Ledger B) w.store.files w.bumped w.remote w.store.dirtyRows w'.manifest s →
      w'.store = (w.store.setManifestState w'.manifest).clearDirtyAndWal →
      Forward loaded w' ∧ StoredCapped w'.store := by
    intro s hrows hup hstore
    obtain ⟨hle, hcap, _⟩ := h.offered hfresh hrows (List.prefix_refl _) hup
    refine ⟨⟨hle, hcap, fun hne => absurd ?_ hne⟩, fun m hm => ?_⟩
    · rw [hstore]
      exact (LocalStore.dirtyRows_eq_nil _).mpr fun _ => rfl
    · rw [hstore, LocalStore.loadManifest_congr _ _ (LocalStore.manifestState_clear _),
        LocalStore.loadManifest_setManifestState, Except.ok.injEq, Option.some.injEq] at hm
      rw [← hm]
      exact hcap
  cases hflush with
  | idle _ => exact ⟨h, hstored⟩
  | early _ _ _ hstore hmanifest _ =>
      refine ⟨⟨?_, ?_, ?_⟩, ?_⟩
      · rw [hmanifest]
        exact h.up
      · rw [hmanifest]
        exact h.capped
      · rw [hmanifest, hstore]
        exact h.top
      · rw [hstore]
        exact hstored
  | stopped _ _ _ hrows hstop =>
      obtain ⟨hstore, sent, s, hpre, hup, _⟩ := hstop
      refine ⟨hsome sent s hrows hpre hup fun id => by rw [hstore], ?_⟩
      rw [hstore]
      exact hstored
  | refused _ _ s _ hrows _ hup _ hstore =>
      refine ⟨hsome _ s hrows (List.prefix_refl _) hup fun id => by rw [hstore], ?_⟩
      rw [hstore]
      exact hstored
  | cut _ _ s _ hrows hup _ hstore =>
      rcases hstore with hstore | hstore | hstore
      · refine ⟨hsome _ s hrows (List.prefix_refl _) hup fun id => by rw [hstore], ?_⟩
        rw [hstore]
        exact hstored
      · refine ⟨hsome _ s hrows (List.prefix_refl _) hup fun id => by rw [hstore]; rfl,
          fun m hm => ?_⟩
        rw [hstore, LocalStore.loadManifest_setManifestState, Except.ok.injEq,
          Option.some.injEq] at hm
        rw [← hm]
        exact (h.offered hfresh hrows (List.prefix_refl _) hup).2.1
      · exact hcleared s hrows hup hstore
  | finished _ s hrows hup _ hstore => exact hcleared s hrows hup hstore

/-- Writing keeps the invariant: a row it puts in is newer than the manifest. -/
theorem marked (h : Forward loaded w) (hstored : StoredCapped w.store) (hsteps : Marked w w') :
    Forward loaded w' ∧ StoredCapped w'.store := by
  induction hsteps with
  | refl => exact ⟨h, hstored⟩
  | tail _ hstep ih =>
      obtain ⟨hforward, hcap⟩ := ih
      rcases hstep with hsame | hmark
      · refine ⟨⟨?_, ?_, ?_⟩, fun m hm => ?_⟩
        · rw [hsame.manifest]
          exact hforward.up
        · rw [hsame.manifest]
          exact hforward.capped
        · rw [hsame.manifest]
          simp only [LocalStore.dirtyRows, LocalStore.dirtyObject, hsame.rows]
          exact hforward.top
        · rw [LocalStore.loadManifest_congr _ _ hsame.state] at hm
          exact hcap m hm
      · obtain ⟨d, hgen, hrows⟩ := hmark.row
        refine ⟨⟨?_, ?_, fun _ => Or.inl ⟨d.objectId, d, ?_, ?_⟩⟩, fun m hm => ?_⟩
        · rw [hmark.manifest]
          exact hforward.up
        · rw [hmark.manifest]
          exact hforward.capped
        · rw [hrows, if_pos rfl]
        · rw [hmark.manifest]
          omega
        · rw [LocalStore.loadManifest_congr _ _ hmark.state] at hm
          exact hcap m hm

/-- However a request ends whose flush is fresh, it keeps the invariant. -/
theorem ends (h : Forward loaded w) (hstored : StoredCapped w.store) (dev : BlockDevice)
    (req : Request) (hok : req = .flush → Fresh loaded w) (o : Outcome Unit)
    (hex : Exec (DeviceEnv (Ledger B) P) (req.program dev) w o w') :
    Forward loaded w' ∧ StoredCapped w'.store := by
  have hpost : wp (DeviceEnv (Ledger B) P) (req.program dev)
      (fun _ w' => Forward loaded w' ∧ StoredCapped w'.store)
      (fun w' => Forward loaded w' ∧ StoredCapped w'.store) w := by
    cases req with
    | read offset len =>
        refine wp_mono _ _ _ _ _ (fun _ w1 hr => h.marked hstored (Marked.of_unmarked _ _ hr))
          (fun w1 hr => h.marked hstored (Marked.of_unmarked _ _ hr)) _ (wp_quiet _ ?_ w)
        exact only_bind _ _ (readAt_quiet dev offset len) fun _ => trivial
    | write offset bytes =>
        exact wp_mono _ _ _ _ _ (fun _ w1 hr => h.marked hstored hr)
          (fun w1 hr => h.marked hstored hr) _ (wp_writeAt_marked dev offset bytes w)
    | flush =>
        exact wp_mono _ _ _ _ _ (fun _ w1 hr => h.flushed hstored (hok rfl) dev _ hr.1)
          (fun w1 hr => h.flushed hstored (hok rfl) dev _ hr) _ (wp_flush dev w)
  have hall := (wp_iff_exec _ _ _ _).mp hpost o w' hex
  cases o with
  | done r => exact hall
  | crashed => exact hall

end Forward

/-- A store whose flushes were fresh keeps a capped manifest, and its sessions
    go forward. -/
theorem Lifetime.forward (w0 : World (ρ × List Manifest))
    (hcap : StoredCapped w0.store) (session : Option Manifest) (w : World (ρ × List Manifest))
    (h : Lifetime Fresh B P w0 session w) :
    StoredCapped w.store ∧ ∀ loaded, session = some loaded → Forward loaded w := by
  induction h with
  | formatted => exact ⟨hcap, fun loaded hl => by cases hl⟩
  | serve w w' _ hopen ih =>
      unfold World.reopen at hopen
      rcases hload : w.store.loadManifest with msg | _ | m
      · rw [hload] at hopen
        cases hopen
      · rw [hload] at hopen
        cases hopen
      · rw [hload, Except.ok.injEq] at hopen
        rw [← hopen]
        refine ⟨ih.1, fun loaded hl => ?_⟩
        rw [← Option.some.inj hl]
        refine ⟨Nat.le_refl _, ih.1 m hload, fun _ => ?_⟩
        -- Either some row is not older than the manifest, or all are.
        by_cases hrow : ∃ id d, w.store.dirtyObject id = some d ∧ m.generation ≤ d.generation
        · exact Or.inl hrow
        · refine Or.inr ⟨rfl, fun id d hd => ?_⟩
          by_contra hlt
          exact hrow ⟨id, d, hd, Nat.le_of_not_lt hlt⟩
  | request loaded w w' dev req r _ hok hex ih =>
      have hend := (ih.2 loaded rfl).ends ih.1 dev req hok _ hex
      refine ⟨hend.2, fun loaded' hl => ?_⟩
      rw [← Option.some.inj hl]
      exact hend.1
  | crash loaded w w' dev req _ hok hex ih =>
      exact ⟨((ih.2 loaded rfl).ends ih.1 dev req hok _ hex).2, fun loaded' hl => by cases hl⟩
  | stop loaded w _ ih => exact ⟨ih.1, fun loaded' hl => by cases hl⟩
  | recover w m s _ hm _ hstore ih =>
      refine ⟨fun x hx => ?_, fun loaded' hl => by cases hl⟩
      rw [storeManifest_eq_ok m w.store s hstore, LocalStore.loadManifest_setManifestState,
        Except.ok.injEq, Option.some.injEq] at hx
      rw [← hx]
      exact hm

/-- In the life of a store whose flushes so far were fresh, a flush commits a
    manifest that is not behind the one the session loaded, and has no entry
    newer than itself, exactly when it is fresh. -/
theorem generation_forward_iff (B : Backend ρ) (P : Policy (ρ × List Manifest)) (dev : BlockDevice)
    (w0 : World (ρ × List Manifest)) (hcap : StoredCapped w0.store) (loaded : Manifest)
    (w : World (ρ × List Manifest)) (h : Lifetime Fresh B P w0 (some loaded) w)
    (o : Outcome Unit) (w' : World (ρ × List Manifest))
    (hex : Exec (DeviceEnv (Ledger B) P) dev.flush w o w') (m : Manifest)
    (hm : CommitsAs w w' o m) :
    (loaded.generation ≤ m.generation ∧ ∀ e ∈ m.objects, e.generation ≤ m.generation) ↔
      Fresh loaded w := by
  have hforward := (h.forward w0 hcap).2 loaded rfl
  have hflushed : Flushed (Ledger B) dev w o w' := by
    have hall := (wp_iff_exec _ _ _ _).mp (wp_flush dev w) o w' hex
    cases o with
    | done r => exact hall.1
    | crashed => exact hall
  obtain ⟨hrows, s, hup⟩ := hflushed.commits dev w w' o m hm
  constructor
  · rintro ⟨hle, _⟩ _
    have hgen : m.generation
        = BlockDevice.newGeneration w.store.dirtyRows (w.manifest.generation + 1) := hup.generation
    obtain ⟨⟨d, hd, hmax⟩, _⟩ :=
      newGeneration_rows w.store.dirtyRows (w.manifest.generation + 1) hrows
    refine ⟨d.objectId, d, (LocalStore.mem_dirtyRows w.store d).mp hd, ?_⟩
    omega
  · intro hfresh
    obtain ⟨hle, hcap', _⟩ := hforward.offered hfresh hrows (List.prefix_refl _) hup
    exact ⟨hle, hcap'⟩

end Crates

section Small

attribute [local instance] concreteCrates

theorem eq_ok_of_toOption (x : Except String Unit) (h : x.toOption = some ()) : x = .ok () := by
  cases x with
  | ok u => rfl
  | error msg => cases h

/-- The formatted manifest of the small device. -/
def formattedManifest : Manifest := Manifest.empty ⟨7⟩ 4 2

/-- A manifest of the same device that another machine committed. -/
def newerManifest : Manifest := { formattedManifest with generation := 5 }

theorem storedCapped_announced : StoredCapped (World.announced formattedManifest
    (MemoryBackend.new (-100)) : World (MemoryBackend × List Manifest)).store := by
  intro m hm
  have hload := LocalStore.loadManifest_setManifestState formattedManifest LocalStore.empty
  rw [show (World.announced formattedManifest (MemoryBackend.new (-100)) :
    World (MemoryBackend × List Manifest)).store =
      LocalStore.empty.setManifestState formattedManifest from rfl, hload, Except.ok.injEq,
    Option.some.injEq] at hm
  rw [← hm]
  exact (by decide : ∀ e ∈ formattedManifest.objects, e.generation ≤ formattedManifest.generation)

/-- A first session, after its first write. -/
theorem lifetime_marked (ok : Manifest → World (MemoryBackend × List Manifest) → Prop)
    (P : Policy (MemoryBackend × List Manifest)) :
    Lifetime ok (Env.ofRun (S := remoteSig) MemoryBackend.commits) P
      (World.announced formattedManifest (MemoryBackend.new (-100)))
      (some formattedManifest) smallMarked := by
  have hopen : (World.announced formattedManifest (MemoryBackend.new (-100)) :
      World (MemoryBackend × List Manifest)).reopen =
        .ok (World.announced formattedManifest (MemoryBackend.new (-100))) := by
    unfold World.reopen
    rw [show (World.announced formattedManifest (MemoryBackend.new (-100)) :
      World (MemoryBackend × List Manifest)).store =
        LocalStore.empty.setManifestState formattedManifest from rfl,
      LocalStore.loadManifest_setManifestState]
    rfl
  have hserve : Lifetime ok (Env.ofRun (S := remoteSig) MemoryBackend.commits) P
      (World.announced formattedManifest (MemoryBackend.new (-100)))
      (some formattedManifest) (World.announced formattedManifest (MemoryBackend.new (-100))) :=
    .serve _ _ .formatted hopen
  exact .request _ _ smallMarked smallCommitting (.write 0 [1, 2, 3, 4]) _ hserve
    (fun hflush => by cases hflush) (exec_small _ P _)

/-- The first flush of a store goes forward. -/
theorem generation_forward_small :
    formattedManifest.generation ≤ smallSettled.manifest.generation ∧
      ∀ e ∈ smallSettled.manifest.objects, e.generation ≤ smallSettled.manifest.generation := by
  have hcommits : CommitsAs smallMarked smallSettled
      (.done (smallCommitting.flush.eval (deviceRun (ledgerRun MemoryBackend.commits))
        smallMarked).1) smallSettled.manifest := by
    exact Or.inr ⟨congrArg Outcome.done (eq_ok_of_toOption _ (by decide +kernel)),
      by decide +kernel, rfl⟩
  refine (generation_forward_iff (Env.ofRun (S := remoteSig) MemoryBackend.commits) Policy.quiet
    smallCommitting _ storedCapped_announced formattedManifest smallMarked (lifetime_marked Fresh _)
    _ smallSettled (exec_small _ _ _) smallSettled.manifest hcommits).mpr fun hrows => ?_
  obtain ⟨d, rest, hd⟩ := List.exists_cons_of_ne_nil hrows
  have hmem : d ∈ smallMarked.store.dirtyRows := by
    rw [hd]
    exact List.mem_cons_self
  exact ⟨d.objectId, d, (LocalStore.mem_dirtyRows _ d).mp hmem, Nat.zero_le _⟩

/-- The store of the first session after a recovery, and what a flush makes of
    it. -/
def smallRecovered : World (MemoryBackend × List Manifest) :=
  { smallMarked with
    store := smallMarked.store.setManifestState newerManifest
    manifest := newerManifest
    locked := false }

def smallBack : World (MemoryBackend × List Manifest) :=
  (smallCommitting.flush.eval (deviceRun (ledgerRun MemoryBackend.commits)) smallRecovered).2

/-- A flush after a recovery next to an older row: it commits a manifest of the
    generation of the row, which is behind the one that was recovered. -/
theorem generation_back : ¬∀ (loaded : Manifest) (w w' : World (MemoryBackend × List Manifest))
    (o : Outcome Unit) (m : Manifest),
    Lifetime (fun _ _ => True) (Env.ofRun (S := remoteSig) MemoryBackend.commits) Policy.quiet
      (World.announced formattedManifest (MemoryBackend.new (-100))) (some loaded) w →
    Exec (DeviceEnv (Ledger (Env.ofRun (S := remoteSig) MemoryBackend.commits)) Policy.quiet)
      smallCommitting.flush w o w' → CommitsAs w w' o m →
    loaded.generation ≤ m.generation ∧ ∀ e ∈ m.objects, e.generation ≤ m.generation := by
  intro hall
  have hrecovered : Lifetime (fun _ _ => True)
      (Env.ofRun (S := remoteSig) MemoryBackend.commits) Policy.quiet
      (World.announced formattedManifest (MemoryBackend.new (-100)))
      (some newerManifest) smallRecovered := by
    refine .serve { smallMarked with store := smallMarked.store.setManifestState newerManifest }
      smallRecovered (.recover smallMarked newerManifest _ (.stop _ _ (lifetime_marked _ _))
        (by decide : ∀ e ∈ newerManifest.objects, e.generation ≤ newerManifest.generation) rfl
        (storeManifest_ok _ _ (by decide))) ?_
    unfold World.reopen
    rw [LocalStore.loadManifest_setManifestState]
    rfl
  have hback : (smallCommitting.flush.eval (deviceRun (ledgerRun MemoryBackend.commits))
      smallRecovered).1.toOption = some () ∧ smallRecovered.store.dirtyRows ≠ [] ∧
      smallBack.manifest.generation = 1 := by decide +kernel
  obtain ⟨hok, hrows, hgen⟩ := hback
  have hforward := (hall newerManifest smallRecovered smallBack _ smallBack.manifest hrecovered
    (exec_small _ _ _) (Or.inr ⟨congrArg Outcome.done (eq_ok_of_toOption _ hok), hrows, rfl⟩)).1
  rw [hgen] at hforward
  exact absurd hforward (by decide)

end Small

end TgDrive
