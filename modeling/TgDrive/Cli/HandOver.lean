import TgDrive.Cli.Persistence
import TgDrive.Cli.Serve
import TgDrive.Cli.Stocked
import TgDrive.Core.Concurrent

/-!
# Hand-Over between Machines

One device over one channel, served by one machine after the other. A session
begins with the command that serves the device: with the manifest the machine
has stored, or, if it has none, with the one it recovers from the channel. It
goes on with requests that are answered, and ends with a flush that succeeds.

A stored manifest is compared with the channel by its UUID alone. A machine
that comes back after another one has served the device therefore goes on where
it was. As long as every session is on the machine of the session before or on
a machine that has no manifest, each begins with what the one before flushed,
and what it sends is of a greater generation than everything in the channel.

## Main definitions

* `Handed`: A device whose flushed state is what the channel announces.
* `Requests`: Requests that are answered.
* `Opens`: The device a machine serves.
* `HandOver`: Sessions of machines, one after the other.
* `Continues`: A session on the machine before, or on a new one.

## Theorems

* `Handed.ends`: What a request keeps.
* `Requests.handed`: What requests keep.
* `opens_stored`, `opens_new`: How a session begins.
* `HandOver.fleet`: What sessions keep.
* `hand_over`: A session takes up where the one before ended.
-/

namespace TgDrive

open Data Effect

section Crates

variable [Crates] (storage : TelegramStorage) (cfg : Config) (dev : BlockDevice)

/-- Everything in the window is of the generation in memory at most, and some
    dirty object, if there is one, is not older than that. Without dirty objects
    the manifest in memory is the stored one and the one that the last message of
    the channel announces, as far as the objects go. -/
structure Handed (w : World Channel) : Prop where
  shaped : w.manifest.Shaped dev.map
  stored : ∀ m, w.store.loadManifest = .ok (some m) → m.Shaped dev.map
  bounded : w.remote.Bounded 200 w.manifest.generation
  ahead : w.store.dirtyRows ≠ [] →
    ∃ d ∈ w.store.dirtyRows, w.manifest.generation ≤ d.generation
  level : w.store.dirtyRows = [] → ∀ m, w.store.loadManifest = .ok (some m) →
    m.generation = w.manifest.generation
  announced : w.store.dirtyRows = [] → ∃ sb m, w.remote.Latest 1 sb ∧
    sb.manifestGeneration = w.manifest.generation ∧ sb.Describes cfg dev.map w.remote m ∧
    m.generation = w.manifest.generation ∧ m.Shaped dev.map ∧
    ∀ id, m.find id = w.manifest.find id

/-- Requests that are answered, one after the other. -/
inductive Requests (w0 : World Channel) : List Request → World Channel → Prop
  | start : Requests w0 [] w0
  | next (reqs : List Request) (w w' : World Channel) (req : Request) (r : Except String Unit)
      (h : Requests w0 reqs w)
      (hreq : Exec (DeviceEnv storage.backend Policy.sparing) (req.program dev) w (.done r) w') :
      Requests w0 (reqs ++ [req]) w'

/-- A request that writes a byte. -/
def Request.Covers : Request → Nat → Prop
  | .write offset bytes, i => offset ≤ i ∧ i < offset + bytes.length
  | _, _ => False

/-- The device a machine serves over a channel. -/
def Opens (E : Env tgSig Channel) (s : LocalStore) (c : Channel) (w : World Channel) : Prop :=
  ∃ m s' c', Exec E (serve storage cfg .telegram s) c (.done (.ok (dev.map, m, s'))) c' ∧
    w = World.served s' m c'

/-- Machines that served the device, one after the other: their stores, the
    last of them, and the device when its session ended. -/
inductive HandOver {ι : Type} [DecidableEq ι]
    (allowed : (ι → LocalStore) → ι → ι → Channel → World Channel → Prop) :
    (ι → LocalStore) → ι → World Channel → Prop
  | formatted (k : ι) (uuid : Uuid) (c : Channel) (hformat : Formatted storage dev uuid c) :
      HandOver allowed (Function.update (fun _ => LocalStore.empty) k
          (World.opened (Manifest.empty uuid dev.map.objectSize dev.map.objectCount) c).store) k
        (World.opened (Manifest.empty uuid dev.map.objectSize dev.map.objectCount) c)
  | session (stores : ι → LocalStore) (last k : ι) (w w0 w1 w2 : World Channel)
      (reqs : List Request) (h : HandOver allowed stores last w)
      (hopen : Opens storage cfg dev Telegram (stores k) w.remote w0)
      (hallowed : allowed stores last k w.remote w0) (hreqs : Requests storage dev w0 reqs w1)
      (hflush : Exec (DeviceEnv storage.backend Policy.sparing) dev.flush w1 (.done (.ok ())) w2) :
      HandOver allowed (Function.update stores k w2.store) k w2

/-- A session is on the machine of the one before or one that has the same
    manifest stored, or on one without a manifest, which no request of its
    start-up fails on. -/
def Continues {ι : Type} (stores : ι → LocalStore) (last k : ι) (c : Channel)
    (w0 : World Channel) : Prop :=
  (stores k).loadManifest = (stores last).loadManifest ∨
    ((stores k).loadManifest = .ok none ∧
      Opens storage cfg dev (Env.ofRun (S := tgSig) Channel.run) (stores k) c w0)

/-- What a session finds and leaves: over any requests, the device reads what
    the one before ended with wherever they do not write, and so does the
    manifest that is announced after the flush. -/
structure TakesUp (w w0 : World Channel) : Prop where
  reads : ∀ reqs w1, Requests storage dev w0 reqs w1 → ∃ a, w1.Reads storage.run dev a ∧
    ∀ i, (∀ req ∈ reqs, ¬req.Covers i) → a i = w.array Channel.document dev.map.objectSize i
  leaves : ∀ reqs w1 w2, Requests storage dev w0 reqs w1 →
    Exec (DeviceEnv storage.backend Policy.sparing) dev.flush w1 (.done (.ok ())) w2 →
    w2.store.dirtyRows = [] ∧ ∃ sb m,
      (recoverRemoteManifest storage cfg).eval Channel.run w2.remote = (.ok (sb, m), w2.remote) ∧
      (∀ id, m.find id = w2.manifest.find id) ∧
      ∀ i, (∀ req ∈ reqs, ¬req.Covers i) →
        m.array dev.map w2.remote i = w.array Channel.document dev.map.objectSize i

theorem Bounded.mono (c : Channel) (limit generation generation' : Nat)
    (h : c.Bounded limit generation) (hle : generation ≤ generation') :
    c.Bounded limit generation' :=
  fun m hm sb hsb => Nat.le_trans (h m hm sb hsb) hle

/-- Writing leaves a dirty object that is not older than the manifest. -/
theorem Wrote.ahead (w w' : World Channel)
    (h : Wrote storage.backend Channel.document dev w w')
    (hw : w.store.dirtyRows ≠ [] →
      ∃ d ∈ w.store.dirtyRows, w.manifest.generation ≤ d.generation) :
    w'.store.dirtyRows ≠ [] → ∃ d ∈ w'.store.dirtyRows, w'.manifest.generation ≤ d.generation := by
  -- Rows that are found as before are listed as before.
  have hsame : ∀ w1 w2 : World Channel, w2.manifest = w1.manifest →
      (∀ id, w2.store.dirtyObject id = w1.store.dirtyObject id) →
      (w1.store.dirtyRows ≠ [] →
        ∃ d ∈ w1.store.dirtyRows, w1.manifest.generation ≤ d.generation) →
      w2.store.dirtyRows ≠ [] →
        ∃ d ∈ w2.store.dirtyRows, w2.manifest.generation ≤ d.generation := by
    intro w1 w2 hmanifest hrows h1 hne
    have hne1 : w1.store.dirtyRows ≠ [] := by
      intro hnone
      rw [LocalStore.dirtyRows_eq_nil] at hnone
      exact hne ((LocalStore.dirtyRows_eq_nil _).mpr fun id => (hrows id).trans (hnone id))
    rcases h1 hne1 with ⟨d, hd, hle⟩
    rw [LocalStore.mem_dirtyRows] at hd
    refine ⟨d, (LocalStore.mem_dirtyRows _ _).mpr ((hrows _).trans hd), ?_⟩
    rw [hmanifest]
    exact hle
  induction h with
  | refl => exact hw
  | tail _ hstep ih =>
      cases hstep with
      | fill hf => exact hsame _ _ hf.manifest hf.dirtyObject ih
      | dirtied id object _ _ hd =>
          intro _
          have hrow := hd.rows id
          rw [if_pos rfl] at hrow
          refine ⟨dirtyRow id _ _, (LocalStore.mem_dirtyRows _ _).mpr hrow, ?_⟩
          rw [hd.manifest]
          exact Nat.le_succ _
      | torn id object _ _ ht => exact hsame _ _ ht.manifest ht.rows ih

theorem Handed.wrote (w w' : World Channel) (h : Handed cfg dev w)
    (hwrote : Wrote storage.backend Channel.document dev w w') : Handed cfg dev w' := by
  have hm := Wrote.marking storage dev w w' hwrote
  have hload := LocalStore.loadManifest_congr _ _ hm.state
  refine ⟨?_, ?_, ?_, Wrote.ahead storage dev w w' hwrote h.ahead, ?_, ?_⟩
  · rw [hm.manifest]
    exact h.shaped
  · rw [hload]
    exact h.stored
  · rw [hm.remote, hm.manifest]
    exact h.bounded
  · intro hrows
    rw [hload, hm.manifest]
    exact h.level (hm.rows hrows)
  · intro hrows
    rw [hm.remote, hm.manifest]
    exact h.announced (hm.rows hrows)

/-- A flush does not go back behind the manifest in memory, and some dirty
    object is of its generation. -/
theorem Handed.bumped (w : World Channel) (h : Handed cfg dev w) (hrows : w.store.dirtyRows ≠ []) :
    w.manifest.generation ≤ w.bumped.generation ∧
      ∃ d ∈ w.store.dirtyRows, w.bumped.generation ≤ d.generation := by
  rcases newGeneration_rows w.store.dirtyRows (w.manifest.generation + 1) hrows with
    ⟨⟨dmax, hmem, hmax⟩, hall⟩
  rcases h.ahead hrows with ⟨d, hd, hle⟩
  exact ⟨Nat.le_trans hle (hall d hd), dmax, hmem, Nat.le_of_eq hmax⟩

/-- What a call sends is of the generation in memory at most. -/
theorem bounded_commit (m : Manifest) (c c' : Channel) (generation : Nat)
    (h : c.Bounded 200 generation) (hle : generation ≤ m.generation)
    (hc : CommitStopped m dev.map.deviceSize dev.map.logicalSectorSize dev.map.objectSize c c') :
    c'.Bounded 200 m.generation := by
  have hm := Bounded.mono c 200 _ _ h hle
  rcases hc with hq | ⟨c1, sb, b, hann, hup⟩
  · exact hm.quiet _ hq.grows hq.plain
  · exact Bounded.upserts c1 c' sb b 200 _ (hm.quiet _ hann.quiet.grows hann.quiet.plain) hup
      (Nat.le_of_eq hann.generation)

/-- Uploads that stop keep what is bounded. -/
theorem bounded_stopped (w w' : World Channel) (h : SendStopped storage.backend w w')
    (hbound : w.remote.Bounded 200 w.bumped.generation) :
    w'.remote.Bounded 200 w.bumped.generation := by
  rcases h with ⟨_, sent, s, _, hup, hremote⟩
  have hq := hup.quiet storage _ _ _ _ _ _
  have hs := hbound.quiet _ hq.grows hq.plain
  have hsend : ∀ (d : DirtyObject) (b : Bytes) (o : Outcome RemoteObjectRef),
      Exec Telegram (storage.program (d.send b)) s o w'.remote →
      w'.remote.Bounded 200 w.bumped.generation := by
    intro d b o hex
    have hpost := (wp_iff_exec _ _ _ _).mp (wp_sendObject storage _ _ _ _ s) o _ hex
    have hone : w'.remote = s ∨ ∃ gap, w'.remote = s.sent gap d.objectId d.generation b (sha256Hex b) := by
      rcases o with (msg | ref) | _
      · exact hpost
      · rcases hpost with ⟨gap, _, hc, _⟩
        exact Or.inr ⟨gap, hc⟩
      · exact hpost
    rcases hone with hsame | ⟨gap, hsent⟩
    · rw [hsame]
      exact hs
    · have hq' := Channel.Quiet.sent s gap d.objectId d.generation b (sha256Hex b)
      rw [hsent]
      exact hs.quiet _ hq'.grows hq'.plain
  rcases hremote with hsame | ⟨d, b, _, _, ⟨r, hstep⟩ | hcrash⟩
  · rw [hsame]
    exact hs
  · exact hsend d b (.done r) hstep
  · exact hsend d b .crashed hcrash

variable (hdevice : dev.map.deviceSize = cfg.deviceSize)
  (hobject : dev.map.objectSize = cfg.objectSize)

/-- A flush that leaves the store alone, with dirty objects in it. -/
theorem Handed.kept (w w' : World Channel) (h : Handed cfg dev w)
    (hrows : w.store.dirtyRows ≠ []) (hstore : w'.store = w.store)
    (hshaped : w'.manifest.Shaped dev.map) (hgen : w'.manifest.generation = w.bumped.generation)
    (hbounded : w'.remote.Bounded 200 w'.manifest.generation) : Handed cfg dev w' where
  shaped := hshaped
  stored := fun m hload => h.stored m (by rw [← hstore]; exact hload)
  bounded := hbounded
  ahead := fun _ => by
    rw [hstore, hgen]
    exact (h.bumped cfg dev w hrows).2
  level := fun hnone => absurd (by rw [← hstore]; exact hnone) hrows
  announced := fun hnone => absurd (by rw [← hstore]; exact hnone) hrows

include hdevice hobject

/-- A flush whose manifest was committed. -/
theorem Handed.committed (hc : dev.committer = true) (w w' : World Channel) (s : Channel)
    (h : Handed cfg dev w) (hdur : Durable Channel.document dev.map w')
    (hrows : w.store.dirtyRows ≠ [])
    (hup : Uploads storage.backend w.store.files w.bumped w.remote w.store.dirtyRows w'.manifest s)
    (hs : Committed storage.backend dev w'.manifest s w'.remote)
    (hstore : w'.store = w.store ∨ (w'.store.loadManifest = .ok (some w'.manifest) ∧
      ∀ d ∈ w.store.dirtyRows, w'.store.dirtyRows ≠ [] → d ∈ w'.store.dirtyRows)) :
    Handed cfg dev w' := by
  have hbound : w.remote.Bounded 200 w.bumped.generation :=
    Bounded.mono w.remote 200 _ _ h.bounded (h.bumped cfg dev w hrows).1
  have hshaped := hup.shaped storage _ _ _ _ _ _ dev.map (h.shaped.bumped w dev.map)
  have hgen := hup.generation
  have hq := hup.quiet storage _ _ _ _ _ _
  rw [Committed, if_pos hc] at hs
  have hstopped := (wp_done _ _ _ _ _ _ (wp_commitManifest storage w'.manifest _ _ _ s) hs).1
  have hbounded : w'.remote.Bounded 200 w'.manifest.generation :=
    bounded_commit dev w'.manifest s w'.remote w.bumped.generation
      (hbound.quiet _ hq.grows hq.plain) (Nat.le_of_eq hgen.symm) hstopped
  rcases hstore with hsame | ⟨hload, hstay⟩
  · exact h.kept cfg dev w w' hrows hsame hshaped hgen hbounded
  · refine ⟨hshaped, fun m hm => ?_, hbounded, fun hne => ?_, fun _ m hm => ?_, fun hnone => ?_⟩
    · rw [hload, Except.ok.injEq, Option.some.injEq] at hm
      rw [← hm]
      exact hshaped
    · rcases (h.bumped cfg dev w hrows).2 with ⟨d, hd, hle⟩
      exact ⟨d, hstay d hd hne, by rw [hgen]; exact hle⟩
    · rw [hload, Except.ok.injEq, Option.some.injEq] at hm
      rw [← hm]
    · -- Nothing is dirty any more, and the superblock that was sent announces the manifest.
      rcases commit_first storage cfg dev hdevice hobject w'.manifest w.remote s w'.remote hq hs
        (by rw [hgen]; exact hbound) hshaped (fun id e hfind =>
          hdur.live id e ((LocalStore.dirtyRows_eq_nil _).mp hnone id) hfind) with
        ⟨sb, hlatest, hsame, _, hdesc⟩
      exact ⟨sb, w'.manifest, hlatest, hsame, hdesc, rfl, hshaped, fun _ => rfl⟩

/-- However a flush ends. -/
theorem Handed.flushed (hc : dev.committer = true) (o : Outcome Unit) (w w' : World Channel)
    (h : Handed cfg dev w) (hdur : Durable Channel.document dev.map w')
    (hf : Flushed storage.backend dev w o w') : Handed cfg dev w' := by
  have hbumped := h.shaped.bumped w dev.map
  have hbound : w.store.dirtyRows ≠ [] → w.remote.Bounded 200 w.bumped.generation :=
    fun hrows => Bounded.mono w.remote 200 _ _ h.bounded (h.bumped cfg dev w hrows).1
  cases hf with
  | idle _ => exact h
  | early _ _ _ hstore hmanifest hremote =>
      refine ⟨?_, ?_, ?_, ?_, ?_, ?_⟩
      · rw [hmanifest]
        exact h.shaped
      · rw [hstore]
        exact h.stored
      · rw [hremote, hmanifest]
        exact h.bounded
      · rw [hstore, hmanifest]
        exact h.ahead
      · rw [hstore, hmanifest]
        exact h.level
      · rw [hstore, hmanifest, hremote]
        exact h.announced
  | stopped _ _ _ hrows hstop =>
      have hbounded := bounded_stopped storage w w' hstop (hbound hrows)
      rcases hstop with ⟨hstore, sent, s, _, hup, _⟩
      exact h.kept cfg dev w w' hrows hstore (hup.shaped storage _ _ _ _ _ _ dev.map hbumped)
        hup.generation (by rw [hup.generation]; exact hbounded)
  | refused _ _ s _ hrows _ hup hs hstore =>
      have hq := hup.quiet storage _ _ _ _ _ _
      have hstopped : CommitStopped w'.manifest dev.map.deviceSize dev.map.logicalSectorSize
          dev.map.objectSize s w'.remote := by
        rcases hs with ⟨msg, hstep⟩ | hcrash
        · exact (wp_done _ _ _ _ _ _ (wp_commitManifest storage w'.manifest _ _ _ s) hstep).1
        · exact wp_crashed _ _ _ _ _ (wp_commitManifest storage w'.manifest _ _ _ s) hcrash
      exact h.kept cfg dev w w' hrows hstore (hup.shaped storage _ _ _ _ _ _ dev.map hbumped)
        hup.generation (bounded_commit dev w'.manifest s w'.remote w.bumped.generation
          ((hbound hrows).quiet _ hq.grows hq.plain) (Nat.le_of_eq hup.generation.symm) hstopped)
  | cut _ _ s _ hrows hup hs hstore =>
      refine h.committed storage cfg dev hdevice hobject hc w w' s hdur hrows hup hs ?_
      rcases hstore with hsame | hset | hclear
      · exact Or.inl hsame
      · rw [hset]
        exact Or.inr ⟨LocalStore.loadManifest_setManifestState _ _, fun d hd _ => hd⟩
      · rw [hclear]
        exact Or.inr ⟨LocalStore.loadManifest_setManifestState w'.manifest w.store,
          fun d _ hne => absurd ((LocalStore.dirtyRows_eq_nil _).mpr
            fun id => LocalStore.dirtyObject_clear _ id) hne⟩
  | finished _ s hrows hup hs hstore =>
      refine h.committed storage cfg dev hdevice hobject hc w w' s hdur hrows hup hs (Or.inr ?_)
      rw [hstore]
      exact ⟨LocalStore.loadManifest_setManifestState w'.manifest w.store,
        fun d _ hne => absurd ((LocalStore.dirtyRows_eq_nil _).mpr
          fun id => LocalStore.dirtyObject_clear _ id) hne⟩

/-- However a request ends. -/
theorem Handed.ends (hc : dev.committer = true) (hsize : 0 < dev.map.objectSize)
    (req : Request) (o : Outcome Unit) (w w' : World Channel) (h : Handed cfg dev w)
    (hdur : Durable Channel.document dev.map w)
    (hreq : Exec (DeviceEnv storage.backend Policy.sparing) (req.program dev) w o w') :
    Handed cfg dev w' := by
  rcases request_steps storage dev req o w w' hdur.consistent hreq with hwrote | hflushed
  · exact h.wrote storage cfg dev w w' hwrote
  · have hdur' := (Request.ends (returns_storage storage) (echoes_storage storage) careful_sparing
      dev hsize req o w w' hreq hdur _ (shows_array Channel.document dev.map.objectSize w)).1
    exact h.flushed storage cfg dev hdevice hobject hc o w w' hdur' hflushed

omit [Crates] hdevice hobject in
/-- Arrays that agree on the object of a byte agree there. -/
theorem agree_at (size : Nat) (hsize : 0 < size) (a b : Nat → UInt8) (i : Nat)
    (h : Agree size (i / size) a b) : a i = b i := by
  have hmod := Nat.mod_lt i hsize
  have hdiv : i / size * size + i % size = i := by
    rw [Nat.mul_comm]
    exact Nat.div_add_mod i size
  have hget := congrArg (fun l => l[i % size]?) h
  simp only [getElem?_span _ _ _ _ hmod, hdiv, Option.some.injEq] at hget
  exact hget

omit [Crates] hdevice hobject in
/-- A byte no request writes stays. -/
theorem apply_other (req : Request) (a : Nat → UInt8) (i : Nat) (h : ¬req.Covers i) :
    req.apply a i = a i := by
  cases req with
  | write offset bytes =>
      change splice a offset bytes i = a i
      by_cases hlow : offset ≤ i
      · exact splice_after a offset bytes i (by
          by_contra hlt
          exact h ⟨hlow, by omega⟩)
      · exact splice_before a offset bytes i (by omega)
  | _ => rfl

/-- Requests that are answered keep the device handed over and durable, and
    every byte they do not write. -/
theorem Requests.handed (hc : dev.committer = true) (hsize : 0 < dev.map.objectSize)
    (w0 w : World Channel) (reqs : List Request) (h : Requests storage dev w0 reqs w)
    (h0 : Handed cfg dev w0) (hdur0 : Durable Channel.document dev.map w0)
    (hfree : w0.locked = false) : Handed cfg dev w ∧ Durable Channel.document dev.map w ∧
      w.locked = false ∧ ∀ i, (∀ req ∈ reqs, ¬req.Covers i) →
        w.array Channel.document dev.map.objectSize i =
          w0.array Channel.document dev.map.objectSize i := by
  induction h with
  | start => exact ⟨h0, hdur0, hfree, fun _ _ => rfl⟩
  | next reqs w w' req r _ hreq ih =>
      rcases ih with ⟨hw, hdur, hfree', hsame⟩
      rcases Request.ends (returns_storage storage) (echoes_storage storage) careful_sparing dev
        hsize req _ w w' hreq hdur _ (shows_array Channel.document dev.map.objectSize w) with
        ⟨hdur', b, hmixed, hshows⟩
      refine ⟨hw.ends storage cfg dev hdevice hobject hc hsize req _ w w' hdur hreq, hdur',
        (Request.unlocked (returns_storage storage) careful_sparing dev req w w' r hreq
          hdur.consistent).trans hfree', ?_⟩
      intro i hi
      have hkept : b i = w.array Channel.document dev.map.objectSize i := by
        have happly := apply_other req (w.array Channel.document dev.map.objectSize) i
          (hi req (List.mem_append_right _ (List.mem_singleton.mpr rfl)))
        -- The object of the byte is as before or as the request makes it.
        rcases hmixed (i / dev.map.objectSize) with hold | hnew
        · exact agree_at _ hsize _ _ i hold
        · exact (agree_at _ hsize _ _ i hnew).trans happly
      rw [array_of_content _ hsize w' b i (hshows _), hkept]
      exact hsame i (fun q hq => hi q (List.mem_append_left _ hq))

omit hdevice hobject in
/-- The check at the start only looks at the channel. -/
theorem wp_checkSuperblock (m : Manifest) (c : Channel) :
    wp Telegram (checkSuperblock m) (fun _ c' => c' = c) (fun c' => c' = c) c := by
  unfold checkSuperblock
  refine wp_seq _ _ _ _ _ _ c (wp_recoverSuperblockText c 200) (fun text c' hr => ?_)
    (fun msg c' hr => hr.1) (fun _ hc => hc)
  rw [hr.1]
  rcases text with _ | text
  · exact rfl
  · exact wp_ofExcept_bind _ _ _ _ _ (fun sb _ => (wp_ensure _ _ _ _ _).mpr
      ⟨fun _ => rfl, fun _ => rfl⟩) (fun _ _ => rfl)

omit hdevice hobject in
/-- A machine with a manifest opens the device with that. -/
theorem opens_stored (s : LocalStore) (m : Manifest) (hload : s.loadManifest = .ok (some m))
    (c : Channel) (w0 : World Channel) (h : Opens storage cfg dev Telegram s c w0) :
    w0 = World.served s m c := by
  rcases h with ⟨m', s', c', hex, rfl⟩
  have hsame := (wp_done _ _ _ _ _ _ (wp_serve storage cfg .telegram s m hload c) hex) _ rfl
  have hquiet : wp Telegram (serve storage cfg .telegram s) (fun _ c' => c' = c)
      (fun c' => c' = c) c := by
    unfold serve
    rw [hload]
    change wp Telegram (checkSuperblock m >>= fun _ => do
      let map ← Prog.ofExcept cfg.blockMap
      pure (map, m, s)) _ _ c
    refine wp_seq _ _ _ _ _ _ c (wp_checkSuperblock m c) (fun _ c' hc => ?_)
      (fun _ _ hc => hc) (fun _ hc => hc)
    exact wp_ofExcept_bind _ _ _ _ _ (fun _ _ => hc) (fun _ _ => hc)
  have hc := wp_done _ _ _ _ _ _ hquiet hex
  have hpair := Prod.mk.inj hsame.2
  rw [hc, hpair.1, hpair.2]

omit hdevice hobject in
/-- A start without a manifest that no request fails on, over a channel whose
    newest superblock describes a manifest. -/
theorem eval_serve_new (hmap : cfg.blockMap = .ok dev.map) (hsize : 0 < dev.map.objectSize)
    (c : Channel) (sb : Superblock) (m : Manifest)
    (hfound : c.superblockText 200 = some sb.encodeText) (hdesc : sb.Describes cfg dev.map c m) :
    (serve storage cfg .telegram LocalStore.empty).eval Channel.run c
      = (.ok (dev.map, m, LocalStore.empty.setManifestState m), c) := by
  rcases fresh_reads storage cfg dev hsize c sb m hfound hdesc with ⟨heval, s, w, hstore, _⟩
  have hs := storeManifest_eq_ok m LocalStore.empty s hstore
  unfold serve
  change (recoverRemoteManifest storage cfg >>= fun p => do
    let s ← Prog.ofExcept (storeManifest p.2 LocalStore.empty)
    let map ← Prog.ofExcept cfg.blockMap
    pure (map, p.2, s)).eval Channel.run c = _
  rw [Prog.eval_bind_ok _ _ _ _ _ _ heval, hstore, hmap, hs]
  rfl

omit hdevice hobject in
/-- The newest superblock of a device that is handed over is found. -/
theorem found_of_latest (c : Channel) (sb : Superblock) (hlatest : c.Latest 1 sb)
    (hbound : c.Bounded 200 sb.manifestGeneration) : c.superblockText 200 = some sb.encodeText := by
  rcases hlatest with ⟨before, m, more, hsplit, htext, hplain, hlen⟩
  have hwide : c.Latest 200 sb := ⟨before, m, more, hsplit, htext, hplain, by omega⟩
  exact (Channel.superblockText_iff hwide).mpr hbound

omit hdevice hobject in
/-- A machine without a store opens the device with the announced manifest. -/
theorem opens_new (hmap : cfg.blockMap = .ok dev.map) (hsize : 0 < dev.map.objectSize)
    (w w0 : World Channel) (h : Handed cfg dev w) (hrows : w.store.dirtyRows = [])
    (hopen : Opens storage cfg dev (Env.ofRun (S := tgSig) Channel.run) LocalStore.empty w.remote
      w0) : ∃ sb m, w0 = World.opened m w.remote ∧ w.remote.Latest 1 sb ∧
        sb.manifestGeneration = w.manifest.generation ∧ sb.Describes cfg dev.map w.remote m ∧
        m.generation = w.manifest.generation ∧ m.Shaped dev.map ∧
        ∀ id, m.find id = w.manifest.find id := by
  rcases h.announced hrows with ⟨sb, m, hlatest, hsb, hdesc, hrest⟩
  have hfound := found_of_latest w.remote sb hlatest (by rw [hsb]; exact h.bounded)
  have heval := eval_serve_new storage cfg dev hmap hsize w.remote sb m hfound hdesc
  rcases hopen with ⟨m', s', c', hex, rfl⟩
  have hpost := wp_done _ _ _ _ _ _ ((wp_ofRun Channel.run
    (serve storage cfg .telegram LocalStore.empty)
    (fun r c' => (r, c') = (.ok (dev.map, m, LocalStore.empty.setManifestState m), w.remote))
    (fun _ => True) w.remote).mpr heval) hex
  simp only [Prod.mk.injEq, Except.ok.injEq, true_and] at hpost
  rcases hpost with ⟨⟨rfl, rfl⟩, rfl⟩
  exact ⟨sb, _, rfl, hlatest, hsb, hdesc, hrest⟩

omit [Crates] hdevice hobject in
/-- Two devices over one channel that have the same entries and no dirty
    objects are one array. -/
theorem array_of_find (w w0 : World Channel) (hremote : w0.remote = w.remote)
    (hrows : w.store.dirtyRows = []) (hrows0 : w0.store.dirtyRows = [])
    (hfind : ∀ id, w0.manifest.find id = w.manifest.find id) :
    w0.array Channel.document dev.map.objectSize = w.array Channel.document dev.map.objectSize := by
  refine congrArg (arrayOf dev.map.objectSize) (funext fun id => ?_)
  rw [World.content_clean _ _ _ id ((LocalStore.dirtyRows_eq_nil _).mp hrows0 id),
    World.content_clean _ _ _ id ((LocalStore.dirtyRows_eq_nil _).mp hrows id), hremote]
  exact Manifest.content_congr _ _ _ _ _ (hfind id)

omit hdevice hobject in
/-- What is durable over a channel is so over one that has grown. -/
theorem Durable.grows (s : LocalStore) (m : Manifest) (c c' : Channel)
    (h : Durable Channel.document dev.map (World.served s m c)) (hc : c.Grows c') :
    Durable Channel.document dev.map (World.served s m c') where
  consistent := {
    path := h.consistent.path
    clean := by
      intro id e hd hf hz
      rcases h.consistent.clean id e hd hf hz with ⟨r, b, hr, hb, hfile⟩
      exact ⟨r, b, hr, hc.document c c' _ _ hb, hfile⟩ }
  rows := h.rows
  live := fun id e hd hf hz =>
    ManifestObject.Live.mono _ _ e (h.live id e hd hf hz) (hc.document c c')
  ids := h.ids
  stored := h.stored

/-- All machines between two sessions: the device as it was left, and every
    machine without a store or with a device of its own in it. -/
structure Fleet {ι : Type} (stores : ι → LocalStore) (last : ι) (w : World Channel) : Prop where
  handed : Handed cfg dev w
  durable : Durable Channel.document dev.map w
  clean : w.store.dirtyRows = []
  left : stores last = w.store
  machines : ∀ k, stores k = LocalStore.empty ∨ ∃ m, (stores k).loadManifest = .ok (some m) ∧
    (stores k).dirtyRows = [] ∧ Durable Channel.document dev.map (World.served (stores k) m w.remote)

omit hdevice hobject in
/-- A session begins in order when its store has the manifest that is announced
    and nothing is dirty. -/
theorem Handed.begun (w w0 : World Channel) (h : Handed cfg dev w) (hremote : w0.remote = w.remote)
    (hload : w0.store.loadManifest = .ok (some w0.manifest)) (hrows : w0.store.dirtyRows = [])
    (hshaped : w0.manifest.Shaped dev.map)
    (hgen : w0.manifest.generation = w.manifest.generation)
    (hann : ∃ sb m, w.remote.Latest 1 sb ∧ sb.manifestGeneration = w.manifest.generation ∧
      sb.Describes cfg dev.map w.remote m ∧ m.generation = w.manifest.generation ∧
      m.Shaped dev.map ∧ ∀ id, m.find id = w0.manifest.find id) : Handed cfg dev w0 := by
  refine {
    shaped := hshaped
    stored := fun m hm => ?_
    bounded := ?_
    ahead := fun hne => absurd hrows hne
    level := fun _ m hm => ?_
    announced := fun _ => ?_ }
  · rw [hload, Except.ok.injEq, Option.some.injEq] at hm
    rw [← hm]
    exact hshaped
  · rw [hremote, hgen]
    exact h.bounded
  · rw [hload, Except.ok.injEq, Option.some.injEq] at hm
    rw [← hm]
  · rw [hremote, hgen]
    exact hann

omit hdevice hobject in
/-- A session that continues begins with the device as it was left. -/
theorem Fleet.begins {ι : Type} (hmap : cfg.blockMap = .ok dev.map)
    (hsize : 0 < dev.map.objectSize) (stores : ι → LocalStore) (last k : ι) (w w0 : World Channel)
    (h : Fleet cfg dev stores last w)
    (hopen : Opens storage cfg dev Telegram (stores k) w.remote w0)
    (hcont : Continues storage cfg dev stores last k w.remote w0) :
    Handed cfg dev w0 ∧ Durable Channel.document dev.map w0 ∧ w0.locked = false ∧
      w0.remote = w.remote ∧ w0.array Channel.document dev.map.objectSize =
        w.array Channel.document dev.map.objectSize := by
  rcases h.handed.announced h.clean with ⟨sb, m', hlatest, hsb, hdesc, hgen', hshaped', hfind'⟩
  rcases hcont with hsame | ⟨hnone, hundisturbed⟩
  · -- The machine has the manifest of the last session.
    rcases h.durable.stored with ⟨m, hload, _, hfind⟩
    have hfound : ∀ id, m.find id = w.manifest.find id := fun id =>
      hfind id ((LocalStore.dirtyRows_eq_nil _).mp h.clean id)
    have hgen := h.handed.level h.clean m hload
    rw [h.left, hload] at hsame
    rcases h.machines k with hempty | ⟨m1, hm1, hrows, hdur⟩
    · rw [hempty] at hsame
      cases hsame
    · rw [hsame, Except.ok.injEq, Option.some.injEq] at hm1
      rw [← hm1] at hdur
      have hw0 := opens_stored storage cfg dev (stores k) m hsame w.remote w0 hopen
      rw [hw0]
      refine ⟨?_, hdur, rfl, rfl, array_of_find dev w _ rfl h.clean hrows hfound⟩
      exact Handed.begun cfg dev w _ h.handed rfl hsame hrows (h.handed.stored m hload) hgen
        ⟨sb, m', hlatest, hsb, hdesc, hgen', hshaped', fun id => (hfind' id).trans (hfound id).symm⟩
  · -- The machine has no store and takes the manifest from the channel.
    rcases h.machines k with hempty | ⟨m1, hm1, _⟩
    · rw [hempty] at hundisturbed
      rcases opens_new storage cfg dev hmap hsize w w0 h.handed h.clean hundisturbed with
        ⟨sb, m, hw0, hlatest, hsb, hdesc, hgen, hshaped, hfind⟩
      have hload := LocalStore.loadManifest_setManifestState m LocalStore.empty
      rw [hw0]
      refine ⟨?_, durable_opened dev.map m w.remote hdesc.sound, rfl, rfl,
        array_of_find dev w _ rfl h.clean rfl hfind⟩
      exact Handed.begun cfg dev w _ h.handed rfl hload rfl hshaped hgen
        ⟨sb, m, hlatest, hsb, hdesc, hgen, hshaped, fun _ => rfl⟩
    · rw [hnone] at hm1
      cases hm1

omit hdevice hobject in
/-- The channel grows in requests. -/
theorem Requests.grows (w0 w : World Channel) (reqs : List Request)
    (h : Requests storage dev w0 reqs w) : w0.remote.Grows w.remote := by
  induction h with
  | start => exact Channel.Grows.refl _
  | next reqs w w' req r _ hreq ih => exact ih.trans _ _ _ (device_grows storage _ _ _ w w' hreq)

/-- A formatted device, and the store of the machine that formatted it. -/
theorem fleet_formatted {ι : Type} [DecidableEq ι] (k : ι) (uuid : Uuid) (c : Channel)
    (hformat : Formatted storage dev uuid c) :
    Fleet cfg dev (Function.update (fun _ => LocalStore.empty) k
        (World.opened (Manifest.empty uuid dev.map.objectSize dev.map.objectCount) c).store) k
      (World.opened (Manifest.empty uuid dev.map.objectSize dev.map.objectCount) c) := by
  rcases formatted_first storage cfg dev hdevice hobject uuid c hformat with
    ⟨hshaped, sb, hlatest, hsb, hbound, hdesc⟩
  have hload := LocalStore.loadManifest_setManifestState
    (Manifest.empty uuid dev.map.objectSize dev.map.objectCount) LocalStore.empty
  have hdur := durable_opened dev.map _ c (sound_empty dev.map uuid c.document)
  have hstored : ∀ m, (World.opened (Manifest.empty uuid dev.map.objectSize dev.map.objectCount)
      c).store.loadManifest = .ok (some m) →
      m = Manifest.empty uuid dev.map.objectSize dev.map.objectCount := by
    intro m hm
    rw [World.opened, hload, Except.ok.injEq, Option.some.injEq] at hm
    exact hm.symm
  exact {
    handed := {
      shaped := hshaped
      stored := fun m hm => by
        rw [hstored m hm]
        exact hshaped
      bounded := by
        rw [hsb] at hbound
        exact hbound
      ahead := fun hne => absurd rfl hne
      level := fun _ m hm => by
        rw [hstored m hm]
        rfl
      announced := fun _ => ⟨sb, _, hlatest, hsb, hdesc, rfl, hshaped, fun _ => rfl⟩ }
    durable := hdur
    clean := rfl
    left := Function.update_self _ _ _
    machines := fun j => by
      by_cases hj : j = k
      · rw [hj, Function.update_self]
        exact Or.inr ⟨_, hload, rfl, hdur⟩
      · rw [Function.update_of_ne hj]
        exact Or.inl rfl }

/-- Sessions of which each continues keep the machines in step. -/
theorem HandOver.fleet {ι : Type} [DecidableEq ι] (hmap : cfg.blockMap = .ok dev.map)
    (hc : dev.committer = true) (hsize : 0 < dev.map.objectSize) (stores : ι → LocalStore)
    (last : ι) (w : World Channel)
    (h : HandOver storage cfg dev (Continues storage cfg dev) stores last w) :
    Fleet cfg dev stores last w := by
  induction h with
  | formatted k uuid c hformat =>
      exact fleet_formatted storage cfg dev hdevice hobject k uuid c hformat
  | session stores last k w w0 w1 w2 reqs _ hopen hcont hreqs hflush ih =>
      rcases ih.begins storage cfg dev hmap hsize stores last k w w0 hopen hcont with
        ⟨hhanded0, hdur0, hfree0, hremote, _⟩
      have hall := hreqs.next reqs w1 w2 .flush _ hflush
      rcases hall.handed storage cfg dev hdevice hobject hc hsize w0 w2 _ hhanded0 hdur0 hfree0
        with ⟨hhanded, hdur, _, _⟩
      have hclean := Flushed.cleared dev w1 w2 (wp_done _ _ _ _ _ _ (wp_flush dev w1) hflush).1
      have hgrows := hall.grows storage dev w0 w2
      rw [hremote] at hgrows
      refine ⟨hhanded, hdur, hclean, Function.update_self _ _ _, fun j => ?_⟩
      by_cases hj : j = k
      · rw [hj, Function.update_self]
        rcases hdur.stored with ⟨m, hload, _, _⟩
        rcases hdur.reopen with ⟨w3, hw3, hdur3, _⟩
        rw [World.reopen, hload, Except.ok.injEq] at hw3
        rw [← hw3] at hdur3
        exact Or.inr ⟨m, hload, hclean, hdur3⟩
      · rw [Function.update_of_ne hj]
        rcases ih.machines j with hempty | ⟨m, hload, hrows, hdurj⟩
        · exact Or.inl hempty
        · exact Or.inr ⟨m, hload, hrows, Durable.grows dev (stores j) m _ _ hdurj hgrows⟩

omit hdevice hobject in
/-- A request that is carried out is a step of Telegram. -/
theorem step_run {call : Call} {c c' : Channel} {r : Except String call.Resp}
    (h : (Env.ofRun (S := remoteSig) storage.run).step call c r c') :
    storage.backend.step call c r c' := by
  have hrun : (storage.program call).eval Channel.run c = (r, c') := h
  have hex := exec_of_eval (S := tgSig) (E := Telegram) Channel.run telegram_run
    (storage.program call) c
  rw [hrun] at hex
  exact hex

omit hdevice hobject in
/-- A channel that carries out every request is a backend that returns and
    serves its documents. -/
theorem returns_run : Returns (Env.ofRun (S := remoteSig) storage.run) Channel.document where
  sent := fun objectId generation payload sha ref c c' hs =>
    (returns_storage storage).sent objectId generation payload sha ref c c' (step_run storage hs)
  fetched := fun ref b c c' hs => (returns_storage storage).fetched ref b c c' (step_run storage hs)
  got := fun ids out c c' hs => (returns_storage storage).got ids out c c' (step_run storage hs)
  keeps := fun call c r c' hs => (returns_storage storage).keeps call c r c' (step_run storage hs)
  crashKeeps := fun _ _ _ hs => by cases hs

omit hdevice hobject in
theorem serves_run : Serves (Env.ofRun (S := remoteSig) storage.run) Channel.document := by
  intro ref c r c' b e hs hb hdec hsum
  have hrun : (TelegramStorage.fetchObject ref).eval Channel.run c = (r, c') := hs
  rw [eval_fetchObject c ref b e hb hdec hsum] at hrun
  exact ⟨b, (Prod.mk.inj hrun).1.symm⟩

/-- A machine without a store can open a device that was just formatted. -/
theorem opens_formatted (hmap : cfg.blockMap = .ok dev.map) (hsize : 0 < dev.map.objectSize)
    (E : Env tgSig Channel) (hE : ∀ e s, E.step e s (Channel.run e s).1 (Channel.run e s).2)
    (uuid : Uuid) (c : Channel) (hformat : Formatted storage dev uuid c) :
    Opens storage cfg dev E LocalStore.empty
      (World.opened (Manifest.empty uuid dev.map.objectSize dev.map.objectCount) c).remote
      (World.opened (Manifest.empty uuid dev.map.objectSize dev.map.objectCount) c) := by
  rcases formatted_first storage cfg dev hdevice hobject uuid c hformat with
    ⟨_, sb, hlatest, _, hbound, hdesc⟩
  have heval := eval_serve_new storage cfg dev hmap hsize c sb _
    (found_of_latest c sb hlatest hbound) hdesc
  have hex := exec_of_eval (S := tgSig) (E := E) Channel.run hE
    (serve storage cfg .telegram LocalStore.empty) c
  rw [heval] at hex
  exact ⟨_, _, _, hex, rfl⟩

omit hdevice hobject in
/-- A machine with a manifest can open the device if its check of the channel
    passes. -/
theorem opens_checked (hmap : cfg.blockMap = .ok dev.map) (s : LocalStore) (m : Manifest)
    (hload : s.loadManifest = .ok (some m)) (c : Channel)
    (hcheck : ((checkSuperblock m).eval Channel.run c).1.isOk = true) :
    Opens storage cfg dev Telegram s c (World.served s m c) := by
  have hex := exec_of_eval (S := tgSig) (E := Telegram) Channel.run telegram_run
    (checkSuperblock m) c
  have hc := wp_done _ _ _ _ _ _ (wp_checkSuperblock m c) hex
  have heval : (checkSuperblock m).eval Channel.run c = (.ok (), c) := by
    rcases hr : ((checkSuperblock m).eval Channel.run c).1 with msg | u
    · rw [hr] at hcheck
      cases hcheck
    · exact Prod.ext hr hc
  have hserve : (serve storage cfg .telegram s).eval Channel.run c = (.ok (dev.map, m, s), c) := by
    unfold serve
    rw [hload]
    change (checkSuperblock m >>= fun _ => do
      let map ← Prog.ofExcept cfg.blockMap
      pure (map, m, s)).eval Channel.run c = _
    rw [Prog.eval_bind_ok _ _ _ _ _ _ heval, hmap]
    rfl
  have hall := exec_of_eval (S := tgSig) (E := Telegram) Channel.run telegram_run
    (serve storage cfg .telegram s) c
  rw [hserve] at hall
  exact ⟨m, s, c, hall, rfl⟩

omit hdevice hobject in
/-- In every run of sessions of which each is on a machine that has the
    manifest of the session before stored, or on one that has none and whose
    start no request fails on, the next such session reads what the one before
    flushed and hands it on. -/
theorem hand_over {ι : Type} [DecidableEq ι] (hfits : cfg.Machine)
    (hmap : cfg.blockMap = .ok dev.map) (hc : dev.committer = true)
    (hsize : 0 < dev.map.objectSize) (stores : ι → LocalStore) (last k : ι) (w w0 : World Channel)
    (h : HandOver storage cfg dev (Continues storage cfg dev) stores last w)
    (hopen : Opens storage cfg dev Telegram (stores k) w.remote w0)
    (hcont : Continues storage cfg dev stores last k w.remote w0) :
    TakesUp storage cfg dev w w0 := by
  rcases cfg.blockMap_sizes hfits dev.map hmap with ⟨hdevice, hobject⟩
  have hfleet := h.fleet storage cfg dev hdevice hobject hmap hc hsize stores last w
  rcases hfleet.begins storage cfg dev hmap hsize stores last k w w0 hopen hcont with
    ⟨hhanded0, hdur0, hfree0, _, harray⟩
  constructor
  · intro reqs w1 hreqs
    rcases hreqs.handed storage cfg dev hdevice hobject hc hsize w0 w1 reqs hhanded0 hdur0 hfree0
      with ⟨_, hdur, hfree, hsame⟩
    refine ⟨w1.array Channel.document dev.map.objectSize, fun offset len hin => ?_, fun i hi => ?_⟩
    · exact hdur.reads storage.run (returns_run storage) (serves_run storage) dev hsize hfree _
        (shows_array Channel.document dev.map.objectSize w1) offset len hin
    · rw [hsame i hi, harray]
  · intro reqs w1 w2 hreqs hflush
    have hclean := Flushed.cleared dev w1 w2 (wp_done _ _ _ _ _ _ (wp_flush dev w1) hflush).1
    have hall := hreqs.next reqs w1 w2 .flush _ hflush
    rcases hall.handed storage cfg dev hdevice hobject hc hsize w0 w2 _ hhanded0 hdur0 hfree0
      with ⟨hhanded, _, _, hsame⟩
    rcases hhanded.announced hclean with ⟨sb, m, hlatest, hsb, hdesc, _, _, hfind⟩
    have hfound := found_of_latest w2.remote sb hlatest (by rw [hsb]; exact hhanded.bounded)
    refine ⟨hclean, sb, m, (fresh_reads storage cfg dev hsize w2.remote sb m hfound hdesc).1, hfind,
      fun i hi => ?_⟩
    -- The manifest that is announced is the device after the flush.
    have hmanifest : m.array dev.map w2.remote = w2.array Channel.document dev.map.objectSize :=
      array_of_find dev w2 (World.opened m w2.remote) rfl hclean rfl hfind
    rw [hmanifest, hsame i ?_, harray]
    intro req hreq
    rcases List.mem_append.mp hreq with hold | hlast
    · exact hi req hold
    · rw [List.mem_singleton.mp hlast]
      exact id

end Crates

section Small

attribute [local instance] concreteCrates

/-- The configuration of the small device, sectors included. -/
def sectorConfig : Config := { smallConfig with logicalSectorSize := 2 }

theorem blockMap_sector : sectorConfig.blockMap = .ok smallCommitting.map := rfl

/-- The first session of a machine that did not format the device. -/
theorem hand_over_small : TakesUp smallStorage sectorConfig smallCommitting smallOpened
    smallOpened := by
  have hopens : ∀ E : Env tgSig Channel,
      (∀ e s, E.step e s (Channel.run e s).1 (Channel.run e s).2) →
      Opens smallStorage sectorConfig smallCommitting E LocalStore.empty smallOpened.remote
        smallOpened :=
    fun E hE => opens_formatted smallStorage sectorConfig smallCommitting rfl rfl blockMap_sector
      (by decide) E hE ⟨7⟩ smallFormatted formatted_small
  have hformatted : HandOver smallStorage sectorConfig smallCommitting
      (Continues smallStorage sectorConfig smallCommitting) _ false smallOpened :=
    .formatted false ⟨7⟩ smallFormatted formatted_small
  exact hand_over smallStorage sectorConfig smallCommitting ⟨by decide, by decide, by decide⟩
    blockMap_sector rfl (by decide) _ false true smallOpened smallOpened hformatted
    (hopens Telegram telegram_run) (Or.inr ⟨rfl, hopens _ (fun _ _ => rfl)⟩)

/-- The machine that formatted the device, after another one has written to
    it. -/
def smallReturned (w : World Channel) : World Channel :=
  World.served smallOpened.store (Manifest.empty ⟨7⟩ 4 2) w.remote

/-- Whether that machine can serve the device, and reads its first byte as it
    was. -/
def smallStale (w : World Channel) : Bool :=
  smallEnds w && ((checkSuperblock (Manifest.empty ⟨7⟩ 4 2)).eval Channel.run
    (tgFlushed w).remote).1.isOk &&
  decide (((smallCommitting.readAt 0 1).eval (deviceRun smallStorage.run)
    (smallReturned (tgFlushed w))).1.toOption ≠
      some (span ((tgFlushed w).array Channel.document 4) 0 1))

/-- One machine formats the device and another writes to it. The first then
    reads it as it was. -/
theorem hand_over_stale : ¬∀ (stores : Bool → LocalStore) (last k : Bool) (w w0 : World Channel),
    HandOver smallStorage sectorConfig smallCommitting (fun _ _ _ _ _ => True) stores last w →
    Opens smallStorage sectorConfig smallCommitting Telegram (stores k) w.remote w0 →
    TakesUp smallStorage sectorConfig smallCommitting w w0 := by
  intro hall
  have hcheck : smallStale (tgWritten 1 smallOpened) = true := by decide +kernel
  have hopens : Opens smallStorage sectorConfig smallCommitting Telegram LocalStore.empty
      smallOpened.remote smallOpened :=
    opens_formatted smallStorage sectorConfig smallCommitting rfl rfl blockMap_sector (by decide)
      Telegram telegram_run ⟨7⟩ smallFormatted formatted_small
  rcases exec_tgWritten 1 smallOpened with ⟨r, hwrite⟩
  generalize tgWritten 1 smallOpened = w1 at hcheck hwrite
  rw [smallStale, Bool.and_eq_true, Bool.and_eq_true, decide_eq_true_eq] at hcheck
  rcases exec_tgFlushed w1 hcheck.1.1 with ⟨hflush, _⟩
  -- The other machine writes and flushes.
  have hrun : HandOver smallStorage sectorConfig smallCommitting (fun _ _ _ _ _ => True) _ true
      (tgFlushed w1) :=
    .session _ false true smallOpened smallOpened w1 (tgFlushed w1) [.write 0 [1]]
      (.formatted false ⟨7⟩ smallFormatted formatted_small) hopens trivial
      (.next [] smallOpened w1 (.write 0 [1]) r .start hwrite) hflush
  have hagain := opens_checked smallStorage sectorConfig smallCommitting blockMap_sector
    smallOpened.store (Manifest.empty ⟨7⟩ 4 2) (LocalStore.loadManifest_setManifestState _ _)
    (tgFlushed w1).remote hcheck.1.2
  rcases (hall _ true false (tgFlushed w1) _ hrun hagain).reads [] _ .start with ⟨a, hreads, hsame⟩
  have hread := hreads 0 1 (by decide)
  refine hcheck.2 ?_
  rw [smallReturned, hread, span_congr a _ 0 1 (fun i _ _ => hsame i (fun _ h => by cases h))]
  rfl

end Small

end TgDrive
