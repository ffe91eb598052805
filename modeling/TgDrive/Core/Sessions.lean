import TgDrive.Core.Clients

/-!
# Clients, Flushes and Restarts

The whole life of a device that several clients share, as the connections of a
server do. They read and write at the same time, in spells between which the
device is flushed, or the process dies and starts again. A spell may be broken
off anywhere, also in the middle of an operation. Flushes are alone here: one
that runs while a client writes may drop what was written.

`Paced` is what one spell needs of what came before it, beside a device that
can be reopened: entries are not newer than their manifest, rows not older,
and what is stored not newer than what is in memory. It is kept by spells,
flushes however they end, and restarts.

So a run of spells is one of the clients on a flat array of which they read or
store one object at a time, and if each request is for a range inside one
object, and each write for all of it, one of requests that take effect at one
moment each. Flushes and restarts do not show. Clients may share any other
state, and talk about what they have seen: since they find the same on the
array, no request takes effect before it is made or after it has returned.

## Main definitions

* `Paced`: How the generations of a device are in order.
* `Spell`: Clients that were at work together, and what they ended with.
* `Sessions`, `SessionsOn`: Runs of spells, on a device and on an array.
* `WholeEnv`, `ClientOp.whole`: An array, one request at a time.
* `ClientOp.Aligned`: A request for one object.

## Theorems

* `Paced.beside`, `Paced.flushed`, `Paced.reopen`: What keeps the order.
* `clients_atomic`, `clients_crash`: One spell.
* `sessions_atomic`: Any run, one object at a time.
* `simulates_aligned`: A request for one object.
* `sessions_linearizable`: Any run of such requests, one request at a time.
-/

namespace TgDrive

open Data Effect

section Crates

variable {ρ α ι : Type} [Crates] {B : Backend ρ} {P : Policy ρ} {raw : ρ → Int → Option Bytes}

/-- Entries are not newer than their manifest, in memory and where it is
    stored, the stored one is not newer than the one in memory, and the rows,
    if there are any, are not all older than that. -/
structure Paced (w : World ρ) : Prop where
  within : w.manifest.Within w.manifest.generation
  rows : w.store.dirtyRows ≠ [] →
    ∃ id d, w.store.dirtyObject id = some d ∧ w.manifest.generation ≤ d.generation
  stored : ∀ m : Manifest, w.store.loadManifest = .ok (some m) →
    m.Within m.generation ∧ m.generation ≤ w.manifest.generation

/-- Uploaded entries are of the generation of their rows. -/
theorem Uploads.within {files : CachePath → Option Bytes} {m0 m : Manifest} {s0 s : ρ}
    {sent : List DirtyObject} (h : Uploads B files m0 s0 sent m s) (generation : Nat)
    (hm0 : m0.Within generation) (hsent : ∀ d ∈ sent, d.generation ≤ generation) :
    m.Within generation := by
  induction h with
  | none => exact hm0
  | next sent m m' s s' d b ref h hd hs hm ih =>
      intro id e hf
      rw [find_recordUpload m m' d ref _ hm] at hf
      by_cases hid : id = d.objectId
      · rw [if_pos hid] at hf
        rcases Option.map_eq_some_iff.mp hf with ⟨e0, _, rfl⟩
        exact hsent d (List.mem_append_right _ (List.mem_singleton_self d))
      · rw [if_neg hid] at hf
        exact ih (fun d' hd' => hsent d' (List.mem_append_left _ hd')) id e hf

namespace Paced

variable {w w' : World ρ}

/-- What a flush offers is in order with the rows it takes. -/
theorem offered (h : Paced w) (hrows : w.store.dirtyRows ≠ []) {sent : List DirtyObject}
    {m : Manifest} {s : ρ} (hpre : sent <+: w.store.dirtyRows)
    (hup : Uploads B w.store.files w.bumped w.remote sent m s) :
    w.manifest.generation ≤ m.generation ∧ m.Within m.generation ∧
      ∃ id d, w.store.dirtyObject id = some d ∧ m.generation ≤ d.generation := by
  rcases newGeneration_rows w.store.dirtyRows (w.manifest.generation + 1) hrows with
    ⟨⟨dmax, hmax, htop⟩, hall⟩
  have hgen : m.generation
      = BlockDevice.newGeneration w.store.dirtyRows (w.manifest.generation + 1) := hup.generation
  rw [← hgen] at htop hall
  have hle : w.manifest.generation ≤ m.generation := by
    rcases h.rows hrows with ⟨id, d, hd, hle⟩
    have hid := w.store.objectId_of_dirtyObject id d hd
    exact Nat.le_trans hle (hall d ((LocalStore.mem_dirtyRows w.store d).mpr (by rw [hid, hd])))
  refine ⟨hle, hup.within _ (fun id e hf => Nat.le_trans (h.within id e hf) hle)
    fun d hd => hall d (hpre.subset hd), dmax.objectId, dmax,
    (LocalStore.mem_dirtyRows w.store dmax).mp hmax, Nat.le_of_eq htop⟩

/-- The order depends on the manifests and the rows only. -/
theorem congr (h : Paced w) (hmanifest : w'.manifest = w.manifest) (hstore : w'.store = w.store) :
    Paced w' := by
  refine ⟨?_, ?_, ?_⟩
  · rw [hmanifest]
    exact h.within
  · rw [hmanifest, hstore]
    exact h.rows
  · rw [hmanifest, hstore]
    exact h.stored

/-- A flush keeps the order, however it ends. -/
theorem flushed (h : Paced w) (dev : BlockDevice) (o : Outcome Unit)
    (hflush : Flushed B dev w o w') : Paced w' := by
  -- The rows are there still, and some of them are entered.
  have hkept : ∀ sent s, w.store.dirtyRows ≠ [] → sent <+: w.store.dirtyRows →
      Uploads B w.store.files w.bumped w.remote sent w'.manifest s →
      (∀ id, w'.store.dirtyObject id = w.store.dirtyObject id) →
      (∀ m : Manifest, w'.store.loadManifest = .ok (some m) →
        w.store.loadManifest = .ok (some m) ∨ m = w'.manifest) → Paced w' := by
    intro sent s hrows hpre hup hsame hstored
    rcases h.offered hrows hpre hup with ⟨hle, hwithin, id, d, hd, htop⟩
    refine ⟨hwithin, fun _ => ⟨id, d, (hsame id).trans hd, htop⟩, fun m hm => ?_⟩
    rcases hstored m hm with hold | rfl
    · exact ⟨(h.stored m hold).1, Nat.le_trans (h.stored m hold).2 hle⟩
    · exact ⟨hwithin, Nat.le_refl _⟩
  -- All of them are entered and stored, and gone.
  have hcleared : ∀ s, w.store.dirtyRows ≠ [] →
      Uploads B w.store.files w.bumped w.remote w.store.dirtyRows w'.manifest s →
      w'.store = (w.store.setManifestState w'.manifest).clearDirtyAndWal → Paced w' := by
    intro s hrows hup hstore
    rcases h.offered hrows (List.prefix_refl _) hup with ⟨hle, hwithin, _⟩
    refine ⟨hwithin, fun hne => absurd ?_ hne, fun m hm => ?_⟩
    · rw [hstore]
      exact (LocalStore.dirtyRows_eq_nil _).mpr fun _ => rfl
    · rw [hstore, LocalStore.loadManifest_congr _ _ (LocalStore.manifestState_clear _),
        LocalStore.loadManifest_setManifestState, Except.ok.injEq, Option.some.injEq] at hm
      rw [← hm]
      exact ⟨hwithin, Nat.le_refl _⟩
  cases hflush with
  | idle _ => exact h
  | early _ _ _ hstore hmanifest _ => exact h.congr hmanifest hstore
  | stopped _ _ _ hrows hstop =>
      rcases hstop with ⟨hstore, sent, s, hpre, hup, _⟩
      exact hkept sent s hrows hpre hup (fun id => by rw [hstore])
        fun m hm => Or.inl (by rw [← hstore]; exact hm)
  | refused _ _ s _ hrows _ hup _ hstore =>
      exact hkept _ s hrows (List.prefix_refl _) hup (fun id => by rw [hstore])
        fun m hm => Or.inl (by rw [← hstore]; exact hm)
  | cut _ _ s _ hrows hup _ hstore =>
      rcases hstore with hstore | hstore | hstore
      · exact hkept _ s hrows (List.prefix_refl _) hup (fun id => by rw [hstore])
          fun m hm => Or.inl (by rw [← hstore]; exact hm)
      · refine hkept _ s hrows (List.prefix_refl _) hup (fun id => by rw [hstore]; rfl)
          fun m hm => Or.inr ?_
        rw [hstore, LocalStore.loadManifest_setManifestState, Except.ok.injEq,
          Option.some.injEq] at hm
        exact hm.symm
      · exact hcleared s hrows hup hstore
  | finished _ s hrows hup _ hstore => exact hcleared s hrows hup hstore

/-- A restart keeps the order. -/
theorem reopen (h : Paced w) (hopen : w.reopen = .ok w') : Paced w' := by
  unfold World.reopen at hopen
  split at hopen
  · rename_i m hm
    rw [← Except.ok.inj hopen]
    rcases h.stored m hm with ⟨hwithin, hle⟩
    refine ⟨hwithin, fun hrows => ?_, fun m' hm' => ?_⟩
    · rcases h.rows hrows with ⟨id, d, hd, htop⟩
      exact ⟨id, d, hd, Nat.le_trans hle htop⟩
    · have heq : w.store.loadManifest = .ok (some m') := hm'
      rw [hm, Except.ok.injEq, Option.some.injEq] at heq
      rw [← heq]
      exact ⟨hwithin, Nat.le_refl _⟩
  · cases hopen
  · cases hopen

/-- Clients keep the order: the rows they make are the newest. -/
theorem beside {map : BlockMap} {a : Nat → UInt8} (h : Paced w) (hw : Beside raw map w w' a) :
    Paced w' := by
  refine ⟨?_, fun hrows => ?_, fun m hm => ?_⟩
  · rw [hw.manifest]
    exact h.within
  · rw [hw.manifest]
    by_cases hnew : ∃ id d, w'.store.dirtyObject id = some d ∧
        d.generation = w.manifest.generation + 1
    · rcases hnew with ⟨id, d, hd, hgen⟩
      exact ⟨id, d, hd, by omega⟩
    · -- No row is new, so there was one, and it is there still.
      have hold : w.store.dirtyRows ≠ [] := by
        intro hnil
        refine hrows ((LocalStore.dirtyRows_eq_nil _).mpr fun id => ?_)
        rcases hd : w'.store.dirtyObject id with _ | d
        · rfl
        · rcases hw.rows id d hd with hsame | hgen
          · rw [(LocalStore.dirtyRows_eq_nil _).mp hnil id] at hsame
            cases hsame
          · exact absurd ⟨id, d, hd, hgen⟩ hnew
      rcases h.rows hold with ⟨id, d, hd, htop⟩
      rcases hd' : w'.store.dirtyObject id with _ | d'
      · rw [hw.keeps id hd'] at hd
        cases hd
      · rcases hw.rows id d' hd' with hsame | hgen
        · rw [hd, Option.some.injEq] at hsame
          exact ⟨id, d', hd', by rw [← hsame]; exact htop⟩
        · exact ⟨id, d', hd', by omega⟩
  · rw [LocalStore.loadManifest_congr _ _ hw.state] at hm
    rw [hw.manifest]
    exact h.stored m hm

/-- A device that was just built is in order if its manifest is. -/
theorem opened (m : Manifest) (s : ρ) (hwithin : m.Within m.generation) :
    Paced (World.opened m s) where
  within := hwithin
  rows := fun hne => absurd ((LocalStore.dirtyRows_eq_nil _).mpr fun _ => rfl) hne
  stored := by
    intro m' hm'
    have heq : Except.ok (some m) = .ok (some m') :=
      (LocalStore.loadManifest_setManifestState m LocalStore.empty).symm.trans hm'
    rw [Except.ok.injEq, Option.some.injEq] at heq
    rw [← heq]
    exact ⟨hwithin, Nat.le_refl _⟩

/-- So is a device that was just formatted. -/
theorem blank (uuid : Uuid) (objectSize objectCount : Nat) (s : ρ) :
    Paced (World.opened (Manifest.empty uuid objectSize objectCount) s) := by
  refine opened _ s fun id e hf => ?_
  rw [(Manifest.mem_empty uuid objectSize objectCount e (Manifest.mem_of_find _ id e hf)).2]
  exact Nat.zero_le _

end Paced

/-- Clients that were at work together, what they shared apart from the device
    at first, and what those of them ended with that came to an end. -/
structure Spell (V : Signature) (ι α υ : Type) where
  clients : ι → Prog (clientSig.sum V) α
  shared : υ
  results : ι → Option (Except String α)

/-- The clients of a spell, with their requests made of operations of a device
    or an array. -/
def Spell.on {T V : Signature} {ι α υ : Type} (s : Spell V ι α υ)
    (impl : (e : ClientOp) → Prog T e.Resp) (i : ι) : Prog (T.sum V) α :=
  (s.clients i).link (S := clientSig.sum V) (implLeft (S := clientSig) impl)

/-- The spells of clients on a device, with flushes and restarts in between. A
    spell ends when all clients have, or with the process. -/
inductive Sessions {V : Signature} {υ : Type} [DecidableEq ι] (B : Backend ρ) (P : Policy ρ)
    (G : Env V υ) (dev : BlockDevice) (w0 : World ρ) : List (Spell V ι α υ) → World ρ → Prop
  | start : Sessions B P G dev w0 [] w0
  | spell (log : List (Spell V ι α υ)) (w w' : World ρ) (s : Spell V ι α υ)
      (left : ι → Prog (deviceSig.sum V) α) (u : υ) (h : Sessions B P G dev w0 log w)
      (hrun : Interleaved ((DeviceEnv B P).sum G) (s.on dev.methods) (w, s.shared) left (w', u))
      (hresults : ∀ i, (left i).result = s.results i) (hall : ∀ i, s.results i ≠ none) :
      Sessions B P G dev w0 (log ++ [s]) w'
  | stopped (log : List (Spell V ι α υ)) (w w' w'' : World ρ) (s : Spell V ι α υ)
      (left : ι → Prog (deviceSig.sum V) α) (u : υ) (h : Sessions B P G dev w0 log w)
      (hrun : Interleaved ((DeviceEnv B P).sum G) (s.on dev.methods) (w, s.shared) left (w', u))
      (hresults : ∀ i, (left i).result = s.results i) (hopen : w'.reopen = .ok w'') :
      Sessions B P G dev w0 (log ++ [s]) w''
  | died (log : List (Spell V ι α υ)) (w w1 w2 w3 : World ρ) (s : Spell V ι α υ)
      (left : ι → Prog (deviceSig.sum V) α) (u u' : υ) (i : ι) (e : (deviceSig.sum V).Op)
      (k : Except String ((deviceSig.sum V).Resp e) → Prog (deviceSig.sum V) α)
      (h : Sessions B P G dev w0 log w)
      (hrun : Interleaved ((DeviceEnv B P).sum G) (s.on dev.methods) (w, s.shared) left (w1, u))
      (hresults : ∀ i, (left i).result = s.results i)
      (hi : left i = .op (S := deviceSig.sum V) e k)
      (hcrash : ((DeviceEnv B P).sum G).crash e (w1, u) (w2, u')) (hopen : w2.reopen = .ok w3) :
      Sessions B P G dev w0 (log ++ [s]) w3
  | flush (log : List (Spell V ι α υ)) (w w' : World ρ) (r : Except String Unit)
      (h : Sessions B P G dev w0 log w) (hreq : Exec (DeviceEnv B P) dev.flush w (.done r) w') :
      Sessions B P G dev w0 log w'
  | cut (log : List (Spell V ι α υ)) (w w' w'' : World ρ) (o : Outcome Unit)
      (h : Sessions B P G dev w0 log w) (hreq : Exec (DeviceEnv B P) dev.flush w o w')
      (hopen : w'.reopen = .ok w'') : Sessions B P G dev w0 log w''

/-- The same spells on an array, given how the requests are made of operations
    on it. What has ended on the device has ended here, and in the same way. -/
inductive SessionsOn {T V : Signature} {υ : Type} [DecidableEq ι] (F : Env T (Nat → UInt8))
    (G : Env V υ) (impl : (e : ClientOp) → Prog T e.Resp) (a0 : Nat → UInt8) :
    List (Spell V ι α υ) → (Nat → UInt8) → Prop
  | start : SessionsOn F G impl a0 [] a0
  | spell (log : List (Spell V ι α υ)) (a a' : Nat → UInt8) (s : Spell V ι α υ)
      (left : ι → Prog (T.sum V) α) (u : υ) (h : SessionsOn F G impl a0 log a)
      (hrun : Interleaved (F.sum G) (s.on impl) (a, s.shared) left (a', u))
      (hresults : ∀ i r, s.results i = some r → (left i).result = some r) :
      SessionsOn F G impl a0 (log ++ [s]) a'

section Atomic

variable {V : Signature} {υ : Type} {G : Env V υ} [DecidableEq ι] [Fintype ι] {dev : BlockDevice}
  {w0 w w' w'' : World ρ} {a : Nat → UInt8} {log : List (Spell V ι α υ)}

/-- One spell is one on the array. -/
theorem clients_atomic (hB : Returns B raw) (hP : Careful P) (hsize : 0 < dev.map.objectSize)
    (hw : Durable raw dev.map w) (hwithin : w.manifest.Within w.manifest.generation)
    (ha : Shows raw dev.map.objectSize w a) (s : Spell V ι α υ)
    (left : ι → Prog (deviceSig.sum V) α) (u : υ)
    (hrun : Interleaved ((DeviceEnv B P).sum G) (s.on dev.methods) (w, s.shared) left (w', u)) :
    ∃ left' a' u', Interleaved ((ObjectEnv dev.map.objectSize).sum G) (s.on dev.strides)
        (a, s.shared) left' (a', u') ∧
      Beside raw dev.map w w' a' ∧ ∀ i r, (left i).result = some r → (left' i).result = some r := by
  rcases simulates_done _ left (s.on dev.strides) (w, s.shared) (w', u) (a, s.shared)
    ⟨Beside.start hw ha, rfl⟩ (fun i => seenAs_client hB hP hsize hw hwithin (s.clients i)) hrun
    with ⟨left', ⟨a', u'⟩, hrun', ⟨hbeside, _⟩, _, hdone⟩
  exact ⟨left', a', u', hrun', hbeside, hdone⟩

/-- So is one in which the process dies in the middle of an operation. -/
theorem clients_crash (hB : Returns B raw) (hP : Careful P) (hsize : 0 < dev.map.objectSize)
    (hw : Durable raw dev.map w) (hwithin : w.manifest.Within w.manifest.generation)
    (ha : Shows raw dev.map.objectSize w a) (s : Spell V ι α υ)
    (left : ι → Prog (deviceSig.sum V) α) (u u' : υ) (i : ι) (e : (deviceSig.sum V).Op)
    (k : Except String ((deviceSig.sum V).Resp e) → Prog (deviceSig.sum V) α)
    (hrun : Interleaved ((DeviceEnv B P).sum G) (s.on dev.methods) (w, s.shared) left (w', u))
    (hi : left i = .op (S := deviceSig.sum V) e k)
    (hcrash : ((DeviceEnv B P).sum G).crash e (w', u) (w'', u')) :
    ∃ left' a' v, Interleaved ((ObjectEnv dev.map.objectSize).sum G) (s.on dev.strides)
        (a, s.shared) left' (a', v) ∧
      Beside raw dev.map w w'' a' ∧
      ∀ i r, (left i).result = some r → (left' i).result = some r := by
  rcases simulates_crash _ left (s.on dev.strides) (w, s.shared) (w', u) (w'', u') (a, s.shared)
    ⟨Beside.start hw ha, rfl⟩ (fun i => seenAs_client hB hP hsize hw hwithin (s.clients i)) hrun
    i e k hi hcrash with ⟨left', ⟨a', v⟩, hrun', hbeside, hdone⟩
  exact ⟨left', a', v, hrun', hbeside, hdone⟩

/-- What a run of spells leads to: an array that they lead to as well, and that
    the device shows. -/
structure Told (raw : ρ → Int → Option Bytes) (G : Env V υ) (dev : BlockDevice)
    (a0 : Nat → UInt8) (log : List (Spell V ι α υ)) (w : World ρ) (a : Nat → UInt8) : Prop where
  told : SessionsOn (ObjectEnv dev.map.objectSize) G dev.strides a0 log a
  durable : Durable raw dev.map w
  paced : Paced w
  shows : Shows raw dev.map.objectSize w a

namespace Told

omit [Fintype ι] in
/-- A restart does not show. -/
theorem reopen {a0 : Nat → UInt8} (h : Told raw G dev a0 log w a) (hopen : w.reopen = .ok w') :
    Told raw G dev a0 log w' a := by
  rcases h.durable.reopen with ⟨w1, hw1, hdurable, _, hcontent⟩
  rw [hw1, Except.ok.injEq] at hopen
  rw [hopen] at hw1 hdurable hcontent
  exact ⟨h.told, hdurable, h.paced.reopen hw1, fun id => (hcontent _ id).trans (h.shows id)⟩

omit [Fintype ι] in
/-- Nor does a flush, however it ends. -/
theorem flush (hB : Returns B raw) (hE : Echoes B) {a0 : Nat → UInt8} (o : Outcome Unit)
    (hreq : Exec (DeviceEnv B P) dev.flush w o w') (h : Told raw G dev a0 log w a) :
    Told raw G dev a0 log w' a := by
  have hflushed : Flushed B dev w o w' := by
    have hall := (wp_iff_exec _ _ _ _).mp (wp_flush (B := B) (P := P) dev w) o w' hreq
    cases o with
    | done r => exact hall.1
    | crashed => exact hall
  exact ⟨h.told, h.durable.flushed hB hE dev o hflushed, h.paced.flushed dev o hflushed,
    Carried.shows _ w w' (hflushed.carried hB) h.durable.consistent a h.shows⟩

omit [Fintype ι] in
/-- A spell is one more of them. -/
theorem spell {a0 a' : Nat → UInt8} (h : Told raw G dev a0 log w a) (s : Spell V ι α υ)
    (left : ι → Prog (deviceSig.sum V) α) (left' : ι → Prog (objectSig.sum V) α) (u : υ)
    (hresults : ∀ i, (left i).result = s.results i)
    (hrun : Interleaved ((ObjectEnv dev.map.objectSize).sum G) (s.on dev.strides)
      (a, s.shared) left' (a', u))
    (hbeside : Beside raw dev.map w w' a')
    (hdone : ∀ i r, (left i).result = some r → (left' i).result = some r) :
    Told raw G dev a0 (log ++ [s]) w' a' :=
  ⟨.spell log a a' s left' u h.told hrun fun i r hr => hdone i r ((hresults i).trans hr),
    hbeside.durable, h.paced.beside hbeside, hbeside.shows⟩

end Told

/-- What a run of spells leads to, by induction on the run. -/
theorem Sessions.told (hB : Returns B raw) (hE : Echoes B) (hP : Careful P)
    (hsize : 0 < dev.map.objectSize) (hw0 : Durable raw dev.map w0) (hpaced : Paced w0)
    (h : Sessions B P G dev w0 log w) :
    ∃ a, Told raw G dev (w0.array raw dev.map.objectSize) log w a := by
  induction h with
  | start => exact ⟨_, .start, hw0, hpaced, shows_array raw dev.map.objectSize w0⟩
  | spell log w w' s left u _ hrun hresults _ ih =>
      rcases ih with ⟨a, hw⟩
      rcases clients_atomic hB hP hsize hw.durable hw.paced.within hw.shows s left u hrun with
        ⟨left', a', u', hrun', hbeside, hdone⟩
      exact ⟨a', hw.spell s left left' u' hresults hrun' hbeside hdone⟩
  | stopped log w w' w'' s left u _ hrun hresults hopen ih =>
      rcases ih with ⟨a, hw⟩
      rcases clients_atomic hB hP hsize hw.durable hw.paced.within hw.shows s left u hrun with
        ⟨left', a', u', hrun', hbeside, hdone⟩
      exact ⟨a', (hw.spell s left left' u' hresults hrun' hbeside hdone).reopen hopen⟩
  | died log w w1 w2 w3 s left u u' i e k _ hrun hresults hi hcrash hopen ih =>
      rcases ih with ⟨a, hw⟩
      rcases clients_crash hB hP hsize hw.durable hw.paced.within hw.shows s left u u' i e k hrun
        hi hcrash with ⟨left', a', v, hrun', hbeside, hdone⟩
      exact ⟨a', (hw.spell s left left' v hresults hrun' hbeside hdone).reopen hopen⟩
  | flush log w w' r _ hreq ih =>
      rcases ih with ⟨a, hw⟩
      exact ⟨a, hw.flush hB hE _ hreq⟩
  | cut log w w' w'' o _ hreq hopen ih =>
      rcases ih with ⟨a, hw⟩
      exact ⟨a, (hw.flush hB hE o hreq).reopen hopen⟩

/-- Whatever clients do together, and whatever they tell each other meanwhile,
    and however often the device is flushed and the process dies, all of it is
    as on an array of which they read and store one object at a time. -/
theorem sessions_atomic (hB : Returns B raw) (hE : Echoes B) (hP : Careful P) (dev : BlockDevice)
    (hsize : 0 < dev.map.objectSize) (w0 w : World ρ) (hw0 : Durable raw dev.map w0)
    (hpaced : Paced w0) (log : List (Spell V ι α υ)) (h : Sessions B P G dev w0 log w) :
    ∃ a, SessionsOn (ObjectEnv dev.map.objectSize) G dev.strides
        (w0.array raw dev.map.objectSize) log a ∧
      Durable raw dev.map w ∧ Shows raw dev.map.objectSize w a := by
  rcases h.told hB hE hP hsize hw0 hpaced with ⟨a, ha⟩
  exact ⟨a, ha.told, ha.durable, ha.shows⟩

end Atomic

end Crates

/-- The operations on an array that takes whole requests. `give` is the point
    where a request that has taken effect may still fail. -/
inductive WholeOp : Type
  | ask (e : ClientOp)
  | give

abbrev WholeOp.Resp : WholeOp → Type
  | .ask e => e.Resp
  | .give => Unit

abbrev wholeSig : Signature := { Op := WholeOp, Resp := WholeOp.Resp }

/-- An array of which a request reads or stores a range in one step. Any
    request may fail, and a write that fails may have been made. -/
def WholeEnv (size : Nat) : Env wholeSig (Nat → UInt8) where
  step
    | .ask (.readAt offset len), a, r, a' =>
        (∀ b, r = .ok b → offset + len ≤ size ∧ b = span a offset len) ∧ a' = a
    | .ask (.writeAt offset bytes), a, r, a' =>
        (offset + bytes.length ≤ size ∧ a' = splice a offset bytes) ∨
          (∃ msg, r = .error msg) ∧ a' = a
    | .give, a, _, a' => a' = a
  crash _ _ _ := False

namespace ClientOp

/-- A request in one step. -/
def whole (e : ClientOp) : Prog wholeSig e.Resp := do
  let x ← Prog.perform (S := wholeSig) (.ask e)
  Prog.perform (S := wholeSig) .give
  pure x

/-- A request for one object: a read inside it, or a write of all of it. -/
def Aligned (objectSize : Nat) : ClientOp → Prop
  | .readAt offset len => offset % objectSize + len ≤ objectSize
  | .writeAt offset bytes => offset % objectSize = 0 ∧ bytes.length = objectSize

end ClientOp

/-- All clients of a spell ask only for such requests. -/
def Spell.Aligned {V : Signature} {ι α υ : Type} (s : Spell V ι α υ) (objectSize : Nat) : Prop :=
  ∀ i, (s.clients i).Only fun e => ∀ c, e = Sum.inl c → c.Aligned objectSize

section Whole

variable {α ι : Type} {dev : BlockDevice}

theorem mayFail_whole (size : Nat) (e : ClientOp) : MayFail (WholeEnv size) e.whole := by
  refine (MayFail.perform (T := wholeSig) (.ask e) fun a msg => ?_).bind _ _
  cases e with
  | readAt offset len => exact ⟨fun b hb => (by cases hb), rfl⟩
  | writeAt offset bytes => exact Or.inr ⟨⟨msg, rfl⟩, rfl⟩

/-- A request that has taken effect is over without another one. -/
theorem settles_whole {γ : Type} (size : Nat) (x : γ) :
    Settles (WholeEnv size) (Prog.perform (S := wholeSig) .give >>= fun _ => pure x) (.pure x) :=
  fun a => .next (T := wholeSig) .give _ a a a (.ok ()) _ rfl (.stay _ a)

/-- A read is over when nothing is left to read. -/
theorem readStrides_none (rounds cursor : Nat) (out : Bytes) :
    dev.readStrides rounds cursor 0 out = pure out := by
  cases rounds with
  | zero => rfl
  | succ rounds => rfl

theorem writeStrides_none (rounds cursor : Nat) : dev.writeStrides rounds cursor [] = pure () := by
  cases rounds with
  | zero => rfl
  | succ rounds => rfl

/-- A request that has taken effect may fail where the other one may. -/
theorem simulates_give {γ δ : Type} (objectSize size : Nat) (x : γ) (y : δ)
    {Post : γ → δ → Prop} (h : Post x y) :
    Simulates (ObjectEnv objectSize) (WholeEnv size) (fun a c => c = a) (fun a c => c = a) Post
      (Prog.perform (S := objectSig) .give >>= fun _ => pure x)
      (Prog.perform (S := wholeSig) .give >>= fun _ => pure y) := by
  refine Simulates.act_bind (S := objectSig) (T := wholeSig) ObjectOp.give WholeOp.give _ _
    fun a c hc => ⟨fun r a' hstep => ?_, fun a' hcrash => False.elim hcrash⟩
  have hsame : a' = a := hstep
  rw [hsame]
  cases r with
  | ok u => exact ⟨.ok (), c, rfl, hc, y, Settles.refl _ _, h⟩
  | error msg => exact ⟨.error msg, c, rfl, hc, rfl⟩

/-- An object that is read, and a range inside it. -/
theorem simulates_get (size id o offset len : Nat) (hoffset : offset = id * dev.map.objectSize + o)
    (hin : o + len ≤ dev.map.objectSize) (hfit : offset + len ≤ size) :
    Simulates (ObjectEnv dev.map.objectSize) (WholeEnv size) (fun a c => c = a) (fun a c => c = a)
      (fun object b => b = (object.drop o).take len) (BlockDevice.getObject id)
      (ClientOp.readAt offset len).whole := by
  refine Simulates.act_bind (S := objectSig) (T := wholeSig) (ObjectOp.get id)
    (WholeOp.ask (.readAt offset len)) _ _ fun a c hc =>
      ⟨fun r a' hstep => ?_, fun a' hcrash => False.elim hcrash⟩
  rcases hstep with ⟨hobject, hsame⟩
  rw [hsame, hc]
  cases r with
  | ok object =>
      refine ⟨.ok (span a offset len), a, ⟨fun b hb => ⟨hfit, (Except.ok.inj hb).symm⟩, rfl⟩,
        rfl, simulates_give _ _ _ _ ?_⟩
      rw [hobject object rfl, take_drop_span _ _ _ _ _ hin, hoffset]
  | error msg => exact ⟨.error msg, a, ⟨fun b hb => (by cases hb), rfl⟩, rfl, rfl⟩

/-- A read inside one object is that of the object. -/
theorem simulates_readAligned (offset len : Nat)
    (hin : offset % dev.map.objectSize + len ≤ dev.map.objectSize) :
    Simulates (ObjectEnv dev.map.objectSize) (WholeEnv dev.map.deviceSize) (fun a c => c = a)
      (fun a c => c = a) (fun (b : Bytes) b' => b' = b) (dev.strides (.readAt offset len))
      (ClientOp.readAt offset len).whole := by
  have hfail := mayFail_whole dev.map.deviceSize (.readAt offset len)
  refine Silent.simulates_bind _ _ _ (Silent.ofExcept _) hfail fun stop hstop => ?_
  refine Silent.simulates_bind _ _ _ (Silent.ensure _ _) hfail fun _ hensure => ?_
  rcases checkedAdd_eq_ok _ _ _ hstop with ⟨rfl, _⟩
  have hfit : offset + len ≤ dev.map.deviceSize := by simpa only [decide_eq_true_eq] using hensure
  cases len with
  | zero =>
      -- Nothing is read, which may be said at any moment.
      exact ⟨[], fun a => .next (T := wholeSig) (.ask (.readAt offset 0)) _ a a a (.ok []) _
        ⟨fun b hb => ⟨hfit, (Except.ok.inj hb).symm⟩, rfl⟩ (settles_whole _ _ a), rfl⟩
  | succ n =>
      refine Silent.simulates_bind _ _ _ (Silent.ofExcept _) hfail fun p hloc => ?_
      rcases p with ⟨id, o⟩
      rcases locate_ok dev.map offset id o hloc with ⟨_, hcursor, ho⟩
      have hmod : offset % dev.map.objectSize = o := by
        rw [hcursor, Nat.mul_comm, Nat.mul_add_mod, Nat.mod_eq_of_lt ho]
      have htake : min (n + 1) (dev.map.objectSize - o) = n + 1 := by omega
      dsimp only
      rw [htake, Nat.sub_self, ← Prog.bind_pure (ClientOp.readAt offset (n + 1)).whole]
      refine Simulates.bind _ _ _ _ (simulates_get _ id o offset (n + 1) hcursor (by omega) hfit)
        fun object b hb => ?_
      rw [hb, readStrides_none]
      exact ⟨_, Settles.refl _ _, rfl⟩

/-- A write of one whole object is the storing of it. -/
theorem simulates_writeAligned (hsize : 0 < dev.map.objectSize) (offset : Nat) (bytes : Bytes)
    (hmod : offset % dev.map.objectSize = 0) (hlen : bytes.length = dev.map.objectSize) :
    Simulates (ObjectEnv dev.map.objectSize) (WholeEnv dev.map.deviceSize) (fun a c => c = a)
      (fun a c => c = a) (fun (u : Unit) u' => u' = u) (dev.strides (.writeAt offset bytes))
      (ClientOp.writeAt offset bytes).whole := by
  have hfail := mayFail_whole dev.map.deviceSize (.writeAt offset bytes)
  refine Silent.simulates_bind _ _ _ (Silent.ofExcept _) hfail fun stop hstop => ?_
  refine Silent.simulates_bind _ _ _ (Silent.ensure _ _) hfail fun _ hensure => ?_
  rcases checkedAdd_eq_ok _ _ _ hstop with ⟨rfl, _⟩
  have hfit : offset + bytes.length ≤ dev.map.deviceSize := by
    simpa only [decide_eq_true_eq] using hensure
  cases bytes with
  | nil =>
      rw [List.length_nil] at hlen
      omega
  | cons b bs =>
      refine Silent.simulates_bind _ _ _ (Silent.ofExcept _) hfail fun p hloc => ?_
      rcases p with ⟨id, o⟩
      rcases locate_ok dev.map offset id o hloc with ⟨_, hcursor, ho⟩
      have hzero : o = 0 := by
        rw [← hmod, hcursor, Nat.mul_comm, Nat.mul_add_mod, Nat.mod_eq_of_lt ho]
      have hbs : bs.length + 1 = dev.map.objectSize := hlen
      rw [hzero, Nat.add_zero] at hcursor
      have htake : min (bs.length + 1) (dev.map.objectSize - 0) = dev.map.objectSize := by omega
      dsimp only
      rw [hzero, htake, if_pos ⟨rfl, rfl⟩]
      have hobject : BlockDevice.overwrite (List.replicate dev.map.objectSize 0) 0
          ((b :: bs).take dev.map.objectSize) = b :: bs := by
        rw [List.take_of_length_le (Nat.le_of_eq hlen), BlockDevice.overwrite, List.take_zero,
          List.nil_append, Nat.zero_add, hlen, List.drop_replicate, Nat.sub_self,
          List.replicate_zero, List.append_nil]
      have hdrop : (b :: bs).drop dev.map.objectSize = [] :=
        List.drop_eq_nil_of_le (Nat.le_of_eq hlen)
      refine Simulates.act_bind (S := objectSig) (T := wholeSig)
        (ObjectOp.put id (BlockDevice.overwrite (List.replicate dev.map.objectSize 0) 0
          ((b :: bs).take dev.map.objectSize))) (WholeOp.ask (.writeAt offset (b :: bs))) _ _
        fun a c hc => ⟨fun r a' hstep => ?_, fun a' hcrash => False.elim hcrash⟩
      rw [hobject] at hstep
      rcases hstep with hput | ⟨⟨msg, hr⟩, hsame⟩
      · rw [padObject_self _ _ hlen, ← hcursor] at hput
        rw [hput, hc]
        cases r with
        | ok u =>
            refine ⟨.ok (), _, Or.inl ⟨hfit, rfl⟩, rfl, ?_⟩
            rw [hdrop, writeStrides_none]
            exact ⟨_, settles_whole _ _, rfl⟩
        | error msg => exact ⟨.error msg, _, Or.inl ⟨hfit, rfl⟩, rfl, rfl⟩
      · rw [hsame, hr, hc]
        exact ⟨.error msg, _, Or.inr ⟨⟨msg, rfl⟩, rfl⟩, rfl, rfl⟩

/-- A request for one object is one that takes effect in one step. -/
theorem simulates_aligned (hsize : 0 < dev.map.objectSize) (e : ClientOp)
    (he : e.Aligned dev.map.objectSize) :
    Simulates (ObjectEnv dev.map.objectSize) (WholeEnv dev.map.deviceSize) (fun a c => c = a)
      (fun a c => c = a) (fun a b => b = a) (dev.strides e) e.whole := by
  cases e with
  | readAt offset len => exact simulates_readAligned offset len he
  | writeAt offset bytes => exact simulates_writeAligned hsize offset bytes he.1 he.2

/-- Spells of such requests, one object at a time, are spells of requests that
    take effect in one step. -/
theorem SessionsOn.whole {V : Signature} {υ : Type} {G : Env V υ} [DecidableEq ι] [Fintype ι]
    (hsize : 0 < dev.map.objectSize) {a0 a : Nat → UInt8} {log : List (Spell V ι α υ)}
    (h : SessionsOn (ObjectEnv dev.map.objectSize) G dev.strides a0 log a)
    (hlog : ∀ s ∈ log, s.Aligned dev.map.objectSize) :
    SessionsOn (WholeEnv dev.map.deviceSize) G ClientOp.whole a0 log a := by
  induction h with
  | start => exact .start
  | spell log a a' s left u _ hrun hresults ih =>
      have hone := hlog s (List.mem_append_right log (List.mem_singleton_self s))
      rcases simulates_done _ left (s.on ClientOp.whole) (a, s.shared) (a', u) (a, s.shared)
        ⟨rfl, rfl⟩ (fun i => Simulates.link_left (U := clientSig) (R := fun a c => c = a)
          (ClientOp.Aligned dev.map.objectSize) dev.strides ClientOp.whole
          (fun e he => simulates_aligned hsize e he) (fun _ _ h => h) (s.clients i) (hone i)) hrun
        with ⟨left', ⟨c, u'⟩, hrun', ⟨hsame, _⟩, _, hdone⟩
      have hc : c = a' := hsame
      rw [← hc]
      exact .spell log a c s left' u' (ih fun s' hs' => hlog s' (List.mem_append_left _ hs')) hrun'
        fun i r hr => hdone i r (hresults i r hr)

end Whole

section Crates

variable {ρ α ι : Type} [Crates] {B : Backend ρ} {P : Policy ρ} {raw : ρ → Int → Option Bytes}
  {V : Signature} {υ : Type} {G : Env V υ}

/-- Clients that read inside objects and write whole ones have the device to
    themselves, one request at a time, however they are interleaved and however
    often it is flushed and the process dies. -/
theorem sessions_linearizable [DecidableEq ι] [Fintype ι] (hB : Returns B raw) (hE : Echoes B)
    (hP : Careful P) (dev : BlockDevice) (hsize : 0 < dev.map.objectSize) (w0 w : World ρ)
    (hw0 : Durable raw dev.map w0) (hpaced : Paced w0) (log : List (Spell V ι α υ))
    (hlog : ∀ s ∈ log, s.Aligned dev.map.objectSize) (h : Sessions B P G dev w0 log w) :
    ∃ a, SessionsOn (WholeEnv dev.map.deviceSize) G ClientOp.whole
        (w0.array raw dev.map.objectSize) log a ∧
      Durable raw dev.map w ∧ Shows raw dev.map.objectSize w a := by
  rcases h.told hB hE hP hsize hw0 hpaced with ⟨a, ha⟩
  exact ⟨a, ha.told.whole hsize hlog, ha.durable, ha.shows⟩

/-- A spell that can be computed. -/
theorem sessions_runSchedule [DecidableEq ι] (R : (c : Call) → ρ → Except String c.Resp × ρ)
    (T : (e : V.Op) → υ → Except String (V.Resp e) × υ) (dev : BlockDevice)
    (s : Spell V ι α υ) (w : World ρ) (turns : List ι)
    (hresults : ∀ i, ((runSchedule (S := deviceSig.sum V) (runSum (deviceRun R) T) turns
      (s.on dev.methods) (w, s.shared)).1 i).result = s.results i)
    (hall : ∀ i, s.results i ≠ none) :
    Sessions (Env.ofRun (S := remoteSig) R) P (Env.ofRun T) dev w [s]
      (runSchedule (S := deviceSig.sum V) (runSum (deviceRun R) T) turns
        (s.on dev.methods) (w, s.shared)).2.1 := by
  refine .spell [] w _ s _ _ .start (interleaved_runSchedule
    ((DeviceEnv (Env.ofRun (S := remoteSig) R) P).sum (Env.ofRun T)) (runSum (deviceRun R) T)
    (step_runSum _ _ (fun e s => ?_) fun e t => rfl) turns _ (w, s.shared)) hresults hall
  cases e with
  | disk l => exact Or.inl rfl
  | call c => exact ⟨(R c s.remote).2, rfl, rfl⟩

end Crates

section Small

attribute [local instance] concreteCrates

/-- A flag that two clients share. -/
inductive FlagOp : Type
  | raise
  | look

abbrev FlagOp.Resp : FlagOp → Type
  | .raise => Unit
  | .look => Bool

abbrev flagSig : Signature := { Op := FlagOp, Resp := FlagOp.Resp }

def FlagOp.run : (e : FlagOp) → Bool → Except String e.Resp × Bool
  | .raise, _ => (.ok (), true)
  | .look, flag => (.ok flag, flag)

/-- What the two clients do. -/
def readAcross : Prog (clientSig.sum flagSig) Bytes :=
  Prog.perform (S := clientSig.sum flagSig) (.inl (.readAt 2 4))

def writeAcross : Prog (clientSig.sum flagSig) Bytes := do
  Prog.perform (S := clientSig.sum flagSig) (.inl (.writeAt 3 [1, 2, 3]))
  pure []

/-- One client writes across the two objects of the small device, and another
    one reads across them. The read is torn between the objects. -/
def spellAcross : Spell flagSig Bool Bytes Bool where
  clients i := if i then readAcross else writeAcross
  shared := false
  results i := if i then some (.ok [0, 0, 2, 3]) else some (.ok [])

/-- The read has its first object before the write begins, and its second one
    after that has ended. -/
def readAround : List Bool :=
  [true, true] ++ List.replicate 20 false ++ List.replicate 20 true

/-- The spell, and then a flush. -/
theorem sessions_atomic_small : ∃ w a,
    Sessions MemoryBackend.backend Policy.quiet (Env.ofRun (S := flagSig) FlagOp.run) smallDevice
      smallBlank [spellAcross] w ∧
    SessionsOn (ObjectEnv smallDevice.map.objectSize) (Env.ofRun (S := flagSig) FlagOp.run)
      smallDevice.strides (smallBlank.array MemoryBackend.messages smallDevice.map.objectSize)
      [spellAcross] a ∧
    Shows MemoryBackend.messages smallDevice.map.objectSize w a := by
  have hspell := sessions_runSchedule (V := flagSig) (P := Policy.quiet) MemoryBackend.run
    FlagOp.run smallDevice spellAcross smallBlank readAround (by decide +kernel) (by decide +kernel)
  have hflush := Sessions.flush _ _ _ _ hspell
    (exec_deviceRun MemoryBackend.run smallDevice.flush _)
  rcases sessions_atomic MemoryBackend.returns MemoryBackend.echoes careful_quiet smallDevice
    (by decide) smallBlank _ (durable_opened _ _ _ (sound_empty smallMap ⟨7⟩ _))
    (Paced.blank ⟨7⟩ 4 2 _) [spellAcross] hflush with ⟨a, ha, _, hshows⟩
  exact ⟨_, a, hflush, ha, hshows⟩

/-- A client that writes an object and raises the flag, and one that looks at
    the flag and reads in the object. -/
def writeAndRaise : Prog (clientSig.sum flagSig) Bytes := do
  Prog.perform (S := clientSig.sum flagSig) (.inl (.writeAt 4 [5, 6, 7, 8]))
  Prog.perform (S := clientSig.sum flagSig) (.inr .raise)
  pure []

def lookAndRead : Prog (clientSig.sum flagSig) Bytes := do
  let raised ← Prog.perform (S := clientSig.sum flagSig) (.inr .look)
  let b ← Prog.perform (S := clientSig.sum flagSig) (.inl (.readAt 5 2))
  pure (if raised then b else [])

/-- The flag was up, so the read has what was written. -/
def spellAligned : Spell flagSig Bool Bytes Bool where
  clients i := if i then lookAndRead else writeAndRaise
  shared := false
  results i := if i then some (.ok [6, 7]) else some (.ok [])

theorem aligned_small : spellAligned.Aligned smallDevice.map.objectSize := by
  intro i
  cases i with
  | false =>
      refine only_bind _ _ (only_perform (S := clientSig.sum flagSig) _ ?_) fun _ =>
        only_bind _ _ (only_perform (S := clientSig.sum flagSig) _ ?_) fun _ => trivial
      · intro c hc
        rw [← Sum.inl.inj hc]
        exact ⟨by decide, by decide⟩
      · intro c hc
        cases hc
  | true =>
      refine only_bind _ _ (only_perform (S := clientSig.sum flagSig) _ ?_) fun _ =>
        only_bind _ _ (only_perform (S := clientSig.sum flagSig) _ ?_) fun _ => trivial
      · intro c hc
        cases hc
      · intro c hc
        rw [← Sum.inl.inj hc]
        exact (by decide : 5 % 4 + 2 ≤ 4)

theorem sessions_linearizable_small : ∃ w a,
    Sessions MemoryBackend.backend Policy.quiet (Env.ofRun (S := flagSig) FlagOp.run) smallDevice
      smallBlank [spellAligned] w ∧
    SessionsOn (WholeEnv smallDevice.map.deviceSize) (Env.ofRun (S := flagSig) FlagOp.run)
      ClientOp.whole (smallBlank.array MemoryBackend.messages smallDevice.map.objectSize)
      [spellAligned] a ∧
    Shows MemoryBackend.messages smallDevice.map.objectSize w a := by
  have hspell := sessions_runSchedule (V := flagSig) (P := Policy.quiet) MemoryBackend.run
    FlagOp.run smallDevice spellAligned smallBlank
    (List.replicate 20 false ++ List.replicate 20 true) (by decide +kernel) (by decide +kernel)
  rcases sessions_linearizable MemoryBackend.returns MemoryBackend.echoes careful_quiet smallDevice
    (by decide) smallBlank _ (durable_opened _ _ _ (sound_empty smallMap ⟨7⟩ _))
    (Paced.blank ⟨7⟩ 4 2 _) [spellAligned]
    (fun s hs => by rw [List.mem_singleton.mp hs]; exact aligned_small) hspell with
    ⟨a, ha, _, hshows⟩
  exact ⟨_, a, hspell, ha, hshows⟩

end Small

end TgDrive
