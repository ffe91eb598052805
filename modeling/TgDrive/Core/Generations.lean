import TgDrive.Core.CrashSafety
import TgDrive.Core.Operations

/-!
# Generations Name Contents

Whether an object id and a generation name one content, in all manifests that
ever reached the channel. A write takes the generation after the one in
memory, a flush raises that one to the greatest of its rows before it sends
anything, and a restart sets it back to the one that is stored. So within one
process a generation is never used twice for an object once a manifest with it
may have been sent. Across a restart it is, when the manifest had reached the
channel and was not stored yet.

`Ledger` is a backend that remembers which manifests reached it: those whose
commit succeeded, and any of those whose commit failed or was cut short.
`Coherent` is the invariant that a restart breaks and everything else keeps.

## Main definitions

* `Ledger`: A backend with the manifests that reached it.
* `RunWhen`: Runs whose restarts meet a condition.
* `OneContent`: An id and a generation name one content.
* `Coherent`: The manifests that reached the channel, against the device.
* `CaughtUp`: The stored manifest is not behind one that reached the channel.

## Theorems

* `Coherent.mark`, `Coherent.upload`, `Coherent.announce`: What keeps it.
* `one_content`: Runs that restart caught up only.
* `two_contents`: A restart that was not.
-/

namespace TgDrive

open Data Effect

variable {ρ : Type}

/-- The manifest a call sends. -/
def Call.arrivals : Call → List Manifest
  | .commitManifest m _ _ _ => [m]
  | _ => []

/-- A backend that remembers the manifests that reached it. A commit that fails
    may have got so far, or not. -/
def Ledger (B : Backend ρ) : Backend (ρ × List Manifest) where
  step c s r s' := B.step c s.1 r s'.1 ∧
    (s'.2 = s.2 ++ c.arrivals ∨ ((∃ msg, r = .error msg) ∧ s'.2 = s.2))
  crash c s s' := B.crash c s.1 s'.1 ∧ (s'.2 = s.2 ++ c.arrivals ∨ s'.2 = s.2)

theorem Returns.ledger {B : Backend ρ} {raw : ρ → Int → Option Bytes} (h : Returns B raw) :
    Returns (Ledger B) (fun s => raw s.1) where
  sent := fun _ _ _ _ _ _ _ hs => h.sent _ _ _ _ _ _ _ hs.1
  fetched := fun _ _ _ _ hs => h.fetched _ _ _ _ hs.1
  got := fun _ _ _ _ hs => h.got _ _ _ _ hs.1
  keeps := fun _ _ _ _ hs => h.keeps _ _ _ _ hs.1
  crashKeeps := fun _ _ _ hs => h.crashKeeps _ _ _ hs.1

/-- The operations that leave the rows, the manifests and the ledger alone. -/
def DeviceOp.Quiet : DeviceOp → Prop
  | .disk (.storeDirty _ _ _ _ _) => False
  | .disk (.commitLocal _) => False
  | .disk (.setManifest _) => False
  | .disk _ => True
  | .call c => c.isRead

section Crates

variable [Crates] {B : Backend ρ} {P : Policy (ρ × List Manifest)}

omit [Crates] in
theorem quiet_readClass : DeviceOp.ReadClass DeviceOp.Quiet :=
  ⟨trivial, fun _ _ _ => trivial, fun _ _ _ => trivial, fun _ => trivial⟩

omit [Crates] in
theorem quiet_prefetchClass : DeviceOp.PrefetchClass DeviceOp.Quiet :=
  ⟨trivial, trivial, trivial, trivial, fun _ _ _ => trivial, fun _ _ _ => trivial,
    fun _ => trivial⟩

/-- Reading is quiet. -/
theorem readAt_quiet (dev : BlockDevice) (offset len : Nat) :
    (dev.readAt offset len).Only DeviceOp.Quiet := by
  unfold BlockDevice.readAt
  refine only_bind _ _ (only_ofExcept _) fun _ => only_bind _ _ (only_ensure _ _) fun _ => ?_
  refine only_bind _ _ (readLoop_only quiet_readClass (fun _ => trivial) dev _ _ _ _) fun p => ?_
  rcases p with ⟨out, cursor⟩
  simp only []
  by_cases hmore : cursor < dev.map.deviceSize
  · rw [if_pos hmore]
    rcases dev.map.locate cursor with _ | ⟨next, o⟩
    · exact trivial
    · cases o with
      | zero =>
          exact only_bind _ _ (only_attempt _ (prefetchObjects_only quiet_prefetchClass _ _)) fun _ => trivial
      | succ o => exact trivial
  · rw [if_neg hmore]
    exact trivial

/-- Nothing a restart or a flush goes by has changed. -/
structure Unmarked (w w' : World (ρ × List Manifest)) : Prop where
  manifest : w'.manifest = w.manifest
  rows : w'.store.dirtyObjects = w.store.dirtyObjects
  state : w'.store.manifestState = w.store.manifestState
  reached : w'.remote.2 = w.remote.2

omit [Crates] in
theorem Unmarked.refl (w : World (ρ × List Manifest)) : Unmarked w w := ⟨rfl, rfl, rfl, rfl⟩

/-- A quiet operation changes nothing that counts, however far it gets. -/
theorem unmarked_cut (l : LocalOp) (hl : (DeviceOp.disk l).Quiet)
    (w s : World (ρ × List Manifest)) (k : Nat) (h : Unmarked w s) :
    Unmarked w (cutOff (l.effects s) k s) := by
  refine cutOff_preserves (Unmarked w) _ (fun f hf s' hs' => ?_) k s h
  cases l with
  | storeDirty => exact False.elim hl
  | commitLocal => exact False.elim hl
  | setManifest => exact False.elim hl
  | readCache id gen sha =>
      simp only [LocalOp.effects] at hf
      by_cases hsome : (s.store.files (LocalStore.cachePath id gen)).isSome = true
      · rw [if_pos hsome] at hf
        rcases List.mem_map.mp hf with ⟨g, hg, rfl⟩
        rw [LocalStore.touchCache, List.mem_singleton] at hg
        rw [hg]
        exact ⟨hs'.manifest, hs'.rows, hs'.state, hs'.reached⟩
      · rw [if_neg hsome] at hf
        exact absurd hf List.not_mem_nil
  | writeCache id gen b =>
      simp only [LocalOp.effects, LocalStore.writeCache, List.map_cons, List.map_nil,
        List.mem_cons, List.not_mem_nil, or_false] at hf
      rcases hf with rfl | rfl
      · exact ⟨hs'.manifest, hs'.rows, hs'.state, hs'.reached⟩
      · exact ⟨hs'.manifest, hs'.rows, hs'.state, hs'.reached⟩
  | lockManifest =>
      rw [List.mem_singleton.mp hf]
      exact ⟨hs'.manifest, hs'.rows, hs'.state, hs'.reached⟩
  | unlockManifest =>
      rw [List.mem_singleton.mp hf]
      exact ⟨hs'.manifest, hs'.rows, hs'.state, hs'.reached⟩
  | _ => exact absurd hf List.not_mem_nil

/-- What a quiet program leaves, however it ends. -/
theorem wp_quiet {α : Type} (p : Prog deviceSig α) (hp : p.Only DeviceOp.Quiet)
    (w : World (ρ × List Manifest)) :
    wp (DeviceEnv (Ledger B) P) p (fun _ w' => Unmarked w w') (Unmarked w) w := by
  have hcall : ∀ (c : Call), c.isRead → ∀ s s' : World (ρ × List Manifest), Unmarked w s →
      (s'.remote.2 = s.remote.2 ++ c.arrivals ∨ s'.remote.2 = s.remote.2) →
      s' = { s with remote := s'.remote } → Unmarked w s' := by
    intro c hc s s' hs hlist heq
    have hnone : c.arrivals = [] := by
      cases c with
      | commitManifest => exact False.elim hc
      | _ => rfl
    rw [hnone, List.append_nil, or_self] at hlist
    rw [heq]
    exact ⟨hs.manifest, hs.rows, hs.state, hlist.trans hs.reached⟩
  refine wp_of_only _ (Unmarked w) (fun e he s r s' hstep hs => ?_) (fun e he s s' hc hs => ?_) p hp
    w (Unmarked.refl w)
  · cases e with
    | disk l =>
        rcases hstep with hrun | ⟨k, msg, _, _, _, rfl⟩
        · rcases r with msg | a
          · rw [(LocalOp.run_error l s s' msg hrun).2]
            exact hs
          · rw [(LocalOp.run_ok l s s' a hrun).2, ← cutOff_length _ _ (Nat.le_refl _)]
            exact unmarked_cut l he w s _ hs
        · exact unmarked_cut l he w s k hs
    | call c =>
        rcases hstep with ⟨t, ⟨_, hlist⟩, rfl⟩
        exact hcall c he s _ hs (hlist.imp id fun h => h.2) rfl
  · cases e with
    | disk l =>
        rcases hc with ⟨k, _, rfl⟩
        exact unmarked_cut l he w s k hs
    | call c =>
        rcases hc with ⟨t, ⟨_, hlist⟩, rfl⟩
        exact hcall c he s _ hs hlist rfl

/-- A row of the next generation was put in. -/
structure Marks (w w' : World (ρ × List Manifest)) : Prop where
  manifest : w'.manifest = w.manifest
  state : w'.store.manifestState = w.store.manifestState
  reached : w'.remote.2 = w.remote.2
  row : ∃ d : DirtyObject, d.generation = w.manifest.generation + 1 ∧
    ∀ i, w'.store.dirtyObject i = if i = d.objectId then some d else w.store.dirtyObject i

/-- Some rows of the next generation were put in. -/
abbrev Marked : World (ρ × List Manifest) → World (ρ × List Manifest) → Prop :=
  Relation.ReflTransGen (fun w w' => Unmarked w w' ∨ Marks w w')

omit [Crates] in
theorem Marked.of_unmarked (w w' : World (ρ × List Manifest)) (h : Unmarked w w') :
    Marked w w' := .single (Or.inl h)

/-- Storing an object puts in its row at most, wherever it is cut off. -/
theorem marked_storeDirty (w : World (ρ × List Manifest)) (id : Nat) (encoded : Bytes)
    (offset len k : Nat) : Marked w (cutOff ((LocalOp.storeDirty id (w.manifest.generation + 1)
      encoded offset len).effects w) k w) := by
  have hrows : ∀ w' : World (ρ × List Manifest), w'.manifest = w.manifest →
      w'.store.manifestState = w.store.manifestState → w'.remote = w.remote →
      (∀ i, w'.store.dirtyObject i = if i = id then
        some (dirtyRow id (w.manifest.generation + 1) encoded) else w.store.dirtyObject i) →
      Marked w w' := fun w' hm hs hr hrow => .single (Or.inr {
    manifest := hm
    state := hs
    reached := congrArg Prod.snd hr
    row := ⟨dirtyRow id (w.manifest.generation + 1) encoded, rfl, hrow⟩ })
  match k with
  | 0 => exact .refl
  | 1 => exact Marked.of_unmarked _ _ ⟨rfl, rfl, rfl, rfl⟩
  | 2 => exact Marked.of_unmarked _ _ ⟨rfl, rfl, rfl, rfl⟩
  | k + 3 =>
      rcases cutOff_storeDirty w id (w.manifest.generation + 1) encoded offset len (k + 3) with
        ⟨hk, _⟩ | ⟨hk, _⟩ | ⟨_, h⟩
      · cases hk
      · omega
      · exact hrows _ h.manifest h.state h.remote h.rows

/-- Writing puts in rows of the next generation and does nothing else that
    counts, under any policy. -/
theorem wp_writeAt_marked (dev : BlockDevice) (offset : Nat) (bytes : Bytes)
    (w : World (ρ × List Manifest)) :
    wp (DeviceEnv (Ledger B) P) (dev.writeAt offset bytes) (fun _ w' => Marked w w') (Marked w)
      w := by
  have hdirty : ∀ (id : Nat) (object : Bytes) (o len : Nat) (w : World (ρ × List Manifest)),
      wp (DeviceEnv (Ledger B) P) (dev.writeDirtyObject id object o len)
        (fun _ w' => Marked w w') (Marked w) w := by
    intro id object o len w
    unfold BlockDevice.writeDirtyObject
    refine wp_query .dirtyCount _ _ _ w rfl (fun count _ => ?_) (fun _ _ => .refl)
      (fun _ _ _ => .refl) .refl
    refine wp_ensure_bind _ _ _ _ _ _ (fun _ => ?_) (fun _ => .refl)
    refine wp_query .peekManifest _ _ _ w rfl (fun m hm => ?_) (fun _ _ => .refl)
      (fun _ _ _ => .refl) .refl
    rw [(answer_peekManifest w m hm).1]
    refine wp_ofExcept_bind _ _ _ _ _ (fun gen hgen => ?_) (fun _ _ => .refl)
    rcases checkedAdd_eq_ok _ _ gen hgen with ⟨rfl, _⟩
    refine (wp_perform (S := deviceSig) _ _ _ w).mpr ⟨fun r w' hstep => ?_, fun w' hc => ?_⟩
    · rcases hstep with hrun | ⟨k, msg, _, _, _, rfl⟩
      · rw [(Prod.mk.inj hrun).2, ← cutOff_length _ _ (Nat.le_refl _)]
        exact marked_storeDirty w id _ o len _
      · exact marked_storeDirty w id _ o len k
    · rcases hc with ⟨k, _, rfl⟩
      exact marked_storeDirty w id _ o len k
  have hloop : ∀ (rounds cursor : Nat) (bytes : Bytes) (w : World (ρ × List Manifest)),
      wp (DeviceEnv (Ledger B) P) (dev.writeLoop rounds cursor bytes)
        (fun _ w' => Marked w w') (Marked w) w := by
    intro rounds
    induction rounds with
    | zero =>
        intro cursor bytes w
        cases bytes with
        | nil => exact .refl
        | cons b bs => exact .refl
    | succ rounds ih =>
        intro cursor bytes w
        cases bytes with
        | nil => exact .refl
        | cons b bs =>
            unfold BlockDevice.writeLoop
            refine wp_ofExcept_bind _ _ _ _ _ (fun p _ => ?_) (fun _ _ => .refl)
            rcases p with ⟨id, o⟩
            simp only []
            generalize min (bs.length + 1) (dev.map.objectSize - o) = take
            -- What is left once the object is there.
            have hrest : ∀ (object : Bytes) (w1 : World (ρ × List Manifest)), Marked w w1 →
                wp (DeviceEnv (Ledger B) P) (dev.writeDirtyObject id
                  (BlockDevice.overwrite object o ((b :: bs).take take)) o take >>= fun _ =>
                    dev.writeLoop rounds (cursor + take) ((b :: bs).drop take))
                  (fun _ w' => Marked w w') (Marked w) w1 := fun object w1 h1 =>
              wp_seq _ _ _ _ _ _ _ (hdirty id _ o take w1)
                (fun _ w2 h2 => wp_mono _ _ _ _ _ (fun _ _ h => (h1.trans h2).trans h)
                  (fun _ h => (h1.trans h2).trans h) _ (ih _ _ w2))
                (fun _ w2 h2 => h1.trans h2) (fun w2 h2 => h1.trans h2)
            by_cases hfull : o = 0 ∧ take = dev.map.objectSize
            · rw [if_pos hfull]
              exact hrest _ w .refl
            · rw [if_neg hfull]
              exact wp_seq _ _ _ _ _ _ _ (wp_quiet _ (readObject_only quiet_readClass (fun _ => trivial) dev id) w)
                (fun object w1 h => hrest object w1 (Marked.of_unmarked _ _ h))
                (fun _ w1 h => Marked.of_unmarked _ _ h) (fun w1 h => Marked.of_unmarked _ _ h)
  unfold BlockDevice.writeAt
  refine wp_ofExcept_bind _ _ _ _ _ (fun _ _ => ?_) (fun _ _ => .refl)
  exact wp_ensure_bind _ _ _ _ _ _ (fun _ => hloop _ _ _ w) (fun _ => .refl)

/-- In a list of manifests an object id and a generation name one checksum. -/
def OneContent (reached : List Manifest) : Prop :=
  ∀ m ∈ reached, ∀ m' ∈ reached, ∀ e ∈ m.objects, ∀ e' ∈ m'.objects,
    e.objectId = e'.objectId → e.generation = e'.generation → e.sha256 = e'.sha256

/-- Two manifests agree on the objects that both have under one generation. -/
def Manifest.Agrees (m m' : Manifest) : Prop :=
  ∀ id e e', m.find id = some e → m'.find id = some e' → e.generation = e'.generation →
    e.sha256 = e'.sha256

/-- No object of a manifest is newer than a generation. -/
def Manifest.Within (m : Manifest) (generation : Nat) : Prop :=
  ∀ id e, m.find id = some e → e.generation ≤ generation

/-- The manifests that reached the channel, against what a device has: its
    manifest, its rows and the manifest that is stored. -/
structure Coherent (reached : List Manifest) (m : Manifest) (s : LocalStore) : Prop where
  distinct : ∀ x ∈ reached, (x.objects.map ManifestObject.objectId).Nodup
  nodup : (m.objects.map ManifestObject.objectId).Nodup
  agree : ∀ x ∈ reached, ∀ y ∈ reached, x.Agrees y
  here : ∀ x ∈ reached, x.Agrees m
  rows : ∀ x ∈ reached, ∀ id e d, x.find id = some e → s.dirtyObject id = some d →
    d.generation = e.generation → e.sha256 = some d.sha256
  own : ∀ x ∈ reached, x.Within x.generation
  old : ∀ x ∈ reached, x.Within m.generation
  within : m.Within m.generation
  top : s.dirtyRows ≠ [] → ∃ id d, s.dirtyObject id = some d ∧ m.generation ≤ d.generation
  stored : ∃ x ∈ reached, s.loadManifest = .ok (some x) ∧ x.generation ≤ m.generation

namespace Coherent

variable {reached : List Manifest} {m : Manifest} {s s' : LocalStore}

/-- It is about the rows and the stored manifest only. -/
theorem congr (hrows : s'.dirtyObjects = s.dirtyObjects)
    (hstate : s'.manifestState = s.manifestState) (h : Coherent reached m s) :
    Coherent reached m s' := by
  have hobject : ∀ id, s'.dirtyObject id = s.dirtyObject id := fun id => by
    rw [LocalStore.dirtyObject, LocalStore.dirtyObject, hrows]
  refine { h with rows := fun x hx id e d hf hd => ?_, top := fun hne => ?_, stored := ?_ }
  · rw [hobject] at hd
    exact h.rows x hx id e d hf hd
  · rw [LocalStore.dirtyRows, hrows] at hne
    rcases h.top hne with ⟨id, d, hd, hle⟩
    exact ⟨id, d, (hobject id).trans hd, hle⟩
  · rcases h.stored with ⟨x, hx, hload, hle⟩
    exact ⟨x, hx, (LocalStore.loadManifest_congr _ _ hstate).trans hload, hle⟩

/-- A row of the next generation keeps it, since nothing that reached the
    channel is of that generation. -/
theorem mark (d : DirtyObject) (hgen : d.generation = m.generation + 1)
    (hrows : ∀ i, s'.dirtyObject i = if i = d.objectId then some d else s.dirtyObject i)
    (hstate : s'.manifestState = s.manifestState) (h : Coherent reached m s) :
    Coherent reached m s' := by
  refine { h with rows := fun x hx id e d' hf hd => ?_, top := fun _ => ?_, stored := ?_ }
  · rw [hrows] at hd
    by_cases hid : id = d.objectId
    · rw [if_pos hid, Option.some.injEq] at hd
      intro hsame
      have hle := h.old x hx id e hf
      rw [← hd, hgen] at hsame
      omega
    · rw [if_neg hid] at hd
      exact h.rows x hx id e d' hf hd
  · exact ⟨d.objectId, d, by rw [hrows, if_pos rfl], by omega⟩
  · rcases h.stored with ⟨x, hx, hload, hle⟩
    exact ⟨x, hx, (LocalStore.loadManifest_congr _ _ hstate).trans hload, hle⟩

/-- Entering some of the rows keeps it, under the greatest generation of all of
    them. -/
theorem upload {m' : Manifest} (hids : m'.objects.map ManifestObject.objectId
      = m.objects.map ManifestObject.objectId) (hgen : ∀ id d, s.dirtyObject id = some d →
      d.generation ≤ m'.generation) (hsome : ∃ id d, s.dirtyObject id = some d ∧
      m'.generation = d.generation)
    (hfind : ∀ id e, m'.find id = some e → m.find id = some e ∨ ∃ d, s.dirtyObject id = some d ∧
      e.generation = d.generation ∧ e.sha256 = some d.sha256)
    (h : Coherent reached m s) : Coherent reached m' s := by
  have hup : m.generation ≤ m'.generation := by
    rcases hsome with ⟨id, d, hd, _⟩
    have hne : s.dirtyRows ≠ [] := by
      intro hnil
      rw [(LocalStore.dirtyRows_eq_nil s).mp hnil] at hd
      cases hd
    rcases h.top hne with ⟨id', d', hd', hle⟩
    exact Nat.le_trans hle (hgen id' d' hd')
  refine { h with
    nodup := by rw [hids]; exact h.nodup
    here := ?_
    old := ?_
    within := ?_
    top := fun _ => ?_
    stored := ?_ }
  · intro x hx id e e' hf hf' hsame
    rcases hfind id e' hf' with hold | ⟨d, hd, hg, hs⟩
    · exact h.here x hx id e e' hf hold hsame
    · rw [hs]
      exact h.rows x hx id e d hf hd (hg.symm.trans hsame.symm)
  · exact fun x hx id e hf => Nat.le_trans (h.old x hx id e hf) hup
  · intro id e hf
    rcases hfind id e hf with hold | ⟨d, hd, hg, _⟩
    · exact Nat.le_trans (h.within id e hold) hup
    · rw [hg]
      exact hgen id d hd
  · rcases hsome with ⟨id, d, hd, hg⟩
    exact ⟨id, d, hd, Nat.le_of_eq hg⟩
  · rcases h.stored with ⟨x, hx, hload, hle⟩
    exact ⟨x, hx, hload, Nat.le_trans hle hup⟩

/-- The manifest in memory may reach the channel once all rows are entered. -/
theorem announce (hall : ∀ id e d, m.find id = some e → s.dirtyObject id = some d →
      e.generation = d.generation ∧ e.sha256 = some d.sha256)
    (h : Coherent reached m s) : Coherent (reached ++ [m]) m s := by
  have hself : m.Agrees m := by
    intro id e e' hf hf' _
    rw [hf, Option.some.injEq] at hf'
    rw [hf']
  have hmem : ∀ x, x ∈ reached ++ [m] → x ∈ reached ∨ x = m := by
    intro x hx
    rcases List.mem_append.mp hx with hx | hx
    · exact Or.inl hx
    · exact Or.inr (List.mem_singleton.mp hx)
  refine {
    distinct := fun x hx => ?_
    nodup := h.nodup
    agree := fun x hx y hy => ?_
    here := fun x hx => ?_
    rows := fun x hx id e d hf hd => ?_
    own := fun x hx => ?_
    old := fun x hx => ?_
    within := h.within
    top := h.top
    stored := ?_ }
  · rcases hmem x hx with hx | rfl
    · exact h.distinct x hx
    · exact h.nodup
  · rcases hmem x hx with hold | rfl
    · rcases hmem y hy with hold' | hnew
      · exact h.agree x hold y hold'
      · rw [hnew]
        exact h.here x hold
    · rcases hmem y hy with hold' | hnew
      · exact fun id e e' hf hf' hsame => (h.here y hold' id e' e hf' hf hsame.symm).symm
      · rw [hnew]
        exact hself
  · rcases hmem x hx with hx | rfl
    · exact h.here x hx
    · exact hself
  · rcases hmem x hx with hx | rfl
    · exact h.rows x hx id e d hf hd
    · exact fun _ => (hall id e d hf hd).2
  · rcases hmem x hx with hx | rfl
    · exact h.own x hx
    · exact h.within
  · rcases hmem x hx with hx | rfl
    · exact h.old x hx
    · exact h.within
  · rcases h.stored with ⟨x, hx, hload, hle⟩
    exact ⟨x, List.mem_append_left _ hx, hload, hle⟩

/-- The manifest in memory may be stored once it has reached the channel. -/
theorem store (hm : m ∈ reached) (h : Coherent reached m s) :
    Coherent reached m (s.setManifestState m) := by
  refine { h with rows := h.rows, top := h.top, stored := ?_ }
  exact ⟨m, hm, LocalStore.loadManifest_setManifestState m s, Nat.le_refl _⟩

/-- Without rows there is less to keep. -/
theorem clear (h : Coherent reached m s) : Coherent reached m s.clearDirtyAndWal := by
  refine { h with rows := fun x hx id e d hf hd => ?_, top := fun hne => ?_, stored := ?_ }
  · rw [LocalStore.dirtyObject_clear] at hd
    cases hd
  · refine absurd ?_ hne
    rw [LocalStore.dirtyRows_eq_nil]
    exact fun id => LocalStore.dirtyObject_clear _ id
  · rcases h.stored with ⟨x, hx, hload, hle⟩
    exact ⟨x, hx, (LocalStore.loadManifest_congr _ _ (LocalStore.manifestState_clear _)).trans hload,
      hle⟩

/-- A restart takes the stored manifest for the one in memory. It must not be
    behind any that reached the channel. -/
theorem restart (x : Manifest) (hload : s.loadManifest = .ok (some x))
    (hup : ∀ y ∈ reached, y.generation ≤ x.generation) (h : Coherent reached m s) :
    Coherent reached x s := by
  rcases h.stored with ⟨y, hy, hload', hle⟩
  rw [hload, Except.ok.injEq, Option.some.injEq] at hload'
  rw [← hload'] at hy hle
  refine { h with
    nodup := h.distinct x hy
    here := fun z hz => h.agree z hz x hy
    old := fun z hz id e hf => Nat.le_trans (h.own z hz id e hf) (hup z hz)
    within := h.own x hy
    top := fun hne => ?_
    stored := ⟨x, hy, hload, Nat.le_refl _⟩ }
  rcases h.top hne with ⟨id, d, hd, hle'⟩
  exact ⟨id, d, hd, Nat.le_trans hle hle'⟩

end Coherent

omit [Crates] in
/-- A flush takes the greatest generation of its rows. -/
theorem newGeneration_rows (rows : List DirtyObject) (fallback : Nat) (h : rows ≠ []) :
    (∃ d ∈ rows, BlockDevice.newGeneration rows fallback = d.generation) ∧
      ∀ d ∈ rows, d.generation ≤ BlockDevice.newGeneration rows fallback := by
  unfold BlockDevice.newGeneration
  rcases hmax : (rows.map DirtyObject.generation).max? with _ | g
  · rw [List.max?_eq_none_iff, List.map_eq_nil_iff] at hmax
    exact absurd hmax h
  · rw [List.max?_eq_some_iff] at hmax
    rcases hmax with ⟨hmem, hall⟩
    rcases List.mem_map.mp hmem with ⟨d, hd, hg⟩
    exact ⟨⟨d, hd, hg.symm⟩, fun d' hd' => hall _ (List.mem_map_of_mem hd')⟩

section Uploaded

variable {files : CachePath → Option Bytes} {m0 m : Manifest} {s0 s : ρ × List Manifest}
  {sent : List DirtyObject}

/-- Uploads send no manifest. -/
theorem Uploads.reached (h : Uploads (Ledger B) files m0 s0 sent m s) : s.2 = s0.2 := by
  induction h with
  | none => rfl
  | next sent m m' s s' d b ref h hd hs hm ih =>
      rcases hs.2 with hlist | ⟨⟨_, herr⟩, _⟩
      · rw [hlist, ih]
        exact List.append_nil _
      · cases herr

/-- An entry after some uploads is the one before, or that of a row. -/
theorem Uploads.entry (h : Uploads (Ledger B) files m0 s0 sent m s) (id : Nat)
    (e : ManifestObject) (hf : m.find id = some e) : m0.find id = some e ∨
      ∃ d ∈ sent, d.objectId = id ∧ e.generation = d.generation ∧ e.sha256 = some d.sha256 := by
  induction h generalizing e with
  | none => exact Or.inl hf
  | next sent m m' s s' d b ref h hd hs hm ih =>
      rw [find_recordUpload m m' d ref _ hm] at hf
      by_cases hid : id = d.objectId
      · rw [if_pos hid] at hf
        rcases Option.map_eq_some_iff.mp hf with ⟨e0, _, rfl⟩
        exact Or.inr ⟨d, List.mem_append_right _ (List.mem_singleton_self d), hid.symm, rfl,
          congrArg some hd.sha⟩
      · rw [if_neg hid] at hf
        rcases ih e hf with hold | ⟨d', hd', hrest⟩
        · exact Or.inl hold
        · exact Or.inr ⟨d', List.mem_append_left _ hd', hrest⟩

end Uploaded

/-- A commit that succeeds has reached the channel. -/
theorem committed_reached (dev : BlockDevice) (hc : dev.committer = true)
    (w w' : World (ρ × List Manifest)) (s : ρ × List Manifest)
    (hup : Uploads (Ledger B) w.store.files w.bumped w.remote w.store.dirtyRows w'.manifest s)
    (hs : Committed (Ledger B) dev w'.manifest s w'.remote) :
    w'.remote.2 = w.remote.2 ++ [w'.manifest] := by
  unfold Committed at hs
  rw [if_pos hc] at hs
  rcases hs.2 with hlist | ⟨⟨_, herr⟩, _⟩
  · rw [hlist, hup.reached]
    rfl
  · cases herr

/-- A flush that ended among its uploads has sent no manifest. -/
theorem stopped_reached (w w' : World (ρ × List Manifest)) (h : SendStopped (Ledger B) w w') :
    w'.remote.2 = w.remote.2 := by
  rcases h with ⟨_, sent, s, _, hup, hrest⟩
  rw [← hup.reached]
  rcases hrest with hrest | ⟨d, b, _, _, ⟨r, hs⟩ | hs⟩
  · rw [hrest]
  · rcases hs.2 with hlist | ⟨_, hlist⟩
    · rw [hlist]
      exact List.append_nil _
    · exact hlist
  · rcases hs.2 with hlist | hlist
    · rw [hlist]
      exact List.append_nil _
    · exact hlist

/-- A commit that fails, or that the process dies in, has sent its manifest or
    none. -/
theorem refused_reached (dev : BlockDevice) (w w' : World (ρ × List Manifest))
    (s : ρ × List Manifest)
    (hup : Uploads (Ledger B) w.store.files w.bumped w.remote w.store.dirtyRows w'.manifest s)
    (hs : (∃ msg, (Ledger B).step (dev.commit w'.manifest) s (.error msg) w'.remote) ∨
      (Ledger B).crash (dev.commit w'.manifest) s w'.remote) :
    w'.remote.2 = w.remote.2 ++ [w'.manifest] ∨ w'.remote.2 = w.remote.2 := by
  rw [← hup.reached]
  rcases hs with ⟨msg, hs⟩ | hs
  · exact hs.2.imp id fun h => h.2
  · exact hs.2

/-- The manifest of a flush that has uploaded some rows is coherent. -/
theorem Coherent.uploaded (w : World (ρ × List Manifest)) (sent : List DirtyObject) (m : Manifest)
    (s : ρ × List Manifest) (h : Coherent w.remote.2 w.manifest w.store)
    (hrows : w.store.dirtyRows ≠ []) (hpre : sent <+: w.store.dirtyRows)
    (hup : Uploads (Ledger B) w.store.files w.bumped w.remote sent m s) :
    Coherent w.remote.2 m w.store := by
  have hgen : m.generation
      = BlockDevice.newGeneration w.store.dirtyRows (w.manifest.generation + 1) := hup.generation
  rcases newGeneration_rows w.store.dirtyRows (w.manifest.generation + 1) hrows with
    ⟨⟨d, hd, hmax⟩, hall⟩
  have hids : m.objects.map ManifestObject.objectId
      = w.manifest.objects.map ManifestObject.objectId := hup.ids
  refine h.upload hids (fun id d hd => ?_) ⟨d.objectId, d,
    (LocalStore.mem_dirtyRows w.store d).mp hd, by rw [hgen, hmax]⟩ (fun id e hf => ?_)
  · rw [hgen]
    have hid := w.store.objectId_of_dirtyObject id d hd
    exact hall d ((LocalStore.mem_dirtyRows w.store d).mpr (by rw [hid]; exact hd))
  · rcases hup.entry id e hf with hold | ⟨d, hd, hid, hrest⟩
    · exact Or.inl hold
    · have hrow := (LocalStore.mem_dirtyRows w.store d).mp (hpre.subset hd)
      rw [hid] at hrow
      exact Or.inr ⟨d, hrow, hrest⟩

/-- With all rows uploaded, the manifest may also have reached the channel. -/
theorem Coherent.offered {raw : ρ → Int → Option Bytes} (hB : Returns B raw)
    (w : World (ρ × List Manifest)) (m : Manifest) (s : ρ × List Manifest)
    (h : Coherent w.remote.2 w.manifest w.store)
    (hrows : w.store.dirtyRows ≠ [])
    (hup : Uploads (Ledger B) w.store.files w.bumped w.remote w.store.dirtyRows m s) :
    Coherent (w.remote.2 ++ [m]) m w.store := by
  refine (h.uploaded w _ m s hrows (List.prefix_refl _) hup).announce fun id e d hf hd => ?_
  have hid := w.store.objectId_of_dirtyObject id d hd
  have hmem : d ∈ w.store.dirtyRows :=
    (LocalStore.mem_dirtyRows w.store d).mpr (by rw [hid]; exact hd)
  rcases hup.find_self hB.ledger (LocalStore.nodup_dirtyRows w.store) d hmem with
    ⟨b, ref, e0, hsound, _, hself, _⟩
  rw [hid, hf, Option.some.injEq] at hself
  rw [hself]
  exact ⟨rfl, congrArg some hsound.sha⟩

/-- However a flush ends, it keeps the manifests that reached the channel
    coherent with the device. -/
theorem Coherent.flushed {raw : ρ → Int → Option Bytes} (hB : Returns B raw) (dev : BlockDevice)
    (hc : dev.committer = true) (w w' : World (ρ × List Manifest)) (o : Outcome Unit)
    (h : Coherent w.remote.2 w.manifest w.store) (hflush : Flushed (Ledger B) dev w o w') :
    Coherent w'.remote.2 w'.manifest w'.store := by
  cases hflush with
  | idle _ => exact h
  | early _ _ _ hstore hmanifest hremote =>
      rw [hstore, hmanifest, hremote]
      exact h
  | stopped _ _ _ hrows hstop =>
      rw [stopped_reached w w' hstop]
      rcases hstop with ⟨hstore, sent, s, hpre, hup, _⟩
      rw [hstore]
      exact h.uploaded w sent _ s hrows hpre hup
  | refused _ _ s _ hrows _ hup hs hstore =>
      rw [hstore]
      rcases refused_reached dev w w' s hup hs with hlist | hlist
      · rw [hlist]
        exact h.offered hB w _ s hrows hup
      · rw [hlist]
        exact h.uploaded w _ _ s hrows (List.prefix_refl _) hup
  | cut _ _ s _ hrows hup hs hstore =>
      have hsent := h.offered hB w _ s hrows hup
      have hmem : w'.manifest ∈ w.remote.2 ++ [w'.manifest] :=
        List.mem_append_right _ (List.mem_singleton_self _)
      rw [committed_reached dev hc w w' s hup hs]
      rcases hstore with hstore | hstore | hstore
      · rw [hstore]
        exact hsent
      · rw [hstore]
        exact hsent.store hmem
      · rw [hstore]
        exact (hsent.store hmem).clear
  | finished _ s hrows hup hs hstore =>
      rw [committed_reached dev hc w w' s hup hs, hstore]
      exact ((h.offered hB w _ s hrows hup).store
        (List.mem_append_right _ (List.mem_singleton_self _))).clear

/-- Runs of one device, as `Run`, whose restarts meet a condition on the world
    that is left of the process before. -/
inductive RunWhen (ok : World ρ → Prop) (B : Backend ρ) (P : Policy ρ) (dev : BlockDevice)
    (w0 : World ρ) : World ρ → Prop
  | start : RunWhen ok B P dev w0 w0
  | next (w w' : World ρ) (req : Request) (r : Except String Unit)
      (h : RunWhen ok B P dev w0 w)
      (hreq : Exec (DeviceEnv B P) (req.program dev) w (.done r) w') : RunWhen ok B P dev w0 w'
  | restart (w w' w'' : World ρ) (req : Request) (o : Outcome Unit)
      (h : RunWhen ok B P dev w0 w) (hreq : Exec (DeviceEnv B P) (req.program dev) w o w')
      (hok : ok w') (hopen : w'.reopen = .ok w'') : RunWhen ok B P dev w0 w''

/-- The stored manifest is not behind any that reached the channel. -/
def CaughtUp (w : World (ρ × List Manifest)) : Prop :=
  ∀ m, w.store.loadManifest = .ok (some m) → ∀ x ∈ w.remote.2, x.generation ≤ m.generation

/-- However a request ends, it keeps the manifests that reached the channel
    coherent with the device. -/
theorem Coherent.ends {raw : ρ → Int → Option Bytes} (hB : Returns B raw) (dev : BlockDevice)
    (hc : dev.committer = true) (req : Request) (o : Outcome Unit)
    (w w' : World (ρ × List Manifest)) (h : Coherent w.remote.2 w.manifest w.store)
    (hreq : Exec (DeviceEnv (Ledger B) P) (req.program dev) w o w') :
    Coherent w'.remote.2 w'.manifest w'.store := by
  have hquiet : ∀ w w' : World (ρ × List Manifest), Unmarked w w' →
      Coherent w.remote.2 w.manifest w.store → Coherent w'.remote.2 w'.manifest w'.store := by
    intro w w' hsame h
    rw [hsame.reached, hsame.manifest]
    exact h.congr hsame.rows hsame.state
  have hmarked : ∀ w', Marked w w' → Coherent w'.remote.2 w'.manifest w'.store := by
    intro w' hsteps
    induction hsteps with
    | refl => exact h
    | tail _ hstep ih =>
        rcases hstep with hsame | hmark
        · exact hquiet _ _ hsame ih
        · rcases hmark.row with ⟨d, hgen, hrows⟩
          rw [hmark.reached, hmark.manifest]
          exact ih.mark d hgen hrows hmark.state
  have hpost : wp (DeviceEnv (Ledger B) P) (req.program dev)
      (fun _ w' => Coherent w'.remote.2 w'.manifest w'.store)
      (fun w' => Coherent w'.remote.2 w'.manifest w'.store) w := by
    cases req with
    | read offset len =>
        refine wp_mono _ _ _ _ _ (fun _ w1 hr => hquiet w w1 hr h) (fun w1 hr => hquiet w w1 hr h) _
          (wp_quiet _ ?_ w)
        exact only_bind _ _ (readAt_quiet dev offset len) fun _ => trivial
    | write offset bytes =>
        exact wp_mono _ _ _ _ _ (fun _ w1 hr => hmarked w1 hr) (fun w1 hr => hmarked w1 hr) _
          (wp_writeAt_marked dev offset bytes w)
    | flush =>
        exact wp_mono _ _ _ _ _ (fun _ w1 hr => h.flushed hB dev hc w w1 _ hr.1)
          (fun w1 hr => h.flushed hB dev hc w w1 _ hr) _ (wp_flush dev w)
  have hall := (wp_iff_exec _ _ _ _).mp hpost o w' hreq
  cases o with
  | done r => exact hall
  | crashed => exact hall

/-- A device as it starts, on a manifest that has reached the channel. -/
def World.announced (m : Manifest) (s : ρ) : World (ρ × List Manifest) :=
  World.opened m (s, [m])

theorem coherent_announced (map : BlockMap) (m : Manifest) (s : ρ) (messages : Int → Option Bytes)
    (hm : m.WellFormed map messages) :
    Coherent [m] m ((World.announced m s : World (ρ × List Manifest)).store) := by
  have hself : m.Agrees m := by
    intro id e e' hf hf' _
    rw [hf, Option.some.injEq] at hf'
    rw [hf']
  have hwithin : m.Within m.generation := fun id e hf =>
    hm.generations e (m.mem_of_find id e hf)
  have hnodup : (m.objects.map ManifestObject.objectId).Nodup := by
    rw [hm.ids]
    exact List.nodup_range
  refine {
    distinct := fun x hx => by rw [List.mem_singleton.mp hx]; exact hnodup
    nodup := hnodup
    agree := fun x hx y hy => ?_
    here := fun x hx => ?_
    rows := fun _ _ _ _ _ _ hd => (by cases hd)
    own := fun x hx => ?_
    old := fun x hx => ?_
    within := hwithin
    top := fun hne => absurd rfl hne
    stored := ⟨m, List.mem_singleton_self m, LocalStore.loadManifest_setManifestState m _,
      Nat.le_refl _⟩ }
  · rw [List.mem_singleton.mp hx, List.mem_singleton.mp hy]
    exact hself
  · rw [List.mem_singleton.mp hx]
    exact hself
  · rw [List.mem_singleton.mp hx]
    exact hwithin
  · rw [List.mem_singleton.mp hx]
    exact hwithin

/-- In every run of a device by one client at a time, whatever fails and
    wherever the process dies, in which it is restarted only while the stored
    manifest is not behind one that reached the channel, an object id and a
    generation name one content. -/
theorem one_content {raw : ρ → Int → Option Bytes} (hB : Returns B raw) (dev : BlockDevice)
    (hc : dev.committer = true) (m : Manifest) (s : ρ) (hm : m.WellFormed dev.map (raw s))
    (w : World (ρ × List Manifest))
    (h : RunWhen CaughtUp (Ledger B) P dev (World.announced m s) w) : OneContent w.remote.2 := by
  have hcoherent : Coherent w.remote.2 w.manifest w.store := by
    induction h with
    | start => exact coherent_announced dev.map m s _ hm
    | next w w' req r _ hreq ih => exact Coherent.ends hB dev hc req _ w w' ih hreq
    | restart w w' w'' req o _ hreq hok hopen ih =>
        have hend := Coherent.ends hB dev hc req o w w' ih hreq
        rcases hend.stored with ⟨x, _, hload, _⟩
        rw [World.reopen, hload, Except.ok.injEq] at hopen
        rw [← hopen]
        exact hend.restart x hload (hok x hload)
  -- Ids are distinct in each manifest, so its entries are those it finds.
  have hfind : ∀ x ∈ w.remote.2, ∀ e ∈ x.objects, x.find e.objectId = some e :=
    fun x hx => x.find_of_mem (hcoherent.distinct x hx)
  intro x hx y hy e he e' he' hid hgen
  refine hcoherent.agree x hx y hy e.objectId e e' (hfind x hx e he) ?_ hgen
  rw [hid]
  exact hfind y hy e' he'

end Crates

section Small

attribute [local instance] concreteCrates

/-- The memory backend, with a committer that succeeds. -/
def MemoryBackend.commits : (c : Call) → MemoryBackend → Except String c.Resp × MemoryBackend
  | .commitManifest _ _ _ _, s => (.ok (), s)
  | .sendObject objectId generation payload sha256, s =>
      MemoryBackend.run (.sendObject objectId generation payload sha256) s
  | .fetchObject reference, s => MemoryBackend.run (.fetchObject reference) s
  | .getMessagesById ids, s => MemoryBackend.run (.getMessagesById ids) s

theorem MemoryBackend.returns_commits :
    Returns (Env.ofRun (S := remoteSig) MemoryBackend.commits) MemoryBackend.messages where
  sent := fun _ _ _ _ _ _ _ hs => MemoryBackend.returns.sent _ _ _ _ _ _ _ hs
  fetched := fun _ _ _ _ hs => MemoryBackend.returns.fetched _ _ _ _ hs
  got := fun _ _ _ _ hs => MemoryBackend.returns.got _ _ _ _ hs
  keeps := by
    intro c s r s' hs i b hi
    cases c with
    | commitManifest m x y z =>
        have hrun : (Except.ok (), s) = (r, s') := hs
        rw [← (Prod.mk.inj hrun).2]
        exact hi
    | sendObject id gen payload sha =>
        exact MemoryBackend.returns.keeps (.sendObject id gen payload sha) s r s' hs i b hi
    | fetchObject a => exact MemoryBackend.returns.keeps (.fetchObject a) s r s' hs i b hi
    | getMessagesById a =>
        exact MemoryBackend.returns.keeps (.getMessagesById a) s r s' hs i b hi
  crashKeeps := fun _ _ _ hs => False.elim hs

/-- The ledger of a backend that is a function, with all that was sent. -/
def ledgerRun (R : (c : Call) → ρ → Except String c.Resp × ρ) :
    (c : Call) → ρ × List Manifest → Except String c.Resp × (ρ × List Manifest) :=
  fun c s => ((R c s.1).1, (R c s.1).2, s.2 ++ c.arrivals)

theorem deviceRun_ledger (R : (c : Call) → ρ → Except String c.Resp × ρ)
    (P : Policy (ρ × List Manifest)) (e : DeviceOp) (w : World (ρ × List Manifest)) :
    (DeviceEnv (Ledger (Env.ofRun (S := remoteSig) R)) P).step e w
      (deviceRun (ledgerRun R) e w).1 (deviceRun (ledgerRun R) e w).2 := by
  cases e with
  | disk l => exact Or.inl rfl
  | call c =>
      exact ⟨((R c w.remote.1).2, w.remote.2 ++ c.arrivals), ⟨rfl, Or.inl rfl⟩, rfl⟩

/-- The small device, with a committer, after its first write. -/
def smallCommitting : BlockDevice := BlockDevice.new smallMap true

def smallMarked : World (MemoryBackend × List Manifest) :=
  ((smallCommitting.writeAt 0 [1, 2, 3, 4]).eval (deviceRun (ledgerRun MemoryBackend.commits))
    (World.announced (Manifest.empty ⟨7⟩ 4 2) (MemoryBackend.new (-100)))).2

/-- A flush of it, and one that dies before it stores its manifest. -/
def smallSettled : World (MemoryBackend × List Manifest) :=
  (smallCommitting.flush.eval (deviceRun (ledgerRun MemoryBackend.commits)) smallMarked).2

def smallBehind : Option (World (MemoryBackend × List Manifest)) :=
  smallCommitting.flush.crashAt (deviceRun (ledgerRun MemoryBackend.commits)) (diskCut 0) 8
    smallMarked

/-- What is in the channel after a restart, another write and a flush. -/
def smallRewritten (w : World (MemoryBackend × List Manifest)) :
    World (MemoryBackend × List Manifest) :=
  (smallCommitting.flush.eval (deviceRun (ledgerRun MemoryBackend.commits))
    ((smallCommitting.writeAt 0 [5, 6, 7, 8]).eval
      (deviceRun (ledgerRun MemoryBackend.commits)) w).2).2

theorem exec_small {α : Type} (p : Prog deviceSig α)
    (P : Policy (MemoryBackend × List Manifest)) (w : World (MemoryBackend × List Manifest)) :
    Exec (DeviceEnv (Ledger (Env.ofRun (S := remoteSig) MemoryBackend.commits)) P) p w
      (.done (p.eval (deviceRun (ledgerRun MemoryBackend.commits)) w).1)
      (p.eval (deviceRun (ledgerRun MemoryBackend.commits)) w).2 :=
  exec_of_eval (S := deviceSig) _ (deviceRun_ledger MemoryBackend.commits P) p w

/-- A write and a flush. -/
theorem one_content_small : OneContent smallSettled.remote.2 :=
  one_content (P := Policy.any) MemoryBackend.returns_commits smallCommitting rfl
    (Manifest.empty ⟨7⟩ 4 2) (MemoryBackend.new (-100)) (wellFormed_empty smallMap ⟨7⟩ _)
    smallSettled (.next _ _ .flush _ (.next _ _ (.write 0 [1, 2, 3, 4]) _ .start (exec_small _ _ _))
      (exec_small _ _ _))

/-- The entries of an object and a generation in some manifests, by checksum. -/
def checksums (id gen : Nat) (reached : List Manifest) : List (Option Text) :=
  (reached.flatMap (fun m => m.objects)).filterMap (fun e =>
    if e.objectId = id ∧ e.generation = gen then some e.sha256 else none)

theorem mem_checksums (id gen : Nat) (reached : List Manifest) (sha : Option Text)
    (h : sha ∈ checksums id gen reached) : ∃ m ∈ reached, ∃ e ∈ m.objects,
      e.objectId = id ∧ e.generation = gen ∧ e.sha256 = sha := by
  rcases List.mem_filterMap.mp h with ⟨e, he, hsha⟩
  rcases List.mem_flatMap.mp he with ⟨m, hm, hmem⟩
  by_cases hnamed : e.objectId = id ∧ e.generation = gen
  · rw [if_pos hnamed, Option.some.injEq] at hsha
    exact ⟨m, hm, e, hmem, hnamed.1, hnamed.2, hsha⟩
  · rw [if_neg hnamed] at hsha
    cases hsha

/-- There are two checksums, and they differ. -/
def twoDiffer : List (Option Text) → Bool
  | [a, b] => decide (a ≠ b)
  | _ => false

/-- A restart after a manifest had reached the channel and before it was
    stored, and another write: the first object has two contents under
    generation one. -/
theorem two_contents : ¬∀ w, Run (Ledger (Env.ofRun (S := remoteSig) MemoryBackend.commits))
    Policy.any smallCommitting
    (World.announced (Manifest.empty ⟨7⟩ 4 2) (MemoryBackend.new (-100))) w →
    OneContent w.remote.2 := by
  intro hall
  have hsums : (smallBehind.bind (fun w => w.reopen.toOption)).map
      (fun w' => twoDiffer (checksums 0 1 (smallRewritten w').remote.2)) = some true := by
    decide +kernel
  rcases hbehind : smallBehind with _ | w
  · rw [hbehind] at hsums
    cases hsums
  · rw [hbehind] at hsums
    rcases hopen : w.reopen with msg | w'
    · simp only [Option.bind_some, hopen, Except.toOption] at hsums
      cases hsums
    · simp only [Option.bind_some, hopen, Except.toOption, Option.map_some,
        Option.some.injEq] at hsums
      have hcrash : Exec (DeviceEnv (Ledger (Env.ofRun (S := remoteSig) MemoryBackend.commits))
          Policy.any) smallCommitting.flush smallMarked .crashed w := by
        refine exec_of_crashAt (S := deviceSig) _ (diskCut 0)
          (deviceRun_ledger MemoryBackend.commits Policy.any) (fun e s s' hs => ?_) 8 _ _ _ hbehind
        cases e with
        | disk l => exact ⟨0, trivial, (Option.some.inj hs).symm⟩
        | call c => cases hs
      -- The write, the flush that dies, the restart, the write and the flush.
      have hrun := hall (smallRewritten w') (.next _ _ .flush _ (.next _ _ (.write 0 [5, 6, 7, 8]) _
        (.restart _ w w' .flush .crashed (.next _ _ (.write 0 [1, 2, 3, 4]) _ .start
          (exec_small _ _ _)) hcrash hopen) (exec_small _ _ _)) (exec_small _ _ _))
      rcases hlist : checksums 0 1 (smallRewritten w').remote.2 with _ | ⟨a, _ | ⟨b, _ | ⟨c, rest⟩⟩⟩
      · rw [hlist] at hsums
        cases hsums
      · rw [hlist] at hsums
        cases hsums
      · rw [hlist] at hsums
        rcases mem_checksums 0 1 _ a (by rw [hlist]; exact List.mem_cons_self) with
          ⟨x, hx, e, he, hid, hgen, ha⟩
        rcases mem_checksums 0 1 _ b (by
          rw [hlist]
          exact List.mem_cons_of_mem _ List.mem_cons_self) with ⟨y, hy, e', he', hid', hgen', hb⟩
        have hsame := hrun x hx y hy e he e' he' (hid.trans hid'.symm) (hgen.trans hgen'.symm)
        rw [ha, hb] at hsame
        exact of_decide_eq_true hsums hsame
      · rw [hlist] at hsums
        cases hsums

end Small

end TgDrive
