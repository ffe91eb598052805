import TgDrive.Core.Cache
import TgDrive.Core.Concrete
import TgDrive.Data.Clock
import TgDrive.Data.Rank

/-!
# Evicting Clean Objects

The column `last_access_at` beside the tables of the store, the calls that
write it, and `evict_clean_lru`, which orders by it. The column holds the text
of an instant, and it is the text that is compared, so the entries that go are
the oldest by text. By time they are others when one that is to go slips behind
one that is to stay.

The dirty flag of an entry is written by four statements and the dirty objects
stand in a table of their own. The two agree over a run that fills the cache
with objects that are not dirty in the generation they are filled in, and marks
dirty what it has just written as dirty, which is how a device does it when it
serves one request at a time. A fill that races a write goes against it.

## Main definitions

* `AgedStore`: A local store with the times of its entries.
* `AgedStore.evictCleanLru`: The eviction.
* `CacheCall`, `AgedStore.after`: The calls on a store.
* `CacheRun`: The stores a run of calls reaches, with access times that grow.
* `AgedStore.EvictsLru`: What an eviction should do.
* `AgedStore.InOrder`, `AgedStore.ClearOfDirty`: When it does.

## Theorems

* `aged_run`: Over a run every entry has a time of its own, not after the clock.
* `flagged_run`: Over a run as a device issues it, what is dirty is flagged.
* `evict_lru_iff`: When an eviction does what it should.
-/

namespace TgDrive

open Data Effect

/-- A local store, and when each of its cached objects was last accessed. Of an
    object without an entry the time is never read. -/
structure AgedStore where
  store : LocalStore
  lastAccess : Nat × Nat → Instant

/-- The calls on a store that write, read or evict cached objects. -/
inductive CacheCall : Type
  | writeCache (objectId generation : Nat) (bytes : Bytes) (dirty : Bool)
  | readCache (objectId generation : Nat) (expectedSha : Text)
  | markDirty (objectId generation : Nat) (sha256 : Text) (offset len : Nat)
  | clearDirtyAndWal
  | evictCleanLru (maxEntries : Nat)

/-- The calls that write an access time. -/
def CacheCall.Stamps : CacheCall → Prop
  | .writeCache _ _ _ _ | .readCache _ _ _ => True
  | _ => False

namespace AgedStore

def empty (now : Instant) : AgedStore := { store := LocalStore.empty, lastAccess := fun _ => now }

def accessed (s : AgedStore) (e : CacheEntry) : Instant := s.lastAccess e.key

/-- The entries whose dirty flag is not set. -/
def cleanRows (s : AgedStore) : List CacheEntry :=
  s.store.cacheEntries.rows.filter (fun e => !e.dirty)

/-- The first clean entries in the order of their access times as text. -/
def oldestClean (s : AgedStore) (k : Nat) : List CacheEntry :=
  oldest (fun e => (s.accessed e).text) s.cleanRows k

def removeFiles (paths : List CachePath) (s : AgedStore) : AgedStore :=
  { s with store := { s.store with
      files := fun p => if p ∈ paths then none else s.store.files p } }

def deleteRows (gone : List CacheEntry) (s : AgedStore) : AgedStore :=
  { s with store := { s.store with
      cacheEntries := s.store.cacheEntries.keep (fun e => decide (e ∉ gone)) } }

/-- Evict clean entries until at most so many are left. The files go before the
    rows, and which rows go is asked a second time. -/
def evictCleanLru (s : AgedStore) (maxEntries : Nat) : Nat × AgedStore :=
  if s.cleanRows.length ≤ maxEntries then (0, s)
  else
    let toRemove := s.cleanRows.length - maxEntries
    let bare := s.removeFiles ((s.oldestClean toRemove).map (fun e => e.cachePath))
    (toRemove, bare.deleteRows (bare.oldestClean toRemove))

/-- How many clean entries were accessed after an entry. -/
def newer (s : AgedStore) (e : CacheEntry) : Nat :=
  later (fun x => (s.accessed x).fields) s.cleanRows e

/-- What an eviction should do: keep the clean entries that were accessed last,
    remove the files of the rows it deletes and no other, answer how many they
    are, and leave alone the file and the row of what is dirty. -/
structure EvictsLru (s : AgedStore) (maxEntries : Nat) : Prop where
  count : (s.evictCleanLru maxEntries).2.cleanRows.length = min maxEntries s.cleanRows.length
  recent : ∀ e, e ∈ (s.evictCleanLru maxEntries).2.cleanRows ↔
    e ∈ s.cleanRows ∧ s.newer e < maxEntries
  files : ∀ p, (s.evictCleanLru maxEntries).2.store.files p ≠ s.store.files p →
    ∃ e ∈ s.store.cacheEntries.rows,
      e ∉ (s.evictCleanLru maxEntries).2.store.cacheEntries.rows ∧ e.cachePath = p
  removed : ∀ e ∈ s.store.cacheEntries.rows,
    e ∉ (s.evictCleanLru maxEntries).2.store.cacheEntries.rows →
      (s.evictCleanLru maxEntries).2.store.files e.cachePath = none
  answer : (s.evictCleanLru maxEntries).1 +
    (s.evictCleanLru maxEntries).2.store.cacheEntries.rows.length =
      s.store.cacheEntries.rows.length
  spared : ∀ d ∈ s.store.dirtyRows,
    (∀ e ∈ s.store.cacheEntries.rows, e.key = (d.objectId, d.generation) →
      e ∈ (s.evictCleanLru maxEntries).2.store.cacheEntries.rows) ∧
    (s.evictCleanLru maxEntries).2.store.files (LocalStore.cachePath d.objectId d.generation) =
      s.store.files (LocalStore.cachePath d.objectId d.generation)

/-- No clean entry that is to go slips behind one that is to stay. -/
def InOrder (s : AgedStore) (maxEntries : Nat) : Prop :=
  ∀ a ∈ s.cleanRows, ∀ b ∈ s.cleanRows, s.newer a < maxEntries → maxEntries ≤ s.newer b →
    ¬ (s.accessed b).Slips (s.accessed a)

/-- No clean entry that is to go is of an object dirty in its generation. -/
def ClearOfDirty (s : AgedStore) (maxEntries : Nat) : Prop :=
  ∀ b ∈ s.cleanRows, maxEntries ≤ s.newer b →
    ∀ d ∈ s.store.dirtyRows, b.key ≠ (d.objectId, d.generation)

section Crates

variable [Crates]

/-- The store after a call at an instant. -/
def after (s : AgedStore) (now : Instant) : CacheCall → AgedStore
  | .writeCache objectId generation bytes dirty => {
      store := applyAll (LocalStore.writeCache objectId generation bytes dirty) s.store
      lastAccess := Function.update s.lastAccess (objectId, generation) now }
  | .readCache objectId generation expectedSha =>
      match s.store.readCache objectId generation expectedSha with
      | .ok (some _) => {
          store := applyAll (s.store.touchCache objectId generation expectedSha) s.store
          lastAccess := Function.update s.lastAccess (objectId, generation) now }
      | _ => s
  | .markDirty objectId generation sha256 offset len => { s with
      store := applyAll (s.store.markDirty objectId generation
        (LocalStore.cachePath objectId generation) sha256 offset len) s.store }
  | .clearDirtyAndWal => { s with store := s.store.clearDirtyAndWal }
  | .evictCleanLru maxEntries => (s.evictCleanLru maxEntries).2

end Crates

/-- How a device issues its calls: the cache is filled with objects that are
    not dirty in that generation, and what is marked dirty was written as
    dirty before. -/
def Issues (s : AgedStore) : CacheCall → Prop
  | .writeCache objectId generation _ dirty =>
      dirty = false → ∀ d ∈ s.store.dirtyRows, (objectId, generation) ≠ (d.objectId, d.generation)
  | .markDirty objectId generation _ _ _ =>
      ∃ e ∈ s.store.cacheEntries.rows, e.key = (objectId, generation) ∧ e.dirty = true
  | _ => True

end AgedStore

section Crates

variable [Crates]

/-- The stores a run of calls reaches and the clock there. Calls that write an
    access time come at instants that grow. -/
inductive CacheRun (issued : AgedStore → CacheCall → Prop) : Instant → AgedStore → Prop
  | start (now : Instant) : CacheRun issued now (AgedStore.empty now)
  | call (now next : Instant) (s : AgedStore) (c : CacheCall) (hrun : CacheRun issued now s)
      (hnow : now.Before next ∨ (next = now ∧ ¬ c.Stamps)) (hissued : issued s c) :
      CacheRun issued next (s.after next c)

end Crates

namespace AgedStore

/-- Every entry has the file of its key and a time of its own, which is not
    after the clock. -/
structure Aged (now : Instant) (s : AgedStore) : Prop where
  path : ∀ e ∈ s.store.cacheEntries.rows,
    e.cachePath = LocalStore.cachePath e.objectId e.generation
  past : ∀ e ∈ s.store.cacheEntries.rows, s.accessed e = now ∨ (s.accessed e).Before now
  distinct : ∀ e ∈ s.store.cacheEntries.rows, ∀ x ∈ s.store.cacheEntries.rows,
    s.accessed e = s.accessed x → e.key = x.key

/-- What is dirty has an entry whose flag is set. -/
def Flagged (s : AgedStore) : Prop :=
  ∀ d ∈ s.store.dirtyRows, ∃ e ∈ s.store.cacheEntries.rows,
    e.key = (d.objectId, d.generation) ∧ e.dirty = true

theorem mem_cleanRows (s : AgedStore) (e : CacheEntry) :
    e ∈ s.cleanRows ↔ e ∈ s.store.cacheEntries.rows ∧ e.dirty = false := by
  simp [cleanRows]

theorem aged_empty (now : Instant) : Aged now (empty now) where
  path := fun e he => by cases he
  past := fun e he => by cases he
  distinct := fun e he => by cases he

theorem Aged.next (now next : Instant) (s : AgedStore) (h : Aged now s)
    (hnow : next = now ∨ now.Before next) : Aged next s := by
  rcases hnow with rfl | hlt
  · exact h
  · refine ⟨h.path, ?_, h.distinct⟩
    intro e he
    rcases h.past e he with heq | hpast
    · exact Or.inr (heq ▸ hlt)
    · exact Or.inr (hpast.trans _ _ _ hlt)

/-- Entries that are among those there were, flags apart, are as old. -/
theorem Aged.of_rows (now : Instant) (s s' : AgedStore) (h : Aged now s)
    (htimes : s'.lastAccess = s.lastAccess)
    (hrows : ∀ e ∈ s'.store.cacheEntries.rows, ∃ x ∈ s.store.cacheEntries.rows,
      ({ x with dirty := e.dirty } : CacheEntry) = e) : Aged now s' := by
  have hsame : ∀ (e x : CacheEntry), ({ x with dirty := e.dirty } : CacheEntry) = e →
      s'.accessed e = s.accessed x ∧ e.key = x.key := by
    intro e x hx
    have hkey : e.key = x.key := by rw [← hx]; rfl
    exact ⟨by rw [accessed, accessed, htimes, hkey], hkey⟩
  refine ⟨?_, ?_, ?_⟩
  · intro e he
    obtain ⟨x, hx, hex⟩ := hrows e he
    rw [← hex]
    exact h.path x hx
  · intro e he
    obtain ⟨x, hx, hex⟩ := hrows e he
    rw [(hsame e x hex).1]
    exact h.past x hx
  · intro e he e' he' heq
    obtain ⟨x, hx, hex⟩ := hrows e he
    obtain ⟨x', hx', hex'⟩ := hrows e' he'
    rw [(hsame e x hex).1, (hsame e' x' hex').1] at heq
    rw [(hsame e x hex).2, (hsame e' x' hex').2]
    exact h.distinct x hx x' hx' heq

/-- An entry written at a later instant is the newest of all. -/
theorem Aged.stamp (now next : Instant) (s : AgedStore) (h : Aged now s) (hlt : now.Before next)
    (store : LocalStore) (e : CacheEntry)
    (hpath : e.cachePath = LocalStore.cachePath e.objectId e.generation)
    (hrows : store.cacheEntries = s.store.cacheEntries.upsert e) :
    Aged next { store := store, lastAccess := Function.update s.lastAccess e.key next } := by
  have hold : ∀ x : CacheEntry, x.key ≠ e.key →
      accessed { store := store, lastAccess := Function.update s.lastAccess e.key next } x =
        s.accessed x :=
    fun x hx => Function.update_of_ne hx _ _
  have hnew :
      accessed { store := store, lastAccess := Function.update s.lastAccess e.key next } e = next :=
    Function.update_self _ _ _
  have hpast : ∀ x ∈ s.store.cacheEntries.rows, (s.accessed x).Before next := by
    intro x hx
    rcases h.past x hx with heq | hbefore
    · rw [heq]
      exact hlt
    · exact hbefore.trans _ _ _ hlt
  refine ⟨?_, ?_, ?_⟩
  · intro x hx
    rcases (Table.mem_upsert _ _ _).mp (hrows ▸ hx) with rfl | ⟨hx, _⟩
    · exact hpath
    · exact h.path x hx
  · intro x hx
    rcases (Table.mem_upsert _ _ _).mp (hrows ▸ hx) with rfl | ⟨hx, hne⟩
    · exact Or.inl hnew
    · refine Or.inr ?_
      rw [hold x hne]
      exact hpast x hx
  · intro x hx y hy heq
    -- Two old entries are as before, and an old one is older than the new one.
    rcases (Table.mem_upsert _ _ _).mp (hrows ▸ hx) with rfl | ⟨hx, hxne⟩
    · rcases (Table.mem_upsert _ _ _).mp (hrows ▸ hy) with rfl | ⟨hy, hyne⟩
      · rfl
      · rw [hnew, hold y hyne] at heq
        exact absurd (hpast y hy) (heq ▸ lt_irrefl _)
    · have hxpast := hpast x hx
      rcases (Table.mem_upsert _ _ _).mp (hrows ▸ hy) with rfl | ⟨hy, hyne⟩
      · rw [hnew, hold x hxne] at heq
        exact absurd hxpast (heq ▸ lt_irrefl _)
      · rw [hold x hxne, hold y hyne] at heq
        exact h.distinct x hx y hy heq

/-- What an eviction for so many entries deletes. -/
def gone (s : AgedStore) (maxEntries : Nat) : List CacheEntry :=
  s.oldestClean (s.cleanRows.length - maxEntries)

theorem gone_of_le (s : AgedStore) (maxEntries : Nat) (h : s.cleanRows.length ≤ maxEntries) :
    s.gone maxEntries = [] := by
  rw [gone, Nat.sub_eq_zero_of_le h, oldestClean, oldest, List.take_zero]

theorem evict_rows (s : AgedStore) (maxEntries : Nat) :
    (s.evictCleanLru maxEntries).2.store.cacheEntries.rows =
      s.store.cacheEntries.rows.filter (fun e => decide (e ∉ s.gone maxEntries)) := by
  rw [evictCleanLru]
  by_cases h : s.cleanRows.length ≤ maxEntries
  · rw [if_pos h, gone_of_le s maxEntries h]
    simp
  · rw [if_neg h]
    rfl

theorem evict_files (s : AgedStore) (maxEntries : Nat) (p : CachePath) :
    (s.evictCleanLru maxEntries).2.store.files p =
      if p ∈ (s.gone maxEntries).map (fun e => e.cachePath) then none else s.store.files p := by
  rw [evictCleanLru]
  by_cases h : s.cleanRows.length ≤ maxEntries
  · rw [if_pos h, gone_of_le s maxEntries h]
    simp
  · rw [if_neg h]
    rfl

theorem evict_fst (s : AgedStore) (maxEntries : Nat) :
    (s.evictCleanLru maxEntries).1 = s.cleanRows.length - maxEntries := by
  rw [evictCleanLru]
  by_cases h : s.cleanRows.length ≤ maxEntries
  · rw [if_pos h, Nat.sub_eq_zero_of_le h]
  · rw [if_neg h]

theorem evict_lastAccess (s : AgedStore) (maxEntries : Nat) :
    (s.evictCleanLru maxEntries).2.lastAccess = s.lastAccess := by
  rw [evictCleanLru]
  by_cases h : s.cleanRows.length ≤ maxEntries
  · rw [if_pos h]
  · rw [if_neg h]
    rfl

theorem evict_dirtyRows (s : AgedStore) (maxEntries : Nat) :
    (s.evictCleanLru maxEntries).2.store.dirtyRows = s.store.dirtyRows := by
  rw [evictCleanLru]
  by_cases h : s.cleanRows.length ≤ maxEntries
  · rw [if_pos h]
  · rw [if_neg h]
    rfl

theorem mem_evict_rows (s : AgedStore) (maxEntries : Nat) (e : CacheEntry) :
    e ∈ (s.evictCleanLru maxEntries).2.store.cacheEntries.rows ↔
      e ∈ s.store.cacheEntries.rows ∧ e ∉ s.gone maxEntries := by
  rw [evict_rows, List.mem_filter, decide_eq_true_eq]

theorem mem_cleanRows_of_gone (s : AgedStore) (maxEntries : Nat) (e : CacheEntry)
    (h : e ∈ s.gone maxEntries) : e ∈ s.cleanRows := mem_of_mem_oldest _ _ _ e h

/-- No two clean entries are as old, and none is printed as another. -/
theorem Aged.nodup {κ : Type} (now : Instant) (s : AgedStore) (h : Aged now s) (f : Instant → κ)
    (hf : ∀ t u, f t = f u → t = u) : (s.cleanRows.map (fun e => f (s.accessed e))).Nodup := by
  have hrows : s.cleanRows.Nodup := s.store.cacheEntries.nodup.of_map.filter _
  refine hrows.map_on ?_
  intro x hx y hy heq
  rw [mem_cleanRows] at hx hy
  have hkey := h.distinct x hx.1 y hy.1 (hf _ _ heq)
  exact s.store.cacheEntries.eq_of_key_eq x y hx.1 hy.1 hkey

/-- What goes, by the texts of the access times. -/
theorem Aged.mem_gone (now : Instant) (s : AgedStore) (h : Aged now s) (maxEntries : Nat)
    (e : CacheEntry) : e ∈ s.gone maxEntries ↔
      e ∈ s.cleanRows ∧ maxEntries ≤ later (fun x => (s.accessed x).text) s.cleanRows e :=
  mem_oldest _ _ (h.nodup now s Instant.text Instant.text_inj) maxEntries e

theorem evict_cleanRows (s : AgedStore) (maxEntries : Nat) :
    (s.evictCleanLru maxEntries).2.cleanRows =
      s.cleanRows.filter (fun e => decide (e ∉ s.gone maxEntries)) := by
  rw [cleanRows, evict_rows, cleanRows, List.filter_filter, List.filter_filter]
  refine List.filter_congr ?_
  intro e _
  exact Bool.and_comm _ _

/-- As many clean entries stay as there is room for, whichever they are. -/
theorem Aged.length_cleanRows (now : Instant) (s : AgedStore) (h : Aged now s) (maxEntries : Nat) :
    (s.evictCleanLru maxEntries).2.cleanRows.length = min maxEntries s.cleanRows.length := by
  rw [← countP_later _ _ (h.nodup now s Instant.text Instant.text_inj), evict_cleanRows,
    ← List.countP_eq_length_filter]
  refine List.countP_congr ?_
  intro e he
  rw [decide_eq_true_eq, decide_eq_true_eq, h.mem_gone now s maxEntries e]
  simp only [he, true_and, not_le]

/-- The answer is the number of rows deleted. -/
theorem answer_evict (s : AgedStore) (maxEntries : Nat) :
    (s.evictCleanLru maxEntries).1 +
      (s.evictCleanLru maxEntries).2.store.cacheEntries.rows.length =
        s.store.cacheEntries.rows.length := by
  have hrows := s.store.cacheEntries.nodup.of_map
  have hnodup : (s.gone maxEntries).Nodup := by
    have hsort := (s.cleanRows.perm_insertionSort
      (fun a b => (s.accessed a).text ≤ (s.accessed b).text)).nodup_iff.mpr (hrows.filter _)
    exact hsort.sublist (List.take_sublist _ _)
  have hlength : (s.gone maxEntries).length = s.cleanRows.length - maxEntries := by
    rw [gone, oldestClean, length_oldest]
    omega
  -- The deleted rows, once as a list and once as a condition on the rows.
  have hperm : (s.store.cacheEntries.rows.filter (fun e => decide (e ∈ s.gone maxEntries))).Perm
      (s.gone maxEntries) := by
    refine (List.perm_ext_iff_of_nodup (hrows.filter _) hnodup).mpr ?_
    intro e
    rw [List.mem_filter, decide_eq_true_eq, and_iff_right_iff_imp]
    intro he
    exact ((s.mem_cleanRows e).mp (s.mem_cleanRows_of_gone maxEntries e he)).1
  have hsplit := List.length_eq_countP_add_countP (l := s.store.cacheEntries.rows)
    (fun e => decide (e ∈ s.gone maxEntries))
  rw [List.countP_eq_length_filter, hperm.length_eq, hlength] at hsplit
  rw [evict_fst, evict_rows, hsplit, ← List.countP_eq_length_filter]
  simp

/-- An eviction removes the files of the rows it deletes and no other. -/
theorem changed_evict (s : AgedStore) (maxEntries : Nat) (p : CachePath)
    (hp : (s.evictCleanLru maxEntries).2.store.files p ≠ s.store.files p) :
    ∃ e ∈ s.store.cacheEntries.rows,
      e ∉ (s.evictCleanLru maxEntries).2.store.cacheEntries.rows ∧ e.cachePath = p := by
  rw [AgedStore.evict_files] at hp
  by_cases hin : p ∈ (s.gone maxEntries).map (fun e => e.cachePath)
  · obtain ⟨e, he, rfl⟩ := List.mem_map.mp hin
    refine ⟨e, ((s.mem_cleanRows e).mp (s.mem_cleanRows_of_gone maxEntries e he)).1, ?_, rfl⟩
    intro hkept
    exact ((s.mem_evict_rows maxEntries e).mp hkept).2 he
  · exact absurd (if_neg hin) hp

theorem removed_evict (s : AgedStore) (maxEntries : Nat) (e : CacheEntry)
    (he : e ∈ s.store.cacheEntries.rows)
    (hgone : e ∉ (s.evictCleanLru maxEntries).2.store.cacheEntries.rows) :
    (s.evictCleanLru maxEntries).2.store.files e.cachePath = none := by
  have hin : e ∈ s.gone maxEntries := by
    by_contra hout
    exact hgone ((s.mem_evict_rows maxEntries e).mpr ⟨he, hout⟩)
  rw [AgedStore.evict_files, if_pos (List.mem_map.mpr ⟨e, hin, rfl⟩)]

/-- The row and the file of a key are left alone unless its row goes. -/
theorem Aged.spared (now : Instant) (s : AgedStore) (h : Aged now s) (maxEntries : Nat)
    (objectId generation : Nat) (hkey : ∀ b ∈ s.gone maxEntries, b.key ≠ (objectId, generation)) :
    (∀ e ∈ s.store.cacheEntries.rows, e.key = (objectId, generation) →
      e ∈ (s.evictCleanLru maxEntries).2.store.cacheEntries.rows) ∧
    (s.evictCleanLru maxEntries).2.store.files (LocalStore.cachePath objectId generation) =
      s.store.files (LocalStore.cachePath objectId generation) := by
  constructor
  · intro e he hek
    exact (s.mem_evict_rows maxEntries e).mpr ⟨he, fun hgone => hkey e hgone hek⟩
  · rw [AgedStore.evict_files, if_neg]
    intro hin
    obtain ⟨b, hb, hpath⟩ := List.mem_map.mp hin
    have hrow := ((s.mem_cleanRows b).mp (s.mem_cleanRows_of_gone maxEntries b hb)).1
    rw [h.path b hrow, LocalStore.cachePath, LocalStore.cachePath, CachePath.mk.injEq] at hpath
    exact hkey b hb (Prod.ext hpath.1 hpath.2)

/-- Which clean entries stay is by the texts of the access times. -/
theorem Aged.mem_evict_cleanRows (now : Instant) (s : AgedStore) (h : Aged now s)
    (maxEntries : Nat) (e : CacheEntry) : e ∈ (s.evictCleanLru maxEntries).2.cleanRows ↔
      e ∈ s.cleanRows ∧ later (fun x => (s.accessed x).text) s.cleanRows e < maxEntries := by
  rw [evict_cleanRows, List.mem_filter, decide_eq_true_eq, h.mem_gone now s maxEntries e,
    and_congr_right_iff]
  intro he
  simp only [he, true_and, not_le]

/-- The order of the texts is that of time across the cut when nothing slips
    there. -/
theorem inOrder_iff (s : AgedStore) (maxEntries : Nat) : s.InOrder maxEntries ↔
    ∀ a ∈ s.cleanRows, ∀ b ∈ s.cleanRows, s.newer a < maxEntries → maxEntries ≤ s.newer b →
      (s.accessed b).text < (s.accessed a).text := by
  refine forall_congr' fun a => forall_congr' fun ha => forall_congr' fun b =>
    forall_congr' fun hb => forall_congr' fun hkept => forall_congr' fun hgone => ?_
  have hbefore : (s.accessed b).Before (s.accessed a) := by
    by_contra hnot
    have hanti := later_anti (fun x => (s.accessed x).fields) s.cleanRows a b (le_of_not_gt hnot)
    unfold newer at hkept hgone
    omega
  rw [Instant.text_lt_iff]
  constructor
  · intro hslip
    exact Or.inl ⟨hbefore, hslip⟩
  · rintro (⟨_, hslip⟩ | hback) hslip'
    · exact hslip hslip'
    · exact lt_asymm hbefore hback.before

theorem Aged.evictsLru_iff (now : Instant) (s : AgedStore) (h : Aged now s) (maxEntries : Nat) :
    s.EvictsLru maxEntries ↔ s.InOrder maxEntries ∧ s.ClearOfDirty maxEntries := by
  have htime := h.nodup now s Instant.fields Instant.fields_inj
  have hagree := later_agree_iff (fun x => (s.accessed x).text)
    (fun x => (s.accessed x).fields) s.cleanRows htime maxEntries
  constructor
  · intro hlru
    have horder : s.InOrder maxEntries := by
      rw [inOrder_iff]
      refine hagree.mp ?_
      intro x hx
      have hkept := (h.mem_evict_cleanRows now s maxEntries x).symm.trans (hlru.recent x)
      exact and_congr_right_iff.mp hkept hx
    refine ⟨horder, ?_⟩
    intro b hb hgone d hd hkey
    have hrow := ((s.mem_cleanRows b).mp hb).1
    have hstays := (hlru.spared d hd).1 b hrow hkey
    have hclean := (mem_cleanRows _ b).mpr ⟨hstays, ((s.mem_cleanRows b).mp hb).2⟩
    exact absurd ((hlru.recent b).mp hclean).2 (Nat.not_lt_of_le hgone)
  · rintro ⟨horder, hclear⟩
    have hsame := hagree.mpr ((inOrder_iff s maxEntries).mp horder)
    refine ⟨h.length_cleanRows now s maxEntries, ?_, s.changed_evict maxEntries,
      s.removed_evict maxEntries, s.answer_evict maxEntries, ?_⟩
    · intro e
      rw [h.mem_evict_cleanRows now s maxEntries e, and_congr_right_iff]
      exact hsame e
    · intro d hd
      refine h.spared now s maxEntries d.objectId d.generation ?_
      intro b hb hkey
      have hgone := (h.mem_gone now s maxEntries b).mp hb
      have hnewer : maxEntries ≤ s.newer b := by
        by_contra hlt
        exact absurd ((hsame b hgone.1).mpr (Nat.lt_of_not_le hlt)) (Nat.not_lt_of_le hgone.2)
      exact hclear b hgone.1 hnewer d hd hkey

/-- What is flagged is not clean, so none of it is to go. -/
theorem Flagged.clearOfDirty (s : AgedStore) (h : s.Flagged) (maxEntries : Nat) :
    s.ClearOfDirty maxEntries := by
  intro b hb _ d hd hkey
  obtain ⟨e, he, hek, hdirty⟩ := h d hd
  rw [mem_cleanRows] at hb
  have hsame := s.store.cacheEntries.eq_of_key_eq e b he hb.1 (hek.trans hkey.symm)
  rw [hsame, hb.2] at hdirty
  cases hdirty

section Crates

variable [Crates]

/-- One call keeps the times of the entries apart. -/
theorem Aged.after (now next : Instant) (s : AgedStore) (h : Aged now s) (c : CacheCall)
    (hnow : now.Before next ∨ (next = now ∧ ¬ c.Stamps)) : Aged next (s.after next c) := by
  have hnext : Aged next s := by
    refine h.next now next s ?_
    rcases hnow with hlt | ⟨rfl, _⟩
    · exact Or.inr hlt
    · exact Or.inl rfl
  have hlt : c.Stamps → now.Before next := by
    intro hstamps
    rcases hnow with hlt | ⟨_, hnot⟩
    · exact hlt
    · exact absurd hstamps hnot
  cases c with
  | writeCache objectId generation bytes dirty =>
      exact h.stamp now next s (hlt trivial) _ {
        objectId := objectId
        generation := generation
        cachePath := LocalStore.cachePath objectId generation
        sha256 := sha256Hex bytes
        dirty := dirty } rfl rfl
  | readCache objectId generation expectedSha =>
      rw [AgedStore.after]
      rcases s.store.readCache objectId generation expectedSha with msg | found
      · exact hnext
      · rcases found with _ | bytes
        · exact hnext
        · -- Only a hit writes the entry again.
          exact h.stamp now next s (hlt trivial) _ {
            objectId := objectId
            generation := generation
            cachePath := LocalStore.cachePath objectId generation
            sha256 := expectedSha
            dirty := ((s.store.cacheEntries.get? (objectId, generation)).map
              (fun e => e.dirty)).getD false } rfl rfl
  | markDirty objectId generation sha256 offset len =>
      exact hnext.of_rows next s _ rfl (fun e he => ⟨e, he, rfl⟩)
  | clearDirtyAndWal =>
      refine hnext.of_rows next s _ rfl ?_
      intro e he
      obtain ⟨x, hx, rfl⟩ := List.mem_map.mp he
      exact ⟨x, hx, rfl⟩
  | evictCleanLru maxEntries =>
      refine hnext.of_rows next s _ (s.evict_lastAccess maxEntries) ?_
      intro e he
      exact ⟨e, ((s.mem_evict_rows maxEntries e).mp he).1, rfl⟩

omit [Crates] in
/-- An entry written over another leaves what is dirty flagged if it is itself
    flagged, or its key is not dirty. -/
theorem Flagged.upsert (s s' : AgedStore) (h : s.Flagged) (e : CacheEntry)
    (hrows : s'.store.cacheEntries = s.store.cacheEntries.upsert e)
    (hdirty : s'.store.dirtyRows = s.store.dirtyRows)
    (hflag : ∀ d ∈ s.store.dirtyRows, e.key = (d.objectId, d.generation) → e.dirty = true) :
    s'.Flagged := by
  intro d hd
  rw [hdirty] at hd
  rw [hrows]
  by_cases hkey : e.key = (d.objectId, d.generation)
  · exact ⟨e, (Table.mem_upsert _ _ _).mpr (Or.inl rfl), hkey, hflag d hd hkey⟩
  · obtain ⟨x, hx, hxk, hxd⟩ := h d hd
    refine ⟨x, (Table.mem_upsert _ _ _).mpr (Or.inr ⟨hx, ?_⟩), hxk, hxd⟩
    intro hsame
    exact hkey (hsame.symm.trans hxk)

/-- One call as a device issues it leaves what is dirty flagged. -/
theorem Flagged.after (s : AgedStore) (h : s.Flagged) (next : Instant) (c : CacheCall)
    (hissued : s.Issues c) : (s.after next c).Flagged := by
  cases c with
  | writeCache objectId generation bytes dirty =>
      refine h.upsert s _ _ rfl rfl ?_
      intro d hd hkey
      -- A fill is not of a dirty object, so it is a dirty write.
      by_contra hclean
      exact hissued (Bool.eq_false_iff.mpr hclean) d hd hkey
  | readCache objectId generation expectedSha =>
      rw [AgedStore.after]
      rcases s.store.readCache objectId generation expectedSha with msg | found
      · exact h
      · rcases found with _ | bytes
        · exact h
        · refine h.upsert s _ _ rfl rfl ?_
          intro d hd hkey
          -- The flag is the one the entry had.
          obtain ⟨e, he, hek, hdirty⟩ := h d hd
          have hget := (Table.mem_rows_iff_get? s.store.cacheEntries e).mp he
          have hsame : e.key = (objectId, generation) := hek.trans hkey.symm
          rw [hsame] at hget
          simp only [hget, Option.map_some, Option.getD_some]
          exact hdirty
  | markDirty objectId generation sha256 offset len =>
      intro d hd
      rw [LocalStore.mem_dirtyRows] at hd
      have hd' := (LocalStore.dirtyObject_upsertDirty _ s.store d.objectId).symm.trans hd
      by_cases hid : d.objectId = objectId
      · rw [if_pos hid, Option.some.injEq] at hd'
        obtain ⟨e, he, hek, hdirty⟩ := hissued
        refine ⟨e, he, ?_, hdirty⟩
        rw [← hd']
        exact hek
      · rw [if_neg hid] at hd'
        exact h d ((LocalStore.mem_dirtyRows _ _).mpr hd')
  | clearDirtyAndWal =>
      intro d hd
      rw [LocalStore.mem_dirtyRows] at hd
      cases hd
  | evictCleanLru maxEntries =>
      intro d hd
      obtain ⟨e, he, hek, hdirty⟩ := h d ((s.evict_dirtyRows maxEntries) ▸ hd)
      refine ⟨e, (s.mem_evict_rows maxEntries e).mpr ⟨he, ?_⟩, hek, hdirty⟩
      intro hgone
      have hclean := ((s.mem_cleanRows e).mp (s.mem_cleanRows_of_gone maxEntries e hgone)).2
      rw [hclean] at hdirty
      cases hdirty

end Crates

end AgedStore

section Crates

variable [Crates]

/-- Over a run every entry has a time of its own, not after the clock. -/
theorem aged_run (issued : AgedStore → CacheCall → Prop) (now : Instant) (s : AgedStore)
    (h : CacheRun issued now s) : s.Aged now := by
  induction h with
  | start now => exact AgedStore.aged_empty now
  | call now next s c hrun hnow hissued ih => exact ih.after now next s c hnow

/-- Over a run as a device issues it, what is dirty is flagged. -/
theorem flagged_run (now : Instant) (s : AgedStore) (h : CacheRun AgedStore.Issues now s) :
    s.Flagged := by
  generalize hissues : AgedStore.Issues = issued at h
  induction h with
  | start now =>
      intro d hd
      rw [LocalStore.mem_dirtyRows] at hd
      cases hd
  | call now next s c hrun hnow hissued ih => exact ih.after s next c (hissues ▸ hissued)

/-- Whatever the calls before it, an eviction does what it should exactly when
    no entry that is to go slips behind one that is to stay, and none of them
    is of an object dirty in its generation. The latter is so over every run as
    a device issues it. -/
theorem evict_lru_iff (issued : AgedStore → CacheCall → Prop) (now : Instant) (s : AgedStore)
    (maxEntries : Nat) (h : CacheRun issued now s) :
    (s.EvictsLru maxEntries ↔ s.InOrder maxEntries ∧ s.ClearOfDirty maxEntries) ∧
      (issued = AgedStore.Issues → (s.EvictsLru maxEntries ↔ s.InOrder maxEntries)) := by
  have hiff := (aged_run issued now s h).evictsLru_iff now s maxEntries
  refine ⟨hiff, ?_⟩
  rintro rfl
  rw [hiff, and_iff_left ((flagged_run now s h).clearOfDirty s maxEntries)]

end Crates

section Small

attribute [local instance] concreteCrates

/-- The half of an hour, on the first day of a year. -/
def halfPast (hour : Nat) (h : hour < 24) : Instant where
  year := 2024
  month := 1
  day := 1
  hour := hour
  minute := 30
  second := 0
  nanosecond := 0
  year_lt := by decide
  month_lt := by decide
  day_lt := by decide
  hour_lt := h
  minute_lt := by decide
  second_lt := by decide
  nanosecond_lt := by decide

/-- A store after two fills. -/
def twoFills (before first second : Instant) : AgedStore :=
  ((AgedStore.empty before).after first (.writeCache 1 1 [1] false)).after second
    (.writeCache 2 1 [2] false)

theorem twoFills_run (before first second : Instant) (h : before.Before first)
    (h' : first.Before second) : CacheRun AgedStore.Issues second (twoFills before first second) :=
  .call first second _ _
    (.call before first _ _ (.start before) (Or.inl h) (fun _ d hd => by
      rw [LocalStore.mem_dirtyRows] at hd
      cases hd))
    (Or.inl h') (fun _ d hd => by
      rw [LocalStore.mem_dirtyRows] at hd
      cases hd)

/-- The entry of a fill. -/
def filled (objectId : Nat) (bytes : Bytes) : CacheEntry :=
  { objectId := objectId
    generation := 1
    cachePath := LocalStore.cachePath objectId 1
    sha256 := sha256Hex bytes
    dirty := false }

theorem twoFills_cleanRows (before first second : Instant) :
    (twoFills before first second).cleanRows = [filled 1 [1], filled 2 [2]] := rfl

/-- Of an object filled at half past eight and one filled an hour later the
    first goes. -/
theorem evict_lru_small : (twoFills (halfPast 7 (by decide)) (halfPast 8 (by decide))
    (halfPast 9 (by decide))).EvictsLru 1 := by
  refine ((evict_lru_iff AgedStore.Issues (halfPast 9 (by decide)) _ 1
    (twoFills_run _ _ _ (by decide) (by decide))).2 rfl).mpr ?_
  intro a ha b hb _ _ hslip
  rw [twoFills_cleanRows, List.mem_pair] at ha
  -- No entry has an hour of two digits.
  have hwide := hslip.2.2.2.2.1
  rcases ha with rfl | rfl <;> exact absurd hwide (by decide)

/-- Of an object filled at half past nine and one filled an hour later the
    second goes. -/
theorem evict_lru_slip : ¬∀ (now : Instant) (s : AgedStore) (maxEntries : Nat),
    CacheRun AgedStore.Issues now s → s.EvictsLru maxEntries := by
  intro h
  have hrun := twoFills_run (halfPast 8 (by decide)) (halfPast 9 (by decide))
    (halfPast 10 (by decide)) (by decide) (by decide)
  have horder := (((aged_run _ _ _ hrun).evictsLru_iff _ _ 1).mp (h _ _ 1 hrun)).1
  refine horder (filled 2 [2]) ?_ (filled 1 [1]) ?_ ?_ ?_ ?_
  · rw [twoFills_cleanRows]
    exact List.mem_cons_of_mem _ List.mem_cons_self
  · rw [twoFills_cleanRows]
    exact List.mem_cons_self
  · rw [AgedStore.newer, twoFills_cleanRows]
    decide
  · rw [AgedStore.newer, twoFills_cleanRows]
    decide
  · decide

end Small

end TgDrive
