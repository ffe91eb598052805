import TgDrive.Core.Cache
import TgDrive.Data.Ranges

/-!
# The Rows of the WAL

The table `wal_entries` as the database holds it, in signed 64-bit integers,
and the statements of `mark_dirty` on it with the casts that lead into them and
out of them. The touching rows of an object and generation are merged with a
new range into one row; what is deleted is asked for with the merged range.

A row whose end is past the signed integers would be compared as a
floating-point number and could not be read back. The ranges of objects end far
below, and so do the rows then, which is part of what is kept: the rows of a
pair are coalesced ranges of signed integers. `LocalStore.markDirty` is the
same on a store whose numbers fit.

## Main definitions

* `WalRow`: A row as it is stored.
* `MarkDirty`: A call, as far as the WAL is concerned.
* `WalRow.existing`, `WalRow.merged`: The range a call is merged into.
* `WalRow.markDirty`, `WalRow.markAll`: A call, and a sequence of them.
* `WalRow.ofPair`: The rows of an object and generation.
* `WalRow.Valid`, `WalRow.Marked`: Rows as calls leave them, and what a call
  makes of them.
* `WalEntry.row`: The row of an entry of the store.

## Theorems

* `markDirty_eq`: What a call does to valid rows.
* `Valid.marked`: A call adds its range to its pair and leaves the others alone.
* `wal_exact`: Over a run of calls the rows are what was marked.
* `markDirty_walEntries`, `markAll_walEntries`: The store does the same.
-/

namespace TgDrive

open Data Effect

/-- A row of `wal_entries`. -/
structure WalRow where
  objectId : Int64
  offset : Int64
  len : Int64
  generation : Int64
  sha256 : Text
  deriving DecidableEq

/-- A call of `mark_dirty`, as far as the WAL is concerned. -/
structure MarkDirty where
  objectId : UInt64
  generation : UInt64
  sha256 : Text
  offset : UInt64
  len : UInt64
  deriving DecidableEq

namespace MarkDirty

def pair (c : MarkDirty) : UInt64 × UInt64 := (c.objectId, c.generation)

def start (c : MarkDirty) : Int := c.offset.toNat

def stop (c : MarkDirty) : Int := c.offset.toNat + c.len.toNat

/-- The bytes that a call marks. -/
def points (c : MarkDirty) : Set Int := {x | c.start ≤ x ∧ x < c.stop}

/-- The range of a call is not empty and ends at a signed integer. -/
structure Fits (c : MarkDirty) : Prop where
  filled : 0 < c.len.toNat
  signed : c.offset.toNat + c.len.toNat < 2 ^ 63

instance decidableFits (c : MarkDirty) : Decidable c.Fits :=
  decidable_of_iff (0 < c.len.toNat ∧ c.offset.toNat + c.len.toNat < 2 ^ 63)
    ⟨fun h => ⟨h.1, h.2⟩, fun h => ⟨h.1, h.2⟩⟩

end MarkDirty

namespace WalRow

def start (r : WalRow) : Int := r.offset.toInt

/-- `offset + len`. Past the signed integers the database goes on in floating
    point, which a row of a run never reaches. -/
def stop (r : WalRow) : Int := r.offset.toInt + r.len.toInt

/-- The object and the generation of a row, as they are read back. -/
def pair (r : WalRow) : UInt64 × UInt64 := (r.objectId.toUInt64, r.generation.toUInt64)

/-- The condition of both statements on rows that are there. -/
def touches (objectId generation lo hi : Int64) (r : WalRow) : Bool :=
  decide (r.objectId = objectId ∧ r.generation = generation ∧
    r.start ≤ hi.toInt ∧ lo.toInt ≤ r.stop)

/-- A column read as `i64`. -/
def readInteger (n : Int) : Except String Int64 :=
  if -2 ^ 63 ≤ n ∧ n < 2 ^ 63 then .ok (Int64.ofInt n)
  else .error "Invalid column type Real at index: 1, name: MAX(offset + len)"

/-- The least offset and the greatest end among the rows that touch a range.
    Without such rows both columns are null. -/
def existing (rows : List WalRow) (objectId generation lo hi : Int64) :
    Except String (Option (Int64 × Int64)) :=
  let touched := rows.filter (touches objectId generation lo hi)
  match (touched.map start).min?, (touched.map stop).max? with
  | some low, some high => do
      let low ← readInteger low
      let high ← readInteger high
      pure (some (low, high))
  | _, _ => pure none

/-- A range widened to the rows that are there. -/
def merged (offset stop : UInt64) : Option (Int64 × Int64) → UInt64 × UInt64
  | some (low, high) => (min offset low.toUInt64, max stop high.toUInt64)
  | none => (offset, stop)

/-- What `mark_dirty` does to `wal_entries`. -/
def markDirty (rows : List WalRow) (c : MarkDirty) : Except String (List WalRow) := do
  let objectId := c.objectId.toInt64
  let generation := c.generation.toInt64
  let stop ← checkedAdd c.offset.toNat c.len.toNat
  let stop := UInt64.ofNat stop
  let found ← existing rows objectId generation c.offset.toInt64 stop.toInt64
  let merged := merged c.offset stop found
  let kept := rows.filter (fun r =>
    !touches objectId generation merged.1.toInt64 merged.2.toInt64 r)
  pure (kept ++ [{
    objectId := objectId
    offset := merged.1.toInt64
    len := (merged.2 - merged.1).toInt64
    generation := generation
    sha256 := c.sha256 }])

/-- A sequence of calls. -/
def markAll (rows : List WalRow) (calls : List MarkDirty) : Except String (List WalRow) :=
  calls.foldlM markDirty rows

/-- The rows of an object and generation. -/
def ofPair (pair : UInt64 × UInt64) (rows : List WalRow) : List WalRow :=
  rows.filter (fun r => decide (r.pair = pair))

/-- Rows as calls leave them: signed, and coalesced for each pair. -/
structure Valid (rows : List WalRow) : Prop where
  signed : ∀ r ∈ rows, 0 ≤ r.start ∧ r.stop < 2 ^ 63
  coalesced : ∀ pair, Coalesced start stop (ofPair pair rows)

/-- What a call makes of valid rows. -/
structure Marked (rows : List WalRow) (c : MarkDirty) (rows' : List WalRow) : Prop where
  valid : Valid rows'
  covered : points start stop (ofPair c.pair rows') =
    points start stop (ofPair c.pair rows) ∪ c.points
  others : ∀ pair, pair ≠ c.pair → ofPair pair rows' = ofPair pair rows

/-- The bytes that some calls mark in a pair. -/
def marks (calls : List MarkDirty) (pair : UInt64 × UInt64) : Set Int :=
  {x | ∃ c ∈ calls, c.pair = pair ∧ x ∈ c.points}

theorem mem_ofPair (pair : UInt64 × UInt64) (rows : List WalRow) (r : WalRow) :
    r ∈ ofPair pair rows ↔ r ∈ rows ∧ r.pair = pair := by
  rw [ofPair, List.mem_filter, decide_eq_true_iff]

/-- A number below `2 ^ 63` is stored as it is. -/
theorem toInt_toInt64 (u : UInt64) (h : u.toNat < 2 ^ 63) : u.toInt64.toInt = u.toNat := by
  have hdouble : 2 * u.toBitVec.toNat < 2 ^ 64 := by
    change 2 * u.toNat < 2 ^ 64
    omega
  rw [Int64.toInt, UInt64.toBitVec_toInt64, BitVec.toInt_eq_toNat_of_lt hdouble]
  rfl

/-- A stored number that is not negative is read back as it is. -/
theorem toNat_toUInt64 (i : Int64) (h : 0 ≤ i.toInt) : (i.toUInt64.toNat : Int) = i.toInt := by
  have hle : (0 : Int64) ≤ i := Int64.le_iff_toInt_le.mpr h
  rw [Int64.toNat_toUInt64_of_le hle, Int64.toNatClampNeg, Int.toNat_of_nonneg h]

/-- Both statements ask for the rows of the pair that touch a range. -/
theorem touches_eq (c : MarkDirty) (lo hi : Int64) (r : WalRow) :
    touches c.objectId.toInt64 c.generation.toInt64 lo hi r =
      decide (r.pair = c.pair ∧ Touches start stop lo.toInt hi.toInt r) := by
  have hpair : (r.objectId = c.objectId.toInt64 ∧ r.generation = c.generation.toInt64) ↔
      r.pair = c.pair := by
    rw [pair, MarkDirty.pair, Prod.mk.injEq]
    constructor
    · rintro ⟨hid, hgen⟩
      rw [hid, hgen, UInt64.toUInt64_toInt64, UInt64.toUInt64_toInt64]
      exact ⟨rfl, rfl⟩
    · rintro ⟨hid, hgen⟩
      rw [← hid, ← hgen, Int64.toInt64_toUInt64, Int64.toInt64_toUInt64]
      exact ⟨rfl, rfl⟩
  rw [touches, decide_eq_decide, ← hpair, Touches, and_assoc]

theorem filter_touches (c : MarkDirty) (lo hi : Int64) (rows : List WalRow) :
    rows.filter (touches c.objectId.toInt64 c.generation.toInt64 lo hi) =
      touching start stop (ofPair c.pair rows) lo.toInt hi.toInt := by
  rw [touching, ofPair, List.filter_filter]
  refine List.filter_congr fun r _ => ?_
  rw [touches_eq, Bool.decide_and, Bool.and_comm]

theorem readInteger_eq (n : Int) (hlow : 0 ≤ n) (hhigh : n < 2 ^ 63) :
    readInteger n = .ok (Int64.ofInt n) ∧ ((Int64.ofInt n).toUInt64.toNat : Int) = n := by
  have hint : (Int64.ofInt n).toInt = n := Int64.toInt_ofInt_of_le (by omega) hhigh
  refine ⟨by rw [readInteger, if_pos ⟨by omega, hhigh⟩], ?_⟩
  rw [toNat_toUInt64 _ (by rw [hint]; exact hlow), hint]

section Call

variable {rows : List WalRow} (h : Valid rows) (c : MarkDirty) (hc : c.Fits)

include h

/-- The rows of a pair start and end at signed integers. -/
theorem Valid.bounds (pair : UInt64 × UInt64) (r : WalRow) (hr : r ∈ ofPair pair rows) :
    0 ≤ r.start ∧ r.start < r.stop ∧ r.stop < 2 ^ 63 := by
  have hsigned := h.signed r ((mem_ofPair pair rows r).mp hr).1
  exact ⟨hsigned.1, (h.coalesced pair).filled r hr, hsigned.2⟩

include hc

/-- What a call finds in the table, and the range it makes of it. -/
theorem existing_eq : ∃ found,
    existing rows c.objectId.toInt64 c.generation.toInt64 c.offset.toInt64
      (UInt64.ofNat (c.offset.toNat + c.len.toNat)).toInt64 = .ok found ∧
    ((merged c.offset (UInt64.ofNat (c.offset.toNat + c.len.toNat)) found).1.toNat : Int) =
      lowest start stop (ofPair c.pair rows) c.start c.stop ∧
    ((merged c.offset (UInt64.ofNat (c.offset.toNat + c.len.toNat)) found).2.toNat : Int) =
      highest start stop (ofPair c.pair rows) c.start c.stop := by
  have hend := hc.signed
  have hstop : (UInt64.ofNat (c.offset.toNat + c.len.toNat)).toNat = c.offset.toNat + c.len.toNat :=
    UInt64.toNat_ofNat_of_lt' (by change _ < 2 ^ 64; omega)
  have hlo : c.offset.toInt64.toInt = c.start := toInt_toInt64 _ (by omega)
  have hhi : (UInt64.ofNat (c.offset.toNat + c.len.toNat)).toInt64.toInt = c.stop := by
    rw [toInt_toInt64 _ (by omega), hstop, MarkDirty.stop, Nat.cast_add]
  have hbounds : ∀ r ∈ touching start stop (ofPair c.pair rows) c.start c.stop,
      0 ≤ r.start ∧ r.start < r.stop ∧ r.stop < 2 ^ 63 :=
    fun r hr => h.bounds c.pair r ((mem_touching r).mp hr).1
  rw [existing, filter_touches, hlo, hhi, lowest, highest, least, greatest]
  generalize touching start stop (ofPair c.pair rows) c.start c.stop = touched at hbounds
  rcases hlow : (touched.map start).min? with _ | low
  · -- Nothing touches the range.
    have hnil : touched = [] := List.map_eq_nil_iff.mp (List.min?_eq_none_iff.mp hlow)
    refine ⟨none, rfl, ?_, ?_⟩
    · change (c.offset.toNat : Int) = min c.start c.start
      rw [min_self, MarkDirty.start]
    · rw [hnil]
      change ((UInt64.ofNat _).toNat : Int) = max c.stop c.stop
      rw [max_self, hstop, MarkDirty.stop, Nat.cast_add]
  · rcases hhigh : (touched.map stop).max? with _ | high
    · -- Where there is a least start there is a greatest stop.
      have hnil : touched = [] := List.map_eq_nil_iff.mp (List.max?_eq_none_iff.mp hhigh)
      rw [hnil] at hlow
      cases hlow
    · -- Both are ends of rows, so they are read as they are.
      rcases List.mem_map.mp (List.min?_mem hlow) with ⟨r, hr, hstart⟩
      rcases List.mem_map.mp (List.max?_mem hhigh) with ⟨r', hr', hstop'⟩
      have hb := hbounds r hr
      have hb' := hbounds r' hr'
      rcases readInteger_eq low (by omega) (by omega) with ⟨hreadLow, hbackLow⟩
      rcases readInteger_eq high (by omega) (by omega) with ⟨hreadHigh, hbackHigh⟩
      refine ⟨some (Int64.ofInt low, Int64.ofInt high), ?_, ?_, ?_⟩
      · change (readInteger low >>= fun _ => _) = _
        rw [hreadLow]
        change (readInteger high >>= fun _ => _) = _
        rw [hreadHigh]
        rfl
      · change ((min c.offset (Int64.ofInt low).toUInt64).toNat : Int) = min c.start low
        rw [UInt64.toNat_min, MarkDirty.start]
        omega
      · change ((max _ (Int64.ofInt high).toUInt64).toNat : Int) = max c.stop high
        rw [UInt64.toNat_max, hstop, MarkDirty.stop]
        omega

/-- The widened range is signed, as the rows and the range of the call are. -/
theorem signed_widened :
    0 ≤ lowest start stop (ofPair c.pair rows) c.start c.stop ∧
    lowest start stop (ofPair c.pair rows) c.start c.stop ≤
      highest start stop (ofPair c.pair rows) c.start c.stop ∧
    highest start stop (ofPair c.pair rows) c.start c.stop < 2 ^ 63 := by
  have hend := hc.signed
  have hin := h.bounds c.pair
  have hstart : c.start = c.offset.toNat := rfl
  have hstop : c.stop = c.offset.toNat + c.len.toNat := rfl
  have hle : lowest start stop (ofPair c.pair rows) c.start c.stop ≤ c.start := least_le _ _
  have hge : c.stop ≤ highest start stop (ofPair c.pair rows) c.start c.stop := le_greatest _ _
  -- Each end is that of the call, or that of a row.
  refine ⟨?_, by omega, ?_⟩
  · rcases lowest_cases start stop (ofPair c.pair rows) c.start c.stop with heq | ⟨r, hr, _, heq⟩
    · omega
    · rw [← heq]
      exact (hin r hr).1
  · rcases highest_cases start stop (ofPair c.pair rows) c.start c.stop with heq | ⟨r, hr, _, heq⟩
    · omega
    · rw [← heq]
      exact (hin r hr).2.2

/-- What a call does to valid rows: those of its pair that touch the widened
    range are replaced by one row of that range. -/
theorem markDirty_eq : ∃ new : WalRow, new.pair = c.pair ∧ new.sha256 = c.sha256 ∧
    new.start = lowest start stop (ofPair c.pair rows) c.start c.stop ∧
    new.stop = highest start stop (ofPair c.pair rows) c.start c.stop ∧
    markDirty rows c = .ok (rows.filter (fun r => !decide (r.pair = c.pair ∧
      Touches start stop (lowest start stop (ofPair c.pair rows) c.start c.stop)
        (highest start stop (ofPair c.pair rows) c.start c.stop) r)) ++ [new]) := by
  rcases existing_eq h c hc with ⟨found, hfound, hlow, hhigh⟩
  have hend := hc.signed
  have hin := h.bounds c.pair
  have hstart : c.start = c.offset.toNat := rfl
  have hstop : c.stop = c.offset.toNat + c.len.toNat := rfl
  have hadd : checkedAdd c.offset.toNat c.len.toNat = .ok (c.offset.toNat + c.len.toNat) := by
    rw [checkedAdd, if_pos (by omega)]
  rcases signed_widened h c hc with ⟨hzero, hle, hlt⟩
  generalize lowest start stop (ofPair c.pair rows) c.start c.stop = low at *
  generalize highest start stop (ofPair c.pair rows) c.start c.stop = high at *
  rcases hmerged : merged c.offset (UInt64.ofNat (c.offset.toNat + c.len.toNat)) found
    with ⟨first, last⟩
  rw [hmerged] at hlow hhigh
  simp only [] at hlow hhigh
  -- The casts into the columns lose nothing of the merged range.
  have hfirst : first.toInt64.toInt = low := by
    rw [toInt_toInt64 _ (by omega), hlow]
  have hlast : last.toInt64.toInt = high := by
    rw [toInt_toInt64 _ (by omega), hhigh]
  have hsub : (last - first).toNat = last.toNat - first.toNat :=
    UInt64.toNat_sub_of_le _ _ (UInt64.le_iff_toNat_le.mpr (by omega))
  have hlen : (last - first).toInt64.toInt = high - low := by
    rw [toInt_toInt64 _ (by omega), hsub]
    omega
  refine ⟨{
    objectId := c.objectId.toInt64
    offset := first.toInt64
    len := (last - first).toInt64
    generation := c.generation.toInt64
    sha256 := c.sha256 }, rfl, rfl, hfirst, ?_, ?_⟩
  · rw [stop, hfirst, hlen]
    omega
  · unfold markDirty
    rw [hadd]
    change (existing _ _ _ _ _ >>= fun _ => _) = _
    rw [hfound]
    change Except.ok _ = _
    rw [hmerged]
    simp only [touches_eq, hfirst, hlast]

/-- A call succeeds. It adds its range to the rows of its pair, which stay
    coalesced, and leaves all other rows where they are. -/
theorem Valid.marked : ∃ rows', markDirty rows c = .ok rows' ∧ Marked rows c rows' := by
  rcases markDirty_eq h c hc with ⟨new, hpair, _, hstart, hstop, hrun⟩
  have hcoalesced := h.coalesced c.pair
  have hlt : c.start < c.stop := by
    have hfilled := hc.filled
    rw [MarkDirty.start, MarkDirty.stop]
    omega
  -- Among the rows of its pair the call takes in a range.
  have hown : ofPair c.pair (rows.filter (fun r => !decide (r.pair = c.pair ∧
      Touches start stop (lowest start stop (ofPair c.pair rows) c.start c.stop)
        (highest start stop (ofPair c.pair rows) c.start c.stop) r)) ++ [new]) =
      absorb start stop (ofPair c.pair rows) c.start c.stop new := by
    rw [absorb, ofPair, List.filter_append, List.filter_singleton, hpair, decide_eq_true rfl]
    congr 1
    rw [ofPair, List.filter_filter, List.filter_filter]
    refine List.filter_congr fun r _ => ?_
    by_cases hr : r.pair = c.pair
    · simp only [hr, true_and, decide_true, Bool.true_and, Bool.and_true]
    · simp only [hr, decide_false, Bool.false_and, Bool.and_false]
  -- The rows of another pair are not asked for.
  have hothers : ∀ pair, pair ≠ c.pair →
      ofPair pair (rows.filter (fun r => !decide (r.pair = c.pair ∧
        Touches start stop (lowest start stop (ofPair c.pair rows) c.start c.stop)
          (highest start stop (ofPair c.pair rows) c.start c.stop) r)) ++ [new]) =
        ofPair pair rows := by
    intro pair hne
    have hnew : ¬new.pair = pair := fun heq => hne (heq.symm.trans hpair)
    rw [ofPair, List.filter_append, List.filter_singleton, decide_eq_false hnew,
      List.filter_filter, ofPair]
    refine (List.append_nil _).trans (List.filter_congr fun r _ => ?_)
    by_cases hr : r.pair = pair
    · have hother : ¬r.pair = c.pair := fun heq => hne (hr.symm.trans heq)
      simp only [hother, false_and, decide_false, Bool.not_false, Bool.and_true]
    · simp only [hr, decide_false, Bool.false_and]
  refine ⟨_, hrun, ?_, ?_, hothers⟩
  · refine ⟨?_, ?_⟩
    · intro r hr
      rcases List.mem_append.mp hr with hold | hnew
      · exact h.signed r (List.mem_filter.mp hold).1
      · have hwidened := signed_widened h c hc
        rw [List.mem_singleton.mp hnew, hstart, hstop]
        exact ⟨hwidened.1, hwidened.2.2⟩
    · intro pair
      by_cases hsame : pair = c.pair
      · rw [hsame, hown]
        exact hcoalesced.absorb new hstart hstop hlt
      · rw [hothers pair hsame]
        exact h.coalesced pair
  · rw [hown]
    exact hcoalesced.points_absorb new hstart hstop

end Call

theorem valid_nil : Valid [] where
  signed := fun _ hr => absurd hr List.not_mem_nil
  coalesced := fun _ => ⟨fun _ hr => absurd hr List.not_mem_nil, List.Pairwise.nil⟩

theorem marks_cons (c : MarkDirty) (calls : List MarkDirty) (pair : UInt64 × UInt64) :
    marks (c :: calls) pair = {x | c.pair = pair ∧ x ∈ c.points} ∪ marks calls pair := by
  ext x
  simp only [marks, List.mem_cons, exists_eq_or_imp, Set.mem_union, Set.mem_ofPred_eq]

/-- A sequence of calls succeeds, leaves valid rows and covers for each pair
    what was covered before and what was marked. -/
theorem Valid.markAll : ∀ (calls : List MarkDirty) (rows : List WalRow), Valid rows →
    (∀ c ∈ calls, c.Fits) → ∃ rows', WalRow.markAll rows calls = .ok rows' ∧ Valid rows' ∧
      ∀ pair, points start stop (ofPair pair rows') =
        points start stop (ofPair pair rows) ∪ marks calls pair := by
  intro calls
  induction calls with
  | nil =>
      intro rows h _
      refine ⟨rows, rfl, h, fun pair => ?_⟩
      have hnone : marks [] pair = ∅ := by
        ext x
        simp only [marks, List.not_mem_nil, false_and, exists_false, Set.mem_ofPred_eq,
          Set.mem_empty_iff_false]
      rw [hnone, Set.union_empty]
  | cons c calls ih =>
      intro rows h hfits
      rcases h.marked c (hfits c List.mem_cons_self) with ⟨rows₁, hrun, hmarked⟩
      obtain ⟨rows₂, hrest, hvalid, hcovered⟩ :=
        ih rows₁ hmarked.valid fun c' hc' => hfits c' (List.mem_cons_of_mem c hc')
      refine ⟨rows₂, ?_, hvalid, fun pair => ?_⟩
      · unfold WalRow.markAll at hrest ⊢
        rw [List.foldlM_cons, hrun]
        exact hrest
      · rw [hcovered pair, marks_cons, ← Set.union_assoc]
        congr 1
        by_cases hsame : pair = c.pair
        · rw [hsame, hmarked.covered]
          congr 1
          ext x
          simp only [Set.mem_ofPred_eq, true_and]
        · rw [hmarked.others pair hsame]
          ext x
          simp only [Set.mem_union, Set.mem_ofPred_eq, Ne.symm hsame, false_and, or_false]

/-- The rows of the WAL are exactly what was marked: after any sequence of
    calls the rows of each object and generation have gaps between them, and
    together they are the ranges marked for it; and a further call leaves the
    rows of all others as they are. -/
theorem wal_exact (calls : List MarkDirty) (hfits : ∀ c ∈ calls, c.Fits) :
    ∃ rows, WalRow.markAll [] calls = .ok rows ∧
      (∀ pair, (ofPair pair rows).Pairwise (fun a b => a.stop < b.start ∨ b.stop < a.start) ∧
        (∀ r ∈ ofPair pair rows, r.start < r.stop) ∧
        ∀ x, (∃ r ∈ ofPair pair rows, r.start ≤ x ∧ x < r.stop) ↔
          ∃ c ∈ calls, c.pair = pair ∧ c.start ≤ x ∧ x < c.stop) ∧
      ∀ c : MarkDirty, c.Fits → ∃ rows', markDirty rows c = .ok rows' ∧
        ∀ pair, pair ≠ c.pair → ofPair pair rows' = ofPair pair rows := by
  rcases Valid.markAll calls [] valid_nil hfits with ⟨rows, hrun, hvalid, hcovered⟩
  refine ⟨rows, hrun, fun pair => ?_, fun c hc => ?_⟩
  · refine ⟨(hvalid.coalesced pair).apart, (hvalid.coalesced pair).filled, fun x => ?_⟩
    have hx := Set.ext_iff.mp (hcovered pair) x
    simpa only [points, ofPair, List.filter_nil, List.not_mem_nil, false_and, exists_false,
      Set.mem_union, Set.mem_ofPred_eq, false_or, marks, MarkDirty.points, Set.mem_Ico] using hx
  · rcases hvalid.marked c hc with ⟨rows', hcall, hmarked⟩
    exact ⟨rows', hcall, hmarked.others⟩

/-- Ranges of two objects, the first of them marked from the end. -/
def smallCalls : List MarkDirty :=
  [ { objectId := 1, generation := 1, sha256 := [], offset := 16, len := 4 }
  , { objectId := 1, generation := 1, sha256 := [], offset := 4, len := 4 }
  , { objectId := 2, generation := 1, sha256 := [], offset := 2, len := 9 }
  , { objectId := 1, generation := 1, sha256 := [], offset := 0, len := 4 } ]

example : markAll [] smallCalls = .ok
    [ { objectId := 1, offset := 16, len := 4, generation := 1, sha256 := [] }
    , { objectId := 2, offset := 2, len := 9, generation := 1, sha256 := [] }
    , { objectId := 1, offset := 0, len := 8, generation := 1, sha256 := [] } ] := rfl

theorem wal_exact_small : ∃ rows, markAll [] smallCalls = .ok rows ∧
    (ofPair (1, 1) rows).Pairwise (fun a b => a.stop < b.start ∨ b.stop < a.start) ∧
    (∃ r ∈ ofPair (1, 1) rows, r.start ≤ 17 ∧ 17 < r.stop) ∧
    ∃ rows', markDirty rows ⟨2, 1, [], 0, 30⟩ = .ok rows' ∧
      ofPair (1, 1) rows' = ofPair (1, 1) rows := by
  rcases wal_exact smallCalls (by decide) with ⟨rows, hrun, hpairs, hnext⟩
  rcases hnext ⟨2, 1, [], 0, 30⟩ (by decide) with ⟨rows', hcall, hothers⟩
  refine ⟨rows, hrun, (hpairs (1, 1)).1, ?_, rows', hcall, hothers (1, 1) (by decide)⟩
  exact ((hpairs (1, 1)).2.2 17).mpr ⟨_, List.mem_cons_self, rfl, by decide, by decide⟩

end WalRow

/-- An entry whose numbers fit the columns. -/
structure WalEntry.Fits (e : WalEntry) : Prop where
  objectId : e.objectId < 2 ^ 64
  generation : e.generation < 2 ^ 64
  signed : e.offset + e.len < 2 ^ 63

/-- The row of an entry. -/
def WalEntry.row (e : WalEntry) : WalRow :=
  { objectId := (UInt64.ofNat e.objectId).toInt64
    offset := (UInt64.ofNat e.offset).toInt64
    len := (UInt64.ofNat e.len).toInt64
    generation := (UInt64.ofNat e.generation).toInt64
    sha256 := e.sha256 }

/-- A call on the store. -/
def LocalStore.mark (s : LocalStore) (c : MarkDirty) : LocalStore :=
  applyAll (s.markDirty c.objectId.toNat c.generation.toNat
    (cachePath c.objectId.toNat c.generation.toNat) c.sha256 c.offset.toNat c.len.toNat) s

namespace WalEntry

theorem start_row (e : WalEntry) (h : e.Fits) : e.row.start = e.offset := by
  have hsigned := h.signed
  have hoffset : (UInt64.ofNat e.offset).toNat = e.offset :=
    UInt64.toNat_ofNat_of_lt' (by change _ < 2 ^ 64; omega)
  change (UInt64.ofNat e.offset).toInt64.toInt = _
  rw [WalRow.toInt_toInt64 _ (by omega), hoffset]

theorem stop_row (e : WalEntry) (h : e.Fits) : e.row.stop = e.offset + e.len := by
  have hsigned := h.signed
  have hlen : (UInt64.ofNat e.len).toNat = e.len :=
    UInt64.toNat_ofNat_of_lt' (by change _ < 2 ^ 64; omega)
  change e.row.start + (UInt64.ofNat e.len).toInt64.toInt = _
  rw [e.start_row h, WalRow.toInt_toInt64 _ (by omega), hlen]

theorem pair_row (e : WalEntry) (h : e.Fits) (c : MarkDirty) :
    e.row.pair = c.pair ↔ e.objectId = c.objectId.toNat ∧ e.generation = c.generation.toNat := by
  have hid : (UInt64.ofNat e.objectId).toNat = e.objectId := UInt64.toNat_ofNat_of_lt' h.objectId
  have hgen : (UInt64.ofNat e.generation).toNat = e.generation :=
    UInt64.toNat_ofNat_of_lt' h.generation
  rw [WalRow.pair, MarkDirty.pair, Prod.mk.injEq, row, UInt64.toUInt64_toInt64,
    UInt64.toUInt64_toInt64, ← UInt64.toNat_inj, ← UInt64.toNat_inj, hid, hgen]

/-- The store and the database find the same rows. -/
theorem touches_row (e : WalEntry) (h : e.Fits) (c : MarkDirty) (lo hi : Nat) :
    LocalStore.touches c.objectId.toNat c.generation.toNat lo hi e =
      decide (e.row.pair = c.pair ∧ Touches WalRow.start WalRow.stop lo hi e.row) := by
  rw [LocalStore.touches, decide_eq_decide, e.pair_row h, Touches, e.start_row h, e.stop_row h]
  omega

theorem filter_row (entries : List WalEntry) (hfits : ∀ e ∈ entries, e.Fits) (c : MarkDirty)
    (lo hi : Nat) : (entries.filter
      (LocalStore.touches c.objectId.toNat c.generation.toNat lo hi)).map row =
        touching WalRow.start WalRow.stop (WalRow.ofPair c.pair (entries.map row)) lo hi := by
  rw [touching, WalRow.ofPair, List.filter_filter, List.filter_map]
  congr 1
  refine List.filter_congr fun e he => ?_
  rw [e.touches_row (hfits e he), Bool.decide_and, Bool.and_comm]
  rfl

/-- A fold over entries is one over their rows. -/
theorem foldl_row (f : Nat → Nat → Nat) (g : Int → Int → Int)
    (hfg : ∀ a b : Nat, ((f a b : Nat) : Int) = g a b) (h : WalEntry → Nat) (k : WalRow → Int)
    (entries : List WalEntry) (hk : ∀ e ∈ entries, k e.row = h e) : ∀ a : Nat,
      ((entries.foldl (fun a e => f a (h e)) a : Nat) : Int) =
        ((entries.map row).map k).foldl g a := by
  induction entries with
  | nil => exact fun a => rfl
  | cons e rest ih =>
      intro a
      have hrest := ih (fun e' he' => hk e' (List.mem_cons_of_mem e he')) (f a (h e))
      rw [List.foldl_cons, hrest, hfg, List.map_cons, List.map_cons, List.foldl_cons,
        hk e List.mem_cons_self]

/-- The store and the database merge a call into the same range. -/
theorem mergedRange_row (entries : List WalEntry) (hfits : ∀ e ∈ entries, e.Fits)
    (c : MarkDirty) :
    ((LocalStore.mergedRange entries c.objectId.toNat c.generation.toNat c.offset.toNat
      c.len.toNat).1 : Int) = lowest WalRow.start WalRow.stop
        (WalRow.ofPair c.pair (entries.map row)) c.start c.stop ∧
    ((LocalStore.mergedRange entries c.objectId.toNat c.generation.toNat c.offset.toNat
      c.len.toNat).2 : Int) = highest WalRow.start WalRow.stop
        (WalRow.ofPair c.pair (entries.map row)) c.start c.stop := by
  have hrows := filter_row entries hfits c c.offset.toNat (c.offset.toNat + c.len.toNat)
  have hcall : ((c.offset.toNat + c.len.toNat : Nat) : Int) = c.stop := Nat.cast_add _ _
  have hstart : ((c.offset.toNat : Nat) : Int) = c.start := rfl
  rw [hcall, hstart] at hrows
  have htouched : ∀ e ∈ entries.filter (LocalStore.touches c.objectId.toNat c.generation.toNat
      c.offset.toNat (c.offset.toNat + c.len.toNat)), e.Fits :=
    fun e he => hfits e (List.mem_filter.mp he).1
  rw [lowest, highest, ← hrows, least_eq_foldl, greatest_eq_foldl]
  refine ⟨?_, ?_⟩
  · exact foldl_row min min (fun a b => by omega) WalEntry.offset WalRow.start _
      (fun e he => e.start_row (htouched e he)) _
  · rw [← hcall]
    exact foldl_row max max (fun a b => by omega) (fun e => e.offset + e.len) WalRow.stop _
      (fun e he => (e.stop_row (htouched e he)).trans (Nat.cast_add _ _).symm) _

end WalEntry

/-- Rows of one pair, range and checksum are the same. -/
theorem WalRow.ext_range (a b : WalRow) (hpair : a.pair = b.pair) (hsha : a.sha256 = b.sha256)
    (hstart : a.start = b.start) (hstop : a.stop = b.stop) : a = b := by
  rcases a with ⟨id, offset, len, gen, sha⟩
  rcases b with ⟨id', offset', len', gen', sha'⟩
  have hid := (Prod.mk.inj hpair).1
  have hgen := (Prod.mk.inj hpair).2
  have hoffset : offset = offset' := Int64.toInt_inj.mp hstart
  have hlen : len = len' := by
    refine Int64.toInt_inj.mp ?_
    change offset.toInt + len.toInt = offset'.toInt + len'.toInt at hstop
    rw [hoffset] at hstop
    omega
  rw [← Int64.toInt64_toUInt64 id, ← Int64.toInt64_toUInt64 gen, hoffset, hlen]
  change id.toUInt64 = id'.toUInt64 at hid
  change gen.toUInt64 = gen'.toUInt64 at hgen
  change sha = sha' at hsha
  rw [hid, hgen, hsha, Int64.toInt64_toUInt64, Int64.toInt64_toUInt64]

/-- What a call does to the entries of a store is what it does to their rows. -/
theorem markDirty_walEntries (s : LocalStore) (hfits : ∀ e ∈ s.walEntries, e.Fits)
    (hvalid : WalRow.Valid (s.walEntries.map WalEntry.row)) (c : MarkDirty) (hc : c.Fits) :
    WalRow.markDirty (s.walEntries.map WalEntry.row) c =
      .ok ((s.mark c).walEntries.map WalEntry.row) ∧ ∀ e ∈ (s.mark c).walEntries, e.Fits := by
  rcases WalRow.markDirty_eq hvalid c hc with ⟨new, hpair, hsha, hstart, hstop, hrun⟩
  rcases WalEntry.mergedRange_row s.walEntries hfits c with ⟨hlow, hhigh⟩
  have hbounds := WalRow.signed_widened hvalid c hc
  rw [← hlow, ← hhigh] at hrun hbounds
  rw [← hlow] at hstart
  rw [← hhigh] at hstop
  rcases hmerged : LocalStore.mergedRange s.walEntries c.objectId.toNat c.generation.toNat
    c.offset.toNat c.len.toNat with ⟨first, last⟩
  rw [hmerged] at hrun hbounds hstart hstop
  simp only [] at hrun hbounds hstart hstop
  -- The entry that is put in, whose row is the new one.
  have hentry : (s.mark c).walEntries = s.walEntries.filter (fun e => !LocalStore.touches
      c.objectId.toNat c.generation.toNat first last e) ++ [{
        objectId := c.objectId.toNat
        offset := first
        len := last - first
        generation := c.generation.toNat
        sha256 := c.sha256 }] := by
    change (applyAll (s.markDirty _ _ _ _ _ _) s).walEntries = _
    simp only [LocalStore.markDirty, hmerged]
    rfl
  rw [hentry]
  set entry : WalEntry := {
    objectId := c.objectId.toNat
    offset := first
    len := last - first
    generation := c.generation.toNat
    sha256 := c.sha256 } with hdef
  have hnew : entry.Fits := {
    objectId := c.objectId.toNat_lt
    generation := c.generation.toNat_lt
    signed := by
      change first + (last - first) < 2 ^ 63
      omega }
  have hrow : new = entry.row := by
    refine WalRow.ext_range _ _ (hpair.trans ((entry.pair_row hnew c).mpr ⟨rfl, rfl⟩).symm) hsha
      (hstart.trans (entry.start_row hnew).symm) (hstop.trans ?_)
    rw [entry.stop_row hnew]
    change (last : Int) = first + ((last - first : Nat) : Int)
    omega
  constructor
  · rw [hrun, hrow, List.map_append, List.filter_map]
    congr 3
    refine List.filter_congr fun e he => ?_
    rw [e.touches_row (hfits e he)]
    rfl
  · intro e he
    rcases List.mem_append.mp he with hold | hlast
    · exact hfits e (List.mem_filter.mp hold).1
    · rw [List.mem_singleton.mp hlast]
      exact hnew

/-- Over a sequence of calls the entries of a store have the rows of the
    database. -/
theorem markAll_walEntries (calls : List MarkDirty) (hcalls : ∀ c ∈ calls, c.Fits) :
    ∀ s : LocalStore, (∀ e ∈ s.walEntries, e.Fits) →
      WalRow.Valid (s.walEntries.map WalEntry.row) →
      WalRow.markAll (s.walEntries.map WalEntry.row) calls =
        .ok ((calls.foldl LocalStore.mark s).walEntries.map WalEntry.row) := by
  induction calls with
  | nil => exact fun s _ _ => rfl
  | cons c rest ih =>
      intro s hfits hvalid
      have hc := hcalls c List.mem_cons_self
      rcases markDirty_walEntries s hfits hvalid c hc with ⟨hrun, hnext⟩
      rcases hvalid.marked c hc with ⟨rows, hrows, hmarked⟩
      rw [hrun, Except.ok.injEq] at hrows
      have hrest := ih (fun c' hc' => hcalls c' (List.mem_cons_of_mem c hc')) (s.mark c) hnext
        (hrows ▸ hmarked.valid)
      unfold WalRow.markAll at hrest ⊢
      rw [List.foldlM_cons, hrun]
      exact hrest

end TgDrive
