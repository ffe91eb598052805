import TgDrive.Cli.Serve
import TgDrive.Core.Checked
import TgDrive.Nbd.Server

/-!
# From the Wire to the Object

Nothing overflows between the header of a request and the object it is about.
A configuration that passes its checks gives a geometry; the server hands on
only ranges inside the device; and there the rounds of `read_at` and `write_at`
are safe. What is left are the casts of `mark_dirty`, which stores the numbers
of a write as signed integers. They fit as long as the rows of the WAL do, and
every operation that a request leads to keeps that.

The generation of a write is one more than that of the manifest, so the
manifest has to be one short of the last signed integer.

## Main definitions

* `LocalStore.markDirtyChecked`: `mark_dirty` with its casts.
* `LocalStore.WalFits`: The rows of the WAL end at signed integers.
* `DeviceOp.Safe`, `NbdOp.Safe`: What a request may lead to.

## Theorems

* `markDirtyChecked_fits`: Where no cast of `mark_dirty` changes a number.
* `walFits_effects`: The rows of the WAL stay that way.
* `wire_safe`: Every request is safe.
-/

namespace TgDrive

open Data Effect

namespace LocalStore

/-- The ends of the rows, which the database computes in signed integers. -/
def rowEnds : List WalEntry → Except Panic Unit
  | [] => .ok ()
  | e :: rest => do
      let _ ← castSigned (e.offset + e.len)
      rowEnds rest

/-- `mark_dirty`, with its casts and its arithmetic. -/
def markDirtyChecked (s : LocalStore) (objectId generation : Nat) (path : CachePath)
    (sha256 : Text) (offset len : Nat) : Except Panic (List (LocalStore → LocalStore)) := do
  let id ← castSigned objectId
  let gen ← castSigned generation
  let low ← castSigned offset
  let stop ← addUsize offset len
  let high ← castSigned stop
  rowEnds s.walEntries
  let merged := mergedRange s.walEntries id gen low (high - low)
  let start ← castSigned merged.1
  let last ← castSigned merged.2
  let length ← subUsize merged.2 merged.1
  let length ← castSigned length
  .ok [ upsertDirty {
        objectId := id
        generation := gen
        cachePath := path
        sha256 := sha256 }
      , deleteWal id gen start last
      , insertWal {
        objectId := id
        offset := start
        len := length
        generation := gen
        sha256 := sha256 } ]

/-- The rows of the WAL end at signed integers. -/
def WalFits (s : LocalStore) : Prop := ∀ e ∈ s.walEntries, e.offset + e.len < 2 ^ 63

theorem rowEnds_fits : ∀ entries : List WalEntry, (∀ e ∈ entries, e.offset + e.len < 2 ^ 63) →
    rowEnds entries = .ok () := by
  intro entries
  induction entries with
  | nil => exact fun _ => rfl
  | cons e rest ih =>
      intro h
      rw [rowEnds, castSigned_fits _ (h e List.mem_cons_self), ok_bind]
      exact ih fun e' he' => h e' (List.mem_cons_of_mem e he')

/-- The start of a merged range is not after the start of the range. -/
theorem mergedRange_start (entries : List WalEntry) (id gen offset len : Nat) :
    (mergedRange entries id gen offset len).1 ≤ offset := by
  unfold mergedRange
  generalize entries.filter (touches id gen offset (offset + len)) = touched
  induction touched generalizing offset with
  | nil => exact Nat.le_refl offset
  | cons e rest ih => exact Nat.le_trans (ih (min offset e.offset)) (Nat.min_le_left _ _)

/-- The end of a merged range is not before the end of the range, and signed
    if the ends of the rows are. -/
theorem mergedRange_stop (entries : List WalEntry) (id gen offset len : Nat)
    (hrows : ∀ e ∈ entries, e.offset + e.len < 2 ^ 63) (hstop : offset + len < 2 ^ 63) :
    offset + len ≤ (mergedRange entries id gen offset len).2 ∧
      (mergedRange entries id gen offset len).2 < 2 ^ 63 := by
  have htouched : ∀ e ∈ entries.filter (touches id gen offset (offset + len)),
      e.offset + e.len < 2 ^ 63 := fun e he => hrows e (List.mem_filter.mp he).1
  unfold mergedRange
  simp only []
  generalize entries.filter (touches id gen offset (offset + len)) = touched at htouched
  generalize offset + len = stop at hstop
  induction touched generalizing stop with
  | nil => exact ⟨Nat.le_refl stop, hstop⟩
  | cons e rest ih =>
      have he := htouched e List.mem_cons_self
      have hrest := ih (fun e' he' => htouched e' (List.mem_cons_of_mem e he'))
        (max stop (e.offset + e.len)) (by omega)
      rw [List.foldl_cons]
      exact ⟨by omega, hrest.2⟩

/-- No cast of `mark_dirty` changes a number, and the rows it leaves fit. -/
theorem markDirtyChecked_fits (s : LocalStore) (hwal : s.WalFits) (id gen : Nat) (path : CachePath)
    (sha : Text) (offset len : Nat) (hid : id < 2 ^ 63) (hgen : gen < 2 ^ 63)
    (hstop : offset + len < 2 ^ 63) :
    s.markDirtyChecked id gen path sha offset len = .ok (s.markDirty id gen path sha offset len) ∧
      ∀ f ∈ s.markDirty id gen path sha offset len, ∀ s' : LocalStore, s'.WalFits →
        (f s').WalFits := by
  have hstart := mergedRange_start s.walEntries id gen offset len
  obtain ⟨hle, hlt⟩ := mergedRange_stop s.walEntries id gen offset len hwal hstop
  constructor
  · unfold markDirtyChecked
    rw [castSigned_fits _ hid, ok_bind, castSigned_fits _ hgen, ok_bind,
      castSigned_fits _ (by omega), ok_bind, addUsize_fits _ _ (by omega), ok_bind,
      castSigned_fits _ hstop, ok_bind, rowEnds_fits _ hwal, ok_bind, Nat.add_sub_cancel_left]
    simp only []
    rw [castSigned_fits _ (by omega), ok_bind, castSigned_fits _ hlt, ok_bind,
      subUsize_fits _ _ (by omega), ok_bind, castSigned_fits _ (by omega), ok_bind]
    rfl
  · intro f hf s' hs'
    simp only [markDirty, List.mem_cons, List.not_mem_nil, or_false] at hf
    rcases hf with rfl | rfl | rfl
    · exact hs'
    · exact fun e he => hs' e (List.mem_filter.mp he).1
    · intro e he
      rcases List.mem_append.mp he with hold | hnew
      · exact hs' e hold
      · rw [List.mem_singleton.mp hnew]
        simp only []
        omega

end LocalStore

section Crates

variable [Crates]

/-- An operation of the device keeps the rows of the WAL signed if a write is
    inside the device. -/
theorem walFits_effects {ρ : Type} (map : BlockMap) (l : LocalOp)
    (hl : DeviceOp.InRange map (.disk l)) (hid : map.objectCount ≤ 2 ^ 63) (w : World ρ)
    (hwal : w.store.WalFits) :
    ∀ f ∈ l.effects w, ∀ w' : World ρ, w'.store.WalFits → (f w').store.WalFits := by
  have hsize := map.objectSize_lt
  -- Effects on the store alone.
  have hstore : ∀ fs : List (LocalStore → LocalStore),
      (∀ g ∈ fs, ∀ s : LocalStore, s.WalFits → (g s).WalFits) →
      ∀ f ∈ fs.map onStore, ∀ w' : World ρ, w'.store.WalFits → (f w').store.WalFits := by
    intro fs hfs f hf w' hw'
    obtain ⟨g, hg, rfl⟩ := List.mem_map.mp hf
    exact hfs g hg w'.store hw'
  intro f hf
  cases l with
  | readCache id gen sha =>
      simp only [LocalOp.effects] at hf
      by_cases hfile : (w.store.files (LocalStore.cachePath id gen)).isSome
      · rw [if_pos hfile] at hf
        refine hstore _ (fun g hg s hs => ?_) f hf
        rw [List.mem_singleton.mp hg]
        exact hs
      · rw [if_neg hfile] at hf
        exact absurd hf List.not_mem_nil
  | writeCache id gen b =>
      refine hstore _ (fun g hg s hs => ?_) f hf
      simp only [LocalStore.writeCache, List.mem_cons, List.not_mem_nil, or_false] at hg
      rcases hg with rfl | rfl
      · exact hs
      · exact hs
  | storeDirty id gen b offset len =>
      obtain ⟨hin, hgen, _, hend⟩ := hl
      refine hstore _ (fun g hg s hs => ?_) f hf
      rcases List.mem_append.mp hg with hcache | hmark
      · simp only [LocalStore.writeCache, List.mem_cons, List.not_mem_nil, or_false] at hcache
        rcases hcache with rfl | rfl
        · exact hs
        · exact hs
      · exact (LocalStore.markDirtyChecked_fits w.store hwal id gen _ _ offset len (by omega) hgen
          (by omega)).2 g hmark s hs
  | commitLocal m =>
      simp only [LocalOp.effects] at hf
      cases hreplace : LocalStore.replaceFromManifest m with
      | error msg =>
          rw [hreplace] at hf
          exact absurd hf List.not_mem_nil
      | ok transaction =>
          rw [hreplace] at hf
          refine hstore _ (fun g hg s hs => ?_) f hf
          rcases List.mem_append.mp hg with hrow | hclear
          · unfold LocalStore.replaceFromManifest at hreplace
            split at hreplace
            · rw [← Except.ok.inj hreplace] at hrow
              rw [List.mem_singleton.mp hrow]
              exact hs
            · cases hreplace
          · rw [List.mem_singleton.mp hclear]
            exact fun e he => absurd he List.not_mem_nil
  | lockManifest =>
      intro w' hw'
      rw [List.mem_singleton.mp hf]
      exact hw'
  | setManifest m =>
      intro w' hw'
      rw [List.mem_singleton.mp hf]
      exact hw'
  | unlockManifest =>
      intro w' hw'
      rw [List.mem_singleton.mp hf]
      exact hw'
  | dirtyObjects => exact absurd hf List.not_mem_nil
  | readDirty id => exact absurd hf List.not_mem_nil
  | dirtyCount => exact absurd hf List.not_mem_nil
  | readFile path => exact absurd hf List.not_mem_nil
  | peekManifest => exact absurd hf List.not_mem_nil
  | getManifest => exact absurd hf List.not_mem_nil

/-- An operation that a request may lead to: an object of the device, and for
    a write a range inside it whose numbers all fit when they are stored. The
    rows of the WAL stay as they should be, whatever effects are done. -/
def DeviceOp.Safe (map : BlockMap) : DeviceOp → Prop
  | .disk l =>
      (∀ id, l = .readDirty id → id < map.objectCount) ∧
      ∀ (ρ : Type) (w : World ρ), w.store.WalFits →
        (∀ id gen b offset len, l = .storeDirty id gen b offset len →
          id < map.objectCount ∧ 0 < len ∧ offset + len ≤ map.objectSize ∧
          w.store.markDirtyChecked id gen (LocalStore.cachePath id gen) (sha256Hex b) offset len =
            .ok (w.store.markDirty id gen (LocalStore.cachePath id gen) (sha256Hex b) offset len)) ∧
        ∀ f ∈ l.effects w, ∀ w' : World ρ, w'.store.WalFits → (f w').store.WalFits
  | .call _ => True

theorem safe_of_inRange (map : BlockMap) (hcount : map.objectCount ≤ 2 ^ 63) (e : DeviceOp)
    (h : DeviceOp.InRange map e) : DeviceOp.Safe map e := by
  have hsize := map.objectSize_lt
  cases e with
  | call c => exact trivial
  | disk l =>
      refine ⟨?_, fun ρ w hwal => ⟨?_, walFits_effects map l h hcount w hwal⟩⟩
      · rintro id rfl
        exact h
      · rintro id gen b offset len rfl
        obtain ⟨hid, hgen, hlen, hend⟩ := h
        exact ⟨hid, hlen, hend, (LocalStore.markDirtyChecked_fits w.store hwal id gen _ _ offset len
          (by omega) hgen (by omega)).1⟩

/-- What a stream answers: as many bytes as were asked for. -/
def NbdOp.Exact : (e : NbdOp) → Except String e.Resp → Prop
  | .readExact n, r => ∀ b : Bytes, r = .ok b → b.length = n
  | _, _ => True

/-- A call that the device serves without a panic as long as the manifest's
    generation is below a bound: the rounds are the range, and whatever they
    ask for is safe. -/
def NbdOp.Safe (bound : Nat) (dev : BlockDevice) : NbdOp → Prop
  | .readAt offset len =>
      dev.readAt offset len =
        (dev.readAtChecked offset len >>= fun r => unchecked (r.map fun x => x.1)) ∧
      (dev.readAtChecked offset len).Meets (S := deviceSig) (DeviceOp.Younger bound)
        (DeviceOp.Safe dev.map)
        (NoPanic fun x => x.1.length = len ∧ Covers dev.map offset x.2 (offset + len))
  | .writeAt offset bytes =>
      dev.writeAt offset bytes =
        (dev.writeAtChecked offset bytes >>= fun r => unchecked (r.map fun _ => ())) ∧
      (dev.writeAtChecked offset bytes).Meets (S := deviceSig) (DeviceOp.Younger bound)
        (DeviceOp.Safe dev.map)
        (NoPanic fun x => Covers dev.map offset x (offset + bytes.length))
  | _ => True

variable {bound : Nat} {dev : BlockDevice}

theorem readInt_meets (n : Nat) : (readInt n).Meets (S := nbdSig) NbdOp.Exact
    (NbdOp.Safe bound dev) (fun v => v < 256 ^ n) := by
  refine meets_bind _ _ (meets_perform (S := nbdSig) (NbdOp.readExact n) trivial
    (P := fun b : Bytes => b.length = n) fun b hb => hb b rfl) fun b hb => ?_
  have hlt := fromBe_lt b
  rw [hb] at hlt
  exact hlt

/-- The fields of a request are within their widths. -/
theorem readRequest_meets : NbdRequest.read.Meets (S := nbdSig) NbdOp.Exact
    (NbdOp.Safe bound dev) (fun request => request.offset < 2 ^ 64 ∧ request.length < 2 ^ 32) := by
  refine meets_bind _ _ (readInt_meets 4) fun _ _ => ?_
  refine meets_bind _ _ (meets_ensure _ _) fun _ _ => ?_
  refine meets_bind _ _ (readInt_meets 2) fun _ _ => ?_
  refine meets_bind _ _ (readInt_meets 2) fun _ _ => ?_
  refine meets_bind _ _ (readInt_meets 8) fun _ _ => ?_
  refine meets_bind _ _ (readInt_meets 8) fun offset hoffset => ?_
  refine meets_bind _ _ (readInt_meets 4) fun length hlength => ?_
  exact ⟨hoffset, hlength⟩

/-- An operation on the stream. -/
theorem stream_meets (e : NbdOp) (h : NbdOp.Safe bound dev e) :
    (nbd e).Meets (S := nbdSig) NbdOp.Exact (NbdOp.Safe bound dev) (fun _ => True) :=
  meets_perform (S := nbdSig) e h fun _ _ => trivial

theorem writeInt_meets (n v : Nat) :
    (writeInt n v).Meets (S := nbdSig) NbdOp.Exact (NbdOp.Safe bound dev) (fun _ => True) :=
  stream_meets _ trivial

theorem writeReply_meets (error handle : Nat) : (writeReply error handle).Meets (S := nbdSig)
    NbdOp.Exact (NbdOp.Safe bound dev) (fun _ => True) :=
  meets_bind _ _ (writeInt_meets _ _) fun _ _ =>
    meets_bind _ _ (writeInt_meets _ _) fun _ _ => writeInt_meets _ _

/-- A reply, sent at once. -/
theorem replied_meets (error handle : Nat) : Prog.Meets (S := nbdSig) NbdOp.Exact
    (NbdOp.Safe bound dev) (fun _ => True) (do
      writeReply error handle
      nbd .flushStream
      pure false) :=
  meets_bind _ _ (writeReply_meets _ _) fun _ _ =>
    meets_bind _ _ (stream_meets .flushStream trivial) fun _ _ => trivial

theorem discardPayload_meets : ∀ rounds remaining : Nat,
    (discardPayload rounds remaining).Meets (S := nbdSig) NbdOp.Exact (NbdOp.Safe bound dev)
      (fun _ => True) := by
  intro rounds
  induction rounds with
  | zero =>
      intro remaining
      cases remaining with
      | zero => exact trivial
      | succ remaining => exact trivial
  | succ rounds ih =>
      intro remaining
      cases remaining with
      | zero => exact trivial
      | succ remaining =>
          exact meets_bind _ _ (stream_meets _ trivial) fun _ _ => ih _

/-- A request is served without a panic if the calls inside the device are. -/
theorem serveRequest_meets (options : NbdServerOptions) (request : NbdRequest)
    (hread : request.offset + request.length ≤ options.deviceSize →
      NbdOp.Safe bound dev (.readAt request.offset request.length))
    (hwrite : ∀ payload : Bytes, payload.length = request.length →
      request.offset + request.length ≤ options.deviceSize →
      NbdOp.Safe bound dev (.writeAt request.offset payload)) :
    (serveRequest options request).Meets (S := nbdSig) NbdOp.Exact (NbdOp.Safe bound dev)
      (fun _ => True) := by
  have hinside : boundsOk options.deviceSize request.offset request.length = true →
      request.offset + request.length ≤ options.deviceSize := by
    intro h
    unfold boundsOk at h
    split at h
    · exact of_decide_eq_true h
    · cases h
  unfold serveRequest
  split
  · cases hbounds : boundsOk options.deviceSize request.offset request.length with
    | false =>
        exact meets_bind _ _ (writeReply_meets _ _) fun _ _ => trivial
    | true =>
        refine meets_bind _ _ (stream_meets _ (hread (hinside hbounds))) fun data _ => ?_
        refine meets_bind _ _ (writeReply_meets _ _) fun _ _ => ?_
        refine meets_bind _ _ (stream_meets _ trivial) fun _ _ => ?_
        exact meets_bind _ _ (stream_meets .flushStream trivial) fun _ _ => trivial
  split
  · cases hbounds : boundsOk options.deviceSize request.offset request.length with
    | false =>
        refine meets_bind _ _ (discardPayload_meets _ _) fun _ _ => ?_
        exact meets_bind _ _ (writeReply_meets _ _) fun _ _ => trivial
    | true =>
        refine meets_bind _ _ (meets_perform (S := nbdSig) (NbdOp.readExact request.length) trivial
          (P := fun b : Bytes => b.length = request.length) fun b hb => hb b rfl)
          fun payload hpayload => ?_
        refine meets_bind _ _ (stream_meets _ (hwrite payload hpayload (hinside hbounds)))
          fun _ _ => replied_meets _ _
  split
  · exact meets_bind _ _ (stream_meets .flush trivial) fun _ _ => replied_meets _ _
  split
  · exact meets_bind _ _ (stream_meets .flush trivial) fun _ _ => trivial
  split
  · exact replied_meets _ _
  · exact replied_meets _ _

/-- The reply to an option goes on the stream and nowhere else. -/
theorem writeOptionReply_meets (option reply : Nat) (payload : Bytes) :
    (writeOptionReply option reply payload).Meets (S := nbdSig) NbdOp.Exact (NbdOp.Safe bound dev)
      (fun _ => True) :=
  meets_bind _ _ (writeInt_meets _ _) fun _ _ => meets_bind _ _ (writeInt_meets _ _) fun _ _ =>
    meets_bind _ _ (writeInt_meets _ _) fun _ _ => meets_bind _ _ (writeInt_meets _ _) fun _ _ =>
      stream_meets (.writeAll payload) trivial

theorem answered_meets (option reply : Nat) (payload : Bytes) (done : Bool) :
    Prog.Meets (S := nbdSig) NbdOp.Exact (NbdOp.Safe bound dev) (fun _ => True) (do
      writeOptionReply option reply payload
      nbd .flushStream
      pure done) :=
  meets_bind _ _ (writeOptionReply_meets _ _ _) fun _ _ =>
    meets_bind _ _ (stream_meets .flushStream trivial) fun _ _ => trivial

/-- An option is answered without a panic, whatever it is. -/
theorem serveOption_meets (options : NbdServerOptions) (option : Nat) (data : Bytes) :
    (serveOption options option data).Meets (S := nbdSig) NbdOp.Exact (NbdOp.Safe bound dev)
      (fun _ => True) := by
  unfold serveOption
  split
  · -- The export by its name.
    refine meets_bind _ _ (meets_ensure _ _) fun _ _ => ?_
    refine meets_bind _ _ (meets_bind _ _ (writeInt_meets _ _) fun _ _ => writeInt_meets _ _)
      fun _ _ => ?_
    refine meets_bind _ _ (stream_meets (.writeAll _) trivial) fun _ _ => ?_
    exact meets_bind _ _ (stream_meets .flushStream trivial) fun _ _ => trivial
  split
  · -- The export is refused, or its description goes before the answer.
    split
    · exact answered_meets _ _ _ _
    split
    · exact answered_meets _ _ _ _
    · exact meets_bind _ _ (writeOptionReply_meets _ _ _) fun _ _ => answered_meets _ _ _ _
  split
  · exact answered_meets _ _ _ _
  split
  · exact trivial
  · exact answered_meets _ _ _ _

/-- So are all options of a negotiation. -/
theorem optionLoop_meets (options : NbdServerOptions) (rounds : Nat) :
    (optionLoop options rounds).Meets (S := nbdSig) NbdOp.Exact (NbdOp.Safe bound dev)
      (fun _ => True) := by
  induction rounds with
  | zero => exact trivial
  | succ rounds ih =>
      refine meets_bind (R := fun _ => True) _ _ ?_ fun x _ =>
        meets_bind _ _ (serveOption_meets options x.1 x.2) fun done _ => ?_
      · refine meets_bind _ _ (readInt_meets 8) fun _ _ => ?_
        refine meets_bind _ _ (meets_ensure _ _) fun _ _ => ?_
        refine meets_bind _ _ (readInt_meets 4) fun _ _ => ?_
        refine meets_bind _ _ (readInt_meets 4) fun _ _ => ?_
        exact meets_bind _ _ (stream_meets (.readExact _) trivial) fun _ _ => trivial
      · cases done with
        | true => exact trivial
        | false => exact ih

/-- A negotiation does not call the device. -/
theorem negotiate_meets (options : NbdServerOptions) (rounds : Nat) :
    (negotiate options rounds).Meets (S := nbdSig) NbdOp.Exact (NbdOp.Safe bound dev)
      (fun _ => True) := by
  refine meets_bind _ _ (writeInt_meets _ _) fun _ _ => ?_
  refine meets_bind _ _ (writeInt_meets _ _) fun _ _ => ?_
  refine meets_bind _ _ (writeInt_meets _ _) fun _ _ => ?_
  refine meets_bind _ _ (stream_meets .flushStream trivial) fun _ _ => ?_
  exact meets_bind _ _ (readInt_meets 4) fun _ _ => optionLoop_meets options rounds

/-- A client is served without a panic if every request is. -/
theorem handleClient_meets (options : NbdServerOptions)
    (hserve : ∀ request : NbdRequest, request.offset < 2 ^ 64 → request.length < 2 ^ 32 →
      (serveRequest options request).Meets (S := nbdSig) NbdOp.Exact (NbdOp.Safe bound dev)
        (fun _ => True)) (rounds : Nat) :
    (handleClient options rounds).Meets (S := nbdSig) NbdOp.Exact (NbdOp.Safe bound dev)
      (fun _ => True) := by
  have hloop : ∀ rounds, (transmission options rounds).Meets (S := nbdSig) NbdOp.Exact
      (NbdOp.Safe bound dev) (fun _ => True) := by
    intro rounds
    induction rounds with
    | zero => exact trivial
    | succ rounds ih =>
        refine meets_bind _ _ (meets_attempt _ readRequest_meets) fun r hr => ?_
        cases r with
        | error msg =>
            simp only []
            split
            · exact trivial
            · exact trivial
        | ok request =>
            obtain ⟨hoffset, hlength⟩ := hr request rfl
            refine meets_bind _ _ (hserve request hoffset hlength) fun done _ => ?_
            cases done with
            | true => exact trivial
            | false => exact ih
  exact meets_bind _ _ (negotiate_meets options rounds) fun _ _ => hloop rounds

omit [Crates] in
/-- The ids of the objects of a device of 64 bits are signed integers. -/
theorem objectCount_le (map : BlockMap) (h : 2 ≤ map.objectSize) : map.objectCount ≤ 2 ^ 63 := by
  have hdevice := map.deviceSize_lt
  rw [BlockMap.objectCount]
  refine Nat.le_of_lt_succ ((Nat.div_lt_iff_lt_mul (by omega)).mpr ?_)
  omega

/-- A configuration that passes its checks gives a geometry, and every request
    to a device of that geometry is safe, as long as the manifest's generation
    is one short of the last signed integer. -/
theorem wire_safe (cfg : Config) (hfits : cfg.Machine) (hvalid : cfg.validate = .ok ()) :
    ∃ map : BlockMap, cfg.blockMap = .ok map ∧ map.deviceSize = cfg.deviceSize ∧
      map.objectSize = cfg.objectSize ∧
      ∀ (dev : BlockDevice) (options : NbdServerOptions), dev.map = map →
        options.deviceSize = cfg.deviceSize →
        (∀ request : NbdRequest, request.offset < 2 ^ 64 → request.length < 2 ^ 32 →
          (serveRequest options request).Meets (S := nbdSig) NbdOp.Exact
            (NbdOp.Safe (2 ^ 63 - 1) dev) (fun _ => True)) ∧
        ∀ rounds, (handleClient options rounds).Meets (S := nbdSig) NbdOp.Exact
          (NbdOp.Safe (2 ^ 63 - 1) dev) (fun _ => True) := by
  obtain ⟨map, hmap⟩ := cfg.exists_blockMap hfits hvalid
  obtain ⟨hdevice, hobject⟩ := cfg.blockMap_sizes hfits map hmap
  have hleast := cfg.objectSize_pos hvalid
  refine ⟨map, hmap, hdevice, hobject, ?_⟩
  intro dev options hdev hoptions
  have hpos : 0 < dev.map.objectSize := by
    rw [hdev]
    omega
  have hcount : dev.map.objectCount ≤ 2 ^ 63 := by
    rw [hdev]
    exact objectCount_le map (by omega)
  have hsize : options.deviceSize = dev.map.deviceSize := by rw [hoptions, hdev, hdevice]
  have hserve : ∀ request : NbdRequest, request.offset < 2 ^ 64 → request.length < 2 ^ 32 →
      (serveRequest options request).Meets (S := nbdSig) NbdOp.Exact
        (NbdOp.Safe (2 ^ 63 - 1) dev) (fun _ => True) := by
    intro request _ _
    refine serveRequest_meets options request (fun hend => ⟨readAt_eq dev hpos _ _, ?_⟩)
      fun payload hpayload hend => ⟨writeAt_eq dev _ _, ?_⟩
    · exact meets_weaken _ (readAt_safe dev hpos _ _ (by omega)) (safe_of_inRange dev.map hcount)
    · exact meets_weaken _ (writeAt_safe dev hpos _ payload (by omega))
        (safe_of_inRange dev.map hcount)
  exact ⟨hserve, handleClient_meets options hserve⟩

/-- A write of a whole object under a manifest of the last signed generation
    stores a generation that is none. -/
theorem writeAt_unsigned (dev : BlockDevice) (bytes : Bytes) (hpos : 0 < dev.map.objectSize)
    (hlen : bytes.length = dev.map.objectSize) (hend : dev.map.objectSize ≤ dev.map.deviceSize)
    (hmax : 0 < dev.maxDirtyObjects) (Q : Except Panic (List Round) → Prop) :
    ¬(dev.writeAtChecked 0 bytes).Meets (S := deviceSig) (DeviceOp.Younger (2 ^ 63))
      (DeviceOp.Safe dev.map) Q := by
  intro h
  have hsize := dev.map.objectSize_lt
  obtain ⟨n, hn⟩ := Nat.exists_eq_add_of_le' (hlen ▸ hpos : 0 < bytes.length)
  unfold BlockDevice.writeAtChecked at h
  rw [addUsize_fits _ _ (by omega), checked_ok] at h
  replace h := meets_ensure_bind _ _ _ (decide_eq_true (by omega)) h
  rw [hn] at h
  unfold BlockDevice.writeLoopChecked at h
  rw [locateChecked_inside _ _ hpos (by omega), Nat.zero_div, Nat.zero_mod,
    Prog.pure_bind', checked_ok] at h
  have htake : min (n + 1) (dev.map.objectSize - 0) = dev.map.objectSize := by omega
  simp only [subUsize_fits _ _ (Nat.zero_le _), checked_ok, htake] at h
  -- The whole object is written, so nothing is read before it.
  have hbase : dev.writeBase 0 0 dev.map.objectSize =
      pure (List.replicate dev.map.objectSize 0) := by
    rw [BlockDevice.writeBase, if_pos ⟨rfl, rfl⟩]
  rw [hbase, Prog.pure_bind'] at h
  have hpart : (slice bytes 0 (0 + dev.map.objectSize)).length = dev.map.objectSize := by
    rw [length_slice _ _ _ (by omega)]
    omega
  rw [addUsize_fits _ _ (by omega), checked_ok, checked_ok,
    checkedSlice_inside _ _ _ (by omega) (by omega), checked_ok,
    copyFromSlice_inside _ _ _ _ (by omega) (by rw [List.length_replicate]; omega) (by omega),
    checked_ok] at h
  unfold BlockDevice.writeDirtyObjectChecked at h
  rw [bind_assoc] at h
  replace h := (meets_perform_bind (S := deviceSig) _ _ h).2 0 trivial
  rw [bind_assoc] at h
  replace h := meets_ensure_bind _ _ _ (decide_eq_true hmax) h
  rw [bind_assoc] at h
  replace h := (meets_perform_bind (S := deviceSig) _ _ h).2
    { Manifest.empty ⟨7⟩ 65536 2 with generation := 2 ^ 63 - 1 } fun m hm => by
      rw [← Except.ok.inj hm]
      decide
  rw [addUsize_fits _ _ (by decide), checked_ok, bind_assoc] at h
  have hsafe := (meets_perform_bind (S := deviceSig) _ _ h).1
  obtain ⟨_, _, _, hmark⟩ := (hsafe.2 Unit ⟨LocalStore.empty, Manifest.empty ⟨7⟩ 65536 2, false, ()⟩
    fun e he => absurd he List.not_mem_nil).1 _ _ _ _ _ rfl
  cases hmark

end Crates

section Small

attribute [local instance] concreteCrates

/-- A device of two objects behind its server. -/
theorem wire_safe_small : ∃ map : BlockMap, leastConfig.blockMap = .ok map ∧
    ∀ rounds, (handleClient ⟨[], 131072, by decide⟩ rounds).Meets (S := nbdSig) NbdOp.Exact
      (NbdOp.Safe (2 ^ 63 - 1) (BlockDevice.new map true)) (fun _ => True) := by
  obtain ⟨map, hmap, _, _, hsafe⟩ := wire_safe leastConfig ⟨by decide, by decide, by decide⟩
    (by decide)
  exact ⟨map, hmap, (hsafe (BlockDevice.new map true) _ rfl rfl).2⟩

/-- A manifest of the last signed generation is too old to be written to. -/
theorem wire_unsigned : ¬∀ cfg : Config, cfg.Machine → cfg.validate = .ok () →
    ∃ map : BlockMap, cfg.blockMap = .ok map ∧ map.deviceSize = cfg.deviceSize ∧
      map.objectSize = cfg.objectSize ∧
      ∀ (dev : BlockDevice) (options : NbdServerOptions), dev.map = map →
        options.deviceSize = cfg.deviceSize →
        (∀ request : NbdRequest, request.offset < 2 ^ 64 → request.length < 2 ^ 32 →
          (serveRequest options request).Meets (S := nbdSig) NbdOp.Exact
            (NbdOp.Safe (2 ^ 63) dev) (fun _ => True)) ∧
        ∀ rounds, (handleClient options rounds).Meets (S := nbdSig) NbdOp.Exact
          (NbdOp.Safe (2 ^ 63) dev) (fun _ => True) := by
  intro hall
  obtain ⟨map, _, hdevice, hobject, hsafe⟩ := hall leastConfig
    ⟨by decide, by decide, by decide⟩ (by decide)
  have hdevice' : map.deviceSize = 131072 := hdevice
  have hobject' : map.objectSize = 65536 := hobject
  have hserve := (hsafe (BlockDevice.new map true) ⟨[], 131072, by decide⟩ rfl rfl).1
    ⟨cmdWrite, 0, 0, 65536⟩ (by decide) (by decide)
  have hinside : boundsOk 131072 0 65536 = true := by decide
  unfold serveRequest at hserve
  rw [if_neg (by decide), if_pos rfl, hinside] at hserve
  obtain ⟨payload, hpayload⟩ : ∃ b : Bytes, b.length = 65536 :=
    ⟨List.replicate 65536 0, List.length_replicate⟩
  replace hserve := (meets_perform_bind (S := nbdSig) _ _ hserve).2 payload fun b hb => by
    rw [← Except.ok.inj hb]
    exact hpayload
  refine writeAt_unsigned (BlockDevice.new map true) payload ?_ ?_ ?_ ?_ _
    (meets_perform_bind (S := nbdSig) _ _ hserve).1.2
  · change 0 < map.objectSize
    omega
  · rw [hpayload]
    exact hobject'.symm
  · change map.objectSize ≤ map.deviceSize
    omega
  · exact Nat.succ_pos 4095

end Small

end TgDrive
