import TgDrive.Core.Limits
import TgDrive.Core.Operations
import TgDrive.Effect.Tickets

/-!
# The Limit among Several Clients

Each connection of a server is a task of its own, and all of them work on one
device. A write counts the dirty objects and stores its object later, with
another guard of the store, so clients that write at the same time may all have
counted before any of them stores. The limit on dirty objects is thus not what
it is for one client, but no more is stored beyond it than one object for each
client but one. This holds for any requests, in any order of steps, however
often requests fail or the process dies.

The count of a write is a check in the sense of the general argument, and the
store that follows it is the act.

## Main definitions

* `DeviceOp.stores`, `BlockDevice.admits`: The acts and the checks.
* `BlockDevice.client`: The requests of a client, one after the other.
* `Tended`: What any number of clients make of a device over its lives.

## Theorems

* `counted_device`: Only storing a dirty object raises the count, by one.
* `writeDirtyObject_ticketed`, `client_ticketed`: Nothing is stored unchecked.
* `pressure_bounded`: How many dirty objects there are.
-/

namespace TgDrive

open Data Effect

/-- Whether an operation stores a dirty object. -/
def DeviceOp.stores : DeviceOp → Bool
  | .disk (.storeDirty _ _ _ _ _) => true
  | _ => false

/-- Whether an operation has found room for another dirty object. -/
def BlockDevice.admits (dev : BlockDevice) : (e : DeviceOp) → Except String e.Resp → Bool
  | .disk .dirtyCount, .ok n => decide (n < dev.maxDirtyObjects)
  | _, _ => false

section Crates

variable {ρ : Type} [Crates]

/-- The requests of a client, one after the other. It goes on after a request
    that failed. -/
def BlockDevice.client (dev : BlockDevice) (reqs : List Request) : Prog deviceSig Unit :=
  reqs.foldlM (fun _ req => (req.program dev).attempt >>= fun _ => pure ()) ()

section Count

variable (B : Backend ρ) (P : Policy ρ)

/-- An effect that is not one of storing a dirty object adds none. -/
theorem dirtyCount_effect (l : LocalOp) (hl : DeviceOp.stores (.disk l) = false) (w w' : World ρ)
    (f : World ρ → World ρ) (hf : f ∈ l.effects w) :
    (f w').store.dirtyCount ≤ w'.store.dirtyCount := by
  cases l with
  | storeDirty id gen b offset len => cases hl
  | readCache id gen sha =>
      rw [LocalOp.effects] at hf
      split at hf
      · simp only [LocalStore.touchCache, List.map_cons, List.map_nil, List.mem_singleton] at hf
        rw [hf]
        exact Nat.le_refl _
      · exact absurd hf List.not_mem_nil
  | writeCache id gen b =>
      simp only [LocalOp.effects, LocalStore.writeCache, List.map_cons, List.map_nil,
        List.mem_cons, List.not_mem_nil, or_false] at hf
      rcases hf with rfl | rfl
      · exact Nat.le_refl _
      · exact Nat.le_refl _
  | commitLocal m =>
      rw [LocalOp.effects, LocalStore.replaceFromManifest] at hf
      by_cases hm : (m.objects.map fun object => object.objectId).Nodup
      · simp only [hm, if_true, List.cons_append, List.nil_append, List.map_cons, List.map_nil,
          List.mem_cons, List.not_mem_nil, or_false] at hf
        rcases hf with rfl | rfl
        · exact Nat.le_refl _
        · exact Nat.zero_le _
      · simp only [hm, if_false, List.not_mem_nil] at hf
  | lockManifest =>
      rw [LocalOp.effects, List.mem_singleton] at hf
      rw [hf]
  | setManifest m =>
      rw [LocalOp.effects, List.mem_singleton] at hf
      rw [hf]
  | unlockManifest =>
      rw [LocalOp.effects, List.mem_singleton] at hf
      rw [hf]
  | dirtyObjects => exact absurd hf List.not_mem_nil
  | readDirty id => exact absurd hf List.not_mem_nil
  | dirtyCount => exact absurd hf List.not_mem_nil
  | readFile path => exact absurd hf List.not_mem_nil
  | peekManifest => exact absurd hf List.not_mem_nil
  | getManifest => exact absurd hf List.not_mem_nil

/-- However far an operation gets, it adds no dirty object if it stores none. -/
theorem dirtyCount_cutOff (l : LocalOp) (hl : DeviceOp.stores (.disk l) = false) (w : World ρ)
    (k : Nat) : (cutOff (l.effects w) k w).store.dirtyCount ≤ w.store.dirtyCount :=
  cutOff_preserves (fun w' : World ρ => w'.store.dirtyCount ≤ w.store.dirtyCount) _
    (fun f hf w' hw' => Nat.le_trans (dirtyCount_effect l hl w w' f hf) hw') k w (Nat.le_refl _)

/-- Storing a dirty object adds one at the most, however far it gets. -/
theorem dirtyCount_storeDirty (id gen : Nat) (b : Bytes) (offset len : Nat) (w : World ρ)
    (k : Nat) : (cutOff ((LocalOp.storeDirty id gen b offset len).effects w) k w).store.dirtyCount
      ≤ w.store.dirtyCount + 1 := by
  rcases cutOff_storeDirty w id gen b offset len k with ⟨_, h⟩ | ⟨_, h⟩ | ⟨_, h⟩
  · rw [h]
    exact Nat.le_succ _
  · have hids : (cutOff ((LocalOp.storeDirty id gen b offset len).effects w) k w).store.dirtyIds
        = w.store.dirtyIds := by
      ext i
      rw [LocalStore.mem_dirtyIds, LocalStore.mem_dirtyIds, h.rows]
    rw [← LocalStore.card_dirtyIds, hids, LocalStore.card_dirtyIds]
    exact Nat.le_succ _
  · exact h.count

/-- An operation leaves one of its cuts. -/
theorem step_cutOff (l : LocalOp) (w w' : World ρ) (r : Except String l.Resp)
    (h : (DeviceEnv B P).step (.disk l) w r w') : ∃ k, w' = cutOff (l.effects w) k w := by
  rcases h with hrun | ⟨k, _, _, _, _, hw'⟩
  · rcases r with msg | a
    · rw [(LocalOp.run_error l w w' msg hrun).2]
      exact ⟨0, rfl⟩
    · rw [(LocalOp.run_ok l w w' a hrun).2]
      exact ⟨_, (cutOff_length _ _ (Nat.le_refl _) w).symm⟩
  · exact ⟨k, hw'⟩

/-- Of all operations only storing a dirty object raises their count, by one at
    the most, and room for another one is found below the limit only. -/
theorem counted_device (dev : BlockDevice) :
    Counted (DeviceEnv B P) DeviceOp.stores dev.admits (fun w => w.store.dirtyCount)
      dev.maxDirtyObjects where
  passed := by
    intro e w r w' hstep hpass
    cases e with
    | call c => cases hpass
    | disk l =>
        cases l with
        | dirtyCount =>
            rcases r with msg | n
            · cases hpass
            · rcases hstep with hrun | ⟨_, _, _, _, hr, _⟩
              · have hans := (LocalOp.run_ok .dirtyCount w w' n hrun).1
                rw [Except.ok.inj hans]
                exact of_decide_eq_true hpass
              · cases hr
        | _ => cases hpass
  act := by
    intro e w r w' hstep hact
    cases e with
    | call c => cases hact
    | disk l =>
        rcases step_cutOff B P l w w' r hstep with ⟨k, rfl⟩
        cases l with
        | storeDirty id gen b offset len => exact dirtyCount_storeDirty id gen b offset len w k
        | _ => cases hact
  other := by
    intro e w r w' hstep hact
    cases e with
    | call c =>
        rcases hstep with ⟨s', _, rfl⟩
        exact Nat.le_refl _
    | disk l =>
        rcases step_cutOff B P l w w' r hstep with ⟨k, rfl⟩
        exact dirtyCount_cutOff l hact w k
  actCut := by
    intro e w w' hcrash hact
    cases e with
    | call c => cases hact
    | disk l =>
        rcases hcrash with ⟨k, _, rfl⟩
        cases l with
        | storeDirty id gen b offset len => exact dirtyCount_storeDirty id gen b offset len w k
        | _ => cases hact
  otherCut := by
    intro e w w' hcrash hact
    cases e with
    | call c =>
        rcases hcrash with ⟨s', _, rfl⟩
        exact Nat.le_refl _
    | disk l =>
        rcases hcrash with ⟨k, _, rfl⟩
        exact dirtyCount_cutOff l hact w k

end Count

section Tickets

variable (dev : BlockDevice)

/-- The operations that store nothing. -/
abbrev Storeless (e : DeviceOp) : Prop := DeviceOp.stores e = false

omit [Crates] in
theorem storeless_read : DeviceOp.ReadClass Storeless :=
  ⟨rfl, fun _ _ _ => rfl, fun _ _ _ => rfl, fun _ => rfl⟩

omit [Crates] in
theorem storeless_prefetch : DeviceOp.PrefetchClass Storeless :=
  ⟨rfl, rfl, rfl, rfl, fun _ _ _ => rfl, fun _ _ _ => rfl, fun _ => rfl⟩

omit [Crates] in
theorem storeless_upload : DeviceOp.UploadClass Storeless :=
  ⟨rfl, fun _ => rfl, fun _ => rfl, fun _ => rfl, fun _ _ _ _ => rfl, fun _ _ _ _ => rfl⟩

/-- An object is stored after there was room for it. -/
theorem writeDirtyObject_ticketed (id offset len : Nat) (object : Bytes) :
    (dev.writeDirtyObject id object offset len).Ticketed DeviceOp.stores dev.admits false := by
  unfold BlockDevice.writeDirtyObject
  refine ticketed_perform_bind (S := deviceSig) (DeviceOp.disk .dirtyCount) _ _ (fun h => ?_)
    fun n => ?_
  · cases h
  refine ticketed_ensure_bind _ _ _ _ fun hroom => ?_
  -- The check was passed, so there is a ticket from here on.
  have hticket : (if DeviceOp.stores (.disk .dirtyCount) then false
      else false || dev.admits (.disk .dirtyCount) (.ok n)) = true := hroom
  rw [hticket]
  refine ticketed_perform_bind (S := deviceSig) (DeviceOp.disk .peekManifest) _ _ (fun _ => rfl)
    fun m => ?_
  refine ticketed_ofExcept_bind _ _ _ fun gen _ => ?_
  refine ⟨fun _ => rfl, fun r => ?_⟩
  cases r with
  | ok _ => exact trivial
  | error msg => exact trivial

theorem writeLoop_ticketed (rounds : Nat) : ∀ (cursor : Nat) (bytes : Bytes),
    (dev.writeLoop rounds cursor bytes).Ticketed DeviceOp.stores dev.admits false := by
  induction rounds with
  | zero =>
      intro cursor bytes
      cases bytes with
      | nil => exact trivial
      | cons b bs => exact trivial
  | succ rounds ih =>
      intro cursor bytes
      cases bytes with
      | nil => exact trivial
      | cons b bs =>
          unfold BlockDevice.writeLoop
          refine ticketed_ofExcept_bind _ _ _ fun p _ => ?_
          rcases p with ⟨id, o⟩
          have hstore : ∀ object : Bytes, (dev.writeDirtyObject id
              (BlockDevice.overwrite object o ((b :: bs).take
                (min (bs.length + 1) (dev.map.objectSize - o)))) o
              (min (bs.length + 1) (dev.map.objectSize - o)) >>= fun _ =>
            dev.writeLoop rounds (cursor + min (bs.length + 1) (dev.map.objectSize - o))
              ((b :: bs).drop (min (bs.length + 1) (dev.map.objectSize - o)))).Ticketed
              DeviceOp.stores dev.admits false :=
            fun object => ticketed_bind _ _ _ (writeDirtyObject_ticketed dev _ _ _ _)
              fun _ => ih _ _
          simp only []
          by_cases hfull : o = 0 ∧ min (bs.length + 1) (dev.map.objectSize - o)
              = dev.map.objectSize
          · rw [if_pos hfull]
            exact hstore _
          · rw [if_neg hfull]
            exact ticketed_bind _ _ _ (ticketed_of_only _ _
              (readObject_only storeless_read (fun _ => rfl) dev id)) hstore

/-- No request stores what was not checked. -/
theorem request_ticketed (req : Request) :
    (req.program dev).Ticketed DeviceOp.stores dev.admits false := by
  cases req with
  | read offset len =>
      refine ticketed_of_only _ _ (only_bind _ _ ?_ fun _ => trivial)
      unfold BlockDevice.readAt
      refine only_bind _ _ (only_ofExcept _) fun stop => only_bind _ _ (only_ensure _ _) fun _ => ?_
      refine only_bind _ _ (readLoop_only storeless_read (fun _ => rfl) dev _ _ _ _) fun p => ?_
      rcases p with ⟨out, cursor⟩
      simp only []
      split
      · split
        · exact only_bind _ _ (only_attempt _ (prefetchObjects_only storeless_prefetch _ _))
            fun _ => trivial
        · exact trivial
      · exact trivial
  | write offset bytes =>
      refine ticketed_ofExcept_bind _ _ _ fun stop _ => ?_
      exact ticketed_ensure_bind _ _ _ _ fun _ => writeLoop_ticketed dev _ _ _
  | flush =>
      refine ticketed_of_only (S := deviceSig) dev.flush _ ?_
      unfold BlockDevice.flush
      refine only_bind _ _ (only_perform (S := deviceSig) (DeviceOp.disk .dirtyObjects) rfl)
        fun dirty => ?_
      split
      · exact trivial
      · refine only_bind _ _ (only_perform (S := deviceSig) (DeviceOp.disk .lockManifest) rfl)
          fun _ => only_bind _ _ (only_attempt _ (flushLocked_only storeless_upload dev dirty))
          fun r => ?_
        exact only_bind _ _ (only_perform (S := deviceSig) (DeviceOp.disk .unlockManifest) rfl)
          fun _ => only_ofExcept _

theorem client_ticketed (reqs : List Request) :
    (dev.client reqs).Ticketed DeviceOp.stores dev.admits false := by
  refine ticketed_foldlM reqs _ (fun _ req => ?_) ()
  exact ticketed_bind _ (fun _ => Prog.pure ()) _ (ticketed_attempt _ _ (request_ticketed dev req))
    fun _ => trivial

end Tickets

/-- What clients make of a device over its lives: as many as there are in `ι`
    at a time, an operation of one of them at a time. -/
abbrev Tended (B : Backend ρ) (P : Policy ρ) (dev : BlockDevice) (ι : Type) [DecidableEq ι]
    (w0 w : World ρ) : Prop :=
  Lives (DeviceEnv B P) (fun w w' => w.reopen = .ok w') (fun p => ∃ reqs, p = dev.client reqs) ι
    w0 w

/-- Whatever any number of clients ask of one device, in whatever order of
    steps, over whatever failures and crashes: its dirty objects do not exceed
    the limit by more than one for each client but one, unless there were more
    already. -/
theorem pressure_bounded (B : Backend ρ) (P : Policy ρ) (dev : BlockDevice) (ι : Type)
    [DecidableEq ι] [Fintype ι] (w0 w : World ρ) (h : Tended B P dev ι w0 w) :
    w.store.dirtyCount ≤ max w0.store.dirtyCount (dev.maxDirtyObjects + Fintype.card ι - 1) := by
  refine counted_lives (counted_device B P dev) _ (fun w1 w2 hopen => ?_) _ (fun p hp => ?_) w0 w _
    (by omega) (Nat.le_max_left _ _) h
  · unfold World.reopen at hopen
    split at hopen
    · rw [← Except.ok.inj hopen]
    all_goals cases hopen
  · rcases hp with ⟨reqs, rfl⟩
    exact client_ticketed dev reqs

end Crates

section Small

attribute [local instance] concreteCrates

/-- Two clients that write one object each. -/
def smallPair (i : Bool) : Prog deviceSig Unit :=
  smallTight.client [.write (if i then 4 else 0) [1, 2, 3, 4]]

/-- Both count before either of them stores, so they exceed the limit of one
    dirty object by one. -/
theorem pressure_reached : ∃ w, Tended MemoryBackend.backend Policy.quiet smallTight Bool
    smallBlank w ∧ w.store.dirtyCount = 2 ∧
    w.store.dirtyCount ≤ max smallBlank.store.dirtyCount (1 + Fintype.card Bool - 1) := by
  have hrun := interleaved_runSchedule (S := deviceSig)
    (DeviceEnv MemoryBackend.backend Policy.quiet) (deviceRun MemoryBackend.run)
    (fun e s => by
      cases e with
      | disk l => exact Or.inl rfl
      | call c => exact ⟨_, rfl, rfl⟩)
    [false, true, false, true, false, true] smallPair smallBlank
  have hlives : Tended MemoryBackend.backend Policy.quiet smallTight Bool smallBlank _ :=
    .pool _ _ _ _ .start (fun i => ⟨_, rfl⟩) hrun
  exact ⟨_, hlives, by decide +kernel,
    pressure_bounded MemoryBackend.backend Policy.quiet smallTight Bool smallBlank _ hlives⟩

end Small

end TgDrive
