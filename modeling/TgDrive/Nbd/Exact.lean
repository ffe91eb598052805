import TgDrive.Core.Ideal
import TgDrive.Nbd.Export

/-!
# The Server without Failures

What clients see of a server whose device works: what they would see of the
same server with an ideal device behind it, byte for byte. The two are compared
over any bytes that clients send, over any number of connections and restarts,
and by the way each connection ends.

An ideal device is a function of three values, so what a connection comes to
can be computed without the cache, the database and the backend.

## Main definitions

* `idealRun`: A connection with an ideal device behind it.
* `Visit`: A connection or a restart.
* `serveAll`, `serveIdeal`: Visits one after the other, on either device.

## Theorems

* `implement_ideal`: Each operation of a connection.
* `server_exact`: Any visits.
-/

namespace TgDrive

open Data Effect

/-- A stream that does not break, with an ideal device behind it. -/
def idealRun (dev : BlockDevice) :
    (e : NbdOp) → Stream × Ideal → Except String e.Resp × (Stream × Ideal)
  | .readExact n, t =>
      if n ≤ t.1.input.length then
        (.ok (t.1.input.take n), ({ t.1 with input := t.1.input.drop n }, t.2))
      else (.error unexpectedEof, ({ t.1 with input := [] }, t.2))
  | .writeAll bytes, t => (.ok (), ({ t.1 with output := t.1.output ++ bytes }, t.2))
  | .flushStream, t => (.ok (), t)
  | .readAt offset len, t => ((t.2.readAt dev offset len).1, (t.1, (t.2.readAt dev offset len).2))
  | .writeAt offset bytes, t =>
      ((t.2.writeAt dev offset bytes).1, (t.1, (t.2.writeAt dev offset bytes).2))
  | .flush, t => (t.2.flush.1, (t.1, t.2.flush.2))

/-- A client that connects and sends some bytes, or a restart between two
    connections. -/
inductive Visit : Type
  | client (input : Bytes) (rounds : Nat)
  | restart

/-- Visits to a server with an ideal device. Each connection ends in some way
    and has sent some bytes back. -/
def serveIdeal (dev : BlockDevice) (options : NbdServerOptions) :
    List Visit → Ideal → List (Except String Unit × Bytes) × Ideal
  | [], s => ([], s)
  | .client input rounds :: rest, s =>
      let t := (handleClient options rounds).eval (idealRun dev) (⟨input, []⟩, s)
      ((t.1, t.2.1.output) :: (serveIdeal dev options rest t.2.2).1,
        (serveIdeal dev options rest t.2.2).2)
  | .restart :: rest, s => serveIdeal dev options rest s

section Crates

variable {ρ : Type} [Crates] {raw : ρ → Int → Option Bytes}

/-- Visits to a server with a block device. One that does not start again
    serves no more. -/
def serveAll (R : (c : Call) → ρ → Except String c.Resp × ρ) (dev : BlockDevice)
    (options : NbdServerOptions) :
    List Visit → World ρ → List (Except String Unit × Bytes) × World ρ
  | [], w => ([], w)
  | .client input rounds :: rest, w =>
      let t := (serveClient dev options rounds).eval (exportRun R) (⟨input, []⟩, w)
      ((t.1, t.2.1.output) :: (serveAll R dev options rest t.2.2).1,
        (serveAll R dev options rest t.2.2).2)
  | .restart :: rest, w => match w.reopen with
      | .ok w' => serveAll R dev options rest w'
      | .error msg => ([(.error msg, [])], w)

/-- One stream, with a device behind it that stands for an ideal one. -/
def Serving.Alike (W : Ideal → World ρ → Prop) (s : Stream × Ideal) (t : Stream × World ρ) :
    Prop :=
  t.1 = s.1 ∧ W s.2 t.2

section Emulated

variable {R : (c : Call) → ρ → Except String c.Resp × ρ} {dev : BlockDevice}
  {W : Ideal → World ρ → Prop} (hW : Emulates R dev W) (hsize : 0 < dev.map.objectSize)

include hW hsize

/-- Each operation of a connection answers as it does with an ideal device. -/
theorem implement_ideal (e : NbdOp) (s : Stream × Ideal) (t : Stream × World ρ)
    (h : Serving.Alike W s t) :
    ((implement dev e).eval (exportRun R) t).1 = (idealRun dev e s).1 ∧
      Serving.Alike W (idealRun dev e s).2 ((implement dev e).eval (exportRun R) t).2 := by
  rcases s with ⟨s, i⟩
  rcases t with ⟨s0, w⟩
  rcases h with ⟨hs0, hw⟩
  have hs : s0 = s := hs0
  rw [hs]
  have hright : ∀ {β : Type} (p : Prog deviceSig β), p.right.eval (exportRun R) (s, w)
      = ((p.eval (deviceRun R) w).1, (s, (p.eval (deviceRun R) w).2)) := fun p =>
    eval_right (S := streamSig) (T := deviceSig) (exportRun R) (deviceRun R)
      (fun _ _ _ => rfl) p s w
  cases e with
  | readExact n =>
      rw [implement, Prog.eval_perform, exportRun, idealRun]
      by_cases hle : n ≤ s.input.length
      · simp only [hle, if_true]
        exact ⟨trivial, rfl, hw⟩
      · simp only [hle, if_false]
        exact ⟨trivial, rfl, hw⟩
  | writeAll bytes => exact ⟨rfl, rfl, hw⟩
  | flushStream => exact ⟨rfl, rfl, hw⟩
  | readAt offset len =>
      rw [implement, hright]
      rcases hW.eval_readAt hsize i w hw offset len with ⟨hans, hnext⟩
      exact ⟨hans, rfl, hnext⟩
  | writeAt offset bytes =>
      rw [implement, hright]
      rcases hW.eval_writeAt hsize i w hw offset bytes with ⟨hans, hnext⟩
      exact ⟨hans, rfl, hnext⟩
  | flush =>
      rw [implement, hright]
      rcases hW.flushed i w hw with ⟨hans, hnext⟩
      exact ⟨hans, rfl, hnext⟩

/-- Visits to a server whose device stands for an ideal one, and does so after
    a restart. -/
theorem serveAll_ideal (hreopen : ∀ s w, W s w → w.reopen = .ok w) (options : NbdServerOptions)
    (visits : List Visit) : ∀ (s : Ideal) (w : World ρ), W s w →
      (serveAll R dev options visits w).1 = (serveIdeal dev options visits s).1 ∧
      W (serveIdeal dev options visits s).2 (serveAll R dev options visits w).2 := by
  induction visits with
  | nil => exact fun s w h => ⟨rfl, h⟩
  | cons visit rest ih =>
      intro s w h
      cases visit with
      | client input rounds =>
          rcases eval_link (S := nbdSig) (T := exportSig) (Serving.Alike W) (idealRun dev)
            (exportRun R) (implement dev) (implement_ideal hW hsize)
            (handleClient options rounds) (⟨input, []⟩, s) (⟨input, []⟩, w) ⟨rfl, h⟩ with
            ⟨hend, hstream, hnext⟩
          rcases ih _ _ hnext with ⟨hrest, hlast⟩
          refine ⟨List.cons_eq_cons.mpr ⟨Prod.ext hend ?_, hrest⟩, hlast⟩
          exact congrArg Stream.output hstream
      | restart =>
          rw [serveAll, hreopen s w h]
          exact ih s w h

end Emulated

/-- A server on a device built from a sound manifest, with disks and a backend
    that do what they are told, sends to its clients the bytes that it would
    send with the ideal device, whatever they send, and ends each connection
    as it would then. Restarts between connections are not seen. -/
theorem server_exact (R : (c : Call) → ρ → Except String c.Resp × ρ)
    (hR : Returns (Env.ofRun (S := remoteSig) R) raw)
    (hE : Echoes (Env.ofRun (S := remoteSig) R))
    (hserves : Serves (Env.ofRun (S := remoteSig) R) raw) (dev : BlockDevice)
    (hwilling : Willing (Env.ofRun (S := remoteSig) R) dev) (hsize : 0 < dev.map.objectSize)
    (options : NbdServerOptions) (m : Manifest) (s : ρ) (hm : m.Sound dev.map (raw s))
    (visits : List Visit) :
    (serveAll R dev options visits (World.opened m s)).1 = (serveIdeal dev options visits
      ⟨(World.opened m s).array raw dev.map.objectSize, ∅, m.generation⟩).1 :=
  (serveAll_ideal (emulates_working R hR hE dev hwilling hsize hserves) hsize
    (reopen_ideal dev.map) options visits _ _ (working_opened dev.map m s hm)).1

end Crates

section Small

attribute [local instance] concreteCrates

/-- The small client, twice, with a restart between. It gets its greeting, the
    export and the reply to its write each time. -/
theorem server_exact_small :
    (serveAll MemoryBackend.run smallDevice smallOptions
      [.client smallClient 3, .restart, .client smallClient 3] blankServer).1.map
        (fun t => (t.1.isOk, t.2.drop 70))
    = [(true, toBe 4 repMagic ++ toBe 4 0 ++ toBe 8 5),
      (true, toBe 4 repMagic ++ toBe 4 0 ++ toBe 8 5)] := by
  rw [show blankServer = World.opened (Manifest.empty ⟨7⟩ 4 2) (MemoryBackend.new (-100)) from rfl,
    server_exact MemoryBackend.run MemoryBackend.returns MemoryBackend.echoes
      MemoryBackend.serves smallDevice (MemoryBackend.willing smallDevice rfl) (by decide)
      smallOptions (Manifest.empty ⟨7⟩ 4 2) (MemoryBackend.new (-100))
      (sound_empty smallMap ⟨7⟩ _)]
  decide +kernel

end Small

end TgDrive
