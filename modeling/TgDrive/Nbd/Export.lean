import TgDrive.Core.CrashSafety
import TgDrive.Effect.Link
import TgDrive.Nbd.Flat

/-!
# The Exported Device

The server with a block device behind it, as one program: the operations of a
connection are those of its stream, and the calls to the device are the
methods themselves, down to the cache, the database and the backend. Every
one of these may fail, and the process may die between any two effects.

To a client all of this is a flat array behind the same server. The device
implements the array, with the states related by `Behind`, so each execution
of the linked program is explained by one of the server on a flat array that
writes and reads the same bytes. Since the relation says that the device can
be reopened, it is there again after a crash and a restart, and so the run of
a server over any number of connections and restarts is explained as a whole.

## Main definitions

* `implement`: The device as the backend of a connection.
* `serveClient`: One connection to a block device.
* `Behind`: The array that a device is.
* `ServerRun`, `FlatRun`: Runs of the server, on a device and on an array.

## Theorems

* `implements_flat`: The device implements the array.
* `serveClient_refines`: A connection, seen as one to an array.
* `server_refines`: Runs with crashes and restarts, seen as runs on an array.
* `wire_served`: What comes of any bytes that a client sends.
-/

namespace TgDrive

open Data Effect

section Crates

variable {ρ : Type} [Crates] {B : Backend ρ} {P : Policy ρ} {raw : ρ → Int → Option Bytes}

/-- The operations of the stream, and those of the device behind it. -/
abbrev exportSig : Signature := streamSig.sum deviceSig

/-- The streams of a server and the environment of its device. -/
abbrev ExportEnv (B : Backend ρ) (P : Policy ρ) : Env exportSig (Stream × World ρ) :=
  StreamEnv.sum (DeviceEnv B P)

/-- The backend of a connection, for a block device. -/
def implement (dev : BlockDevice) : (e : NbdOp) → Prog exportSig e.Resp
  | .readExact n => Prog.perform (S := exportSig) (.inl (.readExact n))
  | .writeAll bytes => Prog.perform (S := exportSig) (.inl (.writeAll bytes))
  | .flushStream => Prog.perform (S := exportSig) (.inl .flushStream)
  | .readAt offset len => (dev.readAt offset len).right
  | .writeAt offset bytes => (dev.writeAt offset bytes).right
  | .flush => dev.flush.right

/-- One connection to a block device. -/
def serveClient (dev : BlockDevice) (options : NbdServerOptions) (rounds : Nat) :
    Prog exportSig Unit :=
  (handleClient options rounds).link (S := nbdSig) (implement dev)

/-- A device that can be reopened and that is an array, behind a stream. -/
def Behind (raw : ρ → Int → Option Bytes) (map : BlockMap) (s : Stream × (Nat → UInt8))
    (t : Stream × World ρ) : Prop :=
  t.1 = s.1 ∧ Durable raw map t.2 ∧ Shows raw map.objectSize t.2 s.2

/-- A block device implements a flat array: each answer of a method, and each
    state it leaves, is one that the array may give and leave. -/
theorem implements_flat (hB : Returns B raw) (hE : Echoes B) (hP : Careful P) (dev : BlockDevice)
    (hsize : 0 < dev.map.objectSize) :
    Implements (S := nbdSig) (FlatEnv dev.map.objectSize) (ExportEnv B P) (Behind raw dev.map)
      (Behind raw dev.map) (implement dev) := by
  intro e s t h
  rcases s with ⟨s, a⟩
  rcases t with ⟨s0, w⟩
  rcases h with ⟨hs0, hw, ha⟩
  have hs : s0 = s := hs0
  rw [hs]
  have hfill : ∀ w', CacheFill B raw w w' → Behind raw dev.map (s, a) (s, w') := fun w' hf =>
    ⟨rfl, hw.fill hB hf, CacheFill.shows hB _ w w' hf hw.consistent a ha⟩
  have hflush : ∀ o w', Flushed B dev w o w' → Behind raw dev.map (s, a) (s, w') :=
    fun o w' hf => ⟨rfl, hw.flushed hB hE dev o hf,
      Carried.shows _ w w' (hf.carried hB) hw.consistent a ha⟩
  cases e with
  | readExact n =>
      exact wp_left (S := streamSig) (.readExact n) _ _ s w
        (fun r s' hstep => ⟨(s', a), ⟨hstep, rfl⟩, rfl, hw, ha⟩)
        (fun s' hc => ⟨(s', a), ⟨hc, rfl⟩, rfl, hw, ha⟩)
  | writeAll bytes =>
      exact wp_left (S := streamSig) (.writeAll bytes) _ _ s w
        (fun r s' hstep => ⟨(s', a), ⟨hstep, rfl⟩, rfl, hw, ha⟩)
        (fun s' hc => ⟨(s', a), ⟨hc, rfl⟩, rfl, hw, ha⟩)
  | flushStream =>
      exact wp_left (S := streamSig) .flushStream _ _ s w
        (fun r s' hstep => ⟨(s', a), ⟨hstep, rfl⟩, rfl, hw, ha⟩)
        (fun s' hc => ⟨(s', a), ⟨hc, rfl⟩, rfl, hw, ha⟩)
  | readAt offset len =>
      refine wp_right _ _ _ s w (wp_mono _ _ _ _ _ (fun r w' hr => ?_) (fun w' hc => ?_) w
        (wp_readAt (P := P) hB dev a offset len w hw.consistent ha))
      · exact ⟨(s, a), ⟨hr.answer, rfl⟩, hfill w' hr.fill⟩
      · exact ⟨(s, a), rfl, hfill w' hc⟩
  | writeAt offset bytes =>
      refine wp_right _ _ _ s w (wp_mono _ _ _ _ _ (fun r w' hr => ?_) (fun w' hc => ?_) w
        (wp_writeAt hB hP dev a offset bytes w hw.consistent ha))
      · have hdur := hw.wrote hB dev hsize hr.steps
        rcases r with msg | u
        · rcases hr.part with ⟨c, hmixed, hc⟩
          exact ⟨(s, c), ⟨fun hok => (by cases hok), hmixed, rfl⟩, rfl, hdur, hc⟩
        · exact ⟨(s, splice a offset bytes), ⟨fun _ => rfl, Mixed.right _ _ _, rfl⟩, rfl, hdur,
            hr.whole rfl⟩
      · rcases hc.2 with ⟨c, hmixed, hshows⟩
        exact ⟨(s, c), ⟨hmixed, rfl⟩, rfl, hw.wrote hB dev hsize hc.1, hshows⟩
  | flush =>
      refine wp_right _ _ _ s w (wp_mono _ _ _ _ _ (fun r w' hr => ?_) (fun w' hc => ?_) w
        (wp_flush dev w))
      · exact ⟨(s, a), rfl, hflush _ w' hr.1⟩
      · exact ⟨(s, a), rfl, hflush _ w' hc⟩

/-- A program over the operations of a connection, run on a device: it is a
    run on the array that the device is. -/
theorem link_refines {α : Type} (hB : Returns B raw) (hE : Echoes B) (hP : Careful P)
    (dev : BlockDevice) (hsize : 0 < dev.map.objectSize) (p : Prog nbdSig α) (s s' : Stream)
    (w w' : World ρ) (o : Outcome α)
    (hex : Exec (ExportEnv B P) (p.link (S := nbdSig) (implement dev)) (s, w) o (s', w'))
    (hw : Durable raw dev.map w) (a : Nat → UInt8) (ha : Shows raw dev.map.objectSize w a) :
    ∃ c, Exec (FlatEnv dev.map.objectSize) p (s, a) o (s', c) ∧ Durable raw dev.map w' ∧
      Shows raw dev.map.objectSize w' c := by
  -- What an execution on the array may come to is a postcondition of itself.
  have hself : wp (FlatEnv dev.map.objectSize) p
      (fun r t => Exec (FlatEnv dev.map.objectSize) p (s, a) (.done r) t)
      (fun t => Exec (FlatEnv dev.map.objectSize) p (s, a) .crashed t) (s, a) := by
    refine (wp_iff_exec _ _ _ _).mpr fun o t ht => ?_
    cases o with
    | done r => exact ht
    | crashed => exact ht
  have hpost := wp_link _ _ _ (implements_flat (P := P) hB hE hP dev hsize) p _ _ (s, a) (s, w)
    ⟨rfl, hw, ha⟩ hself
  cases o with
  | done r =>
      rcases wp_done _ _ _ _ _ _ hpost hex with ⟨⟨s1, c⟩, hflat, hs, hdur, hshows⟩
      have hs1 : s' = s1 := hs
      rw [hs1]
      exact ⟨c, hflat, hdur, hshows⟩
  | crashed =>
      rcases wp_crashed _ _ _ _ _ hpost hex with ⟨⟨s1, c⟩, hflat, hs, hdur, hshows⟩
      have hs1 : s' = s1 := hs
      rw [hs1]
      exact ⟨c, hflat, hdur, hshows⟩

/-- What passed over one connection. -/
structure Transcript where
  input : Bytes
  output : Bytes

/-- The life of a server: connections one after the other, each of which ends
    in some way, and restarts after one that ended or was cut short. -/
inductive ServerRun (B : Backend ρ) (P : Policy ρ) (dev : BlockDevice)
    (options : NbdServerOptions) (w0 : World ρ) : List Transcript → World ρ → Prop
  | start : ServerRun B P dev options w0 [] w0
  | client (log : List Transcript) (w w' : World ρ) (input : Bytes) (rounds : Nat)
      (r : Except String Unit) (s : Stream) (h : ServerRun B P dev options w0 log w)
      (hex : Exec (ExportEnv B P) (serveClient dev options rounds) (⟨input, []⟩, w) (.done r)
        (s, w')) :
      ServerRun B P dev options w0 (log ++ [⟨input, s.output⟩]) w'
  | restart (log : List Transcript) (w w' w'' : World ρ) (input : Bytes) (rounds : Nat)
      (o : Outcome Unit) (s : Stream) (h : ServerRun B P dev options w0 log w)
      (hex : Exec (ExportEnv B P) (serveClient dev options rounds) (⟨input, []⟩, w) o (s, w'))
      (hopen : w'.reopen = .ok w'') :
      ServerRun B P dev options w0 (log ++ [⟨input, s.output⟩]) w''

/-- The same on a flat array, where a restart changes nothing. -/
inductive FlatRun (size : Nat) (options : NbdServerOptions) (a0 : Nat → UInt8) :
    List Transcript → (Nat → UInt8) → Prop
  | start : FlatRun size options a0 [] a0
  | client (log : List Transcript) (a c : Nat → UInt8) (input : Bytes) (rounds : Nat)
      (o : Outcome Unit) (s : Stream) (h : FlatRun size options a0 log a)
      (hex : Exec (FlatEnv size) (handleClient options rounds) (⟨input, []⟩, a) o (s, c)) :
      FlatRun size options a0 (log ++ [⟨input, s.output⟩]) c

/-- Whatever the clients of a server see over its life, with failures, crashes
    and restarts, is what clients of a flat array may see, and in the end the
    device is the array. -/
theorem server_refines (hB : Returns B raw) (hE : Echoes B) (hP : Careful P)
    (dev : BlockDevice) (hsize : 0 < dev.map.objectSize) (options : NbdServerOptions)
    (w0 w : World ρ) (log : List Transcript) (h0 : Durable raw dev.map w0)
    (hrun : ServerRun B P dev options w0 log w) :
    ∃ a, FlatRun dev.map.objectSize options (w0.array raw dev.map.objectSize) log a ∧
      Durable raw dev.map w ∧ Shows raw dev.map.objectSize w a := by
  induction hrun with
  | start => exact ⟨_, .start, h0, shows_array raw dev.map.objectSize w0⟩
  | client log w w' input rounds r s _ hex ih =>
      rcases ih with ⟨a, hflat, hw, ha⟩
      rcases link_refines hB hE hP dev hsize _ _ s w w' _ hex hw a ha with ⟨c, hstep, hw', hc⟩
      exact ⟨c, .client log a c input rounds _ s hflat hstep, hw', hc⟩
  | restart log w w' w'' input rounds o s _ hex hopen ih =>
      rcases ih with ⟨a, hflat, hw, ha⟩
      rcases link_refines hB hE hP dev hsize _ _ s w w' _ hex hw a ha with ⟨c, hstep, hw', hc⟩
      rcases hw'.reopen with ⟨w2, hw2, hdur, _, hsame⟩
      rw [hw2, Except.ok.injEq] at hopen
      rw [← hopen]
      exact ⟨c, .client log a c input rounds o s hflat hstep, hdur,
        fun id => (hsame _ id).trans (hc id)⟩

/-- The requests of a client of a device, after the negotiation: whatever bytes
    it sends and whatever fails, the answers that go back are those of a flat
    array, and each write that was answered is there. -/
theorem wire_served (hB : Returns B raw) (hE : Echoes B) (hP : Careful P) (dev : BlockDevice)
    (hsize : 0 < dev.map.objectSize) (options : NbdServerOptions) (rounds : Nat)
    (input output : Bytes) (s : Stream) (w w' : World ρ) (o : Outcome Unit)
    (hex : Exec (ExportEnv B P) ((transmission options rounds).link (S := nbdSig) (implement dev))
      (⟨input, output⟩, w) o (s, w')) (hw : Durable raw dev.map w) :
    ∃ out c, s.output = output ++ out ∧
      Served options dev.map.objectSize input (w.array raw dev.map.objectSize) out c ∧
      (o = .done (.ok ()) → Finished options input (w.array raw dev.map.objectSize) out c) ∧
      Durable raw dev.map w' ∧ Shows raw dev.map.objectSize w' c := by
  rcases link_refines hB hE hP dev hsize _ _ s w w' o hex hw _
    (shows_array raw dev.map.objectSize w) with ⟨c, hflat, hdur, hc⟩
  have hpost := @wp_transmission options dev.map.objectSize rounds input output
    (w.array raw dev.map.objectSize)
  cases o with
  | done r =>
      rcases wp_done _ _ _ _ _ _ hpost hflat with ⟨out, hout, hserved, hfin⟩
      refine ⟨out, c, hout, hserved, fun hr => hfin ?_, hdur, hc⟩
      injection hr
  | crashed =>
      rcases wp_crashed _ _ _ _ _ hpost hflat with ⟨out, hout, hserved⟩
      exact ⟨out, c, hout, hserved, fun hr => (by cases hr), hdur, hc⟩

/-- A stream that does not break, and the device behind it. -/
def exportRun (R : (c : Call) → ρ → Except String c.Resp × ρ) :
    (e : exportSig.Op) → Stream × World ρ → Except String (exportSig.Resp e) × (Stream × World ρ)
  | .inl (.readExact n), t =>
      if n ≤ t.1.input.length then
        (.ok (t.1.input.take n), ({ t.1 with input := t.1.input.drop n }, t.2))
      else (.error unexpectedEof, ({ t.1 with input := [] }, t.2))
  | .inl (.writeAll bytes), t => (.ok (), ({ t.1 with output := t.1.output ++ bytes }, t.2))
  | .inl .flushStream, t => (.ok (), t)
  | .inr e, t => ((deviceRun R e t.2).1, (t.1, (deviceRun R e t.2).2))

/-- What such a server computes is one of its executions. -/
theorem exec_exportRun {α : Type} (R : (c : Call) → ρ → Except String c.Resp × ρ)
    (p : Prog exportSig α) (t : Stream × World ρ) :
    Exec (ExportEnv (Env.ofRun (S := remoteSig) R) P) p t (.done (p.eval (exportRun R) t).1)
      (p.eval (exportRun R) t).2 := by
  refine exec_of_eval (S := exportSig) (exportRun R) (fun e t => ?_) p t
  rcases e with (n | bytes | _) | e
  · by_cases hle : n ≤ t.1.input.length
    · rw [exportRun, if_pos hle]
      exact ⟨Or.inl ⟨hle, rfl, rfl⟩, rfl⟩
    · rw [exportRun, if_neg hle]
      refine ⟨Or.inr ⟨_, t.1.input.length, rfl, fun _ => Nat.lt_of_not_le hle, ?_⟩, rfl⟩
      rw [List.drop_length]
  · exact ⟨Or.inl ⟨rfl, rfl⟩, rfl⟩
  · exact ⟨rfl, rfl⟩
  · cases e with
    | disk l => exact ⟨Or.inl rfl, rfl⟩
    | call c => exact ⟨⟨(R c t.2.remote).2, rfl, rfl⟩, rfl⟩

end Crates

section Small

attribute [local instance] concreteCrates

/-- A blank small device behind a server. -/
def blankServer : World MemoryBackend :=
  World.opened (Manifest.empty ⟨7⟩ 4 2) (MemoryBackend.new (-100))

theorem durable_blankServer : Durable MemoryBackend.messages smallMap blankServer :=
  durable_opened _ _ _ (sound_empty smallMap ⟨7⟩ _)

/-- A write and a part of the header of a read. -/
def wireCut : Bytes := (smallRequests.flatMap SentRequest.encode).take 40

/-- The client that sends them once it has asked for the export. -/
def smallClient : Bytes :=
  toBe 4 3 ++ (toBe 8 iHaveOpt ++ (toBe 4 optGo ++ (toBe 4 6 ++ (List.replicate 6 0 ++ wireCut))))

def smallServed : Except String Unit × (Stream × World MemoryBackend) :=
  (serveClient smallDevice smallOptions 3).eval (exportRun MemoryBackend.run)
    (⟨smallClient, []⟩, blankServer)

/-- One connection that writes a byte. -/
theorem server_refines_small : ∃ a, FlatRun 4 smallOptions
    (blankServer.array MemoryBackend.messages 4) [⟨smallClient, smallServed.2.1.output⟩] a ∧
    span a 0 4 = [0, 0, 9, 0] := by
  have hex := exec_exportRun (P := Policy.sparing) MemoryBackend.run
    (serveClient smallDevice smallOptions 3) (⟨smallClient, []⟩, blankServer)
  have hrun : ServerRun MemoryBackend.backend Policy.sparing smallDevice smallOptions blankServer
      [⟨smallClient, smallServed.2.1.output⟩] smallServed.2.2 :=
    .client [] blankServer _ smallClient 3 _ _ .start hex
  rcases server_refines MemoryBackend.returns MemoryBackend.echoes careful_sparing smallDevice
    (by decide) smallOptions blankServer _ _ durable_blankServer hrun with ⟨a, hflat, _, ha⟩
  refine ⟨a, hflat, (ha 0).symm.trans ?_⟩
  decide +kernel

/-- The same requests without the negotiation. -/
theorem wire_served_small : ∃ out c,
    Served smallOptions 4 wireCut (blankServer.array MemoryBackend.messages 4) out c ∧
    out = toBe 4 repMagic ++ toBe 4 0 ++ toBe 8 5 ∧ span c 0 4 = [0, 0, 9, 0] := by
  have hex := exec_exportRun (P := Policy.sparing) MemoryBackend.run
    ((transmission smallOptions 3).link (S := nbdSig) (implement smallDevice))
    (⟨wireCut, []⟩, blankServer)
  rcases wire_served MemoryBackend.returns MemoryBackend.echoes careful_sparing smallDevice
    (by decide) smallOptions 3 wireCut [] _ blankServer _ _ hex durable_blankServer with
    ⟨out, c, hout, hserved, _, _, hc⟩
  rw [List.nil_append] at hout
  refine ⟨out, c, hserved, hout.symm.trans ?_, (hc 0).symm.trans ?_⟩
  · decide +kernel
  · decide +kernel

end Small

end TgDrive
