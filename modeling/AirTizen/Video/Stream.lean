import AirTizen.Library.RetainedLog
import AirTizen.Library.Text

/-!
# Published streams

What the video store is for, without slots, counters and buffers: within one
generation a stream publishes one initialization segment and an append-only log
of fragments, from which old fragments are dropped in order.  Whatever replaces
the stream starts the next generation.
-/

namespace AirTizen.Video

open CText

structure Fragment where
  bytes : Bytes
  /-- Microseconds since the first fragment of the generation. -/
  pts : Nat
  key : Bool
  deriving DecidableEq

structure Stream where
  /-- Number of restarts since the process started, without wrapping. -/
  generation : Nat
  config : Option Bytes
  initData : Option Bytes
  log : RetainedLog Fragment

namespace Stream

def fresh (generation : Nat) (config : Option Bytes) : Stream :=
  ⟨generation, config, none, RetainedLog.empty⟩

inductive Step (stream : Stream) : Stream → Prop
  | idle : Step stream stream
  | restart (config : Option Bytes) : Step stream (fresh (stream.generation + 1) config)
  | publish (initData : Bytes) (fragment : Fragment) (log : RetainedLog Fragment)
      (once : ∀ published ∈ stream.initData, published = initData)
      (appended : log.entries = stream.log.entries ++ [fragment])
      (raised : stream.log.mark ≤ log.mark) :
      Step stream { stream with initData := some initData, log := log }

structure Continues (earlier later : Stream) : Prop where
  generation : earlier.generation ≤ later.generation
  initData : earlier.generation = later.generation →
    ∀ published ∈ earlier.initData, later.initData = some published
  log : earlier.generation = later.generation → earlier.log.Extends later.log

namespace Continues

theorem refl (stream : Stream) : Continues stream stream :=
  ⟨Nat.le_refl _, fun _ _ published => published, fun _ => .refl _⟩

theorem trans (first second third : Stream) (early : Continues first second)
    (late : Continues second third) : Continues first third where
  generation := early.generation.trans late.generation
  initData same published member := by
    have middle : first.generation = second.generation :=
      Nat.le_antisymm early.generation (same ▸ late.generation)
    exact late.initData (middle ▸ same) published (early.initData middle published member)
  log same := by
    have middle : first.generation = second.generation :=
      Nat.le_antisymm early.generation (same ▸ late.generation)
    exact (early.log middle).trans (late.log (middle ▸ same))

end Continues

theorem Step.continues {stream next : Stream} (step : Step stream next) :
    Continues stream next := by
  cases step with
  | idle => exact .refl stream
  | restart config =>
      refine ⟨Nat.le_succ _, fun same => ?_, fun same => ?_⟩ <;>
        exact absurd same (Nat.ne_of_lt (Nat.lt_succ_self _))
  | publish initData fragment log once appended raised =>
      refine ⟨Nat.le_refl _, fun _ published member => ?_, fun _ => ⟨?_, raised⟩⟩
      · rw [once published member]
      · exact ⟨[fragment], appended.symm⟩

end Stream

end AirTizen.Video
