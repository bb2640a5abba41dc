import AirTizen.Library.BoundedFifo
import AirTizen.Library.Text

/-!
# The PCM queue

`audio_queue.c`: a ring of stereo samples between one producer and the audio
callback.  Every call is one critical section.
-/

namespace AirTizen.Audio

open CText

abbrev audioFrames : Nat := 16384

instance (priority := high) : NeZero audioFrames := ⟨by decide⟩

/-- An `int16_t` as its two bytes, which `memcpy` moves as they are. -/
abbrev Sample := UInt8 × UInt8

abbrev Frame := Sample × Sample

structure AudioQueue where
  samples : Fin (audioFrames * 2) → Sample := fun _ => (0, 0)
  readFrame : Nat := 0
  count : Nat := 0
  channels : Nat := 0
  /-- The flag `open`. -/
  opened : Bool := false
  renderedFrames : Nat := 0
  underruns : Nat := 0

def AudioQueue.init : AudioQueue := {}

def leftIndex (frame : Fin audioFrames) : Fin (audioFrames * 2) := ⟨frame * 2, by omega⟩
def rightIndex (frame : Fin audioFrames) : Fin (audioFrames * 2) := ⟨frame * 2 + 1, by omega⟩

/-- `index` of the loops, `%AIRTIZEN_AUDIO_FRAMES`. -/
def frameIndex (position : Nat) : Fin audioFrames := SlotRing.index audioFrames position

def sampleAt (input : Bytes) (offset : Nat) : Sample :=
  (input.getD offset 0, input.getD (offset + 1) 0)

/-- The remainder and the quotient of C, which have no value for the divisor zero. -/
def remainder (dividend divisor : Nat) : Option Nat :=
  if divisor = 0 then none else some (dividend % divisor)

def quotient (dividend divisor : Nat) : Option Nat :=
  if divisor = 0 then none else some (dividend / divisor)

/-- `q->channels*2` in 32 bits. -/
def AudioQueue.frameBytes (queue : AudioQueue) : Nat := queue.channels * 2 % 2 ^ 32

/-- `airtizen_audio_queue_open`; `channels` is an `unsigned`. -/
def AudioQueue.openWith (queue : AudioQueue) (channels : Nat) : AudioQueue :=
  { queue with
    readFrame := 0, count := 0, renderedFrames := 0, underruns := 0
    channels := channels
    opened := channels == 1 || channels == 2 }

def AudioQueue.close (queue : AudioQueue) : AudioQueue :=
  { queue with opened := false, count := 0, readFrame := 0 }

/-- The two copies in the loop of `airtizen_audio_queue_write`. -/
def AudioQueue.copyIn (queue : AudioQueue) (input : Bytes)
    (samples : Fin (audioFrames * 2) → Sample) (i : Nat) : Fin (audioFrames * 2) → Sample :=
  let index := frameIndex (queue.readFrame + queue.count + i)
  let samples := Function.update samples (leftIndex index) (sampleAt input (i * queue.channels * 2))
  Function.update samples (rightIndex index)
    (sampleAt input ((i * queue.channels + if queue.channels = 2 then 1 else 0) * 2))

/-- `airtizen_audio_queue_write`, `none` where it would divide by zero. -/
def AudioQueue.write (queue : AudioQueue) (pcm : Option Bytes) : Option (Int × AudioQueue) :=
  match pcm with
  | none => some (-1, queue)
  | some input =>
      if !queue.opened then some (-1, queue)
      else do
        let misaligned ← remainder input.length queue.frameBytes
        if misaligned ≠ 0 then some (-1, queue)
        else do
          let frames ← quotient input.length queue.frameBytes
          let frames := if audioFrames - queue.count < frames then audioFrames - queue.count else frames
          some (frames * queue.channels * 2,
            { queue with
              samples := (List.range frames).foldl (queue.copyIn input) queue.samples
              count := queue.count + frames })

def AudioQueue.copyOut (queue : AudioQueue) (i : Nat) : Frame :=
  let index := frameIndex (queue.readFrame + i)
  (queue.samples (leftIndex index), queue.samples (rightIndex index))

def frameOutput (frame : Frame) : Bytes := [frame.1.1, frame.1.2, frame.2.1, frame.2.2]

/-- `airtizen_audio_queue_render` into a buffer of `bytes` bytes, which is zeroed first. -/
def AudioQueue.render (queue : AudioQueue) (bytes : Nat) : Bytes × AudioQueue :=
  if !queue.opened then (List.replicate bytes 0, queue)
  else
    let wanted := bytes / 4
    let short := queue.count < wanted
    let frames := if short then queue.count else wanted
    (((List.range frames).map queue.copyOut).flatMap frameOutput ++
        List.replicate (bytes - frames * 4) 0,
      { queue with
        underruns := if short then (queue.underruns + 1) % 2 ^ 64 else queue.underruns
        readFrame := (queue.readFrame + frames) % audioFrames
        count := queue.count - frames
        renderedFrames := (queue.renderedFrames + frames) % 2 ^ 64 })

/-- A call, with the buffers that it is given. -/
inductive AudioCall where
  | openWith (channels : Nat)
  | write (pcm : Option Bytes)
  | render (bytes : Nat)
  | close

inductive Answer where
  | nothing
  | written (result : Int)
  | rendered (output : Bytes)
  deriving DecidableEq

def AudioQueue.step (queue : AudioQueue) : AudioCall → Option (Answer × AudioQueue)
  | .openWith channels => some (.nothing, queue.openWith channels)
  | .write pcm => (queue.write pcm).map fun (result, after) => (.written result, after)
  | .render bytes => some (.rendered (queue.render bytes).1, (queue.render bytes).2)
  | .close => some (.nothing, queue.close)

/-- The answers of the calls and the queue behind them, unless one of them
divides by zero. -/
def AudioQueue.run (queue : AudioQueue) : List AudioCall → Option (List Answer × AudioQueue)
  | [] => some ([], queue)
  | call :: rest => do
      let (answer, after) ← queue.step call
      let (answers, final) ← after.run rest
      some (answer :: answers, final)

end AirTizen.Audio
