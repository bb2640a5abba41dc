import AirTizen.Audio.Queue
import AirTizen.Library.Machine

/-!
# The PCM queue is a bounded queue of frames

The index arithmetic of the ring on both of its ends is that of a circular
buffer, so the queue refines a bounded queue: what is rendered is a prefix of
what was accepted.
-/

namespace AirTizen.Audio

open CText

/-! ## What the queue is for -/

inductive Layout where
  | mono
  | stereo
  deriving DecidableEq

namespace Layout

def channels : Layout → Nat
  | mono => 1
  | stereo => 2

def ofChannels (channels : Nat) : Option Layout :=
  if channels = 1 then some mono else if channels = 2 then some stereo else none

def frameBytes (layout : Layout) : Nat := layout.channels * 2

/-- The whole frames of an input: a mono sample goes to both sides. -/
def frames : Layout → Bytes → List Frame
  | mono, low :: high :: rest => ((low, high), (low, high)) :: frames mono rest
  | stereo, b0 :: b1 :: b2 :: b3 :: rest => ((b0, b1), (b2, b3)) :: frames stereo rest
  | _, _ => []

end Layout

/-- A bounded queue of frames with the layout of its input while it is open,
and a count of the renders that it could not fill.  A closed one is empty. -/
@[ext]
structure Pcm where
  layout : Option Layout := none
  fifo : BoundedFifo audioFrames Frame := .empty
  underruns : Nat := 0

namespace Pcm

/-- A write accepts the frames that fit, and nothing of a broken frame. -/
def write (pcm : Pcm) (input : Option Bytes) : Int × Pcm :=
  match pcm.layout, input with
  | some layout, some input =>
      if layout.frameBytes ∣ input.length then
        ((pcm.fifo.accepted (layout.frames input)).length * layout.frameBytes,
          { pcm with fifo := pcm.fifo.offer (layout.frames input) })
      else (-1, pcm)
  | _, _ => (-1, pcm)

theorem write_open (pcm : Pcm) {layout : Layout} (known : pcm.layout = some layout)
    (input : Bytes) :
    pcm.write (some input) =
      if layout.frameBytes ∣ input.length then
        (((pcm.fifo.accepted (layout.frames input)).length * layout.frameBytes : Int),
          { pcm with fifo := pcm.fifo.offer (layout.frames input) })
      else (-1, pcm) := by
  unfold write
  rw [known]

def render (pcm : Pcm) (bytes : Nat) : Bytes × Pcm :=
  let sound := (pcm.fifo.front (bytes / 4)).flatMap frameOutput
  (sound ++ List.replicate (bytes - sound.length) 0,
    { pcm with
      fifo := pcm.fifo.dropFront (bytes / 4)
      underruns :=
        if pcm.layout.isSome ∧ pcm.fifo.held.length < bytes / 4 then
          (pcm.underruns + 1) % 2 ^ 64
        else pcm.underruns })

def accepts (pcm : Pcm) (input : Option Bytes) : List Frame :=
  match pcm.layout, input with
  | some layout, some input =>
      if layout.frameBytes ∣ input.length then pcm.fifo.accepted (layout.frames input) else []
  | _, _ => []

theorem write_spec (pcm : Pcm) (input : Option Bytes) :
    (pcm.write input).2.layout = pcm.layout ∧
      (pcm.write input).2.fifo.held = pcm.fifo.held ++ pcm.accepts input ∧
      (pcm.layout = none → pcm.accepts input = []) := by
  cases known : pcm.layout with
  | none => simp [write, accepts, known]
  | some layout =>
      cases input with
      | none => simp [write, accepts, known]
      | some input =>
          by_cases aligned : layout.frameBytes ∣ input.length
          · simp [write, accepts, known, aligned, BoundedFifo.offer]
          · simp [write, accepts, known, aligned]

def step (pcm : Pcm) : AudioCall → Answer × Pcm
  | .openWith channels => (.nothing, { layout := Layout.ofChannels channels })
  | .write input => (.written (pcm.write input).1, (pcm.write input).2)
  | .render bytes => (.rendered (pcm.render bytes).1, (pcm.render bytes).2)
  | .close => (.nothing, { underruns := pcm.underruns })

def answers (pcm : Pcm) : List AudioCall → List Answer
  | [] => []
  | call :: rest => (pcm.step call).1 :: (pcm.step call).2.answers rest

def after (pcm : Pcm) (calls : List AudioCall) : Pcm :=
  Machine.run (fun pcm call => (pcm.step call).2) pcm calls

end Pcm

/-! ## Frames of an input -/

def Layout.frameAt (layout : Layout) (input : Bytes) (i : Nat) : Frame :=
  (sampleAt input (i * layout.channels * 2),
    sampleAt input ((i * layout.channels + if layout.channels = 2 then 1 else 0) * 2))

theorem range_map_succ {α : Type} (value : Nat → α) (count : Nat) :
    (List.range (count + 1)).map value = value 0 :: (List.range count).map (value ∘ Nat.succ) := by
  rw [List.range_succ_eq_map, List.map_cons, List.map_map]

/-- The loop copies the frames of the input in order. -/
theorem frames_eq (layout : Layout) (input : Bytes) :
    layout.frames input =
      (List.range (input.length / layout.frameBytes)).map (layout.frameAt input) := by
  fun_induction Layout.frames layout input with
  | case1 low high rest inductionHypothesis =>
      have count : (low :: high :: rest).length / Layout.mono.frameBytes =
          rest.length / Layout.mono.frameBytes + 1 := by
        simp only [Layout.frameBytes, Layout.channels, List.length_cons]
        omega
      rw [count, range_map_succ, inductionHypothesis]
      congr 1
      apply List.map_congr_left
      intro i _
      simp [Layout.frameAt, Layout.channels, sampleAt, Nat.succ_mul, Nat.add_assoc]
  | case2 b0 b1 b2 b3 rest inductionHypothesis =>
      have count : (b0 :: b1 :: b2 :: b3 :: rest).length / Layout.stereo.frameBytes =
          rest.length / Layout.stereo.frameBytes + 1 := by
        simp only [Layout.frameBytes, Layout.channels, List.length_cons]
        omega
      rw [count, range_map_succ, inductionHypothesis]
      congr 1
      apply List.map_congr_left
      intro i _
      have even : (i + 1) * 2 * 2 = i * 2 * 2 + 4 := by ring
      have odd : ((i + 1) * 2 + 1) * 2 = (i * 2 + 1) * 2 + 4 := by ring
      simp [Layout.frameAt, Layout.channels, sampleAt, even, odd]
  | case3 input layout notMono notStereo =>
      have short : input.length / layout.frameBytes = 0 := by
        apply Nat.div_eq_of_lt
        cases layout with
        | mono =>
            match input, notMono with
            | [], _ => simp [Layout.frameBytes, Layout.channels]
            | [_], _ => simp [Layout.frameBytes, Layout.channels]
            | low :: high :: rest, notMono => exact absurd rfl (notMono low high rest rfl)
        | stereo =>
            match input, notStereo with
            | [], _ => simp [Layout.frameBytes, Layout.channels]
            | [_], _ => simp [Layout.frameBytes, Layout.channels]
            | [_, _], _ => simp [Layout.frameBytes, Layout.channels]
            | [_, _, _], _ => simp [Layout.frameBytes, Layout.channels]
            | b0 :: b1 :: b2 :: b3 :: rest, notStereo =>
                exact absurd rfl (notStereo b0 b1 b2 b3 rest rfl)
      rw [short]
      rfl

/-! ## The ring as a queue -/

def cells (samples : Fin (audioFrames * 2) → Sample) (frame : Fin audioFrames) : Frame :=
  (samples (leftIndex frame), samples (rightIndex frame))

/-- One round of the loop of a write fills one cell. -/
theorem cells_copyIn (queue : AudioQueue) (input : Bytes)
    (samples : Fin (audioFrames * 2) → Sample) (i : Nat) :
    cells (queue.copyIn input samples i) =
      Function.update (cells samples) (frameIndex (queue.readFrame + queue.count + i))
        (sampleAt input (i * queue.channels * 2),
          sampleAt input ((i * queue.channels + if queue.channels = 2 then 1 else 0) * 2)) := by
  funext frame
  have leftRight (first second : Fin audioFrames) : leftIndex first ≠ rightIndex second := by
    rw [ne_eq, Fin.ext_iff]
    simp only [leftIndex, rightIndex]
    omega
  unfold cells AudioQueue.copyIn
  by_cases written : frame = frameIndex (queue.readFrame + queue.count + i)
  · rw [written]
    simp [leftRight]
  · have left : leftIndex frame ≠ leftIndex (frameIndex (queue.readFrame + queue.count + i)) := by
      intro same
      simp only [leftIndex, Fin.mk.injEq] at same
      exact written (Fin.ext (by omega))
    have right :
        rightIndex frame ≠ rightIndex (frameIndex (queue.readFrame + queue.count + i)) := by
      intro same
      simp only [rightIndex, Fin.mk.injEq] at same
      exact written (Fin.ext (by omega))
    simp [leftRight, Ne.symm (leftRight _ _), left, right, written]

namespace AudioQueue

def contents (queue : AudioQueue) : List Frame :=
  Circular.contents (cells queue.samples) queue.readFrame queue.count

theorem cells_foldl (queue : AudioQueue) (input : Bytes) {layout : Layout}
    (channels : queue.channels = layout.channels) (frames : Nat) :
    cells ((List.range frames).foldl (queue.copyIn input) queue.samples) =
      Circular.fill (cells queue.samples) (queue.readFrame + queue.count)
        (layout.frameAt input) frames := by
  induction frames with
  | zero => rfl
  | succ frames inductionHypothesis =>
      rw [List.range_succ, List.foldl_append, List.foldl_cons, List.foldl_nil, cells_copyIn,
        inductionHypothesis, Circular.fill_succ, channels]
      rfl

end AudioQueue

structure Refines (queue : AudioQueue) (pcm : Pcm) : Prop where
  readFrame : queue.readFrame < audioFrames
  layout : pcm.layout = if queue.opened then Layout.ofChannels queue.channels else none
  channels : queue.opened = true → queue.channels = 1 ∨ queue.channels = 2
  contents : queue.contents = pcm.fifo.held
  closed : queue.opened = false → pcm.fifo.held = []
  underruns : queue.underruns = pcm.underruns

namespace Refines

variable {queue : AudioQueue} {pcm : Pcm}

theorem count (refines : Refines queue pcm) : queue.count = pcm.fifo.held.length := by
  rw [← refines.contents, AudioQueue.contents, Circular.contents_length]

theorem opened (refines : Refines queue pcm) (opened : queue.opened = true) :
    ∃ layout, pcm.layout = some layout ∧ queue.channels = layout.channels ∧
      queue.frameBytes = layout.frameBytes := by
  have layout := refines.layout
  rw [if_pos opened] at layout
  rcases refines.channels opened with mono | stereo
  · refine ⟨.mono, ?_, mono, ?_⟩
    · rw [layout, mono]
      rfl
    · simp [AudioQueue.frameBytes, mono, Layout.frameBytes, Layout.channels]
  · refine ⟨.stereo, ?_, stereo, ?_⟩
    · rw [layout, stereo]
      rfl
    · simp [AudioQueue.frameBytes, stereo, Layout.frameBytes, Layout.channels]

theorem init : Refines AudioQueue.init {} where
  readFrame := by decide
  layout := rfl
  channels opened := by cases opened
  contents := rfl
  closed _ := rfl
  underruns := rfl

theorem openWith (queue : AudioQueue) (channels : Nat) :
    Refines (queue.openWith channels) { layout := Layout.ofChannels channels } where
  readFrame := by
    simp [AudioQueue.openWith]
  layout := by
    simp only [AudioQueue.openWith, Layout.ofChannels, Bool.or_eq_true, beq_iff_eq]
    by_cases mono : channels = 1
    · simp [mono]
    · by_cases stereo : channels = 2
      · simp [stereo]
      · simp [mono, stereo]
  channels opened := by
    simpa [AudioQueue.openWith] using opened
  contents := rfl
  closed _ := rfl
  underruns := rfl

theorem close (refines : Refines queue pcm) :
    Refines queue.close { underruns := pcm.underruns } where
  readFrame := by
    simp [AudioQueue.close]
  layout := rfl
  channels opened := by cases opened
  contents := rfl
  closed _ := rfl
  underruns := refines.underruns

theorem write_refused (refines : Refines queue pcm) {input : Option Bytes}
    (refused : queue.opened = false ∨ input = none) :
    queue.write input = some (-1, queue) ∧ pcm.write input = (-1, pcm) := by
  cases input with
  | none =>
      refine ⟨rfl, ?_⟩
      unfold Pcm.write
      cases pcm.layout <;> rfl
  | some input =>
      have closed : queue.opened = false := by simpa using refused
      have layout := refines.layout
      rw [closed] at layout
      refine ⟨?_, ?_⟩
      · simp [AudioQueue.write, closed]
      · unfold Pcm.write
        rw [layout]
        rfl

/-- A write of the ring is a write of the bounded queue, and the ring is left
alone where that one refuses. -/
theorem write (refines : Refines queue pcm) (input : Option Bytes) :
    ∃ after, queue.write input = some ((pcm.write input).1, after) ∧
      Refines after (pcm.write input).2 ∧ ((pcm.write input).1 = -1 → after = queue) := by
  by_cases refused : queue.opened = false ∨ input = none
  · obtain ⟨concrete, abstract⟩ := refines.write_refused refused
    rw [abstract]
    exact ⟨queue, concrete, refines, fun _ => rfl⟩
  rw [not_or, Bool.not_eq_false] at refused
  obtain ⟨input, rfl⟩ := Option.ne_none_iff_exists'.mp refused.2
  obtain ⟨layout, known, channels, frameBytes⟩ := refines.opened refused.1
  have positive : layout.frameBytes ≠ 0 := by cases layout <;> decide
  have rest : remainder input.length queue.frameBytes =
      some (input.length % layout.frameBytes) := by
    rw [remainder, frameBytes, if_neg positive]
  have whole : quotient input.length queue.frameBytes =
      some (input.length / layout.frameBytes) := by
    rw [quotient, frameBytes, if_neg positive]
  rw [pcm.write_open known]
  unfold AudioQueue.write
  simp only [rest, whole, Option.bind_eq_bind, Option.bind_some]
  rw [if_neg (by simp [refused.1])]
  by_cases aligned : layout.frameBytes ∣ input.length
  · have noRest : ¬ input.length % layout.frameBytes ≠ 0 := by
      rw [not_not]
      exact Nat.mod_eq_zero_of_dvd aligned
    rw [if_neg noRest, if_pos aligned]
    have held := refines.count
    have bounded := pcm.fifo.bounded
    generalize framesEq : (if audioFrames - queue.count < input.length / layout.frameBytes then
      audioFrames - queue.count else input.length / layout.frameBytes) = frames
    have least : frames = min (audioFrames - queue.count) (input.length / layout.frameBytes) := by
      rw [← framesEq]
      split <;> omega
    have accepted : pcm.fifo.accepted (layout.frames input) =
        (List.range frames).map (layout.frameAt input) := by
      rw [BoundedFifo.accepted, frames_eq, ← List.map_take, List.take_range, least, held]
    refine ⟨{ queue with
      samples := (List.range frames).foldl (queue.copyIn input) queue.samples
      count := queue.count + frames }, ?_, ?_, ?_⟩
    · rw [accepted, List.length_map, List.length_range, channels]
      simp only [Layout.frameBytes, Nat.cast_mul, mul_assoc]
      rfl
    · exact
        { readFrame := refines.readFrame
          layout := refines.layout
          channels := refines.channels
          contents := by
            have fits : queue.count + frames ≤ audioFrames := by omega
            have filled := Circular.contents_fill (cells queue.samples) queue.readFrame
              queue.count (layout.frameAt input) frames fits
            simp only [AudioQueue.contents, BoundedFifo.offer]
            rw [queue.cells_foldl input channels, filled, accepted]
            congr 1
            exact refines.contents
          closed := fun closed => by simp [refused.1] at closed
          underruns := refines.underruns }
    · intro negative
      have positive : (0 : Int) ≤ (pcm.fifo.accepted (layout.frames input)).length *
        layout.frameBytes := by positivity
      omega
  · have someRest : input.length % layout.frameBytes ≠ 0 := by
      intro noRest
      exact aligned (Nat.dvd_of_mod_eq_zero noRest)
    rw [if_pos someRest, if_neg aligned]
    exact ⟨queue, rfl, refines, fun _ => rfl⟩

theorem flatMap_frameOutput_length (frames : List Frame) :
    (frames.flatMap frameOutput).length = frames.length * 4 := by
  induction frames with
  | nil => rfl
  | cons frame rest inductionHypothesis =>
      rw [List.flatMap_cons, List.length_append, inductionHypothesis, List.length_cons]
      simp only [frameOutput, List.length_cons, List.length_nil]
      omega

theorem render (refines : Refines queue pcm) (bytes : Nat) :
    (queue.render bytes).1 = (pcm.render bytes).1 ∧
      Refines (queue.render bytes).2 (pcm.render bytes).2 := by
  unfold AudioQueue.render Pcm.render
  by_cases opened : queue.opened = true
  · obtain ⟨layout, known, _, _⟩ := refines.opened opened
    have held := refines.count
    rw [if_neg (by simp [opened])]
    generalize framesEq : (if queue.count < bytes / 4 then queue.count else bytes / 4) = frames
    have least : frames = min (bytes / 4) queue.count := by
      rw [← framesEq]
      split <;> omega
    have sound : (List.range frames).map queue.copyOut = pcm.fifo.front (bytes / 4) := by
      have wanted : frames ≤ queue.count := by omega
      have taken := Circular.contents_take (cells queue.samples) queue.readFrame wanted
      rw [BoundedFifo.front, ← refines.contents, List.take_eq_take_min, AudioQueue.contents,
        Circular.contents_length, ← least, taken]
      rfl
    simp only [framesEq, sound]
    have size : (pcm.fifo.front (bytes / 4)).length = frames := by
      rw [← sound, List.length_map, List.length_range]
    refine ⟨by rw [flatMap_frameOutput_length, size], ?_⟩
    exact
      { readFrame := Nat.mod_lt _ (by decide)
        layout := refines.layout
        channels := refines.channels
        contents := by
          have wanted : frames ≤ queue.count := by omega
          have dropped := Circular.contents_drop (cells queue.samples) queue.readFrame wanted
          have shorter : pcm.fifo.held.drop (bytes / 4) = pcm.fifo.held.drop frames := by
            by_cases enough : bytes / 4 ≤ queue.count
            · rw [least, Nat.min_eq_left enough]
            · rw [List.drop_eq_nil_of_le (by omega), List.drop_eq_nil_of_le (by omega)]
          simp only [AudioQueue.contents, BoundedFifo.dropFront]
          rw [Circular.contents_mod, ← dropped, shorter, ← refines.contents]
          rfl
        closed := fun closed => by simp [opened] at closed
        underruns := by
          simp only [known, Option.isSome_some, true_and, ← held, refines.underruns] }
  · have closed : queue.opened = false := by simpa using opened
    have empty := refines.closed closed
    have layout := refines.layout
    rw [closed] at layout
    have silent : pcm.fifo.front (bytes / 4) = [] := by simp [BoundedFifo.front, empty]
    have layoutNone : pcm.layout = none := layout
    rw [if_pos (by simp [closed]), silent]
    refine ⟨by simp, ?_⟩
    exact
      { readFrame := refines.readFrame
        layout := refines.layout
        channels := refines.channels
        contents := by
          simp only [BoundedFifo.dropFront, empty, List.drop_nil]
          rw [refines.contents, empty]
        closed := fun _ => by simp [BoundedFifo.dropFront, empty]
        underruns := by simp [layoutNone, refines.underruns] }

theorem step (refines : Refines queue pcm) (call : AudioCall) :
    ∃ after, queue.step call = some ((pcm.step call).1, after) ∧
      Refines after (pcm.step call).2 := by
  cases call with
  | openWith channels => exact ⟨_, rfl, .openWith queue channels⟩
  | write input =>
      obtain ⟨after, written, refines, _⟩ := refines.write input
      refine ⟨after, ?_, refines⟩
      simp only [AudioQueue.step, written, Option.map_some]
      rfl
  | render bytes =>
      obtain ⟨output, after⟩ := refines.render bytes
      refine ⟨_, ?_, after⟩
      simp only [AudioQueue.step, output]
      rfl
  | close => exact ⟨_, rfl, refines.close⟩

theorem run (refines : Refines queue pcm) (calls : List AudioCall) :
    ∃ after, queue.run calls = some (pcm.answers calls, after) ∧ Refines after (pcm.after calls) := by
  induction calls generalizing queue pcm with
  | nil => exact ⟨queue, rfl, refines⟩
  | cons call rest inductionHypothesis =>
      obtain ⟨middle, stepped, kept⟩ := refines.step call
      obtain ⟨after, ran, final⟩ := inductionHypothesis kept
      refine ⟨after, ?_, final⟩
      simp only [AudioQueue.run, stepped, ran, Option.bind_eq_bind, Option.bind_some]
      rfl

end Refines

/-! ## Nothing is lost between the two ends -/

/-- The bounded queue with all frames that it accepted and gave away since it
was opened last. -/
structure Recording where
  pcm : Pcm := {}
  accepted : List Frame := []
  rendered : List Frame := []

def Recording.step (recording : Recording) (call : AudioCall) : Recording :=
  let after := (recording.pcm.step call).2
  match call with
  | .openWith _ => { pcm := after }
  | .write input =>
      { recording with pcm := after, accepted := recording.accepted ++ recording.pcm.accepts input }
  | .render bytes =>
      { recording with
        pcm := after, rendered := recording.rendered ++ recording.pcm.fifo.front (bytes / 4) }
  | .close => { recording with pcm := after }

/-- What was given away and what is held were accepted in this order; only a
closed queue has dropped some of it. -/
structure Recording.Conserved (recording : Recording) : Prop where
  delivered : recording.rendered ++ recording.pcm.fifo.held <+: recording.accepted
  complete : recording.pcm.layout ≠ none →
    recording.rendered ++ recording.pcm.fifo.held = recording.accepted

theorem Recording.Conserved.step {recording : Recording} (conserved : recording.Conserved)
    (call : AudioCall) : (recording.step call).Conserved := by
  obtain ⟨delivered, complete⟩ := conserved
  cases call with
  | openWith channels => exact ⟨List.prefix_rfl, fun _ => rfl⟩
  | write input =>
      obtain ⟨layout, held, refused⟩ := recording.pcm.write_spec input
      by_cases closed : recording.pcm.layout = none
      · rw [refused closed, List.append_nil] at held
        constructor
        · simp only [Recording.step, Pcm.step, held, refused closed, List.append_nil]
          exact delivered
        · intro opened
          exact absurd (layout.trans closed) opened
      · have whole : recording.rendered ++ (recording.pcm.write input).2.fifo.held =
            recording.accepted ++ recording.pcm.accepts input := by
          rw [held, ← List.append_assoc, complete closed]
        constructor
        · simp only [Recording.step, Pcm.step, whole]
          exact List.prefix_rfl
        · intro _
          exact whole
  | render bytes =>
      have split := recording.pcm.fifo.front_append_dropFront (bytes / 4)
      have same : recording.rendered ++ recording.pcm.fifo.front (bytes / 4) ++
          (recording.pcm.fifo.dropFront (bytes / 4)).held =
            recording.rendered ++ recording.pcm.fifo.held := by
        rw [List.append_assoc, split]
      constructor
      · simp only [Recording.step, Pcm.step, Pcm.render, same]
        exact delivered
      · intro opened
        exact same.trans (complete opened)
  | close =>
      constructor
      · simp only [Recording.step, Pcm.step, BoundedFifo.empty, List.append_nil]
        exact (List.prefix_append _ _).trans delivered
      · intro opened
        exact absurd rfl opened

/-- The bounded queue behind the calls, with its frames. -/
def recording (calls : List AudioCall) : Recording := Machine.run Recording.step {} calls

theorem recording_pcm (calls : List AudioCall) (recording : Recording) :
    (Machine.run Recording.step recording calls).pcm = recording.pcm.after calls := by
  induction calls generalizing recording with
  | nil => rfl
  | cons call rest inductionHypothesis =>
      rw [Machine.run_cons, inductionHypothesis]
      cases call <;> rfl

theorem recording_conserved (calls : List AudioCall) : (recording calls).Conserved := by
  apply Machine.run_invariant (fun _ call conserved => conserved.step call)
  exact ⟨List.prefix_rfl, fun _ => rfl⟩

/-- The queue is a bounded queue of frames.  Whatever is called, no call divides
by zero, the answers are those of the bounded queue, the ring holds its frames
within bounds, and what was rendered since the queue was opened last is a prefix
of what was accepted since then. -/
theorem queue_is_bounded_fifo (calls : List AudioCall) :
    ∃ queue, AudioQueue.init.run calls = some (Pcm.answers {} calls, queue) ∧
      queue.count ≤ audioFrames ∧ queue.readFrame < audioFrames ∧
      queue.contents = (recording calls).pcm.fifo.held ∧
      queue.opened = (recording calls).pcm.layout.isSome ∧
      queue.underruns = (recording calls).pcm.underruns ∧
      (∀ input, ((recording calls).pcm.write input).1 = -1 →
        queue.write input = some (-1, queue)) ∧
      (recording calls).rendered <+: (recording calls).accepted := by
  obtain ⟨queue, ran, refines⟩ := Refines.init.run calls
  have pcm : (recording calls).pcm = ({} : Pcm).after calls := recording_pcm calls {}
  rw [← pcm] at refines
  refine ⟨queue, ran, ?_, refines.readFrame, refines.contents, ?_, refines.underruns, ?_, ?_⟩
  · rw [refines.count]
    exact (recording calls).pcm.fifo.bounded
  · cases opened : queue.opened with
    | false => rw [refines.layout, opened]; rfl
    | true =>
        obtain ⟨layout, known, _⟩ := refines.opened opened
        rw [known]
        rfl
  · intro input refused
    obtain ⟨after, written, _, same⟩ := refines.write input
    rw [written, refused, same refused]
  · exact (List.prefix_append _ _).trans (recording_conserved calls).delivered

end AirTizen.Audio
