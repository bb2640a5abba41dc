import AirTizen.Library.Pool
import AirTizen.Page.MseVideo
import AirTizen.Video.Published

/-!
# The MSE player keeps one chain of callbacks

At most one pending callback is ever live.  It says how far the current buffer
has come, so whatever is appended next is what follows in its generation.
-/

namespace AirTizen.Page.Mse

open CText Binary64 Video

/-! ## What a buffer may hold -/

/-- The initialization segment of a generation and its fragments from a key
fragment on, as far as they go. -/
structure Unspliced (calls : List Call) (generation start : Nat) (data : List Bytes) :
    Prop where
  offered : Offered calls generation start
  init : ∀ first ∈ data.head?, Published calls generation true 0 first
  fragments : ∀ index fragment, data[index + 1]? = some fragment →
    Published calls generation false (start + index) fragment

namespace Unspliced

variable {calls more : List Call} {generation start : Nat} {data : List Bytes}

theorem nothing (offered : Offered calls generation start) :
    Unspliced calls generation start [] where
  offered := offered
  init := by simp
  fragments := by simp

theorem mono (unspliced : Unspliced calls generation start data) (before : calls <+: more) :
    Unspliced more generation start data where
  offered := unspliced.offered.mono before
  init first member := (unspliced.init first member).mono before
  fragments index fragment found := (unspliced.fragments index fragment found).mono before

theorem first {bytes : Bytes} (offered : Offered calls generation start)
    (published : Published calls generation true 0 bytes) :
    Unspliced calls generation start [bytes] where
  offered := offered
  init first member := by
    cases member
    exact published
  fragments := by simp

theorem append {bytes : Bytes} {next : Nat} (unspliced : Unspliced calls generation start data)
    (nonempty : data ≠ []) (follows : next + 1 = start + data.length)
    (published : Published calls generation false next bytes) :
    Unspliced calls generation start (data ++ [bytes]) where
  offered := unspliced.offered
  init first member := by
    rw [List.head?_append_of_ne_nil _ nonempty] at member
    exact unspliced.init first member
  fragments index fragment found := by
    rcases lt_trichotomy (index + 1) data.length with inside | last | outside
    · rw [List.getElem?_append_left inside] at found
      exact unspliced.fragments index fragment found
    · rw [last, List.getElem?_concat_length] at found
      cases found
      have number : start + index = next := by omega
      rw [number]
      exact published
    · have short : (data ++ [bytes]).length ≤ index + 1 := by
        rw [List.length_append, List.length_singleton]
        exact outside
      rw [List.getElem?_eq_none short] at found
      cases found

theorem next_le {next : Nat} (unspliced : Unspliced calls generation start data)
    (short : Short calls) (nonempty : data ≠ []) (follows : next + 1 = start + data.length) :
    next ≤ 2 ^ 53 := by
  have starts := unspliced.offered.start_lt short
  have positive := List.length_pos_of_ne_nil nonempty
  by_cases single : data.length = 1
  · omega
  · have inside : data.length - 2 + 1 < data.length := by omega
    have published := unspliced.fragments _ _ (List.getElem?_eq_getElem inside)
    have number := published.number_lt short
    omega

end Unspliced

/-! ## Answers -/

def Answered (calls : List Call) : Fetch → Reply → Prop
  | .status, .status state =>
      state.available = true → Offered calls state.generation state.start
  | .init, .media (some data) generation => Published calls generation true 0 data
  | .segment number, .media (some data) generation =>
      Published calls generation false number data
  | _, _ => True

theorem Answered.mono {calls more : List Call} {fetch : Fetch} {reply : Reply}
    (answered : Answered calls fetch reply) (before : calls <+: more) :
    Answered more fetch reply := by
  cases fetch with
  | status =>
      cases reply with
      | status state => exact fun available => (answered available).mono before
      | media data generation => trivial
      | missing => trivial
  | init =>
      cases reply with
      | media data generation =>
          cases data with
          | none => trivial
          | some data => exact Published.mono answered before
      | status state => trivial
      | missing => trivial
  | segment number =>
      cases reply with
      | media data generation =>
          cases data with
          | none => trivial
          | some data => exact Published.mono answered before
      | status state => trivial
      | missing => trivial

theorem parseMediaSequence_segment (number : Nat) :
    Control.parseMediaSequence (Fetch.segment number).path =
      if number < 2 ^ 64 then some number else none := by
  have digits : (Fetch.segment number).path.drop 15 = decimal number :=
    List.drop_left' (by rfl)
  have starts : (ascii "/video/segment/").isPrefixOf (Fetch.segment number).path = true :=
    List.isPrefixOf_iff_prefix.mpr (List.prefix_append _ _)
  have numeric : (decimal number).all isDigit = true :=
    List.all_eq_true.mpr fun byte member => isDigit_of_mem_decimal member
  unfold Control.parseMediaSequence
  rw [if_pos starts]
  simp only [digits, decimalValue_decimal, numeric, decimal_ne_nil, ne_eq, not_false_eq_true,
    true_and]

theorem respond_status (store : Store) (allocated : Bool) :
    respond store allocated Fetch.status.path = .status (snapshot store) := rfl

theorem respond_init (store : Store) (allocated : Bool) :
    respond store allocated Fetch.init.path =
      .media (copy allocated true 0 store).1 (copy allocated true 0 store).2 := rfl

theorem respond_segment (store : Store) (allocated : Bool) (number : Nat) :
    respond store allocated (Fetch.segment number).path =
      if number < 2 ^ 64 then
        .media (copy allocated false number store).1 (copy allocated false number store).2
      else .missing := by
  have notInit : ((Fetch.segment number).path == ascii "/video/init") = false := by
    refine beq_eq_false_iff_ne.mpr fun same => ?_
    have letter : (some 115 : Option UInt8) = some 105 := congrArg (fun path => path[7]?) same
    exact absurd letter (by decide)
  have notStatus : ((Fetch.segment number).path == ascii "/status") = false := by
    refine beq_eq_false_iff_ne.mpr fun same => ?_
    have letter : (some 118 : Option UInt8) = some 115 := congrArg (fun path => path[1]?) same
    exact absurd letter (by decide)
  unfold respond
  simp only [parseMediaSequence_segment, notInit, notStatus, Bool.false_or]
  split
  · rfl
  · rfl

theorem answered_respond {calls : List Call} (unwrapped : restarts calls < 2 ^ 32)
    (allocated : Bool) (fetch : Fetch) :
    Answered calls fetch (respond (Video.after calls) allocated fetch.path) := by
  cases fetch with
  | status =>
      rw [respond_status]
      exact Offered.of_snapshot unwrapped
  | init =>
      rw [respond_init]
      cases found : (copy allocated true 0 (Video.after calls)).1 with
      | none => trivial
      | some data => exact Published.of_copy unwrapped found
  | segment number =>
      rw [respond_segment]
      split
      · cases found : (copy allocated false number (Video.after calls)).1 with
        | none => trivial
        | some data => exact Published.of_copy unwrapped found
      · trivial

/-! ## The invariant -/

/-- How far the player is with the current generation. -/
inductive Phase where
  | idle
  | opening
  | opened
  | playing

/-- Made before now: only the timer behind `timer` is pending, and no token is
from the future. -/
def Callback.Made (player : Player) : Callback → Prop
  | .timer id => player.timer = some id
  | .request token _ _ | .sourceopen token | .updateend token _ => token ≤ player.epoch

def Callback.reply? : Callback → Option Reply
  | .request _ _ reply => reply
  | .timer _ | .sourceopen _ | .updateend _ _ => none

structure Attached (calls : List Call) (player : Player) (buffers : List SourceBuffer)
    (generation start id : Nat) (buffer : SourceBuffer) : Prop where
  running : player.stopped = false
  sameGeneration : player.generation = generation
  source : player.source = some id
  current : buffers[id]? = some buffer
  token : buffer.token = player.epoch
  unspliced : Unspliced calls generation start buffer.data

def InPhase (calls : List Call) (player : Player) (buffers : List SourceBuffer) : Phase → Prop
  | .idle => player.generation = -1 ∧ player.source = none
  | .opening => player.stopped = false ∧ player.source = none ∧
      ∃ generation : Nat, player.generation = generation ∧
        Offered calls generation player.next
  | .opened => ∃ generation id buffer,
      Attached calls player buffers generation player.next id buffer ∧ buffer.data = []
  | .playing => ∃ generation start id buffer,
      Attached calls player buffers generation start id buffer ∧ buffer.data ≠ [] ∧
        player.next + 1 = start + buffer.data.length

def Phase.polls : Phase → Prop
  | .idle | .playing => True
  | .opening | .opened => False

def Callback.Fits (player : Player) (phase : Phase) : Callback → Prop
  | .timer _ | .request _ .status _ | .updateend _ _ => phase.polls
  | .sourceopen _ => phase = .opening
  | .request _ .init _ => phase = .opened
  | .request _ (.segment number) _ => phase = .playing ∧ number = player.next

structure Kept (calls : List Call) (page : Tab) : Prop where
  store : page.store = Video.after calls
  unwrapped : restarts calls < 2 ^ 32
  short : Short calls
  made : ∀ callback ∈ page.pending, callback.Made page.player
  replies : ∀ token fetch reply, .request token fetch (some reply) ∈ page.pending →
    Answered calls fetch reply
  buffers : ∀ buffer ∈ page.buffers, ∃ generation start,
    Unspliced calls generation start buffer.data

structure Quiet (calls : List Call) (page : Tab) (phase : Phase) : Prop extends
    Kept calls page where
  inPhase : InPhase calls page.player page.buffers phase
  silent : Pool.Holds (Callback.live page.player.epoch) page.pending none

/-- At most one pending callback is live, and it fits the phase. -/
structure Chained (calls : List Call) (page : Tab) (phase : Phase) (chain : Option Callback) :
    Prop extends Kept calls page where
  inPhase : InPhase calls page.player page.buffers phase
  holds : Pool.Holds (Callback.live page.player.epoch) page.pending chain
  fits : ∀ callback ∈ chain, callback.Fits page.player phase
  stopped : page.player.stopped = true → phase = .idle ∧ chain = none

def Sound (calls : List Call) (page : Tab) : Prop :=
  ∃ phase chain, Chained calls page phase chain

/-- The phase depends on a few variables only. -/
theorem InPhase.congr {calls : List Call} {player other : Player}
    {buffers : List SourceBuffer} {phase : Phase} (inPhase : InPhase calls player buffers phase)
    (stopped : other.stopped = player.stopped)
    (sameGeneration : other.generation = player.generation)
    (source : other.source = player.source) (next : other.next = player.next)
    (epoch : other.epoch = player.epoch) : InPhase calls other buffers phase := by
  have attached {generation start id buffer}
      (attached : Attached calls player buffers generation start id buffer) :
      Attached calls other buffers generation start id buffer :=
    { attached with
      running := stopped.trans attached.running
      sameGeneration := sameGeneration.trans attached.sameGeneration
      source := source.trans attached.source
      token := attached.token.trans epoch.symm }
  cases phase with
  | idle => exact ⟨sameGeneration.trans inPhase.1, source.trans inPhase.2⟩
  | opening =>
      obtain ⟨running, sourceless, number, same, offered⟩ := inPhase
      refine ⟨stopped.trans running, source.trans sourceless, number,
        sameGeneration.trans same, ?_⟩
      rw [next]
      exact offered
  | opened =>
      obtain ⟨number, id, buffer, current, empty⟩ := inPhase
      refine ⟨number, id, buffer, ?_, empty⟩
      rw [next]
      exact attached current
  | playing =>
      obtain ⟨number, start, id, buffer, current, nonempty, follows⟩ := inPhase
      refine ⟨number, start, id, buffer, attached current, nonempty, ?_⟩
      rw [next]
      exact follows

theorem InPhase.mono {calls more : List Call} {player : Player} {buffers : List SourceBuffer}
    {phase : Phase} (inPhase : InPhase calls player buffers phase) (before : calls <+: more) :
    InPhase more player buffers phase := by
  cases phase with
  | idle => exact inPhase
  | opening =>
      obtain ⟨running, sourceless, generation, same, offered⟩ := inPhase
      exact ⟨running, sourceless, generation, same, offered.mono before⟩
  | opened =>
      obtain ⟨generation, id, buffer, attached, empty⟩ := inPhase
      exact ⟨generation, id, buffer,
        { attached with unspliced := attached.unspliced.mono before }, empty⟩
  | playing =>
      obtain ⟨generation, start, id, buffer, attached, rest⟩ := inPhase
      exact ⟨generation, start, id, buffer,
        { attached with unspliced := attached.unspliced.mono before }, rest⟩

structure Unseen (change : SourceBuffer → SourceBuffer) : Prop where
  token : ∀ buffer, (change buffer).token = buffer.token
  data : ∀ buffer, (change buffer).data = buffer.data

theorem unseen_updating (updating : Bool) :
    Unseen fun buffer => { buffer with updating := updating } :=
  ⟨fun _ => rfl, fun _ => rfl⟩

theorem Attached.received {calls : List Call} {player : Player} {buffers : List SourceBuffer}
    {generation start id receivedGeneration : Nat} {buffer : SourceBuffer}
    (attached : Attached calls player buffers generation start id buffer)
    (small : receivedGeneration < 2 ^ 32)
    (same : ¬ (whole receivedGeneration : Int) ≠ player.generation) :
    receivedGeneration = generation := by
  have exact : whole receivedGeneration = receivedGeneration :=
    whole_eq (small.le.trans (by norm_num))
  rw [not_not, exact, attached.sameGeneration] at same
  exact_mod_cast same

theorem Attached.modify {calls : List Call} {player : Player} {buffers : List SourceBuffer}
    {generation start id : Nat} {buffer : SourceBuffer}
    (attached : Attached calls player buffers generation start id buffer)
    {change : SourceBuffer → SourceBuffer} (unseen : Unseen change) (index : Nat) :
    ∃ same, Attached calls player (buffers.modify index change) generation start id same ∧
      same.data = buffer.data := by
  have data : (if index = id then change buffer else buffer).data = buffer.data := by
    split
    · exact unseen.data buffer
    · rfl
  refine ⟨_, { attached with current := ?_, token := ?_, unspliced := ?_ }, data⟩
  · rw [List.getElem?_modify, attached.current]
    rfl
  · split
    · exact (unseen.token buffer).trans attached.token
    · exact attached.token
  · rw [data]
    exact attached.unspliced

theorem InPhase.modify {calls : List Call} {player : Player} {buffers : List SourceBuffer}
    {phase : Phase} (inPhase : InPhase calls player buffers phase)
    {change : SourceBuffer → SourceBuffer} (unseen : Unseen change) (index : Nat) :
    InPhase calls player (buffers.modify index change) phase := by
  cases phase with
  | idle => exact inPhase
  | opening => exact inPhase
  | opened =>
      obtain ⟨generation, id, buffer, attached, empty⟩ := inPhase
      obtain ⟨same, current, data⟩ := attached.modify unseen index
      exact ⟨generation, id, same, current, data.trans empty⟩
  | playing =>
      obtain ⟨generation, start, id, buffer, attached, nonempty, follows⟩ := inPhase
      obtain ⟨same, current, data⟩ := attached.modify unseen index
      refine ⟨generation, start, id, same, current, ?_, ?_⟩
      · rw [data]
        exact nonempty
      · rw [data]
        exact follows

/-! ## Timers -/

namespace Kept

variable {calls : List Call} {page : Tab}

theorem sublist (kept : Kept calls page) {pending : List Callback}
    (fewer : pending.Sublist page.pending) : Kept calls { page with pending } where
  store := kept.store
  unwrapped := kept.unwrapped
  short := kept.short
  made callback member := kept.made callback (fewer.subset member)
  replies token fetch reply member := kept.replies token fetch reply (fewer.subset member)
  buffers := kept.buffers

theorem clearTimer_eq (kept : Kept calls page) :
    ∃ pending, page.clearTimer = { page with pending } ∧ pending.Sublist page.pending ∧
      ∀ id, .timer id ∉ pending := by
  unfold Tab.clearTimer
  cases timer : page.player.timer with
  | none =>
      refine ⟨page.pending, rfl, List.Sublist.refl _, fun id member => ?_⟩
      have made : page.player.timer = some id := kept.made _ member
      rw [timer] at made
      cases made
  | some current =>
      refine ⟨_, rfl, List.filter_sublist, fun id member => ?_⟩
      obtain ⟨pending, different⟩ := List.mem_filter.mp member
      have made : page.player.timer = some id := kept.made _ pending
      rw [timer] at made
      cases made
      simp at different

theorem dispose (kept : Kept calls page) :
    Quiet calls page.dispose .idle ∧ page.dispose.player.stopped = page.player.stopped := by
  obtain ⟨pending, cleared, fewer, timers⟩ := kept.clearTimer_eq
  have made := (kept.sublist fewer).made
  unfold Tab.dispose
  simp only [cleared]
  refine ⟨{ kept.sublist fewer with made := ?_, inPhase := ⟨rfl, rfl⟩, silent := ?_ }, trivial⟩
  · intro callback member
    cases callback with
    | timer id => exact made _ member
    | request token fetch reply => exact Nat.le_succ_of_le (made _ member)
    | sourceopen token => exact Nat.le_succ_of_le (made _ member)
    | updateend token buffer => exact Nat.le_succ_of_le (made _ member)
  · refine Pool.holds_none_iff.mpr fun callback member => ?_
    cases callback with
    | timer id => exact absurd member (timers id)
    | request token fetch reply =>
        exact beq_eq_false_iff_ne.mpr (Nat.ne_of_lt (Nat.lt_succ_of_le (made _ member)))
    | sourceopen token =>
        exact beq_eq_false_iff_ne.mpr (Nat.ne_of_lt (Nat.lt_succ_of_le (made _ member)))
    | updateend token buffer =>
        exact beq_eq_false_iff_ne.mpr (Nat.ne_of_lt (Nat.lt_succ_of_le (made _ member)))

end Kept

namespace Quiet

variable {calls : List Call} {page : Tab} {phase : Phase}

theorem sound (quiet : Quiet calls page phase)
    (idle : page.player.stopped = true → phase = .idle) : Sound calls page :=
  ⟨phase, none, { quiet.toKept with
    inPhase := quiet.inPhase
    holds := quiet.silent
    fits := nofun
    stopped := fun stopped => ⟨idle stopped, rfl⟩ }⟩

/-- A callback that is made while none is live becomes the only live one. -/
theorem push (quiet : Quiet calls page phase) {callback : Callback}
    (isLive : callback.live page.player.epoch = true) (made : callback.Made page.player)
    (unanswered : callback.reply? = none)
    (fits : callback.Fits page.player phase) (running : page.player.stopped = false) :
    Sound calls { page with pending := page.pending ++ [callback] } := by
  refine ⟨phase, some callback, { quiet.toKept with
    made := ?_, replies := ?_, inPhase := quiet.inPhase
    holds := quiet.silent.push isLive, fits := ?_, stopped := ?_ }⟩
  · intro other member
    rcases List.mem_append.mp member with older | newest
    · exact quiet.made other older
    · rw [List.mem_singleton.mp newest]
      exact made
  · intro token fetch reply member
    rcases List.mem_append.mp member with older | newest
    · exact quiet.replies token fetch reply older
    · rw [← List.mem_singleton.mp newest] at unanswered
      cases unanswered
  · intro other named
    cases named
    exact fits
  · intro stopped
    rw [running] at stopped
    cases stopped

theorem schedule (quiet : Quiet calls page phase) (polls : phase.polls)
    (idle : page.player.stopped = true → phase = .idle) : Sound calls page.schedule := by
  obtain ⟨pending, cleared, fewer, timers⟩ := quiet.clearTimer_eq
  have kept := quiet.toKept.sublist fewer
  have silent := quiet.silent.sublist fewer
  unfold Tab.schedule
  simp only [cleared]
  split
  · exact Quiet.sound { kept with inPhase := quiet.inPhase, silent := silent } idle
  next running =>
    refine ⟨phase, some (.timer page.timers), { kept with
      made := ?_, replies := ?_, inPhase := quiet.inPhase.congr rfl rfl rfl rfl rfl
      holds := silent.push rfl, fits := ?_, stopped := ?_ }⟩
    · intro callback member
      rcases List.mem_append.mp member with older | newest
      · cases callback with
        | timer id => exact absurd older (timers id)
        | request token fetch reply => exact kept.made _ older
        | sourceopen token => exact kept.made _ older
        | updateend token buffer => exact kept.made _ older
      · rw [List.mem_singleton.mp newest]
        rfl
    · intro token fetch reply member
      rcases List.mem_append.mp member with older | newest
      · exact kept.replies token fetch reply older
      · cases List.mem_singleton.mp newest
    · intro callback named
      cases named
      exact polls
    · exact fun stopped => absurd stopped running

end Quiet

namespace Kept

variable {calls : List Call} {page : Tab}

theorem failed (kept : Kept calls page) : Sound calls page.failed :=
  kept.dispose.1.schedule trivial fun _ => rfl

theorem withBuffers (kept : Kept calls page) {buffers : List SourceBuffer}
    (unspliced : ∀ buffer ∈ buffers, ∃ generation start,
      Unspliced calls generation start buffer.data) : Kept calls { page with buffers } where
  store := kept.store
  unwrapped := kept.unwrapped
  short := kept.short
  made := kept.made
  replies := kept.replies
  buffers := unspliced

theorem modify (kept : Kept calls page) {change : SourceBuffer → SourceBuffer}
    (unseen : Unseen change) (index : Nat) :
    Kept calls { page with buffers := page.buffers.modify index change } := by
  refine kept.withBuffers fun buffer member => ?_
  obtain ⟨place, found⟩ := List.mem_iff_getElem?.mp member
  rw [List.getElem?_modify] at found
  obtain ⟨older, there, rfl⟩ := Option.map_eq_some_iff.mp found
  obtain ⟨generation, start, unspliced⟩ := kept.buffers older (List.mem_of_getElem? there)
  refine ⟨generation, start, ?_⟩
  split
  · rw [unseen.data older]
    exact unspliced
  · exact unspliced

/-- What follows is appended to the current buffer. -/
theorem append (kept : Kept calls page)
    (silent : Pool.Holds (Callback.live page.player.epoch) page.pending none)
    {generation start id : Nat} {buffer : SourceBuffer}
    (attached : Attached calls page.player page.buffers generation start id buffer)
    {data : Bytes} (unspliced : Unspliced calls generation start (buffer.data ++ [data]))
    (follows : page.player.next = start + buffer.data.length) (browser : Browser) :
    Sound calls (page.append browser data) := by
  unfold Tab.append
  simp only [attached.source, attached.current]
  split
  · exact kept.failed
  · let longer : SourceBuffer :=
      { buffer with data := buffer.data ++ [data], updating := true }
    have inside := (List.getElem?_eq_some_iff.mp attached.current).1
    have member : ∀ other ∈ page.buffers.set id longer, ∃ generation start,
        Unspliced calls generation start other.data := by
      intro other member
      rcases List.mem_or_eq_of_mem_set member with older | rfl
      · exact kept.buffers other older
      · exact ⟨generation, start, unspliced⟩
    have quiet : Quiet calls { page with buffers := page.buffers.set id longer } .playing :=
      { kept.withBuffers member with
        silent := silent
        inPhase := ⟨generation, start, id, longer,
          { attached with
            current := List.getElem?_set_self inside
            token := attached.token
            unspliced := unspliced },
          List.append_ne_nil_of_right_ne_nil _ (List.cons_ne_nil _ _), by
            simp only [longer, List.length_append, List.length_singleton]
            omega⟩ }
    refine quiet.push ?_ ?_ ?_ trivial attached.running
    · exact beq_iff_eq.mpr attached.token
    · exact attached.token.le
    · rfl

/-- A new generation begins with a new media source. -/
theorem begin (kept : Kept calls page) (running : page.player.stopped = false)
    {state : Video.State} (offered : Offered calls state.generation state.start)
    (browser : Browser) : Sound calls (page.begin browser state) := by
  obtain ⟨quiet, stopped⟩ := kept.dispose
  have generation : whole state.generation = state.generation :=
    whole_eq ((offered.generation_lt kept.unwrapped).le.trans (by norm_num))
  have start : whole state.start = state.start :=
    whole_eq (offered.start_lt kept.short).le
  unfold Tab.begin
  simp only
  split
  · exact quiet.failed
  · have opening : Quiet calls { page.dispose with player := { page.dispose.player with
          generation := whole state.generation
          next := whole state.start
          latest := whole state.latest } } .opening :=
      { quiet with
        inPhase := ⟨stopped.trans running, quiet.inPhase.2, state.generation,
          by rw [generation], by
            rw [start]
            exact offered⟩ }
    refine opening.push ?_ ?_ ?_ rfl (stopped.trans running)
    · exact beq_self_eq_true _
    · exact Nat.le_refl _
    · rfl

end Kept

/-! ## What a live callback does -/

namespace Quiet

variable {calls : List Call} {page : Tab} {phase : Phase}

theorem withPlayer (quiet : Quiet calls page phase) {player : Player}
    (timer : player.timer = page.player.timer) (stopped : player.stopped = page.player.stopped)
    (generation : player.generation = page.player.generation)
    (source : player.source = page.player.source) (next : player.next = page.player.next)
    (epoch : player.epoch = page.player.epoch) : Quiet calls { page with player } phase where
  store := quiet.store
  unwrapped := quiet.unwrapped
  short := quiet.short
  made callback member := by
    have made := quiet.made callback member
    cases callback with
    | timer id => exact timer.trans made
    | request token fetch reply => exact made.trans epoch.ge
    | sourceopen token => exact made.trans epoch.ge
    | updateend token buffer => exact made.trans epoch.ge
  replies := quiet.replies
  buffers := quiet.buffers
  inPhase := quiet.inPhase.congr stopped generation source next epoch
  silent := by
    simp only [epoch]
    exact quiet.silent

theorem reschedule (quiet : Quiet calls page phase) (polls : phase.polls)
    (running : page.player.stopped = false) : Sound calls page.schedule :=
  quiet.schedule polls fun stopped => by
    rw [running] at stopped
    cases stopped

theorem forget (quiet : Quiet calls page phase) (polls : phase.polls)
    (running : page.player.stopped = false) (condition : Prop) [Decidable condition] :
    Sound calls (if condition then page.dispose else page).schedule := by
  split
  · exact quiet.toKept.failed
  · exact quiet.reschedule polls running

theorem poll (quiet : Quiet calls page phase) (polls : phase.polls)
    (running : page.player.stopped = false) : Sound calls page.poll := by
  refine quiet.push ?_ ?_ ?_ polls running
  · exact beq_self_eq_true _
  · exact Nat.le_refl _
  · rfl

theorem onStatus (quiet : Quiet calls page phase) (polls : phase.polls)
    (running : page.player.stopped = false) {video : Option Video.State}
    (answered : ∀ state ∈ video, state.available = true →
      Offered calls state.generation state.start) (browser : Browser) :
    Sound calls (page.onStatus browser page.player.epoch video) := by
  unfold Tab.onStatus
  simp only
  split
  · exact quiet.forget polls running _
  · cases video with
    | none => exact quiet.forget polls running _
    | some state =>
        simp only
        split
        · exact quiet.forget polls running _
        next available =>
          have offered := answered state rfl (by simpa using available)
          split
          · exact quiet.toKept.begin running offered browser
          next same =>
            have known : Quiet calls { page with player := { page.player with
                latest := whole state.latest } } phase :=
              quiet.withPlayer rfl rfl rfl rfl rfl rfl
            split
            · exact known.reschedule polls running
            next opened =>
              split
              · exact known.reschedule polls running
              · cases phase with
                | idle =>
                    have none := quiet.inPhase.1
                    rw [not_not] at same
                    omega
                | opening => exact polls.elim
                | opened => exact polls.elim
                | playing =>
                    obtain ⟨generation, start, id, buffer, attached, nonempty, follows⟩ :=
                      quiet.inPhase
                    have next := attached.unspliced.next_le quiet.short nonempty follows
                    rw [numeral_eq next]
                    refine known.push ?_ ?_ ?_ ⟨rfl, rfl⟩ running
                    · exact beq_self_eq_true _
                    · exact Nat.le_refl _
                    · rfl

theorem onInit (quiet : Quiet calls page .opened) {data : Option Bytes}
    {receivedGeneration : Nat} (answered : ∀ bytes ∈ data,
      Published calls receivedGeneration true 0 bytes) (browser : Browser) :
    Sound calls (page.onInit browser data receivedGeneration) := by
  unfold Tab.onInit
  cases data with
  | none => exact quiet.failed
  | some bytes =>
      simp only
      split
      · exact quiet.failed
      next same =>
        obtain ⟨generation, id, buffer, attached, empty⟩ := quiet.inPhase
        have published := answered bytes rfl
        rw [attached.received (published.generation_lt quiet.unwrapped) same] at published
        refine quiet.append quiet.silent attached ?_ ?_ browser
        · rw [empty]
          exact .first attached.unspliced.offered published
        · rw [empty]
          rfl

theorem onSegment (quiet : Quiet calls page .playing) {data : Option Bytes}
    {receivedGeneration : Nat} (answered : ∀ bytes ∈ data,
      Published calls receivedGeneration false page.player.next bytes) (browser : Browser) :
    Sound calls (page.onSegment browser data receivedGeneration) := by
  unfold Tab.onSegment
  cases data with
  | none => exact quiet.failed
  | some bytes =>
      simp only
      split
      · exact quiet.failed
      next same =>
        obtain ⟨generation, start, id, buffer, attached, nonempty, follows⟩ := quiet.inPhase
        have published := answered bytes rfl
        rw [attached.received (published.generation_lt quiet.unwrapped) same] at published
        have next : whole (page.player.next + 1) = page.player.next + 1 :=
          whole_eq (published.number_lt quiet.short)
        have kept : Kept calls { page with player := { page.player with
            next := whole (page.player.next + 1) } } :=
          { quiet.toKept with made := quiet.made }
        refine kept.append quiet.silent { attached with } ?_ ?_ browser
        · exact attached.unspliced.append nonempty follows published
        · rw [← follows]
          exact next

theorem up_to_date {player : Player} (running : player.stopped = false) :
    ¬ (player.stopped = true ∨ player.epoch ≠ player.epoch) := by
  rintro (stopped | older)
  · rw [running] at stopped
    cases stopped
  · exact older rfl

theorem finish (quiet : Quiet calls page phase) (running : page.player.stopped = false)
    {fetch : Fetch} {reply : Option Reply}
    (fits : (Callback.request page.player.epoch fetch reply).Fits page.player phase)
    (answered : ∀ answer ∈ reply, Answered calls fetch answer) (browser : Browser) :
    Sound calls (page.finish browser page.player.epoch fetch reply) := by
  have arrived : ∀ answer ∈ (if browser.lost then none else reply), Answered calls fetch answer := by
    intro answer member
    split at member
    · cases member
    · exact answered answer member
  unfold Tab.finish
  rw [if_neg (up_to_date running)]
  generalize (if browser.lost then none else reply) = received at arrived ⊢
  cases fetch with
  | status =>
      refine quiet.onStatus fits running (fun state member => ?_) browser
      split at member
      next answer =>
        cases member
        exact arrived _ rfl
      next => cases member
  | init =>
      cases fits
      refine quiet.onInit (fun bytes member => ?_) browser
      split at member
      next answer =>
        cases member
        exact arrived _ rfl
      next => cases member
  | segment number =>
      obtain ⟨rfl, rfl⟩ := fits
      refine quiet.onSegment (fun bytes member => ?_) browser
      split at member
      next answer =>
        cases member
        exact arrived _ rfl
      next => cases member

theorem onSourceopen (quiet : Quiet calls page .opening) (browser : Browser) :
    Sound calls (page.onSourceopen browser page.player.epoch) := by
  obtain ⟨running, _, generation, same, offered⟩ := quiet.inPhase
  unfold Tab.onSourceopen
  rw [if_neg (up_to_date running)]
  split
  · exact quiet.failed
  · let fresh : SourceBuffer := { token := page.player.epoch }
    have member : ∀ buffer ∈ page.buffers ++ [fresh], ∃ generation start,
        Unspliced calls generation start buffer.data := by
      intro buffer member
      rcases List.mem_append.mp member with older | newest
      · exact quiet.buffers buffer older
      · rw [List.mem_singleton.mp newest]
        exact ⟨generation, page.player.next, .nothing offered⟩
    have kept := quiet.toKept.withBuffers member
    have opened : Quiet calls { page with
        player := { page.player with source := some page.buffers.length }
        buffers := page.buffers ++ [fresh] } .opened :=
      { kept with
        made := quiet.made
        silent := quiet.silent
        inPhase := ⟨generation, page.buffers.length, fresh,
          { running := running
            sameGeneration := same
            source := rfl
            current := List.getElem?_concat_length
            token := rfl
            unspliced := .nothing offered }, rfl⟩ }
    refine opened.push ?_ ?_ ?_ rfl running
    · exact beq_self_eq_true _
    · exact Nat.le_refl _
    · rfl

theorem modify (quiet : Quiet calls page phase) {change : SourceBuffer → SourceBuffer}
    (unseen : Unseen change) (index : Nat) :
    Quiet calls { page with buffers := page.buffers.modify index change } phase :=
  { quiet.toKept.modify unseen index with
    inPhase := quiet.inPhase.modify unseen index
    silent := quiet.silent }

theorem remove (quiet : Quiet calls page phase) (polls : phase.polls)
    (running : page.player.stopped = false) : Sound calls page.remove := by
  have idle : page.player.stopped = true → phase = .idle := by
    intro stopped
    rw [running] at stopped
    cases stopped
  unfold Tab.remove
  cases phase with
  | idle =>
      simp only [quiet.inPhase.2]
      exact quiet.sound idle
  | opening => exact polls.elim
  | opened => exact polls.elim
  | playing =>
      obtain ⟨generation, start, id, buffer, attached, _⟩ := quiet.inPhase
      simp only [attached.source, attached.current, Option.map_some, Option.toList_some]
      refine (quiet.modify (unseen_updating true) id).push ?_ ?_ ?_ polls running
      · exact beq_iff_eq.mpr attached.token
      · exact attached.token.le
      · rfl

theorem onUpdateend (quiet : Quiet calls page phase) (polls : phase.polls)
    (running : page.player.stopped = false) (browser : Browser) (buffer : Nat) :
    Sound calls (page.onUpdateend browser page.player.epoch buffer) := by
  have settled := quiet.modify (unseen_updating false) buffer
  unfold Tab.onUpdateend
  simp only [ne_eq, not_true_eq_false, if_false]
  split
  · have shown : Quiet calls { page with
        player := { page.player with active := true }
        buffers := page.buffers.modify buffer fun buffer =>
          { buffer with updating := false } } phase :=
      settled.withPlayer rfl rfl rfl rfl rfl rfl
    split
    · exact shown.remove polls running
    · exact shown.reschedule polls running
  · exact settled.reschedule polls running

theorem call (quiet : Quiet calls page phase) (running : page.player.stopped = false)
    {callback : Callback} (isLive : callback.live page.player.epoch = true)
    (fits : callback.Fits page.player phase)
    (answered : ∀ token fetch reply, callback = .request token fetch (some reply) →
      Answered calls fetch reply) (browser : Browser) :
    Sound calls (page.call browser callback) := by
  cases callback with
  | timer id => exact quiet.poll fits running
  | request token fetch reply =>
      cases beq_iff_eq.mp isLive
      refine quiet.finish running fits (fun answer member => ?_) browser
      cases member
      exact answered _ _ _ rfl
  | sourceopen token =>
      cases beq_iff_eq.mp isLive
      cases fits
      exact quiet.onSourceopen browser
  | updateend token buffer =>
      cases beq_iff_eq.mp isLive
      exact quiet.onUpdateend fits running browser buffer

end Quiet

/-! ## Callbacks that are out of date -/

/-- A callback that is not live leaves store, script and callbacks alone; at most
an update ends with it. -/
theorem call_stale {page : Tab} {callback : Callback}
    (stale : callback.live page.player.epoch = false) (browser : Browser) :
    ∃ index, page.call browser callback =
        { page with
          buffers := page.buffers.modify index fun buffer => { buffer with updating := false } } ∨
      page.call browser callback = page := by
  cases callback with
  | timer id => cases stale
  | request token fetch reply =>
      exact ⟨0, .inr (if_pos (.inr (beq_eq_false_iff_ne.mp stale)))⟩
  | sourceopen token =>
      exact ⟨0, .inr (if_pos (.inr (beq_eq_false_iff_ne.mp stale)))⟩
  | updateend token buffer =>
      exact ⟨buffer, .inl (if_pos (beq_eq_false_iff_ne.mp stale))⟩

/-! ## Steps and runs -/

namespace Chained

variable {calls : List Call} {page : Tab} {phase : Phase} {chain : Option Callback}

/-- A callback of the pool runs. -/
theorem callback (chained : Chained calls page phase chain) {index : Nat}
    {callback : Callback} (found : page.pending[index]? = some callback) (browser : Browser) :
    Sound calls ({ page with pending := page.pending.eraseIdx index }.call browser callback) := by
  have kept := chained.toKept.sublist (List.eraseIdx_sublist page.pending index)
  have member := List.mem_of_getElem? found
  by_cases isLive : callback.live page.player.epoch = true
  · have named := chained.holds.eq_some member isLive
    have running : page.player.stopped = false := by
      rw [← Bool.not_eq_true]
      intro stopped
      rw [(chained.stopped stopped).2] at named
      cases named
    have quiet : Quiet calls { page with pending := page.pending.eraseIdx index } phase :=
      { kept with
        inPhase := chained.inPhase
        silent := chained.holds.take_out found isLive }
    refine quiet.call running isLive (chained.fits callback named) ?_ browser
    rintro token fetch reply rfl
    exact chained.replies token fetch reply member
  · have stale := Bool.not_eq_true _ ▸ isLive
    have rest : Chained calls { page with pending := page.pending.eraseIdx index } phase chain :=
      { kept with
        inPhase := chained.inPhase
        holds := chained.holds.take_stale found stale
        fits := chained.fits
        stopped := chained.stopped }
    obtain ⟨updated, settled | same⟩ := @call_stale
      { page with pending := page.pending.eraseIdx index } callback stale browser
    · rw [settled]
      exact ⟨phase, chain, { rest.toKept.modify (unseen_updating false) updated with
        inPhase := rest.inPhase.modify (unseen_updating false) updated
        holds := rest.holds
        fits := rest.fits
        stopped := rest.stopped }⟩
    · rw [same]
      exact ⟨phase, chain, rest⟩

/-- The server answers a request. -/
theorem answer (chained : Chained calls page phase chain) (allocated : Bool) (index : Nat) :
    Sound calls (page.answer allocated index) := by
  unfold Tab.answer
  split
  next token fetch found =>
    let reply := respond page.store allocated fetch.path
    have member := List.mem_of_getElem? found
    have answered : Answered calls fetch reply := by
      have told := answered_respond chained.unwrapped allocated fetch
      rw [← chained.store] at told
      exact told
    have kept : Kept calls { page with
        pending := page.pending.set index (.request token fetch (some reply)) } :=
      { chained.toKept with
        made := by
          intro callback changed
          rcases List.mem_or_eq_of_mem_set changed with older | rfl
          · exact chained.made callback older
          · have asked : (Callback.request token fetch none).Made page.player :=
              chained.made _ member
            exact asked
        replies := by
          intro token fetch reply changed
          rcases List.mem_or_eq_of_mem_set changed with older | same
          · exact chained.replies token fetch reply older
          · cases same
            exact answered }
    by_cases isLive : (Callback.request token fetch none).live page.player.epoch = true
    · have named := chained.holds.eq_some member isLive
      refine ⟨phase, some (.request token fetch (some reply)), { kept with
        inPhase := chained.inPhase
        holds := chained.holds.exchange found isLive isLive
        fits := ?_, stopped := ?_ }⟩
      · intro callback same
        cases same
        have fits := chained.fits _ named
        cases fetch with
        | status => exact fits
        | init => exact fits
        | segment number => exact fits
      · intro stopped
        rw [(chained.stopped stopped).2] at named
        cases named
    · have stale := Bool.not_eq_true _ ▸ isLive
      exact ⟨phase, chain, { kept with
        inPhase := chained.inPhase
        holds := chained.holds.exchange_stale found stale stale
        fits := chained.fits
        stopped := chained.stopped }⟩
  · exact ⟨phase, chain, chained⟩

theorem mono {more : List Call} (chained : Chained calls page phase chain)
    (before : calls <+: more) (unwrapped : restarts more < 2 ^ 32) (short : Short more) :
    Chained more { page with store := Video.after more } phase chain where
  store := rfl
  unwrapped := unwrapped
  short := short
  made := chained.made
  replies token fetch reply member := (chained.replies token fetch reply member).mono before
  buffers buffer member := by
    obtain ⟨generation, start, unspliced⟩ := chained.buffers buffer member
    exact ⟨generation, start, unspliced.mono before⟩
  inPhase := chained.inPhase.mono before
  holds := chained.holds
  fits := chained.fits
  stopped := chained.stopped

end Chained

namespace Sound

variable {calls : List Call} {page : Tab}

theorem kept (sound : Sound calls page) : Kept calls page := by
  obtain ⟨phase, chain, chained⟩ := sound
  exact chained.toKept

theorem start (sound : Sound calls page) : Sound calls page.start := by
  obtain ⟨phase, chain, chained⟩ := sound
  unfold Tab.start
  split
  next stopped =>
    obtain ⟨rfl, rfl⟩ := chained.stopped stopped
    have quiet : Quiet calls { page with player := { page.player with stopped := false } }
        .idle :=
      { chained.toKept with
        made := chained.made
        inPhase := chained.inPhase
        silent := chained.holds }
    refine quiet.schedule trivial fun _ => rfl
  · exact ⟨phase, chain, chained⟩

theorem stop (sound : Sound calls page) : Sound calls page.stop := by
  have kept : Kept calls { page with player := { page.player with stopped := true } } :=
    { sound.kept with made := sound.kept.made }
  exact kept.dispose.1.sound fun _ => rfl

/-- What one event can do. -/
theorem step (sound : Sound calls page) (event : Event)
    (unwrapped : restarts (calls ++ storeCalls [event]) < 2 ^ 32)
    (short : Short (calls ++ storeCalls [event])) :
    Sound (calls ++ storeCalls [event]) (Mse.step page event) := by
  obtain ⟨phase, chain, chained⟩ := sound
  cases event with
  | store call =>
      have next : Video.step page.store call = Video.after (calls ++ [call]) := by
        rw [chained.store]
        exact (Machine.run_append Video.step Store.initial calls [call]).symm
      have later := chained.mono (List.prefix_append calls [call]) unwrapped short
      rw [← next] at later
      exact ⟨phase, chain, later⟩
  | answer allocated index =>
      rw [show storeCalls [.answer allocated index] = [] from rfl, List.append_nil]
      exact chained.answer allocated index
  | callback browser index =>
      rw [show storeCalls [.callback browser index] = [] from rfl, List.append_nil]
      simp only [Mse.step]
      split
      · exact ⟨phase, chain, chained⟩
      next found => exact chained.callback found browser
  | start =>
      rw [show storeCalls [.start] = [] from rfl, List.append_nil]
      exact Sound.start ⟨phase, chain, chained⟩
  | stop =>
      rw [show storeCalls [.stop] = [] from rfl, List.append_nil]
      exact Sound.stop ⟨phase, chain, chained⟩
  | sourceError buffer =>
      rw [show storeCalls [.sourceError buffer] = [] from rfl, List.append_nil]
      simp only [Mse.step]
      split
      · split
        · exact chained.failed
        · exact ⟨phase, chain, chained⟩
      · exact ⟨phase, chain, chained⟩
  | videoError =>
      rw [show storeCalls [.videoError] = [] from rfl, List.append_nil]
      simp only [Mse.step]
      split
      · exact chained.failed
      · exact ⟨phase, chain, chained⟩

end Sound

theorem storeCalls_append (first second : List Event) :
    storeCalls (first ++ second) = storeCalls first ++ storeCalls second :=
  List.filterMap_append

theorem sound_initial : Sound [] {} :=
  ⟨.idle, none,
    { store := rfl
      unwrapped := by decide +kernel
      short := by
        intro early earlier
        rw [List.prefix_nil.mp earlier]
        decide +kernel
      made := by simp
      replies := by simp
      buffers := by simp
      inPhase := ⟨rfl, rfl⟩
      holds := rfl
      fits := by simp
      stopped := fun _ => ⟨rfl, rfl⟩ }⟩

theorem sound_after (events : List Event) (unwrapped : restarts (storeCalls events) < 2 ^ 32)
    (short : Short (storeCalls events)) : Sound (storeCalls events) (after events) := by
  induction events using List.reverseRecOn with
  | nil => exact sound_initial
  | append_singleton events event inductionHypothesis =>
      rw [storeCalls_append] at unwrapped short ⊢
      have before : storeCalls events <+: storeCalls events ++ storeCalls [event] :=
        List.prefix_append _ _
      have sound := inductionHypothesis ((restarts_le before).trans_lt unwrapped)
        fun early earlier => short early (earlier.trans before)
      have last : after (events ++ [event]) = step (after events) event := by
        rw [after, Machine.run_append]
        rfl
      rw [last]
      exact sound.step event unwrapped short

/-- The player never splices or skips: whatever the store, the network and the
media objects do, every buffer gets the initialization segment of one generation
and then its fragments one by one from a key fragment on, and one chain of
callbacks is live at most. -/
theorem mse_never_splices (events : List Event)
    (unwrapped : restarts (storeCalls events) < 2 ^ 32) (short : Short (storeCalls events)) :
    (∀ buffer ∈ (after events).buffers, ∃ generation start,
      Unspliced (storeCalls events) generation start buffer.data) ∧
    (after events).pending.countP (Callback.live (after events).player.epoch) ≤ 1 := by
  obtain ⟨phase, chain, chained⟩ := sound_after events unwrapped short
  exact ⟨chained.buffers, chained.holds.countP_le_one⟩

def resume : Event := .callback {} 0

def served : Event := .answer true 0

def opening : List Event := [.start, resume, served, resume, resume, served, resume, resume]

def fragmentRound : List Event := [resume, served, resume, served, resume, resume]

/-- Two fragments are stored, the player appends the second one, a third one
follows and is appended too. -/
def sampleEvents : List Event :=
  (sampleCalls 2).map Event.store ++ opening ++ fragmentRound ++
    .store (.frame (sampleRun 7 7) sampleFrame 100000) :: fragmentRound

theorem mse_never_splices_sample :
    (after sampleEvents).buffers.map SourceBuffer.data = [[[9, 9, 9], [1, 1], [7, 7]]] ∧
      ∃ generation start,
        Unspliced (storeCalls sampleEvents) generation start [[9, 9, 9], [1, 1], [7, 7]] := by
  have ran : (after sampleEvents).buffers.map SourceBuffer.data =
      [[[9, 9, 9], [1, 1], [7, 7]]] := by decide +kernel
  have sound := mse_never_splices sampleEvents (by decide +kernel)
    (short_of_length (by decide +kernel))
  have member : [[9, 9, 9], [1, 1], [7, 7]] ∈
      (after sampleEvents).buffers.map SourceBuffer.data := by
    rw [ran]
    exact List.mem_singleton_self _
  obtain ⟨buffer, current, data⟩ := List.mem_map.mp member
  refine ⟨ran, ?_⟩
  rw [← data]
  exact sound.1 buffer current

end AirTizen.Page.Mse
