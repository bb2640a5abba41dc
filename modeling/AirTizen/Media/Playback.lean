import AirTizen.Library.Binary64
import AirTizen.Library.Machine

/-!
# The playback store

The state behind the mutex of `airtizen_playback.c` and the calls that change
it.  Every call is one critical section.
-/

namespace AirTizen.Media

open CText Binary64

structure PlaybackState where
  generation : Nat := 0
  command : Nat := 0
  active : Bool := false
  ready : Bool := false
  failed : Bool := false
  fraction : Double := .finite 0
  position : Double := .finite 0
  duration : Double := .finite 0
  rate : Double := .finite 0
  seek : Double := .finite 0
  url : Bytes := []
  deriving DecidableEq

/-- The statically zeroed state of a fresh process. -/
def PlaybackState.initial : PlaybackState := {}

def nextUnsigned (number : Nat) : Nat := (number + 1) % 2 ^ 32

def urlHost (url : Bytes) : Option Bytes :=
  if (ascii "http://").isPrefixOf url then some (url.drop 7)
  else if (ascii "https://").isPrefixOf url then some (url.drop 8)
  else none

/-- The host up to the first byte of `/?#`, or to its end. -/
def urlAuthority (host : Bytes) : Bytes := host.takeWhile fun byte => !(ascii "/?#").contains byte

def urlByte (byte : UInt8) : Bool :=
  33 ≤ byte && byte ≤ 126 && !(ascii "\"\\<>").contains byte

/-- The checks of `airtizen_playback_play` on its URL. -/
def playableUrl (url : Bytes) : Bool :=
  url.length ≤ 2048 &&
    match urlHost url with
    | none => false
    | some host =>
        !host.isEmpty && !(urlAuthority host).isEmpty && url.all urlByte &&
          !(urlAuthority host).contains 64

def play (url : Option Bytes) (fraction : Double) (state : PlaybackState) : Int × PlaybackState :=
  match url with
  | none => (-1, state)
  | some url =>
      if !fraction.inRange 1 || !playableUrl url then (-1, state)
      else
        (0, { generation := nextUnsigned state.generation
              active := true
              rate := .finite 1
              seek := .finite (-1)
              fraction := fraction
              url := url })

def stop (state : PlaybackState) : PlaybackState :=
  { generation := nextUnsigned state.generation, seek := .finite (-1) }

def rate (value : Double) (state : PlaybackState) : Int × PlaybackState :=
  if value ≠ .finite 0 ∧ value ≠ .finite 1 then (-1, state)
  else (0, { state with rate := value, command := nextUnsigned state.command })

def seek (position : Double) (state : PlaybackState) : Int × PlaybackState :=
  if !position.inRange 604800 then (-1, state)
  else (0, { state with seek := position, command := nextUnsigned state.command })

def report (generation : Nat) (position duration : Double) (ready failed ended : Bool)
    (state : PlaybackState) : Int × PlaybackState :=
  if !position.inRange 604800 || !duration.inRange 604800 then (-1, state)
  else if !state.active || generation ≠ state.generation then (-1, state)
  else if ended || failed then
    (0, { state with
      position := position, duration := duration, failed := failed
      active := false, ready := false, rate := .finite 0 })
  else
    (0, { state with position := position, duration := duration, ready := ready, failed := failed })

inductive PlaybackCall where
  | play (url : Option Bytes) (fraction : Double)
  | stop
  | rate (value : Double)
  | seek (position : Double)
  | report (generation : Nat) (position duration : Double) (ready failed ended : Bool)
  deriving DecidableEq

/-- The result of a call and the state behind it. -/
def PlaybackCall.run : PlaybackCall → PlaybackState → Int × PlaybackState
  | .play url fraction, state => Media.play url fraction state
  | .stop, state => (0, Media.stop state)
  | .rate value, state => Media.rate value state
  | .seek position, state => Media.seek position state
  | .report generation position duration ready failed ended, state =>
      Media.report generation position duration ready failed ended state

def PlaybackCall.step (state : PlaybackState) (call : PlaybackCall) : PlaybackState :=
  (call.run state).2

/-- What a successful or refused call does, field by field where it matters. -/
theorem play_cases (url : Option Bytes) (fraction : Double) (state : PlaybackState) :
    ((play url fraction state).1 = -1 ∧ (play url fraction state).2 = state) ∨
    ((play url fraction state).1 = 0 ∧ ∃ text, url = some text ∧ playableUrl text = true ∧
      (play url fraction state).2 =
        { generation := nextUnsigned state.generation, active := true, rate := .finite 1
          seek := .finite (-1), fraction := fraction, url := text }) := by
  cases url with
  | none => exact .inl ⟨rfl, rfl⟩
  | some text =>
      by_cases refused : (!fraction.inRange 1 || !playableUrl text) = true
      · left
        simp only [play, if_pos refused, and_self]
      · right
        simp only [play, if_neg refused, true_and]
        refine ⟨text, rfl, ?_, rfl⟩
        simp only [Bool.or_eq_true, Bool.not_eq_true', not_or, Bool.not_eq_false] at refused
        exact refused.2

theorem rate_cases (value : Double) (state : PlaybackState) :
    ((rate value state).1 = -1 ∧ (rate value state).2 = state) ∨
    ((rate value state).1 = 0 ∧
      (rate value state).2 =
        { state with rate := value, command := nextUnsigned state.command }) := by
  unfold rate
  by_cases refused : value ≠ .finite 0 ∧ value ≠ .finite 1
  · left
    simp only [if_pos refused, and_self]
  · right
    simp only [if_neg refused, and_self]

theorem seek_cases (position : Double) (state : PlaybackState) :
    ((seek position state).1 = -1 ∧ (seek position state).2 = state) ∨
    ((seek position state).1 = 0 ∧ position.inRange 604800 = true ∧
      (seek position state).2 =
        { state with seek := position, command := nextUnsigned state.command }) := by
  unfold seek
  by_cases accepted : position.inRange 604800 = true
  · right
    simp [accepted]
  · left
    simp [accepted]

/-- A report changes neither generation, command, seek nor URL. -/
theorem report_cases (generation : Nat) (position duration : Double) (ready failed ended : Bool)
    (state : PlaybackState) :
    ((report generation position duration ready failed ended state).1 = -1 ∧
      (report generation position duration ready failed ended state).2 = state) ∨
    ((report generation position duration ready failed ended state).1 = 0 ∧
      state.active = true ∧ generation = state.generation ∧
      (report generation position duration ready failed ended state).2 =
        { state with
          position := position, duration := duration, failed := failed
          active := !(ended || failed), ready := !(ended || failed) && ready
          rate := if ended || failed then .finite 0 else state.rate }) := by
  unfold report
  by_cases bounded : (!position.inRange 604800 || !duration.inRange 604800) = true
  · left
    simp [bounded]
  · rw [if_neg bounded]
    by_cases current : (!state.active || generation ≠ state.generation) = true
    · left
      simp only [if_pos current, and_self]
    · rw [if_neg current]
      simp only [Bool.or_eq_true, Bool.not_eq_true', decide_eq_true_eq, not_or, Bool.not_eq_false,
        ne_eq, not_not] at current
      right
      obtain ⟨active, same⟩ := current
      by_cases finished : (ended || failed) = true
      · simp [finished, active, same]
      · simp only [Bool.not_eq_true] at finished
        simp [finished, active, same]

end AirTizen.Media
