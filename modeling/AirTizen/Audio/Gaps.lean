import AirTizen.Audio.Playout

/-!
# What a lost packet sounds like

A number that nobody has sent becomes silence.  In front of the first packet of a round the
silence has no format, and the check in `cb_audio_process` refuses it.
-/

namespace AirTizen.Audio

open CText Buffer

/-! ## A stream without packets that are sent again -/

/-- The number that is due behind a packet from the data socket with this number, and with
this frame if it can be decoded, when nothing is held. -/
def dueBehind (due : Option Int) (number : Int) (value : Option DecodedFrame) : Option Int :=
  match due, value with
  | none, none => none
  | none, some _ => some (number + 1)
  | some first, none => if first + raopBufferLength ≤ number then some number else some first
  | some first, some _ => if number < first then some first else some (number + 1)

/-- What is played at once: up to 63 silences for the numbers that are missing in front of the
packet, and the packet. -/
def heard (due : Option Int) (number : Int) (value : Option DecodedFrame) : List Played :=
  match due, value with
  | _, none => []
  | none, some frame => [frame.played]
  | some first, some frame =>
      if number < first then []
      else if first + raopBufferLength ≤ number then [frame.played]
      else
        List.replicate (number - first).toNat (noFormat.played silence) ++ [frame.played]

def playout (codec : StreamCodec) : Option Int → List Delivery → List Played
  | _, [] => []
  | due, delivery :: rest =>
      heard due delivery.number (delivery.frame codec) ++
        playout codec (dueBehind due delivery.number (delivery.frame codec)) rest

theorem playedFrom_missing {format : StreamFormat} {missing : List (Int × Option DecodedFrame)}
    (lost : ∀ entry ∈ missing, entry.2 = none) (rest : List (Int × Option DecodedFrame)) :
    playedFrom format (missing ++ rest) =
      List.replicate missing.length (format.played silence) ++ playedFrom format rest := by
  induction missing with
  | nil => rfl
  | cons entry later inductionHypothesis =>
      obtain ⟨number, value⟩ := entry
      have nothing : value = none := lost (number, value) List.mem_cons_self
      subst nothing
      have behind := inductionHypothesis fun entry member =>
        lost entry (List.mem_cons_of_mem _ member)
      rw [List.cons_append, playedFrom, behind]
      rfl

def awaiting (due : Option Int) : Option (ReorderWindow DecodedFrame raopBufferLength) :=
  due.map (ReorderWindow.empty raopBufferLength)

theorem arrive_awaiting {first number : Int} {frame : DecodedFrame} (due : first ≤ number)
    (near : number < first + raopBufferLength) :
    ReorderWindow.arrive raopBufferLength_pos (ReorderWindow.empty raopBufferLength first) number
        (some frame) =
      (ReorderWindow.empty raopBufferLength first).insert number frame due near := by
  have stays : (ReorderWindow.empty raopBufferLength first :
      ReorderWindow DecodedFrame raopBufferLength).room number =
        ReorderWindow.empty raopBufferLength first := if_neg (Int.not_le.mpr near)
  have settled : ∀ window : ReorderWindow DecodedFrame raopBufferLength,
      window = ReorderWindow.empty raopBufferLength first →
      ∀ (windowDue : window.next ≤ number) (windowNear : number < window.next + raopBufferLength),
        window.accept number (some frame) windowDue windowNear =
          (ReorderWindow.empty raopBufferLength first).insert number frame due near := by
    rintro window rfl windowDue windowNear
    exact ReorderWindow.accept_first rfl
  have before : (ReorderWindow.empty raopBufferLength first :
      ReorderWindow DecodedFrame raopBufferLength).next ≤ number := due
  rw [ReorderWindow.arrive_due before]
  exact settled _ stays _ _

theorem arrive_far {first number : Int} (value : Option DecodedFrame)
    (far : first + raopBufferLength ≤ number) :
    ReorderWindow.arrive raopBufferLength_pos (ReorderWindow.empty raopBufferLength first) number
        value =
      ReorderWindow.arrive raopBufferLength_pos (ReorderWindow.empty raopBufferLength number)
        number value := by
  have size : (raopBufferLength : Int) = 64 := rfl
  have jumps : (ReorderWindow.empty raopBufferLength first :
      ReorderWindow DecodedFrame raopBufferLength).room number =
        ReorderWindow.empty raopBufferLength number := if_pos far
  have stays : (ReorderWindow.empty raopBufferLength number :
      ReorderWindow DecodedFrame raopBufferLength).room number =
        ReorderWindow.empty raopBufferLength number := by
    apply if_neg
    dsimp only [ReorderWindow.empty]
    omega
  have before : (ReorderWindow.empty raopBufferLength first :
      ReorderWindow DecodedFrame raopBufferLength).next ≤ number := by
    dsimp only [ReorderWindow.empty]
    omega
  rw [ReorderWindow.arrive_due before, ReorderWindow.arrive_due (le_refl number)]
  simp only [jumps, stays]

theorem arrive_unread {first number : Int} :
    ReorderWindow.arrive raopBufferLength_pos
        (ReorderWindow.empty raopBufferLength first : ReorderWindow DecodedFrame raopBufferLength)
        number none =
      if first + raopBufferLength ≤ number then ReorderWindow.empty raopBufferLength number
      else ReorderWindow.empty raopBufferLength first := by
  rcases lt_or_ge number first with late | due
  · have size : (raopBufferLength : Int) = 64 := rfl
    rw [ReorderWindow.arrive_late late, if_neg (by omega)]
  · have before : (ReorderWindow.empty raopBufferLength first :
        ReorderWindow DecodedFrame raopBufferLength).next ≤ number := due
    rw [ReorderWindow.arrive_due before, ReorderWindow.accept_unread]
    rfl

/-- The window behind a packet and the round after it. -/
theorem round_awaiting (due : Option Int) (number : Int) (value : Option DecodedFrame) :
    ReorderWindow.step raopBufferLength_pos
        (ReorderWindow.step raopBufferLength_pos (awaiting due) (.arrive number value)) .drain =
      awaiting (dueBehind due number value) ∧
    playedFrom noFormat (ReorderWindow.emit
        (ReorderWindow.step raopBufferLength_pos (awaiting due) (.arrive number value)) .drain) =
      heard due number value := by
  have single : ∀ first : Int, ∀ frame : DecodedFrame, ∀ ordered : first ≤ number,
      ∀ near : number < first + raopBufferLength,
      (((ReorderWindow.empty raopBufferLength first).insert number frame ordered near).stop =
          number + 1) ∧
        playedFrom noFormat
            ((ReorderWindow.empty raopBufferLength first).insert number frame ordered
              near).contents =
          List.replicate (number - first).toNat (noFormat.played silence) ++ [frame.played] := by
    intro first frame ordered near
    refine ⟨max_eq_right (by dsimp only [ReorderWindow.empty]; omega), ?_⟩
    rw [ReorderWindow.contents_insert_empty frame ordered near, playedFrom_missing]
    · simp [playedFrom]
    · intro entry member
      obtain ⟨index, -, rfl⟩ := List.mem_map.mp member
      rfl
  have positive : number < number + raopBufferLength := Int.lt_add_of_pos_right _ (by decide)
  cases value with
  | none =>
      cases due with
      | none => exact ⟨rfl, rfl⟩
      | some first =>
          have quiet : ∀ other : Int, playedFrom noFormat
              (ReorderWindow.empty raopBufferLength other :
                ReorderWindow DecodedFrame raopBufferLength).contents = [] := fun other => by
            rw [ReorderWindow.contents_empty rfl]
            rfl
          dsimp only [awaiting, Option.map_some, ReorderWindow.step, ReorderWindow.emit,
            dueBehind, heard, Option.elim_some]
          rw [arrive_unread]
          split
          · exact ⟨rfl, quiet number⟩
          · exact ⟨rfl, quiet first⟩
  | some frame =>
      cases due with
      | none =>
          have alone := single number frame (le_refl number) positive
          dsimp only [awaiting, Option.map_none, ReorderWindow.step, ReorderWindow.emit,
            dueBehind, heard, Option.elim_some, Option.map_some]
          rw [ReorderWindow.arrive_empty]
          refine ⟨?_, ?_⟩
          · rw [alone.1]
          · rw [alone.2, sub_self]
            rfl
      | some first =>
          dsimp only [awaiting, Option.map_some, ReorderWindow.step, ReorderWindow.emit,
            dueBehind, heard, Option.elim_some]
          by_cases late : number < first
          · rw [ReorderWindow.arrive_late late, if_pos late, if_pos late,
              ReorderWindow.contents_empty rfl]
            exact ⟨rfl, rfl⟩
          · rw [if_neg late, if_neg late]
            by_cases far : first + raopBufferLength ≤ number
            · have alone := single number frame (le_refl number) positive
              rw [if_pos far, arrive_far _ far, ReorderWindow.arrive_empty, alone.1, alone.2,
                sub_self]
              exact ⟨rfl, rfl⟩
            · have gap := single first frame (Int.not_lt.mp late) (Int.not_le.mp far)
              rw [if_neg far, arrive_awaiting (Int.not_lt.mp late) (Int.not_le.mp far), gap.1,
                gap.2]
              exact ⟨rfl, rfl⟩

theorem outputs_awaiting {buffer : StreamBuffer} {due : Option Int} {newest : Int}
    {deliveries : List Delivery} (represents : buffer.Represents (awaiting due))
    (tracks : Tracks newest (awaiting due))
    (near : Near newest (deliveries.map Delivery.number))
    (direct : ∀ delivery ∈ deliveries, delivery.again = none) :
    Machine.outputs streamStep streamEmit (some buffer) (deliveries.map Delivery.event) =
      playout buffer.codec due deliveries := by
  induction deliveries generalizing buffer due newest with
  | nil => rfl
  | cons delivery rest inductionHypothesis =>
      obtain ⟨above, below, later⟩ := near
      obtain ⟨after, stepped, codec, holds, played⟩ := delivery.step_represents represents
        (fun present started => (tracks.distance above below started).1)
        (fun present started => (tracks.distance above below started).2)
      have events : delivery.windowEvents buffer.codec =
          [.arrive delivery.number (delivery.frame buffer.codec), .drain] := by
        rw [Delivery.windowEvents, direct delivery List.mem_cons_self]
      obtain ⟨moved, sounds⟩ :=
        round_awaiting due delivery.number (delivery.frame buffer.codec)
      have arrived : Tracks (max newest delivery.number)
          (ReorderWindow.step raopBufferLength_pos (awaiting due)
            (.arrive delivery.number (delivery.frame buffer.codec))) :=
        tracks_arrive tracks above
      have tracked := tracks_drain arrived
      rw [events, Machine.run_cons, Machine.run_cons, Machine.run_nil, moved] at holds
      rw [moved] at tracked
      rw [events] at played
      simp only [Machine.outputs, List.append_nil] at played
      rw [List.map_cons, Machine.outputs, stepped, playout, ← codec,
        inductionHypothesis holds tracked later
          (fun other member => direct other (List.mem_cons_of_mem _ member)), played, codec]
      congr 1

/-- Without packets that are sent again, the calls of `audio_process` are these: a packet is
played at once, behind silence for the numbers that are missing, and one that comes later than
its successor is never played. -/
theorem data_socket_playout {library : Avcodec} {allocated : Bool} {cbcDecrypt : Bytes → Bytes}
    {memory : Fin raopBufferLength → { cells : Bytes // cells.length = audioBufferSize }}
    {initial buffer : StreamBuffer} {before : List StreamEvent} {deliveries : List Delivery}
    {origin : Int} (made : bufferInit library allocated cbcDecrypt memory = some initial)
    (reached : Machine.run streamStep (some initial) before = some buffer)
    (vacant : buffer.Vacant)
    (due : buffer.isEmpty = false → (buffer.firstSeqnum.toNat : Int) = origin % 2 ^ 16)
    (near : Near origin (deliveries.map Delivery.number))
    (direct : ∀ delivery ∈ deliveries, delivery.again = none) :
    Machine.outputs streamStep streamEmit (some buffer) (deliveries.map Delivery.event) =
      playout buffer.codec (if buffer.isEmpty then none else some origin) deliveries := by
  obtain ⟨state, window, same, represents⟩ := reached_sound made before
  cases Option.some.inj (reached.symm.trans same)
  have start := StreamBuffer.vacant_represents represents vacant due
  have tracks := tracks_start buffer origin
  have waits : (if buffer.isEmpty then none
      else some (ReorderWindow.empty raopBufferLength origin)) =
        awaiting (if buffer.isEmpty then none else some origin) := by
    split
    · rfl
    · rfl
  rw [waits] at start tracks
  exact outputs_awaiting start tracks near direct

/-! ## What is refused -/

structure RaopBuffer.Negotiated (buffer : RaopBuffer) : Prop where
  channels : buffer.configuredChannels = 1 ∨ buffer.configuredChannels = 2
  rate : buffer.configuredRate = 44100 ∨ buffer.configuredRate = 48000
  alac : buffer.codecType = 2 →
    ∀ alac, buffer.alac = some alac → alac.channels = buffer.configuredChannels
  aac : buffer.codecType ≠ 2 →
    ∀ aac, buffer.phandle = some aac → aac.channels = buffer.configuredChannels

theorem AVFrame.dvd_bytes (frame : AVFrame) {channels : UInt32}
    (known : channels = 1 ∨ channels = 2) : 2 * channels.toNat ∣ frame.bytes channels := by
  unfold AVFrame.bytes
  rcases known with rfl | rfl
  · have one : (1 : UInt32).toNat = 1 := rfl
    rw [one]
    omega
  · have two : (2 : UInt32).toNat = 2 := rfl
    rw [two]
    omega

/-- The decoders write whole samples of all channels. -/
theorem RaopBuffer.Negotiated.dvd_decode {buffer : RaopBuffer} (negotiated : buffer.Negotiated)
    (received : Option AVFrame) (size capacity : Nat) :
    2 * buffer.configuredChannels.toNat ∣ buffer.decode received size capacity := by
  have whole : ∀ frame : AVFrame, 2 * buffer.configuredChannels.toNat ∣
      frame.bytes buffer.configuredChannels :=
    fun frame => frame.dvd_bytes negotiated.channels
  unfold RaopBuffer.decode
  split
  · next lossless =>
      cases made : buffer.alac with
      | none => exact dvd_zero _
      | some decoder =>
          have channels := negotiated.alac lossless decoder made
          dsimp only [alacDecode]
          rw [channels]
          cases received with
          | none => split_ifs <;> exact dvd_zero _
          | some frame =>
              dsimp only
              split_ifs
              all_goals first | exact dvd_zero _ | exact whole frame
  · next other =>
      cases made : buffer.phandle with
      | none => exact dvd_zero _
      | some decoder =>
          have channels := negotiated.aac other decoder made
          dsimp only [aacDecode]
          rw [channels]
          cases received with
          | none => split_ifs <;> exact dvd_zero _
          | some frame =>
              dsimp only
              split_ifs
              all_goals first | exact dvd_zero _ | exact whole frame

theorem alacCreate_channels {library : Avcodec} {rate channels frames : UInt32} {alac : Alac}
    (made : alacCreate library rate channels frames = some alac) :
    alacRejects rate channels frames = false ∧ alac.channels = channels := by
  unfold alacCreate at made
  split at made
  · cases made
  · next accepted =>
      refine ⟨by simpa using accepted, ?_⟩
      split at made
      · cases made
      · cases made
        rfl

theorem aacCreate_channels {library : Avcodec} {type rate channels frames : UInt32} {aac : Aac}
    (made : aacCreate library type rate channels frames = some aac) :
    aacRejects type rate channels frames = false ∧ aac.channels = channels := by
  unfold aacCreate at made
  split at made
  · cases made
  · next accepted =>
      refine ⟨by simpa using accepted, ?_⟩
      split at made
      · cases made
      · cases made
        rfl

theorem uint32_one_or_two {channels : UInt32} (atLeast : 1 ≤ channels.toNat)
    (atMost : channels.toNat ≤ 2) : channels = 1 ∨ channels = 2 := by
  rcases (by omega : channels.toNat = 1 ∨ channels.toNat = 2) with one | two
  · exact Or.inl (UInt32.toNat_inj.mp one)
  · exact Or.inr (UInt32.toNat_inj.mp two)

/-- Parameters are negotiated as a whole, or stay as they are. -/
theorem bufferConfigureAudio_negotiated {library : Avcodec} {buffer : RaopBuffer}
    {ct frames rate channels : UInt32} (negotiated : buffer.Negotiated) :
    (bufferConfigureAudio library buffer ct frames rate channels).2.Negotiated := by
  unfold bufferConfigureAudio
  dsimp only
  split
  · next lossless =>
      split
      · exact negotiated
      · next alac made =>
          obtain ⟨accepted, same⟩ := alacCreate_channels made
          obtain ⟨rates, atLeast, atMost, -⟩ := alacRejects_eq_false.mp accepted
          refine ⟨uint32_one_or_two atLeast atMost, rates, ?_, fun other => ?_⟩
          · rintro - _ ⟨⟩
            exact same
          · exact absurd lossless other
  · next other =>
      split
      · split
        · exact negotiated
        · next aac made =>
            obtain ⟨accepted, same⟩ := aacCreate_channels made
            obtain ⟨two, kinds⟩ := aacRejects_eq_false.mp accepted
            refine ⟨Or.inr two, ?_, fun lossless => ?_, ?_⟩
            · rcases kinds with ⟨-, rates, -⟩ | ⟨-, low, -⟩
              · exact rates
              · exact Or.inl low
            · exact absurd lossless other
            · rintro - _ ⟨⟩
              exact same
      · exact negotiated

structure DecodedFrame.Playable (frame : DecodedFrame) : Prop where
  bits : frame.bitsPerSample = 16
  channels : frame.channels = 1 ∨ frame.channels = 2
  rate : frame.sampleRate = 44100 ∨ frame.sampleRate = 48000
  whole : 2 * frame.channels.toNat ∣ frame.audio.length

theorem StreamCodec.Makes.playable {codec : StreamCodec} {frame : DecodedFrame}
    (made : codec.Makes frame) (negotiated : codec.decoders.Negotiated) : frame.Playable := by
  obtain ⟨answers, data, decoded⟩ := made
  unfold StreamCodec.frame at decoded
  dsimp only at decoded
  split at decoded
  · cases decoded
    have narrow : codec.decoders.configuredChannels.toUInt16.toNat =
        codec.decoders.configuredChannels.toNat := by
      rcases negotiated.channels with one | two
      · rw [one]
        rfl
      · rw [two]
        rfl
    refine ⟨rfl, ?_, negotiated.rate, ?_⟩
    · rcases negotiated.channels with one | two
      · left
        rw [one]
        rfl
      · right
        rw [two]
        rfl
    · rw [narrow, StreamCodec.decodedBytes, List.length_map, List.length_range]
      exact negotiated.dvd_decode _ _ _
  · cases decoded

theorem noFormat_refused (audio : Bytes) : (noFormat.played audio).pcm.refused = true := rfl

theorem DecodedFrame.Playable.accepted {frame : DecodedFrame} (playable : frame.Playable)
    {audio : Bytes} (whole : 2 * frame.channels.toNat ∣ audio.length) :
    (frame.format.played audio).pcm.refused = false := by
  have rate : 8000 ≤ frame.sampleRate ∧ frame.sampleRate ≤ 192000 := by
    rcases playable.rate with low | high
    · rw [low]
      decide
    · rw [high]
      decide
  have valid : ValidPcm (frame.format.played audio).pcm audio :=
    ⟨rfl, rfl, playable.bits, playable.channels, rate, whole⟩
  exact valid.accepted

theorem DecodedFrame.Playable.silence_whole {frame : DecodedFrame} (playable : frame.Playable) :
    2 * frame.channels.toNat ∣ silence.length := by
  rw [length_silence]
  rcases playable.channels with one | two
  · rw [one]
    decide
  · rw [two]
    decide

theorem mem_playedFrom {format : StreamFormat} {taken : List (Int × Option DecodedFrame)}
    {played : Played} (member : played ∈ playedFrom format taken) :
    played = format.played silence ∨
      ∃ number frame, (number, some frame) ∈ taken ∧
        (played = frame.played ∨ played = frame.format.played silence) := by
  induction taken generalizing format with
  | nil => exact absurd member List.not_mem_nil
  | cons first rest inductionHypothesis =>
      obtain ⟨number, value⟩ := first
      cases value with
      | none =>
          rcases List.mem_cons.mp member with same | behind
          · exact Or.inl same
          · rcases inductionHypothesis behind with silent | ⟨other, frame, inside, sounds⟩
            · exact Or.inl silent
            · exact Or.inr ⟨other, frame, List.mem_cons_of_mem _ inside, sounds⟩
      | some frame =>
          rcases List.mem_cons.mp member with same | behind
          · exact Or.inr ⟨number, frame, List.mem_cons_self, Or.inl same⟩
          · rcases inductionHypothesis behind with silent | ⟨other, later, inside, sounds⟩
            · exact Or.inr ⟨number, frame, List.mem_cons_self, Or.inr silent⟩
            · exact Or.inr ⟨other, later, List.mem_cons_of_mem _ inside, sounds⟩

/-- The calls of a round: refused silence up to the first frame, and from there on nothing
that is refused. -/
def GapFirst (calls : List Played) : Prop :=
  ∃ count behind, calls = List.replicate count (noFormat.played silence) ++ behind ∧
    (∀ first ∈ behind.head?, ∃ frame : DecodedFrame, first = frame.played) ∧
    ∀ played ∈ behind, played.pcm.refused = false

theorem playedFrom_accepted {frame : DecodedFrame} (playable : frame.Playable)
    {taken : List (Int × Option DecodedFrame)}
    (sound : ∀ number other, (number, some other) ∈ taken → other.Playable) :
    ∀ played ∈ playedFrom frame.format taken, played.pcm.refused = false := by
  intro played member
  rcases mem_playedFrom member with rfl | ⟨number, other, inside, sounds⟩
  · exact playable.accepted playable.silence_whole
  · have others := sound number other inside
    rcases sounds with rfl | rfl
    · exact others.accepted others.whole
    · exact others.accepted others.silence_whole

theorem playedFrom_gapFirst {taken : List (Int × Option DecodedFrame)}
    (sound : ∀ number other, (number, some other) ∈ taken → other.Playable) :
    GapFirst (playedFrom noFormat taken) := by
  induction taken with
  | nil => exact ⟨0, [], rfl, nofun, nofun⟩
  | cons entry rest inductionHypothesis =>
      obtain ⟨number, value⟩ := entry
      have later : ∀ number other, (number, some other) ∈ rest → other.Playable :=
        fun number other inside => sound number other (List.mem_cons_of_mem _ inside)
      cases value with
      | none =>
          obtain ⟨count, behind, calls, first, accepted⟩ := inductionHypothesis later
          refine ⟨count + 1, behind, ?_, first, accepted⟩
          rw [playedFrom, calls]
          rfl
      | some frame =>
          have playable := sound number frame List.mem_cons_self
          refine ⟨0, playedFrom noFormat ((number, some frame) :: rest), rfl, ?_, ?_⟩
          · rintro _ ⟨⟩
            exact ⟨frame, rfl⟩
          · intro played member
            rcases List.mem_cons.mp member with rfl | behind
            · exact playable.accepted playable.whole
            · exact playedFrom_accepted playable later played behind

theorem GapFirst.refused_iff {calls : List Played} (gapFirst : GapFirst calls) :
    ∀ played ∈ calls, played.pcm.refused = true ↔ played = noFormat.played silence := by
  obtain ⟨count, behind, rfl, _, accepted⟩ := gapFirst
  intro played member
  rcases List.mem_append.mp member with gap | passes
  · obtain rfl := List.eq_of_mem_replicate gap
    exact iff_of_true (noFormat_refused silence) rfl
  · have accepted := accepted played passes
    constructor
    · intro refused
      rw [accepted] at refused
      cases refused
    · rintro rfl
      exact noFormat_refused silence

/-- The thread runs, with parameters that were negotiated and frames that can be played. -/
def Plays (thread : Option StreamBuffer) : Prop :=
  ∃ buffer window, thread = some buffer ∧ buffer.Represents window ∧
    buffer.codec.decoders.Negotiated ∧ ∀ frame, Holds window frame → frame.Playable

theorem streamStep_plays (thread : Option StreamBuffer) (event : StreamEvent)
    (plays : Plays thread) :
    Plays (streamStep thread event) ∧ GapFirst (streamEmit thread event) := by
  obtain ⟨buffer, window, rfl, represents, negotiated, playable⟩ := plays
  obtain ⟨played, after, later, taken, handled, effect⟩ :=
    StreamBuffer.handle_sound event represents
  have sound : ∀ frame, Holds window frame ∨ buffer.codec.Makes frame → frame.Playable := by
    rintro frame (before | made)
    · exact playable frame before
    · exact made.playable negotiated
  refine ⟨⟨after, later, ?_, effect.represents, ?_, ?_⟩, ?_⟩
  · rw [streamStep, Option.bind_some, handled]
    rfl
  · rcases effect.codec with same | ⟨-, library, ct, frames, rate, channels, configured⟩
    · rw [same]
      exact negotiated
    · rw [configured]
      exact bufferConfigureAudio_negotiated negotiated
  · exact fun frame holds => sound frame (effect.held frame holds)
  · rw [streamEmit, Option.bind_some, handled]
    dsimp only [Option.elim_some]
    rw [effect.played]
    exact playedFrom_gapFirst fun number frame member =>
      sound frame (effect.taken number frame member)

theorem bufferInit_plays {library : Avcodec} {allocated : Bool} {cbcDecrypt : Bytes → Bytes}
    {memory : Fin raopBufferLength → { cells : Bytes // cells.length = audioBufferSize }}
    {initial : StreamBuffer}
    (made : bufferInit library allocated cbcDecrypt memory = some initial) :
    Plays (some initial) := by
  unfold bufferInit at made
  split at made
  · cases made
  · next aac created =>
      obtain ⟨-, channels⟩ := aacCreate_channels created
      split at made
      · cases made
        refine ⟨_, none, rfl, ⟨rfl, fun _ => rfl⟩, ⟨Or.inr rfl, Or.inl rfl, ?_, ?_⟩, ?_⟩
        · rintro - _ ⟨⟩
        · rintro - _ ⟨⟩
          exact channels
        · rintro frame ⟨present, number, absent, -⟩
          cases absent
      · cases made

/-- Whatever the sockets bring and however the stream is flushed and configured, the thread
accesses no memory outside of its buffers and fails no assertion; and the check of
`cb_audio_process` refuses exactly the silence whose format is still zero, which stands in front
of the first frame of a round and nowhere else. -/
theorem refused_iff_gap {library : Avcodec} {allocated : Bool} {cbcDecrypt : Bytes → Bytes}
    {memory : Fin raopBufferLength → { cells : Bytes // cells.length = audioBufferSize }}
    {initial : StreamBuffer}
    (made : bufferInit library allocated cbcDecrypt memory = some initial)
    (events : List StreamEvent) :
    (Machine.run streamStep (some initial) events).isSome ∧
      (∀ played ∈ Machine.outputs streamStep streamEmit (some initial) events,
        played.pcm.refused = true ↔ played = noFormat.played silence) ∧
      ∀ before event after, events = before ++ event :: after →
        GapFirst (streamEmit (Machine.run streamStep (some initial) before) event) := by
  refine ⟨?_, ?_, ?_⟩
  · obtain ⟨buffer, window, reached, -⟩ := reached_sound made events
    rw [reached]
    rfl
  · refine Machine.outputs_forall ?_ (bufferInit_plays made) events
    intro thread event plays
    obtain ⟨next, gapFirst⟩ := streamStep_plays thread event plays
    exact ⟨next, gapFirst.refused_iff⟩
  · intro before event _ _
    have plays := Machine.run_invariant (fun thread event plays =>
      (streamStep_plays thread event plays).1) (bufferInit_plays made) before
    exact (streamStep_plays _ event plays).2

/-! ## A stream -/

def openLibrary : Avcodec where
  findDecoder := fun _ => true
  calloc := true
  allocContext := fun _ => true
  allocFrame := true
  mallocz := fun _ => true
  open2 := fun _ => 0

def clearMemory (_ : Fin raopBufferLength) : { cells : Bytes // cells.length = audioBufferSize } :=
  ⟨silence, length_silence⟩

def newBuffer : StreamBuffer where
  codec :=
    { decoders :=
        { alac := none
          phandle :=
            some
              { context := aacContext 8 44100 2, type := 8, rate := 44100, channels := 2,
                frames := 480 }
          codecType := 8, configuredRate := 44100, configuredChannels := 2 }
      cbcDecrypt := id }
  isEmpty := true
  firstSeqnum := 0
  lastSeqnum := 0
  entries := fun index => freshEntry (clearMemory index)

theorem newBuffer_made : bufferInit openLibrary true id clearMemory = some newBuffer := rfl

def silentAnswers : Answers where
  malloc := true
  library := fun _ =>
    some { nbSamples := 480, nbChannels := 2, sampleRate := 44100, format := .s16, finite := true }
  samples := fun _ _ => 0

/-- Three packets around the end of the field, of which the last one comes too late. -/
def lateDeliveries : List Delivery :=
  [ { number := 65534, data := [128, 96, 255, 254, 0, 0, 0, 0, 0, 0, 0, 0, 1]
      answers := silentAnswers, again := none, sequenced := by decide, numbered := by decide
      short := nofun },
    { number := 65536, data := [128, 96, 0, 0, 0, 0, 0, 0, 0, 0, 0, 0, 1]
      answers := silentAnswers, again := none, sequenced := by decide, numbered := by decide
      short := nofun },
    { number := 65535, data := [128, 96, 255, 255, 0, 0, 0, 0, 0, 0, 0, 0, 1]
      answers := silentAnswers, again := none, sequenced := by decide, numbered := by decide
      short := nofun } ]

theorem late_near : Near 65534 (lateDeliveries.map Delivery.number) := by
  simp [lateDeliveries, Near]

theorem frames_in_order_around_the_field :
    ∃ taken : List (Int × Option DecodedFrame),
      List.Forall₂ Shown taken
        (Machine.outputs streamStep streamEmit (some newBuffer)
          (lateDeliveries.map Delivery.event)) ∧
      (taken.map Prod.fst).Pairwise (· < ·) := by
  have vacant : newBuffer.Vacant := fun _ => rfl
  obtain ⟨taken, shown, ordered, -, -⟩ := @frames_in_order openLibrary true id clearMemory
    newBuffer newBuffer [] lateDeliveries 65534 newBuffer_made rfl vacant
    (fun started => absurd started (by decide)) late_near
  exact ⟨taken, shown, ordered⟩

theorem data_socket_playout_around_the_field :
    Machine.outputs streamStep streamEmit (some newBuffer) (lateDeliveries.map Delivery.event) =
      playout newBuffer.codec none lateDeliveries := by
  have vacant : newBuffer.Vacant := fun _ => rfl
  exact @data_socket_playout openLibrary true id clearMemory
    newBuffer newBuffer [] lateDeliveries 65534 newBuffer_made rfl vacant
    (fun started => absurd started (by decide)) late_near (by simp [lateDeliveries])

/-- The silence between the two frames has no sample rate. -/
example : (playout newBuffer.codec none lateDeliveries).map (fun played => played.pcm.sampleRate) =
    [44100, 0, 44100] := by
  rfl

theorem refused_iff_gap_around_the_field :
    (Machine.run streamStep (some newBuffer) (lateDeliveries.map Delivery.event)).isSome ∧
      (∀ played ∈ Machine.outputs streamStep streamEmit (some newBuffer)
          (lateDeliveries.map Delivery.event),
        played.pcm.refused = true ↔ played = noFormat.played silence) ∧
      ∀ before event after, lateDeliveries.map Delivery.event = before ++ event :: after →
        GapFirst (streamEmit (Machine.run streamStep (some newBuffer) before) event) :=
  refused_iff_gap newBuffer_made (lateDeliveries.map Delivery.event)

end AirTizen.Audio
