import AirTizen.Audio.JitterBuffer

/-!
# The buffer as a window of the stream

The ring of entries is a window over the numbers of the sender, which do not wrap: every
number in it has an entry of its own, and comparing sequence numbers compares the numbers
as long as they are less than half of the field apart.
-/

namespace AirTizen.Audio

open CText Buffer

/-! ## What a packet is decoded to -/

/-- What the buffer hands out of an entry. -/
structure DecodedFrame where
  timestamp : UInt32
  sampleRate : UInt32
  channels : UInt16
  bitsPerSample : UInt16
  audio : Bytes

def BufferEntry.frame (entry : BufferEntry) : DecodedFrame where
  timestamp := entry.timestamp
  sampleRate := entry.sampleRate
  channels := entry.channels
  bitsPerSample := entry.bitsPerSample
  audio := entry.audioBuffer.take entry.audioBufferLen

/-- The frame of a packet, unless it cannot be decoded. -/
def StreamCodec.frame (codec : StreamCodec) (answers : Answers) (data : Bytes) : Option DecodedFrame :=
  let packetbuf := codec.decrypted (data.drop 12)
  if answers.malloc = true ∧ codec.decodedSize answers packetbuf ≠ 0 then
    some
      { timestamp := UInt32.ofNat (Octets.toNat ((data.drop 4).take 4))
        sampleRate := codec.decoders.configuredRate
        channels := codec.decoders.configuredChannels.toUInt16
        bitsPerSample := 16
        audio := codec.decodedBytes answers packetbuf }
  else none

theorem RaopBuffer.decode_le (buffer : RaopBuffer) (received : Option AVFrame)
    (payloadSize capacity : Nat) : buffer.decode received payloadSize capacity ≤ capacity := by
  unfold RaopBuffer.decode alacDecode aacDecode
  split_ifs
  all_goals
    repeat' split
    all_goals grind

/-- The memory of an entry has room for everything that the decoder writes. -/
theorem StreamCodec.fill_eq (codec : StreamCodec) (answers : Answers) (packetbuf : Bytes)
    (entry : BufferEntry) :
    ∃ filled, codec.fill answers packetbuf entry = some filled ∧
      filled.available = entry.available ∧ filled.seqnum = entry.seqnum ∧
      filled.audioBufferLen = codec.decodedSize answers packetbuf ∧
      filled.frame =
        { timestamp := entry.timestamp
          sampleRate := codec.decoders.configuredRate
          channels := codec.decoders.configuredChannels.toUInt16
          bitsPerSample := 16
          audio := codec.decodedBytes answers packetbuf } := by
  have size : (codec.decodedBytes answers packetbuf).length =
      codec.decodedSize answers packetbuf := by
    rw [StreamCodec.decodedBytes, List.length_map, List.length_range]
  have room : (codec.decodedBytes answers packetbuf).length ≤ entry.audioBuffer.length := by
    rw [size, entry.sized]
    apply RaopBuffer.decode_le
  have stores : store entry.audioBuffer 0 (codec.decodedBytes answers packetbuf) =
      some (codec.decodedBytes answers packetbuf ++
        entry.audioBuffer.drop (codec.decodedBytes answers packetbuf).length) := by
    apply store_append [] entry.audioBuffer _ room
  unfold StreamCodec.fill
  split
  · next failed => exact absurd (failed.symm.trans stores) (by simp)
  · next cells stored =>
      refine ⟨_, rfl, rfl, rfl, rfl, ?_⟩
      have written := Option.some.inj (stored.symm.trans stores)
      simp only [BufferEntry.frame, written]
      rw [List.take_left' size]

theorem field_eq {data : Bytes} {index width : Nat} (inside : index + width ≤ data.length) :
    field data index width = some (Octets.toNat ((data.drop index).take width)) := by
  rw [field, loadMany, if_pos inside, Option.map_some]

theorem payload_eq {data : Bytes} (long : 12 < data.length) :
    loadMany data 12 (data.length - 12) = some (data.drop 12) := by
  rw [loadMany, if_pos (by omega)]
  congr 1
  apply List.take_of_length_le
  rw [List.length_drop]

/-- Either the entry of a packet stays free, or it holds the frame of the packet. -/
theorem StreamBuffer.enter_eq (buffer : StreamBuffer) (answers : Answers) {data : Bytes}
    (seqnum : UInt16) (long : 12 < data.length) :
    (∃ entry : BufferEntry, buffer.codec.frame answers data = none ∧ entry.available = false ∧
      buffer.enter answers data seqnum = some (0, buffer.setEntry seqnum entry)) ∨
    (∃ entry : BufferEntry, buffer.codec.frame answers data = some entry.frame ∧
      entry.available = true ∧ entry.seqnum = seqnum ∧
      buffer.enter answers data seqnum =
        some (1, (buffer.setEntry seqnum entry).extend seqnum)) := by
  have flags : load data 0 = some data[0] := List.getElem?_eq_getElem (by omega)
  have type : load data 1 = some data[1] := List.getElem?_eq_getElem (by omega)
  have payload := payload_eq long
  have timestamp := @field_eq data 4 4 (by omega)
  have ssrc := @field_eq data 8 4 (by omega)
  unfold StreamBuffer.enter
  simp only [flags, type, payload, timestamp, ssrc, Option.bind_eq_bind, Option.bind_some]
  by_cases allocated : answers.malloc = false
  · refine Or.inl ⟨_, ?_, ?_, if_pos allocated⟩
    · simp [StreamCodec.frame, allocated]
    · rfl
  · rw [if_neg allocated]
    obtain ⟨filled, fills, available, number, size, frame⟩ :=
      buffer.codec.fill_eq answers (buffer.codec.decrypted (data.drop 12))
        { buffer.entries (entryIndex seqnum) with
          flags := data[0]
          type := data[1]
          seqnum := seqnum
          timestamp := UInt32.ofNat (Octets.toNat ((data.drop 4).take 4))
          ssrc := UInt32.ofNat (Octets.toNat ((data.drop 8).take 4))
          available := true }
    rw [fills, Option.bind_some]
    by_cases nothing : filled.audioBufferLen = 0
    · refine Or.inl ⟨_, ?_, ?_, if_pos nothing⟩
      · rw [size] at nothing
        simp [StreamCodec.frame, nothing]
      · rfl
    · refine Or.inr ⟨filled, ?_, available, number, if_neg nothing⟩
      rw [size] at nothing
      have heard : answers.malloc = true := by simpa using allocated
      rw [frame, StreamCodec.frame]
      exact if_pos ⟨heard, nothing⟩

/-! ## The window -/

def slot (number : Int) : Fin raopBufferLength :=
  ⟨(number % 64).toNat, by
    change (number % 64).toNat < 64
    omega⟩

def BufferEntry.Shows (entry : BufferEntry) (number : Int) : Option DecodedFrame → Prop
  | none => entry.available = false
  | some frame =>
      entry.available = true ∧ (entry.seqnum.toNat : Int) = number % 2 ^ 16 ∧ entry.frame = frame

/-- A buffer that has been given a packet, and the window of the numbers that are due. -/
structure StreamBuffer.Follows (buffer : StreamBuffer)
    (window : ReorderWindow DecodedFrame raopBufferLength) : Prop where
  started : buffer.isEmpty = false
  first : (buffer.firstSeqnum.toNat : Int) = window.next % 2 ^ 16
  last : (buffer.lastSeqnum.toNat : Int) = (window.stop - 1) % 2 ^ 16
  entries : ∀ number, window.next ≤ number → number < window.next + raopBufferLength →
    (buffer.entries (slot number)).Shows number (window.held number)

def StreamBuffer.Vacant (buffer : StreamBuffer) : Prop :=
  ∀ index, (buffer.entries index).available = false

def StreamBuffer.Represents (buffer : StreamBuffer) :
    Option (ReorderWindow DecodedFrame raopBufferLength) → Prop
  | none => buffer.isEmpty = true ∧ buffer.Vacant
  | some window => buffer.Follows window

theorem slot_of_field {seqnum : UInt16} {number : Int}
    (written : (seqnum.toNat : Int) = number % 2 ^ 16) : entryIndex seqnum = slot number := by
  apply Fin.ext
  dsimp only [entryIndex, slot, raopBufferLength]
  omega

theorem slot_inj {first second : Int} (same : slot first = slot second)
    (behind : first < second + raopBufferLength) (ahead : second < first + raopBufferLength) :
    first = second := by
  have index := congrArg Fin.val same
  dsimp only [slot, raopBufferLength] at index behind ahead
  omega

theorem seqnumCmp_eq {s1 s2 : UInt16} {number origin : Int}
    (first : (s1.toNat : Int) = number % 2 ^ 16) (second : (s2.toNat : Int) = origin % 2 ^ 16)
    (above : -2 ^ 15 ≤ number - origin) (below : number - origin < 2 ^ 15) :
    seqnumCmp s1 s2 = number - origin := by
  apply SerialNumber.distance_eq
  · exact first
  · exact second
  · exact above
  · exact below

/-! ### Flushing -/

theorem StreamBuffer.flush_vacant (buffer : StreamBuffer) (nextSeq : Int) :
    (buffer.flush nextSeq).Vacant := by
  intro index
  unfold StreamBuffer.flush
  split_ifs
  · rfl
  · rfl

@[simp]
theorem StreamBuffer.flush_codec (buffer : StreamBuffer) (nextSeq : Int) :
    (buffer.flush nextSeq).codec = buffer.codec := by
  unfold StreamBuffer.flush
  split_ifs
  · rfl
  · rfl

theorem StreamBuffer.flush_waits (buffer : StreamBuffer) {nextSeq : Int}
    (outside : nextSeq < 0 ∨ 0xffff < nextSeq) : (buffer.flush nextSeq).Represents none := by
  refine ⟨?_, buffer.flush_vacant nextSeq⟩
  rw [StreamBuffer.flush, if_pos outside]

/-- A flush with a sequence number moves the window there. -/
theorem StreamBuffer.flush_moves {buffer : StreamBuffer} {number : Int}
    {window : Option (ReorderWindow DecodedFrame raopBufferLength)}
    (represents : buffer.Represents window) :
    (buffer.flush (number % 2 ^ 16)).Represents
      (window.map fun _ => ReorderWindow.empty raopBufferLength number) := by
  have inside : ¬ (number % 2 ^ 16 < 0 ∨ 0xffff < number % 2 ^ 16) := by omega
  have vacant := buffer.flush_vacant (number % 2 ^ 16)
  cases window with
  | none =>
      refine ⟨?_, vacant⟩
      rw [StreamBuffer.flush, if_neg inside]
      exact represents.1
  | some window =>
      have started : buffer.isEmpty = false := StreamBuffer.Follows.started represents
      have moved : ((UInt16.ofNat (number % 2 ^ 16).toNat).toNat : Int) = number % 2 ^ 16 := by
        rw [UInt16.toNat_ofNat']
        omega
      refine ⟨?_, ?_, ?_, fun other _ _ => vacant (slot other)⟩
      · rw [StreamBuffer.flush, if_neg inside]
        exact started
      · rw [StreamBuffer.flush, if_neg inside]
        exact moved
      · rw [StreamBuffer.flush, if_neg inside]
        dsimp only [ReorderWindow.empty]
        rw [UInt16.toNat_sub]
        have one : (1 : UInt16).toNat = 1 := rfl
        omega

/-! ### Queueing -/

theorem StreamBuffer.setEntry_vacant {buffer : StreamBuffer} {seqnum : UInt16} {entry : BufferEntry}
    (vacant : buffer.Vacant) (free : entry.available = false) :
    (buffer.setEntry seqnum entry).Vacant := by
  intro index
  by_cases same : index = entryIndex seqnum
  · subst same
    simpa using free
  · simpa [same] using vacant index

theorem StreamBuffer.setEntry_shows {buffer : StreamBuffer} {seqnum : UInt16} {entry : BufferEntry}
    {window : ReorderWindow DecodedFrame raopBufferLength} {number : Int}
    {value : Option DecodedFrame}
    (follows : buffer.Follows window) (written : (seqnum.toNat : Int) = number % 2 ^ 16)
    (due : window.next ≤ number) (near : number < window.next + raopBufferLength)
    (shows : entry.Shows number value) (other : Int) (otherDue : window.next ≤ other)
    (otherNear : other < window.next + raopBufferLength) :
    ((buffer.setEntry seqnum entry).entries (slot other)).Shows other
      (Function.update window.held number value other) := by
  rw [StreamBuffer.setEntry_entries, slot_of_field written]
  by_cases same : other = number
  · subst same
    simpa using shows
  · have apart : slot other ≠ slot number := fun equal =>
      same (slot_inj equal (by omega) (by omega))
    rw [Function.update_of_ne apart, Function.update_of_ne same]
    exact follows.entries other otherDue otherNear

/-- A number behind the window moves it. -/
theorem StreamBuffer.room_follows {buffer : StreamBuffer} {seqnum : UInt16}
    {window : ReorderWindow DecodedFrame raopBufferLength} {number : Int}
    (follows : buffer.Follows window) (written : (seqnum.toNat : Int) = number % 2 ^ 16)
    (due : window.next ≤ number) (near : number < window.next + 2 ^ 15) :
    (if seqnumCmp seqnum (buffer.firstSeqnum + UInt16.ofNat raopBufferLength) ≥ 0 then
      buffer.flush seqnum.toNat
    else buffer).Follows (window.room number) := by
  have wrapped : ((buffer.firstSeqnum + UInt16.ofNat raopBufferLength).toNat : Int) =
      (window.next + 64) % 2 ^ 16 := by
    have first := follows.first
    have size : (UInt16.ofNat raopBufferLength).toNat = 64 := rfl
    rw [UInt16.toNat_add, size]
    omega
  have distance : seqnumCmp seqnum (buffer.firstSeqnum + UInt16.ofNat raopBufferLength) =
      number - (window.next + 64) :=
    seqnumCmp_eq written wrapped (by omega) (by omega)
  rw [distance, ReorderWindow.room]
  by_cases far : window.next + raopBufferLength ≤ number
  · have jump : number - (window.next + 64) ≥ 0 := by
      have bound : window.next + 64 ≤ number := far
      omega
    rw [if_pos jump, if_pos far, written]
    exact @StreamBuffer.flush_moves buffer number (some window) follows
  · have stay : ¬ number - (window.next + 64) ≥ 0 := by
      have bound : ¬ window.next + 64 ≤ number := far
      omega
    rw [if_neg stay, if_neg far]
    exact follows

theorem raopBufferLength_pos : 0 < raopBufferLength := by decide

theorem StreamBuffer.extend_started {buffer : StreamBuffer} (seqnum : UInt16)
    (started : buffer.isEmpty = false) :
    buffer.extend seqnum =
      { buffer with
        lastSeqnum :=
          if seqnumCmp seqnum buffer.lastSeqnum > 0 then seqnum else buffer.lastSeqnum } := by
  rcases buffer with ⟨codec, isEmpty, firstSeqnum, lastSeqnum, entries⟩
  dsimp only at started
  subst started
  simp only [StreamBuffer.extend, Bool.false_eq_true, if_false]
  split
  · rfl
  · rfl

theorem StreamBuffer.extend_waiting {buffer : StreamBuffer} (seqnum : UInt16)
    (waiting : buffer.isEmpty = true) :
    buffer.extend seqnum =
      { buffer with firstSeqnum := seqnum, lastSeqnum := seqnum, isEmpty := false } := by
  have same : seqnumCmp seqnum seqnum = 0 := by
    rw [seqnumCmp, SerialNumber.distance, sub_self]
    rfl
  simp only [StreamBuffer.extend, waiting, if_true, same, gt_iff_lt, lt_irrefl, if_false]

/-- A packet for a free entry of the window. -/
theorem StreamBuffer.enter_follows {buffer : StreamBuffer} {seqnum : UInt16}
    {window : ReorderWindow DecodedFrame raopBufferLength} {number : Int} (answers : Answers)
    {data : Bytes} (follows : buffer.Follows window)
    (written : (seqnum.toNat : Int) = number % 2 ^ 16) (due : window.next ≤ number)
    (near : number < window.next + raopBufferLength) (free : window.held number = none)
    (long : 12 < data.length) :
    ∃ result after, buffer.enter answers data seqnum = some (result, after) ∧ 0 ≤ result ∧
      after.codec = buffer.codec ∧
      after.Follows
        (match buffer.codec.frame answers data with
        | none => window
        | some frame => window.insert number frame due near) := by
  rcases buffer.enter_eq answers seqnum long with
    ⟨entry, nothing, unavailable, entered⟩ | ⟨entry, decoded, available, numbered, entered⟩
  · refine ⟨0, _, entered, le_refl 0, rfl, ?_⟩
    rw [nothing]
    refine ⟨follows.started, follows.first, follows.last, fun other otherDue otherNear => ?_⟩
    have shows : entry.Shows number none := unavailable
    have shown := StreamBuffer.setEntry_shows follows written due near shows other otherDue
      otherNear
    rwa [← free, Function.update_eq_self] at shown
  · have started : (buffer.setEntry seqnum entry).isEmpty = false := follows.started
    rw [StreamBuffer.extend_started _ started] at entered
    refine ⟨1, _, entered, by decide, rfl, ?_⟩
    · rw [decoded]
      have ordered := window.ordered
      have short := window.short
      have size : (raopBufferLength : Int) = 64 := rfl
      have distance : seqnumCmp seqnum (buffer.setEntry seqnum entry).lastSeqnum =
          number - (window.stop - 1) :=
        seqnumCmp_eq written follows.last (by omega) (by omega)
      refine ⟨follows.started, follows.first, ?_, fun other otherDue otherNear => ?_⟩
      · rw [ReorderWindow.insert_stop]
        dsimp only
        split
        · next newer =>
            rw [distance] at newer
            rw [max_eq_right (by omega), add_sub_cancel_right]
            exact written
        · next older =>
            rw [distance] at older
            rw [max_eq_left (by omega)]
            exact follows.last
      · have shows : entry.Shows number (some entry.frame) := by
          refine ⟨available, ?_, rfl⟩
          rw [numbered]
          exact written
        exact StreamBuffer.setEntry_shows follows written due near shows other otherDue otherNear

/-- The first packet of a stream. -/
theorem StreamBuffer.enter_waiting {buffer : StreamBuffer} {seqnum : UInt16} {number : Int}
    (answers : Answers) {data : Bytes} (waiting : buffer.Represents none)
    (written : (seqnum.toNat : Int) = number % 2 ^ 16) (long : 12 < data.length) :
    ∃ result after, buffer.enter answers data seqnum = some (result, after) ∧ 0 ≤ result ∧
      after.codec = buffer.codec ∧
      after.Represents (ReorderWindow.step raopBufferLength_pos none
        (.arrive number (buffer.codec.frame answers data))) := by
  rcases buffer.enter_eq answers seqnum long with
    ⟨entry, nothing, unavailable, entered⟩ | ⟨entry, decoded, available, numbered, entered⟩
  · refine ⟨0, _, entered, le_refl 0, rfl, ?_⟩
    rw [nothing]
    exact ⟨waiting.1, StreamBuffer.setEntry_vacant waiting.2 unavailable⟩
  · have waits : (buffer.setEntry seqnum entry).isEmpty = true := waiting.1
    rw [StreamBuffer.extend_waiting _ waits] at entered
    refine ⟨1, _, entered, by decide, rfl, ?_⟩
    · rw [decoded, ReorderWindow.step, ReorderWindow.arrive_empty]
      have ahead : max number (number + 1) = number + 1 := max_eq_right (by omega)
      refine ⟨rfl, written, ?_, fun other otherDue otherNear => ?_⟩
      · rw [ReorderWindow.insert_stop]
        dsimp only [ReorderWindow.empty]
        rw [ahead, add_sub_cancel_right]
        exact written
      · rw [ReorderWindow.insert_held]
        dsimp only [StreamBuffer.setEntry_entries, ReorderWindow.empty]
        rw [slot_of_field written]
        by_cases same : other = number
        · subst same
          rw [Function.update_self, Function.update_self]
          refine ⟨available, ?_, rfl⟩
          rw [numbered]
          exact written
        · have apart : slot other ≠ slot number := fun equal => by
            rw [ReorderWindow.insert_next] at otherDue otherNear
            dsimp only [ReorderWindow.empty] at otherDue otherNear
            exact same (slot_inj equal (by omega) (by omega))
          rw [Function.update_of_ne apart, Function.update_of_ne same]
          exact waiting.2 (slot other)

/-- A packet with a number of the window. -/
theorem StreamBuffer.settle_follows {buffer : StreamBuffer} {seqnum : UInt16}
    {window : ReorderWindow DecodedFrame raopBufferLength} {number : Int} (answers : Answers)
    {data : Bytes} (follows : buffer.Follows window)
    (written : (seqnum.toNat : Int) = number % 2 ^ 16) (due : window.next ≤ number)
    (near : number < window.next + raopBufferLength) (long : 12 < data.length) :
    ∃ result after,
      (if (buffer.entries (entryIndex seqnum)).available = true ∧
          seqnumCmp (buffer.entries (entryIndex seqnum)).seqnum seqnum = 0 then some (0, buffer)
        else buffer.enter answers data seqnum) = some (result, after) ∧
      0 ≤ result ∧ after.codec = buffer.codec ∧
      after.Follows (window.accept number (buffer.codec.frame answers data) due near) := by
  have shown := follows.entries number due near
  rw [← slot_of_field written] at shown
  cases present : window.held number with
  | some held =>
      rw [present] at shown
      have same : seqnumCmp (buffer.entries (entryIndex seqnum)).seqnum seqnum =
          number - number :=
        seqnumCmp_eq shown.2.1 written (by omega) (by omega)
      rw [sub_self] at same
      rw [if_pos ⟨shown.1, same⟩, ReorderWindow.accept_known present]
      exact ⟨0, buffer, rfl, le_refl 0, rfl, follows⟩
  | none =>
      rw [present] at shown
      have free : (buffer.entries (entryIndex seqnum)).available = false := shown
      rw [free, if_neg (by simp)]
      obtain ⟨result, after, entered, accepted, keptCodec, holds⟩ :=
        StreamBuffer.enter_follows answers follows written due near present long
      refine ⟨result, after, entered, accepted, keptCodec, ?_⟩
      cases decoded : buffer.codec.frame answers data with
      | none =>
          rw [decoded] at holds
          rw [ReorderWindow.accept_unread]
          exact holds
      | some frame =>
          rw [decoded] at holds
          rw [ReorderWindow.accept_first present]
          exact holds

/-- A packet reaches the place of its number. -/
theorem StreamBuffer.place_represents {buffer : StreamBuffer} {seqnum : UInt16} {number : Int}
    {window : Option (ReorderWindow DecodedFrame raopBufferLength)} (answers : Answers)
    {data : Bytes} (represents : buffer.Represents window)
    (written : (seqnum.toNat : Int) = number % 2 ^ 16) (long : 12 < data.length)
    (above : ∀ present, window = some present → present.next - 2 ^ 15 ≤ number)
    (below : ∀ present, window = some present → number < present.next + 2 ^ 15) :
    ∃ result after, buffer.place answers data seqnum = some (result, after) ∧ 0 ≤ result ∧
      after.codec = buffer.codec ∧
      after.Represents (ReorderWindow.step raopBufferLength_pos window
        (.arrive number (buffer.codec.frame answers data))) := by
  cases window with
  | none =>
      have flushed : ∀ moved : StreamBuffer, (moved = buffer ∨ moved = buffer.flush seqnum.toNat) →
          moved.codec = buffer.codec ∧ moved.Represents none := by
        rintro moved (rfl | rfl)
        · exact ⟨rfl, represents⟩
        · refine ⟨buffer.flush_codec _, ?_⟩
          rw [written]
          exact @StreamBuffer.flush_moves buffer number none represents
      obtain ⟨moved, choice, place⟩ : ∃ moved : StreamBuffer,
          (moved = buffer ∨ moved = buffer.flush seqnum.toNat) ∧
            buffer.place answers data seqnum = moved.enter answers data seqnum := by
        have waiting : buffer.isEmpty = true := represents.1
        by_cases far : seqnumCmp seqnum
            (buffer.firstSeqnum + UInt16.ofNat raopBufferLength) ≥ 0
        · refine ⟨_, Or.inr rfl, ?_⟩
          have free := buffer.flush_vacant seqnum.toNat (entryIndex seqnum)
          simp [StreamBuffer.place, waiting, far, free]
        · refine ⟨_, Or.inl rfl, ?_⟩
          have free := represents.2 (entryIndex seqnum)
          simp [StreamBuffer.place, waiting, far, free]
      obtain ⟨sameCodec, waiting⟩ := flushed moved choice
      rw [place, ← sameCodec]
      apply StreamBuffer.enter_waiting answers waiting written long
  | some window =>
      have follows : buffer.Follows window := represents
      have lower := above window rfl
      have upper := below window rfl
      have distance : seqnumCmp seqnum buffer.firstSeqnum = number - window.next :=
        seqnumCmp_eq written follows.first (by omega) (by omega)
      rw [ReorderWindow.step]
      rcases lt_or_ge number window.next with late | due
      · rw [ReorderWindow.arrive_late late]
        refine ⟨0, buffer, ?_, le_refl 0, rfl, follows⟩
        exact if_pos ⟨follows.started, by rw [distance]; omega⟩
      · rw [ReorderWindow.arrive_due due]
        have inTime : ¬ (buffer.isEmpty = false ∧ seqnumCmp seqnum buffer.firstSeqnum < 0) := by
          rw [distance]
          omega
        have moved := StreamBuffer.room_follows follows written due upper
        have sameCodec : (if seqnumCmp seqnum
            (buffer.firstSeqnum + UInt16.ofNat raopBufferLength) ≥ 0 then
              buffer.flush seqnum.toNat else buffer).codec = buffer.codec := by
          split
          · exact buffer.flush_codec _
          · rfl
        unfold StreamBuffer.place
        rw [if_neg inTime]
        generalize (if seqnumCmp seqnum (buffer.firstSeqnum + UInt16.ofNat raopBufferLength) ≥ 0
          then buffer.flush seqnum.toNat else buffer) = roomy at moved sameCodec ⊢
        have settled := StreamBuffer.settle_follows answers moved written
          (ReorderWindow.room_due due)
          (ReorderWindow.room_near raopBufferLength_pos window number) long
        rw [sameCodec] at settled
        exact settled

def Sequenced (data : Bytes) : Prop :=
  12 < data.length ∧ data.length ≤ raopPacketLen ∧ ¬ (data.length = 16 ∧ data.drop 12 = marker)

instance (data : Bytes) : Decidable (Sequenced data) :=
  inferInstanceAs (Decidable (_ ∧ _ ∧ ¬ (_ ∧ _)))

def sequenceNumber (data : Bytes) : UInt16 :=
  UInt16.ofNat (Octets.toNat ((data.drop 2).take 2))

/-- Any other packet is ignored. -/
theorem StreamBuffer.queue_eq (buffer : StreamBuffer) (answers : Answers) (data : Bytes) :
    buffer.queue answers data =
      if Sequenced data then buffer.place answers data (sequenceNumber data)
      else some (0, buffer) := by
  by_cases size : data.length ≤ 12 ∨ raopPacketLen < data.length
  · have ignored : ¬ Sequenced data := fun sequenced => by
      rcases size with short | long
      · exact absurd sequenced.1 (Nat.not_lt.mpr short)
      · exact absurd sequenced.2.1 (Nat.not_le.mpr long)
    rw [if_neg ignored]
    exact if_pos size
  · have bounds : 12 < data.length ∧ data.length ≤ raopPacketLen := by omega
    have number := @field_eq data 2 2 (by omega)
    have none : ([] : Bytes) ≠ marker := (List.cons_ne_nil _ _).symm
    unfold StreamBuffer.queue
    simp only [if_neg size, number, Option.bind_eq_bind, Option.bind_some]
    by_cases exact : data.length = 16
    · have tail : loadMany data 12 4 = some (data.drop 12) := by
        rw [loadMany, if_pos (by omega)]
        congr 1
        apply List.take_of_length_le
        rw [List.length_drop]
        omega
      rw [if_pos exact, tail, Option.bind_some]
      by_cases repeated : data.drop 12 = marker
      · rw [if_pos repeated, if_neg fun sequenced => sequenced.2.2 ⟨exact, repeated⟩]
      · rw [if_neg repeated, if_pos ⟨bounds.1, bounds.2, fun both => repeated both.2⟩]
        rfl
    · simp only [if_neg exact, if_neg none]
      rw [if_pos ⟨bounds.1, bounds.2, fun both => exact both.1⟩]
      rfl

/-! ### Handing out -/

def DecodedFrame.format (frame : DecodedFrame) : StreamFormat where
  pts := some frame.timestamp
  sampleRate := frame.sampleRate
  channels := frame.channels
  bitsPerSample := frame.bitsPerSample

/-- What is handed out for a packet that did not arrive. -/
def silence : Bytes := List.replicate audioBufferSize 0

theorem length_silence : silence.length = audioBufferSize := List.length_replicate

theorem StreamBuffer.buflen_follows {buffer : StreamBuffer}
    {window : ReorderWindow DecodedFrame raopBufferLength} (follows : buffer.Follows window) :
    buffer.buflen = window.stop - window.next := by
  have ordered := window.ordered
  have short : window.stop ≤ window.next + 64 := window.short
  have distance : seqnumCmp buffer.lastSeqnum buffer.firstSeqnum =
      window.stop - 1 - window.next :=
    seqnumCmp_eq follows.last follows.first (by omega) (by omega)
  rw [StreamBuffer.buflen, distance, Int.bmod_def]
  omega

/-- The value of the number that is due is handed out, or silence under the format before. -/
theorem StreamBuffer.takeFirst_follows {buffer : StreamBuffer}
    {window : ReorderWindow DecodedFrame raopBufferLength} (format : StreamFormat)
    (follows : buffer.Follows window) (behind : window.next < window.stop) :
    (buffer.takeFirst format).buffer.Follows (window.advance behind) ∧
      match window.held window.next with
      | none =>
          (buffer.takeFirst format).audio = silence ∧ (buffer.takeFirst format).format = format
      | some frame =>
          (buffer.takeFirst format).audio = frame.audio ∧
            (buffer.takeFirst format).format = frame.format := by
  have nextDue : window.next < window.next + raopBufferLength :=
    Int.lt_add_of_pos_right _ (by decide)
  have shown := follows.entries window.next (le_refl _) nextDue
  rw [← slot_of_field follows.first] at shown
  obtain ⟨first, last, started, -⟩ := buffer.takeFirst_frame format
  have one : (1 : UInt16).toNat = 1 := rfl
  have moves : ∀ entry : BufferEntry, entry.available = false →
      (buffer.takeFirst format).buffer.entries =
        Function.update buffer.entries (entryIndex buffer.firstSeqnum) entry →
      (buffer.takeFirst format).buffer.Follows (window.advance behind) := by
    intro entry free entries
    refine ⟨started.trans follows.started, ?_, ?_, fun number due near => ?_⟩
    · have firstField := follows.first
      rw [first, UInt16.toNat_add, one, ReorderWindow.advance_next]
      omega
    · rw [last]
      exact follows.last
    · rw [entries, ReorderWindow.advance_held, slot_of_field follows.first]
      rw [ReorderWindow.advance_next] at due near
      have other : number ≠ window.next := by omega
      rw [Function.update_of_ne other]
      by_cases far : number = window.next + raopBufferLength
      · -- the number at the far end takes over the entry
        have same : slot number = slot window.next := by
          apply Fin.ext
          dsimp only [slot, raopBufferLength] at far ⊢
          omega
        have missing : window.held number = none := by
          cases present : window.held number with
          | none => rfl
          | some frame =>
              have within := window.inside number (by rw [present]; rfl)
              have short := window.short
              exact absurd within.2 (by omega)
        rw [same, Function.update_self, missing]
        exact free
      · have apart : slot number ≠ slot window.next := fun equal =>
          other (slot_inj equal (by omega) (by omega))
        rw [Function.update_of_ne apart]
        exact follows.entries number (by omega) (by omega)
  cases present : window.held window.next with
  | none =>
      rw [present] at shown
      have free : (buffer.entries (entryIndex buffer.firstSeqnum)).available = false := shown
      have taken : buffer.takeFirst format = _ := if_neg (by rw [free]; decide)
      refine ⟨moves (buffer.entries (entryIndex buffer.firstSeqnum)).silenced free ?_, ?_, ?_⟩
      · rw [taken]
        rfl
      · rw [taken]
        rfl
      · rw [taken]
  | some frame =>
      rw [present] at shown
      have taken : buffer.takeFirst format = _ := if_pos shown.1
      refine ⟨moves { buffer.entries (entryIndex buffer.firstSeqnum) with
        available := false, audioBufferLen := 0 } rfl ?_, ?_, ?_⟩
      · rw [taken]
        rfl
      · rw [taken, ← shown.2.2]
        rfl
      · rw [taken, ← shown.2.2]
        rfl

end AirTizen.Audio
