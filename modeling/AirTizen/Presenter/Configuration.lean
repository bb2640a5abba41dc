import AirTizen.Presenter.Host

/-!
# Every decoder gets its own configuration first

`Pump` reads the flags in one critical section and takes a packet in another.
While no configuration arrives between the two, the packet continues what the
decoder was given; one that does arrive there goes to the old decoder, and the
new one misses it.
-/

namespace AirTizen.Presenter

open CText Machine

variable {host : Host} {ledger : Ledger} {watched : Watched}

/-- The second critical section of `Pump` runs while no configuration waits for
its decoder. -/
def Unraced (watched : Watched) : Action → Prop
  | .take => watched.host.main = .taking → watched.host.configure = false
  | _ => True

/-- What a decoder can still be given: the configuration, then the queue. -/
def Host.pending (host : Host) : List Packet := host.config.toList ++ host.queue

theorem take_cases (host : Host) :
    (host.pending = [] ∧ host.take = ({ host with main := .idle }, none)) ∨
    ∃ packet config queue queuedBytes,
      host.pending = packet :: (config.toList ++ queue) ∧
      host.take =
        ({ host with
            config := config, queue := queue, queuedBytes := queuedBytes
            decoding := true, main := .idle },
          host.decoder.map fun decoder => Observation.decode decoder packet) := by
  unfold Host.take Host.next Host.pending
  cases config : host.config with
  | some packet => exact .inr ⟨packet, none, host.queue, host.queuedBytes, rfl, rfl⟩
  | none =>
      cases queue : host.queue with
      | nil => exact .inl ⟨rfl, rfl⟩
      | cons packet rest =>
          exact .inr ⟨packet, none, rest, host.queuedBytes - packet.bytes.length, rfl,
            by simp only⟩

/-! ## The books -/

structure Booked (host : Host) (ledger : Ledger) : Prop where
  epoch : ledger.epoch = host.epoch
  stream : ∀ epoch, ∀ packet ∈ ledger.stream epoch, packet.epoch = epoch
  fresh : ∀ decoder, host.decoders ≤ decoder → ledger.packets decoder = []
  current : ∀ decoder ∈ host.decoder, decoder < host.decoders
  origin : ∀ decoder, ledger.origin decoder ≤ host.epoch

/-- What a step does to the numbers, by what the outside sees of it. -/
def Host.Numbered (host after : Host) : Option Observation → Prop
  | none =>
      after.epoch = host.epoch ∧ after.decoders = host.decoders ∧
        (after.decoder = host.decoder ∨ after.decoder = none)
  | some (.configured packet) =>
      packet.epoch = host.epoch + 1 ∧ after.epoch = host.epoch + 1 ∧
        after.decoders = host.decoders ∧ after.decoder = host.decoder
  | some (.accepted packet) =>
      packet.epoch = host.epoch ∧ after.epoch = host.epoch ∧
        after.decoders = host.decoders ∧ after.decoder = host.decoder
  | some (.opened decoder epoch) =>
      decoder = host.decoders ∧ epoch = host.epoch ∧ after.epoch = host.epoch ∧
        after.decoders = host.decoders + 1 ∧ after.decoder = some host.decoders
  | some (.decode decoder _) =>
      host.decoder = some decoder ∧ after.epoch = host.epoch ∧
        after.decoders = host.decoders ∧ after.decoder = host.decoder

theorem postLocked_numbers (host : Host) :
    host.postLocked.epoch = host.epoch ∧ host.postLocked.decoders = host.decoders ∧
      host.postLocked.decoder = host.decoder := by
  unfold Host.postLocked
  by_cases posted : host.posted = true
  · simp only [if_pos posted, and_self]
  · simp only [if_neg posted, and_self]

theorem postLocked_numbered {other : Host} (epoch : other.epoch = host.epoch)
    (decoders : other.decoders = host.decoders) (decoder : other.decoder = host.decoder) :
    host.Numbered other.postLocked none := by
  obtain ⟨sameEpoch, sameDecoders, sameDecoder⟩ := postLocked_numbers other
  exact ⟨sameEpoch.trans epoch, sameDecoders.trans decoders, .inl (sameDecoder.trans decoder)⟩

theorem configureWith_numbered (host : Host) (data : Bytes) (allocated : Bool) :
    host.Numbered (host.configureWith data allocated).1
      (host.configureWith data allocated).2 := by
  unfold Host.configureWith
  split
  · exact ⟨rfl, rfl, .inl rfl⟩
  · split
    · exact ⟨rfl, rfl, .inl rfl⟩
    · split
      · exact postLocked_numbered rfl rfl rfl
      · exact ⟨rfl, postLocked_numbers _⟩

theorem frame_numbered (host : Host) (data : Bytes) (copied pushed : Bool) :
    host.Numbered (host.frame data copied pushed).1 (host.frame data copied pushed).2 := by
  unfold Host.frame
  split
  · exact ⟨rfl, rfl, .inl rfl⟩
  · split
    · exact ⟨rfl, rfl, .inl rfl⟩
    · split
      · exact postLocked_numbered rfl rfl rfl
      · split
        · exact postLocked_numbered rfl rfl rfl
        · split
          · exact postLocked_numbered rfl rfl rfl
          · exact ⟨rfl, postLocked_numbers _⟩

theorem enter_numbered (host : Host) (opened : Bool) :
    host.Numbered (host.enter opened).1 (host.enter opened).2 := by
  unfold Host.enter
  simp only
  split
  · exact ⟨rfl, rfl, .inl rfl⟩
  · split
    · exact ⟨rfl, rfl, .inr rfl⟩
    · split
      · exact ⟨rfl, rfl, .inl rfl⟩
      · split
        · split
          · exact ⟨rfl, rfl, .inr rfl⟩
          · exact ⟨rfl, rfl, rfl, rfl, rfl⟩
        · split
          · exact ⟨rfl, rfl, .inl rfl⟩
          · exact ⟨rfl, rfl, .inl rfl⟩

theorem take_numbered (host : Host) : host.Numbered host.take.1 host.take.2 := by
  rcases take_cases host with ⟨_, taken⟩ | ⟨packet, config, queue, queuedBytes, _, taken⟩
  · rw [taken]
    exact ⟨rfl, rfl, .inl rfl⟩
  · rw [taken]
    cases current : host.decoder with
    | none => exact ⟨rfl, rfl, .inl current.symm⟩
    | some number => exact ⟨current, rfl, rfl, current.symm⟩

theorem perform_numbered (host : Host) (action : Action) :
    host.Numbered (host.perform action).1 (host.perform action).2 := by
  cases action with
  | configure data allocated => exact configureWith_numbered host data allocated
  | frame data copied pushed => exact frame_numbered host data copied pushed
  | reset => exact postLocked_numbered rfl rfl rfl
  | enable enabled => exact postLocked_numbered rfl rfl rfl
  | shutdown => exact ⟨rfl, rfl, .inr rfl⟩
  | pump | presentationFailed | fail => exact ⟨rfl, rfl, .inl rfl⟩
  | initialized result => cases result <;> exact ⟨rfl, rfl, .inl rfl⟩
  | decoded result => cases result <;> exact ⟨rfl, rfl, .inl rfl⟩
  | enter opened => exact enter_numbered host opened
  | take => exact take_numbered host

theorem step_numbered (host : Host) (action : Action) :
    host.Numbered (host.step action).1 (host.step action).2 := by
  unfold Host.step
  by_cases possible : host.possible action = true
  · rw [if_pos possible]
    exact perform_numbered host action
  · rw [if_neg possible]
    exact ⟨rfl, rfl, .inl rfl⟩

section Numbered

variable {after : Host}

theorem Booked.silent (booked : Booked host ledger) (numbered : host.Numbered after none) :
    Booked after ledger := by
  obtain ⟨epoch, decoders, decoder⟩ := numbered
  exact
    { epoch := booked.epoch.trans epoch.symm
      stream := booked.stream
      fresh := by
        rw [decoders]
        exact booked.fresh
      current := by
        intro number membership
        rw [decoders]
        rcases decoder with same | closed
        · exact booked.current number (same ▸ membership)
        · cases (closed : after.decoder = none) ▸ membership
      origin := by
        rw [epoch]
        exact booked.origin }

theorem Booked.configured (booked : Booked host ledger) {packet : Packet}
    (numbered : host.Numbered after (some (.configured packet))) :
    Booked after (ledger.record (.configured packet)) := by
  obtain ⟨tag, epoch, decoders, decoder⟩ := numbered
  exact
    { epoch := by
        rw [epoch, ← booked.epoch]
        rfl
      stream := by
        intro number other membership
        simp only [Ledger.record] at membership
        by_cases same : number = ledger.epoch + 1
        · rw [same, Function.update_self, List.mem_singleton] at membership
          rw [membership, tag, same, booked.epoch]
        · rw [Function.update_of_ne same] at membership
          exact booked.stream number other membership
      fresh := by
        rw [decoders]
        exact booked.fresh
      current := by
        rw [decoders, decoder]
        exact booked.current
      origin := by
        intro number
        rw [epoch]
        exact (booked.origin number).trans (Nat.le_succ _) }

theorem Booked.accepted (booked : Booked host ledger) {packet : Packet}
    (numbered : host.Numbered after (some (.accepted packet))) :
    Booked after (ledger.record (.accepted packet)) := by
  obtain ⟨tag, epoch, decoders, decoder⟩ := numbered
  exact
    { epoch := by
        rw [epoch, ← booked.epoch]
        rfl
      stream := by
        intro number other membership
        simp only [Ledger.record] at membership
        by_cases same : number = ledger.epoch
        · rw [same, Function.update_self, List.mem_append, List.mem_singleton] at membership
          rcases membership with before | rfl
          · rw [same]
            exact booked.stream _ other before
          · rw [tag, same, booked.epoch]
        · rw [Function.update_of_ne same] at membership
          exact booked.stream number other membership
      fresh := by
        rw [decoders]
        exact booked.fresh
      current := by
        rw [decoders, decoder]
        exact booked.current
      origin := by
        rw [epoch]
        exact booked.origin }

theorem Booked.opened (booked : Booked host ledger) {number origin : Nat}
    (numbered : host.Numbered after (some (.opened number origin))) :
    Booked after (ledger.record (.opened number origin)) := by
  obtain ⟨rfl, rfl, epoch, decoders, decoder⟩ := numbered
  exact
    { epoch := by
        rw [epoch, ← booked.epoch]
        rfl
      stream := booked.stream
      fresh := by
        intro other later
        rw [decoders] at later
        exact booked.fresh other (by omega)
      current := by
        intro other membership
        rw [decoder, Option.mem_some_iff] at membership
        rw [decoders]
        omega
      origin := by
        intro other
        simp only [Ledger.record]
        rw [epoch]
        by_cases same : other = host.decoders
        · rw [same, Function.update_self]
        · rw [Function.update_of_ne same]
          exact booked.origin other }

theorem Booked.decode (booked : Booked host ledger) {number : Nat} {packet : Packet}
    (numbered : host.Numbered after (some (.decode number packet))) :
    Booked after (ledger.record (.decode number packet)) := by
  obtain ⟨current, epoch, decoders, decoder⟩ := numbered
  exact
    { epoch := by
        rw [epoch, ← booked.epoch]
        rfl
      stream := booked.stream
      fresh := by
        intro other later
        rw [decoders] at later
        have known := booked.current number current
        simp only [Ledger.record]
        rw [Function.update_of_ne (by omega)]
        exact booked.fresh other later
      current := by
        rw [decoders, decoder]
        exact booked.current
      origin := by
        rw [epoch]
        exact booked.origin }

end Numbered

theorem Booked.step (booked : Booked watched.host watched.ledger)
    (action : Action) :
    Booked (watched.step action).host (watched.step action).ledger := by
  have numbered := step_numbered watched.host action
  unfold Watched.step
  revert numbered
  generalize watched.host.step action = result
  obtain ⟨after, observation⟩ := result
  intro numbered
  cases observation with
  | none => exact booked.silent numbered
  | some observation =>
      cases observation with
      | configured packet => exact booked.configured numbered
      | accepted packet => exact booked.accepted numbered
      | opened number origin => exact booked.opened numbered
      | decode number packet => exact booked.decode numbered

/-! ## Flags, configuration and queue -/

structure Followed (host : Host) (ledger : Ledger) : Prop where
  own : ledger.Own
  exclusive : host.reset = true → host.configure = false
  emptied : host.reset = true → host.pending = []
  /-- A configuration that waits comes with all frames behind it. -/
  fetched : host.configure = true → host.failed = false → host.closing = false →
    ledger.stream host.epoch = host.pending
  waiting : host.configure = true → ∃ packet, host.config = some packet ∧ packet.epoch = host.epoch
  stale : host.configure = true → ∀ decoder ∈ host.decoder, ledger.origin decoder < host.epoch
  opened : host.ready = true ∨ host.initializing = true ∨ host.main = .taking →
    host.decoder.isSome = true
  /-- Unless a flag is set, the packets continue those of the decoder. -/
  follows : ∀ decoder ∈ host.decoder,
    host.configure = true ∨ host.reset = true ∨ (host.failed = true ∧ host.main ≠ .taking) ∨
      (ledger.origin decoder = host.epoch ∧
        ledger.packets decoder ++ host.pending = ledger.stream host.epoch)

theorem Followed.postLocked (followed : Followed host ledger) : Followed host.postLocked ledger := by
  unfold Host.postLocked
  by_cases posted : host.posted = true
  · rw [if_pos posted]
    exact followed
  · rw [if_neg posted]
    exact { followed with }

theorem Followed.setFailed (followed : Followed host ledger) :
    Followed { host with failed := true } ledger :=
  { followed with
    fetched := fun _ notFailed => by cases notFailed
    follows := by
      intro decoder membership
      rcases followed.follows decoder membership with
        configure | reset | ⟨_, notTaking⟩ | continues
      · exact .inl configure
      · exact .inr (.inl reset)
      · exact .inr (.inr (.inl ⟨rfl, notTaking⟩))
      · exact .inr (.inr (.inr continues)) }

theorem Followed.configureWith (followed : Followed host ledger) (booked : Booked host ledger)
    (data : Bytes) (allocated : Bool) :
    Followed (host.configureWith data allocated).1
      ((host.configureWith data allocated).2.elim ledger ledger.record) := by
  unfold Host.configureWith
  split
  · exact followed
  · split
    · exact followed
    · split
      · exact followed.setFailed.postLocked
      · apply Followed.postLocked
        exact
          { own := by
              intro decoder
              have older := booked.origin decoder
              simp only [Option.elim, Ledger.record]
              rw [Function.update_of_ne (by rw [booked.epoch]; omega)]
              exact followed.own decoder
            exclusive := fun reset => by cases reset
            emptied := fun reset => by cases reset
            fetched := by
              intro _ _ _
              simp only [Option.elim, Ledger.record, booked.epoch, Function.update_self]
              rfl
            waiting := fun _ => ⟨_, rfl, rfl⟩
            stale := fun _ decoder _ => Nat.lt_succ_of_le (booked.origin decoder)
            opened := followed.opened
            follows := fun _ _ => .inl rfl }

theorem Followed.frame (followed : Followed host ledger) (booked : Booked host ledger)
    (data : Bytes) (copied pushed : Bool) :
    Followed (host.frame data copied pushed).1
      ((host.frame data copied pushed).2.elim ledger ledger.record) := by
  unfold Host.frame
  split
  · exact followed
  · split
    · exact followed
    next accepting =>
      simp only [Bool.or_eq_true, Bool.not_eq_true', not_or, Bool.not_eq_true] at accepting
      split
      · exact followed.setFailed.postLocked
      · split
        · exact followed.setFailed.postLocked
        · split
          · apply Followed.postLocked
            exact { followed.setFailed with }
          · apply Followed.postLocked
            have appended : ∀ packet : Packet,
                ({ host with queue := host.queue ++ [packet] } : Host).pending =
                  host.pending ++ [packet] := by
              intro packet
              exact (List.append_assoc _ _ _).symm
            exact
              { own := by
                  intro decoder
                  simp only [Option.elim, Ledger.record]
                  by_cases latest : ledger.origin decoder = ledger.epoch
                  · rw [latest, Function.update_self, ← latest]
                    exact (followed.own decoder).trans (List.prefix_append _ _)
                  · rw [Function.update_of_ne latest]
                    exact followed.own decoder
                exclusive := followed.exclusive
                emptied := fun reset => by
                  rw [accepting.2] at reset
                  cases reset
                fetched := by
                  intro configure notFailed open_
                  simp only [Option.elim, Ledger.record, booked.epoch, Function.update_self]
                  rw [followed.fetched configure notFailed open_]
                  exact (appended _).symm
                waiting := followed.waiting
                stale := followed.stale
                opened := followed.opened
                follows := by
                  intro decoder membership
                  rcases followed.follows decoder membership with
                    configure | reset | failed | ⟨latest, continues⟩
                  · exact .inl configure
                  · exact .inr (.inl reset)
                  · exact .inr (.inr (.inl failed))
                  · refine .inr (.inr (.inr ⟨latest, ?_⟩))
                    simp only [Option.elim, Ledger.record, booked.epoch, Function.update_self]
                    rw [← continues, List.append_assoc]
                    exact congrArg _ (appended _) }

theorem config_eq_none (empty : host.pending = []) : host.config = none := by
  cases config : host.config with
  | none => rfl
  | some packet => simp [Host.pending, config] at empty

theorem followed_of_reset (own : ledger.Own) (reset : host.reset = true)
    (configure : host.configure = false) (empty : host.pending = [])
    (opened : host.ready = true ∨ host.initializing = true ∨ host.main = .taking →
      host.decoder.isSome = true) : Followed host ledger :=
  { own := own
    exclusive := fun _ => configure
    emptied := fun _ => empty
    fetched := fun waits => by simp [configure] at waits
    waiting := fun waits => by simp [configure] at waits
    stale := fun waits => by simp [configure] at waits
    opened := opened
    follows := fun _ _ => .inr (.inl reset) }

theorem followed_of_lowered (own : ledger.Own) (configure : host.configure = false)
    (reset : host.reset = false)
    (opened : host.ready = true ∨ host.initializing = true ∨ host.main = .taking →
      host.decoder.isSome = true)
    (follows : ∀ decoder ∈ host.decoder, (host.failed = true ∧ host.main ≠ .taking) ∨
      (ledger.origin decoder = host.epoch ∧
        ledger.packets decoder ++ host.pending = ledger.stream host.epoch)) :
    Followed host ledger :=
  have waitsNot : host.configure ≠ true := by simp [configure]
  have setNot : host.reset ≠ true := by simp [reset]
  { own := own
    exclusive := fun _ => configure
    emptied := fun set => absurd set setNot
    fetched := fun waits => absurd waits waitsNot
    waiting := fun waits => absurd waits waitsNot
    stale := fun waits => absurd waits waitsNot
    opened := opened
    follows := fun decoder membership => .inr (.inr (follows decoder membership)) }

theorem followed_of_closed (own : ledger.Own) (reset : host.reset = false)
    (configure : host.configure = false) (decoder : host.decoder = none)
    (callbacks : host.ready = false ∧ host.initializing = false) (main : host.main ≠ .taking) :
    Followed host ledger := by
  apply followed_of_lowered own configure reset
  · intro busy
    simp [callbacks.1, callbacks.2, main] at busy
  · exact fun _ membership => by simp [decoder] at membership

theorem Followed.resetQueue (followed : Followed host ledger) :
    Followed host.resetQueue ledger := by
  apply Followed.postLocked
  exact followed_of_reset followed.own rfl rfl rfl followed.opened

theorem Followed.enable (followed : Followed host ledger) (enabled : Bool) :
    Followed (host.enable enabled) ledger := by
  apply Followed.postLocked
  exact followed_of_reset followed.own rfl rfl rfl followed.opened

theorem Followed.shutdown (followed : Followed host ledger) (idle : host.main = .idle) :
    Followed host.shutdown ledger :=
  { own := followed.own
    exclusive := followed.exclusive
    emptied := by
      intro reset
      have none := config_eq_none (followed.emptied reset)
      simp only [Host.pending, Host.shutdown, Host.closeDecoder, Host.clearQueue, none]
      rfl
    fetched := fun _ _ closing => by cases closing
    waiting := followed.waiting
    stale := fun _ _ membership => by cases membership
    opened := by
      rintro (ready | initializing | taking)
      · cases ready
      · cases initializing
      · exact absurd (idle.symm.trans taking) (by decide)
    follows := fun _ membership => by cases membership }

theorem Followed.call (followed : Followed host ledger)
    {posted ready decoding initializing : Bool} {scheduled : Nat} {main : Phase}
    (notTaking : main ≠ .taking)
    (known : ready = true ∨ initializing = true → host.ready = true ∨ host.initializing = true) :
    Followed { host with posted, ready, decoding, initializing, scheduled, main } ledger :=
  { followed with
    opened := by
      intro busy
      apply followed.opened
      rcases busy with isReady | isInitializing | taking
      · exact or_assoc.mp (.inl (known (.inl isReady)))
      · exact or_assoc.mp (.inl (known (.inr isInitializing)))
      · exact absurd taking notTaking
    follows := by
      intro decoder membership
      rcases followed.follows decoder membership with configure | reset | ⟨failed, _⟩ | continues
      · exact .inl configure
      · exact .inr (.inl reset)
      · exact .inr (.inr (.inl ⟨failed, notTaking⟩))
      · exact .inr (.inr (.inr continues)) }

theorem Followed.fail (followed : Followed host ledger) : Followed host.fail ledger :=
  { own := followed.own
    exclusive := followed.exclusive
    emptied := by
      intro reset
      have none := config_eq_none (followed.emptied reset)
      simp only [Host.pending, Host.fail, Host.clearQueue, none]
      rfl
    fetched := fun _ notFailed => by cases notFailed
    waiting := followed.waiting
    stale := followed.stale
    opened := by
      rintro (ready | initializing | taking)
      · cases ready
      · exact followed.opened (.inr (.inl initializing))
      · cases taking
    follows := fun _ _ => .inr (.inr (.inl ⟨rfl, by simp [Host.fail]⟩)) }

theorem Followed.continues (followed : Followed host ledger) (configure : host.configure = false)
    (reset : host.reset = false) (running : host.failed = false ∨ host.main = .taking)
    {decoder : Nat} (membership : decoder ∈ host.decoder) :
    ledger.origin decoder = host.epoch ∧
      ledger.packets decoder ++ host.pending = ledger.stream host.epoch := by
  rcases followed.follows decoder membership with waits | set | ⟨failed, notTaking⟩ | continues
  · exact absurd (configure.symm.trans waits) (by decide)
  · exact absurd (reset.symm.trans set) (by decide)
  · rcases running with sound | taking
    · exact absurd (sound.symm.trans failed) (by decide)
    · exact absurd taking notTaking
  · exact continues

theorem Followed.enter (followed : Followed host ledger) (booked : Booked host ledger)
    (opened : Bool) :
    Followed (host.enter opened).1 ((host.enter opened).2.elim ledger ledger.record) := by
  have called {phase : Phase} (elsewhere : phase ≠ .taking) :
      host.ready = true ∨ host.initializing = true ∨ phase = .taking →
        host.decoder.isSome = true := by
    rintro (ready | initializing | taking)
    · exact followed.opened (.inl ready)
    · exact followed.opened (.inr (.inl initializing))
    · exact absurd taking elsewhere
  unfold Host.enter
  simp only
  split
  · exact followed.call nofun id
  next open_ =>
    simp only [Bool.not_eq_true] at open_
    split
    · exact followed_of_closed followed.own rfl rfl rfl ⟨rfl, rfl⟩ nofun
    next enabled =>
      simp only [Bool.or_eq_true, Bool.not_eq_true', not_or, Bool.not_eq_true] at enabled
      split
      next failed =>
        exact followed_of_lowered followed.own rfl rfl (called nofun) fun _ _ => .inl ⟨failed, nofun⟩
      next sound =>
        simp only [Bool.not_eq_true] at sound
        split
        next configure =>
          split
          · exact followed_of_closed followed.own rfl rfl rfl ⟨rfl, rfl⟩ nofun
          · have fresh := booked.fresh host.decoders (Nat.le_refl _)
            apply followed_of_lowered _ rfl rfl
            · exact fun _ => rfl
            · rintro decoder ⟨⟩
              refine .inr ⟨Function.update_self _ _ _, ?_⟩
              simp only [Option.elim, Ledger.record, fresh, List.nil_append]
              exact (followed.fetched configure sound open_).symm
            · intro decoder
              simp only [Option.elim, Ledger.record]
              by_cases new : decoder = host.decoders
              · rw [new, fresh]
                exact List.nil_prefix
              · rw [Function.update_of_ne new]
                exact followed.own decoder
        next quiet =>
          simp only [Bool.not_eq_true] at quiet
          have continues : ∀ decoder ∈ host.decoder, ledger.origin decoder = host.epoch ∧
              ledger.packets decoder ++ host.pending = ledger.stream host.epoch :=
            fun decoder membership =>
              followed.continues quiet enabled.1 (.inl sound) membership
          split
          · exact followed_of_lowered followed.own rfl rfl (called nofun) fun decoder membership =>
              .inr (continues decoder membership)
          next usable =>
            simp only [Bool.or_eq_true, Bool.not_eq_true', not_or, Bool.not_eq_false] at usable
            exact followed_of_lowered followed.own rfl rfl
              (fun _ => followed.opened (.inl usable.1))
              fun decoder membership => .inr (continues decoder membership)

/-- Without a configuration that waits, the next packet belongs to the decoder. -/
theorem Followed.take (followed : Followed host ledger) (taking : host.main = .taking)
    (configure : host.configure = false) :
    Followed host.take.1 (host.take.2.elim ledger ledger.record) := by
  have present := followed.opened (.inr (.inr taking))
  obtain ⟨decoder, current⟩ := Option.isSome_iff_exists.mp present
  rcases take_cases host with
    ⟨empty, taken⟩ | ⟨packet, config, queue, queuedBytes, pending, taken⟩
  · rw [taken]
    exact
      { own := followed.own
        exclusive := followed.exclusive
        emptied := followed.emptied
        fetched := followed.fetched
        waiting := followed.waiting
        stale := followed.stale
        opened := fun _ => present
        follows := by
          intro decoder membership
          rcases followed.follows decoder membership with
            waits | reset | ⟨_, notTaking⟩ | continues
          · exact .inl waits
          · exact .inr (.inl reset)
          · exact absurd taking notTaking
          · exact .inr (.inr (.inr continues)) }
  · have unset : host.reset = false := by
      by_contra set
      simp only [Bool.not_eq_false] at set
      rw [followed.emptied set] at pending
      cases pending
    obtain ⟨origin, continues⟩ := followed.continues configure unset (.inr taking) current
    rw [pending] at continues
    rw [taken, current]
    exact
      { own := by
          intro number
          simp only [Option.map_some, Option.elim, Ledger.record]
          by_cases same : number = decoder
          · rw [same, Function.update_self, origin, ← continues]
            exact ⟨config.toList ++ queue, by simp⟩
          · rw [Function.update_of_ne same]
            exact followed.own number
        exclusive := fun _ => configure
        emptied := fun set => absurd (unset.symm.trans set) (by decide)
        fetched := fun waits => absurd (configure.symm.trans waits) (by decide)
        waiting := fun waits => absurd (configure.symm.trans waits) (by decide)
        stale := fun waits => absurd (configure.symm.trans waits) (by decide)
        opened := fun _ => rfl
        follows := by
          rintro number ⟨⟩
          refine .inr (.inr (.inr ⟨origin, ?_⟩))
          simp only [Option.map_some, Option.elim, Ledger.record, Function.update_self]
          rw [← continues]
          exact List.append_assoc _ [packet] _ }

theorem Followed.step (followed : Followed watched.host watched.ledger)
    (booked : Booked watched.host watched.ledger) (action : Action)
    (unraced : Unraced watched action) :
    Followed (watched.step action).host (watched.step action).ledger := by
  unfold Watched.step Host.step
  by_cases possible : watched.host.possible action = true
  · rw [if_pos possible]
    cases action with
    | configure data allocated => exact followed.configureWith booked data allocated
    | frame data copied pushed => exact followed.frame booked data copied pushed
    | reset => exact followed.resetQueue
    | enable enabled => exact followed.enable enabled
    | shutdown => exact followed.shutdown (by simpa [Host.possible] using possible)
    | pump => exact followed.call nofun id
    | initialized result =>
        simp only [Host.possible, Bool.and_eq_true] at possible
        unfold Host.perform Host.initialized
        by_cases ok : result = .ok
        · simp only [if_pos ok]
          exact followed.call nofun fun _ => .inr possible.2
        · simp only [if_neg ok]
          exact followed.call nofun (Or.imp_right nofun)
    | decoded result =>
        cases result with
        | ok => exact followed.call nofun id
        | aborted =>
            simp only [Host.possible, Bool.and_eq_true, decide_eq_true_eq] at possible
            exact followed.call (by simp [possible.1]) id
        | error => exact followed.call nofun id
    | presentationFailed => exact followed.call nofun id
    | enter opened => exact followed.enter booked opened
    | take =>
        have taking : watched.host.main = .taking := by simpa [Host.possible] using possible
        exact followed.take taking (unraced taking)
    | fail => exact followed.fail
  · rw [if_neg possible]
    exact followed

/-! ## A configuration that arrives in between -/

/-- A decoder was given a packet of another `Configure`. -/
def Ledger.Foreign (ledger : Ledger) (decoder : Nat) : Prop :=
  ∃ packet ∈ ledger.packets decoder, packet.epoch ≠ ledger.origin decoder

theorem Ledger.Foreign.not_own {decoder : Nat} (foreign : ledger.Foreign decoder)
    (booked : Booked host ledger) : ¬ ledger.Own := by
  intro own
  obtain ⟨packet, given, different⟩ := foreign
  exact different (booked.stream _ packet ((own decoder).subset given))

/-- What a decoder was given and what it was made for stays so. -/
theorem Ledger.Foreign.step {decoder : Nat} (foreign : watched.ledger.Foreign decoder)
    (booked : Booked watched.host watched.ledger) (action : Action) :
    (watched.step action).ledger.Foreign decoder := by
  obtain ⟨packet, given, different⟩ := foreign
  have numbered := step_numbered watched.host action
  unfold Watched.step
  revert numbered
  generalize watched.host.step action = result
  obtain ⟨after, observation⟩ := result
  intro numbered
  cases observation with
  | none => exact ⟨packet, given, different⟩
  | some observation =>
      cases observation with
      | configured _ | accepted _ => exact ⟨packet, given, different⟩
      | opened number epoch =>
          obtain ⟨rfl, _⟩ := numbered
          have other : decoder ≠ watched.host.decoders := by
            rintro rfl
            simp [booked.fresh _ (Nat.le_refl _)] at given
          refine ⟨packet, given, ?_⟩
          simp only [Option.elim, Ledger.record]
          rwa [Function.update_of_ne other]
      | decode number next =>
          refine ⟨packet, ?_, different⟩
          simp only [Option.elim, Ledger.record]
          by_cases same : decoder = number
          · rw [← same, Function.update_self]
            exact List.mem_append_left _ given
          · rwa [Function.update_of_ne same]

theorem Followed.raced (followed : Followed watched.host watched.ledger)
    (taking : watched.host.main = .taking) (configure : watched.host.configure = true) :
    ∃ decoder, (watched.step .take).ledger.Foreign decoder := by
  obtain ⟨decoder, current⟩ :=
    Option.isSome_iff_exists.mp (followed.opened (.inr (.inr taking)))
  obtain ⟨packet, config, epoch⟩ := followed.waiting configure
  have older := followed.stale configure decoder current
  have possible : watched.host.possible .take = true := by simp [Host.possible, taking]
  refine ⟨decoder, packet, ?_, ?_⟩
  · simp [Watched.step, Host.step, if_pos possible, Host.perform, Host.take, Host.next, config,
      current, Ledger.record]
  · simp only [Watched.step, Host.step, if_pos possible, Host.perform, Host.take, Host.next, config,
      current, Option.map_some, Option.elim, Ledger.record]
    omega

theorem booked_initial : Booked {} {} :=
  { epoch := rfl
    stream := fun _ _ membership => by cases membership
    fresh := fun _ _ => rfl
    current := fun _ membership => by cases membership
    origin := fun _ => Nat.le_refl _ }

theorem followed_initial : Followed {} {} :=
  followed_of_closed (fun _ => List.nil_prefix) rfl rfl rfl ⟨rfl, rfl⟩ nofun

theorem booked_run (actions : List Action) :
    Booked (run Watched.step {} actions).host (run Watched.step {} actions).ledger :=
  @run_invariant _ _ Watched.step (fun watched => Booked watched.host watched.ledger)
    (fun _ action booked => booked.step action) {} booked_initial actions

/-- Either no configuration has arrived in between, or some decoder was given a
packet that is not its own. -/
theorem followed_or_foreign (actions : List Action) :
    (Guarded Watched.step Unraced {} actions ∧
      Followed (run Watched.step {} actions).host (run Watched.step {} actions).ledger) ∨
    (¬ Guarded Watched.step Unraced {} actions ∧
      ∃ decoder, (run Watched.step {} actions).ledger.Foreign decoder) := by
  induction actions using List.reverseRecOn with
  | nil => exact .inl ⟨trivial, followed_initial⟩
  | append_singleton actions action inductionHypothesis =>
      have booked := booked_run actions
      simp only [guarded_append, run_append, run_cons, run_nil, Guarded, and_true]
      rcases inductionHypothesis with ⟨guarded, followed⟩ | ⟨unguarded, decoder, foreign⟩
      · by_cases unraced : Unraced (run Watched.step {} actions) action
        · exact .inl ⟨⟨guarded, unraced⟩, followed.step booked action unraced⟩
        · refine .inr ⟨fun both => unraced both.2, ?_⟩
          cases action with
          | take =>
              simp only [Unraced, Classical.not_imp, Bool.not_eq_false] at unraced
              exact followed.raced unraced.1 unraced.2
          | _ => exact absurd trivial unraced
      · exact .inr ⟨fun both => unguarded both.1, decoder, foreign.step booked action⟩

/-- In every run, every decoder is given its own configuration and then frames
accepted after it exactly if no configuration arrives between the two critical
sections of a `Pump` that takes a packet. -/
theorem own_configuration_first_iff (actions : List Action) :
    (run Watched.step {} actions).ledger.Own ↔ Guarded Watched.step Unraced {} actions := by
  rcases followed_or_foreign actions with ⟨guarded, followed⟩ | ⟨unguarded, decoder, foreign⟩
  · exact iff_of_true followed.own guarded
  · exact iff_of_false (foreign.not_own (booked_run actions)) unguarded

/-- The presenter is on and its decoder has taken the first configuration; the
second one arrives while `Pump` is about to look for a frame. -/
def reconfiguredInPump : List Action :=
  [.enable true, .pump, .enter true,
    .configure [1] true, .pump, .enter true, .initialized .ok, .enter true, .take,
    .decoded .ok, .enter true, .configure [2] true, .take]

/-- The decoder made for the first configuration is given the second one. -/
theorem second_configuration_misdirected :
    ¬ ∀ actions : List Action, (run Watched.step {} actions).ledger.Own := by
  intro own
  have given : (run Watched.step {} reconfiguredInPump).ledger.packets 0 = [⟨[1], 1⟩, ⟨[2], 2⟩] := by
    decide +kernel
  have stream : (run Watched.step {} reconfiguredInPump).ledger.stream
      ((run Watched.step {} reconfiguredInPump).ledger.origin 0) = [⟨[1], 1⟩] := by
    decide +kernel
  have continues := own reconfiguredInPump 0
  rw [given, stream] at continues
  exact absurd continues (by decide)

end AirTizen.Presenter
