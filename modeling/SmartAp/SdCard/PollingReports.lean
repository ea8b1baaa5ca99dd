import SmartAp.SdCard.PollingEnds

/-!
# What polling reports

`wait_ready` tells whether the last byte it read was `0xFF`, and when it gives up its timeout has
passed in true time (`waitReady_reports`). `ff_sd_spi_initialize` sets `CardType` at most once, and
to a type other than 0 only if the last `ACMD41` or `CMD1` before that was answered with 0
(`ffSdSpiInitialize_records`). `polling_ends` puts this together with the fact that polling ends.

## The notes of a run

Both are read off the notes that a run keeps beside the driver. `Unrecorded` says that no type has
been stored so far, `Identified` that in addition a type that is not 0 comes from a ready answer,
and `Honest` that what was stored was stored so. The functions of the initialization lead from one
to the next: the identification from `Unrecorded` to `Identified`, the configuration keeps it, and
the end of the initialization makes it `Honest`.

Most of the steps touch neither notes nor `CardType`. They are `Noted`, for any notes, and
`kept_of_noted` turns this into any of the three assertions.
-/

/-- What has gone over the bus. -/
def PollState.trace {κ : Type} (s : PollState κ) : List BusEvent := s.inner.driver.card.trace

namespace Polling

variable {κ α : Type} {p : Polling κ} {k fuel : ℕ}

/-- The state with another driver. -/
def withDriver (s : PollState κ) (d : SdDriver (Bus κ)) : PollState κ :=
  { s with inner := { s.inner with driver := d } }

theorem yields_onDriver {m : SdM (Bus κ) α} {P : PollState κ → Prop} {Q : α → PollState κ → Prop}
    (h : ∀ s, P s → Q (m s.inner.driver).1 (withDriver s (m s.inner.driver).2)) :
    Yields P (onDriver m) Q := .untimed h

/-! ### The wait for the card -/

section WaitReady

variable {s₀ : PollState κ}

/-- Bytes have been read since `s₀`, the last one was `d`. -/
def LastByte (s₀ : PollState κ) (d : UInt8) (s : PollState κ) : Prop :=
  ∃ bytes, s.trace = s₀.trace ++ bytes ++ [.byte 0xFF d]

/-- The wait has begun at `s₀`. -/
def Waiting (s₀ s : PollState κ) : Prop :=
  s₀.readings < s.readings ∧ ∃ bytes, s.trace = s₀.trace ++ bytes

/-- The card was busy at the last poll. -/
def Busy (s₀ s : PollState κ) : Prop :=
  s₀.readings < s.readings ∧ ∃ d, d ≠ 0xFF ∧ LastByte s₀ d s

/-- A card found busy was polled within the wait. -/
theorem Busy.waiting {s : PollState κ} (h : Busy s₀ s) : Waiting s₀ s := by
  obtain ⟨hlt, d, -, bytes, htrace⟩ := h
  exact ⟨hlt, bytes ++ [.byte 0xFF d], by rw [htrace, List.append_assoc]⟩

/-- A poll reads one byte more. -/
theorem yields_readByte : Yields (Waiting s₀) (onBus (p.host.spiRwByte 0xFF)) fun d s ↦
    s₀.readings < s.readings ∧ LastByte s₀ d s := by
  refine yields_onDriver fun s hs ↦ ⟨hs.1, ?_⟩
  obtain ⟨bytes, htrace⟩ := hs.2
  exact ⟨bytes, congrArg (· ++ _) htrace⟩

theorem yields_delayAfterTick (t0 : TickType) :
    Yields (Busy s₀) (p.delayAfterTick t0) fun _ ↦ Busy s₀ :=
  .bind (.readTicks fun _ hs ↦ ⟨Nat.lt_succ_of_lt hs.1, hs.2⟩) fun _ ↦
    .ite (fun _ ↦ yields_onDriver fun _ hs ↦ hs) fun _ ↦ .pure fun _ hs ↦ hs

/-- **`wait_ready` reports** the last byte, and gives up only after its timeout. -/
theorem waitReady_reports (hmono : Monotone p.time) (wt : TickType) (s₀ : PollState κ) :
    Yields (· = s₀) (p.waitReady fuel wt) fun ready s ↦
      (∃ d, LastByte s₀ d s ∧ (ready = true ↔ d = 0xFF)) ∧
        (ready = false → ∃ q < s.readings,
          p.time s₀.readings + (p.msToTicksSafe wt).toNat ≤ p.time q) := by
  refine .bind (Q := fun t0 s ↦ t0 = BitVec.ofNat 32 (p.time s₀.readings) ∧ Waiting s₀ s)
    (.readTicks ?_) fun t0 ↦ .of_fact fun ht0 ↦ ?_
  · rintro s rfl
    exact ⟨rfl, Nat.lt_succ_self _, [], (List.append_nil _).symm⟩
  refine .bind (Q := fun _ ↦ Waiting s₀) (.enterLoop fun _ hs ↦ hs) fun _ ↦ ?_
  refine .bind (Q := fun r s ↦ (∃ d, LastByte s₀ d s ∧ (r.isSome = true ↔ d = 0xFF)) ∧
    (r.isSome = false → ∃ q < s.readings,
      p.time s₀.readings + (p.msToTicksSafe wt).toNat ≤ p.time q)) ?_ fun r ↦ .pure fun _ hs ↦ hs
  refine .pollLoop (P := Waiting s₀) (R := Busy s₀) (S := Busy s₀) ?_ (yields_delayAfterTick t0)
    (fun s hs hpassed ↦ ⟨?_, fun _ ↦ ⟨s.readings, Nat.lt_succ_self _, ?_⟩⟩) ?_
    (.pure fun _ hs ↦ hs.waiting)
  · refine .bind yields_readByte fun d ↦ .pure fun s hs ↦ ?_
    by_cases hd : d = 0xFF
    · simpa [hd] using hd ▸ hs.2
    · simpa [hd] using ⟨hs.1, d, hd, hs.2⟩
  · obtain ⟨-, d, hd, hlast⟩ := hs
    exact ⟨d, hlast, iff_of_false Bool.false_ne_true hd⟩
  · rw [ht0] at hpassed
    have hle := hmono hs.1.le
    have hdiff := toNat_ofNat_sub_le (w := 32) hle
    have hpassed' := BitVec.le_def.1 hpassed
    omega
  · exact fun s hs ↦ ⟨Nat.lt_succ_of_lt hs.1, hs.2⟩

end WaitReady

/-! ### The type that is recorded -/

/-- The answer to an `ACMD41` or a `CMD1`. -/
def CardNote.pollAnswer : CardNote → Option UInt8
  | .answered cmd res => if cmd = acmd41 ∨ cmd = cmd1 then some res else none
  | .recorded _ => none

/-- The answer to the last `ACMD41` or `CMD1`. -/
def lastPoll (notes : List CardNote) : Option UInt8 :=
  (notes.filterMap CardNote.pollAnswer).getLast?

/-- No type is recorded. -/
def NoneRecorded (notes : List CardNote) : Prop := ∀ ty, .recorded ty ∉ notes

/-- **At most one type is recorded**: none, or the one `CardType` holds then, and if it is not 0 the
last `ACMD41` or `CMD1` before was answered with 0. -/
def RecordsHonestly (cardType : UInt8) (notes : List CardNote) (cardType' : UInt8) : Prop :=
  NoneRecorded notes ∧ cardType' = cardType ∨
    ∃ pre ty post, notes = pre ++ .recorded ty :: post ∧ NoneRecorded pre ∧ NoneRecorded post ∧
      cardType' = ty ∧ (ty ≠ 0 → lastPoll pre = some 0)

section Records

variable {c : UInt8} {notes : List CardNote}

/-- The last answer to ACMD41 or CMD1 is the one noted last. -/
theorem lastPoll_answered (notes : List CardNote) (cmd res : UInt8) :
    lastPoll (notes ++ [.answered cmd res]) =
      if cmd = acmd41 ∨ cmd = cmd1 then some res else lastPoll notes := by
  rw [lastPoll, lastPoll, List.filterMap_append]
  by_cases hpoll : cmd = acmd41 ∨ cmd = cmd1 <;> simp [CardNote.pollAnswer, hpoll]

theorem NoneRecorded.answered (h : NoneRecorded notes) (cmd res : UInt8) :
    NoneRecorded (notes ++ [.answered cmd res]) := fun ty hmem ↦
  (List.mem_append.1 hmem).elim (h ty) fun hlast ↦ nomatch List.mem_singleton.1 hlast

/-- An answer is no recorded card type. -/
theorem RecordsHonestly.answered {c' : UInt8} (h : RecordsHonestly c notes c') (cmd res : UInt8) :
    RecordsHonestly c (notes ++ [.answered cmd res]) c' := by
  rcases h with ⟨hnone, hc⟩ | ⟨pre, ty, post, rfl, hpre, hpost, hc, hpoll⟩
  · exact .inl ⟨hnone.answered cmd res, hc⟩
  · exact .inr ⟨pre, ty, post ++ [.answered cmd res], by simp, hpre, hpost.answered cmd res, hc,
      hpoll⟩

/-! What the programs do to the notes and to `CardType`. -/

/-- The notes and `CardType` are these. -/
def Noted (notes : List CardNote) (c : UInt8) (s : PollState κ) : Prop :=
  s.inner.notes = notes ∧ s.inner.driver.cardType = c

theorem noted_onDriver {m : SdM (Bus κ) α} (hm : ∀ d, (m d).2.cardType = d.cardType) :
    Yields (Noted notes c) (onDriver m) fun _ ↦ Noted notes c :=
  yields_onDriver fun s hs ↦ ⟨hs.1, (hm s.inner.driver).trans hs.2⟩

theorem noted_onBus (m : BusM κ α) : Yields (Noted notes c) (onBus m) fun _ ↦ Noted notes c :=
  noted_onDriver fun _ ↦ rfl

theorem noted_toPort (f : Bus κ → Bus κ) :
    Yields (Noted notes c) (onDriver (toPort f)) fun _ ↦ Noted notes c :=
  noted_onDriver fun _ ↦ rfl

theorem noted_getTickCount : Yields (Noted notes c) p.getTickCount fun _ ↦ Noted notes c :=
  .readTicks fun _ hs ↦ hs

theorem noted_delayAfterTick (t0 : TickType) :
    Yields (Noted notes c) (p.delayAfterTick t0) fun _ ↦ Noted notes c :=
  .bind noted_getTickCount fun _ ↦ .ite (fun _ ↦ noted_toPort _) fun _ ↦ .pure fun _ hs ↦ hs

theorem noted_waitReady (wt : TickType) :
    Yields (Noted notes c) (p.waitReady fuel wt) fun _ ↦ Noted notes c := by
  refine .bind noted_getTickCount fun t0 ↦ .bind (Q := fun _ ↦ Noted notes c)
    (.enterLoop fun _ hs ↦ hs) fun _ ↦ .bind (Q := fun _ ↦ Noted notes c) ?_ fun _ ↦
      .pure fun _ hs ↦ hs
  refine .pollLoop (R := Noted notes c) (S := Noted notes c) ?_ (noted_delayAfterTick t0)
    (fun _ hs _ ↦ hs) (fun _ hs ↦ hs) (.pure fun _ hs ↦ hs)
  exact .bind (noted_onBus _) fun d ↦ .pure fun s hs ↦ by split <;> exact hs

theorem noted_sendPlainCmd (cmd : UInt8) (arg : UInt32) :
    Yields (Noted notes c) (p.sendPlainCmd fuel cmd arg) fun _ ↦ Noted notes c := by
  have hselect : Yields (Noted notes c) (p.selectCard fuel) fun _ ↦ Noted notes c :=
    .bind (noted_onBus _) fun _ ↦ .bind (noted_onBus _) fun _ ↦ .bind (noted_waitReady _) fun _ ↦
      .ite (fun _ ↦ .pure fun _ hs ↦ hs) fun _ ↦
        .bind (noted_onBus _) fun _ ↦ .pure fun _ hs ↦ hs
  exact .ite (fun _ ↦ .bind (noted_onBus _) fun _ ↦ .bind hselect fun _ ↦
    .ite (fun _ ↦ noted_onBus _) fun _ ↦ .pure fun _ hs ↦ hs) fun _ ↦ noted_onBus _

/-- `send_cmd` leaves one note. -/
theorem noted_sendCmd (cmd : UInt8) (arg : UInt32) : Yields (Noted notes c)
    (p.sendCmd fuel cmd arg) fun res ↦ Noted (notes ++ [.answered cmd res]) c := by
  have hbare : Yields (Noted notes c) (p.sendBareCmd fuel cmd arg) fun _ ↦ Noted notes c :=
    .ite (fun _ ↦ .bind (noted_sendPlainCmd _ _) fun _ ↦
      .ite (fun _ ↦ .pure fun _ hs ↦ hs) fun _ ↦ noted_sendPlainCmd _ _) fun _ ↦
        noted_sendPlainCmd _ _
  refine .bind hbare fun res ↦ .bind (.untimed fun s hs ↦ ?_) fun _ ↦ .pure fun _ hs ↦ hs
  exact ⟨congrArg (· ++ _) hs.1, hs.2⟩

/-! Up to the record. -/

/-- No type has been recorded so far. -/
def Unrecorded (c : UInt8) (s : PollState κ) : Prop :=
  NoneRecorded s.inner.notes ∧ s.inner.driver.cardType = c

/-- None has, and if `ty` is not 0 the last `ACMD41` or `CMD1` was answered with 0. -/
def Identified (c ty : UInt8) (s : PollState κ) : Prop :=
  Unrecorded c s ∧ (ty ≠ 0 → lastPoll s.inner.notes = some 0)

/-- A command records no type, and its answer is the last one if it was ACMD41 or CMD1. -/
theorem unrecorded_sendCmd (cmd : UInt8) (arg : UInt32) : Yields (Unrecorded c)
    (p.sendCmd fuel cmd arg) fun res s ↦ Unrecorded c s ∧
      (cmd = acmd41 ∨ cmd = cmd1 → lastPoll s.inner.notes = some res) := by
  intro s hs res hres
  obtain ⟨hnotes, hc⟩ := noted_sendCmd cmd arg s ⟨rfl, rfl⟩ res hres
  refine ⟨⟨?_, hc.trans hs.2⟩, fun hpoll ↦ ?_⟩
  · rw [hnotes]
    exact hs.1.answered cmd res
  · rw [hnotes, lastPoll_answered, if_pos hpoll]

/-- A command that does not poll. -/
theorem identified_sendCmd {ty cmd : UInt8} (hcmd : ¬ (cmd = acmd41 ∨ cmd = cmd1)) (arg : UInt32) :
    Yields (Identified c ty) (p.sendCmd fuel cmd arg) fun _ ↦ Identified c ty := by
  intro s hs res hres
  obtain ⟨hnotes, hc⟩ := noted_sendCmd cmd arg s ⟨rfl, rfl⟩ res hres
  refine ⟨⟨?_, hc.trans hs.1.2⟩, fun hty ↦ ?_⟩
  · rw [hnotes]
    exact hs.1.1.answered cmd res
  · rw [hnotes, lastPoll_answered, if_neg hcmd]
    exact hs.2 hty

/-- What is kept as long as the notes and `CardType` are. -/
theorem kept_of_noted {m : PollM κ α}
    (h : ∀ notes c, Yields (Noted notes c) m fun _ ↦ Noted notes c)
    (I : List CardNote → UInt8 → Prop) :
    Yields (fun s ↦ I s.inner.notes s.inner.driver.cardType) m
      fun _ s ↦ I s.inner.notes s.inner.driver.cardType := by
  intro s hs a ha
  obtain ⟨hnotes, hc⟩ := h _ _ s ⟨rfl, rfl⟩ a ha
  rw [hnotes, hc]
  exact hs

/-- What neither records nor polls keeps that nothing is recorded. -/
theorem unrecorded_of_noted {m : PollM κ α}
    (h : ∀ notes c, Yields (Noted notes c) m fun _ ↦ Noted notes c) :
    Yields (Unrecorded c) m fun _ ↦ Unrecorded c :=
  kept_of_noted h fun notes c' ↦ NoneRecorded notes ∧ c' = c

theorem Unrecorded.identified {s : PollState κ} (h : Unrecorded c s) : Identified c 0 s :=
  ⟨h, fun habs ↦ absurd rfl habs⟩

theorem Identified.any {ty : UInt8} {s : PollState κ} (h : Identified c ty s) (hty : ty ≠ 0)
    (ty' : UInt8) : Identified c ty' s := ⟨h.1, fun _ ↦ h.2 hty⟩

/-- **A loop with `ACMD41` or `CMD1`** is left with success after an answer of 0 only. -/
theorem unrecorded_pollReady (loop : PollLoop) (t0 : TickType) {cmd : UInt8}
    (hcmd : cmd = acmd41 ∨ cmd = cmd1) (arg : UInt32) : Yields (Unrecorded c)
      (p.pollReady fuel loop t0 cmd arg) fun ready s ↦
        Unrecorded c s ∧ (ready = true → lastPoll s.inner.notes = some 0) := by
  refine .bind (Q := fun _ ↦ Unrecorded c) (.enterLoop fun _ hs ↦ hs) fun _ ↦ .bind
    (Q := fun r s ↦ Unrecorded c s ∧ (r.isSome = true → lastPoll s.inner.notes = some 0)) ?_
      fun _ ↦ .pure fun _ hs ↦ hs
  refine .pollLoop (P := Unrecorded c) (R := Unrecorded c) (S := Unrecorded c) ?_
    (.pure fun _ hs ↦ hs) (fun _ hs _ ↦ ⟨hs, nofun⟩) (fun _ hs ↦ hs)
    (unrecorded_of_noted fun _ _ ↦ noted_delayAfterTick t0)
  refine .bind (unrecorded_sendCmd cmd arg) fun res ↦ .pure fun s hs ↦ ?_
  by_cases hres : res = 0
  · have hpoll := hs.2 hcmd
    rw [hres] at hpoll
    simpa [hres] using ⟨hs.1, hpoll⟩
  · simpa [hres] using hs.1

theorem unrecorded_cmd0Loop (retries : ℕ) :
    Yields (Unrecorded c) (p.cmd0Loop fuel retries) fun _ ↦ Unrecorded c := by
  induction retries with
  | zero => exact .pure fun _ hs ↦ hs
  | succ retry ih =>
    have hport : ∀ f : Bus κ → Bus κ,
        Yields (Unrecorded c) (onDriver (toPort f)) fun _ ↦ Unrecorded c :=
      fun f ↦ unrecorded_of_noted fun _ _ ↦ noted_toPort f
    have hclocks : ∀ d : SdDriver (Bus κ),
        (times 10 (do let _ ← readByte p.port) d).2.cardType = d.cardType := fun _ ↦ rfl
    have hattempt : Yields (Unrecorded c) (p.cmd0Attempt fuel) fun _ ↦ Unrecorded c :=
      .bind (hport _) fun _ ↦ .bind (unrecorded_of_noted fun _ _ ↦ noted_onDriver hclocks) fun _ ↦
        .bind (hport _) fun _ ↦ .bind (unrecorded_of_noted fun _ _ ↦ noted_onDriver fun _ ↦ rfl)
          fun _ ↦ .bind (unrecorded_sendCmd _ _) fun _ ↦ .pure fun _ hs ↦ hs.1
    exact .bind hattempt fun _ ↦ .ite (fun _ ↦ .pure fun _ hs ↦ hs) fun _ ↦
      .bind (hport _) fun _ ↦ .bind (hport _) fun _ ↦ ih

/-- The identification of a second version card gives a type only after a ready answer. -/
theorem identified_identifySd2 (t0 : TickType) :
    Yields (Unrecorded c) (p.identifySd2 fuel t0) fun ty ↦ Identified c ty := by
  have hocr : ∀ d : SdDriver (Bus κ), (readOcr p.port d).2.cardType = d.cardType := fun _ ↦ rfl
  have hno : Yields (Unrecorded c) (pure 0 : PollM κ UInt8) fun ty ↦ Identified c ty :=
    .pure fun _ hs ↦ hs.identified
  refine .bind (unrecorded_of_noted fun _ _ ↦ noted_onDriver hocr) fun _ ↦
    .ite (fun _ ↦ ?_) fun _ ↦ hno
  refine .bind (unrecorded_pollReady _ _ (.inl rfl) _) fun ready ↦ .ite (fun hready ↦ ?_) fun _ ↦
    hno.weaken (fun _ hs ↦ hs.1) fun _ _ ↦ id
  have hpolled : Yields (Identified c ctSd2) (p.sendCmd fuel cmd58 0) fun _ ↦ Identified c ctSd2 :=
    identified_sendCmd (by decide) 0
  refine .bind (hpolled.weaken (fun s hs ↦ ⟨hs.1, fun _ ↦ hs.2 hready⟩) fun _ _ ↦ id) fun res ↦
    .ite (fun _ ↦ ?_) fun _ ↦ hno.weaken (fun _ hs ↦ hs.1) fun _ _ ↦ id
  refine .bind (kept_of_noted (fun _ _ ↦ noted_onDriver hocr) fun notes c' ↦
    (NoneRecorded notes ∧ c' = c) ∧ (ctSd2 ≠ 0 → lastPoll notes = some 0)) fun _ ↦ .pure ?_
  exact fun s hs ↦ Identified.any hs (by decide) _

/-- So does that of the other cards. -/
theorem identified_identifyOther :
    Yields (Unrecorded c) (p.identifyOther fuel) fun ty ↦ Identified c ty := by
  have hpoll : ∀ (t0 : TickType) (cmd ty : UInt8), cmd = acmd41 ∨ cmd = cmd1 →
      Yields (Unrecorded c) (do
        let ready ← p.pollReady fuel .other t0 cmd 0
        return if ready then ty else 0 : PollM κ UInt8) fun ty ↦ Identified c ty := by
    intro t0 cmd ty hcmd
    refine .bind (unrecorded_pollReady _ t0 hcmd 0) fun ready ↦ .pure fun s hs ↦ ?_
    cases ready with
    | true => exact ⟨hs.1, fun _ ↦ hs.2 rfl⟩
    | false => exact hs.1.identified
  refine .bind (unrecorded_of_noted fun _ _ ↦ noted_getTickCount) fun t0 ↦
    .bind ((unrecorded_sendCmd acmd41 0).weaken (fun _ ↦ id) fun _ _ hs ↦ hs.1) fun res ↦ ?_
  exact .ite (fun _ ↦ hpoll t0 acmd41 ctSd1 (.inl rfl)) fun _ ↦ hpoll t0 cmd1 ctMmc (.inr rfl)

/-- The configuration gives the type it was given, or none. -/
theorem identified_configureCard (ty : UInt8) :
    Yields (Identified c ty) (p.configureCard fuel ty) fun ty' ↦ Identified c ty' := by
  have hblock : Yields (Identified c ty) (do
      if ty &&& ctBlock = 0 then
        let res ← p.sendCmd fuel cmd16 512
        return if res ≠ 0 then 0 else ty
      else return ty : PollM κ UInt8) fun ty' ↦ Identified c ty' := by
    refine .ite (fun _ ↦ .bind (identified_sendCmd (by decide) 512) fun res ↦ .pure fun s hs ↦ ?_)
      fun _ ↦ .pure fun _ hs ↦ hs
    split
    · exact hs.1.identified
    · exact hs
  exact .ite (fun _ ↦ .pure fun _ hs ↦ hs.1.identified) fun _ ↦
    .ite (fun _ ↦ .bind (identified_sendCmd (by decide) 1) fun _ ↦ hblock) fun _ ↦ hblock

/-- The identification gives a type only after a ready answer. -/
theorem identified_identifyCard :
    Yields (Unrecorded c) (p.identifyCard fuel) fun ty ↦ Identified c ty :=
  .bind (unrecorded_of_noted fun _ _ ↦ noted_getTickCount) fun t0 ↦
    .bind ((unrecorded_sendCmd cmd8 0x1AA).weaken (fun _ ↦ id) fun _ _ hs ↦ hs.1) fun _ ↦
      .ite (fun _ ↦ .bind (identified_identifySd2 t0) fun ty ↦ identified_configureCard ty) fun _ ↦
        .bind identified_identifyOther fun ty ↦ identified_configureCard ty

/-! From the record on. -/

/-- What has been recorded was recorded honestly. -/
def Honest (c : UInt8) (s : PollState κ) : Prop :=
  RecordsHonestly c s.inner.notes s.inner.driver.cardType

theorem Unrecorded.honest {s : PollState κ} (h : Unrecorded c s) : Honest c s := .inl h

theorem honest_of_noted {m : PollM κ α}
    (h : ∀ notes c, Yields (Noted notes c) m fun _ ↦ Noted notes c) :
    Yields (Honest c) m fun _ ↦ Honest c := kept_of_noted h (RecordsHonestly c)

/-- A type that was identified may be recorded. -/
theorem honest_setCardType (ty : UInt8) :
    Yields (Identified c ty) (setCardType ty : PollM κ PUnit) fun _ ↦ Honest c := by
  intro s hs a ha
  exact .inr ⟨s.inner.notes, ty, [], rfl, hs.1.1, fun _ ↦ List.not_mem_nil, rfl, hs.2⟩

theorem honest_sendCmd (cmd : UInt8) (arg : UInt32) :
    Yields (Honest c) (p.sendCmd fuel cmd arg) fun _ ↦ Honest c := by
  intro s hs res hres
  obtain ⟨hnotes, hc⟩ := noted_sendCmd cmd arg s ⟨rfl, rfl⟩ res hres
  rw [Honest, hnotes, hc]
  exact RecordsHonestly.answered hs cmd res

/-- The end of the initialization records what was identified. -/
theorem honest_finishInitialize (ty : UInt8) :
    Yields (Identified c ty) (p.finishInitialize fuel ty) fun _ ↦ Honest c := by
  have hdriver : ∀ {α : Type} {m : SdM (Bus κ) α}, (∀ d, (m d).2.cardType = d.cardType) →
      Yields (Honest c) (onDriver m) fun _ ↦ Honest c :=
    fun hm ↦ honest_of_noted fun _ _ ↦ noted_onDriver hm
  have hstatus : Yields (Honest c) (p.sendStatus fuel) fun _ ↦ Honest c :=
    .bind (honest_sendCmd _ _) fun _ ↦ .bind (hdriver fun _ ↦ rfl) fun _ ↦
      .bind (hdriver fun _ ↦ rfl) fun _ ↦ .pure fun _ hs ↦ hs
  refine .bind (honest_setCardType ty) fun _ ↦ .bind (hdriver fun _ ↦ rfl) fun _ ↦
    .ite (fun _ ↦ ?_) fun _ ↦ hdriver fun _ ↦ rfl
  exact .bind (hdriver fun _ ↦ rfl) fun _ ↦ .bind (hdriver fun _ ↦ rfl) fun _ ↦
    .bind hstatus fun _ ↦ .ite (fun _ ↦ hdriver fun _ ↦ rfl) fun _ ↦ .pure fun _ hs ↦ hs

/-- **`ff_sd_spi_initialize` records** a type other than 0 only for a card that has become ready. -/
theorem ffSdSpiInitialize_records (pdrv : ℕ) :
    Yields (Unrecorded c) (p.ffSdSpiInitialize fuel pdrv) fun _ ↦ Honest c := by
  have hdriver : ∀ {α : Type} {m : SdM (Bus κ) α}, (∀ d, (m d).2.cardType = d.cardType) →
      Yields (Unrecorded c) (onDriver m) fun _ ↦ Unrecorded c :=
    fun hm ↦ unrecorded_of_noted fun _ _ ↦ noted_onDriver hm
  have hcard : Yields (Unrecorded c) (p.initializeCard fuel) fun _ ↦ Honest c := by
    refine .bind (hdriver fun _ ↦ rfl) fun _ ↦ .bind (unrecorded_cmd0Loop _) fun _ ↦
      .ite (fun _ ↦ ?_) fun _ ↦ (hdriver fun _ ↦ rfl).weaken (fun _ ↦ id) fun _ _ hs ↦ hs.honest
    exact .bind (hdriver fun _ ↦ rfl) fun _ ↦ .bind identified_identifyCard fun ty ↦
      honest_finishInitialize ty
  have hstop : ∀ st, Yields (Unrecorded c) (pure st : PollM κ DStatus) fun _ ↦ Honest c :=
    fun _ ↦ .pure fun _ hs ↦ hs.honest
  refine .ite (fun _ ↦ hstop _) fun _ ↦ .bind (hdriver fun _ ↦ rfl) fun d ↦
    .ite (fun _ ↦ hstop _) fun _ ↦ .bind (hdriver fun _ ↦ rfl) fun taken ↦
      .ite (fun _ ↦ .bind hcard fun _ ↦ ?_) fun _ ↦ hstop _
  exact .bind (honest_of_noted fun _ _ ↦ noted_toPort _) fun _ ↦
    .bind (honest_of_noted fun _ _ ↦ noted_onDriver fun _ ↦ rfl) fun _ ↦ .pure fun _ hs ↦ hs

end Records

/-! ### The law -/

/-- **Polling ends and reports honestly**, whatever the card sends and wherever the counter begins,
in every run in which each loop tests its deadline often enough. -/
theorem polling_ends (hp : p.WellTimed k fuel) (s : PollState κ) :
    (∀ wt, (p.msToTicksSafe wt).toNat < halfRange →
      let out := p.waitReady fuel wt s
      Steady p.time halfRange out.2.log → ∃ ready, out.1 = some ready ∧
        (∃ d, LastByte s d out.2 ∧ (ready = true ↔ d = 0xFF)) ∧
        (ready = false → ∃ q < out.2.readings,
          p.time s.readings + (p.msToTicksSafe wt).toNat ≤ p.time q)) ∧
    (Steady p.time halfRange (p.awaitToken fuel s).2.log →
      ∃ token, (p.awaitToken fuel s).1 = some token) ∧
    (∀ loop t0 cmd arg, loop ≠ .waitReady →
      let out := p.pollReady fuel loop t0 cmd arg s
      Steady p.time halfRange out.2.log → ∃ ready, out.1 = some ready) ∧
    ∀ pdrv,
      let out := p.ffSdSpiInitialize fuel pdrv s
      Steady p.time halfRange out.2.log → ∃ stat, out.1 = some stat ∧
        (s.inner.notes = [] → RecordsHonestly s.inner.driver.cardType out.2.inner.notes
          out.2.inner.driver.cardType) := by
  refine ⟨?_, (ends_awaitToken hp).returns s,
    fun loop t0 cmd arg hloop ↦ (ends_pollReady hp hloop t0 cmd arg).returns s, ?_⟩
  · intro wt htimeout out hsteady
    obtain ⟨ready, hready⟩ := (ends_waitReady hp htimeout).returns s hsteady
    exact ⟨ready, hready, waitReady_reports hp.paced.mono wt s s rfl ready hready⟩
  · intro pdrv out hsteady
    obtain ⟨stat, hstat⟩ := (ends_ffSdSpiInitialize hp pdrv).returns s hsteady
    refine ⟨stat, hstat, fun hnotes ↦ ffSdSpiInitialize_records pdrv s ⟨?_, rfl⟩ stat hstat⟩
    rw [hnotes]
    exact fun _ ↦ List.not_mem_nil

/-- An MMC that is ready at the second `CMD1`. -/
def slowMmcScript : List UInt8 :=
  let command (r1 : UInt8) : List UInt8 := List.replicate 9 0xFF ++ [r1]
  List.replicate 17 0xFF ++ [0x01] ++ [0xFF] ++ command 0x05 ++ command 0x05 ++ command 0x01 ++
    command 0x00 ++ command 0x00 ++ [0xFF] ++ command 0x00 ++ [0x00, 0xFF]

/-- Such a card, with a clock of 100 Hz that is read once in a tick. -/
def slowMmc : Polling (List UInt8) where
  cmd0Retries := 1
  crcOn := false
  host := scriptHost
  time n := n
  tickRateHz := 100
  waitReadyMs := 500
  readTokenTimeoutMs := 200
  initTimeoutMs := 1000

theorem wellTimed_slowMmc : slowMmc.WellTimed 1 (2 ^ 31 + 1) where
  paced := ⟨fun _ _ h ↦ h, fun n ↦ Nat.lt_succ_self n⟩
  waitReady := by decide
  readToken := by decide
  init := by decide
  fuel := by decide

/-- The driver before its first call. -/
def beforeFirstCall (host : List UInt8) : PollState (List UInt8) :=
  ⟨⟨⟨⟨true, false⟩, 0, ⟨host, []⟩⟩, []⟩, 0, []⟩

/-- Its initialisation. -/
theorem polling_ends_slowMmc :
    let out := slowMmc.ffSdSpiInitialize (2 ^ 31 + 1) 0 (beforeFirstCall slowMmcScript)
    ∃ stat, out.1 = some stat ∧
      RecordsHonestly 0 out.2.inner.notes out.2.inner.driver.cardType := by
  have hlog : (slowMmc.ffSdSpiInitialize (2 ^ 31 + 1) 0 (beforeFirstCall slowMmcScript)).2.log =
      [.enter .waitReady, .enter .waitReady, .enter .other, .enter .waitReady, .test .other 5,
        .enter .waitReady, .enter .waitReady, .enter .waitReady] := by decide +kernel
  have hsteady : Steady slowMmc.time halfRange
      (slowMmc.ffSdSpiInitialize (2 ^ 31 + 1) 0 (beforeFirstCall slowMmcScript)).2.log := by
    rw [hlog]
    intro loop
    cases loop <;> simp [ofLoop, LoopEvent.loop, SoonAfter]
  obtain ⟨stat, hstat, hrecords⟩ := (polling_ends wellTimed_slowMmc
    (beforeFirstCall slowMmcScript)).2.2.2 0 hsteady
  exact ⟨stat, hstat, hrecords rfl⟩

end Polling
