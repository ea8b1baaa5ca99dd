import SmartAp.Program.Replay
import SmartAp.SdCard.Polling
import SmartAp.SdCard.CommandFrames

/-!
# Polling without the clock

In `SmartAp.SdCard.Bus` and `SmartAp.SdCard.Driver` there is no clock: a host tells how many polls
there are. A run with the clock that returns is a run of theirs, on a host that replays what the
card and the operating system have answered (`replayHost`); so it is for each protocol function and
for the whole of `ff_sd_spi_initialize` (`replays_ffSdSpiInitialize`). What is proved there for
every host thus holds of every run with the clock that returns, whatever the time did.

## The answers

`Answer` is what a run has been told: a byte, the number of polls of a loop, a result of the
operating system. `Replays` says of two programs that there is a list of answers on which the second
does what the first has done, for every list that follows; it composes like the programs do. A loop
is the case with an argument in it: the run with the clock polls some number of times, and this
number goes in front of the bytes of these polls (`replays_poll`, `attempts_awaitToken`).

It is used at the end, where a fact about every host is carried over to the runs with the clock: a
command goes out as a frame or not at all (`yields_sendCmd`).
-/

/-- What a run has been told. -/
inductive Answer
  | mutex (taken : Bool)
  | byte (miso : UInt8)
  | polls (n : ℕ)

/-- The next byte. A number of polls stands in front of the first byte of its loop, also when that
byte is taken. -/
def nextByte : List Answer → UInt8 × List Answer
  | .byte miso :: rest => (miso, rest)
  | .polls _ :: rest => nextByte rest
  | rest => (0xFF, rest)

/-- The host that replays answers. -/
def replayHost : SpiHost (List Answer) where
  takeMutex
    | .mutex taken :: rest => (taken, rest)
    | rest => (false, rest)
  giveMutex k := k
  delay k := k
  calloc k := (true, k)
  setSpeed _ k := k
  setLevel _ k := k
  trans _ := nextByte
  polls
    | .polls n :: _ => n
    | _ => 0

variable {κ α β : Type}

/-- The bus, on the host that replays. -/
def Bus.withAnswers (b : Bus κ) (answers : List Answer) : Bus (List Answer) := ⟨answers, b.trace⟩

/-- The driver on it. -/
def SdDriver.withAnswers (d : SdDriver (Bus κ)) (answers : List Answer) :
    SdDriver (Bus (List Answer)) := ⟨d.stat, d.cardType, d.card.withAnswers answers⟩

/-- The driver on it, without the clock and the notes. -/
def PollState.withAnswers (s : PollState κ) (answers : List Answer) :
    SdDriver (Bus (List Answer)) := s.inner.driver.withAnswers answers

/-! ### On the bus -/

namespace SpiHost

variable (h : SpiHost κ)

theorem replays_spiRwByte (data : UInt8) : Replays Bus.withAnswers (FuelM.lift (h.spiRwByte data))
    (replayHost.spiRwByte data) :=
  .lift fun b ↦ ⟨[.byte (h.trans data b.host).1], fun _ ↦ rfl⟩

theorem replays_setCs (level : Bool) : Replays Bus.withAnswers (FuelM.lift (h.setCs level))
    (replayHost.setCs level) :=
  .lift fun _ ↦ ⟨[], fun _ ↦ rfl⟩

theorem replays_sendBytes (data : List UInt8) :
    Replays Bus.withAnswers (FuelM.lift (h.sendBytes data)) (replayHost.sendBytes data) := by
  induction data with
  | nil => exact .lift_pure _
  | cons d data ih => exact .lift_bind (h.replays_spiRwByte d) fun _ ↦ ih

theorem replays_readBytes (n : ℕ) :
    Replays Bus.withAnswers (FuelM.lift (h.readBytes n)) (replayHost.readBytes n) := by
  induction n with
  | zero => exact .lift_pure _
  | succ n ih =>
    exact .lift_bind (h.replays_spiRwByte 0xFF) fun _ ↦ .lift_bind ih fun _ ↦ .lift_pure _

theorem replays_deselect :
    Replays Bus.withAnswers (FuelM.lift h.deselect) replayHost.deselect :=
  .lift_bind (h.replays_setCs true) fun _ ↦ .lift_bind (h.replays_spiRwByte 0xFF) fun _ ↦
    .lift_pure _

theorem replays_awaitAnswer (n : ℕ) :
    Replays Bus.withAnswers (FuelM.lift (h.awaitAnswer n)) (replayHost.awaitAnswer n) := by
  induction n with
  | zero => exact h.replays_spiRwByte 0xFF
  | succ n ih =>
    exact .lift_bind (h.replays_spiRwByte 0xFF) fun _ ↦ .lift_ite ih (.lift_pure _)

theorem replays_sendFrame (cmd : UInt8) (arg : UInt32) :
    Replays Bus.withAnswers (FuelM.lift (h.sendFrame cmd arg)) (replayHost.sendFrame cmd arg) := by
  refine .lift_bind (h.replays_sendBytes _) fun _ ↦ .lift_bind (h.replays_spiRwByte _) fun _ ↦ ?_
  exact .lift_ite (.lift_bind (h.replays_spiRwByte 0xFF) fun _ ↦ h.replays_awaitAnswer 9)
    (h.replays_awaitAnswer 9)

end SpiHost

section Clock

open Polling (onDriver onBus note)

variable {p : Polling κ} {fuel : ℕ}

/-! ### What the clock does is not seen -/

theorem unseen_getTickCount : Unseen PollState.withAnswers p.getTickCount := fun _ _ ↦ rfl

theorem unseen_enterLoop (loop : PollLoop) :
    Unseen (PollState.withAnswers (κ := κ)) (enterLoop loop) := fun _ _ ↦ rfl

theorem unseen_expired (loop : PollLoop) (t0 timeout : TickType) :
    Unseen (PollState.withAnswers (κ := κ)) (expired p.time loop t0 timeout) := fun _ _ ↦ rfl

theorem unseen_note (x : CardNote) : Unseen (PollState.withAnswers (κ := κ)) (note x) :=
  fun _ _ ↦ rfl

theorem unseen_delayAfterTick (t0 : TickType) :
    Unseen PollState.withAnswers (p.delayAfterTick t0) :=
  .bind unseen_getTickCount fun _ ↦ .ite (fun _ _ ↦ rfl) (.pure _)

/-! ### On the driver -/

theorem replays_onDriver {m : SdM (Bus κ) α} {m' : SdM (Bus (List Answer)) α}
    (h : Replays SdDriver.withAnswers (FuelM.lift m) m') :
    Replays PollState.withAnswers (onDriver m) m' := fun s a ha ↦ h s.inner.driver a ha

theorem replays_onPort {m : BusM κ α} {m' : BusM (List Answer) α}
    (h : Replays Bus.withAnswers (FuelM.lift m) m') :
    Replays SdDriver.withAnswers (FuelM.lift (onPort m)) (onPort m') := by
  refine .lift fun d ↦ ?_
  obtain ⟨answers, hrun⟩ := h d.card _ rfl
  refine ⟨answers, fun rest ↦ ?_⟩
  show ((m' (d.card.withAnswers (answers ++ rest))).1,
    (⟨d.stat, d.cardType, (m' (d.card.withAnswers (answers ++ rest))).2⟩ : SdDriver _)) = _
  rw [hrun]
  rfl

theorem replays_onBus {m : BusM κ α} {m' : BusM (List Answer) α}
    (h : Replays Bus.withAnswers (FuelM.lift m) m') :
    Replays PollState.withAnswers (onBus m) (onPort m') := replays_onDriver (replays_onPort h)

/-- A function of the host that nothing is told by. -/
theorem replays_host (f : κ → κ) :
    Replays PollState.withAnswers (onDriver (toPort fun b : Bus κ ↦ { b with host := f b.host }))
      (toPort id) := replays_onDriver (.lift fun _ ↦ ⟨[], fun _ ↦ rfl⟩)

theorem bind_onPort {m : PollM κ α} {k : α → PollM κ β} {m' : BusM (List Answer) α}
    {k' : α → BusM (List Answer) β} (hm : Replays PollState.withAnswers m (onPort m'))
    (hk : ∀ a, Replays PollState.withAnswers (k a) (onPort (k' a))) :
    Replays PollState.withAnswers (m >>= k) (onPort (m' >>= k')) := Replays.bind hm hk

theorem onPort_repeatUntil (m : BusM κ Bool) (between : BusM κ PUnit) (n : ℕ) :
    onPort (repeatUntil m between n) = repeatUntil (onPort m) (onPort between) n := by
  induction n with
  | zero => rfl
  | succ n ih =>
    have hround : (fun ok : Bool ↦ onPort (if ok = true then (pure true : BusM κ Bool)
        else between >>= fun _ ↦ repeatUntil m between n)) = fun ok ↦ if ok = true then pure true
          else onPort between >>= fun _ ↦ repeatUntil (onPort m) (onPort between) n := by
      funext ok
      rw [← ih]
      split <;> rfl
    exact congrArg (onPort m >>= ·) hround

/-! ### The waits -/

/-- One poll, which succeeds with the answer `c`. -/
theorem replays_poll {m : PollM κ UInt8} {m' : SdM (Bus (List Answer)) UInt8}
    (hm : Replays PollState.withAnswers m m') (c : UInt8) :
    Replays PollState.withAnswers
      ((do let d ← m; return if d = c then some d else none) >>= fun r ↦ pure r.isSome)
      (do let d ← m'; return d = c) := by
  rw [bind_assoc]
  refine hm.bind fun d ↦ ?_
  rw [pure_bind]
  by_cases hd : d = c
  · rw [if_pos hd, decide_eq_true hd]
    exact .pure _
  · rw [if_neg hd, decide_eq_false hd]
    exact .pure _

theorem replays_waitReady (wt : TickType) :
    Replays PollState.withAnswers (p.waitReady fuel wt) (onPort replayHost.waitReady) := by
  have hattempts : Attempts PollState.withAnswers _ Option.isSome (repeatUntil
      (onPort (do let d ← replayHost.spiRwByte 0xFF; return d = 0xFF : BusM _ Bool))
      (onPort (pure ⟨⟩ : BusM _ PUnit))) :=
    attempts_repeatUntil (replays_poll (replays_onBus (p.host.replays_spiRwByte 0xFF)) 0xFF)
      fun _ ↦ rfl
  refine .unseen_bind unseen_getTickCount fun t0 ↦ .unseen_bind (unseen_enterLoop _) fun _ ↦ ?_
  refine .pollLoop .polls (fun n s rest ↦ ?_) hattempts
    (unseen_delayAfterTick t0) (unseen_expired _ _ _) (.pure _)
  exact (congrFun (onPort_repeatUntil _ _ n) _).trans (repeatUntil_eq_of_eq (by rfl) n)

/-- A poll: one byte, and what it means. -/
theorem exists_poll (f : UInt8 → α) (s : PollState κ) : ∃ miso s',
    (do let d ← onBus (p.host.spiRwByte 0xFF); return f d : PollM κ α) s = (some (f miso), s') ∧
      ∀ rest, onPort (replayHost.spiRwByte 0xFF) (s.withAnswers (.byte miso :: rest)) =
        (miso, PollState.withAnswers s' rest) :=
  ⟨_, _, rfl, fun _ ↦ rfl⟩

/-- After a byte that is no token the wait goes on. -/
theorem awaitToken_next {s s' : PollState κ} {miso : UInt8} {rest : List Answer}
    (h : onPort (replayHost.spiRwByte 0xFF) (s.withAnswers (.byte miso :: rest)) =
      (miso, s'.withAnswers rest)) (n : ℕ) :
    onPort (replayHost.awaitToken (n + 1)) (s.withAnswers (.byte miso :: rest)) =
      onPort (if miso = 0xFF then replayHost.awaitToken n else (pure miso : BusM _ UInt8))
        (s'.withAnswers rest) := by
  show (let r := onPort (replayHost.spiRwByte 0xFF) (s.withAnswers (.byte miso :: rest))
    onPort (if r.1 = 0xFF then replayHost.awaitToken n else (pure r.1 : BusM _ UInt8)) r.2) = _
  rw [h]

/-- The polls for a token. -/
theorem attempts_awaitToken : Attempts PollState.withAnswers
    (do let token ← onBus (p.host.spiRwByte 0xFF)
        return if token = 0xFF then none else some token : PollM κ (Option UInt8))
    (·.getD 0xFF) (fun n ↦ onPort (replayHost.awaitToken n)) := by
  refine ⟨fun s token htoken ↦ ?_, fun s hs ↦ ?_⟩
  · obtain ⟨miso, s', hpoll, hreplay⟩ := exists_poll (p := p)
      (fun token ↦ if token = 0xFF then none else some token) s
    rw [hpoll, Option.some_inj] at htoken
    rw [hpoll]
    by_cases hmiso : miso = 0xFF
    · rw [if_pos hmiso] at htoken
      cases htoken
    · rw [if_neg hmiso, Option.some_inj] at htoken
      subst htoken
      refine ⟨[.byte miso], fun n rest ↦ ?_⟩
      cases n with
      | zero => exact hreplay rest
      | succ n =>
        refine (awaitToken_next (hreplay rest) n).trans ?_
        rw [if_neg hmiso]
        rfl
  · obtain ⟨miso, s', hpoll, hreplay⟩ := exists_poll (p := p)
      (fun token ↦ if token = 0xFF then none else some token) s
    rw [hpoll, Option.some_inj] at hs
    rw [hpoll]
    by_cases hmiso : miso = 0xFF
    · subst hmiso
      exact ⟨[.byte 0xFF], fun rest ↦ ⟨hreplay rest, awaitToken_next (hreplay rest)⟩⟩
    · rw [if_neg hmiso] at hs
      cases hs

/-- The wait for a token, with the bound the host tells. -/
theorem replays_awaitToken : Replays PollState.withAnswers (p.awaitToken fuel)
    (onPort fun b ↦ replayHost.awaitToken (replayHost.polls b.host) b) := by
  refine .unseen_bind unseen_getTickCount fun t0 ↦ .unseen_bind (unseen_enterLoop _) fun _ ↦ ?_
  refine .pollLoop .polls (fun n s rest ↦ ?_) attempts_awaitToken
    (unseen_delayAfterTick t0) (unseen_expired _ _ _) (.pure _)
  cases n <;> rfl

theorem replays_rcvrDatablock (btr : ℕ) : Replays PollState.withAnswers (p.rcvrDatablock fuel btr)
    (onPort (replayHost.rcvrDatablock p.crcOn btr)) := by
  have hsplit : replayHost.rcvrDatablock p.crcOn btr =
      (fun b ↦ replayHost.awaitToken (replayHost.polls b.host) b : BusM _ UInt8) >>= fun token ↦
        if token ≠ 0xFE then pure (false, []) else do
          let buff ← replayHost.readBytes btr
          let high ← replayHost.spiRwByte 0xFF
          let low ← replayHost.spiRwByte 0xFF
          return (!p.crcOn || high.toUInt16 <<< 8 ||| low.toUInt16 = crc16 buff, buff) := rfl
  rw [hsplit]
  refine bind_onPort replays_awaitToken fun token ↦ ?_
  split
  · exact .pure _
  · exact bind_onPort (replays_onBus (p.host.replays_readBytes btr)) fun _ ↦
      bind_onPort (replays_onBus (p.host.replays_spiRwByte 0xFF)) fun _ ↦
        bind_onPort (replays_onBus (p.host.replays_spiRwByte 0xFF)) fun _ ↦ .pure _

/-! ### Commands -/

theorem replays_selectCard :
    Replays PollState.withAnswers (p.selectCard fuel) (onPort replayHost.selectCard) := by
  refine bind_onPort (replays_onBus (p.host.replays_setCs false)) fun _ ↦
    bind_onPort (replays_onBus (p.host.replays_spiRwByte 0xFF)) fun _ ↦
      bind_onPort (replays_waitReady _) fun ok ↦ ?_
  cases ok with
  | true => exact .pure _
  | false => exact bind_onPort (replays_onBus p.host.replays_deselect) fun _ ↦ .pure _

theorem replays_sendPlainCmd (cmd : UInt8) (arg : UInt32) :
    Replays PollState.withAnswers (p.sendPlainCmd fuel cmd arg)
      (onPort (replayHost.sendPlainCmd cmd arg)) := by
  have hframe := replays_onBus (p.host.replays_sendFrame cmd arg)
  rw [Polling.sendPlainCmd, SpiHost.sendPlainCmd]
  split
  · refine bind_onPort (replays_onBus p.host.replays_deselect) fun _ ↦
      bind_onPort replays_selectCard fun ok ↦ ?_
    cases ok with
    | true => exact hframe
    | false => exact .pure _
  · exact hframe

/-- **`send_cmd`.** -/
theorem replays_sendCmd (cmd : UInt8) (arg : UInt32) :
    Replays PollState.withAnswers (p.sendCmd fuel cmd arg)
      (onPort (replayHost.sendCmd cmd arg)) := by
  have hbare : Replays PollState.withAnswers (p.sendBareCmd fuel cmd arg)
      (onPort (replayHost.sendCmd cmd arg)) := by
    rw [Polling.sendBareCmd, SpiHost.sendCmd]
    split
    · refine bind_onPort (replays_sendPlainCmd _ _) fun res ↦ ?_
      split
      · exact .pure _
      · exact replays_sendPlainCmd _ _
    · exact replays_sendPlainCmd _ _
  exact hbare.bind_unseen (fun res ↦ .bind (unseen_note _) fun _ ↦ .pure _)
    fun _ _ _ hres ↦ (Option.some_inj.1 hres).symm

/-! ### Initialisation -/

/-- Every command begins with a byte, so that it makes no difference whether the number of polls of
the loop around it still stands in front. -/
theorem sendPlainCmd_polls (cmd : UInt8) (arg : UInt32) (n : ℕ) (rest : List Answer)
    (trace : List BusEvent) : replayHost.sendPlainCmd cmd arg ⟨.polls n :: rest, trace⟩ =
      replayHost.sendPlainCmd cmd arg ⟨rest, trace⟩ := by
  rw [SpiHost.sendPlainCmd]
  split <;> rfl

theorem sendCmd_polls (cmd : UInt8) (arg : UInt32) (n : ℕ) (rest : List Answer)
    (trace : List BusEvent) : replayHost.sendCmd cmd arg ⟨.polls n :: rest, trace⟩ =
      replayHost.sendCmd cmd arg ⟨rest, trace⟩ := by
  rw [SpiHost.sendCmd]
  split
  · exact bind_eq_of_eq (sendPlainCmd_polls _ _ n rest trace)
  · exact sendPlainCmd_polls _ _ n rest trace

/-- **The loops with `ACMD41` and `CMD1`.** -/
theorem replays_pollReady (loop : PollLoop) (t0 : TickType) (cmd : UInt8) (arg : UInt32) :
    Replays PollState.withAnswers (p.pollReady fuel loop t0 cmd arg)
      (pollReady (replayHost.port p.toSdOptions) cmd arg) := by
  have hfirst : ∀ n s rest, onPort (replayHost.sendCmd cmd arg)
      (PollState.withAnswers (κ := κ) s (.polls n :: rest)) =
        onPort (replayHost.sendCmd cmd arg) (s.withAnswers rest) := by
    intro n s rest
    show (let r := replayHost.sendCmd cmd arg ⟨.polls n :: rest, s.inner.driver.card.trace⟩
      (r.1, (⟨s.inner.driver.stat, s.inner.driver.cardType, r.2⟩ : SdDriver _))) = _
    rw [sendCmd_polls]
    rfl
  have hcmd : Replays PollState.withAnswers (p.sendCmd fuel cmd arg) _ := replays_sendCmd cmd arg
  have hattempts : Attempts PollState.withAnswers _ Option.isSome (repeatUntil
      (do let res ← onPort (replayHost.sendCmd cmd arg); return res = 0)
      (toPort (replayHost.port p.toSdOptions).delay)) :=
    attempts_repeatUntil (replays_poll hcmd 0) fun _ ↦ rfl
  refine .unseen_bind (unseen_enterLoop _) fun _ ↦ .pollLoop .polls (fun n s rest ↦ ?_) hattempts
    (.pure _) (unseen_expired _ _ _) (unseen_delayAfterTick t0)
  exact repeatUntil_eq_of_eq (bind_eq_of_eq (hfirst n s rest)) n

/-- `spi_rw_byte(0xFF)` -/
theorem replays_readByte : Replays SdDriver.withAnswers (FuelM.lift (readByte p.port))
    (readByte (replayHost.port p.toSdOptions)) :=
  replays_onPort (p.host.replays_spiRwByte 0xFF)

theorem replays_readOcr : Replays PollState.withAnswers (onDriver (readOcr p.port))
    (readOcr (replayHost.port p.toSdOptions)) :=
  replays_onDriver (.lift_bind replays_readByte fun _ ↦ .lift_bind replays_readByte fun _ ↦
    .lift_bind replays_readByte fun _ ↦ .lift_bind replays_readByte fun _ ↦ .lift_pure _)

theorem replays_toPort {m : BusM κ PUnit} {m' : BusM (List Answer) PUnit}
    (h : Replays Bus.withAnswers (FuelM.lift m) m') :
    Replays PollState.withAnswers (onDriver (toPort (SpiHost.run m))) (toPort (SpiHost.run m')) :=
  replays_onBus h

theorem replays_cmd0Attempt : Replays PollState.withAnswers (p.cmd0Attempt fuel)
    (cmd0Attempt (replayHost.port p.toSdOptions)) := by
  have hclocks : ∀ n, Replays SdDriver.withAnswers
      (FuelM.lift (times n (do let _ ← readByte p.port)))
      (times n (do let _ ← readByte (replayHost.port p.toSdOptions))) := by
    intro n
    induction n with
    | zero => exact .lift_pure _
    | succ n ih =>
      exact .lift_bind (.lift_bind replays_readByte fun _ ↦ .lift_pure _) fun _ ↦ ih
  refine .bind (replays_toPort (p.host.replays_setCs true)) fun _ ↦
    .bind (replays_onDriver (hclocks 10)) fun _ ↦
      .bind (replays_toPort (p.host.replays_setCs false)) fun _ ↦
        .bind (replays_onDriver replays_readByte) fun _ ↦ .bind (replays_sendCmd cmd0 0) fun _ ↦ ?_
  exact .pure _

theorem replays_cmd0Loop (retries : ℕ) : Replays PollState.withAnswers (p.cmd0Loop fuel retries)
    (cmd0Loop (replayHost.port p.toSdOptions) retries) := by
  induction retries with
  | zero => exact .pure _
  | succ retry ih =>
    refine .bind replays_cmd0Attempt fun ok ↦ .ite (.pure _) ?_
    exact .bind (replays_toPort p.host.replays_deselect) fun _ ↦ .bind (replays_host _) fun _ ↦ ih

theorem replays_identifySd2 (t0 : TickType) : Replays PollState.withAnswers
    (p.identifySd2 fuel t0) (identifySd2 (replayHost.port p.toSdOptions)) := by
  refine .bind replays_readOcr fun _ ↦ .ite (.bind (replays_pollReady _ _ _ _) fun _ ↦
    .ite (.bind (replays_sendCmd _ _) fun _ ↦ .ite ?_ (.pure _)) (.pure _)) (.pure _)
  exact .bind replays_readOcr fun _ ↦ .pure _

theorem replays_identifyOther : Replays PollState.withAnswers
    (p.identifyOther fuel) (identifyOther (replayHost.port p.toSdOptions)) := by
  refine .unseen_bind unseen_getTickCount fun t0 ↦ .bind (replays_sendCmd _ _) fun _ ↦ .ite ?_ ?_
  · exact .bind (replays_pollReady _ _ _ _) fun _ ↦ .pure _
  · exact .bind (replays_pollReady _ _ _ _) fun _ ↦ .pure _

theorem replays_configureCard (ty : UInt8) : Replays PollState.withAnswers
    (p.configureCard fuel ty) (do
      if ty = 0 then return 0
      else
        if p.crcOn then
          let _ ← onPort (replayHost.sendCmd cmd59 1)
        if ty &&& ctBlock = 0 then
          let res ← onPort (replayHost.sendCmd cmd16 512)
          return if res ≠ 0 then 0 else ty
        else return ty : SdM _ UInt8) := by
  have hblock : Replays PollState.withAnswers (do
      if ty &&& ctBlock = 0 then
        let res ← p.sendCmd fuel cmd16 512
        return if res ≠ 0 then 0 else ty
      else return ty : PollM κ UInt8) (do
      if ty &&& ctBlock = 0 then
        let res ← onPort (replayHost.sendCmd cmd16 512)
        return if res ≠ 0 then 0 else ty
      else return ty : SdM _ UInt8) :=
    .ite (.bind (replays_sendCmd _ _) fun _ ↦ .pure _) (.pure _)
  exact .ite (.pure _) (.ite (.bind (replays_sendCmd _ _) fun _ ↦ hblock) hblock)

theorem replays_identifyCard : Replays PollState.withAnswers
    (p.identifyCard fuel) (identifyCard (replayHost.port p.toSdOptions) p.toSdOptions) := by
  refine .unseen_bind unseen_getTickCount fun t0 ↦ .bind (replays_sendCmd _ _) fun _ ↦ .ite ?_ ?_
  · exact .bind (replays_identifySd2 t0) fun ty ↦ replays_configureCard ty
  · exact .bind replays_identifyOther fun ty ↦ replays_configureCard ty

/-- What is set beside the bus. -/
theorem replays_modify {f : SdDriver (Bus κ) → SdDriver (Bus κ)}
    {f' : SdDriver (Bus (List Answer)) → SdDriver (Bus (List Answer))}
    (h : ∀ d rest, f' (d.withAnswers rest) = (f d).withAnswers rest) :
    Replays PollState.withAnswers (onDriver (modify f)) (modify f') :=
  replays_onDriver (.lift fun d ↦ ⟨[], fun rest ↦ congrArg (Prod.mk _) (h d rest)⟩)

theorem replays_finishInitialize (ty : UInt8) : Replays PollState.withAnswers
    (p.finishInitialize fuel ty) (finishInitialize (replayHost.port p.toSdOptions) ty) := by
  have hset : Replays PollState.withAnswers (Polling.setCardType ty : PollM κ PUnit)
      (modify fun d ↦ { d with cardType := ty }) :=
    .bind_unseen (replays_modify fun _ _ ↦ rfl) (fun _ ↦ unseen_note _) fun _ _ _ _ ↦ rfl
  have hstatus : Replays PollState.withAnswers (p.sendStatus fuel)
      (sendStatus (replayHost.port p.toSdOptions)) :=
    .bind (replays_sendCmd _ _) fun _ ↦ .bind (replays_onDriver replays_readByte) fun _ ↦
      .bind (replays_toPort p.host.replays_deselect) fun _ ↦ .pure _
  refine .bind hset fun _ ↦ .bind (replays_toPort p.host.replays_deselect) fun _ ↦ .ite ?_ ?_
  · refine .bind (replays_modify fun _ _ ↦ rfl) fun _ ↦ .bind (replays_host _) fun _ ↦
      .bind hstatus fun _ ↦ .ite (replays_modify fun _ _ ↦ rfl) (.pure _)
  · exact replays_modify fun _ _ ↦ rfl

theorem replays_initializeCard : Replays PollState.withAnswers (p.initializeCard fuel)
    (initializeCard (replayHost.port p.toSdOptions) p.toSdOptions) := by
  refine .bind (replays_host _) fun _ ↦ .bind (replays_cmd0Loop _) fun _ ↦ .ite ?_ ?_
  · exact .bind (replays_toPort p.host.replays_deselect) fun _ ↦ .bind replays_identifyCard fun ty ↦
      replays_finishInitialize ty
  · exact replays_modify fun _ _ ↦ rfl

/-- The driver is read, and nothing else than `Stat` and `CardType` is used of it. -/
theorem replays_get {k : SdDriver (Bus κ) → PollM κ α}
    {k' : SdDriver (Bus (List Answer)) → SdM (Bus (List Answer)) α}
    (hsame : ∀ (d : SdDriver (Bus κ)) rest, k' (d.withAnswers rest) = k' (d.withAnswers []))
    (hk : ∀ d, Replays PollState.withAnswers (k d) (k' (d.withAnswers []))) :
    Replays PollState.withAnswers (onDriver get >>= k) (get >>= k') := by
  intro s a ha
  obtain ⟨answers, hrun⟩ := hk s.inner.driver s a ha
  refine ⟨answers, fun rest ↦ ?_⟩
  show k' (s.inner.driver.withAnswers (answers ++ rest)) (s.withAnswers (answers ++ rest)) = _
  rw [hsame, hrun]
  rfl

/-- **`ff_sd_spi_initialize` with the clock is `ff_sd_spi_initialize` on a host that replays.** -/
theorem replays_ffSdSpiInitialize (pdrv : ℕ) : Replays PollState.withAnswers
    (p.ffSdSpiInitialize fuel pdrv)
    (ffSdSpiInitialize (replayHost.port p.toSdOptions) p.toSdOptions pdrv) := by
  have htake : Replays PollState.withAnswers (onDriver (onPort p.port.takeMutex))
      (onPort (replayHost.port p.toSdOptions).takeMutex) :=
    replays_onBus (.lift fun b ↦ ⟨[.mutex (p.host.takeMutex b.host).1], fun _ ↦ rfl⟩)
  refine .ite (.pure _) (replays_get (fun _ _ ↦ rfl) fun d ↦ .ite (.pure _) ?_)
  refine .bind htake fun _ ↦ .ite (.bind replays_initializeCard fun _ ↦ ?_) (.pure _)
  exact .bind (replays_host _) fun _ ↦ replays_get (fun _ _ ↦ rfl) fun _ ↦ .pure _

/-! ### What follows -/

/-- **With the clock, too, a command goes out as a frame**, or not at all. -/
theorem yields_sendCmd {cmd : UInt8} (hcmd : cmd < 64) (arg : UInt32) :
    Yields (fun s : PollState κ ↦ s.inner.driver.card.trace = []) (p.sendCmd fuel cmd arg)
      fun res s ↦ s.inner.driver.card.frames.log = [] ∨ ∃ frame, ValidFrame cmd arg frame ∧
        s.inner.driver.card.frames.log = exchangeOf frame res := by
  have hcommand : Triple (fun d : SdDriver (Bus (List Answer)) ↦ d.card.trace = [])
      (onPort (replayHost.sendCmd cmd arg)) fun res d ↦ d.card.frames.log = [] ∨
        ∃ frame, ValidFrame cmd arg frame ∧ d.card.frames.log = exchangeOf frame res := by
    rintro ⟨stat, cardType, ⟨answers, trace⟩⟩ rfl
    obtain ⟨hready, hbusy⟩ := replayHost.sendsCommand hcmd arg answers
    by_cases h : replayHost.ReadyFor cmd ⟨answers, []⟩
    · exact .inr (hready h)
    · exact .inl (hbusy h)
  exact ((replays_sendCmd cmd arg).yields hcommand).weaken (fun _ hs _ ↦ hs) fun _ _ ↦ id

end Clock
