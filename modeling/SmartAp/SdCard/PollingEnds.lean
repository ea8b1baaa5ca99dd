import SmartAp.SdCard.Polling

/-!
# Polling ends

With a clock as the operating system has it, the loops that poll the card end whatever the card
sends (`ends_waitReady`, `ends_awaitToken`, `ends_pollReady`), and so does `ff_sd_spi_initialize`
(`ends_ffSdSpiInitialize`), where waits for the card are nested in the loops with `ACMD41` and
`CMD1`. The fuel does not depend on the card.

`WellTimed` is the condition on the clock and the options: time does not stand still for ever, every
timeout is in the lower half of the range of the counter, and there is fuel for as many polls as a
timeout has room for. Of the run it is asked that each loop tests its deadline often enough
(`Steady`), so that no test is more than half the range after the one before. The counter may begin
anywhere and wrap around in a wait; the difference that the code computes is still the time that has
passed.

The argument is one lemma on loops with a deadline (`ends_loop`), an instance of
`SmartAp.Program.Deadline`. Each loop of the driver is such a loop with its own body.
-/

namespace Polling

variable {κ : Type} {α : Type} {p : Polling κ} {k fuel : ℕ}

/-- Half the range of the counter. -/
def halfRange : ℕ := 2 ^ 31

/-- **The clock and the timeouts** are as they have to be: time goes on, all timeouts are in the
lower half of the range, and there is fuel for as many polls as they have room for. -/
structure WellTimed (p : Polling κ) (k fuel : ℕ) : Prop where
  paced : Paced p.time k
  waitReady : (p.msToTicksSafe p.waitReadyMs).toNat < halfRange
  readToken : (p.msToTicksSafe p.readTokenTimeoutMs).toNat < halfRange
  init : (p.msToTicksSafe p.initTimeoutMs).toNat < halfRange
  fuel : k * halfRange < fuel

/-! ### Parts -/

section Parts

variable {own : PollLoop → Prop}

theorem ends_onDriver (m : SdM (Bus κ) α) : Ends p.time halfRange own (onDriver m) :=
  .untimed _

theorem ends_note (x : CardNote) : Ends p.time halfRange own (note x : PollM κ PUnit) :=
  .untimed _

theorem ends_getTickCount : Ends p.time halfRange own p.getTickCount := .readTicks

theorem ends_delayAfterTick (t0 : TickType) : Ends p.time halfRange own (p.delayAfterTick t0) :=
  .bind ends_getTickCount fun _ ↦ .ite (ends_onDriver _) (.pure _)

end Parts

theorem double_halfRange : 2 ^ 32 = halfRange + halfRange := rfl

/-- A loop of the driver. -/
theorem ends_loop (own : PollLoop → Prop) (hp : p.WellTimed k fuel) {loop : PollLoop}
    {t0 timeout : TickType} (htimeout : timeout.toNat < halfRange)
    {attempt : PollM κ (Option α)} {before after : PollM κ PUnit}
    (hattempt : Ends p.time halfRange own attempt) (hbefore : Ends p.time halfRange own before)
    (hafter : Ends p.time halfRange own after) (hother : ¬ own loop) :
    Ends p.time halfRange (fun i ↦ own i ∨ i = loop)
      (pollLoop p.time loop t0 timeout attempt before after fuel) := by
  refine .pollLoop hp.paced double_halfRange htimeout hattempt hbefore hafter hother ?_
  exact (Nat.mul_le_mul_left k htimeout.le).trans_lt hp.fuel

/-! ### The waits -/

/-- **`wait_ready` ends.** -/
theorem ends_waitReady (hp : p.WellTimed k fuel) {wt : TickType}
    (htimeout : (p.msToTicksSafe wt).toNat < halfRange) :
    Ends p.time halfRange (· = .waitReady) (p.waitReady fuel wt) := by
  refine .bind ends_getTickCount fun t0 ↦ .bind (.enterLoop rfl) fun _ ↦ .bind ?_ fun _ ↦ .pure _
  refine (ends_loop (fun _ ↦ False) hp htimeout (.bind (ends_onDriver _) fun _ ↦ .pure _)
    (ends_delayAfterTick t0) (.pure _) id).mono fun _ ↦ ?_
  exact fun hloop ↦ hloop.resolve_left id

/-- **The wait for a token ends.** -/
theorem ends_awaitToken (hp : p.WellTimed k fuel) :
    Ends p.time halfRange (· = .token) (p.awaitToken fuel) := by
  refine .bind ends_getTickCount fun t0 ↦ .bind (.enterLoop rfl) fun _ ↦ .bind ?_ fun _ ↦ .pure _
  refine (ends_loop (fun _ ↦ False) hp hp.readToken (.bind (ends_onDriver _) fun _ ↦ .pure _)
    (ends_delayAfterTick t0) (.pure _) id).mono fun _ ↦ ?_
  exact fun hloop ↦ hloop.resolve_left id

/-! ### Commands -/

theorem ends_selectCard (hp : p.WellTimed k fuel) :
    Ends p.time halfRange (· = .waitReady) (p.selectCard fuel) :=
  .bind (ends_onDriver _) fun _ ↦ .bind (ends_onDriver _) fun _ ↦
    .bind (ends_waitReady hp hp.waitReady) fun _ ↦
      .ite (.pure _) (.bind (ends_onDriver _) fun _ ↦ .pure _)

theorem ends_sendPlainCmd (hp : p.WellTimed k fuel) (cmd : UInt8) (arg : UInt32) :
    Ends p.time halfRange (· = .waitReady) (p.sendPlainCmd fuel cmd arg) :=
  .ite (.bind (ends_onDriver _) fun _ ↦ .bind (ends_selectCard hp) fun _ ↦
    .ite (ends_onDriver _) (.pure _)) (ends_onDriver _)

theorem ends_sendCmd (hp : p.WellTimed k fuel) (cmd : UInt8) (arg : UInt32) :
    Ends p.time halfRange (· = .waitReady) (p.sendCmd fuel cmd arg) :=
  .bind (.ite (.bind (ends_sendPlainCmd hp _ _) fun _ ↦ .ite (.pure _) (ends_sendPlainCmd hp _ _))
    (ends_sendPlainCmd hp _ _)) fun _ ↦ .bind (ends_note _) fun _ ↦ .pure _

/-! ### Initialisation -/

/-- **The loops with `ACMD41` and `CMD1` end.** -/
theorem ends_pollReady (hp : p.WellTimed k fuel) {loop : PollLoop} (hloop : loop ≠ .waitReady)
    (t0 : TickType) (cmd : UInt8) (arg : UInt32) :
    Ends p.time halfRange (fun _ ↦ True) (p.pollReady fuel loop t0 cmd arg) := by
  refine .bind (.enterLoop trivial) fun _ ↦ .bind ?_ fun _ ↦ .pure _
  exact (ends_loop _ hp hp.init (.bind (ends_sendCmd hp cmd arg) fun _ ↦ .pure _) (.pure _)
    (ends_delayAfterTick t0) hloop).mono fun _ _ ↦ trivial

/-- Nothing is asked of a command that is sent outside such a loop. -/
theorem ends_command (hp : p.WellTimed k fuel) (cmd : UInt8) (arg : UInt32) :
    Ends p.time halfRange (fun _ ↦ True) (p.sendCmd fuel cmd arg) :=
  (ends_sendCmd hp cmd arg).mono fun _ _ ↦ trivial

theorem ends_cmd0Loop (hp : p.WellTimed k fuel) (retries : ℕ) :
    Ends p.time halfRange (fun _ ↦ True) (p.cmd0Loop fuel retries) := by
  induction retries with
  | zero => exact .pure _
  | succ retry ih =>
    have hattempt : Ends p.time halfRange (fun _ ↦ True) (p.cmd0Attempt fuel) :=
      .bind (ends_onDriver _) fun _ ↦ .bind (ends_onDriver _) fun _ ↦
        .bind (ends_onDriver _) fun _ ↦ .bind (ends_onDriver _) fun _ ↦
          .bind (ends_command hp _ _) fun _ ↦ .pure _
    exact .bind hattempt fun _ ↦ .ite (.pure _) (.bind (ends_onDriver _) fun _ ↦
      .bind (ends_onDriver _) fun _ ↦ ih)

theorem ends_identifySd2 (hp : p.WellTimed k fuel) (t0 : TickType) :
    Ends p.time halfRange (fun _ ↦ True) (p.identifySd2 fuel t0) :=
  .bind (ends_onDriver _) fun _ ↦ .ite (.bind (ends_pollReady hp (by decide) _ _ _) fun _ ↦
    .ite (.bind (ends_command hp _ _) fun _ ↦ .ite (.bind (ends_onDriver _) fun _ ↦ .pure _)
      (.pure _)) (.pure _)) (.pure _)

theorem ends_identifyOther (hp : p.WellTimed k fuel) :
    Ends p.time halfRange (fun _ ↦ True) (p.identifyOther fuel) :=
  .bind ends_getTickCount fun _ ↦ .bind (ends_command hp _ _) fun _ ↦
    .ite (.bind (ends_pollReady hp (by decide) _ _ _) fun _ ↦ .pure _)
      (.bind (ends_pollReady hp (by decide) _ _ _) fun _ ↦ .pure _)

theorem ends_configureCard (hp : p.WellTimed k fuel) (ty : UInt8) :
    Ends p.time halfRange (fun _ ↦ True) (p.configureCard fuel ty) := by
  have hblock : Ends p.time halfRange (fun _ ↦ True) (do
      if ty &&& ctBlock = 0 then
        let res ← p.sendCmd fuel cmd16 512
        return if res ≠ 0 then 0 else ty
      else return ty : PollM κ UInt8) :=
    .ite (.bind (ends_command hp _ _) fun _ ↦ .pure _) (.pure _)
  exact .ite (.pure _) (.ite (.bind (ends_command hp _ _) fun _ ↦ hblock) hblock)

theorem ends_identifyCard (hp : p.WellTimed k fuel) :
    Ends p.time halfRange (fun _ ↦ True) (p.identifyCard fuel) :=
  .bind ends_getTickCount fun t0 ↦ .bind (ends_command hp _ _) fun _ ↦
    .ite (.bind (ends_identifySd2 hp t0) fun ty ↦ ends_configureCard hp ty)
      (.bind (ends_identifyOther hp) fun ty ↦ ends_configureCard hp ty)

theorem ends_finishInitialize (hp : p.WellTimed k fuel) (ty : UInt8) :
    Ends p.time halfRange (fun _ ↦ True) (p.finishInitialize fuel ty) := by
  have hstatus : Ends p.time halfRange (fun _ ↦ True) (p.sendStatus fuel) :=
    .bind (ends_command hp _ _) fun _ ↦ .bind (ends_onDriver _) fun _ ↦
      .bind (ends_onDriver _) fun _ ↦ .pure _
  have hset : Ends p.time halfRange (fun _ ↦ True) (setCardType ty : PollM κ PUnit) :=
    .bind (ends_onDriver _) fun _ ↦ ends_note _
  exact .bind hset fun _ ↦ .bind (ends_onDriver _) fun _ ↦ .ite (.bind (ends_onDriver _) fun _ ↦
    .bind (ends_onDriver _) fun _ ↦ .bind hstatus fun _ ↦ .ite (ends_onDriver _) (.pure _))
      (ends_onDriver _)

/-- **`ff_sd_spi_initialize` ends.** -/
theorem ends_ffSdSpiInitialize (hp : p.WellTimed k fuel) (pdrv : ℕ) :
    Ends p.time halfRange (fun _ ↦ True) (p.ffSdSpiInitialize fuel pdrv) := by
  have hcard : Ends p.time halfRange (fun _ ↦ True) (p.initializeCard fuel) :=
    .bind (ends_onDriver _) fun _ ↦ .bind (ends_cmd0Loop hp _) fun _ ↦
      .ite (.bind (ends_onDriver _) fun _ ↦ .bind (ends_identifyCard hp) fun _ ↦
        ends_finishInitialize hp _) (ends_onDriver _)
  exact .ite (.pure _) (.bind (ends_onDriver _) fun _ ↦ .ite (.pure _)
    (.bind (ends_onDriver _) fun _ ↦ .ite (.bind hcard fun _ ↦ .bind (ends_onDriver _) fun _ ↦
      .bind (ends_onDriver _) fun _ ↦ .pure _) (.pure _)))

end Polling
