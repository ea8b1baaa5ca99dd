import SmartAp.SdCard.Record
import SmartAp.SdCard.Ioctl

/-!
# What the driver keeps under the mutex

Between `xSemaphoreTake` and `xSemaphoreGive` the functions of the driver go through the port, and
read `CardType`. `SdPort.Stable` says that the functions of the port keep an assertion about the
driver, and `SdPort.StableAll` adds the ones that only writing and unlocking use; commands and
blocks count as far as they are `allowed`. The lemmas below follow the text of the driver, once for
every assertion.

An assertion is then carried through a call by naming the commands that the call may send, and
showing two or three facts about the functions of the port. It is used for what has been sent
(`stableAll_onlySends`), for the registers (`stableAll_registers`), for a card that stays locked,
for the log of the bus, and for the card with a password. When the text of the driver changes, the
lemmas here change and the uses do not.
-/

variable {κ α : Type}

/-- What initialising and reading do at the port keeps `P`, the mutex apart. -/
structure SdPort.Stable (port : SdPort κ) (allowed : SdSent → Prop) (P : SdDriver κ → Prop) :
    Prop where
  delay : Keeps P (toPort port.delay)
  setSpeed : ∀ high, Keeps P (toPort (port.setSpeed high))
  csHigh : Keeps P (toPort port.csHigh)
  csLow : Keeps P (toPort port.csLow)
  readByte : Keeps P (readByte port)
  deselect : Keeps P (toPort port.deselect)
  sendCmd : ∀ cmd arg, allowed (.command cmd arg) → Keeps P (onPort (port.sendCmd cmd arg))
  rcvrDatablock : ∀ btr, Keeps P (onPort (port.rcvrDatablock btr))

/-- What the driver does at the port keeps `P`, the mutex apart. -/
structure SdPort.StableAll (port : SdPort κ) (allowed : SdSent → Prop) (P : SdDriver κ → Prop) :
    Prop extends port.Stable allowed P where
  calloc : Keeps P (onPort port.calloc)
  waitReady : Keeps P (onPort port.waitReady)
  selectCard : Keeps P (onPort port.selectCard)
  xmitDatablock : ∀ buff token, allowed (.block buff token) →
    Keeps P (onPort (port.xmitDatablock buff token))

/-- The commands that identify a card. -/
def Identifies (allowed : SdSent → Prop) : Prop :=
  ∀ cmd ∈ [cmd1, cmd8, cmd16, cmd58, cmd59, acmd41], ∀ arg, allowed (.command cmd arg)

/-! ### Identifying a card -/

section Stable

variable {port : SdPort κ} {allowed : SdSent → Prop} {P : SdDriver κ → Prop}
  (stable : port.Stable allowed P)

include stable

theorem stable_sendStatus (hcmd : allowed (.command cmd13 0)) : Keeps P (sendStatus port) :=
  .bind (stable.sendCmd cmd13 0 hcmd) fun _ ↦ .bind stable.readByte fun _ ↦
    .bind stable.deselect fun _ ↦ .pure _

theorem stable_readOcr : Keeps P (readOcr port) :=
  .bind stable.readByte fun _ ↦ .bind stable.readByte fun _ ↦ .bind stable.readByte fun _ ↦
    .bind stable.readByte fun _ ↦ .pure _

theorem stable_cmd0Loop (hcmd : allowed (.command cmd0 0)) (retries : ℕ) :
    Keeps P (cmd0Loop port retries) := by
  have hattempt : Keeps P (cmd0Attempt port) :=
    .bind stable.csHigh fun _ ↦ .bind (.times (.bind stable.readByte fun _ ↦ .pure _) 10) fun _ ↦
      .bind stable.csLow fun _ ↦ .bind stable.readByte fun _ ↦
        .bind (stable.sendCmd cmd0 0 hcmd) fun _ ↦ .pure _
  induction retries with
  | zero => exact .pure _
  | succ retries ih =>
    exact .bind hattempt fun _ ↦ .ite (.pure _) <|
      .bind stable.deselect fun _ ↦ .bind stable.delay fun _ ↦ ih

theorem stable_pollReady {cmd : UInt8} {arg : UInt32} (hcmd : allowed (.command cmd arg)) :
    Keeps P (pollReady port cmd arg) :=
  .bind .get fun _ ↦ .repeatUntil (.bind (stable.sendCmd cmd arg hcmd) fun _ ↦ .pure _)
    stable.delay _

theorem stable_identifySd2 (hcmds : Identifies allowed) : Keeps P (identifySd2 port) := by
  refine .bind (stable_readOcr stable) fun _ ↦ .ite ?_ (.pure _)
  refine .bind (stable_pollReady stable (hcmds acmd41 (by decide) _)) fun _ ↦ .ite ?_ (.pure _)
  refine .bind (stable.sendCmd cmd58 0 (hcmds cmd58 (by decide) _)) fun _ ↦ .ite ?_ (.pure _)
  exact .bind (stable_readOcr stable) fun _ ↦ .pure _

theorem stable_identifyOther (hcmds : Identifies allowed) : Keeps P (identifyOther port) := by
  refine .bind (stable.sendCmd acmd41 0 (hcmds acmd41 (by decide) _)) fun _ ↦ .ite ?_ ?_
  · exact .bind (stable_pollReady stable (hcmds acmd41 (by decide) _)) fun _ ↦ .pure _
  · exact .bind (stable_pollReady stable (hcmds cmd1 (by decide) _)) fun _ ↦ .pure _

/-- What the commands of an identification keep, the identification keeps. -/
theorem stable_identifyCard {opt : SdOptions} (hcmds : Identifies allowed) :
    Keeps P (identifyCard port opt) := by
  have hlength : ∀ ty : UInt8, Keeps P (if ty &&& ctBlock = 0 then do
      let res ← onPort (port.sendCmd cmd16 512)
      return if res ≠ 0 then 0 else ty
    else return ty) := fun ty ↦
    .ite (.bind (stable.sendCmd cmd16 512 (hcmds cmd16 (by decide) _)) fun _ ↦ .pure _) (.pure _)
  have hrest : ∀ ty : UInt8, Keeps P (if ty = 0 then return 0 else do
      if opt.crcOn then
        let _ ← onPort (port.sendCmd cmd59 1)
      if ty &&& ctBlock = 0 then
        let res ← onPort (port.sendCmd cmd16 512)
        return if res ≠ 0 then 0 else ty
      else return ty) := fun ty ↦
    .ite (.pure _) <| .ite
      (.bind (stable.sendCmd cmd59 1 (hcmds cmd59 (by decide) _)) fun _ ↦ hlength ty) (hlength ty)
  exact .bind (stable.sendCmd cmd8 0x1AA (hcmds cmd8 (by decide) _)) fun _ ↦
    .ite (.bind (stable_identifySd2 stable hcmds) hrest)
      (.bind (stable_identifyOther stable hcmds) hrest)

/-- What it does to `Stat` and `CardType` does not matter to `P`. -/
theorem stable_finishInitialize (hcmd : allowed (.command cmd13 0))
    (hregisters : ∀ d d', d'.card = d.card → P d → P d') (ty : UInt8) :
    Keeps P (finishInitialize port ty) := by
  have hmodify : ∀ f : SdDriver κ → SdDriver κ, (∀ d, (f d).card = d.card) →
      Keeps P (modify f : SdM κ PUnit) := fun f hf ↦ .modify fun d hd ↦ hregisters d (f d) (hf d) hd
  refine .bind (hmodify _ fun _ ↦ rfl) fun _ ↦ .bind stable.deselect fun _ ↦ ?_
  refine .ite ?_ (hmodify _ fun _ ↦ rfl)
  refine .bind (hmodify _ fun _ ↦ rfl) fun _ ↦ .bind (stable.setSpeed true) fun _ ↦ ?_
  exact .bind (stable_sendStatus stable hcmd) fun _ ↦ .ite (hmodify _ fun _ ↦ rfl) (.pure _)

/-- What the commands of an initialization keep, and the registers do not see, it keeps. -/
theorem stable_initializeCard {opt : SdOptions} (h0 : allowed (.command cmd0 0))
    (h13 : allowed (.command cmd13 0)) (hcmds : Identifies allowed)
    (hregisters : ∀ d d', d'.card = d.card → P d → P d') : Keeps P (initializeCard port opt) := by
  refine .bind (stable.setSpeed false) fun _ ↦ .bind (stable_cmd0Loop stable h0 _) fun _ ↦
    .ite ?_ (.modify fun d hd ↦ hregisters d _ rfl hd)
  exact .bind stable.deselect fun _ ↦ .bind (stable_identifyCard stable hcmds) fun ty ↦
    stable_finishInitialize stable h13 hregisters ty

/-! ### Reading -/

theorem stable_readBlocks (count : ℕ) : Keeps P (readBlocks port count) := by
  induction count with
  | zero => exact .pure _
  | succ count ih =>
    exact .bind (stable.rcvrDatablock 512) fun _ ↦ .ite (.bind ih fun _ ↦ .pure _) (.pure _)

theorem stable_readCsd (hcmd : allowed (.command cmd9 0)) : Keeps P (readCsd port) :=
  .bind (stable.sendCmd cmd9 0 hcmd) fun _ ↦
    .ite (.bind (stable.rcvrDatablock 16) fun _ ↦ .pure _) (.pure _)

end Stable

/-! ### Blocks, requests and passwords -/

section StableAll

variable {port : SdPort κ} {allowed : SdSent → Prop} {P : SdDriver κ → Prop}
  (stable : port.StableAll allowed P)

include stable

/-- What the commands of a transfer keep, the transfer keeps. -/
theorem stable_readTransfer {sector : UInt32} {count : ℕ} (h17 : allowed (.command cmd17 sector))
    (h18 : allowed (.command cmd18 sector)) (h12 : allowed (.command cmd12 0)) :
    Keeps P (readTransfer port sector count) := by
  refine .ite ?_ ?_
  · exact .bind (stable.sendCmd _ _ h17) fun _ ↦ .ite (stable.rcvrDatablock 512) (.pure _)
  · refine .bind (stable.sendCmd _ _ h18) fun _ ↦ .ite ?_ (.pure _)
    exact .bind (stable_readBlocks stable.toStable count) fun _ ↦
      .bind (stable.sendCmd _ _ h12) fun _ ↦ .bind stable.waitReady fun _ ↦ .pure _

theorem stable_writeBlocks (hblock : ∀ buff token, allowed (.block buff token)) (count : ℕ)
    (buff : List UInt8) : Keeps P (writeBlocks port count buff) := by
  induction count generalizing buff with
  | zero => exact .pure _
  | succ count ih =>
    exact .bind (stable.xmitDatablock _ _ (hblock _ _)) fun _ ↦ .ite (ih _) (.pure _)

/-- The same of a transfer to the card. -/
theorem stable_writeTransfer {buff : List UInt8} {sector : UInt32} {count : ℕ}
    (h24 : allowed (.command cmd24 sector)) (h25 : allowed (.command cmd25 sector))
    (h23 : allowed (.command acmd23 (UInt32.ofNat count)))
    (hblock : ∀ buff token, allowed (.block buff token)) :
    Keeps P (writeTransfer port buff sector count) := by
  have hblocks : Keeps P (do
      let res ← onPort (port.sendCmd cmd25 sector)
      if res = 0 then
        let written ← writeBlocks port count buff
        let stopped ← onPort (port.xmitDatablock [] 0xFD)
        return written && stopped
      else return false) :=
    .bind (stable.sendCmd _ _ h25) fun _ ↦
      .ite (.bind (stable_writeBlocks stable hblock count buff) fun _ ↦
        .bind (stable.xmitDatablock _ _ (hblock _ _)) fun _ ↦ .pure _) (.pure _)
  refine .ite ?_ ?_
  · exact .bind (stable.sendCmd _ _ h24) fun _ ↦
      .ite (stable.xmitDatablock _ _ (hblock _ _)) (.pure _)
  · exact .bind .get fun _ ↦ .ite (.bind (stable.sendCmd _ _ h23) fun _ ↦ hblocks) hblocks

/-- The same of a lock operation. -/
theorem stable_sdDoLockUnlockLocked {control len1 len2 : UInt8} {pwd1 pwd2 : Option (List UInt8)}
    (h42 : allowed (.command cmd42 0)) (h13 : allowed (.command cmd13 0))
    (hblock : allowed (.block (lockBlock control pwd1 len1 pwd2 len2) 0xFE)) :
    Keeps P (sdDoLockUnlockLocked port control pwd1 len1 pwd2 len2) := by
  have hfail : Keeps P (do toPort port.deselect; return .fail : SdM κ EspErr) :=
    .bind stable.deselect fun _ ↦ .pure _
  refine .bind .get fun _ ↦ .ite (.pure _) <| .ite (.pure _) <| .bind stable.calloc fun _ ↦
    .ite ?_ (.pure _)
  refine .bind (stable.sendCmd _ _ h42) fun _ ↦ .ite hfail ?_
  refine .bind (stable.xmitDatablock _ _ hblock) fun _ ↦ .ite ?_ hfail
  exact .bind stable.waitReady fun _ ↦ .bind stable.deselect fun _ ↦
    .bind (stable_sendStatus stable.toStable h13) fun _ ↦ .pure _

theorem stable_ioctlTrim {cardType : UInt8} {st ed : UInt32}
    (h32 : allowed (.command cmd32 (if cardType &&& ctBlock = 0 then st * 512 else st)))
    (h33 : allowed (.command cmd33 (if cardType &&& ctBlock = 0 then ed * 512 else ed)))
    (h38 : allowed (.command cmd38 0)) : Keeps P (ioctlTrim port cardType st ed) := by
  refine .ite (.pure _) <| .bind (stable.sendCmd _ _ h32) fun _ ↦ .ite (.pure _) ?_
  refine .bind (stable.sendCmd _ _ h33) fun _ ↦ .ite (.pure _) ?_
  refine .bind (stable.sendCmd _ _ h38) fun _ ↦ .ite (.pure _) ?_
  exact .bind stable.waitReady fun _ ↦ .pure _

theorem stable_ioctlSectorCount (h9 : allowed (.command cmd9 0)) :
    Keeps P (ioctlSectorCount port) := by
  refine .bind (stable_readCsd stable.toStable h9) fun csd ↦ ?_
  cases csd with
  | none => exact .pure _
  | some csd =>
    dsimp only
    cases decodeSectorCount csd with
    | none => exact .pure _
    | some v => exact .pure _

theorem stable_ioctlBlockSize {cardType : UInt8} (h9 : allowed (.command cmd9 0))
    (h13 : allowed (.command acmd13 0)) : Keeps P (ioctlBlockSize port cardType) := by
  refine .ite ?_ ?_
  · refine .bind (stable.sendCmd _ _ h13) fun _ ↦ .ite ?_ (.pure _)
    exact .bind stable.readByte fun _ ↦ .bind (stable.rcvrDatablock 64) fun _ ↦
      .ite (.pure _) (.pure _)
  · refine .bind (stable_readCsd stable.toStable h9) fun csd ↦ ?_
    cases csd with
    | none => exact .pure _
    | some csd => exact .ite (.pure _) (.pure _)

/-- **Every request**, if every command may be sent. -/
theorem stable_ioctlSwitch (hcmds : ∀ cmd arg, allowed (.command cmd arg)) (cardType cmd : UInt8)
    (buff : Option (UInt32 × UInt32)) : Keeps P (ioctlSwitch port cardType cmd buff) := by
  refine .ite (.bind stable.selectCard fun _ ↦ .pure _) ?_
  refine .ite (.ite (.pure _) (stable_ioctlSectorCount stable (hcmds _ _))) ?_
  refine .ite (.ite (.pure _) (.pure _)) ?_
  refine .ite (.ite (.pure _) (stable_ioctlBlockSize stable (hcmds _ _) (hcmds _ _))) ?_
  refine .ite ?_ (.pure _)
  cases buff with
  | none => exact .pure _
  | some words =>
    exact .bind (stable_ioctlTrim stable (hcmds _ _) (hcmds _ _) (hcmds _ _)) fun _ ↦ .pure _

end StableAll

/-! ### Two instances -/

/-- What is known of `Stat` and `CardType`. -/
theorem stableAll_registers (port : SdPort κ) (R : DStatus → UInt8 → Prop) :
    port.StableAll (fun _ ↦ True) fun d ↦ R d.stat d.cardType where
  delay _ hd := hd
  setSpeed _ _ hd := hd
  csHigh _ hd := hd
  csLow _ hd := hd
  readByte _ hd := hd
  deselect _ hd := hd
  sendCmd _ _ _ _ hd := hd
  rcvrDatablock _ _ hd := hd
  calloc _ hd := hd
  waitReady _ hd := hd
  selectCard _ hd := hd
  xmitDatablock _ _ _ _ hd := hd

/-- What has been sent. -/
theorem stableAll_onlySends (port : SdPort κ) (allowed : SdSent → Prop) :
    port.recorded.StableAll allowed (OnlySends allowed) where
  delay := onlySends_toPort fun _ ↦ rfl
  setSpeed _ := onlySends_toPort fun _ ↦ rfl
  csHigh := onlySends_toPort fun _ ↦ rfl
  csLow := onlySends_toPort fun _ ↦ rfl
  readByte := onlySends_lift
  deselect := onlySends_toPort fun _ ↦ rfl
  sendCmd _ _ h := onlySends_note h
  rcvrDatablock _ := onlySends_lift
  calloc := onlySends_lift
  waitReady := onlySends_lift
  selectCard := onlySends_lift
  xmitDatablock _ _ h := onlySends_note h
