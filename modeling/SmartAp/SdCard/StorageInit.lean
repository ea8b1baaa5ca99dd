import SmartAp.Http.Path
import SmartAp.SdCard.LockedCard

/-!
# `storage_init`

The mounting of the storage backends at startup, from `storage.c`: the SPIFFS partition, then the
card, each only if it is compiled in. The two flags are those the web server reads (`StorageState`).

## The password

The configured password is what is to open a card that is locked with it (`PasswordOpens`).
`locked_card_opened_iff` says when the outcome is the one this asks for, the storage ready and the
card unlocked exactly if the password opens it. Since the branch that unlocks a card is never taken,
the card stays locked whatever the password, and it has received no block of `CMD42`.

The card is any that stays locked without a `CMD42` (`SdPort.LockedCard`), on any drive and with any
environment above it. `PwdCard` is one such card, with a password and a port on which nothing ever
goes wrong. `locked_card_not_opened` is the startup with this card and the right password: `CMD13`
reports that it is locked, the unlock itself would succeed, and the card stays locked.
-/

variable {κ : Type}

/-- The configuration `storage_init` is compiled with. -/
structure StorageConfig where
  mode : StorageMode
  fat : FatConfig
  /-- `CONFIG_SMART_AP_SD_CS_GPIO` -/
  sdCsGpio : ℕ
  /-- `CONFIG_SMART_AP_SD_BASE_PATH` -/
  sdBasePath : List Char
  /-- `CONFIG_SMART_AP_SD_PASSWORD`, up to the NUL. -/
  sdPassword : List UInt8

/-- What comes from outside during `storage_init`. -/
structure StorageEnv (κ : Type) where
  /-- `xSemaphoreCreateMutex` for `s_storage_mutex` succeeds. -/
  createMutex : Bool
  /-- `esp_vfs_spiffs_register` -/
  spiffsRegister : EspErr
  mount : MountEnv κ

/-- The length that is passed on: 8 bits of `strlen`, and 0 for a password that is too long. -/
def StorageConfig.pwdLen (cfg : StorageConfig) : UInt8 :=
  let pwdLen := UInt8.ofNat cfg.sdPassword.length
  if pwdLen > 16 then 0 else pwdLen

/-- `sd_config`. -/
def StorageConfig.sdConfig (cfg : StorageConfig) : SdSpiConfig where
  csIoNum := cfg.sdCsGpio
  password := if cfg.pwdLen > 0 then some cfg.sdPassword else none
  pwdLen := cfg.pwdLen

/-- The flags, once the mutex is there. -/
abbrev MutexState (mode : StorageMode) := { st : StorageState mode // st.mutex = true }

section Flags

variable {mode : StorageMode}

/-- `s_storage_mutex` has been created. -/
def StorageState.withMutex (st : StorageState mode) : MutexState mode :=
  ⟨{ st with
      mutex := true
      spiffs_of_mounted h := ⟨rfl, (st.spiffs_of_mounted h).2⟩
      sd_of_mounted h := ⟨rfl, (st.sd_of_mounted h).2⟩ }, rfl⟩

/-- `spiffs_mounted = true` -/
def MutexState.mountSpiffs (st : MutexState mode) (huses : mode.usesSpiffs = true) : MutexState mode :=
  ⟨{ st.1 with spiffsMounted := true, spiffs_of_mounted := fun _ ↦ ⟨st.2, huses⟩ }, st.2⟩

/-- `sd_mounted = true` -/
def MutexState.mountSd (st : MutexState mode) (huses : mode.usesSd = true) : MutexState mode :=
  ⟨{ st.1 with sdMounted := true, sd_of_mounted := fun _ ↦ ⟨st.2, huses⟩ }, st.2⟩

/-- The SPIFFS part. Its failure is fatal when there is no other backend. -/
def initSpiffs (register : EspErr) (st : MutexState mode) : Except EspErr (MutexState mode) :=
  if huses : mode.usesSpiffs = true then
    if register = .ok then .ok (st.mountSpiffs huses)
    else if mode.usesSd then .ok st
    else .error register
  else .ok st

end Flags

/-- The part of the card. -/
def initSd (cfg : StorageConfig) (env : StorageEnv κ) (st : MutexState cfg.mode) (stack : SdStack κ) :
    Except EspErr (MutexState cfg.mode) × SdStack κ :=
  if huses : cfg.mode.usesSd = true then
    match espVfsFatSdSpiMount cfg.fat env.mount stack cfg.sdBasePath 0 (some cfg.sdConfig) with
    | (.ok, stack) => (.ok (st.mountSd huses), stack)
    | (ret, stack) => (if cfg.mode.usesSpiffs then .ok st else .error ret, stack)
  else (.ok st, stack)

/-- How a call of `storage_init` ends. -/
structure StorageResult (mode : StorageMode) (κ : Type) where
  err : EspErr
  state : StorageState mode
  stack : SdStack κ

/-- **`storage_init`.** -/
def storageInit (cfg : StorageConfig) (env : StorageEnv κ) (st : StorageState cfg.mode)
    (stack : SdStack κ) : StorageResult cfg.mode κ :=
  if !st.mutex && !env.createMutex then ⟨.noMem, st, stack⟩
  else
    match initSpiffs env.spiffsRegister st.withMutex with
    | .error err => ⟨err, st.withMutex.1, stack⟩
    | .ok st =>
      match initSd cfg env st stack with
      | (.error err, stack) => ⟨err, st.1, stack⟩
      | (.ok st, stack) =>
        ⟨if st.1.spiffsMounted || st.1.sdMounted then .ok else .fail, st.1, stack⟩

/-! ### A card on which no volume is mounted -/

section Refuses

variable {cfg : StorageConfig} {env : StorageEnv κ} {P : κ → Prop} (henv : env.mount.Refuses P)

include henv

theorem initSd_of_refuses (st : MutexState cfg.mode) {stack : SdStack κ} (h : P stack.driver.card) :
    P (initSd cfg env st stack).2.driver.card := by
  have hmount := espVfsFatSdSpiMount_of_refuses cfg.fat henv h cfg.sdBasePath 0 (some cfg.sdConfig)
  rw [initSd]
  split
  · rcases hrun : espVfsFatSdSpiMount cfg.fat env.mount stack cfg.sdBasePath 0 (some cfg.sdConfig)
      with ⟨ret, stack'⟩
    rw [hrun] at hmount
    cases ret with
    | ok => exact absurd rfl hmount.1
    | _ => exact hmount.2
  · exact h

/-- The state of the card is still the one that refused. -/
theorem storageInit_of_refuses (st : StorageState cfg.mode) {stack : SdStack κ}
    (h : P stack.driver.card) : P (storageInit cfg env st stack).stack.driver.card := by
  rw [storageInit]
  split
  · exact h
  · rcases initSpiffs env.spiffsRegister st.withMutex with err | st
    · exact h
    · have hinit := initSd_of_refuses henv st h
      dsimp only
      rcases hrun : initSd cfg env st stack with ⟨err | st', stack'⟩
      · rw [hrun] at hinit
        exact hinit
      · rw [hrun] at hinit
        exact hinit

end Refuses

/-! ### The password -/

/-- The configured password is one that opens the card: it has a length that a card allows, and it
is the password of the card. -/
def PasswordOpens (configured password : List UInt8) : Prop :=
  1 ≤ configured.length ∧ configured.length ≤ 16 ∧ configured = password

instance (configured password : List UInt8) : Decidable (PasswordOpens configured password) :=
  inferInstanceAs (Decidable (_ ∧ _))

/-- The storage is ready and the card unlocked. -/
def StorageResult.Opened {mode : StorageMode} (r : StorageResult mode κ) (view : CardView κ) : Prop :=
  r.err = .ok ∧ ¬ view.locked r.stack.driver.card

/-- The card has received no `CMD42` block since `stack`. -/
def StorageResult.NothingSent {mode : StorageMode} (r : StorageResult mode κ) (view : CardView κ)
    (stack : SdStack κ) : Prop :=
  view.blocks r.stack.driver.card = view.blocks stack.driver.card

section Locked

variable {port : SdPort κ} {view : CardView κ} {sd : SdOptions} {opt : MountOptions}
  {scan : List UInt8 → VolumeScan} {lock : Bool} {env : StorageEnv κ}

/-- The environment with the driver on `port`. -/
def StorageEnv.withDriver (env : StorageEnv κ) (port : SdPort κ) (sd : SdOptions)
    (opt : MountOptions) (scan : List UInt8 → VolumeScan) (lock : Bool) : StorageEnv κ :=
  { env with mount := driverEnv env.mount port sd opt scan lock }

/-- A locked card stays locked, and is not sent a `CMD42` block. -/
theorem storageInit_locked (hcard : port.LockedCard view) {cfg : StorageConfig}
    (st : StorageState cfg.mode) {stack : SdStack κ} (hlocked : view.locked stack.driver.card) :
    view.LockedWith (view.blocks stack.driver.card)
      (storageInit cfg (env.withDriver port sd opt scan lock) st stack).stack.driver.card :=
  storageInit_of_refuses (driverEnv_refuses hcard _) st ⟨hlocked, rfl⟩

/-- **A card locked with the configured password is never opened.** For a locked card the outcome is
the one the password asks for exactly when the password does not open the card. No `CMD42` block is
sent at all, and `f_mount` never returns the code on which the card would be unlocked. -/
theorem locked_card_opened_iff (hcard : port.LockedCard view) (sd : SdOptions) (opt : MountOptions)
    (scan : List UInt8 → VolumeScan) (lock : Bool) (cfg : StorageConfig) (env : StorageEnv κ)
    (st : StorageState cfg.mode) (stack : SdStack κ) (hlocked : view.locked stack.driver.card) :
    let r := storageInit cfg (env.withDriver port sd opt scan lock) st stack
    let password := view.password stack.driver.card
    ((r.Opened view ↔ PasswordOpens cfg.sdPassword password) ↔
        ¬ PasswordOpens cfg.sdPassword password) ∧
      r.NothingSent view stack ∧
      ∀ s created fs path force,
        (fMount cfg.fat (env.withDriver port sd opt scan lock).mount s created fs path force).1 ≠
          .writeProtected := by
  intro r password
  obtain ⟨hstays, hblocks⟩ := storageInit_locked hcard st hlocked
  have hclosed : ¬ r.Opened view := fun hopened ↦ hopened.2 hstays
  refine ⟨?_, hblocks, fMount_ne_writeProtected cfg.fat⟩
  rw [iff_false_left hclosed]

end Locked

/-! ### A card -/

/-- A card with a password, as far as the driver talks to it. -/
structure PwdCard where
  password : List UInt8
  isLocked : Bool
  /-- `LOCK_UNLOCK_FAILED` -/
  lockFailed : Bool
  blocks : List (List UInt8)
  /-- The bytes that follow the last answer. -/
  pending : List UInt8

namespace PwdCard

/-- The answer to a command, and the bytes that follow it. -/
def answer (k : PwdCard) (cmd : UInt8) : UInt8 × List UInt8 :=
  if cmd = cmd0 then (1, [])
  else if cmd = cmd8 then (1, [0x00, 0x00, 0x01, 0xAA])
  else if cmd = cmd58 then (0, [0xC0, 0xFF, 0x80, 0x00])
  else if cmd = cmd13 then
    (0, [(if k.isLocked then 0x01 else 0x00) ||| if k.lockFailed then 0x02 else 0x00])
  else if cmd = cmd17 ∧ k.isLocked then (0x04, [])
  else (0, [])

/-- The block of `CMD42` that unlocks the card. -/
def unlockBlock (k : PwdCard) : List UInt8 :=
  lockBlock 0x00 (some k.password) (UInt8.ofNat k.password.length) none 0

/-- A port with the card behind it, on which nothing else ever goes wrong. -/
def port : SdPort PwdCard where
  takeMutex k := (true, k)
  giveMutex k := k
  delay k := k
  calloc k := (true, k)
  setSpeed _ k := k
  csHigh k := k
  csLow k := k
  exchange _ k := (k.pending.headD 0xFF, { k with pending := k.pending.tail })
  waitReady k := (true, k)
  selectCard k := (true, k)
  deselect k := k
  sendCmd cmd _ k := ((k.answer cmd).1, { k with pending := (k.answer cmd).2 })
  rcvrDatablock btr k := ((!k.isLocked, List.replicate btr 0x00), k)
  xmitDatablock buff _ k :=
    let opens := decide (buff = k.unlockBlock)
    (true, { k with
      isLocked := k.isLocked && !opens, lockFailed := !opens, blocks := k.blocks ++ [buff] })
  polls _ := 0

def view : CardView PwdCard where
  locked k := k.isLocked = true
  password := PwdCard.password
  blocks := PwdCard.blocks

/-- Only `CMD42` unlocks the card. -/
theorem port_lockedCard : port.LockedCard view where
  stays _ :=
    { takeMutex := fun _ h ↦ h
      giveMutex := fun _ h ↦ h
      delay := fun _ h ↦ h
      setSpeed := fun _ _ h ↦ h
      csHigh := fun _ h ↦ h
      csLow := fun _ h ↦ h
      readByte := fun _ h ↦ h
      selectCard := fun _ h ↦ h
      deselect := fun _ h ↦ h
      sendCmd := fun _ _ _ _ h ↦ h
      rcvrDatablock := fun _ _ h ↦ h }
  no_read arg k hlocked _ := by
    show (!k.isLocked) = false
    rw [hlocked]
    rfl

end PwdCard

/-- A build with the card alone, and the password `1234`. -/
def pinConfig : StorageConfig where
  mode := .sd
  fat := defaultFat
  sdCsGpio := 5
  sdBasePath := "/sdcard".toList
  sdPassword := [0x31, 0x32, 0x33, 0x34]

/-- An environment in which every call succeeds. -/
def pinEnv : StorageEnv PwdCard where
  createMutex := true
  spiffsRegister := .ok
  mount :=
    { createMutex := true, takeMutex := fun _ ↦ true, selectCard := id, allocCtx := true,
      allocAppend := true, vfsRegister := .ok, vfsUnregister := .ok, volMutex := true,
      volMutexAgain := true, mountVolume := fun _ d ↦ (.ok, d), spiUnlock := fun _ _ _ d ↦ (.ok, d) }

/-- `storage_init` after power-on, with the driver on the port and a volume in sector 0. -/
def startup (card : PwdCard) : StorageResult .sd PwdCard :=
  storageInit pinConfig
    (pinEnv.withDriver PwdCard.port ⟨10, false⟩ ⟨false, 512⟩ (fun _ ↦ .done .mountable) true)
    ⟨false, false, false, nofun, nofun⟩ (SdStack.powerOn card)

/-- A card with the same password. -/
def lockedCard : PwdCard := ⟨[0x31, 0x32, 0x33, 0x34], true, false, [], []⟩

/-- Its password is configured, so the outcome is the wrong one. -/
theorem locked_card_opened_iff_pin :
    lockedCard.isLocked = true ∧
      (((startup lockedCard).Opened PwdCard.view ↔
          PasswordOpens pinConfig.sdPassword lockedCard.password) ↔
        ¬ PasswordOpens pinConfig.sdPassword lockedCard.password) ∧
      (startup lockedCard).NothingSent PwdCard.view (SdStack.powerOn lockedCard) := by
  obtain ⟨hopened, hsent, -⟩ := locked_card_opened_iff PwdCard.port_lockedCard ⟨10, false⟩
    ⟨false, 512⟩ (fun _ ↦ .done .mountable) true pinConfig pinEnv
    ⟨false, false, false, nofun, nofun⟩ (SdStack.powerOn lockedCard) rfl
  exact ⟨rfl, hopened, hsent⟩

/-- **The card that has the configured password stays locked**, although `CMD13` reports that it is
locked, the unlock itself would succeed, and the unlocked card is mounted. -/
theorem locked_card_not_opened :
    ¬ ((startup lockedCard).Opened PwdCard.view ↔
        PasswordOpens pinConfig.sdPassword lockedCard.password) ∧
      (ffSdSpiInitialize PwdCard.port ⟨10, false⟩ 0 ⟨⟨true, false⟩, 0, lockedCard⟩).1.isProtected =
        true ∧
      (sdSpiUnlock PwdCard.port true 0 (some pinConfig.sdPassword) pinConfig.pwdLen
        ⟨⟨false, true⟩, 0, lockedCard⟩).1 = .ok ∧
      (startup { lockedCard with isLocked := false }).err = .ok := by
  have hstays : (startup lockedCard).stack.driver.card.isLocked = true := by decide +kernel
  have hpassword : PasswordOpens pinConfig.sdPassword lockedCard.password := by decide
  refine ⟨fun h ↦ (h.2 hpassword).2 hstays, ?_, ?_, ?_⟩
  · decide +kernel
  · decide +kernel
  · decide +kernel
