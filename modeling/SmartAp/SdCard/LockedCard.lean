import SmartAp.SdCard.MountVolume
import SmartAp.SdCard.MountCases
import SmartAp.SdCard.Stable

/-!
# A card that is locked with a password

The mount wrapper is to unlock a card when `f_mount` returns `FR_WRITE_PROTECTED`. But `f_mount`
asks `mount_volume` for no access at all, and then the status of the disk is never tested
(`mountVolume_ne_writeProtected`): a locked card fails at the first sector, and no `CMD42` is sent
(`espVfsFatSdSpiMount_of_refuses`).

## The card

`SdPort.Invariant P` says that what initialising and reading do at the port keeps `P`, `CMD42`
apart. A locked card (`SdPort.LockedCard`) stays locked under these and delivers no block; nothing
else is assumed of it, so that the card, the clock and the mutex may behave in any way.

## From the card to the mount

`MountEnv.Refuses P` is what the layers above the driver need: under `P` no volume can be mounted,
the reason is not write protection, and `P` is kept. The mount is taken through its steps once for
every such environment, with the way out after a failure (`undoDisk_of_refuses`). `driverEnv` is the
environment in which the disk is the driver on a port, and `driverEnv_refuses` says that with a
locked card behind the port it is one.
-/

variable {κ : Type}

/-- What initialising the card and reading a block do at the port keeps `P`. -/
structure SdPort.Invariant (port : SdPort κ) (P : κ → Prop) : Prop where
  takeMutex : ∀ k, P k → P (port.takeMutex k).2
  giveMutex : ∀ k, P k → P (port.giveMutex k)
  delay : ∀ k, P k → P (port.delay k)
  setSpeed : ∀ high k, P k → P (port.setSpeed high k)
  csHigh : ∀ k, P k → P (port.csHigh k)
  csLow : ∀ k, P k → P (port.csLow k)
  readByte : ∀ k, P k → P (port.exchange 0xFF k).2
  selectCard : ∀ k, P k → P (port.selectCard k).2
  deselect : ∀ k, P k → P (port.deselect k)
  sendCmd : ∀ cmd arg k, cmd ≠ cmd42 → P k → P (port.sendCmd cmd arg k).2
  rcvrDatablock : ∀ btr k, P k → P (port.rcvrDatablock btr k).2

/-- What can be said of the card behind the port. -/
structure CardView (κ : Type) where
  locked : κ → Prop
  password : κ → List UInt8
  /-- The blocks the card has received with `CMD42`. -/
  blocks : κ → List (List UInt8)

/-- The card is locked, and has received these blocks. -/
def CardView.LockedWith (view : CardView κ) (received : List (List UInt8)) (k : κ) : Prop :=
  view.locked k ∧ view.blocks k = received

/-- A locked card stays locked, and does not deliver a block in answer to `CMD17`. -/
structure SdPort.LockedCard (port : SdPort κ) (view : CardView κ) : Prop where
  stays : ∀ received, port.Invariant (view.LockedWith received)
  no_read : ∀ arg k, view.locked k → (port.sendCmd cmd17 arg k).1 = 0 →
    ((port.rcvrDatablock 512 (port.sendCmd cmd17 arg k).2).1).1 = false

/-! ### What the driver keeps -/

section Driver

variable {port : SdPort κ} {sd : SdOptions} {opt : MountOptions} {P : κ → Prop} {α : Type}
  {pdrv : ℕ}

/-- The invariant, as one of the driver. -/
def OnCard (P : κ → Prop) (d : SdDriver κ) : Prop := P d.card

theorem keeps_onPort {f : κ → α × κ} (h : ∀ k, P k → P (f k).2) : Keeps (OnCard P) (onPort f) :=
  fun d hd ↦ h d.card hd

theorem keeps_toPort {f : κ → κ} (h : ∀ k, P k → P (f k)) : Keeps (OnCard P) (toPort f) :=
  fun d hd ↦ h d.card hd

variable (hport : port.Invariant P)

include hport

/-- Any command but `CMD42`. -/
theorem SdPort.Invariant.stable :
    port.Stable (fun sent ↦ ∀ arg, sent ≠ .command cmd42 arg) (OnCard P) where
  delay := keeps_toPort hport.delay
  setSpeed high := keeps_toPort (hport.setSpeed high)
  csHigh := keeps_toPort hport.csHigh
  csLow := keeps_toPort hport.csLow
  readByte := keeps_onPort hport.readByte
  deselect := keeps_toPort hport.deselect
  sendCmd cmd arg hcmd := keeps_onPort fun k ↦ hport.sendCmd cmd arg k fun habs ↦
    hcmd arg (by rw [habs])
  rcvrDatablock btr := keeps_onPort (hport.rcvrDatablock btr)

theorem keeps_initializeCard : Keeps (OnCard P) (initializeCard port sd) := by
  refine stable_initializeCard hport.stable nofun nofun (fun cmd hcmd arg arg' habs ↦ ?_)
    fun d d' hcard hd ↦ ?_
  · cases habs
    exact absurd hcmd (by decide)
  · rw [OnCard, hcard]
    exact hd

theorem keeps_ffSdSpiInitialize : Keeps (OnCard P) (ffSdSpiInitialize port sd pdrv) := by
  refine .ite (.pure _) <| .bind .get fun _ ↦ .ite (.pure _) ?_
  refine .bind (keeps_onPort hport.takeMutex) fun _ ↦ .ite ?_ (.pure _)
  exact .bind (keeps_initializeCard hport) fun _ ↦
    .bind (keeps_toPort hport.giveMutex) fun _ ↦ .bind .get fun _ ↦ .pure _

theorem keeps_ffSdSpiSectorSize : Keeps (OnCard P) (ffSdSpiSectorSize port pdrv) := by
  refine .ite (.pure _) <| .bind .get fun _ ↦ .ite (.pure _) ?_
  refine .bind (keeps_onPort hport.takeMutex) fun _ ↦ .ite ?_ (.pure _)
  exact .bind (keeps_toPort hport.deselect) fun _ ↦
    .bind (keeps_toPort hport.giveMutex) fun _ ↦ .pure _

end Driver

/-! ### What the driver finds on a locked card -/

section Locked

variable {port : SdPort κ} {sd : SdOptions} {opt : MountOptions} {view : CardView κ}
  {received : List (List UInt8)} {pdrv : ℕ} {scan : List UInt8 → VolumeScan}

variable (hcard : port.LockedCard view)

include hcard

theorem readTransfer_locked (sector : UInt32) :
    Triple (OnCard (view.LockedWith received)) (readTransfer port sector 1)
      fun res d ↦ res.1 = false ∧ OnCard (view.LockedWith received) d := by
  have hport := hcard.stays received
  have hcmd : Triple (OnCard (view.LockedWith received)) (onPort (port.sendCmd cmd17 sector))
      fun res d ↦ (res = 0 → (port.rcvrDatablock 512 d.card).1.1 = false) ∧
        OnCard (view.LockedWith received) d := fun d hd ↦
    ⟨hcard.no_read sector d.card hd.1, hport.sendCmd cmd17 sector d.card (by decide) hd⟩
  rw [readTransfer, if_pos rfl]
  refine .bind hcmd fun res ↦ .ite (fun hres ↦ ?_) fun _ ↦ .pure fun d hd ↦ ⟨rfl, hd.2⟩
  exact fun d hd ↦ ⟨hd.1 hres, hport.rcvrDatablock 512 d.card hd.2⟩

/-- A read of one sector fails. -/
theorem read_locked (sector : UInt32) :
    Triple (OnCard (view.LockedWith received)) (ffSdSpiRead port pdrv sector 1)
      fun res d ↦ res.1 ≠ .ok ∧ OnCard (view.LockedWith received) d := by
  have hport := hcard.stays received
  refine .ite (fun _ ↦ .pure fun d hd ↦ ⟨DResult.noConfusion, hd⟩) fun _ ↦ ?_
  refine .bind Keeps.get fun _ ↦ .ite (fun _ ↦ .pure fun d hd ↦ ⟨DResult.noConfusion, hd⟩)
    fun _ ↦ ?_
  refine .bind (keeps_onPort hport.takeMutex) fun taken ↦
    .ite (fun _ ↦ ?_) fun _ ↦ .pure fun d hd ↦ ⟨DResult.noConfusion, hd⟩
  refine .bind (readTransfer_locked hcard _) fun res d hd ↦ ?_
  have hback := hport.giveMutex _ (hport.deselect d.card hd.2)
  refine ⟨?_, hback⟩
  show (if res.1 = true then DResult.ok else DResult.error) ≠ .ok
  rw [hd.1]
  exact DResult.noConfusion

theorem readWindow_locked (sect : UInt32) :
    Triple (OnCard (view.LockedWith received)) (readWindow port pdrv sect)
      fun win d ↦ win = none ∧ OnCard (view.LockedWith received) d := by
  refine .bind (read_locked hcard sect) fun res ↦ .pure fun d hd ↦ ⟨?_, hd.2⟩
  exact if_neg hd.1

theorem findVolume_locked :
    Triple (OnCard (view.LockedWith received)) (findVolume port scan pdrv)
      fun res d ↦ res ≠ .ok ∧ OnCard (view.LockedWith received) d := by
  refine .bind (readWindow_locked hcard 0) fun win ↦ ?_
  rcases win with - | win
  · exact .pure fun d hd ↦ ⟨FResult.noConfusion, hd.2⟩
  · exact fun d hd ↦ nomatch hd.1

/-- **`mount_volume` fails on a locked card**: at sector 0, if not before. -/
theorem mountVolume_locked (lock : Bool) :
    Triple (OnCard (view.LockedWith received)) (mountVolume port sd opt scan lock 0 0 pdrv)
      fun res d ↦ res ≠ .ok ∧ OnCard (view.LockedWith received) d := by
  have hport := hcard.stays received
  have hkeeps : Keeps (OnCard (view.LockedWith received)) (checkSectorSize port opt pdrv) :=
    .ite (.pure _) (.bind (keeps_ffSdSpiSectorSize hport) fun _ ↦ .pure _)
  refine .ite (fun _ ↦ .pure fun d hd ↦ ⟨FResult.noConfusion, hd⟩) fun _ ↦ ?_
  rw [if_neg (not_not.2 rfl)]
  refine .bind (keeps_ffSdSpiInitialize hport) fun stat ↦
    .ite (fun _ ↦ .pure fun d hd ↦ ⟨FResult.noConfusion, hd⟩) fun _ ↦ ?_
  rw [writeProtected_read, if_neg Bool.false_ne_true]
  exact .bind hkeeps fun ok ↦ .ite (fun _ ↦ findVolume_locked hcard) fun _ ↦
    .pure fun d hd ↦ ⟨FResult.noConfusion, hd⟩

end Locked

/-! ### A card that no volume is mounted on -/

section Refuses

variable (cfg : FatConfig) {env : MountEnv κ} {s : SdStack κ} {P : κ → Prop}

/-- Under `P` no volume can be mounted, and the reason is not write protection. -/
structure MountEnv.Refuses (env : MountEnv κ) (P : κ → Prop) : Prop where
  selectCard : ∀ k, P k → P (env.selectCard k)
  mountVolume : ∀ pdrv d, P d.card → (env.mountVolume pdrv d).1 ≠ .ok ∧
    (env.mountVolume pdrv d).1 ≠ .writeProtected ∧ P (env.mountVolume pdrv d).2.card

theorem dropVolume_driver (s : SdStack κ) (vol : ℕ) : (dropVolume s vol).driver = s.driver := by
  rw [dropVolume_frame]

theorem sdSpiBusInit_card : (sdSpiBusInit env s).2.driver.card = s.driver.card := by
  rw [sdSpiBusInit]
  split
  · rfl
  · split <;> rfl

theorem sdSpiDiskioRegister_card (pdrv : ℕ) (config : Option SdSpiConfig) :
    (sdSpiDiskioRegister cfg env s pdrv config).2.driver.card = s.driver.card := by
  rcases config with - | config
  · rfl
  · rw [sdSpiDiskioRegister]
    split
    · rfl
    · split
      · rfl
      · split <;> rfl

theorem sdSpiBusDeinit_card : (sdSpiBusDeinit env s).2.driver.card = s.driver.card := by
  rw [sdSpiBusDeinit]
  split
  · rfl
  · split <;> rfl

variable (henv : env.Refuses P)

include henv

/-- On the way out the card is only selected. -/
theorem undoDisk_of_refuses (h : P s.driver.card) (pdrv : ℕ) :
    P (undoDisk env s pdrv).driver.card := by
  have hdisk : P (sdSpiDiskioUnregister env s pdrv).driver.card := by
    rw [sdSpiDiskioUnregister]
    split
    · exact h
    · split
      · exact h
      · split
        · exact h
        · exact henv.selectCard _ h
  rw [undoDisk, sdSpiBusDeinit_card]
  exact hdisk

theorem fMount_of_refuses (h : P s.driver.card) (created : Bool) (fs : ℕ) (path : List Char) :
    (fMount cfg env s created (some fs) path true).1 ≠ .ok ∧
      (fMount cfg env s created (some fs) path true).1 ≠ .writeProtected ∧
      P (fMount cfg env s created (some fs) path true).2.driver.card := by
  rw [fMount]
  rcases getLdnumber cfg path with - | vol
  · exact ⟨FResult.noConfusion, FResult.noConfusion, h⟩
  · have hdrop : P (dropVolume s vol).driver.card := by
      rw [dropVolume_driver]
      exact h
    dsimp only
    split
    · exact ⟨FResult.noConfusion, FResult.noConfusion, hdrop⟩
    · rw [if_pos rfl]
      exact henv.mountVolume vol _ hdrop

/-- The unlock is not tried. -/
theorem mountOrUnlock_of_refuses (h : P s.driver.card) (fs pdrv : ℕ) (config : SdSpiConfig) :
    (mountOrUnlock cfg env s fs pdrv config).1 ≠ .ok ∧
      P (mountOrUnlock cfg env s fs pdrv config).2.driver.card := by
  obtain ⟨hok, hprotected, hcard⟩ :=
    fMount_of_refuses cfg henv h env.volMutex fs (drvPath pdrv)
  rw [mountOrUnlock]
  rcases hres : fMount cfg env s env.volMutex (some fs) (drvPath pdrv) true with ⟨res, s'⟩
  rw [hres] at hok hprotected hcard
  split
  · rename_i heq
    exact absurd (congrArg Prod.fst heq) hprotected
  · rename_i heq
    obtain ⟨rfl, rfl⟩ := Prod.mk.inj heq
    exact ⟨hok, hcard⟩

theorem mountFat_of_refuses (h : P s.driver.card) (basePath : List Char) (pdrv : ℕ)
    (config : SdSpiConfig) :
    (mountFat cfg env s basePath pdrv config).1 ≠ .ok ∧
      P (mountFat cfg env s basePath pdrv config).2.driver.card := by
  rcases Classical.em (RegisterFails cfg env s basePath) with hfails | hregisters
  · obtain ⟨err, herr, hmount⟩ : ∃ err, err ≠ .ok ∧
        mountFat cfg env s basePath pdrv config = (err, undoDisk env s pdrv) :=
      mountFat_of_registerFails hfails
    rw [hmount]
    exact ⟨herr, undoDisk_of_refuses henv h pdrv⟩
  · obtain ⟨i, -, hreg⟩ := espVfsFatRegister_ok hregisters pdrv
    obtain ⟨hok, hcard⟩ := mountOrUnlock_of_refuses cfg henv
      (s := s.withCtx cfg i basePath pdrv) h s.heap pdrv config
    rw [mountFat, hreg]
    dsimp only
    rcases hmount : mountOrUnlock cfg env (s.withCtx cfg i basePath pdrv) s.heap pdrv config with
      ⟨res, s'⟩
    rw [hmount] at hok hcard
    have hunregister : P (espVfsFatUnregisterPath cfg env s' basePath).2.driver.card := by
      rw [unregisterPath_frame]
      exact hcard
    cases res with
    | ok => exact absurd rfl hok
    | _ => exact ⟨EspErr.noConfusion, undoDisk_of_refuses henv hunregister pdrv⟩

/-- **The mount fails**, whatever the state it starts from. -/
theorem espVfsFatSdSpiMount_of_refuses (h : P s.driver.card) (basePath : List Char) (pdrv : ℕ)
    (config : Option SdSpiConfig) :
    (espVfsFatSdSpiMount cfg env s basePath pdrv config).1 ≠ .ok ∧
      P (espVfsFatSdSpiMount cfg env s basePath pdrv config).2.driver.card := by
  have hinit : P (sdSpiBusInit env s).2.driver.card := by
    rw [sdSpiBusInit_card]
    exact h
  rw [espVfsFatSdSpiMount]
  rcases hrun : sdSpiBusInit env s with ⟨err, s₁⟩
  rw [hrun] at hinit
  cases err with
  | ok =>
    have hregister : P (sdSpiDiskioRegister cfg env s₁ pdrv config).2.driver.card := by
      rw [sdSpiDiskioRegister_card]
      exact hinit
    have hdeinit : ∀ s₂ : SdStack κ,
        P s₂.driver.card → P (sdSpiBusDeinit env s₂).2.driver.card := by
      intro s₂ hs
      rw [sdSpiBusDeinit_card]
      exact hs
    dsimp only
    rcases config with - | config
    · exact ⟨EspErr.noConfusion, hdeinit _ hregister⟩
    · rcases hrun' : sdSpiDiskioRegister cfg env s₁ pdrv (some config) with ⟨err, s₂⟩
      rw [hrun'] at hregister
      cases err with
      | ok => exact mountFat_of_refuses cfg henv hregister basePath pdrv config
      | _ => exact ⟨EspErr.noConfusion, hdeinit s₂ hregister⟩
  | _ => exact ⟨EspErr.noConfusion, hinit⟩

end Refuses

/-! ### The locked card -/

section LockedCard

variable (env : MountEnv κ) (port : SdPort κ) (sd : SdOptions) (opt : MountOptions)
  (scan : List UInt8 → VolumeScan) (lock : Bool)

/-- The environment in which the disk is the driver on `port`. `f_mount` asks for access 0 and has
set `fs_type` to 0; `s_spi_mutex` is there when a volume is mounted. -/
def driverEnv : MountEnv κ :=
  { env with
    mountVolume pdrv := mountVolume port sd opt scan lock 0 0 pdrv
    spiUnlock pdrv password pwdLen := sdSpiUnlock port true pdrv (some password) pwdLen
    selectCard k :=
      if (port.selectCard k).1 then port.deselect (port.selectCard k).2 else (port.selectCard k).2 }

variable {env port sd opt scan lock}

/-- **`f_mount` never finds a disk write-protected**, whatever its status. -/
theorem fMount_ne_writeProtected (cfg : FatConfig) (s : SdStack κ) (created : Bool)
    (fs : Option ℕ) (path : List Char) (force : Bool) :
    (fMount cfg (driverEnv env port sd opt scan lock) s created fs path force).1 ≠
      .writeProtected := by
  rw [fMount]
  rcases getLdnumber cfg path with - | vol
  · exact FResult.noConfusion
  · rcases fs with - | fs
    · rcases force with _ | _ <;> exact FResult.noConfusion
    · dsimp only
      split
      · exact FResult.noConfusion
      · split
        · exact mountVolume_ne_writeProtected lock 0 _ trivial
        · exact FResult.noConfusion

/-- A locked card is such a card. -/
theorem driverEnv_refuses {view : CardView κ} (hcard : port.LockedCard view)
    (received : List (List UInt8)) :
    (driverEnv env port sd opt scan lock).Refuses (view.LockedWith received) where
  selectCard k hk := by
    have hport := hcard.stays received
    rw [driverEnv]
    dsimp only
    split
    · exact hport.deselect _ (hport.selectCard k hk)
    · exact hport.selectCard k hk
  mountVolume pdrv d hd :=
    ⟨(mountVolume_locked hcard lock d hd).1, mountVolume_ne_writeProtected lock 0 d trivial,
      (mountVolume_locked hcard lock d hd).2⟩

end LockedCard
