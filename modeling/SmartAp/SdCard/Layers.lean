import Mathlib.Logic.Function.Basic
import Mathlib.Data.Nat.Notation

/-!
# The layers under the SD card's mount point

`esp_vfs_fat_sd_spi_mount` builds four layers, each with static variables of its own:

* the SPI bus: `s_spi_mutex`, `s_hw_initialized` (`diskio_sd_spi.c`);
* the disk: `Stat`, `CardType`, `cs_pin` there, and the callbacks `s_impls` (`diskio.c`);
* the VFS contexts `s_fat_ctxs` (`vfs_fat.c`);
* the volume table `FatFs` with a mutex for each volume (`ff.c`, `ffsystem.c`).

`SdStack` holds all of them. The functions are given in the order of the layers, then the two that
combine them.

## What comes from outside

`MountEnv` answers, for one call of mount or unmount, everything that can go several ways: the heap,
FreeRTOS, the VFS component, the card. What `mount_volume` and `sd_spi_unlock` do to the driver and
the card is a function there, so that nothing below depends on how a volume is found on a card.

A `FATFS` object lives inside its context and is known by the context's address; addresses are not
used twice.
-/

/-- `esp_err_t`, as far as these functions return it. -/
inductive EspErr
  | ok
  | fail
  | noMem
  | invalidArg
  | invalidState
  | notFound
  | timeout
  deriving DecidableEq

/-- `FRESULT`. -/
inductive FResult
  | ok
  | diskErr
  | intErr
  | notReady
  | noFile
  | noPath
  | invalidName
  | denied
  | exist
  | invalidObject
  | writeProtected
  | invalidDrive
  | notEnabled
  | noFilesystem
  | mkfsAborted
  | timeout
  | locked
  | notEnoughCore
  | tooManyOpenFiles
  | invalidParameter
  deriving DecidableEq

/-- `DSTATUS`; the driver never sets `STA_NODISK`. -/
structure DStatus where
  /-- `STA_NOINIT` -/
  noInit : Bool
  /-- `STA_PROTECT` -/
  isProtected : Bool
  deriving DecidableEq

/-- The driver as FatFs sees it, with the card behind it. -/
structure SdDriver (κ : Type) where
  stat : DStatus
  cardType : UInt8
  card : κ

/-- `vfs_fat_ctx_t`. -/
structure FatCtx where
  /-- Where it was allocated; `&fat_ctx->fs` as well. -/
  addr : ℕ
  fatDrive : List Char
  basePath : List Char
  deriving DecidableEq

/-- The static variables of the four layers. -/
structure SdStack (κ : Type) where
  /-- `s_spi_mutex != NULL` -/
  spiMutex : Bool
  hwInitialized : Bool
  /-- `cs_pin`; `none` is `GPIO_NUM_MAX`. -/
  csPin : Option ℕ
  driver : SdDriver κ
  /-- `s_impls[pdrv] != NULL` -/
  impls : ℕ → Bool
  /-- `s_fat_ctxs` -/
  ctxs : ℕ → Option FatCtx
  /-- `FatFs[vol]` -/
  fatFs : ℕ → Option ℕ
  /-- `s_mutexes[vol] != NULL` -/
  volMutex : ℕ → Bool
  /-- The address of the next allocation. -/
  heap : ℕ

/-- The build configuration. -/
structure FatConfig where
  /-- `FF_VOLUMES` -/
  volumes : ℕ
  volumes_pos : 0 < volumes
  volumes_le : volumes ≤ 10
  /-- `FF_FS_LOCK` -/
  fsLock : ℕ
  /-- `ESP_VFS_PATH_MAX` -/
  pathMax : ℕ

/-- A build with two volumes. -/
def defaultFat : FatConfig := ⟨2, by decide, by decide, 0, 15⟩

/-- `sd_spi_config_t`. -/
structure SdSpiConfig where
  csIoNum : ℕ
  password : Option (List UInt8)
  pwdLen : UInt8

/-- The callers of `xSemaphoreTake` on `s_spi_mutex`. -/
inductive SpiMutexTaker
  | register
  | unregister
  | deinit

/-- What comes from outside during one call of mount or unmount. -/
structure MountEnv (κ : Type) where
  /-- `xSemaphoreCreateMutex` in `sd_spi_bus_init` succeeds. -/
  createMutex : Bool
  takeMutex : SpiMutexTaker → Bool
  /-- What `select_card` and `deselect` do to the card. -/
  selectCard : κ → κ
  /-- The two allocations of `esp_vfs_fat_register` succeed. -/
  allocCtx : Bool
  allocAppend : Bool
  vfsRegister : EspErr
  vfsUnregister : EspErr
  /-- `xSemaphoreCreateMutex` in `ff_mutex_create`, in the first and in the second `f_mount`. -/
  volMutex : Bool
  volMutexAgain : Bool
  mountVolume : (pdrv : ℕ) → SdDriver κ → FResult × SdDriver κ
  spiUnlock : (pdrv : ℕ) → (password : List UInt8) → (pwdLen : UInt8) → SdDriver κ →
    EspErr × SdDriver κ

variable {κ : Type} (cfg : FatConfig) (env : MountEnv κ) (s : SdStack κ)

/-! ### The SPI bus -/

/-- `sd_spi_bus_init`. -/
def sdSpiBusInit : EspErr × SdStack κ :=
  if s.spiMutex then (.ok, s)
  else if !env.createMutex then (.noMem, s)
  else (.ok, { s with spiMutex := true, hwInitialized := true })

/-- `sd_spi_bus_deinit`. -/
def sdSpiBusDeinit : EspErr × SdStack κ :=
  if !s.spiMutex then (.invalidState, s)
  else if !env.takeMutex .deinit then (.timeout, s)
  else (.ok, { s with spiMutex := false, hwInitialized := false })

/-! ### The disk -/

/-- `ff_diskio_register`; `impl` is false for `NULL`. -/
def ffDiskioRegister (pdrv : ℕ) (impl : Bool) : SdStack κ :=
  { s with impls := Function.update s.impls pdrv impl }

/-- `sd_spi_diskio_register`. -/
def sdSpiDiskioRegister (pdrv : ℕ) (config : Option SdSpiConfig) : EspErr × SdStack κ :=
  match config with
  | none => (.invalidArg, s)
  | some config =>
    if pdrv ≥ cfg.volumes then (.invalidArg, s)
    else if !s.spiMutex then (.invalidState, s)
    else if !env.takeMutex .register then (.timeout, s)
    else (.ok, ffDiskioRegister { s with csPin := some config.csIoNum } pdrv true)

/-- `sd_spi_diskio_unregister`: only drive 0 is ever unregistered. -/
def sdSpiDiskioUnregister (pdrv : ℕ) : SdStack κ :=
  if pdrv ≠ 0 then s
  else if !s.spiMutex then s
  else if !env.takeMutex .unregister then s
  else
    let s := ffDiskioRegister s pdrv false
    { s with csPin := none, driver := ⟨⟨true, false⟩, 0, env.selectCard s.driver.card⟩ }

/-! ### The VFS contexts -/

/-- `find_context_index_by_path`; `none` is `FF_VOLUMES`. -/
def findContextIndexByPath (basePath : List Char) : Option ℕ :=
  (List.range cfg.volumes).find? fun i ↦ (s.ctxs i).any fun ctx ↦ ctx.basePath = basePath

/-- `find_unused_context_index`. -/
def findUnusedContextIndex : Option ℕ :=
  (List.range cfg.volumes).find? fun i ↦ (s.ctxs i).isNone

/-- The context `esp_vfs_fat_register` fills in. Both names are copied with one character less than
the field would hold. -/
def newFatCtx (basePath fatDrive : List Char) : FatCtx where
  addr := s.heap
  fatDrive := fatDrive.take 6
  basePath := basePath.take (cfg.pathMax - 2)

/-- `esp_vfs_fat_register`. -/
def espVfsFatRegister (basePath fatDrive : List Char) : Except EspErr ℕ × SdStack κ :=
  if (findContextIndexByPath cfg s basePath).isSome then (.error .invalidState, s)
  else
    match findUnusedContextIndex cfg s with
    | none => (.error .noMem, s)
    | some ctx =>
      if !env.allocCtx then (.error .noMem, s)
      else if !env.allocAppend then (.error .noMem, s)
      else if env.vfsRegister ≠ .ok then (.error env.vfsRegister, s)
      else (.ok s.heap, { s with
        ctxs := Function.update s.ctxs ctx (some (newFatCtx cfg s basePath fatDrive)),
        heap := s.heap + 1 })

/-- `esp_vfs_fat_unregister_path`. -/
def espVfsFatUnregisterPath (basePath : List Char) : EspErr × SdStack κ :=
  match findContextIndexByPath cfg s basePath with
  | none => (.invalidState, s)
  | some ctx =>
    if env.vfsUnregister ≠ .ok then (env.vfsUnregister, s)
    else (.ok, { s with ctxs := Function.update s.ctxs ctx none })

/-! ### The volume table -/

/-- `char drv[3] = {(char)('0' + pdrv), ':', 0};` -/
def drvPath (pdrv : ℕ) : List Char := [Char.ofNat ('0'.toNat + pdrv), ':']

/-- `get_ldnumber` on a path that is a volume ID. -/
def getLdnumber (path : List Char) : Option ℕ :=
  match path with
  | [c, ':'] =>
    if c.isDigit ∧ c.toNat - '0'.toNat < cfg.volumes then some (c.toNat - '0'.toNat) else none
  | _ => none

/-- The first part of `f_mount`: unregister the current object of the volume. -/
def dropVolume (vol : ℕ) : SdStack κ :=
  match s.fatFs vol with
  | none => s
  | some _ =>
    { s with
      fatFs := Function.update s.fatFs vol none, volMutex := Function.update s.volMutex vol false }

/-- `ff_mutex_create(vol)` succeeds, and so does the creation of the system mutex if there is one:
with `FF_FS_LOCK` this asks for the mutex of the volume `FF_VOLUMES`, which `ff_mutex_create`
refuses. -/
def volumeMutexes (created : Bool) : Bool := created && cfg.fsLock == 0

/-- `f_mount` on a drive of the driver. -/
def fMount (created : Bool) (fs : Option ℕ) (path : List Char) (opt : Bool) :
    FResult × SdStack κ :=
  match getLdnumber cfg path with
  | none => (.invalidDrive, s)
  | some vol =>
    let s := dropVolume s vol
    match fs with
    | none => if opt then (.notEnabled, s) else (.ok, s)
    | some fs =>
      if !volumeMutexes cfg created then
        (.intErr, { s with volMutex := Function.update s.volMutex vol false })
      else
        let s := { s with
          fatFs := Function.update s.fatFs vol (some fs),
          volMutex := Function.update s.volMutex vol true }
        if opt then
          let (res, driver) := env.mountVolume vol s.driver
          (res, { s with driver := driver })
        else (.ok, s)

/-! ### Mount and unmount -/

/-- The password of the configuration, when an unlock is attempted with it. -/
def SdSpiConfig.unlockPassword (config : SdSpiConfig) : Option (List UInt8) :=
  if config.pwdLen > 0 ∧ config.pwdLen ≤ 16 then config.password else none

/-- `f_mount`, and when the volume is write-protected the unlock and the second `f_mount`. -/
def mountOrUnlock (fs pdrv : ℕ) (config : SdSpiConfig) : FResult × SdStack κ :=
  match fMount cfg env s env.volMutex (some fs) (drvPath pdrv) true with
  | (.writeProtected, s) =>
    match config.unlockPassword with
    | none => (.writeProtected, s)
    | some password =>
      match env.spiUnlock pdrv password config.pwdLen s.driver with
      | (.ok, driver) =>
        fMount cfg env { s with driver := driver } env.volMutexAgain (some fs) (drvPath pdrv) true
      | (_, driver) => (.writeProtected, { s with driver := driver })
  | (res, s) => (res, s)

/-- `sd_spi_diskio_unregister` and `sd_spi_bus_deinit`, on the way out. -/
def undoDisk (pdrv : ℕ) : SdStack κ := (sdSpiBusDeinit env (sdSpiDiskioUnregister env s pdrv)).2

/-- Step 3 of `esp_vfs_fat_sd_spi_mount`: the VFS and the volume. -/
def mountFat (basePath : List Char) (pdrv : ℕ) (config : SdSpiConfig) : EspErr × SdStack κ :=
  match espVfsFatRegister cfg env s basePath (drvPath pdrv) with
  | (.error err, s) => (err, undoDisk env s pdrv)
  | (.ok fs, s) =>
    match mountOrUnlock cfg env s fs pdrv config with
    | (.ok, s) => (.ok, s)
    | (_, s) => (.fail, undoDisk env (espVfsFatUnregisterPath cfg env s basePath).2 pdrv)

/-- **`esp_vfs_fat_sd_spi_mount`.** -/
def espVfsFatSdSpiMount (basePath : List Char) (pdrv : ℕ) (config : Option SdSpiConfig) :
    EspErr × SdStack κ :=
  match sdSpiBusInit env s with
  | (.ok, s) =>
    match sdSpiDiskioRegister cfg env s pdrv config, config with
    | (.ok, s), some config => mountFat cfg env s basePath pdrv config
    | (err, s), _ => (err, (sdSpiBusDeinit env s).2)
  | (err, s) => (err, s)

/-- **`esp_vfs_fat_sd_spi_unmount`.** -/
def espVfsFatSdSpiUnmount (basePath : List Char) (pdrv : ℕ) : EspErr × SdStack κ :=
  let s := (fMount cfg env s true none (drvPath pdrv) false).2
  let s := (espVfsFatUnregisterPath cfg env s basePath).2
  (.ok, undoDisk env s pdrv)

/-- The static variables before `main`, with the card as it is. -/
def SdStack.powerOn (card : κ) : SdStack κ where
  spiMutex := false
  hwInitialized := false
  csPin := some 0
  driver := ⟨⟨true, false⟩, 0, card⟩
  impls _ := false
  ctxs _ := none
  fatFs _ := none
  volMutex _ := false
  heap := 0
