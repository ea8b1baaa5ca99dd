import SmartAp.SdCard.Layers

/-!
# What mount and unmount can do

One equation for each function of `SmartAp.SdCard.Layers`, and from these the ways a call of mount
can end:

* the bus mutex cannot be created: nothing has changed (`espVfsFatSdSpiMount_noMem`);
* there is no configuration, or the mutex cannot be taken: the bus is taken down
  (`espVfsFatSdSpiMount_noConfig`, `espVfsFatSdSpiMount_config`);
* the context cannot be registered: the disk and the bus are taken down
  (`mountFat_of_registerFails`);
* otherwise the context is registered, and the two calls of `f_mount` with the unlock between them
  decide (`mountFat_of_registers`).

`MountResult` lists these ways with the state after each, and `espVfsFatSdSpiMount_result` says that
there is no other.

What `f_mount` and the unlock come to is `volumeOutcome`: a result, and whether the volume table
refers to the new object in the end. Both are a matter of the environment and the driver alone.
-/

variable {κ : Type} {cfg : FatConfig} {env : MountEnv κ} {s : SdStack κ} {pdrv : ℕ}

/-! ### Volume IDs -/

/-- The volume ID of a drive names that drive. -/
theorem getLdnumber_drvPath (h : pdrv < cfg.volumes) :
    getLdnumber cfg (drvPath pdrv) = some pdrv := by
  have hdigit : ∀ k < 10, (Char.ofNat ('0'.toNat + k)).isDigit = true ∧
      (Char.ofNat ('0'.toNat + k)).toNat - '0'.toNat = k := by decide
  obtain ⟨hd, hn⟩ := hdigit pdrv (Nat.lt_of_lt_of_le h cfg.volumes_le)
  rw [drvPath, getLdnumber, hn, if_pos ⟨hd, h⟩]

/-! ### The volume table -/

/-- What the calls of `f_mount` come to. -/
structure VolumeOutcome (κ : Type) where
  result : FResult
  /-- The volume table refers to the object. -/
  registered : Bool
  driver : SdDriver κ

/-- One call of `f_mount`. -/
def registration (cfg : FatConfig) (env : MountEnv κ) (created : Bool) (pdrv : ℕ)
    (driver : SdDriver κ) : VolumeOutcome κ :=
  if volumeMutexes cfg created then
    ⟨(env.mountVolume pdrv driver).1, true, (env.mountVolume pdrv driver).2⟩
  else ⟨.intErr, false, driver⟩

/-- The first call, and the second one after an unlock. -/
def volumeOutcome (cfg : FatConfig) (env : MountEnv κ) (pdrv : ℕ) (config : SdSpiConfig)
    (driver : SdDriver κ) : VolumeOutcome κ :=
  let first := registration cfg env env.volMutex pdrv driver
  match first.result, config.unlockPassword with
  | .writeProtected, some password =>
    match env.spiUnlock pdrv password config.pwdLen first.driver with
    | (.ok, driver) => registration cfg env env.volMutexAgain pdrv driver
    | (_, driver) => { first with driver := driver }
  | _, _ => first

/-- The state after an outcome. -/
def SdStack.withVolume (s : SdStack κ) (pdrv fs : ℕ) (o : VolumeOutcome κ) : SdStack κ :=
  { s with
    fatFs := Function.update s.fatFs pdrv (if o.registered then some fs else none),
    volMutex := Function.update s.volMutex pdrv o.registered,
    driver := o.driver }

@[simp] theorem withVolume_fatFs (s : SdStack κ) (pdrv fs : ℕ) (o : VolumeOutcome κ) :
    (s.withVolume pdrv fs o).fatFs =
      Function.update s.fatFs pdrv (if o.registered then some fs else none) := rfl

theorem dropVolume_fatFs (s : SdStack κ) (vol : ℕ) :
    (dropVolume s vol).fatFs = Function.update s.fatFs vol none := by
  rw [dropVolume]
  split
  · rename_i hnone
    exact (Function.update_eq_self_iff.2 hnone.symm).symm
  · rfl

theorem dropVolume_volMutex (s : SdStack κ) (vol : ℕ) (b : Bool) :
    Function.update (dropVolume s vol).volMutex vol b = Function.update s.volMutex vol b := by
  rw [dropVolume]
  split
  · rfl
  · exact Function.update_idem _ _ _

theorem dropVolume_ctxs (s : SdStack κ) (vol : ℕ) : (dropVolume s vol).ctxs = s.ctxs := by
  rw [dropVolume]
  split <;> rfl

/-- Apart from the volume table nothing is dropped. -/
theorem dropVolume_frame (s : SdStack κ) (vol : ℕ) :
    dropVolume s vol = { s with
      fatFs := (dropVolume s vol).fatFs, volMutex := (dropVolume s vol).volMutex } := by
  rw [dropVolume]
  split <;> rfl

/-- `f_mount(fs, drv, 1)`. -/
theorem fMount_eq (h : pdrv < cfg.volumes) (created : Bool) (fs : ℕ) :
    fMount cfg env s created (some fs) (drvPath pdrv) true =
      ((registration cfg env created pdrv s.driver).result,
        s.withVolume pdrv fs (registration cfg env created pdrv s.driver)) := by
  have hframe := dropVolume_frame s pdrv
  have hmutex := dropVolume_volMutex s pdrv
  rw [fMount, getLdnumber_drvPath h, registration]
  dsimp only
  rw [hframe, dropVolume_fatFs]
  by_cases hcreated : volumeMutexes cfg created = true
  · rw [if_neg (by simp [hcreated]), if_pos hcreated]
    simp only [if_true, Function.update_idem, hmutex, SdStack.withVolume]
  · rw [if_pos (by simp [hcreated]), if_neg hcreated]
    simp only [hmutex, SdStack.withVolume, Bool.false_eq_true, if_false]

/-- `f_mount(NULL, drv, 0)`. -/
theorem fMount_null (h : pdrv < cfg.volumes) (created : Bool) :
    (fMount cfg env s created none (drvPath pdrv) false).2 = dropVolume s pdrv := by
  rw [fMount, getLdnumber_drvPath h]
  rfl

/-- **The calls of `f_mount` and the unlock** show the volume table and the driver, as their
outcome says. -/
theorem mountOrUnlock_eq (h : pdrv < cfg.volumes) (fs : ℕ) (config : SdSpiConfig) :
    mountOrUnlock cfg env s fs pdrv config =
      ((volumeOutcome cfg env pdrv config s.driver).result,
        s.withVolume pdrv fs (volumeOutcome cfg env pdrv config s.driver)) := by
  rw [mountOrUnlock, fMount_eq h, volumeOutcome]
  rcases hfirst : registration cfg env env.volMutex pdrv s.driver with ⟨res, registered, driver⟩
  dsimp only
  by_cases hres : res = .writeProtected
  · subst hres
    rcases config.unlockPassword with - | password
    · rfl
    · dsimp only [SdStack.withVolume]
      rcases env.spiUnlock pdrv password config.pwdLen driver with ⟨err, driver'⟩
      cases err with
      | ok =>
        dsimp only
        rw [fMount_eq h]
        simp only [SdStack.withVolume, Function.update_idem]
      | _ => rfl
  · cases res <;> first | rfl | exact absurd rfl hres

/-! ### When the volume table refers to the object -/

/-- The first `f_mount` finds the card write-protected and the unlock succeeds, so there is a second
one. -/
def Retries (env : MountEnv κ) (pdrv : ℕ) (config : SdSpiConfig) (driver : SdDriver κ) : Prop :=
  ∃ password, config.unlockPassword = some password ∧
    (env.mountVolume pdrv driver).1 = .writeProtected ∧
    (env.spiUnlock pdrv password config.pwdLen (env.mountVolume pdrv driver).2).1 = .ok

/-- The last call of `f_mount` cannot create its mutexes, and so does not register the object. -/
def NotRegistered (cfg : FatConfig) (env : MountEnv κ) (pdrv : ℕ) (config : SdSpiConfig)
    (driver : SdDriver κ) : Prop :=
  volumeMutexes cfg env.volMutex = false ∨
    (Retries env pdrv config driver ∧ volumeMutexes cfg env.volMutexAgain = false)

section Registered

variable {config : SdSpiConfig} {driver : SdDriver κ}

theorem registration_registered (created : Bool) (driver : SdDriver κ) :
    (registration cfg env created pdrv driver).registered = volumeMutexes cfg created := by
  rw [registration]
  rcases volumeMutexes cfg created with _ | _ <;> rfl

theorem volumeOutcome_of_retries (hfirst : volumeMutexes cfg env.volMutex = true)
    (h : Retries env pdrv config driver) :
    ∃ driver', volumeOutcome cfg env pdrv config driver =
      registration cfg env env.volMutexAgain pdrv driver' := by
  obtain ⟨password, hpassword, hres, hunlock⟩ := h
  rw [volumeOutcome, registration, if_pos hfirst, hpassword]
  dsimp only
  rw [hres]
  rcases hrun : env.spiUnlock pdrv password config.pwdLen (env.mountVolume pdrv driver).2 with
    ⟨err, driver'⟩
  rw [hrun] at hunlock
  obtain rfl : err = .ok := hunlock
  exact ⟨driver', by simp only [hrun]⟩

theorem registered_of_not_retries (hfirst : volumeMutexes cfg env.volMutex = true)
    (h : ¬ Retries env pdrv config driver) :
    (volumeOutcome cfg env pdrv config driver).registered = true := by
  rw [volumeOutcome, registration, if_pos hfirst]
  dsimp only
  split
  · rename_i password hres hpassword
    split
    · rename_i hunlock
      exact absurd ⟨password, hpassword, hres, congrArg Prod.fst hunlock⟩ h
    · rfl
  · rfl

/-- **When the volume table does not refer to the object in the end.** -/
theorem registered_eq_false_iff (cfg : FatConfig) (env : MountEnv κ) (pdrv : ℕ)
    (config : SdSpiConfig) (driver : SdDriver κ) :
    (volumeOutcome cfg env pdrv config driver).registered = false ↔
      NotRegistered cfg env pdrv config driver := by
  rcases hfirst : volumeMutexes cfg env.volMutex with _ | _
  · have hout : (volumeOutcome cfg env pdrv config driver).registered = false := by
      rw [volumeOutcome, registration, if_neg (by simp [hfirst])]
    exact iff_of_true hout (.inl hfirst)
  · rcases Classical.em (Retries env pdrv config driver) with hretry | hretry
    · obtain ⟨driver', hout⟩ := volumeOutcome_of_retries hfirst hretry
      rw [hout, registration_registered]
      simp [NotRegistered, hfirst, hretry]
    · rw [registered_of_not_retries hfirst hretry]
      simp [NotRegistered, hfirst, hretry]

/-- The volume table is empty after `f_mount` exactly when the object is not registered. -/
theorem withVolume_fatFs_eq_none_iff (hfat : ∀ q < cfg.volumes, q ≠ pdrv → s.fatFs q = none)
    (hpdrv : pdrv < cfg.volumes) (fs : ℕ) (o : VolumeOutcome κ) :
    (∀ q < cfg.volumes, (s.withVolume pdrv fs o).fatFs q = none) ↔ o.registered = false := by
  constructor
  · intro hnone
    have hself := hnone pdrv hpdrv
    rw [withVolume_fatFs, Function.update_self] at hself
    rcases hr : o.registered with _ | _
    · rfl
    · rw [hr] at hself
      cases hself
  · intro hr q hq
    rw [withVolume_fatFs, hr]
    rcases Decidable.em (q = pdrv) with rfl | hne
    · exact Function.update_self q none s.fatFs
    · rw [Function.update_of_ne hne]
      exact hfat q hq hne

end Registered

/-! ### The way out -/

/-- **Taking drive 0 and the bus down**: the callbacks go and the driver starts over. -/
theorem undoDisk_zero (hunregister : env.takeMutex .unregister = true)
    (hdeinit : env.takeMutex .deinit = true) (hup : s.spiMutex = true) :
    undoDisk env s 0 = { s with
      spiMutex := false, hwInitialized := false, csPin := none,
      impls := Function.update s.impls 0 false,
      driver := ⟨⟨true, false⟩, 0, env.selectCard s.driver.card⟩ } := by
  simp [undoDisk, sdSpiDiskioUnregister, ffDiskioRegister, sdSpiBusDeinit, hup, hunregister,
    hdeinit]

/-- **Any other drive** keeps its callbacks when the bus goes down. -/
theorem undoDisk_of_ne (hdeinit : env.takeMutex .deinit = true) (hup : s.spiMutex = true)
    (hne : pdrv ≠ 0) :
    undoDisk env s pdrv = { s with spiMutex := false, hwInitialized := false } := by
  simp [undoDisk, sdSpiDiskioUnregister, sdSpiBusDeinit, hup, hne, hdeinit]

/-- What a timeout leaves: the callbacks, or the bus. -/
theorem undoDisk_of_timeout (hup : s.spiMutex = true) (himpl : s.impls pdrv = true)
    (htimeout : ¬ (env.takeMutex .unregister = true ∧ env.takeMutex .deinit = true)) :
    (undoDisk env s pdrv).impls pdrv = true ∨ (undoDisk env s pdrv).spiMutex = true := by
  rcases hunregister : env.takeMutex .unregister with _ | _
  · have hdisk : sdSpiDiskioUnregister env s pdrv = s := by
      rw [sdSpiDiskioUnregister]
      split
      · rfl
      · simp [hup, hunregister]
    refine .inl ?_
    rw [undoDisk, hdisk, sdSpiBusDeinit]
    split
    · exact himpl
    · split <;> exact himpl
  · have hdeinit : env.takeMutex .deinit = false := by simpa [hunregister] using htimeout
    have hmutex : (sdSpiDiskioUnregister env s pdrv).spiMutex = true := by
      rw [sdSpiDiskioUnregister]
      split
      · exact hup
      · simp [ffDiskioRegister, hup, hunregister]
    refine .inr ?_
    rw [undoDisk, sdSpiBusDeinit, hmutex, hdeinit]
    exact hmutex

/-- With the bus down there is nothing to take down. -/
theorem undoDisk_down (hdown : s.spiMutex = false) (pdrv : ℕ) : undoDisk env s pdrv = s := by
  have hdisk : sdSpiDiskioUnregister env s pdrv = s := by
    rw [sdSpiDiskioUnregister]
    split
    · rfl
    · simp [hdown]
  rw [undoDisk, hdisk, sdSpiBusDeinit, hdown]
  rfl

/-- Taking the disk down leaves the hardware initialised exactly while there is a mutex. -/
theorem undoDisk_hwInitialized (hhw : s.hwInitialized = s.spiMutex) (pdrv : ℕ) :
    (undoDisk env s pdrv).hwInitialized = (undoDisk env s pdrv).spiMutex := by
  have hdisk : (sdSpiDiskioUnregister env s pdrv).hwInitialized =
      (sdSpiDiskioUnregister env s pdrv).spiMutex := by
    rw [sdSpiDiskioUnregister]
    split
    · exact hhw
    · split
      · exact hhw
      · split
        · exact hhw
        · exact hhw
  rw [undoDisk, sdSpiBusDeinit]
  split
  · exact hdisk
  · split
    · exact hdisk
    · rfl

/-! ### The contexts -/

/-- `esp_vfs_fat_register` fails. -/
def RegisterFails (cfg : FatConfig) (env : MountEnv κ) (s : SdStack κ) (basePath : List Char) :
    Prop :=
  findContextIndexByPath cfg s basePath ≠ none ∨ findUnusedContextIndex cfg s = none ∨
    env.allocCtx = false ∨ env.allocAppend = false ∨ env.vfsRegister ≠ .ok

/-- The context keeps the whole base path. -/
def PathFits (cfg : FatConfig) (basePath : List Char) : Prop := basePath.length ≤ cfg.pathMax - 2

instance (cfg : FatConfig) (basePath : List Char) : Decidable (PathFits cfg basePath) :=
  inferInstanceAs (Decidable (_ ≤ _))

/-- The state with a context for a drive put in. -/
def SdStack.withCtx (s : SdStack κ) (cfg : FatConfig) (i : ℕ) (basePath : List Char) (pdrv : ℕ) :
    SdStack κ :=
  { s with
    ctxs := Function.update s.ctxs i (some (newFatCtx cfg s basePath (drvPath pdrv))),
    heap := s.heap + 1 }

theorem espVfsFatRegister_fails {basePath : List Char} (h : RegisterFails cfg env s basePath)
    (fatDrive : List Char) :
    ∃ err, err ≠ .ok ∧ espVfsFatRegister cfg env s basePath fatDrive = (.error err, s) := by
  rw [espVfsFatRegister]
  rcases hfind : findContextIndexByPath cfg s basePath with - | j
  · rw [if_neg (by simp)]
    rcases hfree : findUnusedContextIndex cfg s with - | i
    · exact ⟨.noMem, by decide, rfl⟩
    · rcases h with h | h | h | h | h
      · exact absurd hfind h
      · rw [hfree] at h
        cases h
      · exact ⟨.noMem, by decide, by simp [h]⟩
      · exact ⟨.noMem, by decide, by cases env.allocCtx <;> simp [h]⟩
      · cases hctx : env.allocCtx with
        | false => exact ⟨.noMem, by decide, by simp⟩
        | true =>
          cases happend : env.allocAppend with
          | false => exact ⟨.noMem, by decide, by simp⟩
          | true => exact ⟨env.vfsRegister, h, by simp [h]⟩
  · exact ⟨.invalidState, by decide, by simp⟩

theorem espVfsFatRegister_ok {basePath : List Char} (h : ¬ RegisterFails cfg env s basePath)
    (pdrv : ℕ) :
    ∃ i, findUnusedContextIndex cfg s = some i ∧
      espVfsFatRegister cfg env s basePath (drvPath pdrv) =
        (.ok s.heap, s.withCtx cfg i basePath pdrv) := by
  simp only [RegisterFails, not_or, ne_eq, not_not, Bool.not_eq_false] at h
  obtain ⟨hfind, hfree, hctx, happend, hvfs⟩ := h
  obtain ⟨i, hi⟩ := Option.ne_none_iff_exists'.1 hfree
  refine ⟨i, hi, ?_⟩
  simp [espVfsFatRegister, hfind, hi, hctx, happend, hvfs, SdStack.withCtx]

/-- An unused index is inside the table and unused. -/
theorem findUnusedContextIndex_eq {i : ℕ} (h : findUnusedContextIndex cfg s = some i) :
    i < cfg.volumes ∧ s.ctxs i = none := by
  rw [findUnusedContextIndex, List.find?_range_eq_some] at h
  exact ⟨List.mem_range.1 h.2.1, Option.isNone_iff_eq_none.1 h.1⟩

/-- The path is found where a context has it. -/
theorem findContextIndexByPath_eq_none {basePath : List Char} :
    findContextIndexByPath cfg s basePath = none ↔
      ∀ i < cfg.volumes, ∀ ctx, s.ctxs i = some ctx → ctx.basePath ≠ basePath := by
  rw [findContextIndexByPath, List.find?_range_eq_none]
  refine forall_congr' fun i ↦ forall_congr' fun _ ↦ ?_
  rcases s.ctxs i with - | ctx
  · simp
  · simp

/-- **`esp_vfs_fat_unregister_path`** takes the context with the path away, if that succeeds. -/
theorem unregisterPath_ctxs (basePath : List Char) (j : ℕ) :
    (espVfsFatUnregisterPath cfg env s basePath).2.ctxs j =
      if findContextIndexByPath cfg s basePath = some j ∧ env.vfsUnregister = .ok then none
      else s.ctxs j := by
  rw [espVfsFatUnregisterPath]
  rcases findContextIndexByPath cfg s basePath with - | i
  · rw [if_neg (by simp)]
  · dsimp only
    rcases Decidable.em (env.vfsUnregister = .ok) with hok | hbad
    · rw [if_neg (not_not.2 hok)]
      rcases Decidable.em (j = i) with rfl | hne
      · rw [if_pos ⟨rfl, hok⟩]
        exact Function.update_self j none s.ctxs
      · rw [if_neg (by simpa [hok] using Ne.symm hne)]
        exact Function.update_of_ne hne none s.ctxs
    · rw [if_pos hbad, if_neg (by simp [hbad])]

/-- And nothing else. -/
theorem unregisterPath_frame (basePath : List Char) :
    (espVfsFatUnregisterPath cfg env s basePath).2 =
      { s with ctxs := (espVfsFatUnregisterPath cfg env s basePath).2.ctxs } := by
  rw [espVfsFatUnregisterPath]
  split
  · rfl
  · split <;> rfl

section NewContext

variable {basePath : List Char} {i : ℕ}

/-- The state with a new context, and whatever `f_mount` has done to the volume table. -/
def SdStack.withMount (s : SdStack κ) (cfg : FatConfig) (i : ℕ) (basePath : List Char) (pdrv : ℕ)
    (o : VolumeOutcome κ) : SdStack κ :=
  (s.withCtx cfg i basePath pdrv).withVolume pdrv s.heap o

variable {o : VolumeOutcome κ}

theorem withMount_ctxs_self :
    (s.withMount cfg i basePath pdrv o).ctxs i = some (newFatCtx cfg s basePath (drvPath pdrv)) :=
  Function.update_self i _ s.ctxs

theorem withMount_ctxs_of_ne {j : ℕ} (h : j ≠ i) :
    (s.withMount cfg i basePath pdrv o).ctxs j = s.ctxs j :=
  Function.update_of_ne h _ s.ctxs

/-- **The new context is found again when it keeps the whole path.** -/
theorem findContextIndexByPath_of_fits (hnew : findContextIndexByPath cfg s basePath = none)
    (hi : i < cfg.volumes) (hfits : PathFits cfg basePath) :
    findContextIndexByPath cfg (s.withMount cfg i basePath pdrv o) basePath = some i := by
  rw [findContextIndexByPath_eq_none] at hnew
  rw [findContextIndexByPath, List.find?_range_eq_some]
  refine ⟨?_, List.mem_range.2 hi, fun j hj ↦ ?_⟩
  · rw [withMount_ctxs_self]
    simp [newFatCtx, List.take_of_length_le hfits]
  · rw [withMount_ctxs_of_ne (by omega)]
    rcases hctx : s.ctxs j with - | ctx
    · rfl
    · simpa using hnew j (by omega) ctx hctx

/-- A context with a shortened path is not found under the whole path. -/
theorem findContextIndexByPath_of_not_fits (hnew : findContextIndexByPath cfg s basePath = none)
    (hlong : ¬ PathFits cfg basePath) :
    findContextIndexByPath cfg (s.withMount cfg i basePath pdrv o) basePath = none := by
  rw [findContextIndexByPath_eq_none] at hnew ⊢
  intro j hj ctx hctx heq
  rcases Decidable.em (j = i) with rfl | hji
  · rw [withMount_ctxs_self] at hctx
    obtain rfl := Option.some.inj hctx
    have hlen := congrArg List.length heq
    rw [newFatCtx, List.length_take] at hlen
    rw [PathFits] at hlong
    omega
  · rw [withMount_ctxs_of_ne hji] at hctx
    exact hnew j hj ctx hctx heq

/-- The new context goes, and the table is as it was before. -/
theorem unregisterPath_of_fits (hnew : findContextIndexByPath cfg s basePath = none)
    (hi : i < cfg.volumes) (hfree : s.ctxs i = none) (hfits : PathFits cfg basePath)
    (hok : env.vfsUnregister = .ok) :
    (espVfsFatUnregisterPath cfg env (s.withMount cfg i basePath pdrv o) basePath).2 =
      { s.withMount cfg i basePath pdrv o with ctxs := s.ctxs } := by
  have hback : Function.update (s.withMount cfg i basePath pdrv o).ctxs i none = s.ctxs :=
    (Function.update_idem _ _ s.ctxs).trans (Function.update_eq_self_iff.2 hfree.symm)
  rw [espVfsFatUnregisterPath, findContextIndexByPath_of_fits hnew hi hfits]
  dsimp only
  rw [if_neg (not_not.2 hok), hback]

/-- Otherwise the new context stays. -/
theorem unregisterPath_of_not_fits (hnew : findContextIndexByPath cfg s basePath = none)
    (h : ¬ (PathFits cfg basePath ∧ env.vfsUnregister = .ok)) :
    (espVfsFatUnregisterPath cfg env (s.withMount cfg i basePath pdrv o) basePath).2 =
      s.withMount cfg i basePath pdrv o := by
  rw [espVfsFatUnregisterPath]
  split
  · rfl
  · rename_i hfind
    split
    · rfl
    · rename_i hok
      refine absurd ⟨Decidable.byContradiction fun hlong ↦ ?_, not_not.1 hok⟩ h
      rw [findContextIndexByPath_of_not_fits hnew hlong] at hfind
      cases hfind

end NewContext

/-! ### The ways a mount ends -/

theorem espVfsFatSdSpiMount_noMem {basePath : List Char} {config : Option SdSpiConfig}
    (hdown : s.spiMutex = false) (hcreate : env.createMutex = false) :
    espVfsFatSdSpiMount cfg env s basePath pdrv config = (.noMem, s) := by
  rw [espVfsFatSdSpiMount, sdSpiBusInit, hdown, hcreate]
  rfl

/-- The bus is up after `sd_spi_bus_init`. -/
def SdStack.busUp (s : SdStack κ) : SdStack κ := { s with spiMutex := true, hwInitialized := true }

/-- The disk is registered as well. -/
def SdStack.diskUp (s : SdStack κ) (pdrv : ℕ) (config : SdSpiConfig) : SdStack κ :=
  ffDiskioRegister { s.busUp with csPin := some config.csIoNum } pdrv true

theorem sdSpiBusInit_eq (hhw : s.hwInitialized = s.spiMutex)
    (hcreate : s.spiMutex = true ∨ env.createMutex = true) :
    sdSpiBusInit env s = (.ok, s.busUp) := by
  rw [sdSpiBusInit]
  split
  · rename_i hup
    obtain ⟨up, hw, _⟩ := s
    have hup' : up = true := hup
    have hhw' : hw = up := hhw
    subst hhw' hup'
    rfl
  · rename_i hdown
    have hcreated := hcreate.resolve_left hdown
    rw [hcreated]
    rfl

/-- The callbacks are those of one drive more. -/
@[simp] theorem diskUp_impls (config : SdSpiConfig) :
    (s.diskUp pdrv config).impls = Function.update s.impls pdrv true := rfl

/-- Whether the context can be registered does not depend on the disk. -/
theorem registerFails_diskUp {config : SdSpiConfig} {basePath : List Char} :
    RegisterFails cfg env (s.diskUp pdrv config) basePath ↔ RegisterFails cfg env s basePath :=
  Iff.rfl

/-- Without a configuration the bus is taken down. -/
theorem espVfsFatSdSpiMount_noConfig {basePath : List Char} (hhw : s.hwInitialized = s.spiMutex)
    (hcreate : s.spiMutex = true ∨ env.createMutex = true) :
    espVfsFatSdSpiMount cfg env s basePath pdrv none =
      (.invalidArg, (sdSpiBusDeinit env s.busUp).2) := by
  rw [espVfsFatSdSpiMount, sdSpiBusInit_eq hhw hcreate]
  rfl

/-- With one, the disk is registered, unless the mutex cannot be taken. -/
theorem espVfsFatSdSpiMount_config {basePath : List Char} (hhw : s.hwInitialized = s.spiMutex)
    (hcreate : s.spiMutex = true ∨ env.createMutex = true) (hpdrv : pdrv < cfg.volumes)
    (config : SdSpiConfig) :
    espVfsFatSdSpiMount cfg env s basePath pdrv (some config) =
      if env.takeMutex .register then mountFat cfg env (s.diskUp pdrv config) basePath pdrv config
      else (.timeout, (sdSpiBusDeinit env s.busUp).2) := by
  rw [espVfsFatSdSpiMount, sdSpiBusInit_eq hhw hcreate]
  rcases hregister : env.takeMutex .register with _ | _
  · simp [sdSpiDiskioRegister, SdStack.busUp, hregister, Nat.not_le.2 hpdrv]
  · simp [sdSpiDiskioRegister, SdStack.busUp, hregister, Nat.not_le.2 hpdrv, SdStack.diskUp]

/-- Taking the bus down, after it has been brought up. -/
theorem sdSpiBusDeinit_busUp :
    (sdSpiBusDeinit env s.busUp).2 =
      if env.takeMutex .deinit then { s with spiMutex := false, hwInitialized := false }
      else s.busUp := by
  rw [sdSpiBusDeinit]
  rcases env.takeMutex .deinit with _ | _ <;> rfl

theorem mountFat_of_registerFails {basePath : List Char} {config : SdSpiConfig}
    (h : RegisterFails cfg env s basePath) :
    ∃ err, err ≠ .ok ∧ mountFat cfg env s basePath pdrv config = (err, undoDisk env s pdrv) := by
  obtain ⟨err, hne, herr⟩ := espVfsFatRegister_fails h (drvPath pdrv)
  refine ⟨err, hne, ?_⟩
  rw [mountFat, herr]

/-- **With the context registered** the outcome of `f_mount` decides. -/
theorem mountFat_of_registers {basePath : List Char} (config : SdSpiConfig)
    (hpdrv : pdrv < cfg.volumes) (h : ¬ RegisterFails cfg env s basePath) :
    ∃ i, findUnusedContextIndex cfg s = some i ∧
      mountFat cfg env s basePath pdrv config =
        if (volumeOutcome cfg env pdrv config s.driver).result = .ok then
          (.ok, s.withMount cfg i basePath pdrv (volumeOutcome cfg env pdrv config s.driver))
        else (.fail, undoDisk env (espVfsFatUnregisterPath cfg env (s.withMount cfg i basePath pdrv
          (volumeOutcome cfg env pdrv config s.driver)) basePath).2 pdrv) := by
  obtain ⟨i, hi, hreg⟩ := espVfsFatRegister_ok h pdrv
  refine ⟨i, hi, ?_⟩
  have hdriver : (s.withCtx cfg i basePath pdrv).driver = s.driver := rfl
  rw [mountFat, hreg]
  dsimp only
  rw [mountOrUnlock_eq hpdrv, hdriver]
  rcases volumeOutcome cfg env pdrv config s.driver with ⟨res, registered, driver⟩
  cases res <;> rfl

theorem spiMutex_or_createMutex (h : ¬ (s.spiMutex = false ∧ env.createMutex = false)) :
    s.spiMutex = true ∨ env.createMutex = true := by
  rcases hup : s.spiMutex with _ | _
  · rw [not_and, Bool.not_eq_false] at h
    exact .inr (h hup)
  · exact .inl rfl

/-- **The ways a call of mount ends**: the result, the state after it, and when that is. -/
inductive MountResult (cfg : FatConfig) (env : MountEnv κ) (s : SdStack κ) (basePath : List Char)
    (pdrv : ℕ) : Option SdSpiConfig → EspErr × SdStack κ → Prop
  /-- `sd_spi_bus_init` fails. -/
  | noMem {config : Option SdSpiConfig} (hdown : s.spiMutex = false ∧ env.createMutex = false) :
      MountResult cfg env s basePath pdrv config (.noMem, s)
  | noConfig (hbus : ¬ (s.spiMutex = false ∧ env.createMutex = false)) :
      MountResult cfg env s basePath pdrv none (.invalidArg, (sdSpiBusDeinit env s.busUp).2)
  /-- `sd_spi_diskio_register` cannot take the mutex. -/
  | timeout {config : SdSpiConfig} (hbus : ¬ (s.spiMutex = false ∧ env.createMutex = false))
      (hregister : env.takeMutex .register = false) :
      MountResult cfg env s basePath pdrv (some config)
        (.timeout, (sdSpiBusDeinit env s.busUp).2)
  /-- `esp_vfs_fat_register` fails. -/
  | notRegistered {config : SdSpiConfig} {err : EspErr}
      (hbus : ¬ (s.spiMutex = false ∧ env.createMutex = false))
      (hregister : env.takeMutex .register = true) (hreg : RegisterFails cfg env s basePath) :
      MountResult cfg env s basePath pdrv (some config)
        (err, undoDisk env (s.diskUp pdrv config) pdrv)
  | mounted {config : SdSpiConfig} {i : ℕ}
      (hbus : ¬ (s.spiMutex = false ∧ env.createMutex = false))
      (hregister : env.takeMutex .register = true) (hreg : ¬ RegisterFails cfg env s basePath)
      (hok : (volumeOutcome cfg env pdrv config s.driver).result = .ok) :
      MountResult cfg env s basePath pdrv (some config)
        (.ok, (s.diskUp pdrv config).withMount cfg i basePath pdrv
          (volumeOutcome cfg env pdrv config s.driver))
  /-- `f_mount` fails and the context is taken away again. -/
  | undone {config : SdSpiConfig} {i : ℕ}
      (hbus : ¬ (s.spiMutex = false ∧ env.createMutex = false))
      (hregister : env.takeMutex .register = true) (hreg : ¬ RegisterFails cfg env s basePath)
      (hbad : (volumeOutcome cfg env pdrv config s.driver).result ≠ .ok)
      (hgone : PathFits cfg basePath ∧ env.vfsUnregister = .ok) :
      MountResult cfg env s basePath pdrv (some config)
        (.fail, undoDisk env { (s.diskUp pdrv config).withMount cfg i basePath pdrv
          (volumeOutcome cfg env pdrv config s.driver) with ctxs := s.ctxs } pdrv)
  /-- `f_mount` fails and the context stays. -/
  | ctxStays {config : SdSpiConfig} {i : ℕ}
      (hbus : ¬ (s.spiMutex = false ∧ env.createMutex = false))
      (hregister : env.takeMutex .register = true) (hreg : ¬ RegisterFails cfg env s basePath)
      (hi : i < cfg.volumes)
      (hbad : (volumeOutcome cfg env pdrv config s.driver).result ≠ .ok)
      (hstays : ¬ (PathFits cfg basePath ∧ env.vfsUnregister = .ok)) :
      MountResult cfg env s basePath pdrv (some config)
        (.fail, undoDisk env ((s.diskUp pdrv config).withMount cfg i basePath pdrv
          (volumeOutcome cfg env pdrv config s.driver)) pdrv)

/-- **Every call of mount ends in one of these ways.** -/
theorem espVfsFatSdSpiMount_result (env : MountEnv κ) (hhw : s.hwInitialized = s.spiMutex)
    (hpdrv : pdrv < cfg.volumes) (basePath : List Char) (config : Option SdSpiConfig) :
    MountResult cfg env s basePath pdrv config
      (espVfsFatSdSpiMount cfg env s basePath pdrv config) := by
  rcases Decidable.em (s.spiMutex = false ∧ env.createMutex = false) with hdown | hbus
  · rw [espVfsFatSdSpiMount_noMem hdown.1 hdown.2]
    exact .noMem hdown
  have hcreate := spiMutex_or_createMutex hbus
  rcases config with - | config
  · rw [espVfsFatSdSpiMount_noConfig hhw hcreate]
    exact .noConfig hbus
  rw [espVfsFatSdSpiMount_config hhw hcreate hpdrv]
  rcases hregister : env.takeMutex .register with _ | _
  · exact .timeout hbus hregister
  rw [if_pos rfl]
  rcases Classical.em (RegisterFails cfg env s basePath) with hreg | hreg
  · obtain ⟨err, -, hrun⟩ := mountFat_of_registerFails (registerFails_diskUp.2 hreg)
    rw [hrun]
    exact .notRegistered hbus hregister hreg
  obtain ⟨i, hfree, hrun⟩ := mountFat_of_registers config hpdrv (mt registerFails_diskUp.1 hreg)
  obtain ⟨hi, hempty⟩ := findUnusedContextIndex_eq hfree
  have hnew : findContextIndexByPath cfg (s.diskUp pdrv config) basePath = none := by
    by_contra hfind
    exact hreg (.inl hfind)
  rcases Decidable.em ((volumeOutcome cfg env pdrv config s.driver).result = .ok) with hok | hbad
  · have hrun' := hrun.trans (if_pos hok)
    rw [hrun']
    exact .mounted hbus hregister hreg hok
  have hrun' := hrun.trans (if_neg hbad)
  rw [hrun']
  rcases Decidable.em (PathFits cfg basePath ∧ env.vfsUnregister = .ok) with hgone | hstays
  · rw [unregisterPath_of_fits hnew hi hempty hgone.1 hgone.2]
    exact .undone hbus hregister hreg hbad hgone
  · rw [unregisterPath_of_not_fits hnew hstays]
    exact .ctxStays hbus hregister hreg hi hbad hstays
