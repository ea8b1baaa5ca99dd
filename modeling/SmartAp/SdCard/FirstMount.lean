import SmartAp.SdCard.MountCases

/-!
# What a failed first mount leaves behind

A mount that starts on the clean state and fails should end on it. Four things stand against this:

* `f_mount` puts the object into the volume table before it looks for a volume, and no error branch
  takes it out: the table then refers to a context that has been freed;
* `sd_spi_diskio_unregister` ignores every drive but drive 0;
* a base path that the context does not keep whole is not found again, so the context stays;
* a timeout on the way out leaves the callbacks or the bus.

`firstMount_clean_iff` says exactly which failures leave nothing behind. The state before the call
is `SdStack.Clean`, which is that after power-on (`powerOn_clean`), and every environment is
allowed: each step of the mount may fail, and the way out may wait for the mutex in vain. The
condition names the step that failed and what the way out could not undo; the proof goes through the
outcomes of a mount as `SmartAp.SdCard.MountCases` lists them.
-/

variable {κ : Type}

/-- No bus, no disk, no context, no volume; the driver as it starts. -/
structure SdStack.Clean (s : SdStack κ) (cfg : FatConfig) : Prop where
  bus : s.spiMutex = false ∧ s.hwInitialized = false
  impls : ∀ q < cfg.volumes, s.impls q = false
  ctxs : ∀ i < cfg.volumes, s.ctxs i = none
  fatFs : ∀ q < cfg.volumes, s.fatFs q = none
  driver : s.driver.stat = ⟨true, false⟩ ∧ s.driver.cardType = 0

/-- The failures after which everything has been undone. -/
def LeavesNothing (cfg : FatConfig) (env : MountEnv κ) (s : SdStack κ) (basePath : List Char)
    (pdrv : ℕ) (config : Option SdSpiConfig) : Prop :=
  env.createMutex = false ∨
    (env.takeMutex .deinit = true ∧
      match config with
      | none => True
      | some config =>
        env.takeMutex .register = false ∨
          (env.takeMutex .unregister = true ∧ pdrv = 0 ∧
            (RegisterFails cfg env s basePath ∨
              (NotRegistered cfg env pdrv config s.driver ∧ PathFits cfg basePath ∧
                env.vfsUnregister = .ok))))

section Mount

variable {cfg : FatConfig} {env : MountEnv κ} {s : SdStack κ} {pdrv : ℕ} {basePath : List Char}

/-! ### The state after a failure -/

/-- The clean state, once the disk is taken down. -/
theorem clean_undoDisk_iff (hup : s.spiMutex = true) (himpls : s.impls pdrv = true)
    (hother : ∀ q, q ≠ pdrv → q < cfg.volumes → s.impls q = false) (hpdrv : pdrv < cfg.volumes) :
    (undoDisk env s pdrv).Clean cfg ↔
      (env.takeMutex .unregister = true ∧ env.takeMutex .deinit = true) ∧ pdrv = 0 ∧
        (∀ i < cfg.volumes, s.ctxs i = none) ∧ ∀ q < cfg.volumes, s.fatFs q = none := by
  rcases (Decidable.em (env.takeMutex .unregister = true ∧ env.takeMutex .deinit = true)).symm with
    htimeout | htake
  · refine iff_of_false (fun h ↦ ?_) fun h ↦ htimeout h.1
    rcases undoDisk_of_timeout hup himpls htimeout with hset | hset
    · exact absurd ((h.impls pdrv hpdrv).symm.trans hset) Bool.false_ne_true
    · exact absurd (h.bus.1.symm.trans hset) Bool.false_ne_true
  rw [and_iff_right htake]
  rcases Decidable.em (pdrv = 0) with rfl | hne
  · rw [undoDisk_zero htake.1 htake.2 hup]
    refine ⟨fun h ↦ ⟨rfl, h.ctxs, h.fatFs⟩, fun ⟨_, hctxs, hfat⟩ ↦ ?_⟩
    refine ⟨⟨rfl, rfl⟩, fun q hq ↦ ?_, hctxs, hfat, rfl, rfl⟩
    rcases Decidable.em (q = 0) with rfl | hq0
    · exact Function.update_self 0 false s.impls
    · exact (Function.update_of_ne hq0 false s.impls).trans (hother q hq0 hq)
  · rw [undoDisk_of_ne htake.2 hup hne]
    refine iff_of_false (fun h ↦ ?_) fun h ↦ hne h.1
    have hkept : s.impls pdrv = false := h.impls pdrv hpdrv
    exact absurd (hkept.symm.trans himpls) Bool.false_ne_true

/-- The clean state, once the bus is taken down on which nothing was built. -/
theorem clean_busDeinit_iff (hclean : s.Clean cfg) :
    (sdSpiBusDeinit env s.busUp).2.Clean cfg ↔ env.takeMutex .deinit = true := by
  rw [sdSpiBusDeinit_busUp]
  rcases hdeinit : env.takeMutex .deinit with _ | _
  · rw [if_neg Bool.false_ne_true]
    exact iff_of_false (fun h ↦ absurd h.bus.1 nofun) Bool.false_ne_true
  · rw [if_pos rfl]
    exact iff_of_true ⟨⟨rfl, rfl⟩, hclean.impls, hclean.ctxs, hclean.fatFs, hclean.driver⟩ rfl

/-! ### The theorem -/

/-- **What a failed first mount leaves behind.** On the clean state, for every drive, configuration,
base path and way the calls below can go: a mount that returns an error ends on the clean state
exactly when the failure is one of `LeavesNothing`. -/
theorem firstMount_clean_iff {config : Option SdSpiConfig} (hpdrv : pdrv < cfg.volumes)
    (hclean : s.Clean cfg) (hfail : (espVfsFatSdSpiMount cfg env s basePath pdrv config).1 ≠ .ok) :
    (espVfsFatSdSpiMount cfg env s basePath pdrv config).2.Clean cfg ↔
      LeavesNothing cfg env s basePath pdrv config := by
  have hhw : s.hwInitialized = s.spiMutex := hclean.bus.2.trans hclean.bus.1.symm
  have hresult := espVfsFatSdSpiMount_result env hhw hpdrv basePath config
  have hother : ∀ config q, q ≠ pdrv → q < cfg.volumes → (s.diskUp pdrv config).impls q = false :=
    fun config q hne hq ↦ by simpa [hne] using hclean.impls q hq
  have himpls : ∀ config, (s.diskUp pdrv config).impls pdrv = true := by simp
  have hup : ¬ (s.spiMutex = false ∧ env.createMutex = false) → ¬ env.createMutex = false :=
    fun hbus hcreate ↦ hbus ⟨hclean.bus.1, hcreate⟩
  generalize espVfsFatSdSpiMount cfg env s basePath pdrv config = r at hresult hfail ⊢
  unfold LeavesNothing
  cases hresult with
  | noMem hdown => exact iff_of_true hclean (.inl hdown.2)
  | noConfig hbus =>
    rw [or_iff_right (hup hbus), and_iff_left trivial]
    exact clean_busDeinit_iff hclean
  | timeout hbus hregister =>
    rw [or_iff_right (hup hbus), and_iff_left (.inl hregister)]
    exact clean_busDeinit_iff hclean
  | @notRegistered config err hbus hregister hreg =>
    rw [or_iff_right (hup hbus)]
    refine Iff.trans (clean_undoDisk_iff rfl (himpls config) (hother config) hpdrv) ?_
    constructor
    · rintro ⟨htake, hzero, -, -⟩
      exact ⟨htake.2, .inr ⟨htake.1, hzero, .inl hreg⟩⟩
    · rintro ⟨hdeinit, htimeout | ⟨hunregister, hzero, -⟩⟩
      · exact absurd (hregister.symm.trans htimeout) nofun
      · exact ⟨⟨hunregister, hdeinit⟩, hzero, hclean.ctxs, hclean.fatFs⟩
  | mounted => exact absurd rfl hfail
  | @undone config i hbus hregister hreg hbad hgone =>
    rw [or_iff_right (hup hbus)]
    refine Iff.trans (clean_undoDisk_iff rfl (himpls config) (hother config) hpdrv) ?_
    have hvolume := (withVolume_fatFs_eq_none_iff (fun q hq _ ↦ hclean.fatFs q hq) hpdrv
      s.heap _).trans
      (registered_eq_false_iff cfg env pdrv config s.driver)
    constructor
    · rintro ⟨htake, hzero, -, hfat⟩
      exact ⟨htake.2, .inr ⟨htake.1, hzero, .inr ⟨hvolume.1 hfat, hgone⟩⟩⟩
    · rintro ⟨hdeinit, htimeout | ⟨hunregister, hzero, hfails | ⟨hnot, -⟩⟩⟩
      · exact absurd (hregister.symm.trans htimeout) nofun
      · exact absurd hfails hreg
      · exact ⟨⟨hunregister, hdeinit⟩, hzero, hclean.ctxs, hvolume.2 hnot⟩
  | @ctxStays config i hbus hregister hreg hi hbad hstays =>
    rw [or_iff_right (hup hbus)]
    refine Iff.trans (clean_undoDisk_iff rfl (himpls config) (hother config) hpdrv)
      (iff_of_false ?_ ?_)
    · rintro ⟨-, -, hctxs, -⟩
      have hself := hctxs i hi
      rw [withMount_ctxs_self] at hself
      cases hself
    · rintro ⟨-, htimeout | ⟨-, -, hfails | ⟨-, hgone⟩⟩⟩
      · exact absurd (hregister.symm.trans htimeout) nofun
      · exact hreg hfails
      · exact hstays hgone

end Mount

/-! ### Two failures -/

def sdConfig : SdSpiConfig := ⟨5, none, 0⟩

/-- Every call succeeds, but there is no FAT volume on the card. -/
def noFilesystemEnv : MountEnv Unit where
  createMutex := true
  takeMutex _ := true
  selectCard := id
  allocCtx := true
  allocAppend := true
  vfsRegister := .ok
  vfsUnregister := .ok
  volMutex := true
  volMutexAgain := true
  mountVolume _ _ := (.noFilesystem, ⟨⟨false, false⟩, 12, ()⟩)
  spiUnlock _ _ _ driver := (.ok, driver)

/-- Nothing is mounted when the power comes on. -/
theorem powerOn_clean (card : κ) (cfg : FatConfig) : (SdStack.powerOn card).Clean cfg :=
  ⟨⟨rfl, rfl⟩, fun _ _ ↦ rfl, fun _ _ ↦ rfl, fun _ _ ↦ rfl, rfl, rfl⟩

/-- There is no memory for the context: everything is undone. -/
theorem firstMount_clean_noMem :
    (espVfsFatSdSpiMount defaultFat { noFilesystemEnv with allocCtx := false } (SdStack.powerOn ())
      "/sdcard".toList 0 (some sdConfig)).2.Clean defaultFat := by
  refine (firstMount_clean_iff (by decide) (powerOn_clean () defaultFat) ?_).2 ?_
  · decide
  · exact .inr ⟨rfl, .inr ⟨rfl, rfl, .inl (.inr (.inr (.inl rfl)))⟩⟩

/-- **There is no volume on the card**: the volume table keeps a reference to the freed context. -/
theorem failed_mount_dangles :
    let r := espVfsFatSdSpiMount defaultFat noFilesystemEnv (SdStack.powerOn ()) "/sdcard".toList 0
      (some sdConfig)
    (SdStack.powerOn ()).Clean defaultFat ∧ r.1 = .fail ∧ r.2.fatFs 0 = some 0 ∧
      (∀ i < 2, r.2.ctxs i = none) ∧ ¬ r.2.Clean defaultFat := by
  refine ⟨powerOn_clean () defaultFat, by decide, by decide, by decide, fun h ↦ ?_⟩
  have hnone := h.fatFs 0 (by decide)
  revert hnone
  decide
