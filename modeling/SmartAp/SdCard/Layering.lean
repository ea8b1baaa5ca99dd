import SmartAp.SdCard.MountCases
import SmartAp.Transition.Guarded

/-!
# The layering along runs of mount and unmount

Between two calls every layer should stand on the one below it: a context or an entry of the volume
table on the callbacks of its drive, and these on the bus (`SdStack.Layered`).

## Where it breaks

The bus is initialised once and shared, but a failed mount takes it down for everybody; the
callbacks of any drive but drive 0 are never taken away; and a failed `f_mount` may have filled the
volume table. Whether a call keeps the layering is a condition on the state before it and on how the
calls below it go: `SdCall.KeepsLayers`. `layered_mount_iff` and `layered_unmount_iff` show that
this condition is exact for one call, and `layered_of_reachableBy` follows it along runs.

## The proof

The way out of a mount, and an unmount, end with the bus down; then nothing may be left
(`layered_down_iff`). So a call that fails keeps the layering exactly if what it leaves of the
contexts, the volume table and the callbacks is nothing (`layered_undoDisk_iff`), and this is told
by what was there before. A call that succeeds is a matter of the new context and its own drive.

`KeepsMount` and `KeepsUnmount` are the two conditions, with a case for each way in which a call
ends. The run from power-on in which a mount fails, one succeeds and an unmount follows meets them
(`layered_after_mount`); a second mount of the same path does not
(`layering_broken_by_second_mount`).
-/

variable {κ : Type}

/-- Nobody else holds `s_spi_mutex`. -/
def MountEnv.NeverTimesOut (env : MountEnv κ) : Prop := ∀ taker, env.takeMutex taker = true

/-- **Every layer stands on the one below it.** -/
structure SdStack.Layered (s : SdStack κ) (cfg : FatConfig) : Prop where
  ctx : ∀ i < cfg.volumes, ∀ ctx, s.ctxs i = some ctx → ∀ q,
    getLdnumber cfg ctx.fatDrive = some q → s.impls q = true
  fat : ∀ q < cfg.volumes, s.fatFs q ≠ none → s.impls q = true
  bus : ∀ q < cfg.volumes, s.impls q = true → s.spiMutex = true ∧ s.hwInitialized = true

/-! ### When one call keeps the layering -/

/-- No drive has callbacks. -/
def NoDisk (cfg : FatConfig) (s : SdStack κ) : Prop := ∀ q < cfg.volumes, s.impls q = false

/-- No drive but drive 0 has callbacks. -/
def OnlyDrive0 (cfg : FatConfig) (s : SdStack κ) : Prop :=
  ∀ q < cfg.volumes, q ≠ 0 → s.impls q = false

/-- No context is on drive 0. -/
def NoCtx0 (cfg : FatConfig) (s : SdStack κ) : Prop :=
  ∀ i < cfg.volumes, ∀ ctx, s.ctxs i = some ctx → getLdnumber cfg ctx.fatDrive ≠ some 0

/-- A mount keeps the layering: it fails before it has touched anything, it has no configuration
and no disk is registered, it succeeds, or it is a failing mount of drive 0 that finds nobody else
there and takes away all it has put in. -/
def KeepsMount (cfg : FatConfig) (env : MountEnv κ) (s : SdStack κ) (basePath : List Char)
    (pdrv : ℕ) (config : Option SdSpiConfig) : Prop :=
  (s.spiMutex = false ∧ env.createMutex = false) ∨
    match config with
    | none => NoDisk cfg s
    | some config =>
      (RegisterFails cfg env s basePath ∧ pdrv = 0 ∧ OnlyDrive0 cfg s ∧ NoCtx0 cfg s ∧
        s.fatFs 0 = none) ∨
      (¬ RegisterFails cfg env s basePath ∧
        ((volumeOutcome cfg env pdrv config s.driver).result = .ok ∨
          (pdrv = 0 ∧ OnlyDrive0 cfg s ∧ NoCtx0 cfg s ∧ NotRegistered cfg env pdrv config s.driver ∧
            PathFits cfg basePath ∧ env.vfsUnregister = .ok)))

/-- An unmount keeps the layering: of drive 0, when no other drive has callbacks and it releases the
only context on drive 0; of another drive, when no drive has callbacks. -/
def KeepsUnmount (cfg : FatConfig) (env : MountEnv κ) (s : SdStack κ) (basePath : List Char)
    (pdrv : ℕ) : Prop :=
  if pdrv = 0 then
    OnlyDrive0 cfg s ∧ ∀ i < cfg.volumes, ∀ ctx, s.ctxs i = some ctx →
      getLdnumber cfg ctx.fatDrive = some 0 →
        findContextIndexByPath cfg s basePath = some i ∧ env.vfsUnregister = .ok
  else NoDisk cfg s

section Calls

variable {cfg : FatConfig} {env : MountEnv κ} {s t : SdStack κ} {pdrv : ℕ} {basePath : List Char}

/-! ### The layering with the bus down -/

/-- A volume ID names a volume of the table. -/
theorem getLdnumber_lt {path : List Char} {q : ℕ} (h : getLdnumber cfg path = some q) :
    q < cfg.volumes := by
  unfold getLdnumber at h
  split at h
  · split at h
    · rename_i hdigit
      exact Option.some.inj h ▸ hdigit.2
    · cases h
  · cases h

/-- No context is on a drive. -/
def NoCtx (cfg : FatConfig) (s : SdStack κ) : Prop :=
  ∀ i < cfg.volumes, ∀ ctx, s.ctxs i = some ctx → getLdnumber cfg ctx.fatDrive = none

/-- The volume table is empty. -/
def NoVolume (cfg : FatConfig) (s : SdStack κ) : Prop := ∀ q < cfg.volumes, s.fatFs q = none

/-- With the bus down, nothing may stand on it. -/
theorem layered_down_iff (hdown : s.spiMutex = false) :
    s.Layered cfg ↔ NoDisk cfg s ∧ NoCtx cfg s ∧ NoVolume cfg s := by
  constructor
  · intro h
    have hdisk : NoDisk cfg s := fun q hq ↦ by
      rw [← Bool.not_eq_true]
      intro himpl
      have hup := (h.bus q hq himpl).1
      rw [hdown] at hup
      cases hup
    refine ⟨hdisk, fun i hi ctx hctx ↦ ?_, fun q hq ↦ ?_⟩
    · rw [← Option.not_isSome_iff_eq_none]
      intro hsome
      obtain ⟨q, hq⟩ := Option.isSome_iff_exists.1 hsome
      have himpl := h.ctx i hi ctx hctx q hq
      rw [hdisk q (getLdnumber_lt hq)] at himpl
      cases himpl
    · by_contra hne
      have himpl := h.fat q hq hne
      rw [hdisk q hq] at himpl
      cases himpl
  · rintro ⟨hdisk, hctx, hfat⟩
    refine ⟨fun i hi ctx hi' q hq ↦ ?_, fun q hq hne ↦ absurd (hfat q hq) hne, fun q hq himpl ↦ ?_⟩
    · rw [hctx i hi ctx hi'] at hq
      cases hq
    · rw [hdisk q hq] at himpl
      cases himpl

/-- Where no drive has callbacks, nothing stands on them. -/
theorem SdStack.Layered.of_noDisk (h : s.Layered cfg) (hdisk : NoDisk cfg s) :
    NoCtx cfg s ∧ NoVolume cfg s := by
  have hdown : SdStack.Layered { s with spiMutex := false } cfg :=
    ⟨h.ctx, h.fat, fun q hq himpl ↦ by
      have hnone : s.impls q = false := hdisk q hq
      have hsome : s.impls q = true := himpl
      rw [hnone] at hsome
      cases hsome⟩
  exact ((layered_down_iff rfl).1 hdown).2

/-- Where drive 0 is the only one with callbacks, contexts are on drive 0. -/
theorem SdStack.Layered.noCtx_iff (h : s.Layered cfg) (honly : OnlyDrive0 cfg s) :
    NoCtx cfg s ↔ NoCtx0 cfg s := by
  constructor
  · intro hno i hi ctx hctx hzero
    rw [hno i hi ctx hctx] at hzero
    cases hzero
  · intro hno i hi ctx hctx
    rcases hq : getLdnumber cfg ctx.fatDrive with - | q
    · rfl
    · have himpl := h.ctx i hi ctx hctx q hq
      rcases Decidable.em (q = 0) with rfl | hne
      · exact absurd hq (hno i hi ctx hctx)
      · rw [honly q (getLdnumber_lt hq) hne] at himpl
        cases himpl

/-- A drive without callbacks is not in the volume table. -/
theorem SdStack.Layered.fatFs_eq_none (h : s.Layered cfg) {q : ℕ} (hq : q < cfg.volumes)
    (himpl : s.impls q = false) : s.fatFs q = none := by
  by_contra hsome
  have hset := h.fat q hq hsome
  rw [himpl] at hset
  cases hset

/-- And so are entries of the volume table. -/
theorem SdStack.Layered.noVolume_iff (h : s.Layered cfg) (honly : OnlyDrive0 cfg s) :
    NoVolume cfg s ↔ s.fatFs 0 = none := by
  refine ⟨fun hno ↦ hno 0 cfg.volumes_pos, fun hzero q hq ↦ ?_⟩
  rcases Decidable.em (q = 0) with rfl | hne
  · exact hzero
  · exact h.fatFs_eq_none hq (honly q hq hne)

/-- **After the way out**, the bus is down: everything must be gone. -/
theorem layered_undoDisk_iff (htake : env.NeverTimesOut) (hup : t.spiMutex = true) :
    (undoDisk env t pdrv).Layered cfg ↔
      (if pdrv = 0 then OnlyDrive0 cfg t else NoDisk cfg t) ∧ NoCtx cfg t ∧ NoVolume cfg t := by
  rcases Decidable.em (pdrv = 0) with rfl | hne
  · rw [undoDisk_zero (htake _) (htake _) hup, layered_down_iff rfl, if_pos rfl]
    have hdisk : (∀ q < cfg.volumes, Function.update t.impls 0 false q = false) ↔
        OnlyDrive0 cfg t := by
      refine forall_congr' fun q ↦ forall_congr' fun _ ↦ ?_
      rcases Decidable.em (q = 0) with rfl | hq
      · simp
      · simp [hq]
    exact and_congr_left' hdisk
  · rw [undoDisk_of_ne (htake _) hup hne, layered_down_iff rfl, if_neg hne]
    exact Iff.rfl

/-! ### One mount -/

/-- The new context is on its drive. -/
theorem getLdnumber_newFatCtx (hpdrv : pdrv < cfg.volumes) :
    getLdnumber cfg (newFatCtx cfg s basePath (drvPath pdrv)).fatDrive = some pdrv :=
  getLdnumber_drvPath hpdrv

/-- A mount that succeeds has everything it puts in stand on its own disk. -/
theorem layered_withMount (h : s.Layered cfg) {config : SdSpiConfig} {i : ℕ} (o : VolumeOutcome κ)
    (hpdrv : pdrv < cfg.volumes) :
    ((s.diskUp pdrv config).withMount cfg i basePath pdrv o).Layered cfg := by
  have himpl : ∀ q, s.impls q = true → Function.update s.impls pdrv true q = true := by
    intro q hq
    rcases Decidable.em (q = pdrv) with rfl | hne
    · exact Function.update_self q true s.impls
    · rw [Function.update_of_ne hne]
      exact hq
  refine ⟨fun j hj ctx hctx q hq ↦ ?_, fun q hq hfat ↦ ?_, fun q hq _ ↦ ⟨rfl, rfl⟩⟩
  · rcases Decidable.em (j = i) with rfl | hne
    · rw [withMount_ctxs_self] at hctx
      obtain rfl := Option.some.inj hctx
      rw [getLdnumber_newFatCtx hpdrv] at hq
      obtain rfl := Option.some.inj hq
      exact Function.update_self pdrv true s.impls
    · rw [withMount_ctxs_of_ne hne] at hctx
      exact himpl q (h.ctx j hj ctx hctx q hq)
  · rcases Decidable.em (q = pdrv) with rfl | hne
    · exact Function.update_self q true s.impls
    · have hfat' : s.fatFs q ≠ none := by
        rwa [SdStack.withMount, withVolume_fatFs, Function.update_of_ne hne] at hfat
      exact himpl q (h.fat q hq hfat')

/-- A failing mount takes away the callbacks it has put in only on drive 0. -/
theorem layered_undoMount_iff (htake : env.NeverTimesOut) (hpdrv : pdrv < cfg.volumes)
    (hup : t.spiMutex = true) (ht : t.impls = Function.update s.impls pdrv true) :
    (undoDisk env t pdrv).Layered cfg ↔
      pdrv = 0 ∧ OnlyDrive0 cfg s ∧ NoCtx cfg t ∧ NoVolume cfg t := by
  rw [layered_undoDisk_iff htake hup]
  rcases Decidable.em (pdrv = 0) with rfl | hne
  · have honly : OnlyDrive0 cfg t ↔ OnlyDrive0 cfg s := by
      refine forall_congr' fun q ↦ forall_congr' fun _ ↦ forall_congr' fun hq ↦ ?_
      rw [ht, Function.update_of_ne hq]
    rw [if_pos rfl, honly]
    exact (and_iff_right rfl).symm
  · rw [if_neg hne]
    refine iff_of_false (fun hdisk ↦ ?_) fun h ↦ hne h.1
    have hself := hdisk.1 pdrv hpdrv
    rw [ht, Function.update_self] at hself
    cases hself

/-- **When a mount keeps the layering**, exactly. -/
theorem layered_mount_iff {config : Option SdSpiConfig} (htake : env.NeverTimesOut)
    (hpdrv : pdrv < cfg.volumes) (h : s.Layered cfg) (hhw : s.hwInitialized = s.spiMutex) :
    (espVfsFatSdSpiMount cfg env s basePath pdrv config).2.Layered cfg ↔
      KeepsMount cfg env s basePath pdrv config := by
  have hresult := espVfsFatSdSpiMount_result env hhw hpdrv basePath config
  have hother : OnlyDrive0 cfg s → ∀ q < cfg.volumes, q ≠ 0 → s.fatFs q = none :=
    fun honly q hq hne ↦ h.fatFs_eq_none hq (honly q hq hne)
  generalize espVfsFatSdSpiMount cfg env s basePath pdrv config = r at hresult ⊢
  unfold KeepsMount
  cases hresult with
  | noMem hdown => exact iff_of_true h (.inl hdown)
  | noConfig hbus =>
    rw [or_iff_right hbus, sdSpiBusDeinit_busUp, if_pos (htake .deinit)]
    exact (layered_down_iff rfl).trans ⟨fun hd ↦ hd.1, fun hdisk ↦ ⟨hdisk, h.of_noDisk hdisk⟩⟩
  | timeout hbus hregister => exact absurd ((htake .register).symm.trans hregister) nofun
  | notRegistered hbus hregister hreg =>
    rw [or_iff_right hbus]
    refine Iff.trans (layered_undoMount_iff htake hpdrv rfl rfl) ?_
    constructor
    · rintro ⟨hzero, honly, hctx, hvolume⟩
      exact .inl ⟨hreg, hzero, honly, (h.noCtx_iff honly).1 hctx, hvolume 0 cfg.volumes_pos⟩
    · intro hkeeps
      rcases hkeeps with ⟨-, hzero, honly, hctx, hvolume⟩ | ⟨hnot, -⟩
      · exact ⟨hzero, honly, (h.noCtx_iff honly).2 hctx, (h.noVolume_iff honly).2 hvolume⟩
      · exact absurd hreg hnot
  | mounted hbus hregister hreg hok =>
    exact iff_of_true (layered_withMount h _ hpdrv) (.inr (.inr ⟨hreg, .inl hok⟩))
  | @undone config i hbus hregister hreg hbad hgone =>
    rw [or_iff_right hbus]
    refine Iff.trans (layered_undoMount_iff htake hpdrv rfl rfl) ?_
    have hregistered := registered_eq_false_iff cfg env pdrv config s.driver
    constructor
    · rintro ⟨rfl, honly, hctx, hvolume⟩
      have hnone := (withVolume_fatFs_eq_none_iff (hother honly) hpdrv s.heap _).1 hvolume
      exact .inr ⟨hreg, .inr ⟨rfl, honly, (h.noCtx_iff honly).1 hctx, hregistered.1 hnone, hgone⟩⟩
    · rintro (⟨hfails, -⟩ | ⟨-, hok | ⟨rfl, honly, hctx, hnone, -⟩⟩)
      · exact absurd hfails hreg
      · exact absurd hok hbad
      · refine ⟨rfl, honly, (h.noCtx_iff honly).2 hctx, ?_⟩
        exact (withVolume_fatFs_eq_none_iff (hother honly) hpdrv s.heap _).2 (hregistered.2 hnone)
  | ctxStays hbus hregister hreg hi hbad hstays =>
    rw [or_iff_right hbus]
    refine Iff.trans (layered_undoMount_iff htake hpdrv rfl rfl) (iff_of_false ?_ ?_)
    · rintro ⟨-, -, hctx, -⟩
      have hdrive := hctx _ hi _ withMount_ctxs_self
      rw [getLdnumber_newFatCtx hpdrv] at hdrive
      cases hdrive
    · rintro (⟨hfails, -⟩ | ⟨-, hok | ⟨-, -, -, -, hfits⟩⟩)
      · exact hreg hfails
      · exact hbad hok
      · exact hstays hfits

/-! ### One unmount -/

/-- The state in which an unmount comes to the disk. -/
def unmounted (cfg : FatConfig) (env : MountEnv κ) (s : SdStack κ) (basePath : List Char) (pdrv : ℕ) :
    SdStack κ :=
  (espVfsFatUnregisterPath cfg env (dropVolume s pdrv) basePath).2

theorem espVfsFatSdSpiUnmount_eq (hpdrv : pdrv < cfg.volumes) :
    (espVfsFatSdSpiUnmount cfg env s basePath pdrv).2 =
      undoDisk env (unmounted cfg env s basePath pdrv) pdrv := by
  rw [espVfsFatSdSpiUnmount, fMount_null hpdrv]
  rfl

/-- The bus and the disk are untouched. -/
theorem unmounted_frame (cfg : FatConfig) (env : MountEnv κ) (s : SdStack κ) (basePath : List Char)
    (pdrv : ℕ) : (unmounted cfg env s basePath pdrv).spiMutex = s.spiMutex ∧
    (unmounted cfg env s basePath pdrv).hwInitialized = s.hwInitialized ∧
      (unmounted cfg env s basePath pdrv).impls = s.impls := by
  rw [unmounted, unregisterPath_frame, dropVolume_frame]
  exact ⟨rfl, rfl, rfl⟩

theorem unmounted_fatFs :
    (unmounted cfg env s basePath pdrv).fatFs = Function.update s.fatFs pdrv none := by
  rw [unmounted, unregisterPath_frame]
  exact dropVolume_fatFs s pdrv

theorem unmounted_ctxs (j : ℕ) : (unmounted cfg env s basePath pdrv).ctxs j =
    if findContextIndexByPath cfg s basePath = some j ∧ env.vfsUnregister = .ok then none
    else s.ctxs j := by
  have hfind : findContextIndexByPath cfg (dropVolume s pdrv) basePath =
      findContextIndexByPath cfg s basePath := by
    rw [findContextIndexByPath, dropVolume_ctxs]
    rfl
  rw [unmounted, unregisterPath_ctxs, hfind, dropVolume_ctxs]

/-- What is not in the volume table before is not in it afterwards. -/
theorem noVolume_unmounted (h : ∀ q < cfg.volumes, q ≠ pdrv → s.fatFs q = none) :
    NoVolume cfg (unmounted cfg env s basePath pdrv) := by
  intro q hq
  rw [unmounted_fatFs]
  rcases Decidable.em (q = pdrv) with rfl | hne
  · exact Function.update_self q none s.fatFs
  · rw [Function.update_of_ne hne]
    exact h q hq hne

/-- The contexts on a drive are gone exactly when each of them is the one that is released. -/
theorem noCtx_unmounted_iff : NoCtx cfg (unmounted cfg env s basePath pdrv) ↔
    ∀ i < cfg.volumes, ∀ ctx, s.ctxs i = some ctx → getLdnumber cfg ctx.fatDrive ≠ none →
      findContextIndexByPath cfg s basePath = some i ∧ env.vfsUnregister = .ok := by
  refine forall_congr' fun i ↦ forall_congr' fun _ ↦ forall_congr' fun ctx ↦ ?_
  rw [unmounted_ctxs]
  rcases Decidable.em (findContextIndexByPath cfg s basePath = some i ∧ env.vfsUnregister = .ok)
    with hgone | hstays
  · rw [if_pos hgone]
    exact iff_of_true nofun fun _ _ ↦ hgone
  · rw [if_neg hstays]
    exact forall_congr' fun _ ↦ ⟨fun hnone hsome ↦ absurd hnone hsome,
      fun hgone ↦ Decidable.byContradiction fun hsome ↦ hstays (hgone hsome)⟩

/-- **When an unmount keeps the layering**, exactly. -/
theorem layered_unmount_iff (htake : env.NeverTimesOut) (hpdrv : pdrv < cfg.volumes)
    (h : s.Layered cfg) :
    (espVfsFatSdSpiUnmount cfg env s basePath pdrv).2.Layered cfg ↔
      KeepsUnmount cfg env s basePath pdrv := by
  obtain ⟨hmutex, -, himpls⟩ := unmounted_frame cfg env s basePath pdrv
  rw [espVfsFatSdSpiUnmount_eq hpdrv]
  rcases hup : s.spiMutex with _ | _
  · obtain ⟨hdisk, hctx, hvolume⟩ := (layered_down_iff hup).1 h
    rw [undoDisk_down (hmutex.trans hup)]
    refine iff_of_true ((layered_down_iff (hmutex.trans hup)).2 ⟨fun q hq ↦ ?_, ?_, ?_⟩) ?_
    · rw [himpls]
      exact hdisk q hq
    · exact noCtx_unmounted_iff.2 fun i hi ctx hc hne ↦ absurd (hctx i hi ctx hc) hne
    · exact noVolume_unmounted fun q hq _ ↦ hvolume q hq
    · rw [KeepsUnmount]
      split
      · refine ⟨fun q hq _ ↦ hdisk q hq, fun i hi ctx hc hzero ↦ ?_⟩
        rw [hctx i hi ctx hc] at hzero
        cases hzero
      · exact hdisk
  refine (layered_undoDisk_iff htake (hmutex.trans hup)).trans ?_
  rw [KeepsUnmount, noCtx_unmounted_iff, OnlyDrive0, NoDisk, himpls]
  rcases Decidable.em (pdrv = 0) with rfl | hne
  · rw [if_pos rfl, if_pos rfl]
    constructor
    · rintro ⟨honly, hctx, -⟩
      exact ⟨honly, fun i hi ctx hc hzero ↦ hctx i hi ctx hc (hzero ▸ Option.some_ne_none 0)⟩
    · rintro ⟨honly, hctx⟩
      refine ⟨honly, fun i hi ctx hc hsome ↦ ?_,
        noVolume_unmounted fun q hq hne ↦ h.fatFs_eq_none hq (honly q hq hne)⟩
      obtain ⟨q, hq⟩ := Option.ne_none_iff_exists'.1 hsome
      have himpl := h.ctx i hi ctx hc q hq
      rcases Decidable.em (q = 0) with rfl | hne
      · exact hctx i hi ctx hc hq
      · rw [honly q (getLdnumber_lt hq) hne] at himpl
        cases himpl
  · rw [if_neg hne, if_neg hne]
    refine ⟨fun hall ↦ hall.1, fun hdisk ↦ ?_⟩
    obtain ⟨hctx, hvolume⟩ := h.of_noDisk hdisk
    exact ⟨hdisk, fun i hi ctx hc hsome ↦ absurd (hctx i hi ctx hc) hsome,
      noVolume_unmounted fun q hq _ ↦ hvolume q hq⟩

end Calls

/-! ### Runs -/

/-- A call, with what comes from outside while it runs. -/
inductive SdCall (κ : Type)
  | mount (env : MountEnv κ) (basePath : List Char) (pdrv : ℕ) (config : Option SdSpiConfig)
  | unmount (env : MountEnv κ) (basePath : List Char) (pdrv : ℕ)

namespace SdCall

def env : SdCall κ → MountEnv κ
  | mount env _ _ _ => env
  | unmount env _ _ => env

def pdrv : SdCall κ → ℕ
  | mount _ _ pdrv _ => pdrv
  | unmount _ _ pdrv => pdrv

/-- The state after the call. -/
def run (cfg : FatConfig) (s : SdStack κ) : SdCall κ → SdStack κ
  | mount env basePath pdrv config => (espVfsFatSdSpiMount cfg env s basePath pdrv config).2
  | unmount env basePath pdrv => (espVfsFatSdSpiUnmount cfg env s basePath pdrv).2

/-- The condition under which the call keeps the layering. -/
def KeepsLayers (cfg : FatConfig) (s : SdStack κ) : SdCall κ → Prop
  | mount env basePath pdrv config => KeepsMount cfg env s basePath pdrv config
  | unmount env basePath pdrv => KeepsUnmount cfg env s basePath pdrv

end SdCall

/-- Runs of mount and unmount on the drives of the volume table, from power-on. -/
def sdCalls (cfg : FatConfig) (card : κ) : StepSystem (SdStack κ) (SdCall κ) where
  start := .powerOn card
  step s call := if call.pdrv < cfg.volumes then some (call.run cfg s) else none

section Runs

variable {cfg : FatConfig} {card : κ} {s s' : SdStack κ} {call : SdCall κ}

theorem sdCalls_step :
    (sdCalls cfg card).step s call = some s' ↔ call.pdrv < cfg.volumes ∧ call.run cfg s = s' := by
  show (if call.pdrv < cfg.volumes then some (call.run cfg s) else none) = some s' ↔ _
  split
  · rename_i hpdrv
    rw [Option.some.injEq, and_iff_right hpdrv]
  · rename_i hpdrv
    exact iff_of_false nofun fun h ↦ hpdrv h.1

/-- The hardware is initialised exactly while there is a mutex. -/
theorem hwInitialized_of_run (hpdrv : call.pdrv < cfg.volumes)
    (hhw : s.hwInitialized = s.spiMutex) :
    (call.run cfg s).hwInitialized = (call.run cfg s).spiMutex := by
  rcases call with ⟨env, basePath, pdrv, config⟩ | ⟨env, basePath, pdrv⟩
  · have hpdrv' : pdrv < cfg.volumes := hpdrv
    have hresult := espVfsFatSdSpiMount_result env hhw hpdrv' basePath config
    rw [SdCall.run]
    generalize espVfsFatSdSpiMount cfg env s basePath pdrv config = r at hresult ⊢
    cases hresult with
    | noMem => exact hhw
    | noConfig | timeout =>
      rw [sdSpiBusDeinit_busUp]
      split <;> rfl
    | mounted => rfl
    | notRegistered | undone | ctxStays => exact undoDisk_hwInitialized rfl pdrv
  · have hframe := unmounted_frame cfg env s basePath pdrv
    have hpdrv' : pdrv < cfg.volumes := hpdrv
    rw [SdCall.run, espVfsFatSdSpiUnmount_eq hpdrv']
    exact undoDisk_hwInitialized (hframe.2.1.trans (hhw.trans hframe.1.symm)) pdrv

/-- **What the layering is for.** Along every run of mounts and unmounts in which each call meets
`SdCall.KeepsLayers`, with whatever drives, paths, configurations, cards and failures, the layering
holds after every call: what is reached through a registered context finds its callbacks and the
mutex. -/
theorem layered_of_reachableBy
    (h : (sdCalls cfg card).ReachableBy
      (fun s call ↦ call.env.NeverTimesOut ∧ call.KeepsLayers cfg s) s) :
    s.Layered cfg ∧ ∀ i < cfg.volumes, ∀ ctx, s.ctxs i = some ctx → ∀ q,
      getLdnumber cfg ctx.fatDrive = some q → s.impls q = true ∧ s.spiMutex = true := by
  have hinv : s.Layered cfg ∧ s.hwInitialized = s.spiMutex := by
    refine h.invariant (I := fun s ↦ s.Layered cfg ∧ s.hwInitialized = s.spiMutex) ?_ ?_
    · exact ⟨⟨nofun, fun _ _ hne ↦ absurd rfl hne, nofun⟩, rfl⟩
    · intro s call s' _ hI hG hstep
      obtain ⟨hpdrv, rfl⟩ := sdCalls_step.1 hstep
      refine ⟨?_, hwInitialized_of_run hpdrv hI.2⟩
      rcases call with ⟨env, basePath, pdrv, config⟩ | ⟨env, basePath, pdrv⟩
      · exact (layered_mount_iff hG.1 hpdrv hI.1 hI.2).2 hG.2
      · exact (layered_unmount_iff hG.1 hpdrv hI.1).2 hG.2
  refine ⟨hinv.1, fun i hi ctx hctx q hq ↦ ?_⟩
  have himpl := hinv.1.ctx i hi ctx hctx q hq
  exact ⟨himpl, (hinv.1.bus q (getLdnumber_lt hq) himpl).1⟩

end Runs

/-! ### Two runs -/

def twoVolumes : FatConfig := defaultFat

/-- Every call succeeds and there is a FAT volume on the card. -/
def mountableEnv : MountEnv Unit where
  createMutex := true
  takeMutex _ := true
  selectCard := id
  allocCtx := true
  allocAppend := true
  vfsRegister := .ok
  vfsUnregister := .ok
  volMutex := true
  volMutexAgain := true
  mountVolume _ _ := (.ok, ⟨⟨false, false⟩, 12, ()⟩)
  spiUnlock _ _ _ driver := (.ok, driver)

def mountSdcard : SdCall Unit := .mount mountableEnv "/sdcard".toList 0 (some ⟨5, none, 0⟩)

/-- The same, without memory for the context. -/
def mountWithoutMemory : SdCall Unit :=
  .mount { mountableEnv with allocCtx := false } "/sdcard".toList 0 (some ⟨5, none, 0⟩)

def unmountSdcard : SdCall Unit := .unmount mountableEnv "/sdcard".toList 0

/-- After power-on: a mount that fails, one that succeeds, and an unmount. -/
def powerOnState : SdStack Unit := .powerOn ()
def failedState : SdStack Unit := mountWithoutMemory.run twoVolumes powerOnState
def mountedState : SdStack Unit := mountSdcard.run twoVolumes failedState
def unmountedState : SdStack Unit := unmountSdcard.run twoVolumes mountedState

theorem mountWithoutMemory_keepsLayers :
    mountWithoutMemory.KeepsLayers twoVolumes powerOnState := by
  refine .inr (.inl ⟨.inr (.inr (.inl rfl)), rfl, fun _ _ _ ↦ rfl, ?_, rfl⟩)
  intro i _ ctx hctx
  cases hctx

theorem mountSdcard_keepsLayers : mountSdcard.KeepsLayers twoVolumes failedState := by
  refine .inr (.inr ⟨?_, .inl rfl⟩)
  rintro (h | h | h | h | h)
  all_goals revert h; decide

theorem unmountSdcard_keepsLayers : unmountSdcard.KeepsLayers twoVolumes mountedState := by
  have honly : ∀ q < 2, q ≠ 0 → mountedState.impls q = false := by decide
  have hone : ∀ i < 2, (mountedState.ctxs i).isSome = true → i = 0 := by decide
  refine ⟨honly, fun i hi ctx hctx _ ↦ ⟨?_, rfl⟩⟩
  rw [hone i hi (by rw [hctx]; rfl)]
  decide

/-- **A mount that fails, one that succeeds, and an unmount.** -/
theorem layered_after_mount :
    (failedState.Layered twoVolumes ∧ failedState.impls 0 = false) ∧
      (mountedState.Layered twoVolumes ∧ mountedState.impls 0 = true) ∧
        unmountedState.Layered twoVolumes ∧ unmountedState.impls 0 = false := by
  have hfailed : (sdCalls twoVolumes ()).ReachableBy
      (fun s call ↦ call.env.NeverTimesOut ∧ call.KeepsLayers twoVolumes s) failedState :=
    .step .start ⟨fun _ ↦ rfl, mountWithoutMemory_keepsLayers⟩ (sdCalls_step.2 ⟨by decide, rfl⟩)
  have hmounted := hfailed.step ⟨fun _ ↦ rfl, mountSdcard_keepsLayers⟩
    (sdCalls_step.2 ⟨by decide, rfl⟩)
  have hunmounted := hmounted.step ⟨fun _ ↦ rfl, unmountSdcard_keepsLayers⟩
    (sdCalls_step.2 ⟨by decide, rfl⟩)
  exact ⟨⟨(layered_of_reachableBy hfailed).1, rfl⟩, ⟨(layered_of_reachableBy hmounted).1, rfl⟩,
    (layered_of_reachableBy hunmounted).1, rfl⟩

/-- **Mounting the same path again** fails, and takes the disk and the bus away under the context
that is still registered. -/
theorem layering_broken_by_second_mount :
    ∃ s, (sdCalls twoVolumes ()).ReachableBy (fun _ call ↦ call.env.NeverTimesOut) s ∧
      (s.ctxs 0).isSome ∧ s.fatFs 0 = some 0 ∧ s.impls 0 = false ∧ s.spiMutex = false ∧
        ¬ s.Layered twoVolumes := by
  refine ⟨mountSdcard.run twoVolumes (mountSdcard.run twoVolumes (.powerOn ())),
    .step (.step .start (fun _ ↦ rfl) (sdCalls_step.2 ⟨by decide, rfl⟩)) (fun _ ↦ rfl)
      (sdCalls_step.2 ⟨by decide, rfl⟩), by decide, by decide, by decide,
    by decide, fun h ↦ ?_⟩
  have himpl := h.fat 0 (by decide) (by decide)
  revert himpl
  decide
