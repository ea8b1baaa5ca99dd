import SmartAp.SdCard.Geometry
import SmartAp.SdCard.Stable

/-!
# The addresses of the sectors

`ff_sd_spi_read`, `ff_sd_spi_write` and `CTRL_TRIM` multiply the number of a sector by 512 on a card
that is not addressed by blocks, on 32 bits. Nothing in these functions bounds the number; the size
the card was said to have comes from another request.

## What is sent for a sector

A port that keeps a record (`SdPort.recorded`) shows what is sent. `SendsFor` is what can be sent
for a sector, in some call on some port, and `TrimSends` the same of a trim. `SendsFor.eq` and
`TrimSends.eq` say that this is one address, `sectorAddress`: all the calls compute it the same way.
They go through the text of the driver with one assertion, that each command of the kind carries the
address (`Carries`), and the lemmas of `SmartAp.SdCard.Stable` do the rest.

## When the addresses are sound

`AddressesSound` is said of the sectors below a number: different sectors have different addresses,
and none wraps. `addressesSound_iff` decides it, for blocks and for bytes. What the driver answers
to `GET_SECTOR_COUNT` is then set against it: `addresses_sound_iff` is the condition on the CSD
under which the addresses of a card are those of its sectors. A card above 4 GiB that is addressed
by bytes is outside of the specification, but the code neither refuses it nor bounds the sector
(`large_card_shares_address`).
-/

/-! ### What is sent -/

/-- An address that is sent with a command for a sector of a card of this type, in some call on some
port. -/
inductive SendsFor (ty : UInt8) (sector arg : UInt32) : Prop
  | read {κ : Type} (port : SdPort κ) (d : SdDriver (Recorded κ)) (pdrv count : ℕ) (cmd : UInt8) :
      d.cardType = ty → d.card.sent = [] → cmd ∈ [cmd17, cmd18] →
      SdSent.command cmd arg ∈ (ffSdSpiRead port.recorded pdrv sector count d).2.card.sent →
      SendsFor ty sector arg
  | write {κ : Type} (port : SdPort κ) (d : SdDriver (Recorded κ)) (pdrv count : ℕ)
      (buff : List UInt8) (cmd : UInt8) :
      d.cardType = ty → d.card.sent = [] → cmd ∈ [cmd24, cmd25] →
      SdSent.command cmd arg ∈ (ffSdSpiWrite port.recorded pdrv buff sector count d).2.card.sent →
      SendsFor ty sector arg
  | trimStart {κ : Type} (port : SdPort κ) (d : SdDriver (Recorded κ)) (pdrv : ℕ) (ed : UInt32) :
      d.cardType = ty → d.card.sent = [] →
      SdSent.command cmd32 arg ∈
        (ffSdSpiIoctl port.recorded pdrv ctrlTrim (some (sector, ed)) d).2.card.sent →
      SendsFor ty sector arg
  | trimEnd {κ : Type} (port : SdPort κ) (d : SdDriver (Recorded κ)) (pdrv : ℕ) (st : UInt32) :
      d.cardType = ty → d.card.sent = [] →
      SdSent.command cmd33 arg ∈
        (ffSdSpiIoctl port.recorded pdrv ctrlTrim (some (st, sector)) d).2.card.sent →
      SendsFor ty sector arg

/-- The addresses that one `CTRL_TRIM` sends. -/
inductive TrimSends (ty : UInt8) (st ed x y : UInt32) : Prop
  | trim {κ : Type} (port : SdPort κ) (d : SdDriver (Recorded κ)) (pdrv : ℕ) :
      d.cardType = ty → d.card.sent = [] →
      (let sent := (ffSdSpiIoctl port.recorded pdrv ctrlTrim (some (st, ed)) d).2.card.sent
       SdSent.command cmd32 x ∈ sent ∧ SdSent.command cmd33 y ∈ sent) → TrimSends ty st ed x y

/-- The address of a sector. -/
def sectorAddress (ty : UInt8) (sector : UInt32) : UInt32 :=
  if ty &&& ctBlock = 0 then sector * 512 else sector

/-! ### One address for each sector -/

section Commands

variable {κ α : Type} {port : SdPort κ} {allowed : SdSent → Prop}

/-- The driver, with a card of this type. -/
def OfType (ty : UInt8) (allowed : SdSent → Prop) (d : SdDriver (Recorded κ)) : Prop :=
  d.cardType = ty ∧ OnlySends allowed d

/-- What reads the driver first may rely on the type. -/
theorem onlySends_get {ty : UInt8} {m : SdDriver (Recorded κ) → SdM (Recorded κ) α}
    (h : ∀ d, d.cardType = ty → Keeps (OnlySends allowed) (m d)) :
    Triple (OfType ty allowed) (get >>= m) fun _ ↦ OnlySends allowed :=
  .bind (Q := fun (d' : SdDriver (Recorded κ)) d ↦ d'.cardType = ty ∧ OnlySends allowed d)
    (.get fun _ hd ↦ hd) fun d' ↦ .of_fact (h d')

variable {ty : UInt8} {sector st ed : UInt32}

/-- A read sends no command but CMD17, CMD18 and CMD12, each with the argument it is given. -/
theorem onlySends_ffSdSpiRead (port : SdPort κ) (pdrv count : ℕ)
    (allowed : SdSent → Prop) (h17 : allowed (.command cmd17 (sectorAddress ty sector)))
    (h18 : allowed (.command cmd18 (sectorAddress ty sector))) (h12 : allowed (.command cmd12 0)) :
    Triple (OfType ty allowed) (ffSdSpiRead port.recorded pdrv sector count) fun _ ↦
      OnlySends allowed := by
  refine .ite (fun _ ↦ .pure fun _ hd ↦ hd.2) fun _ ↦ onlySends_get fun d' hty ↦ ?_
  subst hty
  refine Keeps.ite (.pure _) <| .bind onlySends_lift fun _ ↦ .ite ?_ (.pure _)
  exact .bind (stable_readTransfer (stableAll_onlySends port allowed) h17 h18 h12) fun _ ↦
    .bind (onlySends_toPort fun _ ↦ rfl) fun _ ↦ .bind (onlySends_toPort fun _ ↦ rfl) fun _ ↦
      .pure _

/-- A write sends no command but CMD24, ACMD23 and CMD25, and blocks of the buffer. -/
theorem onlySends_ffSdSpiWrite (port : SdPort κ) (pdrv count : ℕ) (buff : List UInt8)
    (allowed : SdSent → Prop) (h24 : allowed (.command cmd24 (sectorAddress ty sector)))
    (h25 : allowed (.command cmd25 (sectorAddress ty sector)))
    (h23 : allowed (.command acmd23 (UInt32.ofNat count)))
    (hblock : ∀ buff token, allowed (.block buff token)) :
    Triple (OfType ty allowed) (ffSdSpiWrite port.recorded pdrv buff sector count) fun _ ↦
      OnlySends allowed := by
  refine .ite (fun _ ↦ .pure fun _ hd ↦ hd.2) fun _ ↦ onlySends_get fun d' hty ↦ ?_
  subst hty
  refine Keeps.ite (.pure _) <| .ite (.pure _) <| .bind onlySends_lift fun _ ↦ .ite ?_ (.pure _)
  exact .bind (stable_writeTransfer (stableAll_onlySends port allowed) h24 h25 h23 hblock) fun _ ↦
    .bind (onlySends_toPort fun _ ↦ rfl) fun _ ↦ .bind (onlySends_toPort fun _ ↦ rfl) fun _ ↦
      .pure _

/-- A trim sends no command but CMD32, CMD33 and CMD38. -/
theorem onlySends_trim {pdrv : ℕ} (h32 : allowed (.command cmd32 (sectorAddress ty st)))
    (h33 : allowed (.command cmd33 (sectorAddress ty ed))) (h38 : allowed (.command cmd38 0)) :
    Triple (OfType ty allowed) (ffSdSpiIoctl port.recorded pdrv ctrlTrim (some (st, ed))) fun _ ↦
      OnlySends allowed := by
  refine .ite (fun _ ↦ .pure fun _ hd ↦ hd.2) fun _ ↦ onlySends_get fun d' hty ↦ ?_
  subst hty
  refine Keeps.ite (.pure _) <| .bind onlySends_lift fun _ ↦ .ite ?_ (.pure _)
  have hswitch : Keeps (OnlySends allowed)
      (ioctlSwitch port.recorded d'.cardType ctrlTrim (some (st, ed))) :=
    .bind (stable_ioctlTrim (stableAll_onlySends port allowed) h32 h33 h38) fun _ ↦ .pure _
  exact .bind hswitch fun _ ↦
    .bind (onlySends_toPort fun _ ↦ rfl) fun _ ↦ .bind (onlySends_toPort fun _ ↦ rfl) fun _ ↦
      .pure _

end Commands

/-! ### The law -/

section Law

variable {ty : UInt8} {sector arg : UInt32}

/-- The commands of a kind carry this address. -/
def Carries (cmds : List UInt8) (address : UInt32) : SdSent → Prop
  | .command cmd arg => cmd ∈ cmds → arg = address
  | .block _ _ => True

/-- Of a command that is not among the listed ones nothing is asked. -/
theorem carries_other {cmds : List UInt8} {address : UInt32} {cmd : UInt8} (h : cmd ∉ cmds)
    (arg : UInt32) : Carries cmds address (.command cmd arg) := fun hmem ↦ absurd hmem h

/-- A listed command carries the address. -/
theorem Carries.eq {cmds : List UInt8} {address : UInt32} {cmd : UInt8}
    (h : Carries cmds address (.command cmd arg)) (hmem : cmd ∈ cmds) : arg = address := h hmem

/-- A driver that has sent nothing yet has sent nothing wrong. -/
theorem ofType_start {κ : Type} {allowed : SdSent → Prop} {d : SdDriver (Recorded κ)}
    (hty : d.cardType = ty) (hnone : d.card.sent = []) : OfType ty allowed d :=
  ⟨hty, onlySends_nothing hnone⟩

/-- The two ends of a trim are addressed as the sectors of a transfer are. -/
theorem carries_trim {κ : Type} (port : SdPort κ) {d : SdDriver (Recorded κ)} (pdrv : ℕ)
    (st ed : UInt32) (hty : d.cardType = ty) (hnone : d.card.sent = []) :
    OnlySends (fun x ↦ Carries [cmd32] (sectorAddress ty st) x ∧
      Carries [cmd33] (sectorAddress ty ed) x)
        (ffSdSpiIoctl port.recorded pdrv ctrlTrim (some (st, ed)) d).2 :=
  onlySends_trim ⟨fun _ ↦ rfl, carries_other (by decide) _⟩
    ⟨carries_other (by decide) _, fun _ ↦ rfl⟩
    ⟨carries_other (by decide) _, carries_other (by decide) _⟩ d (ofType_start hty hnone)

/-- **The calls send one address for a sector.** -/
theorem SendsFor.eq (h : SendsFor ty sector arg) : arg = sectorAddress ty sector := by
  cases h with
  | read port d pdrv count cmd hty hnone hcmd hmem =>
    have honly := onlySends_ffSdSpiRead port pdrv count
      (Carries [cmd17, cmd18] (sectorAddress ty sector)) (fun _ ↦ rfl) (fun _ ↦ rfl)
      (carries_other (by decide) _) d (ofType_start hty hnone)
    exact honly _ hmem hcmd
  | write port d pdrv count buff cmd hty hnone hcmd hmem =>
    have honly := onlySends_ffSdSpiWrite port pdrv count buff
      (Carries [cmd24, cmd25] (sectorAddress ty sector)) (fun _ ↦ rfl)
      (fun _ ↦ rfl) (carries_other (by decide) _) (fun _ _ ↦ trivial) d (ofType_start hty hnone)
    exact honly _ hmem hcmd
  | trimStart port d pdrv ed hty hnone hmem =>
    exact (carries_trim port pdrv sector ed hty hnone _ hmem).1.eq (by decide)
  | trimEnd port d pdrv st hty hnone hmem =>
    exact (carries_trim port pdrv st sector hty hnone _ hmem).2.eq (by decide)

/-- The two addresses of `CTRL_TRIM`. -/
theorem TrimSends.eq {st ed x y : UInt32} (h : TrimSends ty st ed x y) :
    x = sectorAddress ty st ∧ y = sectorAddress ty ed := by
  obtain ⟨port, d, pdrv, hty, hnone, hx, hy⟩ := h
  have honly := carries_trim port pdrv st ed hty hnone
  exact ⟨(honly _ hx).1.eq (by decide), (honly _ hy).2.eq (by decide)⟩

/-- A port on which no command is answered. -/
def deafPort : SdPort Unit where
  takeMutex k := (true, k)
  giveMutex k := k
  delay k := k
  calloc k := (true, k)
  setSpeed _ k := k
  csHigh k := k
  csLow k := k
  exchange _ k := (0xFF, k)
  waitReady k := (false, k)
  selectCard k := (false, k)
  deselect k := k
  sendCmd _ _ k := (0xFF, k)
  rcvrDatablock _ k := ((false, []), k)
  xmitDatablock _ _ k := (false, k)
  polls _ := 0

/-- The address is sent by a read. -/
theorem sendsFor_sectorAddress (ty : UInt8) (sector : UInt32) :
    SendsFor ty sector (sectorAddress ty sector) := by
  refine .read deafPort ⟨⟨false, false⟩, ty, ⟨(), []⟩⟩ 0 1 cmd17 rfl rfl (by decide) ?_
  have hlog : (ffSdSpiRead deafPort.recorded 0 sector 1
      ⟨⟨false, false⟩, ty, ⟨(), []⟩⟩).2.card.sent =
        [.command cmd17 (sectorAddress ty sector)] := rfl
  rw [hlog]
  exact List.mem_singleton_self _

/-- The addresses are those of the sectors below `n`: different sectors have different addresses, a
card that is not addressed by blocks gets the number of the first byte, and a range to trim starts
before it ends. -/
structure AddressesSound (ty : UInt8) (n : ℕ) : Prop where
  distinct : ∀ a b x y : UInt32, a.toNat < n → b.toNat < n → a ≠ b → SendsFor ty a x →
    SendsFor ty b y → x ≠ y
  bytes : ty &&& ctBlock = 0 → ∀ a x : UInt32, a.toNat < n → SendsFor ty a x →
    x.toNat = 512 * a.toNat
  trim : ∀ st ed x y : UInt32, st ≤ ed → ed.toNat < n → TrimSends ty st ed x y → x ≤ y

/-- **The addresses are sound** on a card addressed by blocks, and on any other card up to 4 GiB. -/
theorem addressesSound_iff (n : ℕ) :
    AddressesSound ty n ↔ ty &&& ctBlock ≠ 0 ∨ n ≤ 2 ^ 23 := by
  by_cases hbyte : ty &&& ctBlock = 0
  · rw [or_iff_right (not_not.2 hbyte)]
    constructor
    · intro h
      by_contra hlarge
      -- sector 2^23 wraps to the address of sector 0
      have hwraps : sectorAddress ty 8388608 = sectorAddress ty 0 := by
        rw [sectorAddress, sectorAddress, if_pos hbyte, if_pos hbyte]
        rfl
      have hin : (8388608 : UInt32).toNat < n := by
        show 8388608 < n
        omega
      have hin0 : (0 : UInt32).toNat < n := by
        show 0 < n
        omega
      exact h.distinct 8388608 0 _ _ hin hin0 (by decide) (sendsFor_sectorAddress ty _)
        (sendsFor_sectorAddress ty _) hwraps
    · intro hsize
      have haddress : ∀ a : UInt32, a.toNat < n → (sectorAddress ty a).toNat = 512 * a.toNat := by
        intro a ha
        have h512 : (512 : UInt32).toNat = 512 := rfl
        rw [sectorAddress, if_pos hbyte, UInt32.toNat_mul, h512]
        omega
      refine ⟨fun a b x y ha hb hne hx hy heq ↦ hne ?_, fun _ a x ha hx ↦ ?_,
        fun st ed x y hle hed htrim ↦ ?_⟩
      · have hsame := haddress a ha
        rw [← hx.eq, heq, hy.eq, haddress b hb] at hsame
        exact UInt32.toNat_inj.1 (by omega)
      · rw [hx.eq, haddress a ha]
      · have hle' : st.toNat ≤ ed.toNat := hle
        rw [htrim.eq.1, htrim.eq.2, UInt32.le_iff_toNat_le, haddress st (by omega), haddress ed hed]
        omega
  · have haddress : ∀ a, sectorAddress ty a = a := fun a ↦ if_neg hbyte
    refine iff_of_true ⟨fun a b x y _ _ hne hx hy ↦ ?_, fun habs ↦ absurd habs hbyte,
      fun st ed x y hle _ htrim ↦ ?_⟩ (.inl hbyte)
    · rwa [hx.eq, hy.eq, haddress, haddress]
    · rwa [htrim.eq.1, htrim.eq.2, haddress, haddress]

/-! ### The size of the card -/

/-- The CSD says that the card has no more than 4 GiB; a size of 2 ^ 32 sectors is answered as 0. -/
def WithinFourGiB (csd : List UInt8) : Prop :=
  if csdStructure csd = 1 then cSizeV2 csd + 1 ≤ 8192 ∨ cSizeV2 csd + 1 = 2 ^ 22
  else (cSize csd + 1) * 2 ^ (cSizeMult csd + 2) * 2 ^ readBlLen csd ≤ 2 ^ 32

/-- The sectors of such a card, as they are counted by the decoder, are those below 2 ^ 23. -/
theorem decodeSectorCount_le_iff {csd : List UInt8} {v : UInt32} (hlength : csd.length = 16)
    (hcount : decodeSectorCount csd = some (.dword v)) : v.toNat ≤ 2 ^ 23 ↔ WithinFourGiB csd := by
  by_cases hone : csdStructure csd = 1
  · obtain ⟨w, hw, hvalue⟩ := decodeSectorCount_v2 hlength hone
    obtain rfl : v = w := by
      rw [hw] at hcount
      cases hcount
      rfl
    have hlt : cSizeV2 csd < 2 ^ 22 := bitField_lt csd 69 48
    rw [WithinFourGiB, if_pos hone, hvalue]
    omega
  · obtain ⟨hinvalid, hvalid⟩ := decodeSectorCount_v1 hlength hone
    have hlarge : 9 ≤ blockLenExp csd := by
      by_contra hsmall
      rw [hinvalid (Nat.lt_of_not_le hsmall)] at hcount
      cases hcount
    obtain ⟨w, hw, hvalue⟩ := hvalid hlarge
    obtain rfl : v = w := by
      rw [hw] at hcount
      cases hcount
      rfl
    have hbytes : (cSize csd + 1) * 2 ^ (cSizeMult csd + 2) * 2 ^ readBlLen csd =
        (cSize csd + 1) * 2 ^ (blockLenExp csd - 9) * 512 := by
      have hexp : cSizeMult csd + 2 + readBlLen csd = blockLenExp csd - 9 + 9 := by
        rw [blockLenExp] at hlarge ⊢
        omega
      rw [Nat.mul_assoc, ← Nat.pow_add, hexp, Nat.pow_add, ← Nat.mul_assoc]
    rw [WithinFourGiB, if_neg hone, hbytes, hvalue]
    omega

/-- The number of sectors in an answer is the one that was decoded. -/
theorem decodeSectorCount_of_answer {κ : Type} {port : SdPort κ} {pdrv : ℕ}
    {buff : Option (UInt32 × UInt32)} {d : SdDriver κ} {v : UInt32} {csd : List UInt8}
    (hcount : (ffSdSpiIoctl port pdrv getSectorCount buff d).1 = (.ok, some (.dword v)))
    (hread : CsdReceived port pdrv buff d csd) : decodeSectorCount csd = some (.dword v) := by
  rcases ioctl_csd_cases (d := d) getSectorCount sizeAnswer (fun s ↦ rfl)
    (fun words s ↦ ioctlSectorCount_eq port s) pdrv buff with
    ⟨-, hfailed, -⟩ | ⟨csd', hread', hanswer⟩
  · rw [hcount] at hfailed
    exact absurd rfl hfailed
  · obtain rfl := hread.unique hread'
    rw [hcount, sizeAnswer] at hanswer
    cases hdecode : decodeSectorCount csd with
    | none =>
      rw [hdecode] at hanswer
      cases hanswer
    | some w =>
      rw [hdecode] at hanswer
      cases hanswer
      rfl

/-- **No two sectors share an address**, and nothing wraps, if and only if the card is addressed by
blocks or has no more than 4 GiB. -/
theorem addresses_sound_iff {κ : Type} (h : SpiHost κ) (opt : SdOptions) (pdrv : ℕ)
    (buff : Option (UInt32 × UInt32)) (d : SdDriver (Bus κ)) (csd : List UInt8) (v : UInt32)
    (hread : CsdReceived (h.port opt) pdrv buff d csd)
    (hcount : (ffSdSpiIoctl (h.port opt) pdrv getSectorCount buff d).1 = (.ok, some (.dword v))) :
    AddressesSound d.cardType v.toNat ↔ d.cardType &&& ctBlock ≠ 0 ∨ WithinFourGiB csd := by
  rw [addressesSound_iff,
    decodeSectorCount_le_iff hread.length (decodeSectorCount_of_answer hcount hread)]

end Law

/-- A card addressed by bytes that answers `CMD9` with this CSD. -/
def csdDriver (csd : List UInt8) : SdDriver (Bus (List UInt8)) :=
  ⟨⟨false, false⟩, ctSd1, ⟨List.replicate 9 0xFF ++ [0x00, 0xFE] ++ csd ++ [0, 0, 0xFF], []⟩⟩

/-- The CSD of a card of 2 GiB. -/
def smallCsd : List UInt8 := [0, 0, 0, 0, 0, 0x0A, 0x03, 0xFF, 0xC0, 0x03, 0x80, 0, 0, 0, 0, 0]

/-- The sectors of a card of 2 GiB have their addresses. -/
theorem addresses_sound_iff_small : AddressesSound ctSd1 4194304 := by
  have hread : CsdReceived (scriptHost.port ⟨1, false⟩) 0 (some (0, 0)) (csdDriver smallCsd)
      smallCsd := ⟨rfl, rfl, rfl, nofun, by decide +kernel⟩
  have hcount : (ffSdSpiIoctl (scriptHost.port ⟨1, false⟩) 0 getSectorCount (some (0, 0))
      (csdDriver smallCsd)).1 = (.ok, some (.dword 4194304)) := by decide +kernel
  have hsize : WithinFourGiB smallCsd := by
    rw [WithinFourGiB, if_neg (by decide +kernel)]
    decide +kernel
  exact (addresses_sound_iff scriptHost ⟨1, false⟩ 0 (some (0, 0)) (csdDriver smallCsd) smallCsd
    4194304 hread hcount).2 (.inr hsize)

/-- The CSD of a card of 8 GiB. -/
def largeCsd : List UInt8 := [0, 0, 0, 0, 0, 0x0F, 0, 0x7F, 0xC0, 0x03, 0x80, 0, 0, 0, 0, 0]

/-- On a card of 8 GiB the sectors 0 and 2 ^ 23 have one address. -/
theorem large_card_shares_address :
    (ffSdSpiIoctl (scriptHost.port ⟨1, false⟩) 0 getSectorCount (some (0, 0))
        (csdDriver largeCsd)).1 = (.ok, some (.dword 16777216)) ∧
      SendsFor ctSd1 0 0 ∧ SendsFor ctSd1 8388608 0 ∧ ¬ AddressesSound ctSd1 16777216 := by
  have hzero : SendsFor ctSd1 0 0 := sendsFor_sectorAddress ctSd1 0
  have hwrapped : SendsFor ctSd1 8388608 0 := sendsFor_sectorAddress ctSd1 8388608
  refine ⟨by decide +kernel, hzero, hwrapped, fun hsound ↦ ?_⟩
  exact hsound.distinct 0 8388608 0 0 (by decide) (by decide) (by decide) hzero hwrapped rfl
