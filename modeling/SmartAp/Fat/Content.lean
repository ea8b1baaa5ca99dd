import SmartAp.Fat.File
import SmartAp.Fat.Allocation

/-!
# Where the bytes of a file are

A file with the cluster chain `l` has its sector `n` in the cluster `n / csize` of the chain, and
byte `p` of it is at the address `addrOf l p` of the volume.

The map is injective (`addrOf_inj`): the clusters of a chain are different, and the sectors of two
clusters do not overlap. It is linear inside of a cluster (`addrOf_add`), which is what a transfer
of several sectors at once needs, and it does not change when the chain gets longer
(`addrOf_append`). Its values are in the sectors that belong to no other chain (`SpareSector`);
these are what a file may write, and with them a byte outside of the file is one that stays.

`fileBytes V l p n` are the `n` bytes from position `p` on, in a volume `V`. A file as its caller
sees it is `fileBytes V l 0 size`.
-/

namespace FatGeometry

variable (g : FatGeometry)

/-- The disk sector of sector `n` of a file. -/
def sectorOf (l : List ℕ) (n : ℕ) : ℕ := clst2sect g (l.getD (n / g.csize) 0) + n % g.csize

/-- The address of byte `o` of a file. -/
def addrOf (l : List ℕ) (o : ℕ) : ℕ := g.sectorOf l (o / 512) * 512 + o % 512

/-- The `n` bytes of a file from byte `p` on, in the memory `V`. -/
def fileBytes (V : Memory) (l : List ℕ) (p n : ℕ) : List UInt8 :=
  (List.range n).map fun i ↦ V (g.addrOf l (p + i))

/-- **A data sector of a cluster that is in none of these chains.** -/
def SpareSector (others : List (List ℕ)) (k : ℕ) : Prop :=
  ∃ c, g.Valid c ∧ (∀ l ∈ others, c ∉ l) ∧ clst2sect g c ≤ k ∧ k < clst2sect g c + g.csize

end FatGeometry

variable {g : FatGeometry} {l others : List (List ℕ)}

section Spare

variable {others : List (List ℕ)} {k : ℕ}

/-- A spare sector is on the disk and in no FAT, and it is not sector 0. -/
theorem FatGeometry.SpareSector.tracked (hg : g.VolumeSound) (h : g.SpareSector others k) :
    g.Tracked k ∧ ¬ g.InFat k ∧ k ≠ 0 := by
  obtain ⟨c, hc, -, hle, hlt⟩ := h
  have hbounds := clst2sect_bounds hg hc
  obtain ⟨j, rfl⟩ := Nat.exists_eq_add_of_le hle
  have hj := clst2sect_tracked hg hc (Nat.lt_of_add_lt_add_left hlt)
  refine ⟨hj.1, hj.2, fun h0 ↦ ?_⟩
  have hfats := hg.fats_le
  have hcovers := hg.covers
  have htwo := hg.two_lt
  have hzero : g.nFats * g.fsize = 0 := by omega
  have hsize : g.fsize = 0 := by
    rcases hg.oneOrTwo with h | h <;> rw [h] at hzero <;> omega
  rw [hsize] at hcovers
  cases ht : g.fsType <;> simp only [ht, FatType.bytes] at hcovers <;> omega

/-- A spare sector is on the disk. -/
theorem FatGeometry.SpareSector.lt (hg : g.VolumeSound) (h : g.SpareSector others k) :
    k < noSector :=
  (h.tracked hg).1.exists_sector

end Spare

section Addresses

variable {l : List ℕ} {others : List (List ℕ)} {n o i : ℕ}

/-- A cluster has a sector at least. -/
theorem FatGeometry.csize_pos (hg : g.VolumeSound) : 0 < g.csize := by
  obtain ⟨k, hk⟩ := hg.csize_pow
  rw [hk]
  exact Nat.two_pow_pos k

/-- A cluster has a byte at least. -/
theorem FatGeometry.bcs_pos (hg : g.VolumeSound) : 0 < g.bcs :=
  Nat.mul_pos (FatGeometry.csize_pos hg) (by decide)

/-- The cluster of a sector. -/
theorem FatGeometry.sectorOf_getElem (hn : n / g.csize < l.length) :
    g.sectorOf l n = clst2sect g l[n / g.csize] + n % g.csize := by
  rw [FatGeometry.sectorOf, List.getD_eq_getElem?_getD, List.getElem?_eq_getElem hn,
    Option.getD_some]

/-- The sectors of a file are in no other chain. -/
theorem FatGeometry.sectorOf_spare (hg : g.VolumeSound) (hl : ∀ c ∈ l, g.Valid c)
    (hother : ∀ c ∈ l, ∀ k ∈ others, c ∉ k) (hn : n / g.csize < l.length) :
    g.SpareSector others (g.sectorOf l n) := by
  rw [g.sectorOf_getElem hn]
  have hmem : l[n / g.csize] ∈ l := List.getElem_mem hn
  exact ⟨_, hl _ hmem, hother _ hmem, Nat.le_add_right _ _,
    Nat.add_lt_add_left (Nat.mod_lt _ (g.csize_pos hg)) _⟩

/-- **Different sectors of a file are different sectors of the disk.** -/
theorem FatGeometry.sectorOf_inj (hg : g.VolumeSound) (hl : ∀ c ∈ l, g.Valid c) (hnodup : l.Nodup)
    {n' : ℕ} (hn : n / g.csize < l.length) (hn' : n' / g.csize < l.length)
    (h : g.sectorOf l n = g.sectorOf l n') : n = n' := by
  have hpos := g.csize_pos hg
  have hmod := Nat.mod_lt n hpos
  have hmod' := Nat.mod_lt n' hpos
  rw [g.sectorOf_getElem hn, g.sectorOf_getElem hn'] at h
  by_cases hne : l[n / g.csize] = l[n' / g.csize]
  · have hidx := (List.Nodup.getElem_inj_iff hnodup).1 hne
    rw [hne] at h
    have hdiv := Nat.div_add_mod n g.csize
    have hdiv' := Nat.div_add_mod n' g.csize
    rw [hidx] at hdiv
    omega
  · have hdisj := clst2sect_disjoint hg (hl _ (List.getElem_mem hn)) (hl _ (List.getElem_mem hn'))
      hne
    omega

/-- The sectors of a cluster follow one another. -/
theorem FatGeometry.sectorOf_add (hn : n % g.csize + i < g.csize) :
    g.sectorOf l (n + i) = g.sectorOf l n + i := by
  have hdiv : (n + i) / g.csize = n / g.csize := by
    have h := Nat.div_add_mod n g.csize
    have hsplit : n + i = g.csize * (n / g.csize) + (n % g.csize + i) := by omega
    rw [hsplit, Nat.mul_add_div (by omega), Nat.div_eq_of_lt hn, Nat.add_zero]
  have hmod : (n + i) % g.csize = n % g.csize + i := by
    rw [← Nat.mod_add_mod, Nat.mod_eq_of_lt hn]
  rw [FatGeometry.sectorOf, FatGeometry.sectorOf, hdiv, hmod, Nat.add_assoc]

/-- The sector of a byte of the file is that of its position. -/
theorem FatGeometry.addrOf_div : g.addrOf l o / 512 = g.sectorOf l (o / 512) := by
  rw [FatGeometry.addrOf]
  omega

/-- A byte stands in its sector where it stands in the file. -/
theorem FatGeometry.addrOf_mod : g.addrOf l o % 512 = o % 512 := by
  rw [FatGeometry.addrOf]
  omega

/-- The cluster of a byte. -/
theorem FatGeometry.div_bcs (g : FatGeometry) (o : ℕ) : o / 512 / g.csize = o / g.bcs := by
  rw [Nat.div_div_eq_div_mul, FatGeometry.bcs, Nat.mul_comm]

/-- A byte inside of the chain is in one of its clusters. -/
theorem FatGeometry.div_csize_lt (hg : g.VolumeSound) (ho : o < l.length * g.bcs) :
    o / 512 / g.csize < l.length := by
  rw [g.div_bcs]
  exact (Nat.div_lt_iff_lt_mul (g.bcs_pos hg)).2 ho

/-- The position in a cluster, by the sector and the position in the sector. -/
theorem FatGeometry.mod_bcs (g : FatGeometry) (o : ℕ) :
    o % g.bcs = o / 512 % g.csize * 512 + o % 512 := by
  have h := Nat.mod_mul (x := o) (a := 512) (b := g.csize)
  rw [FatGeometry.bcs, Nat.mul_comm g.csize, h]
  omega

/-- **The bytes of a cluster follow one another.** -/
theorem FatGeometry.addrOf_add (h : o % g.bcs + i < g.bcs) :
    g.addrOf l (o + i) = g.addrOf l o + i := by
  rw [g.mod_bcs, FatGeometry.bcs] at h
  have hdiv : (o + i) / 512 = o / 512 + (o % 512 + i) / 512 := by omega
  have hsect : g.sectorOf l (o / 512 + (o % 512 + i) / 512) =
      g.sectorOf l (o / 512) + (o % 512 + i) / 512 := g.sectorOf_add (by omega)
  rw [FatGeometry.addrOf, FatGeometry.addrOf, hdiv, hsect]
  omega

/-- **Different bytes have different addresses.** -/
theorem FatGeometry.addrOf_inj (hg : g.VolumeSound) (hl : ∀ c ∈ l, g.Valid c) (hnodup : l.Nodup)
    {o' : ℕ} (ho : o < l.length * g.bcs) (ho' : o' < l.length * g.bcs)
    (h : g.addrOf l o = g.addrOf l o') : o = o' := by
  have hsect : g.sectorOf l (o / 512) = g.sectorOf l (o' / 512) := by
    rw [← g.addrOf_div, ← g.addrOf_div, h]
  have hmod : o % 512 = o' % 512 := by
    rw [← g.addrOf_mod (l := l), ← g.addrOf_mod (l := l) (o := o'), h]
  have hdiv := g.sectorOf_inj hg hl hnodup (g.div_csize_lt hg ho) (g.div_csize_lt hg ho') hsect
  omega

/-- A longer chain has the same sectors at its beginning, and the same bytes. -/
theorem FatGeometry.sectorOf_append (l' : List ℕ) (hn : n / g.csize < l.length) :
    g.sectorOf (l ++ l') n = g.sectorOf l n := by
  rw [FatGeometry.sectorOf, FatGeometry.sectorOf, List.getD_eq_getElem?_getD,
    List.getElem?_append_left hn, ← List.getD_eq_getElem?_getD]

/-- Bytes do not move when the chain gets longer. -/
theorem FatGeometry.addrOf_append (hg : g.VolumeSound) (l' : List ℕ) (ho : o < l.length * g.bcs) :
    g.addrOf (l ++ l') o = g.addrOf l o := by
  rw [FatGeometry.addrOf, FatGeometry.addrOf, g.sectorOf_append l' (g.div_csize_lt hg ho)]

/-- The number of bytes is the one asked for. -/
theorem FatGeometry.length_fileBytes (V : Memory) (p n : ℕ) :
    (g.fileBytes V l p n).length = n := by
  rw [FatGeometry.fileBytes, List.length_map, List.length_range]

/-- The bytes from a position on, in two parts. -/
theorem FatGeometry.fileBytes_add (V : Memory) (p n k : ℕ) :
    g.fileBytes V l p (n + k) = g.fileBytes V l p n ++ g.fileBytes V l (p + n) k := by
  simp only [FatGeometry.fileBytes, List.range_add, List.map_append, List.map_map,
    Function.comp_def, Nat.add_assoc]

/-- Bytes in one cluster. -/
theorem FatGeometry.fileBytes_cluster (V : Memory) {p : ℕ} (h : p % g.bcs + n ≤ g.bcs) :
    (List.range n).map (fun i ↦ V (g.addrOf l p + i)) = g.fileBytes V l p n :=
  List.map_congr_left fun i hi ↦ by
    rw [g.addrOf_add (by have := List.mem_range.1 hi; omega)]

/-! ### Positions -/

/-- The sector in the cluster, as the code computes it. -/
theorem FatGeometry.csect_eq (hg : g.VolumeSound) (n : ℕ) : n &&& (g.csize - 1) = n % g.csize := by
  obtain ⟨k, hk⟩ := hg.csize_pow
  rw [hk]
  exact Nat.and_two_pow_sub_one_eq_mod n k

/-- The position before one that is not at the beginning of a block is in the same block. -/
theorem pred_div_of_mod_ne {b p : ℕ} (hpos : 0 < b) (hp : p % b ≠ 0) : (p - 1) / b = p / b := by
  have h := Nat.div_add_mod p b
  have hlt := Nat.mod_lt p hpos
  have hsplit : p - 1 = b * (p / b) + (p % b - 1) := by omega
  have hrest : p % b - 1 < b := by omega
  rw [hsplit, Nat.mul_add_div hpos, Nat.div_eq_of_lt hrest, Nat.add_zero]

/-- The position before the beginning of a block is in the block before. -/
theorem pred_div_of_mod_eq {b p : ℕ} (hb : 0 < b) (hp : p % b = 0) (hpos : 0 < p) :
    (p - 1) / b + 1 = p / b := by
  have h := Nat.div_add_mod p b
  have hq : 0 < p / b := Nat.pos_of_ne_zero fun h0 ↦ by
    rw [h0, hp] at h
    omega
  have hmul : b * (p / b) = b * (p / b - 1) + b := by
    rw [← Nat.mul_succ, Nat.succ_eq_add_one, Nat.sub_add_cancel hq]
  have hsplit : p - 1 = b * (p / b - 1) + (b - 1) := by omega
  have hrest : b - 1 < b := by omega
  rw [hsplit, Nat.mul_add_div hb, Nat.div_eq_of_lt hrest]
  omega

/-- The last of `n` positions in a block. -/
theorem last_div {b p n : ℕ} (hn : 0 < n) (h : p % b + n ≤ b) : (p + n - 1) / b = p / b := by
  have hdiv := Nat.div_add_mod p b
  have hsplit : p + n - 1 = b * (p / b) + (p % b + n - 1) := by omega
  have hrest : p % b + n - 1 < b := by omega
  rw [hsplit, Nat.mul_add_div (by omega), Nat.div_eq_of_lt hrest, Nat.add_zero]

end Addresses
