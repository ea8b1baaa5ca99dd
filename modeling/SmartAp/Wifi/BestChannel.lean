import SmartAp.Scan.Tally

/-!
# The least loaded channel

`find_best_channel` of `wifi_ap.c`. Each record of the scan adds its penalty to its own channel and
parts of it to the neighbours that exist; the first channel with the smallest score is taken. The
function leaves with a channel at random when it cannot scan.

## Scores and loads

The code adds to an array of unsigned numbers of 32 bits, with a test of the index before each
addition, and the tests differ for the two sides of a channel. `load` is what the score of a channel
should be: one sum over the records, of a weight that depends on the strength of the signal and the
distance of the channels. `total_scoreUpdates` compares the two for every channel in range,
`recordUpdates_index` says that no index is outside of the array, and `toNat_tally_scoreUpdates`
that no sum wraps, at any time of the loop; there are at most 65535 records, the largest number that
the scan can report.

## The choice

The second loop keeps the first channel with the smallest score so far (`isLeast_leastChannel`), so
the answer is the least element of the channels of least load. `findBestChannel_cases` lists the
exits of the function, and `find_best_channel_isLeast` is the result for all of them. The order of
the records does not matter (`load_perm`).
-/

/-- The configuration of the access point. -/
structure ChannelConfig where
  /-- `CONFIG_SMART_AP_MAX_CHANNELS`. -/
  maxChannels : ℕ
  maxChannels_range : 1 ≤ maxChannels ∧ maxChannels ≤ 14

/-- What the function reads of a `wifi_ap_record_t`. -/
structure ApRecord where
  primary : UInt8
  rssi : Int8

/-- What the calls of the function return. -/
structure ScanEnv where
  /-- The context exists. -/
  ctx : Bool
  /-- `esp_random`. -/
  random : UInt32
  /-- `esp_wifi_scan_start` succeeds. -/
  scanStart : Bool
  /-- `EVT_SHUTDOWN_BIT` after the wait. -/
  shutdown : Bool
  /-- `EVT_SCAN_DONE_BIT` after the wait. -/
  scanDone : Bool
  /-- `esp_wifi_scan_get_ap_num`. -/
  apNum : Option UInt16
  /-- `malloc` succeeds. -/
  malloc : Bool
  /-- `esp_wifi_scan_get_ap_records`; their number is a `uint16_t`. -/
  apRecords : Option (List ApRecord)
  length_apRecords : ∀ records ∈ apRecords, records.length ≤ 65535

/-- The penalty of a record. -/
def penalty (r : ApRecord) : ℤ :=
  let penalty := 100 + r.rssi.toInt
  if penalty < 1 then 1 else penalty

/-- The additions to `channel_score` for one record: index and amount. -/
def recordUpdates (cfg : ChannelConfig) (r : ApRecord) : List (ℤ × ℤ) :=
  let ch : ℤ := r.primary.toNat
  if ch ≥ 1 ∧ ch ≤ cfg.maxChannels then
    [(ch, penalty r)] ++
    (if ch > 1 then [(ch - 1, (penalty r).tdiv 2)] else []) ++
    (if ch < cfg.maxChannels then [(ch + 1, (penalty r).tdiv 2)] else []) ++
    (if ch > 2 then [(ch - 2, (penalty r).tdiv 4)] else []) ++
    (if ch < cfg.maxChannels - 1 then [(ch + 2, (penalty r).tdiv 4)] else [])
  else []

/-- The additions of the scoring loop. -/
def scoreUpdates (cfg : ChannelConfig) (records : List ApRecord) : List (ℤ × ℤ) :=
  records.flatMap (recordUpdates cfg)

/-- `channel_score` after the loop. -/
def channelScore (cfg : ChannelConfig) (records : List ApRecord) : ℤ → UInt32 :=
  tally (scoreUpdates cfg records)

/-- `for (int i = 1; i <= CONFIG_SMART_AP_MAX_CHANNELS; i++)`. -/
def channels (cfg : ChannelConfig) : List ℕ := List.range' 1 cfg.maxChannels

/-- The second loop: the score to beat, and the channel. -/
def leastChannel (cfg : ChannelConfig) (score : ℤ → UInt32) (best_channel : UInt8) : UInt8 :=
  (scanMin (fun i : ℕ ↦ (score i).toNat) (0xFFFFFFFF, best_channel.toNat)
    (channels cfg)).2.toUInt8

/-- **The function.** -/
def findBestChannel (cfg : ChannelConfig) (env : ScanEnv) : UInt8 :=
  if !env.ctx then 1
  else
    let best_channel := (env.random % cfg.maxChannels.toUInt32 + 1).toUInt8
    if !env.scanStart then best_channel
    else if env.shutdown then best_channel
    else if !env.scanDone then best_channel
    else
      match env.apNum with
      | none => best_channel
      | some ap_count =>
        if ap_count = 0 then best_channel
        else if !env.malloc then best_channel
        else
          match env.apRecords with
          | none => best_channel
          | some records => leastChannel cfg (channelScore cfg records) best_channel

/-! ### The load of a channel -/

/-- The weight of a record on a channel. -/
def weight (r : ApRecord) (c : ℤ) : ℤ :=
  let pen := max 1 (100 + r.rssi.toInt)
  if r.primary.toNat = c then pen
  else if (r.primary.toNat - c).natAbs = 1 then pen / 2
  else if (r.primary.toNat - c).natAbs = 2 then pen / 4
  else 0

/-- The sum of the weights of the records on channels in range. -/
def load (cfg : ChannelConfig) (records : List ApRecord) (c : ℤ) : ℤ :=
  ((records.filter fun r ↦ 1 ≤ r.primary.toNat ∧ r.primary.toNat ≤ cfg.maxChannels).map
    fun r ↦ weight r c).sum

section

variable {cfg : ChannelConfig} {r : ApRecord} {c : ℤ}

theorem penalty_eq (r : ApRecord) : penalty r = max 1 (100 + r.rssi.toInt) := by
  simp only [penalty]
  split <;> omega

theorem penalty_range (r : ApRecord) : 1 ≤ penalty r ∧ penalty r ≤ 227 := by
  have hlt := r.rssi.toInt_lt
  rw [penalty_eq]
  omega

/-- **The indexes are inside the array.** -/
theorem recordUpdates_index {u : ℤ × ℤ} (h : u ∈ recordUpdates cfg r) :
    0 ≤ u.1 ∧ u.1 ≤ cfg.maxChannels := by
  simp only [recordUpdates] at h
  split at h
  · rename_i hrange
    simp only [List.mem_append, List.mem_singleton] at h
    rcases h with (((rfl | h) | h) | h) | h
    · omega
    all_goals
      split at h
      · rw [List.mem_singleton] at h
        subst h
        dsimp only
        omega
      · cases h
  · cases h

theorem total_guarded (p : Prop) [Decidable p] (i a c : ℤ) :
    total (if p then [(i, a)] else []) c = if p ∧ i = c then a else 0 := by
  by_cases h : p
  · simp [h]
  · simp [h]

/-- The guarded additions of a record on a channel in range are its weight. -/
theorem total_recordUpdates (hc : 1 ≤ c ∧ c ≤ cfg.maxChannels) :
    total (recordUpdates cfg r) c =
      if 1 ≤ r.primary.toNat ∧ r.primary.toNat ≤ cfg.maxChannels then weight r c else 0 := by
  have hpenalty := (penalty_range r).1
  simp only [recordUpdates, weight, ← penalty_eq]
  rw [Int.tdiv_eq_ediv_of_nonneg (by omega), Int.tdiv_eq_ediv_of_nonneg (by omega)]
  generalize penalty r = pen at *
  generalize hp : (r.primary.toNat : ℤ) = p at *
  by_cases hrange : 1 ≤ r.primary.toNat ∧ r.primary.toNat ≤ cfg.maxChannels
  · have hch : p ≥ 1 ∧ p ≤ cfg.maxChannels := by omega
    -- no neighbour in range is guarded away
    have hbelow : (p > 1 ∧ p - 1 = c) ↔ p - c = 1 := by omega
    have habove : (p < cfg.maxChannels ∧ p + 1 = c) ↔ c - p = 1 := by omega
    have hbelow2 : (p > 2 ∧ p - 2 = c) ↔ p - c = 2 := by omega
    have habove2 : (p < cfg.maxChannels - 1 ∧ p + 2 = c) ↔ c - p = 2 := by omega
    rw [if_pos hrange, if_pos hch]
    simp only [total_append, total_guarded, total_cons, total_nil, hbelow, habove, hbelow2, habove2]
    split_ifs <;> omega
  · have hch : ¬ (p ≥ 1 ∧ p ≤ cfg.maxChannels) := by omega
    rw [if_neg hrange, if_neg hch, total_nil]

/-- What a record adds to any one entry is between 0 and its penalty. -/
theorem total_recordUpdates_range (cfg : ChannelConfig) (r : ApRecord) (c : ℤ) :
    0 ≤ total (recordUpdates cfg r) c ∧ total (recordUpdates cfg r) c ≤ 227 := by
  have hpenalty := penalty_range r
  simp only [recordUpdates]
  rw [Int.tdiv_eq_ediv_of_nonneg (by omega), Int.tdiv_eq_ediv_of_nonneg (by omega)]
  generalize penalty r = pen at *
  split
  · simp only [total_append, total_guarded, total_cons, total_nil]
    split_ifs <;> omega
  · rw [total_nil]
    omega

theorem recordUpdates_nonneg {u : ℤ × ℤ} (h : u ∈ recordUpdates cfg r) : 0 ≤ u.2 := by
  have hpenalty := (penalty_range r).1
  simp only [recordUpdates] at h
  rw [Int.tdiv_eq_ediv_of_nonneg (by omega), Int.tdiv_eq_ediv_of_nonneg (by omega)] at h
  split at h
  · simp only [List.mem_append, List.mem_singleton, List.mem_ite_nil_right] at h
    rcases h with (((rfl | ⟨-, rfl⟩) | ⟨-, rfl⟩) | ⟨-, rfl⟩) | ⟨-, rfl⟩
    all_goals
      dsimp only
      omega
  · cases h

/-! ### The scores -/

variable {records : List ApRecord}

/-- **The additions of the loop sum to the load.** -/
theorem total_scoreUpdates (hc : 1 ≤ c ∧ c ≤ cfg.maxChannels) :
    total (scoreUpdates cfg records) c = load cfg records c := by
  induction records with
  | nil => rfl
  | cons r records ih =>
    rw [scoreUpdates, List.flatMap_cons, total_append, total_recordUpdates hc, load,
      List.filter_cons]
    by_cases hrange : 1 ≤ r.primary.toNat ∧ r.primary.toNat ≤ cfg.maxChannels
    · rw [if_pos hrange, if_pos (decide_eq_true hrange), List.map_cons, List.sum_cons]
      exact congrArg (weight r c + ·) ih
    · rw [if_neg hrange, if_neg (by simpa using hrange), Int.zero_add]
      exact ih

theorem total_scoreUpdates_le (cfg : ChannelConfig) (records : List ApRecord) (c : ℤ) :
    total (scoreUpdates cfg records) c ≤ 227 * records.length := by
  induction records with
  | nil => exact le_rfl
  | cons r records ih =>
    have hrecord := (total_recordUpdates_range cfg r c).2
    rw [scoreUpdates, List.flatMap_cons, total_append, List.length_cons]
    rw [scoreUpdates] at ih
    push_cast
    omega

/-- **No sum wraps**, at any time of the loop. -/
theorem toNat_tally_scoreUpdates (hlength : records.length ≤ 65535) {us : List (ℤ × ℤ)}
    (hus : us <+: scoreUpdates cfg records) (c : ℤ) :
    ((tally us c).toNat : ℤ) = total us c ∧ total us c < 0xFFFFFFFF := by
  have hnonneg : ∀ u ∈ scoreUpdates cfg records, 0 ≤ u.2 := by
    intro u hu
    obtain ⟨r, -, hr⟩ := List.mem_flatMap.1 hu
    exact recordUpdates_nonneg hr
  have hbetween := total_le_of_prefix hnonneg hus c
  have hle := total_scoreUpdates_le cfg records c
  exact ⟨toNat_tally hbetween.1 (by omega), by omega⟩

/-! ### The channel -/

theorem mem_channels {i : ℕ} : i ∈ channels cfg ↔ 1 ≤ i ∧ i ≤ cfg.maxChannels := by
  rw [channels, List.mem_range'_1]
  omega

/-- A channel survives the cast to `uint8_t`. -/
theorem toNat_toUInt8 {i : ℕ} (h : i ≤ cfg.maxChannels) : i.toUInt8.toNat = i := by
  have hmax := cfg.maxChannels_range.2
  exact UInt8.toNat_ofNat_of_lt' (show i < 256 by omega)

/-- The second loop takes the first channel with the smallest score. -/
theorem isLeast_leastChannel {score : ℤ → UInt32} (best_channel : UInt8)
    (hscore : (score 1).toNat < 0xFFFFFFFF) :
    IsLeast {c | (1 ≤ c ∧ c ≤ cfg.maxChannels) ∧ ∀ c', 1 ≤ c' ∧ c' ≤ cfg.maxChannels →
      (score c).toNat ≤ (score c').toNat} (leastChannel cfg score best_channel).toNat := by
  have hsorted : (channels cfg).Pairwise (· < ·) := List.pairwise_lt_range'
  have hbelow : ∃ i ∈ channels cfg, (score (i : ℕ)).toNat < 0xFFFFFFFF :=
    ⟨1, mem_channels.2 ⟨le_rfl, cfg.maxChannels_range.1⟩, hscore⟩
  obtain ⟨⟨hmem, hmin⟩, hfirst⟩ :=
    isLeast_scanMin (fun i : ℕ ↦ (score i).toNat) (0xFFFFFFFF, best_channel.toNat) hsorted hbelow
  rw [leastChannel, toNat_toUInt8 (mem_channels.1 hmem).2]
  exact ⟨⟨mem_channels.1 hmem, fun c' hc' ↦ hmin c' (mem_channels.2 hc')⟩, fun c hc ↦
    hfirst ⟨mem_channels.2 hc.1, fun j hj ↦ hc.2 j (mem_channels.1 hj)⟩⟩

/-- The channel at random is in range. -/
theorem random_range (cfg : ChannelConfig) (random : UInt32) :
    1 ≤ (random % cfg.maxChannels.toUInt32 + 1).toUInt8.toNat ∧
      (random % cfg.maxChannels.toUInt32 + 1).toUInt8.toNat ≤ cfg.maxChannels := by
  obtain ⟨hpos, hmax⟩ := cfg.maxChannels_range
  have hM : cfg.maxChannels.toUInt32.toNat = cfg.maxChannels :=
    UInt32.toNat_ofNat_of_lt' (show cfg.maxChannels < 4294967296 by omega)
  have hmod : random.toNat % cfg.maxChannels < cfg.maxChannels := Nat.mod_lt _ hpos
  rw [UInt32.toNat_toUInt8, UInt32.toNat_add, UInt32.toNat_mod, hM]
  have hone : (1 : UInt32).toNat = 1 := rfl
  rw [hone]
  omega

end

/-- The function gets as far as the scores, with these records. -/
structure ScanEnv.Scored (env : ScanEnv) (records : List ApRecord) : Prop where
  ctx : env.ctx = true
  scanStart : env.scanStart = true
  shutdown : env.shutdown = false
  scanDone : env.scanDone = true
  apNum : ∃ ap_count, env.apNum = some ap_count ∧ ap_count ≠ 0
  malloc : env.malloc = true
  apRecords : env.apRecords = some records

section

variable {cfg : ChannelConfig} {env : ScanEnv} {records : List ApRecord}

/-- From the scores on. -/
theorem findBestChannel_of_scored (h : env.Scored records) :
    findBestChannel cfg env = leastChannel cfg (channelScore cfg records)
      (env.random % cfg.maxChannels.toUInt32 + 1).toUInt8 := by
  obtain ⟨ap_count, hnum, hne⟩ := h.apNum
  simp only [findBestChannel, h.ctx, h.scanStart, h.shutdown, h.scanDone, hnum, hne, h.malloc,
    h.apRecords, Bool.not_true, Bool.false_eq_true, if_false]

/-- Every exit: 1 without a context, the scores, or the channel at random. -/
theorem findBestChannel_cases (cfg : ChannelConfig) (env : ScanEnv) :
    findBestChannel cfg env = 1 ∨ (∃ records, env.Scored records) ∨
      findBestChannel cfg env = (env.random % cfg.maxChannels.toUInt32 + 1).toUInt8 := by
  cases hnum : env.apNum with
  | none =>
    simp only [findBestChannel, hnum]
    split_ifs <;> simp
  | some ap_count =>
    cases hrecords : env.apRecords with
    | none =>
      simp only [findBestChannel, hnum, hrecords]
      split_ifs <;> simp
    | some records =>
      simp only [findBestChannel, hnum, hrecords]
      split_ifs with hctx hstart hshutdown hdone hcount hmalloc
      · exact .inl rfl
      · exact .inr (.inr rfl)
      · exact .inr (.inr rfl)
      · exact .inr (.inr rfl)
      · exact .inr (.inr rfl)
      · exact .inr (.inr rfl)
      · exact .inr (.inl ⟨records, by simpa using hctx, by simpa using hstart,
          by simpa using hshutdown, by simpa using hdone, ⟨ap_count, hnum, hcount⟩,
          by simpa using hmalloc, hrecords⟩)

/-- A sum over the records does not depend on their order. -/
theorem load_perm {records' : List ApRecord} (h : records.Perm records') (c : ℤ) :
    load cfg records c = load cfg records' c :=
  ((h.filter _).map _).sum_eq

/-- The channels with the least load. -/
def LeastLoaded (cfg : ChannelConfig) (records : List ApRecord) : Set ℕ :=
  {c | (1 ≤ c ∧ c ≤ cfg.maxChannels) ∧ ∀ c' : ℕ, 1 ≤ c' ∧ c' ≤ cfg.maxChannels →
    load cfg records c ≤ load cfg records c'}

/-- The smallest scores are the smallest loads. -/
theorem isLeast_findBestChannel (h : env.Scored records) :
    IsLeast (LeastLoaded cfg records) (findBestChannel cfg env).toNat := by
  have hlength := env.length_apRecords records h.apRecords
  have hscore : ∀ c : ℕ, 1 ≤ c ∧ c ≤ cfg.maxChannels →
      ((channelScore cfg records c).toNat : ℤ) = load cfg records c := by
    intro c hc
    rw [channelScore, (toNat_tally_scoreUpdates hlength List.prefix_rfl c).1]
    exact total_scoreUpdates (by omega)
  have hone : (channelScore cfg records 1).toNat < 0xFFFFFFFF := by
    have hfits := toNat_tally_scoreUpdates hlength
      (List.prefix_rfl (l := scoreUpdates cfg records)) 1
    rw [channelScore]
    omega
  have hsame : LeastLoaded cfg records = {c | (1 ≤ c ∧ c ≤ cfg.maxChannels) ∧ ∀ c' : ℕ,
      1 ≤ c' ∧ c' ≤ cfg.maxChannels →
        (channelScore cfg records c).toNat ≤ (channelScore cfg records c').toNat} := by
    refine Set.ext fun c ↦ and_congr_right fun hc ↦ forall_congr' fun c' ↦
      imp_congr_right fun hc' ↦ ?_
    rw [← hscore c hc, ← hscore c' hc', Nat.cast_le]
  rw [findBestChannel_of_scored h, hsame]
  exact isLeast_leastChannel _ hone

/-- **The best channel is the least loaded one.** With scores it is the first channel with the least
load, no sum wraps at any time, every index is inside the array and the order of the records does
not matter; and on every exit the channel is in range. -/
theorem find_best_channel_isLeast (cfg : ChannelConfig) (env : ScanEnv) :
    (∀ records, env.Scored records →
      IsLeast (LeastLoaded cfg records) (findBestChannel cfg env).toNat ∧
        (∀ us c, us <+: scoreUpdates cfg records → ((tally us c).toNat : ℤ) = total us c) ∧
        (∀ u ∈ scoreUpdates cfg records, 0 ≤ u.1 ∧ u.1 ≤ cfg.maxChannels) ∧
        ∀ (env' : ScanEnv) (records' : List ApRecord), env'.Scored records' →
          records.Perm records' → findBestChannel cfg env' = findBestChannel cfg env) ∧
      1 ≤ (findBestChannel cfg env).toNat ∧ (findBestChannel cfg env).toNat ≤ cfg.maxChannels := by
  refine ⟨fun records h ↦ ⟨isLeast_findBestChannel h, fun us c hus ↦ ?_, fun u hu ↦ ?_,
    fun env' records' h' hperm ↦ ?_⟩, ?_⟩
  · exact (toNat_tally_scoreUpdates (env.length_apRecords records h.apRecords) hus c).1
  · obtain ⟨r, -, hr⟩ := List.mem_flatMap.1 hu
    exact recordUpdates_index hr
  · have hsame : LeastLoaded cfg records' = LeastLoaded cfg records := by
      refine Set.ext fun c ↦ and_congr_right fun _ ↦ forall_congr' fun c' ↦
        imp_congr_right fun _ ↦ ?_
      rw [load_perm hperm c, load_perm hperm c']
    have hleast : IsLeast (LeastLoaded cfg records') (findBestChannel cfg env').toNat :=
      isLeast_findBestChannel h'
    rw [hsame] at hleast
    exact UInt8.toNat_inj.1 (hleast.unique (isLeast_findBestChannel h))
  · rcases findBestChannel_cases cfg env with hone | ⟨records, h⟩ | hrandom
    · rw [hone]
      exact ⟨le_rfl, cfg.maxChannels_range.1⟩
    · exact (isLeast_findBestChannel h).1.1
    · rw [hrandom]
      exact random_range cfg env.random

end

/-- A scan that finds two access points on channel 1 and one on channel 6. -/
def threeAps : ScanEnv where
  ctx := true
  random := 12345
  scanStart := true
  shutdown := false
  scanDone := true
  apNum := some 3
  malloc := true
  apRecords := some [⟨1, -40⟩, ⟨6, -70⟩, ⟨1, -90⟩]
  length_apRecords := fun records h ↦ by
    cases h
    decide

/-- Channel 9 is the first of eleven that none of them reaches. -/
theorem find_best_channel_isLeast_threeAps :
    findBestChannel ⟨11, by decide⟩ threeAps = 9 ∧
      IsLeast (LeastLoaded ⟨11, by decide⟩ [⟨1, -40⟩, ⟨6, -70⟩, ⟨1, -90⟩]) 9 := by
  have hbest : findBestChannel ⟨11, by decide⟩ threeAps = 9 := by decide +kernel
  have hscored : threeAps.Scored [⟨1, -40⟩, ⟨6, -70⟩, ⟨1, -90⟩] :=
    ⟨rfl, rfl, rfl, rfl, ⟨3, rfl, by decide⟩, rfl, rfl⟩
  have hleast := ((find_best_channel_isLeast ⟨11, by decide⟩ threeAps).1 _ hscored).1
  rw [hbest] at hleast
  exact ⟨hbest, hleast⟩
