import SmartAp.Program.Fuel
import Mathlib.Data.List.Chain
import Mathlib.Order.Monotone.Defs
import Mathlib.Algebra.Order.Ring.Nat

/-!
# Loops with a deadline

A loop makes attempts until one succeeds or its deadline has passed (`pollLoop`). The deadline is
tested on a counter of `w` bits that wraps around: the difference of two readings is compared with
the timeout. The true time at each reading is a function of the number of the reading, and nothing
reads it but the counter.

## Why such a loop ends

The difference is the true time modulo `2 ^ w`, so that it could jump over the values from the
timeout up and begin again. It does not if the time between two tests of one loop is less than half
the range (`Steady`) and the timeout is in the lower half: then the difference grows as the time
does until it has reached the timeout (`toNat_later`). With a time that does not stand still
(`Paced`) this bounds the number of attempts (`Ends.pollLoop`). Loops may be nested, an attempt of
one being a run of others; which loop a test belongs to is noted in a log that no program reads.
-/

/-! ### The clock -/

/-- Time does not go back, and advances in every run of `k` readings. -/
structure Paced (time : ℕ → ℕ) (k : ℕ) : Prop where
  mono : Monotone time
  advances : ∀ n, time n < time (n + k)

theorem Paced.add_le {time : ℕ → ℕ} {k : ℕ} (h : Paced time k) (n j : ℕ) :
    time n + j ≤ time (n + k * j) := by
  induction j with
  | zero => exact le_refl _
  | succ j ih =>
    have hnext := h.advances (n + k * j)
    rw [Nat.mul_succ, ← Nat.add_assoc n]
    omega

section Counter

variable {w : ℕ}

/-- The difference of two readings is at most the time between them. -/
theorem toNat_ofNat_sub_le {t t' : ℕ} (h : t ≤ t') :
    (BitVec.ofNat w t' - BitVec.ofNat w t).toNat ≤ t' - t := by
  obtain ⟨d, rfl⟩ := Nat.exists_eq_add_of_le h
  have hsub : BitVec.ofNat w (t + d) - BitVec.ofNat w t = BitVec.ofNat w d := by
    rw [BitVec.ofNat_add, BitVec.add_comm, BitVec.add_sub_cancel]
  rw [hsub, BitVec.toNat_ofNat, Nat.add_sub_cancel_left]
  exact Nat.mod_le _ _

/-- Below half the range a difference grows as the time does. -/
theorem toNat_later {t0 : BitVec w} {t t' half : ℕ} (hhalf : 2 ^ w = half + half) (h : t ≤ t')
    (hbelow : (BitVec.ofNat w t - t0).toNat < half) (hnear : t' < t + half) :
    (BitVec.ofNat w t' - t0).toNat = (BitVec.ofNat w t - t0).toNat + (t' - t) := by
  obtain ⟨d, rfl⟩ := Nat.exists_eq_add_of_le h
  have hd : d < half := by omega
  have hadd : BitVec.ofNat w (t + d) - t0 = (BitVec.ofNat w t - t0) + BitVec.ofNat w d := by
    rw [BitVec.ofNat_add, BitVec.sub_eq_add_neg, BitVec.sub_eq_add_neg, BitVec.add_assoc,
      BitVec.add_assoc, BitVec.add_comm (BitVec.ofNat w d)]
  rw [hadd, BitVec.toNat_add, BitVec.toNat_ofNat, Nat.mod_eq_of_lt (by omega : d < 2 ^ w),
    Nat.mod_eq_of_lt (by omega), Nat.add_sub_cancel_left]

end Counter

/-! ### Programs with a clock -/

/-- What is noted of the loops. -/
inductive LoopEvent (ι : Type)
  | enter (loop : ι)
  /-- The deadline of a loop is tested with this reading. -/
  | test (loop : ι) (reading : ℕ)
  deriving DecidableEq

def LoopEvent.loop {ι : Type} : LoopEvent ι → ι
  | .enter loop => loop
  | .test loop _ => loop

/-- A state beside a clock. -/
structure Timed (ι σ : Type) where
  inner : σ
  /-- How often the counter has been read. -/
  readings : ℕ
  log : List (LoopEvent ι)

section Programs

variable {ι σ α β : Type} (time : ℕ → ℕ) (w : ℕ)

/-- A program that does not look at the clock. -/
def untimed (m : StateM σ α) : FuelM (Timed ι σ) α := fun s ↦
  (some (m s.inner).1, { s with inner := (m s.inner).2 })

/-- The counter is read. -/
def readTicks : FuelM (Timed ι σ) (BitVec w) := fun s ↦
  (some (BitVec.ofNat w (time s.readings)), { s with readings := s.readings + 1 })

/-- A loop begins. -/
def enterLoop (loop : ι) : FuelM (Timed ι σ) PUnit := fun s ↦
  (some ⟨⟩, { s with log := s.log ++ [.enter loop] })

/-- The state after a test of the deadline. -/
def Timed.tested (s : Timed ι σ) (loop : ι) : Timed ι σ :=
  ⟨s.inner, s.readings + 1, s.log ++ [.test loop s.readings]⟩

variable {w}

/-- The counter is read, and the deadline has passed. -/
def expired (loop : ι) (t0 timeout : BitVec w) : FuelM (Timed ι σ) Bool := fun s ↦
  (some (decide (timeout ≤ BitVec.ofNat w (time s.readings) - t0)), s.tested loop)

/-- **The loop.** The deadline is tested after an attempt that failed and what is to be done
`before`; what is to be done `after` precedes the next attempt. -/
def pollLoop (loop : ι) (t0 timeout : BitVec w) (attempt : FuelM (Timed ι σ) (Option α))
    (before after : FuelM (Timed ι σ) PUnit) : ℕ → FuelM (Timed ι σ) (Option α)
  | 0 => failure
  | fuel + 1 => do
    match ← attempt with
    | some a => return some a
    | none =>
      before
      if ← expired time loop t0 timeout then return none
      after
      pollLoop loop t0 timeout attempt before after fuel

end Programs

/-! ### Steady runs -/

section Logs

variable {ι σ : Type}

/-- **A program only adds to the log**, and only what belongs to loops of its own. -/
structure Grows (own : ι → Prop) (s s' : Timed ι σ) : Prop where
  readings : s.readings ≤ s'.readings
  log : ∃ new, s'.log = s.log ++ new ∧ ∀ e ∈ new, own e.loop

variable {own own' : ι → Prop} {s s' s'' : Timed ι σ}

theorem Grows.refl (s : Timed ι σ) : Grows own s s := ⟨le_refl _, [], by simp, nofun⟩

theorem Grows.trans (h : Grows own s s') (h' : Grows own s' s'') : Grows own s s'' := by
  obtain ⟨new, hnew, hown⟩ := h.log
  obtain ⟨new', hnew', hown'⟩ := h'.log
  refine ⟨h.readings.trans h'.readings, new ++ new', ?_, fun e he ↦ ?_⟩
  · rw [hnew', hnew, List.append_assoc]
  · exact (List.mem_append.1 he).elim (hown e) (hown' e)

theorem Grows.mono (h : Grows own s s') (hown : ∀ loop, own loop → own' loop) :
    Grows own' s s' := by
  obtain ⟨new, hnew, hall⟩ := h.log
  exact ⟨h.readings, new, hnew, fun e he ↦ hown _ (hall e he)⟩

theorem Timed.grows_tested (s : Timed ι σ) (loop : ι) : Grows (· = loop) s (s.tested loop) :=
  ⟨Nat.le_succ _, _, rfl, fun e he ↦ by rw [List.mem_singleton.1 he]; rfl⟩

/-- What comes first may have given up. -/
theorem grows_bind {α β : Type} {m : FuelM (Timed ι σ) α} {f : α → FuelM (Timed ι σ) β}
    (hm : ∀ s, Grows own s (m s).2) (hf : ∀ a s, Grows own s (f a s).2) (s : Timed ι σ) :
    Grows own s ((m >>= f) s).2 := by
  cases ha : (m s).1 with
  | none =>
    rw [FuelM.bind_of_none ha]
    exact hm s
  | some a =>
    rw [FuelM.bind_of_some ha]
    exact (hm s).trans (hf a _)

variable [DecidableEq ι]

/-- What is noted of one loop. -/
def ofLoop (loop : ι) (log : List (LoopEvent ι)) : List (LoopEvent ι) :=
  log.filter (·.loop = loop)

/-- Of two tests of a loop that follow each other, the second one is less than half the range of
the counter later. -/
def SoonAfter (time : ℕ → ℕ) (half : ℕ) : LoopEvent ι → LoopEvent ι → Prop
  | .test _ p, .test _ q => time q < time p + half
  | _, _ => True

/-- **Every loop tests its deadline often enough.** -/
def Steady (time : ℕ → ℕ) (half : ℕ) (log : List (LoopEvent ι)) : Prop :=
  ∀ loop, (ofLoop loop log).IsChain (SoonAfter time half)

variable {time : ℕ → ℕ} {half : ℕ}

theorem Steady.of_append {log new : List (LoopEvent ι)} (h : Steady time half (log ++ new)) :
    Steady time half log := fun loop ↦ by
  have hloop := h loop
  rw [ofLoop, List.filter_append] at hloop
  exact (List.isChain_append.1 hloop).1

/-- Two tests of a loop with nothing of it in between. -/
theorem Steady.near {log log' : List (LoopEvent ι)} {loop : ι} {p q : ℕ}
    (h : Steady time half log') (hnew : ofLoop loop log' = ofLoop loop log ++ [.test loop q])
    (hlast : (ofLoop loop log).getLast? = some (.test loop p)) : time q < time p + half := by
  have hloop := h loop
  rw [hnew] at hloop
  exact (List.isChain_append.1 hloop).2.2 _ hlast _ rfl

theorem Grows.steady (h : Grows own s s') (hsteady : Steady time half s'.log) :
    Steady time half s.log := by
  obtain ⟨new, hnew, -⟩ := h.log
  rw [hnew] at hsteady
  exact hsteady.of_append

/-- What belongs to other loops does not come between. -/
theorem Grows.ofLoop_eq {loop : ι} (h : Grows own s s') (hother : ¬ own loop) :
    ofLoop loop s'.log = ofLoop loop s.log := by
  obtain ⟨new, hnew, hown⟩ := h.log
  have hnone : ofLoop loop new = [] := by
    refine List.filter_eq_nil_iff.2 fun e he hloop ↦ hother ?_
    rw [← of_decide_eq_true hloop]
    exact hown e he
  rw [hnew, ofLoop, List.filter_append]
  show ofLoop loop s.log ++ ofLoop loop new = _
  rw [hnone, List.append_nil]

end Logs

/-! ### Programs that end -/

/-- **A program that ends** when its run is steady. -/
structure Ends {ι σ α : Type} [DecidableEq ι] (time : ℕ → ℕ) (half : ℕ) (own : ι → Prop)
    (m : FuelM (Timed ι σ) α) : Prop where
  grows : ∀ s, Grows own s (m s).2
  returns : ∀ s, Steady time half (m s).2.log → ∃ a, (m s).1 = some a

section Rules

variable {ι σ α β : Type} [DecidableEq ι] {time : ℕ → ℕ} {half w : ℕ} {own own' : ι → Prop}

theorem Ends.pure (a : α) : Ends time half own (pure a : FuelM (Timed ι σ) α) :=
  ⟨fun s ↦ .refl s, fun _ _ ↦ ⟨a, rfl⟩⟩

/-- In a steady run what comes first has returned. -/
theorem Ends.exists_of_bind {m : FuelM (Timed ι σ) α} {f : α → FuelM (Timed ι σ) β}
    (hm : Ends time half own m) {s : Timed ι σ}
    (hsteady : Steady time half ((m >>= f) s).2.log) :
    ∃ a, (m s).1 = some a ∧ (m >>= f) s = f a (m s).2 := by
  cases ha : (m s).1 with
  | none =>
    rw [FuelM.bind_of_none ha] at hsteady
    obtain ⟨a, ha'⟩ := hm.returns s hsteady
    rw [ha] at ha'
    cases ha'
  | some a => exact ⟨a, rfl, FuelM.bind_of_some ha⟩

theorem Ends.bind {m : FuelM (Timed ι σ) α} {f : α → FuelM (Timed ι σ) β}
    (hm : Ends time half own m) (hf : ∀ a, Ends time half own (f a)) :
    Ends time half own (m >>= f) := by
  refine ⟨grows_bind hm.grows fun a ↦ (hf a).grows, fun s hsteady ↦ ?_⟩
  obtain ⟨a, -, hrun⟩ := hm.exists_of_bind hsteady
  rw [hrun] at hsteady ⊢
  exact (hf a).returns _ hsteady

theorem Ends.ite {c : Prop} [Decidable c] {m n : FuelM (Timed ι σ) α}
    (hm : Ends time half own m) (hn : Ends time half own n) :
    Ends time half own (if c then m else n) := by
  split
  · exact hm
  · exact hn

theorem Ends.mono {m : FuelM (Timed ι σ) α} (h : Ends time half own m)
    (hown : ∀ loop, own loop → own' loop) : Ends time half own' m :=
  ⟨fun s ↦ (h.grows s).mono hown, h.returns⟩

theorem Ends.untimed (m : StateM σ α) :
    Ends time half own (untimed m : FuelM (Timed ι σ) α) :=
  ⟨fun _ ↦ ⟨le_refl _, [], (List.append_nil _).symm, nofun⟩, fun _ _ ↦ ⟨_, rfl⟩⟩

theorem Ends.readTicks : Ends time half own (readTicks time w : FuelM (Timed ι σ) (BitVec w)) :=
  ⟨fun _ ↦ ⟨Nat.le_succ _, [], (List.append_nil _).symm, nofun⟩, fun _ _ ↦ ⟨_, rfl⟩⟩

theorem Ends.enterLoop {loop : ι} (hown : own loop) :
    Ends time half own (enterLoop loop : FuelM (Timed ι σ) PUnit) := by
  refine ⟨fun s ↦ ⟨le_refl _, [.enter loop], rfl, fun e he ↦ ?_⟩, fun _ _ ↦ ⟨_, rfl⟩⟩
  rw [List.mem_singleton.1 he]
  exact hown

end Rules

/-! ### The loop ends -/

section Loop

variable {ι σ α : Type} [DecidableEq ι] {time : ℕ → ℕ} {half w k : ℕ} {own : ι → Prop} {loop : ι}
  {t0 timeout : BitVec w} {attempt : FuelM (Timed ι σ) (Option α)}
  {before after : FuelM (Timed ι σ) PUnit} {fuel : ℕ} {s : Timed ι σ}

theorem grows_pollLoop (hattempt : Ends time half own attempt) (hbefore : Ends time half own before)
    (hafter : Ends time half own after) (fuel : ℕ) (s : Timed ι σ) :
    Grows (fun i ↦ own i ∨ i = loop) s
      (pollLoop time loop t0 timeout attempt before after fuel s).2 := by
  induction fuel generalizing s with
  | zero => exact .refl s
  | succ fuel ih =>
    refine grows_bind (fun s ↦ (hattempt.grows s).mono fun _ ↦ .inl) (fun r s ↦ ?_) s
    cases r with
    | some a => exact .refl s
    | none =>
      refine grows_bind (fun s ↦ (hbefore.grows s).mono fun _ ↦ .inl) (fun _ s ↦ ?_) s
      refine grows_bind (fun s ↦ (s.grows_tested loop).mono fun _ ↦ .inr) (fun e s ↦ ?_) s
      cases e with
      | true => exact .refl s
      | false =>
        exact grows_bind (fun s ↦ (hafter.grows s).mono fun _ ↦ .inl) (fun _ s ↦ ih s) s

/-- **One round**: the loop returns, or it goes on after a test at which the deadline has not
passed. -/
theorem pollLoop_round (hattempt : Ends time half own attempt) (hbefore : Ends time half own before)
    (hafter : Ends time half own after) (hother : ¬ own loop)
    (hsteady : Steady time half
      (pollLoop time loop t0 timeout attempt before after (fuel + 1) s).2.log) :
    (∃ r, (pollLoop time loop t0 timeout attempt before after (fuel + 1) s).1 = some r) ∨
      ∃ s' q, pollLoop time loop t0 timeout attempt before after (fuel + 1) s =
          pollLoop time loop t0 timeout attempt before after fuel s' ∧
        s.readings ≤ q ∧ q < s'.readings ∧
        ofLoop loop s'.log = ofLoop loop s.log ++ [.test loop q] ∧
        BitVec.ofNat w (time q) - t0 < timeout := by
  obtain ⟨r, -, hrun⟩ := hattempt.exists_of_bind hsteady
  have hattempted := hattempt.grows s
  generalize (attempt s).2 = s₁ at hrun hattempted
  rw [pollLoop, hrun] at hsteady ⊢
  cases r with
  | some a => exact .inl ⟨some a, rfl⟩
  | none =>
    obtain ⟨_, -, hrun'⟩ := hbefore.exists_of_bind hsteady
    have hbefored := hattempted.trans (hbefore.grows s₁)
    generalize (before s₁).2 = s₂ at hrun' hbefored
    dsimp only at hsteady ⊢
    rw [hrun'] at hsteady ⊢
    have htest : ((expired time loop t0 timeout : FuelM (Timed ι σ) Bool) s₂).1 =
        some (decide (timeout ≤ BitVec.ofNat w (time s₂.readings) - t0)) := rfl
    rw [FuelM.bind_of_some htest] at hsteady ⊢
    by_cases hpassed : timeout ≤ BitVec.ofNat w (time s₂.readings) - t0
    · rw [decide_eq_true hpassed]
      exact .inl ⟨none, rfl⟩
    · rw [decide_eq_false hpassed] at hsteady ⊢
      obtain ⟨_, -, hrun''⟩ := hafter.exists_of_bind hsteady
      have hafterd := hafter.grows (s₂.tested loop)
      refine .inr ⟨_, s₂.readings, hrun'', hbefored.readings, hafterd.readings, ?_,
        BitVec.not_le.1 hpassed⟩
      refine (hafterd.ofLoop_eq hother).trans ?_
      rw [← hbefored.ofLoop_eq hother, ofLoop, Timed.tested, List.filter_append]
      simp [ofLoop, LoopEvent.loop]

/-- After a test the loop ends. The readings since `base` bound what is left of the timeout. -/
theorem pollLoop_returns (hpaced : Paced time k) (hhalf : 2 ^ w = half + half)
    (htimeout : timeout.toNat < half) (hattempt : Ends time half own attempt)
    (hbefore : Ends time half own before) (hafter : Ends time half own after) (hother : ¬ own loop)
    {base p : ℕ} (hlast : (ofLoop loop s.log).getLast? = some (.test loop p))
    (hp : p < s.readings) (hbase : base ≤ p) (hopen : BitVec.ofNat w (time p) - t0 < timeout)
    (hbehind : time p ≤ (BitVec.ofNat w (time p) - t0).toNat + time base)
    (hfuel : k * timeout.toNat ≤ p - base + fuel)
    (hsteady : Steady time half
      (pollLoop time loop t0 timeout attempt before after fuel s).2.log) :
    ∃ r, (pollLoop time loop t0 timeout attempt before after fuel s).1 = some r := by
  have hopen' : (BitVec.ofNat w (time p) - t0).toNat < timeout.toNat := hopen
  induction fuel generalizing s p with
  | zero =>
    -- so many readings take as long as the timeout
    have hlong := hpaced.add_le base timeout.toNat
    have hreach : time (base + k * timeout.toNat) ≤ time p := hpaced.mono (by omega)
    omega
  | succ fuel ih =>
    rcases pollLoop_round hattempt hbefore hafter hother hsteady with hdone |
      ⟨s', q, hrun, hle, hlt, hlog, hstill⟩
    · exact hdone
    · rw [hrun] at hsteady ⊢
      have hsteady' : Steady time half s'.log :=
        (grows_pollLoop hattempt hbefore hafter fuel s').steady hsteady
      have hpq : time p ≤ time q := hpaced.mono (by omega)
      have hlater := toNat_later hhalf hpq (hopen'.trans htimeout) (hsteady'.near hlog hlast)
      refine ih ?_ hlt (by omega) hstill (by omega) (by omega) hsteady hstill
      rw [hlog, List.getLast?_concat]

/-- **A loop with a deadline ends**, with fuel for as many attempts as the timeout has room for. -/
theorem Ends.pollLoop (hpaced : Paced time k) (hhalf : 2 ^ w = half + half)
    (htimeout : timeout.toNat < half) (hattempt : Ends time half own attempt)
    (hbefore : Ends time half own before) (hafter : Ends time half own after) (hother : ¬ own loop)
    (hfuel : k * timeout.toNat < fuel) :
    Ends time half (fun i ↦ own i ∨ i = loop)
      (pollLoop time loop t0 timeout attempt before after fuel) := by
  refine ⟨grows_pollLoop hattempt hbefore hafter fuel, fun s hsteady ↦ ?_⟩
  obtain ⟨fuel, rfl⟩ := Nat.exists_eq_add_one_of_ne_zero (Nat.ne_of_gt (Nat.zero_lt_of_lt hfuel))
  rcases pollLoop_round hattempt hbefore hafter hother hsteady with hdone |
    ⟨s', q, hrun, -, hlt, hlog, hstill⟩
  · exact hdone
  · rw [hrun] at hsteady ⊢
    refine pollLoop_returns hpaced hhalf htimeout hattempt hbefore hafter hother ?_ hlt (le_refl q)
      hstill (Nat.le_add_left _ _) (by omega) hsteady
    rw [hlog, List.getLast?_concat]

end Loop

/-! ### What a program yields -/

section Yields

variable {ι σ α : Type} {time : ℕ → ℕ} {w : ℕ} {loop : ι} {t0 timeout : BitVec w} {fuel : ℕ}
  {P R S : Timed ι σ → Prop}

theorem Yields.untimed {m : StateM σ α} {Q : α → Timed ι σ → Prop}
    (h : ∀ s, P s → Q (m s.inner).1 { s with inner := (m s.inner).2 }) :
    Yields P (untimed m) Q := by
  intro s hs a ha
  rw [← Option.some_inj.1 ha]
  exact h s hs

theorem Yields.readTicks {Q : BitVec w → Timed ι σ → Prop}
    (h : ∀ s, P s → Q (BitVec.ofNat w (time s.readings)) { s with readings := s.readings + 1 }) :
    Yields P (readTicks time w) Q := by
  intro s hs t ht
  rw [← Option.some_inj.1 ht]
  exact h s hs

theorem Yields.enterLoop {Q : PUnit → Timed ι σ → Prop}
    (h : ∀ s, P s → Q ⟨⟩ { s with log := s.log ++ [.enter loop] }) :
    Yields P (enterLoop loop) Q :=
  fun s hs _ _ ↦ h s hs

theorem Yields.expired {Q : Bool → Timed ι σ → Prop}
    (h : ∀ s, P s → Q (decide (timeout ≤ BitVec.ofNat w (time s.readings) - t0)) (s.tested loop)) :
    Yields P (expired time loop t0 timeout) Q := by
  intro s hs e he
  rw [← Option.some_inj.1 he]
  exact h s hs

/-- **The invariant of a loop**: `P` before an attempt, `R` after one that has failed, `S` after a
test at which the deadline has not passed. -/
theorem Yields.pollLoop {attempt : FuelM (Timed ι σ) (Option α)}
    {before after : FuelM (Timed ι σ) PUnit} {Q : Option α → Timed ι σ → Prop}
    (hattempt : Yields P attempt fun r s ↦ if r.isSome then Q r s else R s)
    (hbefore : Yields R before fun _ ↦ R)
    (hpassed : ∀ s, R s → timeout ≤ BitVec.ofNat w (time s.readings) - t0 → Q none (s.tested loop))
    (hopen : ∀ s, R s → S (s.tested loop)) (hafter : Yields S after fun _ ↦ P) :
    Yields P (pollLoop time loop t0 timeout attempt before after fuel) Q := by
  induction fuel with
  | zero => exact .failure
  | succ fuel ih =>
    refine .bind hattempt fun r ↦ ?_
    cases r with
    | some a => exact .pure fun s hs ↦ hs
    | none =>
      refine .bind (hbefore.weaken (fun s hs ↦ hs) fun _ _ ↦ id) fun _ ↦ .bind (.expired
        (Q := fun e s ↦ if e then Q none s else S s) fun s hs ↦ ?_) fun e ↦
          .ite (fun he ↦ .pure fun s hs ↦ ?_) fun he ↦ ?_
      · split
        · rename_i hpass
          exact hpassed s hs (of_decide_eq_true hpass)
        · exact hopen s hs
      · simpa [he] using hs
      · exact .bind (hafter.weaken (fun s hs ↦ by simpa [he] using hs) fun _ _ ↦ id) fun _ ↦ ih

end Yields
