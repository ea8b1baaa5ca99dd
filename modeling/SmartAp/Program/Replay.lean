import SmartAp.Program.Deadline

/-!
# Replaying a run with a clock

In a program with a clock the time decides when a loop gives up. In a program without one the loop
asks a host how often to try. The two are compared by runs (`Replays`): for every run with a clock
that returns there are answers of a host with which the program without a clock makes the same run.
What is proved for all hosts then holds of every run with a clock that returns.

The answers are a list, and a run takes those it asks for from the front. Answers that the programs
ask for one after the other are appended, so that the rules follow the text of the program. A loop
with a deadline is a loop with a bound that depends on the run (`Replays.pollLoop`).
-/

variable {σ τ ω α β : Type}

/-- **Replay.** The state of `m'` is made of that of `m` and of the answers that are left. -/
def Replays (embed : σ → List ω → τ) (m : FuelM σ α) (m' : StateM τ α) : Prop :=
  ∀ s a, (m s).1 = some a → ∃ answers, ∀ rest,
    m' (embed s (answers ++ rest)) = (a, embed (m s).2 rest)

/-- What `m` does is not in the state of the other program. -/
def Unseen (embed : σ → List ω → τ) (m : FuelM σ α) : Prop :=
  ∀ s rest, embed (m s).2 rest = embed s rest

section Rules

variable {embed : σ → List ω → τ}

theorem Replays.pure (a : α) : Replays embed (pure a : FuelM σ α) (pure a) := by
  intro s a' ha
  rw [← Option.some_inj.1 ha]
  exact ⟨[], fun _ ↦ rfl⟩

theorem Replays.bind {m : FuelM σ α} {m' : StateM τ α} {k : α → FuelM σ β} {k' : α → StateM τ β}
    (hm : Replays embed m m') (hk : ∀ a, Replays embed (k a) (k' a)) :
    Replays embed (m >>= k) (m' >>= k') := by
  intro s b hb
  obtain ⟨a, ha, hrun⟩ := FuelM.exists_of_bind hb
  rw [hrun] at hb ⊢
  obtain ⟨answers, hfirst⟩ := hm s a ha
  obtain ⟨answers', hsecond⟩ := hk a _ b hb
  refine ⟨answers ++ answers', fun rest ↦ ?_⟩
  show (let r := m' (embed s (answers ++ answers' ++ rest)); k' r.1 r.2) = _
  rw [List.append_assoc, hfirst]
  exact hsecond rest

theorem Replays.ite {c : Prop} [Decidable c] {m n : FuelM σ α} {m' n' : StateM τ α}
    (hm : Replays embed m m') (hn : Replays embed n n') :
    Replays embed (if c then m else n) (if c then m' else n') := by
  split
  · exact hm
  · exact hn

/-- What is not seen is left out. -/
theorem Replays.unseen_bind {m : FuelM σ α} {k : α → FuelM σ β} {m' : StateM τ β}
    (hm : Unseen embed m) (hk : ∀ a, Replays embed (k a) m') : Replays embed (m >>= k) m' := by
  intro s b hb
  obtain ⟨a, -, hrun⟩ := FuelM.exists_of_bind hb
  rw [hrun] at hb ⊢
  obtain ⟨answers, hrest⟩ := hk a _ b hb
  refine ⟨answers, fun rest ↦ ?_⟩
  rw [← hm s]
  exact hrest rest

theorem Replays.bind_unseen {m : FuelM σ α} {k : α → FuelM σ α} {m' : StateM τ α}
    (hm : Replays embed m m') (hk : ∀ a, Unseen embed (k a))
    (hsame : ∀ a s b, (k a s).1 = some b → b = a) : Replays embed (m >>= k) m' := by
  intro s b hb
  obtain ⟨a, ha, hrun⟩ := FuelM.exists_of_bind hb
  rw [hrun] at hb ⊢
  obtain ⟨answers, hfirst⟩ := hm s a ha
  refine ⟨answers, fun rest ↦ ?_⟩
  rw [hfirst, hsame a _ b hb, hk a]

/-- **What holds for all answers holds of the runs that return.** -/
theorem Replays.yields {m : FuelM σ α} {m' : StateM τ α} {P : τ → Prop} {Q : α → τ → Prop}
    (h : Replays embed m m') (hm' : Triple P m' Q) :
    Yields (fun s ↦ ∀ answers, P (embed s answers)) m fun a s ↦ Q a (embed s []) := by
  intro s hs a ha
  obtain ⟨answers, hrun⟩ := h s a ha
  have hq := hm' _ (hs (answers ++ []))
  rw [hrun] at hq
  exact hq

theorem Unseen.pure (a : α) : Unseen embed (pure a : FuelM σ α) := fun _ _ ↦ rfl

theorem Unseen.bind {m : FuelM σ α} {k : α → FuelM σ β} (hm : Unseen embed m)
    (hk : ∀ a, Unseen embed (k a)) : Unseen embed (m >>= k) := by
  intro s rest
  cases ha : (m s).1 with
  | none =>
    rw [FuelM.bind_of_none ha]
    exact hm s rest
  | some a =>
    rw [FuelM.bind_of_some ha, hk a]
    exact hm s rest

theorem Unseen.ite {c : Prop} [Decidable c] {m n : FuelM σ α} (hm : Unseen embed m)
    (hn : Unseen embed n) : Unseen embed (if c then m else n) := by
  split
  · exact hm
  · exact hn

/-! Programs without loops that need fuel. -/

theorem Replays.lift {m : StateM σ α} {m' : StateM τ α}
    (h : ∀ s, ∃ answers, ∀ rest, m' (embed s (answers ++ rest)) = ((m s).1, embed (m s).2 rest)) :
    Replays embed (FuelM.lift m) m' := by
  intro s a ha
  rw [← Option.some_inj.1 ha]
  exact h s

theorem Replays.lift_pure (a : α) : Replays embed (FuelM.lift (Pure.pure a)) (Pure.pure a) :=
  .pure a

theorem Replays.lift_bind {m : StateM σ α} {m' : StateM τ α} {k : α → StateM σ β}
    {k' : α → StateM τ β} (hm : Replays embed (FuelM.lift m) m')
    (hk : ∀ a, Replays embed (FuelM.lift (k a)) (k' a)) :
    Replays embed (FuelM.lift (m >>= k)) (m' >>= k') :=
  Replays.bind hm hk

theorem Replays.lift_ite {c : Prop} [Decidable c] {m n : StateM σ α} {m' n' : StateM τ α}
    (hm : Replays embed (FuelM.lift m) m') (hn : Replays embed (FuelM.lift n) n') :
    Replays embed (FuelM.lift (if c then m else n)) (if c then m' else n') := by
  split
  · exact hm
  · exact hn

end Rules

/-! ### Loops -/

/-- A run depends on a state as its first part does. -/
theorem bind_eq_of_eq {m : StateM τ α} {k : α → StateM τ β} {t t' : τ} (h : m t = m t') :
    (m >>= k) t = (m >>= k) t' := by
  show (let r := m t; k r.1 r.2) = _
  rw [h]
  rfl

theorem repeatUntil_eq_of_eq {m : StateM τ Bool} {between : StateM τ PUnit} {t t' : τ}
    (h : m t = m t') (n : ℕ) : repeatUntil m between n t = repeatUntil m between n t' := by
  cases n with
  | zero => exact h
  | succ n => exact bind_eq_of_eq h

section Loop

variable {ι : Type} {embed : Timed ι σ → List ω → τ} {time : ℕ → ℕ} {w : ℕ} {loop : ι}
  {t0 timeout : BitVec w} {attempt : FuelM (Timed ι σ) (Option α)}
  {before after : FuelM (Timed ι σ) PUnit} {loop' : ℕ → StateM τ β} {g : Option α → β}

/-- A loop that tries at most `n + 1` times: it stops after a success, whatever `n`, and it fails
after the last attempt. -/
structure Attempts (embed : σ → List ω → τ) (attempt : FuelM σ (Option α)) (g : Option α → β)
    (loop' : ℕ → StateM τ β) : Prop where
  success : ∀ s a, (attempt s).1 = some (some a) → ∃ answers, ∀ n rest,
    loop' n (embed s (answers ++ rest)) = (g (some a), embed (attempt s).2 rest)
  failed : ∀ s, (attempt s).1 = some none → ∃ answers, ∀ rest,
    loop' 0 (embed s (answers ++ rest)) = (g none, embed (attempt s).2 rest) ∧
      ∀ n, loop' (n + 1) (embed s (answers ++ rest)) = loop' n (embed (attempt s).2 rest)

/-- Where the deadline has passed is the bound of the other loop. -/
theorem exists_bound (hattempts : Attempts embed attempt g loop') (hbefore : Unseen embed before)
    (htest : Unseen embed (expired time loop t0 timeout)) (hafter : Unseen embed after) {fuel : ℕ}
    {s : Timed ι σ} {r : Option α}
    (hr : (pollLoop time loop t0 timeout attempt before after fuel s).1 = some r) :
    ∃ n answers, ∀ rest, loop' n (embed s (answers ++ rest)) =
      (g r, embed (pollLoop time loop t0 timeout attempt before after fuel s).2 rest) := by
  induction fuel generalizing s with
  | zero => cases hr
  | succ fuel ih =>
    obtain ⟨o, ho, hrun⟩ := FuelM.exists_of_bind hr
    rw [pollLoop, hrun] at hr ⊢
    cases o with
    | some a =>
      obtain ⟨answers, hdone⟩ := hattempts.success s a ho
      rw [← Option.some_inj.1 hr]
      exact ⟨0, answers, hdone 0⟩
    | none =>
      obtain ⟨answers, hfailed⟩ := hattempts.failed s ho
      obtain ⟨_, -, hwaited⟩ := FuelM.exists_of_bind hr
      dsimp only at hr ⊢
      rw [hwaited] at hr ⊢
      obtain ⟨e, -, htested⟩ := FuelM.exists_of_bind hr
      rw [htested] at hr ⊢
      cases e with
      | true =>
        rw [← Option.some_inj.1 hr]
        refine ⟨0, answers, fun rest ↦ (hfailed rest).1.trans ?_⟩
        exact congrArg (Prod.mk _) ((htest _ _).trans (hbefore _ _)).symm
      | false =>
        obtain ⟨_, -, hgoOn⟩ := FuelM.exists_of_bind hr
        rw [if_neg Bool.false_ne_true] at hr ⊢
        rw [hgoOn] at hr ⊢
        obtain ⟨n, answers', hrest⟩ := ih hr
        refine ⟨n + 1, answers ++ answers', fun rest ↦ ?_⟩
        rw [List.append_assoc, (hfailed _).2, ← hbefore, ← htest, ← hafter]
        exact hrest rest

/-- **A loop with a deadline is a loop with a bound**, which the host is asked for. -/
theorem Replays.pollLoop {m' : StateM τ β} (ask : ℕ → ω) {fuel : ℕ}
    (hask : ∀ n s rest, m' (embed s (ask n :: rest)) = loop' n (embed s rest))
    (hattempts : Attempts embed attempt g loop') (hbefore : Unseen embed before)
    (htest : Unseen embed (expired time loop t0 timeout)) (hafter : Unseen embed after) :
    Replays embed (pollLoop time loop t0 timeout attempt before after fuel >>= fun r ↦
      Pure.pure (g r)) m' := by
  intro s b hb
  obtain ⟨r, hr, hrun⟩ := FuelM.exists_of_bind hb
  rw [hrun] at hb ⊢
  obtain ⟨n, answers, hloop⟩ := exists_bound hattempts hbefore htest hafter hr
  refine ⟨ask n :: answers, fun rest ↦ ?_⟩
  rw [← Option.some_inj.1 hb, List.cons_append, hask, hloop]
  rfl

/-- `repeatUntil` is such a loop, if nothing is done between its rounds. -/
theorem attempts_repeatUntil {succeeds : StateM τ Bool} {between : StateM τ PUnit}
    (hattempt : Replays embed (attempt >>= fun r ↦ Pure.pure r.isSome) succeeds)
    (hbetween : ∀ t, between t = (⟨⟩, t)) :
    Attempts embed attempt Option.isSome (repeatUntil succeeds between) := by
  have hresult : ∀ s r, (attempt s).1 = some r → ∃ answers, ∀ rest,
      succeeds (embed s (answers ++ rest)) = (r.isSome, embed (attempt s).2 rest) := by
    intro s r hr
    have hrun := FuelM.bind_of_some (f := fun r ↦ (Pure.pure r.isSome : FuelM _ Bool)) hr
    obtain ⟨answers, hanswers⟩ := hattempt s r.isSome (by rw [hrun]; rfl)
    rw [hrun] at hanswers
    exact ⟨answers, hanswers⟩
  have hround : ∀ n t, repeatUntil succeeds between (n + 1) t = if (succeeds t).1 = true then
      (true, (succeeds t).2) else repeatUntil succeeds between n (succeeds t).2 := by
    intro n t
    show (if (succeeds t).1 = true then (Pure.pure true : StateM τ Bool) else do
      between
      repeatUntil succeeds between n) (succeeds t).2 = _
    split
    · rfl
    · show (let r := between (succeeds t).2; repeatUntil succeeds between n r.2) = _
      rw [hbetween]
  refine ⟨fun s a ha ↦ ?_, fun s hs ↦ ?_⟩
  · obtain ⟨answers, hdone⟩ := hresult s (some a) ha
    refine ⟨answers, fun n rest ↦ ?_⟩
    cases n with
    | zero => exact hdone rest
    | succ n =>
      rw [hround, hdone]
      rfl
  · obtain ⟨answers, hfailed⟩ := hresult s none hs
    refine ⟨answers, fun rest ↦ ⟨hfailed rest, fun n ↦ ?_⟩⟩
    rw [hround, hfailed]
    exact if_neg Bool.false_ne_true

end Loop
