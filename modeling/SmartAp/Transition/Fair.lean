import SmartAp.Transition.Guarded
import Mathlib.Data.Nat.Init
import Mathlib.Tactic.ByContra
import Mathlib.Tactic.Choose

/-!
# Infinite runs and progress

What a step system does *eventually* is a statement about infinite runs in which some party keeps
moving. `Run.ensures` is the one rule: what the steps of the others keep, and a step of the helpful
party turns into something else, is turned into it if the helpful party moves again and again.

## What fairness is worth

That a party moves again and again (`Run.Fair`) says two things at once: the scheduler does not
forget it, and it is able to move. The first is an assumption on the scheduler, the second is a
property of the system, and a system in which the party cannot move satisfies every theorem that
assumes both. So the two are kept apart:

* `Run.WeaklyFair` is the assumption alone: a party that is able to move from some point on moves
  again. Of a party that never can it asks nothing;
* `Enabled` is what is to be proved, and `Run.WeaklyFair.fair` puts the two together;
* `exists_run_of_enabled` shows that the runs a theorem speaks of exist: where the party can always
  move within an invariant, a run in which only it moves starts from every reachable state.
-/

namespace StepSystem

variable {State : Type*} {Action : Type*}

/-- An infinite run from a reachable state. -/
structure Run (M : StepSystem State Action) where
  state : ℕ → State
  action : ℕ → Action
  reachable_zero : M.Reachable (state 0)
  step : ∀ n, M.step (state n) (action n) = some (state (n + 1))

/-- Some action of this kind is enabled. -/
def Enabled (M : StepSystem State Action) (helpful : Action → Prop) (s : State) : Prop :=
  ∃ a s', helpful a ∧ M.step s a = some s'

namespace Run

variable {M : StepSystem State Action} (r : M.Run)

theorem reachable (n : ℕ) : M.Reachable (r.state n) := by
  induction n with
  | zero => exact r.reachable_zero
  | succ n ih => exact .step ih trivial (r.step n)

/-- An action of this kind comes again and again. -/
def Fair (helpful : Action → Prop) : Prop := ∀ n, ∃ m, n ≤ m ∧ helpful (r.action m)

/-- **Weak fairness.** If an action of this kind is enabled from some point on, one comes. -/
def WeaklyFair (helpful : Action → Prop) : Prop :=
  ∀ n, (∀ m, n ≤ m → M.Enabled helpful (r.state m)) → ∃ m, n ≤ m ∧ helpful (r.action m)

variable {r} in
/-- Actions that come again and again come whether they are always enabled or not. -/
theorem Fair.weaklyFair {helpful : Action → Prop} (hfair : r.Fair helpful) :
    r.WeaklyFair helpful := fun n _ ↦ hfair n

variable {r} in
/-- Where the party can always move, weak fairness makes it move again and again. -/
theorem WeaklyFair.fair {helpful : Action → Prop} (hfair : r.WeaklyFair helpful)
    (henabled : ∀ n, M.Enabled helpful (r.state n)) : r.Fair helpful :=
  fun n ↦ hfair n fun m _ ↦ henabled m

/-- What each step keeps holds from some point on. -/
theorem keeps {P : State → Prop} {n : ℕ} (hn : P (r.state n))
    (hkeep : ∀ m, n ≤ m → P (r.state m) → P (r.state (m + 1))) {m : ℕ} (hm : n ≤ m) :
    P (r.state m) := by
  induction m, hm using Nat.le_induction with
  | base => exact hn
  | succ m hm ih => exact hkeep m hm ih

/-- **The progress rule.** -/
theorem ensures {helpful : Action → Prop} (hfair : r.Fair helpful) {P Q : State → Prop} {n : ℕ}
    (hn : P (r.state n))
    (hkeep : ∀ m, P (r.state m) → ¬helpful (r.action m) → P (r.state (m + 1)))
    (hhelp : ∀ m, P (r.state m) → helpful (r.action m) → Q (r.state (m + 1))) :
    ∃ m, n ≤ m ∧ Q (r.state m) := by
  by_contra hnever
  have hnot : ∀ m, n ≤ m → ¬Q (r.state (m + 1)) := fun m hm hq ↦
    hnever ⟨m + 1, Nat.le_succ_of_le hm, hq⟩
  -- otherwise `P` holds for ever, and the helpful party moves once more
  have hP : ∀ m, n ≤ m → P (r.state m) := fun m ↦
    r.keeps hn fun k hk hp ↦ hkeep k hp fun hhelpful ↦ hnot k hk (hhelp k hp hhelpful)
  obtain ⟨m, hm, hhelpful⟩ := hfair n
  exact hnot m hm (hhelp m (hP m hm) hhelpful)

end Run

/-- **Runs exist.** Where the party can always move and keep an invariant, a run in which only it
moves starts from every reachable state with the invariant. -/
theorem exists_run_of_enabled {M : StepSystem State Action} {helpful : Action → Prop}
    {I : State → Prop}
    (hmove : ∀ s, M.Reachable s → I s → ∃ a s', helpful a ∧ M.step s a = some s' ∧ I s')
    {s : State} (hs : M.Reachable s) (hI : I s) :
    ∃ r : M.Run, r.state 0 = s ∧ r.Fair helpful ∧ ∀ n, I (r.state n) := by
  -- the moves are chosen once, for every state the run can come to
  choose act next hhelpful hstep hnext using fun t : { t // M.Reachable t ∧ I t } ↦
    hmove t.1 t.2.1 t.2.2
  let state : ℕ → { t // M.Reachable t ∧ I t } := fun n ↦ Nat.rec ⟨s, hs, hI⟩
    (fun _ t ↦ ⟨next t, .step t.2.1 trivial (hstep t), hnext t⟩) n
  exact ⟨⟨fun n ↦ (state n).1, fun n ↦ act (state n), hs, fun n ↦ hstep (state n)⟩, rfl,
    fun n ↦ ⟨n, Nat.le_refl n, hhelpful (state n)⟩, fun n ↦ (state n).2.2⟩

end StepSystem
