import Mathlib.Logic.Relation

/-!
# Guarded runs of a step system

A **step system** is a start state and a partial step function: `step s a = some s'` says that
action `a` is enabled in `s` and leads to `s'`. Nothing here depends on what the states or the
actions are, so every interleaving model of this development is one of these, and so could be a
model of another program.

## Runs under a guard

`ReachableBy G s` says that some run reaches `s` in which every step meets the guard `G`, a
condition on the state before the step and the action. Two uses share this one notion:

* an assumption on the environment ("no queue operation ever fails") is a guard;
* the exact side condition under which a faulty program still behaves is a guard.

`Reachable` is the unguarded case. `exec` runs a list of actions and checks the guard along the
way, so that a concrete run is a value; `exists_reachableBy_of_exec` turns such a run into
reachability.

## The rules

* `ReachableBy.invariant` is the run rule: what holds at the start and is preserved by one guarded
  step holds in every state reached. The step hypothesis may use that the state before is itself
  reachable, so that one invariant can be built on another.
* `ReachableBy.mono` weakens the guard; an invariant proved once transfers to every stronger
  assumption.
* `ReachableBy.project` forgets a part of the state; an invariant proved of a system transfers to
  every system built on it.
-/

universe u v

/-- A start state and a partial step function, one action at a time. -/
structure StepSystem (State : Type u) (Action : Type v) where
  /-- The state every run starts in. -/
  start : State
  /-- The successor under an action, when the action is enabled. -/
  step : State → Action → Option State

namespace StepSystem

variable {State : Type u} {Action : Type v} (M : StepSystem State Action)

/-- Some run in which every step meets the guard `G` reaches the state. -/
inductive ReachableBy (G : State → Action → Prop) : State → Prop
  | start : ReachableBy G M.start
  | step {s s' : State} {a : Action} :
      ReachableBy G s → G s a → M.step s a = some s' → ReachableBy G s'

/-- Some run reaches the state. -/
def Reachable (s : State) : Prop := M.ReachableBy (fun _ _ ↦ True) s

variable {M}

/-! ### The run rule -/

/-- **The run rule.** An invariant of the start state that every guarded step preserves holds in
every state a guarded run reaches. -/
theorem ReachableBy.invariant {G : State → Action → Prop} {I : State → Prop}
    (hstart : I M.start)
    (hstep : ∀ s a s', M.ReachableBy G s → I s → G s a → M.step s a = some s' → I s')
    {s : State} (h : M.ReachableBy G s) : I s := by
  induction h with
  | start => exact hstart
  | step hs hG hst ih => exact hstep _ _ _ hs ih hG hst

/-- Weakening the guard keeps what is reachable. -/
theorem ReachableBy.mono {G G' : State → Action → Prop} (hG : ∀ s a, G s a → G' s a)
    {s : State} (h : M.ReachableBy G s) : M.ReachableBy G' s := by
  induction h with
  | start => exact .start
  | step _ hg hst ih => exact .step ih (hG _ _ hg) hst

theorem ReachableBy.reachable {G : State → Action → Prop} {s : State}
    (h : M.ReachableBy G s) : M.Reachable s :=
  h.mono fun _ _ _ ↦ trivial

/-- **The projection rule.** When every step of a system is, seen through `f`, a step of another one
or no step at all, what it reaches is seen as something the other one reaches. A system that adds
parties or history to another one is projected onto it by forgetting them. -/
theorem ReachableBy.project {State' : Type*} {Action' : Type*} {N : StepSystem State' Action'}
    {G : State → Action → Prop} {G' : State' → Action' → Prop} (f : State → State')
    (hstart : f M.start = N.start)
    (hstep : ∀ s a s', G s a → M.step s a = some s' →
      f s' = f s ∨ ∃ b, G' (f s) b ∧ N.step (f s) b = some (f s'))
    {s : State} (h : M.ReachableBy G s) : N.ReachableBy G' (f s) := by
  induction h with
  | start =>
    rw [hstart]
    exact .start
  | step _ hG hst ih =>
    rcases hstep _ _ _ hG hst with hsame | ⟨b, hb, hstN⟩
    · rw [hsame]
      exact ih
    · exact .step ih hb hstN

/-! ### What a state leads to -/

/-- Some run continues from the first state to the second. -/
def LeadsTo (M : StepSystem State Action) : State → State → Prop :=
  Relation.ReflTransGen fun s s' ↦ ∃ a, M.step s a = some s'

theorem Reachable.leadsTo {s t : State} (h : M.Reachable s) (hst : M.LeadsTo s t) :
    M.Reachable t := by
  induction hst with
  | refl => exact h
  | tail _ hstep ih =>
    obtain ⟨a, ha⟩ := hstep
    exact .step ih trivial ha

/-- **The continuation rule.** What holds of a reachable state and is preserved by the steps of
reachable states holds of every state it leads to. -/
theorem Reachable.invariant_from {I : State → Prop} {s t : State} (h : M.Reachable s)
    (hs : I s) (hst : M.LeadsTo s t)
    (hstep : ∀ u a u', M.Reachable u → I u → M.step u a = some u' → I u') : I t := by
  induction hst with
  | refl => exact hs
  | tail hsu hlast ih =>
    obtain ⟨a, ha⟩ := hlast
    exact hstep _ a _ (h.leadsTo hsu) ih ha

/-! ### Concrete runs -/

variable (M) (G : State → Action → Prop) [∀ s a, Decidable (G s a)]

/-- Run a list of actions; undefined as soon as one of them is not enabled or fails the guard. -/
def exec : State → List Action → Option State
  | s, [] => some s
  | s, a :: as => if G s a then (M.step s a).bind fun s' ↦ exec s' as else none

variable {M G}

theorem reachableBy_of_exec_from {as : List Action} :
    ∀ {s t : State}, M.ReachableBy G s → M.exec G s as = some t → M.ReachableBy G t := by
  induction as with
  | nil =>
    intro s t hs ht
    exact Option.some.inj ht ▸ hs
  | cons a as ih =>
    intro s t hs ht
    rw [exec] at ht
    split at ht
    · rename_i hG
      obtain ⟨s', hst, ht⟩ := Option.bind_eq_some_iff.1 ht
      exact ih (.step hs hG hst) ht
    · cases ht

/-- **A concrete run is a witness of reachability**, together with whatever is checked of its last
state. -/
theorem exists_reachableBy_of_exec {as : List Action} {p : State → Bool}
    (h : (M.exec G M.start as).any p = true) : ∃ s, M.ReachableBy G s ∧ p s = true := by
  obtain ⟨s, hs, hp⟩ := (Option.any_eq_true p _).1 h
  exact ⟨s, reachableBy_of_exec_from .start hs, hp⟩

end StepSystem
