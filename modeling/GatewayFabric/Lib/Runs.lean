/-
Runs of a partial step function: a list of actions taken one after another,
each enabled only where the step is defined. A property every enabled step
keeps holds after every run from a state that has it (`run_inv`), and a run
that goes through a state splits there (`run_append`).
-/
import Mathlib.Data.Option.Basic

namespace GatewayFabric.Runs

variable {σ α : Type} (step : σ → α → Option σ)

/-- The state after the actions, if every one of them was enabled. -/
def run : σ → List α → Option σ
  | s, [] => some s
  | s, a :: as => (step s a).bind fun s' => run s' as

@[simp] theorem run_nil (s : σ) : run step s [] = some s := rfl

theorem run_cons (s : σ) (a : α) (as : List α) : run step s (a :: as) = (step s a).bind fun s' => run step s' as :=
  rfl

theorem run_append (s : σ) (as bs : List α) : run step s (as ++ bs) = (run step s as).bind fun s' => run step s' bs := by
  induction as generalizing s with
  | nil => rfl
  | cons a as ih =>
    simp only [List.cons_append, run_cons]
    cases step s a with
    | none => rfl
    | some s' => exact ih s'

/-- An invariant of every enabled step holds after every run. -/
theorem run_inv (I : σ → Prop) (hstep : ∀ s a s', I s → step s a = some s' → I s') :
    ∀ (as : List α) (s s' : σ), I s → run step s as = some s' → I s'
  | [], s, s', hs, h => by
    cases h
    exact hs
  | a :: as, s, s', hs, h => by
    rw [run_cons, Option.bind_eq_some_iff] at h
    obtain ⟨t, ht, hrun⟩ := h
    exact run_inv I hstep as t s' (hstep s a t hs ht) hrun

end GatewayFabric.Runs
