/-
Loops in `Except`, as a Go loop that may stop with an error or a panic:
`mapM` and `foldlM` over a list, and when each does not fail
(`mapM_eq_ok_iff`, `exists_mapM_eq_ok_iff`, `exists_foldlM_eq_ok_iff`).
-/
import Mathlib.Data.List.Forall2

namespace GatewayFabric.ExceptLoops

variable {ε α β γ σ : Type}

theorem bind_eq_ok_iff {x : Except ε α} {f : α → Except ε β} {b : β} :
    x >>= f = .ok b ↔ ∃ a, x = .ok a ∧ f a = .ok b := by
  cases x with
  | error e => simp [bind, Except.bind]
  | ok a => simp [bind, Except.bind]

/-- A `mapM` succeeds with `ys` exactly when each element gives the element of `ys` beside it. -/
theorem mapM_eq_ok_iff (f : α → Except ε β) :
    ∀ (xs : List α) (ys : List β), xs.mapM f = .ok ys ↔ List.Forall₂ (fun x y => f x = .ok y) xs ys
  | [], ys => by cases ys <;> simp [pure, Except.pure]
  | x :: xs, ys => by
    rw [List.mapM_cons, bind_eq_ok_iff]
    constructor
    · rintro ⟨y, hy, h⟩
      rw [bind_eq_ok_iff] at h
      obtain ⟨ys', hys', h⟩ := h
      simp only [pure, Except.pure, Except.ok.injEq] at h
      subst h
      exact .cons hy ((mapM_eq_ok_iff f xs ys').1 hys')
    · intro h
      cases h with
      | cons hy hys =>
        refine ⟨_, hy, bind_eq_ok_iff.2 ⟨_, (mapM_eq_ok_iff f xs _).2 hys, rfl⟩⟩

/-- A `mapM` succeeds exactly when no element fails. -/
theorem exists_mapM_eq_ok_iff (f : α → Except ε β) (xs : List α) :
    (∃ ys, xs.mapM f = .ok ys) ↔ ∀ x ∈ xs, ∃ y, f x = .ok y := by
  simp only [mapM_eq_ok_iff]
  induction xs with
  | nil => simp
  | cons x xs ih =>
    constructor
    · rintro ⟨_, h⟩ x' hx'
      cases h with
      | cons hy hys =>
        rcases List.mem_cons.1 hx' with rfl | hx'
        · exact ⟨_, hy⟩
        · exact ih.1 ⟨_, hys⟩ x' hx'
    · intro h
      obtain ⟨y, hy⟩ := h x List.mem_cons_self
      obtain ⟨ys, hys⟩ := ih.2 fun x' hx' => h x' (List.mem_cons_of_mem x hx')
      exact ⟨y :: ys, .cons hy hys⟩

/-- A `foldlM` whose step fails, whatever the state, exactly on the elements
outside `P` succeeds exactly when every element is in `P`. -/
theorem exists_foldlM_eq_ok_iff {f : σ → α → Except ε σ} {P : α → Prop}
    (hf : ∀ s x, (∃ s', f s x = .ok s') ↔ P x) :
    ∀ (xs : List α) (s : σ), (∃ s', xs.foldlM f s = .ok s') ↔ ∀ x ∈ xs, P x
  | [], s => by simp [pure, Except.pure]
  | x :: xs, s => by
    simp only [List.foldlM_cons, bind_eq_ok_iff, List.forall_mem_cons]
    constructor
    · rintro ⟨s', s₁, h₁, h⟩
      exact ⟨(hf s x).1 ⟨s₁, h₁⟩, (exists_foldlM_eq_ok_iff hf xs s₁).1 ⟨s', h⟩⟩
    · rintro ⟨hx, hxs⟩
      obtain ⟨s₁, h₁⟩ := (hf s x).2 hx
      obtain ⟨s', h⟩ := (exists_foldlM_eq_ok_iff hf xs s₁).2 hxs
      exact ⟨s', s₁, h₁, h⟩

end GatewayFabric.ExceptLoops
