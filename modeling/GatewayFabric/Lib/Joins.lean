/-
Names joined with a separator, and when the join can be taken apart again.

A pair joined at a separator splits back uniquely when one of its sides is
free of the separator: the left side, so that the first separator is the one
joined at, or the right side, so that the last one is. A list of parts joined
with a separator splits back when every part is free of it; that is core's
`List.splitOn_intercalate`, read as injectivity.
-/
import Mathlib.Data.List.Basic

namespace GatewayFabric.Joins

variable {α : Type} {c : α}

/-- The first separator is the one joined at, when the left sides have none. -/
theorem append_cons_inj_of_notMem_left {x₁ x₂ z₁ z₂ : List α} (h₁ : c ∉ x₁) (h₂ : c ∉ x₂) :
    x₁ ++ c :: z₁ = x₂ ++ c :: z₂ ↔ x₁ = x₂ ∧ z₁ = z₂ := by
  refine ⟨fun h => ?_, fun ⟨hx, hz⟩ => hx ▸ hz ▸ rfl⟩
  induction x₁ generalizing x₂ with
  | nil =>
    cases x₂ with
    | nil => exact ⟨rfl, List.cons.inj h |>.2⟩
    | cons b x₂ =>
      have hb : c = b := List.cons.inj h |>.1
      exact absurd (hb ▸ List.mem_cons_self) h₂
  | cons a x₁ ih =>
    cases x₂ with
    | nil =>
      have ha : a = c := List.cons.inj h |>.1
      exact absurd (ha ▸ List.mem_cons_self) h₁
    | cons b x₂ =>
      simp only [List.cons_append, List.cons.injEq] at h
      obtain ⟨rfl, h⟩ := h
      obtain ⟨rfl, rfl⟩ := ih (fun hm => h₁ (List.mem_cons_of_mem a hm)) (fun hm => h₂ (List.mem_cons_of_mem a hm)) h
      exact ⟨rfl, rfl⟩

/-- The last separator is the one joined at, when the right sides have none. -/
theorem append_cons_inj_of_notMem_right {x₁ x₂ z₁ z₂ : List α} (h₁ : c ∉ z₁) (h₂ : c ∉ z₂) :
    x₁ ++ c :: z₁ = x₂ ++ c :: z₂ ↔ x₁ = x₂ ∧ z₁ = z₂ := by
  have hrev (x z : List α) : (x ++ c :: z).reverse = z.reverse ++ c :: x.reverse := by simp
  rw [← List.reverse_inj, hrev, hrev, append_cons_inj_of_notMem_left (by simpa) (by simpa), List.reverse_inj,
    List.reverse_inj, and_comm]

/-- Parts free of the separator are recovered from their join. -/
theorem intercalate_inj [BEq α] [LawfulBEq α] {ls ls' : List (List α)} (hls : ∀ l ∈ ls, c ∉ l)
    (hls' : ∀ l ∈ ls', c ∉ l) (hne : ls ≠ []) (hne' : ls' ≠ []) :
    [c].intercalate ls = [c].intercalate ls' ↔ ls = ls' := by
  refine ⟨fun h => ?_, congrArg _⟩
  rw [← List.splitOn_intercalate c hls hne, h, List.splitOn_intercalate c hls' hne']

end GatewayFabric.Joins
