/-
A first-fit search, `List.findSome?`, over a list ordered by a key: the
item it stops at is the one of least key that the test accepts
(`findSome?_eq_some_iff_least`). A search over sizes from the smallest up
so finds the smallest size that fits.
-/
import Mathlib.Order.Basic

namespace GatewayFabric.FirstFit

variable {β γ : Type}

section Sorted

variable {κ : Type} [Preorder κ] {key : β → κ}

/-- Over a list ordered by `key`, `findSome?` stops at the item of least key
that `f` accepts. -/
theorem findSome?_eq_some_iff_least {l : List β} (hl : l.Pairwise fun a b => key a < key b) {f : β → Option γ}
    {c : γ} : l.findSome? f = some c ↔ ∃ b ∈ l, f b = some c ∧ ∀ b' ∈ l, key b' < key b → f b' = none := by
  constructor
  · intro h
    obtain ⟨l₁, b, l₂, rfl, hb, hl₁⟩ := List.findSome?_eq_some_iff.1 h
    refine ⟨b, by simp, hb, fun b' hb' hlt => ?_⟩
    rcases List.mem_append.1 hb' with h₁ | h₂
    · exact hl₁ b' h₁
    · rcases List.mem_cons.1 h₂ with rfl | h₂
      · exact absurd hlt (lt_irrefl _)
      · have hafter := (List.pairwise_cons.1 (List.pairwise_append.1 hl).2.1).1 b' h₂
        exact absurd hlt (lt_asymm hafter)
  · rintro ⟨b, hb, hfb, hleast⟩
    cases hfind : l.findSome? f with
    | none =>
      rw [List.findSome?_eq_none_iff] at hfind
      rw [hfind b hb] at hfb
      cases hfb
    | some c' =>
      obtain ⟨l₁, b₀, l₂, rfl, hb₀, hl₁⟩ := List.findSome?_eq_some_iff.1 hfind
      rcases List.mem_append.1 hb with h₁ | h₂
      · rw [hl₁ b h₁] at hfb
        cases hfb
      · rcases List.mem_cons.1 h₂ with rfl | h₂
        · rw [hb₀] at hfb
          exact hfb
        · have hafter := (List.pairwise_cons.1 (List.pairwise_append.1 hl).2.1).1 b h₂
          rw [hleast b₀ (by simp) hafter] at hb₀
          cases hb₀

end Sorted

end GatewayFabric.FirstFit
