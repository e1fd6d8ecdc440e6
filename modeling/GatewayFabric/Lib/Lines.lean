/-
The lines of a stream cut at a separator: the complete lines, each ended by
the separator, and the rest after the last one, which a later chunk may
complete.

Everything follows from the library's `List.splitOnP_append_cons`, that a list
split at a separator splits as its two sides. The lines of two pieces put
together are those of the first and those its rest makes with the second
(`complete_append`, `rest_append`), so a stream read piece by piece has the
lines of the whole.
-/
import Mathlib.Data.List.Basic

namespace GatewayFabric.Lines

variable {α : Type} [BEq α] [LawfulBEq α] (sep : α)

/-- The lines the separator ends. -/
def complete (xs : List α) : List (List α) := (xs.splitOn sep).dropLast

/-- What comes after the last separator. -/
def rest (xs : List α) : List α := (xs.splitOn sep).getLastD []

omit [LawfulBEq α] in
theorem splitOn_eq_complete_append_rest (xs : List α) : xs.splitOn sep = complete sep xs ++ [rest sep xs] := by
  have hne := List.splitOn_ne_nil sep xs
  rw [complete, rest, List.getLastD_eq_getLast?, List.getLast?_eq_some_getLast hne, Option.getD_some,
    List.dropLast_concat_getLast]

theorem splitOn_append_cons (xs ys : List α) : (xs ++ sep :: ys).splitOn sep = xs.splitOn sep ++ ys.splitOn sep := by
  simp only [List.splitOn_eq_splitOnP]
  exact List.splitOnP_append_cons xs ys (by simp)

section Cases

variable {sep}

theorem complete_eq_nil_of_not_mem {xs : List α} (h : sep ∉ xs) : complete sep xs = [] := by
  rw [complete, List.splitOn_eq_singleton h, List.dropLast_singleton]

theorem rest_eq_self_of_not_mem {xs : List α} (h : sep ∉ xs) : rest sep xs = xs := by
  rw [rest, List.splitOn_eq_singleton h, List.getLastD_cons, List.getLastD_nil]

theorem complete_append_cons (xs ys : List α) :
    complete sep (xs ++ sep :: ys) = xs.splitOn sep ++ complete sep ys := by
  rw [complete, splitOn_append_cons, List.dropLast_append_of_ne_nil (List.splitOn_ne_nil sep ys), complete]

theorem rest_append_cons (xs ys : List α) : rest sep (xs ++ sep :: ys) = rest sep ys := by
  have hne := List.splitOn_ne_nil sep ys
  rw [rest, splitOn_append_cons, List.getLastD_eq_getLast?, List.getLast?_append, List.getLast?_eq_some_getLast hne,
    Option.some_or, rest, List.getLastD_eq_getLast?, List.getLast?_eq_some_getLast hne, Option.getD_some]

/-- A list with the separator in it is cut at its last one. -/
theorem exists_eq_append_cons_of_mem : ∀ {xs : List α}, sep ∈ xs → ∃ pre post, xs = pre ++ sep :: post ∧ sep ∉ post
  | x :: xs, h => by
    by_cases hxs : sep ∈ xs
    · obtain ⟨pre, post, rfl, hpost⟩ := exists_eq_append_cons_of_mem hxs
      exact ⟨x :: pre, post, rfl, hpost⟩
    · have hx : x = sep := by
        rcases List.mem_cons.1 h with h | h
        · exact h.symm
        · exact absurd h hxs
      exact ⟨[], xs, by rw [hx, List.nil_append], hxs⟩

/-- The lines of a list cut at its last separator. -/
theorem complete_append_cons_of_not_mem {pre post : List α} (h : sep ∉ post) :
    complete sep (pre ++ sep :: post) = pre.splitOn sep := by
  rw [complete_append_cons, complete_eq_nil_of_not_mem h, List.append_nil]

theorem rest_append_cons_of_not_mem {pre post : List α} (h : sep ∉ post) : rest sep (pre ++ sep :: post) = post := by
  rw [rest_append_cons, rest_eq_self_of_not_mem h]

end Cases

theorem not_mem_rest (xs : List α) : sep ∉ rest sep xs := by
  by_cases h : sep ∈ xs
  · obtain ⟨pre, post, rfl, hpost⟩ := exists_eq_append_cons_of_mem h
    rwa [rest_append_cons_of_not_mem hpost]
  · rwa [rest_eq_self_of_not_mem h]

/-- The lines of two pieces: those the first completes, then those its rest
and the second make. -/
theorem complete_append (xs ys : List α) : complete sep (xs ++ ys) = complete sep xs ++ complete sep (rest sep xs ++ ys) := by
  by_cases h : sep ∈ xs
  · obtain ⟨pre, post, rfl, hpost⟩ := exists_eq_append_cons_of_mem h
    rw [complete_append_cons_of_not_mem hpost, rest_append_cons_of_not_mem hpost, List.append_assoc,
      List.cons_append, complete_append_cons]
  · rw [complete_eq_nil_of_not_mem h, rest_eq_self_of_not_mem h, List.nil_append]

theorem rest_append (xs ys : List α) : rest sep (xs ++ ys) = rest sep (rest sep xs ++ ys) := by
  by_cases h : sep ∈ xs
  · obtain ⟨pre, post, rfl, hpost⟩ := exists_eq_append_cons_of_mem h
    rw [rest_append_cons_of_not_mem hpost, List.append_assoc, List.cons_append, rest_append_cons]
  · rw [rest_eq_self_of_not_mem h]

/-- A rest ended by the separator is one line. -/
theorem complete_append_sep {xs : List α} (h : sep ∉ xs) : complete sep (xs ++ [sep]) = [xs] := by
  rw [complete_append_cons_of_not_mem List.not_mem_nil, List.splitOn_eq_singleton h]

theorem rest_append_sep (xs : List α) : rest sep (xs ++ [sep]) = [] :=
  rest_append_cons_of_not_mem List.not_mem_nil

omit [BEq α] [LawfulBEq α] in
/-- Each of the lines joined by a separator stands whole in the text. -/
theorem infix_intercalate_of_mem {x : List α} : ∀ {xs : List (List α)}, x ∈ xs → x <:+: [sep].intercalate xs
  | [y], h => by
    simp only [List.mem_singleton.1 h, List.intercalate_singleton, List.infix_refl]
  | y :: z :: zs, h => by
    rw [List.intercalate_cons_cons]
    rcases List.mem_cons.1 h with rfl | h
    · exact (List.prefix_append _ _).isInfix.trans (List.prefix_append _ _).isInfix
    · exact (infix_intercalate_of_mem h).trans (List.suffix_append _ _).isInfix

end GatewayFabric.Lines
