/-
Grouping by a key, as a Go loop `m[k] = append(m[k], x)` builds it: one group
per key, its elements in the order they came, and the groups in the order
their keys were first met, one of the orders Go may range over the map in.

For one append and for a whole loop: what each group holds
(`groupOf_appendToGroup`, `groupOf_groupBy`) and which keys there are, each
once (`keys_appendToGroup`, `mem_keys_groupBy`, `nodup_keys_groupBy`).
-/
import Mathlib.Data.List.Nodup

namespace GatewayFabric.Grouping

variable {κ α : Type} [DecidableEq κ]

/-- `m[k] = append(m[k], a)`. -/
def appendToGroup (groups : List (κ × List α)) (k : κ) (a : α) : List (κ × List α) :=
  if groups.any (·.1 = k) then groups.map fun e => if e.1 = k then (e.1, e.2 ++ [a]) else e
  else groups ++ [(k, [a])]

/-- `m[k]`, empty for a key not in the map. -/
def groupOf (groups : List (κ × List α)) (k : κ) : List α := (groups.lookup k).getD []

def keys (groups : List (κ × List α)) : List κ := groups.map (·.1)

/-- The loop `for _, x := range xs { m[key(x)] = append(m[key(x)], x) }` from an empty map. -/
def groupBy (key : α → κ) (xs : List α) : List (κ × List α) :=
  xs.foldl (fun groups x => appendToGroup groups (key x) x) []

theorem any_fst_eq_iff (groups : List (κ × List α)) (k : κ) :
    groups.any (·.1 = k) = true ↔ k ∈ keys groups := by
  simp [keys, List.any_eq_true, List.mem_map]

theorem lookup_map_append (groups : List (κ × List α)) (k k' : κ) (a : α) :
    (groups.map fun e => if e.1 = k then (e.1, e.2 ++ [a]) else e).lookup k' =
      (groups.lookup k').map fun l => if k' = k then l ++ [a] else l := by
  induction groups with
  | nil => rfl
  | cons e groups ih =>
    obtain ⟨k'', l⟩ := e
    by_cases hk : k' = k''
    · subst hk
      by_cases hak : k' = k <;> simp [hak]
    · have hne : (k' == k'') = false := by simpa using hk
      by_cases hak : k'' = k
      · subst hak; simp [List.lookup_cons, hne, ih]
      · simp [List.lookup_cons, hak, hne, ih]

theorem lookup_eq_none_of_not_mem {groups : List (κ × List α)} {k : κ} (h : k ∉ keys groups) :
    groups.lookup k = none := by
  rw [List.lookup_eq_none_iff]
  intro p hp
  have : p.1 ≠ k := fun hpk => h (List.mem_map.2 ⟨p, hp, hpk⟩)
  exact bne_iff_ne.2 this.symm

/-- The spec of one append: `a` joins the group of `k`, created after the
others when `k` is new, and no other group changes. -/
theorem lookup_appendToGroup (groups : List (κ × List α)) (k k' : κ) (a : α) :
    (appendToGroup groups k a).lookup k' =
      if k' = k then some (groupOf groups k' ++ [a]) else groups.lookup k' := by
  unfold appendToGroup groupOf
  split
  · next hany =>
    rw [lookup_map_append]
    by_cases hk : k' = k
    · subst hk
      cases hl : groups.lookup k' with
      | none =>
        have := List.lookup_eq_none_iff.1 hl
        obtain ⟨e, he, hek⟩ := List.any_eq_true.1 hany
        simp only [decide_eq_true_eq] at hek
        simpa [hek] using this e he
      | some l => simp
    · simp [hk]
  · next hany =>
    rw [List.lookup_append]
    by_cases hk : k' = k
    · subst hk
      rw [any_fst_eq_iff] at hany
      simp [lookup_eq_none_of_not_mem hany]
    · have hne : (k' == k) = false := by simpa using hk
      cases groups.lookup k' <;> simp [List.lookup_cons, hk, hne]

theorem groupOf_appendToGroup (groups : List (κ × List α)) (k k' : κ) (a : α) :
    groupOf (appendToGroup groups k a) k' = groupOf groups k' ++ if k' = k then [a] else [] := by
  rw [groupOf, lookup_appendToGroup]
  by_cases hk : k' = k <;> simp [hk, groupOf]

theorem keys_appendToGroup (groups : List (κ × List α)) (k : κ) (a : α) :
    keys (appendToGroup groups k a) = if k ∈ keys groups then keys groups else keys groups ++ [k] := by
  unfold appendToGroup
  by_cases hk : k ∈ keys groups
  · rw [if_pos ((any_fst_eq_iff groups k).2 hk), if_pos hk]
    simp only [keys, List.map_map]
    congr 1
    funext e
    by_cases he : e.1 = k <;> simp [he]
  · rw [if_neg (mt (any_fst_eq_iff groups k).1 hk), if_neg hk]
    simp [keys]

theorem groupOf_foldl_appendToGroup (key : α → κ) (k : κ) :
    ∀ (xs : List α) (groups : List (κ × List α)),
      groupOf (xs.foldl (fun groups x => appendToGroup groups (key x) x) groups) k =
        groupOf groups k ++ xs.filter (key · = k)
  | [], _ => by simp
  | x :: xs, groups => by
    rw [List.foldl_cons, groupOf_foldl_appendToGroup key k xs, groupOf_appendToGroup]
    by_cases hk : k = key x
    · simp [hk]
    · have hk' : key x ≠ k := fun h => hk h.symm
      simp [hk, hk']

theorem mem_keys_foldl_appendToGroup (key : α → κ) (k : κ) :
    ∀ (xs : List α) (groups : List (κ × List α)),
      k ∈ keys (xs.foldl (fun groups x => appendToGroup groups (key x) x) groups) ↔
        k ∈ keys groups ∨ ∃ x ∈ xs, key x = k
  | [], _ => by simp
  | x :: xs, groups => by
    have hex : (∃ y ∈ x :: xs, key y = k) ↔ key x = k ∨ ∃ y ∈ xs, key y = k := by simp
    rw [List.foldl_cons, mem_keys_foldl_appendToGroup key k xs, keys_appendToGroup, hex]
    split
    · next hx =>
      constructor
      · rintro (h | h)
        · exact .inl h
        · exact .inr (.inr h)
      · rintro (h | rfl | h)
        · exact .inl h
        · exact .inl hx
        · exact .inr h
    · rw [List.mem_append, List.mem_singleton]
      constructor
      · rintro ((h | rfl) | h)
        · exact .inl h
        · exact .inr (.inl rfl)
        · exact .inr (.inr h)
      · rintro (h | rfl | h)
        · exact .inl (.inl h)
        · exact .inl (.inr rfl)
        · exact .inr h

theorem nodup_keys_foldl_appendToGroup (key : α → κ) :
    ∀ (xs : List α) {groups : List (κ × List α)}, (keys groups).Nodup →
      (keys (xs.foldl (fun groups x => appendToGroup groups (key x) x) groups)).Nodup
  | [], _, h => h
  | x :: xs, groups, h => by
    rw [List.foldl_cons]
    apply nodup_keys_foldl_appendToGroup key xs
    rw [keys_appendToGroup]
    split
    · exact h
    · next hx =>
      rw [← List.concat_eq_append]
      exact h.concat hx

theorem groupOf_groupBy (key : α → κ) (xs : List α) (k : κ) :
    groupOf (groupBy key xs) k = xs.filter (key · = k) := by
  unfold groupBy
  rw [groupOf_foldl_appendToGroup]
  simp [groupOf]

theorem mem_keys_groupBy (key : α → κ) (xs : List α) (k : κ) :
    k ∈ keys (groupBy key xs) ↔ ∃ x ∈ xs, key x = k := by
  unfold groupBy
  rw [mem_keys_foldl_appendToGroup]
  simp [keys]

theorem nodup_keys_groupBy (key : α → κ) (xs : List α) : (keys (groupBy key xs)).Nodup :=
  nodup_keys_foldl_appendToGroup key xs List.nodup_nil

/-- With each key once, the group found under a key is the group stored with it. -/
theorem lookup_of_mem {groups : List (κ × List α)} (h : (keys groups).Nodup) {e : κ × List α}
    (he : e ∈ groups) : groups.lookup e.1 = some e.2 := by
  induction groups with
  | nil => exact absurd he List.not_mem_nil
  | cons e' groups ih =>
    obtain ⟨k', l'⟩ := e'
    simp only [keys, List.map_cons, List.nodup_cons] at h
    rcases List.mem_cons.1 he with rfl | he
    · simp
    · have hne : e.1 ≠ k' := fun hk => h.1 (hk ▸ List.mem_map_of_mem he)
      have hb : (e.1 == k') = false := by simpa using hne
      simp only [List.lookup_cons, hb]
      exact ih h.2 he

/-- Each group of `groupBy` holds exactly the elements of its key, in order. -/
theorem snd_of_mem_groupBy {key : α → κ} {xs : List α} {e : κ × List α} (he : e ∈ groupBy key xs) :
    e.2 = xs.filter (key · = e.1) := by
  have h := lookup_of_mem (nodup_keys_groupBy key xs) he
  rw [← groupOf_groupBy, groupOf, h, Option.getD_some]

end GatewayFabric.Grouping
