/-
`DeduplicateConditions` of the `conditions` package: a loop from the last
condition back records, in a map keyed by the condition type, the first
condition it meets of each type with `reverseIdx`, the number of types met
before it; a `range` loop over the map then writes each recorded condition
into a slice of the map's size at `len - reverseIdx - 1`.

`deduplicateConditions_eq`: whatever order the range loop visits the map in,
the result is `lastOfEachType conds`, the condition of each type that comes
last, in the order of `conds`, and no write panics. The map the first loop
builds is `entriesOf (lastOfEachType conds)` (`collect_eq`); its indices are
distinct and in range, so the order of the writes is that of the conditions
(`Slices.writeAll_perm`).
-/
import Mathlib.Data.List.Nodup
import GatewayFabric.Lib.Slices

namespace GatewayFabric.Conditions

open Slices

/-- A condition of a resource's status. -/
structure Condition where
  type : String
  /-- `metav1.ConditionStatus` -/
  status : String
  reason : String
  message : String
  deriving Repr, DecidableEq, Inhabited

/-- A condition recorded by the first loop, with the number of types met
before it. -/
structure Elem where
  cond : Condition
  reverseIdx : Nat
  deriving Repr, DecidableEq

/-- One step of the loop `for i := len(conds) - 1; i >= 0; i--`: the map so
far and `idx`. -/
def collectStep (acc : List (String × Elem) × Nat) (c : Condition) : List (String × Elem) × Nat :=
  if (acc.1.lookup c.type).isSome then acc
  else ((c.type, { cond := c, reverseIdx := acc.2 }) :: acc.1, acc.2 + 1)

/-- The map `uniqueElems` and `idx` after the first loop. -/
def collect (conds : List Condition) : List (String × Elem) × Nat :=
  conds.reverse.foldl collectStep ([], 0)

/-- `result[len(result)-el.reverseIdx-1] = el.cond`. -/
def place (len : Nat) (entry : String × Elem) : Int × Condition :=
  ((len : Int) - entry.2.reverseIdx - 1, entry.2.cond)

/-- `DeduplicateConditions`, with `visit` the order in which the range loop
visits the map's entries; none when a write panics. -/
def deduplicateConditions (conds : List Condition) (visit : List (String × Elem)) : Option (List Condition) :=
  let uniqueElems := (collect conds).1
  writeAll place visit (List.replicate uniqueElems.length default)

/-! ## The last condition of each type -/

/-- The conditions no later condition shares a type with, in order. -/
def lastOfEachType : List Condition → List Condition
  | [] => []
  | c :: cs => if cs.any (·.type == c.type) then lastOfEachType cs else c :: lastOfEachType cs

/-- Every type of the conditions is kept. -/
theorem any_lastOfEachType (t : String) :
    ∀ conds : List Condition, (lastOfEachType conds).any (·.type == t) = conds.any (·.type == t)
  | [] => rfl
  | c :: cs => by
    unfold lastOfEachType
    by_cases hc : cs.any (·.type == c.type) = true
    · rw [if_pos hc, any_lastOfEachType t cs, List.any_cons]
      by_cases ht : c.type = t
      · subst ht
        simp [hc]
      · simp [ht]
    · rw [if_neg hc, List.any_cons, List.any_cons, any_lastOfEachType t cs]

/-! ## The map of the first loop -/

/-- The map the first loop records for conditions of distinct types: each
with the number of conditions after it. -/
def entriesOf : List Condition → List (String × Elem)
  | [] => []
  | c :: cs => (c.type, { cond := c, reverseIdx := cs.length }) :: entriesOf cs

theorem isSome_lookup_entriesOf (t : String) :
    ∀ l : List Condition, ((entriesOf l).lookup t).isSome = l.any (·.type == t)
  | [] => rfl
  | c :: cs => by
    rw [entriesOf, List.lookup_cons, List.any_cons]
    by_cases h : t = c.type
    · have heq : (t == c.type) = true := by simp [h]
      have heq' : (c.type == t) = true := by simp [h]
      simp only [heq, heq', Option.isSome_some, Bool.true_or]
    · have hne : (t == c.type) = false := by simpa using h
      have hne' : (c.type == t) = false := by simpa using Ne.symm h
      simp only [hne, hne', Bool.false_or]
      exact isSome_lookup_entriesOf t cs

theorem collect_cons (c : Condition) (cs : List Condition) : collect (c :: cs) = collectStep (collect cs) c := by
  simp [collect, List.foldl_append]

/-- The first loop records the last condition of each type, numbered from
the end. -/
theorem collect_eq : ∀ conds : List Condition,
    collect conds = (entriesOf (lastOfEachType conds), (lastOfEachType conds).length)
  | [] => rfl
  | c :: cs => by
    rw [collect_cons, collect_eq cs]
    simp only [collectStep, lastOfEachType]
    rw [isSome_lookup_entriesOf, any_lastOfEachType]
    split
    · rfl
    · simp [entriesOf]

@[simp] theorem length_entriesOf : ∀ l : List Condition, (entriesOf l).length = l.length
  | [] => rfl
  | c :: cs => by simp [entriesOf, length_entriesOf cs]

theorem reverseIdx_lt_of_mem_entriesOf {l : List Condition} {e : String × Elem} (h : e ∈ entriesOf l) :
    e.2.reverseIdx < l.length := by
  induction l with
  | nil => simp [entriesOf] at h
  | cons c cs ih =>
    rcases List.mem_cons.1 h with rfl | h
    · simp
    · exact Nat.lt_succ_of_lt (ih h)

theorem nodup_reverseIdx_entriesOf : ∀ l : List Condition, ((entriesOf l).map (·.2.reverseIdx)).Nodup
  | [] => List.nodup_nil
  | c :: cs => by
    rw [entriesOf, List.map_cons, List.nodup_cons]
    refine ⟨fun hmem => ?_, nodup_reverseIdx_entriesOf cs⟩
    obtain ⟨e, he, heq⟩ := List.mem_map.1 hmem
    exact Nat.lt_irrefl _ (heq ▸ reverseIdx_lt_of_mem_entriesOf he)

/-! ## The writes -/

/-- The entries of `l`, written in the order of the map, fill the slice
after `pre` with `l`. -/
theorem writeAll_entriesOf : ∀ (l pre : List Condition),
    writeAll place (entriesOf l) (pre ++ List.replicate l.length default) = some (pre ++ l)
  | [], pre => by simp [entriesOf]
  | c :: cs, pre => by
    have hlen : (pre ++ List.replicate (cs.length + 1) default).length = pre.length + cs.length + 1 := by
      simp [Nat.add_assoc]
    have hidx : (place (pre.length + cs.length + 1) (c.type, { cond := c, reverseIdx := cs.length })).1 =
        pre.length := by
      simp only [place]
      omega
    have hwrite : writeAt (pre ++ List.replicate (cs.length + 1) default) pre.length c =
        some ((pre ++ [c]) ++ List.replicate cs.length default) := by
      rw [writeAt_of_lt _ (by omega) (by rw [hlen]; omega)]
      simp [List.replicate_succ]
    rw [entriesOf, List.length_cons, writeAll_cons, hlen, hidx]
    simp only [place]
    rw [hwrite, Option.bind_some, writeAll_entriesOf cs (pre ++ [c])]
    simp

/-- Whatever order the range loop visits the map in, `DeduplicateConditions`
returns the last condition of each type, in order. -/
theorem deduplicateConditions_eq {conds : List Condition} {visit : List (String × Elem)}
    (hvisit : visit.Perm (collect conds).1) : deduplicateConditions conds visit = some (lastOfEachType conds) := by
  unfold deduplicateConditions
  rw [collect_eq] at hvisit ⊢
  dsimp only at hvisit ⊢
  rw [length_entriesOf]
  generalize lastOfEachType conds = l at hvisit ⊢
  set s := List.replicate l.length (default : Condition) with hs
  have hlen : s.length = l.length := List.length_replicate
  have hnd : ((entriesOf l).map fun e => (place s.length e).1).Nodup := by
    have hinj : Function.Injective fun k : Nat => (l.length : Int) - k - 1 := by
      intro a b h
      dsimp only at h
      omega
    have h := List.Nodup.map hinj (nodup_reverseIdx_entriesOf l)
    rw [List.map_map] at h
    rw [hlen]
    exact h
  have hin : ∀ e ∈ entriesOf l, 0 ≤ (place s.length e).1 ∧ (place s.length e).1 < s.length := by
    intro e he
    have := reverseIdx_lt_of_mem_entriesOf he
    simp only [place, hlen]
    omega
  rw [← writeAll_perm hvisit.symm hnd hin, hs]
  simpa using writeAll_entriesOf l []

/-- An `Accepted` condition replaced by a later one, with a `ResolvedRefs`
condition between them. -/
def acceptedTwice : List Condition :=
  [{ type := "Accepted", status := "True", reason := "Accepted", message := "The Route is accepted" },
   { type := "ResolvedRefs", status := "True", reason := "ResolvedRefs", message := "All references are resolved" },
   { type := "Accepted", status := "False", reason := "NoMatchingParent", message := "No matching parent" }]

/-- The later `Accepted` is kept, after `ResolvedRefs`, when the range loop
visits the map in the reverse of the order it was built in. -/
theorem deduplicateConditions_later_accepted :
    deduplicateConditions acceptedTwice (collect acceptedTwice).1.reverse = some acceptedTwice.tail :=
  (deduplicateConditions_eq (List.reverse_perm _)).trans (by decide)

end GatewayFabric.Conditions
