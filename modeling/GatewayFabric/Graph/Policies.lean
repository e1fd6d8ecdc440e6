/-
Which policies stay valid when policies of one kind target the same resource
(`markConflictedPolicies`, `state/graph/policies.go`), and when two
UpstreamSettingsPolicies conflict (`conflicts`,
`nginx/config/policies/upstreamsettings/validator.go`).

The map of policies is a list in the order Go ranges over it, and a group
holds indices into that list, as Go's groups hold pointers: a policy marked
invalid in one group is seen invalid by every later group. Go ranges over
the groups in an order of its own: `markConflictedPoliciesIn` takes the
groups in any order, and `markConflictedPolicies` in the order their keys are
first met.

The main results: after the marking, in any order of the groups, two valid
policies of one kind with a common target do not conflict, for any validator
whose `Conflicts` is symmetric (`markConflictedPolicies_valid_pair`); the UpstreamSettingsPolicy
validator's is (`UpstreamSettings.conflicts_comm`); and which policies stay
valid depends on the order in which the map is ranged over.
-/
import GatewayFabric.Graph.Routes
import GatewayFabric.Lib.Grouping

namespace GatewayFabric.Graph

open Dataplane

/-! ## Policies -/

/-- `schema.GroupVersionKind`. -/
structure GroupVersionKind where
  group : String
  version : String
  kind : String
  deriving Repr, DecidableEq

/-- `PolicyTargetRef`: a resource a policy targets. -/
structure PolicyTargetRef where
  kind : String
  group : String
  nsName : NamespacedName
  deriving Repr, DecidableEq

/-- `PolicyKey`, the key of a policy in the graph's map of policies. -/
structure PolicyKey where
  nsName : NamespacedName
  gvk : GroupVersionKind
  deriving Repr, DecidableEq

/-- `conditions.Condition`, with its status as a Boolean. -/
structure PolicyCondition where
  type : String
  status : Bool
  reason : String
  message : String
  deriving Repr, DecidableEq

def newPolicyConflicted (msg : String) : PolicyCondition :=
  { type := "Accepted", status := false, reason := "Conflicted", message := msg }

/-- `Policy` as `markConflictedPolicies` reads and writes it: the metadata of
its source, the part of its source the validator compares (`σ`), its targets,
its conditions and whether it is valid. -/
structure Policy (σ : Type) where
  source : ObjectMeta
  spec : σ
  targetRefs : List PolicyTargetRef
  conditions : List PolicyCondition := []
  valid : Bool
  deriving Repr, DecidableEq

/-- The key of a group of policies that may conflict: one kind, one target. -/
structure PolicyGroupKey where
  policyGVK : GroupVersionKind
  targetRef : PolicyTargetRef
  deriving Repr, DecidableEq

section Marking

variable {σ : Type} (conflicts : σ → σ → Bool)

/-- `possibles[ak] = append(possibles[ak], policy)`, a new key's group made
after those met before. -/
def appendPossible (possibles : List (PolicyGroupKey × List Nat)) (ak : PolicyGroupKey) (i : Nat) :
    List (PolicyGroupKey × List Nat) :=
  Grouping.appendToGroup possibles ak i

/-- One policy's turn in the first loop of `markConflictedPolicies`: a valid
policy joins the group of its kind and each of its targets. -/
def addPossiblePolicy (possibles : List (PolicyGroupKey × List Nat)) (kp : PolicyKey × Policy σ) (i : Nat) :
    List (PolicyGroupKey × List Nat) :=
  if kp.2.valid then
    kp.2.targetRefs.foldl (fun possibles ref => appendPossible possibles ⟨kp.1.gvk, ref⟩ i) possibles
  else possibles

def possiblePolicyGroups (pols : List (PolicyKey × Policy σ)) : List (PolicyGroupKey × List Nat) :=
  pols.zipIdx.foldl (fun possibles e => addPossiblePolicy possibles e.1 e.2) []

def isValid (pols : List (PolicyKey × Policy σ)) (i : Nat) : Bool := pols[i]?.any (·.2.valid)

/-- `validator.Conflicts(policyList[i].Source, policyList[j].Source)`. -/
def conflictsAt (pols : List (PolicyKey × Policy σ)) (i j : Nat) : Bool :=
  match pols[i]?, pols[j]? with
  | some a, some b => conflicts a.2.spec b.2.spec
  | _, _ => false

/-- `ngfsort.LessClientObject` on the sources of two policies. -/
def policyLess (pols : List (PolicyKey × Policy σ)) (i j : Nat) : Bool :=
  match pols[i]?, pols[j]? with
  | some a, some b => lessClientObject a.2.source b.2.source
  | _, _ => false

/-- A policy marked invalid by a conflict, its condition naming its kind. -/
def markConflicted (kp : PolicyKey × Policy σ) : PolicyKey × Policy σ :=
  (kp.1, { kp.2 with
    valid := false
    conditions := kp.2.conditions ++ [newPolicyConflicted ("Conflicts with another " ++ kp.1.gvk.kind)] })

/-- The inner loop: the policy at `i` marks each later valid policy of its
group that it conflicts with. -/
def invalidateConflicting (i : Nat) (pols : List (PolicyKey × Policy σ)) (rest : List Nat) :
    List (PolicyKey × Policy σ) :=
  rest.foldl (fun pols j =>
    if isValid pols j && conflictsAt conflicts pols i j then pols.modify j markConflicted else pols) pols

/-- The outer loop over a sorted group, highest priority first. -/
def markConflictedInGroup : List (PolicyKey × Policy σ) → List Nat → List (PolicyKey × Policy σ)
  | pols, [] => pols
  | pols, i :: rest =>
    let pols := if isValid pols i then invalidateConflicting conflicts i pols rest else pols
    markConflictedInGroup pols rest

/-- One group's turn in the second loop of `markConflictedPolicies`: sorted
into priority order, then marked. -/
def markPolicyGroup (pols : List (PolicyKey × Policy σ)) (policyList : List Nat) : List (PolicyKey × Policy σ) :=
  if policyList.length = 1 then pols
  else markConflictedInGroup conflicts pols (sortStable (policyLess pols) policyList)

/-- The second loop of `markConflictedPolicies`, over the groups in the
order `groups` gives them: Go ranges over its map of groups in any order. -/
def markConflictedPoliciesIn (groups : List (PolicyGroupKey × List Nat)) (pols : List (PolicyKey × Policy σ)) :
    List (PolicyKey × Policy σ) :=
  groups.foldl (fun pols g => markPolicyGroup conflicts pols g.2) pols

/-- `markConflictedPolicies`, with the groups in the order their keys were
first met, one of the orders of the map. -/
def markConflictedPolicies (pols : List (PolicyKey × Policy σ)) : List (PolicyKey × Policy σ) :=
  markConflictedPoliciesIn conflicts (possiblePolicyGroups pols) pols

end Marking

/-! ## The groups -/

section Possibles

variable {σ : Type}

/-- The groups of `ps'` hold at least the indices of those of `ps`. -/
def KeepsGroups (ps ps' : List (PolicyGroupKey × List Nat)) : Prop :=
  ∀ k n, n ∈ Grouping.groupOf ps k → n ∈ Grouping.groupOf ps' k

theorem KeepsGroups.trans {ps₁ ps₂ ps₃ : List (PolicyGroupKey × List Nat)} (h₁ : KeepsGroups ps₁ ps₂)
    (h₂ : KeepsGroups ps₂ ps₃) : KeepsGroups ps₁ ps₃ := fun k n h => h₂ k n (h₁ k n h)

theorem keepsGroups_appendPossible (ps : List (PolicyGroupKey × List Nat)) (ak : PolicyGroupKey) (i : Nat) :
    KeepsGroups ps (appendPossible ps ak i) := by
  intro k n hn
  rw [appendPossible, Grouping.groupOf_appendToGroup]
  exact List.mem_append_left _ hn

theorem keepsGroups_foldl_appendPossible (gvk : GroupVersionKind) (i : Nat) :
    ∀ (refs : List PolicyTargetRef) (ps : List (PolicyGroupKey × List Nat)),
      KeepsGroups ps (refs.foldl (fun ps ref => appendPossible ps ⟨gvk, ref⟩ i) ps)
  | [], _ => fun _ _ h => h
  | _ :: refs, ps =>
    (keepsGroups_appendPossible ps _ i).trans (keepsGroups_foldl_appendPossible gvk i refs _)

theorem mem_foldl_appendPossible (gvk : GroupVersionKind) (i : Nat) :
    ∀ (refs : List PolicyTargetRef) (ps : List (PolicyGroupKey × List Nat)), ∀ ref ∈ refs,
      i ∈ Grouping.groupOf (refs.foldl (fun ps ref => appendPossible ps ⟨gvk, ref⟩ i) ps) ⟨gvk, ref⟩
  | [], _, _, h => absurd h List.not_mem_nil
  | _ :: refs, ps, ref, h => by
    rw [List.foldl_cons]
    rcases List.mem_cons.1 h with rfl | h
    · apply keepsGroups_foldl_appendPossible gvk i refs
      simp [appendPossible, Grouping.groupOf_appendToGroup]
    · exact mem_foldl_appendPossible gvk i refs _ ref h

theorem keepsGroups_addPossiblePolicy (ps : List (PolicyGroupKey × List Nat)) (kp : PolicyKey × Policy σ) (i : Nat) :
    KeepsGroups ps (addPossiblePolicy ps kp i) := by
  unfold addPossiblePolicy
  split
  · exact keepsGroups_foldl_appendPossible _ i _ ps
  · exact fun _ _ h => h

theorem keepsGroups_foldl_addPossiblePolicy :
    ∀ (xs : List ((PolicyKey × Policy σ) × Nat)) (ps : List (PolicyGroupKey × List Nat)),
      KeepsGroups ps (xs.foldl (fun ps e => addPossiblePolicy ps e.1 e.2) ps)
  | [], _ => fun _ _ h => h
  | e :: xs, ps => (keepsGroups_addPossiblePolicy ps e.1 e.2).trans (keepsGroups_foldl_addPossiblePolicy xs _)

theorem mem_foldl_addPossiblePolicy {kp : PolicyKey × Policy σ} {i : Nat} (hv : kp.2.valid = true)
    {ref : PolicyTargetRef} (href : ref ∈ kp.2.targetRefs) :
    ∀ (xs : List ((PolicyKey × Policy σ) × Nat)) (ps : List (PolicyGroupKey × List Nat)), (kp, i) ∈ xs →
      i ∈ Grouping.groupOf (xs.foldl (fun ps e => addPossiblePolicy ps e.1 e.2) ps) ⟨kp.1.gvk, ref⟩
  | [], _, h => absurd h List.not_mem_nil
  | e :: xs, ps, h => by
    rw [List.foldl_cons]
    rcases List.mem_cons.1 h with rfl | h
    · apply keepsGroups_foldl_addPossiblePolicy xs
      simp only [addPossiblePolicy, hv, if_true]
      exact mem_foldl_appendPossible _ i _ ps ref href
    · exact mem_foldl_addPossiblePolicy hv href xs _ h

/-- After the first loop, a valid policy is in the group of its kind and of
each of its targets. -/
theorem mem_possiblePolicyGroups {pols : List (PolicyKey × Policy σ)} {i : Nat} {kp : PolicyKey × Policy σ}
    (hi : pols[i]? = some kp) (hv : kp.2.valid = true) {ref : PolicyTargetRef} (href : ref ∈ kp.2.targetRefs) :
    i ∈ Grouping.groupOf (possiblePolicyGroups pols) ⟨kp.1.gvk, ref⟩ :=
  mem_foldl_addPossiblePolicy hv href pols.zipIdx [] (List.mem_zipIdx_iff_getElem?.2 hi)

end Possibles

/-! ## Marking: a policy is left as it was, or was valid and is marked once -/

section Marks

variable {σ : Type} {conflicts : σ → σ → Bool}

/-- What marking never changes of a policy. -/
def policyView (kp : PolicyKey × Policy σ) : PolicyKey × ObjectMeta × σ × List PolicyTargetRef :=
  (kp.1, kp.2.source, kp.2.spec, kp.2.targetRefs)

/-- `pols'` is `pols` with some of its valid policies marked conflicted. -/
structure Marks (pols pols' : List (PolicyKey × Policy σ)) : Prop where
  length_eq : pols'.length = pols.length
  getElem?_eq : ∀ {i : Nat} {kp : PolicyKey × Policy σ}, pols[i]? = some kp →
    pols'[i]? = some kp ∨ kp.2.valid = true ∧ pols'[i]? = some (markConflicted kp)

theorem Marks.refl (pols : List (PolicyKey × Policy σ)) : Marks pols pols := ⟨rfl, fun h => .inl h⟩

theorem Marks.trans {pols₁ pols₂ pols₃ : List (PolicyKey × Policy σ)} (h₁ : Marks pols₁ pols₂)
    (h₂ : Marks pols₂ pols₃) : Marks pols₁ pols₃ := by
  refine ⟨h₂.length_eq.trans h₁.length_eq, fun {i kp} hi => ?_⟩
  rcases h₁.getElem?_eq hi with h | ⟨hv, h⟩
  · exact h₂.getElem?_eq h
  · rcases h₂.getElem?_eq h with h' | ⟨hv', -⟩
    · exact .inr ⟨hv, h'⟩
    · simp [markConflicted] at hv'

theorem marks_modify_markConflicted {pols : List (PolicyKey × Policy σ)} {j : Nat} (hj : isValid pols j = true) :
    Marks pols (pols.modify j markConflicted) := by
  refine ⟨List.length_modify _ _ _, fun {i kp} hi => ?_⟩
  rw [List.getElem?_modify, hi]
  by_cases hji : j = i
  · subst hji
    simp only [isValid, hi, Option.any_some] at hj
    exact .inr ⟨hj, by simp⟩
  · exact .inl (by simp [hji])

theorem Marks.getElem?_eq_none {pols pols' : List (PolicyKey × Policy σ)} (h : Marks pols pols') {i : Nat}
    (hi : pols[i]? = none) : pols'[i]? = none := by
  rw [List.getElem?_eq_none_iff] at hi ⊢
  rw [h.length_eq]
  exact hi

theorem Marks.getElem?_map_view {pols pols' : List (PolicyKey × Policy σ)} (h : Marks pols pols') (i : Nat) :
    pols'[i]?.map policyView = pols[i]?.map policyView := by
  cases hi : pols[i]? with
  | none => simp [h.getElem?_eq_none hi]
  | some kp => rcases h.getElem?_eq hi with h' | ⟨-, h'⟩ <;> simp [h', markConflicted, policyView]

theorem Marks.valid_imp {pols pols' : List (PolicyKey × Policy σ)} (h : Marks pols pols') {i : Nat}
    (hv : isValid pols' i = true) : isValid pols i = true := by
  cases hi : pols[i]? with
  | none => simp [isValid, h.getElem?_eq_none hi] at hv
  | some kp =>
    rcases h.getElem?_eq hi with h' | ⟨hkv, -⟩
    · simpa [isValid, hi, h'] using hv
    · simp [isValid, hi, hkv]

/-- A valid policy after the marking was valid before it, with the same key and targets. -/
theorem Marks.valid_before {pols pols' : List (PolicyKey × Policy σ)} (h : Marks pols pols') {i : Nat}
    {k : PolicyKey} {p' : Policy σ} (hi : pols'[i]? = some (k, p')) (hv : p'.valid = true) :
    ∃ p, pols[i]? = some (k, p) ∧ p.valid = true ∧ p.targetRefs = p'.targetRefs := by
  have hview := h.getElem?_map_view i
  have hvalid := h.valid_imp (i := i) (by simp [isValid, hi, hv])
  rw [hi] at hview
  cases hp : pols[i]? with
  | none => simp [hp] at hview
  | some kp =>
    rw [hp] at hview
    simp only [Option.map_some, Option.some.injEq, policyView, Prod.mk.injEq] at hview
    obtain ⟨rfl, -, -, htr⟩ := hview
    exact ⟨kp.2, rfl, by simpa [isValid, hp] using hvalid, htr.symm⟩

theorem conflictsAt_congr {pols pols' : List (PolicyKey × Policy σ)} (h : Marks pols pols') (i j : Nat) :
    conflictsAt conflicts pols' i j = conflictsAt conflicts pols i j := by
  have hi := h.getElem?_map_view i
  have hj := h.getElem?_map_view j
  unfold conflictsAt
  cases hi' : pols'[i]? <;> cases hj' : pols'[j]? <;> cases hi'' : pols[i]? <;> cases hj'' : pols[j]? <;>
    simp_all [policyView]

theorem conflictsAt_comm (hsymm : ∀ a b, conflicts a b = conflicts b a) (pols : List (PolicyKey × Policy σ))
    (i j : Nat) : conflictsAt conflicts pols i j = conflictsAt conflicts pols j i := by
  unfold conflictsAt
  cases pols[i]? <;> cases pols[j]? <;> simp [hsymm]

@[simp]
theorem isValid_modify_markConflicted (pols : List (PolicyKey × Policy σ)) (j : Nat) :
    isValid (pols.modify j markConflicted) j = false := by
  rw [isValid, List.getElem?_modify]
  cases pols[j]? <;> simp [markConflicted]

end Marks

/-! ## No valid conflicts within a group -/

section Groups

variable {σ : Type} {conflicts : σ → σ → Bool}

/-- No two valid policies of the group `l` conflict. -/
def NoValidConflicts (conflicts : σ → σ → Bool) (pols : List (PolicyKey × Policy σ)) (l : List Nat) : Prop :=
  ∀ a ∈ l, ∀ b ∈ l, a ≠ b → isValid pols a = true → isValid pols b = true → conflictsAt conflicts pols a b = false

theorem NoValidConflicts.marks {pols pols' : List (PolicyKey × Policy σ)} {l : List Nat}
    (h : NoValidConflicts conflicts pols l) (hinv : Marks pols pols') : NoValidConflicts conflicts pols' l := by
  intro a ha b hb hab hva hvb
  rw [conflictsAt_congr hinv]
  exact h a ha b hb hab (hinv.valid_imp hva) (hinv.valid_imp hvb)

theorem NoValidConflicts.of_perm {pols : List (PolicyKey × Policy σ)} {l l' : List Nat}
    (h : NoValidConflicts conflicts pols l) (hp : l'.Perm l) : NoValidConflicts conflicts pols l' :=
  fun a ha b hb => h a (hp.mem_iff.1 ha) b (hp.mem_iff.1 hb)

theorem noValidConflicts_singleton (pols : List (PolicyKey × Policy σ)) (x : Nat) :
    NoValidConflicts conflicts pols [x] := by
  intro a ha b hb hab
  rw [List.mem_singleton] at ha hb
  exact absurd (ha.trans hb.symm) hab

theorem invalidateConflicting_cons (i j : Nat) (pols : List (PolicyKey × Policy σ)) (rest : List Nat) :
    invalidateConflicting conflicts i pols (j :: rest) =
      invalidateConflicting conflicts i
        (if isValid pols j && conflictsAt conflicts pols i j then pols.modify j markConflicted else pols) rest :=
  rfl

theorem marks_invalidateConflicting (i : Nat) :
    ∀ (rest : List Nat) (pols : List (PolicyKey × Policy σ)),
      Marks pols (invalidateConflicting conflicts i pols rest)
  | [], pols => .refl pols
  | j :: rest, pols => by
    rw [invalidateConflicting_cons]
    refine Marks.trans ?_ (marks_invalidateConflicting i rest _)
    split
    · next hc => exact marks_modify_markConflicted (Bool.and_eq_true_iff.1 hc).1
    · exact .refl pols

/-- The inner loop's spec: a later policy of the group left valid does not
conflict with the one at `i`. -/
theorem invalidateConflicting_spec (i : Nat) :
    ∀ (rest : List Nat) (pols : List (PolicyKey × Policy σ)), ∀ j ∈ rest,
      isValid (invalidateConflicting conflicts i pols rest) j = true →
        conflictsAt conflicts (invalidateConflicting conflicts i pols rest) i j = false
  | [], _, _, h => absurd h List.not_mem_nil
  | j₀ :: rest, pols, j, hj => by
    rw [invalidateConflicting_cons]
    rcases List.mem_cons.1 hj with rfl | hj
    · intro hv
      by_cases hc : (isValid pols j && conflictsAt conflicts pols i j) = true
      · -- marked here, `j` stays invalid through the rest of the loop
        rw [if_pos hc] at hv
        have := (marks_invalidateConflicting i rest _).valid_imp hv
        simp at this
      · rw [if_neg hc] at hv ⊢
        have hinv : Marks pols (invalidateConflicting conflicts i pols rest) := marks_invalidateConflicting i rest pols
        rw [conflictsAt_congr hinv]
        simpa [hinv.valid_imp hv] using hc
    · exact invalidateConflicting_spec i rest _ j hj

theorem markConflictedInGroup_cons (pols : List (PolicyKey × Policy σ)) (i : Nat) (rest : List Nat) :
    markConflictedInGroup conflicts pols (i :: rest) =
      markConflictedInGroup conflicts
        (if isValid pols i then invalidateConflicting conflicts i pols rest else pols) rest :=
  rfl

theorem marks_markConflictedInGroup :
    ∀ (pols : List (PolicyKey × Policy σ)) (l : List Nat), Marks pols (markConflictedInGroup conflicts pols l)
  | pols, [] => .refl pols
  | pols, i :: rest => by
    rw [markConflictedInGroup_cons]
    refine Marks.trans ?_ (marks_markConflictedInGroup _ rest)
    split
    · exact marks_invalidateConflicting i rest pols
    · exact .refl pols

/-- The head of a group, valid at the end, was valid when its turn came, and
then marked every later policy it conflicts with. -/
theorem markConflictedInGroup_head (pols : List (PolicyKey × Policy σ)) (i : Nat) (rest : List Nat) {b : Nat}
    (hb : b ∈ rest) (hvi : isValid (markConflictedInGroup conflicts pols (i :: rest)) i = true)
    (hvb : isValid (markConflictedInGroup conflicts pols (i :: rest)) b = true) :
    conflictsAt conflicts (markConflictedInGroup conflicts pols (i :: rest)) i b = false := by
  rw [markConflictedInGroup_cons] at hvi hvb ⊢
  have hinv : Marks (if isValid pols i then invalidateConflicting conflicts i pols rest else pols)
      (markConflictedInGroup conflicts (if isValid pols i then invalidateConflicting conflicts i pols rest else pols) rest) :=
    marks_markConflictedInGroup _ rest
  rw [conflictsAt_congr hinv]
  have hvi₁ := hinv.valid_imp hvi
  have hvb₁ := hinv.valid_imp hvb
  by_cases hi : isValid pols i = true
  · rw [if_pos hi] at hvb₁ ⊢
    exact invalidateConflicting_spec i rest pols b hb hvb₁
  · rw [if_neg hi] at hvi₁
    exact absurd hvi₁ hi

theorem markConflictedInGroup_spec (hsymm : ∀ a b, conflicts a b = conflicts b a) :
    ∀ (pols : List (PolicyKey × Policy σ)) (l : List Nat), NoValidConflicts conflicts (markConflictedInGroup conflicts pols l) l
  | _, [] => fun _ h => absurd h List.not_mem_nil
  | pols, i :: rest => by
    intro a ha b hb hab hva hvb
    rcases List.mem_cons.1 ha with rfl | ha' <;> rcases List.mem_cons.1 hb with rfl | hb'
    · exact absurd rfl hab
    · exact markConflictedInGroup_head pols a rest hb' hva hvb
    · rw [conflictsAt_comm hsymm]
      exact markConflictedInGroup_head pols b rest ha' hvb hva
    · rw [markConflictedInGroup_cons] at hva hvb ⊢
      exact markConflictedInGroup_spec hsymm _ rest a ha' b hb' hab hva hvb

theorem marks_markPolicyGroup (pols : List (PolicyKey × Policy σ)) (l : List Nat) :
    Marks pols (markPolicyGroup conflicts pols l) := by
  unfold markPolicyGroup
  split
  · exact .refl pols
  · exact marks_markConflictedInGroup pols _

theorem markPolicyGroup_spec (hsymm : ∀ a b, conflicts a b = conflicts b a) (pols : List (PolicyKey × Policy σ))
    (l : List Nat) : NoValidConflicts conflicts (markPolicyGroup conflicts pols l) l := by
  unfold markPolicyGroup
  split
  · next h =>
    obtain ⟨x, rfl⟩ := List.length_eq_one_iff.1 h
    exact noValidConflicts_singleton pols x
  · exact (markConflictedInGroup_spec hsymm pols _).of_perm (perm_sortStable _ _).symm

theorem marks_markConflictedPoliciesIn :
    ∀ (groups : List (PolicyGroupKey × List Nat)) (pols : List (PolicyKey × Policy σ)),
      Marks pols (markConflictedPoliciesIn conflicts groups pols)
  | [], pols => .refl pols
  | g :: groups, pols => (marks_markPolicyGroup pols g.2).trans (marks_markConflictedPoliciesIn groups _)

/-- The second loop: each group, once marked, stays free of valid conflicts
while the later groups mark more policies. -/
theorem markConflictedPoliciesIn_spec (hsymm : ∀ a b, conflicts a b = conflicts b a) :
    ∀ (groups : List (PolicyGroupKey × List Nat)) (pols : List (PolicyKey × Policy σ)), ∀ g ∈ groups,
      NoValidConflicts conflicts (markConflictedPoliciesIn conflicts groups pols) g.2
  | [], _, _, h => absurd h List.not_mem_nil
  | g :: groups, pols, g', hg' => by
    unfold markConflictedPoliciesIn
    rw [List.foldl_cons]
    rcases List.mem_cons.1 hg' with rfl | hg'
    · exact (markPolicyGroup_spec hsymm pols g'.2).marks (marks_markConflictedPoliciesIn groups _)
    · exact markConflictedPoliciesIn_spec hsymm groups _ g' hg'

/-- Two policies of one kind left valid by the marking with a common target
do not conflict, in whatever order the groups of the map are ranged over. -/
theorem markConflictedPolicies_valid_pair (hsymm : ∀ a b, conflicts a b = conflicts b a)
    (pols : List (PolicyKey × Policy σ)) {groups : List (PolicyGroupKey × List Nat)}
    (hgroups : groups.Perm (possiblePolicyGroups pols)) {i j : Nat} (hij : i ≠ j) {ki kj : PolicyKey}
    {pi pj : Policy σ} (hi : (markConflictedPoliciesIn conflicts groups pols)[i]? = some (ki, pi))
    (hj : (markConflictedPoliciesIn conflicts groups pols)[j]? = some (kj, pj)) (hvi : pi.valid = true)
    (hvj : pj.valid = true) (hgvk : ki.gvk = kj.gvk) {ref : PolicyTargetRef} (hri : ref ∈ pi.targetRefs)
    (hrj : ref ∈ pj.targetRefs) :
    conflicts pi.spec pj.spec = false := by
  obtain ⟨pi₀, hi₀, hvi₀, hti⟩ := (marks_markConflictedPoliciesIn groups pols).valid_before hi hvi
  obtain ⟨pj₀, hj₀, hvj₀, htj⟩ := (marks_markConflictedPoliciesIn groups pols).valid_before hj hvj
  have hmi := mem_possiblePolicyGroups hi₀ hvi₀ (hti ▸ hri)
  have hmj := mem_possiblePolicyGroups hj₀ hvj₀ (htj ▸ hrj)
  simp only [← hgvk] at hmj
  cases hl : (possiblePolicyGroups pols).lookup ⟨ki.gvk, ref⟩ with
  | none => simp [Grouping.groupOf, hl] at hmi
  | some l =>
    rw [Grouping.groupOf, hl, Option.getD_some] at hmi hmj
    obtain ⟨l₁, l₂, hsplit, -⟩ := List.lookup_eq_some_iff.1 hl
    have hmem : (⟨ki.gvk, ref⟩, l) ∈ groups := hgroups.mem_iff.2 (by rw [hsplit]; simp)
    have := markConflictedPoliciesIn_spec hsymm groups pols _ hmem i hmi j hmj hij (by simp [isValid, hi, hvi])
      (by simp [isValid, hj, hvj])
    simpa [conflictsAt, hi, hj] using this

end Groups

/-! ## UpstreamSettingsPolicy conflicts -/

namespace UpstreamSettings

/-- `UpstreamKeepAlive`. -/
structure UpstreamKeepAlive where
  connections : Option Int32 := none
  requests : Option Int32 := none
  time : Option String := none
  timeout : Option String := none
  deriving Repr, DecidableEq

/-- `UpstreamSettingsPolicySpec`, its target references apart. -/
structure UpstreamSettingsPolicySpec where
  zoneSize : Option String := none
  keepAlive : Option UpstreamKeepAlive := none
  loadBalancingMethod : Option String := none
  hashMethodKey : Option String := none
  useClusterIP : Option Bool := none
  deriving Repr, DecidableEq

/-- Both policies set the field: the test each branch of the validator makes. -/
def bothSet {α β : Type} (field : α → Option β) (a b : α) : Bool := (field a).isSome && (field b).isSome

def resolveConflictsInUpstreamSettings (a b : UpstreamSettingsPolicySpec) : Bool :=
  bothSet (·.loadBalancingMethod) a b || bothSet (·.hashMethodKey) a b || bothSet (·.useClusterIP) a b

def keepAliveConflicts (a b : UpstreamKeepAlive) : Bool :=
  bothSet (·.connections) a b || bothSet (·.requests) a b || bothSet (·.time) a b ||
    bothSet (·.timeout) a b

/-- The validator's early returns, as one disjunction. -/
def conflicts (a b : UpstreamSettingsPolicySpec) : Bool :=
  bothSet (·.zoneSize) a b ||
    (match a.keepAlive, b.keepAlive with
      | some ka, some kb => keepAliveConflicts ka kb
      | _, _ => false) ||
    resolveConflictsInUpstreamSettings a b

theorem bothSet_comm {α β : Type} (field : α → Option β) (a b : α) : bothSet field a b = bothSet field b a :=
  Bool.and_comm _ _

theorem keepAliveConflicts_comm (a b : UpstreamKeepAlive) : keepAliveConflicts a b = keepAliveConflicts b a := by
  simp only [keepAliveConflicts, bothSet_comm _ a b]

theorem resolveConflictsInUpstreamSettings_comm (a b : UpstreamSettingsPolicySpec) :
    resolveConflictsInUpstreamSettings a b = resolveConflictsInUpstreamSettings b a := by
  simp only [resolveConflictsInUpstreamSettings, bothSet_comm _ a b]

/-- The validator's `Conflicts` is symmetric, as `markConflictedPolicies_valid_pair` asks. -/
theorem conflicts_comm (a b : UpstreamSettingsPolicySpec) : conflicts a b = conflicts b a := by
  unfold conflicts
  rw [bothSet_comm _ a b, resolveConflictsInUpstreamSettings_comm a b]
  cases a.keepAlive <;> cases b.keepAlive <;> simp [keepAliveConflicts_comm]

end UpstreamSettings

/-! ## The order of the map -/

open UpstreamSettings

def upstreamSettingsPolicyGVK : GroupVersionKind :=
  { group := "gateway.nginx.org", version := "v1alpha1", kind := "UpstreamSettingsPolicy" }

def serviceTargetRef (name : String) : PolicyTargetRef :=
  { kind := "Service", group := "", nsName := { ns := "default", name := name } }

/-- A valid UpstreamSettingsPolicy in namespace `default`. -/
def upstreamSettingsPolicy (name : String) (created : Nat) (spec : UpstreamSettingsPolicySpec)
    (targets : List String) : PolicyKey × Policy UpstreamSettingsPolicySpec :=
  ({ nsName := { ns := "default", name := name }, gvk := upstreamSettingsPolicyGVK },
    { source := { creationTimestamp := created, ns := "default", name := name }, spec := spec,
      targetRefs := targets.map serviceTargetRef, valid := true })

/-- Two policies on Service `one` that set different fields: both are kept
valid, and they do not conflict. -/
theorem disjoint_policies_kept_valid :
    let pa := upstreamSettingsPolicy "a" 1 { zoneSize := some "64k" } ["one"]
    let pd := upstreamSettingsPolicy "d" 2 { keepAlive := some { connections := some 16 } } ["one"]
    (markConflictedPolicies conflicts [pa, pd])[0]? = some pa ∧
      (markConflictedPolicies conflicts [pa, pd])[1]? = some pd ∧ conflicts pa.2.spec pd.2.spec = false := by
  intro pa pd
  have h0 : (markConflictedPolicies conflicts [pa, pd])[0]? = some pa := by decide +kernel
  have h1 : (markConflictedPolicies conflicts [pa, pd])[1]? = some pd := by decide +kernel
  have hmem : serviceTargetRef "one" ∈ pa.2.targetRefs := by simp [pa, upstreamSettingsPolicy]
  exact ⟨h0, h1, markConflictedPolicies_valid_pair conflicts_comm [pa, pd] (List.Perm.refl _) (by decide) h0 h1
    rfl rfl rfl hmem (by simp [pd, upstreamSettingsPolicy])⟩

/-- Three policies, oldest first: `a` and `b` both set the zone size on
Service `one`, `b` and `c` both set keep-alive connections on Service `two`;
`a` and `c` set nothing in common. -/
def chainedPolicies : List (PolicyKey × Policy UpstreamSettingsPolicySpec) :=
  [upstreamSettingsPolicy "a" 1 { zoneSize := some "64k" } ["one"],
    upstreamSettingsPolicy "b" 2 { zoneSize := some "64k", keepAlive := some { connections := some 16 } }
      ["one", "two"],
    upstreamSettingsPolicy "c" 3 { keepAlive := some { connections := some 32 } } ["two"]]

def validPolicyNames {σ : Type} (pols : List (PolicyKey × Policy σ)) : List String :=
  (pols.filter (·.2.valid)).map (·.1.nsName.name)

/-- Ranged over oldest first, the group of Service `one` is marked first and
`b` is lost to `a`, so `c` keeps its settings; ranged over newest first, the
group of Service `two` comes first, `c` is lost to `b`, then `b` to `a`. -/
theorem policy_conflicts_depend_on_map_order :
    chainedPolicies.reverse.Perm chainedPolicies ∧
      validPolicyNames (markConflictedPolicies conflicts chainedPolicies) = ["a", "c"] ∧
      validPolicyNames (markConflictedPolicies conflicts chainedPolicies.reverse) = ["a"] :=
  ⟨List.reverse_perm _, by decide +kernel, by decide +kernel⟩

end GatewayFabric.Graph
