/-
The order the Gateway API's conflict rules give routes, beside the one
`ngfsort.LessObjectMeta` computes. Among routes of one creation time the spec
takes the one first in alphabetical order by "{namespace}/{name}"; the code
compares the namespaces and then the names. The two agree when the namespaces
are equal or neither is a prefix of the other (`lessObjectMeta_eq_specLess`).
When one namespace extends the other by a character below '/', such as the
'-' of a valid namespace "a-b" beside "a", the code puts first the route the
spec puts second (`lessObjectMeta_specLess_of_extends`), and so do
`sortMatchRules` and `oldestValidL4Route`.

The precedence the spec gives the match rules of one path is a lexicographic
key (`precedenceKey`). Where no namespace is a prefix of another,
`sortMatchRules` is the stable sort by that key
(`sortMatchRules_follows_precedence`).
-/
import GatewayFabric.Dataplane.Servers
import Mathlib.Data.Prod.Lex
import Mathlib.Data.String.Basic

namespace GatewayFabric.Dataplane

/-! ## Lists ordered at their first difference -/

section Lex

variable {α : Type} [LT α]

theorem append_lt_append_left_iff [Std.Irrefl (· < · : α → α → Prop)] :
    ∀ (l : List α) {x y : List α}, l ++ x < l ++ y ↔ x < y
  | [], _, _ => Iff.rfl
  | a :: l, x, y => by
    rw [List.cons_append, List.cons_append, List.cons_lt_cons_iff, append_lt_append_left_iff l]
    simp [Std.Irrefl.irrefl a]

/-- Lists neither of which is a prefix of the other are ordered at their first
difference, which nothing appended to them changes. -/
theorem append_lt_append_iff_of_incomparable :
    ∀ {l₁ l₂ : List α} (x y : List α), ¬l₁ <+: l₂ → ¬l₂ <+: l₁ → (l₁ ++ x < l₂ ++ y ↔ l₁ < l₂)
  | [], _, _, _, h, _ => absurd (List.nil_prefix) h
  | _ :: _, [], _, _, _, h => absurd (List.nil_prefix) h
  | a :: l₁, b :: l₂, x, y, h₁, h₂ => by
    rw [List.cons_append, List.cons_append, List.cons_lt_cons_iff, List.cons_lt_cons_iff]
    by_cases hab : a = b
    · subst hab
      rw [List.prefix_cons_inj] at h₁ h₂
      rw [append_lt_append_iff_of_incomparable x y h₁ h₂]
    · simp [hab]

end Lex

/-! ## The spec's order -/

/-- The text the spec orders routes of one creation time by. -/
def conflictKey (m : ObjectMeta) : String := m.ns ++ "/" ++ m.name

/-- The Gateway API's conflict order: the older route first, then the one
whose "{namespace}/{name}" comes first in alphabetical order. -/
def specLess (a b : ObjectMeta) : Bool :=
  if a.creationTimestamp = b.creationTimestamp then decide (conflictKey a < conflictKey b)
  else decide (a.creationTimestamp < b.creationTimestamp)

theorem toList_conflictKey (m : ObjectMeta) : (conflictKey m).toList = m.ns.toList ++ '/' :: m.name.toList := by
  simp [conflictKey, String.toList_append]

/-- The code's order is the spec's when the namespaces are equal or neither
is a prefix of the other. -/
theorem lessObjectMeta_eq_specLess {a b : ObjectMeta}
    (h : a.ns = b.ns ∨ ¬a.ns.toList <+: b.ns.toList ∧ ¬b.ns.toList <+: a.ns.toList) :
    lessObjectMeta a b = specLess a b := by
  unfold lessObjectMeta specLess
  split_ifs with hts hns
  · rw [decide_eq_decide, String.lt_iff, String.lt_iff, toList_conflictKey, toList_conflictKey, hns,
      append_lt_append_left_iff, List.cons_lt_cons_iff]
    simp
  · obtain ⟨h₁, h₂⟩ := h.resolve_left hns
    rw [decide_eq_decide, String.lt_iff, String.lt_iff, toList_conflictKey, toList_conflictKey,
      append_lt_append_iff_of_incomparable _ _ h₁ h₂]
  · rfl

/-- A namespace that extends another by a character below '/' comes after it
for the code and before it for the spec. -/
theorem lessObjectMeta_specLess_of_extends {a b : ObjectMeta} {c : Char} {rest : List Char}
    (hts : a.creationTimestamp = b.creationTimestamp) (hns : b.ns.toList = a.ns.toList ++ c :: rest)
    (hc : c < '/') :
    lessObjectMeta a b = true ∧ specLess b a = true := by
  have hne : a.ns ≠ b.ns := by
    intro h
    rw [h, List.self_eq_append_right] at hns
    exact List.cons_ne_nil c rest hns
  have hlt : a.ns < b.ns := by
    rw [String.lt_iff, hns]
    simpa using @List.append_left_lt _ _ a.ns.toList _ _ (List.nil_lt_cons c rest)
  have hkey : conflictKey b < conflictKey a := by
    rw [String.lt_iff, toList_conflictKey, toList_conflictKey, hns, List.append_assoc, List.cons_append]
    exact List.append_left_lt (List.cons_lt_cons_iff.2 (Or.inl hc))
  constructor
  · simp [lessObjectMeta, hts, hne, hlt]
  · simp [specLess, hts, hkey]

/-! ## The precedence of match rules -/

/-- The Gateway API's precedence among the match rules of one path, most
significant first: a method match, more header matches, more query parameter
matches, the older route, and the route first in alphabetical order by
"{namespace}/{name}". The smaller key has the higher precedence. -/
def precedenceKey (rule : MatchRule) : Bool ×ₗ ℕᵒᵈ ×ₗ ℕᵒᵈ ×ₗ Nat ×ₗ String :=
  toLex (rule.«match».method.isNone, toLex (OrderDual.toDual rule.«match».headers.length,
    toLex (OrderDual.toDual rule.«match».queryParams.length,
      toLex (rule.source.creationTimestamp, conflictKey rule.source))))

def specHigherPriority (rule1 rule2 : MatchRule) : Bool :=
  decide (precedenceKey rule1 < precedenceKey rule2)

section LexSteps

variable {β : Type} [Preorder β]

theorem lt_toLex_bool (p q : Bool) (x y : β) :
    toLex (p, x) < toLex (q, y) ↔ p = false ∧ q = true ∨ p = q ∧ x < y := by
  rw [Prod.Lex.toLex_lt_toLex]
  cases p <;> cases q <;> simp

theorem lt_toLex_dual (m n : Nat) (x y : β) :
    toLex (OrderDual.toDual m, x) < toLex (OrderDual.toDual n, y) ↔ n < m ∨ m = n ∧ x < y := by
  rw [Prod.Lex.toLex_lt_toLex, OrderDual.toDual_lt_toDual, OrderDual.toDual_inj]

end LexSteps

theorem specLess_iff (a b : ObjectMeta) :
    specLess a b = true ↔ toLex (a.creationTimestamp, conflictKey a) < toLex (b.creationTimestamp, conflictKey b) := by
  rw [Prod.Lex.toLex_lt_toLex]
  unfold specLess
  split_ifs with hts <;> simp [hts]

/-- A count of `higherPriority`: more wins, and a tie goes to the next test. -/
theorem more_wins_iff (m n : Nat) (rest : Bool) :
    (if m ≠ n then decide (m > n) else rest) = true ↔ n < m ∨ m = n ∧ rest = true := by
  by_cases h : m = n
  · simp [h]
  · simp only [ne_eq, h, not_false_eq_true, if_true, decide_eq_true_eq, gt_iff_lt, false_and, or_false]

theorem higherPriority_iff (rule1 rule2 : MatchRule) :
    higherPriority rule1 rule2 = true ↔
      rule1.«match».method.isNone = false ∧ rule2.«match».method.isNone = true ∨
        rule1.«match».method.isNone = rule2.«match».method.isNone ∧
          (rule2.«match».headers.length < rule1.«match».headers.length ∨
            rule1.«match».headers.length = rule2.«match».headers.length ∧
              (rule2.«match».queryParams.length < rule1.«match».queryParams.length ∨
                rule1.«match».queryParams.length = rule2.«match».queryParams.length ∧
                  lessObjectMeta rule1.source rule2.source = true)) := by
  unfold higherPriority
  cases rule1.«match».method <;> cases rule2.«match».method <;>
    simp only [Option.isSome_none, Option.isSome_some, Option.isNone_none, Option.isNone_some, Bool.false_and,
      Bool.true_and, Bool.false_eq_true, if_false, if_true, more_wins_iff] <;> simp

/-- The code's comparison is the spec's precedence on two rules whose
namespaces are equal or neither a prefix of the other. -/
theorem higherPriority_eq_specHigherPriority {rule1 rule2 : MatchRule}
    (h : rule1.source.ns = rule2.source.ns ∨
      ¬rule1.source.ns.toList <+: rule2.source.ns.toList ∧ ¬rule2.source.ns.toList <+: rule1.source.ns.toList) :
    higherPriority rule1 rule2 = specHigherPriority rule1 rule2 := by
  rw [Bool.eq_iff_iff, higherPriority_iff, specHigherPriority, decide_eq_true_iff, precedenceKey, precedenceKey,
    lt_toLex_bool, lt_toLex_dual, lt_toLex_dual, ← specLess_iff, lessObjectMeta_eq_specLess h]

/-- Over rules whose namespaces are pairwise equal or neither a prefix of the
other, `sortMatchRules` sorts as the spec's precedence does: it is the stable
sort by `precedenceKey`, and no rule comes before one of higher precedence. -/
theorem sortMatchRules_follows_precedence {rules : List MatchRule}
    (h : ∀ r1 ∈ rules, ∀ r2 ∈ rules, r1.source.ns = r2.source.ns ∨
      ¬r1.source.ns.toList <+: r2.source.ns.toList ∧ ¬r2.source.ns.toList <+: r1.source.ns.toList) :
    sortMatchRules rules = sortStable specHigherPriority rules ∧
      (sortMatchRules rules).Pairwise fun r1 r2 => precedenceKey r1 ≤ precedenceKey r2 := by
  have hsort : sortMatchRules rules = sortStable specHigherPriority rules :=
    sortStable_congr fun r1 h1 r2 h2 => higherPriority_eq_specHigherPriority (h r1 h1 r2 h2)
  exact ⟨hsort, hsort ▸ pairwise_sortStable_key precedenceKey rules⟩

/-- A rule with a method match and a rule of an older route in another
namespace: the rule with the method comes first, as the spec has it. -/
theorem sortMatchRules_puts_method_first :
    let older : MatchRule :=
      { source := { ns := "a", name := "r" }, filters := {}, «match» := {}
        backendGroup := { source := { ns := "a", name := "r" }, backends := [], ruleIdx := 0, pathRuleIdx := 0 } }
    let withMethod : MatchRule :=
      { source := { ns := "b", name := "r", creationTimestamp := 1 }, filters := {}, «match» := { method := some "GET" }
        backendGroup := { source := { ns := "b", name := "r" }, backends := [], ruleIdx := 0, pathRuleIdx := 0 } }
    (∀ r1 ∈ [older, withMethod], ∀ r2 ∈ [older, withMethod], r1.source.ns = r2.source.ns ∨
      ¬r1.source.ns.toList <+: r2.source.ns.toList ∧ ¬r2.source.ns.toList <+: r1.source.ns.toList) ∧
      sortMatchRules [older, withMethod] = sortStable specHigherPriority [older, withMethod] ∧
      (sortMatchRules [older, withMethod]).Pairwise fun r1 r2 => precedenceKey r1 ≤ precedenceKey r2 := by
  intro older withMethod
  have h : ∀ r1 ∈ [older, withMethod], ∀ r2 ∈ [older, withMethod], r1.source.ns = r2.source.ns ∨
      ¬r1.source.ns.toList <+: r2.source.ns.toList ∧ ¬r2.source.ns.toList <+: r1.source.ns.toList := by
    decide
  exact ⟨h, sortMatchRules_follows_precedence h⟩

/-- `l4RouteUpstreams`. -/
structure L4RouteUpstreams where
  source : ObjectMeta
  upstreams : List Layer4Upstream
  deriving Repr, DecidableEq

/-- The candidate a route makes in `oldestValidL4Route`: its valid backends,
sorted by name, or nothing for an invalid route or one with no valid backend. -/
def l4Candidate (r : Graph.L4Route) : Option L4RouteUpstreams :=
  if !r.valid then none
  else
    let backendRefs := r.getBackendRefs
    if backendRefs = [] then none
    else
      let upstreams := (backendRefs.filter (·.valid)).map fun br =>
        ({ name := br.servicePortReference, weight := br.weight } : Layer4Upstream)
      if upstreams = [] then none
      else some { source := r.source, upstreams := sortStable (fun u v => decide (u.name < v.name)) upstreams }

/-- One turn of the loop: a candidate replaces the oldest so far when it is
older. -/
def oldestStep (oldest : Option L4RouteUpstreams) (r : Graph.L4Route) : Option L4RouteUpstreams :=
  match l4Candidate r, oldest with
  | none, _ => oldest
  | some candidate, none => some candidate
  | some candidate, some o => if Graph.lessClientObject candidate.source o.source then some candidate else some o

/-- `oldestValidL4Route`, over the routes in the order the map gives them. -/
def oldestValidL4Route (routes : List Graph.L4Route) : Option L4RouteUpstreams :=
  routes.foldl oldestStep none

/-! ## The route `oldestValidL4Route` picks -/

theorem lessObjectMeta_iff {a b : ObjectMeta} :
    lessObjectMeta a b = true ↔
      a.creationTimestamp < b.creationTimestamp ∨
        a.creationTimestamp = b.creationTimestamp ∧ (a.ns < b.ns ∨ a.ns = b.ns ∧ a.name < b.name) := by
  unfold lessObjectMeta
  split_ifs with hts hns
  · simp [hts, hns]
  · simp [hts, hns]
  · simp only [decide_eq_true_eq]
    constructor
    · exact Or.inl
    · rintro (h | ⟨h, -⟩)
      · exact h
      · exact absurd h hts

theorem lessObjectMeta_irrefl (a : ObjectMeta) : lessObjectMeta a a = false := by
  simp [lessObjectMeta]

/-- `LessObjectMeta` is the lexicographic order of creation time, namespace
and name, so it is transitive. -/
theorem lessObjectMeta_trans {a b c : ObjectMeta} (hab : lessObjectMeta a b = true) (hbc : lessObjectMeta b c = true) :
    lessObjectMeta a c = true := by
  rw [lessObjectMeta_iff] at hab hbc ⊢
  rcases hab with h₁ | ⟨h₁, h₂⟩ <;> rcases hbc with h₃ | ⟨h₃, h₄⟩
  · exact .inl (by omega)
  · exact .inl (by omega)
  · exact .inl (by omega)
  · refine .inr ⟨h₁.trans h₃, ?_⟩
    rcases h₂ with h₂ | ⟨h₂, h₂'⟩ <;> rcases h₄ with h₄ | ⟨h₄, h₄'⟩
    · exact .inl (String.lt_trans h₂ h₄)
    · exact .inl (h₄ ▸ h₂)
    · exact .inl (h₂ ▸ h₄)
    · exact .inr ⟨h₂.trans h₄, String.lt_trans h₂' h₄'⟩

/-- What the loop keeps: nothing while no route seen makes a candidate, and
then the candidate of a route seen that no route seen makes an older one than. -/
def OldestOf (seen : List Graph.L4Route) : Option L4RouteUpstreams → Prop
  | none => ∀ r ∈ seen, l4Candidate r = none
  | some o =>
    (∃ r ∈ seen, l4Candidate r = some o) ∧
      ∀ r ∈ seen, ∀ c, l4Candidate r = some c → Graph.lessClientObject c.source o.source = false

theorem OldestOf.step {seen : List Graph.L4Route} {oldest : Option L4RouteUpstreams} (h : OldestOf seen oldest)
    (r : Graph.L4Route) : OldestOf (seen ++ [r]) (oldestStep oldest r) := by
  unfold oldestStep
  cases hc : l4Candidate r with
  | none =>
    cases oldest with
    | none =>
      intro r' hr'
      rcases List.mem_append.1 hr' with hr' | hr'
      · exact h r' hr'
      · rw [List.mem_singleton.1 hr', hc]
    | some o =>
      obtain ⟨⟨r₀, hr₀, ho⟩, hmin⟩ := h
      refine ⟨⟨r₀, List.mem_append_left _ hr₀, ho⟩, fun r' hr' c hc' => ?_⟩
      rcases List.mem_append.1 hr' with hr' | hr'
      · exact hmin r' hr' c hc'
      · rw [List.mem_singleton.1 hr', hc] at hc'
        cases hc'
  | some c =>
    cases oldest with
    | none =>
      refine ⟨⟨r, by simp, hc⟩, fun r' hr' c' hc' => ?_⟩
      rcases List.mem_append.1 hr' with hr' | hr'
      · rw [h r' hr'] at hc'
        cases hc'
      · rw [List.mem_singleton.1 hr', hc] at hc'
        cases hc'
        exact lessObjectMeta_irrefl _
    | some o =>
      obtain ⟨⟨r₀, hr₀, ho⟩, hmin⟩ := h
      simp only
      split_ifs with hless
      · refine ⟨⟨r, by simp, hc⟩, fun r' hr' c' hc' => ?_⟩
        rcases List.mem_append.1 hr' with hr' | hr'
        · have hold := hmin r' hr' c' hc'
          by_contra hc'c
          rw [Bool.not_eq_false] at hc'c
          exact absurd (lessObjectMeta_trans hc'c hless) (by simpa [Graph.lessClientObject] using hold)
        · rw [List.mem_singleton.1 hr', hc] at hc'
          cases hc'
          exact lessObjectMeta_irrefl _
      · refine ⟨⟨r₀, List.mem_append_left _ hr₀, ho⟩, fun r' hr' c' hc' => ?_⟩
        rcases List.mem_append.1 hr' with hr' | hr'
        · exact hmin r' hr' c' hc'
        · rw [List.mem_singleton.1 hr', hc] at hc'
          cases hc'
          simpa using hless

theorem OldestOf.foldl {seen : List Graph.L4Route} {oldest : Option L4RouteUpstreams} (h : OldestOf seen oldest) :
    ∀ routes : List Graph.L4Route, OldestOf (seen ++ routes) (routes.foldl oldestStep oldest)
  | [] => by simpa using h
  | r :: routes => by
    rw [List.foldl_cons, List.append_cons]
    exact (h.step r).foldl routes

/-- `oldestValidL4Route` returns nothing exactly when no route makes a
candidate, and otherwise the candidate of a route than which, by
`LessClientObject`, no route makes an older one, in every order of the map. -/
theorem oldestValidL4Route_oldestOf (routes : List Graph.L4Route) :
    OldestOf routes (oldestValidL4Route routes) := by
  have h : OldestOf [] none := by simp [OldestOf]
  have hrun := h.foldl routes
  rwa [List.nil_append] at hrun

/-! ## Two namespaces the orders disagree on -/

/-- Two routes of one creation time in the valid namespaces "a" and "a-b". -/
def routeMetaA : ObjectMeta := { ns := "a", name := "r" }

def routeMetaAB : ObjectMeta := { ns := "a-b", name := "r" }

/-- A rule of the route that matches every request. -/
def tiedRule (m : ObjectMeta) : MatchRule :=
  { source := m, filters := {}, «match» := {}
    backendGroup := { source := m.nsName, backends := [], ruleIdx := 0, pathRuleIdx := 0 } }

/-- A TLSRoute with one valid backend. -/
def tlsRouteIn (m : ObjectMeta) : Graph.L4Route :=
  { source := m, routeType := .tls, parentRefs := []
    backendRef := { svcNsName := m.nsName, servicePort := { port := 443 }, weight := 1, valid := true } }

/-- The routes in the valid namespaces "a" and "a-b", created at one time:
the spec puts "a-b/r" before "a/r", since '-' sorts below '/', while
`LessObjectMeta` puts "a" first. `sortMatchRules` then gives the rule of
"a/r" the priority the spec gives that of "a-b/r", and `oldestValidL4Route`
picks "a/r" in either order of the map. -/
theorem prefix_namespace_reverses_conflict_order :
    Graph.isDNS1123Label "a".toList = true ∧ Graph.isDNS1123Label "a-b".toList = true ∧
      lessObjectMeta routeMetaA routeMetaAB = true ∧ specLess routeMetaAB routeMetaA = true ∧
      (sortStable higherPriority [tiedRule routeMetaAB, tiedRule routeMetaA]).head? = some (tiedRule routeMetaA) ∧
      (sortStable specHigherPriority [tiedRule routeMetaAB, tiedRule routeMetaA]).head? =
        some (tiedRule routeMetaAB) ∧
      (oldestValidL4Route [tlsRouteIn routeMetaA, tlsRouteIn routeMetaAB]).map (·.source) = some routeMetaA ∧
      (oldestValidL4Route [tlsRouteIn routeMetaAB, tlsRouteIn routeMetaA]).map (·.source) = some routeMetaA := by
  have hns : routeMetaAB.ns.toList = routeMetaA.ns.toList ++ '-' :: ['b'] := by decide
  have hts : routeMetaA.creationTimestamp = routeMetaAB.creationTimestamp := rfl
  obtain ⟨hcode, hspec⟩ := lessObjectMeta_specLess_of_extends hts hns (by decide : '-' < '/')
  refine ⟨by decide, by decide, hcode, hspec, ?_, ?_, ?_, ?_⟩ <;> decide

end GatewayFabric.Dataplane
