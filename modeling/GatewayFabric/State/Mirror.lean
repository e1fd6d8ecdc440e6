/-
The names of an HTTPRoute's request mirrors (`state/mirror`): the key under
which `buildHTTPMirrorRoutes` stores the mirror route it builds for a
RequestMirror filter, from `mirror.RouteName`, and the exact path of that
route's one match, the internal mirror location, from `mirror.BackendPath`.

Both join names with '-', and Kubernetes names may hold '-'. A name gives
back everything but where the route's name ends and the Service's namespace
begins, or where the Service ends and the route's namespace begins
(`routeName_eq_routeName_iff`, `backendPath_eq_backendPath_iff`), and that
split is not determined: the routes "r-a" and "r" of one namespace, mirroring
the Service "svc" of the namespaces "b" and "a-b", get one key, and the route
map keeps the second only.
-/
import GatewayFabric.Lib.Joins
import GatewayFabric.Config.Locations
import GatewayFabric.State.ChangeProcessor
import GatewayFabric.Graph.Hostnames

namespace GatewayFabric.Mirror

open Dataplane State

/-! ## Names -/

/-- `mirror.RouteName`: `<prefix>-<routeName>-<namespace>/<service>-<idx>`,
the prefix without its leading '/'. -/
def routeName (routeName service «namespace» : String) (idx : Nat) : String :=
  Graph.trimPrefix Config.internalMirrorRoutePathPrefix "/" ++ "-" ++ routeName ++ "-" ++ «namespace» ++ "/" ++
    service ++ "-" ++ toString idx

/-- `mirror.BackendPath`: the Service's namespace, when the filter gives one,
comes first. -/
def backendPath (idx : Nat) («namespace» : Option String) (service : String) (routeNsName : NamespacedName) :
    String :=
  match «namespace» with
  | some ns =>
    Config.internalMirrorRoutePathPrefix ++ "-" ++ ns ++ "/" ++ service ++ "-" ++ routeNsName.ns ++ "/" ++
      routeNsName.name ++ "-" ++ toString idx
  | none =>
    Config.internalMirrorRoutePathPrefix ++ "-" ++ service ++ "-" ++ routeNsName.ns ++ "/" ++
      routeNsName.name ++ "-" ++ toString idx

/-- The backend of a RequestMirror filter (`v1.BackendObjectReference`): the
Service, and its namespace if the filter gives one. -/
structure BackendObjectReference where
  name : String
  «namespace» : Option String := none
  deriving Repr, DecidableEq

/-- `mirror.PathWithBackendRef`. -/
def pathWithBackendRef (idx : Nat) (backendRef : BackendObjectReference) (routeNsName : NamespacedName) : String :=
  backendPath idx backendRef.namespace backendRef.name routeNsName

/-! ## What a name gives back

Valid Kubernetes names hold no '/', and the decimal index no '-'. Cutting a
name at its '/'s and at its last '-' then gives back each part, but the parts
joined with '-' stay joined. -/

section Decode

variable {r r' s s' n n' : String} {i i' : Nat}

theorem toList_routeName :
    (routeName r s n i).toList =
      (Graph.trimPrefix Config.internalMirrorRoutePathPrefix "/").toList ++ '-' ::
        ((r.toList ++ '-' :: n.toList) ++ '/' :: (s.toList ++ '-' :: Nat.toDigits 10 i)) := by
  simp [routeName]

theorem hyphen_notMem_toDigits : '-' ∉ Nat.toDigits 10 i := fun h => by
  simpa using Nat.isDigit_of_mem_toDigits (by decide) (by decide) h

/-- The last '-' of `<name>-<idx>` ends the name. -/
theorem append_hyphen_toDigits_inj :
    s.toList ++ '-' :: Nat.toDigits 10 i = s'.toList ++ '-' :: Nat.toDigits 10 i' ↔ s = s' ∧ i = i' := by
  rw [Joins.append_cons_inj_of_notMem_right hyphen_notMem_toDigits hyphen_notMem_toDigits, String.toList_inj,
    ← Nat.toList_repr, ← Nat.toList_repr, String.toList_inj, Nat.repr_inj]

theorem append_hyphen_inj :
    r.toList ++ '-' :: n.toList = r'.toList ++ '-' :: n'.toList ↔ r ++ "-" ++ n = r' ++ "-" ++ n' := by
  rw [← String.toList_inj]
  simp

/-- Two routes' mirror names agree exactly when the Service and the rule do
and the route's name and the namespace joined with '-' do. -/
theorem routeName_eq_routeName_iff (hr : '/' ∉ r.toList) (hn : '/' ∉ n.toList) (hr' : '/' ∉ r'.toList)
    (hn' : '/' ∉ n'.toList) :
    routeName r s n i = routeName r' s' n' i' ↔ r ++ "-" ++ n = r' ++ "-" ++ n' ∧ s = s' ∧ i = i' := by
  have hrn : '/' ∉ r.toList ++ '-' :: n.toList := by simp [hr, hn]
  have hrn' : '/' ∉ r'.toList ++ '-' :: n'.toList := by simp [hr', hn']
  rw [← String.toList_inj, toList_routeName, toList_routeName, List.append_cancel_left_eq, List.cons.injEq,
    Joins.append_cons_inj_of_notMem_left hrn hrn', append_hyphen_toDigits_inj, append_hyphen_inj]
  simp

/-- The routes "r-a" and "r", mirroring "svc" of the namespaces "b" and
"a-b": their names agree, as "r-a-b" is both joins. -/
theorem routeName_eq_of_hyphen_split :
    routeName "r-a" "svc" "b" 0 = routeName "r" "svc" "a-b" 0 ↔
      "r-a" ++ "-" ++ "b" = "r" ++ "-" ++ "a-b" ∧ "svc" = "svc" ∧ 0 = 0 :=
  routeName_eq_routeName_iff (by simp) (by simp) (by simp) (by simp)

theorem toList_backendPath_some {ns : String} {routeNsName : NamespacedName} :
    (backendPath i (some ns) s routeNsName).toList =
      Config.internalMirrorRoutePathPrefix.toList ++ '-' :: (ns.toList ++ '/' ::
        ((s.toList ++ '-' :: routeNsName.ns.toList) ++ '/' ::
          (routeNsName.name.toList ++ '-' :: Nat.toDigits 10 i))) := by
  simp [backendPath]

theorem toList_backendPath_none {routeNsName : NamespacedName} :
    (backendPath i none s routeNsName).toList =
      Config.internalMirrorRoutePathPrefix.toList ++ '-' ::
        ((s.toList ++ '-' :: routeNsName.ns.toList) ++ '/' ::
          (routeNsName.name.toList ++ '-' :: Nat.toDigits 10 i)) := by
  simp [backendPath]

/-- `<prefix>-[<namespace>/]<service>-<routeNamespace>/<routeName>-<idx>`:
one '/' more in the path when the filter gives the Service's namespace. -/
theorem count_slash_backendPath {ns : Option String} {routeNsName : NamespacedName}
    (hns : ∀ x ∈ ns, '/' ∉ x.toList) (hs : '/' ∉ s.toList) (hrns : '/' ∉ routeNsName.ns.toList)
    (hrn : '/' ∉ routeNsName.name.toList) :
    (backendPath i ns s routeNsName).toList.count '/' = ns.elim 2 fun _ => 3 := by
  have hprefix : Config.internalMirrorRoutePathPrefix.toList.count '/' = 1 := by decide
  have hdigits : (Nat.toDigits 10 i).count '/' = 0 := List.count_eq_zero.2 fun h => by
    simpa using Nat.isDigit_of_mem_toDigits (by decide) (by decide) h
  cases ns with
  | none =>
    simp [toList_backendPath_none, List.count_eq_zero.2 hs, List.count_eq_zero.2 hrns,
      List.count_eq_zero.2 hrn, hprefix, hdigits]
  | some x =>
    have hx : '/' ∉ x.toList := hns x rfl
    simp [toList_backendPath_some, List.count_eq_zero.2 hx, List.count_eq_zero.2 hs,
      List.count_eq_zero.2 hrns, List.count_eq_zero.2 hrn, hprefix, hdigits]

/-- Two mirror locations agree exactly when the Service's namespace, the
route's name and the rule do and the Service and the route's namespace joined
with '-' do. -/
theorem backendPath_eq_backendPath_iff {ns ns' : Option String} {routeNsName routeNsName' : NamespacedName}
    (hns : ∀ x ∈ ns, '/' ∉ x.toList) (hs : '/' ∉ s.toList) (hrns : '/' ∉ routeNsName.ns.toList)
    (hrn : '/' ∉ routeNsName.name.toList) (hns' : ∀ x ∈ ns', '/' ∉ x.toList) (hs' : '/' ∉ s'.toList)
    (hrns' : '/' ∉ routeNsName'.ns.toList) (hrn' : '/' ∉ routeNsName'.name.toList) :
    backendPath i ns s routeNsName = backendPath i' ns' s' routeNsName' ↔
      ns = ns' ∧ s ++ "-" ++ routeNsName.ns = s' ++ "-" ++ routeNsName'.ns ∧
        routeNsName.name = routeNsName'.name ∧ i = i' := by
  have hsr : '/' ∉ s.toList ++ '-' :: routeNsName.ns.toList := by simp [hs, hrns]
  have hsr' : '/' ∉ s'.toList ++ '-' :: routeNsName'.ns.toList := by simp [hs', hrns']
  rw [← String.toList_inj]
  cases ns with
  | none =>
    cases ns' with
    | none =>
      rw [toList_backendPath_none, toList_backendPath_none, List.append_cancel_left_eq, List.cons.injEq,
        Joins.append_cons_inj_of_notMem_left hsr hsr', append_hyphen_inj, append_hyphen_toDigits_inj]
      simp
    | some x' =>
      refine ⟨fun h => ?_, fun ⟨h, _⟩ => nomatch h⟩
      have h := congrArg (List.count '/') h
      rw [count_slash_backendPath hns hs hrns hrn, count_slash_backendPath hns' hs' hrns' hrn'] at h
      simp at h
  | some x =>
    cases ns' with
    | none =>
      refine ⟨fun h => ?_, fun ⟨h, _⟩ => nomatch h⟩
      have h := congrArg (List.count '/') h
      rw [count_slash_backendPath hns hs hrns hrn, count_slash_backendPath hns' hs' hrns' hrn'] at h
      simp at h
    | some x' =>
      have hx : '/' ∉ x.toList := hns x rfl
      have hx' : '/' ∉ x'.toList := hns' x' rfl
      rw [toList_backendPath_some, toList_backendPath_some, List.append_cancel_left_eq, List.cons.injEq,
        Joins.append_cons_inj_of_notMem_left hx hx', Joins.append_cons_inj_of_notMem_left hsr hsr',
        append_hyphen_inj, append_hyphen_toDigits_inj, String.toList_inj]
      simp

/-- The Service `svc-a` mirrored from route `b/r`, and the Service `svc`
mirrored from route `a-b/r`: one mirror location. -/
theorem backendPath_eq_of_hyphen_split :
    backendPath 0 none "svc-a" { ns := "b", name := "r" } = backendPath 0 none "svc" { ns := "a-b", name := "r" } :=
  (backendPath_eq_backendPath_iff (by simp) (by decide) (by decide) (by decide) (by simp) (by decide) (by decide)
    (by decide)).2 ⟨rfl, by decide, rfl, rfl⟩

end Decode

/-! ## The mirror routes of an HTTPRoute -/

/-- A filter of a rule (`graph.Filter`), as the mirror loop reads it: a
RequestMirror filter and its backend, or another. -/
inductive Filter where
  | requestMirror (backendRef : BackendObjectReference)
  | other
  deriving Repr, DecidableEq

/-- `graph.RouteRuleFilters`. -/
structure RouteRuleFilters where
  valid : Bool
  filters : List Filter
  deriving Repr, DecidableEq

/-- The mirror route built for one RequestMirror filter, as far as its names
go: the route it mirrors, the rule, the mirror's backend, and the exact path of
its one match (`buildHTTPMirrorRouteRule`). -/
structure MirrorRoute where
  source : NamespacedName
  ruleIdx : Nat
  backendRef : BackendObjectReference
  path : String
  deriving Repr, DecidableEq

/-- `CreateRouteKey` of the copied route: the route's namespace, and the name
`mirror.RouteName` gives it, the backend's namespace defaulting to the
route's. -/
def mirrorRouteKey (route : NamespacedName) (idx : Nat) (backendRef : BackendObjectReference) : NamespacedName :=
  { ns := route.ns, name := routeName route.name backendRef.name (backendRef.namespace.getD route.ns) idx }

def buildMirrorRoute (route : NamespacedName) (idx : Nat) (backendRef : BackendObjectReference) : MirrorRoute :=
  { source := route, ruleIdx := idx, backendRef, path := pathWithBackendRef idx backendRef route }

/-- One filter of rule `idx`: a RequestMirror filter stores its mirror route,
replacing one of the same key. `buildHTTPRoute` never returns nil here, as the
copy keeps the route's parent references. -/
def mirrorFilterStep (route : NamespacedName) (idx : Nat) (routes : List (NamespacedName × MirrorRoute)) :
    Filter → List (NamespacedName × MirrorRoute)
  | .requestMirror backendRef => storeSet routes (mirrorRouteKey route idx backendRef) (buildMirrorRoute route idx backendRef)
  | .other => routes

/-- One rule and its index: only a rule with valid filters is mirrored. -/
def mirrorRuleStep (route : NamespacedName) (routes : List (NamespacedName × MirrorRoute)) :
    RouteRuleFilters × Nat → List (NamespacedName × MirrorRoute)
  | (rule, idx) => if rule.valid then rule.filters.foldl (mirrorFilterStep route idx) routes else routes

/-- `buildHTTPMirrorRoutes`. -/
def buildHTTPMirrorRoutes (routes : List (NamespacedName × MirrorRoute)) (route : NamespacedName)
    (rules : List RouteRuleFilters) : List (NamespacedName × MirrorRoute) :=
  rules.zipIdx.foldl (mirrorRuleStep route) routes

/-- Routes of one namespace that mirror one Service from two namespaces, and
the RequestMirror filter of each. -/
def mirrorRules (serviceNamespace : String) : List RouteRuleFilters :=
  [{ valid := true, filters := [.requestMirror { name := "svc", «namespace» := some serviceNamespace }] }]

theorem mirror_names_collide :
    Graph.matchesDNS1123SubdomainFmt "r-a".toList ∧ Graph.matchesDNS1123SubdomainFmt "r".toList ∧
      Graph.isDNS1123Label "b".toList ∧ Graph.isDNS1123Label "a-b".toList ∧ Graph.isDNS1123Label "svc".toList ∧
      Graph.isDNS1123Label "s".toList ∧ Graph.isDNS1123Label "s-a".toList ∧
      routeName "r-a" "svc" "b" 0 = routeName "r" "svc" "a-b" 0 ∧
      (buildHTTPMirrorRoutes (buildHTTPMirrorRoutes [] { ns := "default", name := "r-a" } (mirrorRules "b"))
          { ns := "default", name := "r" } (mirrorRules "a-b")).map (·.2.source) =
        [{ ns := "default", name := "r" }] ∧
      pathWithBackendRef 0 { name := "s-a" } { ns := "b", name := "r" } =
        pathWithBackendRef 0 { name := "s" } { ns := "a-b", name := "r" } := by
  decide +kernel

end GatewayFabric.Mirror
