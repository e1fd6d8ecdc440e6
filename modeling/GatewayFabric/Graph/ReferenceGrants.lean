/-
The ReferenceGrant resolver (`state/graph/reference_grant.go`). Every `to`
entry of every ReferenceGrant, with every `from` entry of the same grant,
becomes one allowed reference, placed in the grant's namespace; a reference
is allowed when that set holds it, by its name or with the name cleared,
which is how an entry without a name grants every resource of its kind.

What a grant permits is the Gateway API's to say (`Permits`): a reference
from a `from` entry's group, kind and namespace to a resource of the grant's
own namespace, named by a `to` entry's group and kind and, when the entry
has one, by its name. `refAllowed_iff_permits` states that the flattened set
answers exactly that. It rests on one fact of the API's types: a `to`
entry's name is never empty (`ObjectName`), so the cleared name can stand
for "every name".

The route validators of `Graph.BackendRefs` take the resolver as a function
of the resource; `routeRefAllowed` is the function `addBackendRefsToRule`
is given, and `createBackendRef_other_namespace_permitted` carries the
refinement through validation: a valid backend of another namespace is one
a grant of that namespace permits the route to reference, a Service, or for
a reference to an InferencePool, the pool its reference names.
-/
import GatewayFabric.Graph.ParentRefs

namespace GatewayFabric.Graph.ReferenceGrants

open Dataplane

/-! ## The Gateway API's ReferenceGrant -/

/-- `v1.ObjectName`, the name a `to` entry may give: the CRD admits no
empty name (`minLength: 1`). -/
abbrev ObjectName := { s : String // s ≠ "" }

/-- `v1.ReferenceGrantFrom`. -/
structure ReferenceGrantFrom where
  group : String
  kind : String
  ns : String
  deriving Repr, DecidableEq

/-- `v1.ReferenceGrantTo`: without a name it grants every resource of its kind. -/
structure ReferenceGrantTo where
  group : String
  kind : String
  name : Option ObjectName := none
  deriving Repr, DecidableEq

/-- The spec of a `v1.ReferenceGrant`. -/
structure ReferenceGrant where
  specFrom : List ReferenceGrantFrom
  specTo : List ReferenceGrantTo
  deriving Repr, DecidableEq

/-! ## The resolver -/

/-- `toResource`: the core group is "". -/
structure ToResource where
  group : String := ""
  kind : String
  name : String := ""
  ns : String
  deriving Repr, DecidableEq

/-- `fromResource`. -/
structure FromResource where
  group : String
  kind : String
  ns : String
  deriving Repr, DecidableEq

/-- `allowedReference`, its `to` and `from`. -/
structure AllowedReference where
  toRes : ToResource
  fromRes : FromResource
  deriving Repr, DecidableEq

/-- `referenceGrantResolver`; Go's set of allowed references is a list. -/
structure ReferenceGrantResolver where
  allowed : List AllowedReference
  deriving Repr

def kindSecret : String := "Secret"
def kindConfigMap : String := "ConfigMap"
def kindHTTPRoute : String := "HTTPRoute"
def kindGRPCRoute : String := "GRPCRoute"
def kindTLSRoute : String := "TLSRoute"
def kindTCPRoute : String := "TCPRoute"
def kindUDPRoute : String := "UDPRoute"
def kindWAFPolicy : String := "WAFPolicy"
def kindPayloadProcessor : String := "PayloadProcessor"
def kindAPPolicy : String := "APPolicy"
def kindAPLogConf : String := "APLogConf"

def ngfAPIGroup : String := "gateway.nginx.org"
def wafAPIGroup : String := "appprotect.f5.com"

/-- The `to` helpers: a resource of one group and kind, by its namespaced name. -/
def toNamed (group kind : String) (nsname : NamespacedName) : ToResource :=
  { group, kind, name := nsname.name, ns := nsname.ns }

def toSecret (nsname : NamespacedName) : ToResource := toNamed "" kindSecret nsname
def toConfigMap (nsname : NamespacedName) : ToResource := toNamed "" kindConfigMap nsname
def toService (nsname : NamespacedName) : ToResource := toNamed "" kindService nsname
def toInferencePool (nsname : NamespacedName) : ToResource := toNamed inferenceAPIGroup kindInferencePool nsname
def toAPPolicy (nsname : NamespacedName) : ToResource := toNamed wafAPIGroup kindAPPolicy nsname
def toAPLogConf (nsname : NamespacedName) : ToResource := toNamed wafAPIGroup kindAPLogConf nsname

def fromGateway (ns : String) : FromResource := { group := gatewayGroupName, kind := kindGateway, ns }
def fromHTTPRoute (ns : String) : FromResource := { group := gatewayGroupName, kind := kindHTTPRoute, ns }
def fromGRPCRoute (ns : String) : FromResource := { group := gatewayGroupName, kind := kindGRPCRoute, ns }
def fromTLSRoute (ns : String) : FromResource := { group := gatewayGroupName, kind := kindTLSRoute, ns }
def fromTCPRoute (ns : String) : FromResource := { group := gatewayGroupName, kind := kindTCPRoute, ns }
def fromUDPRoute (ns : String) : FromResource := { group := gatewayGroupName, kind := kindUDPRoute, ns }
def fromListenerSet (ns : String) : FromResource := { group := gatewayGroupName, kind := kindListenerSet, ns }
def fromWAFPolicy (ns : String) : FromResource := { group := ngfAPIGroup, kind := kindWAFPolicy, ns }
def fromPayloadProcessor (ns : String) : FromResource := { group := ngfAPIGroup, kind := kindPayloadProcessor, ns }

/-- The group a `to` entry grants: "core" is the core group "". -/
def coreGroup (group : String) : String := if group = "core" then "" else group

/-- The name a `to` entry grants: "" for every name. -/
def ReferenceGrantTo.toName (t : ReferenceGrantTo) : String :=
  match t.name with
  | some n => n.val
  | none => ""

/-- The body of `newReferenceGrantResolver`'s loops: the reference one `to`
and one `from` entry of the grant `nsname` allow. -/
def allowedReferenceOf (nsname : NamespacedName) (t : ReferenceGrantTo) (f : ReferenceGrantFrom) :
    AllowedReference :=
  { toRes := { group := coreGroup t.group, kind := t.kind, name := t.toName, ns := nsname.ns }
    fromRes := { group := f.group, kind := f.kind, ns := f.ns } }

/-- `newReferenceGrantResolver`. Go ranges over a map of grants; the set
built does not depend on the order. -/
def newReferenceGrantResolver (refGrants : List (NamespacedName × ReferenceGrant)) : ReferenceGrantResolver :=
  { allowed := refGrants.flatMap fun (nsname, grant) =>
      grant.specTo.flatMap fun t => grant.specFrom.map fun f => allowedReferenceOf nsname t f }

/-- `refAllowed`: the reference itself, or with its name cleared. -/
def ReferenceGrantResolver.refAllowed (r : ReferenceGrantResolver) (toRes : ToResource) (fromRes : FromResource) :
    Bool :=
  let specificKey : AllowedReference := { toRes, fromRes }
  let allInNamespaceKey : AllowedReference :=
    { toRes := { group := toRes.group, kind := toRes.kind, ns := toRes.ns }, fromRes }
  [specificKey, allInNamespaceKey].any fun key => r.allowed.contains key

def ReferenceGrantResolver.refAllowedFrom (r : ReferenceGrantResolver) (fromRes : FromResource) :
    ToResource → Bool :=
  fun toRes => r.refAllowed toRes fromRes

/-! ## What a grant permits -/

/-- A `to` entry grants a resource's name: it has no name, or that name. -/
def ReferenceGrantTo.Names (t : ReferenceGrantTo) (name : String) : Prop :=
  ∀ n ∈ t.name, n.val = name

instance (t : ReferenceGrantTo) (name : String) : Decidable (t.Names name) :=
  inferInstanceAs (Decidable (∀ n ∈ t.name, n.val = name))

/-- The grant `nsname` permits a reference from `fromRes` to `toRes`:
`toRes` is in the grant's namespace, a `from` entry is `fromRes`, and a `to`
entry names the group, kind and name of `toRes`. -/
def Permits (nsname : NamespacedName) (grant : ReferenceGrant) (toRes : ToResource) (fromRes : FromResource) :
    Prop :=
  nsname.ns = toRes.ns ∧
    (∃ f ∈ grant.specFrom, f.group = fromRes.group ∧ f.kind = fromRes.kind ∧ f.ns = fromRes.ns) ∧
    ∃ t ∈ grant.specTo, coreGroup t.group = toRes.group ∧ t.kind = toRes.kind ∧ t.Names toRes.name

instance (nsname : NamespacedName) (grant : ReferenceGrant) (toRes : ToResource) (fromRes : FromResource) :
    Decidable (Permits nsname grant toRes fromRes) :=
  inferInstanceAs (Decidable (_ ∧ _ ∧ _))

/-! ## The resolver answers what the grants permit -/

theorem mem_allowed_iff {refGrants : List (NamespacedName × ReferenceGrant)} {ar : AllowedReference} :
    ar ∈ (newReferenceGrantResolver refGrants).allowed ↔
      ∃ g ∈ refGrants, ∃ t ∈ g.2.specTo, ∃ f ∈ g.2.specFrom, allowedReferenceOf g.1 t f = ar := by
  simp only [newReferenceGrantResolver, List.mem_flatMap, List.mem_map]

theorem allowedReferenceOf_eq_iff {nsname : NamespacedName} {t : ReferenceGrantTo} {f : ReferenceGrantFrom}
    {toRes : ToResource} {fromRes : FromResource} :
    allowedReferenceOf nsname t f = { toRes, fromRes } ↔
      (nsname.ns = toRes.ns ∧ coreGroup t.group = toRes.group ∧ t.kind = toRes.kind ∧ t.toName = toRes.name) ∧
        f.group = fromRes.group ∧ f.kind = fromRes.kind ∧ f.ns = fromRes.ns := by
  obtain ⟨g, k, n, ns⟩ := toRes
  obtain ⟨fg, fk, fns⟩ := fromRes
  simp only [allowedReferenceOf, AllowedReference.mk.injEq, ToResource.mk.injEq, FromResource.mk.injEq]
  constructor
  · rintro ⟨⟨h1, h2, h3, h4⟩, h5, h6, h7⟩
    exact ⟨⟨h4, h1, h2, h3⟩, h5, h6, h7⟩
  · rintro ⟨⟨h1, h2, h3, h4⟩, h5, h6, h7⟩
    exact ⟨⟨h2, h3, h4, h1⟩, h5, h6, h7⟩

/-- The two keys of `refAllowed` between them grant exactly the names a
`to` entry names: the cleared name is no entry's own name, as no
`ObjectName` is empty. -/
theorem toName_eq_or_eq_empty_iff {t : ReferenceGrantTo} {name : String} :
    (t.toName = name ∨ t.toName = "") ↔ t.Names name := by
  unfold ReferenceGrantTo.toName ReferenceGrantTo.Names
  cases t.name with
  | none => simp
  | some n =>
    have hn : n.val ≠ "" := n.property
    simp [hn]

theorem refAllowed_eq_true_iff {r : ReferenceGrantResolver} {toRes : ToResource} {fromRes : FromResource} :
    r.refAllowed toRes fromRes = true ↔
      { toRes, fromRes } ∈ r.allowed ∨ { toRes := { toRes with name := "" }, fromRes } ∈ r.allowed := by
  simp [ReferenceGrantResolver.refAllowed]

/-- What the resolver allows, some grant permits. -/
theorem exists_permits_of_refAllowed {refGrants : List (NamespacedName × ReferenceGrant)} {toRes : ToResource}
    {fromRes : FromResource} (h : (newReferenceGrantResolver refGrants).refAllowed toRes fromRes = true) :
    ∃ g ∈ refGrants, Permits g.1 g.2 toRes fromRes := by
  simp only [refAllowed_eq_true_iff, mem_allowed_iff, allowedReferenceOf_eq_iff] at h
  rcases h with ⟨g, hg, t, ht, f, hf, ⟨hns, hgr, hk, hn⟩, hfr⟩ | ⟨g, hg, t, ht, f, hf, ⟨hns, hgr, hk, hn⟩, hfr⟩
  · exact ⟨g, hg, hns, ⟨f, hf, hfr⟩, t, ht, hgr, hk, toName_eq_or_eq_empty_iff.mp (.inl hn)⟩
  · exact ⟨g, hg, hns, ⟨f, hf, hfr⟩, t, ht, hgr, hk, toName_eq_or_eq_empty_iff.mp (.inr hn)⟩

/-- What some grant permits, the resolver allows. -/
theorem refAllowed_of_permits {refGrants : List (NamespacedName × ReferenceGrant)} {toRes : ToResource}
    {fromRes : FromResource} (h : ∃ g ∈ refGrants, Permits g.1 g.2 toRes fromRes) :
    (newReferenceGrantResolver refGrants).refAllowed toRes fromRes = true := by
  obtain ⟨g, hg, hns, ⟨f, hf, hfr⟩, t, ht, hgr, hk, hn⟩ := h
  simp only [refAllowed_eq_true_iff, mem_allowed_iff, allowedReferenceOf_eq_iff]
  rcases toName_eq_or_eq_empty_iff.mpr hn with hn | hn
  · exact .inl ⟨g, hg, t, ht, f, hf, ⟨hns, hgr, hk, hn⟩, hfr⟩
  · exact .inr ⟨g, hg, t, ht, f, hf, ⟨hns, hgr, hk, hn⟩, hfr⟩

/-- The resolver refines the Gateway API's reading of the grants: it allows
a reference exactly when some grant permits it. -/
theorem refAllowed_iff_permits {refGrants : List (NamespacedName × ReferenceGrant)} {toRes : ToResource}
    {fromRes : FromResource} :
    (newReferenceGrantResolver refGrants).refAllowed toRes fromRes = true ↔
      ∃ g ∈ refGrants, Permits g.1 g.2 toRes fromRes :=
  ⟨exists_permits_of_refAllowed, refAllowed_of_permits⟩

/-! ## The grants of a route's backends -/

/-- `getRefGrantFromResourceForRoute`. -/
def getRefGrantFromResourceForRoute : RouteType → String → FromResource
  | .http, routeNs => fromHTTPRoute routeNs
  | .grpc, routeNs => fromGRPCRoute routeNs

/-- The resource the route validators ask about (`toService`, `toInferencePool`). -/
def toResourceOf : Graph.ToResource → ToResource
  | .service nsName => toService nsName
  | .inferencePool nsName => toInferencePool nsName

/-- The function `addBackendRefsToRules` gives the validators:
`refGrantResolver.refAllowedFrom(getRefGrantFromResourceForRoute(...))`. -/
def routeRefAllowed (r : ReferenceGrantResolver) (routeType : RouteType) (routeNs : String) :
    Graph.ToResource → Bool :=
  fun res => r.refAllowedFrom (getRefGrantFromResourceForRoute routeType routeNs) (toResourceOf res)

section Validation

variable {ref : RouteBackendRef} {routeNs ns : String} {refAllowed : Graph.ToResource → Bool} {path : String}

/-- An HTTPRoute's reference to another namespace that validation passes
is allowed as a Service, as the InferencePool it names, or as the
InferencePool its headless Service stands for. -/
theorem allowed_of_validateBackendRefHTTPRoute (hv : validateBackendRefHTTPRoute ref routeNs refAllowed path = none)
    (hns : ref.ns = some ns) (hne : ns ≠ routeNs) :
    refAllowed (.service { ns, name := ref.name }) = true ∨
      ref.kind = some kindInferencePool ∧ refAllowed (.inferencePool { ns, name := ref.name }) = true ∨
      ref.isInferencePool = true ∧ refAllowed (.inferencePool { ns, name := ref.inferencePoolName }) = true := by
  cases hgk : validateBackendRefHTTPRouteGroupKind ref path with
  | some c => simp [validateBackendRefHTTPRoute, hgk] at hv
  | none =>
    by_cases hk : ref.kind = some kindInferencePool
    · refine .inr (.inl ⟨hk, ?_⟩)
      cases hallow : refAllowed (.inferencePool { ns, name := ref.name }) with
      | true => rfl
      | false => simp [validateBackendRefHTTPRoute, hgk, hns, hne, hk, hallow] at hv
    · by_cases hp : ref.isInferencePool = true
      · refine .inr (.inr ⟨hp, ?_⟩)
        cases hallow : refAllowed (.inferencePool { ns, name := ref.inferencePoolName }) with
        | true => rfl
        | false => simp [validateBackendRefHTTPRoute, hgk, hns, hne, hk, hp, hallow] at hv
      · refine .inl ?_
        cases hallow : refAllowed (.service { ns, name := ref.name }) with
        | true => rfl
        | false => simp [validateBackendRefHTTPRoute, hgk, hns, hne, hk, hp, hallow] at hv

/-- `validateBackendRef` checks the group, then the kind, then the
namespace: a reference it passes passes the namespace check. -/
theorem validateBackendRefNs_of_validateBackendRef (hv : validateBackendRef ref routeNs refAllowed path = none) :
    validateBackendRef.validateBackendRefNs ref routeNs refAllowed path = none := by
  have hkind : validateBackendRef.validateBackendRefKind ref routeNs refAllowed path = none := by
    unfold validateBackendRef at hv
    cases hg : ref.group with
    | none => simpa [hg] using hv
    | some g =>
      by_cases hcore : g ≠ "core" ∧ g ≠ ""
      · simp [hg, hcore] at hv
      · simpa [hg, hcore] using hv
  unfold validateBackendRef.validateBackendRefKind at hkind
  cases hk : ref.kind with
  | none => simpa [hk] using hkind
  | some k =>
    by_cases hs : k = kindService
    · simpa [hk, hs] using hkind
    · simp [hk, hs] at hkind

/-- The same for the references of a GRPCRoute, which are Services only. -/
theorem allowed_of_validateBackendRef (hv : validateBackendRef ref routeNs refAllowed path = none)
    (hns : ref.ns = some ns) (hne : ns ≠ routeNs) :
    refAllowed (.service { ns, name := ref.name }) = true := by
  have hNs := validateBackendRefNs_of_validateBackendRef hv
  cases hallow : refAllowed (.service { ns, name := ref.name }) with
  | true => rfl
  | false => simp [validateBackendRef.validateBackendRefNs, hns, hne, hallow] at hNs

theorem allowed_of_validateRouteBackendRef {routeType : RouteType}
    (hv : validateRouteBackendRef routeType ref routeNs refAllowed path = none)
    (hns : ref.ns = some ns) (hne : ns ≠ routeNs) :
    refAllowed (.service { ns, name := ref.name }) = true ∨
      ref.kind = some kindInferencePool ∧ refAllowed (.inferencePool { ns, name := ref.name }) = true ∨
      ref.isInferencePool = true ∧ refAllowed (.inferencePool { ns, name := ref.inferencePoolName }) = true := by
  unfold validateRouteBackendRef at hv
  split_ifs at hv with hf hhttp
  · exact allowed_of_validateBackendRefHTTPRoute hv hns hne
  · exact .inl (allowed_of_validateBackendRef hv hns hne)

end Validation

/-- A backend `createBackendRef` makes valid passed validation, and names
the Service of the reference. -/
theorem validateRouteBackendRef_of_valid {ref : RouteBackendRef} {routeType : RouteType} {routeNs path : String}
    {refAllowed : Graph.ToResource → Bool} {checkService : NamespacedName → RouteBackendRef → ServiceCheck}
    (hvalid : (createBackendRef ref routeType routeNs refAllowed checkService path).1.valid = true) :
    validateRouteBackendRef routeType ref routeNs refAllowed path = none ∧
      (createBackendRef ref routeType routeNs refAllowed checkService path).1.svcNsName =
        { ns := ref.ns.getD routeNs, name := ref.name } := by
  unfold createBackendRef at hvalid ⊢
  cases hv : validateRouteBackendRef routeType ref routeNs refAllowed path with
  | some c => simp [hv] at hvalid
  | none =>
    simp only [hv] at hvalid ⊢
    cases hc : checkService { ns := ref.ns.getD routeNs, name := ref.name } ref <;> simp_all

/-- A route's backend in another namespace is valid only when a
ReferenceGrant of that namespace permits the route to reference its
Service, the InferencePool the reference names, or the InferencePool whose
headless Service it was rewritten to. -/
theorem createBackendRef_other_namespace_permitted {refGrants : List (NamespacedName × ReferenceGrant)}
    {ref : RouteBackendRef} {routeType : RouteType} {routeNs path : String}
    {checkService : NamespacedName → RouteBackendRef → ServiceCheck} {b : BackendRef}
    (hb : (createBackendRef ref routeType routeNs (routeRefAllowed (newReferenceGrantResolver refGrants) routeType routeNs)
      checkService path).1 = b)
    (hvalid : b.valid = true) (hns : b.svcNsName.ns ≠ routeNs) :
    ∃ g ∈ refGrants,
      Permits g.1 g.2 (toService b.svcNsName) (getRefGrantFromResourceForRoute routeType routeNs) ∨
        ref.kind = some kindInferencePool ∧
          Permits g.1 g.2 (toInferencePool { ns := b.svcNsName.ns, name := ref.name })
            (getRefGrantFromResourceForRoute routeType routeNs) ∨
        ref.isInferencePool = true ∧
          Permits g.1 g.2 (toInferencePool { ns := b.svcNsName.ns, name := ref.inferencePoolName })
            (getRefGrantFromResourceForRoute routeType routeNs) := by
  subst hb
  obtain ⟨hv, hsvc⟩ := validateRouteBackendRef_of_valid hvalid
  rw [hsvc] at hns ⊢
  obtain ⟨ns, hrefNs⟩ : ∃ ns, ref.ns = some ns := by
    cases h : ref.ns with
    | none => simp [h] at hns
    | some ns => exact ⟨ns, rfl⟩
  simp only [hrefNs, Option.getD_some] at hns ⊢
  rcases allowed_of_validateRouteBackendRef hv hrefNs hns with hsvc | ⟨hk, hallow⟩ | ⟨hp, hallow⟩
  · obtain ⟨g, hg, hperm⟩ := exists_permits_of_refAllowed hsvc
    exact ⟨g, hg, .inl hperm⟩
  · obtain ⟨g, hg, hperm⟩ := exists_permits_of_refAllowed hallow
    exact ⟨g, hg, .inr (.inl ⟨hk, hperm⟩)⟩
  · obtain ⟨g, hg, hperm⟩ := exists_permits_of_refAllowed hallow
    exact ⟨g, hg, .inr (.inr ⟨hp, hperm⟩)⟩

/-- A ReferenceGrant of namespace `backend` for HTTPRoutes of `app` to its
InferencePools: the headless Service backend of the pool `backend/pool`,
referenced by a route of `app`, is valid. -/
theorem backend_of_granted_route_permitted :
    let refGrants : List (NamespacedName × ReferenceGrant) :=
      [({ ns := "backend", name := "grant" },
        { specFrom := [{ group := gatewayGroupName, kind := kindHTTPRoute, ns := "app" }],
          specTo := [{ group := inferenceAPIGroup, kind := kindInferencePool }] })]
    let ref : RouteBackendRef :=
      { name := "pool-epp", ns := some "backend", port := some 80, isInferencePool := true,
        inferencePoolName := "pool" }
    let b : BackendRef :=
      { svcNsName := { ns := "backend", name := "pool-epp" }, servicePort := { port := 80 }, weight := 1,
        valid := true, isInferencePool := true }
    (createBackendRef ref .http "app" (routeRefAllowed (newReferenceGrantResolver refGrants) .http "app")
        (fun _ _ => .ok { port := 80 } []) "spec.rules[0].backendRefs[0]").1 = b ∧
      b.valid = true ∧ b.svcNsName.ns ≠ "app" ∧
      ∃ g ∈ refGrants,
        Permits g.1 g.2 (toService b.svcNsName) (getRefGrantFromResourceForRoute .http "app") ∨
          ref.kind = some kindInferencePool ∧
            Permits g.1 g.2 (toInferencePool { ns := b.svcNsName.ns, name := ref.name })
              (getRefGrantFromResourceForRoute .http "app") ∨
          ref.isInferencePool = true ∧
            Permits g.1 g.2 (toInferencePool { ns := b.svcNsName.ns, name := ref.inferencePoolName })
              (getRefGrantFromResourceForRoute .http "app") := by
  intro refGrants ref b
  have hb : (createBackendRef ref .http "app" (routeRefAllowed (newReferenceGrantResolver refGrants) .http "app")
      (fun _ _ => .ok { port := 80 } []) "spec.rules[0].backendRefs[0]").1 = b := by decide
  exact ⟨hb, rfl, by decide, createBackendRef_other_namespace_permitted hb rfl (by decide)⟩

end GatewayFabric.Graph.ReferenceGrants
