/-
The dataplane configuration types of `state/dataplane/types.go`: what the
graph is turned into and what the NGINX configuration generator reads.

Only the fields some modelled function reads are here; the rest of each
record (TLS verification, snippets, CORS, the OIDC provider's client
settings, ...) is left out.
-/
import GatewayFabric.Validation

namespace GatewayFabric.Dataplane

/-- `types.NamespacedName` (`Namespace` is `ns`: `namespace` is a Lean keyword). -/
structure NamespacedName where
  ns : String
  name : String
  deriving Repr, DecidableEq

/-- The metadata that orders objects (`metav1.ObjectMeta`): the creation
time, in seconds, the namespace and the name. -/
structure ObjectMeta where
  creationTimestamp : Nat := 0
  ns : String := ""
  name : String := ""
  deriving Repr, DecidableEq

def ObjectMeta.nsName (m : ObjectMeta) : NamespacedName := { ns := m.ns, name := m.name }

/-- `ngfsort.LessObjectMeta`: created first, then by namespace, then by name. -/
def lessObjectMeta (a b : ObjectMeta) : Bool :=
  if a.creationTimestamp = b.creationTimestamp then
    if a.ns = b.ns then decide (a.name < b.name) else decide (a.ns < b.ns)
  else decide (a.creationTimestamp < b.creationTimestamp)

/-- `sort.Slice` and `sort.SliceStable` by a strict comparison `less`, as Go
sorts a short slice: by insertion, equal elements kept in their order. On
elements that `less` orders totally every sort gives this order. -/
def sortStable {α : Type} (less : α → α → Bool) (xs : List α) : List α :=
  xs.insertionSort fun a b => less b a = false

theorem perm_sortStable {α : Type} (less : α → α → Bool) (xs : List α) : (sortStable less xs).Perm xs :=
  List.perm_insertionSort _ _

theorem orderedInsert_congr {α : Type} {r s : α → α → Prop} [DecidableRel r] [DecidableRel s] (a : α) :
    ∀ {l : List α}, (∀ b ∈ l, r a b ↔ s a b) → l.orderedInsert r a = l.orderedInsert s a
  | [], _ => rfl
  | b :: l, h => by
    rw [List.orderedInsert_cons, List.orderedInsert_cons,
      orderedInsert_congr a fun c hc => h c (List.mem_cons_of_mem b hc)]
    exact if_congr (h b List.mem_cons_self) rfl rfl

/-- Two comparisons that agree on the elements sort them alike. -/
theorem sortStable_congr {α : Type} {less less' : α → α → Bool} :
    ∀ {xs : List α}, (∀ a ∈ xs, ∀ b ∈ xs, less a b = less' a b) → sortStable less xs = sortStable less' xs
  | [], _ => rfl
  | x :: xs, h => by
    have hxs : sortStable less xs = sortStable less' xs :=
      sortStable_congr fun a ha b hb => h a (List.mem_cons_of_mem x ha) b (List.mem_cons_of_mem x hb)
    unfold sortStable at hxs ⊢
    rw [List.insertionSort_cons, List.insertionSort_cons, hxs]
    refine orderedInsert_congr x fun b hb => ?_
    have hb' : b ∈ xs := (List.perm_insertionSort _ xs).mem_iff.1 (hxs ▸ hb)
    rw [h b (List.mem_cons_of_mem x hb') x List.mem_cons_self]

/-- Sorting by a key of a linear order gives a list ordered by the key. -/
theorem pairwise_sortStable_key {α β : Type} [LinearOrder β] (key : α → β) (xs : List α) :
    (sortStable (fun a b => decide (key a < key b)) xs).Pairwise fun a b => key a ≤ key b := by
  have hle : ∀ a b, (decide (key b < key a) = false) ↔ key a ≤ key b := fun a b => by simp
  have htotal : Std.Total fun a b : α => decide (key b < key a) = false :=
    ⟨fun a b => by simpa only [hle] using le_total (key a) (key b)⟩
  have htrans : IsTrans α fun a b => decide (key b < key a) = false :=
    ⟨fun a b c hab hbc => (hle a c).2 (le_trans ((hle a b).1 hab) ((hle b c).1 hbc))⟩
  exact (List.pairwise_insertionSort _ xs).imp (hle _ _).1

@[simp]
theorem mem_sortStable {α : Type} {less : α → α → Bool} {xs : List α} {x : α} : x ∈ sortStable less xs ↔ x ∈ xs :=
  (perm_sortStable less xs).mem_iff

inductive PathType where
  | exact
  | pathPrefix
  | regularExpression
  deriving Repr, DecidableEq

inductive PathModifierType where
  | replaceFullPath
  | replacePrefixMatch
  deriving Repr, DecidableEq

structure HTTPPathModifier where
  replacement : String
  type : PathModifierType
  deriving Repr, DecidableEq

structure HTTPURLRewriteFilter where
  hostname : Option String := none
  path : Option HTTPPathModifier := none
  deriving Repr, DecidableEq

structure HTTPRequestRedirectFilter where
  scheme : Option String := none
  hostname : Option String := none
  port : Option Int32 := none
  statusCode : Option Nat := none
  path : Option HTTPPathModifier := none
  deriving Repr, DecidableEq

structure HTTPHeader where
  name : String
  value : String
  deriving Repr, DecidableEq

structure HTTPHeaderFilter where
  set : List HTTPHeader := []
  add : List HTTPHeader := []
  remove : List String := []
  deriving Repr, DecidableEq

structure AuthBasic where
  secretName : String
  secretNamespace : String
  realm : String
  deriving Repr, DecidableEq

structure OIDCProvider where
  name : String
  redirectURI : String
  logoutURI : Option String := none
  frontChannelLogoutURI : Option String := none
  deriving Repr, DecidableEq

structure AuthOIDC where
  provider : Option OIDCProvider := none
  authRequireVariable : String := ""
  authZProxySetHeaders : List HTTPHeader := []
  deriving Repr, DecidableEq

structure AuthJWTRemote where
  uri : String
  path : String
  deriving Repr, DecidableEq

structure AuthJWT where
  realm : String
  remote : Option AuthJWTRemote := none
  secretName : String := ""
  secretNamespace : String := ""
  authRequireVariable : String := ""
  authZProxySetHeaders : List HTTPHeader := []
  deriving Repr, DecidableEq

structure AuthenticationFilter where
  basic : Option AuthBasic := none
  oidc : Option AuthOIDC := none
  jwt : Option AuthJWT := none
  deriving Repr, DecidableEq

structure HTTPExternalAuthFilter where
  upstreamName : String
  internalPath : String
  pathPrefix : String := ""
  allowedRequestHeaders : List String := []
  allowedResponseHeaders : List String := []
  forwardBody : Bool := false
  deriving Repr, DecidableEq

structure HTTPRequestMirrorFilter where
  name : Option String := none
  ns : Option String := none
  target : Option String := none
  deriving Repr, DecidableEq

/-- `HTTPFilters`; `InvalidFilter` is a pointer to an empty struct, so a
flag. -/
structure HTTPFilters where
  invalidFilter : Bool := false
  requestRedirect : Option HTTPRequestRedirectFilter := none
  requestURLRewrite : Option HTTPURLRewriteFilter := none
  requestHeaderModifiers : Option HTTPHeaderFilter := none
  responseHeaderModifiers : Option HTTPHeaderFilter := none
  authenticationFilter : Option AuthenticationFilter := none
  externalAuthFilter : Option HTTPExternalAuthFilter := none
  requestMirrors : List HTTPRequestMirrorFilter := []
  deriving Repr, DecidableEq

inductive MatchType where
  | exact
  | regularExpression
  deriving Repr, DecidableEq

structure HTTPHeaderMatch where
  name : String
  value : String
  type : MatchType
  deriving Repr, DecidableEq

structure HTTPQueryParamMatch where
  name : String
  value : String
  type : MatchType
  deriving Repr, DecidableEq

structure Match where
  method : Option String := none
  headers : List HTTPHeaderMatch := []
  queryParams : List HTTPQueryParamMatch := []
  deriving Repr, DecidableEq

structure GuardrailsConfig where
  apiURL : String
  internalPath : String
  apiTokenAuthFileID : String := ""
  enabled : Bool
  deriving Repr, DecidableEq

/-- `inference.EndpointPickerRef`: the kind of the EndpointPicker (empty
for a Service), its name, its port and the failure mode (`FailOpen`,
`FailClose`, or unset). -/
structure EndpointPickerRef where
  kind : String := ""
  name : String
  port : Option Nat := none
  failureMode : String := ""
  deriving Repr, DecidableEq

structure EndpointPickerConfig where
  endpointPickerRef : Option EndpointPickerRef := none
  nsName : String := ""
  deriving Repr, DecidableEq

structure Backend where
  upstreamName : String
  weight : Int32
  valid : Bool
  endpointPickerConfig : Option EndpointPickerConfig := none
  externalHostname : String := ""
  appProtocol : String := ""
  deriving Repr, DecidableEq

structure BackendGroup where
  source : NamespacedName
  backends : List Backend
  ruleIdx : Nat
  pathRuleIdx : Nat
  deriving Repr, DecidableEq

/-- `BackendGroup.Name`. -/
def BackendGroup.name (bg : BackendGroup) : String :=
  "group_" ++ bg.source.ns ++ "__" ++ bg.source.name ++ "_rule" ++ toString bg.ruleIdx ++
    "_pathRule" ++ toString bg.pathRuleIdx

structure MatchRule where
  source : ObjectMeta := {}
  filters : HTTPFilters
  «match» : Match
  backendGroup : BackendGroup
  guardrails : Option GuardrailsConfig := none
  deriving Repr, DecidableEq

structure PathRule where
  path : String
  pathType : PathType
  matchRules : List MatchRule
  grpc : Bool := false
  hasInferenceBackends : Bool := false
  deriving Repr, DecidableEq

structure VirtualServer where
  hostname : String
  pathRules : List PathRule
  port : Int32
  isDefault : Bool := false
  deriving Repr, DecidableEq

/-- One endpoint of an upstream, as the service resolver returns it. -/
structure Endpoint where
  address : String
  port : Int32
  ipv6 : Bool := false
  deriving Repr, DecidableEq

structure Upstream where
  name : String
  stateFileKey : String
  errorMsg : String := ""
  endpoints : List Endpoint := []
  deriving Repr, DecidableEq

/-- The TLS termination settings of a server: the key pairs of its
certificates. -/
structure SSL where
  keyPairIDs : List String
  deriving Repr, DecidableEq

structure Layer4Upstream where
  name : String
  weight : Int32 := 0
  deriving Repr, DecidableEq

structure Layer4VirtualServer where
  ssl : Option SSL := none
  hostname : String
  upstreams : List Layer4Upstream := []
  port : Int32
  isDefault : Bool := false
  deriving Repr, DecidableEq

end GatewayFabric.Dataplane
