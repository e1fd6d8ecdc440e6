/-
The backend references of a route rule (`state/graph/backend_refs.go`):
an InferencePool reference is first resolved to its pool's port and
EndpointPicker (`resolveInferencePoolRef`), then every reference is
validated (`validateRouteBackendRef`: group and kind, a ReferenceGrant for
another namespace, a port, a weight) and turned into a `BackendRef`
(`createBackendRef`), valid or not.

The ReferenceGrant resolver, already applied to the route's kind and
namespace, is a parameter (`refAllowed`), as are the Service lookups that
follow validation (`checkService`: the port, an ExternalName's name and its
DNS resolver, the BackendTLSPolicy, the appProtocol), given by what they
find. The headless Service name of an InferencePool is a hash of the pool's
name (`inferencePoolServiceName`).
-/
import GatewayFabric.Graph.Filters

namespace GatewayFabric.Graph

open Dataplane Validation

/-- What a ReferenceGrant permits a route to reference (`toResource`). -/
inductive ToResource where
  | service (nsName : NamespacedName)
  | inferencePool (nsName : NamespacedName)
  deriving Repr, DecidableEq

/-- A condition's message: a fixed text, or the text of a field error. -/
inductive ConditionMsg where
  | text (msg : String)
  | field (err : FieldError)
  deriving Repr, DecidableEq

/-- The route conditions of a backend reference, by their reason. -/
inductive RouteCondition where
  | backendRefInvalidInferencePool (msg : ConditionMsg)
  | backendRefInvalidKind (msg : ConditionMsg)
  | backendRefRefNotPermitted (msg : ConditionMsg)
  | backendRefUnsupportedValue (msg : ConditionMsg)
  | backendRefRefBackendNotFound (msg : ConditionMsg)
  | backendRefUnsupportedProtocol (msg : ConditionMsg)
  deriving Repr, DecidableEq

inductive RouteType where
  | http
  | grpc
  deriving Repr, DecidableEq

def kindService : String := "Service"
def kindInferencePool : String := "InferencePool"
def inferenceAPIGroup : String := "inference.networking.k8s.io"

/-- `types.NamespacedName.String`. -/
def nsNameString (n : NamespacedName) : String := n.ns ++ "/" ++ n.name

structure SessionPersistenceConfig where
  name : String
  idx : String
  deriving Repr, DecidableEq

/-- `v1.ServicePort`: its number and application protocol. -/
structure ServicePort where
  port : Int32 := 0
  appProtocol : Option String := none
  deriving Repr, DecidableEq

/-- `RouteBackendRef`: a Gateway API backend reference and what the route
rule adds to it. -/
structure RouteBackendRef where
  group : Option String := none
  kind : Option String := none
  name : String
  ns : Option String := none
  port : Option Int32 := none
  weight : Option Int32 := none
  filterCount : Nat := 0
  isInferencePool : Bool := false
  inferencePoolName : String := ""
  endpointPickerConfig : EndpointPickerConfig := {}
  mirrorBackendIdx : Option Nat := none
  externalAuthBackendIdx : Option Nat := none
  sessionPersistence : Option SessionPersistenceConfig := none
  deriving Repr, DecidableEq

/-- `graph.BackendRef`. `InvalidForGateways` is the set of its keys. -/
structure BackendRef where
  svcNsName : NamespacedName := { ns := "", name := "" }
  servicePort : ServicePort := {}
  weight : Int32
  valid : Bool
  isMirrorBackend : Bool := false
  isExternalAuthBackend : Bool := false
  isInferencePool : Bool := false
  invalidForGateways : List NamespacedName := []
  endpointPickerConfig : EndpointPickerConfig := {}
  sessionPersistence : Option SessionPersistenceConfig := none
  deriving Repr, DecidableEq

/-- `BaseServicePortKey`: `<namespace>_<name>_<port>`. -/
def BackendRef.baseServicePortKey (b : BackendRef) : String :=
  b.svcNsName.ns ++ "_" ++ b.svcNsName.name ++ "_" ++ toString b.servicePort.port.toInt

/-- `ServicePortReference`, the upstream name: empty for an invalid reference. -/
def BackendRef.servicePortReference (b : BackendRef) : String :=
  if !b.valid then ""
  else
    match b.sessionPersistence with
    | some sp => if sp.name = "" then b.baseServicePortKey else b.baseServicePortKey ++ "_" ++ sp.idx
    | none => b.baseServicePortKey

/-- The field path of one reference's conditions. -/
def backendRefPath (ruleIdx refIdx : Nat) (ref : RouteBackendRef) : String :=
  let basePath := index "spec.rules" ruleIdx
  match ref.mirrorBackendIdx, ref.externalAuthBackendIdx with
  | some i, _ => child (index (child basePath "filters") i) "backendRef"
  | none, some i => child (child (index (child basePath "filters") i) "externalAuth") "backendRef"
  | none, none => index (child basePath "backendRefs") refIdx

/-! ## InferencePools -/

/-- `ReferencedInferencePool`: whether it is valid, its first target port
and its EndpointPicker. -/
structure ReferencedInferencePool where
  valid : Bool
  targetPort : Int32
  endpointPickerRef : Option EndpointPickerRef
  deriving Repr, DecidableEq

/-- The validity `buildReferencedInferencePools` gives a referenced pool:
the routes that reference it are accepted, and its EndpointPicker is a
Service of the pool's namespace that exists. -/
def inferencePoolValid (routesAccepted : Bool) (eppRef : Option EndpointPickerRef)
    (serviceExists : NamespacedName → Bool) (poolNs : String) : Bool :=
  routesAccepted &&
    match eppRef with
    | some epp => (epp.kind = "" || epp.kind = kindService) && serviceExists { ns := poolNs, name := epp.name }
    | none => false

/-- A pool the route references is resolved: an invalid pool drops the
reference with a condition; a pool not found leaves it as it is. -/
def resolveInferencePoolRef (ref : RouteBackendRef) (routeNs : String)
    (referencedInferencePools : NamespacedName → Option ReferencedInferencePool) :
    Option RouteBackendRef × List RouteCondition :=
  let poolName : NamespacedName := { ns := ref.ns.getD routeNs, name := ref.inferencePoolName }
  match referencedInferencePools poolName with
  | none => (some ref, [])
  | some pool =>
    if !pool.valid then
      (none, [.backendRefInvalidInferencePool
        (.text ("Referenced InferencePool " ++ nsNameString poolName ++ " is invalid"))])
    else
      (some { ref with
        port := some pool.targetPort
        endpointPickerConfig := { endpointPickerRef := pool.endpointPickerRef, nsName := poolName.ns } }, [])

/-! ## Validation -/

def validateWeight (weight : Int32) : Except ValidationError Unit :=
  if weight < 0 ∨ weight > 1000000 then .error (.message "must be in the range [0, 1000000]")
  else .ok ()

def validateBackendRefHTTPRouteGroupKind (ref : RouteBackendRef) (path : String) :
    Option RouteCondition :=
  let groupErr :=
    match ref.group with
    | some group =>
      if group ≠ "core" ∧ group ≠ "" ∧ group ≠ inferenceAPIGroup then
        some (.backendRefInvalidKind (.field (.notSupported (child path "group") group ["core", "", inferenceAPIGroup])))
      else if group = inferenceAPIGroup ∧ ref.kind ≠ some kindInferencePool then
        some (.backendRefInvalidKind (.field (.invalid (child path "kind")
          (.message ("kind must be InferencePool when group is " ++ inferenceAPIGroup)))))
      else none
    | none => none
  match groupErr with
  | some c => some c
  | none =>
    match ref.kind with
    | some kind =>
      if kind ≠ kindService ∧ kind ≠ kindInferencePool then
        some (.backendRefInvalidKind (.field (.notSupported (child path "kind") kind [kindService, kindInferencePool])))
      else if kind = kindInferencePool ∧ ref.group ≠ some inferenceAPIGroup then
        some (.backendRefInvalidKind (.field (.invalid (child path "group")
          (.message ("group must be " ++ inferenceAPIGroup ++ " when kind is InferencePool")))))
      else none
    | none => none

/-- The port and weight checks both validators end with. -/
def validatePortAndWeight (ref : RouteBackendRef) (path : String) (portRequired : Bool) :
    Option RouteCondition :=
  if ref.port.isNone ∧ portRequired then
    some (.backendRefUnsupportedValue (.field (.required (child path "port") "port cannot be nil")))
  else
    match ref.weight with
    | some w =>
      match validateWeight w with
      | .error err => some (.backendRefUnsupportedValue (.field (.invalid (child path "weight") err)))
      | .ok () => none
    | none => none

def notPermitted (path what : String) (nsName : NamespacedName) : RouteCondition :=
  .backendRefRefNotPermitted (.field (.forbidden (child path "namespace")
    ("Backend ref to " ++ what ++ " " ++ nsNameString nsName ++ " not permitted by any ReferenceGrant")))

/-- An HTTPRoute's reference to another namespace needs a ReferenceGrant
for the Service, or for the InferencePool it stands for. -/
def validateBackendRefHTTPRoute (ref : RouteBackendRef) (routeNs : String) (refAllowed : ToResource → Bool)
    (path : String) : Option RouteCondition :=
  match validateBackendRefHTTPRouteGroupKind ref path with
  | some c => some c
  | none =>
    let grantErr :=
      match ref.ns with
      | some ns =>
        if ns ≠ routeNs then
          -- a headless Service that stands for an InferencePool is checked as the pool
          let pool : Option NamespacedName :=
            if ref.kind = some kindInferencePool then some { ns, name := ref.name }
            else if ref.isInferencePool then some { ns, name := ref.inferencePoolName }
            else none
          match pool with
          | some poolName =>
            if !refAllowed (.inferencePool poolName) then some (notPermitted path "InferencePool" poolName)
            else none
          | none =>
            let refNsName : NamespacedName := { ns, name := ref.name }
            if !refAllowed (.service refNsName) then some (notPermitted path "Service" refNsName) else none
        else none
      | none => none
    match grantErr with
    | some c => some c
    | none => validatePortAndWeight ref path (ref.kind.isNone || ref.kind = some kindService)

/-- The references of the other route kinds: a Service, granted when in
another namespace. -/
def validateBackendRef (ref : RouteBackendRef) (routeNs : String) (refAllowed : ToResource → Bool)
    (path : String) : Option RouteCondition :=
  match ref.group with
  | some g =>
    if g ≠ "core" ∧ g ≠ "" then some (.backendRefInvalidKind (.field (.notSupported (child path "group") g ["core", ""])))
    else validateBackendRefKind ref routeNs refAllowed path
  | none => validateBackendRefKind ref routeNs refAllowed path
where
  validateBackendRefKind (ref : RouteBackendRef) (routeNs : String) (refAllowed : ToResource → Bool)
      (path : String) : Option RouteCondition :=
    match ref.kind with
    | some k =>
      if k ≠ kindService then some (.backendRefInvalidKind (.field (.notSupported (child path "kind") k [kindService])))
      else validateBackendRefNs ref routeNs refAllowed path
    | none => validateBackendRefNs ref routeNs refAllowed path
  validateBackendRefNs (ref : RouteBackendRef) (routeNs : String) (refAllowed : ToResource → Bool)
      (path : String) : Option RouteCondition :=
    let refNsName : NamespacedName := { ns := ref.ns.getD routeNs, name := ref.name }
    if ref.ns.isSome ∧ ref.ns ≠ some routeNs ∧ !refAllowed (.service refNsName) then
      some (notPermitted path "Service" refNsName)
    else validatePortAndWeight ref path true

def validateRouteBackendRef (routeType : RouteType) (ref : RouteBackendRef) (routeNs : String)
    (refAllowed : ToResource → Bool) (path : String) : Option RouteCondition :=
  if ref.filterCount > 0 then
    some (.backendRefUnsupportedValue (.field (.tooMany (child path "filters") ref.filterCount 0)))
  else if routeType = .http then validateBackendRefHTTPRoute ref routeNs refAllowed path
  else validateBackendRef ref routeNs refAllowed path

/-! ## Backend references -/

/-- What the Service lookups after validation find: the Service port, or
the condition of the first failed lookup, with the port if it was found
and the Gateways an ExternalName Service is invalid for. -/
inductive ServiceCheck where
  | ok (port : ServicePort) (invalidForGateways : List NamespacedName)
  | failed (port : ServicePort) (invalidForGateways : List NamespacedName) (cond : RouteCondition)
  deriving Repr, DecidableEq

/-- An invalid reference still becomes a backend (the data plane answers
it with 500), with its weight and, as the source has it, the
EndpointPicker configuration it was resolved with. -/
def createBackendRef (ref : RouteBackendRef) (routeType : RouteType) (routeNs : String)
    (refAllowed : ToResource → Bool) (checkService : NamespacedName → RouteBackendRef → ServiceCheck)
    (refPath : String) : BackendRef × List RouteCondition :=
  let weight : Int32 :=
    match ref.weight with
    | some w => if (validateWeight w).toBool then w else 0
    | none => 1
  let base : BackendRef :=
    { weight, valid := false
      isMirrorBackend := ref.mirrorBackendIdx.isSome
      isExternalAuthBackend := ref.externalAuthBackendIdx.isSome
      isInferencePool := ref.isInferencePool
      endpointPickerConfig := ref.endpointPickerConfig }
  match validateRouteBackendRef routeType ref routeNs refAllowed refPath with
  | some cond => (base, [cond])
  | none =>
    let svcNsName : NamespacedName := { ns := ref.ns.getD routeNs, name := ref.name }
    match checkService svcNsName ref with
    | .failed port invalidForGateways cond =>
      ({ base with svcNsName, servicePort := port, invalidForGateways }, [cond])
    | .ok port invalidForGateways =>
      ({ base with svcNsName, servicePort := port, invalidForGateways, valid := true,
                   sessionPersistence := ref.sessionPersistence }, [])

/-- The references of one valid rule, in order: an InferencePool reference
whose pool is invalid is dropped. `tlsPoliciesMatch` is
`validateBackendTLSPolicyMatchingAllBackends` finding no mismatch; on a
mismatch every reference of the rule is invalid. -/
def addBackendRefsToRule (routeType : RouteType) (routeNs : String) (ruleIdx : Nat)
    (refAllowed : ToResource → Bool) (checkService : NamespacedName → RouteBackendRef → ServiceCheck)
    (referencedInferencePools : NamespacedName → Option ReferencedInferencePool)
    (tlsPoliciesMatch : List BackendRef → Bool) (refs : List RouteBackendRef) :
    List BackendRef × List RouteCondition :=
  let step := fun (acc : List BackendRef × List RouteCondition) (ri : RouteBackendRef × Nat) =>
    let (ref, refIdx) := ri
    let (resolved, conds) :=
      if ref.isInferencePool then resolveInferencePoolRef ref routeNs referencedInferencePools
      else (some ref, [])
    match resolved with
    | none => (acc.1, acc.2 ++ conds)
    | some ref =>
      let (b, bConds) :=
        createBackendRef ref routeType routeNs refAllowed checkService (backendRefPath ruleIdx refIdx ref)
      (acc.1 ++ [b], acc.2 ++ conds ++ bConds)
  let (backendRefs, conds) := refs.zipIdx.foldl step ([], [])
  if backendRefs.length > 1 ∧ !tlsPoliciesMatch backendRefs then
    (backendRefs.map ({ · with valid := false }),
      conds ++ [.backendRefUnsupportedValue (.text "Backend TLS policies do not match for all backends")])
  else (backendRefs, conds)

end GatewayFabric.Graph
