/-
An InferencePool backend from the graph to the NGINX configuration.

A reference to an InferencePool is turned into a reference to the pool's
headless Service, resolved with the pool's EndpointPicker before it is
validated, and validated like any reference: in another namespace it needs
a ReferenceGrant for the pool. When the grant is missing the reference is
invalid, but `createBackendRef` keeps the EndpointPicker configuration it
was resolved with, `newBackendGroup` copies it onto the backend and marks
the rule as an inference rule, and the inference locations then name the
EndpointPicker as `epp_host`.
-/
import GatewayFabric.Config.Readback
import GatewayFabric.Config.Phases
import GatewayFabric.Dataplane.BackendGroups

namespace GatewayFabric.Config

open Dataplane Nginx GatewayFabric.Graph

/-! ## The EndpointPicker configuration of a reference -/

section Refs

variable {ref : RouteBackendRef} {routeType : RouteType} {routeNs : String} {refAllowed : ToResource → Bool}
  {checkService : NamespacedName → RouteBackendRef → ServiceCheck} {path : String}

theorem createBackendRef_invalid_of_refused {cond : RouteCondition}
    (h : validateRouteBackendRef routeType ref routeNs refAllowed path = some cond) :
    (createBackendRef ref routeType routeNs refAllowed checkService path) =
      ({ weight := match ref.weight with
           | some w => if (validateWeight w).toBool then w else 0
           | none => 1
         valid := false
         isMirrorBackend := ref.mirrorBackendIdx.isSome
         isExternalAuthBackend := ref.externalAuthBackendIdx.isSome
         isInferencePool := ref.isInferencePool
         endpointPickerConfig := ref.endpointPickerConfig }, [cond]) := by
  cases hw : ref.weight <;> simp [createBackendRef, h, hw]

/-- A headless Service reference that stands for an InferencePool of
another namespace is refused when no ReferenceGrant permits the pool. -/
theorem validateBackendRefHTTPRoute_pool_not_permitted {ns : String}
    (hgk : validateBackendRefHTTPRouteGroupKind ref path = none) (hpool : ref.isInferencePool)
    (hkind : ref.kind ≠ some kindInferencePool) (hns : ref.ns = some ns) (hne : ns ≠ routeNs)
    (hdeny : refAllowed (.inferencePool { ns, name := ref.inferencePoolName }) = false) :
    validateBackendRefHTTPRoute ref routeNs refAllowed path =
      some (notPermitted path "InferencePool" { ns, name := ref.inferencePoolName }) := by
  simp [validateBackendRefHTTPRoute, hgk, hns, hne, hkind, hpool, hdeny]

theorem resolveInferencePoolRef_of_valid {pools : NamespacedName → Option ReferencedInferencePool}
    {pool : ReferencedInferencePool} (hpool : pools { ns := ref.ns.getD routeNs, name := ref.inferencePoolName } = some pool)
    (hvalid : pool.valid) :
    resolveInferencePoolRef ref routeNs pools =
      (some { ref with
        port := some pool.targetPort
        endpointPickerConfig := { endpointPickerRef := pool.endpointPickerRef, nsName := ref.ns.getD routeNs } },
       []) := by
  simp [resolveInferencePoolRef, hpool, hvalid]

end Refs

/-- A rule whose one reference names a valid InferencePool of another
namespace that no ReferenceGrant permits: the reference is refused, and its
backend is invalid but carries the pool's EndpointPicker, in a group marked
as an inference group. -/
theorem refused_pool_backend_keeps_endpointPicker {ref : RouteBackendRef} {routeNs ns : String} {ruleIdx : Nat}
    {refAllowed : ToResource → Bool} {checkService : NamespacedName → RouteBackendRef → ServiceCheck}
    {pools : NamespacedName → Option ReferencedInferencePool} {tlsPoliciesMatch : List BackendRef → Bool}
    {pool : ReferencedInferencePool} {epp : EndpointPickerRef} {gatewayName source : NamespacedName}
    {externalHostname : NamespacedName → String}
    (hgk : validateBackendRefHTTPRouteGroupKind ref (backendRefPath ruleIdx 0 ref) = none)
    (hpool : ref.isInferencePool) (hkind : ref.kind ≠ some kindInferencePool) (hfilters : ref.filterCount = 0)
    (hmirror : ref.mirrorBackendIdx = none) (hextauth : ref.externalAuthBackendIdx = none)
    (hns : ref.ns = some ns) (hne : ns ≠ routeNs)
    (hfound : pools { ns, name := ref.inferencePoolName } = some pool) (hvalid : pool.valid)
    (hepp : pool.endpointPickerRef = some epp)
    (hdeny : refAllowed (.inferencePool { ns, name := ref.inferencePoolName }) = false) :
    let group := newBackendGroup
      (addBackendRefsToRule .http routeNs ruleIdx refAllowed checkService pools tlsPoliciesMatch [ref]).1
      gatewayName source ruleIdx externalHostname
    group.2 = true ∧ group.1.backends.map (·.valid) = [false] ∧
      group.1.backends.map (·.endpointPickerConfig) = [some { endpointPickerRef := some epp, nsName := ns }] := by
  intro group
  have hresolve : resolveInferencePoolRef ref routeNs pools = _ :=
    resolveInferencePoolRef_of_valid (by rw [hns]; exact hfound) hvalid
  set resolved : RouteBackendRef := { ref with
    port := some pool.targetPort
    endpointPickerConfig := { endpointPickerRef := pool.endpointPickerRef, nsName := ref.ns.getD routeNs } }
  have hrefused : validateRouteBackendRef .http resolved routeNs refAllowed (backendRefPath ruleIdx 0 resolved) =
      some (notPermitted (backendRefPath ruleIdx 0 ref) "InferencePool" { ns, name := ref.inferencePoolName }) := by
    have hpath : backendRefPath ruleIdx 0 resolved = backendRefPath ruleIdx 0 ref := rfl
    have hgk' : validateBackendRefHTTPRouteGroupKind resolved (backendRefPath ruleIdx 0 ref) = none := hgk
    simp only [validateRouteBackendRef, hpath]
    simp only [resolved, hfilters, lt_self_iff_false, if_false, if_true]
    exact validateBackendRefHTTPRoute_pool_not_permitted hgk' hpool hkind hns hne hdeny
  have hcreate : createBackendRef resolved .http routeNs refAllowed checkService (backendRefPath ruleIdx 0 resolved) = _ :=
    createBackendRef_invalid_of_refused hrefused
  simp only [group, addBackendRefsToRule, List.zipIdx_cons, List.zipIdx_nil, List.foldl_cons, List.foldl_nil, hpool,
    if_true, hresolve, hcreate]
  simp [newBackendGroup, isRuleBackend, backendOf, resolved, hmirror, hextauth, hpool, hepp, hns]

/-! ## A pool of another namespace without a ReferenceGrant -/

/-- The headless Service reference that an HTTPRoute of `app` gets for its
backend reference to the InferencePool `other/pool`. -/
def refusedPoolRef : RouteBackendRef :=
  { group := some "", kind := some kindService, name := "pool-svc", ns := some "other"
    isInferencePool := true, inferencePoolName := "pool" }

def refusedPoolEndpointPicker : EndpointPickerRef :=
  { name := "epp", port := some 9002, failureMode := "FailClose" }

/-- `other/pool` is valid: its route is accepted and its EndpointPicker
Service `other/epp` exists. -/
def refusedPools (n : NamespacedName) : Option ReferencedInferencePool :=
  if n = { ns := "other", name := "pool" } then
    some { valid := inferencePoolValid true (some refusedPoolEndpointPicker)
             (· = { ns := "other", name := "epp" }) "other"
           targetPort := 8000
           endpointPickerRef := some refusedPoolEndpointPicker }
  else none

/-- The rule's backend references, with no ReferenceGrant at all. -/
def refusedPoolRefs : List BackendRef × List RouteCondition :=
  addBackendRefsToRule .http "app" 0 (fun _ => false) (fun _ _ => .ok { port := 8000 } []) refusedPools
    (fun _ => true) [refusedPoolRef]

def refusedPoolGroup : BackendGroup × Bool :=
  newBackendGroup refusedPoolRefs.1 { ns := "default", name := "gateway" } { ns := "app", name := "llm-route" } 0
    (fun _ => "")

/-- The group of the rule: an inference group whose one backend is invalid
and carries the EndpointPicker of `other/pool`. -/
theorem refused_pool_group_keeps_endpointPicker :
    refusedPoolRef.ns = some "other" ∧ refusedPoolRef.isInferencePool = true ∧
      refusedPoolGroup.2 = true ∧ refusedPoolGroup.1.backends.map (·.valid) = [false] ∧
      refusedPoolGroup.1.backends.map (·.endpointPickerConfig) =
        [some { endpointPickerRef := some refusedPoolEndpointPicker, nsName := "other" }] := by
  let pool : ReferencedInferencePool :=
    { valid := inferencePoolValid true (some refusedPoolEndpointPicker) (· = { ns := "other", name := "epp" }) "other"
      targetPort := 8000, endpointPickerRef := some refusedPoolEndpointPicker }
  have hfound : refusedPools { ns := "other", name := refusedPoolRef.inferencePoolName } = some pool := rfl
  have hvalid : pool.valid = true := by decide
  exact ⟨rfl, rfl, refused_pool_backend_keeps_endpointPicker (by decide) rfl (by decide) rfl rfl rfl rfl
    (by decide : "other" ≠ "app") hfound hvalid rfl rfl⟩

/-- The server `upsertRoute` builds for the rule's one path-only match on `/`. -/
def refusedPoolServer : VirtualServer :=
  { hostname := "llm.example.com"
    port := 80
    pathRules := [{ path := "/", pathType := .pathPrefix, hasInferenceBackends := refusedPoolGroup.2
                    matchRules := [{ filters := {}, «match» := {}, backendGroup := refusedPoolGroup.1 }] }] }

theorem refused_inference_pool_reaches_endpoint_picker :
    refusedPoolRefs.2 = [notPermitted "spec.rules[0].backendRefs[0]" "InferencePool" { ns := "other", name := "pool" }] ∧
    ((createLocations (fun _ => false) [] (fun _ => false) refusedPoolServer "1").1.map
        fun l => tokenize (locationText l)) =
      [.ok [.blockStart ["location", "/_ngf-internal-proxy-pass-rule0-route0-backend0-inference"],
            .directive ["internal"],
            .directive ["proxy_set_header", "Host", "$gw_api_compliant_host"],
            .directive ["proxy_set_header", "X-Forwarded-For", "$proxy_add_x_forwarded_for"],
            .directive ["proxy_set_header", "X-Real-IP", "$remote_addr"],
            .directive ["proxy_set_header", "X-Forwarded-Proto", "$scheme"],
            .directive ["proxy_set_header", "X-Forwarded-Host", "$host"],
            .directive ["proxy_set_header", "X-Forwarded-Port", "$server_port"],
            .directive ["proxy_set_header", "Upgrade", "$http_upgrade"],
            .directive ["proxy_set_header", "Connection", "$connection_upgrade"],
            .directive ["proxy_pass", "http://invalid-backend-ref$request_uri"],
            .blockEnd],
       .ok [.blockStart ["location", "/"],
            .directive ["js_var", "$inference_workload_endpoint"],
            .directive ["set", "$epp_internal_path", "/_ngf-internal-proxy-pass-rule0-route0-backend0-inference"],
            .directive ["set", "$epp_host", "epp.other"],
            .directive ["set", "$epp_port", "9002"],
            .directive ["js_content", "epp.getEndpoint"],
            .blockEnd]] := by
  refine ⟨by decide +kernel, ?_⟩
  decide +kernel

/-! ## An InferencePool rule with basic authentication -/

/-- A reference to the InferencePool `app/pool` from a route of its own
namespace, which needs no ReferenceGrant. -/
def authPoolRef : RouteBackendRef :=
  { group := some "", kind := some kindService, name := "pool-svc", ns := some "app"
    isInferencePool := true, inferencePoolName := "pool" }

def authPools (n : NamespacedName) : Option ReferencedInferencePool :=
  if n = { ns := "app", name := "pool" } then
    some { valid := true, targetPort := 8000, endpointPickerRef := some { name := "epp", port := some 9002 } }
  else none

def authPoolGroup : BackendGroup × Bool :=
  newBackendGroup
    (addBackendRefsToRule .http "app" 0 (fun _ => false) (fun _ _ => .ok { port := 8000 } []) authPools
      (fun _ => true) [authPoolRef]).1
    { ns := "default", name := "gateway" } { ns := "app", name := "llm-route" } 0 (fun _ => "")

/-- An AuthenticationFilter that asks for basic authentication. -/
def authPoolFilters : HTTPFilters :=
  { authenticationFilter := some { basic := some { secretName := "creds", secretNamespace := "app", realm := "inference" } } }

/-- The rule's one path-only match on `/`, with the filter. -/
def authPoolServer : VirtualServer :=
  { hostname := "llm.example.com"
    port := 80
    pathRules :=
      [{ path := "/", pathType := .pathPrefix, hasInferenceBackends := authPoolGroup.2
         matchRules := [{ filters := authPoolFilters, «match» := {}, backendGroup := authPoolGroup.1 }] }] }

/-- The server's locations. -/
def authPoolLocations : List Location :=
  (createLocations (fun _ => false) [] (fun _ => false) authPoolServer "1").1

theorem inference_endpoint_picker_before_auth :
    authPoolLocations.map (fun l => (l.path, l.hasAccessCheck)) =
      [("/_ngf-internal-proxy-pass-rule0-route0-backend0-inference", true), ("/", false)] ∧
    (authPoolLocations.find? (·.path = "/")).map (serve authPoolLocations (fun _ => none) 10) =
      some [.send (.endpointPicker "epp.app" 9002),
            .accessCheck "/_ngf-internal-proxy-pass-rule0-route0-backend0-inference",
            .send (.backend "http://$inference_backend_app_pool_svc_8000$request_uri")] := by
  refine ⟨?_, ?_⟩ <;> decide +kernel

end GatewayFabric.Config
