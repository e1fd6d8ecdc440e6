/-
What the generated configuration refers to by name: the upstreams a
location may proxy to (`buildUpstreams`, the inference maps of
`buildInferenceMaps`) and the keys of the maps that detect misdirected
HTTPS requests (`buildMisdirectedRequestMaps`).

`buildUpstreams` declares each upstream name once, and exactly the names
of the backend references it reads (`buildUpstreams_names_nodup`,
`mem_buildUpstreams_names`). The inference maps are keyed by their
variable name, the upstream name with `-` turned into `_`, which two
upstream names can share; and a hostname of a listener is written as a
map key whatever it is, `default` and `include` included.
-/
import GatewayFabric.Config.Maps
import GatewayFabric.Dataplane.Servers

namespace GatewayFabric.Config

open Dataplane GatewayFabric.Graph Nginx

/-! ## The upstreams that are declared -/

/-- A reference `buildUpstream` turns into an upstream when its name is new. -/
def Accepted (gw : Gateway) (br : BackendRef) : Prop := br.valid ∧ gw.nsName ∉ br.invalidForGateways

instance (gw : Gateway) (br : BackendRef) : Decidable (Accepted gw br) :=
  inferInstanceAs (Decidable (br.valid = true ∧ gw.nsName ∉ br.invalidForGateways))

section Upstreams

variable {resolveEndpoints : BackendRef → Except String (List Endpoint)} {gw : Gateway}

/-- What `buildUpstream` accepts: a reference that is valid, valid for the
Gateway, and whose name is new. -/
theorem buildUpstream_isSome_iff {acc : List Upstream} {br : BackendRef} :
    (buildUpstream resolveEndpoints gw acc br).isSome ↔
      Accepted gw br ∧ br.servicePortReference ∉ acc.map (·.name) := by
  unfold buildUpstream
  split_ifs with h1 h2
  · have : ¬Accepted gw br := by simpa [Accepted, or_iff_not_imp_left] using h1
    simp [this]
  · have : br.servicePortReference ∈ acc.map (·.name) := by simpa using h2
    simp [this]
  · have hacc : Accepted gw br := by simpa [Accepted, not_or] using h1
    have hnew : br.servicePortReference ∉ acc.map (·.name) := by simpa using h2
    simp [hacc, hnew]

theorem buildUpstream_name {acc : List Upstream} {br : BackendRef} {up : Upstream}
    (h : buildUpstream resolveEndpoints gw acc br = some up) : up.name = br.servicePortReference := by
  unfold buildUpstream at h
  split_ifs at h
  cases h
  rfl

/-- One step of the loop adds the reference's name exactly when it is
accepted and new. -/
theorem addUpstream_names (acc : List Upstream) (br : BackendRef) :
    (addUpstream resolveEndpoints gw acc br).map (·.name) =
      acc.map (·.name) ++
        (if Accepted gw br ∧ br.servicePortReference ∉ acc.map (·.name) then [br.servicePortReference] else []) := by
  unfold addUpstream
  cases h : buildUpstream resolveEndpoints gw acc br with
  | none =>
    have hnot : ¬(Accepted gw br ∧ br.servicePortReference ∉ acc.map (·.name)) := by
      rw [← buildUpstream_isSome_iff, h]
      simp
    rw [if_neg hnot]
    simp
  | some up =>
    have hyes := buildUpstream_isSome_iff.1 (by rw [h]; rfl)
    rw [if_pos hyes]
    simp [buildUpstream_name h]

/-- The loop keeps the names distinct. -/
theorem foldl_addUpstream_nodup : ∀ (refs : List BackendRef) {acc : List Upstream}, (acc.map (·.name)).Nodup →
    ((refs.foldl (addUpstream resolveEndpoints gw) acc).map (·.name)).Nodup
  | [], _, h => h
  | br :: refs, acc, h => by
    apply foldl_addUpstream_nodup refs
    rw [addUpstream_names]
    split
    · next hnew =>
      refine List.nodup_append.2 ⟨h, List.nodup_singleton _, fun a ha b hb => ?_⟩
      rw [List.mem_singleton] at hb
      subst hb
      exact fun he => hnew.2 (he ▸ ha)
    · simpa using h

/-- After the loop, a name is there when it was before or when some
accepted reference of the loop has it. -/
theorem mem_foldl_addUpstream : ∀ (refs : List BackendRef) {acc : List Upstream} {n : String},
    n ∈ (refs.foldl (addUpstream resolveEndpoints gw) acc).map (·.name) ↔
      n ∈ acc.map (·.name) ∨ ∃ br ∈ refs, Accepted gw br ∧ br.servicePortReference = n
  | [], _, _ => by simp
  | br :: refs, acc, n => by
    rw [List.foldl_cons, mem_foldl_addUpstream refs, addUpstream_names, List.mem_append]
    simp only [List.mem_cons, or_and_right, exists_or, exists_eq_left]
    by_cases hnew : Accepted gw br ∧ br.servicePortReference ∉ acc.map (·.name)
    · rw [if_pos hnew, List.mem_singleton]
      constructor
      · rintro ((h | rfl) | h)
        exacts [.inl h, .inr (.inl ⟨hnew.1, rfl⟩), .inr (.inr h)]
      · rintro (h | ⟨-, rfl⟩ | h)
        exacts [.inl (.inl h), .inl (.inr rfl), .inr h]
    · rw [if_neg hnew]
      constructor
      · rintro ((h | h) | h)
        exacts [.inl h, absurd h List.not_mem_nil, .inr (.inr h)]
      · rintro (h | ⟨hacc, rfl⟩ | h)
        · exact .inl (.inl h)
        · exact .inl (.inl (by simpa [hacc] using hnew))
        · exact .inr h

/-- The upstreams `buildUpstreams` declares have pairwise distinct names. -/
theorem buildUpstreams_names_nodup (routes : List L7Route) :
    ((buildUpstreams resolveEndpoints gw routes).map (·.name)).Nodup :=
  ((perm_sortStable _ _).map _).nodup_iff.2 (foldl_addUpstream_nodup _ List.nodup_nil)

/-- `buildUpstreams` declares exactly the names of the accepted references
it reads. -/
theorem mem_buildUpstreams_names {routes : List L7Route} {n : String} :
    n ∈ (buildUpstreams resolveEndpoints gw routes).map (·.name) ↔
      ∃ br ∈ upstreamBackendRefs gw routes, Accepted gw br ∧ br.servicePortReference = n := by
  rw [buildUpstreams, ((perm_sortStable _ _).map _).mem_iff, mem_foldl_addUpstream]
  simp

/-- Every accepted backend reference of a rule with valid matches and
filters, of a valid route on a valid listener, names a declared upstream. -/
theorem servicePortReference_mem_buildUpstreams {routes : List L7Route} {l : Listener} (hl : l ∈ gw.listeners)
    (hlv : l.valid) {route : L7Route} (hroute : route ∈ listenerRoutes routes l) (hrv : route.valid)
    {rule : RouteRule} (hrule : rule ∈ route.rules) (hmatches : rule.validMatches) (hfilters : rule.filtersValid)
    {br : BackendRef} (hbr : br ∈ rule.backendRefs) (hacc : Accepted gw br) :
    br.servicePortReference ∈ (buildUpstreams resolveEndpoints gw routes).map (·.name) := by
  refine mem_buildUpstreams_names.2 ⟨br, ?_, hacc, rfl⟩
  simp only [upstreamBackendRefs, List.mem_flatMap, List.mem_filter, Bool.and_eq_true]
  exact ⟨l, ⟨hl, hlv⟩, route, ⟨hroute, hrv⟩, rule, ⟨hrule, hmatches, hfilters⟩, hbr⟩

end Upstreams

def integrityGatewayName : NamespacedName := { ns := "default", name := "gateway" }

/-! ## A listener hostname that is a map keyword -/

/-- A Gateway with one HTTPS listener on 443 for the hostname `h`. -/
def keywordGateway (h : String) : Gateway :=
  { nsName := integrityGatewayName
    listeners := [{ name := "https", gatewayName := integrityGatewayName, hostname := some h, port := 443
                    protocol := .https, supportedKinds := [.httpRoute, .grpcRoute]
                    resolvedSecrets := [{ ns := "default", name := "cert" }] }] }

/-- The misdirected-request maps of the Gateway's configuration, as NGINX
reads them back. -/
def misdirectedMapsOf (gw : Gateway) : Except LexError (Except MapError (List (String × String × MapBlock))) :=
  (tokenize (mapsText (buildMisdirectedRequestMaps (sslListenerHostnames gw)))).map readMaps

theorem listener_hostname_keywords_break_misdirected_maps :
    validateHostname "default" = .ok () ∧ validateHostname "include" = .ok () ∧
      misdirectedMapsOf (keywordGateway "default") = .ok (.error .duplicateDefault) ∧
      misdirectedMapsOf (keywordGateway "include") =
        .ok (.ok [("$ssl_server_name", "$sni_listener_id_443", { hostnames := true, default := some "0", includes := ["1"] }),
                  ("$host", "$host_listener_id_443", { hostnames := true, default := some "0", includes := ["1"] })]) := by
  refine ⟨validateHostname_of_lowerAlnum (by decide) (by decide) (by decide),
    validateHostname_of_lowerAlnum (by decide) (by decide) (by decide), ?_, ?_⟩ <;> decide +kernel

/-! ## Two upstreams of one inference variable -/

/-- A reference to the headless Service `svc` of an InferencePool of `ns`,
on port 8000, whose EndpointPicker fails open. -/
def poolServiceRef (ns svc : String) : BackendRef :=
  { svcNsName := { ns, name := svc }, servicePort := { port := 8000 }, weight := 1, valid := true
    isInferencePool := true
    endpointPickerConfig :=
      { endpointPickerRef := some { kind := "Service", name := "epp", port := some 9002, failureMode := endpointPickerFailOpen }
        nsName := ns } }

def collisionGateway : Gateway :=
  { nsName := integrityGatewayName
    listeners := [{ name := "http", gatewayName := integrityGatewayName, port := 80, protocol := .http
                    allowedFrom := some .all, supportedKinds := [.httpRoute, .grpcRoute] }] }

/-- An HTTPRoute of `a-b` for `a.example.com` whose one rule, to the pool
Service `a-b/c-pool-svc`, has a filter that is not valid. -/
def brokenFilterRoute : L7Route :=
  { source := { creationTimestamp := 1, ns := "a-b", name := "x" }, hostnames := ["a.example.com"]
    rules := [{ «matches» := [{ path := "/", pathType := .pathPrefix }], backendRefs := [poolServiceRef "a-b" "c-pool-svc"]
                filtersValid := false }]
    parentRefs := [{ nsName := integrityGatewayName, sectionName := some "http" }] }

/-- An HTTPRoute of `a` for `b.example.com` to the pool Service `a/b-c-pool-svc`. -/
def poolRoute : L7Route :=
  { source := { creationTimestamp := 2, ns := "a", name := "y" }, hostnames := ["b.example.com"]
    rules := [{ «matches» := [{ path := "/", pathType := .pathPrefix }], backendRefs := [poolServiceRef "a" "b-c-pool-svc"] }]
    parentRefs := [{ nsName := integrityGatewayName, sectionName := some "http" }] }

def collisionRoutes : List L7Route :=
  (bindRoutesToListeners (fun _ _ => false) collisionGateway [brokenFilterRoute, poolRoute] []).1

def collisionServers : List VirtualServer :=
  buildServersForProtocol (fun _ => "") collisionGateway collisionRoutes .http

/-- The upstreams, each Service with a ready endpoint. -/
def collisionUpstreams : List Upstream :=
  buildUpstreams (fun _ => .ok [{ address := "10.0.0.1", port := 8000 }]) collisionGateway collisionRoutes

def collisionMaps : List Shared.Map := buildInferenceMaps (buildBackendGroups collisionServers)

/-- The `proxy_pass` targets of the locations of `b.example.com`. -/
def poolRouteProxyPasses : List String :=
  ((collisionServers.filter (·.hostname = "b.example.com")).flatMap fun s =>
    (createLocations (fun _ => false) [] (fun _ => false) s "1").1).filterMap fun l =>
      if l.proxyPass = "" then none else some l.proxyPass

theorem inference_map_falls_back_to_undeclared_upstream :
    collisionUpstreams.map (·.name) = ["a_b-c-pool-svc_8000"] ∧
      poolRouteProxyPasses = ["http://$inference_backend_a_b_c_pool_svc_8000$request_uri"] ∧
      collisionMaps.map (fun m => (m.«variable», m.parameters.map (·.result))) =
        [("$inference_backend_a_b_c_pool_svc_8000",
          ["a-b_c-pool-svc_8000", "$inference_workload_endpoint", "a-b_c-pool-svc_8000"])] := by
  refine ⟨?_, ?_, ?_⟩ <;> decide +kernel

end GatewayFabric.Config
