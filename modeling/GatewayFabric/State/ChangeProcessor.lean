/-
Change tracking of the cluster state (`state/store.go`,
`state/change_processor.go`): every upsert and delete of an object is
applied to the store, and marks the state changed unless the object's
kind has a predicate (`isReferenced` here) that says the latest graph does
not refer to it. `Process` rebuilds the graph only when the state changed.

Skipping a rebuild is sound when every change the predicates call
irrelevant leaves the graph that would be built the same (`SkipSound`); a
run of such changes then does too (`SkipSound.foldl`). Judged with the
EndpointPicker Services the code's predicates miss, every run of changes to
objects the graph does not read leaves it as it was
(`buildGraph_frame_run`).

The graph is the part of `BuildGraph` that reads Services and
InferencePools: the Services the valid routes reference
(`buildReferencedServices`), and the InferencePools the routes reference,
each with the check that its EndpointPicker is a Service that exists
(`buildReferencedInferencePools`, `validateInferencePoolExtensionRef`).
Every route belongs to the one Gateway; the check that a pool's routes are
accepted, and every other kind of object, are left out.
-/
import GatewayFabric.Graph.BackendRefs

namespace GatewayFabric.State

open Dataplane

/-! ## Skipping a rebuild -/

section Skip

variable {σ γ ε : Type} (build : σ → γ) (apply : σ → ε → σ) (relevant : γ → ε → Bool)

/-- A change that `relevant` calls irrelevant for the graph built from a
state leaves the graph built from the changed state as it was. -/
def SkipSound : Prop := ∀ s e, relevant (build s) e = false → build (apply s e) = build s

variable {build apply relevant}

/-- Irrelevant changes one after another leave the graph as it was; each is
judged against the graph built before the run, which they do not change. -/
theorem SkipSound.foldl (h : SkipSound build apply relevant) :
    ∀ (es : List ε) (s : σ), (∀ e ∈ es, relevant (build s) e = false) → build (es.foldl apply s) = build s
  | [], _, _ => rfl
  | e :: es, s, hes => by
    have hstep : build (apply s e) = build s := h s e (hes e List.mem_cons_self)
    have hrest : ∀ e' ∈ es, relevant (build (apply s e)) e' = false := fun e' he' =>
      hstep ▸ hes e' (List.mem_cons_of_mem _ he')
    rw [List.foldl_cons, SkipSound.foldl h es (apply s e) hrest, hstep]

end Skip

/-! ## The cluster state -/

/-- An HTTPRoute as graph building reads it here: whether it is valid, and
the backend references of its rules, those to an InferencePool already
turned into references to the pool's headless Service. -/
structure HTTPRouteSpec where
  valid : Bool := true
  rules : List (List Graph.RouteBackendRef)
  deriving Repr, DecidableEq

/-- An InferencePool's spec: its EndpointPicker reference. -/
structure InferencePoolSpec where
  endpointPickerRef : Option EndpointPickerRef
  deriving Repr, DecidableEq

/-- The kinds of objects of the model, with the GVKs of `trackingUpdaterCfg`. -/
inductive ObjectKind where
  | httpRoute
  | inferencePool
  | service
  | endpointSlice
  deriving Repr, DecidableEq

/-- An object whose change is captured. An EndpointSlice carries the name of
its Service (its `kubernetes.io/service-name` label). -/
inductive Object where
  | httpRoute (nsName : NamespacedName) (spec : HTTPRouteSpec)
  | inferencePool (nsName : NamespacedName) (spec : InferencePoolSpec)
  | service (nsName : NamespacedName)
  | endpointSlice (nsName : NamespacedName) (serviceName : String)
  deriving Repr, DecidableEq

def Object.kind : Object → ObjectKind
  | .httpRoute .. => .httpRoute
  | .inferencePool .. => .inferencePool
  | .service .. => .service
  | .endpointSlice .. => .endpointSlice

def Object.nsName : Object → NamespacedName
  | .httpRoute n _ | .inferencePool n _ | .service n | .endpointSlice n _ => n

/-- Whether the kind has a store (`store: nil` for EndpointSlices). -/
def ObjectKind.persists : ObjectKind → Bool
  | .endpointSlice => false
  | _ => true

/-- `m[k] = v` on a Go map kept as an association list. -/
def storeSet {κ β : Type} [DecidableEq κ] (m : List (κ × β)) (k : κ) (v : β) : List (κ × β) :=
  if m.any (·.1 = k) then m.map fun e => if e.1 = k then (k, v) else e else m ++ [(k, v)]

/-- `delete(m, k)`. -/
def storeErase {κ β : Type} [DecidableEq κ] (m : List (κ × β)) (k : κ) : List (κ × β) :=
  m.filter (·.1 ≠ k)

/-- `state.ClusterState`: the stored HTTPRoutes, InferencePools and Services. -/
structure ClusterState where
  httpRoutes : List (NamespacedName × HTTPRouteSpec) := []
  inferencePools : List (NamespacedName × InferencePoolSpec) := []
  services : List (NamespacedName × Unit) := []
  deriving Repr, DecidableEq

/-- `multiObjectStore.get(...) != nil`. -/
def ClusterState.contains (s : ClusterState) : ObjectKind → NamespacedName → Bool
  | .httpRoute, n => s.httpRoutes.any (·.1 = n)
  | .inferencePool, n => s.inferencePools.any (·.1 = n)
  | .service, n => s.services.any (·.1 = n)
  | .endpointSlice, _ => false

/-- `multiObjectStore.upsert`. -/
def ClusterState.upsert (s : ClusterState) : Object → ClusterState
  | .httpRoute n spec => { s with httpRoutes := storeSet s.httpRoutes n spec }
  | .inferencePool n spec => { s with inferencePools := storeSet s.inferencePools n spec }
  | .service n => { s with services := storeSet s.services n () }
  | .endpointSlice .. => s

/-- `multiObjectStore.delete`. -/
def ClusterState.delete (s : ClusterState) : ObjectKind → NamespacedName → ClusterState
  | .httpRoute, n => { s with httpRoutes := storeErase s.httpRoutes n }
  | .inferencePool, n => { s with inferencePools := storeErase s.inferencePools n }
  | .service, n => { s with services := storeErase s.services n }
  | .endpointSlice, _ => s

/-! ## The graph -/

/-- The conditions `validateInferencePoolExtensionRef` gives a pool. -/
inductive PoolCondition where
  | endpointPickerRefMissing (msg : String)
  | invalidExtensionRef (msg : String)
  deriving Repr, DecidableEq

/-- `graph.ReferencedInferencePool`: the pool, if it exists, its conditions
and whether it is valid. -/
structure ReferencedInferencePool where
  source : Option InferencePoolSpec := none
  conditions : List PoolCondition := []
  valid : Bool := false
  deriving Repr, DecidableEq

/-- `graph.Graph`, the part read here. -/
structure Graph where
  referencedServices : List NamespacedName
  referencedInferencePools : List (NamespacedName × ReferencedInferencePool)
  deriving Repr, DecidableEq

/-- The Service a backend reference of a route names. -/
def refServiceNsName (routeNs : String) (ref : Graph.RouteBackendRef) : NamespacedName :=
  { ns := ref.ns.getD routeNs, name := ref.name }

/-- `buildReferencedServices`, without the Services' own fields: the
Services of the backend references of the valid routes, each once. -/
def buildReferencedServices (routes : List (NamespacedName × HTTPRouteSpec)) : List NamespacedName :=
  (routes.filter (·.2.valid)).foldl (fun acc (routeNsName, spec) =>
    (spec.rules.flatten.map (refServiceNsName routeNsName.ns)).foldl (fun acc svc =>
      if svc = { ns := "", name := "" } ∨ svc ∈ acc then acc else acc ++ [svc]) acc) []

/-- The pool a backend reference of a route names, if it names one. -/
def refPoolNsName (routeNs : String) (ref : Graph.RouteBackendRef) : Option NamespacedName :=
  if !ref.isInferencePool && ref.kind ≠ some Graph.kindInferencePool then none
  else some { ns := ref.ns.getD routeNs, name := if ref.inferencePoolName = "" then ref.name else ref.inferencePoolName }

/-- `validateInferencePoolExtensionRef`: a pool must name an EndpointPicker
that is a Service of its namespace that exists. -/
def validateInferencePoolExtensionRef (poolNsName : NamespacedName) (ip : Option InferencePoolSpec)
    (services : List (NamespacedName × Unit)) : Option PoolCondition :=
  match ip with
  | none => none
  | some ip =>
    match ip.endpointPickerRef with
    | none => some (.endpointPickerRefMissing
        ("spec.endpointPickerRef must be set; NGINX Gateway Fabric requires " ++
          "an EndpointPicker extension to route to this InferencePool"))
    | some epp =>
      let kind := if epp.kind = "" then Graph.kindService else epp.kind
      if kind ≠ Graph.kindService then some (.invalidExtensionRef ("Invalid ExtensionRef kind: " ++ kind))
      else
        let eppNsName : NamespacedName := { ns := poolNsName.ns, name := epp.name }
        if services.any (·.1 = eppNsName) then none
        else some (.invalidExtensionRef ("The ExtensionRef Service not found: " ++ Graph.nsNameString eppNsName))

/-- The pools the routes reference, each once (`processInferencePoolsForGateway`). -/
def referencedPoolNames (routes : List (NamespacedName × HTTPRouteSpec)) : List NamespacedName :=
  routes.foldl (fun acc (routeNsName, spec) =>
    (spec.rules.flatten.filterMap (refPoolNsName routeNsName.ns)).foldl (fun acc n =>
      if n ∈ acc then acc else acc ++ [n]) acc) []

/-- `buildReferencedInferencePools`: the pools the routes reference, with
each one's source when it exists, then validated. -/
def buildReferencedInferencePools (s : ClusterState) : List (NamespacedName × ReferencedInferencePool) :=
  (referencedPoolNames s.httpRoutes).map fun n =>
    let source := s.inferencePools.lookup n
    let conditions := (validateInferencePoolExtensionRef n source s.services).toList
    (n, { source, conditions, valid := conditions.isEmpty })

/-- `BuildGraph`, the part read here. -/
def buildGraph (s : ClusterState) : Graph :=
  { referencedServices := buildReferencedServices s.httpRoutes
    referencedInferencePools := buildReferencedInferencePools s }

/-- `Graph.IsReferenced`, for the kinds of the model. -/
def Graph.isReferenced (g : Graph) : ObjectKind → NamespacedName → String → Bool
  | .service, n, _ => g.referencedServices.contains n
  | .inferencePool, n, _ => g.referencedInferencePools.any (·.1 = n)
  | .endpointSlice, n, serviceName => g.referencedServices.contains { ns := n.ns, name := serviceName }
  | .httpRoute, _, _ => false

/-! ## Tracking changes -/

/-- The predicate of a kind in `trackingUpdaterCfg`: none (every change
counts) or `isReferenced`. -/
def ObjectKind.tracksReferenced : ObjectKind → Bool
  | .httpRoute => false
  | _ => true

/-- `isReferenced`: the latest graph exists and references the object. -/
def isReferenced (latestGraph : Option Graph) (kind : ObjectKind) (n : NamespacedName) (serviceName : String) :
    Bool :=
  match latestGraph with
  | some g => g.isReferenced kind n serviceName
  | none => false

/-- The label a kind's object gives the predicate: an EndpointSlice's
Service name; a delete is given the kind's empty object, with no label. -/
def Object.serviceName : Object → String
  | .endpointSlice _ svc => svc
  | _ => ""

/-- `changeTrackingUpdater`, with the latest graph its predicates read. -/
structure ChangeProcessor where
  clusterState : ClusterState := {}
  latestGraph : Option Graph := none
  changed : Bool := false
  deriving Repr, DecidableEq

/-- `changeTrackingUpdater.upsert`: the store with the object, and whether
the change counts. -/
def ChangeProcessor.upsert (p : ChangeProcessor) (obj : Object) : ClusterState × Bool :=
  let store := if obj.kind.persists then p.clusterState.upsert obj else p.clusterState
  if obj.kind.tracksReferenced then (store, isReferenced p.latestGraph obj.kind obj.nsName obj.serviceName)
  else (store, true)

/-- `CaptureUpsertChange`. -/
def ChangeProcessor.captureUpsertChange (p : ChangeProcessor) (obj : Object) : ChangeProcessor :=
  let (clusterState, changing) := p.upsert obj
  { p with clusterState, changed := p.changed || changing }

/-- `changeTrackingUpdater.delete`: deleting an object the store does not
have is no change. -/
def ChangeProcessor.delete (p : ChangeProcessor) (kind : ObjectKind) (n : NamespacedName) : ClusterState × Bool :=
  if kind.persists && !p.clusterState.contains kind n then (p.clusterState, false)
  else
    let store := if kind.persists then p.clusterState.delete kind n else p.clusterState
    if kind.tracksReferenced then (store, isReferenced p.latestGraph kind n "") else (store, true)

/-- `CaptureDeleteChange`. -/
def ChangeProcessor.captureDeleteChange (p : ChangeProcessor) (kind : ObjectKind) (n : NamespacedName) :
    ChangeProcessor :=
  let (clusterState, changing) := p.delete kind n
  { p with clusterState, changed := p.changed || changing }

/-- `ChangeProcessorImpl.Process`: the rebuilt graph when the state changed
since the last call, else none. -/
def ChangeProcessor.process (p : ChangeProcessor) : Option Graph × ChangeProcessor :=
  if !p.changed then (none, p)
  else
    let g := buildGraph p.clusterState
    (some g, { p with latestGraph := some g, changed := false })

/-- A captured change. -/
inductive Change where
  | upsert (obj : Object)
  | delete (kind : ObjectKind) (nsName : NamespacedName)
  deriving Repr, DecidableEq

def ChangeProcessor.capture (p : ChangeProcessor) : Change → ChangeProcessor
  | .upsert obj => p.captureUpsertChange obj
  | .delete kind n => p.captureDeleteChange kind n

/-- What a change does to the store. -/
def ClusterState.apply (s : ClusterState) : Change → ClusterState
  | .upsert obj => s.upsert obj
  | .delete kind n => s.delete kind n

/-! ## The store -/

section Store

variable {κ β : Type} [DecidableEq κ]

theorem lookup_cons_of_ne {l : List (κ × β)} {a k' : κ} {b : β} (h : k' ≠ a) :
    ((a, b) :: l).lookup k' = l.lookup k' := by
  simp [List.lookup_cons, beq_eq_false_iff_ne.2 h]

theorem lookup_storeSet_ne {m : List (κ × β)} {k k' : κ} (v : β) (h : k' ≠ k) :
    (storeSet m k v).lookup k' = m.lookup k' := by
  have hmap : ∀ l : List (κ × β), (l.map fun e => if e.1 = k then (k, v) else e).lookup k' = l.lookup k' := by
    intro l
    induction l with
    | nil => rfl
    | cons e l ih =>
      obtain ⟨a, b⟩ := e
      by_cases he : a = k
      · subst he
        simp only [List.map_cons, if_true]
        rw [lookup_cons_of_ne h, lookup_cons_of_ne h, ih]
      · simp only [List.map_cons, he, if_false]
        rw [List.lookup_cons, List.lookup_cons, ih]
  unfold storeSet
  split
  · exact hmap m
  · rw [List.lookup_append, lookup_cons_of_ne h, List.lookup_nil, Option.or_none]

theorem lookup_storeErase_ne {m : List (κ × β)} {k k' : κ} (h : k' ≠ k) :
    (storeErase m k).lookup k' = m.lookup k' := by
  unfold storeErase
  induction m with
  | nil => rfl
  | cons e m ih =>
    obtain ⟨a, b⟩ := e
    by_cases he : a = k
    · subst he
      rw [List.filter_cons_of_neg (by simp), ih, lookup_cons_of_ne h]
    · rw [List.filter_cons_of_pos (by simpa using he), List.lookup_cons, List.lookup_cons, ih]

theorem lookup_storeSet_self (m : List (κ × β)) (k : κ) (v : β) : (storeSet m k v).lookup k = some v := by
  unfold storeSet
  split
  · rename_i hany
    induction m with
    | nil => simp at hany
    | cons e m ih =>
      obtain ⟨a, b⟩ := e
      by_cases he : a = k
      · subst he
        simp
      · simp only [List.map_cons, he, if_false]
        rw [lookup_cons_of_ne (Ne.symm he)]
        exact ih (by simpa [he] using hany)
  · rename_i hany
    have hnone : m.lookup k = none := by
      rw [List.lookup_eq_none_iff]
      intro e he
      have hek : e.1 ≠ k := fun h => hany (List.any_eq_true.mpr ⟨e, he, by simp [h]⟩)
      simpa [bne_iff_ne] using Ne.symm hek
    simp [List.lookup_append, hnone]

theorem any_storeSet_ne {m : List (κ × β)} {k k' : κ} (v : β) (h : k' ≠ k) :
    (storeSet m k v).any (·.1 = k') = m.any (·.1 = k') := by
  unfold storeSet
  split
  · simp only [List.any_map]
    congr 1
    funext e
    by_cases he : e.1 = k
    · simp [he, Ne.symm h]
    · simp [he]
  · simp [h.symm]

theorem any_storeErase_ne {m : List (κ × β)} {k k' : κ} (h : k' ≠ k) :
    (storeErase m k).any (·.1 = k') = m.any (·.1 = k') := by
  simp only [storeErase, List.any_filter]
  congr 1
  funext e
  by_cases he : e.1 = k'
  · simp [he, h]
  · simp [he]

end Store

/-! ## What the graph depends on -/

/-- The EndpointPicker Services of the referenced pools, which
`validateInferencePoolExtensionRef` looks up. -/
def Graph.endpointPickerServices (g : Graph) : List NamespacedName :=
  g.referencedInferencePools.filterMap fun (n, p) =>
    (p.source.bind (·.endpointPickerRef)).map fun epp => { ns := n.ns, name := epp.name }

theorem validateInferencePoolExtensionRef_congr {n : NamespacedName} {ip : Option InferencePoolSpec}
    {services services' : List (NamespacedName × Unit)}
    (h : ∀ epp, ip.bind (·.endpointPickerRef) = some epp →
      services'.any (·.1 = { ns := n.ns, name := epp.name }) = services.any (·.1 = { ns := n.ns, name := epp.name })) :
    validateInferencePoolExtensionRef n ip services' = validateInferencePoolExtensionRef n ip services := by
  cases ip with
  | none => rfl
  | some ip =>
    cases hepp : ip.endpointPickerRef with
    | none => simp [validateInferencePoolExtensionRef, hepp]
    | some epp => simp [validateInferencePoolExtensionRef, hepp, h epp (by simp [hepp])]

/-- The referenced pools depend on the store only through the routes, the
referenced pools' specs, and whether their EndpointPicker Services exist. -/
theorem buildReferencedInferencePools_congr {s s' : ClusterState} (hroutes : s'.httpRoutes = s.httpRoutes)
    (hpools : ∀ n ∈ referencedPoolNames s.httpRoutes, s'.inferencePools.lookup n = s.inferencePools.lookup n)
    (hsvc : ∀ n ∈ referencedPoolNames s.httpRoutes, ∀ epp,
      (s.inferencePools.lookup n).bind (·.endpointPickerRef) = some epp →
        s'.services.any (·.1 = { ns := n.ns, name := epp.name }) =
          s.services.any (·.1 = { ns := n.ns, name := epp.name })) :
    buildReferencedInferencePools s' = buildReferencedInferencePools s := by
  unfold buildReferencedInferencePools
  rw [hroutes]
  refine List.map_congr_left fun n hn => ?_
  simp only [hpools n hn, validateInferencePoolExtensionRef_congr (hsvc n hn)]

theorem any_referencedInferencePools {s : ClusterState} {n : NamespacedName} :
    (buildGraph s).referencedInferencePools.any (·.1 = n) = (referencedPoolNames s.httpRoutes).contains n := by
  rw [Bool.eq_iff_iff]
  simp [buildGraph, buildReferencedInferencePools, List.any_eq_true]

theorem mem_endpointPickerServices {s : ClusterState} {n : NamespacedName} (hn : n ∈ referencedPoolNames s.httpRoutes)
    {epp : EndpointPickerRef} (hepp : (s.inferencePools.lookup n).bind (·.endpointPickerRef) = some epp) :
    { ns := n.ns, name := epp.name } ∈ (buildGraph s).endpointPickerServices := by
  simp only [Graph.endpointPickerServices, buildGraph, buildReferencedInferencePools, List.filterMap_map,
    List.mem_filterMap, Function.comp_apply]
  exact ⟨n, hn, by simp [hepp]⟩

/-- The changes the graph depends on: every route, the referenced pools,
the referenced Services, and the EndpointPicker Services of the referenced
pools. -/
def relevantWithEndpointPickers (g : Graph) : Change → Bool
  | .upsert (.httpRoute ..) | .delete .httpRoute _ => true
  | .upsert (.inferencePool n _) | .delete .inferencePool n => g.referencedInferencePools.any (·.1 = n)
  | .upsert (.service n) | .delete .service n =>
    g.referencedServices.contains n || g.endpointPickerServices.contains n
  | .upsert (.endpointSlice ..) | .delete .endpointSlice _ => false

/-- A change to a pool that no route references leaves the graph as it was. -/
theorem buildGraph_pool_frame {s s' : ClusterState} {n : NamespacedName} (hroutes : s'.httpRoutes = s.httpRoutes)
    (hsvc : s'.services = s.services) (hn : n ∉ referencedPoolNames s.httpRoutes)
    (hpools : ∀ m, m ≠ n → s'.inferencePools.lookup m = s.inferencePools.lookup m) : buildGraph s' = buildGraph s := by
  have hpool := buildReferencedInferencePools_congr hroutes (fun m hm => hpools m (fun he => hn (he ▸ hm)))
    (fun _ _ _ _ => by rw [hsvc])
  simp only [buildGraph, hroutes, hpool]

/-- A change to a Service that is no EndpointPicker of a referenced pool
leaves the graph as it was. -/
theorem buildGraph_service_frame {s s' : ClusterState} {n : NamespacedName} (hroutes : s'.httpRoutes = s.httpRoutes)
    (hpools : s'.inferencePools = s.inferencePools) (hn : n ∉ (buildGraph s).endpointPickerServices)
    (hsvc : ∀ m, m ≠ n → s'.services.any (·.1 = m) = s.services.any (·.1 = m)) : buildGraph s' = buildGraph s := by
  have hpool := buildReferencedInferencePools_congr hroutes (fun _ _ => by rw [hpools])
    (fun m hm epp hepp => hsvc _ fun he => hn (he ▸ mem_endpointPickerServices hm hepp))
  simp only [buildGraph, hroutes, hpool]

/-- Skipping every change but those to routes, to referenced pools, to
referenced Services and to the EndpointPicker Services of referenced pools
would be sound. -/
theorem skipSound_endpointPickers : SkipSound buildGraph ClusterState.apply relevantWithEndpointPickers := by
  intro s e hirr
  cases e with
  | upsert obj =>
    cases obj with
    | httpRoute n spec => simp [relevantWithEndpointPickers] at hirr
    | inferencePool n spec =>
      simp only [relevantWithEndpointPickers, any_referencedInferencePools, List.contains_eq_mem,
        decide_eq_false_iff_not] at hirr
      exact buildGraph_pool_frame rfl rfl hirr fun m hm => lookup_storeSet_ne spec hm
    | service n =>
      simp only [relevantWithEndpointPickers, Bool.or_eq_false_iff, List.contains_eq_mem,
        decide_eq_false_iff_not] at hirr
      exact buildGraph_service_frame rfl rfl hirr.2 fun m hm => any_storeSet_ne () hm
    | endpointSlice n svc => rfl
  | delete kind n =>
    cases kind with
    | httpRoute => simp [relevantWithEndpointPickers] at hirr
    | inferencePool =>
      simp only [relevantWithEndpointPickers, any_referencedInferencePools, List.contains_eq_mem,
        decide_eq_false_iff_not] at hirr
      exact buildGraph_pool_frame rfl rfl hirr fun m hm => lookup_storeErase_ne hm
    | service =>
      simp only [relevantWithEndpointPickers, Bool.or_eq_false_iff, List.contains_eq_mem,
        decide_eq_false_iff_not] at hirr
      exact buildGraph_service_frame rfl rfl hirr.2 fun m hm => any_storeErase_ne hm
    | endpointSlice => rfl

/-- `BuildGraph` reads of the cluster state only the routes, the pools they
reference, the Services they reference and the EndpointPicker Services of
those pools: a run of changes to other objects, each judged against the
graph before the run, leaves the graph as it was. -/
theorem buildGraph_frame_run (s : ClusterState) (es : List Change)
    (h : ∀ e ∈ es, relevantWithEndpointPickers (buildGraph s) e = false) :
    buildGraph (es.foldl ClusterState.apply s) = buildGraph s :=
  skipSound_endpointPickers.foldl es s h

/-- On the empty cluster, a Service no route references and a pool no route
references come and go without changing the graph. -/
theorem unreferenced_objects_keep_graph :
    let es : List Change :=
      [.upsert (.service { ns := "app", name := "svc" }),
        .upsert (.inferencePool { ns := "app", name := "pool" } { endpointPickerRef := some { name := "epp" } }),
        .delete .service { ns := "app", name := "svc" }]
    (∀ e ∈ es, relevantWithEndpointPickers (buildGraph {}) e = false) ∧
      buildGraph (es.foldl ClusterState.apply {}) = buildGraph {} := by
  intro es
  have h : ∀ e ∈ es, relevantWithEndpointPickers (buildGraph {}) e = false := by decide
  exact ⟨h, buildGraph_frame_run {} es h⟩

/-! ## An EndpointPicker Service created after the graph -/

def eppRouteNsName : NamespacedName := { ns := "app", name := "llm-route" }
def eppPoolNsName : NamespacedName := { ns := "app", name := "pool" }
def eppServiceNsName : NamespacedName := { ns := "app", name := "epp" }

/-- A valid HTTPRoute whose rule references the InferencePool `app/pool`
(by its headless Service `pool-svc`). -/
def eppRouteSpec : HTTPRouteSpec :=
  { rules := [[{ group := some "", kind := some Graph.kindService, name := "pool-svc", isInferencePool := true
                 inferencePoolName := "pool" }]] }

/-- The pool, whose EndpointPicker is the Service `epp` of its namespace. -/
def eppPoolSpec : InferencePoolSpec := { endpointPickerRef := some { name := "epp", port := some 9002 } }

/-- The route and the pool captured; the Service `app/epp` does not exist yet. -/
def eppProcessor : ChangeProcessor :=
  (({} : ChangeProcessor).captureUpsertChange (.httpRoute eppRouteNsName eppRouteSpec)).captureUpsertChange
    (.inferencePool eppPoolNsName eppPoolSpec)

/-- After the first `Process`, the EndpointPicker Service is created. -/
def eppServiceCreated : ChangeProcessor :=
  eppProcessor.process.2.captureUpsertChange (.service eppServiceNsName)

theorem endpoint_picker_service_creation_skipped :
    eppProcessor.process.1.map (·.referencedInferencePools) =
        some [(eppPoolNsName, { source := some eppPoolSpec, valid := false
                                conditions := [.invalidExtensionRef "The ExtensionRef Service not found: app/epp"] })] ∧
      eppServiceCreated.process.1 = none ∧
      (buildGraph eppServiceCreated.clusterState).referencedInferencePools =
        [(eppPoolNsName, { source := some eppPoolSpec, conditions := [], valid := true })] := by
  refine ⟨?_, ?_, ?_⟩ <;> decide +kernel

end GatewayFabric.State
