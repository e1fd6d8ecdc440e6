/-
The parent references of a route as the graph holds them
(`buildSectionNameRefs`, `route_common.go`), and the listeners of a Gateway
once its ListenerSets are merged into it
(`mergeGatewayAndListenerSetListeners`, `listenerset.go`).

A reference that names no section and no port stands for every listener of
its parent: it becomes one reference per listener, all with the index of
the reference they come from. A section name met twice for one parent makes
the route invalid. `buildSectionNameRefs_toOption` states what the loop
computes: the references of `parentRefExpansion`, when their section keys
are distinct.

For a Gateway those listeners are `gw.Listeners`, which by then hold the
valid ListenerSet listeners too: a ListenerSet listener named as one of the
Gateway's makes every route whose reference to the Gateway names no section
invalid, though the route never refers to the ListenerSet.

`buildTLSRoute` (`tlsroute.go`) keeps these references on the L4 route it
builds, and a TLSRoute whose rules are not one rule of one backend reference
is invalid and not attachable.

Go's maps of Gateways and ListenerSets are lists, looked up by name.
-/
import GatewayFabric.Graph.ListenerConflicts

namespace GatewayFabric.Graph

open Dataplane

/-! ## A loop that refuses a repeated key -/

section Checked

variable {κ ρ α ε : Type} [DecidableEq κ]

/-- The keys and outputs of a loop of checked appends, when no key repeats. -/
def checkedResult (keys : List κ) (outs : List ρ) : Option (List κ × List ρ) :=
  if keys.Nodup then some (keys, outs) else none

/-- A step that appends the keys `K x` and the outputs `R x`, and fails
exactly when a key repeats. -/
def ChecksAppend (step : List κ × List ρ → α → Except ε (List κ × List ρ)) (K : α → List κ) (R : α → List ρ) :
    Prop :=
  ∀ acc x, acc.1.Nodup → (step acc x).toOption = checkedResult (acc.1 ++ K x) (acc.2 ++ R x)

/-- A loop of such steps appends the keys and outputs of all, and fails
exactly when a key repeats. -/
theorem ChecksAppend.foldlM {step : List κ × List ρ → α → Except ε (List κ × List ρ)} {K : α → List κ}
    {R : α → List ρ} (h : ChecksAppend step K R) :
    ∀ (xs : List α) (acc : List κ × List ρ), acc.1.Nodup →
      (xs.foldlM step acc).toOption = checkedResult (acc.1 ++ xs.flatMap K) (acc.2 ++ xs.flatMap R)
  | [], acc, hacc => by simp [checkedResult, hacc, Except.toOption, pure, Except.pure]
  | x :: xs, acc, hacc => by
    rw [List.foldlM_cons]
    have hx := h acc x hacc
    cases hs : step acc x with
    | error e =>
      rw [hs] at hx
      have hdup : ¬ (acc.1 ++ K x).Nodup := fun hnd => by simp [checkedResult, hnd, Except.toOption] at hx
      have hdup' : ¬ (acc.1 ++ (K x ++ xs.flatMap K)).Nodup := fun hnd =>
        hdup (hnd.sublist (by simp [← List.append_assoc]))
      simp [checkedResult, hdup', Except.toOption, bind, Except.bind]
    | ok acc' =>
      rw [hs] at hx
      have hnd : (acc.1 ++ K x).Nodup := by
        by_contra hnd
        simp [checkedResult, hnd, Except.toOption] at hx
      have hacc' : acc' = (acc.1 ++ K x, acc.2 ++ R x) := by
        simpa [checkedResult, hnd, Except.toOption] using hx
      subst hacc'
      show (xs.foldlM step (acc.1 ++ K x, acc.2 ++ R x)).toOption = _
      rw [h.foldlM xs _ hnd]
      simp only [List.flatMap_cons, List.append_assoc]

end Checked

/-! ## Gateways and ListenerSets -/

def kindGateway : String := "Gateway"

def kindListenerSet : String := "ListenerSet"

/-- `v1.GroupName`. -/
def gatewayGroupName : String := "gateway.networking.k8s.io"

/-- `v1.ParentReference`. -/
structure ParentReference where
  group : Option String := none
  kind : Option String := none
  «namespace» : Option String := none
  name : String
  sectionName : Option String := none
  port : Option Int32 := none
  deriving Repr, DecidableEq

/-- `graph.ListenerSet`, with what merging and parent references read; its
listeners are those `buildListeners` configured. -/
structure ListenerSet where
  nsName : NamespacedName
  listeners : List Listener
  valid : Bool := true
  deriving Repr, DecidableEq

/-- One ListenerSet of `mergeGatewayAndListenerSetListeners`: its valid
listeners join the Gateway's; a ListenerSet none of whose listeners is
valid is invalid. -/
def mergeListenerSet (acc : Gateway × List ListenerSet) (listenerSet : ListenerSet) : Gateway × List ListenerSet :=
  let validListeners := listenerSet.listeners.filter (·.valid)
  ({ acc.1 with listeners := acc.1.listeners ++ validListeners },
   acc.2 ++ [if validListeners = [] then { listenerSet with valid := false } else listenerSet])

/-- `mergeGatewayAndListenerSetListeners`, over the ListenerSets in the
order `attachListenerSetsToGateways` sorts them in. -/
def mergeGatewayAndListenerSetListeners (gw : Gateway) (ls : List ListenerSet) : Gateway × List ListenerSet :=
  ls.foldl mergeListenerSet (gw, [])

/-- The key of the parent a reference names, when its group and kind fit
(`findGatewayForParentRef`, `findListenerSetForParentRef`): its namespace is
the route's when it names none. -/
def parentRefKey (ref : ParentReference) (kind routeNamespace : String) : Option NamespacedName :=
  if ref.kind.any (· ≠ kind) then none
  else if ref.group.any (· ≠ gatewayGroupName) then none
  else some { ns := ref.«namespace».getD routeNamespace, name := ref.name }

def findGatewayForParentRef (ref : ParentReference) (routeNamespace : String) (gws : List Gateway) : Option Gateway :=
  (parentRefKey ref kindGateway routeNamespace).bind fun key => gws.find? (·.nsName = key)

def findListenerSetForParentRef (ref : ParentReference) (routeNamespace : String) (listenerSets : List ListenerSet) :
    Option ListenerSet :=
  (parentRefKey ref kindListenerSet routeNamespace).bind fun key => listenerSets.find? (·.nsName = key)

/-- The parent a reference resolves to. -/
inductive Parent where
  | gateway (gw : Gateway)
  | listenerSet (ls : ListenerSet)

def Parent.listeners : Parent → List Listener
  | .gateway gw => gw.listeners
  | .listenerSet ls => ls.listeners

/-- `resolveParentRef`: the parent of the reference of index `i`, and the
graph's reference to it. -/
def resolveParentRef (p : ParentReference) (kind routeNamespace : String) (gws : List Gateway)
    (listenerSets : List ListenerSet) (i : Nat) : Option (Parent × ParentRef) :=
  if kind = kindGateway then
    (findGatewayForParentRef p routeNamespace gws).map fun gw => (.gateway gw, { idx := i, nsName := gw.nsName })
  else if kind = kindListenerSet then
    (findListenerSetForParentRef p routeNamespace listenerSets).map fun ls =>
      (.listenerSet ls, { idx := i, nsName := ls.nsName, kind := .listenerSet })
  else none

/-! ## Section names -/

/-- A parent and one of its sections. -/
structure SectionKey where
  parentRefNsName : NamespacedName
  sectionName : String
  deriving Repr, DecidableEq

/-- `checkUniqueSections`. -/
def checkUniqueSections (uniqueSectionsPerParentRef : List SectionKey) (key : SectionKey) :
    Except String (List SectionKey) :=
  if key ∈ uniqueSectionsPerParentRef then
    .error ("duplicate section name \"" ++ key.sectionName ++ "\" for ParentRef " ++ nsNameString key.parentRefNsName)
  else .ok (uniqueSectionsPerParentRef ++ [key])

/-- The references a reference without section name and port becomes: one
per listener of its parent, each for the listener's name. -/
def expandListeners (parentRef : ParentRef) (listeners : List Listener) (acc : List SectionKey × List ParentRef) :
    Except String (List SectionKey × List ParentRef) :=
  listeners.foldlM (fun (acc : List SectionKey × List ParentRef) l => do
    let uniqueSections ← checkUniqueSections acc.1 { parentRefNsName := parentRef.nsName, sectionName := l.name }
    pure (uniqueSections, acc.2 ++ [{ parentRef with sectionName := some l.name }])) acc

/-- One reference of the loop of `buildSectionNameRefs`. -/
def sectionNameRefsStep (routeNamespace : String) (gws : List Gateway) (listenerSets : List ListenerSet)
    (acc : List SectionKey × List ParentRef) (x : ParentReference × Nat) :
    Except String (List SectionKey × List ParentRef) :=
  match resolveParentRef x.1 (x.1.kind.getD kindGateway) routeNamespace gws listenerSets x.2 with
  | none => pure acc
  | some (parent, parentRef) =>
    match x.1.sectionName with
    | none =>
      match x.1.port with
      -- a port without a section name stays one reference
      | some port => pure (acc.1, acc.2 ++ [{ parentRef with port := some port }])
      | none => expandListeners parentRef parent.listeners acc
    | some sectionName => do
      let uniqueSections ← checkUniqueSections acc.1 { parentRefNsName := parentRef.nsName, sectionName }
      pure (uniqueSections, acc.2 ++ [{ parentRef with sectionName := some sectionName, port := x.1.port }])

/-- `buildSectionNameRefs`. -/
def buildSectionNameRefs (parentRefs : List ParentReference) (routeNamespace : String) (gws : List Gateway)
    (listenerSets : List ListenerSet) : Except String (List ParentRef) :=
  (parentRefs.zipIdx.foldlM (sectionNameRefsStep routeNamespace gws listenerSets) ([], [])).map (·.2)

/-! ## What the loop computes -/

/-- What one reference becomes: the section keys it is checked with, and
the references it adds. -/
def parentRefExpansion (routeNamespace : String) (gws : List Gateway) (listenerSets : List ListenerSet)
    (x : ParentReference × Nat) : List SectionKey × List ParentRef :=
  match resolveParentRef x.1 (x.1.kind.getD kindGateway) routeNamespace gws listenerSets x.2 with
  | none => ([], [])
  | some (parent, parentRef) =>
    match x.1.sectionName with
    | none =>
      match x.1.port with
      | some port => ([], [{ parentRef with port := some port }])
      | none =>
        (parent.listeners.map fun l => { parentRefNsName := parentRef.nsName, sectionName := l.name },
         parent.listeners.map fun l => { parentRef with sectionName := some l.name })
    | some sectionName =>
      ([{ parentRefNsName := parentRef.nsName, sectionName }],
       [{ parentRef with sectionName := some sectionName, port := x.1.port }])

theorem checkedResult_snoc {κ ρ : Type} [DecidableEq κ] {seen : List κ} (hseen : seen.Nodup) (k : κ) (out : List ρ) :
    checkedResult (seen ++ [k]) out = if k ∈ seen then none else some (seen ++ [k], out) := by
  unfold checkedResult
  by_cases hk : k ∈ seen
  · have : ¬ (seen ++ [k]).Nodup := fun hnd => by
      rw [List.nodup_append] at hnd
      exact hnd.2.2 k hk k (List.mem_singleton_self k) rfl
    simp [hk, this]
  · simp [hk, hseen.concat hk |> fun h => by simpa using h]

/-- A checked key and one more output. -/
theorem checksAppend_checkUniqueSections {α : Type} (key : α → SectionKey) (ref : α → ParentRef) :
    ChecksAppend (fun (acc : List SectionKey × List ParentRef) x => do
      let uniqueSections ← checkUniqueSections acc.1 (key x)
      pure (uniqueSections, acc.2 ++ [ref x])) (fun x => [key x]) (fun x => [ref x]) := by
  intro acc x hacc
  rw [checkedResult_snoc hacc]
  unfold checkUniqueSections
  by_cases hk : key x ∈ acc.1 <;> simp [hk, Except.toOption, bind, Except.bind, pure, Except.pure]

theorem checksAppend_sectionNameRefsStep (routeNamespace : String) (gws : List Gateway)
    (listenerSets : List ListenerSet) :
    ChecksAppend (sectionNameRefsStep routeNamespace gws listenerSets)
      (fun x => (parentRefExpansion routeNamespace gws listenerSets x).1)
      (fun x => (parentRefExpansion routeNamespace gws listenerSets x).2) := by
  intro acc x hacc
  unfold sectionNameRefsStep parentRefExpansion
  rcases hr : resolveParentRef x.1 (x.1.kind.getD kindGateway) routeNamespace gws listenerSets x.2 with
    _ | ⟨parent, parentRef⟩
  · simp [hr, checkedResult, hacc, Except.toOption, pure, Except.pure]
  · simp only [hr]
    cases hs : x.1.sectionName with
    | none =>
      cases hp : x.1.port with
      | some port => simp [checkedResult, hacc, Except.toOption, pure, Except.pure]
      | none =>
        dsimp only
        unfold expandListeners
        rw [(checksAppend_checkUniqueSections _ _).foldlM _ acc hacc, ← List.map_eq_flatMap, ← List.map_eq_flatMap]
    | some sectionName => exact checksAppend_checkUniqueSections (fun _ => _) (fun _ => _) acc x hacc

theorem Except.toOption_map {ε α β : Type} (f : α → β) (e : Except ε α) : (e.map f).toOption = e.toOption.map f := by
  cases e <;> rfl

/-- `buildSectionNameRefs` gives the references every parent reference
expands to, exactly when their section keys are distinct. -/
theorem buildSectionNameRefs_toOption (parentRefs : List ParentReference) (routeNamespace : String)
    (gws : List Gateway) (listenerSets : List ListenerSet) :
    (buildSectionNameRefs parentRefs routeNamespace gws listenerSets).toOption =
      if (parentRefs.zipIdx.flatMap fun x => (parentRefExpansion routeNamespace gws listenerSets x).1).Nodup then
        some (parentRefs.zipIdx.flatMap fun x => (parentRefExpansion routeNamespace gws listenerSets x).2)
      else none := by
  unfold buildSectionNameRefs
  rw [Except.toOption_map,
    (checksAppend_sectionNameRefsStep routeNamespace gws listenerSets).foldlM _ ([], []) List.nodup_nil]
  simp only [checkedResult, List.nil_append]
  split <;> rfl

/-! ## The parent references of a route -/

/-- `validateHostnames`: every hostname of the route is valid. -/
def validateHostnames (hostnames : List String) : Bool := hostnames.all fun h => (validateHostname h).isOk

/-- The start of `buildHTTPRoute` (and `buildGRPCRoute`): a route whose
references fail is invalid with no parent reference; one that names no known
parent is not built; one with an invalid hostname is invalid and not
attachable. The rest of `route` is as the builder goes on to make it. -/
def buildRouteParentRefs (route : L7Route) (parentRefs : List ParentReference) (gws : List Gateway)
    (listenerSets : List ListenerSet) : Option L7Route :=
  match buildSectionNameRefs parentRefs route.source.ns gws listenerSets with
  | .error _ => some { route with valid := false, attachable := false, parentRefs := [] }
  | .ok [] => none
  | .ok sectionNameRefs =>
    if !validateHostnames route.hostnames then
      some { route with parentRefs := sectionNameRefs, valid := false, attachable := false }
    else some { route with parentRefs := sectionNameRefs, attachable := true }

/-- `hasTLSTerminateListener`: a TLS listener, of the section if one is
named, that terminates TLS. -/
def hasTLSTerminateListener (listeners : List Listener) (sectionName : Option String) : Bool :=
  listeners.any fun l => l.protocol = .tls && sectionName.all (· = l.name) && l.tlsTerminate

def hasTLSTerminateParent (parentRefs : List ParentRef) (gws : List Gateway) (listenerSets : List ListenerSet) :
    Bool :=
  parentRefs.any fun p =>
    match p.kind with
    | .gateway => (gws.find? (·.nsName = p.nsName)).any fun gw => hasTLSTerminateListener gw.listeners p.sectionName
    | .listenerSet =>
      (listenerSets.find? (·.nsName = p.nsName)).any fun ls => hasTLSTerminateListener ls.listeners p.sectionName

/-- A TLSRoute as `buildTLSRoute` reads it: the backend references of each
rule, of a type `β` the backend validator reads. -/
structure TLSRoute (β : Type) where
  source : ObjectMeta
  hostnames : List String
  parentRefs : List ParentReference
  rules : List (List β)
  deriving Repr, DecidableEq

def exactlyOneBackendRefMsg : String := "Must have exactly one Rule and BackendRef"

/-- `buildTLSRoute`, with `validateBackendRefTLSRoute` given the one backend
reference and whether a parent terminates TLS. A route starts invalid and
not attachable; the condition of an invalid hostname is left out. -/
def buildTLSRoute {β : Type} (validateBackendRefTLSRoute : β → Bool → BackendRef × List RouteCondition)
    (gtr : TLSRoute β) (gws : List Gateway) (listenerSets : List ListenerSet) : Option L4Route :=
  let r : L4Route := { source := gtr.source, routeType := .tls, backendRef := { weight := 0, valid := false },
                       parentRefs := [], valid := false, attachable := false }
  match buildSectionNameRefs gtr.parentRefs gtr.source.ns gws listenerSets with
  | .error _ => some r
  | .ok [] => none
  | .ok sectionNameRefs =>
    let r := { r with parentRefs := sectionNameRefs }
    if !validateHostnames gtr.hostnames then some r
    else
      let r := { r with hostnames := gtr.hostnames }
      match gtr.rules with
      | [[br]] =>
        let (backendRef, conds) :=
          validateBackendRefTLSRoute br (hasTLSTerminateParent sectionNameRefs gws listenerSets)
        some { r with backendRef, valid := true, attachable := true, conditions := conds.map .backendRef }
      | _ => some { r with conditions := [.backendRef (.backendRefUnsupportedValue (.text exactlyOneBackendRefMsg))] }

/-! ## A ListenerSet listener named as the Gateway's -/

def sharedNameGatewayName : NamespacedName := { ns := "default", name := "gateway" }

def sharedNameSetName : NamespacedName := { ns := "default", name := "set" }

/-- The Gateway's listener `http` on port 80. -/
def sharedNameGateway : Gateway :=
  { nsName := sharedNameGatewayName
    listeners := [{ name := "http", gatewayName := sharedNameGatewayName, port := 80, protocol := .http
                    allowedFrom := some .all, supportedKinds := [.httpRoute, .grpcRoute] }] }

/-- A ListenerSet of the Gateway with its own listener `http`, on port 8080. -/
def sharedNameListenerSet : ListenerSet :=
  { nsName := sharedNameSetName
    listeners := [{ name := "http", gatewayName := sharedNameGatewayName, port := 8080, protocol := .http
                    allowedFrom := some .all, supportedKinds := [.httpRoute, .grpcRoute]
                    listenerSetName := sharedNameSetName }] }

/-- An HTTPRoute whose one parent reference names the Gateway, with no
section name and no port. -/
def sharedNameRoute : L7Route :=
  { source := { creationTimestamp := 1, ns := "default", name := "route" }, hostnames := ["app.example.com"]
    rules := [{ «matches» := [{ path := "/", pathType := .pathPrefix }] }], parentRefs := [] }

def sharedNameParentRefs : List ParentReference := [{ name := "gateway" }]

/-- Both listeners pass the conflict resolvers, so the ListenerSet's is
merged into the Gateway; the route's reference then expands to two sections
named `http`, and the route is invalid with no parent reference. Without
the ListenerSet the route attaches to the Gateway's `http`. -/
theorem listenerSet_listener_name_invalidates_gateway_route :
    (configureAll { validators := fun _ => [] } sharedNameGatewayName
        [({ name := "http", port := 80, protocol := .supported .http }, { ns := "", name := "" }),
         ({ name := "http", port := 8080, protocol := .supported .http }, sharedNameSetName)]).2.map (·.valid) =
      [true, true] ∧
    buildSectionNameRefs sharedNameParentRefs "default"
        [(mergeGatewayAndListenerSetListeners sharedNameGateway [sharedNameListenerSet]).1] [sharedNameListenerSet] =
      .error "duplicate section name \"http\" for ParentRef default/gateway" ∧
    (buildRouteParentRefs sharedNameRoute sharedNameParentRefs
        [(mergeGatewayAndListenerSetListeners sharedNameGateway [sharedNameListenerSet]).1]
        [sharedNameListenerSet]).map (fun r => (r.valid, r.parentRefs)) = some (false, []) ∧
    (buildRouteParentRefs sharedNameRoute sharedNameParentRefs [sharedNameGateway] []).map
        (fun r => (r.valid, (bindRoutesToListeners (fun _ _ => false) sharedNameGateway [r] []).1.map fun r =>
          r.parentRefs.map fun p => (p.sectionName, p.attachment.any (·.attached)))) =
      some (true, [[(some "http", true)]]) := by
  refine ⟨?_, ?_, ?_, ?_⟩ <;> decide +kernel

end GatewayFabric.Graph
