/-
The statuses of a route's parent references (`status/prepare_requests.go`).
A parent reference without section name is expanded into one reference per
listener, all with its index; `removeDuplicateIndexParentRefs` folds them
back into one, and `prepareRouteStatus` and `PrepareRouteRequests` build a
status for each reference that is left.

The fold reads `ref.Attachment.Attached` of every reference of a shared
index. A reference that no Gateway bound has no attachment, and there Go
stops with a nil pointer dereference: the model returns the runtime's
message as an error. Of a status, the model keeps what comes from the
reference: the reference itself and the failed conditions of its attachment
(the default and the route's own conditions are left out).

The main results: the fold fails exactly when two references share an
index and one of them has no attachment (`removeDuplicateIndexParentRefs_ok_iff`);
and a TLSRoute with two backend references whose parent reference names no
section, built by `buildTLSRoute` for a Gateway with two listeners, is such a
route (`two_backend_tls_route_status_dereferences_nil`).
-/
import GatewayFabric.Graph.ParentRefs
import GatewayFabric.Lib.Grouping
import GatewayFabric.Lib.ExceptLoops

namespace GatewayFabric.Status

open GatewayFabric.Dataplane GatewayFabric.Graph

/-- The message of Go's panic on a read through a nil pointer. -/
def nilPointerDereference : String := "runtime error: invalid memory address or nil pointer dereference"

/-- The message of Go's panic on `refs[0]` of an empty slice. -/
def indexOutOfRange : String := "runtime error: index out of range [0] with length 0"

/-- One reference of a shared index: an attached one becomes the winning
attachment when it has no failed condition or none has won yet. -/
def winningAttachmentStep (winning : Option ParentRefAttachmentStatus) (ref : ParentRef) :
    Except String (Option ParentRefAttachmentStatus) :=
  match ref.attachment with
  | none => throw nilPointerDereference
  | some attachment =>
    if attachment.attached ∧ (attachment.failedConditions = [] ∨ winning = none) then pure (some attachment)
    else pure winning

/-- The reference kept for an index its references share: the first one's
name and kind, no section name, and the winning attachment. -/
def winningParentRef (idx : Nat) (first : ParentRef) (refs : List ParentRef) : Except String ParentRef := do
  let attachment ← refs.foldlM winningAttachmentStep first.attachment
  pure { idx, attachment, nsName := first.nsName, kind := first.kind }

/-- One index's turn in the second loop of `removeDuplicateIndexParentRefs`. -/
def dedupIndexGroup (g : Nat × List ParentRef) : Except String ParentRef :=
  match g.2 with
  | [] => throw indexOutOfRange
  | [ref] => pure ref
  | first :: rest => winningParentRef g.1 first (first :: rest)

def removeDuplicateIndexParentRefs (parentRefs : List ParentRef) : Except String (List ParentRef) :=
  (Grouping.groupBy (·.idx) parentRefs).mapM dedupIndexGroup

/-- `v1.RouteParentStatus`, as far as it comes from the parent reference. -/
structure RouteParentStatus where
  sectionName : Option String
  kind : ParentKind
  name : String
  «namespace» : String
  failedConditions : List AttachCondition
  deriving Repr, DecidableEq

def routeParentStatus (ref : ParentRef) : RouteParentStatus :=
  { sectionName := ref.sectionName, kind := ref.kind, name := ref.nsName.name, «namespace» := ref.nsName.ns
    failedConditions := (ref.attachment.map (·.failedConditions)).getD [] }

def prepareRouteStatus (parentRefs : List ParentRef) : Except String (List RouteParentStatus) := do
  let processedParentRefs ← removeDuplicateIndexParentRefs parentRefs
  pure (processedParentRefs.map routeParentStatus)

/-- `PrepareRouteRequests`: the L4 routes, then the HTTP and GRPC routes,
each with the statuses of its parent references. -/
def prepareRouteRequests (l4Routes : List L4Route) (routes : List L7Route) :
    Except String (List (NamespacedName × List RouteParentStatus)) := do
  let l4 ← l4Routes.mapM fun r => do pure (r.source.nsName, ← prepareRouteStatus r.parentRefs)
  let l7 ← routes.mapM fun r => do pure (r.source.nsName, ← prepareRouteStatus r.parentRefs)
  pure (l4 ++ l7)

/-! ## When the fold does not fail, and what it keeps -/

section Dedup

open Grouping ExceptLoops

theorem exists_winningAttachmentStep_eq_ok (winning : Option ParentRefAttachmentStatus) (ref : ParentRef) :
    (∃ w, winningAttachmentStep winning ref = .ok w) ↔ ref.attachment.isSome = true := by
  unfold winningAttachmentStep
  cases ref.attachment with
  | none => simp [throw, throwThe, MonadExceptOf.throw]
  | some attachment =>
    simp only [Option.isSome_some, iff_true]
    split
    · exact ⟨_, rfl⟩
    · exact ⟨_, rfl⟩

/-- The fold over the references of a shared index fails exactly when one
of them has no attachment. -/
theorem exists_winningParentRef_eq_ok (idx : Nat) (first : ParentRef) (refs : List ParentRef) :
    (∃ r, winningParentRef idx first refs = .ok r) ↔ ∀ ref ∈ refs, ref.attachment.isSome = true := by
  have hfold := exists_foldlM_eq_ok_iff exists_winningAttachmentStep_eq_ok refs first.attachment
  unfold winningParentRef
  simp only [bind_eq_ok_iff, pure, Except.pure, Except.ok.injEq]
  rw [← hfold]
  constructor
  · rintro ⟨_, w, hw, -⟩
    exact ⟨w, hw⟩
  · rintro ⟨w, hw⟩
    exact ⟨_, w, hw, rfl⟩

theorem exists_dedupIndexGroup_eq_ok {g : Nat × List ParentRef} (hne : g.2 ≠ []) :
    (∃ r, dedupIndexGroup g = .ok r) ↔ g.2.length = 1 ∨ ∀ ref ∈ g.2, ref.attachment.isSome = true := by
  obtain ⟨idx, refs⟩ := g
  match refs with
  | [] => exact absurd rfl hne
  | [ref] => simp [dedupIndexGroup, pure, Except.pure]
  | first :: second :: rest =>
    simp only [dedupIndexGroup, List.length_cons, Nat.add_eq_right, Nat.add_one_ne_zero, false_or]
    exact exists_winningParentRef_eq_ok idx first _

/-- The status fold does not fail exactly when every reference without an
attachment is the only one of its index. -/
theorem removeDuplicateIndexParentRefs_ok_iff (parentRefs : List ParentRef) :
    (∃ res, removeDuplicateIndexParentRefs parentRefs = .ok res) ↔
      ∀ ref ∈ parentRefs, ref.attachment = none → (parentRefs.filter (·.idx = ref.idx)).length = 1 := by
  unfold removeDuplicateIndexParentRefs
  rw [exists_mapM_eq_ok_iff]
  have hgroup : ∀ g ∈ groupBy (·.idx) parentRefs, g.2 = parentRefs.filter (·.idx = g.1) :=
    fun g hg => snd_of_mem_groupBy hg
  have hne : ∀ g ∈ groupBy (·.idx) parentRefs, g.2 ≠ [] := by
    intro g hg
    obtain ⟨x, hx, hxg⟩ := (mem_keys_groupBy (·.idx) parentRefs g.1).1 (List.mem_map_of_mem hg)
    rw [hgroup g hg]
    exact List.ne_nil_of_mem (List.mem_filter.2 ⟨hx, by simpa using hxg⟩)
  constructor
  · intro h ref href hnone
    obtain ⟨g, hg, hgk⟩ := List.mem_map.1 ((mem_keys_groupBy (·.idx) parentRefs ref.idx).2 ⟨ref, href, rfl⟩)
    have hok := (exists_dedupIndexGroup_eq_ok (hne g hg)).1 (h g hg)
    rw [hgroup g hg, hgk] at hok
    rcases hok with hlen | hall
    · exact hlen
    · have := hall ref (List.mem_filter.2 ⟨href, by simp⟩)
      simp [hnone] at this
  · intro h g hg
    rw [exists_dedupIndexGroup_eq_ok (hne g hg)]
    by_cases hlen : g.2.length = 1
    · exact .inl hlen
    · refine .inr fun ref href => ?_
      rw [Option.isSome_iff_ne_none]
      intro hnone
      rw [hgroup g hg] at href hlen
      have hidx : ref.idx = g.1 := by simpa using (List.mem_filter.1 href).2
      exact hlen (hidx ▸ h ref (List.mem_filter.1 href).1 hnone)

end Dedup

/-! ## A TLSRoute not attachable, on a Gateway of two listeners -/

def twoListenerGatewayName : NamespacedName := { ns := "default", name := "gateway" }

/-- A Gateway with the TLS listeners `tls` on port 443 and `tls-alt` on port 8443. -/
def twoListenerGateway : Gateway :=
  { nsName := twoListenerGatewayName
    listeners :=
      [{ name := "tls", gatewayName := twoListenerGatewayName, port := 443, protocol := .tls
         allowedFrom := some .all, supportedKinds := [.tlsRoute] },
       { name := "tls-alt", gatewayName := twoListenerGatewayName, port := 8443, protocol := .tls
         allowedFrom := some .all, supportedKinds := [.tlsRoute] }] }

/-- A TLSRoute of one rule with the backends `a` and `b`, whose one parent
reference names the Gateway with no section name and no port. -/
def twoBackendTLSRoute : TLSRoute String :=
  { source := { creationTimestamp := 1, ns := "default", name := "route" }, hostnames := ["app.example.com"]
    parentRefs := [{ name := "gateway" }], rules := [["a", "b"]] }

/-- The reference is expanded into one per listener, both of index 0; the
route is not attachable, so binding gives neither an attachment, and
preparing the statuses stops at the first one's, whatever the backend
validator. -/
theorem two_backend_tls_route_status_dereferences_nil
    (validateBackendRefTLSRoute : String → Bool → BackendRef × List RouteCondition) :
    let bound := (bindRoutesToListeners (fun _ _ => true) twoListenerGateway []
      (buildTLSRoute validateBackendRefTLSRoute twoBackendTLSRoute [twoListenerGateway] []).toList).2
    bound.map (fun r => (r.valid, r.attachable, r.conditions)) =
        [(false, false, [.backendRef (.backendRefUnsupportedValue (.text exactlyOneBackendRefMsg))])] ∧
      bound.map (fun r => r.parentRefs.map fun p => (p.idx, p.sectionName, p.attachment.isSome)) =
        [[(0, some "tls", false), (0, some "tls-alt", false)]] ∧
      prepareRouteRequests bound [] = .error nilPointerDereference := by
  intro bound
  -- the validator is not called: the route has two backend references
  have hbuilt : buildTLSRoute validateBackendRefTLSRoute twoBackendTLSRoute [twoListenerGateway] [] =
      buildTLSRoute (fun _ _ => ({ weight := 0, valid := false }, [])) twoBackendTLSRoute [twoListenerGateway] [] :=
    rfl
  simp only [bound, hbuilt]
  refine ⟨?_, ?_, ?_⟩ <;> decide +kernel

end GatewayFabric.Status
