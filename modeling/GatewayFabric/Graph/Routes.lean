/-
How routes attach to the listeners of a Gateway (`state/graph/route_common.go`):
`bindRoutesToListeners` binds every HTTPRoute and GRPCRoute, then isolates
their hostnames; it then binds the TLSRoutes, TCPRoutes and UDPRoutes, the
oldest first, and isolates theirs.

A parent reference of a route is validated against the Gateway's listeners
(`validateParentRef`), and the route is tried on every listener it may
attach to (`tryToAttachL7RouteToListeners`, `tryToAttachL4RouteToListeners`).
On each listener the route is accepted with the hostnames its own and the
listener's hostname have in common (`findAcceptedHostnames`). A TLSRoute
hostname is taken at most once per port and protocol, by the first route
that asks for it (`portHostnamesMap`). Isolation then removes from a
route's accepted hostnames those that are the hostname of another listener
of the same parent on the same port (`isolateHostnamesForParentRefs`).

The listeners a route is attached to (`Listener.Routes`, `L4Routes`) are
the ones its parent references were accepted on, read off the attachments.
A reference to a Gateway attaches to the Gateway's own listeners, told
apart from the ListenerSet listeners merged into it by their ListenerSet
name; a parent reference to a ListenerSet is skipped as a missing
ListenerSet is. The label
selector of a listener's allowed namespaces is a parameter
(`namespaceSelected`). Go's map of hostnames per listener is an association
list with one entry per listener key.
-/
import GatewayFabric.Graph.Hostnames
import GatewayFabric.Graph.BackendRefs

namespace GatewayFabric.Graph

open Dataplane

/-! ## The graph -/

/-- `ngfsort.LessClientObject`, which orders routes by the same fields as
`LessObjectMeta`. -/
def lessClientObject (a b : ObjectMeta) : Bool := lessObjectMeta a b

inductive ProtocolType where
  | http
  | https
  | tls
  | tcp
  | udp
  deriving Repr, DecidableEq

/-- `v1.ProtocolType` as it is printed. -/
def ProtocolType.toString : ProtocolType → String
  | .http => "HTTP"
  | .https => "HTTPS"
  | .tls => "TLS"
  | .tcp => "TCP"
  | .udp => "UDP"

/-- The route kinds a listener supports. -/
inductive RouteKind where
  | httpRoute
  | grpcRoute
  | tlsRoute
  | tcpRoute
  | udpRoute
  deriving Repr, DecidableEq

/-- `AllowedRoutes.Namespaces.From`. -/
inductive NamespacesFrom where
  | all
  | same
  | selector
  deriving Repr, DecidableEq

/-- `graph.Listener`, with the fields of its `v1.Listener` source that
binding and the dataplane read; `tlsTerminate` is whether it terminates
TLS (`isTLSTerminateListener`). -/
structure Listener where
  name : String
  gatewayName : NamespacedName
  hostname : Option String := none
  port : Int32
  protocol : ProtocolType
  allowedFrom : Option NamespacesFrom := none
  supportedKinds : List RouteKind
  valid : Bool := true
  attachable : Bool := true
  tlsTerminate : Bool := false
  resolvedSecrets : List NamespacedName := []
  /-- The ListenerSet the listener comes from; the empty name for the
  Gateway's own. -/
  listenerSetName : NamespacedName := { ns := "", name := "" }
  deriving Repr, DecidableEq

/-- `CreateParentRefListenerKey`: `<namespace>/<name>/<listener>`. -/
def createParentRefListenerKey (parentRefNsName : NamespacedName) (listenerName : String) : String :=
  parentRefNsName.ns ++ "/" ++ parentRefNsName.name ++ "/" ++ listenerName

/-- `CreateParentRefListenerKeyFromListener`: a ListenerSet listener is keyed
by its ListenerSet, a Gateway listener by its Gateway. -/
def Listener.key (l : Listener) : String :=
  if l.listenerSetName.name ≠ "" then createParentRefListenerKey l.listenerSetName l.name
  else createParentRefListenerKey l.gatewayName l.name

/-- Why a parent reference did not attach, or attached to no valid listener. -/
inductive AttachCondition where
  | noMatchingParent
  | invalidGateway
  | unsupportedConfiguration (msg : String)
  | backendRef (cond : RouteCondition)
  | invalidListener
  | notAllowedByListeners
  | noMatchingListenerHostname
  | hostnameConflict
  deriving Repr, DecidableEq

/-- `ParentRefAttachmentStatus`. -/
structure ParentRefAttachmentStatus where
  acceptedHostnames : List (String × List String) := []
  failedConditions : List AttachCondition := []
  listenerPort : Int32 := 0
  attached : Bool := false
  deriving Repr, DecidableEq

inductive ParentKind where
  | gateway
  | listenerSet
  deriving Repr, DecidableEq

/-- `graph.ParentRef`; `idx` is the index of the route's parent reference it
was made from. -/
structure ParentRef where
  idx : Nat := 0
  nsName : NamespacedName
  kind : ParentKind := .gateway
  sectionName : Option String := none
  port : Option Int32 := none
  attachment : Option ParentRefAttachmentStatus := none
  deriving Repr, DecidableEq

/-- A match of a route rule, as `upsertRoute` reads it: the path and its
type (`getPath`, `convertPathType`) and the rest of the match
(`convertMatch`). -/
structure RouteMatch where
  path : String
  pathType : PathType
  «match» : Match := {}
  deriving Repr, DecidableEq

/-- `graph.RouteRule`; its filters are given as `createHTTPFilters` turns
them into dataplane filters. -/
structure RouteRule where
  «matches» : List RouteMatch
  backendRefs : List BackendRef := []
  filtersValid : Bool := true
  filters : HTTPFilters := {}
  validMatches : Bool := true
  deriving Repr, DecidableEq

/-- `graph.L7Route`: an HTTPRoute or a GRPCRoute. -/
structure L7Route where
  source : ObjectMeta
  routeType : RouteType := .http
  hostnames : List String := []
  rules : List RouteRule := []
  parentRefs : List ParentRef
  conditions : List AttachCondition := []
  valid : Bool := true
  attachable : Bool := true
  deriving Repr, DecidableEq

inductive L4RouteType where
  | tls
  | tcp
  | udp
  deriving Repr, DecidableEq

/-- `graph.L4Route`: a TLSRoute, a TCPRoute or a UDPRoute. -/
structure L4Route where
  source : ObjectMeta
  routeType : L4RouteType
  hostnames : List String := []
  backendRef : BackendRef
  backendRefs : List BackendRef := []
  parentRefs : List ParentRef
  conditions : List AttachCondition := []
  valid : Bool := true
  attachable : Bool := true
  deriving Repr, DecidableEq

/-- `L4RouteSpec.GetBackendRefs`. -/
def L4Route.getBackendRefs (r : L4Route) : List BackendRef :=
  if r.backendRefs ≠ [] then r.backendRefs else [r.backendRef]

/-- `graph.Gateway`, with what binding and the dataplane read. -/
structure Gateway where
  nsName : NamespacedName
  listeners : List Listener
  valid : Bool := true
  http2Disabled : Bool := false
  deriving Repr, DecidableEq

def RouteType.kind : RouteType → RouteKind
  | .http => .httpRoute
  | .grpc => .grpcRoute

def L4RouteType.kind : L4RouteType → RouteKind
  | .tls => .tlsRoute
  | .tcp => .tcpRoute
  | .udp => .udpRoute

/-! ## Association lists -/

/-- `m[k] = v` on a Go map kept as an association list. -/
def assocSet {β : Type} (m : List (String × β)) (k : String) (v : β) : List (String × β) :=
  if m.any (·.1 = k) then m.map fun e => if e.1 = k then (k, v) else e else m ++ [(k, v)]

/-! ## Validating a parent reference -/

section Binding

variable (namespaceSelected : Listener → String → Bool)

/-- `isRouteNamespaceAllowedByListener`. -/
def isRouteNamespaceAllowedByListener (l : Listener) (routeNS parentRefNamespace : String) : Bool :=
  match l.allowedFrom with
  | some .all => true
  | some .same => routeNS = parentRefNamespace
  | some .selector => namespaceSelected l routeNS
  | none => true

/-- `isRouteTypeAllowedByListener`. -/
def isRouteTypeAllowedByListener (l : Listener) (kind : RouteKind) : Bool := l.supportedKinds.contains kind

/-- `getSectionName`. -/
def getSectionName : Option String → String
  | none => ""
  | some s => s

/-- `findAttachableListeners`: the listeners a reference may attach to, and
whether the listener it names exists. -/
def findAttachableListeners (ref : ParentRef) (listeners : List Listener) : List Listener × Bool :=
  let sectionName := getSectionName ref.sectionName
  if sectionName ≠ "" then
    match listeners.find? (·.name = sectionName) with
    | some l =>
      if l.attachable && (ref.port.isNone || ref.port = some l.port) then ([l], true)
      -- a listener of that name on another port is not found
      else if ref.port.isSome && ref.port ≠ some l.port then ([], false)
      else ([], true)
    | none => ([], false)
  else
    match ref.port with
    | some port => (listeners.filter fun l => l.port = port && l.attachable, listeners.any (·.port = port))
    | none => (listeners.filter (·.attachable), listeners ≠ [])

/-- `validateParentRef` of a reference to a Gateway: the reference's fresh
attachment status and the listeners it may attach to, among the Gateway's
own (`separateGatewayAndListenerSetListeners`). -/
def validateParentRef (ref : ParentRef) (gw : Gateway) : ParentRefAttachmentStatus × List Listener :=
  let gatewayListeners := gw.listeners.filter (·.listenerSetName.name = "")
  let (attachableListeners, listenerExists) := findAttachableListeners ref gatewayListeners
  if !listenerExists then ({ failedConditions := [.noMatchingParent] }, [])
  else if !gw.valid then ({ failedConditions := [.invalidGateway] }, attachableListeners)
  else ({}, attachableListeners)

/-- The condition of a backend reference that is invalid for the Gateway
(`checkExternalNameValidForGateways`). -/
def externalNameCondition : AttachCondition :=
  .backendRef (.backendRefUnsupportedValue
    (.text "ExternalName service requires DNS resolver configuration in Gateway's NginxProxy"))

/-! ## HTTPRoutes and GRPCRoutes -/

/-- The `bind` closure of `tryToAttachL7RouteToListeners` on one listener:
whether the route is allowed there and whether it attached. -/
def bindL7 (route : L7Route) (parentRefNamespace : String) (status : ParentRefAttachmentStatus)
    (l : Listener) : Bool × Bool × ParentRefAttachmentStatus :=
  if !isRouteNamespaceAllowedByListener namespaceSelected l route.source.ns parentRefNamespace then
    (false, false, status)
  else if !isRouteTypeAllowedByListener l route.routeType.kind then (false, false, status)
  else
    match findAcceptedHostnames l.hostname route.hostnames with
    | [] => (true, false, status)
    | hostnames =>
      (true, true, { status with acceptedHostnames := assocSet status.acceptedHostnames l.key hostnames,
                                 listenerPort := l.port })

/-- `tryToAttachL7RouteToListeners`: the condition to report (`none` for the
empty condition), whether the route attached, and the attachment status. -/
def tryToAttachL7RouteToListeners (status : ParentRefAttachmentStatus) (listeners : List Listener)
    (route : L7Route) (parentRefNamespace : String) :
    Option AttachCondition × Bool × ParentRefAttachmentStatus :=
  if listeners = [] then (some .invalidListener, false, status)
  else
    let (allowed, attached, validAttached, status) :=
      listeners.foldl (fun (acc : Bool × Bool × Bool × ParentRefAttachmentStatus) l =>
        let (routeAllowed, routeAttached, status) := bindL7 namespaceSelected route parentRefNamespace acc.2.2.2 l
        (acc.1 || routeAllowed, acc.2.1 || routeAttached, acc.2.2.1 || (routeAttached && l.valid), status))
        (false, false, false, status)
    if !attached then
      (some (if !allowed then .notAllowedByListeners else .noMatchingListenerHostname), false, status)
    else if !validAttached then (some .invalidListener, true, status)
    else (none, true, status)

/-- One parent reference of `bindL7RouteToListeners`: the reference with its
attachment, and the condition it adds to the route. -/
def bindL7ParentRef (route : L7Route) (gw : Gateway) (ref : ParentRef) : ParentRef × List AttachCondition :=
  match ref.kind with
  | .listenerSet => (ref, [])
  | .gateway =>
    if ref.nsName ≠ gw.nsName then (ref, [])
    else
      let (attachment, attachableListeners) := validateParentRef ref gw
      let attachment :=
        if route.routeType = .grpc && gw.http2Disabled then
          { attachment with failedConditions := attachment.failedConditions ++
              [.unsupportedConfiguration "HTTP2 is disabled - cannot configure GRPCRoutes"] }
        else attachment
      if attachment.failedConditions ≠ [] then ({ ref with attachment := some attachment }, [])
      else
        -- a backend invalid for the Gateway is reported, and the route still attaches
        let invalidForGateway := (route.rules.flatMap (·.backendRefs)).filter (·.invalidForGateways.contains gw.nsName)
        let attachment := { attachment with
          failedConditions := attachment.failedConditions ++ invalidForGateway.map fun _ => externalNameCondition }
        match tryToAttachL7RouteToListeners namespaceSelected attachment attachableListeners route ref.nsName.ns with
        | (cond, false, status) =>
          ({ ref with attachment := some { status with failedConditions := status.failedConditions ++ cond.toList } },
           [])
        | (cond, true, status) => ({ ref with attachment := some { status with attached := true } }, cond.toList)

/-- `bindL7RouteToListeners`. -/
def bindL7RouteToListeners (gw : Gateway) (route : L7Route) : L7Route :=
  if !route.attachable then route
  else
    let bound := route.parentRefs.map (bindL7ParentRef namespaceSelected route gw)
    { route with parentRefs := bound.map (·.1), conditions := route.conditions ++ bound.flatMap (·.2) }

/-! ## TLSRoutes, TCPRoutes and UDPRoutes -/

/-- `bindToListenerL4`: whether the route is allowed on the listener,
whether it attached, and whether its hostnames were free; the hostnames
taken and the attachment status. -/
def bindToListenerL4 (route : L4Route) (parentRefNamespace : String) (portHostnamesMap : List String)
    (status : ParentRefAttachmentStatus) (l : Listener) :
    (Bool × Bool × Bool) × List String × ParentRefAttachmentStatus :=
  if !isRouteNamespaceAllowedByListener namespaceSelected l route.source.ns parentRefNamespace then
    ((false, false, false), portHostnamesMap, status)
  else if !isRouteTypeAllowedByListener l route.routeType.kind then ((false, false, false), portHostnamesMap, status)
  else
    let acceptedListenerHostnames := findAcceptedHostnames l.hostname route.hostnames
    let (hostnames, portHostnamesMap) :=
      if route.routeType = .tcp ∨ route.routeType = .udp then (acceptedListenerHostnames, portHostnamesMap)
      else
        acceptedListenerHostnames.foldl (fun (acc : List String × List String) h =>
          let portHostname := h ++ ":" ++ toString l.port.toInt ++ ":" ++ l.protocol.toString
          if portHostname ∈ acc.2 then acc else (acc.1 ++ [h], acc.2 ++ [portHostname]))
          ([], portHostnamesMap)
    if hostnames = [] ∧ acceptedListenerHostnames ≠ [] then ((true, false, false), portHostnamesMap, status)
    else if hostnames = [] then ((true, false, true), portHostnamesMap, status)
    else
      ((true, true, true), portHostnamesMap,
        { status with acceptedHostnames := assocSet status.acceptedHostnames l.key hostnames })

/-- `sortListenersByHostname`, as `sort.Slice` sorts up to twelve elements:
insertion sort, moving an element left while it is more specific than its
left neighbour. -/
def insertListener (l : Listener) : List Listener → List Listener
  | [] => [l]
  | m :: ms =>
    if getHostname l.hostname = getMoreSpecificHostname (getHostname l.hostname) (getHostname m.hostname) then
      l :: m :: ms
    else m :: insertListener l ms

def sortListenersByHostname (listeners : List Listener) : List Listener :=
  (listeners.foldl (fun acc l => insertListener l acc.reverse |>.reverse) []).reverse

/-- `tryToAttachL4RouteToListeners`. -/
def tryToAttachL4RouteToListeners (status : ParentRefAttachmentStatus) (listeners : List Listener)
    (route : L4Route) (portHostnamesMap : List String) (parentRefNamespace : String) :
    (Option AttachCondition × Bool) × List String × ParentRefAttachmentStatus :=
  if listeners = [] then ((some .invalidListener, false), portHostnamesMap, status)
  else
    let (flags, portHostnamesMap, status) :=
      (sortListenersByHostname listeners).foldl
        (fun (acc : (Bool × Bool × Bool × Bool) × List String × ParentRefAttachmentStatus) l =>
          let ((routeAllowed, routeAttached, routeHostnamesUnique), phm, status) :=
            bindToListenerL4 namespaceSelected route parentRefNamespace acc.2.1 acc.2.2 l
          ((acc.1.1 || routeAllowed, acc.1.2.1 || routeAttached, acc.1.2.2.1 || routeHostnamesUnique,
            acc.1.2.2.2 || (routeAttached && l.valid)), phm, status))
        ((false, false, false, false), portHostnamesMap, status)
    let (allowed, attached, hostnamesUnique, validAttached) := flags
    if !attached then
      ((some (if !allowed then .notAllowedByListeners
              else if !hostnamesUnique then .hostnameConflict
              else .noMatchingListenerHostname), false), portHostnamesMap, status)
    else if !validAttached then ((some .invalidListener, true), portHostnamesMap, status)
    else ((none, true), portHostnamesMap, status)

/-- One parent reference of `bindL4RouteToListeners`, threading the
hostnames taken on each port. -/
def bindL4ParentRef (route : L4Route) (gw : Gateway) (portHostnamesMap : List String) (ref : ParentRef) :
    (ParentRef × List AttachCondition) × List String :=
  match ref.kind with
  | .listenerSet => ((ref, []), portHostnamesMap)
  | .gateway =>
    if ref.nsName ≠ gw.nsName then ((ref, []), portHostnamesMap)
    else
      let (attachment, attachableListeners) := validateParentRef ref gw
      if attachment.failedConditions ≠ [] then (({ ref with attachment := some attachment }, []), portHostnamesMap)
      else
        -- only the first backend invalid for the Gateway is reported
        let attachment :=
          if route.getBackendRefs.any (·.invalidForGateways.contains gw.nsName) then
            { attachment with failedConditions := attachment.failedConditions ++ [externalNameCondition] }
          else attachment
        match tryToAttachL4RouteToListeners namespaceSelected attachment attachableListeners route portHostnamesMap
            ref.nsName.ns with
        | ((cond, false), phm, status) =>
          (({ ref with attachment := some { status with failedConditions := status.failedConditions ++ cond.toList } },
            []), phm)
        | ((cond, true), phm, status) => (({ ref with attachment := some { status with attached := true } },
            cond.toList), phm)

/-- `bindL4RouteToListeners`. -/
def bindL4RouteToListeners (gw : Gateway) (portHostnamesMap : List String) (route : L4Route) :
    L4Route × List String :=
  if !route.attachable then (route, portHostnamesMap)
  else
    let (bound, phm) := route.parentRefs.foldl
      (fun (acc : List (ParentRef × List AttachCondition) × List String) ref =>
        let (b, phm) := bindL4ParentRef namespaceSelected route gw acc.2 ref
        (acc.1 ++ [b], phm))
      ([], portHostnamesMap)
    ({ route with parentRefs := bound.map (·.1), conditions := route.conditions ++ bound.flatMap (·.2) }, phm)

end Binding

/-! ## Isolation -/

/-- `hostPort`: a listener's parent, hostname and port. -/
structure HostPort where
  parentRefNsName : NamespacedName
  hostname : String
  port : Int32
  deriving Repr, DecidableEq

/-- `getListenerHostPortMap`: a ListenerSet listener's parent is its ListenerSet. -/
def getListenerHostPortMap (listeners : List Listener) : List (String × HostPort) :=
  listeners.map fun l =>
    (l.key, { parentRefNsName := if l.listenerSetName.name ≠ "" then l.listenerSetName else l.gatewayName
              hostname := getHostname l.hostname, port := l.port })

/-- The hostnames of one listener key that belong to another listener of
the same parent on the same port (any port, for an L4 route). -/
def hostnamesToRemove (listenerHostnameMap : List (String × HostPort)) (ref : ParentRef)
    (listenerPort : Int32) (isL4Route : Bool) (key : String) (hostnames : List String) : List String :=
  hostnames.filter fun h => listenerHostnameMap.any fun (lName, lHostPort) =>
    ref.nsName = lHostPort.parentRefNsName && lHostPort.hostname ≠ "" && h = lHostPort.hostname && key ≠ lName &&
      (isL4Route || lHostPort.port = listenerPort)

/-- `isolateHostnamesForParentRefs`, on one parent reference. -/
def isolateParentRef (listenerHostnameMap : List (String × HostPort)) (isL4Route : Bool) (ref : ParentRef) :
    ParentRef :=
  match ref.sectionName, ref.attachment with
  | some _, some attachment =>
    let isolate := fun (key, hostnames) =>
      if hostnames = [] then (key, hostnames)
      else (key, removeHostnames hostnames
        (hostnamesToRemove listenerHostnameMap ref attachment.listenerPort isL4Route key hostnames))
    { ref with attachment := some { attachment with acceptedHostnames := attachment.acceptedHostnames.map isolate } }
  | _, _ => ref

def isolateHostnamesForParentRefs (parentRefs : List ParentRef) (listenerHostnameMap : List (String × HostPort))
    (isL4Route : Bool) : List ParentRef :=
  parentRefs.map (isolateParentRef listenerHostnameMap isL4Route)

/-- `bindRoutesToListeners` for one Gateway: the L7 routes and the L4
routes, bound and isolated; the L4 routes in the order they were bound. -/
def bindRoutesToListeners (namespaceSelected : Listener → String → Bool) (gw : Gateway)
    (l7Routes : List L7Route) (l4Routes : List L4Route) : List L7Route × List L4Route :=
  let listenerMap := getListenerHostPortMap gw.listeners
  let l7Routes := (l7Routes.map (bindL7RouteToListeners namespaceSelected gw)).map fun r =>
    { r with parentRefs := isolateHostnamesForParentRefs r.parentRefs listenerMap false }
  let l4Sorted := sortStable (fun a b => lessClientObject a.source b.source) l4Routes
  let (l4Bound, _) := l4Sorted.foldl (fun (acc : List L4Route × List String) r =>
    let (r, phm) := bindL4RouteToListeners namespaceSelected gw acc.2 r
    (acc.1 ++ [r], phm)) ([], [])
  let l4Routes := l4Bound.map fun r =>
    { r with parentRefs := isolateHostnamesForParentRefs r.parentRefs listenerMap true }
  (l7Routes, l4Routes)

/-- The hostnames a route's parent references were accepted with on a
listener: those of the first reference with an entry for it. -/
def acceptedHostnamesOn (parentRefs : List ParentRef) (l : Listener) : Option (List String) :=
  parentRefs.findSome? fun p => p.attachment.bind fun a => a.acceptedHostnames.lookup l.key

end GatewayFabric.Graph
