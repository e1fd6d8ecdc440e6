/-
The servers of the dataplane configuration (`state/dataplane/configuration.go`):
the HTTP and HTTPS virtual servers built from the routes of each valid
listener (`buildServers`, `hostPathRules`), the hostnames of the HTTPS
listeners per port (`SSLListenerHostnames`), the TLS servers of the TLS
listeners (`buildTLSServers`), the upstreams (`buildUpstreams`) and the
backend groups (`buildBackendGroups`).

Each listener's routes are the bound routes whose parent references were
accepted on it. A route's rules are read in the order of the routes given;
the order of Go's maps (`rulesPerHost`, the ports of `portPathRules`, the
groups of `buildBackendGroups`) is the order in which their keys were
first added. Policies, SSL settings of HTTP servers and guardrails are left
out. The resolution of a Service's endpoints is a parameter
(`resolveEndpoints`), as is an ExternalName Service's hostname.
-/
import GatewayFabric.Graph.Routes
import GatewayFabric.Dataplane.BackendGroups

namespace GatewayFabric.Dataplane

open GatewayFabric.Graph

/-! ## The routes of a listener -/

/-- `Listener.Routes`: the routes accepted on the listener. -/
def listenerRoutes (routes : List L7Route) (l : Listener) : List L7Route :=
  routes.filter fun r => (acceptedHostnamesOn r.parentRefs l).isSome

/-- `Listener.L4Routes`. -/
def listenerL4Routes (routes : List L4Route) (l : Listener) : List L4Route :=
  routes.filter fun r => (acceptedHostnamesOn r.parentRefs l).isSome

/-! ## HTTP and HTTPS servers -/

/-- `hostPathRules`: the path rules of each hostname of one port, keyed by
path and path type, and the listener each hostname is served for. -/
structure HostPathRules where
  rulesPerHost : List (String × List ((String × PathType) × PathRule)) := []
  listenersForHost : List (String × Listener) := []
  httpsListeners : List Listener := []
  port : Int32 := 0
  listenersExist : Bool := false
  deriving Repr, DecidableEq

/-- `listenerHostnameMoreSpecific`. -/
def listenerHostnameMoreSpecific (host1 host2 : Option String) : Bool :=
  getMoreSpecificHostname (getHostname host1) (getHostname host2) = getHostname host1

/-- The path rule of a hostname and key, or a new one. -/
def HostPathRules.hostRule (hpr : HostPathRules) (h : String) (m : RouteMatch) : PathRule :=
  match (hpr.rulesPerHost.lookup h).bind (·.lookup (m.path, m.pathType)) with
  | some r => r
  | none => { path := m.path, pathType := m.pathType, matchRules := [] }

/-- `rulesPerHost[h][key] = rule`. -/
def HostPathRules.setRule (hpr : HostPathRules) (h : String) (key : String × PathType) (rule : PathRule) :
    HostPathRules :=
  let rules := (hpr.rulesPerHost.lookup h).getD []
  let rules := if rules.any (·.1 = key) then rules.map (fun e => if e.1 = key then (key, rule) else e)
    else rules ++ [(key, rule)]
  { hpr with rulesPerHost := assocSet hpr.rulesPerHost h rules }

/-- The hostname loop of `upsertRoute`: the listener of each hostname, the
more specific one when two listeners accept it, and an entry for its rules. -/
def HostPathRules.addHostname (listener : Listener) (hpr : HostPathRules) (h : String) : HostPathRules :=
  let listenersForHost :=
    match hpr.listenersForHost.lookup h with
    | some prev =>
      if listenerHostnameMoreSpecific listener.hostname prev.hostname then assocSet hpr.listenersForHost h listener
      else hpr.listenersForHost
    | none => assocSet hpr.listenersForHost h listener
  let rulesPerHost := if hpr.rulesPerHost.any (·.1 = h) then hpr.rulesPerHost else hpr.rulesPerHost ++ [(h, [])]
  { hpr with listenersForHost, rulesPerHost }

/-- One match of one rule on one hostname: the match rule is added to the
path rule of its path and path type. -/
def HostPathRules.addMatch (route : L7Route) (listener : Listener) (externalHostname : NamespacedName → String)
    (idx : Nat) (rule : RouteRule) (filters : HTTPFilters) (h : String) (hpr : HostPathRules) (m : RouteMatch) :
    HostPathRules :=
  let (backendGroup, inferencePoolBackendExists) :=
    newBackendGroup rule.backendRefs listener.gatewayName route.source.nsName idx externalHostname
  let hostRule := hpr.hostRule h m
  let hostRule := { hostRule with
    grpc := route.routeType = .grpc
    hasInferenceBackends := hostRule.hasInferenceBackends || inferencePoolBackendExists
    matchRules := hostRule.matchRules ++
      [{ source := route.source, backendGroup, filters, «match» := m.«match» }] }
  hpr.setRule h (m.path, m.pathType) hostRule

/-- `hostPathRules.upsertRoute`. -/
def HostPathRules.upsertRoute (externalHostname : NamespacedName → String) (hpr : HostPathRules)
    (route : L7Route) (listener : Listener) : HostPathRules :=
  let hostnames := (acceptedHostnamesOn route.parentRefs listener).getD []
  let hpr := hostnames.foldl (HostPathRules.addHostname listener) hpr
  (route.rules.zipIdx).foldl (fun hpr (rule, idx) =>
    if !rule.validMatches then hpr
    else
      -- a rule whose filters are invalid is still served, by an invalid filter
      let filters := if rule.filtersValid then rule.filters else { invalidFilter := true }
      hostnames.foldl (fun hpr h =>
        rule.«matches».foldl (HostPathRules.addMatch route listener externalHostname idx rule filters h) hpr) hpr) hpr

/-- `hostPathRules.upsertListener`. -/
def HostPathRules.upsertListener (externalHostname : NamespacedName → String) (routes : List L7Route)
    (hpr : HostPathRules) (l : Listener) : HostPathRules :=
  let hpr := { hpr with
    listenersExist := true
    port := l.port
    httpsListeners := if l.protocol = .https then hpr.httpsListeners ++ [l] else hpr.httpsListeners }
  ((listenerRoutes routes l).filter (·.valid)).foldl (fun hpr r => hpr.upsertRoute externalHostname r l) hpr

/-- The order `sortPathRules` gives path types: exact, prefix, regular expression. -/
def PathType.rank : PathType → Nat
  | .exact => 0
  | .pathPrefix => 1
  | .regularExpression => 2

/-- The comparison of `sortPathRules`: longer paths first, then by path,
then by path type. -/
def pathRuleLess (a b : PathRule) : Bool :=
  if a.path.length ≠ b.path.length then a.path.length > b.path.length
  else if a.path ≠ b.path then decide (a.path < b.path)
  else a.pathType.rank < b.pathType.rank

/-- `higherPriority` of `sortMatchRules`: a method first, then more header
matches, then more query parameter matches, then the older route. -/
def higherPriority (rule1 rule2 : MatchRule) : Bool :=
  if rule1.«match».method.isSome && rule2.«match».method.isNone then true
  else if rule2.«match».method.isSome && rule1.«match».method.isNone then false
  else if rule1.«match».headers.length ≠ rule2.«match».headers.length then
    rule1.«match».headers.length > rule2.«match».headers.length
  else if rule1.«match».queryParams.length ≠ rule2.«match».queryParams.length then
    rule1.«match».queryParams.length > rule2.«match».queryParams.length
  else lessObjectMeta rule1.source rule2.source

/-- `sortMatchRules`. -/
def sortMatchRules (matchRules : List MatchRule) : List MatchRule :=
  sortStable higherPriority matchRules

/-- The server of one hostname: its path rules sorted, and each match rule's
backend group given the index of its path rule. -/
def HostPathRules.serverFor (hpr : HostPathRules) (h : String) (rules : List ((String × PathType) × PathRule)) :
    VirtualServer :=
  let pathRules := sortStable pathRuleLess
    (rules.map fun (_, r) => { r with matchRules := sortMatchRules r.matchRules })
  { hostname := h, port := hpr.port
    pathRules := pathRules.zipIdx.map fun (r, pathRuleIdx) =>
      { r with matchRules := r.matchRules.map fun mr =>
          { mr with backendGroup := { mr.backendGroup with pathRuleIdx } } } }

/-- `getListenerHostname`. -/
def getListenerHostname (h : Option String) : String :=
  match h with
  | none => wildcardHostname
  | some h => if h = "" then wildcardHostname else h

/-- `hostPathRules.buildServers`: a server per hostname, a server for each
HTTPS listener with no route or no hostname, and the default server. -/
def HostPathRules.buildServers (routes : List L7Route) (hpr : HostPathRules) : List VirtualServer :=
  let servers := hpr.rulesPerHost.map fun (h, rules) => hpr.serverFor h rules
  let sslDefaults := hpr.httpsListeners.filterMap fun l =>
    let hostname := getListenerHostname l.hostname
    if listenerRoutes routes l = [] ∨ hostname = wildcardHostname then
      some { hostname, port := hpr.port, pathRules := [] }
    else none
  let defaults : List VirtualServer :=
    if hpr.listenersExist then [{ isDefault := true, hostname := "", port := hpr.port, pathRules := [] }] else []
  sortStable (fun a b => decide (a.hostname < b.hostname)) (servers ++ sslDefaults ++ defaults)

/-- The servers, in the order of their ports, of the valid listeners of one
protocol. -/
def buildServersForProtocol (externalHostname : NamespacedName → String) (gw : Gateway) (routes : List L7Route)
    (protocol : ProtocolType) : List VirtualServer :=
  let ports := (gw.listeners.filter fun l => l.valid && l.protocol = protocol).foldl
    (fun (acc : List (Int32 × HostPathRules)) l =>
      let hpr := ((acc.lookup l.port).getD {}).upsertListener externalHostname routes l
      if acc.any (·.1 = l.port) then acc.map (fun e => if e.1 = l.port then (l.port, hpr) else e)
      else acc ++ [(l.port, hpr)]) []
  ports.flatMap fun (_, hpr) => hpr.buildServers routes

/-- `sslListenerHostnames` of `buildServers`: the hostnames of the valid
HTTPS listeners, per port. -/
def sslListenerHostnames (gw : Gateway) : List (Int32 × List String) :=
  (gw.listeners.filter fun l => l.valid && l.protocol = .https).foldl (fun acc l =>
    let hostname := getHostname l.hostname
    if acc.any (·.1 = l.port) then acc.map (fun e => if e.1 = l.port then (l.port, e.2 ++ [hostname]) else e)
    else acc ++ [(l.port, [hostname])]) []

/-- `buildServers`: the HTTP servers, the HTTPS servers and the HTTPS
listener hostnames per port. -/
def buildServers (externalHostname : NamespacedName → String) (gw : Gateway) (routes : List L7Route) :
    List VirtualServer × List VirtualServer × List (Int32 × List String) :=
  (buildServersForProtocol externalHostname gw routes .http, buildServersForProtocol externalHostname gw routes .https,
   sslListenerHostnames gw)

/-! ## TLS servers -/

/-- `generateSSLKeyPairID`. -/
def generateSSLKeyPairID (secret : NamespacedName) : String := "ssl_keypair_" ++ secret.ns ++ "_" ++ secret.name

/-- `buildSSL`, without the TLS options. -/
def buildSSL (l : Listener) : SSL := { keyPairIDs := l.resolvedSecrets.map generateSSLKeyPairID }

/-- The servers of one route on a TLS listener (`buildTLSServersForListener`):
one per hostname the route was accepted with. -/
def tlsServersForRoute (l : Listener) (ssl : Option SSL) (r : L4Route) : List Layer4VirtualServer :=
  ((acceptedHostnamesOn r.parentRefs l).getD []).map fun h =>
    { hostname := h, upstreams := [{ name := r.backendRef.servicePortReference }], port := l.port, ssl }

/-- `buildTLSDefaultServer`. -/
def buildTLSDefaultServer (l : Listener) (ssl : Option SSL) : Layer4VirtualServer :=
  { hostname := getHostname l.hostname, isDefault := true, port := l.port, upstreams := [], ssl }

/-- `buildTLSServers`: the servers of the valid routes of each valid TLS
listener, by route, and a default server for each listener none of whose
routes has the listener's own hostname. -/
def buildTLSServers (gw : Gateway) (l4Routes : List L4Route) : List Layer4VirtualServer :=
  let tlsListeners := gw.listeners.filter fun l => l.valid && l.protocol = .tls
  let sslOf := fun (l : Listener) => if l.tlsTerminate then some (buildSSL l) else none
  let routeServers := (sortStable (fun a b =>
      if a.source.ns ≠ b.source.ns then decide (a.source.ns < b.source.ns) else decide (a.source.name < b.source.name))
      (l4Routes.filter (·.valid))).flatMap fun r => tlsListeners.flatMap fun l =>
      if (listenerL4Routes l4Routes l).contains r then tlsServersForRoute l (sslOf l) r else []
  let listenerDefaultServers := tlsListeners.filterMap fun l =>
    let matched := (listenerL4Routes l4Routes l).any fun r =>
      r.valid && ((acceptedHostnamesOn r.parentRefs l).getD []).any fun h => l.hostname = some h
    if matched then none else some (buildTLSDefaultServer l (sslOf l))
  sortStable (fun a b =>
    if a.port ≠ b.port then a.port < b.port
    else if a.isDefault ≠ b.isDefault then !a.isDefault
    else decide (a.hostname < b.hostname)) (routeServers ++ listenerDefaultServers)

/-! ## Upstreams and backend groups -/

/-- The backend references `buildUpstreams` reads: those of the rules with
valid matches and filters of the valid routes of the valid listeners. -/
def upstreamBackendRefs (gw : Gateway) (routes : List L7Route) : List BackendRef :=
  (gw.listeners.filter (·.valid)).flatMap fun l =>
    ((listenerRoutes routes l).filter (·.valid)).flatMap fun route =>
      (route.rules.filter fun rule => rule.validMatches && rule.filtersValid).flatMap (·.backendRefs)

/-- The endpoints `resolveUpstreamEndpoints` finds for a reference, and the
text of its error, empty when it found them. -/
def resolvedEndpoints (resolveEndpoints : BackendRef → Except String (List Endpoint)) (br : BackendRef) :
    List Endpoint × String :=
  match resolveEndpoints br with
  | .ok eps => (eps, "")
  | .error e => ([], e)

/-- `buildUpstream`: the upstream of a reference, unless it is invalid, invalid
for the Gateway, or its name is already among `uniqueUpstreams`. -/
def buildUpstream (resolveEndpoints : BackendRef → Except String (List Endpoint)) (gw : Gateway)
    (uniqueUpstreams : List Upstream) (br : BackendRef) : Option Upstream :=
  if !br.valid || br.invalidForGateways.contains gw.nsName then none
  else if uniqueUpstreams.any (·.name = br.servicePortReference) then none
  else
    some { name := br.servicePortReference, stateFileKey := br.baseServicePortKey
           endpoints := (resolvedEndpoints resolveEndpoints br).1, errorMsg := (resolvedEndpoints resolveEndpoints br).2 }

/-- One reference of the loop of `buildUpstreams`. -/
def addUpstream (resolveEndpoints : BackendRef → Except String (List Endpoint)) (gw : Gateway)
    (uniqueUpstreams : List Upstream) (br : BackendRef) : List Upstream :=
  match buildUpstream resolveEndpoints gw uniqueUpstreams br with
  | some up => uniqueUpstreams ++ [up]
  | none => uniqueUpstreams

/-- `buildUpstreams`: one upstream per Service port reference of a valid
backend of a rule with valid matches and filters of a valid route on a
valid listener, by name. -/
def buildUpstreams (resolveEndpoints : BackendRef → Except String (List Endpoint)) (gw : Gateway)
    (routes : List L7Route) : List Upstream :=
  sortStable (fun a b => decide (a.name < b.name))
    ((upstreamBackendRefs gw routes).foldl (addUpstream resolveEndpoints gw) [])

/-- `buildBackendGroups`: the backend group of every match rule of the
servers, one per route, rule and path rule; the last one seen is kept. -/
def buildBackendGroups (servers : List VirtualServer) : List BackendGroup :=
  let groups := servers.flatMap fun s => s.pathRules.flatMap fun pr => pr.matchRules.map (·.backendGroup)
  groups.foldl (fun (acc : List BackendGroup) g =>
    let same := fun (g' : BackendGroup) => g'.source = g.source && g'.ruleIdx = g.ruleIdx && g'.pathRuleIdx = g.pathRuleIdx
    if acc.any same then acc.map (fun g' => if same g' then g else g') else acc ++ [g]) []

end GatewayFabric.Dataplane
