/-
Listener isolation, from the routes of a Gateway to the server NGINX picks
for a request (`bindRoutesToListeners`, `buildServers`, `buildTLSServers`,
`createStreamMaps`, and NGINX's name matching).

What isolation is meant to achieve is stated first (`admits`,
`mostSpecificListener`): a request for a host belongs to the most specific
listener of its port that admits it, and only routes of that listener
should serve it. What the code achieves is weaker: isolation removes from a
route's accepted hostnames those that are another listener's hostname
string (`isolated_not_other_listener_hostname`). A hostname a route lists
that is more specific than its listener's, and that only a wildcard of a
more specific listener covers, stays; and a TLSRoute hostname is claimed per
port during binding, by the oldest route, before isolation removes it from
that route again.
-/
import GatewayFabric.Dataplane.Servers
import GatewayFabric.Nginx.Select
import GatewayFabric.Config.Maps

namespace GatewayFabric.Config

open Dataplane GatewayFabric.Graph Nginx

/-! ## Which listener a request belongs to -/

/-- Whether a listener takes requests for `host` (Gateway API listener
hostname matching): no hostname takes every host, `*.suffix` the hosts that
end in `.suffix`, any other hostname only itself. -/
def admits (l : Listener) (host : String) : Bool :=
  match l.hostname with
  | none => true
  | some h => h = "" || h = host || wildcardMatches h host

/-- The precedence of listener hostnames for the hosts they admit: an exact
hostname, then a wildcard with a longer suffix, then no hostname. -/
def specificity (l : Listener) : Nat :=
  match l.hostname with
  | none => 0
  | some h => if h = "" then 0 else if isWildcardName h then 2 * h.length else 2 * h.length + 1

/-- The most specific valid listener of one of `protocols` on `port` that
admits `host`. -/
def mostSpecificListener (listeners : List Listener) (port : Int32) (protocols : List ProtocolType)
    (host : String) : Option Listener :=
  (listeners.filter fun l => l.valid && l.port = port && protocols.contains l.protocol && admits l host).argmax
    specificity

/-- The names of the routes whose rules a server serves. -/
def servedRoutes (s : VirtualServer) : List String :=
  s.pathRules.flatMap fun pr => pr.matchRules.map (·.source.name)

/-! ## What isolation removes -/

/-- After isolation, a hostname a route is accepted with on a listener is
never the hostname of another listener of the same parent on the same port
(on any port, for an L4 route). -/
theorem isolated_not_other_listener_hostname {listenerMap : List (String × HostPort)} {isL4Route : Bool}
    {ref : ParentRef} {section_ : String} (hsec : ref.sectionName = some section_)
    {attachment : ParentRefAttachmentStatus} (hatt : ref.attachment = some attachment)
    {key : String} {hostnames : List String}
    (hmem : (key, hostnames) ∈ (isolateParentRef listenerMap isL4Route ref).attachment.elim [] (·.acceptedHostnames))
    {h : String} (hh : h ∈ hostnames) {lName : String} {lHostPort : HostPort} (hl : (lName, lHostPort) ∈ listenerMap)
    (hparent : lHostPort.parentRefNsName = ref.nsName) (hne : lHostPort.hostname ≠ "") (hkey : key ≠ lName)
    (hport : isL4Route ∨ lHostPort.port = attachment.listenerPort) : h ≠ lHostPort.hostname := by
  simp only [isolateParentRef, hsec, hatt, Option.elim, List.mem_map] at hmem
  obtain ⟨⟨key', hs⟩, -, hisolate⟩ := hmem
  split at hisolate
  · obtain ⟨rfl, rfl⟩ := hisolate
    simp_all
  · obtain ⟨rfl, rfl⟩ := hisolate
    rw [mem_removeHostnames] at hh
    intro heq
    apply hh.2
    simp only [hostnamesToRemove, List.mem_filter, List.any_eq_true]
    refine ⟨hh.1, (lName, lHostPort), hl, ?_⟩
    simp only [Bool.and_eq_true, decide_eq_true_eq, Bool.or_eq_true]
    exact ⟨⟨⟨⟨hparent.symm, hne⟩, heq⟩, hkey⟩, hport.imp id fun hp => hp⟩

/-! ## A route that lists a host of a more specific listener -/

def isolationGatewayName : NamespacedName := { ns := "default", name := "gateway" }

/-- An HTTP listener for `*.example.com`. -/
def wideListener : Listener :=
  { name := "wildcard", gatewayName := isolationGatewayName, hostname := some "*.example.com", port := 80
    protocol := .http, allowedFrom := some .all, supportedKinds := [.httpRoute, .grpcRoute] }

/-- An HTTP listener of the same port for `*.foo.example.com`. -/
def fooListener : Listener :=
  { name := "foo-wildcard", gatewayName := isolationGatewayName, hostname := some "*.foo.example.com", port := 80
    protocol := .http, allowedFrom := some .all, supportedKinds := [.httpRoute, .grpcRoute] }

def isolationGateway : Gateway := { nsName := isolationGatewayName, listeners := [wideListener, fooListener] }

/-- A valid reference to port 80 of a Service of the namespace `default`. -/
def serviceRef (name : String) (port : Int32) : BackendRef :=
  { svcNsName := { ns := "default", name }, servicePort := { port }, weight := 1, valid := true }

/-- An HTTPRoute on the `*.example.com` listener that lists
`bar.foo.example.com`. -/
def wideRoute : L7Route :=
  { source := { creationTimestamp := 1, ns := "default", name := "wide" }, hostnames := ["bar.foo.example.com"]
    rules := [{ «matches» := [{ path := "/", pathType := .pathPrefix }], backendRefs := [serviceRef "wide" 80] }]
    parentRefs := [{ nsName := isolationGatewayName, sectionName := some "wildcard" }] }

/-- An HTTPRoute on the `*.foo.example.com` listener, for all its hosts. -/
def fooRoute : L7Route :=
  { source := { creationTimestamp := 2, ns := "default", name := "foo" }
    rules := [{ «matches» := [{ path := "/", pathType := .pathPrefix }], backendRefs := [serviceRef "foo" 80] }]
    parentRefs := [{ nsName := isolationGatewayName, sectionName := some "foo-wildcard" }] }

def isolationRoutes : List L7Route :=
  (bindRoutesToListeners (fun _ _ => false) isolationGateway [wideRoute, fooRoute] []).1

def isolationServers : List VirtualServer :=
  buildServersForProtocol (fun _ => "") isolationGateway isolationRoutes .http

theorem wildcard_route_serves_more_specific_listener_host :
    mostSpecificListener isolationGateway.listeners 80 [.http, .https] "bar.foo.example.com" = some fooListener ∧
      isolationRoutes.map (fun r => (r.source.name, (acceptedHostnamesOn r.parentRefs fooListener).isSome)) =
        [("wide", false), ("foo", true)] ∧
      (selectServer generatedRegexMatches isolationServers "bar.foo.example.com").map servedRoutes = some ["wide"] := by
  refine ⟨?_, ?_, ?_⟩ <;> decide +kernel

/-! ## A TLSRoute hostname claimed on a wildcard listener -/

/-- A TLS passthrough listener on 443 for `*.example.com`. -/
def wideTLSListener : Listener :=
  { name := "tls-wildcard", gatewayName := isolationGatewayName, hostname := some "*.example.com", port := 443
    protocol := .tls, allowedFrom := some .all, supportedKinds := [.tlsRoute] }

/-- A TLS passthrough listener on 443 for `foo.example.com`. -/
def fooTLSListener : Listener :=
  { name := "tls-foo", gatewayName := isolationGatewayName, hostname := some "foo.example.com", port := 443
    protocol := .tls, allowedFrom := some .all, supportedKinds := [.tlsRoute] }

def tlsGateway : Gateway := { nsName := isolationGatewayName, listeners := [wideTLSListener, fooTLSListener] }

/-- The older TLSRoute, on the wildcard listener, for `foo.example.com`. -/
def olderTLSRoute : L4Route :=
  { source := { creationTimestamp := 1, ns := "default", name := "older" }, routeType := .tls
    hostnames := ["foo.example.com"], backendRef := serviceRef "older" 443
    parentRefs := [{ nsName := isolationGatewayName, sectionName := some "tls-wildcard" }] }

/-- The newer TLSRoute, on the `foo.example.com` listener, for the same host. -/
def newerTLSRoute : L4Route :=
  { source := { creationTimestamp := 2, ns := "default", name := "newer" }, routeType := .tls
    hostnames := ["foo.example.com"], backendRef := serviceRef "newer" 443
    parentRefs := [{ nsName := isolationGatewayName, sectionName := some "tls-foo" }] }

def tlsRoutes : List L4Route :=
  (bindRoutesToListeners (fun _ _ => false) tlsGateway [] [newerTLSRoute, olderTLSRoute]).2

/-- Both backends have a ready endpoint. -/
def tlsUpstreams : List Upstream :=
  [{ name := "default_older_443", stateFileKey := "default_older_443", endpoints := [{ address := "10.0.0.1", port := 443 }] },
   { name := "default_newer_443", stateFileKey := "default_newer_443", endpoints := [{ address := "10.0.0.2", port := 443 }] }]

/-- The stream maps NGINX reads back. -/
def tlsStreamMaps : Except LexError (Except MapError (List (String × String × MapBlock))) :=
  (tokenize (mapsText (createStreamMaps (buildTLSServers tlsGateway tlsRoutes) [] tlsUpstreams))).map readMaps

theorem older_tls_route_blocks_exact_listener_route :
    mostSpecificListener tlsGateway.listeners 443 [.tls] "foo.example.com" = some fooTLSListener ∧
      tlsRoutes.map (fun r => (r.source.name, r.parentRefs.map fun p => p.attachment.map (·.failedConditions))) =
        [("older", [some []]), ("newer", [some [.hostnameConflict]])] ∧
      tlsStreamMaps.map (·.map (·.map fun m => mapValue generatedRegexMatches m.2.2 "foo.example.com")) =
        .ok (.ok [some connectionClosedStreamServerSocket]) := by
  refine ⟨?_, ?_, ?_⟩ <;> decide +kernel

end GatewayFabric.Config
