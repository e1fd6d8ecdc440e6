/-
How NGINX serves a request through the generated locations: the phases of
one location in NGINX's order, and the chain of internal redirects.

In a location, the rewrite phase comes first: a `rewrite ... last` sends
the request to another location, and a `return` ends it. Then the access
phase runs the location's access checks (`auth_basic`, `auth_jwt`,
`auth_oidc`, `auth_request`, the guardrails filter), the precontent phase
starts the mirror subrequests, and the content handler runs: the NJS match
redirect, the EndpointPicker lookup of `epp.getEndpoint` (which sends the
request's headers and body to the EndpointPicker and then redirects to the
location in `$epp_internal_path`), or `proxy_pass`. After an internal
redirect the phases start again in the new location.

Where the request goes after the NJS match redirect or a split_clients
rewrite depends on the request; that choice is a parameter (`dynamicTarget`).
-/
import GatewayFabric.Config.Locations

namespace GatewayFabric.Config

/-- What a request sends out of NGINX. -/
inductive Outbound where
  | backend (proxyPass : String)
  | mirror (path : String)
  | endpointPicker (host : String) (port : Nat)
  deriving Repr, DecidableEq

/-- What a location does with a request, in order: its access checks, or
a request sent out. -/
inductive PhaseEvent where
  | accessCheck (location : String)
  | send (o : Outbound)
  deriving Repr, DecidableEq

/-- The location has a check of the access phase. -/
def Location.hasAccessCheck (l : Location) : Bool :=
  l.authBasic.isSome || l.authJWT.isSome || l.authOIDC.any (·.providerName ≠ "") ||
    l.authExternalRequest.any (·.internalPath ≠ "") || l.guardrails.any (·.enabled)

/-- A rewrite that restarts location search (`last`). -/
def isLastRewrite (r : String) : Bool := " last".toList.isSuffixOf r.toList

/-- The content handler's requests, and the location it redirects to. -/
def contentPhase (dynamicTarget : Location → Option String) (l : Location) : List PhaseEvent × Option String :=
  if l.type = .redirect then ([], dynamicTarget l)
  else if l.type.contains "inference" then ([.send (.endpointPicker l.eppHost l.eppPort)], some l.eppInternalPath)
  else if l.proxyPass ≠ "" then ([.send (.backend l.proxyPass)], none)
  else ([], none)

/-- One location's phases: what it does, and where the request goes next. -/
def locationEvents (dynamicTarget : Location → Option String) (l : Location) : List PhaseEvent × Option String :=
  if l.rewrites.any isLastRewrite then ([], dynamicTarget l)
  else if l.return.isSome then ([], none)
  else
    let (content, next) := contentPhase dynamicTarget l
    ((if l.hasAccessCheck then [.accessCheck l.path] else []) ++
      l.mirrorPaths.map (fun m => .send (.mirror m)) ++ content, next)

/-- The events of a request that starts in `l`, through at most `fuel`
locations: NGINX itself stops after ten internal redirects. -/
def serve (locs : List Location) (dynamicTarget : Location → Option String) : Nat → Location → List PhaseEvent
  | 0, _ => []
  | fuel + 1, l =>
    let (events, next) := locationEvents dynamicTarget l
    match next.bind (fun p => locs.find? (·.path = p)) with
    | some l' => events ++ serve locs dynamicTarget fuel l'
    | none => events

end GatewayFabric.Config
