/-
The locations of one server (`createLocations` in `nginx/config/servers.go`)
and the NJS match table that goes with them.

Each path rule gets its external locations (`initializeExternalLocations`:
one, or for an unslashed prefix the slashed prefix and the exact path) and,
depending on its matches and backends, internal match locations
(`createInternalLocationsForRule`) or inference locations
(`createInferenceLocationsForRule`); then come the OIDC callback locations,
the default `= /` location, and the internal JWKS, external-auth and
guardrails locations derived from the others.

The source's own parameters stay parameters: `keepAliveCheck` (whether an
upstream has keepalive connections) and `disableBaseProxySetHeaders` (from
the NginxProxy); `regexMatchesRoot` is `regexp2` compiling a
regular-expression path and matching `/`. Policy includes, CORS and the
mirror split percentage are left out; upstream TLS verification is taken
as absent, so the protocol is `http` or `grpc`.
-/
import GatewayFabric.Config.Filters

namespace GatewayFabric.Config

open Dataplane

/-! ## The NJS match table -/

/-- `routeMatch`, the value of a `matches.json` entry. -/
structure RouteMatch where
  method : String := ""
  redirectPath : String := ""
  headers : List String := []
  queryParams : List String := []
  any : Bool := false
  deriving Repr, DecidableEq

def matchTypeString : MatchType → String
  | .exact => "Exact"
  | .regularExpression => "RegularExpression"

def createHeaderKeyValString (h : HTTPHeaderMatch) : String :=
  h.name ++ ":" ++ matchTypeString h.type ++ ":" ++ h.value

def createQueryParamKeyValString (p : HTTPQueryParamMatch) : String :=
  p.name ++ "=" ++ matchTypeString p.type ++ "=" ++ p.value

def isPathOnlyMatch (m : Match) : Bool :=
  m.method.isNone && m.headers.isEmpty && m.queryParams.isEmpty

/-- `strings.ToLower` of a header name, which is ASCII after validation. -/
def lowerName (s : String) : String := String.ofList (s.toList.map Char.toLower)

/-- The first header match of every name, compared case-insensitively. -/
def firstHeaderPerName : List HTTPHeaderMatch → List String → List String
  | [], _ => []
  | h :: hs, seen =>
    if lowerName h.name ∈ seen then firstHeaderPerName hs seen
    else createHeaderKeyValString h :: firstHeaderPerName hs (lowerName h.name :: seen)

def createRouteMatch (m : Match) (redirectPath : String) : RouteMatch :=
  if isPathOnlyMatch m then { redirectPath, any := true }
  else
    { redirectPath
      method := m.method.getD ""
      headers := firstHeaderPerName m.headers []
      queryParams := m.queryParams.map createQueryParamKeyValString }

/-! ## Paths -/

def internalRoutePathPrefix : String := "/_ngf-internal"
def internalMirrorRoutePathPrefix : String := internalRoutePathPrefix ++ "-mirror"
def invalidBackendRef : String := "invalid-backend-ref"

def exactPath (path : String) : String := "= " ++ path

def createPath (rule : PathRule) : String :=
  match rule.pathType with
  | .exact => exactPath rule.path
  | .pathPrefix => rule.path
  | .regularExpression => "~ ^" ++ rule.path

def isNonSlashedPrefixPath (pathType : PathType) (path : String) : Bool :=
  pathType = .pathPrefix && !endsWithSlash path

def needsInternalLocationsForMatches (rule : PathRule) : Bool :=
  match rule.matchRules with
  | [] => false
  | [r] => !isPathOnlyMatch r.match
  | _ => true

def getLocationTypeForPathRule (rule : PathRule) : LocationType :=
  if needsInternalLocationsForMatches rule then .redirect
  else if rule.hasInferenceBackends then .inferenceExternal
  else .external

/-- `pathAndTypeMap`: every (path, path type) of the server's path rules. -/
def pathsAndTypes (pathRules : List PathRule) : List (String × PathType) :=
  pathRules.map fun r => (r.path, r.pathType)

/-- An unslashed prefix gets `P/` and `= P`, unless a rule of its own
already configures them. -/
def initializeExternalLocations (rule : PathRule) (pts : List (String × PathType)) : List Location :=
  let locType := getLocationTypeForPathRule rule
  let externalLocPath := createPath rule
  if isNonSlashedPrefixPath rule.pathType externalLocPath then
    let exactPathExists := (rule.path, PathType.exact) ∈ pts
    let trailingSlashPrefixPathExists := (rule.path ++ "/", PathType.pathPrefix) ∈ pts
    (if trailingSlashPrefixPathExists then [] else [{ path := externalLocPath ++ "/", type := locType }]) ++
    (if exactPathExists then [] else [{ path := exactPath rule.path, type := locType }])
  else [{ path := externalLocPath, type := locType }]

def initializeInternalMatchLocationPath (pathRuleIdx matchRuleIdx : Nat) : String :=
  internalRoutePathPrefix ++ "-rule" ++ toString pathRuleIdx ++ "-route" ++ toString matchRuleIdx

def createMatchLocation (path : String) (grpc : Bool) : Location :=
  { path, type := .internal, rewrites := if grpc then ["^ $request_uri break"] else [] }

def generateInternalInferenceEPPLocationPath (upstreamName : String) (source : NamespacedName)
    (ruleIdx pathRuleIdx : Nat) : String :=
  internalRoutePathPrefix ++ "-" ++ upstreamName ++ "-" ++ source.ns ++ "-" ++ source.name ++
    "-routeRule" ++ toString ruleIdx ++ "-pathRule" ++ toString pathRuleIdx

def initializeInternalInferenceEPPLocation (b : Backend) (source : NamespacedName)
    (ruleIdx pathRuleIdx : Nat) : Location :=
  { path := generateInternalInferenceEPPLocationPath b.upstreamName source ruleIdx pathRuleIdx
    type := .inferenceInternal }

def initializeInternalInferenceProxyPassLocation (pathRuleIdx matchRuleIdx backendIdx : Nat) : Location :=
  { path := internalRoutePathPrefix ++ "-proxy-pass-rule" ++ toString pathRuleIdx ++ "-route" ++
      toString matchRuleIdx ++ "-backend" ++ toString backendIdx ++ "-inference"
    type := .internal }

def initializeInternalInferenceSplitClientsLocation (pathRuleIdx matchRuleIdx : Nat) : Location :=
  { path := internalRoutePathPrefix ++ "-split-clients-rule" ++ toString pathRuleIdx ++ "-route" ++
      toString matchRuleIdx ++ "-inference"
    type := .internal }

/-! ## Proxying -/

/-- `convertStringToSafeVariableName`: `-` to `_`. -/
def convertStringToSafeVariableName (s : String) : String :=
  String.ofList (s.toList.map fun c => if c = '-' then '_' else c)

def createInferenceSplitClientsVariableName (groupName : String) : String :=
  "inference_backend_" ++ groupName

def backendGroupNeedsSplit (group : BackendGroup) : Bool := group.backends.length > 1

def backendGroupName (group : BackendGroup) : String :=
  match group.backends with
  | [] => invalidBackendRef
  | [b] => if b.weight = 0 ∨ !b.valid then invalidBackendRef else b.upstreamName
  | _ => group.name

def containsInvalidBackendRef (s : String) : Bool :=
  decide (invalidBackendRef.toList <:+: s.toList)

/-- The `proxy_pass`/`grpc_pass` target of a location: an inference map
variable, a split_clients variable, or an upstream name. -/
def createProxyPass (backendGroup : BackendGroup) (filter : Option HTTPURLRewriteFilter) (protocol : String)
    (grpc inferenceBackend : Bool) (locationType : LocationType) : String :=
  -- only internal locations restore the client's URI after an internal redirect
  let requestURI :=
    if !grpc ∧ locationType = .internal ∧ (filter.bind (·.path)).isNone then "$request_uri" else ""
  let backendName := backendGroupName backendGroup
  if inferenceBackend ∧ !containsInvalidBackendRef backendName then
    "http://$inference_backend_" ++ convertStringToSafeVariableName backendName ++ requestURI
  else if backendGroupNeedsSplit backendGroup then
    protocol ++ "://$" ++ convertStringToSafeVariableName backendName ++ requestURI
  else protocol ++ "://" ++ backendName ++ requestURI

def generateProtocolString (grpc : Bool) : String := if grpc then "grpc" else "http"

def toHeaders (hs : List HTTPHeader) : List Header := hs.map fun h => { name := h.name, value := h.value }

/-- `generateAddHeaderMapVariableName`. -/
def generateAddHeaderMapVariableName (name : String) : String :=
  lowerName (convertStringToSafeVariableName name) ++ "_header_var"

def createHeadersWithVarName (hs : List HTTPHeader) : List Header :=
  hs.map fun h => { name := h.name, value := "$\x7b" ++ generateAddHeaderMapVariableName h.name ++ "\x7d" ++ h.value }

/-- The user's request header modifiers, then every base header they do
not already name; a URL rewrite's hostname replaces the base `Host`. -/
def generateProxySetHeaders (filters : HTTPFilters) (baseHeaders : List Header) : List Header :=
  let baseHeaders :=
    match filters.requestURLRewrite.bind (·.hostname) with
    | some host =>
      match baseHeaders.findIdx? (·.name = "Host") with
      | some i => baseHeaders.modify i fun h => { h with value := host }
      | none => baseHeaders
    | none => baseHeaders
  match filters.requestHeaderModifiers with
  | none => baseHeaders
  | some hf =>
    -- an empty value keeps NGINX from passing the header on
    let own := createHeadersWithVarName hf.add ++ toHeaders hf.set ++ hf.remove.map fun n => { name := n, value := "" }
    own ++ baseHeaders.filter fun b => !own.any (·.name = b.name)

def grpcAuthorityHeader : Header := { name := "Authority", value := "$gw_api_compliant_host" }
def httpConnectionHeader : Header := { name := "Connection", value := "$connection_upgrade" }
def keepAliveConnectionHeader : Header := { name := "Connection", value := "$connection_keepalive" }
def httpUpgradeHeader : Header := { name := "Upgrade", value := "$http_upgrade" }

/-- The headers every proxied request gets, then `extraHeaders`; an
ExternalName backend's hostname replaces the Gateway API host. -/
def createBaseProxySetHeaders (externalHostname : String) (extraHeaders : List Header) : List Header :=
  [{ name := "Host", value := if externalHostname ≠ "" then externalHostname else "$gw_api_compliant_host" },
   { name := "X-Forwarded-For", value := "$proxy_add_x_forwarded_for" },
   { name := "X-Real-IP", value := "$remote_addr" },
   { name := "X-Forwarded-Proto", value := "$scheme" },
   { name := "X-Forwarded-Host", value := "$host" },
   { name := "X-Forwarded-Port", value := "$server_port" }] ++ extraHeaders

/-- The names `disableBaseProxySetHeaders` switches off; `*` is every
forwarding header. -/
def disabledHeaderNames (disableBaseProxySetHeaders : List String) : List String :=
  disableBaseProxySetHeaders.flatMap fun h =>
    if h = "*" then ["X-Forwarded-For", "X-Forwarded-Proto", "X-Forwarded-Host", "X-Forwarded-Port", "X-Real-IP"]
    else [h]

def filterBaseProxySetHeaders (baseHeaders : List Header) (disableBaseProxySetHeaders : List String) :
    List Header :=
  baseHeaders.filter fun h => h.name ∉ disabledHeaderNames disableBaseProxySetHeaders

def getConnectionHeader (keepAliveCheck : String → Bool) (backends : List Backend) : Header :=
  if backends.any (keepAliveCheck ·.upstreamName) then keepAliveConnectionHeader else httpConnectionHeader

def appProtocolTypeH2C : String := "kubernetes.io/h2c"

/-- Some backend is valid and every valid one speaks h2c. -/
def allValidBackendsAreH2C (backends : List Backend) : Bool :=
  let valid := backends.filter (·.valid)
  !valid.isEmpty && valid.all (·.appProtocol = appProtocolTypeH2C)

def resolveProxyHTTPVersion (backends : List Backend) (grpc : Bool) : String :=
  if !grpc && allValidBackendsAreH2C backends then "2" else ""

/-- `forceStripAcceptEncoding`; header names are ASCII, so `EqualFold` is
equality after lowering. -/
def forceStripAcceptEncoding (headers : List Header) : List Header :=
  headers.filter (fun h => lowerName h.name ≠ "accept-encoding") ++ [{ name := "Accept-Encoding", value := "" }]

def generateResponseHeaders (filters : HTTPFilters) : ResponseHeaders :=
  match filters.responseHeaderModifiers with
  | none => {}
  | some hf => { add := toHeaders hf.add, set := toHeaders hf.set, remove := hf.remove }

/-! ## One location -/

section Update

variable (keepAliveCheck : String → Bool) (disableBaseProxySetHeaders : List String)

def updateLocationMirrorRoute (location : Location) (path : String) (grpc : Bool) : Location :=
  if internalMirrorRoutePathPrefix.toList <+: path.toList then
    { location with type := .internal,
                    rewrites := if grpc then ["^ $request_uri break"] else location.rewrites }
  else location

/-- `generateAuthFileName`: `filepath.Join(secretsFolder, id)`; the ids
are built from Kubernetes names, which hold no `/`. -/
def generateAuthFileName (id : String) : String := "/etc/nginx/secrets/" ++ id

def generateAuthBasicFileID (ns name : String) : String := "basic_auth_" ++ ns ++ "_" ++ name
def generateAuthJWTFileID (ns name : String) : String := "jwt_auth_" ++ ns ++ "_" ++ name

/-- The authorization part shared by JWT and OIDC: `auth_jwt_require`
and the claim headers, present when either is set. -/
def authZConfigOf (authRequire : String) (headers : List HTTPHeader) : Option AuthZConfig :=
  if authRequire = "" ∧ headers = [] then none
  else some { authRequire, proxySetHeaders := toHeaders headers }

def getAuthJWTLocationConfig (j : Dataplane.AuthJWT) : AuthJWT :=
  { realm := j.realm
    remote := j.remote.map fun r => { uri := r.uri, path := r.path }
    file := if j.remote.isSome then "" else generateAuthFileName (generateAuthJWTFileID j.secretNamespace j.secretName)
    authZConfig := authZConfigOf j.authRequireVariable j.authZProxySetHeaders }

def getAuthOIDCLocationConfig (o : Dataplane.AuthOIDC) (provider : OIDCProvider) : AuthOIDC :=
  { providerName := provider.name
    authZConfig := authZConfigOf o.authRequireVariable o.authZProxySetHeaders }

def updateLocationAuthenticationFilter (location : Location) (f : Option AuthenticationFilter) : Location :=
  match f with
  | none => location
  | some f =>
    let location :=
      match f.basic with
      | some b =>
        { location with
          authBasic := some
            { realm := b.realm
              file := generateAuthFileName (generateAuthBasicFileID b.secretNamespace b.secretName) } }
      | none => location
    let location :=
      match f.jwt with
      | some j => { location with authJWT := some (getAuthJWTLocationConfig j) }
      | none => location
    match f.oidc with
    | some o =>
      match o.provider with
      | some p => { location with authOIDC := some (getAuthOIDCLocationConfig o p) }
      | none => location
    | none => location

def updateLocationExternalAuthFilter (location : Location) (f : Option HTTPExternalAuthFilter) : Location :=
  match f with
  | none => location
  | some f =>
    { location with
      authExternalRequest := some
        { internalPath := f.internalPath
          upstreamName := f.upstreamName
          pathPrefix := f.pathPrefix
          allowedRequestHeaders := f.allowedRequestHeaders
          allowedResponseHeaders := f.allowedResponseHeaders
          forwardBody := f.forwardBody } }

def updateLocationGuardrails (location : Location) (g : Option Dataplane.GuardrailsConfig) : Location :=
  match g with
  | none => location
  | some g =>
    { location with
      guardrails := some
        { enabled := g.enabled
          apiURL := g.apiURL
          internalPath := g.internalPath
          apiTokenFile := if g.apiTokenAuthFileID ≠ "" then generateAuthFileName g.apiTokenAuthFileID else "" } }

/-- Mirror targets, first occurrences only (`deduplicateStrings`). The
split percentage variable is left out. -/
def updateLocationMirrorFilters (location : Location) (mirrors : List HTTPRequestMirrorFilter) : Location :=
  { location with mirrorPaths := (location.mirrorPaths ++ mirrors.filterMap (·.target)).eraseDups }

def updateLocationProxySettings (location : Location) (matchRule : MatchRule) (grpc inferenceBackend : Bool) :
    Location :=
  let backends := matchRule.backendGroup.backends
  let proxyHTTPVersion := resolveProxyHTTPVersion backends grpc
  let extraHeaders :=
    if proxyHTTPVersion = "2" then []
    else if grpc then [grpcAuthorityHeader]
    else [httpUpgradeHeader, getConnectionHeader keepAliveCheck backends]
  let externalHostname := ((backends.find? (·.externalHostname ≠ "")).map (·.externalHostname)).getD ""
  let baseProxySetHeaders :=
    filterBaseProxySetHeaders (createBaseProxySetHeaders externalHostname extraHeaders) disableBaseProxySetHeaders
  let proxySetHeaders := generateProxySetHeaders matchRule.filters baseProxySetHeaders
  -- a compressed response cannot be inspected by the guardrails filter
  let proxySetHeaders :=
    if matchRule.guardrails.any (·.enabled) then forceStripAcceptEncoding proxySetHeaders else proxySetHeaders
  { location with
    proxyHTTPVersion
    proxySetHeaders
    responseHeaders := generateResponseHeaders matchRule.filters
    proxyPass := createProxyPass matchRule.backendGroup matchRule.filters.requestURLRewrite
      (generateProtocolString grpc) grpc inferenceBackend location.type
    grpc }

/-- A location gets a match rule's filters and proxying; an invalid filter
turns it into `return 500`, and a redirect into a `return`. -/
def updateLocation (matchRule : MatchRule) (pathRule : PathRule) (location : Location)
    (listenerPort : Int32) : Location :=
  let filters := matchRule.filters
  if filters.invalidFilter then { location with «return» := some { code := 500 } }
  else
    let location := updateLocationMirrorRoute location pathRule.path pathRule.grpc
    let location := updateLocationAuthenticationFilter location filters.authenticationFilter
    let location := updateLocationExternalAuthFilter location filters.externalAuthFilter
    let location := updateLocationGuardrails location matchRule.guardrails
    match filters.requestRedirect with
    | some _ => updateLocationRedirectFilter location filters.requestRedirect listenerPort pathRule
    | none =>
      let location := updateLocationRewriteFilter location filters.requestURLRewrite pathRule
      let location := updateLocationMirrorFilters location filters.requestMirrors
      updateLocationProxySettings keepAliveCheck disableBaseProxySetHeaders location matchRule pathRule.grpc pathRule.hasInferenceBackends

/-! ## The locations of a path rule -/

def updateLocations (matchRule : MatchRule) (pathRule : PathRule) (locations : List Location)
    (listenerPort : Int32) : List Location :=
  locations.map fun loc => updateLocation keepAliveCheck disableBaseProxySetHeaders matchRule pathRule loc listenerPort

/-- Every match rule updates all external locations in turn. -/
def updateExternalLocationsForRule (rule : PathRule) (extLocations : List Location) (port : Int32) :
    List Location :=
  rule.matchRules.foldl (fun locs r => updateLocations keepAliveCheck disableBaseProxySetHeaders r rule locs port) extLocations

/-- `extractEPPConfig`, for a backend whose EndpointPicker reference is set:
the picker's host (`<name>.<namespace>` when the namespace is known) and
its port (0 when unset). -/
def extractEPPConfig (b : Backend) : Option (String × Nat) :=
  match b.endpointPickerConfig with
  | some cfg =>
    match cfg.endpointPickerRef with
    | some ref => some (if cfg.nsName ≠ "" then ref.name ++ "." ++ cfg.nsName else ref.name, ref.port.getD 0)
    | none => none
  | none => none

def setLocationEPPConfig (location : Location) (eppInternalPath eppHost : String) (eppPort : Nat) : Location :=
  { location with eppInternalPath, eppHost, eppPort }

/-- `tempRule`: the match rule with only one of its backends, so that the
proxy pass names that backend's upstream. -/
def singleBackendRule (r : MatchRule) (b : Backend) : MatchRule :=
  { r with backendGroup := { r.backendGroup with backends := [b] } }

def inferenceSplitClientsRewrite (group : BackendGroup) : String :=
  "^ $" ++ createInferenceSplitClientsVariableName (convertStringToSafeVariableName group.name) ++ " last"

/-- The inner loop of the inference branch of `createInternalLocationsForRule`:
per backend a proxy-pass location and, with an EndpointPicker, an EPP
location. A repeated EPP path stops the loop (`skipMatch`), which the
result reports as `none`; otherwise it carries the last EPP path. -/
def internalInferenceBackendLocations (r : MatchRule) (rule : PathRule) (port : Int32)
    (pathRuleIdx matchRuleIdx : Nat) : List (Backend × Nat) → List String → String →
    List Location × List String × Option String
  | [], seen, lastEPP => ([], seen, some lastEPP)
  | (b, backendIdx) :: rest, seen, _ =>
    let intProxyPass := updateLocation keepAliveCheck disableBaseProxySetHeaders (singleBackendRule r b) rule
      (initializeInternalInferenceProxyPassLocation pathRuleIdx matchRuleIdx backendIdx) port
    let intEPP := initializeInternalInferenceEPPLocation b r.backendGroup.source r.backendGroup.ruleIdx
      r.backendGroup.pathRuleIdx
    if intEPP.path ∈ seen then ([], seen, none)
    else
      let eppLocs :=
        match extractEPPConfig b with
        | some (host, eppPort) => [setLocationEPPConfig intEPP intProxyPass.path host eppPort]
        | none => []
      let (locs, seen, lastEPP) :=
        internalInferenceBackendLocations r rule port pathRuleIdx matchRuleIdx rest (intEPP.path :: seen) intEPP.path
      (intProxyPass :: eppLocs ++ locs, seen, lastEPP)

/-- One match rule of the inference branch: its backend locations, and
unless skipped, a split clients location for several backends and the
match that redirects to it (or to the EPP location). -/
def internalInferenceMatchRule (rule : PathRule) (port : Int32) (pathRuleIdx : Nat)
    (acc : List Location × List RouteMatch × List String) (r : MatchRule) (matchRuleIdx : Nat) :
    List Location × List RouteMatch × List String :=
  let (locs, routeMatches, seen) := acc
  let (bLocs, seen, lastEPP) :=
    internalInferenceBackendLocations keepAliveCheck disableBaseProxySetHeaders r rule port pathRuleIdx matchRuleIdx
      r.backendGroup.backends.zipIdx seen ""
  match lastEPP with
  | none => (locs ++ bLocs, routeMatches, seen)
  | some eppPath =>
    if r.backendGroup.backends.length > 1 then
      let sc := initializeInternalInferenceSplitClientsLocation pathRuleIdx matchRuleIdx
      let sc := { sc with rewrites := sc.rewrites ++ [inferenceSplitClientsRewrite r.backendGroup] }
      (locs ++ bLocs ++ [sc], routeMatches ++ [createRouteMatch r.match sc.path], seen)
    else (locs ++ bLocs, routeMatches ++ [createRouteMatch r.match eppPath], seen)

/-- The internal locations of a rule with matches, and the matches the
NJS module redirects by. `HasInferenceBackends` is fixed over the source's
loop, so the two branches are two loops here. -/
def createInternalLocationsForRule (pathRuleIdx : Nat) (rule : PathRule) (port : Int32) :
    List Location × List RouteMatch :=
  if rule.hasInferenceBackends then
    let (locs, routeMatches, _) :=
      rule.matchRules.zipIdx.foldl (fun acc ri => internalInferenceMatchRule keepAliveCheck disableBaseProxySetHeaders rule port pathRuleIdx acc ri.1 ri.2)
        ([], [], [])
    (locs, routeMatches)
  else
    let step := fun (ri : MatchRule × Nat) =>
      let path := initializeInternalMatchLocationPath pathRuleIdx ri.2
      (updateLocation keepAliveCheck disableBaseProxySetHeaders ri.1 rule (createMatchLocation path rule.grpc) port,
        createRouteMatch ri.1.match path)
    ((rule.matchRules.zipIdx.map step).map (·.1), (rule.matchRules.zipIdx.map step).map (·.2))

/-- The backends of one match rule of `createInferenceLocationsForRule`:
proxy-pass locations, and the EndpointPicker settings on an EPP location
(several backends) or on the external locations (one backend). -/
def inferenceBackendLocations (r : MatchRule) (rule : PathRule) (port : Int32) (pathRuleIdx matchRuleIdx : Nat) :
    List (Backend × Nat) → List Location × List Location → List Location × List Location
  | [], acc => acc
  | (b, backendIdx) :: rest, (locs, extLocations) =>
    let intProxyPass := updateLocation keepAliveCheck disableBaseProxySetHeaders (singleBackendRule r b) rule
      (initializeInternalInferenceProxyPassLocation pathRuleIdx matchRuleIdx backendIdx) port
    let acc :=
      match extractEPPConfig b with
      | some (host, eppPort) =>
        if r.backendGroup.backends.length > 1 then
          let intEPP := initializeInternalInferenceEPPLocation b r.backendGroup.source r.backendGroup.ruleIdx
            r.backendGroup.pathRuleIdx
          (locs ++ [intProxyPass, setLocationEPPConfig intEPP intProxyPass.path host eppPort], extLocations)
        else
          (locs ++ [intProxyPass], extLocations.map fun l => setLocationEPPConfig l intProxyPass.path host eppPort)
      | none => (locs ++ [intProxyPass], extLocations)
    inferenceBackendLocations r rule port pathRuleIdx matchRuleIdx rest acc

def createInferenceLocationsForRule (pathRuleIdx : Nat) (rule : PathRule) (extLocations : List Location)
    (port : Int32) : List Location :=
  let (locs, extLocations) :=
    rule.matchRules.zipIdx.foldl (fun (acc : List Location × List Location) (ri : MatchRule × Nat) =>
      let r := ri.1
      let extLocations :=
        if r.backendGroup.backends.length > 1 then
          acc.2.map fun l => { l with rewrites := l.rewrites ++ [inferenceSplitClientsRewrite r.backendGroup],
                                      type := .external }
        else acc.2
      inferenceBackendLocations keepAliveCheck disableBaseProxySetHeaders r rule port pathRuleIdx ri.2 r.backendGroup.backends.zipIdx
        (acc.1, extLocations))
      ([], extLocations)
  locs ++ extLocations

end Update

/-! ## Locations derived from the others -/

/-- `findOIDCProviders`: the providers of all OIDC filters, first of each name. -/
def findOIDCProviders (pathRules : List PathRule) : List OIDCProvider :=
  let all := pathRules.flatMap fun rule => rule.matchRules.filterMap fun r =>
    r.filters.authenticationFilter.bind (·.oidc) |>.bind (·.provider)
  all.foldl (fun seen p => if seen.any (·.name = p.name) then seen else seen ++ [p]) []

/-- `existingExactPathSet`: the paths of every rule but the unslashed prefixes. -/
def existingExactPathSet (pathRules : List PathRule) : List String :=
  (pathRules.filter fun rule => !isNonSlashedPrefixPath rule.pathType rule.path).map (·.path)

def createOIDCCallbackLocation (provider : OIDCProvider) (path : String) : Location :=
  { path := "= " ++ path, type := .external, authOIDC := some { providerName := provider.name } }

/-- The redirect URI (when it is a path) and the logout URIs of a provider. -/
def oidcPaths (provider : OIDCProvider) : List String :=
  (if "/".toList <+: provider.redirectURI.toList then [provider.redirectURI] else []) ++
    provider.logoutURI.toList ++ provider.frontChannelLogoutURI.toList

def createOIDCLocations (pathRules : List PathRule) : List Location :=
  let existingExact := existingExactPathSet pathRules
  let (locs, _) :=
    (findOIDCProviders pathRules).foldl (fun (acc : List Location × List String) provider =>
      (oidcPaths provider).foldl (fun (acc : List Location × List String) path =>
        if path ∈ existingExact ∨ path ∈ acc.2 then acc
        else (acc.1 ++ [createOIDCCallbackLocation provider path], acc.2 ++ [path])) acc)
      ([], [])
  locs

def createDefaultRootLocation : Location :=
  { path := "= /", «return» := some { code := 404 } }

/-- `regexMatchesRoot p` is `regexp2.Compile(p, RE2)` succeeding and
matching `/`. -/
def matchesRootPath (regexMatchesRoot : String → Bool) (rule : PathRule) : Bool :=
  rule.path = "/" || (rule.pathType = .regularExpression && regexMatchesRoot rule.path)

/-- The first location of each key, by a key the location may lack. -/
def uniqueBy (key : Location → Option String) (make : Location → Location) (locations : List Location) :
    List Location :=
  let (result, _) :=
    locations.foldl (fun (acc : List Location × List String) loc =>
      match key loc with
      | some k => if k ∈ acc.2 then acc else (acc.1 ++ [make loc], acc.2 ++ [k])
      | none => acc)
      ([], [])
  result

def extractUniqueJWKSLocations (locations : List Location) : List Location :=
  uniqueBy (fun loc => loc.authJWT.bind (·.remote) |>.map (·.path))
    (fun loc =>
      let remote := (loc.authJWT.bind (·.remote)).getD { uri := "", path := "" }
      { path := remote.path, type := .internal, proxyPass := remote.uri })
    locations

/-- The `auth_request` subrequest location of an ExternalAuth filter: the
subrequest carries the original URI, method and credentials, and the body
only when the filter forwards it. -/
def externalAuthInternalLocation (ar : AuthExternalRequest) : Location :=
  { path := ar.internalPath
    type := .internal
    proxyPass := "http://" ++ ar.upstreamName ++ ar.pathPrefix
    proxySetHeaders :=
      [{ name := "Host", value := "$gw_api_compliant_host" },
       { name := "Path", value := "$request_uri" },
       { name := "Method", value := "$request_method" },
       { name := "Authorization", value := "$http_authorization" }] ++
      ar.allowedRequestHeaders.map fun h => { name := h, value := "$http_" ++ headerToNginxVar h }
    proxyPassRequestBody := if ar.forwardBody then "" else "off"
    proxyPassRequestHeaders := "off" }

def extractExternalAuthInternalLocations (locations : List Location) : List Location :=
  uniqueBy (fun loc => loc.authExternalRequest.map (·.internalPath))
    (fun loc => match loc.authExternalRequest with
      | some ar => externalAuthInternalLocation ar
      | none => { path := "" })
    locations

/-- `strings.TrimRight(s, "/")`. -/
def trimRightSlash (s : String) : String :=
  String.ofList (s.toList.reverse.dropWhile (· = '/')).reverse

/-- The inspection subrequest location of the guardrails filter, for an
`http` API URL; the TLS settings of an `https` one are left out. -/
def extractGuardrailsInternalLocations (locations : List Location) : List Location :=
  uniqueBy (fun loc => (loc.guardrails.filter (·.internalPath ≠ "")).map (·.internalPath))
    (fun loc =>
      let g := loc.guardrails.getD { apiURL := "", internalPath := "", enabled := false }
      { path := g.internalPath, type := .internal, proxyPass := trimRightSlash g.apiURL ++ "/backend/v1/scans" })
    locations

/-! ## The server's locations -/

/-- `httpMatchPairs`, one entry per path rule with matches: the keys
`<serverID>_<pathRuleIdx>` are distinct. -/
abbrev HTTPMatchPairs := List (String × List RouteMatch)

section Create

variable (keepAliveCheck : String → Bool) (disableBaseProxySetHeaders : List String)
  (regexMatchesRoot : String → Bool)

/-- The locations of one path rule: external only, external redirecting
to internal match locations, or the inference chain. -/
def createRuleLocations (serverID : String) (port : Int32) (pts : List (String × PathType))
    (rule : PathRule) (pathRuleIdx : Nat) : List Location × HTTPMatchPairs :=
  let extLocations := initializeExternalLocations rule pts
  if !needsInternalLocationsForMatches rule ∧ !rule.hasInferenceBackends then
    (updateExternalLocationsForRule keepAliveCheck disableBaseProxySetHeaders rule extLocations port, [])
  else if needsInternalLocationsForMatches rule then
    let (internalLocations, routeMatches) := createInternalLocationsForRule keepAliveCheck disableBaseProxySetHeaders pathRuleIdx rule port
    let httpMatchKey := serverID ++ "_" ++ toString pathRuleIdx
    (extLocations.map (fun l => { l with httpMatchKey }) ++ internalLocations,
      if extLocations = [] then [] else [(httpMatchKey, routeMatches)])
  else (createInferenceLocationsForRule keepAliveCheck disableBaseProxySetHeaders pathRuleIdx rule extLocations port, [])

/-- `createLocations`: the locations of a server, its NJS match table, and
whether it serves gRPC. -/
def createLocations (server : VirtualServer) (serverID : String) : List Location × HTTPMatchPairs × Bool :=
  let pts := pathsAndTypes server.pathRules
  let perRule := server.pathRules.zipIdx.map fun ri => createRuleLocations keepAliveCheck disableBaseProxySetHeaders serverID server.port pts ri.1 ri.2
  let locs := (perRule.map (·.1)).flatten ++ createOIDCLocations server.pathRules
  let rootPathExists := server.pathRules.any (matchesRootPath regexMatchesRoot)
  let locs := if rootPathExists then locs else locs ++ [createDefaultRootLocation]
  let locs := locs ++ extractUniqueJWKSLocations locs
  let locs := locs ++ extractExternalAuthInternalLocations locs
  let locs := locs ++ extractGuardrailsInternalLocations locs
  (locs, (perRule.map (·.2)).flatten, server.pathRules.any (·.grpc))

end Create

end GatewayFabric.Config
