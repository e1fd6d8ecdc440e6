/-
The NGINX-facing HTTP configuration of `nginx/config/http/config.go`, and
the part of `serversTemplateText` (`servers_template.go`) that writes one
`location` block.

The template's text is kept directive by directive: every directive is
written on its own line, indented, in the template's order, with the
template's quoting (`auth_basic "<realm>"`, `return <code> "<body>"`,
`proxy_set_header <name> "<value>"`, ...) and its conditions. Left out are
the directives the modelled functions never set: policy includes, CORS,
`client_max_body_size`, upstream TLS verification and the guardrails
backend variable.
-/
import GatewayFabric.Dataplane.Types

namespace GatewayFabric.Config

inductive LocationType where
  | internal
  | external
  | redirect
  | inferenceExternal
  | inferenceInternal
  deriving Repr, DecidableEq

/-- The `LocationType` string constants. -/
def LocationType.str : LocationType → String
  | .internal => "internal"
  | .external => "external"
  | .redirect => "redirect"
  | .inferenceExternal => "inference-external"
  | .inferenceInternal => "inference-internal"

/-- The template's `contains $l.Type substr` (`strings.Contains`). -/
def LocationType.contains (t : LocationType) (substr : String) : Bool :=
  decide (substr.toList <:+: t.str.toList)

structure Header where
  name : String
  value : String
  deriving Repr, DecidableEq

structure ResponseHeaders where
  add : List Header := []
  set : List Header := []
  remove : List String := []
  deriving Repr, DecidableEq

structure Return where
  body : String := ""
  code : Nat
  deriving Repr, DecidableEq

structure AuthBasic where
  realm : String
  file : String
  deriving Repr, DecidableEq

structure AuthZConfig where
  authRequire : String := ""
  proxySetHeaders : List Header := []
  deriving Repr, DecidableEq

structure AuthOIDC where
  authZConfig : Option AuthZConfig := none
  providerName : String
  deriving Repr, DecidableEq

structure AuthJWTRemote where
  uri : String
  path : String
  deriving Repr, DecidableEq

structure AuthJWT where
  remote : Option AuthJWTRemote := none
  authZConfig : Option AuthZConfig := none
  realm : String
  file : String := ""
  deriving Repr, DecidableEq

structure AuthExternalRequest where
  internalPath : String
  upstreamName : String
  pathPrefix : String := ""
  allowedRequestHeaders : List String := []
  allowedResponseHeaders : List String := []
  forwardBody : Bool := false
  deriving Repr, DecidableEq

structure GuardrailsConfig where
  apiURL : String
  apiTokenFile : String := ""
  internalPath : String
  enabled : Bool
  deriving Repr, DecidableEq

/-- `http.Location`. -/
structure Location where
  «return» : Option Return := none
  authExternalRequest : Option AuthExternalRequest := none
  authJWT : Option AuthJWT := none
  authBasic : Option AuthBasic := none
  guardrails : Option GuardrailsConfig := none
  mirrorSplitClientsVariableName : String := ""
  eppInternalPath : String := ""
  eppHost : String := ""
  type : LocationType := .external
  path : String
  httpMatchKey : String := ""
  proxyPass : String := ""
  authOIDC : Option AuthOIDC := none
  responseHeaders : ResponseHeaders := {}
  proxySetHeaders : List Header := []
  rewrites : List String := []
  mirrorPaths : List String := []
  eppPort : Nat := 0
  proxyHTTPVersion : String := ""
  proxyPassRequestBody : String := ""
  proxyPassRequestHeaders : String := ""
  grpc : Bool := false
  deriving Repr, DecidableEq

/-! ## The template

The template's output is built as characters: a directive line is its
words' characters joined by blanks, so that the text the lexer reads is
computed word by word.
-/

/-- One directive line of a location: its words, then `;`. -/
def directiveLine (words : List String) : List Char :=
  "\n        ".toList ++ [' '].intercalate (words.map String.toList) ++ [';']

def quoted (s : String) : String := "\"" ++ s ++ "\""

/-- `headerToNginxVar`: `-` to `_`, lowered. -/
def headerToNginxVar (h : String) : String :=
  String.ofList (h.toList.map fun c => if c = '-' then '_' else c.toLower)

def extAuthResponseVar (h : String) : String := "$ext_auth_response_" ++ headerToNginxVar h
def upstreamHTTPVar (h : String) : String := "$upstream_http_" ++ headerToNginxVar h

def authZLines (cfg : AuthZConfig) : List (List Char) :=
  (if cfg.authRequire ≠ "" then [directiveLine ["auth_jwt_require", cfg.authRequire]] else []) ++
  cfg.proxySetHeaders.map fun h => directiveLine ["proxy_set_header", h.name, h.value]

def authLines (l : Location) : List (List Char) :=
  (match l.authBasic with
    | some b => [directiveLine ["auth_basic", quoted b.realm], directiveLine ["auth_basic_user_file", b.file]]
    | none => []) ++
  (match l.guardrails with
    | some g =>
      [directiveLine ["guardrails_filter", if g.enabled then "on" else "off"]] ++
      (if g.apiTokenFile ≠ "" then [directiveLine ["guardrails_api_token_file", g.apiTokenFile]] else []) ++
      (if g.internalPath ≠ "" then [directiveLine ["guardrails_internal_uri", g.internalPath]] else [])
    | none => []) ++
  (match l.authOIDC with
    | some o =>
      if o.providerName ≠ "" then
        [directiveLine ["auth_oidc", o.providerName]] ++
        (match o.authZConfig with
          | some z => directiveLine ["auth_jwt", quoted "", "token=$oidc_id_token"] :: authZLines z
          | none => [])
      else []
    | none => []) ++
  (match l.authJWT with
    | some j =>
      [directiveLine ["auth_jwt", quoted j.realm]] ++
      (match j.remote with
        | some r => [directiveLine ["auth_jwt_key_request", r.path]]
        | none => if j.file ≠ "" then [directiveLine ["auth_jwt_key_file", j.file]] else []) ++
      (match j.authZConfig with
        | some z => authZLines z
        | none => [])
    | none => []) ++
  (match l.authExternalRequest with
    | some a =>
      if a.internalPath ≠ "" then
        directiveLine ["auth_request", a.internalPath] ::
        a.allowedResponseHeaders.flatMap fun h =>
          [directiveLine ["auth_request_set", extAuthResponseVar h, upstreamHTTPVar h],
           directiveLine ["proxy_set_header", h, extAuthResponseVar h]]
      else []
    | none => [])

def proxyLines (l : Location) : List (List Char) :=
  let proxyOrGRPC := if l.grpc then "grpc" else "proxy"
  (if l.proxyHTTPVersion ≠ "" then [directiveLine ["proxy_http_version", l.proxyHTTPVersion]] else []) ++
  if l.proxyPass ≠ "" then
    l.proxySetHeaders.map (fun h => directiveLine [proxyOrGRPC ++ "_set_header", h.name, quoted h.value]) ++
    [directiveLine [proxyOrGRPC ++ "_pass", l.proxyPass]] ++
    (if l.proxyPassRequestBody ≠ "" then
      directiveLine ["proxy_pass_request_body", l.proxyPassRequestBody] ::
      (if l.proxyPassRequestBody = "off" then [directiveLine ["proxy_set_header", "Content-Length", quoted ""]] else [])
    else []) ++
    (if l.proxyPassRequestHeaders ≠ "" then [directiveLine ["proxy_pass_request_headers", l.proxyPassRequestHeaders]]
    else []) ++
    l.responseHeaders.add.map (fun h => directiveLine ["add_header", h.name, quoted h.value, "always"]) ++
    l.responseHeaders.set.flatMap (fun h =>
      [directiveLine ["proxy_hide_header", h.name], directiveLine ["add_header", h.name, quoted h.value, "always"]]) ++
    l.responseHeaders.remove.map (fun h => directiveLine ["proxy_hide_header", h])
  else []

/-- The mirror sampling guard: `if ($<var> = "") { return 204; }`. -/
def mirrorGuard (var : String) : List Char :=
  "\n        if ($".toList ++ var.toList ++ " = \"\") \x7b".toList ++ directiveLine ["return", "204"] ++
    "\n        \x7d".toList

/-- The directives of one location block, in the template's order. -/
def locationBody (l : Location) : List (List Char) :=
  (if l.type.contains "internal" then [directiveLine ["internal"]] else []) ++
  (if l.mirrorSplitClientsVariableName ≠ "" then [mirrorGuard l.mirrorSplitClientsVariableName] else []) ++
  authLines l ++
  l.rewrites.map (fun r => directiveLine ["rewrite", r]) ++
  l.mirrorPaths.map (fun m => directiveLine ["mirror", m]) ++
  (match l.return with
    | some r => [directiveLine ["return", toString r.code, quoted r.body]]
    | none => []) ++
  (if l.type = .redirect then
    [directiveLine ["set", "$match_key", l.httpMatchKey], directiveLine ["js_content", "httpmatches.redirect"]]
  else []) ++
  (if l.type.contains "inference" then
    [directiveLine ["js_var", "$inference_workload_endpoint"],
     directiveLine ["set", "$epp_internal_path", l.eppInternalPath],
     directiveLine ["set", "$epp_host", l.eppHost],
     directiveLine ["set", "$epp_port", toString l.eppPort],
     directiveLine ["js_content", "epp.getEndpoint"]]
  else []) ++
  (if l.grpc then [directiveLine ["include", "/etc/nginx/grpc-error-pages.conf"]] else []) ++
  proxyLines l

/-- The characters of `location {{ $l.Path }} { ... }` as the template writes it. -/
def locationText (l : Location) : List Char :=
  "\n    location ".toList ++ l.path.toList ++ " \x7b".toList ++ (locationBody l).flatten ++ "\n    \x7d".toList

def renderLocation (l : Location) : String := String.ofList (locationText l)

end GatewayFabric.Config
