/-
The URL rewrite and request redirect filters of `nginx/config/servers.go`:
the `rewrite` directives and the `return` a location gets from an
`HTTPURLRewriteFilter` or an `HTTPRequestRedirectFilter`.

`strings.ReplaceAll` and `strings.HasSuffix` are written over the
characters, so that the model evaluates in the kernel.
-/
import GatewayFabric.Config.Http

namespace GatewayFabric.Config

open Dataplane

/-- `strings.HasSuffix(s, "/")`. -/
def endsWithSlash (s : String) : Bool :=
  s.toList.getLast? = some '/'

/-- `strings.ReplaceAll(s, "$", "\\$")`. -/
def escapeDollar (s : String) : String :=
  String.ofList (s.toList.flatMap fun c => if c = '$' then ['\\', '$'] else [c])

/-- The rewrite a filter's path modifier becomes: `^ <path>` for a full
path, a prefix-capturing regular expression and its replacement for a
prefix, or `""` when a prefix replacement meets a path that is not a
prefix match. -/
def createMainRewriteForFilters (pathModifier : HTTPPathModifier) (pathRule : PathRule) : String :=
  match pathModifier.type with
  | .replaceFullPath => "^ " ++ pathModifier.replacement
  | .replacePrefixMatch =>
    if pathRule.pathType ≠ .pathPrefix then ""
    else
      let filterPrefix := if pathModifier.replacement = "" then "/" else pathModifier.replacement
      let escapedPath := escapeDollar pathRule.path
      -- a slashed replacement on an unslashed prefix requires, without capturing, the `/`
      let regex :=
        if endsWithSlash filterPrefix ∧ ¬endsWithSlash pathRule.path then
          "^" ++ escapedPath ++ "(?:/([^?]*))?"
        else "^" ++ escapedPath ++ "([^?]*)?"
      -- a slashed prefix is not captured, so an unslashed replacement gets it back
      let replacement :=
        if endsWithSlash pathRule.path ∧ ¬endsWithSlash filterPrefix then filterPrefix ++ "/$1?$args?"
        else filterPrefix ++ "$1?$args?"
      regex ++ " " ++ replacement

/-- `rewriteConfig`. -/
structure RewriteConfig where
  internalRewrite : String := ""
  mainRewrite : String := ""
  deriving Repr, DecidableEq

def createRewritesValForRewriteFilter (filter : Option HTTPURLRewriteFilter) (pathRule : PathRule) :
    Option RewriteConfig :=
  match filter with
  | none => none
  | some f =>
    match f.path with
    | none => some {}
    | some p =>
      let mainRewrite := createMainRewriteForFilters p pathRule
      if mainRewrite = "" then none
      else some { internalRewrite := "^ $request_uri", mainRewrite := mainRewrite ++ " break" }

/-- `fmt.Sprintf("%d", port)` of an `int32`. -/
def portString (port : Int32) : String := toString port.toInt

def createReturnAndRewriteConfigForRedirectFilter (filter : Option HTTPRequestRedirectFilter)
    (listenerPort : Int32) (pathRule : PathRule) : Option Return × Option RewriteConfig :=
  match filter with
  | none => (none, none)
  | some f =>
    let hostname := f.hostname.getD "$host"
    let code := f.statusCode.getD 302
    let port := f.port.getD listenerPort
    let scheme := f.scheme.getD "$scheme"
    let hostnamePort :=
      match f.scheme with
      | none => hostname ++ ":" ++ portString port
      | some s =>
        if (port = 80 ∧ s = "http") ∨ (port = 443 ∧ s = "https") then hostname
        else if f.port.isNone ∧ (s = "http" ∨ s = "https") then hostname
        else hostname ++ ":" ++ portString port
    match f.path with
    | none => (some { code, body := scheme ++ "://" ++ hostnamePort ++ "$request_uri" }, some {})
    | some p =>
      let mainRewrite := createMainRewriteForFilters p pathRule
      if mainRewrite = "" then (none, none)
      else (some { code, body := scheme ++ "://" ++ hostnamePort ++ "$uri$is_args$args" },
        some { mainRewrite })

/-- The source reads the rewrite config's `MainRewrite` directly; it is
`nil` only for a prefix replacement on a path that is not a prefix match,
which the Gateway API's own validation of an `HTTPRoute` rejects, and the
model then adds no rewrite. -/
def updateLocationRedirectFilter (location : Location) (redirectFilter : Option HTTPRequestRedirectFilter)
    (listenerPort : Int32) (pathRule : PathRule) : Location :=
  let (ret, rewrite) := createReturnAndRewriteConfigForRedirectFilter redirectFilter listenerPort pathRule
  let location :=
    match rewrite with
    | some rw => if rw.mainRewrite ≠ "" then { location with rewrites := location.rewrites ++ [rw.mainRewrite] }
      else location
    | none => location
  { location with «return» := ret }

def updateLocationRewriteFilter (location : Location) (rewriteFilter : Option HTTPURLRewriteFilter)
    (pathRule : PathRule) : Location :=
  match createRewritesValForRewriteFilter rewriteFilter pathRule with
  | some rw =>
    let location :=
      if location.type = .internal ∧ rw.internalRewrite ≠ "" then
        { location with rewrites := location.rewrites ++ [rw.internalRewrite] }
      else location
    if rw.mainRewrite ≠ "" then { location with rewrites := location.rewrites ++ [rw.mainRewrite] }
    else location
  | none => location

end GatewayFabric.Config
