/-
How NGINX picks the server block of a request by its host name
(`ngx_http_find_virtual_server`), and which entry of a `map` with
`hostnames` a name takes (`ngx_http_map_find`, as `ngx_stream_map` uses it):
the name itself, else the longest name with a leading wildcard `*.suffix`
whose suffix ends the name, else the first regular expression that matches
it, in the order they were written; else the default server, or the map's
default value.

Regular expressions are given by whether they match (`regexMatches`); the
generator writes one, `~^`, which matches every name. Names that only end in
a wildcard (`www.example.*`) are not generated and are left out.
-/
import Mathlib.Data.List.MinMax
import GatewayFabric.Graph.Hostnames
import GatewayFabric.Nginx.Map
import GatewayFabric.Dataplane.Types

namespace GatewayFabric.Nginx

open GatewayFabric.Graph Dataplane

/-- A name written with a leading wildcard: `*.example.com`. -/
def isWildcardName (n : String) : Bool := hasPrefix n "*."

/-- A regular expression, written after `~`. -/
def isRegexName (n : String) : Bool := hasPrefix n "~"

/-- An exact name: neither a wildcard nor a regular expression. -/
def isExactName (n : String) : Bool := !isWildcardName n && !isRegexName n

/-- `*.suffix` matches the names that end in `.suffix`. -/
def wildcardMatches (n host : String) : Bool := isWildcardName n && hasSuffix host (trimPrefix n "*")

/-- The regular expressions the generator writes as names: `~^`, which
matches every name. -/
def generatedRegexMatches (re _host : String) : Bool := re = wildcardHostname

section Select

variable (regexMatches : String → String → Bool)

/-- The name among `names` that `host` is matched to, if any. -/
def matchHostname (names : List String) (host : String) : Option String :=
  if names.any (fun n => isExactName n && n = host) then some host
  else
    match (names.filter (wildcardMatches · host)).argmax String.length with
    | some n => some n
    | none => names.find? fun n => isRegexName n && regexMatches n host

/-- The server block of one port that serves a request for `host`: the
first server of the matched name, else the default server. -/
def selectServer (servers : List VirtualServer) (host : String) : Option VirtualServer :=
  let named := servers.filter (!·.isDefault)
  match matchHostname regexMatches (named.map (·.hostname)) host with
  | some n => named.find? (·.hostname = n)
  | none => servers.find? (·.isDefault)

/-- The value a `map` with `hostnames` gives `host`. -/
def mapValue (b : MapBlock) (host : String) : Option String :=
  match matchHostname regexMatches (b.entries.map (·.1)) host with
  | some k => b.entries.lookup k
  | none => b.default

variable {regexMatches}

end Select

end GatewayFabric.Nginx
