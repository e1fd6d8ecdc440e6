/-
The validation of an HTTPRoute rule's request redirect and URL rewrite
filters (`validateFilterRedirect`, `validateFilterRewrite` in
`state/graph/httproute.go`): each field is checked with the NGINX-side
validator of `Validation`, and every failed check is a field error at the
field's path.

A filter is taken in its dataplane form: the Gateway API filter has the
same fields, and the dataplane conversion copies them. The Gateway API path
modifier's type is one of its two values here, so the source's error for
an unknown type is not reachable.
-/
import GatewayFabric.Dataplane.Types

namespace GatewayFabric.Graph

open Dataplane Validation

/-- A Kubernetes `field.Error`, by its type: the field's path and the
detail; a value the validator does not support comes with the supported
ones. -/
inductive FieldError where
  | required (field detail : String)
  | invalid (field : String) (err : ValidationError)
  | notSupported (field value : String) (supported : List String)
  | forbidden (field detail : String)
  | tooMany (field : String) (actual limit : Nat)
  | notFound (field value : String)
  deriving Repr, DecidableEq

/-- `field.Path.Child`. -/
def child (path name : String) : String := path ++ "." ++ name

/-- `field.Path.Index`. -/
def index (path : String) (i : Nat) : String := path ++ "[" ++ toString i ++ "]"

/-- An `Except` from a validator as the field errors it makes. -/
def invalidIfError (field : String) : Except ValidationError Unit → List FieldError
  | .ok () => []
  | .error err => [.invalid field err]

def validateFilterRedirect (redirect : Option HTTPRequestRedirectFilter) (filterPath : String) :
    List FieldError :=
  let redirectPath := child filterPath "requestRedirect"
  match redirect with
  | none => [.required redirectPath "requestRedirect cannot be nil"]
  | some r =>
    (match r.scheme with
      | some scheme =>
        match validateRedirectScheme scheme with
        | (true, _) => []
        | (false, supported) => [.notSupported (child redirectPath "scheme") scheme supported]
      | none => []) ++
    (match r.hostname with
      | some h => invalidIfError (child redirectPath "hostname") (validateHostname h)
      | none => []) ++
    (match r.port with
      | some p => invalidIfError (child redirectPath "port") (validateRedirectPort p)
      | none => []) ++
    (match r.path with
      | some p => invalidIfError (child redirectPath "path") (validatePath p.replacement)
      | none => [])

def validateFilterRewrite (rewrite : Option HTTPURLRewriteFilter) (filterPath : String) : List FieldError :=
  let rewritePath := child filterPath "urlRewrite"
  match rewrite with
  | none => [.required rewritePath "urlRewrite cannot be nil"]
  | some r =>
    (match r.hostname with
      | some h => invalidIfError (child rewritePath "hostname") (validateHostname h)
      | none => []) ++
    (match r.path with
      | some p => invalidIfError (child rewritePath "path") (validatePath p.replacement)
      | none => [])

end GatewayFabric.Graph
