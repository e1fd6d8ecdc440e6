/-
The `rewrite` directive of NGINX's rewrite module. Its regular expression
is matched by PCRE against the request's URI; on a match the whole URI is
replaced by the replacement, in which `$1` to `$9` are the captures of the
match and `$name` or `${name}` the value of a variable. The first `?` of the
replacement starts the new arguments, to which the request's arguments are
appended after a `&`; a replacement that ends in `?` drops them, and one
without arguments keeps them. An empty URI is an internal error, and the
flags `break` and `last` end the location's rewrites.

The replacement is compiled as `ngx_http_script_compile` compiles it, one
character at a time, into the codes the rewrite runs; text without `$` and
`?` compiles to copies of its characters (`run_step_plain`).
-/
import Mathlib.Data.List.TakeDrop
import GatewayFabric.Lib.Pcre

namespace GatewayFabric.Nginx

open Backtrack Runs

/-- The codes of a compiled replacement. -/
inductive Code where
  | copy (c : Char)
  | capture (n : Nat)
  | var (name : String)
  /-- the start of the new arguments -/
  | args
  deriving Repr, DecidableEq

/-- A character of a variable's name. -/
def isNameChar (c : Char) : Bool :=
  ('A' ≤ c && c ≤ 'Z') || ('a' ≤ c && c ≤ 'z') || ('0' ≤ c && c ≤ '9') || c = '_'

/-- Where the compiler is in the replacement. -/
inductive ScriptMode where
  | text
  /-- after `$` -/
  | dollar
  /-- in a variable's name, after `${` or after `$` -/
  | name (bracket : Bool) (acc : List Char)
  deriving Repr, DecidableEq

/-- The compiler's state: the codes so far, the mode, and whether a `?`
still starts the arguments. -/
structure Script where
  codes : List Code := []
  mode : ScriptMode := .text
  compileArgs : Bool := true
  deriving Repr, DecidableEq

namespace Script

def emit (s : Script) (c : Code) : Script := { s with codes := s.codes ++ [c] }

/-- A character of the replacement's text. -/
def text (s : Script) (c : Char) : Script :=
  if c = '$' then { s with mode := .dollar }
  else if c = '?' ∧ s.compileArgs then { s.emit .args with compileArgs := false }
  else s.emit (.copy c)

def step (s : Script) (c : Char) : Option Script :=
  match s.mode with
  | .text => some (s.text c)
  | .dollar =>
    if '1' ≤ c ∧ c ≤ '9' then some { s.emit (.capture (c.toNat - '0'.toNat)) with mode := .text }
    else if c = '{' then some { s with mode := .name true [] }
    else if isNameChar c then some { s with mode := .name false [c] }
    else none
  | .name true acc =>
    if c = '}' then
      if acc = [] then none else some { s.emit (.var (String.ofList acc)) with mode := .text }
    else if isNameChar c then some { s with mode := .name true (acc ++ [c]) }
    else none
  | .name false acc =>
    if isNameChar c then some { s with mode := .name false (acc ++ [c]) }
    else some ({ s.emit (.var (String.ofList acc)) with mode := .text }.text c)

/-- The end of the replacement: no `$` or `${` left open. -/
def finish (s : Script) : Option (List Code) :=
  match s.mode with
  | .text => some s.codes
  | .name false acc => some (s.emit (.var (String.ofList acc))).codes
  | _ => none

end Script

/-- The codes of a replacement, if it compiles. -/
def compile (replacement : List Char) : Option (List Code) :=
  (run Script.step {} replacement).bind Script.finish

/-- The URI and the arguments of a request. -/
structure Request where
  uri : String
  args : String
  deriving Repr, DecidableEq

inductive Flag where
  | none
  | last
  | «break»
  deriving Repr, DecidableEq

/-- A `rewrite` as NGINX compiles it. -/
structure Rewrite where
  regex : Re Char
  codes : List Code
  /-- the replacement does not end in `?` -/
  addArgs : Bool
  flag : Flag

/-- A replacement that makes the rewrite a redirect. -/
def isRedirect (replacement : String) : Bool :=
  "http://".toList.isPrefixOf replacement.toList || "https://".toList.isPrefixOf replacement.toList ||
    "$scheme".toList.isPrefixOf replacement.toList

/-- The rewrite of an expression, a replacement and a flag: the expression
must parse and the replacement compile, without its last `?`. Redirects are
not modelled and refused. -/
def rewriteOf (regex replacement : String) (flag : Flag) : Option Rewrite :=
  if isRedirect replacement then none
  else
    let (body, addArgs) :=
      if replacement.toList.getLast? = some '?' then (replacement.toList.dropLast, false)
      else (replacement.toList, true)
    (Pcre.parse regex).bind fun re => (compile body).map fun codes => { regex := re, codes, addArgs, flag }

/-- The directive of the words of a `rewrite` line. -/
def readRewrite : List String → Option Rewrite
  | ["rewrite", regex, replacement] => rewriteOf regex replacement .none
  | ["rewrite", regex, replacement, "last"] => rewriteOf regex replacement .last
  | ["rewrite", regex, replacement, "break"] => rewriteOf regex replacement .break
  | _ => none

/-- The value of a variable at a rewrite: the request's own `uri` and
`args`, any other from `vars`. -/
def varValue (vars : String → String) (req : Request) (name : String) : String :=
  if name = "uri" then req.uri else if name = "args" then req.args else vars name

/-- What a code writes, after the match `t`. -/
def Code.value (t : Thread Char) (vars : String → String) (req : Request) : Code → String
  | .copy c => String.singleton c
  | .capture n => String.ofList ((t.capture n).getD [])
  | .var name => varValue vars req name
  | .args => ""

/-- What the codes write: the URI, and the arguments after the code that
starts them. -/
def write (value : Code → String) (codes : List Code) : String × Option String :=
  let (uri, rest) := codes.span (· != .args)
  (String.join (uri.map value), if rest = [] then none else some (String.join (rest.tail.map value)))

/-- The request after a rewrite whose expression matched with `t`. -/
def Rewrite.result (d : Rewrite) (t : Thread Char) (vars : String → String) (req : Request) :
    Except Nat Request :=
  let (uri, newArgs) := write (Code.value t vars req) d.codes
  if uri = "" then .error 500
  else
    match newArgs with
    | some a => .ok { uri, args := if d.addArgs ∧ req.args ≠ "" then a ++ "&" ++ req.args else a }
    | none => .ok { uri, args := if d.addArgs then req.args else "" }

/-- One rewrite; none when its expression does not match the URI. -/
def Rewrite.apply (d : Rewrite) (vars : String → String) (req : Request) : Option (Except Nat Request) :=
  (Re.search d.regex req.uri.toList).map fun t => d.result t vars req

/-- A location's rewrites, in order, until one with a flag matches. -/
def applyRewrites (vars : String → String) : List Rewrite → Request → Except Nat Request
  | [], req => .ok req
  | d :: ds, req =>
    match d.apply vars req with
    | none => applyRewrites vars ds req
    | some (.error e) => .error e
    | some (.ok req') => if d.flag = .none then applyRewrites vars ds req' else .ok req'

/-! ## Plain text and the arguments -/

/-- Text without `$` and `?` compiles to copies of its characters. -/
theorem run_step_plain {w : List Char} (hw : ∀ c ∈ w, c ≠ '$' ∧ c ≠ '?') :
    ∀ (codes : List Code) (compileArgs : Bool),
      run Script.step ⟨codes, .text, compileArgs⟩ w = some ⟨codes ++ w.map .copy, .text, compileArgs⟩ := by
  induction w with
  | nil => intro codes compileArgs; simp
  | cons c w ih =>
    intro codes compileArgs
    have hc := hw c List.mem_cons_self
    have hstep : Script.step ⟨codes, .text, compileArgs⟩ c = some ⟨codes ++ [.copy c], .text, compileArgs⟩ := by
      simp [Script.step, Script.text, Script.emit, hc.1, hc.2]
    rw [run_cons, hstep, Option.bind_some, ih (fun d hd => hw d (List.mem_cons_of_mem c hd))]
    simp

/-- Codes with one start of the arguments write the URI before it and the
arguments after it. -/
theorem write_args {value : Code → String} {pre : List Code} (hpre : .args ∉ pre) (post : List Code) :
    write value (pre ++ .args :: post) = (String.join (pre.map value), some (String.join (post.map value))) := by
  have hall : ∀ c ∈ pre, (c != Code.args) = true := by
    intro c hc
    have hne : c ≠ .args := fun h => hpre (h ▸ hc)
    simpa using hne
  have hspan : (pre ++ .args :: post).span (· != .args) = (pre, .args :: post) := by
    rw [List.span_eq_takeWhile_dropWhile, List.takeWhile_append_of_pos hall, List.dropWhile_append_of_pos hall]
    simp
  unfold write
  rw [hspan]
  simp

end GatewayFabric.Nginx
