/-
How NGINX reads the body of a `map` block (`ngx_http_map` and
`ngx_stream_map`), statement by statement: `hostnames` and `volatile` alone
set flags; every other statement is a key and a value. The key `include`
reads a file and the key `default` sets the value for unmatched input, at
most once. A key starting with `~` is a regular expression. A leading `\`
is dropped from any other key, and such a key given twice is refused.
-/
import GatewayFabric.Nginx.Lexer

namespace GatewayFabric.Nginx

/-- What a `map` block has read. -/
structure MapBlock where
  hostnames : Bool := false
  volatile : Bool := false
  default : Option String := none
  includes : List String := []
  entries : List (String × String) := []
  deriving Repr, DecidableEq

inductive MapError where
  | invalidParameters (n : Nat)
  | duplicateDefault
  | conflictingParameter (key : String)
  | notAMap
  | unexpectedEnd
  deriving Repr, DecidableEq

/-- A key as the hash stores it: a leading `\` escapes a keyword. -/
def mapKey (key : String) : String :=
  match key.toList with
  | '\\' :: rest => String.ofList rest
  | _ => key

def isRegexKey (key : String) : Bool := key.toList.head? = some '~'

def readMapStatement (m : MapBlock) : Stmt → Except MapError MapBlock
  | .directive ["hostnames"] => .ok { m with hostnames := true }
  | .directive ["volatile"] => .ok { m with volatile := true }
  | .directive [key, value] =>
    if key = "include" then .ok { m with includes := m.includes ++ [value] }
    else if key = "default" then
      if m.default.isSome then .error .duplicateDefault else .ok { m with default := some value }
    else if isRegexKey key then .ok { m with entries := m.entries ++ [(key, value)] }
    else if m.entries.any (·.1 = mapKey key) then .error (.conflictingParameter (mapKey key))
    else .ok { m with entries := m.entries ++ [(mapKey key, value)] }
  | .directive args => .error (.invalidParameters args.length)
  | _ => .error .notAMap

/-- The `map` blocks of a text, each with its source and variable. -/
def readMapsFrom : Option (String × String × MapBlock) → List Stmt →
    Except MapError (List (String × String × MapBlock))
  | none, [] => .ok []
  | some _, [] => .error .unexpectedEnd
  | none, .blockStart ["map", source, var] :: rest => readMapsFrom (some (source, var, {})) rest
  | none, _ :: _ => .error .notAMap
  | some (source, var, m), .blockEnd :: rest => (readMapsFrom none rest).map ((source, var, m) :: ·)
  | some (source, var, m), st :: rest =>
    match readMapStatement m st with
    | .ok m' => readMapsFrom (some (source, var, m')) rest
    | .error e => .error e

def readMaps (stmts : List Stmt) : Except MapError (List (String × String × MapBlock)) :=
  readMapsFrom none stmts

/-! ## Plain keys -/

/-- A key NGINX stores as it is written: no keyword, no regular expression,
no escape. -/
def PlainKey (key : String) : Prop :=
  key ≠ "include" ∧ key ≠ "default" ∧ key.toList.head? ≠ some '~' ∧ key.toList.head? ≠ some '\\'

theorem mapKey_of_plain {key : String} (h : PlainKey key) : mapKey key = key := by
  unfold mapKey
  split
  · next rest hk =>
    exact absurd (by rw [hk]; rfl) h.2.2.2
  · rfl

/-- A plain key not read before is stored with its value. -/
theorem readMapStatement_plain {m : MapBlock} {key value : String} (h : PlainKey key)
    (hfresh : ∀ e ∈ m.entries, e.1 ≠ key) :
    readMapStatement m (.directive [key, value]) = .ok { m with entries := m.entries ++ [(key, value)] } := by
  have hkey := mapKey_of_plain h
  obtain ⟨hinc, hdef, hre, -⟩ := h
  have hany : m.entries.any (·.1 = key) = false := by
    simp only [List.any_eq_false, decide_eq_true_eq]
    exact fun e he => hfresh e he
  simp only [readMapStatement, hinc, hdef, if_false, isRegexKey, hre, decide_false, Bool.false_eq_true, hkey,
    hany]

end GatewayFabric.Nginx
