/-
The NGINX-side field validators of `validation/common.go`: the formats a
path, a quoted string or a header name must have before it is written
into a generated configuration.

Each regular expression of the source is a recursive predicate over the
characters, read off the expression: `pathFmt` (`/[^\s{};]*`),
`escapedStringsFmt` (`([^"\\]|\\.)*`) and `escapedStringsNoVarExpansionFmt`
(`([^"$\\]|\\[^$])*`), the NGINX variable format and the Kubernetes HTTP
header name format (`[-A-Za-z0-9]+`). `\s` and `$` are those of the
.NET-style `regexp2` engine `pathRegexp` is compiled with, whose `$` also
matches before a final line break. Compiling a regular
expression with `regexp2` (`validatePathInRegexMatch`) is a parameter.
`regexp2`'s own match errors come only from a match timeout, which these
expressions do not set, so that branch is left out.
-/
import GatewayFabric.Nginx.Lexer

namespace GatewayFabric.Validation

/-- The errors the validators return: a fixed text (`errors.New`), a
format error (`k8svalidation.RegexError(msg, fmt, examples...)`), the
length error of `k8svalidation.MaxLenError`, or a regular expression
`regexp2` does not compile. -/
inductive ValidationError where
  | message (msg : String)
  | regex (msg fmt : String) (examples : List String)
  | maxLen (n : Nat)
  | invalidRegex (path : String)
  deriving Repr, DecidableEq

/-! ## Formats -/

/-- `\s` of `regexp2` without `ECMAScript`: `[\f\n\r\t\v\x85\p{Z}]`. -/
def isRegexSpace (c : Char) : Bool :=
  c = '\t' || c = '\n' || c = '\x0B' || c = '\x0C' || c = '\r' || c = ' ' ||
  c = '\x85' || c = '\xA0' || c = '\u1680' || ('\u2000' ≤ c && c ≤ '\u200A') ||
  c = '\u2028' || c = '\u2029' || c = '\u202F' || c = '\u205F' || c = '\u3000'

/-- `[^\s{};]`. -/
def isPathChar (c : Char) : Bool :=
  !isRegexSpace c && c ≠ '{' && c ≠ '}' && c ≠ ';'

/-- `^/[^\s{};]*$` as `regexp2` matches it without options, where `$` also
matches before a final `\n`. -/
def matchesPathFmt : List Char → Bool
  | '/' :: rest => rest.all isPathChar || (rest.getLast? == some '\n' && rest.dropLast.all isPathChar)
  | _ => false

/-- What the path format admits: `/` and path characters, with at most a
final `\n`. -/
theorem exists_of_matchesPathFmt {s : List Char} (h : matchesPathFmt s) :
    ∃ body, body.all isPathChar ∧ (s = '/' :: body ∨ s = '/' :: body ++ ['\n']) := by
  obtain _ | ⟨c, rest⟩ := s
  · simp [matchesPathFmt] at h
  by_cases hc : c = '/'
  · subst hc
    simp only [matchesPathFmt, Bool.or_eq_true, Bool.and_eq_true, beq_iff_eq] at h
    rcases h with h | ⟨hlast, hbody⟩
    · exact ⟨rest, h, .inl rfl⟩
    · exact ⟨rest.dropLast, hbody, .inr (by rw [List.cons_append, List.dropLast_append_getLast? _ hlast])⟩
  · simp [matchesPathFmt, hc] at h

/-- `^([^"\\]|\\.)*$`, with `.` of Go's `regexp` (anything but `\n`). -/
def matchesEscapedStringsFmt : List Char → Bool
  | [] => true
  | '\\' :: c :: rest => c ≠ '\n' && matchesEscapedStringsFmt rest
  | '\\' :: [] => false
  | c :: rest => c ≠ '"' && matchesEscapedStringsFmt rest

/-- `^([^"$\\]|\\[^$])*$`. -/
def matchesEscapedStringsNoVarExpansionFmt : List Char → Bool
  | [] => true
  | '\\' :: c :: rest => c ≠ '$' && matchesEscapedStringsNoVarExpansionFmt rest
  | '\\' :: [] => false
  | c :: rest => c ≠ '"' && c ≠ '$' && matchesEscapedStringsNoVarExpansionFmt rest

/-- `[a-z0-9_]`, and `[a-z][a-z0-9_]*`. -/
def isVarNameChar (c : Char) : Bool :=
  ('a' ≤ c && c ≤ 'z') || ('0' ≤ c && c ≤ '9') || c = '_'

def isVarName : List Char → Bool
  | c :: rest => 'a' ≤ c && c ≤ 'z' && rest.all isVarNameChar
  | [] => false

/-- `^\$(\{[a-z][a-z0-9_]*\}|[a-z][a-z0-9_]*)$`. -/
def matchesVariableNameFmt : List Char → Bool
  | '$' :: '{' :: rest =>
    match rest.reverse with
    | '}' :: name => isVarName name.reverse
    | _ => false
  | '$' :: rest => isVarName rest
  | _ => false

/-- Kubernetes' `IsHTTPHeaderName`: `^[-A-Za-z0-9]+$`. -/
def isHTTPHeaderName (name : List Char) : Bool :=
  name ≠ [] && name.all fun c => c = '-' || c.isAlphanum

/-! ## Texts of the source -/

def pathFmt : String := "/[^\\s\x7b\x7d;]*"
def pathErrMsg : String :=
  "must start with / and must not include any whitespace character, `\x7b`, `\x7d` or `;`"
def pathExamples : List String := ["/", "/path", "/path/subpath-123"]
def lineBreakErrMsg : String := "must not contain line breaks"
def escapedStringsFmt : String := "([^\"\\\\]|\\\\.)*"
def escapedStringsErrMsg : String :=
  "must have all '\"' (double quotes) escaped and must not end with an unescaped '\\' (backslash)"
def escapedStringsNoVarExpansionFmt : String := "([^\"$\\\\]|\\\\[^$])*"
def escapedStringsNoVarExpansionErrMsg : String :=
  "a valid value must have all '\"' escaped and must not contain any '$' or end with an unescaped '\\'"
def variableNameFmt : String := "\\$(\\\x7b[a-z][a-z0-9_]*\\\x7d|[a-z][a-z0-9_]*)"
def variableNameErrMsg : String :=
  "must be a valid NGINX variable of the form $name or $\x7bname\x7d, " ++
  "where name starts with a lowercase letter followed by lowercase letters, digits, or underscores"
def variableNameExamples : List String := ["$remote_addr", "$http_x_forwarded_for", "$\x7bremote_addr\x7d"]
def invalidHeadersErrMsg : String := "unsupported header name configured, unsupported names are: "
def maxHeaderLength : Nat := 256
/-- The keys of `invalidHeaders`, as `getSortedKeysAsString` lists them. -/
def invalidHeaders : List String := ["connection", "host", "upgrade"]

/-! ## Validators -/

def validateNoLineBreaks (value : String) : Except ValidationError Unit :=
  if value.toList.any (fun c => c = '\r' || c = '\n') then .error (.message lineBreakErrMsg)
  else .ok ()

def validateEscapedString (value : String) (examples : List String) :
    Except ValidationError Unit := do
  validateNoLineBreaks value
  if !matchesEscapedStringsFmt value.toList then
    .error (.regex escapedStringsErrMsg escapedStringsFmt examples)
  else .ok ()

def validateEscapedStringNoVarExpansion (value : String) (examples : List String) :
    Except ValidationError Unit := do
  validateNoLineBreaks value
  if !matchesEscapedStringsNoVarExpansionFmt value.toList then
    .error (.regex escapedStringsNoVarExpansionErrMsg escapedStringsNoVarExpansionFmt examples)
  else .ok ()

/-- `GenericValidator.ValidateNginxVariableName`. -/
def validateNginxVariableName (name : String) : Except ValidationError Unit :=
  if !matchesVariableNameFmt name.toList then
    .error (.regex variableNameErrMsg variableNameFmt variableNameExamples)
  else .ok ()

/-- An escaped string without `$`, or else a single NGINX variable. -/
def validateEscapedStringWithNginxVars (value : String) (examples : List String) :
    Except ValidationError Unit :=
  match validateEscapedStringNoVarExpansion value examples with
  | .ok () => .ok ()
  | .error err =>
    match validateNginxVariableName value with
    | .ok () => .ok ()
    | .error varErr => if value.startsWith "$" then .error varErr else .error err

/-- Go's `len` of a string: its UTF-8 byte count. -/
def byteLength (s : String) : Nat :=
  (s.toList.map Char.utf8Size).sum

/-- The name is lowered with `strings.ToLower` only after it passed
`IsHTTPHeaderName`, so it is ASCII and ASCII lowering is the same. -/
def validateHeaderName (name : String) : Except ValidationError Unit :=
  if byteLength name > maxHeaderLength then .error (.maxLen maxHeaderLength)
  else if !isHTTPHeaderName name.toList then
    .error (.regex "a valid HTTP header must consist of alphanumeric characters or '-'"
      "[-A-Za-z0-9]+" ["X-Header-Name"])
  else if String.ofList (name.toList.map Char.toLower) ∈ invalidHeaders then
    .error (.message (invalidHeadersErrMsg ++ ", ".intercalate invalidHeaders))
  else .ok ()

def validatePath (path : String) : Except ValidationError Unit :=
  if path = "" then .ok ()
  else if !matchesPathFmt path.toList then .error (.regex pathErrMsg pathFmt pathExamples)
  else if path.toList.contains '$' then .error (.message "cannot contain $")
  else .ok ()

/-- A path used in the `location` directive. -/
def validatePathInMatch (path : String) : Except ValidationError Unit :=
  if path = "" then .error (.message "cannot be empty")
  else if !matchesPathFmt path.toList then .error (.regex pathErrMsg pathFmt pathExamples)
  else .ok ()

/-- A path used in a regular-expression location; `compiles` is
`regexp2.Compile(path, regexp2.RE2)` succeeding. -/
def validatePathInRegexMatch (compiles : String → Bool) (path : String) :
    Except ValidationError Unit :=
  if path = "" then .error (.message "cannot be empty")
  else if !matchesPathFmt path.toList then .error (.regex pathErrMsg pathFmt pathExamples)
  else if !compiles path then .error (.invalidRegex path)
  else .ok ()

/-- `supportedRedirectSchemes`, sorted as `getSortedKeysAsString` lists them. -/
def supportedRedirectSchemes : List String := ["http", "https"]

/-- `HTTPRedirectValidator.ValidateRedirectScheme`: whether the scheme is
supported, and if not, the supported ones. -/
def validateRedirectScheme (scheme : String) : Bool × List String :=
  if scheme ∈ supportedRedirectSchemes then (true, []) else (false, supportedRedirectSchemes)

/-- `HTTPRedirectValidator.ValidateRedirectPort`: any port is allowed. -/
def validateRedirectPort (_port : Int32) : Except ValidationError Unit := .ok ()

/-- `HTTPRedirectValidator.ValidateHostname`. -/
def validateHostname (hostname : String) : Except ValidationError Unit :=
  validateEscapedStringNoVarExpansion hostname ["host", "example.com"]

/-- `HTTPHeaderValidator.ValidateFilterHeaderValue`. -/
def validateFilterHeaderValue (value : String) : Except ValidationError Unit :=
  validateEscapedStringWithNginxVars value ["my-header-value", "$remote_addr", "example/12345=="]

end GatewayFabric.Validation
