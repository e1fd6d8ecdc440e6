/-
How the NJS module reads the match table the Go side writes
(`nginx/modules/src/httpmatches.js`: `testMatch`, `headersMatch`,
`paramsMatch`), against what the strings were made from
(`createHeaderKeyValString`, `createQueryParamKeyValString` and
`createRouteMatch`, modelled in `Config.Locations`).

A JavaScript string is its list of characters. The separators `:`, `=` and
`,` are one UTF-16 unit each, so a position `indexOf` finds, and the slices
cut there, are the same counted in characters as in units. The request is
given by what NJS reads of it: the method, the header lookup of `headersIn`
(case-insensitive in NGINX) and the values of each query argument in order;
`new RegExp(re).test(v)` is a parameter.

The main results: the strings the Go side writes split back into exactly
their name, type and value (`splitHeaderMatch_createHeaderKeyValString`,
`splitQueryParamMatch_createQueryParamKeyValString`); on requests whose
values are plain, `testMatch` on the table computes the meaning of the match
(`testMatch_createRouteMatch`); and the NJS matcher splits request header
values on commas, so an exact header match whose value has a comma rejects a
request that carries that value.
-/
import GatewayFabric.Config.Locations

namespace GatewayFabric.Njs

open GatewayFabric.Dataplane GatewayFabric.Config GatewayFabric.Validation

/-! ## JavaScript strings -/

/-- `s.indexOf(c, position)` for a one-character `c`: the first position at
or after `position` (a negative one counting as 0) holding `c`, or -1. -/
def indexOf (s : List Char) (c : Char) (position : Int) : Int :=
  match (s.drop position.toNat).findIdx? (· = c) with
  | some i => position.toNat + i
  | none => -1

/-- `s.slice(start, stop)` for positions that are not negative. -/
def slice (s : List Char) (start stop : Nat) : List Char := (s.take stop).drop start

/-- `s.slice(start)`. -/
def sliceFrom (s : List Char) (start : Nat) : List Char := s.drop start

/-- `s.split(',')`. -/
def splitComma (s : String) : List String := (s.toList.splitOn ',').map String.ofList

/-! ## The matcher -/

/-- What `testMatch` reads of the request: `r.method`, the lookup of
`r.headersIn`, and the values `r.args` holds for each name, in order. -/
structure Request where
  method : String
  headersIn : String → Option String
  args : String → List String

section Matcher

variable (regexTest : String → String → Bool)

/-- The first lines of the loop of `headersMatch`: the name, type and value
of `key:MatchType:value`, split at its first two colons. -/
def splitHeaderMatch (h : String) : Except String (String × String × String) :=
  let hs := h.toList
  let firstColon := indexOf hs ':' 0
  let secondColon := indexOf hs ':' (firstColon + 1)
  if firstColon = -1 ∨ secondColon = -1 then throw ("invalid header match: " ++ h)
  else
    pure (String.ofList (slice hs 0 firstColon.toNat),
      String.ofList (slice hs (firstColon.toNat + 1) secondColon.toNat),
      String.ofList (sliceFrom hs (secondColon.toNat + 1)))

/-- One header match of `headersMatch`: whether it holds, or what is thrown. -/
def headerMatches (requestHeaders : String → Option String) (h : String) : Except String Bool := do
  let (name, type, matchValue) ← splitHeaderMatch h
  match requestHeaders name with
  | none => pure false
  | some val =>
    -- `!val`: an empty header value is false too
    if val = "" then pure false
    else
      -- NGINX joins repeated headers with commas
      let values := splitComma val
      if !(type = "Exact" ∨ type = "RegularExpression") then throw ("invalid header match type: " ++ type)
      else if type = "Exact" then pure (values.contains matchValue)
      else pure (values.any (regexTest matchValue))

/-- `headersMatch`: every header match holds, the first that does not ending the loop. -/
def headersMatch (requestHeaders : String → Option String) : List String → Except String Bool
  | [] => pure true
  | h :: hs => do
    if ← headerMatches regexTest requestHeaders h then headersMatch requestHeaders hs
    else pure false

/-- The first lines of the loop of `paramsMatch`: the name, type and value of
`key=MatchType=value`, split at its first two `=`, with its checks. -/
def splitQueryParamMatch (p : String) : Except String (String × String × String) := do
  let ps := p.toList
  let firstIdx := indexOf ps '=' 0
  if firstIdx = -1 ∨ firstIdx = 0 then throw ("invalid query parameter: " ++ p)
  let idx := indexOf ps '=' (firstIdx + 1)
  if idx = -1 ∨ idx = 0 ∨ idx = (ps.length : Int) - 1 then throw ("invalid query parameter: " ++ p)
  let type := String.ofList (slice ps (firstIdx.toNat + 1) idx.toNat)
  if !(type = "Exact" ∨ type = "RegularExpression") then throw ("invalid query parameter match type: " ++ type)
  pure (String.ofList (slice ps 0 firstIdx.toNat), type, String.ofList (sliceFrom ps (idx.toNat + 1)))

/-- `r.args[key]` as the matcher uses it: nothing for an absent argument or
a single empty value (`!val`), the first value otherwise (a repeated
argument is an array, which is never false). -/
def argValue (values : List String) : Option String :=
  match values with
  | [] => none
  | [v] => if v = "" then none else some v
  | v :: _ => some v

/-- One query parameter match of `paramsMatch`. -/
def paramMatches (requestParams : String → List String) (p : String) : Except String Bool := do
  let (key, type, value) ← splitQueryParamMatch p
  match argValue (requestParams key) with
  | none => pure false
  | some val => if type = "Exact" then pure (val = value) else pure (regexTest value val)

def paramsMatch (requestParams : String → List String) : List String → Except String Bool
  | [] => pure true
  | p :: ps => do
    if ← paramMatches regexTest requestParams p then paramsMatch requestParams ps
    else pure false

/-- `testMatch` on an entry of the match table. An empty method, header list
or parameter list is left out of the JSON, and the test of an absent one
passes. -/
def testMatch (r : Request) (m : RouteMatch) : Except String Bool :=
  if m.any then pure true
  else if m.method ≠ "" ∧ r.method ≠ m.method then pure false
  else do
    let headersOk ← headersMatch regexTest r.headersIn m.headers
    if !headersOk then pure false
    else paramsMatch regexTest r.args m.queryParams

end Matcher

/-! ## The validators of match values -/

/-- `unicode.IsSpace`, what `strings.TrimSpace` removes. -/
def isGoSpace (c : Char) : Bool :=
  c = '\t' || c = '\n' || c = '\x0b' || c = '\x0c' || c = '\r' || c = ' ' || c.toNat = 0x85 ||
    c.toNat = 0xA0 || c.toNat = 0x1680 || (0x2000 ≤ c.toNat && c.toNat ≤ 0x200A) || c.toNat = 0x2028 ||
    c.toNat = 0x2029 || c.toNat = 0x202F || c.toNat = 0x205F || c.toNat = 0x3000

def validateCommonNJSMatchPart (value : String) : Except String Unit :=
  if value = "" then throw "cannot be empty"
  else if value.toList.all isGoSpace then throw "cannot be empty after trimming whitespace"
  else pure ()

def validateHeaderNameInMatch (name : String) : Except String Unit :=
  if !isHTTPHeaderName name.toList then throw "a valid HTTP header must consist of alphanumeric characters or '-'"
  else validateCommonNJSMatchPart name

def validateHeaderValueInMatch (value : String) : Except String Unit := validateCommonNJSMatchPart value

def validateQueryParamNameInMatch (name : String) : Except String Unit := validateCommonNJSMatchPart name

def validateQueryParamValueInMatch (value : String) : Except String Unit := validateCommonNJSMatchPart value

/-! ## The meaning of a match -/

/-- The Gateway API's meaning of a header match: the request carries the
header, and its value equals the match value or the expression matches it. -/
def headerMatchHolds (regexTest : String → String → Bool) (headersIn : String → Option String)
    (h : HTTPHeaderMatch) : Bool :=
  match headersIn h.name with
  | none => false
  | some v =>
    match h.type with
    | .exact => v = h.value
    | .regularExpression => regexTest h.value v

/-- A query parameter match reads the first value of its parameter. -/
def queryParamMatchHolds (regexTest : String → String → Bool) (args : String → List String)
    (q : HTTPQueryParamMatch) : Bool :=
  match args q.name with
  | [] => false
  | v :: _ =>
    match q.type with
    | .exact => v = q.value
    | .regularExpression => regexTest q.value v

/-- A match holds when the method is the match's, if it has one, every header
match that is the first of its name (compared case-insensitively) holds, and
every query parameter match holds. -/
def matchHolds (regexTest : String → String → Bool) (r : Request) (m : Match) : Bool :=
  m.method.all (· = r.method) &&
    m.headers.all (fun h =>
      m.headers.find? (fun h' => lowerName h'.name = lowerName h.name) ≠ some h ||
        headerMatchHolds regexTest r.headersIn h) &&
    m.queryParams.all (queryParamMatchHolds regexTest r.args)

/-! ## The strings split back -/

theorem indexOf_append_cons {a b : List Char} {c : Char} {p : Nat} (hp : p ≤ a.length) (ha : c ∉ a.drop p) :
    indexOf (a ++ c :: b) c p = a.length := by
  unfold indexOf
  have hfind : (a.drop p).findIdx? (· = c) = none := by
    rw [List.findIdx?_eq_none_iff]
    intro x hx
    have : x ≠ c := fun hxc => ha (hxc ▸ hx)
    simpa using this
  rw [Int.toNat_natCast, List.drop_append_of_le_length hp, List.findIdx?_append, hfind]
  simp [List.findIdx?_cons]
  omega

theorem toList_createHeaderKeyValString (h : HTTPHeaderMatch) :
    (createHeaderKeyValString h).toList =
      h.name.toList ++ ':' :: ((matchTypeString h.type).toList ++ ':' :: h.value.toList) := by
  simp [createHeaderKeyValString, String.toList_append]

theorem toList_createQueryParamKeyValString (q : HTTPQueryParamMatch) :
    (createQueryParamKeyValString q).toList =
      q.name.toList ++ '=' :: ((matchTypeString q.type).toList ++ '=' :: q.value.toList) := by
  simp [createQueryParamKeyValString, String.toList_append]

/-- A string of three parts, each of the first two without the separator:
the first two separators stand right after each of them. -/
theorem indexOf_three_parts {s a b rest : List Char} {c : Char} (hs : s = a ++ c :: (b ++ c :: rest))
    (ha : c ∉ a) (hb : c ∉ b) :
    indexOf s c 0 = (a.length : Int) ∧ indexOf s c ((a.length : Int) + 1) = ((a.length + 1 + b.length : Nat) : Int) := by
  subst hs
  refine ⟨by simpa using indexOf_append_cons (b := b ++ c :: rest) (Nat.zero_le _) (by simpa using ha), ?_⟩
  have hsplit : a ++ c :: (b ++ c :: rest) = (a ++ c :: b) ++ c :: rest := by simp
  have hdrop : (a ++ c :: b).drop (a.length + 1) = b := by simp
  have hpos : (a.length : Int) + 1 = ((a.length + 1 : Nat) : Int) := by push_cast; rfl
  have hlen : (a ++ c :: b).length = a.length + 1 + b.length := by simp; omega
  rw [hsplit, hpos, indexOf_append_cons (a := a ++ c :: b) (by simp) (by rw [hdrop]; exact hb), hlen]

theorem slices_three_parts (a b rest : List Char) (c : Char) :
    slice (a ++ c :: (b ++ c :: rest)) 0 a.length = a ∧
      slice (a ++ c :: (b ++ c :: rest)) (a.length + 1) (a.length + 1 + b.length) = b ∧
      sliceFrom (a ++ c :: (b ++ c :: rest)) (a.length + 1 + b.length + 1) = rest := by
  have hsplit : a ++ c :: (b ++ c :: rest) = (a ++ [c] ++ b) ++ c :: rest := by simp
  have hsplit' : a ++ c :: (b ++ c :: rest) = (a ++ [c] ++ b ++ [c]) ++ rest := by simp
  refine ⟨by simp [slice], ?_, ?_⟩
  · rw [slice, hsplit, List.take_left' (by simp; omega), List.drop_left' (by simp)]
  · rw [sliceFrom, hsplit', List.drop_left' (by simp; omega)]

/-- The spec of `splitHeaderMatch`. -/
theorem splitHeaderMatch_eq {h : String} {name type value : List Char}
    (hh : h.toList = name ++ ':' :: (type ++ ':' :: value)) (hname : ':' ∉ name) (htype : ':' ∉ type) :
    splitHeaderMatch h = .ok (String.ofList name, String.ofList type, String.ofList value) := by
  obtain ⟨h₁, h₂⟩ := indexOf_three_parts hh hname htype
  obtain ⟨s₁, s₂, s₃⟩ := slices_three_parts name type value ':'
  dsimp only [splitHeaderMatch]
  rw [h₁, h₂, if_neg (by omega)]
  simp only [Int.toNat_natCast, hh, s₁, s₂, s₃]
  rfl

theorem splitQueryParamMatch_eq {p : String} {name type value : List Char}
    (hp : p.toList = name ++ '=' :: (type ++ '=' :: value)) (hname : '=' ∉ name) (hne : name ≠ [])
    (htype : '=' ∉ type) (hvalue : value ≠ [])
    (hvalid : String.ofList type = "Exact" ∨ String.ofList type = "RegularExpression") :
    splitQueryParamMatch p = .ok (String.ofList name, String.ofList type, String.ofList value) := by
  obtain ⟨h₁, h₂⟩ := indexOf_three_parts hp hname htype
  obtain ⟨s₁, s₂, s₃⟩ := slices_three_parts name type value '='
  have hlen : p.toList.length = name.length + 1 + type.length + 1 + value.length := by
    rw [hp]; simp; omega
  have hname0 : name.length ≠ 0 := by simpa using hne
  have hvalue0 : value.length ≠ 0 := by simpa using hvalue
  dsimp only [splitQueryParamMatch]
  rw [h₁, if_neg (by omega)]
  simp only [bind, Except.bind, pure, Except.pure]
  rw [h₂, hlen, if_neg (by omega)]
  simp only [Int.toNat_natCast, hp, s₁, s₂, s₃]
  have htype : (!decide (String.ofList type = "Exact" ∨ String.ofList type = "RegularExpression")) = false := by
    simp [hvalid]
  simp only [htype, Bool.false_eq_true, if_false]

theorem colon_not_mem_of_isHTTPHeaderName {name : List Char} (h : isHTTPHeaderName name = true) : ':' ∉ name := by
  intro hc
  simp only [isHTTPHeaderName, Bool.and_eq_true, List.all_eq_true] at h
  have := h.2 ':' hc
  revert this
  decide

theorem separators_not_mem_matchTypeString (t : MatchType) :
    ':' ∉ (matchTypeString t).toList ∧ '=' ∉ (matchTypeString t).toList := by
  cases t <;> decide

theorem matchTypeString_valid (t : MatchType) :
    matchTypeString t = "Exact" ∨ matchTypeString t = "RegularExpression" := by
  cases t <;> simp [matchTypeString]

theorem splitHeaderMatch_createHeaderKeyValString {h : HTTPHeaderMatch} (hname : ':' ∉ h.name.toList) :
    splitHeaderMatch (createHeaderKeyValString h) = .ok (h.name, matchTypeString h.type, h.value) := by
  rw [splitHeaderMatch_eq (toList_createHeaderKeyValString h) hname
    (separators_not_mem_matchTypeString h.type).1]
  simp only [String.ofList_toList]

theorem splitQueryParamMatch_createQueryParamKeyValString {q : HTTPQueryParamMatch} (hne : q.name ≠ "")
    (hname : '=' ∉ q.name.toList) (hvalue : q.value ≠ "") :
    splitQueryParamMatch (createQueryParamKeyValString q) = .ok (q.name, matchTypeString q.type, q.value) := by
  rw [splitQueryParamMatch_eq (toList_createQueryParamKeyValString q) hname (by simpa using hne)
    (separators_not_mem_matchTypeString q.type).2 (by simpa using hvalue)
    (by simpa only [String.ofList_toList] using matchTypeString_valid q.type)]
  simp only [String.ofList_toList]

/-- The strings the Go side writes for a header match with a valid name, and
for a query parameter match with a name without `=` and a value, are split
by the NJS module into exactly their name, type and value, with nothing
thrown. -/
theorem njs_match_strings_split_back :
    (∀ h : HTTPHeaderMatch, isHTTPHeaderName h.name.toList = true →
      splitHeaderMatch (createHeaderKeyValString h) = .ok (h.name, matchTypeString h.type, h.value)) ∧
    (∀ q : HTTPQueryParamMatch, q.name ≠ "" → '=' ∉ q.name.toList → q.value ≠ "" →
      splitQueryParamMatch (createQueryParamKeyValString q) = .ok (q.name, matchTypeString q.type, q.value)) :=
  ⟨fun _ hname => splitHeaderMatch_createHeaderKeyValString (colon_not_mem_of_isHTTPHeaderName hname),
    fun _ hne hname hvalue => splitQueryParamMatch_createQueryParamKeyValString hne hname hvalue⟩

/-- Values holding the separators themselves split back too. -/
theorem njs_match_strings_split_back_separator_values :
    isHTTPHeaderName "x-id".toList = true ∧
      splitHeaderMatch (createHeaderKeyValString { name := "x-id", value := "a:b", type := .exact }) =
        .ok ("x-id", "Exact", "a:b") ∧
      splitQueryParamMatch (createQueryParamKeyValString { name := "q", value := "k=v", type := .regularExpression }) =
        .ok ("q", "RegularExpression", "k=v") :=
  ⟨by decide, njs_match_strings_split_back.1 _ (by decide),
    njs_match_strings_split_back.2 _ (by decide) (by decide) (by decide)⟩

/-! ## The matcher against the meaning of a match -/

/-- The header matches whose strings `firstHeaderPerName` writes. -/
def firstHeaderMatches : List HTTPHeaderMatch → List String → List HTTPHeaderMatch
  | [], _ => []
  | h :: hs, seen =>
    if lowerName h.name ∈ seen then firstHeaderMatches hs seen
    else h :: firstHeaderMatches hs (lowerName h.name :: seen)

theorem firstHeaderPerName_eq_map (hs : List HTTPHeaderMatch) (seen : List String) :
    firstHeaderPerName hs seen = (firstHeaderMatches hs seen).map createHeaderKeyValString := by
  induction hs generalizing seen with
  | nil => rfl
  | cons h hs ih =>
    unfold firstHeaderPerName firstHeaderMatches
    split <;> simp [ih]

/-- A header match is kept when its name was not seen before the loop and it
is the first match of its name. -/
theorem mem_firstHeaderMatches_iff (x : HTTPHeaderMatch) :
    ∀ (hs : List HTTPHeaderMatch) (seen : List String),
      x ∈ firstHeaderMatches hs seen ↔
        lowerName x.name ∉ seen ∧ hs.find? (fun h => lowerName h.name = lowerName x.name) = some x
  | [], _ => by simp [firstHeaderMatches]
  | h :: hs, seen => by
    rw [firstHeaderMatches, List.find?_cons]
    by_cases hseen : lowerName h.name ∈ seen
    · rw [if_pos hseen, mem_firstHeaderMatches_iff x hs seen]
      by_cases hx : lowerName h.name = lowerName x.name
      · simp [← hx, hseen]
      · simp [hx]
    · rw [if_neg hseen, List.mem_cons, mem_firstHeaderMatches_iff x hs _]
      by_cases hx : lowerName h.name = lowerName x.name
      · simp [← hx, hseen, eq_comm]
      · have hxh : x ≠ h := fun e => hx (e ▸ rfl)
        simp [hx, Ne.symm hx, hxh]

/-- What holds of every match written, holds of every match that is the first of its name. -/
theorem all_firstHeaderMatches (P : HTTPHeaderMatch → Bool) (hs : List HTTPHeaderMatch) :
    (firstHeaderMatches hs []).all P =
      hs.all (fun h => hs.find? (fun h' => lowerName h'.name = lowerName h.name) ≠ some h || P h) := by
  rw [Bool.eq_iff_iff, List.all_eq_true, List.all_eq_true]
  constructor
  · intro hP h _
    by_cases hfirst : hs.find? (fun h' => lowerName h'.name = lowerName h.name) = some h
    · simp [hP h ((mem_firstHeaderMatches_iff h hs []).2 ⟨List.not_mem_nil, hfirst⟩)]
    · simp [hfirst]
  · intro hP x hx
    obtain ⟨-, hfirst⟩ := (mem_firstHeaderMatches_iff x hs []).1 hx
    simpa [hfirst] using hP x (List.mem_of_find?_eq_some hfirst)

/-- The loops of `headersMatch` and `paramsMatch`: over the strings of
matches each of which gives whether it holds, the loop gives whether all do. -/
theorem loop_map_eq_ok {α : Type} {loop : List String → Except String Bool} {step : String → Except String Bool}
    (hnil : loop [] = pure true) (hcons : ∀ s ss, loop (s :: ss) = (do if ← step s then loop ss else pure false))
    (write : α → String) (P : α → Bool) :
    ∀ xs : List α, (∀ x ∈ xs, step (write x) = .ok (P x)) → loop (xs.map write) = .ok (xs.all P)
  | [], _ => hnil
  | x :: xs, h => by
    rw [List.map_cons, List.all_cons, hcons, h x List.mem_cons_self]
    cases P x with
    | false => rfl
    | true => exact loop_map_eq_ok hnil hcons write P xs fun y hy => h y (List.mem_cons_of_mem x hy)

theorem splitComma_of_not_mem {s : String} (h : ',' ∉ s.toList) : splitComma s = [s] := by
  simp [splitComma, List.splitOn_eq_singleton h]

/-- `argValue` reads the first value, unless the argument is one empty value. -/
theorem argValue_eq_head? {values : List String} (h : values ≠ [""]) : argValue values = values.head? :=
  match values, h with
  | [], _ => rfl
  | [v], h => by
    have hv : v ≠ "" := fun e => h (e ▸ rfl)
    simp [argValue, hv]
  | _ :: _ :: _, _ => rfl

section Agreement

variable {regexTest : String → String → Bool}

theorem headerMatches_createHeaderKeyValString {headersIn : String → Option String} {h : HTTPHeaderMatch}
    (hname : ':' ∉ h.name.toList) (hvalues : ∀ v, headersIn h.name = some v → v ≠ "" ∧ ',' ∉ v.toList) :
    headerMatches regexTest headersIn (createHeaderKeyValString h) = .ok (headerMatchHolds regexTest headersIn h) := by
  rw [headerMatches, splitHeaderMatch_createHeaderKeyValString hname]
  simp only [bind, Except.bind]
  cases hv : headersIn h.name with
  | none => simp [headerMatchHolds, hv, pure, Except.pure]
  | some v =>
    obtain ⟨hne, hcomma⟩ := hvalues v hv
    cases ht : h.type with
    | exact =>
      simp [headerMatchHolds, hv, ht, hne, splitComma_of_not_mem hcomma, matchTypeString, pure, Except.pure]
      exact eq_comm
    | regularExpression =>
      simp [headerMatchHolds, hv, ht, hne, splitComma_of_not_mem hcomma, matchTypeString, pure, Except.pure]

theorem paramMatches_createQueryParamKeyValString {args : String → List String} {q : HTTPQueryParamMatch}
    (hne : q.name ≠ "") (hname : '=' ∉ q.name.toList) (hvalue : q.value ≠ "") (hargs : args q.name ≠ [""]) :
    paramMatches regexTest args (createQueryParamKeyValString q) = .ok (queryParamMatchHolds regexTest args q) := by
  rw [paramMatches, splitQueryParamMatch_createQueryParamKeyValString hne hname hvalue]
  simp only [bind, Except.bind]
  rw [argValue_eq_head? hargs]
  cases hv : args q.name with
  | nil => simp [queryParamMatchHolds, hv, pure, Except.pure]
  | cons v rest => cases ht : q.type <;> simp [queryParamMatchHolds, hv, ht, matchTypeString, pure, Except.pure]

/-- Where the strings of a match split back and the request's values are
plain (no header value empty or with a comma, no argument one empty value),
the NJS matcher on the table the Go side writes computes the meaning of the
match. -/
theorem testMatch_createRouteMatch (r : Request) (m : Match) (redirectPath : String)
    (hmethod : m.method ≠ some "")
    (hheaders : ∀ h ∈ m.headers, ':' ∉ h.name.toList)
    (hparams : ∀ q ∈ m.queryParams, q.name ≠ "" ∧ '=' ∉ q.name.toList ∧ q.value ≠ "")
    (hvalues : ∀ n v, r.headersIn n = some v → v ≠ "" ∧ ',' ∉ v.toList)
    (hargs : ∀ n, r.args n ≠ [""]) :
    testMatch regexTest r (createRouteMatch m redirectPath) = .ok (matchHolds regexTest r m) := by
  have hhdrs : headersMatch regexTest r.headersIn (firstHeaderPerName m.headers []) =
      .ok (m.headers.all fun h => m.headers.find? (fun h' => lowerName h'.name = lowerName h.name) ≠ some h ||
        headerMatchHolds regexTest r.headersIn h) := by
    rw [firstHeaderPerName_eq_map, ← all_firstHeaderMatches]
    refine loop_map_eq_ok rfl (fun _ _ => rfl) _ _ _ fun h hh => ?_
    have hmem : h ∈ m.headers := List.mem_of_find?_eq_some ((mem_firstHeaderMatches_iff h _ _).1 hh).2
    exact headerMatches_createHeaderKeyValString (hheaders h hmem) (hvalues h.name)
  have hprms : paramsMatch regexTest r.args (m.queryParams.map createQueryParamKeyValString) =
      .ok (m.queryParams.all (queryParamMatchHolds regexTest r.args)) := by
    refine loop_map_eq_ok rfl (fun _ _ => rfl) _ _ _ fun q hq => ?_
    obtain ⟨hne, hname, hvalue⟩ := hparams q hq
    exact paramMatches_createQueryParamKeyValString hne hname hvalue (hargs q.name)
  unfold createRouteMatch
  split
  · next hpath =>
    simp only [isPathOnlyMatch, Bool.and_eq_true, Option.isNone_iff_eq_none, List.isEmpty_iff] at hpath
    obtain ⟨⟨hm, hh⟩, hq⟩ := hpath
    simp [testMatch, matchHolds, hm, hh, hq, pure, Except.pure]
  · have hthen : ∀ a b : Bool,
        (do let headersOk ← (Except.ok a : Except String Bool); if (!headersOk) = true then pure false else .ok b) =
          .ok (a && b) := by
      intro a b
      cases a <;> rfl
    simp only [testMatch, hhdrs, hprms, matchHolds, hthen, if_neg Bool.false_ne_true]
    cases hm : m.method with
    | none => simp
    | some x =>
      have hx : x ≠ "" := fun e => hmethod (e ▸ hm)
      by_cases hr : r.method = x
      · simp [hr]
      · simp [hx, hr, Ne.symm hr, pure, Except.pure]

end Agreement

/-- A GET request with `x-tags: a` and `?v=1`: the table's entry for a match
on the method, the header and the parameter passes it, as the match holds. -/
theorem plain_request_match_agrees :
    let m : Match :=
      { method := some "GET"
        headers := [{ name := "x-tags", value := "a", type := .exact }]
        queryParams := [{ name := "v", value := "1", type := .exact }] }
    let r : Request :=
      { method := "GET"
        headersIn := fun n => if n = "x-tags" then some "a" else none
        args := fun n => if n = "v" then ["1"] else [] }
    matchHolds (fun _ _ => false) r m = true ∧
      testMatch (fun _ _ => false) r (createRouteMatch m "/_ngf-internal-rule0-route0") =
        .ok (matchHolds (fun _ _ => false) r m) := by
  intro m r
  have hvalues : ∀ n v, r.headersIn n = some v → v ≠ "" ∧ ',' ∉ v.toList := by
    intro n v h
    by_cases hn : n = "x-tags"
    · simp only [r, hn, if_true, Option.some.injEq] at h
      subst h
      decide
    · simp [r, hn] at h
  have hargs : ∀ n, r.args n ≠ [""] := by
    intro n
    by_cases hn : n = "v" <;> simp [r, hn]
  exact ⟨by decide +kernel, testMatch_createRouteMatch r m "/_ngf-internal-rule0-route0" (by decide)
    (by decide) (by decide) hvalues hargs⟩

/-! ## A header value with a comma -/

/-- A header match: `x-tags` must equal `a,b`. -/
def commaHeaderMatch : Match := { headers := [{ name := "x-tags", value := "a,b", type := .exact }] }

/-- A GET request that carries `x-tags: a,b` and no query argument. -/
def commaHeaderRequest : Request :=
  { method := "GET", headersIn := fun n => if n = "x-tags" then some "a,b" else none, args := fun _ => [] }

/-- Both parts of the match pass the validators, and the request carries
exactly the value; the NJS matcher splits it into `a` and `b`, neither of
which is `a,b`. -/
theorem exact_header_with_comma_rejected :
    validateHeaderNameInMatch "x-tags" = .ok () ∧ validateHeaderValueInMatch "a,b" = .ok () ∧
      matchHolds (fun _ _ => false) commaHeaderRequest commaHeaderMatch = true ∧
      testMatch (fun _ _ => false) commaHeaderRequest (createRouteMatch commaHeaderMatch "/_ngf-internal-rule0-route0") =
        .ok false := by
  refine ⟨?_, ?_, ?_, ?_⟩ <;> decide +kernel

end GatewayFabric.Njs
