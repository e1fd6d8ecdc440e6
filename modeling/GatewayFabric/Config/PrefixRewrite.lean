/-
What NGINX does with the rewrite of a `ReplacePrefixMatch` path modifier
(`createMainRewriteForFilters`): the location's `rewrite` line read back by
the lexer, its expression parsed as PCRE parses it, and the rewrite run on
the request.

For a prefix path of literal characters and a replacement without `?`, `\`
or a line break, the rewrite is the Gateway API's prefix replacement on every
request below the prefix (`prefixRewrite_of_literal_below`), with the
request's arguments kept. The path is spliced into the expression with only
its `$` escaped, so that a character PCRE reads otherwise changes the match:
in the prefix `/a+` the `+` is a quantifier, and it is captured with the rest
of the path. The validator's `$` also matches before a final line break,
which the lexer reads as a blank: the `rewrite` line of such a replacement
has a word too many, and NGINX reads no rewrite from it
(`prefixRewrite_unreadable_of_final_newline`).
-/
import GatewayFabric.Nginx.Rewrite
import GatewayFabric.Config.Readback

namespace GatewayFabric.Config

open Dataplane Nginx Validation Backtrack Runs GatewayFabric.Graph

/-! ## The Gateway API's prefix replacement -/

/-- `strings.TrimSuffix(s, "/")`. -/
def trimSlash (s : String) : String :=
  if endsWithSlash s then String.ofList s.toList.dropLast else s

/-- The Gateway API's `ReplacePrefixMatch` of the prefix `P` by `R` in the
request path `u`, trailing slashes of `P` and `R` aside; an empty path is `/`. -/
def replacePrefixMatch (P R u : String) : String :=
  let r := trimSlash R ++ String.ofList (u.toList.drop (trimSlash P).length)
  if r = "" then "/" else r

/-- The `rewrite` NGINX reads from a rewrite of a location. -/
def readLocationRewrite (r : String) : Option Rewrite :=
  match tokenize (directiveLine ["rewrite", r]) with
  | .ok [.directive words] => readRewrite words
  | _ => none

/-- The rewrite phase of a location on a request: its `rewrite` lines read
back, then run in order. -/
def rewritePhase (vars : String → String) (l : Location) (req : Request) : Option (Except Nat Request) :=
  (l.rewrites.mapM readLocationRewrite).map fun ds => applyRewrites vars ds req

theorem endsWithSlash_iff {s : String} : endsWithSlash s = true ↔ ∃ s₀, s.toList = s₀ ++ ['/'] := by
  simp [endsWithSlash, List.getLast?_eq_some_iff]

theorem toList_trimSlash_of_endsWithSlash {s : String} {s₀ : List Char} (h : s.toList = s₀ ++ ['/']) :
    (trimSlash s).toList = s₀ := by
  have hs : endsWithSlash s = true := endsWithSlash_iff.2 ⟨s₀, h⟩
  simp [trimSlash, hs, h]

theorem trimSlash_of_not_endsWithSlash {s : String} (h : endsWithSlash s = false) : trimSlash s = s := by
  simp [trimSlash, h]

/-! ## The two expressions of a prefix -/

/-- `([^?]*)`: the rest of the path up to the arguments, as group `1`. -/
def captureRest : Re Char := .group 1 (Re.cat [.star (.cls true ['?'])])

theorem run_step_prefixTail (top : Pcre.Frame) :
    run Pcre.Parser.step ⟨top, [], 0, .text⟩ "([^?]*)?".toList =
      some ⟨{ top with items := Re.opt captureRest :: top.items }, [], 1, .afterQuant⟩ := rfl

theorem run_step_slashTail (top : Pcre.Frame) :
    run Pcre.Parser.step ⟨top, [], 0, .text⟩ "(?:/([^?]*))?".toList =
      some ⟨{ top with items := Re.opt (Re.cat [.lit '/', captureRest]) :: top.items }, [], 1, .afterQuant⟩ := rfl

/-- `^`, a literal path, then a tail that reads as one more item `r`. -/
theorem parse_prefix {P tail : List Char} {r : Re Char} (hP : ∀ c ∈ P, Pcre.isLiteral c = true)
    (htail : ∀ top : Pcre.Frame, run Pcre.Parser.step ⟨top, [], 0, .text⟩ tail =
      some ⟨{ top with items := r :: top.items }, [], 1, .afterQuant⟩) :
    Pcre.parse (String.ofList ('^' :: (P ++ tail))) = some (Re.cat (.bol :: (P.map .lit ++ [r]))) := by
  have hstart : Pcre.Parser.step {} '^' = some ⟨{ capture := none, items := [.bol] }, [], 0, .text⟩ := rfl
  unfold Pcre.parse
  rw [String.toList_ofList, run_cons, hstart, Option.bind_some, run_append,
    Pcre.run_step_literals hP, Option.bind_some, htail]
  simp [Pcre.Parser.finish, Pcre.Frame.body, Re.alts]

theorem inClass_question {b : Char} : Re.inClass true ['?'] b = !decide (b = '?') := by
  simp [Re.inClass]

/-- From the end of the prefix, `([^?]*)` takes the rest up to the arguments. -/
theorem head?_run_captureRest {v r : List Char} (hv : '?' ∉ v) (hr : ∀ b, r.head? = some b → b = '?')
    (pos : Nat) :
    (captureRest.run ⟨pos, v ++ r, []⟩).head? = some ⟨pos + v.length, r, [(1, v)]⟩ := by
  have hstar : ((Re.cat [.star (.cls true ['?'])]).run ⟨pos, v ++ r, []⟩).head? =
      some ⟨pos + v.length, r, []⟩ := by
    rw [Re.run_cat_singleton]
    refine Re.head?_run_star_cls (fun b hb => ?_) (fun b hb => ?_) pos []
    · have hne : b ≠ '?' := fun h => hv (h ▸ hb)
      simp [inClass_question, hne]
    · simp [inClass_question, hr b hb]
  have hconsumed : Thread.consumed ⟨pos, v ++ r, []⟩ ⟨pos + v.length, r, []⟩ = v := by
    simp [Thread.consumed]
  rw [captureRest, Re.head?_run_group 1 hstar, hconsumed]

/-- Below a literal prefix, `^P([^?]*)?` captures what follows it up to the arguments. -/
theorem search_prefixRegex (P : List Char) {v r : List Char} (hv : '?' ∉ v)
    (hr : ∀ b, r.head? = some b → b = '?') :
    Re.search (Re.cat (.bol :: (P.map .lit ++ [Re.opt captureRest]))) (P ++ v ++ r) =
      some ⟨P.length + v.length, r, [(1, v)]⟩ := by
  apply Re.search_of_head?
  rw [Re.run_cat_cons, Re.run_bol, if_pos rfl, List.flatMap_singleton, List.append_assoc, Re.run_cat_lits,
    Nat.zero_add, Re.run_cat_singleton]
  exact Re.head?_run_alt_of_head? _ (head?_run_captureRest hv hr _)

/-- Below a literal prefix and a `/`, `^P(?:/([^?]*))?` captures what follows the `/`. -/
theorem search_slashRegex (P : List Char) {w r : List Char} (hw : '?' ∉ w)
    (hr : ∀ b, r.head? = some b → b = '?') :
    Re.search (Re.cat (.bol :: (P.map .lit ++ [Re.opt (Re.cat [.lit '/', captureRest])]))) (P ++ '/' :: w ++ r) =
      some ⟨P.length + 1 + w.length, r, [(1, w)]⟩ := by
  apply Re.search_of_head?
  have hslash : (Re.cat [.lit '/', captureRest]).run ⟨P.length, '/' :: (w ++ r), []⟩ =
      captureRest.run ⟨P.length + 1, w ++ r, []⟩ := by
    rw [Re.run_cat_cons, Re.run_lit, Thread.next_cons, if_pos (by decide), List.flatMap_singleton,
      Re.run_cat_singleton]
  rw [Re.run_cat_cons, Re.run_bol, if_pos rfl, List.flatMap_singleton, List.append_assoc, List.cons_append,
    Re.run_cat_lits, Nat.zero_add, Re.run_cat_singleton]
  refine Re.head?_run_alt_of_head? _ ?_
  rw [hslash]
  exact head?_run_captureRest hw hr _

/-! ## The rewrite line NGINX reads -/

/-- `filterPrefix` of `createMainRewriteForFilters`: an empty replacement is `/`. -/
def filterPrefix (R : String) : String := if R = "" then "/" else R

/-- Text a rewrite line carries as written and the replacement copies: a
`/`, then characters the lexer reads as themselves, with no `$` or `?`. -/
structure PlainText (s : List Char) : Prop where
  head_slash : s.head? = some '/'
  word : ∀ c ∈ s, isWordChar c = true
  plain : ∀ c ∈ s, c ≠ '$' ∧ c ≠ '?'

theorem PlainText.append_slash {s : List Char} (h : PlainText s) : PlainText (s ++ ['/']) where
  head_slash := by
    rw [List.head?_append, h.head_slash]
    rfl
  word := by
    simp only [List.mem_append, List.mem_singleton]
    rintro c (hc | rfl)
    · exact h.word c hc
    · decide
  plain := by
    simp only [List.mem_append, List.mem_singleton]
    rintro c (hc | rfl)
    · exact h.plain c hc
    · decide

theorem matchesPathFmt_of_validatePathInMatch {p : String} (h : validatePathInMatch p = .ok ()) :
    matchesPathFmt p.toList = true := by
  by_contra hf
  simp only [Bool.not_eq_true] at hf
  unfold validatePathInMatch at h
  split at h <;> simp_all

/-- The characters of a path the format admits, the final line break that
`$` lets through aside. -/
theorem isPathChar_of_matchesPathFmt {s : List Char} (h : matchesPathFmt s = true) :
    ∀ c ∈ s, c ≠ '\n' → isPathChar c = true := by
  obtain ⟨body, hbody, hs⟩ := exists_of_matchesPathFmt h
  intro c hc hn
  have hc' : c = '/' ∨ c ∈ body := by rcases hs with rfl | rfl <;> simp_all
  rcases hc' with rfl | hc'
  · decide
  · exact List.all_eq_true.1 hbody c hc'

theorem not_backslash_of_isLiteral {c : Char} (h : Pcre.isLiteral c = true) : c ≠ '\\' := by
  rintro rfl
  simp [Pcre.isLiteral] at h

theorem not_dollar_of_isLiteral {c : Char} (h : Pcre.isLiteral c = true) : c ≠ '$' := by
  rintro rfl
  simp [Pcre.isLiteral] at h

/-- A prefix path of literal characters is spliced as it is. -/
theorem escapeDollar_of_isLiteral {s : String} (h : ∀ c ∈ s.toList, Pcre.isLiteral c = true) : escapeDollar s = s := by
  rw [← String.toList_inj, escapeDollar, String.toList_ofList]
  conv => rhs; rw [← List.flatMap_singleton' s.toList]
  exact List.flatMap_congr fun c hc => by simp [not_dollar_of_isLiteral (h c hc)]

/-- The filter prefix of a replacement that `validatePath` admits, without
`?` and `\`, is carried as written. -/
theorem plainText_filterPrefix {R : String} (hR : validatePath R = .ok ()) (hq : '?' ∉ R.toList)
    (hb : '\\' ∉ R.toList) (hn : '\n' ∉ R.toList) : PlainText (filterPrefix R).toList := by
  by_cases he : R = ""
  · have hslash : (filterPrefix R).toList = ['/'] := by simp [filterPrefix, he]
    rw [hslash]
    refine ⟨rfl, fun c hc => ?_, fun c hc => ?_⟩ <;> simp only [List.mem_singleton] at hc <;> subst hc <;> decide
  · have hfmt : matchesPathFmt R.toList = true := by
      by_contra hf
      simp only [Bool.not_eq_true] at hf
      simp [validatePath, he, hf] at hR
    have hdollar : '$' ∉ R.toList := by
      intro hd
      simp [validatePath, he, hfmt] at hR
      exact hR hd
    have hhead : R.toList.head? = some '/' := by
      cases hr : R.toList with
      | nil => simp [hr, matchesPathFmt] at hfmt
      | cons c rest =>
        rw [hr] at hfmt
        by_contra hc
        simp only [List.head?_cons, Option.some.injEq] at hc
        simp [matchesPathFmt, hc] at hfmt
    simp only [filterPrefix, he, if_false]
    refine ⟨hhead, fun c hc => ?_, fun c hc => ⟨fun h => hdollar (h ▸ hc), fun h => hq (h ▸ hc)⟩⟩
    exact isWordChar_of_isPathChar (isPathChar_of_matchesPathFmt hfmt c hc fun h => hn (h ▸ hc)) fun h => hb (h ▸ hc)

theorem directiveLine_rewrite_break (a b : String) :
    directiveLine ["rewrite", a ++ " " ++ b ++ " break"] = directiveLine ["rewrite", a, b, "break"] := by
  have hsp : " ".toList = [' '] := rfl
  have hbreak : " break".toList = ' ' :: "break".toList := rfl
  unfold directiveLine
  simp [List.intercalate_cons_cons, String.toList_append, hsp, hbreak]

theorem isRedirect_of_head_slash {s : String} (h : s.toList.head? = some '/') : isRedirect s = false := by
  obtain ⟨rest, hs⟩ : ∃ rest, s.toList = '/' :: rest := by
    cases hl : s.toList with
    | nil => simp [hl] at h
    | cons c rest => simp_all
  simp [isRedirect, hs, List.isPrefixOf]

/-- The replacement `<prefix>$1?$args`, without its last `?`, copies the
prefix, then the capture, then the request's arguments as the new ones. -/
theorem compile_prefixReplacement {fp : List Char} (hfp : ∀ c ∈ fp, c ≠ '$' ∧ c ≠ '?') :
    compile (fp ++ "$1?$args".toList) = some (fp.map Code.copy ++ [Code.capture 1, Code.args, Code.var "args"]) := by
  have htail : run Script.step ⟨[] ++ fp.map Code.copy, .text, true⟩ "$1?$args".toList =
      some ⟨[] ++ fp.map Code.copy ++ [Code.capture 1] ++ [Code.args], .name false "args".toList, false⟩ := rfl
  unfold compile
  rw [run_append, run_step_plain hfp [] true, Option.bind_some, htail]
  simp [Script.finish, Script.emit]

/-- The rewrite line of a literal prefix path and a plain filter prefix. -/
theorem readLocationRewrite_prefix {P tail fp : List Char} {r : Re Char}
    (hP : ∀ c ∈ P, Pcre.isLiteral c = true ∧ isWordChar c = true)
    (htail : ∀ top : Pcre.Frame, run Pcre.Parser.step ⟨top, [], 0, .text⟩ tail =
      some ⟨{ top with items := r :: top.items }, [], 1, .afterQuant⟩)
    (htailw : tail.all isWordChar = true) (hfp : PlainText fp) :
    readLocationRewrite (String.ofList ('^' :: (P ++ tail)) ++ " " ++ String.ofList (fp ++ "$1?$args?".toList) ++
        " break") =
      some { regex := Re.cat (.bol :: (P.map .lit ++ [r])), codes := fp.map Code.copy ++ [Code.capture 1, Code.args, Code.var "args"],
             addArgs := false, flag := .break } := by
  have hre : plainWord ('^' :: (P ++ tail)) = true := by
    simp only [plainWord, List.all_append, Bool.and_eq_true, List.all_eq_true]
    exact ⟨by decide, fun c hc => (hP c hc).2, List.all_eq_true.1 htailw⟩
  have hrepl : plainWord (fp ++ "$1?$args?".toList) = true := by
    obtain ⟨rest, hs⟩ : ∃ rest, fp = '/' :: rest := by
      cases fp with
      | nil => simpa using hfp.head_slash
      | cons c rest => exact ⟨rest, by simpa using hfp.head_slash⟩
    subst hs
    simp only [List.cons_append, plainWord, List.all_append, Bool.and_eq_true, List.all_eq_true]
    exact ⟨by decide, fun c hc => hfp.word c (List.mem_cons_of_mem _ hc), by simp [isWordChar, isSpace]⟩
  have hkeywords : plainWord "rewrite".toList = true ∧ plainWord "break".toList = true := by decide +kernel
  have htok : tokenize (directiveLine ["rewrite", String.ofList ('^' :: (P ++ tail)),
      String.ofList (fp ++ "$1?$args?".toList), "break"]) =
      .ok [.directive ["rewrite", String.ofList ('^' :: (P ++ tail)), String.ofList (fp ++ "$1?$args?".toList), "break"]] :=
    tokenize_directiveLine (by simp) (by simp only [List.all_cons, List.all_nil, String.toList_ofList, hre, hrepl, hkeywords.1, hkeywords.2,
      Bool.and_self])
  have hlast : (fp ++ "$1?$args?".toList).getLast? = some '?' := by
    rw [List.getLast?_append]
    rfl
  have hdrop : (fp ++ "$1?$args?".toList).dropLast = fp ++ "$1?$args".toList := by
    rw [List.dropLast_append_of_ne_nil (by decide)]
    rfl
  have hredirect : isRedirect (String.ofList (fp ++ "$1?$args?".toList)) = false := by
    apply isRedirect_of_head_slash
    rw [String.toList_ofList, List.head?_append, hfp.head_slash]
    rfl
  have hparse := parse_prefix (fun c hc => (hP c hc).1) htail
  rw [readLocationRewrite, directiveLine_rewrite_break, htok]
  simp only [readRewrite, rewriteOf, hredirect, Bool.false_eq_true, if_false, String.toList_ofList, hlast,
    if_true, hdrop, hparse, Option.bind_some, compile_prefixReplacement hfp.plain, Option.map_some]

theorem join_map_copy (fp : List Char) (t : Thread Char) (vars : String → String) (req : Request) :
    String.join ((fp.map Code.copy).map (Code.value t vars req)) = String.ofList fp := by
  rw [← String.toList_inj, String.toList_join, String.toList_ofList, List.flatMap_map, List.flatMap_map]
  simp [Code.value]

/-- The rewrite of a plain filter prefix, on a URI its expression matches:
the prefix, then the capture; the request's arguments kept. -/
theorem apply_prefixRewrite {re : Re Char} {fp : List Char} (hfp : fp ≠ []) {u : String} {t : Thread Char}
    (hs : Re.search re u.toList = some t) (vars : String → String) (args : String) :
    Rewrite.apply ⟨re, fp.map Code.copy ++ [Code.capture 1, Code.args, Code.var "args"], false, .break⟩ vars ⟨u, args⟩ =
      some (.ok ⟨String.ofList (fp ++ (t.capture 1).getD []), args⟩) := by
  have hcodes : fp.map Code.copy ++ [Code.capture 1, Code.args, Code.var "args"] =
      (fp.map Code.copy ++ [Code.capture 1]) ++ Code.args :: [Code.var "args"] := by simp
  have hnoargs : Code.args ∉ fp.map Code.copy ++ [Code.capture 1] := by simp
  have huri : String.ofList fp ++ String.ofList ((t.capture 1).getD []) ≠ "" := by
    rw [Ne, String.append_eq_empty_iff, ← String.toList_eq_nil_iff, String.toList_ofList]
    exact fun h => hfp h.1
  simp only [Rewrite.apply, hs, Option.map_some, Rewrite.result, hcodes, write_args hnoargs, List.map_append,
    String.join_append, join_map_copy]
  simp [Code.value, varValue, huri, String.ofList_append]

/-! ## The rewrite on the requests of the prefix's locations -/

theorem createRewritesValForRewriteFilter_prefix {rule : PathRule} (hpt : rule.pathType = .pathPrefix)
    (R : String) :
    createRewritesValForRewriteFilter (some { path := some ⟨R, .replacePrefixMatch⟩ }) rule =
      some { internalRewrite := "^ $request_uri",
             mainRewrite := createMainRewriteForFilters ⟨R, .replacePrefixMatch⟩ rule ++ " break" } := by
  have hne : createMainRewriteForFilters ⟨R, .replacePrefixMatch⟩ rule ≠ "" := by
    simp only [createMainRewriteForFilters, hpt, ne_eq, not_true_eq_false, if_false]
    intro h
    have := congrArg String.length h
    simp at this
  simp [createRewritesValForRewriteFilter, hne]

/-- The Gateway API's replacement below the prefix: the trimmed replacement, a `/`, the rest. -/
theorem toList_replacePrefixMatch_below (P R w : String) :
    (replacePrefixMatch P R (trimSlash P ++ "/" ++ w)).toList = (trimSlash R).toList ++ '/' :: w.toList := by
  have hdrop : (trimSlash P ++ "/" ++ w).toList.drop (trimSlash P).length = '/' :: w.toList := by
    rw [String.toList_append, String.toList_append, List.append_assoc, ← String.length_toList,
      List.drop_left]
    rfl
  have hne : trimSlash R ++ String.ofList ('/' :: w.toList) ≠ "" := by
    rw [Ne, String.append_eq_empty_iff, ← String.toList_eq_nil_iff (b := String.ofList _), String.toList_ofList]
    simp
  simp only [replacePrefixMatch, hdrop, hne, if_false]
  simp [String.toList_append]

/-- The trimmed replacement and a `/`: the filter prefix if it ends in `/`,
and the filter prefix and a `/` if not. -/
theorem trimSlash_append_slash (R : String) :
    (trimSlash R).toList ++ ['/'] =
      if endsWithSlash (filterPrefix R) then (filterPrefix R).toList else (filterPrefix R).toList ++ ['/'] := by
  by_cases he : R = ""
  · subst he
    rfl
  · simp only [filterPrefix, he, if_false]
    cases hs : endsWithSlash R with
    | true =>
      obtain ⟨R₀, hR₀⟩ := endsWithSlash_iff.1 hs
      rw [toList_trimSlash_of_endsWithSlash hR₀, hR₀, if_pos rfl]
    | false => rw [trimSlash_of_not_endsWithSlash hs]; rfl

theorem PlainText.ne_nil {s : List Char} (h : PlainText s) : s ≠ [] := by
  rintro rfl
  simpa using h.head_slash

/-- For a literal prefix path, the main rewrite is the expression the
slashes of the path and the filter prefix choose, then the replacement. -/
theorem createMainRewriteForFilters_literal {rule : PathRule} (hpt : rule.pathType = .pathPrefix)
    (hlit : ∀ c ∈ rule.path.toList, Pcre.isLiteral c = true) (R : String) :
    createMainRewriteForFilters ⟨R, .replacePrefixMatch⟩ rule =
      (if endsWithSlash (filterPrefix R) ∧ ¬endsWithSlash rule.path then "^" ++ rule.path ++ "(?:/([^?]*))?"
       else "^" ++ rule.path ++ "([^?]*)?") ++ " " ++
      (if endsWithSlash rule.path ∧ ¬endsWithSlash (filterPrefix R) then filterPrefix R ++ "/$1?$args?"
       else filterPrefix R ++ "$1?$args?") := by
  simp only [createMainRewriteForFilters, hpt, ne_eq, not_true_eq_false, if_false, escapeDollar_of_isLiteral hlit]
  rfl

/-- The main rewrite of one shape, on a URI its expression matches: the
filter prefix, then the capture, with the request's arguments. -/
theorem apply_mainRewrite {P tail fp : String} {r : Re Char}
    (hP : ∀ c ∈ P.toList, Pcre.isLiteral c = true ∧ isWordChar c = true)
    (htail : ∀ top : Pcre.Frame, run Pcre.Parser.step ⟨top, [], 0, .text⟩ tail.toList =
      some ⟨{ top with items := r :: top.items }, [], 1, .afterQuant⟩)
    (htailw : tail.toList.all isWordChar = true) (hfp : PlainText fp.toList) {u : String} {t : Thread Char}
    (hs : Re.search (Re.cat (.bol :: (P.toList.map .lit ++ [r]))) u.toList = some t)
    (vars : String → String) (args : String) :
    ∃ d, readLocationRewrite ("^" ++ P ++ tail ++ " " ++ (fp ++ "$1?$args?") ++ " break") = some d ∧
      d.apply vars ⟨u, args⟩ = some (.ok ⟨String.ofList (fp.toList ++ (t.capture 1).getD []), args⟩) := by
  have hre : "^" ++ P ++ tail = String.ofList ('^' :: (P.toList ++ tail.toList)) := by
    rw [← String.toList_inj]
    simp
  have hrepl : fp ++ "$1?$args?" = String.ofList (fp.toList ++ "$1?$args?".toList) := by
    rw [← String.toList_inj]
    simp
  rw [hre, hrepl]
  exact ⟨_, readLocationRewrite_prefix hP htail htailw hfp, apply_prefixRewrite hfp.ne_nil hs vars args⟩

theorem prefixTail_word : "([^?]*)?".toList.all isWordChar = true := by simp [isWordChar, isSpace]

theorem slashTail_word : "(?:/([^?]*))?".toList.all isWordChar = true := by simp [isWordChar, isSpace]

/-- The characters of a literal prefix path that `validatePathInMatch` admits. -/
theorem literal_word_of_validatePathInMatch {P : String} (hP : validatePathInMatch P = .ok ())
    (hlit : ∀ c ∈ P.toList, Pcre.isLiteral c = true) (hn : '\n' ∉ P.toList) :
    ∀ c ∈ P.toList, Pcre.isLiteral c = true ∧ isWordChar c = true := fun c hc =>
  ⟨hlit c hc, isWordChar_of_isPathChar
    (isPathChar_of_matchesPathFmt (matchesPathFmt_of_validatePathInMatch hP) c hc fun h => hn (h ▸ hc))
    (not_backslash_of_isLiteral (hlit c hc))⟩

/-- **Below the prefix.** For a prefix path of literal characters and a
replacement without `?` or `\`, neither with a line break, the URL rewrite
of a request `P₀/w` below the prefix, `w` without `?`, is the Gateway API's
prefix replacement, and the request's arguments are kept. -/
theorem prefixRewrite_of_literal_below {rule : PathRule} (hpt : rule.pathType = .pathPrefix)
    (hP : validatePathInMatch rule.path = .ok ()) (hlit : ∀ c ∈ rule.path.toList, Pcre.isLiteral c = true)
    (hnP : '\n' ∉ rule.path.toList) {R : String} (hR : validatePath R = .ok ()) (hq : '?' ∉ R.toList)
    (hb : '\\' ∉ R.toList) (hn : '\n' ∉ R.toList) {w : String} (hw : '?' ∉ w.toList) (vars : String → String) (args : String) :
    ∃ rw, createRewritesValForRewriteFilter (some { path := some ⟨R, .replacePrefixMatch⟩ }) rule = some rw ∧
      ∃ d, readLocationRewrite rw.mainRewrite = some d ∧
        d.apply vars ⟨trimSlash rule.path ++ "/" ++ w, args⟩ =
          some (.ok ⟨replacePrefixMatch rule.path R (trimSlash rule.path ++ "/" ++ w), args⟩) := by
  have hPc := literal_word_of_validatePathInMatch hP hlit hnP
  have hfp := plainText_filterPrefix hR hq hb hn
  have hspec := toList_replacePrefixMatch_below rule.path R w
  have hslash := trimSlash_append_slash R
  have hnil : ∀ b, ([] : List Char).head? = some b → b = '?' := by simp
  refine ⟨_, createRewritesValForRewriteFilter_prefix hpt R, ?_⟩
  rw [createMainRewriteForFilters_literal hpt hlit R]
  have hresult : ∀ x : List Char, x = (trimSlash R).toList ++ '/' :: w.toList →
      (some (.ok ⟨String.ofList x, args⟩) : Option (Except Nat Request)) =
        some (.ok ⟨replacePrefixMatch rule.path R (trimSlash rule.path ++ "/" ++ w), args⟩) := by
    rintro x rfl
    rw [← hspec, String.ofList_toList]
  cases hsP : endsWithSlash rule.path with
  | true =>
    obtain ⟨P₀, hP₀⟩ := endsWithSlash_iff.1 hsP
    have hu : (trimSlash rule.path ++ "/" ++ w).toList = rule.path.toList ++ w.toList ++ [] := by
      simp [String.toList_append, toList_trimSlash_of_endsWithSlash hP₀, hP₀]
    have hs := search_prefixRegex rule.path.toList hw hnil
    rw [← hu] at hs
    cases hsF : endsWithSlash (filterPrefix R) with
    | true =>
      simp only [not_true_eq_false, and_false, if_false]
      obtain ⟨d, hd, happ⟩ := apply_mainRewrite hPc run_step_prefixTail prefixTail_word hfp hs vars args
      refine ⟨d, hd, happ.trans (hresult _ ?_)⟩
      simp only [hsF, if_true] at hslash
      simp [Thread.capture, ← hslash]
    | false =>
      simp only [Bool.false_eq_true, not_true_eq_false, and_self, if_false, not_false_eq_true, if_true]
      have hfp' : PlainText (filterPrefix R ++ "/").toList := by
        rw [String.toList_append]
        exact hfp.append_slash
      have hrepl : filterPrefix R ++ "/$1?$args?" = filterPrefix R ++ "/" ++ "$1?$args?" := by
        rw [String.append_assoc]
        rfl
      rw [hrepl]
      obtain ⟨d, hd, happ⟩ := apply_mainRewrite hPc run_step_prefixTail prefixTail_word hfp' hs vars args
      refine ⟨d, hd, happ.trans (hresult _ ?_)⟩
      simp only [hsF, Bool.false_eq_true, if_false] at hslash
      simp [Thread.capture, String.toList_append, ← hslash]
  | false =>
    have hu : (trimSlash rule.path).toList = rule.path.toList := by rw [trimSlash_of_not_endsWithSlash hsP]
    cases hsF : endsWithSlash (filterPrefix R) with
    | true =>
      have hs := search_slashRegex rule.path.toList hw hnil
      rw [show rule.path.toList ++ '/' :: w.toList ++ [] = (trimSlash rule.path ++ "/" ++ w).toList by
        simp [String.toList_append, hu]] at hs
      simp only [Bool.false_eq_true, not_false_eq_true, and_self, if_true, not_true_eq_false, if_false]
      obtain ⟨d, hd, happ⟩ := apply_mainRewrite hPc run_step_slashTail slashTail_word hfp hs vars args
      refine ⟨d, hd, happ.trans (hresult _ ?_)⟩
      simp only [hsF, if_true] at hslash
      simp [Thread.capture, ← hslash]
    | false =>
      have hw' : '?' ∉ '/' :: w.toList := by simpa using hw
      have hs := search_prefixRegex rule.path.toList hw' hnil
      rw [show rule.path.toList ++ '/' :: w.toList ++ [] = (trimSlash rule.path ++ "/" ++ w).toList by
        simp [String.toList_append, hu]] at hs
      simp only [Bool.false_eq_true, not_false_eq_true, and_true, if_false]
      obtain ⟨d, hd, happ⟩ := apply_mainRewrite hPc run_step_prefixTail prefixTail_word hfp hs vars args
      refine ⟨d, hd, happ.trans (hresult _ ?_)⟩
      simp only [hsF, Bool.false_eq_true, if_false] at hslash
      simp [Thread.capture, List.append_cancel_right hslash]

/-- The prefix `/old` replaced by `/new`: the request `/old/x?y=1` is
rewritten to `/new/x`, its arguments kept. -/
theorem prefixRewrite_old_new :
    replacePrefixMatch "/old" "/new" (trimSlash "/old" ++ "/" ++ "x") = "/new/x" ∧
      ∃ rw, createRewritesValForRewriteFilter (some { path := some ⟨"/new", .replacePrefixMatch⟩ })
          { path := "/old", pathType := .pathPrefix, matchRules := [] } = some rw ∧
        ∃ d, readLocationRewrite rw.mainRewrite = some d ∧
          d.apply (fun _ => "") ⟨trimSlash "/old" ++ "/" ++ "x", "y=1"⟩ =
            some (.ok ⟨replacePrefixMatch "/old" "/new" (trimSlash "/old" ++ "/" ++ "x"), "y=1"⟩) := by
  have hlit : ∀ c ∈ "/old".toList, Pcre.isLiteral c = true := by simp [Pcre.isLiteral]
  have hw : '?' ∉ "x".toList := by decide
  exact ⟨by decide, prefixRewrite_of_literal_below rfl (by decide) hlit (by decide) (by decide) (by decide) (by decide)
    (by decide) hw _ _⟩

/-! ## A replacement with a final line break -/

/-- The rewrite line of a prefix whose replacement's word `w` is followed by
a line break: the replacement's tail is read as a word of its own. -/
theorem tokenize_rewrite_split_replacement {re w repl : List Char} (hre : plainWord re) (hw : plainWord w)
    (hrepl : plainWord repl) :
    tokenize ("\n        ".toList ++ ("rewrite".toList ++ [' ']) ++ (re ++ [' ']) ++ (w ++ ['\n']) ++ (repl ++ [' ']) ++
        ("break".toList ++ [';'])) =
      .ok [.directive ["rewrite", String.ofList re, String.ofList w, String.ofList repl, "break"]] := by
  have hrun : (Lexer.boundary [] []).run ("\n        ".toList ++ ("rewrite".toList ++ [' ']) ++ (re ++ [' ']) ++
      (w ++ ['\n']) ++ (repl ++ [' ']) ++ ("break".toList ++ [';'])) =
      .ok (Lexer.boundary [.directive ["rewrite", String.ofList re, String.ofList w, String.ofList repl, "break"]] []) := by
    simp only [List.append_assoc _ _ ("break".toList ++ [';'])]
    rw [List.append_assoc, List.append_assoc, List.append_assoc,
      Lexer.run_append_of_ok (Lexer.run_boundary_spaces (by decide : "\n        ".toList.all isSpace)),
      Lexer.run_append_of_ok (Lexer.run_word_space (w := "rewrite".toList) (by decide) (by decide : isSpace ' ')),
      Lexer.run_append_of_ok (Lexer.run_word_space hre (by decide : isSpace ' ')),
      Lexer.run_append_of_ok (Lexer.run_word_space hw (by decide : isSpace '\n')),
      ← List.append_assoc repl, Lexer.run_append_of_ok (Lexer.run_word_space hrepl (by decide : isSpace ' '))]
    simpa using @Lexer.run_word_semicolon [] ["rewrite", String.ofList re, String.ofList w, String.ofList repl]
      "break".toList (by decide)
  unfold tokenize
  rw [show ({} : Lexer) = Lexer.boundary [] [] from rfl, hrun]
  rfl

/-- `rewrite` takes two or three arguments. -/
theorem readRewrite_eq_none_of_length {words : List String} (h : 4 < words.length) : readRewrite words = none := by
  unfold readRewrite
  split <;> simp_all

theorem not_plainWord_of_final_newline {w : List Char} (h : plainWord (w ++ ['\n'])) : False := by
  cases w with
  | nil => simp [plainWord, isWordStart, isWordChar, isSpace] at h
  | cons c w => simp [plainWord, isWordChar, isSpace] at h

/-- A path that passes `validatePath` and ends in a line break is a plain
word and that line break. -/
theorem exists_plainWord_of_final_newline {p : String} (hv : validatePath p = .ok ()) (hb : '\\' ∉ p.toList)
    (hfinal : p.toList.getLast? = some '\n') : ∃ w, plainWord w ∧ p.toList = w ++ ['\n'] := by
  have hne : p ≠ "" := by
    rintro rfl
    simp at hfinal
  obtain ⟨w, hw, h | h⟩ := plainWord_of_validatePath hv hne hb
  · rw [h] at hfinal
    obtain ⟨w₀, rfl⟩ := List.getLast?_eq_some_iff.1 hfinal
    exact (not_plainWord_of_final_newline hw).elim
  · exact ⟨w, hw, h⟩

/-- The rewrite line of an expression `re` and a replacement `R ++ tail`
whose `R` ends in a line break reads as five words. -/
theorem tokenize_directiveLine_final_newline {re R tail : String} {w : List Char} (hre : plainWord re.toList)
    (hw : plainWord w) (htail : plainWord tail.toList) (hsplit : R.toList = w ++ ['\n']) :
    tokenize (directiveLine ["rewrite", re ++ " " ++ (R ++ tail) ++ " break"]) =
      .ok [.directive ["rewrite", re, String.ofList w, tail, "break"]] := by
  have hline : directiveLine ["rewrite", re ++ " " ++ (R ++ tail) ++ " break"] =
      "\n        ".toList ++ ("rewrite".toList ++ [' ']) ++ (re.toList ++ [' ']) ++ (w ++ ['\n']) ++
        (tail.toList ++ [' ']) ++ ("break".toList ++ [';']) := by
    have h1 : " break".toList = [' '] ++ "break".toList := rfl
    unfold directiveLine
    simp only [List.map_cons, List.map_nil, List.intercalate_cons_cons, List.intercalate_singleton,
      String.toList_append, hsplit, h1]
    simp
  rw [hline, tokenize_rewrite_split_replacement hre hw htail, String.ofList_toList, String.ofList_toList]

/-- A replacement that ends in a line break passes `validatePath`, since `$`
matches before it. On every prefix path of literal characters the
location's rewrite line then reads back as five words, and NGINX takes no
`rewrite` from it. -/
theorem prefixRewrite_unreadable_of_final_newline {rule : PathRule} (hpt : rule.pathType = .pathPrefix)
    (hP : validatePathInMatch rule.path = .ok ()) (hlit : ∀ c ∈ rule.path.toList, Pcre.isLiteral c = true)
    (hnP : '\n' ∉ rule.path.toList) {R : String} (hR : validatePath R = .ok ()) (hb : '\\' ∉ R.toList)
    (hfinal : R.toList.getLast? = some '\n') :
    ∃ rw, createRewritesValForRewriteFilter (some { path := some ⟨R, .replacePrefixMatch⟩ }) rule = some rw ∧
      readLocationRewrite rw.mainRewrite = none := by
  obtain ⟨w, hw, hsplit⟩ := exists_plainWord_of_final_newline hR hb hfinal
  have hne : R ≠ "" := by
    rintro rfl
    simp at hfinal
  have hslashR : endsWithSlash R = false := by
    simp [endsWithSlash, hsplit]
  have hslash : endsWithSlash (filterPrefix R) = false := by
    simp [filterPrefix, hne, hslashR]
  have hPc := literal_word_of_validatePathInMatch hP hlit hnP
  have hre : plainWord ("^" ++ rule.path ++ "([^?]*)?").toList := by
    rw [show ("^" ++ rule.path ++ "([^?]*)?").toList = '^' :: (rule.path.toList ++ "([^?]*)?".toList) by simp]
    simp only [plainWord, List.all_append, Bool.and_eq_true, List.all_eq_true]
    exact ⟨by decide, fun c hc => (hPc c hc).2, List.all_eq_true.1 prefixTail_word⟩
  -- the tail the source appends depends on the slashes of the path and of the replacement
  obtain ⟨tail, htail, hrepl⟩ : ∃ tail : String, plainWord tail.toList ∧
      (if endsWithSlash rule.path ∧ ¬endsWithSlash (filterPrefix R) then filterPrefix R ++ "/$1?$args?"
        else filterPrefix R ++ "$1?$args?") = R ++ tail := by
    by_cases hsP : endsWithSlash rule.path = true
    · exact ⟨"/$1?$args?", by decide, by simp [hsP, hslashR, filterPrefix, hne]⟩
    · exact ⟨"$1?$args?", by decide, by simp [hsP, filterPrefix, hne]⟩
  refine ⟨_, createRewritesValForRewriteFilter_prefix hpt R, ?_⟩
  rw [createMainRewriteForFilters_literal hpt hlit R, hrepl]
  simp only [hslash, Bool.false_eq_true, false_and, if_false]
  rw [readLocationRewrite, tokenize_directiveLine_final_newline hre hw htail hsplit]
  exact readRewrite_eq_none_of_length (by simp)

/-- The replacement `/new` and a line break, on the prefix `/old`: the filter
passes validation, and the rewrite line has five words. -/
theorem newline_replacement_rewrite_unreadable :
    validateFilterRewrite (some { path := some ⟨"/new\n", .replacePrefixMatch⟩ }) "spec.rules[0].filters[0]" = [] ∧
      ∃ rw, createRewritesValForRewriteFilter (some { path := some ⟨"/new\n", .replacePrefixMatch⟩ })
          { path := "/old", pathType := .pathPrefix, matchRules := [] } = some rw ∧
        readLocationRewrite rw.mainRewrite = none := by
  have hlit : ∀ c ∈ "/old".toList, Pcre.isLiteral c = true := by simp [Pcre.isLiteral]
  exact ⟨by decide, prefixRewrite_unreadable_of_final_newline rfl (by decide) hlit (by decide) (by decide) (by decide)
    (by decide)⟩

/-! ## A prefix with a quantifier -/

def quantifierRewrite : HTTPURLRewriteFilter := { path := some ⟨"/new", .replacePrefixMatch⟩ }

/-- A server whose route rewrites the prefix `/a+` to `/new`. -/
def quantifierServer : VirtualServer :=
  { hostname := "cafe.example.com"
    port := 80
    pathRules :=
      [{ path := "/a+", pathType := .pathPrefix
         matchRules := [{ filters := { requestURLRewrite := some quantifierRewrite }, «match» := {},
                          backendGroup := { source := { ns := "default", name := "route" }
                                            backends := [{ upstreamName := "default_svc_80", weight := 1, valid := true }]
                                            ruleIdx := 0, pathRuleIdx := 0 } }] }] }

theorem prefix_quantifier_captured :
    validatePathInMatch "/a+" = .ok () ∧ validatePath "/new" = .ok () ∧
      validateFilterRewrite (some quantifierRewrite) "spec.rules[0].filters[0]" = [] ∧
      (((createLocations (fun _ => false) [] (fun _ => false) quantifierServer "1").1.find? (·.path = "/a+/")).map
          (·.rewrites) = some ["^/a+([^?]*)? /new$1?$args? break"]) ∧
      (((createLocations (fun _ => false) [] (fun _ => false) quantifierServer "1").1.find? (·.path = "/a+/")).bind
          fun l => rewritePhase (fun _ => "") l ⟨"/a+/x", "q=1"⟩) = some (.ok ⟨"/new+/x", "q=1"⟩) ∧
      replacePrefixMatch "/a+" "/new" "/a+/x" = "/new/x" := by
  decide +kernel

end GatewayFabric.Config
