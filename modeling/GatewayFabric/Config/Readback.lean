/-
What NGINX reads back from a generated location: the template's
directive lines under the lexer of `Nginx.Lexer`.

A directive line whose words are plain is read as one directive with
exactly these words (`tokenize_directiveLine`). A path that passes
`validatePath` starts with `/` and has no blank, `{`, `}` or `;`, but for a
line break at its end, which the format's `$` lets through. If it also has
no `\`, the `rewrite` line of a full-path rewrite to it is read with its
regular expression, the path without that line break, and the `break` flag
(`tokenize_fullPath_rewrite`). The path format does not exclude `\`, which
the lexer takes as an escape of the next character.
-/
import GatewayFabric.Nginx.LexerRuns
import GatewayFabric.Config.Locations
import GatewayFabric.Graph.Filters

namespace GatewayFabric.Config

open Dataplane Nginx Validation GatewayFabric.Graph

/-- A directive line of plain words is read as the directive of these words. -/
theorem tokenize_directiveLine {words : List String} (hne : words ≠ [])
    (hw : words.all fun w => plainWord w.toList) :
    tokenize (directiveLine words) = .ok [.directive words] := by
  have h := @tokenize_directive_line "\n        ".toList (words.map String.toList)
    (by decide +kernel) (by simpa using hne) (by rw [List.all_map]; exact hw)
  unfold directiveLine
  rw [h, List.map_map]
  simp [Function.comp_def]

theorem isWordChar_of_isPathChar {c : Char} (h : isPathChar c) (hb : c ≠ '\\') : isWordChar c := by
  simp only [isPathChar, isRegexSpace, Bool.and_eq_true, Bool.not_eq_true', Bool.or_eq_false_iff,
    decide_eq_true_eq] at h
  simp_all [isWordChar, isSpace]

/-- A path `validatePath` accepts and that has no `\` is a plain word,
followed, as `$` lets through, by a line break. -/
theorem plainWord_of_validatePath {p : String} (hp : validatePath p = .ok ()) (hne : p ≠ "")
    (hb : '\\' ∉ p.toList) : ∃ w, plainWord w ∧ (p.toList = w ∨ p.toList = w ++ ['\n']) := by
  have hfmt : matchesPathFmt p.toList := by
    by_contra h
    simp only [Bool.not_eq_true] at h
    simp [validatePath, hne, h] at hp
  obtain ⟨body, hbody, hcases⟩ := exists_of_matchesPathFmt hfmt
  have hmem : ∀ c ∈ body, c ∈ p.toList := fun c hc => by rcases hcases with h | h <;> simp [h, hc]
  refine ⟨'/' :: body, ?_, hcases⟩
  simp only [plainWord, List.all_eq_true, Bool.and_eq_true]
  exact ⟨by decide, fun c hc => isWordChar_of_isPathChar (List.all_eq_true.1 hbody c hc)
    fun e => hb (e ▸ hmem c hc)⟩

/-- The line `rewrite ^ <w> break` with blanks after the plain word `w`. -/
theorem tokenize_rewrite_break {w sep : List Char} (hw : plainWord w) (hsep : sep ≠ []) (hs : sep.all isSpace) :
    tokenize ("\n        ".toList ++ ("rewrite".toList ++ [' ']) ++ ("^".toList ++ [' ']) ++ (w ++ sep) ++
        ("break".toList ++ [';'])) =
      .ok [.directive ["rewrite", "^", String.ofList w, "break"]] := by
  have hrun : (Lexer.boundary [] []).run ("\n        ".toList ++ ("rewrite".toList ++ [' ']) ++ ("^".toList ++ [' ']) ++
      (w ++ sep) ++ ("break".toList ++ [';'])) =
      .ok (Lexer.boundary [.directive ["rewrite", "^", String.ofList w, "break"]] []) := by
    simp only [List.append_assoc _ _ ("break".toList ++ [';'])]
    rw [List.append_assoc, List.append_assoc,
      Lexer.run_append_of_ok (Lexer.run_boundary_spaces (by decide : "\n        ".toList.all isSpace)),
      Lexer.run_append_of_ok (Lexer.run_word_space (w := "rewrite".toList) (by decide) (by decide : isSpace ' ')),
      Lexer.run_append_of_ok (Lexer.run_word_space (w := "^".toList) (by decide) (by decide : isSpace ' ')),
      ← List.append_assoc w sep, Lexer.run_append_of_ok (Lexer.run_bareWord_spaces (bareWord_of_plainWord hw) hsep hs)]
    simpa using @Lexer.run_word_semicolon [] ["rewrite", "^", String.ofList w] "break".toList (by decide)
  unfold tokenize
  rw [show ({} : Lexer) = Lexer.boundary [] [] from rfl, hrun]
  rfl

/-- A full-path URL rewrite to a validated path without `\\` is read back
as `rewrite ^ <path> break`, with the path cut before the line break at its
end if it has one. -/
theorem tokenize_fullPath_rewrite {p : String} (hp : validatePath p = .ok ()) (hne : p ≠ "")
    (hb : '\\' ∉ p.toList) (rule : PathRule) :
    ∃ w, (p.toList = w ∨ p.toList = w ++ ['\n']) ∧
      ∃ rw, createRewritesValForRewriteFilter (some { path := some { replacement := p, type := .replaceFullPath } })
          rule = some rw ∧
        tokenize (directiveLine ["rewrite", rw.mainRewrite]) = .ok [.directive ["rewrite", "^", String.ofList w, "break"]] := by
  obtain ⟨w, hw, hcases⟩ := plainWord_of_validatePath hp hne hb
  refine ⟨w, hcases, { internalRewrite := "^ $request_uri", mainRewrite := "^ " ++ p ++ " break" }, ?_, ?_⟩
  · have : "^ " ++ p ≠ "" := by simp
    simp [createRewritesValForRewriteFilter, createMainRewriteForFilters, this]
  · have hline : ∀ sep, p.toList ++ [' '] = w ++ sep →
        directiveLine ["rewrite", "^ " ++ p ++ " break"] =
          "\n        ".toList ++ ("rewrite".toList ++ [' ']) ++ ("^".toList ++ [' ']) ++ (w ++ sep) ++
            ("break".toList ++ [';']) := by
      intro sep hsep
      have h1 : "^ ".toList = "^".toList ++ [' '] := by decide +kernel
      have h2 : " break".toList = [' '] ++ "break".toList := by decide +kernel
      unfold directiveLine
      simp only [List.map_cons, List.map_nil, List.intercalate_cons_cons, List.intercalate_singleton,
        String.toList_append, h1, h2, ← hsep]
      simp only [List.append_assoc]
    rcases hcases with h | h
    · rw [hline [' '] (by rw [h]), tokenize_rewrite_break hw (by simp) (by decide)]
    · rw [hline ['\n', ' '] (by simp [h]), tokenize_rewrite_break hw (by simp) (by decide)]

/-- The path `/foo`, rewritten in full on a rule for `/`, is read back
with the flag `break` of its own. -/
theorem tokenize_fullPath_rewrite_foo :
    validatePath "/foo" = .ok () ∧
      ∃ w, ("/foo".toList = w ∨ "/foo".toList = w ++ ['\n']) ∧
        ∃ rw, createRewritesValForRewriteFilter (some { path := some { replacement := "/foo", type := .replaceFullPath } })
            { path := "/", pathType := .pathPrefix, matchRules := [] } = some rw ∧
          tokenize (directiveLine ["rewrite", rw.mainRewrite]) =
            .ok [.directive ["rewrite", "^", String.ofList w, "break"]] := by
  have hp : validatePath "/foo" = .ok () := by decide
  exact ⟨hp, tokenize_fullPath_rewrite hp (by decide) (by decide) _⟩

/-! ## A path ending in `\` -/

def backslashRewrite : HTTPURLRewriteFilter :=
  { path := some { replacement := "/foo\\", type := .replaceFullPath } }

def backslashRedirect : HTTPRequestRedirectFilter :=
  { path := some { replacement := "/foo\\", type := .replaceFullPath } }

def backslashBackendGroup (ruleIdx : Nat) : BackendGroup :=
  { source := { ns := "default", name := "route" }
    backends := [{ upstreamName := "default_svc_80", weight := 1, valid := true }]
    ruleIdx
    pathRuleIdx := ruleIdx }

/-- A server whose route rewrites `/a`, and redirects `/b`, to `/foo\`. -/
def backslashServer : VirtualServer :=
  { hostname := "cafe.example.com"
    port := 80
    pathRules :=
      [{ path := "/a", pathType := .exact
         matchRules := [{ filters := { requestURLRewrite := some backslashRewrite }, «match» := {},
                          backendGroup := backslashBackendGroup 0 }] },
       { path := "/b", pathType := .exact
         matchRules := [{ filters := { requestRedirect := some backslashRedirect }, «match» := {},
                          backendGroup := backslashBackendGroup 1 }] }] }

theorem backslash_path_rewrite_misread :
    validateFilterRewrite (some backslashRewrite) "spec.rules[0].filters[0]" = [] ∧
    validateFilterRedirect (some backslashRedirect) "spec.rules[1].filters[0]" = [] ∧
    ((createLocations (fun _ => false) [] (fun _ => false) backslashServer "1").1.take 2).map
        (fun l => tokenize (locationText l)) =
      [.ok [.blockStart ["location", "=", "/a"],
            .directive ["rewrite", "^", "/foo\\ break"],
            .directive ["proxy_set_header", "Host", "$gw_api_compliant_host"],
            .directive ["proxy_set_header", "X-Forwarded-For", "$proxy_add_x_forwarded_for"],
            .directive ["proxy_set_header", "X-Real-IP", "$remote_addr"],
            .directive ["proxy_set_header", "X-Forwarded-Proto", "$scheme"],
            .directive ["proxy_set_header", "X-Forwarded-Host", "$host"],
            .directive ["proxy_set_header", "X-Forwarded-Port", "$server_port"],
            .directive ["proxy_set_header", "Upgrade", "$http_upgrade"],
            .directive ["proxy_set_header", "Connection", "$connection_upgrade"],
            .directive ["proxy_pass", "http://default_svc_80"],
            .blockEnd],
       .ok [.blockStart ["location", "=", "/b"],
            .directive ["rewrite", "^", "/foo\\;", "return", "302", "$scheme://$host:80$uri$is_args$args"],
            .blockEnd]] := by
  refine ⟨by decide, by decide, ?_⟩
  decide +kernel

end GatewayFabric.Config
