/-
How the NGINX lexer reads a directive line: the states it passes through
between two words and inside a word, and the run lemmas built from them.

A word whose characters are not blanks, `;`, `{` or `\`, and whose first
character is also not `}`, `#` or a quote, is read as itself; a line of such
words, ended by `;`, is read as one directive with exactly these words.
A `{` right after `$`, as in `${name}`, does not end a word either
(`bareWord`); the run lemmas are proved for such words, and those of plain
words follow. Every other character changes what NGINX reads, and the
generator's output is only read back as written where its words are of
this kind.
-/
import GatewayFabric.Nginx.Lexer

namespace GatewayFabric.Nginx

/-- A character that continues a word as itself. -/
def isWordChar (c : Char) : Bool :=
  !isSpace c && c ≠ ';' && c ≠ '{' && c ≠ '\\'

/-- A character that starts a word and is its first character. -/
def isWordStart (c : Char) : Bool :=
  isWordChar c && c ≠ '}' && c ≠ '#' && c ≠ '"' && c ≠ '\''

/-- A word the lexer reads back as written. -/
def plainWord : List Char → Bool
  | [] => false
  | c :: cs => isWordStart c && cs.all isWordChar

theorem unescape_of_no_backslash : ∀ {w : List Char}, '\\' ∉ w → unescape w = w
  | [], _ => rfl
  | [c], _ => by simp [unescape]
  | c :: d :: rest, h => by
    have hc : c ≠ '\\' := fun e => h (e ▸ List.mem_cons_self)
    have hrest : '\\' ∉ d :: rest := fun hm => h (List.mem_cons_of_mem _ hm)
    rw [show unescape (c :: d :: rest) = c :: unescape (d :: rest) by
      simp [unescape, hc]]
    rw [unescape_of_no_backslash hrest]

theorem isSpace_iff {c : Char} : isSpace c ↔ c = ' ' ∨ c = '\t' ∨ c = '\r' ∨ c = '\n' := by
  simp [isSpace, or_assoc]

/-- The rest of a word the lexer reads as written when a `{` may follow a
`$`: `d` is the lexer's `$` flag, which a `$` raises, a `{` after it keeps,
and every other character lowers. -/
def bareRest : Bool → List Char → Bool
  | _, [] => true
  | d, c :: cs => if c = '\x7b' then d && bareRest d cs else isWordChar c && bareRest (c = '$') cs

/-- A word the lexer reads back as written, variables in braces included. -/
def bareWord : List Char → Bool
  | [] => false
  | c :: cs => isWordStart c && bareRest (c = '$') cs

theorem bareRest_of_all_wordChar : ∀ {cs : List Char} {d : Bool}, cs.all isWordChar → bareRest d cs
  | [], _, _ => rfl
  | c :: cs, _, h => by
    simp only [List.all_cons, Bool.and_eq_true] at h
    have hc : c ≠ '\x7b' := by
      rintro rfl
      simp [isWordChar] at h
    simp [bareRest, hc, h.1, bareRest_of_all_wordChar h.2]

theorem bareWord_of_plainWord {w : List Char} (h : plainWord w) : bareWord w := by
  cases w with
  | nil => simp [plainWord] at h
  | cons c cs =>
    simp only [plainWord, Bool.and_eq_true] at h
    simp [bareWord, h.1, bareRest_of_all_wordChar h.2]

theorem all_bareWord_of_all_plainWord {ws : List (List Char)} (h : ws.all plainWord) : ws.all bareWord :=
  List.all_eq_true.2 fun w hw => bareWord_of_plainWord (List.all_eq_true.1 h w hw)

/-- Every character of a word read as written is a word character or a
brace after `$`. -/
theorem wordChar_or_brace_of_mem_bareRest : ∀ {cs : List Char} {d : Bool} {c : Char}, bareRest d cs → c ∈ cs →
    isWordChar c ∨ c = '\x7b'
  | [], _, _, _, hc => absurd hc List.not_mem_nil
  | x :: cs, d, c, h, hc => by
    rcases List.mem_cons.1 hc with rfl | hc
    · by_cases hx : c = '\x7b'
      · exact .inr hx
      · simp only [bareRest, if_neg hx, Bool.and_eq_true] at h
        exact .inl h.1
    · by_cases hx : x = '\x7b'
      · simp only [bareRest, hx, if_true, Bool.and_eq_true] at h
        exact wordChar_or_brace_of_mem_bareRest h.2 hc
      · simp only [bareRest, if_neg hx, Bool.and_eq_true] at h
        exact wordChar_or_brace_of_mem_bareRest h.2 hc

theorem wordChar_or_brace_of_mem_bareWord {w : List Char} {c : Char} (h : bareWord w) (hc : c ∈ w) :
    isWordChar c ∨ c = '\x7b' := by
  cases w with
  | nil => simp [bareWord] at h
  | cons x cs =>
    simp only [bareWord, Bool.and_eq_true] at h
    rcases List.mem_cons.1 hc with rfl | hc
    · simp only [isWordStart, Bool.and_eq_true] at h
      exact .inl h.1.1.1.1.1
    · exact wordChar_or_brace_of_mem_bareRest h.2 hc

theorem bareWord_no_backslash {w : List Char} (h : bareWord w) : '\\' ∉ w := fun hc => by
  rcases wordChar_or_brace_of_mem_bareWord h hc with h' | h' <;> simp [isWordChar] at h'

namespace Lexer

/-- Between two words: the statements read and the current statement's words. -/
def boundary (stmts : List Stmt) (args : List String) : Lexer := { stmts, args }

/-- Inside a plain word: its raw characters so far, and whether the last
one was `$`. -/
def reading (stmts : List Stmt) (args : List String) (word : List Char) (dollar : Bool) : Lexer :=
  { stmts, args, word, lastSpace := false, dollar }

theorem run_append (s : Lexer) (a b : List Char) : s.run (a ++ b) = s.run a >>= fun s' => s'.run b := by
  induction a generalizing s with
  | nil => rfl
  | cons c cs ih =>
    simp only [List.cons_append, run]
    cases s.step c with
    | error e => rfl
    | ok s' => exact ih s'

theorem run_cons_of_step {s s' : Lexer} {c : Char} {cs : List Char} (h : s.step c = .ok s') :
    s.run (c :: cs) = s'.run cs := by
  simp only [run, h]
  rfl

theorem run_append_of_ok {s s' : Lexer} {a : List Char} (h : s.run a = .ok s') (b : List Char) :
    s.run (a ++ b) = s'.run b := by
  rw [run_append, h]
  rfl

/-! ## One character -/

section Step

variable (stmts : List Stmt) (args : List String)

theorem step_boundary_space {c : Char} (h : isSpace c) : (boundary stmts args).step c = .ok (boundary stmts args) := by
  rcases isSpace_iff.mp h with rfl | rfl | rfl | rfl <;> rfl

theorem step_boundary_start {c : Char} (h : isWordStart c) :
    (boundary stmts args).step c = .ok (reading stmts args [c] (c = '$')) := by
  simp only [isWordStart, isWordChar, isSpace] at h
  by_cases hd : c = '$'
  · subst hd; rfl
  · simp_all [step, boundary, reading, atSpace, isSpace]

theorem step_reading_char {w : List Char} {d : Bool} {c : Char} (h : isWordChar c) :
    (reading stmts args w d).step c = .ok (reading stmts args (w ++ [c]) (c = '$')) := by
  simp only [isWordChar, isSpace] at h
  by_cases hd : c = '$'
  · subst hd; simp [step, reading, inWord]
  · simp_all [step, reading, inWord, isSpace]

/-- A `{` after `$` is part of the word, and the flag stays up. -/
theorem step_reading_brace {w : List Char} :
    (reading stmts args w true).step '\x7b' = .ok (reading stmts args (w ++ ['\x7b']) true) := rfl

theorem step_reading_space {w : List Char} {d : Bool} {c : Char} (h : isSpace c) :
    (reading stmts args w d).step c = .ok (boundary stmts (args ++ [String.ofList (unescape w)])) := by
  rcases isSpace_iff.mp h with rfl | rfl | rfl | rfl <;> rfl

theorem step_reading_semicolon {w : List Char} {d : Bool} :
    (reading stmts args w d).step ';' =
      .ok (boundary (stmts ++ [.directive (args ++ [String.ofList (unescape w)])]) []) := rfl

theorem step_boundary_blockStart (hargs : args ≠ []) :
    (boundary stmts args).step '{' = .ok (boundary (stmts ++ [.blockStart args]) []) := by
  simp [step, boundary, atSpace, isSpace, hargs, emit]

theorem step_boundary_blockEnd : (boundary stmts []).step '}' = .ok (boundary (stmts ++ [.blockEnd]) []) := by
  simp [step, boundary, atSpace, isSpace, emit]

end Step

/-! ## Runs -/

section Run

variable {stmts : List Stmt} {args : List String}

theorem run_boundary_spaces : ∀ {sp : List Char}, sp.all isSpace →
    (boundary stmts args).run sp = .ok (boundary stmts args)
  | [], _ => rfl
  | c :: cs, h => by
    simp only [List.all_cons, Bool.and_eq_true] at h
    rw [run_cons_of_step (step_boundary_space stmts args h.1)]
    exact run_boundary_spaces h.2

theorem run_reading_bare : ∀ {cs w : List Char} {d : Bool}, bareRest d cs →
    ∃ d', (reading stmts args w d).run cs = .ok (reading stmts args (w ++ cs) d')
  | [], w, d, _ => ⟨d, by simp [run]⟩
  | c :: cs, w, d, h => by
    by_cases hc : c = '\x7b'
    · subst hc
      simp only [bareRest, if_true, Bool.and_eq_true] at h
      obtain ⟨rfl, hrest⟩ := h
      rw [run_cons_of_step (step_reading_brace stmts args)]
      obtain ⟨d', hrun⟩ := run_reading_bare (w := w ++ ['\x7b']) hrest
      exact ⟨d', by simpa using hrun⟩
    · simp only [bareRest, if_neg hc, Bool.and_eq_true] at h
      rw [run_cons_of_step (step_reading_char stmts args h.1)]
      obtain ⟨d', hrun⟩ := run_reading_bare (w := w ++ [c]) h.2
      exact ⟨d', by simpa using hrun⟩

/-- A word read as written, then a blank: the word is the statement's next argument. -/
theorem run_bareWord_space {w : List Char} {sp : Char} (hw : bareWord w) (hsp : isSpace sp) :
    (boundary stmts args).run (w ++ [sp]) = .ok (boundary stmts (args ++ [String.ofList w])) := by
  obtain _ | ⟨c, cs⟩ := w
  · simp [bareWord] at hw
  have hstart : isWordStart c := by simp only [bareWord, Bool.and_eq_true] at hw; exact hw.1
  have hrest : bareRest (c = '$') cs := by simp only [bareWord, Bool.and_eq_true] at hw; exact hw.2
  obtain ⟨d', hrun⟩ := @run_reading_bare stmts args cs [c] (decide (c = '$')) hrest
  rw [List.cons_append, run_cons_of_step (step_boundary_start stmts args hstart), run_append, hrun]
  simp only [bind, Except.bind, List.singleton_append, run, step_reading_space stmts args hsp]
  rw [unescape_of_no_backslash (bareWord_no_backslash hw)]

/-- A word read as written, then blanks. -/
theorem run_bareWord_spaces {w sep : List Char} (hw : bareWord w) (hsep : sep ≠ []) (hs : sep.all isSpace) :
    (boundary stmts args).run (w ++ sep) = .ok (boundary stmts (args ++ [String.ofList w])) := by
  obtain _ | ⟨c, rest⟩ := sep
  · exact absurd rfl hsep
  simp only [List.all_cons, Bool.and_eq_true] at hs
  rw [← List.singleton_append, ← List.append_assoc, run_append_of_ok (run_bareWord_space hw hs.1),
    run_boundary_spaces hs.2]

/-- A word read as written, then `;`: the statement is read with it as its last word. -/
theorem run_bareWord_semicolon {w : List Char} (hw : bareWord w) :
    (boundary stmts args).run (w ++ [';']) =
      .ok (boundary (stmts ++ [.directive (args ++ [String.ofList w])]) []) := by
  obtain _ | ⟨c, cs⟩ := w
  · simp [bareWord] at hw
  have hstart : isWordStart c := by simp only [bareWord, Bool.and_eq_true] at hw; exact hw.1
  have hrest : bareRest (c = '$') cs := by simp only [bareWord, Bool.and_eq_true] at hw; exact hw.2
  obtain ⟨d', hrun⟩ := @run_reading_bare stmts args cs [c] (decide (c = '$')) hrest
  rw [List.cons_append, run_cons_of_step (step_boundary_start stmts args hstart), run_append, hrun]
  simp only [bind, Except.bind, List.singleton_append, run, step_reading_semicolon stmts args]
  rw [unescape_of_no_backslash (bareWord_no_backslash hw)]

/-- A plain word, then a blank: the word is the statement's next argument. -/
theorem run_word_space {w : List Char} {sp : Char} (hw : plainWord w) (hsp : isSpace sp) :
    (boundary stmts args).run (w ++ [sp]) = .ok (boundary stmts (args ++ [String.ofList w])) :=
  run_bareWord_space (bareWord_of_plainWord hw) hsp

/-- A plain word, then `;`: the statement is read with it as its last word. -/
theorem run_word_semicolon {w : List Char} (hw : plainWord w) :
    (boundary stmts args).run (w ++ [';']) =
      .ok (boundary (stmts ++ [.directive (args ++ [String.ofList w])]) []) :=
  run_bareWord_semicolon (bareWord_of_plainWord hw)

/-- Words read as written, separated by one blank and ended by `;`: one
directive with exactly these words, after the words already read. -/
theorem run_bareWords : ∀ {ws : List (List Char)} {args : List String}, ws ≠ [] → ws.all bareWord →
    (boundary stmts args).run ([' '].intercalate ws ++ [';']) =
      .ok (boundary (stmts ++ [.directive (args ++ ws.map String.ofList)]) [])
  | [], _, h, _ => absurd rfl h
  | [w], args, _, hw => by
    simp only [List.all_cons, List.all_nil, Bool.and_true] at hw
    simpa using run_bareWord_semicolon hw
  | w :: v :: ws, args, _, hw => by
    simp only [List.all_cons, Bool.and_eq_true] at hw
    have hsplit : [' '].intercalate (w :: v :: ws) ++ [';'] =
        (w ++ [' ']) ++ ([' '].intercalate (v :: ws) ++ [';']) := by
      simp [List.intercalate_cons_cons]
    rw [hsplit, run_append, run_bareWord_space hw.1 (by decide)]
    simp only [bind, Except.bind]
    rw [run_bareWords (List.cons_ne_nil v ws) (by simp [hw.2.1, hw.2.2])]
    simp

/-- Words read as written, separated by one blank and followed by a blank:
the statement's next words, still open. -/
theorem run_bareWords_space : ∀ {ws : List (List Char)} {args : List String}, ws ≠ [] → ws.all bareWord →
    (boundary stmts args).run ([' '].intercalate ws ++ [' ']) = .ok (boundary stmts (args ++ ws.map String.ofList))
  | [], _, h, _ => absurd rfl h
  | [w], args, _, hw => by
    simp only [List.all_cons, List.all_nil, Bool.and_true] at hw
    simpa using run_bareWord_space hw (show isSpace ' ' by decide)
  | w :: v :: ws, args, _, hw => by
    simp only [List.all_cons, Bool.and_eq_true] at hw
    have hsplit : [' '].intercalate (w :: v :: ws) ++ [' '] =
        (w ++ [' ']) ++ ([' '].intercalate (v :: ws) ++ [' ']) := by
      simp [List.intercalate_cons_cons]
    rw [hsplit, run_append_of_ok (run_bareWord_space hw.1 (by decide)),
      run_bareWords_space (List.cons_ne_nil v ws) (by simp [hw.2.1, hw.2.2])]
    simp

theorem run_words {ws : List (List Char)} {args : List String} (hne : ws ≠ []) (hws : ws.all plainWord) :
    (boundary stmts args).run ([' '].intercalate ws ++ [';']) =
      .ok (boundary (stmts ++ [.directive (args ++ ws.map String.ofList)]) []) :=
  run_bareWords hne (all_bareWord_of_all_plainWord hws)

theorem run_words_space {ws : List (List Char)} {args : List String} (hne : ws ≠ []) (hws : ws.all plainWord) :
    (boundary stmts args).run ([' '].intercalate ws ++ [' ']) = .ok (boundary stmts (args ++ ws.map String.ofList)) :=
  run_bareWords_space hne (all_bareWord_of_all_plainWord hws)

/-- A directive line between blanks: blanks, words read as written separated
by one blank, `;`, blanks. -/
theorem run_bare_directive_line {sp sp' : List Char} {ws : List (List Char)} (hsp : sp.all isSpace)
    (hsp' : sp'.all isSpace) (hne : ws ≠ []) (hws : ws.all bareWord) :
    (boundary stmts []).run (sp ++ ([' '].intercalate ws ++ [';']) ++ sp') =
      .ok (boundary (stmts ++ [.directive (ws.map String.ofList)]) []) := by
  have hline : (boundary stmts []).run (sp ++ ([' '].intercalate ws ++ [';'])) =
      .ok (boundary (stmts ++ [.directive (ws.map String.ofList)]) []) := by
    rw [run_append_of_ok (run_boundary_spaces hsp)]
    simpa using @run_bareWords stmts ws [] hne hws
  rw [run_append_of_ok hline, run_boundary_spaces hsp']

theorem run_directive_line {sp sp' : List Char} {ws : List (List Char)} (hsp : sp.all isSpace)
    (hsp' : sp'.all isSpace) (hne : ws ≠ []) (hws : ws.all plainWord) :
    (boundary stmts []).run (sp ++ ([' '].intercalate ws ++ [';']) ++ sp') =
      .ok (boundary (stmts ++ [.directive (ws.map String.ofList)]) []) :=
  run_bare_directive_line hsp hsp' hne (all_bareWord_of_all_plainWord hws)

end Run

end Lexer

/-- A text of blanks, then plain words separated by one blank and ended
by `;`, is read as the one directive of those words. -/
theorem tokenize_directive_line {sp : List Char} {ws : List (List Char)} (hsp : sp.all isSpace) (hne : ws ≠ [])
    (hws : ws.all plainWord) :
    tokenize (sp ++ [' '].intercalate ws ++ [';']) = .ok [.directive (ws.map String.ofList)] := by
  have hrun : ({} : Lexer).run (sp ++ [' '].intercalate ws ++ [';']) =
      .ok (Lexer.boundary [.directive (ws.map String.ofList)] []) := by
    rw [List.append_assoc, Lexer.run_append, show ({} : Lexer) = Lexer.boundary [] [] from rfl,
      Lexer.run_boundary_spaces hsp]
    exact Lexer.run_words hne hws
  unfold tokenize
  rw [hrun]
  rfl

end GatewayFabric.Nginx
