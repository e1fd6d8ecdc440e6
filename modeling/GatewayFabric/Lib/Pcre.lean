/-
The syntax of PCRE patterns, for the part of it this parser reads: literal
and escaped characters, `.`, `^`, `$`, classes `[...]` and `[^...]` of single
characters, groups `(...)` numbered by their opening parentheses,
non-capturing groups `(?:...)`, alternatives `|`, and the greedy
quantifiers `*`, `+` and `?`. Everything else (an escape by a letter or a
digit, a range or a bracket in a class, `{`, `(?` other than `(?:`, a lazy or
possessive quantifier) is refused, and so are unbalanced parentheses and a
quantifier that follows nothing repeatable.

Like PCRE's compiler the parser reads the pattern one character at a time,
in a mode that says what the characters before it leave open; a run of
literal characters becomes the sequence of their literals
(`run_step_literals`).
-/
import GatewayFabric.Lib.Backtrack
import GatewayFabric.Lib.Runs

namespace GatewayFabric.Pcre

open Backtrack Runs

/-- The characters that are not literal outside a class. -/
def isLiteral (c : Char) : Bool := !"\\^$.[|()*+?\x7b".toList.contains c

/-- A group being read: its capture number (none for `(?:`), the
alternatives before its last `|`, and the items read since, the latest first. -/
structure Frame where
  capture : Option Nat
  alts : List (Re Char) := []
  items : List (Re Char) := []
  deriving Repr, DecidableEq

/-- What the characters read so far leave open. -/
inductive Mode where
  | text
  /-- after `\` -/
  | escape
  /-- after `(` -/
  | afterOpen
  /-- after `(?` -/
  | afterOpenQ
  /-- after a quantifier -/
  | afterQuant
  /-- after `[` -/
  | classOpen
  /-- in a class, negated or not, with its characters so far -/
  | inClass (negated : Bool) (cs : List Char)
  /-- after `\` in a class -/
  | classEscape (negated : Bool) (cs : List Char)
  deriving Repr, DecidableEq

structure Parser where
  top : Frame := { capture := none }
  /-- the groups around the one being read, the innermost first -/
  stack : List Frame := []
  /-- how many capturing groups were opened -/
  groups : Nat := 0
  mode : Mode := .text
  deriving Repr, DecidableEq

namespace Frame

/-- What the group matches: the sequences of its alternatives, the first preferred. -/
def body (f : Frame) : Re Char := Re.alts (Re.cat f.items.reverse :: f.alts).reverse

/-- The group as an item of the group around it. -/
def close (f : Frame) : Re Char :=
  match f.capture with
  | some n => .group n f.body
  | none => f.body

end Frame

/-- What a quantifier may follow: not an anchor. -/
def repeatable : Re Char → Bool
  | .bol | .eol _ => false
  | _ => true

namespace Parser

def push (p : Parser) (r : Re Char) : Parser :=
  { p with top := { p.top with items := r :: p.top.items }, mode := .text }

/-- A quantifier makes the last item `q` of it. -/
def quantify (p : Parser) (q : Re Char → Re Char) : Option Parser :=
  match p.top.items with
  | r :: rs => if repeatable r then some { p with top := { p.top with items := q r :: rs }, mode := .afterQuant }
    else none
  | [] => none

def openGroup (p : Parser) (capturing : Bool) : Parser :=
  let groups := if capturing then p.groups + 1 else p.groups
  { top := { capture := if capturing then some groups else none }, stack := p.top :: p.stack, groups, mode := .text }

/-- `)`: the group becomes an item of the one around it. -/
def closeGroup (p : Parser) : Option Parser :=
  match p.stack with
  | f :: fs => some { p with top := { f with items := p.top.close :: f.items }, stack := fs, mode := .text }
  | [] => none

/-- `|`: the items so far are an alternative. -/
def bar (p : Parser) : Parser :=
  { p with top := { p.top with alts := Re.cat p.top.items.reverse :: p.top.alts, items := [] }, mode := .text }

/-- A character outside a class, with nothing before it left open. -/
def text (p : Parser) (c : Char) : Option Parser :=
  match c with
  | '\\' => some { p with mode := .escape }
  | '^' => some (p.push .bol)
  | '$' => some (p.push (.eol '\n'))
  | '.' => some (p.push (.cls true ['\n']))
  | '[' => some { p with mode := .classOpen }
  | '|' => some p.bar
  | '(' => some { p with mode := .afterOpen }
  | ')' => p.closeGroup
  | '*' => p.quantify .star
  | '+' => p.quantify Re.plus
  | '?' => p.quantify Re.opt
  | '{' => none
  | c => some (p.push (.lit c))

/-- A character of a class. -/
def classChar (p : Parser) (negated : Bool) (cs : List Char) (c : Char) : Option Parser :=
  match c with
  | ']' => if cs = [] then none else some (p.push (.cls negated cs))
  | '\\' => some { p with mode := .classEscape negated cs }
  | '-' | '[' => none
  | c => some { p with mode := .inClass negated (cs ++ [c]) }

def step (p : Parser) (c : Char) : Option Parser :=
  match p.mode with
  | .text => p.text c
  | .escape => if c.isAlphanum then none else some (p.push (.lit c))
  | .afterOpen => if c = '?' then some { p with mode := .afterOpenQ } else (p.openGroup true).text c
  | .afterOpenQ => if c = ':' then some (p.openGroup false) else none
  | .afterQuant => if c = '*' ∨ c = '+' ∨ c = '?' ∨ c = '{' then none else p.text c
  | .classOpen => if c = '^' then some { p with mode := .inClass true [] } else p.classChar false [] c
  | .inClass negated cs => p.classChar negated cs c
  | .classEscape negated cs => if c.isAlphanum then none else some { p with mode := .inClass negated (cs ++ [c]) }

/-- The end of the pattern: every group closed, no escape or class open. -/
def finish (p : Parser) : Option (Re Char) :=
  match p.stack, p.mode with
  | [], .text | [], .afterQuant => some p.top.body
  | _, _ => none

end Parser

/-- The expression of a pattern, if the pattern is one this parser reads. -/
def parse (pattern : String) : Option (Re Char) :=
  (run Parser.step {} pattern.toList).bind Parser.finish

/-! ## Literal characters -/

theorem text_of_isLiteral {c : Char} (hc : isLiteral c = true) (p : Parser) :
    p.text c = some (p.push (.lit c)) := by
  unfold Parser.text
  split <;> simp_all [isLiteral]

/-- A run of literal characters pushes their literals, in order. -/
theorem run_step_literals {w : List Char} (hw : ∀ c ∈ w, isLiteral c = true) :
    ∀ (top : Frame) (stack : List Frame) (groups : Nat),
      run Parser.step ⟨top, stack, groups, .text⟩ w =
        some ⟨{ top with items := (w.map .lit).reverse ++ top.items }, stack, groups, .text⟩ := by
  induction w with
  | nil => intro top stack groups; rfl
  | cons c w ih =>
    intro top stack groups
    have hstep : Parser.step ⟨top, stack, groups, .text⟩ c =
        some ⟨{ top with items := .lit c :: top.items }, stack, groups, .text⟩ :=
      text_of_isLiteral (hw c List.mem_cons_self) _
    rw [run_cons, hstep, Option.bind_some, ih (fun d hd => hw d (List.mem_cons_of_mem c hd))]
    simp
end GatewayFabric.Pcre
