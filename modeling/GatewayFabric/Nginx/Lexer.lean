/-
The NGINX configuration lexer, `ngx_conf_read_token`, as NGINX implements
it: whitespace, `;` and `{` end a word; `}` and `#` mean something only
where a word could start (a block end, a comment to the end of the line);
a quote opens a quoted word only at the start of a word and must be
followed by a delimiter; `\` makes the next character part of the word
whatever it is; `${` does not end a word. A word is then copied with the
escapes `\"`, `\'`, `\\`, `\t`, `\r`, `\n` resolved and every other `\`
kept.

The lexer is run over a whole text and returns the statements it read: a
directive ended by `;`, the head of a block ended by `{`, or `}`. This is
what the configuration generator's output is read back with.
-/
import Mathlib

namespace GatewayFabric.Nginx

/-- One statement as `ngx_conf_read_token` returns it: its words and how
it ended (`NGX_OK`, `NGX_CONF_BLOCK_START`, `NGX_CONF_BLOCK_DONE`). -/
inductive Stmt where
  | directive (args : List String)
  | blockStart (args : List String)
  | blockEnd
  deriving Repr, DecidableEq

/-- Why the lexer refuses a text. -/
inductive LexError where
  | unexpected (c : Char)
  | unexpectedEnd
  deriving Repr, DecidableEq

/-- The four characters `ngx_conf_read_token` treats as blanks. -/
def isSpace (c : Char) : Bool :=
  c = ' ' || c = '\t' || c = '\r' || c = '\n'

/-- The copy loop that turns a word's raw characters into its value. A
`\` before any other character is copied, and that character then read as
usual; it is not a `\`, so it is copied too. -/
def unescape : List Char → List Char
  | [] => []
  | '\\' :: c :: rest =>
    if c = '"' ∨ c = '\'' ∨ c = '\\' then c :: unescape rest
    else if c = 't' then '\t' :: unescape rest
    else if c = 'r' then '\r' :: unescape rest
    else if c = 'n' then '\n' :: unescape rest
    else '\\' :: c :: unescape rest
  | c :: rest => c :: unescape rest

/-- The lexer's state between two characters: the locals of
`ngx_conf_read_token`, the words of the statement being read, and the
statements read so far. -/
structure Lexer where
  stmts : List Stmt := []
  args : List String := []
  word : List Char := []
  lastSpace : Bool := true
  quoted : Bool := false
  dQuoted : Bool := false
  sQuoted : Bool := false
  needSpace : Bool := false
  sharpComment : Bool := false
  dollar : Bool := false
  deriving Repr, DecidableEq

namespace Lexer

/-- The `found` branch: the raw word becomes an argument. -/
def endWord (s : Lexer) : Lexer :=
  { s with args := s.args ++ [String.ofList (unescape s.word)], word := [] }

/-- A statement is returned; the next call starts from fresh locals. -/
def emit (s : Lexer) (st : Stmt) : Lexer :=
  { stmts := s.stmts ++ [st] }

/-- A character read where a word may start (`last_space`). -/
def atSpace (s : Lexer) (ch : Char) : Except LexError Lexer :=
  if isSpace ch then .ok s
  else if ch = ';' then
    if s.args = [] then .error (.unexpected ch) else .ok (s.emit (.directive s.args))
  else if ch = '{' then
    if s.args = [] then .error (.unexpected ch) else .ok (s.emit (.blockStart s.args))
  else if ch = '}' then
    if s.args = [] then .ok (s.emit .blockEnd) else .error (.unexpected ch)
  else if ch = '#' then .ok { s with sharpComment := true }
  else if ch = '\\' then .ok { s with quoted := true, lastSpace := false, word := [ch] }
  else if ch = '"' then .ok { s with dQuoted := true, lastSpace := false, word := [] }
  else if ch = '\'' then .ok { s with sQuoted := true, lastSpace := false, word := [] }
  else if ch = '$' then .ok { s with dollar := true, lastSpace := false, word := [ch] }
  else .ok { s with lastSpace := false, word := [ch] }

/-- A character read inside a word. -/
def inWord (s : Lexer) (ch : Char) : Lexer :=
  if ch = '{' ∧ s.dollar then { s with word := s.word ++ [ch] }
  else
    let s := { s with dollar := false }
    if ch = '\\' then { s with quoted := true, word := s.word ++ [ch] }
    else if ch = '$' then { s with dollar := true, word := s.word ++ [ch] }
    else if s.dQuoted then
      if ch = '"' then { s.endWord with dQuoted := false, needSpace := true }
      else { s with word := s.word ++ [ch] }
    else if s.sQuoted then
      if ch = '\'' then { s.endWord with sQuoted := false, needSpace := true }
      else { s with word := s.word ++ [ch] }
    else if isSpace ch then { s.endWord with lastSpace := true }
    else if ch = ';' then s.endWord.emit (.directive s.endWord.args)
    else if ch = '{' then s.endWord.emit (.blockStart s.endWord.args)
    else { s with word := s.word ++ [ch] }

/-- One character of `ngx_conf_read_token`'s loop. -/
def step (s : Lexer) (ch : Char) : Except LexError Lexer :=
  let s := if ch = '\n' then { s with sharpComment := false } else s
  if s.sharpComment then .ok s
  else if s.quoted then .ok { s with quoted := false, word := s.word ++ [ch] }
  else if s.needSpace then
    if isSpace ch then .ok { s with lastSpace := true, needSpace := false }
    else if ch = ';' then .ok (s.emit (.directive s.args))
    else if ch = '{' then .ok (s.emit (.blockStart s.args))
    -- `)` after a quoted word is let through and read as the start of a word
    else if ch = ')' then { s with lastSpace := true, needSpace := false }.atSpace ch
    else .error (.unexpected ch)
  else if s.lastSpace then s.atSpace ch
  else .ok (s.inWord ch)

/-- The lexer run over a list of characters. -/
def run : Lexer → List Char → Except LexError Lexer
  | s, [] => .ok s
  | s, c :: cs => do
    let s' ← s.step c
    s'.run cs

end Lexer

/-- The statements of a whole text; the end of the text must not fall
inside a statement. -/
def tokenize (input : List Char) : Except LexError (List Stmt) := do
  let s ← ({} : Lexer).run input
  if s.args = [] ∧ s.lastSpace then .ok s.stmts else .error .unexpectedEnd

end GatewayFabric.Nginx
