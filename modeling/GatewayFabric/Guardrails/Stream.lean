/-
The response path's per-request buffer, `StreamContext` (`stream.rs`): the
raw chunks held back from the client, the line buffer the LLM stream is
parsed from, and the decoded text of each choice.

Each chunk is held back whole (`process_chunk`); the complete lines of the
line buffer are parsed, as NDJSON or SSE `data:` lines, into the text of the
OpenAI and Ollama formats, kept per choice index. The checkpoint predicates
say when the stream is to be inspected, from the decoded text or from the
raw body.

The UTF-8 decoding of a byte string and `serde_json`'s parse of an
`LlmChunk` are parameters (`Codec`). Lines are trimmed of Unicode white
space, as `str::trim` trims them.
-/
import GatewayFabric.Guardrails.Decision

namespace GatewayFabric.Guardrails

structure OllamaMessage where
  content : Option String := none
  deriving Repr, DecidableEq

structure OpenAIDelta where
  content : Option String := none
  deriving Repr, DecidableEq

structure OpenAIMessage where
  content : Option String := none
  deriving Repr, DecidableEq

structure OpenAIChoice where
  index : Option Nat := none
  delta : Option OpenAIDelta := none
  message : Option OpenAIMessage := none
  text : Option String := none
  deriving Repr, DecidableEq

/-- `LlmChunk`: one parsed line of an OpenAI or Ollama stream. -/
structure LlmChunk where
  done : Option Bool := none
  message : Option OllamaMessage := none
  response : Option String := none
  choices : Option (List OpenAIChoice) := none
  deriving Repr, DecidableEq

/-- The decoders the module takes from the Rust libraries. -/
structure Codec where
  utf8 : List UInt8 → Option String
  parseChunk : String → Option LlmChunk

inductive ResponseVerdict where
  | allow
  | block
  deriving Repr, DecidableEq

/-- `ResponseInspect`, the state of the end-of-stream inspection. -/
inductive ResponseInspect where
  | idle
  | pending
  | done (verdict : ResponseVerdict)
  | resumed
  deriving Repr, DecidableEq

structure StreamContext where
  pendingChunks : List (List UInt8) := []
  lineBuffer : List UInt8 := []
  /-- The decoded text per choice index, in order of first appearance. -/
  choiceTexts : List (Nat × String) := []
  blocked : Bool := false
  streamDone : Bool := false
  totalBufferedBytes : Nat := 0
  headersSuppressed : Bool := false
  uninspectableEncoding : Bool := false
  inspectState : ResponseInspect := .idle
  blockMessage : Option String := none
  deriving Repr, DecidableEq

namespace StreamContext

/-- Append to the text of one choice; a new choice comes last. -/
def appendText (index : Nat) (text : String) : List (Nat × String) → List (Nat × String)
  | [] => [(index, text)]
  | (k, t) :: rest => if k = index then (k, t ++ text) :: rest else (k, t) :: appendText index text rest

def pushChoiceText (ctx : StreamContext) (index : Nat) (text : String) : StreamContext :=
  if text = "" then ctx else { ctx with choiceTexts := appendText index text ctx.choiceTexts }

def hasNoDecodedText (ctx : StreamContext) : Bool :=
  ctx.choiceTexts.all (·.2 = "")

/-- The choices' texts by index, empty ones left out, joined by newlines. -/
def inspectionText (ctx : StreamContext) : String :=
  let keys := (ctx.choiceTexts.map (·.1)).mergeSort (· ≤ ·)
  "\n".intercalate ((keys.filterMap fun k => ctx.choiceTexts.lookup k).filter (· ≠ ""))

/-- A choice's text: its delta, else its message, else its `text`. -/
def choiceText (choice : OpenAIChoice) : Option String :=
  ((choice.delta.bind (·.content)).or (choice.message.bind (·.content))).or choice.text

def extractLlmContent (ctx : StreamContext) (chunk : LlmChunk) : StreamContext :=
  let ctx := if chunk.done.getD false then { ctx with streamDone := true } else ctx
  match chunk.message with
  | some msg =>
    match msg.content with
    | some content => ctx.pushChoiceText 0 content
    | none => ctx
  | none =>
    match chunk.response with
    | some response => ctx.pushChoiceText 0 response
    | none =>
      match chunk.choices with
      | some choices =>
        choices.foldl (fun ctx choice =>
          match choiceText choice with
          | some text => ctx.pushChoiceText (choice.index.getD 0) text
          | none => ctx) ctx
      | none => ctx

/-- Unicode's `White_Space`, the characters `str::trim` strips. -/
def isWhiteSpace (c : Char) : Bool :=
  ('\t' ≤ c && c ≤ '\r') || c = ' ' || c = '\x85' || c = '\xA0' || c = '\u1680' ||
    ('\u2000' ≤ c && c ≤ '\u200A') || c = '\u2028' || c = '\u2029' || c = '\u202F' || c = '\u205F' ||
    c = '\u3000'

/-- `str::trim`. -/
def trimLine (cs : List Char) : List Char :=
  ((cs.dropWhile isWhiteSpace).reverse.dropWhile isWhiteSpace).reverse

/-- One line of the stream as an `LlmChunk`: blank lines, `[DONE]`, lines
that are not UTF-8 and lines that do not parse are skipped. -/
def lineChunk (codec : Codec) (line : List UInt8) : Option LlmChunk :=
  match codec.utf8 line with
  | none => none
  | some s =>
    let line := trimLine s.toList
    if line = [] then none
    else
      let json := if "data:".toList.isPrefixOf line then trimLine (line.drop 5) else line
      if json = [] || json = "[DONE]".toList then none else codec.parseChunk (String.ofList json)

/-- The position of the last newline of the buffer. -/
def lastNewline (buf : List UInt8) : Option Nat :=
  (buf.reverse.findIdx? (· = 10)).map fun i => buf.length - 1 - i

/-- Parse and remove every complete line of the line buffer. -/
def drainCompleteLines (codec : Codec) (ctx : StreamContext) : StreamContext :=
  match lastNewline ctx.lineBuffer with
  | none => ctx
  | some p =>
    let completed := ctx.lineBuffer.take (p + 1)
    (completed.splitOn 10).foldl
      (fun ctx line =>
        match lineChunk codec line with
        | some chunk => ctx.extractLlmContent chunk
        | none => ctx)
      { ctx with lineBuffer := ctx.lineBuffer.drop (p + 1) }

/-- Hold a chunk back from the client and parse the lines it completes. -/
def processChunk (codec : Codec) (ctx : StreamContext) (data : List UInt8) : StreamContext :=
  if data = [] then ctx
  else
    drainCompleteLines codec
      { ctx with
        pendingChunks := ctx.pendingChunks ++ [data]
        totalBufferedBytes := ctx.totalBufferedBytes + data.length
        lineBuffer := ctx.lineBuffer ++ data }

def shouldInspectFinal (ctx : StreamContext) (lastBuf : Bool) : Bool :=
  !ctx.blocked && (lastBuf || ctx.streamDone) && !ctx.hasNoDecodedText

def shouldInspectRawFallback (ctx : StreamContext) (lastBuf : Bool) : Bool :=
  !ctx.blocked && (lastBuf || ctx.streamDone) && ctx.hasNoDecodedText && !ctx.pendingChunks.isEmpty

/-- The raw body as text, when every chunk is UTF-8. -/
def rawInspectionFallback (codec : Codec) (ctx : StreamContext) : Option String :=
  ctx.pendingChunks.foldl (fun acc chunk => acc.bind fun s => (codec.utf8 chunk).map (s ++ ·)) (some "")

/-- At the end of the stream, parse what is left as a last line. -/
def tryDrainRemaining (codec : Codec) (ctx : StreamContext) : StreamContext :=
  if ctx.lineBuffer = [] then ctx
  else drainCompleteLines codec { ctx with lineBuffer := ctx.lineBuffer ++ [10] }

def takePendingChunks (ctx : StreamContext) : List (List UInt8) × StreamContext :=
  (ctx.pendingChunks, { ctx with pendingChunks := [], totalBufferedBytes := 0 })

def clearPendingChunks (ctx : StreamContext) : StreamContext :=
  { ctx with pendingChunks := [], totalBufferedBytes := 0 }

/-! ## What parsing leaves alone -/

/-- `c'` differs from `c` at most in what parsing writes: the line buffer,
the decoded text and `stream_done`. -/
def OnlyParsed (c c' : StreamContext) : Prop :=
  ∃ lb texts done, c' = { c with lineBuffer := lb, choiceTexts := texts, streamDone := done }

theorem OnlyParsed.refl (c : StreamContext) : OnlyParsed c c :=
  ⟨c.lineBuffer, c.choiceTexts, c.streamDone, rfl⟩

theorem OnlyParsed.trans {c₁ c₂ c₃ : StreamContext} (h₁ : OnlyParsed c₁ c₂) (h₂ : OnlyParsed c₂ c₃) :
    OnlyParsed c₁ c₃ := by
  obtain ⟨lb, texts, done, rfl⟩ := h₁
  obtain ⟨lb', texts', done', rfl⟩ := h₂
  exact ⟨lb', texts', done', rfl⟩

/-- A fold whose every step only parses only parses. -/
theorem OnlyParsed.foldl {α : Type} {f : StreamContext → α → StreamContext}
    (hf : ∀ c a, OnlyParsed c (f c a)) (l : List α) (c : StreamContext) : OnlyParsed c (l.foldl f c) := by
  induction l generalizing c with
  | nil => exact OnlyParsed.refl c
  | cons a l ih => exact (hf c a).trans (ih (f c a))

theorem pushChoiceText_onlyParsed (c : StreamContext) (i : Nat) (t : String) :
    OnlyParsed c (c.pushChoiceText i t) := by
  unfold pushChoiceText
  split
  · exact OnlyParsed.refl c
  · exact ⟨c.lineBuffer, _, c.streamDone, rfl⟩

theorem extractLlmContent_onlyParsed (c : StreamContext) (chunk : LlmChunk) :
    OnlyParsed c (c.extractLlmContent chunk) := by
  have hdone : OnlyParsed c (if chunk.done.getD false then { c with streamDone := true } else c) := by
    split
    · exact ⟨c.lineBuffer, c.choiceTexts, true, rfl⟩
    · exact OnlyParsed.refl c
  refine hdone.trans ?_
  have hchoice : ∀ (c' : StreamContext) (choice : OpenAIChoice), OnlyParsed c'
      (match choiceText choice with
        | some text => c'.pushChoiceText (choice.index.getD 0) text
        | none => c') := by
    intro c' choice
    split
    · exact pushChoiceText_onlyParsed _ _ _
    · exact OnlyParsed.refl c'
  unfold extractLlmContent
  repeat' split
  all_goals first
    | exact pushChoiceText_onlyParsed _ _ _
    | exact OnlyParsed.refl _
    | exact OnlyParsed.foldl hchoice _ _

theorem drainCompleteLines_onlyParsed (codec : Codec) (c : StreamContext) :
    OnlyParsed c (drainCompleteLines codec c) := by
  unfold drainCompleteLines
  split
  · exact OnlyParsed.refl c
  · refine OnlyParsed.trans ⟨_, c.choiceTexts, c.streamDone, rfl⟩ (OnlyParsed.foldl (fun c' line => ?_) _ _)
    split
    · exact extractLlmContent_onlyParsed _ _
    · exact OnlyParsed.refl c'

theorem tryDrainRemaining_onlyParsed (codec : Codec) (c : StreamContext) :
    OnlyParsed c (tryDrainRemaining codec c) := by
  unfold tryDrainRemaining
  split
  · exact OnlyParsed.refl c
  · exact OnlyParsed.trans ⟨_, c.choiceTexts, c.streamDone, rfl⟩ (drainCompleteLines_onlyParsed codec _)

/-- A non-empty chunk is held back after the ones before it; parsing does
the rest. -/
theorem processChunk_onlyParsed (codec : Codec) (c : StreamContext) {data : List UInt8} (h : data ≠ []) :
    OnlyParsed
      { c with pendingChunks := c.pendingChunks ++ [data], totalBufferedBytes := c.totalBufferedBytes + data.length }
      (processChunk codec c data) := by
  unfold processChunk
  rw [if_neg h]
  exact OnlyParsed.trans ⟨_, c.choiceTexts, c.streamDone, rfl⟩ (drainCompleteLines_onlyParsed codec _)

theorem processChunk_nil (codec : Codec) (c : StreamContext) : processChunk codec c [] = c := by
  simp [processChunk]

theorem OnlyParsed.pendingChunks_eq {c c' : StreamContext} (h : OnlyParsed c c') :
    c'.pendingChunks = c.pendingChunks := by
  obtain ⟨_, _, _, rfl⟩ := h
  rfl

theorem processChunk_pendingChunks (codec : Codec) (c : StreamContext) (data : List UInt8) :
    (processChunk codec c data).pendingChunks = c.pendingChunks ++ (if data = [] then [] else [data]) := by
  by_cases h : data = []
  · simp [h, processChunk_nil]
  · rw [(processChunk_onlyParsed codec c h).pendingChunks_eq]
    simp [h]

@[simp] theorem tryDrainRemaining_pendingChunks (codec : Codec) (c : StreamContext) :
    (tryDrainRemaining codec c).pendingChunks = c.pendingChunks :=
  (tryDrainRemaining_onlyParsed codec c).pendingChunks_eq

end StreamContext

end GatewayFabric.Guardrails
