/-
What a run of chunks parses (`stream.rs`): the line buffer holds the rest
after the last newline, and the decoded text and `stream_done` are what the
complete lines of the bytes so far carry, however the bytes came in chunks.

Each function gets one spec lemma saying what it writes: `extract_llm_content`
pushes the texts of the chunk (`extractLlmContent_eq`), the loop of
`drain_complete_lines` reads its lines (`foldl_parseLine`), and a drain reads
the complete lines of the buffer and keeps the rest (`drainCompleteLines_eq`).
The run lemma (`foldl_processChunk`) follows from the lines of two pieces
(`Lines.complete_append`).

A drain also reads the empty line after its last newline; that this line is
skipped rests on the UTF-8 decoding of no bytes, which is the empty string.
-/
import GatewayFabric.Guardrails.Stream
import GatewayFabric.Lib.Lines

namespace GatewayFabric.Guardrails

namespace StreamContext

/-! ## The texts a chunk carries -/

/-- The texts a parsed line carries, each with the choice it goes to, in the
order `extract_llm_content` pushes them: an Ollama message, else an Ollama
`response`, else each choice's text (delta, else message, else `text`). -/
def chunkTexts (chunk : LlmChunk) : List (Nat × String) :=
  match chunk.message with
  | some msg =>
    match msg.content with
    | some content => [(0, content)]
    | none => []
  | none =>
    match chunk.response with
    | some response => [(0, response)]
    | none =>
      match chunk.choices with
      | some choices => choices.filterMap fun choice => (choiceText choice).map ((choice.index.getD 0, ·))
      | none => []

/-- Push texts, in order, onto the text of their choices; empty ones are skipped. -/
def pushTexts (texts : List (Nat × String)) (acc : List (Nat × String)) : List (Nat × String) :=
  texts.foldl (fun acc e => if e.2 = "" then acc else appendText e.1 e.2 acc) acc

@[simp] theorem pushTexts_nil (acc : List (Nat × String)) : pushTexts [] acc = acc := rfl

theorem pushTexts_cons (e : Nat × String) (texts acc : List (Nat × String)) :
    pushTexts (e :: texts) acc = pushTexts texts (if e.2 = "" then acc else appendText e.1 e.2 acc) := rfl

theorem pushTexts_append (texts texts' acc : List (Nat × String)) :
    pushTexts (texts ++ texts') acc = pushTexts texts' (pushTexts texts acc) :=
  List.foldl_append

theorem pushChoiceText_eq (ctx : StreamContext) (index : Nat) (text : String) :
    ctx.pushChoiceText index text = { ctx with choiceTexts := pushTexts [(index, text)] ctx.choiceTexts } := by
  unfold pushChoiceText
  split <;> simp [pushTexts_cons, *]

/-- The spec of one append: the text of its choice grows, a new choice
starting from the empty text, and no other choice changes. -/
theorem lookup_appendText (index : Nat) (text : String) (i : Nat) :
    ∀ acc : List (Nat × String), (appendText index text acc).lookup i =
      if i = index then some ((acc.lookup i).getD "" ++ text) else acc.lookup i
  | [] => by
    by_cases hi : i = index
    · simp [appendText, hi]
    · have hb : (i == index) = false := by simpa using hi
      simp [appendText, List.lookup_cons, hi, hb]
  | (k, t) :: acc => by
    rw [appendText]
    by_cases hk : k = index
    · subst hk
      by_cases hi : i = k
      · simp [hi]
      · have hb : (i == k) = false := by simpa using hi
        simp [List.lookup_cons, hi, hb]
    · rw [if_neg hk, List.lookup_cons, List.lookup_cons, lookup_appendText index text i acc]
      by_cases hi : i = k
      · simp [hi, hk]
      · have hb : (i == k) = false := by simpa using hi
        simp [hb]

/-- The text of a choice after a push: what it was, then the texts pushed
for it, in order. -/
theorem lookup_pushTexts (i : Nat) :
    ∀ (texts acc : List (Nat × String)), ((pushTexts texts acc).lookup i).getD "" =
      (acc.lookup i).getD "" ++ String.join ((texts.filter (·.1 = i)).map (·.2))
  | [], acc => by simp
  | (k, t) :: texts, acc => by
    rw [pushTexts_cons, lookup_pushTexts i texts]
    by_cases ht : t = ""
    · by_cases hk : k = i <;> simp [ht, hk]
    · rw [if_neg ht, lookup_appendText]
      by_cases hk : k = i
      · subst hk
        simp [String.append_assoc]
      · have hik : i ≠ k := fun h => hk h.symm
        simp [hk, hik]

/-- The loop over the choices of an OpenAI chunk. -/
theorem foldl_choices_eq (choices : List OpenAIChoice) (ctx : StreamContext) :
    choices.foldl (fun ctx choice =>
        match choiceText choice with
        | some text => ctx.pushChoiceText (choice.index.getD 0) text
        | none => ctx) ctx =
      { ctx with
        choiceTexts := pushTexts (choices.filterMap fun choice => (choiceText choice).map ((choice.index.getD 0, ·)))
          ctx.choiceTexts } := by
  induction choices generalizing ctx with
  | nil => rfl
  | cons choice choices ih =>
    rw [List.foldl_cons, ih, List.filterMap_cons]
    cases choiceText choice with
    | none => rfl
    | some text => simp [pushChoiceText_eq, pushTexts_cons]

/-- The spec of `extract_llm_content`: the chunk's texts are pushed and its
`done` sets `stream_done`. -/
theorem extractLlmContent_eq (ctx : StreamContext) (chunk : LlmChunk) :
    ctx.extractLlmContent chunk =
      { ctx with
        choiceTexts := pushTexts (chunkTexts chunk) ctx.choiceTexts
        streamDone := ctx.streamDone || chunk.done.getD false } := by
  obtain ⟨done, message, response, choices⟩ := chunk
  have hdone : (if done.getD false then { ctx with streamDone := true } else ctx) =
      { ctx with streamDone := ctx.streamDone || done.getD false } := by
    cases done.getD false <;> simp
  unfold extractLlmContent chunkTexts
  rw [hdone]
  cases message with
  | some msg =>
    obtain ⟨content⟩ := msg
    cases content <;> simp [pushChoiceText_eq]
  | none =>
    cases response with
    | some response => simp [pushChoiceText_eq]
    | none =>
      cases choices with
      | some choices => exact foldl_choices_eq choices _
      | none => rfl

/-! ## Lines -/

/-- The texts one line of the stream carries. -/
def lineTexts (codec : Codec) (line : List UInt8) : List (Nat × String) :=
  ((lineChunk codec line).map chunkTexts).getD []

/-- Whether one line of the stream ends it. -/
def lineDone (codec : Codec) (line : List UInt8) : Bool :=
  ((lineChunk codec line).map (·.done.getD false)).getD false

/-- The step of the loop of `drain_complete_lines`. -/
def parseLine (codec : Codec) (ctx : StreamContext) (line : List UInt8) : StreamContext :=
  match lineChunk codec line with
  | some chunk => ctx.extractLlmContent chunk
  | none => ctx

/-- What reading lines writes: their texts pushed onto the choices, and
`stream_done` when one of them ends the stream. -/
def readLines (codec : Codec) (lines : List (List UInt8)) (ctx : StreamContext) : StreamContext :=
  { ctx with
    choiceTexts := pushTexts (lines.flatMap (lineTexts codec)) ctx.choiceTexts
    streamDone := ctx.streamDone || lines.any (lineDone codec) }

variable {codec : Codec}

@[simp] theorem readLines_nil (ctx : StreamContext) : readLines codec [] ctx = ctx := by
  simp [readLines]

theorem readLines_append (lines lines' : List (List UInt8)) (ctx : StreamContext) :
    readLines codec (lines ++ lines') ctx = readLines codec lines' (readLines codec lines ctx) := by
  simp [readLines, pushTexts_append, Bool.or_assoc]

theorem parseLine_eq (ctx : StreamContext) (line : List UInt8) :
    parseLine codec ctx line = readLines codec [line] ctx := by
  unfold parseLine
  cases h : lineChunk codec line with
  | none => simp [readLines, lineTexts, lineDone, h]
  | some chunk => simp [readLines, lineTexts, lineDone, h, extractLlmContent_eq]

theorem foldl_parseLine (lines : List (List UInt8)) (ctx : StreamContext) :
    lines.foldl (parseLine codec) ctx = readLines codec lines ctx := by
  induction lines generalizing ctx with
  | nil => simp
  | cons line lines ih =>
    rw [List.foldl_cons, ih, parseLine_eq, ← readLines_append, List.singleton_append]

section Utf8

variable (hutf8 : codec.utf8 [] = some "")
include hutf8

theorem lineChunk_nil : lineChunk codec [] = none := by
  simp [lineChunk, hutf8, trimLine]

/-- The empty line after the last newline of a drain is skipped. -/
theorem readLines_append_nil (lines : List (List UInt8)) (ctx : StreamContext) :
    readLines codec (lines ++ [[]]) ctx = readLines codec lines ctx := by
  rw [readLines_append]
  simp [readLines, lineTexts, lineDone, lineChunk_nil hutf8]

end Utf8

/-! ## The last newline -/

theorem lastNewline_eq_none {buf : List UInt8} (h : (10 : UInt8) ∉ buf) : lastNewline buf = none := by
  have hfind : buf.reverse.findIdx? (· = 10) = none := by
    rw [List.findIdx?_eq_none_iff]
    intro x hx
    have : x ≠ 10 := fun hx10 => h (List.mem_reverse.1 (hx10 ▸ hx))
    simpa using this
  simp [lastNewline, hfind]

theorem lastNewline_append_cons {pre post : List UInt8} (h : (10 : UInt8) ∉ post) :
    lastNewline (pre ++ 10 :: post) = some pre.length := by
  have hfind : post.reverse.findIdx? (· = 10) = none := by
    rw [List.findIdx?_eq_none_iff]
    intro x hx
    have : x ≠ 10 := fun hx10 => h (List.mem_reverse.1 (hx10 ▸ hx))
    simpa using this
  simp only [lastNewline, List.reverse_append, List.reverse_cons, List.append_assoc, List.singleton_append,
    List.findIdx?_append, hfind, List.findIdx?_cons]
  simp

/-! ## Drains and runs -/

section Drains

variable (hutf8 : codec.utf8 [] = some "")
include hutf8

/-- The spec of `drain_complete_lines`: the complete lines of the buffer are
read, and the rest after them stays. -/
theorem drainCompleteLines_eq (ctx : StreamContext) :
    drainCompleteLines codec ctx =
      readLines codec (Lines.complete 10 ctx.lineBuffer) { ctx with lineBuffer := Lines.rest 10 ctx.lineBuffer } := by
  by_cases h : (10 : UInt8) ∈ ctx.lineBuffer
  · obtain ⟨pre, post, hbuf, hpost⟩ := Lines.exists_eq_append_cons_of_mem h
    have hsplit : ctx.lineBuffer = (pre ++ [10]) ++ post := by simp [hbuf]
    have hlen : (pre ++ [(10 : UInt8)]).length = pre.length + 1 := by simp
    have hlast : lastNewline ctx.lineBuffer = some pre.length := hbuf ▸ lastNewline_append_cons hpost
    have htake : ctx.lineBuffer.take (pre.length + 1) = pre ++ [10] := by rw [hsplit, List.take_left' hlen]
    have hdrop : ctx.lineBuffer.drop (pre.length + 1) = post := by rw [hsplit, List.drop_left' hlen]
    have hrest : Lines.rest 10 ctx.lineBuffer = post := by rw [hbuf, Lines.rest_append_cons_of_not_mem hpost]
    have hlines : (pre ++ [(10 : UInt8)]).splitOn 10 = Lines.complete 10 ctx.lineBuffer ++ [[]] := by
      rw [Lines.splitOn_append_cons, hbuf, Lines.complete_append_cons_of_not_mem hpost]
      rfl
    rw [drainCompleteLines, hlast]
    dsimp only
    change List.foldl (parseLine codec) _ _ = _
    rw [htake, hdrop, hlines, foldl_parseLine, readLines_append_nil hutf8, hrest]
  · rw [drainCompleteLines, lastNewline_eq_none h, Lines.complete_eq_nil_of_not_mem h,
      Lines.rest_eq_self_of_not_mem h, readLines_nil]

theorem processChunk_eq (ctx : StreamContext) {data : List UInt8} (h : data ≠ []) :
    processChunk codec ctx data =
      readLines codec (Lines.complete 10 (ctx.lineBuffer ++ data))
        { ctx with
          pendingChunks := ctx.pendingChunks ++ [data]
          totalBufferedBytes := ctx.totalBufferedBytes + data.length
          lineBuffer := Lines.rest 10 (ctx.lineBuffer ++ data) } := by
  rw [processChunk, if_neg h, drainCompleteLines_eq hutf8]

/-- The run lemma: from a line buffer with no newline, a run of chunks holds
the non-empty ones in order, counts their bytes, reads the complete lines of
the buffer and the chunks, and keeps their rest. -/
theorem foldl_processChunk :
    ∀ (chunks : List (List UInt8)) (ctx : StreamContext), (10 : UInt8) ∉ ctx.lineBuffer →
      chunks.foldl (processChunk codec) ctx =
        readLines codec (Lines.complete 10 (ctx.lineBuffer ++ chunks.flatten))
          { ctx with
            pendingChunks := ctx.pendingChunks ++ chunks.filter (· ≠ [])
            totalBufferedBytes := ctx.totalBufferedBytes + chunks.flatten.length
            lineBuffer := Lines.rest 10 (ctx.lineBuffer ++ chunks.flatten) }
  | [], ctx, h => by
    simp [Lines.complete_eq_nil_of_not_mem h, Lines.rest_eq_self_of_not_mem h]
  | data :: chunks, ctx, h => by
    rw [List.foldl_cons]
    by_cases hdata : data = []
    · subst hdata
      rw [processChunk_nil, foldl_processChunk chunks ctx h]
      simp
    · rw [processChunk_eq hutf8 ctx hdata, foldl_processChunk chunks _ (Lines.not_mem_rest 10 _)]
      have hbytes : ctx.lineBuffer ++ (data :: chunks).flatten = (ctx.lineBuffer ++ data) ++ chunks.flatten := by
        simp
      rw [hbytes, Lines.complete_append 10 (ctx.lineBuffer ++ data), Lines.rest_append 10 (ctx.lineBuffer ++ data),
        readLines_append]
      simp [readLines, hdata, Nat.add_assoc]

/-- At the end of the stream the rest is read as a last line. -/
theorem tryDrainRemaining_eq (ctx : StreamContext) (h : (10 : UInt8) ∉ ctx.lineBuffer) :
    tryDrainRemaining codec ctx = readLines codec [ctx.lineBuffer] { ctx with lineBuffer := [] } := by
  unfold tryDrainRemaining
  split
  · next hnil =>
    rw [hnil, ← List.nil_append [[]], readLines_append_nil hutf8, readLines_nil, ← hnil]
  · rw [drainCompleteLines_eq hutf8]
    simp only
    rw [Lines.complete_append_sep 10 h, Lines.rest_append_sep]

/-- **A body read in chunks**: from a fresh context, after every chunk and
the end of the stream, the non-empty chunks are held in order, their bytes
counted, and every line of the bytes read in order, the last one completed by
the end of the stream. -/
theorem tryDrainRemaining_foldl_processChunk (chunks : List (List UInt8)) :
    tryDrainRemaining codec (chunks.foldl (processChunk codec) {}) =
      readLines codec (chunks.flatten.splitOn 10)
        { pendingChunks := chunks.filter (· ≠ []), totalBufferedBytes := chunks.flatten.length } := by
  rw [foldl_processChunk hutf8 chunks {} List.not_mem_nil, tryDrainRemaining_eq hutf8 _ (Lines.not_mem_rest 10 _),
    Lines.splitOn_eq_complete_append_rest, readLines_append]
  simp [readLines]

end Drains

/-- Chunking does not change what the response parser reads: for a decoder
that reads no bytes as the empty string, a body read in any chunks and then
drained at the end of the stream has the decoded text, `stream_done` and
inspection text of the body read in one chunk, holds the body and counts its
bytes; and the text of each choice is the concatenation, in stream order, of
the texts the lines carry for it: the complete lines after the chunks, every
line after the end of the stream. -/
theorem process_chunk_chunking_invariant (codec : Codec) (hutf8 : codec.utf8 [] = some "")
    (chunks : List (List UInt8)) :
    let chunked := chunks.foldl (processChunk codec) {}
    let whole := processChunk codec {} chunks.flatten
    (tryDrainRemaining codec chunked).choiceTexts = (tryDrainRemaining codec whole).choiceTexts ∧
      (tryDrainRemaining codec chunked).streamDone = (tryDrainRemaining codec whole).streamDone ∧
      (tryDrainRemaining codec chunked).inspectionText = (tryDrainRemaining codec whole).inspectionText ∧
      (tryDrainRemaining codec chunked).pendingChunks.flatten = chunks.flatten ∧
      (tryDrainRemaining codec chunked).totalBufferedBytes = chunks.flatten.length ∧
      (∀ i, (chunked.choiceTexts.lookup i).getD "" =
        String.join ((((Lines.complete 10 chunks.flatten).flatMap (lineTexts codec)).filter (·.1 = i)).map (·.2))) ∧
      (∀ i, ((tryDrainRemaining codec chunked).choiceTexts.lookup i).getD "" =
        String.join ((((chunks.flatten.splitOn 10).flatMap (lineTexts codec)).filter (·.1 = i)).map (·.2))) := by
  intro chunked whole
  have hrun : chunked =
      readLines codec (Lines.complete 10 chunks.flatten)
        { pendingChunks := chunks.filter (· ≠ []), totalBufferedBytes := chunks.flatten.length,
          lineBuffer := Lines.rest 10 chunks.flatten } := by
    simpa using foldl_processChunk hutf8 chunks {} List.not_mem_nil
  have hchunked : tryDrainRemaining codec chunked =
      readLines codec (chunks.flatten.splitOn 10)
        { pendingChunks := chunks.filter (· ≠ []), totalBufferedBytes := chunks.flatten.length } :=
    tryDrainRemaining_foldl_processChunk hutf8 chunks
  have hwhole : tryDrainRemaining codec whole =
      readLines codec (chunks.flatten.splitOn 10)
        { pendingChunks := [chunks.flatten].filter (· ≠ []), totalBufferedBytes := chunks.flatten.length } := by
    simpa using tryDrainRemaining_foldl_processChunk hutf8 [chunks.flatten]
  refine ⟨?_, ?_, ?_, ?_, ?_, fun i => ?_, fun i => ?_⟩
  · rw [hchunked, hwhole]
    rfl
  · rw [hchunked, hwhole]
    rfl
  · rw [hchunked, hwhole]
    rfl
  · rw [hchunked]
    exact List.flatten_filter_ne_nil
  · rw [hchunked]
    rfl
  · rw [hrun]
    simp [readLines, lookup_pushTexts]
  · rw [hchunked]
    simp [readLines, lookup_pushTexts]

/-- Bytes read as Latin-1, which decodes no bytes as the empty string. -/
def latin1Codec : Codec where
  utf8 bs := some (String.ofList (bs.map fun b => Char.ofNat b.toNat))
  parseChunk _ := none

theorem process_chunk_chunking_invariant_latin1 :
    latin1Codec.utf8 [] = some "" ∧
      let chunks : List (List UInt8) := [[104, 105], [], [10, 104]]
      let chunked := chunks.foldl (processChunk latin1Codec) {}
      let whole := processChunk latin1Codec {} chunks.flatten
      (tryDrainRemaining latin1Codec chunked).choiceTexts = (tryDrainRemaining latin1Codec whole).choiceTexts ∧
        (tryDrainRemaining latin1Codec chunked).streamDone = (tryDrainRemaining latin1Codec whole).streamDone ∧
        (tryDrainRemaining latin1Codec chunked).inspectionText =
          (tryDrainRemaining latin1Codec whole).inspectionText ∧
        (tryDrainRemaining latin1Codec chunked).pendingChunks.flatten = chunks.flatten ∧
        (tryDrainRemaining latin1Codec chunked).totalBufferedBytes = chunks.flatten.length ∧
        (∀ i, (chunked.choiceTexts.lookup i).getD "" =
          String.join ((((Lines.complete 10 chunks.flatten).flatMap (lineTexts latin1Codec)).filter
            (·.1 = i)).map (·.2))) ∧
        (∀ i, ((tryDrainRemaining latin1Codec chunked).choiceTexts.lookup i).getD "" =
          String.join ((((chunks.flatten.splitOn 10).flatMap (lineTexts latin1Codec)).filter
            (·.1 = i)).map (·.2))) :=
  ⟨rfl, process_chunk_chunking_invariant latin1Codec rfl _⟩

end StreamContext

end GatewayFabric.Guardrails
