/-
The response path of the ai-guardrails module (`response_path.rs`,
`decision.rs`): the header filter that holds back the upstream headers, the
body filter that buffers the response until its end-of-stream checkpoint
and spawns the inspection, the completion that records the verdict, and the
write-event handler that releases or blocks the response.

The response's status line and headers are fixed for the request
(`ResponseHead`); after the header filter, NGINX delivers body-filter calls
with chains of buffers, the inspection's completion and write events, in
any order. Allocations are taken to succeed, and the connection to have a
write event to post to. What reaches the client is recorded as
`ClientOutput`s; every chunk `process_chunk` holds back is recorded in the
run, in order.
-/
import GatewayFabric.Guardrails.Stream

namespace GatewayFabric.Guardrails

open StreamContext

/-- `should_inspect_status`: only 2xx responses other than 204. -/
def shouldInspectStatus (status : Nat) : Bool :=
  200 ≤ status && status < 300 && status != 204

/-- `ResponseFilterInputs`. -/
structure ResponseFilterInputs where
  inspectionPending : Bool
  uninspectableEncoding : Bool
  alreadyBlocked : Bool
  overLimit : Bool
  shouldInspect : Bool
  lastBuf : Bool
  streamDone : Bool
  deriving Repr, DecidableEq

inductive ResponseAction where
  | holdForPending
  | emitBlock
  | blockUninspectable
  | blockOverLimit
  | spawnInspection
  | flushBuffered
  | keepBuffering
  deriving Repr, DecidableEq

def decideResponseAction (inputs : ResponseFilterInputs) : ResponseAction :=
  if inputs.inspectionPending then .holdForPending
  else if inputs.alreadyBlocked then .emitBlock
  else if inputs.uninspectableEncoding then .blockUninspectable
  else if inputs.overLimit then .blockOverLimit
  else if inputs.shouldInspect then .spawnInspection
  else if inputs.lastBuf || inputs.streamDone then .flushBuffered
  else .keepBuffering

/-- `MAX_RESPONSE_BYTES`. -/
def maxResponseBytes : Nat := 10 * 1024 * 1024

/-- The response path's guardrails settings. -/
structure ResponseConf where
  inspectResponses : Bool
  internalUri : Option String
  apiToken : Option String := none
  deriving Repr, DecidableEq

/-- What the filters read of the response: its status, whether it is
header-only (HEAD), an event stream, or content-encoded. -/
structure ResponseHead where
  status : Nat
  headerOnly : Bool := false
  sse : Bool := false
  unsupportedEncoding : Bool := false
  deriving Repr, DecidableEq

/-- One buffer of an upstream chain. -/
structure NgxBuf where
  data : List UInt8
  lastBuf : Bool := false
  fileBacked : Bool := false
  deriving Repr, DecidableEq

/-- What the client is sent. -/
inductive ClientOutput where
  | upstreamHeaders
  | passThrough (chain : List NgxBuf)
  | forward (chunks : List (List UInt8))
  | blockedResponse (message : Option String)
  | termination (sse : Bool) (message : Option String)
  | finalize (rc : Int)
  deriving Repr, DecidableEq

/-- What a body filter returns up the chain. -/
inductive FilterRc where
  | ok
  | error
  deriving Repr, DecidableEq

/-! ## The filters -/

/-- `commit_block`: a 403 with the JSON error body while the headers are held
back, else the termination body. -/
def commitBlock (head : ResponseHead) (ctx : StreamContext) : ClientOutput :=
  if ctx.headersSuppressed then .blockedResponse ctx.blockMessage else .termination head.sse ctx.blockMessage

/-- Block on a chain: discard what is held back and send the block body. -/
def blockStream (head : ResponseHead) (ctx : StreamContext) : StreamContext × ClientOutput :=
  let ctx := clearPendingChunks { ctx with blocked := true }
  (ctx, commitBlock head ctx)

/-- The header filter: whether the upstream headers go out, and the
context it leaves. -/
def guardrailsHeaderFilter (conf : Option ResponseConf) (head : ResponseHead) (ctx : Option StreamContext) :
    Bool × Option StreamContext :=
  match conf with
  | none => (true, ctx)
  | some conf =>
    if !conf.inspectResponses || !shouldInspectStatus head.status || head.headerOnly then (true, ctx)
    else if head.sse then
      -- an event stream goes out at once; only an encoding is recorded
      if head.unsupportedEncoding then (true, some { ctx.getD {} with uninspectableEncoding := true })
      else (true, ctx)
    else
      let c := ctx.getD {}
      let c := if head.unsupportedEncoding then { c with uninspectableEncoding := true } else c
      (false, some { c with headersSuppressed := true })

/-- The ingest loop: every buffer before the first file-backed one is
processed; whether a terminal buffer was seen, and whether the chain spilled
to disk. -/
def ingestChain (codec : Codec) (ctx : StreamContext) : List NgxBuf → StreamContext × Bool × Bool
  | [] => (ctx, false, false)
  | b :: bs =>
    if b.fileBacked then (ctx, b.lastBuf, true)
    else
      let (ctx', last, spilled) := ingestChain codec (processChunk codec ctx b.data) bs
      (ctx', b.lastBuf || last, spilled)

/-- The chunks the ingest loop holds back. -/
def ingestedChunks : List NgxBuf → List (List UInt8)
  | [] => []
  | b :: bs => if b.fileBacked then [] else (if b.data = [] then [] else [b.data]) ++ ingestedChunks bs

/-- What one body-filter call does. -/
structure BodyFilterResult where
  ctx : Option StreamContext
  outputs : List ClientOutput
  /-- The content of the inspection the call spawns. -/
  spawn : Option String
  rc : FilterRc
  /-- The chunks `process_chunk` held back in this call. -/
  held : List (List UInt8)

/-- The body filter after its gates, on the request's context. -/
def filterBody (codec : Codec) (conf : ResponseConf) (head : ResponseHead) (ctx : StreamContext)
    (chain : List NgxBuf) : BodyFilterResult :=
  match decideResponseAction
      { inspectionPending := ctx.inspectState = .pending, uninspectableEncoding := ctx.uninspectableEncoding,
        alreadyBlocked := ctx.blocked, overLimit := false, shouldInspect := false, lastBuf := false,
        streamDone := false } with
  | .holdForPending => ⟨some ctx, [], none, .ok, []⟩
  | .emitBlock => ⟨some ctx, [.termination head.sse ctx.blockMessage], none, .error, []⟩
  | .blockUninspectable =>
    let (ctx, out) := blockStream head ctx
    ⟨some ctx, [out], none, .error, []⟩
  | _ =>
    let (ctx, lastBuf, spilled) := ingestChain codec ctx chain
    let held := ingestedChunks chain
    if spilled then
      let (ctx, out) := blockStream head ctx
      ⟨some ctx, [out], none, .error, held⟩
    else
      let ctx := if lastBuf then tryDrainRemaining codec ctx else ctx
      let overLimit := decide (ctx.totalBufferedBytes > maxResponseBytes)
      let shouldInspect := ctx.shouldInspectFinal lastBuf || ctx.shouldInspectRawFallback lastBuf
      match decideResponseAction
          { inspectionPending := false, uninspectableEncoding := false, alreadyBlocked := false, overLimit,
            shouldInspect, lastBuf, streamDone := ctx.streamDone } with
      | .blockOverLimit =>
        let (ctx, out) := blockStream head ctx
        ⟨some ctx, [out], none, .error, held⟩
      | .flushBuffered =>
        let headers := if ctx.headersSuppressed then [ClientOutput.upstreamHeaders] else []
        let (chunks, ctx) := ctx.takePendingChunks
        if chunks = [] then ⟨some ctx, headers, none, .ok, held⟩
        else ⟨some ctx, headers ++ [.forward chunks], none, .ok, held⟩
      | .spawnInspection =>
        match conf.internalUri with
        | none =>
          let (ctx, out) := blockStream head ctx
          ⟨some ctx, [out], none, .error, held⟩
        | some _ =>
          -- without decoded text the raw body is inspected, if it is UTF-8
          let content := if ctx.hasNoDecodedText then rawInspectionFallback codec ctx else some ctx.inspectionText
          match content with
          | none =>
            let (ctx, out) := blockStream head ctx
            ⟨some ctx, [out], none, .error, held⟩
          | some content => ⟨some { ctx with inspectState := .pending }, [], some content, .ok, held⟩
      | _ => ⟨some ctx, [], none, .ok, held⟩

/-- `guardrails_response_body_filter` of a main request. -/
def guardrailsResponseBodyFilter (codec : Codec) (conf : Option ResponseConf) (head : ResponseHead)
    (ctx : Option StreamContext) (chain : List NgxBuf) : BodyFilterResult :=
  match conf with
  | none => ⟨ctx, [.passThrough chain], none, .ok, []⟩
  | some conf =>
    if !shouldInspectStatus head.status || head.headerOnly || !conf.inspectResponses then
      ⟨ctx, [.passThrough chain], none, .ok, []⟩
    else filterBody codec conf head (ctx.getD {}) chain

/-- `resume_output`: record the verdict and post the write event; without
a context the request is finalized with 403. -/
def resumeOutput (ctx : Option StreamContext) (verdict : ResponseVerdict) (message : Option String) :
    Option StreamContext × List ClientOutput :=
  match ctx with
  | none => (none, [.finalize 403])
  | some ctx => (some { ctx with blockMessage := message, inspectState := .done verdict }, [])

/-- `guardrails_resume_write_handler`: act once on a recorded verdict. -/
def guardrailsResumeWriteHandler (head : ResponseHead) (ctx : Option StreamContext) :
    Option StreamContext × List ClientOutput :=
  match ctx with
  | none => (none, [.finalize 403])
  | some ctx =>
    match ctx.inspectState with
    | .done verdict =>
      let ctx := { ctx with inspectState := .resumed }
      match verdict with
      | .allow =>
        let headers := if ctx.headersSuppressed then [ClientOutput.upstreamHeaders] else []
        let (chunks, ctx) := ctx.takePendingChunks
        let body := if chunks = [] then [] else [ClientOutput.forward chunks]
        (some ctx, headers ++ body ++ [.finalize 0])
      | .block =>
        let (ctx, out) := blockStream head ctx
        (some ctx, [out, .finalize 0])
    | _ => (some ctx, [])

/-! ## The response as a state machine -/

structure ResponseRun where
  ctx : Option StreamContext := none
  /-- The content of the inspection in flight. -/
  task : Option String := none
  /-- `resume_output` has made the write handler the request's. -/
  armed : Bool := false
  outputs : List ClientOutput := []
  /-- Every chunk `process_chunk` has held back, in order. -/
  ingested : List (List UInt8) := []
  /-- A body filter returned `NGX_ERROR`: NGINX tears the request down. -/
  closed : Bool := false
  deriving Repr, DecidableEq

inductive ResponseEvent where
  | bodyFilter (chain : List NgxBuf)
  | inspectionDone (res : SubrequestResult)
  | writeEvent
  deriving Repr, DecidableEq

section Machine

variable (codec : Codec) (parse : List UInt8 → Option GuardrailsResponse) (conf : Option ResponseConf)
  (head : ResponseHead)

/-- The run after the header filter: the upstream headers go out unless
they are held back. -/
def startResponse : ResponseRun :=
  let (sent, ctx) := guardrailsHeaderFilter conf head none
  { ctx, outputs := if sent then [.upstreamHeaders] else [] }

/-- A torn-down request takes no more events: its inspection task is
cancelled with it. -/
def stepResponse (r : ResponseRun) (e : ResponseEvent) : ResponseRun :=
  if r.closed then r
  else
    match e with
    | .bodyFilter chain =>
      let res := guardrailsResponseBodyFilter codec conf head r.ctx chain
      { r with
        ctx := res.ctx
        task := res.spawn.or r.task
        outputs := r.outputs ++ res.outputs
        ingested := r.ingested ++ res.held
        closed := res.rc = .error }
    | .inspectionDone res =>
      match r.task with
      | none => r
      | some _ =>
        let d := runInspection parse res
        let (ctx, out) := resumeOutput r.ctx (if d.allow then .allow else .block) d.message
        { r with ctx, task := none, armed := true, outputs := r.outputs ++ out }
    | .writeEvent =>
      if !r.armed then r
      else
        let (ctx, out) := guardrailsResumeWriteHandler head r.ctx
        { r with ctx, outputs := r.outputs ++ out }

def runResponse (events : List ResponseEvent) : ResponseRun :=
  events.foldl (stepResponse codec parse conf head) (startResponse conf head)

end Machine

/-! ## What is sent comes off the front of what is held -/

/-- The chunks an output sends. -/
def ClientOutput.forwarded : ClientOutput → List (List UInt8)
  | .forward chunks => chunks
  | _ => []

@[simp] theorem ClientOutput.forwarded_forward {chunks : List (List UInt8)} :
    (ClientOutput.forward chunks).forwarded = chunks := rfl

@[simp] theorem ClientOutput.forwarded_upstreamHeaders : ClientOutput.upstreamHeaders.forwarded = [] := rfl

@[simp] theorem ClientOutput.forwarded_passThrough {chain : List NgxBuf} :
    (ClientOutput.passThrough chain).forwarded = [] := rfl

@[simp] theorem ClientOutput.forwarded_termination {sse : Bool} {m : Option String} :
    (ClientOutput.termination sse m).forwarded = [] := rfl

@[simp] theorem ClientOutput.forwarded_finalize {rc : Int} : (ClientOutput.finalize rc).forwarded = [] := rfl

def forwardedChunks (outs : List ClientOutput) : List (List UInt8) :=
  outs.flatMap ClientOutput.forwarded

@[simp] theorem forwardedChunks_nil : forwardedChunks [] = [] := rfl

@[simp] theorem forwardedChunks_cons {o : ClientOutput} {outs : List ClientOutput} :
    forwardedChunks (o :: outs) = o.forwarded ++ forwardedChunks outs := rfl

@[simp] theorem forwardedChunks_append {outs outs' : List ClientOutput} :
    forwardedChunks (outs ++ outs') = forwardedChunks outs ++ forwardedChunks outs' := by
  simp [forwardedChunks]

@[simp] theorem forwardedChunks_headers {b : Bool} :
    forwardedChunks (if b then [ClientOutput.upstreamHeaders] else []) = [] := by
  split <;> rfl

@[simp] theorem commitBlock_forwarded {head : ResponseHead} {c : StreamContext} :
    (commitBlock head c).forwarded = [] := by
  unfold commitBlock
  split <;> rfl

/-- The chunks the context holds back. -/
def heldOf (ctx : Option StreamContext) : List (List UInt8) :=
  (ctx.map (·.pendingChunks)).getD []

/-- A step that holds `held` after `p` and leaves `rest` held sent or
dropped a front part of what was held, and sent in order what it sent. -/
def TakesFront (p held rest : List (List UInt8)) (outs : List ClientOutput) : Prop :=
  ∃ gone, p ++ held = gone ++ rest ∧ List.Sublist (forwardedChunks outs) gone

theorem TakesFront.keep {p held rest : List (List UInt8)} {outs : List ClientOutput}
    (hrest : rest = p ++ held) (h : forwardedChunks outs = []) : TakesFront p held rest outs :=
  ⟨[], by simp [hrest], by simp [h]⟩

theorem TakesFront.send {p held rest : List (List UInt8)} {outs : List ClientOutput}
    (hrest : rest = []) (h : List.Sublist (forwardedChunks outs) (p ++ held)) : TakesFront p held rest outs :=
  ⟨p ++ held, by simp [hrest], h⟩

theorem TakesFront.drop {p held rest : List (List UInt8)} {outs : List ClientOutput}
    (hrest : rest = []) (h : forwardedChunks outs = []) : TakesFront p held rest outs :=
  TakesFront.send hrest (by simp [h])

theorem blockStream_takesFront {head : ResponseHead} {c : StreamContext} {p held : List (List UInt8)} :
    TakesFront p held (blockStream head c).1.pendingChunks [(blockStream head c).2] :=
  TakesFront.drop (by simp [blockStream, clearPendingChunks]) (by simp [blockStream])

theorem ingestChain_pendingChunks (codec : Codec) (ctx : StreamContext) (chain : List NgxBuf) :
    (ingestChain codec ctx chain).1.pendingChunks = ctx.pendingChunks ++ ingestedChunks chain := by
  induction chain generalizing ctx with
  | nil => simp [ingestChain, ingestedChunks]
  | cons b bs ih =>
    by_cases hf : b.fileBacked
    · simp [ingestChain, ingestedChunks, hf]
    · simp [ingestChain, ingestedChunks, hf, ih, processChunk_pendingChunks]

/-- A body filter past its gates sends or drops only from the front of what
it holds. -/
theorem filterBody_takesFront (codec : Codec) (conf : ResponseConf) (head : ResponseHead) (ctx : StreamContext)
    (chain : List NgxBuf) :
    TakesFront ctx.pendingChunks (filterBody codec conf head ctx chain).held
      (heldOf (filterBody codec conf head ctx chain).ctx) (filterBody codec conf head ctx chain).outputs := by
  unfold filterBody
  split
  · exact TakesFront.keep (by simp [heldOf]) rfl
  · exact TakesFront.keep (by simp [heldOf]) rfl
  · exact blockStream_takesFront
  · have hheld := ingestChain_pendingChunks codec ctx chain
    generalize ingestChain codec ctx chain = ing at hheld
    obtain ⟨c, lastBuf, spilled⟩ := ing
    dsimp only at hheld ⊢
    split
    · exact blockStream_takesFront
    · generalize hc' : (if lastBuf = true then tryDrainRemaining codec c else c) = c'
      have hc'held : c'.pendingChunks = ctx.pendingChunks ++ ingestedChunks chain := by
        rw [← hc', ← hheld]
        split <;> simp
      split
      · exact blockStream_takesFront
      · split
        · exact TakesFront.drop (by simp [heldOf, takePendingChunks]) (by simp)
        · exact TakesFront.send (by simp [heldOf, takePendingChunks]) (by simp [takePendingChunks, hc'held])
      · split
        · exact blockStream_takesFront
        · split
          · exact blockStream_takesFront
          · exact TakesFront.keep (by simp [heldOf, hc'held]) rfl
      · exact TakesFront.keep (by simp [heldOf, hc'held]) rfl

theorem guardrailsResponseBodyFilter_takesFront (codec : Codec) (conf : Option ResponseConf) (head : ResponseHead)
    (ctx : Option StreamContext) (chain : List NgxBuf) :
    TakesFront (heldOf ctx) (guardrailsResponseBodyFilter codec conf head ctx chain).held
      (heldOf (guardrailsResponseBodyFilter codec conf head ctx chain).ctx)
      (guardrailsResponseBodyFilter codec conf head ctx chain).outputs := by
  rcases conf with _ | c
  · exact TakesFront.keep (by simp [guardrailsResponseBodyFilter]) rfl
  by_cases hg : (!shouldInspectStatus head.status || head.headerOnly || !c.inspectResponses) = true
  · exact TakesFront.keep (by simp [guardrailsResponseBodyFilter, hg]) (by simp [guardrailsResponseBodyFilter, hg])
  · simp only [guardrailsResponseBodyFilter, hg, if_false, Bool.false_eq_true]
    have h := filterBody_takesFront codec c head (ctx.getD {}) chain
    cases ctx <;> simpa [heldOf] using h

theorem resumeOutput_takesFront (ctx : Option StreamContext) (v : ResponseVerdict) (m : Option String) :
    TakesFront (heldOf ctx) [] (heldOf (resumeOutput ctx v m).1) (resumeOutput ctx v m).2 := by
  cases ctx <;> exact TakesFront.keep (by simp [heldOf, resumeOutput]) (by simp [resumeOutput])

/-- The write handler sends what is held on `allow` and drops it on
`block`. -/
theorem guardrailsResumeWriteHandler_takesFront (head : ResponseHead) (ctx : Option StreamContext) :
    TakesFront (heldOf ctx) [] (heldOf (guardrailsResumeWriteHandler head ctx).1)
      (guardrailsResumeWriteHandler head ctx).2 := by
  rcases ctx with _ | c
  · exact TakesFront.keep (by simp [heldOf, guardrailsResumeWriteHandler]) (by simp [guardrailsResumeWriteHandler])
  rcases hs : c.inspectState with _ | _ | verdict | _
  case done =>
    cases verdict with
    | allow =>
      refine TakesFront.send (by simp [guardrailsResumeWriteHandler, hs, heldOf, takePendingChunks]) ?_
      by_cases hp : c.pendingChunks = []
      · simp [guardrailsResumeWriteHandler, hs, takePendingChunks, hp]
      · simp [guardrailsResumeWriteHandler, hs, takePendingChunks, hp, heldOf]
    | block =>
      exact TakesFront.drop (by simp [guardrailsResumeWriteHandler, hs, heldOf, blockStream, clearPendingChunks])
        (by simp [guardrailsResumeWriteHandler, hs, blockStream])
  all_goals
    exact TakesFront.keep (by simp [guardrailsResumeWriteHandler, hs, heldOf]) (by simp [guardrailsResumeWriteHandler, hs])

section Machine

variable {codec : Codec} {parse : List UInt8 → Option GuardrailsResponse} {conf : Option ResponseConf}
  {head : ResponseHead}

/-- Every chunk sent to the client was held back before, and what is held
now comes after everything sent or dropped. -/
def HeldInv (r : ResponseRun) : Prop :=
  ∃ consumed, r.ingested = consumed ++ heldOf r.ctx ∧ List.Sublist (forwardedChunks r.outputs) consumed

/-- A step that takes from the front of what is held keeps the invariant. -/
theorem HeldInv.takesFront {r r' : ResponseRun} {held : List (List UInt8)} {outs : List ClientOutput}
    (h : HeldInv r) (ht : TakesFront (heldOf r.ctx) held (heldOf r'.ctx) outs)
    (hing : r'.ingested = r.ingested ++ held) (hout : r'.outputs = r.outputs ++ outs) : HeldInv r' := by
  obtain ⟨consumed, hing₀, hsub⟩ := h
  obtain ⟨gone, hgone, hsent⟩ := ht
  refine ⟨consumed ++ gone, ?_, ?_⟩
  · rw [hing, hing₀, List.append_assoc, hgone, List.append_assoc]
  · rw [hout, forwardedChunks_append]
    exact hsub.append hsent

theorem startResponse_heldInv : HeldInv (startResponse conf head) := by
  refine ⟨[], ?_, by simp [startResponse]⟩
  have : heldOf (guardrailsHeaderFilter conf head none).2 = [] := by
    unfold guardrailsHeaderFilter
    repeat' split
    all_goals simp [heldOf]
  simpa [startResponse] using this.symm

theorem HeldInv.step {r : ResponseRun} (h : HeldInv r) (e : ResponseEvent) :
    HeldInv (stepResponse codec parse conf head r e) := by
  by_cases hc : r.closed
  · simpa [stepResponse, hc] using h
  unfold stepResponse
  rw [if_neg hc]
  cases e with
  | bodyFilter chain =>
    exact h.takesFront (guardrailsResponseBodyFilter_takesFront codec conf head r.ctx chain) rfl rfl
  | inspectionDone res =>
    rcases r.task with _ | content
    · exact h
    · exact h.takesFront (resumeOutput_takesFront r.ctx
        (if (runInspection parse res).allow then .allow else .block) (runInspection parse res).message)
        (by simp) rfl
  | writeEvent =>
    by_cases ha : r.armed
    · simp only [ha, Bool.not_true, Bool.false_eq_true, if_false]
      exact h.takesFront (guardrailsResumeWriteHandler_takesFront head r.ctx) (by simp) rfl
    · simpa [ha] using h

/-- Whatever the order of events, the chunks sent to the client are
chunks the filter held back, each sent at most once and in the order they
arrived. -/
theorem runResponse_forwarded_sublist (events : List ResponseEvent) :
    List.Sublist (forwardedChunks (runResponse codec parse conf head events).outputs)
      (runResponse codec parse conf head events).ingested := by
  have hinv : HeldInv (runResponse codec parse conf head events) := by
    unfold runResponse
    induction events using List.reverseRecOn with
    | nil => exact startResponse_heldInv
    | append_singleton events e ih =>
      rw [List.foldl_append, List.foldl_cons, List.foldl_nil]
      exact ih.step e
  obtain ⟨consumed, hing, hsub⟩ := hinv
  rw [hing]
  exact hsub.trans (List.sublist_append_left _ _)

end Machine

/-! ## A recorded block overwritten by a late chain -/

/-- Bytes read as Latin-1, a UTF-8 decoder for ASCII input. -/
def asciiText (bs : List UInt8) : String := String.ofList (bs.map fun b => Char.ofNat b.toNat)

def asciiBytes (s : String) : List UInt8 := s.toList.map fun c => c.toNat.toUInt8

/-- The last line of an Ollama `/api/generate` stream. -/
def ollamaDoneText : String := "\x7b\"response\":\"hi\",\"done\":true\x7d"

def ollamaDoneLine : List UInt8 := asciiBytes ollamaDoneText ++ [10]

/-- Decoders that read the one line as `serde_json` does. -/
def ollamaCodec : Codec where
  utf8 bs := some (asciiText bs)
  parseChunk s := if s = ollamaDoneText then some { response := some "hi", done := some true } else none

/-- A guardrails backend whose answer body is its outcome. -/
def outcomeParse (body : List UInt8) : Option GuardrailsResponse := some { outcome := asciiText body }

def responseInspection : Option ResponseConf :=
  some { inspectResponses := true, internalUri := some "/_ngf-internal-guardrails" }

/-- The chain with the done line, without `last_buf`; the first inspection
blocks; the terminal empty buffer comes before the write event; the second
inspection clears. -/
def lateChainEvents : List ResponseEvent :=
  [.bodyFilter [{ data := ollamaDoneLine }],
   .inspectionDone (.finished true 200 (asciiBytes "failed")),
   .bodyFilter [{ data := [], lastBuf := true }],
   .writeEvent,
   .inspectionDone (.finished true 200 (asciiBytes "cleared")),
   .writeEvent]

theorem late_chain_discards_block_verdict :
    (runResponse ollamaCodec outcomeParse responseInspection { status := 200 } (lateChainEvents.take 2)).ctx.map
        (fun c => (c.inspectState, c.pendingChunks)) = some (.done .block, [ollamaDoneLine]) ∧
    (runResponse ollamaCodec outcomeParse responseInspection { status := 200 } lateChainEvents).outputs =
      [.upstreamHeaders, .forward [ollamaDoneLine], .finalize 0] := by
  constructor <;> decide +kernel

end GatewayFabric.Guardrails
