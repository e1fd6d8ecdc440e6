/-
The request path of the ai-guardrails module (`request_path.rs`): the
access-phase handler, the body-read handler and the completion of the
asynchronous inspection, as one state machine driven by the events NGINX
delivers in any order.

The access handler is invoked by the phase engine; on its first real call
it marks the inspection started and asks NGINX for the request body. When
the body is read, the body-read handler either records a verdict at once
(nothing to inspect allows; an unsupported encoding, a body spilled to
disk or a non-UTF-8 body block) or spawns the inspection, whose result is
recorded when it completes. Recording a verdict posts a write event, which
runs the phase engine again, and the re-invoked access handler grants
access on `allow` and sends a 403 on `block`. Any write event may run the
phase engine while the handler waits; spurious ones are events too.

The JSON extraction of the text to inspect (`extract_inspection_content`)
and the parse of the backend's answer are parameters. The request is a
main request of a location whose guardrails configuration is `conf`.
-/
import GatewayFabric.Guardrails.Decision

namespace GatewayFabric.Guardrails

/-- The location's guardrails settings the access handler reads. -/
structure GuardrailsConf where
  inspectRequests : Bool
  internalUri : Option String
  apiToken : Option String := none
  deriving Repr, DecidableEq

structure InspectParams where
  internalUri : String
  apiToken : Option String
  deriving Repr, DecidableEq

/-- `RequestInspectState`, the module's per-request state. -/
structure RequestInspectState where
  verdict : InspectVerdict := .pending
  blockMessage : Option String := none
  started : Bool := false
  tooLarge : Bool := false
  uninspectable : Bool := false
  params : Option InspectParams := none
  task : Option String := none
  deriving Repr, DecidableEq

/-- Which 403 body the module sends. -/
inductive BlockKind where
  | tooLarge
  | unsupportedEncoding
  | contentPolicy (message : Option String)
  deriving Repr, DecidableEq

/-- What `guardrails_access_handler` does, by what it returns: `NGX_DECLINED`,
`NGX_OK`, `NGX_AGAIN`, a 403 sent and finalized (`NGX_DONE`), the body read
started (`NGX_DONE`), or the status `ngx_http_read_client_request_body`
failed with. -/
inductive AccessOutcome where
  | declined
  | granted
  | wait
  | forbidden (kind : BlockKind)
  | readingBody
  | readFailed (rc : Int)
  deriving Repr, DecidableEq

/-- The 403 body of a block. -/
def blockKindOf (state : RequestInspectState) : BlockKind :=
  if state.tooLarge then .tooLarge
  else if state.uninspectable then .unsupportedEncoding
  else .contentPolicy state.blockMessage

/-- `get_request_inspect_state`: the request's state, or a new one when
none exists yet and the allocation (`allocOk`) succeeds. -/
def getRequestInspectState (allocOk : Bool) (ctx : Option RequestInspectState) : Option RequestInspectState :=
  ctx.orElse fun _ => if allocOk then some {} else none

/-- The access handler of a main request. `allocOk` is whether a state that
does not exist yet can be allocated; `readRc` is what
`ngx_http_read_client_request_body` returns if the handler calls it. A
grant clears the module's context slot. -/
def guardrailsAccessHandler (conf : Option GuardrailsConf) (allocOk : Bool) (readRc : Int)
    (ctx : Option RequestInspectState) : AccessOutcome × Option RequestInspectState :=
  match conf with
  | none => (.declined, ctx)
  | some conf =>
    if !conf.inspectRequests then (.declined, ctx)
    else
      match conf.internalUri with
      -- no internal location: fail closed
      | none => (.forbidden (.contentPolicy none), ctx)
      | some internalUri =>
        match getRequestInspectState allocOk ctx with
        | none => (.forbidden (.contentPolicy none), ctx)
        | some state =>
          match decideAccessAction state.verdict state.started with
          | .grantAccess => (.granted, none)
          | .block => (.forbidden (blockKindOf state), some state)
          | .wait => (.wait, some state)
          | .startInspection =>
            let state := { state with started := true, params := some { internalUri, apiToken := conf.apiToken } }
            if readRc ≥ 300 then (.readFailed readRc, some state) else (.readingBody, some state)

/-- The request body as `collect_request_body` finds it. -/
inductive CollectedBody where
  | content (bytes : List UInt8)
  | empty
  | spilledToDisk
  deriving Repr, DecidableEq

/-- What `extract_inspection_content` finds in a body. -/
inductive InspectableContent where
  | text (content : String)
  | none
  | undecodable
  deriving Repr, DecidableEq

/-- What the body-read handler does: record a verdict now, or spawn the
inspection of a text. -/
inductive BodyReadOutcome where
  | resume (verdict : InspectVerdict)
  | spawn (content : String)
  deriving Repr, DecidableEq

def guardrailsBodyReadHandler (extract : List UInt8 → InspectableContent) (unsupportedEncoding : Bool)
    (collected : CollectedBody) (state : RequestInspectState) : BodyReadOutcome × RequestInspectState :=
  match state.params with
  | none => (.resume .block, state)
  | some _ =>
    let state := { state with params := none }
    -- an encoded body cannot be inspected in memory
    if unsupportedEncoding then (.resume .block, { state with uninspectable := true })
    else
      match collected with
      | .spilledToDisk => (.resume .block, { state with tooLarge := true })
      | .empty => (.resume .allow, state)
      | .content bytes =>
        match extract bytes with
        | .none => (.resume .allow, state)
        | .undecodable => (.resume .block, { state with uninspectable := true })
        | .text content => (.spawn content, { state with task := some content })

/-- What lets the body-read handler allow at once: no unsupported
encoding, and an empty body or one with nothing to inspect. -/
def NothingToInspect (extract : List UInt8 → InspectableContent) (enc : Bool) (collected : CollectedBody) :
    Prop :=
  enc = false ∧ (collected = .empty ∨ ∃ bytes, collected = .content bytes ∧ extract bytes = .none)

/-- The configuration under which the access handler starts inspections. -/
def InspectionEnabled (conf : Option GuardrailsConf) : Prop :=
  ∃ c u, conf = some c ∧ c.inspectRequests = true ∧ c.internalUri = some u

@[simp] theorem getRequestInspectState_some {allocOk : Bool} {s : RequestInspectState} :
    getRequestInspectState allocOk (some s) = some s := rfl

theorem getRequestInspectState_eq_some {allocOk : Bool} {ctx : Option RequestInspectState}
    {s : RequestInspectState} (h : getRequestInspectState allocOk ctx = some s) :
    ctx = some s ∨ (ctx = none ∧ s = {}) := by
  cases ctx with
  | some s' => exact .inl h
  | none =>
    cases allocOk <;> simp [getRequestInspectState] at h
    exact .inr ⟨rfl, h.symm⟩

/-- Everything the access handler can do. A 403 under an enabled
configuration is the block of a recorded verdict (or the failed allocation
of a state that does not exist), and an inspection starts only from a state
that has not started one. -/
theorem guardrailsAccessHandler_spec {conf : Option GuardrailsConf} {allocOk : Bool} {readRc : Int}
    {ctx ctx' : Option RequestInspectState} {out : AccessOutcome}
    (h : guardrailsAccessHandler conf allocOk readRc ctx = (out, ctx')) :
    (out = .declined ∧ ctx' = ctx) ∨
    (∃ k, out = .forbidden k ∧ ctx' = ctx ∧
      (InspectionEnabled conf → ∀ s, ctx = some s → s.verdict = .block ∧ k = blockKindOf s)) ∨
    (out = .granted ∧ ctx' = none ∧ ∃ s, ctx = some s ∧ s.verdict = .allow) ∨
    (out = .wait ∧ ctx' = ctx ∧ ∃ s, ctx = some s ∧ s.verdict = .pending ∧ s.started) ∨
    ((out = .readingBody ∨ (out = .readFailed readRc ∧ 300 ≤ readRc)) ∧ InspectionEnabled conf ∧
      (∀ s, ctx = some s → s.verdict = .pending ∧ s.started = false) ∧
      ∃ s', ctx' = some s' ∧ s'.verdict = .pending ∧ s'.started ∧ s'.params.isSome) := by
  unfold guardrailsAccessHandler at h
  rcases conf with _ | c
  · cases h
    exact .inl ⟨rfl, rfl⟩
  by_cases hin : c.inspectRequests = false
  · simp only [hin, Bool.not_false, ite_true, Prod.mk.injEq] at h
    obtain ⟨rfl, rfl⟩ := h
    exact .inl ⟨rfl, rfl⟩
  simp only [hin, Bool.not_true, ite_false, Bool.false_eq_true] at h
  rcases hu : c.internalUri with _ | u
  · simp only [hu, Prod.mk.injEq] at h
    obtain ⟨rfl, rfl⟩ := h
    refine .inr (.inl ⟨_, rfl, rfl, ?_⟩)
    rintro ⟨c', u, hc, -, hu'⟩
    simp_all
  have hen : InspectionEnabled (some c) := ⟨c, u, rfl, by simpa using hin, hu⟩
  simp only [hu] at h
  rcases hfetch : getRequestInspectState allocOk ctx with _ | s
  · simp only [hfetch, Prod.mk.injEq] at h
    obtain ⟨rfl, rfl⟩ := h
    refine .inr (.inl ⟨_, rfl, rfl, fun _ s hs => ?_⟩)
    simp [hs] at hfetch
  simp only [hfetch] at h
  have hs := getRequestInspectState_eq_some hfetch
  rcases hact : decideAccessAction s.verdict s.started
  · simp only [hact, Prod.mk.injEq] at h
    obtain ⟨rfl, rfl⟩ := h
    have hv : s.verdict = .allow := by simpa using hact
    rcases hs with rfl | ⟨-, rfl⟩
    · exact .inr (.inr (.inl ⟨rfl, rfl, s, rfl, hv⟩))
    · cases hv
  · simp only [hact, Prod.mk.injEq] at h
    obtain ⟨rfl, rfl⟩ := h
    have hv : s.verdict = .block := by simpa using hact
    refine .inr (.inl ⟨_, rfl, ?_, fun _ s' hs' => ?_⟩)
    · rcases hs with rfl | ⟨rfl, rfl⟩
      · rfl
      · cases hv
    · rcases hs with rfl | ⟨rfl, -⟩
      · cases hs'
        exact ⟨hv, rfl⟩
      · cases hs'
  · simp only [hact, Prod.mk.injEq] at h
    obtain ⟨rfl, rfl⟩ := h
    have hv : s.verdict = .pending ∧ s.started = true := by simpa using hact
    rcases hs with rfl | ⟨rfl, rfl⟩
    · exact .inr (.inr (.inr (.inl ⟨rfl, rfl, s, rfl, hv⟩)))
    · cases hv.2
  · have hv : s.verdict = .pending ∧ s.started = false := by simpa using hact
    have hold : ∀ s', ctx = some s' → s'.verdict = .pending ∧ s'.started = false := by
      rintro s' rfl
      rcases hs with h' | ⟨h', -⟩ <;> cases h'
      exact hv
    simp only [hact] at h
    refine .inr (.inr (.inr (.inr ?_)))
    split_ifs at h with hrc <;> simp only [Prod.mk.injEq] at h <;> obtain ⟨rfl, rfl⟩ := h
    · exact ⟨.inr ⟨rfl, hrc⟩, hen, hold, _, rfl, hv.1, rfl, rfl⟩
    · exact ⟨.inl rfl, hen, hold, _, rfl, hv.1, rfl, rfl⟩

/-- Everything the body-read handler can do: a verdict it records is never
pending, and is `allow` only when there was nothing to inspect; a spawned
inspection keeps the state's verdict. -/
theorem guardrailsBodyReadHandler_spec {extract : List UInt8 → InspectableContent} {enc : Bool}
    {collected : CollectedBody} {s s' : RequestInspectState} {out : BodyReadOutcome}
    (h : guardrailsBodyReadHandler extract enc collected s = (out, s')) :
    (∃ v, out = .resume v ∧ v ≠ .pending ∧ (v = .allow → NothingToInspect extract enc collected)) ∨
    (∃ c, out = .spawn c ∧ s'.verdict = s.verdict ∧ s'.started = s.started) := by
  unfold guardrailsBodyReadHandler at h
  split at h
  · cases h
    exact .inl ⟨_, rfl, by simp, by simp⟩
  split_ifs at h with henc
  · cases h
    exact .inl ⟨_, rfl, by simp, by simp⟩
  have henc : enc = false := by simpa using henc
  split at h
  · cases h
    exact .inl ⟨_, rfl, by simp, by simp⟩
  · cases h
    exact .inl ⟨_, rfl, by simp, fun _ => ⟨henc, .inl rfl⟩⟩
  · next bytes =>
    split at h
    · next hx =>
      cases h
      exact .inl ⟨_, rfl, by simp, fun _ => ⟨henc, .inr ⟨bytes, rfl, hx⟩⟩⟩
    · cases h
      exact .inl ⟨_, rfl, by simp, by simp⟩
    · cases h
      exact .inr ⟨_, rfl, rfl, rfl⟩

/-! ## The request as a state machine -/

/-- Where the main request's access phase stands. -/
inductive AccessPhase where
  | running
  | suspended
  | declined
  | granted
  | finalized
  deriving Repr, DecidableEq

/-- How the request was finalized: with the module's 403, or with a status
the access phase was handed. -/
inductive Finalization where
  | forbidden (kind : BlockKind)
  | status (rc : Int)
  deriving Repr, DecidableEq

structure RequestRun where
  ctx : Option RequestInspectState := none
  phase : AccessPhase := .running
  bodyReading : Bool := false
  inspecting : Bool := false
  finalizations : List Finalization := []
  deriving Repr, DecidableEq

/-- What NGINX can deliver to the request. -/
inductive RequestEvent where
  | accessPhase (allocOk : Bool) (readRc : Int)
  | bodyRead (unsupportedEncoding : Bool) (collected : CollectedBody)
  | inspectionDone (res : SubrequestResult)
  | writeEvent
  deriving Repr, DecidableEq

/-- `resume_phases`: record the verdict and the message, and post the write
event (a write event may come at any time in this model). The state is
re-fetched, so a missing one is allocated afresh. -/
def resumePhases (r : RequestRun) (verdict : InspectVerdict) (message : Option String) : RequestRun :=
  { r with ctx := some { r.ctx.getD {} with verdict, blockMessage := message } }

@[simp] theorem resumePhases_ctx {r : RequestRun} {v : InspectVerdict} {m : Option String} :
    (resumePhases r v m).ctx = some { r.ctx.getD {} with verdict := v, blockMessage := m } := rfl

@[simp] theorem resumePhases_phase {r : RequestRun} {v : InspectVerdict} {m : Option String} :
    (resumePhases r v m).phase = r.phase := rfl

@[simp] theorem resumePhases_bodyReading {r : RequestRun} {v : InspectVerdict} {m : Option String} :
    (resumePhases r v m).bodyReading = r.bodyReading := rfl

@[simp] theorem resumePhases_inspecting {r : RequestRun} {v : InspectVerdict} {m : Option String} :
    (resumePhases r v m).inspecting = r.inspecting := rfl

@[simp] theorem resumePhases_finalizations {r : RequestRun} {v : InspectVerdict} {m : Option String} :
    (resumePhases r v m).finalizations = r.finalizations := rfl

section Machine

variable (conf : Option GuardrailsConf) (extract : List UInt8 → InspectableContent)
  (parse : List UInt8 → Option GuardrailsResponse)

/-- The phase engine runs the access handler only while the access phase
is running; the body-read handler runs once the read it started is done;
the inspection completes only when one was spawned. -/
def stepRequest (r : RequestRun) : RequestEvent → RequestRun
  | .accessPhase allocOk readRc =>
    if r.phase ≠ .running then r
    else
      let (out, ctx) := guardrailsAccessHandler conf allocOk readRc r.ctx
      match out with
      | .declined => { r with ctx, phase := .declined }
      | .granted => { r with ctx, phase := .granted }
      | .wait => { r with ctx, phase := .suspended }
      | .forbidden k => { r with ctx, phase := .finalized, finalizations := r.finalizations ++ [.forbidden k] }
      | .readingBody => { r with ctx, phase := .suspended, bodyReading := true }
      | .readFailed rc => { r with ctx, phase := .finalized, finalizations := r.finalizations ++ [.status rc] }
  | .bodyRead enc collected =>
    if !r.bodyReading then r
    else
      let (out, state) := guardrailsBodyReadHandler extract enc collected (r.ctx.getD {})
      match out with
      | .resume v => resumePhases { r with bodyReading := false, ctx := some state } v none
      | .spawn _ => { r with bodyReading := false, ctx := some state, inspecting := true }
  | .inspectionDone res =>
    if !r.inspecting then r
    else
      let d := runInspection parse res
      resumePhases { r with inspecting := false } (if d.allow then .allow else .block) d.message
  | .writeEvent => if r.phase = .suspended then { r with phase := .running } else r

def runRequest (events : List RequestEvent) : RequestRun :=
  events.foldl (stepRequest conf extract parse) {}

/-- An event the machine acted on that lets access be granted: the read
of a body with nothing to inspect, or the completion of the inspection with
a cleared answer. -/
def AllowsAccessAt (r : RequestRun) : RequestEvent → Prop
  | .bodyRead enc collected => r.bodyReading ∧ NothingToInspect extract enc collected
  | .inspectionDone res => r.inspecting ∧ ClearedBy parse res
  | _ => False

/-- Some event of `seen` let access be granted when it was delivered. -/
def Grounded (seen : List RequestEvent) : Prop :=
  ∃ pre e post, seen = pre ++ e :: post ∧ AllowsAccessAt extract parse (runRequest conf extract parse pre) e

/-- The invariant of every run `r` of the events `seen`: what is in flight
has a started, pending state of an enabled configuration; a started,
pending state has something in flight unless the request is finalized; an
`allow` verdict and a grant have a reason among the events, and a grant
cleared the state; and the request is finalized at most once, with a 403 or
with a failed body read's status. -/
structure RequestInv (seen : List RequestEvent) (r : RequestRun) : Prop where
  run : runRequest conf extract parse seen = r
  reading : r.bodyReading → ¬ r.inspecting ∧ r.phase ≠ .finalized ∧ InspectionEnabled conf ∧
    ∃ s, r.ctx = some s ∧ s.verdict = .pending ∧ s.started ∧ s.params.isSome
  inspecting : r.inspecting → r.phase ≠ .finalized ∧ InspectionEnabled conf ∧
    ∃ s, r.ctx = some s ∧ s.verdict = .pending ∧ s.started
  inFlight : ∀ s, r.ctx = some s → s.verdict = .pending → s.started →
    r.bodyReading ∨ r.inspecting ∨ r.phase = .finalized
  allowGrounded : ∀ s, r.ctx = some s → s.verdict = .allow → Grounded conf extract parse seen
  granted : r.phase = .granted → r.ctx = none ∧ Grounded conf extract parse seen
  once : (r.phase = .finalized → r.finalizations.length = 1) ∧ (r.phase ≠ .finalized → r.finalizations = [])
  statuses : ∀ f ∈ r.finalizations,
    (∃ k, f = .forbidden k) ∨ ∃ rc allocOk, f = .status rc ∧ 300 ≤ rc ∧ .accessPhase allocOk rc ∈ seen

variable {conf extract parse} {seen : List RequestEvent} {r : RequestRun}

theorem runRequest_append_singleton (seen : List RequestEvent) (e : RequestEvent) :
    runRequest conf extract parse (seen ++ [e]) = stepRequest conf extract parse (runRequest conf extract parse seen) e := by
  simp [runRequest]

theorem Grounded.append (h : Grounded conf extract parse seen) (more : List RequestEvent) :
    Grounded conf extract parse (seen ++ more) := by
  obtain ⟨pre, e, post, rfl, he⟩ := h
  exact ⟨pre, e, post ++ more, by simp, he⟩

theorem Grounded.last {e : RequestEvent} (h : AllowsAccessAt extract parse (runRequest conf extract parse seen) e) :
    Grounded conf extract parse (seen ++ [e]) :=
  ⟨seen, e, [], rfl, h⟩

theorem RequestInv.init : RequestInv conf extract parse [] {} := by
  refine ⟨rfl, ?_, ?_, ?_, ?_, ?_, ?_, ?_⟩ <;> simp

/-- A started, pending state has something in flight while the request is
not finalized. -/
theorem RequestInv.in_flight (h : RequestInv conf extract parse seen r) (hr : r.phase ≠ .finalized)
    {s : RequestInspectState} (hs : r.ctx = some s) (hv : s.verdict = .pending) (hst : s.started) :
    r.bodyReading ∨ r.inspecting := by
  rcases h.inFlight s hs hv hst with h' | h' | h'
  · exact .inl h'
  · exact .inr h'
  · exact absurd h' hr

/-- Nothing is in flight when the state is not a started, pending one. -/
theorem RequestInv.idle (h : RequestInv conf extract parse seen r)
    (hno : ∀ s, r.ctx = some s → s.verdict = .pending → s.started → False) :
    r.bodyReading = false ∧ r.inspecting = false := by
  constructor
  · cases hb : r.bodyReading
    · rfl
    · obtain ⟨-, -, -, s, hs, hv, hst, -⟩ := h.reading hb
      exact (hno s hs hv hst).elim
  · cases hi : r.inspecting
    · rfl
    · obtain ⟨-, -, s, hs, hv, hst⟩ := h.inspecting hi
      exact (hno s hs hv hst).elim

/-- A finalization of the run stays one of the run extended. -/
theorem RequestInv.old_statuses (h : RequestInv conf extract parse seen r) (more : List RequestEvent)
    {f : Finalization} (hf : f ∈ r.finalizations) :
    (∃ k, f = .forbidden k) ∨ ∃ rc allocOk, f = .status rc ∧ 300 ≤ rc ∧ .accessPhase allocOk rc ∈ seen ++ more := by
  rcases h.statuses f hf with hk | ⟨rc, a, hrc, hle, hmem⟩
  · exact .inl hk
  · exact .inr ⟨rc, a, hrc, hle, List.mem_append_left _ hmem⟩

/-- An event the machine ignores keeps the invariant. -/
theorem RequestInv.stay {e : RequestEvent} (h : RequestInv conf extract parse seen r)
    (he : stepRequest conf extract parse r e = r) :
    RequestInv conf extract parse (seen ++ [e]) (stepRequest conf extract parse r e) := by
  rw [he]
  exact
    { run := by rw [runRequest_append_singleton, h.run, he]
      reading := h.reading
      inspecting := h.inspecting
      inFlight := h.inFlight
      allowGrounded := fun s hs hv => (h.allowGrounded s hs hv).append _
      granted := fun hg => ⟨(h.granted hg).1, (h.granted hg).2.append _⟩
      once := h.once
      statuses := fun _ hf => h.old_statuses _ hf }

/-- Moving the access phase between states other than granted and
finalized keeps the invariant. -/
theorem RequestInv.setPhase {e : RequestEvent} {p : AccessPhase} (h : RequestInv conf extract parse seen r)
    (hr : r.phase ≠ .finalized) (hp : p ≠ .finalized) (hg : p ≠ .granted)
    (hrun : stepRequest conf extract parse r e = { r with phase := p }) :
    RequestInv conf extract parse (seen ++ [e]) { r with phase := p } where
  run := by rw [runRequest_append_singleton, h.run, hrun]
  reading hb := by
    obtain ⟨hi, -, hen, hs⟩ := h.reading hb
    exact ⟨hi, hp, hen, hs⟩
  inspecting hi := by
    obtain ⟨-, hen, hs⟩ := h.inspecting hi
    exact ⟨hp, hen, hs⟩
  inFlight s hs hv hst := by
    rcases h.in_flight hr hs hv hst with h' | h'
    · exact .inl h'
    · exact .inr (.inl h')
  allowGrounded s hs hv := (h.allowGrounded s hs hv).append _
  granted hg' := absurd hg' hg
  once := ⟨fun hf => absurd hf hp, fun _ => h.once.2 hr⟩
  statuses _ hf := h.old_statuses _ hf

/-- Recording a verdict that is not pending ends what was in flight; the
invariant holds when an `allow` has its reason in the event. -/
theorem RequestInv.record {e : RequestEvent} {r' : RequestRun} {s' : RequestInspectState}
    (h : RequestInv conf extract parse seen r) (hctx : r.ctx ≠ none)
    (hrun : stepRequest conf extract parse r e = r') (hs' : r'.ctx = some s')
    (hb : r'.bodyReading = false) (hi : r'.inspecting = false)
    (hph : r'.phase = r.phase) (hfin : r'.finalizations = r.finalizations)
    (hv : s'.verdict ≠ .pending) (hallow : s'.verdict = .allow → AllowsAccessAt extract parse r e) :
    RequestInv conf extract parse (seen ++ [e]) r' where
  run := by rw [runRequest_append_singleton, h.run, hrun]
  reading hb' := by simp [hb] at hb'
  inspecting hi' := by simp [hi] at hi'
  inFlight s hs hv' := by
    rw [hs'] at hs
    cases hs
    exact absurd hv' hv
  allowGrounded s hs hv' := by
    rw [hs'] at hs
    cases hs
    exact Grounded.last (h.run ▸ hallow hv')
  granted hg := by
    rw [hph] at hg
    exact absurd (h.granted hg).1 hctx
  once := hph ▸ hfin ▸ h.once
  statuses _ hf := h.old_statuses _ (hfin ▸ hf)

/-! ### One step of each kind keeps the invariant -/

/-- The access handler's run keeps the invariant: a grant had an `allow`
verdict, a 403 under an enabled configuration had nothing in flight, and an
inspection starts from a state with nothing in flight. -/
theorem RequestInv.accessPhase {allocOk : Bool} {readRc : Int} (h : RequestInv conf extract parse seen r) :
    RequestInv conf extract parse (seen ++ [.accessPhase allocOk readRc])
      (stepRequest conf extract parse r (.accessPhase allocOk readRc)) := by
  by_cases hph : r.phase = .running
  swap
  · exact h.stay (by simp [stepRequest, hph])
  have hnf : r.phase ≠ .finalized := by simp [hph]
  have hfin0 : r.finalizations = [] := h.once.2 hnf
  have hrun : ∀ r', stepRequest conf extract parse r (.accessPhase allocOk readRc) = r' →
      runRequest conf extract parse (seen ++ [.accessPhase allocOk readRc]) = r' := by
    intro r' hr'
    rw [runRequest_append_singleton, h.run, hr']
  rcases hacc : guardrailsAccessHandler conf allocOk readRc r.ctx with ⟨out, ctx'⟩
  rcases guardrailsAccessHandler_spec hacc with ⟨rfl, rfl⟩ | ⟨k, rfl, rfl, hblock⟩ | ⟨rfl, rfl, s, hs, hv⟩ |
    ⟨rfl, rfl, -⟩ | ⟨hout, hen, hold, s', rfl, hv', hst', hpar⟩
  case inl =>
    have hstep : stepRequest conf extract parse r (.accessPhase allocOk readRc) = { r with phase := .declined } := by
      simp [stepRequest, hph, hacc]
    rw [hstep]
    exact h.setPhase hnf (by simp) (by simp) hstep
  case inr.inl =>
    have hstep : stepRequest conf extract parse r (.accessPhase allocOk readRc) =
        { r with phase := .finalized, finalizations := r.finalizations ++ [.forbidden k] } := by
      simp [stepRequest, hph, hacc]
    rw [hstep]
    have hno : ∀ s, r.ctx = some s → s.verdict = .pending → InspectionEnabled conf → False := by
      intro s hs hv hen
      have hb := (hblock hen s hs).1
      rw [hv] at hb
      cases hb
    exact
      { run := hrun _ hstep
        reading := fun hb => by
          obtain ⟨-, -, hen, s, hs, hv, -⟩ := h.reading hb
          exact (hno s hs hv hen).elim
        inspecting := fun hi => by
          obtain ⟨-, hen, s, hs, hv, -⟩ := h.inspecting hi
          exact (hno s hs hv hen).elim
        inFlight := fun _ _ _ _ => .inr (.inr rfl)
        allowGrounded := fun s hs hv => (h.allowGrounded s hs hv).append _
        granted := fun hg => by cases hg
        once := ⟨fun _ => by simp [hfin0], fun hf => absurd rfl hf⟩
        statuses := fun f hf => by
          rcases List.mem_append.1 hf with hf | hf
          · exact h.old_statuses _ hf
          · exact .inl ⟨k, by simpa using hf⟩ }
  case inr.inr.inl =>
    have hstep : stepRequest conf extract parse r (.accessPhase allocOk readRc) =
        { r with ctx := none, phase := .granted } := by
      simp [stepRequest, hph, hacc]
    rw [hstep]
    obtain ⟨hb, hi⟩ := h.idle fun s' hs' hv' _ => by
      rw [hs] at hs'
      cases hs'
      rw [hv] at hv'
      cases hv'
    exact
      { run := hrun _ hstep
        reading := fun hb' => by simp [hb] at hb'
        inspecting := fun hi' => by simp [hi] at hi'
        inFlight := fun _ hs' => by cases hs'
        allowGrounded := fun _ hs' => by cases hs'
        granted := fun _ => ⟨rfl, (h.allowGrounded s hs hv).append _⟩
        once := ⟨fun hf => (by cases hf), fun _ => hfin0⟩
        statuses := fun _ hf => h.old_statuses _ hf }
  case inr.inr.inr.inl =>
    have hstep : stepRequest conf extract parse r (.accessPhase allocOk readRc) = { r with phase := .suspended } := by
      simp [stepRequest, hph, hacc]
    rw [hstep]
    exact h.setPhase hnf (by simp) (by simp) hstep
  case inr.inr.inr.inr =>
    obtain ⟨hb, hi⟩ := h.idle fun s hs _ hst => by
      have := (hold s hs).2
      rw [hst] at this
      cases this
    have hpend : ∀ s, some s' = some s → s.verdict = .allow → False := by
      intro s hs hv
      cases hs
      rw [hv'] at hv
      cases hv
    rcases hout with rfl | ⟨rfl, hrc⟩
    · have hstep : stepRequest conf extract parse r (.accessPhase allocOk readRc) =
          { r with ctx := some s', phase := .suspended, bodyReading := true } := by
        simp [stepRequest, hph, hacc]
      rw [hstep]
      exact
        { run := hrun _ hstep
          reading := fun _ => ⟨by simp [hi], by simp, hen, s', rfl, hv', hst', hpar⟩
          inspecting := fun hi' => by simp [hi] at hi'
          inFlight := fun _ _ _ _ => .inl rfl
          allowGrounded := fun s hs hv => (hpend s hs hv).elim
          granted := fun hg => by cases hg
          once := ⟨fun hf => (by cases hf), fun _ => hfin0⟩
          statuses := fun _ hf => h.old_statuses _ hf }
    · have hstep : stepRequest conf extract parse r (.accessPhase allocOk readRc) =
          { r with ctx := some s', phase := .finalized, finalizations := r.finalizations ++ [.status readRc] } := by
        simp [stepRequest, hph, hacc]
      rw [hstep]
      exact
        { run := hrun _ hstep
          reading := fun hb' => by simp [hb] at hb'
          inspecting := fun hi' => by simp [hi] at hi'
          inFlight := fun _ _ _ _ => .inr (.inr rfl)
          allowGrounded := fun s hs hv => (hpend s hs hv).elim
          granted := fun hg => by cases hg
          once := ⟨fun _ => by simp [hfin0], fun hf => absurd rfl hf⟩
          statuses := fun f hf => by
            rcases List.mem_append.1 hf with hf | hf
            · exact h.old_statuses _ hf
            · exact .inr ⟨readRc, allocOk, by simpa using hf, hrc, by simp⟩ }

/-- The body-read handler's run keeps the invariant: it records a verdict
for the read in flight, or hands it to the inspection. -/
theorem RequestInv.bodyRead {enc : Bool} {collected : CollectedBody} (h : RequestInv conf extract parse seen r) :
    RequestInv conf extract parse (seen ++ [.bodyRead enc collected])
      (stepRequest conf extract parse r (.bodyRead enc collected)) := by
  cases hb : r.bodyReading
  · exact h.stay (by simp [stepRequest, hb])
  obtain ⟨hi, hnf, hen, s, hs, hv, hst, -⟩ := h.reading hb
  have hi : r.inspecting = false := by simpa using hi
  rcases hbr : guardrailsBodyReadHandler extract enc collected s with ⟨out, s''⟩
  rcases guardrailsBodyReadHandler_spec hbr with ⟨v, rfl, hvp, hallow⟩ | ⟨c, rfl, hv'', hst''⟩
  · have hstep : stepRequest conf extract parse r (.bodyRead enc collected) =
        resumePhases { r with bodyReading := false, ctx := some s'' } v none := by
      simp [stepRequest, hb, hs, hbr]
    rw [hstep]
    exact h.record (by simp [hs]) hstep rfl (by simp) (by simp [hi]) (by simp) (by simp) (by simpa using hvp)
      fun hv' => ⟨hb, hallow (by simpa using hv')⟩
  · have hstep : stepRequest conf extract parse r (.bodyRead enc collected) =
        { r with bodyReading := false, ctx := some s'', inspecting := true } := by
      simp [stepRequest, hb, hs, hbr]
    rw [hstep]
    exact
      { run := by rw [runRequest_append_singleton, h.run, hstep]
        reading := fun hb' => by simp at hb'
        inspecting := fun _ => ⟨hnf, hen, s'', rfl, hv''.trans hv, hst''.trans hst⟩
        inFlight := fun _ _ _ _ => .inr (.inl rfl)
        allowGrounded := fun s0 hs0 hv0 => by
          cases hs0
          rw [hv'', hv] at hv0
          cases hv0
        granted := fun hg => absurd (h.granted hg).1 (by simp [hs])
        once := h.once
        statuses := fun _ hf => h.old_statuses _ hf }

/-- The inspection's completion keeps the invariant: only a cleared answer
records `allow`. -/
theorem RequestInv.inspectionDone {res : SubrequestResult} (h : RequestInv conf extract parse seen r) :
    RequestInv conf extract parse (seen ++ [.inspectionDone res])
      (stepRequest conf extract parse r (.inspectionDone res)) := by
  cases hi : r.inspecting
  · exact h.stay (by simp [stepRequest, hi])
  obtain ⟨-, -, s, hs, -, -⟩ := h.inspecting hi
  have hb : r.bodyReading = false := by
    cases hb : r.bodyReading
    · rfl
    · exact absurd hi (h.reading hb).1
  have hstep : stepRequest conf extract parse r (.inspectionDone res) =
      resumePhases { r with inspecting := false }
        (if (runInspection parse res).allow then .allow else .block) (runInspection parse res).message := by
    simp [stepRequest, hi]
  rw [hstep]
  refine h.record (by simp [hs]) hstep rfl (by simp [hb]) (by simp) (by simp) (by simp) ?_ ?_
  · split <;> simp
  · intro hv
    refine ⟨hi, runInspection_allow ?_⟩
    by_contra hd
    simp [hd] at hv

theorem RequestInv.writeEvent (h : RequestInv conf extract parse seen r) :
    RequestInv conf extract parse (seen ++ [.writeEvent]) (stepRequest conf extract parse r .writeEvent) := by
  by_cases hph : r.phase = .suspended
  · have hstep : stepRequest conf extract parse r .writeEvent = { r with phase := .running } := by
      simp [stepRequest, hph]
    rw [hstep]
    exact h.setPhase (by simp [hph]) (by simp) (by simp) hstep
  · exact h.stay (by simp [stepRequest, hph])

theorem RequestInv.step (h : RequestInv conf extract parse seen r) (e : RequestEvent) :
    RequestInv conf extract parse (seen ++ [e]) (stepRequest conf extract parse r e) := by
  cases e with
  | accessPhase allocOk readRc => exact h.accessPhase
  | bodyRead enc collected => exact h.bodyRead
  | inspectionDone res => exact h.inspectionDone
  | writeEvent => exact h.writeEvent

/-- Every run keeps the invariant. -/
theorem runRequest_inv (events : List RequestEvent) :
    RequestInv conf extract parse events (runRequest conf extract parse events) := by
  induction events using List.reverseRecOn with
  | nil => exact RequestInv.init
  | append_singleton seen e ih =>
    rw [runRequest_append_singleton]
    exact ih.step e

/-! ### Whole runs -/

/-- The state holds the verdict of `s`, or a grant has cleared it for good. -/
def Settled (s : RequestInspectState) (r : RequestRun) : Prop :=
  r.ctx = some s ∨ (r.ctx = none ∧ r.phase = .granted)

/-- No step changes a recorded verdict: nothing is in flight, and the access
handler keeps the state or clears it on a grant. -/
theorem RequestInv.settled_step {s : RequestInspectState} (h : RequestInv conf extract parse seen r)
    (hs : Settled s r) (hv : s.verdict ≠ .pending) (e : RequestEvent) :
    Settled s (stepRequest conf extract parse r e) := by
  have hidle : r.bodyReading = false ∧ r.inspecting = false := h.idle fun s' hs' hv' _ => by
    rcases hs with hs | ⟨hs, -⟩ <;> rw [hs] at hs'
    · cases hs'
      exact hv hv'
    · cases hs'
  cases e with
  | bodyRead enc collected => simpa [stepRequest, hidle.1] using hs
  | inspectionDone res => simpa [stepRequest, hidle.2] using hs
  | writeEvent =>
    by_cases hph : r.phase = .suspended
    · rcases hs with hs | ⟨-, hg⟩
      · exact .inl (by simp [stepRequest, hph, hs])
      · rw [hg] at hph
        cases hph
    · simpa [stepRequest, hph] using hs
  | accessPhase allocOk readRc =>
    by_cases hph : r.phase = .running
    swap
    · simpa [stepRequest, hph] using hs
    rcases hs with hs | ⟨-, hg⟩
    swap
    · rw [hg] at hph
      cases hph
    rcases hacc : guardrailsAccessHandler conf allocOk readRc (some s) with ⟨out, ctx'⟩
    rcases guardrailsAccessHandler_spec hacc with ⟨rfl, rfl⟩ | ⟨k, rfl, rfl, -⟩ | ⟨rfl, rfl, -⟩ |
      ⟨rfl, rfl, -⟩ | ⟨-, -, hold, -⟩
    · exact .inl (by simp [stepRequest, hph, hs, hacc])
    · exact .inl (by simp [stepRequest, hph, hs, hacc])
    · exact .inr (by simp [stepRequest, hph, hs, hacc])
    · exact .inl (by simp [stepRequest, hph, hs, hacc])
    · exact absurd (hold s rfl).1 hv

/-- Once recorded, a verdict stays for the rest of every run. -/
theorem runRequest_settled {s : RequestInspectState} (pre post : List RequestEvent)
    (hs : (runRequest conf extract parse pre).ctx = some s) (hv : s.verdict ≠ .pending) :
    Settled s (runRequest conf extract parse (pre ++ post)) := by
  induction post using List.reverseRecOn with
  | nil =>
    rw [List.append_nil]
    exact .inl hs
  | append_singleton post e ih =>
    rw [← List.append_assoc, runRequest_append_singleton]
    exact (runRequest_inv _).settled_step ih hv e

/-- A recorded block is refused with the module's 403 whenever the access
handler runs. -/
theorem stepRequest_block {allocOk : Bool} {readRc : Int} {s : RequestInspectState}
    (hen : InspectionEnabled conf) (hph : r.phase = .running) (hs : r.ctx = some s) (hv : s.verdict = .block) :
    (stepRequest conf extract parse r (.accessPhase allocOk readRc)).finalizations =
      r.finalizations ++ [.forbidden (blockKindOf s)] := by
  obtain ⟨c, u, rfl, hin, hu⟩ := hen
  simp [stepRequest, guardrailsAccessHandler, decideAccessAction, hph, hs, hin, hu, hv]

theorem guardrails_request_fail_closed (events : List RequestEvent) :
    ((runRequest conf extract parse events).phase = .granted → Grounded conf extract parse events) ∧
    (runRequest conf extract parse events).finalizations.length ≤ 1 ∧
    (∀ f ∈ (runRequest conf extract parse events).finalizations, (∃ k, f = .forbidden k) ∨
      ∃ rc allocOk, f = .status rc ∧ 300 ≤ rc ∧ .accessPhase allocOk rc ∈ events) ∧
    (∀ pre post s, events = pre ++ post → (runRequest conf extract parse pre).ctx = some s →
      s.verdict ≠ .pending → Settled s (runRequest conf extract parse events)) ∧
    (InspectionEnabled conf → ∀ s allocOk readRc, (runRequest conf extract parse events).phase = .running →
      (runRequest conf extract parse events).ctx = some s → s.verdict = .block →
      (runRequest conf extract parse (events ++ [.accessPhase allocOk readRc])).finalizations =
        [.forbidden (blockKindOf s)]) := by
  have h : RequestInv conf extract parse events (runRequest conf extract parse events) := runRequest_inv events
  refine ⟨fun hg => (h.granted hg).2, ?_, h.statuses, ?_, ?_⟩
  · by_cases hf : (runRequest conf extract parse events).phase = .finalized
    · simp [h.once.1 hf]
    · simp [h.once.2 hf]
  · rintro pre post s rfl hs hv
    exact runRequest_settled pre post hs hv
  · intro hen s allocOk readRc hph hs hv
    have hnf : (runRequest conf extract parse events).phase ≠ .finalized := by simp [hph]
    rw [runRequest_append_singleton, stepRequest_block hen hph hs hv, h.once.2 hnf]
    rfl

end Machine

/-- A location with request inspection on. -/
def inspectingConf : Option GuardrailsConf :=
  some { inspectRequests := true, internalUri := some "/_ngf-internal-guardrails" }

/-- When `ngx_http_read_client_request_body` fails (here with 413, a chunked
body over `client_max_body_size`), the access handler returns its status
and the request is finalized with it, not with the module's 403. -/
theorem request_body_read_failure_finalizes_with_status :
    runRequest inspectingConf (fun _ => .none) (fun _ => none) [.accessPhase true 413] =
      { ctx := some { started := true, params := some { internalUri := "/_ngf-internal-guardrails", apiToken := none } }
        phase := .finalized
        finalizations := [.status 413] } := by
  decide

end GatewayFabric.Guardrails
