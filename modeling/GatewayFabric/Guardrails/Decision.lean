/-
The decisions of the ai-guardrails NGINX module (`decision.rs`,
`subrequest_client.rs`) that the request and the response path share: how
the guardrails backend's answer to an inspection subrequest becomes an
allow or a block, and the access handler's choice of action.

The backend's JSON body is read with `serde_json`; that parse is a
parameter (`parse`), given by the response it yields. Everything after it
is as the source has it: the subrequest must have finished with `NGX_OK`,
a 2xx status and a non-empty body, and the content is cleared only when
`result.outcome` is `cleared`; every error blocks.
-/
import Mathlib

namespace GatewayFabric.Guardrails

/-- One guardrail's result in `result.scannerResults`. -/
structure ScannerResult where
  outcome : String := ""
  message : Option String := none
  deriving Repr, DecidableEq

/-- `GuardrailsResponse`: `result.outcome` and `result.scannerResults`. -/
structure GuardrailsResponse where
  outcome : String
  scannerResults : List ScannerResult := []
  deriving Repr, DecidableEq

/-- `Verdict`: whether the content cleared, and the backend's block message. -/
structure Verdict where
  cleared : Bool
  message : Option String
  deriving Repr, DecidableEq

inductive GuardrailsError where
  | requestFailed (msg : String)
  | invalidResponse (msg : String)
  deriving Repr, DecidableEq

/-- The first failed guardrail's message, trimmed, when it is not empty. -/
def extractBlockMessage (resp : GuardrailsResponse) : Option String :=
  ((resp.scannerResults.find? (·.outcome = "failed")).bind (·.message)).bind fun m =>
    let t := m.trimAscii.copy
    if t = "" then none else some t

def parseOutcome (parse : List UInt8 → Option GuardrailsResponse) (body : List UInt8) :
    Except GuardrailsError Verdict :=
  match parse body with
  | none => .error (.invalidResponse "invalid guardrails response")
  | some resp =>
    let cleared := decide (resp.outcome = "cleared")
    .ok { cleared, message := if cleared then none else extractBlockMessage resp }

/-- How the inspection subrequest ended: it could not be issued (the body,
the subrequest or its completion handle failed), or it finished with a
return code, the backend's status and the body it sent. -/
inductive SubrequestResult where
  | notIssued
  | finished (rcOk : Bool) (status : Nat) (body : List UInt8)
  deriving Repr, DecidableEq

/-- `inspect_content_async` after the subrequest: its return code, then
`extract_outcome` (a 2xx status, a non-empty body) and `parse_outcome`. -/
def inspectContentResult (parse : List UInt8 → Option GuardrailsResponse) :
    SubrequestResult → Except GuardrailsError Verdict
  | .notIssued => .error (.requestFailed "guardrails subrequest not issued")
  | .finished rcOk status body =>
    if !rcOk then .error (.requestFailed "guardrails subrequest failed")
    else if ¬(200 ≤ status ∧ status < 300) then .error (.invalidResponse "guardrails backend status")
    else if body = [] then .error (.invalidResponse "empty guardrails response body")
    else parseOutcome parse body

/-- `InspectionDecision`: allow, or block with the backend's message. -/
structure InspectionDecision where
  allow : Bool
  message : Option String
  deriving Repr, DecidableEq

/-- The fail-closed policy: only a cleared verdict allows. -/
def verdictFromInspection : Option Verdict → InspectionDecision
  | some v => if v.cleared then { allow := true, message := none } else { allow := false, message := v.message }
  | none => { allow := false, message := none }

/-- `run_inspection`: the inspection's result, an error counted as a block. -/
def runInspection (parse : List UInt8 → Option GuardrailsResponse) (res : SubrequestResult) : InspectionDecision :=
  verdictFromInspection
    (match inspectContentResult parse res with
      | .ok v => some v
      | .error _ => none)

/-- A subrequest whose answer clears the content: it finished with
`NGX_OK`, a 2xx status and a non-empty body that parses to a response whose
outcome is `cleared`. -/
def ClearedBy (parse : List UInt8 → Option GuardrailsResponse) (res : SubrequestResult) : Prop :=
  ∃ status body resp, res = .finished true status body ∧ 200 ≤ status ∧ status < 300 ∧ body ≠ [] ∧
    parse body = some resp ∧ resp.outcome = "cleared"

theorem parseOutcome_cleared {parse : List UInt8 → Option GuardrailsResponse} {body : List UInt8} {v : Verdict}
    (h : parseOutcome parse body = .ok v) (hc : v.cleared) :
    ∃ resp, parse body = some resp ∧ resp.outcome = "cleared" := by
  unfold parseOutcome at h
  split at h
  · cases h
  · next resp hresp =>
    cases h
    exact ⟨resp, hresp, by simpa using hc⟩

/-- Only a cleared subrequest allows. -/
theorem runInspection_allow {parse : List UInt8 → Option GuardrailsResponse} {res : SubrequestResult}
    (h : (runInspection parse res).allow) : ClearedBy parse res := by
  cases res with
  | notIssued => simp [runInspection, inspectContentResult, verdictFromInspection] at h
  | finished rcOk status body =>
    have hv : ∃ v, inspectContentResult parse (.finished rcOk status body) = .ok v ∧ v.cleared := by
      unfold runInspection at h
      split at h
      · next v hv =>
        refine ⟨v, hv, ?_⟩
        cases hc : v.cleared <;> simp_all [verdictFromInspection]
      · simp [verdictFromInspection] at h
    obtain ⟨v, hres, hc⟩ := hv
    simp only [inspectContentResult] at hres
    split_ifs at hres with hrc hst hbody
    obtain ⟨resp, hparse, hout⟩ := parseOutcome_cleared hres hc
    refine ⟨status, body, resp, ?_, ?_, ?_, hbody, hparse, hout⟩
    · simp_all
    · omega
    · omega

/-! ## The access handler's action -/

/-- `InspectVerdict`, the verdict slot of the request's inspection state. -/
inductive InspectVerdict where
  | pending
  | allow
  | block
  deriving Repr, DecidableEq

inductive AccessAction where
  | grantAccess
  | block
  | wait
  | startInspection
  deriving Repr, DecidableEq

/-- A resolved verdict wins over `started`; while pending, `started` tells
waiting from starting. -/
def decideAccessAction (verdict : InspectVerdict) (started : Bool) : AccessAction :=
  match verdict with
  | .allow => .grantAccess
  | .block => .block
  | .pending => if started then .wait else .startInspection

@[simp] theorem decideAccessAction_eq_grantAccess {v : InspectVerdict} {started : Bool} :
    decideAccessAction v started = .grantAccess ↔ v = .allow := by
  cases v <;> cases started <;> simp [decideAccessAction]

@[simp] theorem decideAccessAction_eq_block {v : InspectVerdict} {started : Bool} :
    decideAccessAction v started = .block ↔ v = .block := by
  cases v <;> cases started <;> simp [decideAccessAction]

@[simp] theorem decideAccessAction_eq_wait {v : InspectVerdict} {started : Bool} :
    decideAccessAction v started = .wait ↔ v = .pending ∧ started = true := by
  cases v <;> cases started <;> simp [decideAccessAction]

@[simp] theorem decideAccessAction_eq_startInspection {v : InspectVerdict} {started : Bool} :
    decideAccessAction v started = .startInspection ↔ v = .pending ∧ started = false := by
  cases v <;> cases started <;> simp [decideAccessAction]

end GatewayFabric.Guardrails
