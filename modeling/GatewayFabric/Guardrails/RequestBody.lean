/-
The text the request path inspects (`extract_inspection_content` and
`MessageContent::into_text` in `request_path.rs`): a non-empty `prompt`,
else the non-empty contents of the messages joined by newlines, else the
raw body; nothing for an empty text, and `Undecodable` for a body that is
not UTF-8.

The UTF-8 decoding and `serde_json`'s parse of a `RequestBody` are
parameters (`RequestCodec`). What the upstream model reads of a body, its
prompt and the text of every message, is `RequestBody.readableTexts`.

The main results: a body is undecodable exactly when it is not UTF-8, and
has nothing to inspect only when it decodes to the empty string; without a
prompt, every text the model reads stands whole in the inspected text; and a
non-empty prompt is inspected alone, so the messages beside it are never
sent to the guardrails backend.
-/
import GatewayFabric.Guardrails.Request
import GatewayFabric.Guardrails.Response
import GatewayFabric.Lib.Lines

namespace GatewayFabric.Guardrails

/-- One element of an array-shaped `content`; a non-text part has no `text`. -/
structure ContentPart where
  kind : String
  text : Option String := none
  deriving Repr, DecidableEq

/-- OpenAI chat `content`: a plain string, or an array of typed parts. -/
inductive MessageContent where
  | text (s : String)
  | parts (parts : List ContentPart)
  deriving Repr, DecidableEq

structure RequestMessage where
  content : Option MessageContent := none
  deriving Repr, DecidableEq

/-- `RequestBody`, the chat and completion request formats. -/
structure RequestBody where
  prompt : Option String := none
  messages : Option (List RequestMessage) := none
  deriving Repr, DecidableEq

/-- The decoders the request path takes from the Rust libraries. -/
structure RequestCodec where
  utf8 : List UInt8 → Option String
  parseRequestBody : String → Option RequestBody

/-- The string itself, or the non-empty texts of the `text` parts joined by newlines. -/
def MessageContent.intoText : MessageContent → String
  | .text s => s
  | .parts ps => "\n".intercalate (((ps.filter (·.kind = "text")).filterMap (·.text)).filter (· ≠ ""))

/-- The non-empty contents of the messages joined by newlines. -/
def messagesText (messages : List RequestMessage) : String :=
  "\n".intercalate (((messages.filterMap (·.content)).map MessageContent.intoText).filter (· ≠ ""))

/-- The `content` of `extract_inspection_content`: what is inspected of a
UTF-8 body, with the raw envelope for an unknown shape or nothing else to
inspect. -/
def inspectionContent (codec : RequestCodec) (bodyStr : String) : String :=
  match codec.parseRequestBody bodyStr with
  | some body =>
    match body.prompt.filter (· ≠ "") with
    | some prompt => prompt
    | none =>
      match body.messages with
      | some messages =>
        let extracted := messagesText messages
        if extracted ≠ "" then extracted else bodyStr
      | none => bodyStr
  | none => bodyStr

def extractInspectionContent (codec : RequestCodec) (bodyData : List UInt8) : InspectableContent :=
  match codec.utf8 bodyData with
  | none => .undecodable
  | some bodyStr =>
    let content := inspectionContent codec bodyStr
    if content = "" then .none else .text content

/-! ## What the upstream model reads -/

/-- The texts the model reads of a message's content: the string, or the
text of each `text` part. -/
def MessageContent.readableTexts : MessageContent → List String
  | .text s => [s]
  | .parts ps => (ps.filter (·.kind = "text")).filterMap (·.text)

/-- The texts the model reads of a body: its prompt and the content of every message. -/
def RequestBody.readableTexts (body : RequestBody) : List String :=
  body.prompt.toList ++ ((body.messages.getD []).filterMap (·.content)).flatMap MessageContent.readableTexts

/-! ## The content -/

variable {codec : RequestCodec}

/-- The raw body is inspected unless a prompt or the messages give a text,
and those are chosen only when they are not empty. -/
theorem eq_empty_of_inspectionContent_eq_empty {bodyStr : String} (h : inspectionContent codec bodyStr = "") :
    bodyStr = "" := by
  unfold inspectionContent at h
  split at h
  · split at h
    · next hp =>
      obtain ⟨-, hne⟩ := Option.filter_eq_some_iff.1 hp
      simp [h] at hne
    · split at h
      · dsimp only at h
        split at h
        · next hne => exact absurd h hne
        · exact h
      · exact h
  · exact h

theorem inspectionContent_of_prompt {bodyStr prompt : String} {body : RequestBody}
    (hparse : codec.parseRequestBody bodyStr = some body) (hprompt : body.prompt = some prompt) (hne : prompt ≠ "") :
    inspectionContent codec bodyStr = prompt := by
  have hfilter : body.prompt.filter (· ≠ "") = some prompt := by simp [hprompt, hne]
  simp only [inspectionContent, hparse, hfilter]

theorem inspectionContent_of_messages {bodyStr : String} {body : RequestBody} {messages : List RequestMessage}
    (hparse : codec.parseRequestBody bodyStr = some body) (hprompt : ∀ p, body.prompt = some p → p = "")
    (hmessages : body.messages = some messages) (hne : messagesText messages ≠ "") :
    inspectionContent codec bodyStr = messagesText messages := by
  have hfilter : body.prompt.filter (· ≠ "") = none := by
    cases hp : body.prompt with
    | none => rfl
    | some p => simp [hprompt p hp]
  simp only [inspectionContent, hparse, hfilter, hmessages, ne_eq, hne, not_false_eq_true, if_true]

/-! ## Decoding -/

variable {bodyData : List UInt8}

theorem extractInspectionContent_of_utf8 {bodyStr : String} (h8 : codec.utf8 bodyData = some bodyStr) :
    extractInspectionContent codec bodyData =
      if inspectionContent codec bodyStr = "" then .none else .text (inspectionContent codec bodyStr) := by
  simp only [extractInspectionContent, h8]

theorem extractInspectionContent_eq_undecodable_iff :
    extractInspectionContent codec bodyData = .undecodable ↔ codec.utf8 bodyData = none := by
  cases h8 : codec.utf8 bodyData with
  | none => simp [extractInspectionContent, h8]
  | some bodyStr =>
    rw [extractInspectionContent_of_utf8 h8]
    split <;> simp

/-- Nothing is inspected only for a body that decodes to the empty string. -/
theorem utf8_eq_empty_of_extractInspectionContent_eq_none (h : extractInspectionContent codec bodyData = .none) :
    codec.utf8 bodyData = some "" := by
  cases h8 : codec.utf8 bodyData with
  | none => simp [extractInspectionContent, h8] at h
  | some bodyStr =>
    rw [extractInspectionContent_of_utf8 h8] at h
    split at h
    · next hempty => rw [eq_empty_of_inspectionContent_eq_empty hempty]
    · exact absurd h (by simp)

/-! ## Texts that stand whole in the inspected text -/

theorem infix_intercalate_newline_of_mem {t : String} {texts : List String} (h : t ∈ texts) :
    t.toList <:+: ("\n".intercalate texts).toList := by
  rw [String.toList_intercalate]
  exact Lines.infix_intercalate_of_mem '\n' (List.mem_map_of_mem h)

theorem ne_empty_of_infix_toList {t s : String} (h : t.toList <:+: s.toList) (hne : t ≠ "") : s ≠ "" := by
  intro hs
  rw [hs, String.toList_empty, List.infix_nil] at h
  exact hne (String.toList_eq_nil_iff.1 h)

/-- A non-empty text the model reads of a content stands whole in its flattening. -/
theorem infix_intoText_of_mem_readableTexts {c : MessageContent} {t : String} (ht : t ∈ c.readableTexts)
    (hne : t ≠ "") : t.toList <:+: c.intoText.toList := by
  cases c with
  | text s =>
    rw [MessageContent.readableTexts, List.mem_singleton] at ht
    rw [ht, MessageContent.intoText]
  | parts ps =>
    rw [MessageContent.readableTexts] at ht
    exact infix_intercalate_newline_of_mem (List.mem_filter.2 ⟨ht, decide_eq_true hne⟩)

/-- A non-empty text the model reads of a message stands whole in the joined contents. -/
theorem infix_messagesText {messages : List RequestMessage} {c : MessageContent}
    (hc : c ∈ messages.filterMap (·.content)) {t : String} (ht : t ∈ c.readableTexts) (hne : t ≠ "") :
    t.toList <:+: (messagesText messages).toList := by
  have hcontent := infix_intoText_of_mem_readableTexts ht hne
  have hmem : c.intoText ∈ ((messages.filterMap (·.content)).map MessageContent.intoText).filter (· ≠ "") :=
    List.mem_filter.2 ⟨List.mem_map_of_mem hc, decide_eq_true (ne_empty_of_infix_toList hcontent hne)⟩
  exact hcontent.trans (infix_intercalate_newline_of_mem hmem)

theorem infix_inspected_of_no_prompt {bodyStr : String} {body : RequestBody}
    (h8 : codec.utf8 bodyData = some bodyStr) (hparse : codec.parseRequestBody bodyStr = some body)
    (hprompt : ∀ p, body.prompt = some p → p = "") {t : String} (ht : t ∈ body.readableTexts) (hne : t ≠ "") :
    ∃ content, extractInspectionContent codec bodyData = .text content ∧ t.toList <:+: content.toList := by
  obtain ⟨c, hc, htc⟩ : ∃ c ∈ (body.messages.getD []).filterMap (·.content), t ∈ c.readableTexts := by
    rcases List.mem_append.1 ht with hp | hm
    · exact absurd (hprompt t (Option.mem_toList.1 hp)) hne
    · exact List.mem_flatMap.1 hm
  obtain ⟨messages, hmessages⟩ : ∃ messages, body.messages = some messages := by
    cases hm : body.messages with
    | none => simp [hm] at hc
    | some messages => exact ⟨messages, rfl⟩
  rw [hmessages, Option.getD_some] at hc
  have hinfix := infix_messagesText hc htc hne
  have hcontent := inspectionContent_of_messages hparse hprompt hmessages (ne_empty_of_infix_toList hinfix hne)
  refine ⟨messagesText messages, ?_, hinfix⟩
  rw [extractInspectionContent_of_utf8 h8, hcontent, if_neg (ne_empty_of_infix_toList hinfix hne)]

/-- Without a prompt to inspect, every non-empty text the model reads of a
body stands whole in the inspected text. -/
theorem extractInspectionContent_of_no_prompt {bodyStr : String} {body : RequestBody}
    (h8 : codec.utf8 bodyData = some bodyStr) (hparse : codec.parseRequestBody bodyStr = some body)
    (hprompt : ∀ p, body.prompt = some p → p = "") {t : String} (ht : t ∈ body.readableTexts) (hne : t ≠ "") :
    ∃ content, extractInspectionContent codec bodyData = .text content ∧ t.toList <:+: content.toList :=
  infix_inspected_of_no_prompt h8 hparse hprompt ht hne

/-- A body of one message and no prompt: the message's text is inspected. -/
theorem message_text_inspected_without_prompt :
    let bodyText := "\x7b\"messages\":[\x7b\"content\":\"secret\"\x7d]\x7d"
    let body : RequestBody := { messages := some [{ content := some (.text "secret") }] }
    let codec : RequestCodec :=
      { utf8 := fun bs => some (asciiText bs)
        parseRequestBody := fun s => if s = bodyText then some body else none }
    ∃ content, extractInspectionContent codec (asciiBytes bodyText) = .text content ∧
      "secret".toList <:+: content.toList := by
  intro bodyText body codec
  have h8 : codec.utf8 (asciiBytes bodyText) = some bodyText := by decide +kernel
  have hparse : codec.parseRequestBody bodyText = some body := by simp [codec]
  have hprompt : ∀ p, body.prompt = some p → p = "" := by simp [body]
  exact extractInspectionContent_of_no_prompt h8 hparse hprompt (by decide) (by decide)

/-- A non-empty prompt is inspected alone, whatever the messages beside it. -/
theorem extractInspectionContent_of_prompt {bodyStr prompt : String} {body : RequestBody}
    (h8 : codec.utf8 bodyData = some bodyStr) (hparse : codec.parseRequestBody bodyStr = some body)
    (hprompt : body.prompt = some prompt) (hne : prompt ≠ "") :
    extractInspectionContent codec bodyData = .text prompt := by
  rw [extractInspectionContent_of_utf8 h8, inspectionContent_of_prompt hparse hprompt hne, if_neg hne]

/-- On such a body, the body-read handler spawns the inspection of the prompt alone. -/
theorem guardrailsBodyReadHandler_inspects_prompt {bodyStr prompt : String} {body : RequestBody}
    {state : RequestInspectState} (h8 : codec.utf8 bodyData = some bodyStr)
    (hparse : codec.parseRequestBody bodyStr = some body) (hprompt : body.prompt = some prompt) (hne : prompt ≠ "")
    (hparams : state.params.isSome) :
    (guardrailsBodyReadHandler (extractInspectionContent codec) false (.content bodyData) state).1 = .spawn prompt := by
  obtain ⟨params, hp⟩ := Option.isSome_iff_exists.1 hparams
  simp [guardrailsBodyReadHandler, hp, extractInspectionContent_of_prompt h8 hparse hprompt hne]

/-- The request path inspects the prompt first. A body is undecodable
exactly when it is not UTF-8, and has nothing to inspect only when it
decodes to the empty string. A non-empty prompt is inspected alone, and the
body-read handler sends it to the backend; without one, every non-empty
text the model reads stands whole in the inspected text. -/
theorem request_inspection_prompt_first (codec : RequestCodec) (bodyData : List UInt8) :
    (extractInspectionContent codec bodyData = .undecodable ↔ codec.utf8 bodyData = none) ∧
      (extractInspectionContent codec bodyData = .none → codec.utf8 bodyData = some "") ∧
      ∀ bodyStr body, codec.utf8 bodyData = some bodyStr → codec.parseRequestBody bodyStr = some body →
        (∀ prompt, body.prompt = some prompt → prompt ≠ "" →
          extractInspectionContent codec bodyData = .text prompt ∧
            ∀ state : RequestInspectState, state.params.isSome →
              (guardrailsBodyReadHandler (extractInspectionContent codec) false (.content bodyData) state).1 =
                .spawn prompt) ∧
        ((∀ p, body.prompt = some p → p = "") → ∀ t ∈ body.readableTexts, t ≠ "" →
          ∃ content, extractInspectionContent codec bodyData = .text content ∧ t.toList <:+: content.toList) := by
  refine ⟨extractInspectionContent_eq_undecodable_iff, utf8_eq_empty_of_extractInspectionContent_eq_none, ?_⟩
  intro bodyStr body h8 hparse
  refine ⟨fun prompt hprompt hne => ⟨extractInspectionContent_of_prompt h8 hparse hprompt hne, ?_⟩, ?_⟩
  · exact fun state hparams => guardrailsBodyReadHandler_inspects_prompt h8 hparse hprompt hne hparams
  · exact fun hprompt t ht hne => infix_inspected_of_no_prompt h8 hparse hprompt ht hne

/-! ## A prompt beside messages -/

def shadowedBodyText : String := "\x7b\"prompt\":\"hi\",\"messages\":[\x7b\"content\":\"secret\"\x7d]\x7d"

def shadowedBody : RequestBody := { prompt := some "hi", messages := some [{ content := some (.text "secret") }] }

/-- Decoders that read the one body as `std::str::from_utf8` and `serde_json` do. -/
def shadowedBodyCodec : RequestCodec where
  utf8 bs := some (asciiText bs)
  parseRequestBody s := if s = shadowedBodyText then some shadowedBody else none

/-- The model reads `secret` of the message, but the prompt `hi` is inspected
alone: the body-read handler sends only `hi` to the guardrails backend. -/
theorem prompt_shadows_messages :
    shadowedBodyCodec.utf8 (asciiBytes shadowedBodyText) = some shadowedBodyText ∧
      shadowedBodyCodec.parseRequestBody shadowedBodyText = some shadowedBody ∧
      "secret" ∈ shadowedBody.readableTexts ∧
      extractInspectionContent shadowedBodyCodec (asciiBytes shadowedBodyText) = .text "hi" ∧
      ¬ "secret".toList <:+: "hi".toList ∧
      (guardrailsBodyReadHandler (extractInspectionContent shadowedBodyCodec) false
        (.content (asciiBytes shadowedBodyText))
        { params := some { internalUri := "/_ngf-internal-guardrails", apiToken := none } }).1 = .spawn "hi" := by
  refine ⟨?_, ?_, ?_, ?_, ?_, ?_⟩ <;> decide +kernel

end GatewayFabric.Guardrails
