/-
The merge of the UpstreamSettingsPolicies of one upstream
(`processPolicies`, `nginx/config/policies/upstreamsettings/processor.go`):
each policy in turn writes the fields it sets, the last writer winning.

The merge is given the policies' specs, all of them UpstreamSettingsPolicies
(the type switch that skips other policies is left out).

The main results: two policies that do not conflict, by the validator's
`conflicts`, write disjoint fields, so they can be merged in either order
(`processPolicy_swap`); and over policies that pairwise do not conflict the
merge does not depend on their order, and each field of the result is what
the one policy that sets it sets (`processPolicies_eq_settingsOf`).
-/
import GatewayFabric.Graph.Policies

namespace GatewayFabric.Config

open Graph.UpstreamSettings

/-- `http.UpstreamKeepAlive`. -/
@[ext]
structure UpstreamKeepAliveSettings where
  connections : Option Int32 := none
  requests : Int32 := 0
  time : String := ""
  timeout : String := ""
  deriving Repr, DecidableEq

/-- `upstreamsettings.UpstreamSettings`. -/
@[ext]
structure UpstreamSettings where
  useClusterIP : Option Bool := none
  zoneSize : Option String := none
  loadBalancingMethod : String := ""
  hashMethodKey : String := ""
  keepAlive : UpstreamKeepAliveSettings := {}
  deriving Repr, DecidableEq

/-- The keep-alive settings of one policy, in the loop of `processPolicies`. -/
def processKeepAlive (ka : UpstreamKeepAliveSettings) (spec : UpstreamKeepAlive) : UpstreamKeepAliveSettings :=
  { connections := if spec.connections.isSome then spec.connections else ka.connections
    requests := spec.requests.getD ka.requests
    time := spec.time.getD ka.time
    timeout := spec.timeout.getD ka.timeout }

/-- One policy of the loop of `processPolicies`: every field it sets is written. -/
def processPolicy (s : UpstreamSettings) (usp : UpstreamSettingsPolicySpec) : UpstreamSettings :=
  { zoneSize := if usp.zoneSize.isSome then usp.zoneSize else s.zoneSize
    keepAlive := (usp.keepAlive.map (processKeepAlive s.keepAlive)).getD s.keepAlive
    loadBalancingMethod := usp.loadBalancingMethod.getD s.loadBalancingMethod
    hashMethodKey := usp.hashMethodKey.getD s.hashMethodKey
    useClusterIP := if usp.useClusterIP.isSome then usp.useClusterIP else s.useClusterIP }

def processPolicies (pols : List UpstreamSettingsPolicySpec) : UpstreamSettings :=
  pols.foldl processPolicy {}

/-! ## Last writer wins -/

section LastWriter

variable {σ α β γ : Type} (f : σ → α → σ) (get : σ → γ) (fieldOf : α → Option β) (write : β → γ)

/-- A field a step writes when the element sets it, and keeps otherwise, is
after a loop what the last element to set it wrote. -/
theorem get_foldl_of_writes (hset : ∀ s a v, fieldOf a = some v → get (f s a) = write v)
    (hkeep : ∀ s a, fieldOf a = none → get (f s a) = get s) :
    ∀ (xs : List α) (s : σ), get (xs.foldl f s) = (((xs.filterMap fieldOf).getLast?).map write).getD (get s)
  | [], s => by simp
  | x :: xs, s => by
    rw [List.foldl_cons, get_foldl_of_writes hset hkeep xs, List.filterMap_cons]
    cases hx : fieldOf x with
    | none => rw [hkeep s x hx]
    | some v =>
      rw [hset s x v hx]
      cases hlast : (xs.filterMap fieldOf).getLast? with
      | none =>
        rw [List.getLast?_eq_none_iff.1 hlast]
        rfl
      | some w => simp [List.getLast?_cons, hlast]

/-- Elements no two of which both set a field leave at most one setting of it. -/
theorem length_filterMap_le_one {xs : List α}
    (h : xs.Pairwise fun a b => ¬((fieldOf a).isSome ∧ (fieldOf b).isSome)) : (xs.filterMap fieldOf).length ≤ 1 := by
  induction h with
  | nil => simp
  | @cons x xs hx _ ih =>
    rw [List.filterMap_cons]
    cases hfx : fieldOf x with
    | none => exact ih
    | some v =>
      have hnone : xs.filterMap fieldOf = [] := by
        rw [List.filterMap_eq_nil_iff]
        intro y hy
        have := hx y hy
        simp only [hfx, Option.isSome_some, true_and, Option.not_isSome_iff_eq_none] at this
        exact this
      simp [hnone]

end LastWriter

theorem getLast?_eq_head?_of_length_le_one {α : Type} {xs : List α} (h : xs.length ≤ 1) : xs.getLast? = xs.head? := by
  match xs, h with
  | [], _ => rfl
  | [_], _ => rfl

/-! ## Policies that do not conflict -/

/-- The settings of a policy's keep-alive, each read through the optional struct. -/
def keepAliveField {β : Type} (field : UpstreamKeepAlive → Option β) (usp : UpstreamSettingsPolicySpec) : Option β :=
  usp.keepAlive.bind field

/-- Two policies write disjoint fields: no field is set by both. -/
structure WriteDisjoint (a b : UpstreamSettingsPolicySpec) : Prop where
  zoneSize : bothSet (·.zoneSize) a b = false
  connections : bothSet (keepAliveField (·.connections)) a b = false
  requests : bothSet (keepAliveField (·.requests)) a b = false
  time : bothSet (keepAliveField (·.time)) a b = false
  timeout : bothSet (keepAliveField (·.timeout)) a b = false
  loadBalancingMethod : bothSet (·.loadBalancingMethod) a b = false
  hashMethodKey : bothSet (·.hashMethodKey) a b = false
  useClusterIP : bothSet (·.useClusterIP) a b = false

/-- `Conflicts` tests exactly the fields the merge writes: two policies do
not conflict exactly when they write disjoint fields. -/
theorem conflicts_eq_false_iff (a b : UpstreamSettingsPolicySpec) : conflicts a b = false ↔ WriteDisjoint a b := by
  -- the keep-alive fields are tested only when both policies have the struct
  have hconf : conflicts a b = (bothSet (·.zoneSize) a b ||
      (bothSet (keepAliveField (·.connections)) a b || bothSet (keepAliveField (·.requests)) a b ||
        bothSet (keepAliveField (·.time)) a b || bothSet (keepAliveField (·.timeout)) a b) ||
      resolveConflictsInUpstreamSettings a b) := by
    unfold conflicts
    cases ha : a.keepAlive <;> cases hb : b.keepAlive <;> simp [keepAliveConflicts, keepAliveField, bothSet, ha, hb]
  rw [hconf, resolveConflictsInUpstreamSettings]
  simp only [Bool.or_eq_false_iff]
  constructor
  · rintro ⟨⟨hz, ⟨⟨hc, hr⟩, ht⟩, hto⟩, ⟨hl, hh⟩, hu⟩
    exact ⟨hz, hc, hr, ht, hto, hl, hh, hu⟩
  · rintro ⟨hz, hc, hr, ht, hto, hl, hh, hu⟩
    exact ⟨⟨hz, ⟨⟨hc, hr⟩, ht⟩, hto⟩, ⟨hl, hh⟩, hu⟩

theorem WriteDisjoint.symm {a b : UpstreamSettingsPolicySpec} (h : WriteDisjoint a b) : WriteDisjoint b a :=
  ⟨bothSet_comm _ b a ▸ h.zoneSize, bothSet_comm _ b a ▸ h.connections, bothSet_comm _ b a ▸ h.requests,
    bothSet_comm _ b a ▸ h.time, bothSet_comm _ b a ▸ h.timeout, bothSet_comm _ b a ▸ h.loadBalancingMethod,
    bothSet_comm _ b a ▸ h.hashMethodKey, bothSet_comm _ b a ▸ h.useClusterIP⟩

section Swap

variable {β : Type} {x y : Option β}

/-- Two writes of a field, at most one of which sets it, in either order. -/
theorem getD_swap (h : bothSet id x y = false) (z : β) : y.getD (x.getD z) = x.getD (y.getD z) := by
  cases x <;> cases y <;> simp_all [bothSet]

theorem ite_isSome_swap (h : bothSet id x y = false) (z : Option β) :
    (if y.isSome then y else if x.isSome then x else z) = (if x.isSome then x else if y.isSome then y else z) := by
  cases x <;> cases y <;> simp_all [bothSet]

end Swap

theorem processKeepAlive_swap {ka kb : UpstreamKeepAlive} (hc : bothSet (·.connections) ka kb = false)
    (hr : bothSet (·.requests) ka kb = false) (ht : bothSet (·.time) ka kb = false)
    (hto : bothSet (·.timeout) ka kb = false) (k : UpstreamKeepAliveSettings) :
    processKeepAlive (processKeepAlive k ka) kb = processKeepAlive (processKeepAlive k kb) ka := by
  simp only [processKeepAlive, UpstreamKeepAliveSettings.mk.injEq]
  exact ⟨ite_isSome_swap hc _, getD_swap hr _, getD_swap ht _, getD_swap hto _⟩

/-- Two policies that write disjoint fields merge the same in either order. -/
theorem processPolicy_swap {a b : UpstreamSettingsPolicySpec} (h : WriteDisjoint a b) (s : UpstreamSettings) :
    processPolicy (processPolicy s a) b = processPolicy (processPolicy s b) a := by
  have hka : (b.keepAlive.map (processKeepAlive ((a.keepAlive.map (processKeepAlive s.keepAlive)).getD s.keepAlive))).getD
        ((a.keepAlive.map (processKeepAlive s.keepAlive)).getD s.keepAlive) =
      (a.keepAlive.map (processKeepAlive ((b.keepAlive.map (processKeepAlive s.keepAlive)).getD s.keepAlive))).getD
        ((b.keepAlive.map (processKeepAlive s.keepAlive)).getD s.keepAlive) := by
    cases hka : a.keepAlive with
    | none => cases b.keepAlive <;> rfl
    | some ka =>
      cases hkb : b.keepAlive with
      | none => rfl
      | some kb =>
        have hc : bothSet (·.connections) ka kb = false := by
          simpa [bothSet, keepAliveField, hka, hkb] using h.connections
        have hr : bothSet (·.requests) ka kb = false := by
          simpa [bothSet, keepAliveField, hka, hkb] using h.requests
        have ht : bothSet (·.time) ka kb = false := by
          simpa [bothSet, keepAliveField, hka, hkb] using h.time
        have hto : bothSet (·.timeout) ka kb = false := by
          simpa [bothSet, keepAliveField, hka, hkb] using h.timeout
        exact processKeepAlive_swap hc hr ht hto s.keepAlive
  simp only [processPolicy, UpstreamSettings.mk.injEq]
  exact ⟨ite_isSome_swap h.useClusterIP _, ite_isSome_swap h.zoneSize _, getD_swap h.loadBalancingMethod _,
    getD_swap h.hashMethodKey _, hka⟩

/-! ## The merge of policies that do not conflict -/

variable {pols : List UpstreamSettingsPolicySpec}

theorem pairwise_writeDisjoint (h : pols.Pairwise fun a b => conflicts a b = false) : pols.Pairwise WriteDisjoint :=
  h.imp fun hab => (conflicts_eq_false_iff _ _).1 hab

/-- Policies that pairwise do not conflict merge the same in every order. -/
theorem processPolicies_perm {pols' : List UpstreamSettingsPolicySpec}
    (h : pols.Pairwise fun a b => conflicts a b = false) (hp : pols'.Perm pols) :
    processPolicies pols' = processPolicies pols := by
  have : Std.Symm WriteDisjoint := ⟨fun _ _ hab => hab.symm⟩
  unfold processPolicies
  refine hp.foldl_eq' (fun a ha b hb s => ?_) ({} : UpstreamSettings)
  by_cases hab : a = b
  · rw [hab]
  · exact processPolicy_swap ((pairwise_writeDisjoint h).forall (hp.subset ha) (hp.subset hb) hab) s

/-- The setting of a field by the policies: that of the first that sets it. -/
def settingOf {β : Type} (fieldOf : UpstreamSettingsPolicySpec → Option β) (pols : List UpstreamSettingsPolicySpec) :
    Option β :=
  (pols.filterMap fieldOf).head?

/-- The settings the policies give an upstream: each field from the policy
that sets it, or its zero value when none does. -/
def settingsOf (pols : List UpstreamSettingsPolicySpec) : UpstreamSettings :=
  { useClusterIP := settingOf (·.useClusterIP) pols
    zoneSize := settingOf (·.zoneSize) pols
    loadBalancingMethod := (settingOf (·.loadBalancingMethod) pols).getD ""
    hashMethodKey := (settingOf (·.hashMethodKey) pols).getD ""
    keepAlive :=
      { connections := settingOf (keepAliveField (·.connections)) pols
        requests := (settingOf (keepAliveField (·.requests)) pols).getD 0
        time := (settingOf (keepAliveField (·.time)) pols).getD ""
        timeout := (settingOf (keepAliveField (·.timeout)) pols).getD "" } }

/-- A field of the merge, over policies that pairwise do not conflict: the
one policy that sets it writes it, and it keeps its zero value otherwise. -/
theorem get_processPolicies {β γ : Type} (h : pols.Pairwise fun a b => conflicts a b = false)
    (get : UpstreamSettings → γ) (fieldOf : UpstreamSettingsPolicySpec → Option β) (write : β → γ)
    (hset : ∀ s a v, fieldOf a = some v → get (processPolicy s a) = write v)
    (hkeep : ∀ s a, fieldOf a = none → get (processPolicy s a) = get s)
    (hdisj : ∀ a b, WriteDisjoint a b → bothSet fieldOf a b = false) :
    get (processPolicies pols) = ((settingOf fieldOf pols).map write).getD (get {}) := by
  have hpair : pols.Pairwise fun a b => ¬((fieldOf a).isSome ∧ (fieldOf b).isSome) :=
    (pairwise_writeDisjoint h).imp fun hab => by simpa [bothSet] using hdisj _ _ hab
  rw [processPolicies, get_foldl_of_writes processPolicy get fieldOf write hset hkeep, settingOf,
    getLast?_eq_head?_of_length_le_one (length_filterMap_le_one fieldOf hpair)]

/-- A keep-alive field is written by a policy exactly when its keep-alive sets it. -/
theorem keepAlive_writes {β γ : Type} (field : UpstreamKeepAlive → Option β) (get : UpstreamKeepAliveSettings → γ)
    (write : β → γ) (hset : ∀ k spec v, field spec = some v → get (processKeepAlive k spec) = write v)
    (hkeep : ∀ k spec, field spec = none → get (processKeepAlive k spec) = get k) :
    (∀ s a v, keepAliveField field a = some v → get (processPolicy s a).keepAlive = write v) ∧
      (∀ s a, keepAliveField field a = none → get (processPolicy s a).keepAlive = get s.keepAlive) := by
  constructor
  · intro s a v hv
    cases ha : a.keepAlive with
    | none => simp [keepAliveField, ha] at hv
    | some k =>
      simp only [keepAliveField, ha, Option.bind_some] at hv
      simp [processPolicy, ha, hset _ _ _ hv]
  · intro s a hv
    cases ha : a.keepAlive with
    | none => simp [processPolicy, ha]
    | some k =>
      simp only [keepAliveField, ha, Option.bind_some] at hv
      simp [processPolicy, ha, hkeep _ _ hv]

theorem processPolicies_eq_settingsOf (h : pols.Pairwise fun a b => conflicts a b = false) :
    processPolicies pols = settingsOf pols := by
  have hu := get_processPolicies h (·.useClusterIP) (·.useClusterIP) some
    (fun _ _ _ hv => by simp [processPolicy, hv]) (fun _ _ hv => by simp [processPolicy, hv])
    fun _ _ hd => hd.useClusterIP
  have hz := get_processPolicies h (·.zoneSize) (·.zoneSize) some
    (fun _ _ _ hv => by simp [processPolicy, hv]) (fun _ _ hv => by simp [processPolicy, hv])
    fun _ _ hd => hd.zoneSize
  have hl := get_processPolicies h (·.loadBalancingMethod) (·.loadBalancingMethod) id
    (fun _ _ _ hv => by simp [processPolicy, hv]) (fun _ _ hv => by simp [processPolicy, hv])
    fun _ _ hd => hd.loadBalancingMethod
  have hh := get_processPolicies h (·.hashMethodKey) (·.hashMethodKey) id
    (fun _ _ _ hv => by simp [processPolicy, hv]) (fun _ _ hv => by simp [processPolicy, hv])
    fun _ _ hd => hd.hashMethodKey
  obtain ⟨hcs, hck⟩ := keepAlive_writes (·.connections) (·.connections) some
    (fun _ _ _ hv => by simp [processKeepAlive, hv]) (fun _ _ hv => by simp [processKeepAlive, hv])
  obtain ⟨hrs, hrk⟩ := keepAlive_writes (·.requests) (·.requests) id
    (fun _ _ _ hv => by simp [processKeepAlive, hv]) (fun _ _ hv => by simp [processKeepAlive, hv])
  obtain ⟨hts, htk⟩ := keepAlive_writes (·.time) (·.time) id
    (fun _ _ _ hv => by simp [processKeepAlive, hv]) (fun _ _ hv => by simp [processKeepAlive, hv])
  obtain ⟨htos, htok⟩ := keepAlive_writes (·.timeout) (·.timeout) id
    (fun _ _ _ hv => by simp [processKeepAlive, hv]) (fun _ _ hv => by simp [processKeepAlive, hv])
  have hc := get_processPolicies h (·.keepAlive.connections) _ some hcs hck fun _ _ hd => hd.connections
  have hr := get_processPolicies h (·.keepAlive.requests) _ id hrs hrk fun _ _ hd => hd.requests
  have ht := get_processPolicies h (·.keepAlive.time) _ id hts htk fun _ _ hd => hd.time
  have hto := get_processPolicies h (·.keepAlive.timeout) _ id htos htok fun _ _ hd => hd.timeout
  apply UpstreamSettings.ext
  · rw [hu]
    simp only [settingsOf]
    cases settingOf (·.useClusterIP) pols <;> rfl
  · rw [hz]
    simp only [settingsOf]
    cases settingOf (·.zoneSize) pols <;> rfl
  · rw [hl]
    simp [settingsOf]
  · rw [hh]
    simp [settingsOf]
  · apply UpstreamKeepAliveSettings.ext
    · rw [hc]
      simp only [settingsOf]
      cases settingOf (keepAliveField (·.connections)) pols <;> rfl
    · rw [hr]
      simp [settingsOf]
    · rw [ht]
      simp [settingsOf]
    · rw [hto]
      simp [settingsOf]

/-- Over UpstreamSettingsPolicies that pairwise do not conflict, the merge
gives the same settings in every order of the policies, and each field of
them is the setting of the one policy that sets it, or the field's zero
value when none does. -/
theorem process_policies_order_independent (pols : List UpstreamSettingsPolicySpec)
    (h : pols.Pairwise fun a b => conflicts a b = false) :
    (∀ pols' : List UpstreamSettingsPolicySpec, pols'.Perm pols → processPolicies pols' = processPolicies pols) ∧
      processPolicies pols = settingsOf pols :=
  ⟨fun _ hp => processPolicies_perm h hp, processPolicies_eq_settingsOf h⟩

/-- A policy that sizes the zone and one that sets keep-alive connections
merge to both settings in either order. -/
theorem process_policies_order_independent_zone_keepalive :
    [({ zoneSize := some "1m" } : UpstreamSettingsPolicySpec), { keepAlive := some { connections := some 16 } }].Pairwise
        (fun a b => conflicts a b = false) ∧
      processPolicies [{ keepAlive := some { connections := some 16 } }, { zoneSize := some "1m" }] =
        processPolicies [{ zoneSize := some "1m" }, { keepAlive := some { connections := some 16 } }] := by
  have h : [({ zoneSize := some "1m" } : UpstreamSettingsPolicySpec), { keepAlive := some { connections := some 16 } }].Pairwise
      (fun a b => conflicts a b = false) := by decide
  exact ⟨h, (process_policies_order_independent _ h).1 _ (List.Perm.swap _ _ [])⟩

end GatewayFabric.Config
