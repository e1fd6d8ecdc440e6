/-
The certificates of a TLS listener (`createExternalReferencesForTLSSecretsResolver`,
`resolveTLSCertRef` and `certRefPermitted` of `state/graph/gateway_listener.go`):
each certificate reference of a valid listener is checked against the
ReferenceGrants when it names another namespace, then resolved as a Secret
through the resource resolver, whose cache every listener of the build
shares; the references that pass are the listener's resolved Secrets.

`resolvedSecrets_granted_valid`: from any resolver state a build reaches,
every Secret a listener comes to hold is one of its namespace (the Gateway's,
or its ListenerSet's) or one a ReferenceGrant of the Secret's namespace
permits it to reference, and a TLS Secret whose key pair, and CA if it has
one, pass the checks. `createExternalReferences_eq_resolveTLSSecrets`: when
no reference names an htpasswd or an Opaque Secret, the stateful loop is the
listener model of `Graph.ListenerConflicts` given what a fresh resolver
answers, so the results proved there over whole runs of listeners hold of
the resolver's.
-/
import GatewayFabric.State.Resolver

namespace GatewayFabric.Graph

open Dataplane ReferenceGrants Resolver

/-- `v1.SecretObjectReference`: the namespace and name resolution reads
(its group and kind are the listener validator's to check). -/
structure SecretObjectReference where
  ns : Option String := none
  name : String
  deriving Repr, DecidableEq

variable (c : Crypto)

/-- The namespace a reference without one names: the ListenerSet's for
one of its listeners, else the Gateway's. -/
def listenerNamespace (l : ConfiguredListener) (gwNs : String) : String :=
  if l.listenerSetName.name ≠ "" then l.listenerSetName.ns else gwNs

/-- `certRefPermitted`: a reference to the listener's own namespace, or one
a ReferenceGrant allows from the ListenerSet or the Gateway. -/
def certRefPermitted (l : ConfiguredListener) (certRefNs : String) (certRefNsName : NamespacedName) (gwNs : String)
    (refGrantResolver : ReferenceGrantResolver) : Bool :=
  if l.listenerSetName.name ≠ "" then
    if certRefNs = l.listenerSetName.ns then true
    else refGrantResolver.refAllowed (toSecret certRefNsName) (fromListenerSet l.listenerSetName.ns)
  else if certRefNs = gwNs then true
  else refGrantResolver.refAllowed (toSecret certRefNsName) (fromGateway gwNs)

/-- `resolveTLSCertRef`: the Secret's name and the error, if any, with the
resolver after it. -/
def resolveTLSCertRef (l : ConfiguredListener) (i : Nat) (certRef : SecretObjectReference) (gwNs : String)
    (resourceResolver : ResourceResolver) (refGrantResolver : ReferenceGrantResolver) :
    (NamespacedName × Option CertRefError) × ResourceResolver :=
  let certRefNs := certRef.ns.getD (listenerNamespace l gwNs)
  let certRefNsName : NamespacedName := { ns := certRefNs, name := certRef.name }
  if !certRefPermitted l certRefNs certRefNsName gwNs refGrantResolver then
    ((certRefNsName,
      some { msg := "Certificate ref to secret " ++ nsNameString certRefNsName ++ " not permitted by any ReferenceGrant"
             refNotPermitted := true }), resourceResolver)
  else
    let (err, resourceResolver) := resourceResolver.resolve c .secret certRefNsName {}
    match err with
    | some err =>
      ((certRefNsName,
        some { msg := index (child "tls" "certificateRefs") i ++ ": Invalid value: " ++ nsNameString certRefNsName ++
          ": " ++ err.message }), resourceResolver)
    | none => ((certRefNsName, none), resourceResolver)

/-- The loop's accumulator: the listener, the errors so far, the resolver. -/
abbrev TLSAcc := ConfiguredListener × List CertRefError × ResourceResolver

/-- One certificate reference of the loop. -/
def certRefStep (gwNs : String) (refGrantResolver : ReferenceGrantResolver) (acc : TLSAcc)
    (ri : SecretObjectReference × Nat) : TLSAcc :=
  let ((certRefNsName, certErr), resourceResolver) :=
    resolveTLSCertRef c acc.1 ri.2 ri.1 gwNs acc.2.2 refGrantResolver
  match certErr with
  | some e => (acc.1, acc.2.1 ++ [e], resourceResolver)
  | none => ({ acc.1 with resolvedSecrets := acc.1.resolvedSecrets ++ [certRefNsName] }, acc.2.1, resourceResolver)

/-- `createExternalReferencesForTLSSecretsResolver` on a listener with its
certificate references: the listener, and the resolver after it. -/
def createExternalReferencesForTLSSecretsResolver (gwNs : String) (resourceResolver : ResourceResolver)
    (refGrantResolver : ReferenceGrantResolver) (certRefs : List SecretObjectReference) (l : ConfiguredListener) :
    ConfiguredListener × ResourceResolver :=
  if !l.valid then (l, resourceResolver)
  else
    let (l, certRefErrors, resourceResolver) :=
      certRefs.zipIdx.foldl (certRefStep c gwNs refGrantResolver) (l, [], resourceResolver)
    (applyCertRefErrors l certRefErrors, resourceResolver)

/-! ## One reference -/

/-- The Secret a certificate reference names. -/
def certRefNsNameOf (l : ConfiguredListener) (gwNs : String) (certRef : SecretObjectReference) : NamespacedName :=
  { ns := certRef.ns.getD (listenerNamespace l gwNs), name := certRef.name }

section Step

variable {l : ConfiguredListener} {i : Nat} {certRef : SecretObjectReference} {gwNs : String}
  {rr : ResourceResolver} {refGrants : List (NamespacedName × ReferenceGrant)}

/-- The ReferenceGrant a listener's reference to another namespace needs:
from its ListenerSet, or from its Gateway. -/
def listenerFrom (l : ConfiguredListener) (gwNs : String) : FromResource :=
  if l.listenerSetName.name ≠ "" then fromListenerSet l.listenerSetName.ns else fromGateway gwNs

/-- A reference `certRefPermitted` lets through is to the listener's own
namespace, or one a grant permits. -/
theorem granted_of_certRefPermitted {certRefNsName : NamespacedName}
    (h : certRefPermitted l certRefNsName.ns certRefNsName gwNs (newReferenceGrantResolver refGrants) = true) :
    certRefNsName.ns = listenerNamespace l gwNs ∨
      ∃ g ∈ refGrants, Permits g.1 g.2 (toSecret certRefNsName) (listenerFrom l gwNs) := by
  unfold certRefPermitted at h
  unfold listenerNamespace listenerFrom
  split_ifs at h ⊢ with hls hown hown
  · exact .inl hown
  · exact .inr (exists_permits_of_refAllowed h)
  · exact .inl hown
  · exact .inr (exists_permits_of_refAllowed h)

/-- The resolver after a reference: resolved for it when permitted. -/
theorem resolveTLSCertRef_snd {refGrantResolver : ReferenceGrantResolver} :
    (resolveTLSCertRef c l i certRef gwNs rr refGrantResolver).2 =
      if certRefPermitted l (certRefNsNameOf l gwNs certRef).ns (certRefNsNameOf l gwNs certRef) gwNs
          refGrantResolver then
        (rr.resolve c .secret (certRefNsNameOf l gwNs certRef) {}).2
      else rr := by
  dsimp only [resolveTLSCertRef, certRefNsNameOf]
  by_cases hperm : certRefPermitted l (certRef.ns.getD (listenerNamespace l gwNs))
      { ns := certRef.ns.getD (listenerNamespace l gwNs), name := certRef.name } gwNs refGrantResolver = true
  · simp only [hperm, Bool.not_true, Bool.false_eq_true, ite_false, ite_true]
    split <;> rfl
  · rw [Bool.not_eq_true] at hperm
    simp only [hperm, Bool.not_false, Bool.false_eq_true, ite_true, ite_false]

/-- What a reference comes to depends on the resolver only through its
answer for the Secret. -/
theorem resolveTLSCertRef_fst_congr {refGrantResolver : ReferenceGrantResolver} {rr' : ResourceResolver}
    (h : (rr.resolve c .secret (certRefNsNameOf l gwNs certRef) {}).1 =
      (rr'.resolve c .secret (certRefNsNameOf l gwNs certRef) {}).1) :
    (resolveTLSCertRef c l i certRef gwNs rr refGrantResolver).1 =
      (resolveTLSCertRef c l i certRef gwNs rr' refGrantResolver).1 := by
  dsimp only [resolveTLSCertRef]
  split_ifs
  · rfl
  · rcases h₁ : rr.resolve c .secret (certRefNsNameOf l gwNs certRef) {} with ⟨err, r₁⟩
    rcases h₂ : rr'.resolve c .secret (certRefNsNameOf l gwNs certRef) {} with ⟨err', r₂⟩
    rw [h₁, h₂] at h
    obtain rfl : err = err' := h
    simp only [certRefNsNameOf] at h₁ h₂
    rw [h₁, h₂]
    cases err <;> rfl

/-- A reference reads of its listener only the ListenerSet it comes from. -/
theorem resolveTLSCertRef_listener_congr {l' : ConfiguredListener} {refGrantResolver : ReferenceGrantResolver}
    (h : l.listenerSetName = l'.listenerSetName) :
    resolveTLSCertRef c l i certRef gwNs rr refGrantResolver = resolveTLSCertRef c l' i certRef gwNs rr refGrantResolver := by
  have hns : listenerNamespace l gwNs = listenerNamespace l' gwNs := by simp only [listenerNamespace, h]
  have hperm : certRefPermitted l = certRefPermitted l' := by
    funext certRefNs certRefNsName gwNs refGrantResolver
    simp only [certRefPermitted, h]
  unfold resolveTLSCertRef
  rw [hns, hperm]

@[simp] theorem resolveTLSCertRef_clusterResources {refGrantResolver : ReferenceGrantResolver} :
    (resolveTLSCertRef c l i certRef gwNs rr refGrantResolver).2.clusterResources = rr.clusterResources := by
  rw [resolveTLSCertRef_snd]
  split_ifs <;> simp

theorem cacheOK_resolveTLSCertRef {refGrantResolver : ReferenceGrantResolver} (h : CacheOK c rr) :
    CacheOK c (resolveTLSCertRef c l i certRef gwNs rr refGrantResolver).2 := by
  rw [resolveTLSCertRef_snd]
  split_ifs
  · exact h.resolve c .secret _ {}
  · exact h

/-- A reference that resolves names a Secret the listener may reference and
that the resolver accepted for no key. -/
theorem resolveTLSCertRef_ok {n : NamespacedName}
    (hok : (resolveTLSCertRef c l i certRef gwNs rr (newReferenceGrantResolver refGrants)).1 = (n, none)) :
    (n.ns = listenerNamespace l gwNs ∨ ∃ g ∈ refGrants, Permits g.1 g.2 (toSecret n) (listenerFrom l gwNs)) ∧
      (rr.resolve c .secret n {}).1 = none := by
  dsimp only [Graph.resolveTLSCertRef] at hok
  split at hok
  · simp at hok
  · rename_i hperm
    cases hres : (rr.resolve c .secret { ns := certRef.ns.getD (listenerNamespace l gwNs), name := certRef.name } {}).1
      with
    | some err => simp [hres] at hok
    | none =>
      simp only [hres, Prod.mk.injEq] at hok
      obtain ⟨rfl, -⟩ := hok
      refine ⟨granted_of_certRefPermitted ?_, hres⟩
      simpa using hperm

end Step

/-! ## The loop -/

/-- A Secret a listener may hold: of its namespace or granted to it, and a
TLS Secret whose pair, and CA if it has one, pass the checks. -/
def GrantedValid (l : ConfiguredListener) (gwNs : String) (refGrants : List (NamespacedName × ReferenceGrant))
    (resources : ClusterResources) (n : NamespacedName) : Prop :=
  (n.ns = listenerNamespace l gwNs ∨ ∃ g ∈ refGrants, Permits g.1 g.2 (toSecret n) (listenerFrom l gwNs)) ∧
    ∃ secret, resources.secrets.lookup n = some secret ∧ secret.type = secretTypeTLS ∧
      validateTLS c (tlsCertificate secret).tlsCert (tlsCertificate secret).tlsPrivateKey = none ∧
      ∀ ca, secret.data.lookup caKey = some ca → validateCA c ca = none

/-- What the loop keeps: the listener is `l` with Secrets added, each a
`GrantedValid` one, and the resolver keeps its invariant over `resources`. -/
def TLSAccOK (gwNs : String) (refGrants : List (NamespacedName × ReferenceGrant)) (resources : ClusterResources)
    (l : ConfiguredListener) (acc : TLSAcc) : Prop :=
  (∃ added, acc.1 = { l with resolvedSecrets := l.resolvedSecrets ++ added } ∧
      ∀ n ∈ added, GrantedValid c l gwNs refGrants resources n) ∧
    CacheOK c acc.2.2 ∧ acc.2.2.clusterResources = resources

section Loop

variable {gwNs : String} {refGrants : List (NamespacedName × ReferenceGrant)} {resources : ClusterResources}
  {l : ConfiguredListener}

theorem tlsAccOK_init {rr : ResourceResolver} (h : CacheOK c rr) :
    TLSAccOK c gwNs refGrants rr.clusterResources l (l, [], rr) :=
  ⟨⟨[], by simp, by simp⟩, h, rfl⟩

theorem TLSAccOK.step {acc : TLSAcc} (hkeys : NoEmptyDataKey resources) (h : TLSAccOK c gwNs refGrants resources l acc)
    (ri : SecretObjectReference × Nat) :
    TLSAccOK c gwNs refGrants resources l (certRefStep c gwNs (newReferenceGrantResolver refGrants) acc ri) := by
  obtain ⟨⟨added, hl, hadded⟩, hcache, hres⟩ := h
  have hcache' : CacheOK c (resolveTLSCertRef c acc.1 ri.2 ri.1 gwNs acc.2.2 (newReferenceGrantResolver refGrants)).2 :=
    cacheOK_resolveTLSCertRef c hcache
  have hclus' : (resolveTLSCertRef c acc.1 ri.2 ri.1 gwNs acc.2.2 (newReferenceGrantResolver refGrants)).2.clusterResources
      = resources := by simp [hres]
  unfold certRefStep
  rcases hr : resolveTLSCertRef c acc.1 ri.2 ri.1 gwNs acc.2.2 (newReferenceGrantResolver refGrants) with
    ⟨⟨n, certErr⟩, rr'⟩
  rw [hr] at hcache' hclus'
  cases certErr with
  | some e => exact ⟨⟨added, hl, hadded⟩, hcache', hclus'⟩
  | none =>
    obtain ⟨hperm, hok⟩ := resolveTLSCertRef_ok c (congrArg Prod.fst hr)
    have hfresh : freshResolve c resources { resType := .secret, nsname := n } = none := by
      rcases resolve_eq_freshResolve_or_refused c hcache (hres ▸ hkeys) { resType := .secret, nsname := n } with
        heq | hsome
      · rw [← hres, ← heq]
        exact hok
      · simp [hok] at hsome
    have hls : acc.1.listenerSetName = l.listenerSetName := by rw [hl]
    refine ⟨⟨added ++ [n], by simp [hl, List.append_assoc], ?_⟩, hcache', hclus'⟩
    intro m hm
    rcases List.mem_append.mp hm with hm | hm
    · exact hadded m hm
    · rw [List.mem_singleton.mp hm]
      refine ⟨?_, (freshResolve_eq_none_iff c hkeys).mp hfresh⟩
      simpa [listenerNamespace, listenerFrom, hls] using hperm

theorem TLSAccOK.foldl (hkeys : NoEmptyDataKey resources) :
    ∀ {acc : TLSAcc} (xs : List (SecretObjectReference × Nat)), TLSAccOK c gwNs refGrants resources l acc →
      TLSAccOK c gwNs refGrants resources l (xs.foldl (certRefStep c gwNs (newReferenceGrantResolver refGrants)) acc)
  | _, [], h => h
  | _, ri :: xs, h => TLSAccOK.foldl hkeys xs (h.step c hkeys ri)

theorem resolvedSecrets_applyCertRefErrors {certRefErrors : List CertRefError} :
    (applyCertRefErrors l certRefErrors).resolvedSecrets = l.resolvedSecrets := by
  unfold applyCertRefErrors
  split_ifs <;> rfl

end Loop

/-- A listener holds no Secret it may not reference or that is not a valid
TLS Secret: whatever calls the build made of the resolver before, every
Secret resolving the listener's certificate references adds to it is of
its namespace or granted to it by a ReferenceGrant, and a TLS Secret whose
key pair, and CA if it has one, pass the checks. -/
theorem resolvedSecrets_granted_valid {gwNs : String} {refGrants : List (NamespacedName × ReferenceGrant)}
    {resources : ClusterResources} (hkeys : NoEmptyDataKey resources) (calls : List ResolveCall)
    (certRefs : List SecretObjectReference) (l : ConfiguredListener) :
    ∀ n ∈ (createExternalReferencesForTLSSecretsResolver c gwNs ((newResourceResolver resources).run c calls).2
        (newReferenceGrantResolver refGrants) certRefs l).1.resolvedSecrets,
      n ∈ l.resolvedSecrets ∨ GrantedValid c l gwNs refGrants resources n := by
  intro n hn
  unfold createExternalReferencesForTLSSecretsResolver at hn
  split at hn
  · exact .inl hn
  · have hcache := (cacheOK_newResourceResolver c resources).run c calls
    have h₀ : TLSAccOK c gwNs refGrants ((newResourceResolver resources).run c calls).2.clusterResources l
        (l, [], ((newResourceResolver resources).run c calls).2) := tlsAccOK_init c hcache
    rw [run_clusterResources] at h₀
    have hinv := TLSAccOK.foldl c hkeys certRefs.zipIdx h₀
    rcases hf : certRefs.zipIdx.foldl (certRefStep c gwNs (newReferenceGrantResolver refGrants))
      (l, [], ((newResourceResolver resources).run c calls).2) with ⟨l', certRefErrors, rr'⟩
    rw [hf] at hinv hn
    obtain ⟨⟨added, hl', hadded⟩, -, -⟩ := hinv
    rw [resolvedSecrets_applyCertRefErrors] at hn
    rw [show l' = _ from hl'] at hn
    rcases List.mem_append.mp hn with hn | hn
    · exact .inl hn
    · exact .inr (hadded n hn)

/-- An HTTPS listener of Gateway namespace `default` whose one reference
names the TLS Secret `default/cert`, after a build resolved that Secret for
its CA. -/
theorem resolvedSecrets_granted_valid_cert :
    let crypto : Crypto :=
      { x509KeyPair := fun _ _ => none, base64Decode := fun _ => none, pemDecode := fun b => some ("CERTIFICATE", b)
        parseCertificate := fun _ => none }
    let cert : NamespacedName := { ns := "default", name := "cert" }
    let resources : ClusterResources :=
      { secrets := [(cert, { ns := "default", name := "cert", type := secretTypeTLS
                             data := [(tlsCertKey, [1]), (tlsPrivateKeyKey, [2])] })] }
    let l : ConfiguredListener :=
      { name := "https", gatewayName := { ns := "default", name := "gw" }
        source := { name := "https", port := 443, protocol := .supported .https }, conditions := [], valid := true
        attachable := true, listenerSetName := { ns := "", name := "" } }
    NoEmptyDataKey resources ∧
      ∀ n ∈ (createExternalReferencesForTLSSecretsResolver crypto "default"
          ((newResourceResolver resources).run crypto
            [{ resType := .secret, nsname := cert, opts := { expectedSecretKey := caKey } }]).2
          (newReferenceGrantResolver []) [{ name := "cert" }] l).1.resolvedSecrets,
        n ∈ l.resolvedSecrets ∨ GrantedValid crypto l "default" [] resources n := by
  intro crypto cert resources l
  have hkeys : NoEmptyDataKey resources := by decide
  exact ⟨hkeys, resolvedSecrets_granted_valid crypto hkeys _ _ l⟩

/-! ## The loop refines the listener model -/

/-- What a certificate reference of `l` comes to on a fresh resolver. -/
def freshCertRefResult (resources : ClusterResources) (gwNs : String) (refGrantResolver : ReferenceGrantResolver)
    (l : ConfiguredListener) (ri : SecretObjectReference × Nat) : Except CertRefError NamespacedName :=
  match (resolveTLSCertRef c l ri.2 ri.1 gwNs (newResourceResolver resources) refGrantResolver).1 with
  | (_, some e) => .error e
  | (n, none) => .ok n

section Refines

variable {gwNs : String} {refGrantResolver : ReferenceGrantResolver} {resources : ClusterResources}
  {l : ConfiguredListener}

theorem certRefStep_listenerSetName {acc : TLSAcc} {ri : SecretObjectReference × Nat} :
    (certRefStep c gwNs refGrantResolver acc ri).1.listenerSetName = acc.1.listenerSetName := by
  unfold certRefStep
  rcases resolveTLSCertRef c acc.1 ri.2 ri.1 gwNs acc.2.2 refGrantResolver with ⟨⟨n, certErr⟩, rr⟩
  cases certErr <;> rfl

theorem certRefStep_resolver {acc : TLSAcc} {ri : SecretObjectReference × Nat} :
    (certRefStep c gwNs refGrantResolver acc ri).2.2 = (resolveTLSCertRef c acc.1 ri.2 ri.1 gwNs acc.2.2 refGrantResolver).2 := by
  unfold certRefStep
  rcases resolveTLSCertRef c acc.1 ri.2 ri.1 gwNs acc.2.2 refGrantResolver with ⟨⟨n, certErr⟩, rr⟩
  cases certErr <;> rfl

/-- One reference of the loop, from a resolver that keeps its invariant, is
one reference of `resolveTLSSecrets` given the fresh answer. -/
theorem certRefStep_eq {lst : ConfiguredListener} {certRefErrors : List CertRefError} {rr : ResourceResolver}
    {ri : SecretObjectReference × Nat} (hcache : CacheOK c rr) (hres : rr.clusterResources = resources)
    (hls : lst.listenerSetName = l.listenerSetName)
    (ht : transparent resources { resType := .secret, nsname := certRefNsNameOf l gwNs ri.1 } = true) :
    ((certRefStep c gwNs refGrantResolver (lst, certRefErrors, rr) ri).1,
        (certRefStep c gwNs refGrantResolver (lst, certRefErrors, rr) ri).2.1) =
      match freshCertRefResult c resources gwNs refGrantResolver l ri with
      | .ok secret => ({ lst with resolvedSecrets := lst.resolvedSecrets ++ [secret] }, certRefErrors)
      | .error e => (lst, certRefErrors ++ [e]) := by
  have hname : certRefNsNameOf lst gwNs ri.1 = certRefNsNameOf l gwNs ri.1 := by
    simp only [certRefNsNameOf, listenerNamespace, hls]
  have hanswer : (rr.resolve c .secret (certRefNsNameOf lst gwNs ri.1) {}).1 =
      ((newResourceResolver resources).resolve c .secret (certRefNsNameOf lst gwNs ri.1) {}).1 := by
    have hfresh := resolve_eq_freshResolve c hcache
      (show transparent rr.clusterResources { resType := .secret, nsname := certRefNsNameOf lst gwNs ri.1 } = true by
        rw [hres, hname]; exact ht)
    rw [hfresh, hres]
    rfl
  have hfst : (resolveTLSCertRef c lst ri.2 ri.1 gwNs rr refGrantResolver).1 =
      (resolveTLSCertRef c l ri.2 ri.1 gwNs (newResourceResolver resources) refGrantResolver).1 := by
    rw [resolveTLSCertRef_fst_congr c hanswer, resolveTLSCertRef_listener_congr c hls]
  unfold certRefStep freshCertRefResult
  dsimp only
  rcases h₁ : resolveTLSCertRef c lst ri.2 ri.1 gwNs rr refGrantResolver with ⟨⟨n, certErr⟩, rr'⟩
  rcases h₂ : (resolveTLSCertRef c l ri.2 ri.1 gwNs (newResourceResolver resources) refGrantResolver).1 with
    ⟨n', certErr'⟩
  rw [h₁, h₂] at hfst
  obtain ⟨rfl, rfl⟩ := Prod.mk.inj hfst
  cases certErr <;> rfl

theorem foldl_certRefStep_eq {refGrants : List (NamespacedName × ReferenceGrant)} :
    ∀ (xs : List (SecretObjectReference × Nat)) (lst : ConfiguredListener) (certRefErrors : List CertRefError)
      (rr : ResourceResolver), CacheOK c rr → rr.clusterResources = resources →
      lst.listenerSetName = l.listenerSetName →
      (∀ ri ∈ xs, transparent resources { resType := .secret, nsname := certRefNsNameOf l gwNs ri.1 } = true) →
      ((xs.foldl (certRefStep c gwNs (newReferenceGrantResolver refGrants)) (lst, certRefErrors, rr)).1,
          (xs.foldl (certRefStep c gwNs (newReferenceGrantResolver refGrants)) (lst, certRefErrors, rr)).2.1) =
        (xs.map (freshCertRefResult c resources gwNs (newReferenceGrantResolver refGrants) l)).foldl
          (fun (acc : ConfiguredListener × List CertRefError) r =>
            match r with
            | .ok secret => ({ acc.1 with resolvedSecrets := acc.1.resolvedSecrets ++ [secret] }, acc.2)
            | .error e => (acc.1, acc.2 ++ [e])) (lst, certRefErrors)
  | [], _, _, _, _, _, _, _ => rfl
  | ri :: xs, lst, certRefErrors, rr, hcache, hres, hls, ht => by
    have hstep : ((certRefStep c gwNs (newReferenceGrantResolver refGrants) (lst, certRefErrors, rr) ri).1,
        (certRefStep c gwNs (newReferenceGrantResolver refGrants) (lst, certRefErrors, rr) ri).2.1) = _ :=
      certRefStep_eq c hcache hres hls (ht ri List.mem_cons_self)
    have hcache' : CacheOK c (certRefStep c gwNs (newReferenceGrantResolver refGrants) (lst, certRefErrors, rr) ri).2.2 := by
      rw [certRefStep_resolver]
      exact cacheOK_resolveTLSCertRef c hcache
    have hres' : (certRefStep c gwNs (newReferenceGrantResolver refGrants) (lst, certRefErrors, rr) ri).2.2.clusterResources
        = resources := by
      rw [certRefStep_resolver, resolveTLSCertRef_clusterResources, hres]
    have hls' : (certRefStep c gwNs (newReferenceGrantResolver refGrants) (lst, certRefErrors, rr) ri).1.listenerSetName
        = l.listenerSetName := by
      rw [certRefStep_listenerSetName]
      exact hls
    rcases hr : certRefStep c gwNs (newReferenceGrantResolver refGrants) (lst, certRefErrors, rr) ri with
      ⟨lst', certRefErrors', rr'⟩
    rw [hr] at hstep hcache' hres' hls'
    simp only [List.foldl_cons, List.map_cons, hr]
    rw [foldl_certRefStep_eq xs lst' certRefErrors' rr' hcache' hres' hls'
      (fun ri' hri' => ht ri' (List.mem_cons_of_mem _ hri')), hstep]

end Refines

/-- The listener model of `Graph.ListenerConflicts` takes a listener's
certificate references as a function of the listener; the resolver's
stateful loop is that model, given what a fresh resolver answers, from any
resolver state a build reaches, when no reference names an htpasswd or an
Opaque Secret. -/
theorem createExternalReferences_eq_resolveTLSSecrets {gwNs : String}
    {refGrants : List (NamespacedName × ReferenceGrant)} {resources : ClusterResources} (calls : List ResolveCall)
    {certRefs : List SecretObjectReference} {l : ConfiguredListener}
    (ht : ∀ certRef ∈ certRefs,
      transparent resources { resType := .secret, nsname := certRefNsNameOf l gwNs certRef } = true) :
    (createExternalReferencesForTLSSecretsResolver c gwNs ((newResourceResolver resources).run c calls).2
        (newReferenceGrantResolver refGrants) certRefs l).1 =
      resolveTLSSecrets
        (fun l => certRefs.zipIdx.map (freshCertRefResult c resources gwNs (newReferenceGrantResolver refGrants) l)) l := by
  unfold createExternalReferencesForTLSSecretsResolver resolveTLSSecrets
  split
  · rfl
  · have hloop := @foldl_certRefStep_eq c gwNs resources l refGrants certRefs.zipIdx l []
      ((newResourceResolver resources).run c calls).2
      ((cacheOK_newResourceResolver c resources).run c calls) (run_clusterResources c) rfl
      (fun ri hri => ht ri.1 (List.fst_mem_of_mem_zipIdx hri))
    rcases hf : certRefs.zipIdx.foldl (certRefStep c gwNs (newReferenceGrantResolver refGrants))
      (l, [], ((newResourceResolver resources).run c calls).2) with ⟨l', certRefErrors, rr'⟩
    rw [hf] at hloop
    exact congrArg (fun acc : ConfiguredListener × List CertRefError => applyCertRefErrors acc.1 acc.2) hloop

/-- The same listener, from a fresh resolver. -/
theorem createExternalReferences_eq_resolveTLSSecrets_cert :
    let crypto : Crypto :=
      { x509KeyPair := fun _ _ => none, base64Decode := fun _ => none, pemDecode := fun b => some ("CERTIFICATE", b)
        parseCertificate := fun _ => none }
    let resources : ClusterResources :=
      { secrets := [({ ns := "default", name := "cert" },
          { ns := "default", name := "cert", type := secretTypeTLS, data := [(tlsCertKey, [1]), (tlsPrivateKeyKey, [2])] })] }
    let l : ConfiguredListener :=
      { name := "https", gatewayName := { ns := "default", name := "gw" }
        source := { name := "https", port := 443, protocol := .supported .https }, conditions := [], valid := true
        attachable := true, listenerSetName := { ns := "", name := "" } }
    let certRefs : List SecretObjectReference := [{ name := "cert" }, { ns := some "other", name := "cert" }]
    (∀ certRef ∈ certRefs,
        transparent resources { resType := .secret, nsname := certRefNsNameOf l "default" certRef } = true) ∧
      (createExternalReferencesForTLSSecretsResolver crypto "default" ((newResourceResolver resources).run crypto []).2
          (newReferenceGrantResolver []) certRefs l).1 =
        resolveTLSSecrets
          (fun l => certRefs.zipIdx.map (freshCertRefResult crypto resources "default" (newReferenceGrantResolver []) l))
          l := by
  intro crypto resources l certRefs
  have ht : ∀ certRef ∈ certRefs,
      transparent resources { resType := .secret, nsname := certRefNsNameOf l "default" certRef } = true := by decide
  exact ⟨ht, createExternalReferences_eq_resolveTLSSecrets crypto [] ht⟩

end GatewayFabric.Graph
