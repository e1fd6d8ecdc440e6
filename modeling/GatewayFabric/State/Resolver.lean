/-
The resource resolver (`state/resolver/resolver.go`, `secrets.go`,
`configmaps.go`), one for each graph build, over the Secrets and ConfigMaps
of the cluster. `Resolve` validates an object the first time it is asked
for and keeps the entry; a later call returns the kept error, except that a
Secret asked for with another expected key is revalidated, and the entry of
a TLS or an Opaque Secret updated.

The cache is meant not to show. `run_eq_map_freshResolve`: from the empty
resolver, every call of any sequence of calls returns what a fresh resolver
returns, unless it names an htpasswd Secret or asks an Opaque Secret for no
key. Those are where it shows: `revalidate` has no htpasswd case, so the
first key an htpasswd Secret is resolved for sticks, and the Secret is
refused for any other (`run_htpasswd_first_key`), and an Opaque Secret revalidated for
no key is refused with the message of a missing key instead of that of an
unsupported type. What holds of every call (`run_eq_fresh_or_refused`) is
that it returns what a fresh resolver returns or an error, no Secret having
an empty data key: the resolver accepts no call a fresh one refuses. `getSecrets_run`: whatever the calls and their keys, the
Secrets the resolver reports are those asked for, each as validating it
made it.

Go keeps one map of entries keyed by name and type; here there are two, one
for each type. An entry is made for its key's type, so the panics of
`GetSecrets`, `validate` and `revalidate` on an entry or an object of the
other type cannot happen. The library calls of the certificate checks
(X.509, PEM, base64) are parameters (`Crypto`), given by what they return.
-/
import GatewayFabric.Graph.ReferenceGrants
import GatewayFabric.State.ChangeProcessor

namespace GatewayFabric.Resolver

open Dataplane GatewayFabric.Graph GatewayFabric.Graph.ReferenceGrants GatewayFabric.State

/-! ## Objects and errors -/

/-- `[]byte`. -/
abbrev Bytes := List UInt8

/-- `[]byte(s)`: the UTF-8 encoding. -/
def stringBytes (s : String) : Bytes := s.toList.flatMap String.utf8EncodeChar

/-- A character as `%q` writes it: `"` and `\` escaped, an ASCII control
character by its escape or as `\xhh`. -/
def quoteRune (c : Char) : List Char :=
  if c = '"' ∨ c = '\\' then ['\\', c]
  else if 0x20 ≤ c.toNat ∧ c.toNat ≠ 0x7f then [c]
  else
    match c.toNat with
    | 7 => ['\\', 'a']
    | 8 => ['\\', 'b']
    | 12 => ['\\', 'f']
    | 10 => ['\\', 'n']
    | 13 => ['\\', 'r']
    | 9 => ['\\', 't']
    | 11 => ['\\', 'v']
    | n => ['\\', 'x', Nat.digitChar (n / 16), Nat.digitChar (n % 16)]

/-- `strconv.Quote`, the `%q` verb. -/
def strconvQuote (s : String) : String := String.ofList ('"' :: s.toList.flatMap quoteRune ++ ['"'])

def secretTypeTLS : String := "kubernetes.io/tls"
def secretTypeOpaque : String := "Opaque"
def secretTypeHtpasswd : String := "nginx.org/htpasswd"

def caKey : String := "ca.crt"
def tlsCertKey : String := "tls.crt"
def tlsPrivateKeyKey : String := "tls.key"

/-- `v1.Secret`: its name, type and data. -/
structure V1Secret where
  ns : String
  name : String
  type : String
  data : List (String × Bytes) := []
  deriving Repr, DecidableEq

/-- `v1.ConfigMap`: its name and its two data maps. -/
structure V1ConfigMap where
  ns : String
  name : String
  data : List (String × String) := []
  binaryData : List (String × Bytes) := []
  deriving Repr, DecidableEq

/-- `secrets.Certificate`. -/
structure Certificate where
  tlsCert : Bytes := []
  tlsPrivateKey : Bytes := []
  caCert : Bytes := []
  deriving Repr, DecidableEq

/-- `secrets.CertificateBundle`. -/
structure CertificateBundle where
  cert : Certificate
  name : NamespacedName
  kind : String
  deriving Repr, DecidableEq

/-- `secrets.NewCertificateBundle`. -/
def newCertificateBundle (name : NamespacedName) (kind : String) (cert : Certificate) : CertificateBundle :=
  { name, kind, cert }

/-- `secrets.Secret`: a resolved Secret, its object and, for a TLS Secret,
its certificate bundle. -/
structure Secret where
  source : Option V1Secret := none
  certBundle : Option CertificateBundle := none
  deriving Repr, DecidableEq

/-- `configmaps.CaCertConfigMap`. -/
structure CaCertConfigMap where
  source : Option V1ConfigMap := none
  certBundle : Option CertificateBundle := none
  deriving Repr, DecidableEq

/-- `ResourceType`. -/
inductive ResourceType where
  | secret
  | configMap
  deriving Repr, DecidableEq

def ResourceType.toString : ResourceType → String
  | .secret => kindSecret
  | .configMap => kindConfigMap

/-- The errors `Resolve` returns, by the format that makes them. -/
inductive ResolveError where
  /-- "%s %s does not exist", with ", or is missing an expected key" for a
  ConfigMap resolved the first time. -/
  | doesNotExist (resType : ResourceType) (nsname : NamespacedName) (orMissingKey : Bool)
  /-- An error of `ValidateTLS` or `ValidateCA`. -/
  | certificate (msg : String)
  | missingExpectedKey (key ns name : String)
  | unsupportedSecretType (type : String)
  | opaqueMissingKey (ns name key : String)
  | configMapMissingCA
  deriving Repr, DecidableEq

/-- `err.Error()`. -/
def ResolveError.message : ResolveError → String
  | .doesNotExist resType nsname orMissingKey =>
    resType.toString ++ " " ++ nsNameString nsname ++ " does not exist" ++
      (if orMissingKey then ", or is missing an expected key" else "")
  | .certificate msg => msg
  | .missingExpectedKey key ns name => "missing expected key " ++ strconvQuote key ++ " in secret " ++ ns ++ "/" ++ name
  | .unsupportedSecretType type => "unsupported secret type " ++ strconvQuote type
  | .opaqueMissingKey ns name key =>
    "opaque secret " ++ ns ++ "/" ++ name ++ " does not contain the expected key " ++ strconvQuote key
  | .configMapMissingCA => "ConfigMap does not have the data or binaryData field " ++ caKey

/-! ## The certificate checks -/

/-- What the checks ask of Go's libraries: `tls.X509KeyPair`'s error, the
buffer `base64.StdEncoding.Decode` fills (none on an error), the type and
bytes of the block `pem.Decode` finds, and `x509.ParseCertificate`'s error. -/
structure Crypto where
  x509KeyPair : Bytes → Bytes → Option String
  base64Decode : Bytes → Option Bytes
  pemDecode : Bytes → Option (String × Bytes)
  parseCertificate : Bytes → Option String

variable (c : Crypto)

/-- `secrets.ValidateTLS`. -/
def validateTLS (tlsCert tlsPrivateKey : Bytes) : Option String :=
  (c.x509KeyPair tlsCert tlsPrivateKey).map ("tls secret is invalid: " ++ ·)

/-- `secrets.ValidateCA`: the data, base64-decoded if it decodes, holds a
CERTIFICATE PEM block that parses. -/
def validateCA (caData : Bytes) : Option String :=
  let data := (c.base64Decode caData).getD caData
  match c.pemDecode data with
  | none => some ("the data field " ++ strconvQuote caKey ++ " must hold a valid CERTIFICATE PEM block")
  | some (type, bytes) =>
    if type ≠ "CERTIFICATE" then
      some ("the data field " ++ strconvQuote caKey ++ " must hold a valid CERTIFICATE PEM block, but got " ++
        strconvQuote type)
    else (c.parseCertificate bytes).map ("failed to validate certificate: " ++ ·)

/-- `validateOpaqueSecretKey`: the key holds data, a CA certificate for `ca.crt`. -/
def validateOpaqueSecretKey (secret : V1Secret) (key : String) : Option ResolveError :=
  match secret.data.lookup key with
  | some data =>
    if data.length > 0 then
      if key = caKey then (validateCA c data).map .certificate else none
    else some (.opaqueMissingKey secret.ns secret.name key)
  | none => some (.opaqueMissingKey secret.ns secret.name key)

/-! ## Entries -/

/-- `resolveOptions`. -/
structure ResolveOptions where
  expectedSecretKey : String := ""
  deriving Repr, DecidableEq

/-- `secretEntry`. -/
structure SecretEntry where
  secret : Secret := {}
  err : Option ResolveError := none
  expectedKey : String := ""
  deriving Repr, DecidableEq

/-- `configMapEntry`. -/
structure ConfigMapEntry where
  err : Option ResolveError := none
  caCertConfigMap : CaCertConfigMap := {}
  deriving Repr, DecidableEq

/-- The certificate of a TLS Secret: its pair and, if it has one, its CA. -/
def tlsCertificate (secret : V1Secret) : Certificate :=
  { tlsCert := (secret.data.lookup tlsCertKey).getD []
    tlsPrivateKey := (secret.data.lookup tlsPrivateKeyKey).getD []
    caCert := (secret.data.lookup caKey).getD [] }

/-- The type switch of `secretEntry.validate`: the error and the
certificate bundle. A TLS Secret's pair is checked, then its CA if it has
one; without one the error is a missing key when `ca.crt` is expected,
whatever the pair's check said. An htpasswd Secret falls through to the
Opaque check. -/
def secretValidation (expectedKey : String) (secret : V1Secret) : Option ResolveError × Option CertificateBundle :=
  if secret.type = secretTypeTLS then
    let cert := tlsCertificate secret
    let validationErr := (validateTLS c cert.tlsCert cert.tlsPrivateKey).map ResolveError.certificate
    let validationErr :=
      match secret.data.lookup caKey with
      | some ca => if validationErr = none then (validateCA c ca).map .certificate else validationErr
      | none => if expectedKey = caKey then some (.missingExpectedKey caKey secret.ns secret.name) else validationErr
    (validationErr, some (newCertificateBundle { ns := secret.ns, name := secret.name } kindSecret cert))
  else if secret.type = secretTypeHtpasswd ∨ (secret.type = secretTypeOpaque ∧ expectedKey ≠ "") then
    (validateOpaqueSecretKey c secret expectedKey, none)
  else (some (.unsupportedSecretType secret.type), none)

/-- `secretEntry.validate`. -/
def SecretEntry.validate (s : SecretEntry) (secret : V1Secret) : SecretEntry :=
  let (validationErr, certBundle) := secretValidation c s.expectedKey secret
  { s with secret := { source := some secret, certBundle }, err := validationErr }

/-- `secretEntry.needsRevalidation`. -/
def SecretEntry.needsRevalidation (s : SecretEntry) (opts : ResolveOptions) : Bool :=
  opts.expectedSecretKey ≠ s.expectedKey

/-- `secretEntry.revalidate`: a TLS Secret is validated again for the new
key, an Opaque one checked for it; the entry of another type is left as it
is, with an error. -/
def SecretEntry.revalidate (s : SecretEntry) (opts : ResolveOptions) (secret : V1Secret) :
    Option ResolveError × SecretEntry :=
  if secret.type = secretTypeTLS then
    let s := { s with expectedKey := opts.expectedSecretKey }.validate c secret
    (s.err, s)
  else if secret.type = secretTypeOpaque then
    let err := validateOpaqueSecretKey c secret opts.expectedSecretKey
    (err, { s with expectedKey := opts.expectedSecretKey, err })
  else (some (.unsupportedSecretType secret.type), s)

/-- `configMapEntry.validate`: the CA of `binaryData` wins over that of
`data`; none at all is an error. -/
def ConfigMapEntry.validate (e : ConfigMapEntry) (cm : V1ConfigMap) : ConfigMapEntry :=
  let (validationErr, caCert) : Option ResolveError × Bytes :=
    match cm.data.lookup caKey with
    | some d => ((validateCA c (stringBytes d)).map .certificate, stringBytes d)
    | none => (none, [])
  let (validationErr, caCert) : Option ResolveError × Bytes :=
    match cm.binaryData.lookup caKey with
    | some d => ((validateCA c d).map .certificate, d)
    | none => (validationErr, caCert)
  let validationErr := if caCert.length = 0 then some .configMapMissingCA else validationErr
  { e with
    caCertConfigMap :=
      { source := some cm
        certBundle := some (newCertificateBundle { ns := cm.ns, name := cm.name } kindConfigMap { caCert }) }
    err := validationErr }

/-- `resourceEntry`: what `Resolve` does with an entry of type `E` for an
object of type `O`, and the entry it makes (`newEntry`, its type switch). -/
structure ResourceEntry (O E : Type) where
  newEntry : ResolveOptions → E
  validate : E → O → E
  setError : E → ResolveError → E
  error : E → Option ResolveError
  needsRevalidation : E → ResolveOptions → Bool
  revalidate : E → ResolveOptions → O → Option ResolveError × E

/-- The entries of Secrets: `secretEntry{expectedKey: ...}`. -/
def secretEntry : ResourceEntry V1Secret SecretEntry where
  newEntry opts := { expectedKey := opts.expectedSecretKey }
  validate := SecretEntry.validate c
  setError s err := { s with err := some err }
  error s := s.err
  needsRevalidation := SecretEntry.needsRevalidation
  revalidate := SecretEntry.revalidate c

/-- The entries of ConfigMaps, which never need revalidation. -/
def configMapEntry : ResourceEntry V1ConfigMap ConfigMapEntry where
  newEntry _ := {}
  validate := ConfigMapEntry.validate c
  setError e err := { e with err := some err }
  error e := e.err
  needsRevalidation _ _ := false
  revalidate _ _ _ := (none, {})

/-! ## Resolve -/

section ResolveIn

variable {O E : Type}

/-- `Resolve` on the entries of one type: `cluster` and `resolved` are
`clusterResources` and `resolvedResources` at that type. A revalidated
entry is updated where it is, as Go's entry is through its pointer. -/
def resolveIn (ops : ResourceEntry O E) (resType : ResourceType) (cluster : List (NamespacedName × O))
    (resolved : List (NamespacedName × E)) (nsname : NamespacedName) (opts : ResolveOptions) :
    Option ResolveError × List (NamespacedName × E) :=
  match resolved.lookup nsname with
  | some res =>
    if ops.needsRevalidation res opts then
      match cluster.lookup nsname with
      | none => (some (.doesNotExist resType nsname false), resolved)
      | some obj =>
        let (err, res) := ops.revalidate res opts obj
        (err, storeSet resolved nsname res)
    else (ops.error res, resolved)
  | none =>
    let resource := ops.newEntry opts
    match cluster.lookup nsname with
    | none =>
      let resource := ops.setError resource (.doesNotExist resType nsname (resType = .configMap))
      (ops.error resource, storeSet resolved nsname resource)
    | some obj =>
      let resource := ops.validate resource obj
      (ops.error resource, storeSet resolved nsname resource)

end ResolveIn

/-- The objects `newResourceResolver` is given, by type. -/
structure ClusterResources where
  configMaps : List (NamespacedName × V1ConfigMap) := []
  secrets : List (NamespacedName × V1Secret) := []
  deriving Repr, DecidableEq

/-- `ResourceResolver`. -/
structure ResourceResolver where
  clusterResources : ClusterResources
  resolvedSecrets : List (NamespacedName × SecretEntry) := []
  resolvedConfigMaps : List (NamespacedName × ConfigMapEntry) := []
  deriving Repr, DecidableEq

/-- `NewResourceResolver`. -/
def newResourceResolver (resources : ClusterResources) : ResourceResolver := { clusterResources := resources }

/-- `ResourceResolver.Resolve`: the error, and the resolver after it. -/
def ResourceResolver.resolve (r : ResourceResolver) (resType : ResourceType) (nsname : NamespacedName)
    (opts : ResolveOptions) : Option ResolveError × ResourceResolver :=
  match resType with
  | .secret =>
    let (err, resolvedSecrets) :=
      resolveIn (secretEntry c) .secret r.clusterResources.secrets r.resolvedSecrets nsname opts
    (err, { r with resolvedSecrets })
  | .configMap =>
    let (err, resolvedConfigMaps) :=
      resolveIn (configMapEntry c) .configMap r.clusterResources.configMaps r.resolvedConfigMaps nsname opts
    (err, { r with resolvedConfigMaps })

/-- `GetSecrets`: nil when no Secret was resolved. -/
def ResourceResolver.getSecrets (r : ResourceResolver) : Option (List (NamespacedName × Secret)) :=
  let secretsMap := r.resolvedSecrets.map fun e => (e.1, e.2.secret)
  if secretsMap.length = 0 then none else some secretsMap

/-- `GetConfigMaps`: nil when no ConfigMap was resolved. -/
def ResourceResolver.getConfigMaps (r : ResourceResolver) : Option (List (NamespacedName × CaCertConfigMap)) :=
  let configMaps := r.resolvedConfigMaps.map fun e => (e.1, e.2.caCertConfigMap)
  if configMaps.length = 0 then none else some configMaps

/-- One call of `Resolve`. -/
structure ResolveCall where
  resType : ResourceType
  nsname : NamespacedName
  opts : ResolveOptions := {}
  deriving Repr, DecidableEq

/-- A sequence of calls, as a graph build makes them: their errors, and the
resolver after the last. -/
def ResourceResolver.run (r : ResourceResolver) : List ResolveCall → List (Option ResolveError) × ResourceResolver
  | [] => ([], r)
  | call :: calls =>
    let (err, r) := r.resolve c call.resType call.nsname call.opts
    let (errs, r) := r.run calls
    (err :: errs, r)

/-- What a fresh resolver returns for a call. -/
def freshResolve (resources : ClusterResources) (call : ResolveCall) : Option ResolveError :=
  ((newResourceResolver resources).resolve c call.resType call.nsname call.opts).1

/-! ## What one call does -/

section ResolveInLemmas

variable {O E : Type} {ops : ResourceEntry O E} {resType : ResourceType} {cluster : List (NamespacedName × O)}
  {resolved : List (NamespacedName × E)} {nsname : NamespacedName} {opts : ResolveOptions}

/-- A call touches no other entry. -/
theorem lookup_resolveIn_ne {n : NamespacedName} (hn : n ≠ nsname) :
    (resolveIn ops resType cluster resolved nsname opts).2.lookup n = resolved.lookup n := by
  unfold resolveIn
  split
  · split
    · split
      · rfl
      · exact lookup_storeSet_ne _ hn
    · rfl
  · split <;> exact lookup_storeSet_ne _ hn

/-- After a call its object has an entry. -/
theorem isSome_lookup_resolveIn : ((resolveIn ops resType cluster resolved nsname opts).2.lookup nsname).isSome := by
  unfold resolveIn
  split
  · rename_i res hres
    split
    · split
      · simp [hres]
      · simp [lookup_storeSet_self]
    · simp [hres]
  · split <;> simp [lookup_storeSet_self]

/-- A call whose object has no entry yet answers as on a fresh resolver. -/
theorem resolveIn_fst_of_lookup_none (h : resolved.lookup nsname = none) :
    (resolveIn ops resType cluster resolved nsname opts).1 = (resolveIn ops resType cluster [] nsname opts).1 := by
  simp only [resolveIn, h, List.lookup_nil]
  cases cluster.lookup nsname <;> rfl

/-- An invariant of the entries is kept by a call when the entries it makes
have it and revalidation keeps it. -/
theorem resolveIn_preserves (P : NamespacedName → E → Prop)
    (hmissing : cluster.lookup nsname = none →
      P nsname (ops.setError (ops.newEntry opts) (.doesNotExist resType nsname (resType = .configMap))))
    (hvalidate : ∀ obj, cluster.lookup nsname = some obj → P nsname (ops.validate (ops.newEntry opts) obj))
    (hrevalidate : ∀ e obj, P nsname e → cluster.lookup nsname = some obj → ops.needsRevalidation e opts = true →
      P nsname (ops.revalidate e opts obj).2)
    (h : ∀ n e, resolved.lookup n = some e → P n e) :
    ∀ n e, (resolveIn ops resType cluster resolved nsname opts).2.lookup n = some e → P n e := by
  intro n e he
  by_cases hn : n = nsname
  · subst hn
    unfold resolveIn at he
    split at he
    · rename_i res hres
      split at he
      · rename_i hneeds
        split at he
        · exact h n e (hres ▸ he)
        · rename_i obj hobj
          rw [lookup_storeSet_self, Option.some.injEq] at he
          exact he ▸ hrevalidate res obj (h n res hres) hobj hneeds
      · exact h n e (hres ▸ he)
    · split at he
      · rename_i hobj
        rw [lookup_storeSet_self, Option.some.injEq] at he
        exact he ▸ hmissing hobj
      · rename_i obj hobj
        rw [lookup_storeSet_self, Option.some.injEq] at he
        exact he ▸ hvalidate obj hobj
  · rw [lookup_resolveIn_ne hn] at he
    exact h n e he

end ResolveInLemmas

@[simp] theorem resolve_clusterResources {r : ResourceResolver} {resType : ResourceType} {nsname : NamespacedName}
    {opts : ResolveOptions} : (r.resolve c resType nsname opts).2.clusterResources = r.clusterResources := by
  cases resType <;> rfl

@[simp] theorem resolve_secret_resolvedConfigMaps {r : ResourceResolver} {nsname : NamespacedName}
    {opts : ResolveOptions} : (r.resolve c .secret nsname opts).2.resolvedConfigMaps = r.resolvedConfigMaps := rfl

@[simp] theorem resolve_configMap_resolvedSecrets {r : ResourceResolver} {nsname : NamespacedName}
    {opts : ResolveOptions} : (r.resolve c .configMap nsname opts).2.resolvedSecrets = r.resolvedSecrets := rfl

/-! ## The entries a fresh validation makes -/

/-- What validating a Secret object makes of it, for any key. -/
def secretOf (secret : V1Secret) : Secret :=
  { source := some secret
    certBundle :=
      if secret.type = secretTypeTLS then
        some (newCertificateBundle { ns := secret.ns, name := secret.name } kindSecret (tlsCertificate secret))
      else none }

@[simp] theorem validate_err {s : SecretEntry} {secret : V1Secret} :
    (s.validate c secret).err = (secretValidation c s.expectedKey secret).1 := rfl

@[simp] theorem validate_expectedKey {s : SecretEntry} {secret : V1Secret} :
    (s.validate c secret).expectedKey = s.expectedKey := rfl

theorem validate_secret {s : SecretEntry} {secret : V1Secret} : (s.validate c secret).secret = secretOf secret := by
  simp only [SecretEntry.validate, secretValidation, secretOf]
  split_ifs <;> rfl

/-- The error a Secret validated for `key` has. -/
abbrev secretError (key : String) (secret : V1Secret) : Option ResolveError := (secretValidation c key secret).1

theorem secretError_opaque_of_key {key : String} {secret : V1Secret} (ht : secret.type = secretTypeOpaque)
    (hkey : key ≠ "") : secretError c key secret = validateOpaqueSecretKey c secret key := by
  have htls : secret.type ≠ secretTypeTLS := by rw [ht]; decide
  rw [secretError, secretValidation, if_neg htls, if_pos (.inr ⟨ht, hkey⟩)]

/-- A Secret of a type the resolver does not know is refused, for any key. -/
theorem secretError_other {key : String} {secret : V1Secret} (htls : secret.type ≠ secretTypeTLS)
    (hOpaqueType : secret.type ≠ secretTypeOpaque) (hht : secret.type ≠ secretTypeHtpasswd) :
    secretError c key secret = some (.unsupportedSecretType secret.type) := by
  rw [secretError, secretValidation, if_neg htls, if_neg]
  rintro (h | ⟨h, -⟩)
  · exact hht h
  · exact hOpaqueType h

/-- The entry of a ConfigMap, as a fresh resolver makes it. -/
def freshConfigMapEntry (obj : Option V1ConfigMap) (nsname : NamespacedName) : ConfigMapEntry :=
  match obj with
  | none => { err := some (.doesNotExist .configMap nsname true) }
  | some cm => ({} : ConfigMapEntry).validate c cm

/-! ## The cache's invariant -/

/-- The entry kept for the Secret `nsname`, whose object is `obj`, is what
validating it for the entry's key gives, but for an Opaque Secret
revalidated for no key, which keeps the Opaque check's error. -/
def SecretEntryOK (obj : Option V1Secret) (nsname : NamespacedName) (e : SecretEntry) : Prop :=
  match obj with
  | none => e.err = some (.doesNotExist .secret nsname false) ∧ e.secret = {}
  | some secret =>
    e.secret = secretOf secret ∧
      (e.err = secretError c e.expectedKey secret ∨
        (secret.type = secretTypeOpaque ∧ e.expectedKey = "" ∧ e.err = validateOpaqueSecretKey c secret ""))

/-- Every entry the resolver keeps is one the cluster's object accounts for. -/
structure CacheOK (r : ResourceResolver) : Prop where
  secrets : ∀ n e, r.resolvedSecrets.lookup n = some e → SecretEntryOK c (r.clusterResources.secrets.lookup n) n e
  configMaps : ∀ n e, r.resolvedConfigMaps.lookup n = some e →
    e = freshConfigMapEntry c (r.clusterResources.configMaps.lookup n) n

theorem cacheOK_newResourceResolver (resources : ClusterResources) : CacheOK c (newResourceResolver resources) :=
  ⟨by simp [newResourceResolver], by simp [newResourceResolver]⟩

/-- Revalidation keeps a Secret entry's invariant. -/
theorem SecretEntryOK.revalidate {secret : V1Secret} {nsname : NamespacedName} {e : SecretEntry}
    {opts : ResolveOptions} (h : SecretEntryOK c (some secret) nsname e) :
    SecretEntryOK c (some secret) nsname (e.revalidate c opts secret).2 := by
  obtain ⟨hsecret, herr⟩ := h
  unfold SecretEntry.revalidate
  split_ifs with htls hOpaqueType
  · exact ⟨validate_secret c, .inl rfl⟩
  · refine ⟨hsecret, ?_⟩
    by_cases hkey : opts.expectedSecretKey = ""
    · exact .inr ⟨hOpaqueType, hkey, by simp [hkey]⟩
    · exact .inl (secretError_opaque_of_key c hOpaqueType hkey).symm
  · exact ⟨hsecret, herr⟩

theorem CacheOK.resolve {r : ResourceResolver} (h : CacheOK c r) (resType : ResourceType) (nsname : NamespacedName)
    (opts : ResolveOptions) : CacheOK c (r.resolve c resType nsname opts).2 := by
  cases resType with
  | secret =>
    refine ⟨?_, by simpa using h.configMaps⟩
    simp only [resolve_clusterResources]
    apply resolveIn_preserves (fun n e => SecretEntryOK c (r.clusterResources.secrets.lookup n) n e)
    · intro hobj
      simp [SecretEntryOK, hobj, secretEntry]
    · intro obj hobj
      simp only [hobj, SecretEntryOK]
      exact ⟨validate_secret c, .inl rfl⟩
    · intro e obj he hobj _
      simp only [hobj] at he ⊢
      exact he.revalidate c
    · exact h.secrets
  | configMap =>
    refine ⟨by simpa using h.secrets, ?_⟩
    simp only [resolve_clusterResources]
    apply resolveIn_preserves (fun n e => e = freshConfigMapEntry c (r.clusterResources.configMaps.lookup n) n)
    · intro hobj
      simp [freshConfigMapEntry, hobj, configMapEntry]
    · intro obj hobj
      simp [freshConfigMapEntry, hobj, configMapEntry]
    · intro e obj _ _ hneeds
      simp [configMapEntry] at hneeds
    · exact h.configMaps

/-! ## What a call returns -/

section Answers

variable {O E : Type} {ops : ResourceEntry O E} {resType : ResourceType} {cluster : List (NamespacedName × O)}
  {resolved : List (NamespacedName × E)} {nsname : NamespacedName} {opts : ResolveOptions} {e : E}

/-- A call whose object has an entry: the kept error, or the answer of
revalidation. -/
theorem resolveIn_fst_of_lookup_some (h : resolved.lookup nsname = some e) :
    (resolveIn ops resType cluster resolved nsname opts).1 =
      if ops.needsRevalidation e opts then
        match cluster.lookup nsname with
        | none => some (.doesNotExist resType nsname false)
        | some obj => (ops.revalidate e opts obj).1
      else ops.error e := by
  simp only [resolveIn, h]
  split
  · cases cluster.lookup nsname <;> rfl
  · rfl

end Answers

theorem freshResolve_secret {resources : ClusterResources} {nsname : NamespacedName} {opts : ResolveOptions} :
    freshResolve c resources { resType := .secret, nsname, opts } =
      match resources.secrets.lookup nsname with
      | none => some (.doesNotExist .secret nsname false)
      | some secret => secretError c opts.expectedSecretKey secret := by
  cases h : resources.secrets.lookup nsname <;>
    simp [freshResolve, ResourceResolver.resolve, resolveIn, newResourceResolver, secretEntry, h]

/-- The calls the cache does not show in: all but those that name an
htpasswd Secret, or an Opaque Secret for no key. -/
def transparent (resources : ClusterResources) (call : ResolveCall) : Bool :=
  match call.resType, resources.secrets.lookup call.nsname with
  | .secret, some secret =>
    secret.type ≠ secretTypeHtpasswd && !(secret.type = secretTypeOpaque && call.opts.expectedSecretKey = "")
  | _, _ => true

/-- What a Secret call returns from a cache that keeps the invariant: the
fresh answer, or the refusal of an htpasswd Secret revalidated, or the
Opaque check for no key. -/
theorem resolve_secret_cases {r : ResourceResolver} (h : CacheOK c r) {nsname : NamespacedName}
    {opts : ResolveOptions} :
    (r.resolve c .secret nsname opts).1 = freshResolve c r.clusterResources { resType := .secret, nsname, opts } ∨
      ∃ secret, r.clusterResources.secrets.lookup nsname = some secret ∧
        ((secret.type = secretTypeHtpasswd ∧
            (r.resolve c .secret nsname opts).1 = some (.unsupportedSecretType secret.type)) ∨
          (secret.type = secretTypeOpaque ∧ opts.expectedSecretKey = "" ∧
            (r.resolve c .secret nsname opts).1 = validateOpaqueSecretKey c secret "")) := by
  have hres : (r.resolve c .secret nsname opts).1 =
      (resolveIn (secretEntry c) .secret r.clusterResources.secrets r.resolvedSecrets nsname opts).1 := rfl
  rw [hres, freshResolve_secret]
  cases he : r.resolvedSecrets.lookup nsname with
  | none =>
    left
    rw [resolveIn_fst_of_lookup_none he]
    cases hobj : r.clusterResources.secrets.lookup nsname <;> simp [resolveIn, secretEntry, hobj]
  | some e =>
    have hok := h.secrets nsname e he
    rw [resolveIn_fst_of_lookup_some he]
    cases hobj : r.clusterResources.secrets.lookup nsname with
    | none =>
      rw [hobj] at hok
      left
      split <;> simp [secretEntry, hok.1]
    | some secret =>
      rw [hobj] at hok
      obtain ⟨-, herr⟩ := hok
      by_cases hneeds : e.needsRevalidation opts = true
      · simp only [secretEntry, hneeds, ite_true, SecretEntry.revalidate]
        split_ifs with htls hOpaqueType
        · exact .inl rfl
        · by_cases hkey : opts.expectedSecretKey = ""
          · exact .inr ⟨secret, rfl, .inr ⟨hOpaqueType, hkey, by simp [hkey]⟩⟩
          · exact .inl (secretError_opaque_of_key c hOpaqueType hkey).symm
        · by_cases hht : secret.type = secretTypeHtpasswd
          · exact .inr ⟨secret, rfl, .inl ⟨hht, rfl⟩⟩
          · exact .inl (secretError_other c htls hOpaqueType hht).symm
      · have hkey : opts.expectedSecretKey = e.expectedKey := by
          simpa [SecretEntry.needsRevalidation] using hneeds
        simp only [secretEntry, hneeds, Bool.false_eq_true, ite_false, hkey]
        rcases herr with herr | ⟨hOpaqueType, hempty, herr⟩
        · exact .inl herr
        · exact .inr ⟨secret, rfl, .inr ⟨hOpaqueType, hempty, herr⟩⟩

/-- A ConfigMap call returns what a fresh resolver returns. -/
theorem resolve_configMap_eq {r : ResourceResolver} (h : CacheOK c r) {nsname : NamespacedName}
    {opts : ResolveOptions} :
    (r.resolve c .configMap nsname opts).1 =
      freshResolve c r.clusterResources { resType := .configMap, nsname, opts } := by
  have hres : (r.resolve c .configMap nsname opts).1 =
      (resolveIn (configMapEntry c) .configMap r.clusterResources.configMaps r.resolvedConfigMaps nsname opts).1 := rfl
  have hfresh : freshResolve c r.clusterResources { resType := .configMap, nsname, opts } =
      (freshConfigMapEntry c (r.clusterResources.configMaps.lookup nsname) nsname).err := by
    cases hobj : r.clusterResources.configMaps.lookup nsname <;>
      simp [freshResolve, ResourceResolver.resolve, resolveIn, newResourceResolver, configMapEntry,
        freshConfigMapEntry, hobj]
  rw [hres, hfresh]
  cases he : r.resolvedConfigMaps.lookup nsname with
  | none =>
    rw [resolveIn_fst_of_lookup_none he]
    cases hobj : r.clusterResources.configMaps.lookup nsname <;>
      simp [resolveIn, configMapEntry, freshConfigMapEntry, hobj]
  | some e =>
    rw [resolveIn_fst_of_lookup_some he, h.configMaps nsname e he]
    rfl

/-- A transparent call returns what a fresh resolver returns. -/
theorem resolve_eq_freshResolve {r : ResourceResolver} (h : CacheOK c r) {call : ResolveCall}
    (ht : transparent r.clusterResources call = true) :
    (r.resolve c call.resType call.nsname call.opts).1 = freshResolve c r.clusterResources call := by
  obtain ⟨resType, nsname, opts⟩ := call
  cases resType with
  | configMap => exact resolve_configMap_eq c h
  | secret =>
    rcases resolve_secret_cases c h with heq | ⟨secret, hobj, ⟨hht, -⟩ | ⟨hOpaqueType, hkey, -⟩⟩
    · exact heq
    · simp [transparent, hobj, hht] at ht
    · simp [transparent, hobj, hOpaqueType] at ht
      exact absurd hkey ht.2

/-- No Secret has an empty data key: the API server admits none. -/
def NoEmptyDataKey (resources : ClusterResources) : Prop :=
  ∀ e ∈ resources.secrets, e.2.data.lookup "" = none

instance (resources : ClusterResources) : Decidable (NoEmptyDataKey resources) :=
  inferInstanceAs (Decidable (∀ e ∈ resources.secrets, e.2.data.lookup "" = none))

/-- Any call returns what a fresh resolver returns, or an error. -/
theorem resolve_eq_freshResolve_or_refused {r : ResourceResolver} (h : CacheOK c r)
    (hkeys : NoEmptyDataKey r.clusterResources) (call : ResolveCall) :
    (r.resolve c call.resType call.nsname call.opts).1 = freshResolve c r.clusterResources call ∨
      (r.resolve c call.resType call.nsname call.opts).1.isSome := by
  obtain ⟨resType, nsname, opts⟩ := call
  cases resType with
  | configMap => exact .inl (resolve_configMap_eq c h)
  | secret =>
    rcases resolve_secret_cases c h with heq | ⟨secret, hobj, ⟨-, herr⟩ | ⟨-, -, herr⟩⟩
    · exact .inl heq
    · exact .inr (by simp [herr])
    · have hmem : (nsname, secret) ∈ r.clusterResources.secrets := by
        obtain ⟨l₁, l₂, hl, -⟩ := List.lookup_eq_some_iff.1 hobj
        simp [hl]
      have hnone : secret.data.lookup "" = none := hkeys _ hmem
      exact .inr (by simp [herr, validateOpaqueSecretKey, hnone])

/-- What a fresh resolver accepts for no key, as a listener's certificate
references ask: a TLS Secret whose pair passes `ValidateTLS` and whose CA,
if it has one, passes `ValidateCA`. -/
theorem freshResolve_eq_none_iff {resources : ClusterResources} (hkeys : NoEmptyDataKey resources)
    {nsname : NamespacedName} :
    freshResolve c resources { resType := .secret, nsname } = none ↔
      ∃ secret, resources.secrets.lookup nsname = some secret ∧ secret.type = secretTypeTLS ∧
        validateTLS c (tlsCertificate secret).tlsCert (tlsCertificate secret).tlsPrivateKey = none ∧
        ∀ ca, secret.data.lookup caKey = some ca → validateCA c ca = none := by
  rw [freshResolve_secret]
  cases hobj : resources.secrets.lookup nsname with
  | none => simp
  | some secret =>
    simp only [Option.some.injEq, exists_eq_left']
    by_cases htls : secret.type = secretTypeTLS
    · have hkey : ("" : String) ≠ caKey := by decide
      cases hca : secret.data.lookup caKey with
      | none => simp [secretError, secretValidation, htls, hca, hkey]
      | some ca =>
        cases hpair : validateTLS c (tlsCertificate secret).tlsCert (tlsCertificate secret).tlsPrivateKey <;>
          simp [secretError, secretValidation, htls, hca, hpair]
    · have hmem : (nsname, secret) ∈ resources.secrets := by
        obtain ⟨l₁, l₂, hl, -⟩ := List.lookup_eq_some_iff.1 hobj
        simp [hl]
      have hnone : secret.data.lookup "" = none := hkeys _ hmem
      simp [secretError, secretValidation, htls, validateOpaqueSecretKey, hnone]
      split_ifs <;> simp

/-! ## Runs -/

@[simp] theorem run_clusterResources {r : ResourceResolver} {calls : List ResolveCall} :
    (r.run c calls).2.clusterResources = r.clusterResources := by
  induction calls generalizing r with
  | nil => rfl
  | cons call calls ih => simp [ResourceResolver.run, ih]

theorem CacheOK.run {r : ResourceResolver} (h : CacheOK c r) (calls : List ResolveCall) :
    CacheOK c (r.run c calls).2 := by
  induction calls generalizing r with
  | nil => exact h
  | cons call calls ih => exact ih (h.resolve c call.resType call.nsname call.opts)

/-- The cache does not show: from the empty resolver, every call of a
sequence of transparent calls returns what a fresh resolver returns. -/
theorem run_eq_map_freshResolve {resources : ClusterResources} {calls : List ResolveCall}
    (ht : ∀ call ∈ calls, transparent resources call = true) :
    ((newResourceResolver resources).run c calls).1 = calls.map (freshResolve c resources) := by
  -- the induction runs from any resolver that keeps the invariant
  suffices hrun : ∀ r : ResourceResolver, CacheOK c r → r.clusterResources = resources →
      (r.run c calls).1 = calls.map (freshResolve c resources) from
    hrun _ (cacheOK_newResourceResolver c resources) rfl
  induction calls with
  | nil => intro _ _ _; rfl
  | cons call calls ih =>
    intro r h hres
    simp only [ResourceResolver.run, List.map_cons, List.cons.injEq]
    refine ⟨?_, ih (fun call hc => ht call (List.mem_cons_of_mem _ hc)) _ (h.resolve c _ _ _) (by simp [hres])⟩
    rw [resolve_eq_freshResolve c h (hres ▸ ht call List.mem_cons_self), hres]

/-- A TLS Secret resolved for no key and then for its CA, by a resolver
whose checks accept every certificate. -/
theorem run_eq_map_freshResolve_tls :
    let crypto : Crypto :=
      { x509KeyPair := fun _ _ => none, base64Decode := fun _ => none, pemDecode := fun b => some ("CERTIFICATE", b)
        parseCertificate := fun _ => none }
    let cert : NamespacedName := { ns := "default", name := "cert" }
    let resources : ClusterResources :=
      { secrets := [(cert, { ns := "default", name := "cert", type := secretTypeTLS
                             data := [(tlsCertKey, [1]), (tlsPrivateKeyKey, [2])] })] }
    let calls : List ResolveCall :=
      [{ resType := .secret, nsname := cert }, { resType := .secret, nsname := cert, opts := { expectedSecretKey := caKey } }]
    (∀ call ∈ calls, transparent resources call = true) ∧
      ((newResourceResolver resources).run crypto calls).1 = calls.map (freshResolve crypto resources) := by
  intro crypto cert resources calls
  have ht : ∀ call ∈ calls, transparent resources call = true := by decide
  exact ⟨ht, run_eq_map_freshResolve crypto ht⟩

/-- Every call of any sequence returns what a fresh resolver returns, or an
error: the resolver accepts nothing a fresh one refuses. -/
theorem run_eq_fresh_or_refused {resources : ClusterResources} (hkeys : NoEmptyDataKey resources)
    (calls : List ResolveCall) :
    List.Forall₂ (fun call err => err = freshResolve c resources call ∨ err.isSome) calls
      ((newResourceResolver resources).run c calls).1 := by
  suffices hrun : ∀ r : ResourceResolver, CacheOK c r → r.clusterResources = resources →
      List.Forall₂ (fun call err => err = freshResolve c resources call ∨ err.isSome) calls (r.run c calls).1 from
    hrun _ (cacheOK_newResourceResolver c resources) rfl
  induction calls with
  | nil => intro _ _ _; exact .nil
  | cons call calls ih =>
    intro r h hres
    simp only [ResourceResolver.run]
    refine .cons ?_ (ih _ (h.resolve c _ _ _) (by simp [hres]))
    have := resolve_eq_freshResolve_or_refused c h (hres ▸ hkeys) call
    rwa [hres] at this

/-- An Opaque Secret asked for its `auth` key and then for none. -/
theorem run_eq_fresh_or_refused_opaque :
    let crypto : Crypto :=
      { x509KeyPair := fun _ _ => none, base64Decode := fun _ => none, pemDecode := fun _ => none
        parseCertificate := fun _ => none }
    let basic : NamespacedName := { ns := "default", name := "basic" }
    let resources : ClusterResources :=
      { secrets := [(basic, { ns := "default", name := "basic", type := secretTypeOpaque, data := [("auth", [1])] })] }
    let calls : List ResolveCall :=
      [{ resType := .secret, nsname := basic, opts := { expectedSecretKey := "auth" } }, { resType := .secret, nsname := basic }]
    NoEmptyDataKey resources ∧
      List.Forall₂ (fun call err => err = freshResolve crypto resources call ∨ err.isSome) calls
        ((newResourceResolver resources).run crypto calls).1 := by
  intro crypto basic resources calls
  have hkeys : NoEmptyDataKey resources := by decide
  exact ⟨hkeys, run_eq_fresh_or_refused crypto hkeys calls⟩

/-! ## The Secrets reported -/

theorem lookup_map_snd {α β γ : Type} [BEq α] (f : β → γ) (l : List (α × β)) (k : α) :
    (l.map fun e => (e.1, f e.2)).lookup k = (l.lookup k).map f := by
  induction l with
  | nil => rfl
  | cons e l ih =>
    obtain ⟨a, b⟩ := e
    simp only [List.map_cons, List.lookup_cons]
    cases k == a <;> simp [ih]

theorem bind_lookup_getSecrets {r : ResourceResolver} {nsname : NamespacedName} :
    r.getSecrets.bind (·.lookup nsname) = (r.resolvedSecrets.lookup nsname).map (·.secret) := by
  simp only [ResourceResolver.getSecrets]
  split
  · rename_i hlen
    have hnil : r.resolvedSecrets = [] := by simpa using hlen
    simp [hnil]
  · exact lookup_map_snd (·.secret) r.resolvedSecrets nsname

/-- A call makes its Secret's entry, if it has none, and no other. -/
theorem isSome_lookup_resolve {r : ResourceResolver} {call : ResolveCall} {n : NamespacedName} :
    ((r.resolve c call.resType call.nsname call.opts).2.resolvedSecrets.lookup n).isSome =
      ((r.resolvedSecrets.lookup n).isSome || decide (call.resType = .secret ∧ call.nsname = n)) := by
  obtain ⟨resType, nsname, opts⟩ := call
  cases resType with
  | configMap => simp
  | secret =>
    by_cases hn : n = nsname
    · subst hn
      have := @isSome_lookup_resolveIn _ _ (secretEntry c) .secret r.clusterResources.secrets r.resolvedSecrets n opts
      simp only [ResourceResolver.resolve]
      simp [this]
    · simp only [ResourceResolver.resolve]
      simp [lookup_resolveIn_ne hn, Ne.symm hn]

theorem isSome_lookup_run {r : ResourceResolver} {calls : List ResolveCall} {n : NamespacedName} :
    ((r.run c calls).2.resolvedSecrets.lookup n).isSome =
      ((r.resolvedSecrets.lookup n).isSome || calls.any fun call => call.resType = .secret ∧ call.nsname = n) := by
  induction calls generalizing r with
  | nil => simp [ResourceResolver.run]
  | cons call calls ih =>
    simp only [ResourceResolver.run, List.any_cons]
    rw [ih, isSome_lookup_resolve, Bool.or_assoc]

/-- The Secret reported for a name: what validating its object made of it,
or the empty Secret of one that does not exist. -/
def secretAt (resources : ClusterResources) (nsname : NamespacedName) : Secret :=
  ((resources.secrets.lookup nsname).map secretOf).getD {}

theorem SecretEntryOK.secret_eq {obj : Option V1Secret} {nsname : NamespacedName} {e : SecretEntry}
    (h : SecretEntryOK c obj nsname e) : e.secret = (obj.map secretOf).getD {} := by
  cases obj with
  | none => exact h.2
  | some secret => exact h.1

/-- Whatever the calls, their order and their keys, `GetSecrets` reports
exactly the Secrets asked for, each as validating its object made it. -/
theorem getSecrets_run {resources : ClusterResources} (calls : List ResolveCall) (nsname : NamespacedName) :
    ((newResourceResolver resources).run c calls).2.getSecrets.bind (·.lookup nsname) =
      if calls.any (fun call => call.resType = .secret ∧ call.nsname = nsname) then some (secretAt resources nsname)
      else none := by
  rw [bind_lookup_getSecrets]
  have hkeys := @isSome_lookup_run c (newResourceResolver resources) calls nsname
  have hempty : (newResourceResolver resources).resolvedSecrets.lookup nsname = none := rfl
  rw [hempty, Option.isSome_none, Bool.false_or] at hkeys
  cases hl : ((newResourceResolver resources).run c calls).2.resolvedSecrets.lookup nsname with
  | none =>
    rw [hl, Option.isSome_none] at hkeys
    rw [← hkeys]
    rfl
  | some e =>
    rw [hl, Option.isSome_some] at hkeys
    have hok := ((cacheOK_newResourceResolver c resources).run c calls).secrets nsname e hl
    rw [run_clusterResources] at hok
    have hsecret : e.secret = secretAt resources nsname := hok.secret_eq
    rw [← hkeys, Option.map_some, hsecret]
    rfl

/-! ## An htpasswd Secret -/

/-- What a resolver with the entry `e` of an htpasswd Secret answers a call
for it: the entry's error for the entry's key, an unsupported type for any
other, as `revalidate` has no htpasswd case. -/
def htpasswdAnswer (e : SecretEntry) (opts : ResolveOptions) : Option ResolveError :=
  if opts.expectedSecretKey = e.expectedKey then e.err else some (.unsupportedSecretType secretTypeHtpasswd)

section Htpasswd

variable {r : ResourceResolver} {n : NamespacedName} {e : SecretEntry} {secret : V1Secret}

theorem run_append (r : ResourceResolver) (calls calls' : List ResolveCall) :
    (r.run c (calls ++ calls')).1 = (r.run c calls).1 ++ ((r.run c calls).2.run c calls').1 := by
  induction calls generalizing r with
  | nil => rfl
  | cons call calls ih => simp [ResourceResolver.run, ih]

/-- A call for an htpasswd Secret with an entry gives `htpasswdAnswer` and
leaves the entry as it was. -/
theorem resolve_htpasswd (he : r.resolvedSecrets.lookup n = some e)
    (hs : r.clusterResources.secrets.lookup n = some secret) (ht : secret.type = secretTypeHtpasswd)
    (opts : ResolveOptions) :
    (r.resolve c .secret n opts).1 = htpasswdAnswer e opts ∧
      (r.resolve c .secret n opts).2.resolvedSecrets.lookup n = some e := by
  have htls : secret.type ≠ secretTypeTLS := by rw [ht]; decide
  have hOpaqueType : secret.type ≠ secretTypeOpaque := by rw [ht]; decide
  simp only [ResourceResolver.resolve, resolveIn, he, hs, secretEntry, SecretEntry.needsRevalidation,
    SecretEntry.revalidate, if_neg htls, if_neg hOpaqueType, htpasswdAnswer]
  by_cases hk : opts.expectedSecretKey = e.expectedKey
  · simp [hk, he]
  · simp [hk, ht, lookup_storeSet_self]

/-- No call changes the entry of an htpasswd Secret. -/
theorem lookup_resolve_htpasswd (he : r.resolvedSecrets.lookup n = some e)
    (hs : r.clusterResources.secrets.lookup n = some secret) (ht : secret.type = secretTypeHtpasswd)
    (call : ResolveCall) : (r.resolve c call.resType call.nsname call.opts).2.resolvedSecrets.lookup n = some e := by
  obtain ⟨resType, nsname, opts⟩ := call
  cases resType with
  | configMap => simpa using he
  | secret =>
    by_cases hn : n = nsname
    · subst hn
      exact (resolve_htpasswd c he hs ht opts).2
    · simp only [ResourceResolver.resolve]
      rw [lookup_resolveIn_ne hn, he]

/-- From any resolver holding the entry of an htpasswd Secret, every call
of a run that names the Secret gets `htpasswdAnswer`. -/
theorem run_htpasswd_answers (ht : secret.type = secretTypeHtpasswd) :
    ∀ (calls : List ResolveCall) {r : ResourceResolver}, r.resolvedSecrets.lookup n = some e →
      r.clusterResources.secrets.lookup n = some secret →
      List.Forall₂ (fun call err => call.resType = .secret → call.nsname = n → err = htpasswdAnswer e call.opts)
        calls (r.run c calls).1
  | [], _, _, _ => .nil
  | call :: calls, r, he, hs => by
    have hcall : call.resType = .secret → call.nsname = n →
        (r.resolve c call.resType call.nsname call.opts).1 = htpasswdAnswer e call.opts := by
      intro hres hn
      obtain ⟨resType, nsname, opts⟩ := call
      dsimp only at hres hn
      subst hres hn
      exact (resolve_htpasswd c he hs ht opts).1
    have hs' : (r.resolve c call.resType call.nsname call.opts).2.clusterResources.secrets.lookup n = some secret := by
      rw [resolve_clusterResources]
      exact hs
    simp only [ResourceResolver.run]
    exact .cons hcall (run_htpasswd_answers ht calls (lookup_resolve_htpasswd c he hs ht call) hs')

/-- Calls that name another Secret leave a Secret without an entry. -/
theorem lookup_run_of_not_named {calls : List ResolveCall}
    (hcalls : ∀ call ∈ calls, call.resType = .secret → call.nsname ≠ n) (h : r.resolvedSecrets.lookup n = none) :
    (r.run c calls).2.resolvedSecrets.lookup n = none := by
  have hsome := @isSome_lookup_run c r calls n
  have hany : (calls.any fun call => call.resType = .secret ∧ call.nsname = n) = false := by
    simpa using fun call hc hres => hcalls call hc hres
  rw [h, hany] at hsome
  simpa using hsome

/-- The first call for a Secret makes its entry by validating it for the
call's key. -/
theorem lookup_resolve_new (he : r.resolvedSecrets.lookup n = none)
    (hs : r.clusterResources.secrets.lookup n = some secret) (opts : ResolveOptions) :
    (r.resolve c .secret n opts).2.resolvedSecrets.lookup n =
      some (({ expectedKey := opts.expectedSecretKey } : SecretEntry).validate c secret) := by
  simp only [ResourceResolver.resolve, resolveIn, he, hs, secretEntry]
  exact lookup_storeSet_self _ _ _

theorem length_run (r : ResourceResolver) (calls : List ResolveCall) : (r.run c calls).1.length = calls.length := by
  induction calls generalizing r with
  | nil => rfl
  | cons call calls ih => simp [ResourceResolver.run, ih]

end Htpasswd

/-- The first key an htpasswd Secret is resolved for sticks: whatever came
before it and comes after, every later call for the Secret is answered as
the first was, by the Opaque check of that key, when it asks for the same
key, and is refused as an unsupported type when it asks for any other,
whatever the Secret's data. -/
theorem run_htpasswd_first_key {resources : ClusterResources} {n : NamespacedName} {secret : V1Secret}
    (hs : resources.secrets.lookup n = some secret) (ht : secret.type = secretTypeHtpasswd) (k₀ : String)
    (pre post : List ResolveCall) (hpre : ∀ call ∈ pre, call.resType = .secret → call.nsname ≠ n) :
    List.Forall₂
      (fun call err => call.resType = .secret → call.nsname = n →
        err = if call.opts.expectedSecretKey = k₀ then validateOpaqueSecretKey c secret k₀
          else some (.unsupportedSecretType secretTypeHtpasswd))
      post (((newResourceResolver resources).run c
        (pre ++ { resType := .secret, nsname := n, opts := { expectedSecretKey := k₀ } } :: post)).1.drop
          (pre.length + 1)) := by
  set r₁ := ((newResourceResolver resources).run c pre).2
  set r₂ := (r₁.resolve c .secret n { expectedSecretKey := k₀ }).2
  have hrun : (((newResourceResolver resources).run c
      (pre ++ { resType := .secret, nsname := n, opts := { expectedSecretKey := k₀ } } :: post)).1.drop
        (pre.length + 1)) = (r₂.run c post).1 := by
    rw [run_append, ← length_run c (newResourceResolver resources) pre, List.drop_append]
    simp [ResourceResolver.run, r₂, r₁]
  have hs₁ : r₁.clusterResources.secrets.lookup n = some secret := by
    show ((newResourceResolver resources).run c pre).2.clusterResources.secrets.lookup n = some secret
    rw [run_clusterResources]
    exact hs
  have hnone : r₁.resolvedSecrets.lookup n = none := lookup_run_of_not_named c hpre rfl
  have he : r₂.resolvedSecrets.lookup n = some (({ expectedKey := k₀ } : SecretEntry).validate c secret) :=
    lookup_resolve_new c hnone hs₁ _
  have herr : (({ expectedKey := k₀ } : SecretEntry).validate c secret).err = validateOpaqueSecretKey c secret k₀ := by
    have htls : secret.type ≠ secretTypeTLS := by rw [ht]; decide
    rw [validate_err, secretValidation, if_neg htls, if_pos (.inl ht)]
  rw [hrun]
  refine (run_htpasswd_answers c ht post he (by simpa [r₂] using hs₁)).imp fun call err h hres hn => ?_
  rw [h hres hn, htpasswdAnswer, herr, validate_expectedKey]

/-- The refusal `revalidate` gives an htpasswd Secret: a listener's
certificate reference to it, resolved first for no key, makes the
resolver refuse it to the basic-auth filter that then asks for its `auth`
key, which it holds and which a fresh resolver accepts. -/
theorem htpasswd_refused_after_other_key :
    let crypto : Crypto :=
      { x509KeyPair := fun _ _ => none, base64Decode := fun _ => none, pemDecode := fun _ => none
        parseCertificate := fun _ => none }
    let secret : V1Secret :=
      { ns := "default", name := "basic", type := secretTypeHtpasswd, data := [("auth", [0x61])] }
    let basic : NamespacedName := { ns := "default", name := "basic" }
    let resources : ClusterResources := { secrets := [(basic, secret)] }
    let authCall : ResolveCall := { resType := .secret, nsname := basic, opts := { expectedSecretKey := "auth" } }
    List.Forall₂
        (fun call err => call.resType = .secret → call.nsname = basic →
          err = if call.opts.expectedSecretKey = "" then validateOpaqueSecretKey crypto secret ""
            else some (.unsupportedSecretType secretTypeHtpasswd))
        [authCall]
        (((newResourceResolver resources).run crypto [{ resType := .secret, nsname := basic }, authCall]).1.drop 1) ∧
      freshResolve crypto resources authCall = none := by
  intro crypto secret basic resources authCall
  exact ⟨run_htpasswd_first_key crypto rfl rfl "" [] [authCall] (by simp), rfl⟩

end GatewayFabric.Resolver
