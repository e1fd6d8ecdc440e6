/-
How the listeners of a Gateway and of its ListenerSets are configured
(`state/graph/gateway_listener.go`, `listenerset.go`). One
`listenerConfiguratorFactory` serves a Gateway: its listeners are configured
first, then those of each attached ListenerSet, all through the same three
conflict resolvers, whose state persists from listener to listener.

A resolver reaches back: it may invalidate listeners configured before the
current one, which Go holds by pointer. Here the listeners configured so far
are a list and a resolver keeps their indices; a resolver takes the list and
the current listener, whose index is the length of the list, and gives both
back. Validators are given by what they return (conditions, attachable),
the label selector by the error of converting it, if any, and a certificate
reference of a TLS listener by what `resolveTLSCertRef` makes of it.

The main results: after any sequence of listeners has been configured, two
valid listeners on one port are in one protocol group, are not two L4
listeners of one protocol, are not an HTTPS and a TLS listener with
overlapping hostnames, and differ in protocol or hostname
(`configureAll_valid_pair`); and configuring a ListenerSet listener leaves
every earlier listener as valid as it was (`configure_listenerSet_frame`).
-/
import GatewayFabric.Graph.Routes

namespace GatewayFabric.Graph

open Dataplane

/-! ## Listeners -/

/-- `v1.ProtocolType` as a listener writes it: one of the protocols NGF
supports, or another name. -/
inductive ListenerProtocol where
  | supported (p : ProtocolType)
  | other (name : String)
  deriving Repr, DecidableEq

def ListenerProtocol.toString : ListenerProtocol → String
  | .supported p => p.toString
  | .other name => name

/-- A listener as the Gateway or a ListenerSet writes it (`v1.Listener`),
with the fields configuring reads. -/
structure ListenerSource where
  name : String
  hostname : Option String := none
  port : Int32
  protocol : ListenerProtocol
  deriving Repr, DecidableEq

/-- The conditions configuring puts on a listener, by their reason. -/
inductive ListenerCondition where
  | unsupportedProtocol (msg : String)
  | unsupportedValue (msg : String)
  | protocolConflict (msg : String)
  | hostnameConflict (msg : String)
  | overlappingTLSConfig (msg : String)
  | allInvalidCertificateRefs (msg reason : String)
  | unresolvedCertificateRef (msg reason : String)
  deriving Repr, DecidableEq

/-- `graph.Listener` as `configure` builds it. -/
structure ConfiguredListener where
  name : String
  gatewayName : NamespacedName
  source : ListenerSource
  conditions : List ListenerCondition
  valid : Bool
  attachable : Bool
  listenerSetName : NamespacedName
  resolvedSecrets : List NamespacedName := []
  deriving Repr, DecidableEq

/-- The listener is one of the Gateway's own (`ListenerSetName.Name == ""`). -/
def ConfiguredListener.fromGateway (l : ConfiguredListener) : Bool := l.listenerSetName.name = ""

def ConfiguredListener.addCondition (c : ListenerCondition) (l : ConfiguredListener) : ConfiguredListener :=
  { l with conditions := l.conditions ++ [c] }

/-- The listener made invalid, with the condition that says why. -/
def ConfiguredListener.invalidate (c : ListenerCondition) (l : ConfiguredListener) : ConfiguredListener :=
  { l with valid := false, conditions := l.conditions ++ [c] }

/-! ## Hostname overlap -/

/-- `matchesWildcard`: one hostname is `*.s` and the other ends in `.s`; its
closure `mw` is the check `match` makes (`wildcardMatch`). -/
def matchesWildcard (hostname1 hostname2 : String) : Bool :=
  wildcardMatch hostname1 hostname2 || wildcardMatch hostname2 hostname1

/-- `haveOverlap`: a listener without a hostname overlaps every other. -/
def haveOverlap : Option String → Option String → Bool
  | some h1, some h2 => h1 = h2 || matchesWildcard h1 h2
  | _, _ => true

/-! ## The port conflict resolver -/

/-- `isL4Protocol`. -/
def isL4Protocol : ListenerProtocol → Bool
  | .supported .tcp | .supported .udp => true
  | _ => false

/-- `protocolGroups` of `createPortConflictResolver`: secure (HTTPS, TLS),
insecure (HTTP) and L4 (TCP, UDP); a protocol the map lacks reads as 0. -/
def protocolGroup : ListenerProtocol → Nat
  | .supported .https | .supported .tls => 0
  | .supported .http => 1
  | .supported .tcp | .supported .udp => 2
  | .other _ => 0

def portProtocolConflictMsg (port : Int32) : String :=
  "Multiple listeners for the same port " ++ toString port.toInt ++ " specify incompatible protocols; " ++
    "ensure only one protocol per port"

def portHostnameConflictMsg (port : Int32) : String :=
  "HTTPS and TLS listeners for the same port " ++ toString port.toInt ++ " specify overlapping hostnames; " ++
    "ensure no overlapping hostnames for HTTPS and TLS listeners for the same port"

def portL4SameProtocolConflictMsg (protocol : ListenerProtocol) (port : Int32) : String :=
  "Multiple " ++ protocol.toString ++ " listeners cannot share the same port " ++ toString port.toInt

def invalidateProtocolConflict (port : Int32) : ConfiguredListener → ConfiguredListener :=
  ConfiguredListener.invalidate (.protocolConflict (portProtocolConflictMsg port))

def invalidateL4ProtocolConflict (protocol : ListenerProtocol) (port : Int32) : ConfiguredListener → ConfiguredListener :=
  ConfiguredListener.invalidate (.protocolConflict (portL4SameProtocolConflictMsg protocol port))

def invalidateHostnameConflict (port : Int32) : ConfiguredListener → ConfiguredListener :=
  ConfiguredListener.invalidate (.hostnameConflict (portHostnameConflictMsg port))

/-- `portConflictResolver`: Go's maps, read with their zero value. The
listeners of a port are the indices of the listeners configured so far. -/
structure PortConflictResolver where
  conflictedPorts : Int32 → Bool := fun _ => false
  portProtocolOwner : Int32 → Option Nat := fun _ => none
  listenersByPort : Int32 → List Nat := fun _ => []

/-- `r.listenersByPort[port] = append(r.listenersByPort[port], l)`. -/
def PortConflictResolver.addListener (r : PortConflictResolver) (port : Int32) (i : Nat) : PortConflictResolver :=
  { r with listenersByPort := Function.update r.listenersByPort port (r.listenersByPort port ++ [i]) }

/-- `resolveProtocolGroupConflict`: a Gateway listener of another group
makes the port conflicted and every listener seen on it invalid; a
ListenerSet listener only itself. -/
def PortConflictResolver.resolveProtocolGroupConflict (r : PortConflictResolver) (ls : List ConfiguredListener)
    (l : ConfiguredListener) (port : Int32) : PortConflictResolver × List ConfiguredListener × ConfiguredListener :=
  if l.fromGateway then
    ({ r with conflictedPorts := Function.update r.conflictedPorts port true },
     (r.listenersByPort port).foldl (fun ls i => ls.modify i (invalidateProtocolConflict port)) ls,
     invalidateProtocolConflict port l)
  else (r, ls, invalidateProtocolConflict port l)

/-- Whether `l`, of the port's protocol group, conflicts with the earlier
`listener`: two L4 listeners of one protocol, or two listeners of different
protocols, neither L4, with overlapping hostnames. -/
def sameGroupL4Conflict (l listener : ListenerSource) : Bool :=
  isL4Protocol l.protocol && listener.protocol = l.protocol

def sameGroupHostnameConflict (l listener : ListenerSource) : Bool :=
  listener.protocol ≠ l.protocol && !isL4Protocol listener.protocol && !isL4Protocol l.protocol &&
    haveOverlap l.hostname listener.hostname

/-- One check of the loop of `resolveSameProtocolGroupConflict`: on a
conflict a Gateway listener invalidates the earlier listener `i`, and the
conflict is found. -/
def checkConflict (conflict : Bool) (invalidate : ConfiguredListener → ConfiguredListener) (fromGateway : Bool)
    (i : Nat) (acc : List ConfiguredListener × Bool) : List ConfiguredListener × Bool :=
  if conflict then (if fromGateway then acc.1.modify i invalidate else acc.1, true) else acc

/-- One earlier listener of the loop: the L4 check, then the hostname check. -/
def sameGroupStep (l : ConfiguredListener) (port : Int32) (acc : List ConfiguredListener × Bool) (i : Nat) :
    List ConfiguredListener × Bool :=
  match acc.1[i]? with
  | none => acc
  | some listener =>
    checkConflict (sameGroupHostnameConflict l.source listener.source) (invalidateHostnameConflict port) l.fromGateway i
      (checkConflict (sameGroupL4Conflict l.source listener.source)
        (invalidateL4ProtocolConflict l.source.protocol port) l.fromGateway i acc)

/-- `resolveSameProtocolGroupConflict`. -/
def PortConflictResolver.resolveSameProtocolGroupConflict (r : PortConflictResolver) (ls : List ConfiguredListener)
    (l : ConfiguredListener) (port : Int32) : List ConfiguredListener × ConfiguredListener :=
  let (ls, foundConflict) := (r.listenersByPort port).foldl (sameGroupStep l port) (ls, false)
  if !foundConflict then (ls, l)
  else if isL4Protocol l.source.protocol then (ls, invalidateL4ProtocolConflict l.source.protocol port l)
  else (ls, invalidateHostnameConflict port l)

/-- `portConflictResolver.resolve`: `l` is the next listener, of index
`ls.length`. -/
def PortConflictResolver.resolve (r : PortConflictResolver) (ls : List ConfiguredListener) (l : ConfiguredListener) :
    PortConflictResolver × List ConfiguredListener × ConfiguredListener :=
  let port := l.source.port
  if r.conflictedPorts port then (r, ls, invalidateProtocolConflict port l)
  else
    match r.portProtocolOwner port with
    | none =>
      ({ r with portProtocolOwner := Function.update r.portProtocolOwner port (some (protocolGroup l.source.protocol)) }
        |>.addListener port ls.length, ls, l)
    | some group =>
      let (r, ls, l) :=
        if group ≠ protocolGroup l.source.protocol then r.resolveProtocolGroupConflict ls l port
        else
          let (ls, l) := r.resolveSameProtocolGroupConflict ls l port
          (r, ls, l)
      (r.addListener port ls.length, ls, l)

/-! ## The overlapping TLS configuration resolver -/

def isTLSEnabled (p : ListenerProtocol) : Bool := p = .supported .https || p = .supported .tls

def listenerMessageOverlappingHostnames : String :=
  "Listener hostname overlaps with hostname(s) of other Listener(s) on the same port"

structure OverlappingTLSConfigResolver where
  listenersByPort : Int32 → List Nat := fun _ => []

/-- `createOverlappingTLSConfigResolver`: both listeners of an overlap are
given a condition, and neither is invalidated. -/
def OverlappingTLSConfigResolver.resolve (r : OverlappingTLSConfigResolver) (ls : List ConfiguredListener)
    (l : ConfiguredListener) : OverlappingTLSConfigResolver × List ConfiguredListener × ConfiguredListener :=
  let port := l.source.port
  if !isTLSEnabled l.source.protocol then (r, ls, l)
  else
    let cond := ListenerCondition.overlappingTLSConfig listenerMessageOverlappingHostnames
    let (ls, l) := (r.listenersByPort port).foldl (fun (acc : List ConfiguredListener × ConfiguredListener) i =>
      match acc.1[i]? with
      | some existing =>
        if isTLSEnabled existing.source.protocol && haveOverlap acc.2.source.hostname existing.source.hostname then
          (acc.1.modify i (ConfiguredListener.addCondition cond), acc.2.addCondition cond)
        else acc
      | none => acc) (ls, l)
    ({ listenersByPort := Function.update r.listenersByPort port (r.listenersByPort port ++ [ls.length]) }, ls, l)

/-! ## The unique listener resolver -/

structure ListenerKey where
  protocol : ListenerProtocol
  hostname : String
  port : Int32
  deriving Repr, DecidableEq

def ListenerSource.key (l : ListenerSource) : ListenerKey :=
  { port := l.port, protocol := l.protocol, hostname := l.hostname.getD "" }

structure UniqueListenerConflictResolver where
  existingKeys : ListenerKey → Bool := fun _ => false

/-- `uniqueListenerConflictResolver`: a listener still valid takes its key,
or is invalid if an earlier valid listener took it. -/
def UniqueListenerConflictResolver.resolve (r : UniqueListenerConflictResolver) (l : ConfiguredListener) :
    UniqueListenerConflictResolver × ConfiguredListener :=
  if !l.valid then (r, l)
  else
    let key := l.source.key
    if r.existingKeys key then
      let msg := "Multiple listeners with the same port " ++ toString key.port.toInt ++ " and protocol " ++
        key.protocol.toString ++ " have overlapping hostnames"
      (r, l.invalidate (.hostnameConflict msg))
    else ({ existingKeys := Function.update r.existingKeys key true }, l)

/-! ## Configuring a listener -/

/-- The shared resolvers of one factory. -/
structure ResolverState where
  ports : PortConflictResolver := {}
  overlappingTLS : OverlappingTLSConfigResolver := {}
  unique : UniqueListenerConflictResolver := {}

/-- The resolvers a configurator lists, each naming one of the shared ones. -/
inductive ConflictResolver where
  | portConflict
  | overlappingTLSConfig
  | uniqueListener
  deriving Repr, DecidableEq

def ConflictResolver.run (c : ConflictResolver) (st : ResolverState) (ls : List ConfiguredListener)
    (l : ConfiguredListener) : ResolverState × List ConfiguredListener × ConfiguredListener :=
  match c with
  | .portConflict =>
    let (ports, ls, l) := st.ports.resolve ls l
    ({ st with ports }, ls, l)
  | .overlappingTLSConfig =>
    let (overlappingTLS, ls, l) := st.overlappingTLS.resolve ls l
    ({ st with overlappingTLS }, ls, l)
  | .uniqueListener =>
    let (unique, l) := st.unique.resolve l
    ({ st with unique }, ls, l)

/-- `certRefError`. -/
structure CertRefError where
  msg : String
  refNotPermitted : Bool := false
  deriving Repr, DecidableEq

/-- `applyCertRefErrors`: a listener none of whose certificates resolved is
invalid. -/
def applyCertRefErrors (l : ConfiguredListener) (certRefErrors : List CertRefError) : ConfiguredListener :=
  if certRefErrors = [] then l
  else
    let reason := if certRefErrors.any (!·.refNotPermitted) then "InvalidCertificateRef" else "RefNotPermitted"
    let msg := String.intercalate "; " (certRefErrors.map (·.msg))
    if l.resolvedSecrets = [] then l.invalidate (.allInvalidCertificateRefs msg reason)
    else l.addCondition (.unresolvedCertificateRef msg reason)

/-- `createExternalReferencesForTLSSecretsResolver`, given what
`resolveTLSCertRef` makes of each certificate reference of the listener. -/
def resolveTLSSecrets (resolveTLSCertRefs : ConfiguredListener → List (Except CertRefError NamespacedName))
    (l : ConfiguredListener) : ConfiguredListener :=
  if !l.valid then l
  else
    let (l, certRefErrors) := (resolveTLSCertRefs l).foldl (fun (acc : ConfiguredListener × List CertRefError) r =>
      match r with
      | .ok secret => ({ acc.1 with resolvedSecrets := acc.1.resolvedSecrets ++ [secret] }, acc.2)
      | .error e => (acc.1, acc.2 ++ [e])) (l, [])
    applyCertRefErrors l certRefErrors

/-- A validator gives the conditions of the fields it checks and whether
the listener is attachable. -/
abbrev ListenerValidator := ListenerSource → List ListenerCondition × Bool

/-- `listenerConfigurator`; its external reference resolver is the TLS
secrets resolver, when it has one. -/
structure ListenerConfigurator where
  validators : List ListenerValidator
  conflictResolvers : List ConflictResolver := []
  resolvesTLSSecrets : Bool := false

/-- What configuring reads besides the listener: the validators of each
protocol, the error of converting a listener's label selector, and the
certificate references of a TLS listener. -/
structure ListenerEnv where
  validators : ProtocolType → List ListenerValidator
  labelSelectorError : ListenerSource → Option String := fun _ => none
  resolveTLSCertRefs : ConfiguredListener → List (Except CertRefError NamespacedName) := fun _ => []

/-- The validator of `unsupportedProtocol`: the `field.NotSupported` error
of the protocol. -/
def unsupportedProtocolValidator (listener : ListenerSource) : List ListenerCondition × Bool :=
  ([.unsupportedProtocol ("protocol: Unsupported value: \"" ++ listener.protocol.toString ++
    "\": supported values: \"HTTP\", \"HTTPS\", \"TLS\", \"TCP\", \"UDP\"")], false)

/-- `getConfiguratorForListener` of `newListenerConfiguratorFactory`. -/
def getConfiguratorForListener (env : ListenerEnv) (l : ListenerSource) : ListenerConfigurator :=
  match l.protocol with
  | .supported .http => { validators := env.validators .http, conflictResolvers := [.portConflict, .uniqueListener] }
  | .supported .https =>
    { validators := env.validators .https, conflictResolvers := [.portConflict, .overlappingTLSConfig, .uniqueListener]
      resolvesTLSSecrets := true }
  | .supported .tls =>
    { validators := env.validators .tls, conflictResolvers := [.portConflict, .overlappingTLSConfig, .uniqueListener]
      resolvesTLSSecrets := true }
  | .supported .tcp => { validators := env.validators .tcp, conflictResolvers := [.portConflict, .uniqueListener] }
  | .supported .udp => { validators := env.validators .udp, conflictResolvers := [.portConflict, .uniqueListener] }
  | .other _ => { validators := [unsupportedProtocolValidator] }

/-- The conditions of the validators and whether all say attachable. -/
def runValidators (validators : List ListenerValidator) (listener : ListenerSource) : List ListenerCondition × Bool :=
  validators.foldl (fun (acc : List ListenerCondition × Bool) v =>
    let (conds, attachable) := v listener
    (acc.1 ++ conds, acc.2 && attachable)) ([], true)

/-- The listener `configure` builds before any resolver runs: valid when
no validator gave a condition and its label selector converts. -/
def buildListener (validators : List ListenerValidator) (labelSelectorError : ListenerSource → Option String)
    (listener : ListenerSource) (gwNsName listenerSetName : NamespacedName) : ConfiguredListener :=
  let (conds, attachable) := runValidators validators listener
  let (conds, valid) : List ListenerCondition × Bool := match labelSelectorError listener with
    | some err => (conds ++ [.unsupportedValue ("Invalid label selector: " ++ err)], false)
    | none => (conds, conds = [])
  { name := listener.name, gatewayName := gwNsName, source := listener, conditions := conds, valid, attachable
    listenerSetName }

/-- The conflict resolvers of a configurator, in their order, on the
current listener. -/
def runConflictResolvers (rs : List ConflictResolver) (st : ResolverState) (ls : List ConfiguredListener)
    (l : ConfiguredListener) : ResolverState × List ConfiguredListener × ConfiguredListener :=
  rs.foldl (fun (acc : ResolverState × List ConfiguredListener × ConfiguredListener) (r : ConflictResolver) =>
    r.run acc.1 acc.2.1 acc.2.2) (st, ls, l)

/-- `listenerConfigurator.configure`: a listener that fails a check is
returned as it is; a valid one goes through every conflict resolver and the
TLS secrets resolver. -/
def ListenerConfigurator.configure (c : ListenerConfigurator) (env : ListenerEnv) (st : ResolverState)
    (ls : List ConfiguredListener) (listener : ListenerSource) (gwNsName listenerSetName : NamespacedName) :
    ResolverState × List ConfiguredListener × ConfiguredListener :=
  let l := buildListener c.validators env.labelSelectorError listener gwNsName listenerSetName
  if !l.valid then (st, ls, l)
  else
    let (st, ls, l) := runConflictResolvers c.conflictResolvers st ls l
    (st, ls, if c.resolvesTLSSecrets then resolveTLSSecrets env.resolveTLSCertRefs l else l)

/-- One listener configured by the factory: it joins the listeners
configured so far. -/
def configureListener (env : ListenerEnv) (gwNsName : NamespacedName) (acc : ResolverState × List ConfiguredListener)
    (x : ListenerSource × NamespacedName) : ResolverState × List ConfiguredListener :=
  let (st, ls, l) := (getConfiguratorForListener env x.1).configure env acc.1 acc.2 x.1 gwNsName x.2
  (st, ls ++ [l])

/-- `buildListeners` over a sequence of listeners, each with the
ListenerSet it comes from (the empty name for the Gateway's own), all fed to
one factory. -/
def configureAll (env : ListenerEnv) (gwNsName : NamespacedName) (xs : List (ListenerSource × NamespacedName)) :
    ResolverState × List ConfiguredListener :=
  xs.foldl (configureListener env gwNsName) ({}, [])

/-! ## The valid listeners -/

/-- The source of the listener of index `i`, when that listener is valid:
all the conflict invariants read of the listeners. -/
def validSource (ls : List ConfiguredListener) (i : Nat) : Option ListenerSource :=
  ls[i]?.bind fun l => if l.valid then some l.source else none

theorem validSource_eq_some {ls : List ConfiguredListener} {i : Nat} {s : ListenerSource} :
    validSource ls i = some s ↔ ∃ l, ls[i]? = some l ∧ l.valid = true ∧ l.source = s := by
  unfold validSource
  cases ls[i]? with
  | none => simp
  | some l => by_cases hv : l.valid <;> simp [hv]

/-- The valid listeners after one more: those before, and the new one if it
is valid. -/
theorem validSource_snoc {ls : List ConfiguredListener} {x : ConfiguredListener} {i : Nat} {s : ListenerSource} :
    validSource (ls ++ [x]) i = some s ↔ validSource ls i = some s ∨ (i = ls.length ∧ x.valid = true ∧ x.source = s) := by
  rcases Nat.lt_or_ge i ls.length with hi | hi
  · have hne : i ≠ ls.length := by omega
    simp only [validSource, List.getElem?_append_left hi, hne, false_and, or_false]
  · rw [validSource_eq_some, validSource_eq_some, List.getElem?_append_right hi]
    constructor
    · rintro ⟨l, hl, hv, rfl⟩
      have hi' : i - ls.length = 0 := by
        have := (List.getElem?_eq_some_iff.1 hl).1
        simp at this
        omega
      rw [hi', List.getElem?_singleton] at hl
      simp only [↓reduceIte, Option.some.injEq] at hl
      subst hl
      exact .inr ⟨by omega, hv, rfl⟩
    · rintro (⟨l, hl, -⟩ | ⟨rfl, hv, rfl⟩)
      · have := (List.getElem?_eq_some_iff.1 hl).1
        omega
      · exact ⟨x, by simp, hv, rfl⟩

theorem validSource_snoc_of_invalid {ls : List ConfiguredListener} {x : ConfiguredListener} (hx : x.valid = false)
    {i : Nat} {s : ListenerSource} : validSource (ls ++ [x]) i = some s ↔ validSource ls i = some s := by
  rw [validSource_snoc]
  simp [hx]

/-- `ls'` has the listeners of `ls`, some of them made invalid: a listener
valid in `ls'` is valid in `ls`, with the same source. -/
structure Weakens (ls ls' : List ConfiguredListener) : Prop where
  length_eq : ls'.length = ls.length
  validSource_eq : ∀ {i s}, validSource ls' i = some s → validSource ls i = some s

theorem Weakens.refl (ls : List ConfiguredListener) : Weakens ls ls := ⟨rfl, id⟩

theorem Weakens.trans {ls₁ ls₂ ls₃ : List ConfiguredListener} (h₁ : Weakens ls₁ ls₂) (h₂ : Weakens ls₂ ls₃) :
    Weakens ls₁ ls₃ :=
  ⟨h₂.length_eq.trans h₁.length_eq, fun h => h₁.validSource_eq (h₂.validSource_eq h)⟩

/-- `x'` is `x` given conditions and perhaps made invalid: the same source,
from the same ListenerSet, and no more valid. -/
structure Lowered (x x' : ConfiguredListener) : Prop where
  source_eq : x'.source = x.source
  listenerSetName_eq : x'.listenerSetName = x.listenerSetName
  valid_imp : x'.valid = true → x.valid = true

theorem Lowered.refl (x : ConfiguredListener) : Lowered x x := ⟨rfl, rfl, id⟩

theorem Lowered.trans {x₁ x₂ x₃ : ConfiguredListener} (h₁ : Lowered x₁ x₂) (h₂ : Lowered x₂ x₃) : Lowered x₁ x₃ :=
  ⟨h₂.source_eq.trans h₁.source_eq, h₂.listenerSetName_eq.trans h₁.listenerSetName_eq, fun h => h₁.valid_imp (h₂.valid_imp h)⟩

/-- A change of every listener by `f` is a lowering. -/
def Lowers (f : ConfiguredListener → ConfiguredListener) : Prop := ∀ l, Lowered l (f l)

theorem lowers_invalidate (c : ListenerCondition) : Lowers (ConfiguredListener.invalidate c) :=
  fun _ => ⟨rfl, rfl, by simp [ConfiguredListener.invalidate]⟩

theorem lowers_addCondition (c : ListenerCondition) : Lowers (ConfiguredListener.addCondition c) :=
  fun _ => ⟨rfl, rfl, id⟩

theorem Weakens.modify {f : ConfiguredListener → ConfiguredListener} (hf : Lowers f) (ls : List ConfiguredListener)
    (i : Nat) : Weakens ls (ls.modify i f) := by
  refine ⟨List.length_modify f ls i, fun {j s} h => ?_⟩
  rw [validSource_eq_some] at h ⊢
  obtain ⟨l', hl', hv, rfl⟩ := h
  rw [List.getElem?_modify] at hl'
  cases hj : ls[j]? with
  | none => simp [hj] at hl'
  | some l =>
    simp only [hj, Option.map_eq_map, Option.map_some, Option.some.injEq] at hl'
    subst hl'
    by_cases hij : i = j
    · simp only [hij, ↓reduceIte] at hv ⊢
      exact ⟨l, rfl, (hf l).valid_imp hv, (hf l).source_eq.symm⟩
    · simp only [hij, ↓reduceIte] at hv ⊢
      exact ⟨l, rfl, hv, rfl⟩

theorem Weakens.snoc {ls ls' : List ConfiguredListener} {x x' : ConfiguredListener} (h : Weakens ls ls')
    (hx : Lowered x x') : Weakens (ls ++ [x]) (ls' ++ [x']) := by
  refine ⟨by simp [h.length_eq], fun {i s} hi => ?_⟩
  rw [validSource_snoc] at hi ⊢
  rcases hi with hi | ⟨rfl, hxv, rfl⟩
  · exact .inl (h.validSource_eq hi)
  · exact .inr ⟨h.length_eq, hx.valid_imp hxv, hx.source_eq.symm⟩

/-- Changing listeners by a map that keeps their validity keeps the list of
validities. -/
theorem map_valid_modify {f : ConfiguredListener → ConfiguredListener} (hf : ∀ l, (f l).valid = l.valid)
    (ls : List ConfiguredListener) (i : Nat) : (ls.modify i f).map (·.valid) = ls.map (·.valid) := by
  refine List.ext_getElem? fun j => ?_
  simp only [List.getElem?_map, List.getElem?_modify]
  cases ls[j]? with
  | none => rfl
  | some l => by_cases hij : i = j <;> simp [hij, hf]

/-! ## Overlap is symmetric -/

theorem matchesWildcard_comm (h1 h2 : String) : matchesWildcard h1 h2 = matchesWildcard h2 h1 :=
  Bool.or_comm _ _

theorem haveOverlap_comm (h1 h2 : Option String) : haveOverlap h1 h2 = haveOverlap h2 h1 := by
  cases h1 <;> cases h2 <;> simp only [haveOverlap]
  next a b =>
    rw [matchesWildcard_comm]
    by_cases hab : a = b <;> simp [hab, eq_comm]

theorem sameGroupL4Conflict_comm (s t : ListenerSource) : sameGroupL4Conflict s t = sameGroupL4Conflict t s := by
  unfold sameGroupL4Conflict
  by_cases h : t.protocol = s.protocol
  · simp [h]
  · simp [h, Ne.symm h]

theorem sameGroupHostnameConflict_comm (s t : ListenerSource) :
    sameGroupHostnameConflict s t = sameGroupHostnameConflict t s := by
  unfold sameGroupHostnameConflict
  rw [haveOverlap_comm]
  by_cases h : t.protocol = s.protocol
  · simp [h]
  · simp only [ne_eq, h, not_false_eq_true, decide_true, Ne.symm h, Bool.true_and]
    rw [Bool.and_comm (!isL4Protocol t.protocol)]

/-! ## What the port conflict resolver keeps -/

namespace PortConflictResolver

/-- What the port conflict resolver keeps of the listeners configured so
far: every valid listener is recorded for its port, whose owner is the
listener's protocol group, and no two valid listeners of a port conflict. -/
structure Inv (r : PortConflictResolver) (ls : List ConfiguredListener) : Prop where
  tracked : ∀ {i s}, validSource ls i = some s →
    r.portProtocolOwner s.port = some (protocolGroup s.protocol) ∧ i ∈ r.listenersByPort s.port
  compatible : ∀ {i j s t}, validSource ls i = some s → validSource ls j = some t → i ≠ j → s.port = t.port →
    sameGroupL4Conflict s t = false ∧ sameGroupHostnameConflict s t = false

theorem Inv.empty : Inv {} [] where
  tracked h := by simp [validSource] at h
  compatible h := by simp [validSource] at h

theorem Inv.weaken {r : PortConflictResolver} {ls ls' : List ConfiguredListener} (h : r.Inv ls)
    (hw : Weakens ls ls') : r.Inv ls' where
  tracked hi := h.tracked (hw.validSource_eq hi)
  compatible hi hj := h.compatible (hw.validSource_eq hi) (hw.validSource_eq hj)

/-- A resolver that forgets no owner and no recorded listener keeps the
invariant. -/
theorem Inv.mono {r r' : PortConflictResolver} {ls : List ConfiguredListener} (h : r.Inv ls)
    (howner : ∀ p g, r.portProtocolOwner p = some g → r'.portProtocolOwner p = some g)
    (hby : ∀ p i, i ∈ r.listenersByPort p → i ∈ r'.listenersByPort p) : r'.Inv ls where
  tracked hi := ⟨howner _ _ (h.tracked hi).1, hby _ _ (h.tracked hi).2⟩
  compatible := h.compatible

theorem Inv.snoc_invalid {r : PortConflictResolver} {ls : List ConfiguredListener} {x : ConfiguredListener}
    (h : r.Inv ls) (hx : x.valid = false) : r.Inv (ls ++ [x]) where
  tracked hi := h.tracked ((validSource_snoc_of_invalid hx).1 hi)
  compatible hi hj := h.compatible ((validSource_snoc_of_invalid hx).1 hi) ((validSource_snoc_of_invalid hx).1 hj)

/-- A valid listener joins the invariant when it is recorded for its port,
the port is owned by its group, and it conflicts with no valid listener of
the port. -/
theorem Inv.snoc_valid {r : PortConflictResolver} {ls : List ConfiguredListener} {x : ConfiguredListener}
    (h : r.Inv ls) (howner : r.portProtocolOwner x.source.port = some (protocolGroup x.source.protocol))
    (hmem : ls.length ∈ r.listenersByPort x.source.port)
    (hcompat : ∀ {j t}, validSource ls j = some t → t.port = x.source.port →
      sameGroupL4Conflict x.source t = false ∧ sameGroupHostnameConflict x.source t = false) :
    r.Inv (ls ++ [x]) where
  tracked hi := by
    rcases validSource_snoc.1 hi with hi | ⟨rfl, -, rfl⟩
    · exact h.tracked hi
    · exact ⟨howner, hmem⟩
  compatible hi hj hij hport := by
    rcases validSource_snoc.1 hi with hi | ⟨rfl, -, rfl⟩ <;> rcases validSource_snoc.1 hj with hj | ⟨rfl, -, rfl⟩
    · exact h.compatible hi hj hij hport
    · rw [sameGroupL4Conflict_comm, sameGroupHostnameConflict_comm]
      exact hcompat hi hport
    · exact hcompat hj hport.symm
    · exact absurd rfl hij

theorem mem_addListener {r : PortConflictResolver} {p q : Int32} {i n : Nat} :
    i ∈ (r.addListener p n).listenersByPort q ↔ i ∈ r.listenersByPort q ∨ (q = p ∧ i = n) := by
  unfold addListener
  by_cases hq : q = p
  · subst hq
    simp [or_comm]
  · simp [hq]

theorem Inv.addListener {r : PortConflictResolver} {ls : List ConfiguredListener} (h : r.Inv ls) (p : Int32)
    (n : Nat) : (r.addListener p n).Inv ls :=
  h.mono (fun _ _ => id) fun _ _ hi => mem_addListener.2 (.inl hi)

/-! ### The loop of `resolveSameProtocolGroupConflict` -/

section SameGroup

variable {l : ConfiguredListener} {port : Int32}

theorem checkConflict_found {conflict : Bool} {f : ConfiguredListener → ConfiguredListener} {g : Bool} {i : Nat}
    {acc : List ConfiguredListener × Bool} (hacc : acc.2 = true) : (checkConflict conflict f g i acc).2 = true := by
  unfold checkConflict
  split <;> simp [hacc]

theorem checkConflict_weakens {conflict : Bool} {f : ConfiguredListener → ConfiguredListener} (hf : Lowers f)
    (g : Bool) (i : Nat) (acc : List ConfiguredListener × Bool) : Weakens acc.1 (checkConflict conflict f g i acc).1 := by
  unfold checkConflict
  split
  · split
    · exact Weakens.modify hf _ _
    · exact Weakens.refl _
  · exact Weakens.refl _

theorem checkConflict_not_found {conflict : Bool} {f : ConfiguredListener → ConfiguredListener} {g : Bool} {i : Nat}
    {acc : List ConfiguredListener × Bool} (h : (checkConflict conflict f g i acc).2 = false) :
    checkConflict conflict f g i acc = acc ∧ conflict = false := by
  unfold checkConflict at h ⊢
  cases conflict <;> simp_all

theorem checkConflict_listenerSet {conflict : Bool} {f : ConfiguredListener → ConfiguredListener} {i : Nat}
    (acc : List ConfiguredListener × Bool) : (checkConflict conflict f false i acc).1 = acc.1 := by
  unfold checkConflict
  split <;> rfl

theorem sameGroupStep_found {acc : List ConfiguredListener × Bool} (hacc : acc.2 = true) (i : Nat) :
    (sameGroupStep l port acc i).2 = true := by
  unfold sameGroupStep
  split
  · exact hacc
  · exact checkConflict_found (checkConflict_found hacc)

theorem foldl_sameGroupStep_found :
    ∀ (S : List Nat) {acc : List ConfiguredListener × Bool}, acc.2 = true → (S.foldl (sameGroupStep l port) acc).2 = true
  | [], _, h => h
  | i :: S, _, h => foldl_sameGroupStep_found S (sameGroupStep_found h i)

theorem sameGroupStep_weakens (acc : List ConfiguredListener × Bool) (i : Nat) :
    Weakens acc.1 (sameGroupStep l port acc i).1 := by
  unfold sameGroupStep
  split
  · exact Weakens.refl _
  · exact (checkConflict_weakens (lowers_invalidate _) _ _ _).trans (checkConflict_weakens (lowers_invalidate _) _ _ _)

theorem foldl_sameGroupStep_weakens :
    ∀ (S : List Nat) (acc : List ConfiguredListener × Bool), Weakens acc.1 (S.foldl (sameGroupStep l port) acc).1
  | [], _ => Weakens.refl _
  | i :: S, acc => (sameGroupStep_weakens acc i).trans (foldl_sameGroupStep_weakens S _)

/-- A step that finds no conflict changes nothing, and the earlier listener
conflicts with `l` in neither way. -/
theorem sameGroupStep_not_found {ls : List ConfiguredListener} {i : Nat}
    (h : (sameGroupStep l port (ls, false) i).2 = false) :
    sameGroupStep l port (ls, false) i = (ls, false) ∧
      ∀ {li}, ls[i]? = some li →
        sameGroupL4Conflict l.source li.source = false ∧ sameGroupHostnameConflict l.source li.source = false := by
  unfold sameGroupStep at h ⊢
  cases hi : ls[i]? with
  | none => simp
  | some li =>
    simp only [hi] at h ⊢
    obtain ⟨hhost, hhc⟩ := checkConflict_not_found h
    rw [hhost] at h ⊢
    obtain ⟨hl4, hl4c⟩ := checkConflict_not_found h
    refine ⟨hl4, fun hli => ?_⟩
    cases hli
    exact ⟨hl4c, hhc⟩

theorem foldl_sameGroupStep_not_found :
    ∀ (S : List Nat) {ls : List ConfiguredListener}, (S.foldl (sameGroupStep l port) (ls, false)).2 = false →
      (S.foldl (sameGroupStep l port) (ls, false)).1 = ls ∧ ∀ j ∈ S, ∀ {lj}, ls[j]? = some lj →
        sameGroupL4Conflict l.source lj.source = false ∧ sameGroupHostnameConflict l.source lj.source = false
  | [], _, _ => ⟨rfl, by simp⟩
  | i :: S, ls, h => by
    rw [List.foldl_cons] at h ⊢
    have hstep : (sameGroupStep l port (ls, false) i).2 = false := by
      cases hs : (sameGroupStep l port (ls, false) i).2
      · rfl
      · have : (S.foldl (sameGroupStep l port) (sameGroupStep l port (ls, false) i)).2 = true :=
          foldl_sameGroupStep_found S hs
        simp [this] at h
    obtain ⟨heq, hi⟩ := sameGroupStep_not_found hstep
    rw [heq] at h ⊢
    obtain ⟨hls, hS⟩ := foldl_sameGroupStep_not_found S h
    refine ⟨hls, fun j hj => ?_⟩
    rcases List.mem_cons.1 hj with rfl | hj
    · exact hi
    · exact hS j hj

/-- A ListenerSet listener changes no earlier listener. -/
theorem foldl_sameGroupStep_listenerSet (hl : l.fromGateway = false) :
    ∀ (S : List Nat) (acc : List ConfiguredListener × Bool), (S.foldl (sameGroupStep l port) acc).1 = acc.1
  | [], _ => rfl
  | i :: S, acc => by
    rw [List.foldl_cons, foldl_sameGroupStep_listenerSet hl S]
    unfold sameGroupStep
    split
    · rfl
    · rw [hl, checkConflict_listenerSet, checkConflict_listenerSet]

end SameGroup

theorem foldl_modify_weakens {f : ConfiguredListener → ConfiguredListener} (hf : Lowers f) :
    ∀ (S : List Nat) (ls : List ConfiguredListener), Weakens ls (S.foldl (fun ls i => ls.modify i f) ls)
  | [], _ => Weakens.refl _
  | i :: S, ls => (Weakens.modify hf ls i).trans (foldl_modify_weakens hf S _)

/-- A listener that is invalid joins the invariant; a valid one when it is
recorded for its port, the port is owned by its group, and it conflicts with
no valid listener of the port. -/
theorem Inv.snoc {r : PortConflictResolver} {ls : List ConfiguredListener} {x : ConfiguredListener}
    (h : r.Inv ls) (hvalid : x.valid = true →
      r.portProtocolOwner x.source.port = some (protocolGroup x.source.protocol) ∧
      ls.length ∈ r.listenersByPort x.source.port ∧
      ∀ {j t}, validSource ls j = some t → t.port = x.source.port →
        sameGroupL4Conflict x.source t = false ∧ sameGroupHostnameConflict x.source t = false) :
    r.Inv (ls ++ [x]) := by
  cases hx : x.valid
  · exact h.snoc_invalid hx
  · obtain ⟨howner, hmem, hcompat⟩ := hvalid hx
    exact h.snoc_valid howner hmem hcompat

/-! ### One listener through the port conflict resolver -/

theorem resolveProtocolGroupConflict_spec {r r' : PortConflictResolver} {ls ls' : List ConfiguredListener}
    {l l' : ConfiguredListener} {port : Int32} (hres : r.resolveProtocolGroupConflict ls l port = (r', ls', l')) :
    l' = invalidateProtocolConflict port l ∧ Weakens ls ls' ∧ (l.fromGateway = false → ls' = ls) ∧
      r'.portProtocolOwner = r.portProtocolOwner ∧ r'.listenersByPort = r.listenersByPort := by
  unfold resolveProtocolGroupConflict at hres
  split at hres
  · next hg =>
    simp only [Prod.mk.injEq] at hres
    obtain ⟨rfl, rfl, rfl⟩ := hres
    exact ⟨rfl, foldl_modify_weakens (lowers_invalidate _) _ _, fun h => absurd hg (by simp [h]), rfl, rfl⟩
  · simp only [Prod.mk.injEq] at hres
    obtain ⟨rfl, rfl, rfl⟩ := hres
    exact ⟨rfl, Weakens.refl _, fun _ => rfl, rfl, rfl⟩

/-- Either the listener conflicts with none of the earlier listeners of the
port, and nothing changes, or it is made invalid. -/
theorem resolveSameProtocolGroupConflict_spec {r : PortConflictResolver} {ls ls' : List ConfiguredListener}
    {l l' : ConfiguredListener} {port : Int32} (hres : r.resolveSameProtocolGroupConflict ls l port = (ls', l')) :
    Weakens ls ls' ∧ (l.fromGateway = false → ls' = ls) ∧
      ((l' = l ∧ ls' = ls ∧ ∀ j ∈ r.listenersByPort port, ∀ {lj}, ls[j]? = some lj →
          sameGroupL4Conflict l.source lj.source = false ∧ sameGroupHostnameConflict l.source lj.source = false) ∨
        ∃ c, l' = l.invalidate c) := by
  unfold resolveSameProtocolGroupConflict at hres
  rcases hf : (r.listenersByPort port).foldl (sameGroupStep l port) (ls, false) with ⟨ls₁, found⟩
  rw [hf] at hres
  have hw : Weakens ls ls₁ := by
    have : Weakens ls ((r.listenersByPort port).foldl (sameGroupStep l port) (ls, false)).1 :=
      foldl_sameGroupStep_weakens (r.listenersByPort port) (ls, false)
    rwa [hf] at this
  have hset : l.fromGateway = false → ls₁ = ls := fun hl => by
    have : ((r.listenersByPort port).foldl (sameGroupStep l port) (ls, false)).1 = ls :=
      foldl_sameGroupStep_listenerSet hl _ _
    rwa [hf] at this
  cases found
  · obtain ⟨hls, hS⟩ := foldl_sameGroupStep_not_found (r.listenersByPort port) (by rw [hf])
    rw [hf] at hls
    simp only [Bool.not_false, ↓reduceIte, Prod.mk.injEq] at hres
    obtain ⟨rfl, rfl⟩ := hres
    exact ⟨hw, hset, .inl ⟨rfl, hls, hS⟩⟩
  · simp only [Bool.not_true, Bool.false_eq_true, ↓reduceIte] at hres
    split at hres <;> simp only [Prod.mk.injEq] at hres <;> obtain ⟨rfl, rfl⟩ := hres
    · exact ⟨hw, hset, .inr ⟨_, rfl⟩⟩
    · exact ⟨hw, hset, .inr ⟨_, rfl⟩⟩

/-- The port conflict resolver keeps its invariant over the listeners with
the current one appended. -/
theorem resolve_inv {r r' : PortConflictResolver} {ls ls' : List ConfiguredListener} {x x' : ConfiguredListener}
    (h : r.Inv ls) (hres : r.resolve ls x = (r', ls', x')) : r'.Inv (ls' ++ [x']) := by
  unfold resolve at hres
  dsimp only at hres
  split at hres
  · simp only [Prod.mk.injEq] at hres
    obtain ⟨rfl, rfl, rfl⟩ := hres
    exact h.snoc_invalid rfl
  · split at hres
    · next hown =>
      simp only [Prod.mk.injEq] at hres
      obtain ⟨rfl, rfl, rfl⟩ := hres
      have hfresh : ∀ {j t}, validSource ls j = some t → t.port ≠ x.source.port := fun hj hp =>
        absurd ((h.tracked hj).1) (by rw [hp, hown]; simp)
      let r₁ : PortConflictResolver :=
        { r with portProtocolOwner := Function.update r.portProtocolOwner x.source.port (some (protocolGroup x.source.protocol)) }
      show (r₁.addListener x.source.port ls.length).Inv (ls ++ [x])
      refine (h.mono (fun q g hq => ?_) fun _ _ hi => mem_addListener (r := r₁).2 (.inl hi)).snoc fun _ =>
        ⟨?_, mem_addListener (r := r₁).2 (.inr ⟨rfl, rfl⟩), fun hj hp => absurd hp (hfresh hj)⟩
      · have hq' : q ≠ x.source.port := fun hqp => by rw [hqp, hown] at hq; cases hq
        show Function.update r.portProtocolOwner x.source.port _ q = some g
        rw [Function.update_of_ne hq']
        exact hq
      · show Function.update r.portProtocolOwner x.source.port _ x.source.port = _
        exact Function.update_self _ _ _
    · next group hown =>
      by_cases hgroup : group ≠ protocolGroup x.source.protocol
      · rw [if_pos hgroup] at hres
        rcases hpg : r.resolveProtocolGroupConflict ls x x.source.port with ⟨r₁, ls₁, l₁⟩
        rw [hpg] at hres
        simp only [Prod.mk.injEq] at hres
        obtain ⟨rfl, rfl, rfl⟩ := hres
        obtain ⟨rfl, hw, -, howner, hby⟩ := resolveProtocolGroupConflict_spec hpg
        refine ((h.weaken hw).mono (fun q g hq => ?_) fun q i hi => ?_).snoc_invalid rfl
        · simpa [addListener, howner] using hq
        · exact mem_addListener.2 (.inl (by rw [hby]; exact hi))
      · rw [if_neg hgroup] at hres
        rcases hs : r.resolveSameProtocolGroupConflict ls x x.source.port with ⟨ls₂, l₂⟩
        rw [hs] at hres
        simp only [Prod.mk.injEq] at hres
        obtain ⟨rfl, rfl, rfl⟩ := hres
        obtain ⟨hw, -, hcases⟩ := resolveSameProtocolGroupConflict_spec hs
        rcases hcases with ⟨rfl, rfl, hS⟩ | ⟨c, rfl⟩
        · have hg : group = protocolGroup l₂.source.protocol := by simpa using hgroup
          refine (h.addListener _ _).snoc fun _ => ⟨by simp [addListener, hown, hg],
            mem_addListener (r := r).2 (.inr ⟨rfl, rfl⟩), fun {j t} hj hp => ?_⟩
          obtain ⟨lj, hlj, -, rfl⟩ := validSource_eq_some.1 hj
          exact hS j (hp ▸ (h.tracked hj).2) hlj
        · exact ((h.weaken hw).addListener _ _).snoc_invalid rfl

/-- What the port conflict resolver does to the listeners: it invalidates
some, and a ListenerSet listener only itself. -/
theorem resolve_spec {r r' : PortConflictResolver} {ls ls' : List ConfiguredListener} {x x' : ConfiguredListener}
    (hres : r.resolve ls x = (r', ls', x')) : Weakens ls ls' ∧ Lowered x x' ∧ (x.fromGateway = false → ls' = ls) := by
  unfold resolve at hres
  dsimp only at hres
  split at hres
  · simp only [Prod.mk.injEq] at hres
    obtain ⟨rfl, rfl, rfl⟩ := hres
    exact ⟨Weakens.refl _, lowers_invalidate _ x, fun _ => rfl⟩
  · split at hres
    · simp only [Prod.mk.injEq] at hres
      obtain ⟨rfl, rfl, rfl⟩ := hres
      exact ⟨Weakens.refl _, Lowered.refl _, fun _ => rfl⟩
    · next group _ =>
      by_cases hgroup : group ≠ protocolGroup x.source.protocol
      · rw [if_pos hgroup] at hres
        rcases hpg : r.resolveProtocolGroupConflict ls x x.source.port with ⟨r₁, ls₁, l₁⟩
        rw [hpg] at hres
        simp only [Prod.mk.injEq] at hres
        obtain ⟨rfl, rfl, rfl⟩ := hres
        obtain ⟨rfl, hw, hset, -, -⟩ := resolveProtocolGroupConflict_spec hpg
        exact ⟨hw, lowers_invalidate _ x, hset⟩
      · rw [if_neg hgroup] at hres
        rcases hs : r.resolveSameProtocolGroupConflict ls x x.source.port with ⟨ls₂, l₂⟩
        rw [hs] at hres
        simp only [Prod.mk.injEq] at hres
        obtain ⟨rfl, rfl, rfl⟩ := hres
        obtain ⟨hw, hset, hcases⟩ := resolveSameProtocolGroupConflict_spec hs
        refine ⟨hw, ?_, hset⟩
        rcases hcases with ⟨rfl, -, -⟩ | ⟨c, rfl⟩
        · exact Lowered.refl _
        · exact lowers_invalidate c x

end PortConflictResolver

/-! ## What the unique listener resolver keeps -/

namespace UniqueListenerConflictResolver

/-- Every valid listener has taken its key, and no two valid listeners
share one. -/
structure Inv (r : UniqueListenerConflictResolver) (ls : List ConfiguredListener) : Prop where
  tracked : ∀ {i s}, validSource ls i = some s → r.existingKeys s.key = true
  distinct : ∀ {i j s t}, validSource ls i = some s → validSource ls j = some t → i ≠ j → s.key ≠ t.key

theorem Inv.empty : Inv {} [] where
  tracked h := by simp [validSource] at h
  distinct h := by simp [validSource] at h

theorem Inv.weaken {r : UniqueListenerConflictResolver} {ls ls' : List ConfiguredListener} (h : r.Inv ls)
    (hw : Weakens ls ls') : r.Inv ls' where
  tracked hi := h.tracked (hw.validSource_eq hi)
  distinct hi hj := h.distinct (hw.validSource_eq hi) (hw.validSource_eq hj)

theorem Inv.snoc_invalid {r : UniqueListenerConflictResolver} {ls : List ConfiguredListener} {x : ConfiguredListener}
    (h : r.Inv ls) (hx : x.valid = false) : r.Inv (ls ++ [x]) where
  tracked hi := h.tracked ((validSource_snoc_of_invalid hx).1 hi)
  distinct hi hj := h.distinct ((validSource_snoc_of_invalid hx).1 hi) ((validSource_snoc_of_invalid hx).1 hj)

/-- A valid listener whose key no valid listener has taken joins the
invariant, taking its key. -/
theorem Inv.snoc_fresh {r : UniqueListenerConflictResolver} {ls : List ConfiguredListener} {x : ConfiguredListener}
    (h : r.Inv ls) (hfresh : r.existingKeys x.source.key = false) :
    Inv { existingKeys := Function.update r.existingKeys x.source.key true } (ls ++ [x]) where
  tracked hi := by
    rcases validSource_snoc.1 hi with hi | ⟨rfl, -, rfl⟩
    · show Function.update r.existingKeys x.source.key true _ = true
      rw [Function.update_apply]
      split <;> simp [h.tracked hi]
    · exact Function.update_self _ _ _
  distinct hi hj hij := by
    have hne : ∀ {k s}, validSource ls k = some s → s.key ≠ x.source.key := fun hk heq => by
      have := h.tracked hk
      rw [heq, hfresh] at this
      cases this
    rcases validSource_snoc.1 hi with hi | ⟨rfl, -, rfl⟩ <;> rcases validSource_snoc.1 hj with hj | ⟨rfl, -, rfl⟩
    · exact h.distinct hi hj hij
    · exact hne hi
    · exact (hne hj).symm
    · exact absurd rfl hij

theorem resolve_inv {r r' : UniqueListenerConflictResolver} {ls : List ConfiguredListener} {x x' : ConfiguredListener}
    (h : r.Inv ls) (hres : r.resolve x = (r', x')) : r'.Inv (ls ++ [x']) := by
  unfold resolve at hres
  split at hres
  · next hx =>
    simp only [Prod.mk.injEq] at hres
    obtain ⟨rfl, rfl⟩ := hres
    exact h.snoc_invalid (by simpa using hx)
  · dsimp only at hres
    split at hres
    · simp only [Prod.mk.injEq] at hres
      obtain ⟨rfl, rfl⟩ := hres
      exact h.snoc_invalid rfl
    · next hkey =>
      simp only [Prod.mk.injEq] at hres
      obtain ⟨rfl, rfl⟩ := hres
      exact h.snoc_fresh (by simpa using hkey)

theorem resolve_lowered (r : UniqueListenerConflictResolver) (x : ConfiguredListener) : Lowered x (r.resolve x).2 := by
  unfold resolve
  split
  · exact Lowered.refl _
  · dsimp only
    split
    · exact lowers_invalidate _ x
    · exact Lowered.refl _

end UniqueListenerConflictResolver

/-! ## The other resolvers change no validity -/

/-- The overlapping TLS resolver only adds conditions. -/
theorem OverlappingTLSConfigResolver.resolve_spec {r r' : OverlappingTLSConfigResolver} {ls ls' : List ConfiguredListener}
    {x x' : ConfiguredListener} (hres : r.resolve ls x = (r', ls', x')) :
    Weakens ls ls' ∧ ls'.map (·.valid) = ls.map (·.valid) ∧ Lowered x x' := by
  unfold OverlappingTLSConfigResolver.resolve at hres
  dsimp only at hres
  split at hres
  · simp only [Prod.mk.injEq] at hres
    obtain ⟨rfl, rfl, rfl⟩ := hres
    exact ⟨Weakens.refl _, rfl, Lowered.refl _⟩
  · simp only [Prod.mk.injEq] at hres
    obtain ⟨-, rfl, rfl⟩ := hres
    refine List.foldlRecOn (motive := fun (acc : List ConfiguredListener × ConfiguredListener) =>
        Weakens ls acc.1 ∧ acc.1.map (·.valid) = ls.map (·.valid) ∧ Lowered x acc.2)
      _ _ ⟨Weakens.refl _, rfl, Lowered.refl _⟩ fun acc hacc i _ => ?_
    obtain ⟨hw, hvalid, hx⟩ := hacc
    split
    · split
      · exact ⟨hw.trans (Weakens.modify (lowers_addCondition _) _ _),
          (map_valid_modify (f := ConfiguredListener.addCondition _) (fun _ => rfl) _ _).trans hvalid, hx.trans (lowers_addCondition _ _)⟩
      · exact ⟨hw, hvalid, hx⟩
    · exact ⟨hw, hvalid, hx⟩

theorem lowered_applyCertRefErrors (l : ConfiguredListener) (certRefErrors : List CertRefError) :
    Lowered l (applyCertRefErrors l certRefErrors) := by
  unfold applyCertRefErrors
  split
  · exact Lowered.refl _
  · dsimp only
    split
    · exact lowers_invalidate _ l
    · exact lowers_addCondition _ l

/-- The TLS secrets resolver records the secrets of the listener, and
invalidates it when none resolves. -/
theorem lowered_resolveTLSSecrets (resolveTLSCertRefs : ConfiguredListener → List (Except CertRefError NamespacedName))
    (l : ConfiguredListener) : Lowered l (resolveTLSSecrets resolveTLSCertRefs l) := by
  unfold resolveTLSSecrets
  split
  · exact Lowered.refl _
  · dsimp only
    refine Lowered.trans ?_ (lowered_applyCertRefErrors _ _)
    refine List.foldlRecOn (motive := fun (acc : ConfiguredListener × List CertRefError) => Lowered l acc.1)
      _ _ (Lowered.refl l) fun acc hacc r _ => ?_
    cases r with
    | ok secret => exact hacc.trans ⟨rfl, rfl, id⟩
    | error e => exact hacc

/-! ## Configuring keeps the invariants -/

namespace ResolverState

/-- The invariants of the shared resolvers over the listeners configured so
far. -/
structure Inv (st : ResolverState) (ls : List ConfiguredListener) : Prop where
  ports : st.ports.Inv ls
  unique : st.unique.Inv ls

/-- Between the port conflict resolver and the unique listener resolver:
the port invariant covers the current listener, the unique one not yet. -/
structure Mid (st : ResolverState) (ls : List ConfiguredListener) (x : ConfiguredListener) : Prop where
  ports : st.ports.Inv (ls ++ [x])
  unique : st.unique.Inv ls

theorem Inv.empty : Inv {} [] := ⟨PortConflictResolver.Inv.empty, UniqueListenerConflictResolver.Inv.empty⟩

theorem Inv.snoc_invalid {st : ResolverState} {ls : List ConfiguredListener} {x : ConfiguredListener} (h : st.Inv ls)
    (hx : x.valid = false) : st.Inv (ls ++ [x]) :=
  ⟨h.ports.snoc_invalid hx, h.unique.snoc_invalid hx⟩

theorem Inv.lower {st : ResolverState} {ls : List ConfiguredListener} {x x' : ConfiguredListener}
    (h : st.Inv (ls ++ [x])) (hx : Lowered x x') : st.Inv (ls ++ [x']) :=
  ⟨h.ports.weaken ((Weakens.refl ls).snoc hx), h.unique.weaken ((Weakens.refl ls).snoc hx)⟩

end ResolverState

section Run

variable {st st' : ResolverState} {ls ls' : List ConfiguredListener} {x x' : ConfiguredListener}

theorem run_portConflict_mid (h : st.Inv ls) (hres : ConflictResolver.portConflict.run st ls x = (st', ls', x')) :
    st'.Mid ls' x' := by
  unfold ConflictResolver.run at hres
  rcases hp : st.ports.resolve ls x with ⟨r, ls₁, x₁⟩
  rw [hp] at hres
  simp only [Prod.mk.injEq] at hres
  obtain ⟨rfl, rfl, rfl⟩ := hres
  exact ⟨PortConflictResolver.resolve_inv h.ports hp, h.unique.weaken (PortConflictResolver.resolve_spec hp).1⟩

theorem run_overlappingTLSConfig_mid (h : st.Mid ls x)
    (hres : ConflictResolver.overlappingTLSConfig.run st ls x = (st', ls', x')) : st'.Mid ls' x' := by
  unfold ConflictResolver.run at hres
  rcases ht : st.overlappingTLS.resolve ls x with ⟨r, ls₁, x₁⟩
  rw [ht] at hres
  simp only [Prod.mk.injEq] at hres
  obtain ⟨rfl, rfl, rfl⟩ := hres
  obtain ⟨hw, -, hx⟩ := OverlappingTLSConfigResolver.resolve_spec ht
  exact ⟨h.ports.weaken (hw.snoc hx), h.unique.weaken hw⟩

theorem run_uniqueListener_inv (h : st.Mid ls x)
    (hres : ConflictResolver.uniqueListener.run st ls x = (st', ls', x')) : st'.Inv (ls' ++ [x']) := by
  unfold ConflictResolver.run at hres
  rcases hu : st.unique.resolve x with ⟨r, x₁⟩
  rw [hu] at hres
  simp only [Prod.mk.injEq] at hres
  obtain ⟨rfl, rfl, rfl⟩ := hres
  have hx : Lowered x x₁ := by simpa [hu] using UniqueListenerConflictResolver.resolve_lowered st.unique x
  exact ⟨h.ports.weaken ((Weakens.refl ls).snoc hx), UniqueListenerConflictResolver.resolve_inv h.unique hu⟩

/-- What a resolver does to the listeners: it lowers some, and with a
ListenerSet listener every earlier one keeps its validity. -/
theorem ConflictResolver.run_spec (c : ConflictResolver) (hres : c.run st ls x = (st', ls', x')) :
    Weakens ls ls' ∧ Lowered x x' ∧ (x.fromGateway = false → ls'.map (·.valid) = ls.map (·.valid)) := by
  unfold ConflictResolver.run at hres
  cases c with
  | portConflict =>
    rcases hp : st.ports.resolve ls x with ⟨r, ls₁, x₁⟩
    rw [hp] at hres
    simp only [Prod.mk.injEq] at hres
    obtain ⟨rfl, rfl, rfl⟩ := hres
    obtain ⟨hw, hx, hset⟩ := PortConflictResolver.resolve_spec hp
    exact ⟨hw, hx, fun hg => by rw [hset hg]⟩
  | overlappingTLSConfig =>
    rcases ht : st.overlappingTLS.resolve ls x with ⟨r, ls₁, x₁⟩
    rw [ht] at hres
    simp only [Prod.mk.injEq] at hres
    obtain ⟨rfl, rfl, rfl⟩ := hres
    obtain ⟨hw, hvalid, hx⟩ := OverlappingTLSConfigResolver.resolve_spec ht
    exact ⟨hw, hx, fun _ => hvalid⟩
  | uniqueListener =>
    rcases hu : st.unique.resolve x with ⟨r, x₁⟩
    rw [hu] at hres
    simp only [Prod.mk.injEq] at hres
    obtain ⟨rfl, rfl, rfl⟩ := hres
    exact ⟨Weakens.refl _, by simpa [hu] using UniqueListenerConflictResolver.resolve_lowered st.unique x,
      fun _ => rfl⟩

theorem runConflictResolvers_cons (r : ConflictResolver) (rs : List ConflictResolver) :
    runConflictResolvers (r :: rs) st ls x =
      runConflictResolvers rs (r.run st ls x).1 (r.run st ls x).2.1 (r.run st ls x).2.2 :=
  rfl

theorem runConflictResolvers_spec :
    ∀ (rs : List ConflictResolver) {st st' : ResolverState} {ls ls' : List ConfiguredListener}
      {x x' : ConfiguredListener}, runConflictResolvers rs st ls x = (st', ls', x') →
      Weakens ls ls' ∧ Lowered x x' ∧ (x.fromGateway = false → ls'.map (·.valid) = ls.map (·.valid))
  | [], _, _, _, _, _, _, hres => by
    simp only [runConflictResolvers, List.foldl_nil, Prod.mk.injEq] at hres
    obtain ⟨rfl, rfl, rfl⟩ := hres
    exact ⟨Weakens.refl _, Lowered.refl _, fun _ => rfl⟩
  | r :: rs, st, _, ls, _, x, _, hres => by
    rw [runConflictResolvers_cons] at hres
    rcases h₁ : r.run st ls x with ⟨st₁, ls₁, x₁⟩
    rw [h₁] at hres
    obtain ⟨hw₁, hx₁, hset₁⟩ := r.run_spec h₁
    obtain ⟨hw₂, hx₂, hset₂⟩ := runConflictResolvers_spec rs hres
    have hfrom : x₁.fromGateway = x.fromGateway := by simp [ConfiguredListener.fromGateway, hx₁.listenerSetName_eq]
    exact ⟨hw₁.trans hw₂, hx₁.trans hx₂, fun hg => (hset₂ (hfrom ▸ hg)).trans (hset₁ hg)⟩

/-- The resolvers a configurator of a supported protocol runs keep the
invariants: the port conflict resolver first, the unique listener resolver
last. -/
theorem runConflictResolvers_inv {rs : List ConflictResolver}
    (hrs : rs = [.portConflict, .uniqueListener] ∨ rs = [.portConflict, .overlappingTLSConfig, .uniqueListener])
    (h : st.Inv ls) (hres : runConflictResolvers rs st ls x = (st', ls', x')) : st'.Inv (ls' ++ [x']) := by
  rcases h₁ : ConflictResolver.portConflict.run st ls x with ⟨st₁, ls₁, x₁⟩
  have hmid := run_portConflict_mid h h₁
  rcases hrs with rfl | rfl
  · rw [runConflictResolvers_cons, h₁] at hres
    exact run_uniqueListener_inv hmid hres
  · rw [runConflictResolvers_cons, h₁, runConflictResolvers_cons] at hres
    rcases h₂ : ConflictResolver.overlappingTLSConfig.run st₁ ls₁ x₁ with ⟨st₂, ls₂, x₂⟩
    rw [h₂] at hres
    exact run_uniqueListener_inv (run_overlappingTLSConfig_mid hmid h₂) hres

end Run

/-! ## Configuring a sequence of listeners -/

section Configure

variable {env : ListenerEnv} {gwNsName listenerSetName : NamespacedName}

@[simp]
theorem buildListener_source (validators : List ListenerValidator) (listener : ListenerSource) :
    (buildListener validators env.labelSelectorError listener gwNsName listenerSetName).source = listener := by
  unfold buildListener
  dsimp only

@[simp]
theorem buildListener_listenerSetName (validators : List ListenerValidator) (listener : ListenerSource) :
    (buildListener validators env.labelSelectorError listener gwNsName listenerSetName).listenerSetName =
      listenerSetName := by
  unfold buildListener
  dsimp only

/-- A listener of a protocol NGF does not support is never valid. -/
theorem buildListener_unsupported_invalid (listener : ListenerSource) :
    (buildListener [unsupportedProtocolValidator] env.labelSelectorError listener gwNsName listenerSetName).valid =
      false := by
  unfold buildListener
  dsimp only
  split <;> simp [runValidators, unsupportedProtocolValidator]

/-- A configurator runs the port conflict resolver first and the unique
listener resolver last, or it is the one of unsupported protocols. -/
theorem getConfiguratorForListener_cases (listener : ListenerSource) :
    ((getConfiguratorForListener env listener).conflictResolvers = [.portConflict, .uniqueListener] ∨
        (getConfiguratorForListener env listener).conflictResolvers =
          [.portConflict, .overlappingTLSConfig, .uniqueListener]) ∨
      (getConfiguratorForListener env listener).validators = [unsupportedProtocolValidator] := by
  unfold getConfiguratorForListener
  split <;> simp

/-- Configuring one listener keeps the invariants over the listeners with it
appended. -/
theorem configure_inv {st st' : ResolverState} {ls ls' : List ConfiguredListener} {listener : ListenerSource}
    {x' : ConfiguredListener} (h : st.Inv ls)
    (hres : (getConfiguratorForListener env listener).configure env st ls listener gwNsName listenerSetName =
      (st', ls', x')) : st'.Inv (ls' ++ [x']) := by
  unfold ListenerConfigurator.configure at hres
  dsimp only at hres
  split at hres
  · next hinvalid =>
    simp only [Prod.mk.injEq] at hres
    obtain ⟨rfl, rfl, rfl⟩ := hres
    exact h.snoc_invalid (by simpa using hinvalid)
  · next hvalid =>
    rcases hr : runConflictResolvers (getConfiguratorForListener env listener).conflictResolvers st ls
      (buildListener (getConfiguratorForListener env listener).validators env.labelSelectorError listener gwNsName
        listenerSetName) with ⟨st₁, ls₁, l₁⟩
    rw [hr] at hres
    simp only [Prod.mk.injEq] at hres
    obtain ⟨rfl, rfl, rfl⟩ := hres
    have hinv : st₁.Inv (ls₁ ++ [l₁]) := by
      rcases @getConfiguratorForListener_cases env listener with hrs | hunsupported
      · exact runConflictResolvers_inv hrs h hr
      · rw [hunsupported, buildListener_unsupported_invalid] at hvalid
        simp at hvalid
    split
    · exact hinv.lower (lowered_resolveTLSSecrets _ _)
    · exact hinv

/-- Configuring a ListenerSet listener leaves every listener configured
before it as valid as it was. -/
theorem configure_listenerSet_frame {c : ListenerConfigurator} {st st' : ResolverState}
    {ls ls' : List ConfiguredListener} {listener : ListenerSource} {x' : ConfiguredListener}
    (hset : listenerSetName.name ≠ "")
    (hres : c.configure env st ls listener gwNsName listenerSetName = (st', ls', x')) :
    ls'.map (·.valid) = ls.map (·.valid) := by
  unfold ListenerConfigurator.configure at hres
  dsimp only at hres
  split at hres
  · simp only [Prod.mk.injEq] at hres
    obtain ⟨rfl, rfl, rfl⟩ := hres
    rfl
  · rcases hr : runConflictResolvers c.conflictResolvers st ls
      (buildListener c.validators env.labelSelectorError listener gwNsName listenerSetName) with ⟨st₁, ls₁, l₁⟩
    rw [hr] at hres
    simp only [Prod.mk.injEq] at hres
    obtain ⟨rfl, rfl, rfl⟩ := hres
    exact (runConflictResolvers_spec _ hr).2.2 (by simp [ConfiguredListener.fromGateway, hset])

theorem configureListener_inv {st : ResolverState} {ls : List ConfiguredListener} (h : st.Inv ls)
    (x : ListenerSource × NamespacedName) :
    (configureListener env gwNsName (st, ls) x).1.Inv (configureListener env gwNsName (st, ls) x).2 := by
  unfold configureListener
  rcases hres : (getConfiguratorForListener env x.1).configure env st ls x.1 gwNsName x.2 with ⟨st', ls', x'⟩
  exact configure_inv h hres

/-- The invariants hold after any sequence of listeners, by induction on
the sequence. -/
theorem configureAll_inv (xs : List (ListenerSource × NamespacedName)) :
    (configureAll env gwNsName xs).1.Inv (configureAll env gwNsName xs).2 :=
  List.foldlRecOn (motive := fun (acc : ResolverState × List ConfiguredListener) => acc.1.Inv acc.2) xs _
    ResolverState.Inv.empty fun _ hacc x _ => configureListener_inv hacc x

end Configure

/-! ## Conflict safety -/

/-- After any sequence of listeners has been configured, two valid
listeners of one port are of one protocol group, are not two L4 listeners
of one protocol, are not an HTTPS and a TLS listener with overlapping
hostnames, and differ in protocol or hostname. -/
theorem configureAll_valid_pair (env : ListenerEnv) (gwNsName : NamespacedName)
    (xs : List (ListenerSource × NamespacedName)) {i j : Nat} {li lj : ConfiguredListener}
    (hi : (configureAll env gwNsName xs).2[i]? = some li) (hj : (configureAll env gwNsName xs).2[j]? = some lj)
    (hij : i ≠ j) (hvi : li.valid = true) (hvj : lj.valid = true) (hport : li.source.port = lj.source.port) :
    protocolGroup li.source.protocol = protocolGroup lj.source.protocol ∧
      ¬ (isL4Protocol li.source.protocol = true ∧ li.source.protocol = lj.source.protocol) ∧
      ¬ (li.source.protocol = .supported .https ∧ lj.source.protocol = .supported .tls ∧
          haveOverlap li.source.hostname lj.source.hostname = true) ∧
      ¬ (li.source.protocol = lj.source.protocol ∧ li.source.hostname.getD "" = lj.source.hostname.getD "") := by
  have hinv := @configureAll_inv env gwNsName xs
  have hsi := validSource_eq_some.2 ⟨li, hi, hvi, rfl⟩
  have hsj := validSource_eq_some.2 ⟨lj, hj, hvj, rfl⟩
  have hgi := (hinv.ports.tracked hsi).1
  have hgj := (hinv.ports.tracked hsj).1
  obtain ⟨hl4, hhost⟩ := hinv.ports.compatible hsi hsj hij hport
  have hkey := hinv.unique.distinct hsi hsj hij
  refine ⟨?_, ?_, ?_, ?_⟩
  · rw [hport, hgj] at hgi
    exact (Option.some.inj hgi).symm
  · rintro ⟨h4, heq⟩
    rw [sameGroupL4Conflict, h4, heq] at hl4
    simp at hl4
  · rintro ⟨hs, ht, ho⟩
    simp [sameGroupHostnameConflict, hs, ht, ho, isL4Protocol] at hhost
  · rintro ⟨hp, hh⟩
    exact hkey (by simp [ListenerSource.key, hp, hh, hport])

/-- A ListenerSet listener rejected on a port of another protocol group is
still among the listeners of the port, and its missing hostname overlaps
every later listener's: an HTTP ListenerSet listener for `x` is rejected
after it, though no valid listener conflicts with it. -/
example : ((configureAll { validators := fun _ => [] } { ns := "default", name := "gateway" }
    [({ name := "http", port := 80, protocol := .supported .http }, { ns := "", name := "" }),
     ({ name := "https", port := 80, protocol := .supported .https }, { ns := "default", name := "set" }),
     ({ name := "x", hostname := some "x", port := 80, protocol := .supported .http },
      { ns := "default", name := "set" })]).2.map (·.valid)) = [true, false, false] := by
  decide +kernel

/-- Configuring a ListenerSet listener leaves every listener configured
before it as valid as it was. -/
theorem configureListener_listenerSet_frame (env : ListenerEnv) (gwNsName : NamespacedName) (st : ResolverState)
    (ls : List ConfiguredListener) (x : ListenerSource × NamespacedName) (hx : x.2.name ≠ "") :
    ((configureListener env gwNsName (st, ls) x).2.map (·.valid)).take ls.length = ls.map (·.valid) := by
  unfold configureListener
  rcases hres : (getConfiguratorForListener env x.1).configure env st ls x.1 gwNsName x.2 with ⟨st', ls', x'⟩
  have hframe := configure_listenerSet_frame hx hres
  have hlen : (ls'.map (·.valid)).length = ls.length := by rw [hframe, List.length_map]
  simp only [List.map_append]
  rw [List.take_left' hlen, hframe]

/-- Listener conflict safety, over every sequence of listeners fed to one
factory, and the frame of a ListenerSet listener. -/
theorem listener_conflicts_resolved (env : ListenerEnv) (gwNsName : NamespacedName) :
    (∀ (xs : List (ListenerSource × NamespacedName)) (i j : Nat) (li lj : ConfiguredListener),
      (configureAll env gwNsName xs).2[i]? = some li → (configureAll env gwNsName xs).2[j]? = some lj → i ≠ j →
      li.valid = true → lj.valid = true → li.source.port = lj.source.port →
      protocolGroup li.source.protocol = protocolGroup lj.source.protocol ∧
        ¬ (isL4Protocol li.source.protocol = true ∧ li.source.protocol = lj.source.protocol) ∧
        ¬ (li.source.protocol = .supported .https ∧ lj.source.protocol = .supported .tls ∧
            haveOverlap li.source.hostname lj.source.hostname = true) ∧
        ¬ (li.source.protocol = lj.source.protocol ∧ li.source.hostname.getD "" = lj.source.hostname.getD "")) ∧
    (∀ (st : ResolverState) (ls : List ConfiguredListener) (x : ListenerSource × NamespacedName), x.2.name ≠ "" →
      ((configureListener env gwNsName (st, ls) x).2.map (·.valid)).take ls.length = ls.map (·.valid)) :=
  ⟨fun xs _ _ _ _ hi hj hij hvi hvj hport => configureAll_valid_pair env gwNsName xs hi hj hij hvi hvj hport,
    fun st ls x hx => configureListener_listenerSet_frame env gwNsName st ls x hx⟩

def conflictGatewayName : NamespacedName := { ns := "default", name := "gateway" }

/-- Two HTTP listeners of the Gateway on port 80, and an HTTPS listener of
the ListenerSet `default/set` on the same port. -/
def conflictListeners : List (ListenerSource × NamespacedName) :=
  [({ name := "a", hostname := some "a.example.com", port := 80, protocol := .supported .http }, { ns := "", name := "" }),
   ({ name := "b", hostname := some "b.example.com", port := 80, protocol := .supported .http }, { ns := "", name := "" })]

def conflictSetListener : ListenerSource × NamespacedName :=
  ({ name := "c", port := 80, protocol := .supported .https }, { ns := "default", name := "set" })

def configuredListenerOf (x : ListenerSource × NamespacedName) : ConfiguredListener :=
  { name := x.1.name, gatewayName := conflictGatewayName, source := x.1, conditions := [], valid := true,
    attachable := true, listenerSetName := x.2 }

theorem gateway_listeners_share_port_with_listenerSet :
    (protocolGroup (configuredListenerOf (conflictListeners.getD 0 conflictSetListener)).source.protocol =
        protocolGroup (configuredListenerOf (conflictListeners.getD 1 conflictSetListener)).source.protocol ∧
      ¬ (isL4Protocol (configuredListenerOf (conflictListeners.getD 0 conflictSetListener)).source.protocol = true ∧
          (configuredListenerOf (conflictListeners.getD 0 conflictSetListener)).source.protocol =
            (configuredListenerOf (conflictListeners.getD 1 conflictSetListener)).source.protocol) ∧
      ¬ ((configuredListenerOf (conflictListeners.getD 0 conflictSetListener)).source.protocol = .supported .https ∧
          (configuredListenerOf (conflictListeners.getD 1 conflictSetListener)).source.protocol = .supported .tls ∧
          haveOverlap (configuredListenerOf (conflictListeners.getD 0 conflictSetListener)).source.hostname
            (configuredListenerOf (conflictListeners.getD 1 conflictSetListener)).source.hostname = true) ∧
      ¬ ((configuredListenerOf (conflictListeners.getD 0 conflictSetListener)).source.protocol =
            (configuredListenerOf (conflictListeners.getD 1 conflictSetListener)).source.protocol ∧
          (configuredListenerOf (conflictListeners.getD 0 conflictSetListener)).source.hostname.getD "" =
            (configuredListenerOf (conflictListeners.getD 1 conflictSetListener)).source.hostname.getD "")) ∧
    ((configureListener { validators := fun _ => [] } conflictGatewayName
        (configureAll { validators := fun _ => [] } conflictGatewayName conflictListeners) conflictSetListener).2.map
          (·.valid)).take (configureAll { validators := fun _ => [] } conflictGatewayName conflictListeners).2.length =
      (configureAll { validators := fun _ => [] } conflictGatewayName conflictListeners).2.map (·.valid) :=
  ⟨(listener_conflicts_resolved { validators := fun _ => [] } conflictGatewayName).1 conflictListeners 0 1
      (configuredListenerOf (conflictListeners.getD 0 conflictSetListener))
      (configuredListenerOf (conflictListeners.getD 1 conflictSetListener))
      (by decide +kernel) (by decide +kernel) (by decide) rfl rfl rfl,
    (listener_conflicts_resolved { validators := fun _ => [] } conflictGatewayName).2 _ _ conflictSetListener
      (by decide)⟩

end GatewayFabric.Graph
