/-
The hostnames of the servers `hostPathRules.buildServers` returns for one
port. A server built from the routes is named by its key of
`rulesPerHost`, and every step of `upsertRoute` keeps those keys distinct,
so the servers of the routes have distinct names
(`portHostPathRules_server_names_nodup_iff`). The 404 servers of the HTTPS
listeners are added beside them with no check against the keys: a listener
without a hostname and a route without hostnames give both kinds of server
the name `~^`.
-/
import GatewayFabric.Dataplane.Servers

namespace GatewayFabric.Dataplane

open GatewayFabric.Graph

/-! ## The keys of `rulesPerHost` -/

theorem any_fst_eq_iff {β : Type} {m : List (String × β)} {k : String} :
    m.any (·.1 = k) = true ↔ k ∈ m.map (·.1) := by
  simp

theorem assocSet_keys {β : Type} (m : List (String × β)) (k : String) (v : β) :
    (assocSet m k v).map (·.1) = if k ∈ m.map (·.1) then m.map (·.1) else m.map (·.1) ++ [k] := by
  unfold assocSet
  by_cases hk : k ∈ m.map (·.1)
  · simp only [any_fst_eq_iff.2 hk, if_true, hk, List.map_map]
    refine List.map_congr_left fun e _ => ?_
    by_cases he : e.1 = k <;> simp [he]
  · have hany : m.any (·.1 = k) = false := Bool.eq_false_iff.2 fun h => hk (any_fst_eq_iff.1 h)
    simp [hany, hk]

theorem assocSet_keys_nodup {β : Type} {m : List (String × β)} (h : (m.map (·.1)).Nodup) (k : String) (v : β) :
    ((assocSet m k v).map (·.1)).Nodup := by
  rw [assocSet_keys]
  split
  · exact h
  · next hk => simpa using h.concat hk

/-- The invariant of `hostPathRules`: one entry of `rulesPerHost` per hostname. -/
def HostPathRules.KeysNodup (hpr : HostPathRules) : Prop := (hpr.rulesPerHost.map (·.1)).Nodup

theorem HostPathRules.KeysNodup.setRule {hpr : HostPathRules} (h : hpr.KeysNodup) (host : String)
    (key : String × PathType) (rule : PathRule) : (hpr.setRule host key rule).KeysNodup :=
  assocSet_keys_nodup h host _

theorem HostPathRules.addHostname_rulesPerHost (hpr : HostPathRules) (l : Listener) (host : String) :
    (hpr.addHostname l host).rulesPerHost =
      if hpr.rulesPerHost.any (·.1 = host) then hpr.rulesPerHost else hpr.rulesPerHost ++ [(host, [])] :=
  rfl

theorem HostPathRules.KeysNodup.addHostname {hpr : HostPathRules} (h : hpr.KeysNodup) (l : Listener) (host : String) :
    (hpr.addHostname l host).KeysNodup := by
  rw [HostPathRules.KeysNodup, HostPathRules.addHostname_rulesPerHost]
  split
  · exact h
  · next hany =>
    have hk : host ∉ hpr.rulesPerHost.map (·.1) := fun hk => hany (any_fst_eq_iff.2 hk)
    simpa using h.concat hk

theorem HostPathRules.KeysNodup.addMatch {hpr : HostPathRules} (h : hpr.KeysNodup) (route : L7Route) (l : Listener)
    (externalHostname : NamespacedName → String) (idx : Nat) (rule : RouteRule) (filters : HTTPFilters) (host : String)
    (m : RouteMatch) : (hpr.addMatch route l externalHostname idx rule filters host m).KeysNodup :=
  h.setRule host _ _

/-- `upsertRoute` keeps one entry per hostname: each of its loops only adds
hostnames through `addHostname` and rules through `setRule`. -/
theorem HostPathRules.KeysNodup.upsertRoute {hpr : HostPathRules} (h : hpr.KeysNodup)
    (externalHostname : NamespacedName → String) (route : L7Route) (l : Listener) :
    (hpr.upsertRoute externalHostname route l).KeysNodup := by
  unfold HostPathRules.upsertRoute
  have hhosts := List.foldlRecOn (motive := HostPathRules.KeysNodup) ((acceptedHostnamesOn route.parentRefs l).getD [])
    (HostPathRules.addHostname l) h fun hpr hk host _ => hk.addHostname l host
  refine List.foldlRecOn _ _ hhosts fun hpr hk p _ => ?_
  obtain ⟨rule, idx⟩ := p
  dsimp only
  split
  · exact hk
  · refine List.foldlRecOn _ _ hk fun hpr hk host _ => ?_
    exact List.foldlRecOn _ _ hk fun hpr hk m _ => hk.addMatch route l externalHostname idx rule _ host m

theorem HostPathRules.KeysNodup.upsertListener {hpr : HostPathRules} (h : hpr.KeysNodup)
    (externalHostname : NamespacedName → String) (routes : List L7Route) (l : Listener) :
    (hpr.upsertListener externalHostname routes l).KeysNodup := by
  unfold HostPathRules.upsertListener
  exact List.foldlRecOn _ _ h fun hpr hk r _ => hk.upsertRoute externalHostname r l

/-! ## The names of the servers of one port -/

/-- The hostnames of the 404 servers `buildServers` adds for the HTTPS
listeners: those with no route or without a hostname. -/
def HostPathRules.sslDefaultHostnames (routes : List L7Route) (hpr : HostPathRules) : List String :=
  hpr.httpsListeners.filterMap fun l =>
    let hostname := getListenerHostname l.hostname
    if listenerRoutes routes l = [] ∨ hostname = wildcardHostname then some hostname else none

/-- The non-default servers of a port are named by the hostnames of its
rules and by those of its 404 servers, each once. -/
theorem HostPathRules.buildServers_hostnames_perm (routes : List L7Route) (hpr : HostPathRules) :
    (((hpr.buildServers routes).filter (!·.isDefault)).map (·.hostname)).Perm
      (hpr.rulesPerHost.map (·.1) ++ hpr.sslDefaultHostnames routes) := by
  unfold HostPathRules.buildServers
  refine (((perm_sortStable _ _).filter _).map _).trans (List.Perm.of_eq ?_)
  have hdefault : ∀ b : Bool, ((if b then [{ isDefault := true, hostname := "", port := hpr.port, pathRules := [] }]
      else []) : List VirtualServer).filter (!·.isDefault) = [] := by
    intro b
    cases b <;> rfl
  rw [List.filter_append, List.filter_append, hdefault, List.append_nil, List.map_append]
  congr 1
  · simp [List.filter_map, Function.comp_def, HostPathRules.serverFor]
  · simp only [HostPathRules.sslDefaultHostnames, List.filter_filterMap, List.map_filterMap]
    congr 1
    funext l
    split <;> simp

/-- Given one rule entry per hostname, the non-default servers of a port
have distinct names exactly when no 404 server takes the name of another
server. -/
theorem HostPathRules.buildServers_hostnames_nodup_iff {hpr : HostPathRules} (h : hpr.KeysNodup)
    (routes : List L7Route) :
    (((hpr.buildServers routes).filter (!·.isDefault)).map (·.hostname)).Nodup ↔
      (hpr.sslDefaultHostnames routes).Nodup ∧
        ∀ n ∈ hpr.sslDefaultHostnames routes, n ∉ hpr.rulesPerHost.map (·.1) := by
  rw [(hpr.buildServers_hostnames_perm routes).nodup_iff, List.nodup_append]
  constructor
  · rintro ⟨-, hssl, hdisj⟩
    exact ⟨hssl, fun n hn hk => hdisj n hk n hn rfl⟩
  · rintro ⟨hssl, hdisj⟩
    exact ⟨h, hssl, fun a ha b hb hab => hdisj b hb (hab ▸ ha)⟩

theorem mem_of_lookup_eq_some {α β : Type} [BEq α] [LawfulBEq α] {l : List (α × β)} {k : α} {b : β}
    (h : l.lookup k = some b) : (k, b) ∈ l := by
  obtain ⟨l₁, l₂, rfl, _⟩ := List.lookup_eq_some_iff.1 h
  simp

/-- The rules of each port that `buildServersForProtocol` builds the
servers of. -/
def portHostPathRules (externalHostname : NamespacedName → String) (gw : Gateway) (routes : List L7Route)
    (protocol : ProtocolType) : List (Int32 × HostPathRules) :=
  (gw.listeners.filter fun l => l.valid && l.protocol = protocol).foldl
    (fun (acc : List (Int32 × HostPathRules)) l =>
      let hpr := ((acc.lookup l.port).getD {}).upsertListener externalHostname routes l
      if acc.any (·.1 = l.port) then acc.map (fun e => if e.1 = l.port then (l.port, hpr) else e)
      else acc ++ [(l.port, hpr)]) []

theorem buildServersForProtocol_eq (externalHostname : NamespacedName → String) (gw : Gateway)
    (routes : List L7Route) (protocol : ProtocolType) :
    buildServersForProtocol externalHostname gw routes protocol =
      (portHostPathRules externalHostname gw routes protocol).flatMap fun (_, hpr) => hpr.buildServers routes :=
  rfl

/-- Every port keeps one entry of its rules per hostname. -/
theorem portHostPathRules_keysNodup (externalHostname : NamespacedName → String) (gw : Gateway)
    (routes : List L7Route) (protocol : ProtocolType) :
    ∀ hpr ∈ (portHostPathRules externalHostname gw routes protocol).map (·.2), hpr.KeysNodup := by
  unfold portHostPathRules
  refine List.foldlRecOn _ _ (motive := fun (acc : List (Int32 × HostPathRules)) => ∀ hpr ∈ acc.map (·.2), hpr.KeysNodup)
    ?_ fun acc hacc l _ => ?_
  · simp
  have hnew : (((acc.lookup l.port).getD {}).upsertListener externalHostname routes l).KeysNodup := by
    apply HostPathRules.KeysNodup.upsertListener
    cases hlk : acc.lookup l.port with
    | none => exact List.nodup_nil
    | some hpr =>
      exact hacc hpr (List.mem_map.2 ⟨(l.port, hpr), mem_of_lookup_eq_some hlk, rfl⟩)
  intro hpr hmem
  split at hmem
  · simp only [List.map_map, List.mem_map] at hmem
    obtain ⟨e, he, rfl⟩ := hmem
    by_cases hp : e.1 = l.port
    · simpa [hp] using hnew
    · simpa [hp] using hacc e.2 (List.mem_map_of_mem he)
  · simp only [List.map_append, List.map_cons, List.map_nil, List.mem_append, List.mem_singleton] at hmem
    rcases hmem with hmem | rfl
    · exact hacc hpr hmem
    · exact hnew

/-- On every port `buildServersForProtocol` builds, the non-default servers
have distinct names exactly when its 404 servers have distinct names and
none takes the name of a server built from the routes. -/
theorem portHostPathRules_server_names_nodup_iff (externalHostname : NamespacedName → String) (gw : Gateway)
    (routes : List L7Route) (protocol : ProtocolType) :
    ∀ pe ∈ portHostPathRules externalHostname gw routes protocol,
      (((pe.2.buildServers routes).filter (!·.isDefault)).map (·.hostname)).Nodup ↔
        (pe.2.sslDefaultHostnames routes).Nodup ∧
          ∀ n ∈ pe.2.sslDefaultHostnames routes, n ∉ pe.2.rulesPerHost.map (·.1) := by
  intro pe hpe
  have hkeys := portHostPathRules_keysNodup externalHostname gw routes protocol pe.2 (List.mem_map_of_mem hpe)
  exact HostPathRules.buildServers_hostnames_nodup_iff hkeys routes

/-! ## The 404 server of a listener without a hostname -/

def wildcardGatewayName : NamespacedName := { ns := "default", name := "gateway" }

/-- A Gateway with one HTTPS listener on 443 and no hostname. -/
def wildcardGateway : Gateway :=
  { nsName := wildcardGatewayName
    listeners := [{ name := "https", gatewayName := wildcardGatewayName, port := 443, protocol := .https
                    allowedFrom := some .all, supportedKinds := [.httpRoute, .grpcRoute], tlsTerminate := true
                    resolvedSecrets := [{ ns := "default", name := "cert" }] }] }

/-- An HTTPRoute without hostnames on the listener. -/
def wildcardRoute : L7Route :=
  { source := { creationTimestamp := 1, ns := "default", name := "route" }
    rules := [{ «matches» := [{ path := "/", pathType := .pathPrefix }] }]
    parentRefs := [{ nsName := wildcardGatewayName, sectionName := some "https" }] }

def wildcardRoutes : List L7Route :=
  (bindRoutesToListeners (fun _ _ => false) wildcardGateway [wildcardRoute] []).1

def wildcardServers : List VirtualServer :=
  buildServersForProtocol (fun _ => "") wildcardGateway wildcardRoutes .https

/-- The route attaches and is accepted for `~^`, the name of the route's
server; the listener has no hostname, so its 404 server is named `~^` too. -/
theorem wildcard_listener_duplicates_server_name :
    wildcardRoutes.map (fun r => r.parentRefs.map fun p => p.attachment.any (·.attached)) = [[true]] ∧
      wildcardGateway.listeners.map (fun l => wildcardRoutes.map fun r => acceptedHostnamesOn r.parentRefs l) =
        [[some ["~^"]]] ∧
      (wildcardServers.filter (!·.isDefault)).map (fun s => (s.hostname, s.port, s.pathRules.length)) =
        [("~^", 443, 1), ("~^", 443, 0)] := by
  refine ⟨?_, ?_, ?_⟩ <;> decide +kernel

end GatewayFabric.Dataplane
