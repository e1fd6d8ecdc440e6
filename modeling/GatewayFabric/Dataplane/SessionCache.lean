/-
The shared SSL session cache of a listener (`buildSSLSessionCache`): a size
the user gives becomes `shared:<zone>:<size>`, the zone named after the
listener by `generateSSLSessionCacheZoneName`.

The zone name is the Gateway's namespace and name, the ListenerSet's when the
listener comes from one, and the listener's name, each with every character
but an ASCII letter or digit made '_', joined with '_'. Names of letters and
digits only are given back by the zone name (`zoneName_eq_zoneName_iff`); a
'-' or a '.' in a valid name becomes the separator, and two listeners of one
Gateway, "a-b" and "a.b", or "a-b-c" and the listener "c" of the ListenerSet
"a/b", share a zone.
-/
import GatewayFabric.Lib.Joins
import GatewayFabric.Graph.Routes
import GatewayFabric.Graph.Hostnames

namespace GatewayFabric.Dataplane

open GatewayFabric.Graph

/-- `graph.SSLSessionCacheKey`. -/
def sslSessionCacheKey : String := "nginx.org/ssl-session-cache"

/-- The characters `sanitize` keeps: ASCII letters and digits. -/
def isAlnum (r : Char) : Bool := ('a' ≤ r && r ≤ 'z') || ('A' ≤ r && r ≤ 'Z') || ('0' ≤ r && r ≤ '9')

/-- `sanitize` of `generateSSLSessionCacheZoneName`. -/
def sanitize (s : String) : String := s.map fun r => if isAlnum r then r else '_'

/-- `generateSSLSessionCacheZoneName`. -/
def generateSSLSessionCacheZoneName (listener : Listener) : String :=
  let parts := ["ssl", sanitize listener.gatewayName.ns, sanitize listener.gatewayName.name]
  let parts :=
    if listener.listenerSetName.name ≠ "" then
      parts ++ [sanitize listener.listenerSetName.ns, sanitize listener.listenerSetName.name]
    else parts
  "_".intercalate (parts ++ [sanitize listener.name])

/-- `buildSSLSessionCache`: "off" and "none" pass through, any other value is
the size of a shared cache. -/
def buildSSLSessionCache (listener : Listener) (value : String) : String :=
  if value = "off" ∨ value = "none" then value
  else "shared:" ++ generateSSLSessionCacheZoneName listener ++ ":" ++ value

/-- The session cache `buildSSL` sets from the listener's TLS options. -/
def sslSessionCache (listener : Listener) (options : List (String × String)) : Option String :=
  (options.lookup sslSessionCacheKey).map (buildSSLSessionCache listener)

/-! ## What a zone name gives back -/

/-- The names a zone name is made of: the Gateway's, the ListenerSet's when
the listener comes from one, and the listener's. -/
def zoneIdentity (listener : Listener) : List String :=
  [listener.gatewayName.ns, listener.gatewayName.name] ++
    (if listener.listenerSetName.name ≠ "" then [listener.listenerSetName.ns, listener.listenerSetName.name]
     else []) ++ [listener.name]

/-- Every name of the listener's zone is made of letters and digits. -/
def AlnumIdentity (listener : Listener) : Prop := ∀ p ∈ zoneIdentity listener, ∀ c ∈ p.toList, isAlnum c = true

theorem sanitize_of_alnum {s : String} (h : ∀ c ∈ s.toList, isAlnum c = true) : sanitize s = s := by
  rw [← String.toList_inj, sanitize, String.toList_map]
  conv => rhs; rw [← List.map_id s.toList]
  exact List.map_congr_left fun c hc => by simp [h c hc]

theorem generateSSLSessionCacheZoneName_eq (listener : Listener) :
    generateSSLSessionCacheZoneName listener = "_".intercalate (("ssl" :: zoneIdentity listener).map sanitize) := by
  have hssl : sanitize "ssl" = "ssl" := sanitize_of_alnum (by simp [isAlnum])
  unfold generateSSLSessionCacheZoneName zoneIdentity
  split <;> simp [hssl]

theorem underscore_notMem_of_alnum {s : String} (h : ∀ c ∈ s.toList, isAlnum c = true) : '_' ∉ s.toList :=
  fun hc => absurd (h '_' hc) (by decide)

theorem toList_generateSSLSessionCacheZoneName {listener : Listener} (h : AlnumIdentity listener) :
    (generateSSLSessionCacheZoneName listener).toList =
      ['_'].intercalate (("ssl" :: zoneIdentity listener).map String.toList) := by
  have hsan : ("ssl" :: zoneIdentity listener).map sanitize = "ssl" :: zoneIdentity listener := by
    have hssl : sanitize "ssl" = "ssl" := sanitize_of_alnum (by simp [isAlnum])
    rw [List.map_cons, hssl, List.map_congr_left fun p hp => sanitize_of_alnum (h p hp)]
    simp
  rw [generateSSLSessionCacheZoneName_eq, hsan, String.toList_intercalate]
  rfl

/-- Zone names of letters and digits are equal exactly when the names they
are made of are. -/
theorem zoneName_eq_zoneName_iff {listener listener' : Listener} (h : AlnumIdentity listener)
    (h' : AlnumIdentity listener') :
    generateSSLSessionCacheZoneName listener = generateSSLSessionCacheZoneName listener' ↔
      zoneIdentity listener = zoneIdentity listener' := by
  have hfree (l : Listener) (hl : AlnumIdentity l) : ∀ p ∈ ("ssl" :: zoneIdentity l).map String.toList, '_' ∉ p := by
    simp only [List.map_cons, List.mem_cons, List.mem_map]
    rintro p (rfl | ⟨q, hq, rfl⟩)
    · decide
    · exact underscore_notMem_of_alnum (hl q hq)
  rw [← String.toList_inj, toList_generateSSLSessionCacheZoneName h, toList_generateSSLSessionCacheZoneName h',
    Joins.intercalate_inj (hfree listener h) (hfree listener' h') (by simp) (by simp), List.map_cons,
    List.map_cons, List.cons.injEq, List.map_inj_right fun _ _ => String.toList_inj.1]
  simp

/-- Two HTTPS listeners of the Gateway default/gw. -/
def sessionCacheListener (name : String) (listenerSetName : NamespacedName) : Listener :=
  { name, gatewayName := { ns := "default", name := "gw" }, hostname := some (name ++ ".example.com"), port := 443,
    protocol := .https, supportedKinds := [.httpRoute], tlsTerminate := true, listenerSetName }

/-- The listeners "ab" and "abc" of the Gateway, named with letters only:
their zones are told apart exactly as their names are. -/
theorem alnum_listeners_zone_names_iff :
    generateSSLSessionCacheZoneName (sessionCacheListener "ab" { ns := "", name := "" }) =
        generateSSLSessionCacheZoneName (sessionCacheListener "abc" { ns := "", name := "" }) ↔
      zoneIdentity (sessionCacheListener "ab" { ns := "", name := "" }) =
        zoneIdentity (sessionCacheListener "abc" { ns := "", name := "" }) := by
  have h : AlnumIdentity (sessionCacheListener "ab" { ns := "", name := "" }) := by
    simp [AlnumIdentity, zoneIdentity, sessionCacheListener, isAlnum]
  have h' : AlnumIdentity (sessionCacheListener "abc" { ns := "", name := "" }) := by
    simp [AlnumIdentity, zoneIdentity, sessionCacheListener, isAlnum]
  exact zoneName_eq_zoneName_iff h h'

theorem ssl_session_cache_zones_collide :
    isDNS1123Label "a-b".toList ∧ matchesDNS1123SubdomainFmt "a.b".toList ∧ isDNS1123Label "a-b-c".toList ∧
      isDNS1123Label "c".toList ∧ isDNS1123Label "a".toList ∧ isDNS1123Label "b".toList ∧
      sslSessionCache (sessionCacheListener "a-b" { ns := "", name := "" }) [(sslSessionCacheKey, "10m")] =
        some "shared:ssl_default_gw_a_b:10m" ∧
      sslSessionCache (sessionCacheListener "a.b" { ns := "", name := "" }) [(sslSessionCacheKey, "20m")] =
        some "shared:ssl_default_gw_a_b:20m" ∧
      generateSSLSessionCacheZoneName (sessionCacheListener "a-b-c" { ns := "", name := "" }) =
        generateSSLSessionCacheZoneName (sessionCacheListener "c" { ns := "a", name := "b" }) := by
  decide +kernel

end GatewayFabric.Dataplane
