/-
The `map` blocks of the generated configuration (`nginx/config/maps.go`,
`maps_template.go`): how a `shared.Map` is written by `mapsTemplateText`,
the per-port maps of listener IDs that detect misdirected HTTPS requests
(`buildMisdirectedRequestMaps`), and the stream maps that send a TLS
connection to a socket by its SNI (`createStreamMaps`).

A written map is read back by NGINX's lexer as the statements `mapStmts`
says when its words are plain (`tokenize_mapsText`), and those statements
are then read by `map` as its parameters, one after another
(`readMaps_mapStmts`). The keys are written unquoted: a key is a map
keyword of NGINX as soon as it is spelled like one.

Go maps are association lists here, with distinct keys; where the source
ranges over a Go map to build its result, the result is built in the
order the keys were first added.
-/
import GatewayFabric.Nginx.Map
import GatewayFabric.Nginx.LexerRuns
import GatewayFabric.Config.Locations

namespace GatewayFabric.Config

open Dataplane Nginx

namespace Shared

/-- `shared.MapParameter`. -/
structure MapParameter where
  value : String
  result : String
  deriving Repr, DecidableEq

/-- `shared.Map`. -/
structure Map where
  source : String
  «variable» : String
  parameters : List MapParameter
  useHostnames : Bool := false
  deriving Repr, DecidableEq

end Shared

/-! ## The template -/

/-- `map <source> <variable> {`, after the template's line break. -/
def mapHeadText (m : Shared.Map) : List Char :=
  "\nmap ".toList ++ m.source.toList ++ " ".toList ++ m.«variable».toList ++ " \x7b".toList

/-- One parameter line, between the blanks the template leaves. -/
def mapParameterText (p : Shared.MapParameter) : List Char :=
  "\n\t".toList ++ p.value.toList ++ " ".toList ++ p.result.toList ++ ";\n\t".toList

/-- One map of `mapsTemplateText`. -/
def mapText (m : Shared.Map) : List Char :=
  mapHeadText m ++ (if m.useHostnames then "\n\thostnames;\n\t".toList else []) ++ "\n\t".toList ++
    m.parameters.flatMap mapParameterText ++ "\n\x7d".toList

/-- `mapsTemplateText` over a list of maps. -/
def mapsText (maps : List Shared.Map) : List Char :=
  "\n".toList ++ maps.flatMap mapText ++ "\n".toList

/-- The statements a written map is meant to be read as. -/
def mapStmts (m : Shared.Map) : List Stmt :=
  .blockStart ["map", m.source, m.«variable»] ::
    ((if m.useHostnames then [.directive ["hostnames"]] else []) ++
      m.parameters.map (fun p => .directive [p.value, p.result]) ++ [.blockEnd])

/-- Every word of a map is read back as written. -/
def Shared.Map.plainWords (m : Shared.Map) : Bool :=
  plainWord m.source.toList && plainWord m.«variable».toList &&
    m.parameters.all fun p => plainWord p.value.toList && plainWord p.result.toList

section Readback

open Lexer

variable {stmts : List Stmt}

theorem run_mapHeadText {m : Shared.Map} (hsrc : plainWord m.source.toList) (hvar : plainWord m.«variable».toList) :
    (boundary stmts []).run (mapHeadText m) =
      .ok (boundary (stmts ++ [.blockStart ["map", m.source, m.«variable»]]) []) := by
  have hsplit : mapHeadText m =
      ['\n'] ++ ([' '].intercalate ["map".toList, m.source.toList, m.«variable».toList] ++ [' ']) ++ ['\x7b'] := by
    have e1 : "\nmap ".toList = ['\n'] ++ "map".toList ++ [' '] := by decide +kernel
    have e2 : " \x7b".toList = [' ', '\x7b'] := by decide +kernel
    have e3 : " ".toList = [' '] := by decide +kernel
    unfold mapHeadText
    rw [e1, e2, e3]
    simp only [List.intercalate_cons_cons, List.intercalate_singleton, List.append_assoc, List.cons_append,
      List.nil_append]
  have hwords : (boundary stmts []).run
      (['\n'] ++ ([' '].intercalate ["map".toList, m.source.toList, m.«variable».toList] ++ [' '])) =
      .ok (boundary stmts ["map", m.source, m.«variable»]) := by
    rw [run_append_of_ok (run_boundary_spaces (by decide))]
    simpa using @run_words_space stmts ["map".toList, m.source.toList, m.«variable».toList] []
      (by simp) (by simp [hsrc, hvar]; decide +kernel)
  rw [hsplit, run_append_of_ok hwords, run_cons_of_step (step_boundary_blockStart _ _ (by simp))]
  rfl

/-- One parameter is one directive line between blanks. -/
theorem mapParameterText_eq (p : Shared.MapParameter) : mapParameterText p =
    ['\n', '\t'] ++ ([' '].intercalate [p.value.toList, p.result.toList] ++ [';']) ++ ['\n', '\t'] := by
  have e1 : "\n\t".toList = ['\n', '\t'] := by decide +kernel
  have e2 : ";\n\t".toList = [';'] ++ ['\n', '\t'] := by decide +kernel
  have e3 : " ".toList = [' '] := by decide +kernel
  unfold mapParameterText
  rw [e1, e2, e3]
  simp only [List.intercalate_cons_cons, List.intercalate_singleton, List.append_assoc, List.cons_append,
    List.nil_append]

theorem run_mapParameters :
    ∀ {stmts : List Stmt} {ps : List Shared.MapParameter},
      (ps.all fun p => plainWord p.value.toList && plainWord p.result.toList) →
      (boundary stmts []).run (ps.flatMap mapParameterText) =
        .ok (boundary (stmts ++ ps.map fun p => Stmt.directive [p.value, p.result]) [])
  | _, [], _ => by simp [run]
  | stmts, p :: ps, hps => by
    simp only [List.all_cons, Bool.and_eq_true] at hps
    have hrun := @run_directive_line stmts ['\n', '\t'] ['\n', '\t'] [p.value.toList, p.result.toList]
      (by decide) (by decide) (by simp) (by simp [hps.1.1, hps.1.2])
    rw [List.flatMap_cons, mapParameterText_eq, run_append_of_ok hrun, run_mapParameters hps.2]
    simp

/-- A written map whose words are plain is read back as its statements. -/
theorem run_mapText {m : Shared.Map} (hm : m.plainWords) :
    (boundary stmts []).run (mapText m) = .ok (boundary (stmts ++ mapStmts m) []) := by
  simp only [Shared.Map.plainWords, Bool.and_eq_true] at hm
  obtain ⟨⟨hsrc, hvar⟩, hps⟩ := hm
  have hhead := @run_mapHeadText stmts m hsrc hvar
  have htab : "\n\t".toList = ['\n', '\t'] := by decide +kernel
  have hhost : (boundary stmts []).run
      (mapHeadText m ++ (if m.useHostnames then "\n\thostnames;\n\t".toList else []) ++ "\n\t".toList) =
      .ok (boundary (stmts ++ [Stmt.blockStart ["map", m.source, m.«variable»]] ++
        (if m.useHostnames then [Stmt.directive ["hostnames"]] else [])) []) := by
    cases m.useHostnames with
    | false =>
      simp only [Bool.false_eq_true, if_false, List.append_nil]
      rw [run_append_of_ok hhead, htab, run_boundary_spaces (by decide)]
    | true =>
      have hline : "\n\thostnames;\n\t".toList ++ "\n\t".toList =
          ['\n', '\t'] ++ ([' '].intercalate ["hostnames".toList] ++ [';']) ++ ['\n', '\t', '\n', '\t'] := by
        decide +kernel
      simp only [if_true]
      rw [List.append_assoc, hline, run_append_of_ok hhead,
        run_directive_line (by decide) (by decide) (by simp) (by decide +kernel)]
      rfl
  have hparams := run_append_of_ok hhost (m.parameters.flatMap mapParameterText)
  rw [run_mapParameters hps] at hparams
  rw [mapText, run_append_of_ok hparams, show "\n\x7d".toList = ['\n', '\x7d'] by decide +kernel,
    run_cons_of_step (step_boundary_space _ _ (by decide)), run_cons_of_step (step_boundary_blockEnd _), run]
  simp [mapStmts]

theorem run_mapsText_body : ∀ {stmts : List Stmt} {maps : List Shared.Map}, maps.all Shared.Map.plainWords →
    (boundary stmts []).run (maps.flatMap mapText) = .ok (boundary (stmts ++ maps.flatMap mapStmts) [])
  | _, [], _ => by simp [run]
  | stmts, m :: maps, hm => by
    simp only [List.all_cons, Bool.and_eq_true] at hm
    rw [List.flatMap_cons, run_append_of_ok (run_mapText hm.1), run_mapsText_body hm.2]
    simp

/-- The maps file is read back as the statements of its maps, one map
after another. -/
theorem tokenize_mapsText {maps : List Shared.Map} (hm : maps.all Shared.Map.plainWords) :
    tokenize (mapsText maps) = .ok (maps.flatMap mapStmts) := by
  have hnl : "\n".toList = ['\n'] := by decide +kernel
  have hbody : (boundary [] []).run (['\n'] ++ maps.flatMap mapText) = .ok (boundary (maps.flatMap mapStmts) []) := by
    rw [run_append_of_ok (run_boundary_spaces (by decide)), run_mapsText_body hm]
    simp
  have hrun : ({} : Lexer).run (mapsText maps) = .ok (boundary (maps.flatMap mapStmts) []) := by
    rw [mapsText, hnl, show ({} : Lexer) = boundary [] [] from rfl, run_append_of_ok hbody,
      run_boundary_spaces (by decide)]
  unfold tokenize
  rw [hrun]
  rfl

end Readback

/-- A misdirected-request map of port 443 is read back as written. -/
theorem tokenize_mapsText_sni :
    let maps : List Shared.Map :=
      [{ source := "$ssl_server_name", «variable» := "$sni_listener_id_443", useHostnames := true
         parameters := [{ value := "cafe.example.com", result := "1" }, { value := "default", result := "0" }] }]
    maps.all Shared.Map.plainWords = true ∧ tokenize (mapsText maps) = .ok (maps.flatMap mapStmts) := by
  intro maps
  have hm : maps.all Shared.Map.plainWords = true := by decide +kernel
  exact ⟨hm, tokenize_mapsText hm⟩

/-! ## What `map` reads -/

/-- The parameters of one map, read one after another by NGINX's `map`. -/
def readMapParameters (b : MapBlock) : List Shared.MapParameter → Except MapError MapBlock
  | [] => .ok b
  | p :: ps =>
    match readMapStatement b (.directive [p.value, p.result]) with
    | .ok b' => readMapParameters b' ps
    | .error e => .error e

/-- What `map` reads of one written map. -/
def readMap (m : Shared.Map) : Except MapError MapBlock :=
  readMapParameters { hostnames := m.useHostnames } m.parameters

theorem readMapsFrom_parameters (source var : String) (rest : List Stmt) :
    ∀ (b : MapBlock) (ps : List Shared.MapParameter),
      readMapsFrom (some (source, var, b)) (ps.map (fun p => Stmt.directive [p.value, p.result]) ++ Stmt.blockEnd :: rest) =
        (readMapParameters b ps).bind fun b' => (readMapsFrom none rest).map ((source, var, b') :: ·)
  | b, [] => rfl
  | b, p :: ps => by
    simp only [List.map_cons, List.cons_append, readMapsFrom, readMapParameters]
    cases readMapStatement b (Stmt.directive [p.value, p.result]) with
    | error e => rfl
    | ok b' => exact readMapsFrom_parameters source var rest b' ps

theorem readMapsFrom_mapStmts (m : Shared.Map) (rest : List Stmt) :
    readMapsFrom none (mapStmts m ++ rest) =
      (readMap m).bind fun b => (readMapsFrom none rest).map ((m.source, m.«variable», b) :: ·) := by
  simp only [mapStmts, List.cons_append, readMapsFrom, readMap]
  cases m.useHostnames with
  | false => simpa using readMapsFrom_parameters m.source m.«variable» rest {} m.parameters
  | true =>
    simp only [if_true, List.append_assoc, List.cons_append, readMapsFrom]
    exact readMapsFrom_parameters m.source m.«variable» rest _ m.parameters

/-- The maps file is read as its maps, each read on its own. -/
theorem readMaps_mapStmts : ∀ maps : List Shared.Map,
    readMaps (maps.flatMap mapStmts) = maps.mapM fun m => (readMap m).map fun b => (m.source, m.«variable», b)
  | [] => rfl
  | m :: maps => by
    rw [List.flatMap_cons, readMaps, readMapsFrom_mapStmts, List.mapM_cons]
    cases readMap m with
    | error e => rfl
    | ok b =>
      have ih := readMaps_mapStmts maps
      rw [readMaps] at ih
      simp only [ih, Except.bind, Except.map]
      cases maps.mapM fun m => (readMap m).map fun b => (m.source, m.«variable», b) <;> rfl

/-- Plain keys not read before, pairwise distinct, are stored as they are,
in order. -/
theorem readMapParameters_plain : ∀ {b : MapBlock} {ps : List Shared.MapParameter},
    (∀ p ∈ ps, PlainKey p.value) → (ps.map (·.value)).Nodup → (∀ p ∈ ps, ∀ e ∈ b.entries, e.1 ≠ p.value) →
      readMapParameters b ps = .ok { b with entries := b.entries ++ ps.map fun p => (p.value, p.result) }
  | b, [], _, _, _ => by simp [readMapParameters]
  | b, p :: ps, hplain, hnodup, hfresh => by
    simp only [List.map_cons, List.nodup_cons, List.mem_map] at hnodup
    have hstep := @readMapStatement_plain b p.value p.result (hplain p List.mem_cons_self)
      (fun e he => hfresh p List.mem_cons_self e he)
    have hfresh' : ∀ q ∈ ps, ∀ e ∈ b.entries ++ [(p.value, p.result)], e.1 ≠ q.value := by
      intro q hq e he
      rcases List.mem_append.1 he with he | he
      · exact hfresh q (List.mem_cons_of_mem _ hq) e he
      · rw [List.mem_singleton.1 he]
        exact fun h => hnodup.1 ⟨q, hq, h.symm⟩
    simp only [readMapParameters, hstep]
    rw [readMapParameters_plain (fun q hq => hplain q (List.mem_cons_of_mem _ hq)) hnodup.2 hfresh']
    simp

/-- A `default` parameter after others sets the default, once. -/
theorem readMapParameters_default {b b' : MapBlock} {ps : List Shared.MapParameter} (result : String)
    (h : readMapParameters b ps = .ok b') :
    readMapParameters b (ps ++ [⟨"default", result⟩]) =
      if b'.default.isSome then .error .duplicateDefault else .ok { b' with default := some result } := by
  induction ps generalizing b with
  | nil =>
    cases h
    simp only [List.nil_append, readMapParameters, readMapStatement]
    split <;> simp_all
  | cons p ps ih =>
    simp only [readMapParameters, List.cons_append] at h ⊢
    cases hst : readMapStatement b (.directive [p.value, p.result]) with
    | error e => simp [hst] at h
    | ok b'' =>
      simp only [hst] at h ⊢
      exact ih h

/-! ## Misdirected requests -/

def misdirectedRequestSNIVarPrefix : String := "$sni_listener_id_"
def misdirectedRequestHostVarPrefix : String := "$host_listener_id_"

/-- `misdirectedRequestSNIVar`. -/
def misdirectedRequestSNIVar (port : Int32) : String := misdirectedRequestSNIVarPrefix ++ toString port.toInt

/-- `misdirectedRequestHostVar`. -/
def misdirectedRequestHostVar (port : Int32) : String := misdirectedRequestHostVarPrefix ++ toString port.toInt

/-- The listener IDs of a port's sorted hostnames, from `nextID` on; the
empty hostname gets none. -/
def listenerIdParams : Nat → List String → List Shared.MapParameter
  | _, [] => []
  | nextID, h :: hs =>
    if h = "" then listenerIdParams nextID hs else ⟨h, toString nextID⟩ :: listenerIdParams (nextID + 1) hs

/-- The parameters of one port's maps: its listener IDs, then `default 0`. -/
def misdirectedRequestParams (hostnames : List String) : List Shared.MapParameter :=
  listenerIdParams 1 (sortStable (fun a b => decide (a < b)) hostnames) ++ [⟨"default", "0"⟩]

/-- `buildMisdirectedRequestMaps`: two maps per port, in port order, that
give the listener ID of the SNI and of the Host header. -/
def buildMisdirectedRequestMaps (hostnamesByPort : List (Int32 × List String)) : List Shared.Map :=
  (sortStable (fun a b => decide (a.1 < b.1)) hostnamesByPort).flatMap fun (port, hostnames) =>
    [{ source := "$ssl_server_name", «variable» := misdirectedRequestSNIVar port
       parameters := misdirectedRequestParams hostnames, useHostnames := true },
     { source := "$host", «variable» := misdirectedRequestHostVar port
       parameters := misdirectedRequestParams hostnames, useHostnames := true }]

theorem listenerIdParams_values : ∀ (nextID : Nat) (hs : List String),
    (listenerIdParams nextID hs).map (·.value) = hs.filter (· ≠ "")
  | _, [] => rfl
  | nextID, h :: hs => by
    by_cases hh : h = ""
    · simp [listenerIdParams, hh, listenerIdParams_values nextID hs]
    · simp [listenerIdParams, hh, listenerIdParams_values (nextID + 1) hs]

/-- A port whose listener hostnames are distinct plain keys: each of its two
maps is read with one entry per hostname and the default `0`. -/
theorem readMap_misdirectedRequestParams {hostnames : List String}
    (hplain : ∀ h ∈ hostnames, h ≠ "" → PlainKey h) (hnodup : (hostnames.filter (· ≠ "")).Nodup) :
    readMapParameters { hostnames := true } (misdirectedRequestParams hostnames) =
      .ok { hostnames := true, default := some "0",
            entries := (listenerIdParams 1 (sortStable (fun a b => decide (a < b)) hostnames)).map fun p => (p.value, p.result) } := by
  set sorted := sortStable (fun a b => decide (a < b)) hostnames
  have hperm : sorted.Perm hostnames := List.perm_insertionSort _ _
  have hvalues := listenerIdParams_values 1 sorted
  have hids : readMapParameters { hostnames := true } (listenerIdParams 1 sorted) =
      .ok { hostnames := true, entries := (listenerIdParams 1 sorted).map fun p => (p.value, p.result) } := by
    refine (readMapParameters_plain ?_ ?_ (by simp)).trans (by simp)
    · intro p hp
      have hv : p.value ∈ sorted.filter (· ≠ "") := hvalues ▸ List.mem_map_of_mem hp
      rw [List.mem_filter] at hv
      exact hplain p.value (hperm.mem_iff.1 hv.1) (by simpa using hv.2)
    · rw [hvalues]
      exact (hperm.filter _).nodup_iff.2 hnodup
  rw [misdirectedRequestParams, readMapParameters_default "0" hids]
  simp

/-- The hostnames `b.example.com`, `a.example.com` and the empty one of a
port: NGINX reads `a.example.com 1`, `b.example.com 2` and the default `0`. -/
theorem misdirected_maps_read_two_hosts :
    (∀ h ∈ ["b.example.com", "a.example.com", ""], h ≠ "" → PlainKey h) ∧
      readMapParameters { hostnames := true } (misdirectedRequestParams ["b.example.com", "a.example.com", ""]) =
        .ok { hostnames := true, default := some "0", entries := [("a.example.com", "1"), ("b.example.com", "2")] } := by
  have hplain : ∀ h ∈ ["b.example.com", "a.example.com", ""], h ≠ "" → PlainKey h := by
    simp [PlainKey]
  refine ⟨hplain, ?_⟩
  rw [readMap_misdirectedRequestParams hplain (by decide)]
  decide

/-! ## Inference maps -/

/-- `inference.EndpointPickerFailOpen`. -/
def endpointPickerFailOpen : String := "FailOpen"

/-- The map of one inference backend: the endpoint its EndpointPicker chose,
else the backend's own upstream (`FailOpen`) or `invalid-backend-ref`. Its
variable is named by the upstream with `-` turned into `_`. -/
def inferenceMap (b : Backend) (epp : EndpointPickerRef) : Shared.Map :=
  let defaultResult := if epp.failureMode = endpointPickerFailOpen then b.upstreamName else invalidBackendRef
  { source := "$inference_workload_endpoint"
    «variable» := "$inference_backend_" ++ convertStringToSafeVariableName b.upstreamName
    parameters := [⟨"\"\"", defaultResult⟩, ⟨"~.+", "$inference_workload_endpoint"⟩, ⟨"default", defaultResult⟩] }

/-- One backend of the loop of `buildInferenceMaps`: a backend with an
EndpointPicker adds the map of its variable name, unless a map of that name
is already there. -/
def addInferenceMap (uniqueMaps : List (String × Shared.Map)) (b : Backend) : List (String × Shared.Map) :=
  match b.endpointPickerConfig.bind (·.endpointPickerRef) with
  | none => uniqueMaps
  | some epp =>
    let mapKey := convertStringToSafeVariableName b.upstreamName
    if uniqueMaps.any (·.1 = mapKey) then uniqueMaps else uniqueMaps ++ [(mapKey, inferenceMap b epp)]

/-- `buildInferenceMaps`: the maps of the backends of the groups, in the order
of their variable names. -/
def buildInferenceMaps (groups : List BackendGroup) : List Shared.Map :=
  (sortStable (fun a b => decide (a.1 < b.1)) ((groups.flatMap (·.backends)).foldl addInferenceMap [])).map (·.2)

/-! ## Stream maps -/

def socketBasePath : String := "unix:/var/run/nginx/"

/-- `emptyStringSocket`: `""`, for a server whose upstream is invalid. -/
def emptyStringSocket : String := "\"\""

def connectionClosedStreamServerSocket : String := socketBasePath ++ "connection-closed-server.sock"

def getSocketNameTLS (port : Int32) (hostname : String) : String :=
  if hostname = "" then socketBasePath ++ toString port.toInt ++ ".sock"
  else socketBasePath ++ hostname ++ "-" ++ toString port.toInt ++ ".sock"

def getSocketNameTLSTerminate (port : Int32) (hostname : String) : String :=
  if hostname = "" then socketBasePath ++ toString port.toInt ++ "-terminate.sock"
  else socketBasePath ++ hostname ++ "-" ++ toString port.toInt ++ "-terminate.sock"

def getSocketNameHTTPS (port : Int32) : String := socketBasePath ++ "https" ++ toString port.toInt ++ ".sock"

def getTLSPassthroughVarName (port : Int32) : String := "$dest" ++ toString port.toInt

/-- The stream upstream of a name in `createStreamMaps`'s map of them: the
last one given with that name. -/
def lookupUpstream (upstreams : List Upstream) (name : String) : Option Upstream :=
  (upstreams.filter (·.name = name)).getLast?

/-- `resolveTLSServerSocket`: where a TLS server's connections go. -/
def resolveTLSServerSocket (server : Layer4VirtualServer) (upstreams : List Upstream) : String :=
  if server.isDefault then
    if server.ssl.isSome then getSocketNameTLSTerminate server.port server.hostname
    else connectionClosedStreamServerSocket
  else
    match server.upstreams with
    | u :: _ =>
      match lookupUpstream upstreams u.name with
      | some up =>
        if up.endpoints ≠ [] then
          if server.ssl.isSome then getSocketNameTLSTerminate server.port server.hostname
          else getSocketNameTLS server.port server.hostname
        else emptyStringSocket
      | none => emptyStringSocket
    | [] => emptyStringSocket

/-- What `createStreamMaps` keeps between servers: the map of each port, in
the order the ports were first seen, and the ports whose map has a
`default` entry (`portHasDefault`). -/
structure StreamMaps where
  portsToMap : List (Int32 × Shared.Map) := []
  portHasDefault : List Int32 := []
  deriving Repr, DecidableEq

/-- `portsToMap[port] = m`. -/
def StreamMaps.setMap (s : StreamMaps) (port : Int32) (m : Shared.Map) : StreamMaps :=
  if s.portsToMap.any (·.1 = port) then
    { s with portsToMap := s.portsToMap.map fun e => if e.1 = port then (port, m) else e }
  else { s with portsToMap := s.portsToMap ++ [(port, m)] }

/-- `addTLSServerToStreamMap`. -/
def addTLSServerToStreamMap (upstreams : List Upstream) (s : StreamMaps) (server : Layer4VirtualServer) :
    StreamMaps :=
  let socket := resolveTLSServerSocket server upstreams
  let streamMap : Shared.Map :=
    match s.portsToMap.lookup server.port with
    | some m => m
    | none =>
      { source := "$ssl_preread_server_name", «variable» := getTLSPassthroughVarName server.port
        parameters := [], useHostnames := true }
  -- only an unnamed TLS Terminate default server claims the port's default entry
  let (streamMap, s) :=
    if server.isDefault && server.ssl.isSome && server.hostname = "" && !s.portHasDefault.contains server.port then
      ({ streamMap with parameters := streamMap.parameters ++ [⟨"default", socket⟩] },
       { s with portHasDefault := s.portHasDefault ++ [server.port] })
    else (streamMap, s)
  let streamMap :=
    if server.hostname ≠ "" then { streamMap with parameters := streamMap.parameters ++ [⟨server.hostname, socket⟩] }
    else streamMap
  s.setMap server.port streamMap

/-- One HTTPS server of the loop over `SSLServers`: the default server is
entered as `default`, and only on a port that TLS servers use. -/
def addSSLServerToStreamMap (s : StreamMaps) (server : VirtualServer) : StreamMaps :=
  let hostname := if server.isDefault then "default" else server.hostname
  let s := if server.isDefault then { s with portHasDefault := s.portHasDefault ++ [server.port] } else s
  match s.portsToMap.lookup server.port with
  | some m => s.setMap server.port { m with parameters := m.parameters ++ [⟨hostname, getSocketNameHTTPS server.port⟩] }
  | none => s

/-- `createStreamMaps`: one map per port of the TLS servers. -/
def createStreamMaps (tlsServers : List Layer4VirtualServer) (sslServers : List VirtualServer)
    (streamUpstreams : List Upstream) : List Shared.Map :=
  if tlsServers = [] then []
  else
    let s := tlsServers.foldl (addTLSServerToStreamMap streamUpstreams) {}
    let s := sslServers.foldl addSSLServerToStreamMap s
    s.portsToMap.map fun (p, m) =>
      if s.portHasDefault.contains p then m
      else { m with parameters := m.parameters ++ [⟨"default", connectionClosedStreamServerSocket⟩] }

end GatewayFabric.Config
