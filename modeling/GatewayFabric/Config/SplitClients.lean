/-
The split_clients blocks of the NGINX configuration (`split_clients.go` and
`splitClientsTemplateText`): how the traffic of a backend group is shared
among its backends, and the variable each block defines.

A share is computed in binary64 (`percentOf`): the weight's percentage of the
total, floored to hundredths; the last backend gets what the others leave of
100, as the running float `availablePercentage`. A backend of weight 0
before the last gets "0.00", which the template comments out; the last one
gets the remainder, however it is weighted
(`zero_weight_last_backend_gets_remainder`).

The variable of a group is its name with '-' turned into '_'
(`convertStringToSafeVariableName`), and `removeDuplicateSplitClients` keeps
one block per variable, the first.

What `createRequestMirrorSplitClients` makes of mirror percentages is taken
as given: `collectAllSplitClients` reads those blocks as its argument.
-/
import GatewayFabric.Config.Locations
import GatewayFabric.Lib.Binary64
import GatewayFabric.Graph.Hostnames

namespace GatewayFabric.Config

open Dataplane Binary64

/-- `http.SplitClientDistribution`. -/
structure SplitClientDistribution where
  percent : String
  value : String
  deriving Repr, DecidableEq

/-- `http.SplitClient`. -/
structure SplitClient where
  variableName : String
  distributions : List SplitClientDistribution
  deriving Repr, DecidableEq

/-! ## Shares -/

/-- `percentOf`: `math.Floor(float64(weight) * 100 / float64(totalWeight) * 100) / 100`. -/
def percentOf (weight totalWeight : Int32) : F64 :=
  let p := ((F64.ofInt weight.toInt).mul (F64.ofInt 100)).div (F64.ofInt totalWeight.toInt)
  ((p.mul (F64.ofInt 100)).floor).div (F64.ofInt 100)

def getSplitClientValue (b : Backend) (source : NamespacedName) (ruleIdx pathRuleIdx : Nat) : String :=
  if b.valid then
    if b.endpointPickerConfig.isSome then
      generateInternalInferenceEPPLocationPath b.upstreamName source ruleIdx pathRuleIdx
    else b.upstreamName
  else invalidBackendRef

/-- The `totalWeight` loop, in `int32`. -/
def sumWeights (backends : List Backend) : Int32 :=
  backends.foldl (fun totalWeight b => totalWeight + b.weight) 0

/-- One turn of the loop over all backends but the last: the backend's
distribution, and what is left of 100. -/
def distributionStep (group : BackendGroup) (totalWeight : Int32)
    (acc : List SplitClientDistribution × F64) (b : Backend) : List SplitClientDistribution × F64 :=
  let percentage := percentOf b.weight totalWeight
  (acc.1 ++ [{ percent := F64.formatFixed 2 percentage
               value := getSplitClientValue b group.source group.ruleIdx group.pathRuleIdx }],
    acc.2.sub percentage)

def createBackendGroupSplitClientDistributions (group : BackendGroup) : List SplitClientDistribution :=
  if !backendGroupNeedsSplit group then []
  else
    let totalWeight := sumWeights group.backends
    if totalWeight = 0 then [{ percent := "100", value := invalidBackendRef }]
    else
      let (distributions, availablePercentage) :=
        group.backends.dropLast.foldl (distributionStep group totalWeight) ([], F64.ofInt 100)
      match group.backends.getLast? with
      | some lastBackend =>
        distributions ++ [{ percent := F64.formatFixed 2 availablePercentage
                            value := getSplitClientValue lastBackend group.source group.ruleIdx group.pathRuleIdx }]
      | none => distributions

/-! ## The blocks -/

def createBackendGroupSplitClients (backendGroups : List BackendGroup) : List SplitClient :=
  backendGroups.filterMap fun group =>
    let distributions := createBackendGroupSplitClientDistributions group
    if distributions = [] then none
    else
      let variableName := convertStringToSafeVariableName group.name
      let variableName :=
        if (group.backends.head?.bind (·.endpointPickerConfig)).isSome then
          createInferenceSplitClientsVariableName variableName
        else variableName
      some { variableName, distributions }

/-- One block per variable, the first. -/
def removeDuplicateSplitClients (splitClients : List SplitClient) : List SplitClient :=
  (splitClients.foldl (fun (acc : List SplitClient × List String) client =>
    if client.variableName ∈ acc.2 then acc else (acc.1 ++ [client], acc.2 ++ [client.variableName]))
    ([], [])).1

/-- `collectAllSplitClients`, given the blocks of the request mirrors. -/
def collectAllSplitClients (backendGroups : List BackendGroup) (mirrorSplitClients : List SplitClient) :
    List SplitClient :=
  removeDuplicateSplitClients (createBackendGroupSplitClients backendGroups ++ mirrorSplitClients)

/-- A line of a block: a share of "0.00" is commented out. -/
def splitClientDistributionLine (d : SplitClientDistribution) : String :=
  if d.percent = "0.00" then "\n    # " ++ d.percent ++ "% " ++ d.value ++ ";"
  else if d.percent = "*" then "\n    * " ++ d.value ++ ";"
  else "\n    " ++ d.percent ++ "% " ++ d.value ++ ";"

/-- `splitClientsTemplateText`, its trimmed whitespace resolved. -/
def executeSplitClients (splitClients : List SplitClient) : String :=
  "\n" ++ String.join (splitClients.map fun sc =>
    "\nsplit_clients $request_id $" ++ sc.variableName ++ " \x7b" ++
      String.join (sc.distributions.map splitClientDistributionLine) ++ "\n\x7d\n") ++ "\n"

/-! ## The distributions of a split group -/

section Distributions

variable (group : BackendGroup) (totalWeight : Int32)

/-- The distribution of a backend before the last. -/
def shareOf (b : Backend) : SplitClientDistribution :=
  { percent := F64.formatFixed 2 (percentOf b.weight totalWeight)
    value := getSplitClientValue b group.source group.ruleIdx group.pathRuleIdx }

/-- What the loop leaves of `avail`. -/
def remainderAfter (bs : List Backend) (avail : F64) : F64 :=
  bs.foldl (fun avail b => avail.sub (percentOf b.weight totalWeight)) avail

end Distributions

/-! ## Weights where the shares are off -/

/-- A Service backend of the route `default/route`. -/
def weightedBackend (upstreamName : String) (weight : Int32) : Backend :=
  { upstreamName, weight, valid := true }

def weightedGroup (backends : List Backend) : BackendGroup :=
  { source := { ns := "default", name := "route" }, backends, ruleIdx := 0, pathRuleIdx := 0 }

/-- Weights 1, 2 and 0: the shares of the first two floor to 33.33 and
66.66, and the backend of weight 0, last, gets the 0.01 they leave, on a
line the template does not comment out. -/
theorem zero_weight_last_backend_gets_remainder :
    (createBackendGroupSplitClientDistributions
        (weightedGroup [weightedBackend "default_a_80" 1, weightedBackend "default_b_80" 2,
          weightedBackend "default_c_80" 0])).map splitClientDistributionLine =
      ["\n    33.33% default_a_80;", "\n    66.66% default_b_80;", "\n    0.01% default_c_80;"] := by
  decide +kernel

/-- Weights 29 and 9971: 29 * 100 / 10000 is 0.29, which binary64 holds
just below itself, so the floor of its hundredfold is 28 and the first share
is 0.28, not the 0.29 of the exact decimal floor. -/
theorem binary64_floor_drops_exact_share :
    10000 * 29 / (29 + 9971) = 29 ∧
      (createBackendGroupSplitClientDistributions
          (weightedGroup [weightedBackend "default_a_80" 29, weightedBackend "default_b_80" 9971])).map (·.percent) =
        ["0.28", "99.72"] := by
  constructor
  · decide
  · decide +kernel

/-! ## Groups that share a variable -/

/-- The first rule's group of a route, with two Services of the route's namespace. -/
def twoServiceGroup (ns name : String) : BackendGroup :=
  { source := { ns, name }, ruleIdx := 0, pathRuleIdx := 0
    backends := [weightedBackend (ns ++ "_svc-1_80") 1, weightedBackend (ns ++ "_svc-2_80") 1] }

/-- The route "x--y" of namespace "a" and the route "y" of namespace "a--x",
all valid names: both groups are named "group_a__x__y_rule0_pathRule0" once
'-' is '_'. Only the first group's block is kept, and the second route's
location proxies to it, so its traffic goes to the Services of "a". -/
theorem double_hyphen_groups_share_split_variable :
    Graph.isDNS1123Label "a".toList = true ∧ Graph.isDNS1123Label "a--x".toList = true ∧
      Graph.matchesDNS1123SubdomainFmt "x--y".toList = true ∧ Graph.matchesDNS1123SubdomainFmt "y".toList = true ∧
      twoServiceGroup "a" "x--y" ≠ twoServiceGroup "a--x" "y" ∧
      collectAllSplitClients [twoServiceGroup "a" "x--y", twoServiceGroup "a--x" "y"] [] =
        [{ variableName := "group_a__x__y_rule0_pathRule0"
           distributions := [{ percent := "50.00", value := "a_svc-1_80" }, { percent := "50.00", value := "a_svc-2_80" }] }] ∧
      createProxyPass (twoServiceGroup "a--x" "y") none "http" false false .external =
        "http://$group_a__x__y_rule0_pathRule0" := by
  refine ⟨by decide, by decide, by decide, by decide, by decide, ?_, by decide⟩
  decide +kernel

end GatewayFabric.Config
