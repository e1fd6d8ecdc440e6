/-
The backend group of a route rule (`newBackendGroup` in
`state/dataplane/configuration.go`): one dataplane backend per backend
reference of the rule, mirror and ExternalAuth backends aside, valid when
the reference is valid and not invalid for the Gateway, named by its
Service port reference, and with the EndpointPicker configuration the
reference carries. Whether some reference is an InferencePool's is
returned with the group.

An ExternalName Service's hostname (`getExternalHostname`) is a
parameter, and the backend's TLS verification is left out.
-/
import GatewayFabric.Graph.BackendRefs

namespace GatewayFabric.Dataplane

open GatewayFabric.Graph

/-- The backend a reference becomes for the Gateway `gatewayName`. -/
def backendOf (gatewayName : NamespacedName) (externalHostname : NamespacedName → String) (ref : BackendRef) :
    Backend :=
  { upstreamName := ref.servicePortReference
    weight := ref.weight
    valid := ref.valid && !(ref.invalidForGateways.contains gatewayName)
    -- the configuration is copied whenever the reference names an EndpointPicker
    endpointPickerConfig :=
      ref.endpointPickerConfig.endpointPickerRef.map fun epp =>
        { endpointPickerRef := some epp, nsName := ref.endpointPickerConfig.nsName }
    externalHostname := externalHostname ref.svcNsName
    appProtocol := ref.servicePort.appProtocol.getD "" }

/-- The references a rule's backend group is made of. -/
def isRuleBackend (ref : BackendRef) : Bool := !ref.isMirrorBackend && !ref.isExternalAuthBackend

def newBackendGroup (refs : List BackendRef) (gatewayName sourceNsName : NamespacedName) (ruleIdx : Nat)
    (externalHostname : NamespacedName → String) : BackendGroup × Bool :=
  let refs := refs.filter isRuleBackend
  ({ backends := refs.map (backendOf gatewayName externalHostname)
     source := sourceNsName
     ruleIdx
     pathRuleIdx := 0 },
   refs.any (·.isInferencePool))

end GatewayFabric.Dataplane
