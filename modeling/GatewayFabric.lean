import GatewayFabric.Nginx.Lexer
import GatewayFabric.Nginx.LexerRuns
import GatewayFabric.Nginx.Map
import GatewayFabric.Validation
import GatewayFabric.Graph.Hostnames
import GatewayFabric.Graph.Routes
import GatewayFabric.Dataplane.Servers
import GatewayFabric.Nginx.Select
import GatewayFabric.Dataplane.Types
import GatewayFabric.Config.Http
import GatewayFabric.Config.Filters
import GatewayFabric.Config.Locations
import GatewayFabric.Config.Phases
import GatewayFabric.Graph.Filters
import GatewayFabric.Config.Readback
import GatewayFabric.Graph.BackendRefs
import GatewayFabric.Dataplane.BackendGroups
import GatewayFabric.Config.Inference
import GatewayFabric.Config.LocationKeys
import GatewayFabric.Config.Maps
import GatewayFabric.Guardrails.Decision
import GatewayFabric.Guardrails.Request
import GatewayFabric.Guardrails.Stream
import GatewayFabric.Guardrails.Response
import GatewayFabric.Config.Isolation
import GatewayFabric.Config.Integrity
import GatewayFabric.Dataplane.ServerNames
import GatewayFabric.Graph.ListenerConflicts
import GatewayFabric.Graph.ParentRefs
import GatewayFabric.State.ChangeProcessor
import GatewayFabric.Graph.Policies
import GatewayFabric.Lib.ExceptLoops
import GatewayFabric.Status.RouteStatus
import GatewayFabric.Guardrails.StreamLines
import GatewayFabric.Njs.HttpMatches
import GatewayFabric.Guardrails.RequestBody
import GatewayFabric.Config.UpstreamSettings
import GatewayFabric.Config.SplitClients
import GatewayFabric.Dataplane.ConflictOrder
import GatewayFabric.Lib.Joins
import GatewayFabric.State.Mirror
import GatewayFabric.Dataplane.SessionCache
import GatewayFabric.Graph.HostnameSets
import GatewayFabric.Lib.Runs
import GatewayFabric.Agent.Broadcast
import GatewayFabric.Lib.Backtrack
import GatewayFabric.Lib.Pcre
import GatewayFabric.Nginx.Rewrite
import GatewayFabric.Config.PrefixRewrite
import GatewayFabric.Lib.Slices
import GatewayFabric.Status.Conditions
import GatewayFabric.Lib.GoTime
import GatewayFabric.Lib.FirstFit
import GatewayFabric.Validation.Duration
import GatewayFabric.Graph.ReferenceGrants
import GatewayFabric.State.Resolver
import GatewayFabric.Graph.ListenerTLS
