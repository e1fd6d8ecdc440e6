/-
Which locations of a server can share a location key (`createLocations`).

The OIDC callback locations (`createOIDCLocations`) are kept apart from one
another and from the path of every exact-match rule. They are not kept apart
from the exact location `= P` that a non-slashed prefix rule `P` adds
(`existingExactPathSet` leaves such rules out), nor from the default root
location `= /` added when no rule matches `/`.
-/
import GatewayFabric.Config.Locations

namespace GatewayFabric.Config

open Dataplane

/-- The fold of `createOIDCLocations`: one callback location per recorded
path, the recorded paths distinct and none of them an existing exact path. -/
def CallbackAcc (existing : List String) (acc : List Location × List String) : Prop :=
  acc.1.map (·.path) = acc.2.map exactPath ∧ acc.2.Nodup ∧ ∀ p ∈ acc.2, p ∉ existing

theorem CallbackAcc.step {existing : List String} {acc : List Location × List String} (h : CallbackAcc existing acc)
    (provider : OIDCProvider) (path : String) :
    CallbackAcc existing
      (if path ∈ existing ∨ path ∈ acc.2 then acc
       else (acc.1 ++ [createOIDCCallbackLocation provider path], acc.2 ++ [path])) := by
  obtain ⟨hpaths, hnodup, hnew⟩ := h
  split_ifs with hskip
  · exact ⟨hpaths, hnodup, hnew⟩
  · push Not at hskip
    refine ⟨by simp [hpaths, createOIDCCallbackLocation, exactPath], ?_, ?_⟩
    · refine List.nodup_append.2 ⟨hnodup, List.nodup_singleton _, ?_⟩
      intro p hp q hq hpq
      rw [List.mem_singleton.1 hq] at hpq
      exact hskip.2 (hpq ▸ hp)
    · intro p hp
      rcases List.mem_append.1 hp with hp | hp
      · exact hnew p hp
      · rw [List.mem_singleton.1 hp]
        exact hskip.1

theorem callbackAcc_foldl {existing : List String} (provider : OIDCProvider) (paths : List String)
    {acc : List Location × List String} (h : CallbackAcc existing acc) :
    CallbackAcc existing
      (paths.foldl (fun (acc : List Location × List String) path =>
        if path ∈ existing ∨ path ∈ acc.2 then acc
        else (acc.1 ++ [createOIDCCallbackLocation provider path], acc.2 ++ [path])) acc) := by
  induction paths generalizing acc with
  | nil => exact h
  | cons path paths ih => exact ih (h.step provider path)

/-- Every OIDC callback location is `= p` for a distinct path `p` that no
rule outside the non-slashed prefixes has. -/
theorem createOIDCLocations_callbackAcc (pathRules : List PathRule) :
    ∃ paths, CallbackAcc (existingExactPathSet pathRules) (createOIDCLocations pathRules, paths) := by
  have hprov : ∀ (providers : List OIDCProvider) (acc : List Location × List String),
      CallbackAcc (existingExactPathSet pathRules) acc →
      CallbackAcc (existingExactPathSet pathRules)
        (providers.foldl (fun (acc : List Location × List String) provider =>
          (oidcPaths provider).foldl (fun (acc : List Location × List String) path =>
            if path ∈ existingExactPathSet pathRules ∨ path ∈ acc.2 then acc
            else (acc.1 ++ [createOIDCCallbackLocation provider path], acc.2 ++ [path])) acc) acc) := by
    intro providers
    induction providers with
    | nil => intro acc h; exact h
    | cons provider providers ih => intro acc h; exact ih _ (callbackAcc_foldl provider _ h)
  exact ⟨_, hprov _ ([], []) ⟨rfl, List.nodup_nil, by simp⟩⟩

theorem exactPath_injective : Function.Injective exactPath := fun _ _ h =>
  (String.append_right_inj "= ").mp h

/-- No two OIDC callback locations share a location key. -/
theorem createOIDCLocations_nodup (pathRules : List PathRule) :
    ((createOIDCLocations pathRules).map (·.path)).Nodup := by
  obtain ⟨paths, hpaths, hnodup, -⟩ := createOIDCLocations_callbackAcc pathRules
  rw [hpaths]
  exact hnodup.map exactPath_injective

/-! ## A callback on a non-slashed prefix, and a logout on `/` -/

/-- An OIDC provider whose redirect URI is the rule's own path and whose
logout URI is `/`. -/
def callbackProvider : OIDCProvider :=
  { name := "idp", redirectURI := "/callback", logoutURI := some "/" }

/-- The server of an HTTPRoute whose one rule is a PathPrefix `/callback` to
the Service `app/web` port 80, with an OIDC AuthenticationFilter of that
provider. -/
def callbackServer : VirtualServer :=
  { hostname := "app.example.com"
    port := 80
    pathRules :=
      [{ path := "/callback", pathType := .pathPrefix
         matchRules :=
          [{ filters := { authenticationFilter := some { oidc := some { provider := some callbackProvider } } }
             «match» := {}
             backendGroup :=
              { backends := [{ upstreamName := "app_web_80", weight := 1, valid := true }]
                source := { ns := "app", name := "route" }, ruleIdx := 0, pathRuleIdx := 0 } }] }] }

theorem oidc_callback_location_keys_collide :
    (createLocations (fun _ => false) [] (fun _ => false) callbackServer "1").1.map (·.path) =
      ["/callback/", "= /callback", "= /callback", "= /", "= /"] := by
  decide +kernel

end GatewayFabric.Config
