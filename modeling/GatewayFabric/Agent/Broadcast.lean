/-
The agent's subscriptions to a deployment's configuration (`nginx/agent`):
the event handler, which holds `deployment.FileLock` for writing across
`SetFiles` and `broadcaster.Send`; the `DeploymentBroadcaster`'s subscriber
and publisher goroutines; and any number of `commandService.Subscribe` calls,
which hold the lock for reading across `broadcaster.Subscribe()` and
`setInitialConfig`. Each is a thread of a state machine, one action a step,
and a run is any interleaving of them.

What the lock gives holds of every run (`reachable_inv`): a Subscribe call
gets in `setInitialConfig` the files of the last `SetFiles`, and they stay
the latest until it unlocks (`rUnlock_listening_version`). What it does not
give: `Subscribe()` returns once the subscriber goroutine has taken the
channels from the unbuffered `subCh`, and the goroutine puts them in the
listener map afterwards. A `Send` after the unlock then copies a map without
the new subscriber when the goroutine is still holding its channels, and only
then (`snapshot_mem_or_pending`).
-/
import Mathlib.Tactic.SplitIfs
import GatewayFabric.Lib.Runs

namespace GatewayFabric.Agent

open Runs

/-- Where one `commandService.Subscribe` call is. -/
inductive SubscribePhase where
  /-- before `FileLock.RLock` -/
  | connecting
  /-- holds the read lock -/
  | locked
  /-- `broadcaster.Subscribe()` returned -/
  | subscribed
  /-- `setInitialConfig` sent the files of this configuration version -/
  | initialized (version : Nat)
  /-- unlocked, in the event loop; the version last applied -/
  | listening (applied : Nat)
  /-- returned: the subscription was cancelled -/
  | closed
  deriving Repr, DecidableEq

namespace SubscribePhase

/-- The phases that hold `FileLock` for reading. -/
def holdsRLock : SubscribePhase → Bool
  | .locked | .subscribed | .initialized _ => true
  | _ => false

/-- The phases after `broadcaster.Subscribe()` and before the cancellation. -/
def hasSubscribed : SubscribePhase → Bool
  | .subscribed | .initialized _ | .listening _ => true
  | _ => false

/-- A message of version `v` reaching the subscription: only the event loop
takes it. -/
def deliver : SubscribePhase → Nat → SubscribePhase
  | .listening _, v => .listening v
  | a, _ => a

@[simp] theorem holdsRLock_deliver (a : SubscribePhase) (v : Nat) : (a.deliver v).holdsRLock = a.holdsRLock := by
  cases a <;> rfl

@[simp] theorem hasSubscribed_deliver (a : SubscribePhase) (v : Nat) :
    (a.deliver v).hasSubscribed = a.hasSubscribed := by
  cases a <;> rfl

theorem deliver_eq_initialized {a : SubscribePhase} {v w : Nat} (h : a.deliver v = .initialized w) :
    a = .initialized w := by
  cases a <;> simp_all [deliver]

end SubscribePhase

/-- Where the event handler's `updateNginxConf` is. -/
inductive HandlerPhase where
  | idle
  /-- holds `FileLock` for writing -/
  | locked
  /-- `SetFiles` done, `Send` about to hand its message to `publishCh` -/
  | sending
  /-- `Send` waits on `doneCh` -/
  | waiting
  deriving Repr, DecidableEq

/-- Where the publisher goroutine is. -/
inductive PublisherPhase where
  | idle
  /-- took a message of this version from `publishCh` -/
  | received (version : Nat)
  /-- copied the listener map under `mu.RLock` -/
  | publishing (version : Nat) (listeners : List Nat)
  /-- every listener goroutine returned; about to signal `doneCh` -/
  | done
  deriving Repr, DecidableEq

/-- The deployment, the broadcaster and every thread. A Subscribe call is its
index in `agents`, which stands for its channels' id. -/
structure St where
  /-- the configuration version of the deployment's files -/
  version : Nat
  agents : List SubscribePhase
  /-- the channels the subscriber goroutine took from `subCh` and has not yet
  put in the map -/
  pending : Option Nat
  /-- `b.listeners` -/
  listeners : List Nat
  handler : HandlerPhase
  publisher : PublisherPhase
  deriving Repr, DecidableEq

/-- A step of one thread. -/
inductive Action where
  /-- Subscribe: `FileLock.RLock()` -/
  | rLock (i : Nat)
  /-- Subscribe: `broadcaster.Subscribe()`, the hand-off on `subCh` -/
  | subscribe (i : Nat)
  /-- Subscribe: `setInitialConfig` reads the deployment's files -/
  | setInitialConfig (i : Nat)
  /-- Subscribe: `setInitialConfig` failed; `CancelSubscription`, then `RUnlock` -/
  | initFailed (i : Nat)
  /-- Subscribe: `FileLock.RUnlock()` -/
  | rUnlock (i : Nat)
  /-- Subscribe returns: the deferred `CancelSubscription` -/
  | disconnect (i : Nat)
  /-- the subscriber goroutine: `b.listeners[id] = channels` under `mu.Lock` -/
  | storeListener
  /-- handler: `FileLock.Lock()` -/
  | lock
  /-- handler: `SetFiles` with changed files -/
  | setFiles
  /-- handler: `Send`, the hand-off on `publishCh` -/
  | send
  /-- publisher: the copy of the listener map under `mu.RLock` -/
  | snapshot
  /-- publisher: the message reaches every listener of the copy -/
  | publish
  /-- handler: `doneCh` received, `FileLock.Unlock()` -/
  | unlock
  deriving Repr, DecidableEq

/-- What the publisher's goroutines do with a message of version `v`: each
Subscribe call of the copied map takes it. -/
def deliverTo (snapshot : List Nat) (v : Nat) (agents : List SubscribePhase) : List SubscribePhase :=
  agents.mapIdx fun j a => if j ∈ snapshot then a.deliver v else a

/-- One step, if the thread can take it. `CancelSubscription` waits on the
unbuffered `unsubCh`, which the subscriber goroutine only reads once it has
stored what it took from `subCh`; a cancellation therefore needs no pending
channels. -/
def step (s : St) : Action → Option St
  | .rLock i =>
    if s.agents[i]? = some .connecting ∧ s.handler = .idle then some { s with agents := s.agents.set i .locked }
    else none
  | .subscribe i =>
    if s.agents[i]? = some .locked ∧ s.pending = none then
      some { s with agents := s.agents.set i .subscribed, pending := some i }
    else none
  | .setInitialConfig i =>
    if s.agents[i]? = some .subscribed then some { s with agents := s.agents.set i (.initialized s.version) }
    else none
  | .initFailed i =>
    if s.agents[i]? = some .subscribed ∧ s.pending = none then
      some { s with agents := s.agents.set i .closed, listeners := s.listeners.filter (· ≠ i) }
    else none
  | .rUnlock i =>
    match s.agents[i]? with
    | some (.initialized v) => some { s with agents := s.agents.set i (.listening v) }
    | _ => none
  | .disconnect i =>
    match s.agents[i]?, s.pending with
    | some (.listening _), none => some { s with agents := s.agents.set i .closed, listeners := s.listeners.filter (· ≠ i) }
    | _, _ => none
  | .storeListener =>
    match s.pending with
    | some i => some { s with listeners := s.listeners ++ [i], pending := none }
    | none => none
  | .lock =>
    if s.handler = .idle ∧ s.agents.all (fun a => !a.holdsRLock) then some { s with handler := .locked } else none
  | .setFiles =>
    if s.handler = .locked then some { s with version := s.version + 1, handler := .sending } else none
  | .send =>
    if s.handler = .sending ∧ s.publisher = .idle then
      some { s with handler := .waiting, publisher := .received s.version }
    else none
  | .snapshot =>
    match s.publisher with
    | .received v => some { s with publisher := .publishing v s.listeners }
    | _ => none
  | .publish =>
    match s.publisher with
    | .publishing v snap =>
      some { s with agents := deliverTo snap v s.agents, publisher := .done }
    | _ => none
  | .unlock =>
    if s.handler = .waiting ∧ s.publisher = .done then some { s with handler := .idle, publisher := .idle } else none

/-- `n` Subscribe calls about to start, and an idle deployment and broadcaster. -/
def initial (n : Nat) : St :=
  { version := 0, agents := List.replicate n .connecting, pending := none, listeners := [], handler := .idle,
    publisher := .idle }

/-- The states some interleaving reaches. -/
def Reachable (s : St) : Prop := ∃ n acts, run step (initial n) acts = some s

/-! ## What every interleaving keeps -/

/-- What every reachable state keeps. -/
structure Inv (s : St) : Prop where
  /-- the handler's write lock excludes every reader -/
  writer_excludes : s.handler ≠ .idle → ∀ a ∈ s.agents, a.holdsRLock = false
  /-- the files a Subscribe call has sent are still the latest -/
  initialized_current : ∀ v, SubscribePhase.initialized v ∈ s.agents → v = s.version
  /-- a subscription is in the map, or the subscriber goroutine holds it -/
  registered : ∀ i a, s.agents[i]? = some a → a.hasSubscribed = true → i ∈ s.listeners ∨ s.pending = some i

theorem inv_initial (n : Nat) : Inv (initial n) where
  writer_excludes := fun hw => absurd rfl hw
  initialized_current := fun v hv => by simp [initial] at hv
  registered := fun i a hi ha => by
    have ha' : a = .connecting := List.eq_of_mem_replicate (List.mem_of_getElem? hi)
    simp [ha', SubscribePhase.hasSubscribed] at ha

section Step

variable {s : St} {i : Nat} {x : SubscribePhase}

theorem deliverTo_getElem? (snapshot : List Nat) (v j : Nat) (agents : List SubscribePhase) :
    (deliverTo snapshot v agents)[j]? = agents[j]?.map fun a => if j ∈ snapshot then a.deliver v else a := by
  simp [deliverTo, List.getElem?_mapIdx]

theorem exists_of_mem_deliverTo {snapshot : List Nat} {v : Nat} {agents : List SubscribePhase} {a : SubscribePhase}
    (h : a ∈ deliverTo snapshot v agents) : ∃ b ∈ agents, a = b ∨ a = b.deliver v := by
  obtain ⟨j, hj, rfl⟩ := List.mem_mapIdx.1 h
  refine ⟨agents[j], List.getElem_mem hj, ?_⟩
  split
  · exact .inr rfl
  · exact .inl rfl

/-- A reader's phase means no writer. -/
theorem Inv.handler_idle (h : Inv s) (hi : s.agents[i]? = some x) (hx : x.holdsRLock = true) : s.handler = .idle := by
  by_contra hw
  simp [h.writer_excludes hw x (List.mem_of_getElem? hi)] at hx

theorem Inv.writer_excludes_set (h : Inv s) (hx : s.handler ≠ .idle → x.holdsRLock = false) :
    s.handler ≠ .idle → ∀ a ∈ s.agents.set i x, a.holdsRLock = false := by
  intro hw a ha
  rcases List.mem_or_eq_of_mem_set ha with ha | rfl
  · exact h.writer_excludes hw a ha
  · exact hx hw

theorem Inv.initialized_current_set (h : Inv s) (hx : ∀ v, x = .initialized v → v = s.version) :
    ∀ v, SubscribePhase.initialized v ∈ s.agents.set i x → v = s.version := by
  intro v hv
  rcases List.mem_or_eq_of_mem_set hv with hv | hv
  · exact h.initialized_current v hv
  · exact hx v hv.symm

/-- Setting one Subscribe call's phase: the others keep their registration. -/
theorem Inv.registered_set (h : Inv s) (hx : x.hasSubscribed = true → i ∈ s.listeners ∨ s.pending = some i) :
    ∀ j a, (s.agents.set i x)[j]? = some a → a.hasSubscribed = true → j ∈ s.listeners ∨ s.pending = some j := by
  intro j a hj ha
  rw [List.getElem?_set] at hj
  split_ifs at hj with hij hlt
  · subst hij
    cases hj
    exact hx ha
  · exact h.registered j a hj ha

/-- A step of one Subscribe call that changes only its own phase. -/
theorem Inv.set (h : Inv s) (hw : s.handler ≠ .idle → x.holdsRLock = false)
    (hv : ∀ v, x = .initialized v → v = s.version)
    (hr : x.hasSubscribed = true → i ∈ s.listeners ∨ s.pending = some i) : Inv { s with agents := s.agents.set i x } where
  writer_excludes := h.writer_excludes_set hw
  initialized_current := h.initialized_current_set hv
  registered := h.registered_set hr

/-- A cancellation: the phase is closed and the id leaves the map, with no
channels pending. -/
theorem Inv.cancel (h : Inv s) (hp : s.pending = none) :
    Inv { s with agents := s.agents.set i .closed, listeners := s.listeners.filter (· ≠ i) } where
  writer_excludes := h.writer_excludes_set fun _ => rfl
  initialized_current := h.initialized_current_set fun _ hv => nomatch hv
  registered := by
    intro j a hj ha
    rw [List.getElem?_set] at hj
    split_ifs at hj with hij hlt
    · subst hij
      cases hj
      simp [SubscribePhase.hasSubscribed] at ha
    · rcases h.registered j a hj ha with hl | hpj
      · exact .inl (List.mem_filter.2 ⟨hl, by simpa using Ne.symm hij⟩)
      · rw [hp] at hpj
        cases hpj

theorem Inv.subscribe (h : Inv s) (hi : s.agents[i]? = some .locked) (hp : s.pending = none) :
    Inv { s with agents := s.agents.set i .subscribed, pending := some i } where
  writer_excludes := h.writer_excludes_set fun hw => absurd (h.handler_idle hi rfl) hw
  initialized_current := h.initialized_current_set fun _ hv => nomatch hv
  registered := by
    intro j a hj ha
    rw [List.getElem?_set] at hj
    split_ifs at hj with hij hlt
    · exact .inr (congrArg some hij)
    · rcases h.registered j a hj ha with hl | hpj
      · exact .inl hl
      · rw [hp] at hpj
        cases hpj

theorem Inv.storeListener (h : Inv s) (hp : s.pending = some i) :
    Inv { s with listeners := s.listeners ++ [i], pending := none } where
  writer_excludes := h.writer_excludes
  initialized_current := h.initialized_current
  registered := by
    intro j a hj ha
    rcases h.registered j a hj ha with hl | hpj
    · exact .inl (List.mem_append_left _ hl)
    · rw [hp] at hpj
      cases hpj
      exact .inl (List.mem_append_right _ (List.mem_singleton_self _))

/-- `SetFiles` needs the write lock, so no Subscribe call is between its
`setInitialConfig` and its unlock. -/
theorem Inv.setFiles (h : Inv s) (hl : s.handler = .locked) :
    Inv { s with version := s.version + 1, handler := .sending } where
  writer_excludes := fun _ => h.writer_excludes (by simp [hl])
  initialized_current := fun v hv => by
    have := h.writer_excludes (by simp [hl]) _ hv
    simp [SubscribePhase.holdsRLock] at this
  registered := h.registered

theorem Inv.publish (h : Inv s) (snapshot : List Nat) (v : Nat) :
    Inv { s with agents := deliverTo snapshot v s.agents, publisher := .done } where
  writer_excludes := fun hw a ha => by
    obtain ⟨b, hb, rfl | rfl⟩ := exists_of_mem_deliverTo ha
    · exact h.writer_excludes hw _ hb
    · simpa using h.writer_excludes hw _ hb
  initialized_current := fun w hw => by
    obtain ⟨b, hb, he | he⟩ := exists_of_mem_deliverTo hw
    · exact h.initialized_current w (he ▸ hb)
    · exact h.initialized_current w (SubscribePhase.deliver_eq_initialized he.symm ▸ hb)
  registered := fun j a hj ha => by
    rw [deliverTo_getElem?, Option.map_eq_some_iff] at hj
    obtain ⟨b, hb, rfl⟩ := hj
    refine h.registered j b hb ?_
    split at ha
    · simpa using ha
    · exact ha

/-- Every step keeps the invariant. -/
theorem Inv.step (h : Inv s) {a : Action} {s' : St} (hs : step s a = some s') : Inv s' := by
  cases a with
  | rLock i =>
    simp only [Agent.step] at hs
    split_ifs at hs with hg
    cases hs
    exact h.set (fun hw => absurd hg.2 hw) (fun _ hv => nomatch hv) (fun hx => nomatch hx)
  | subscribe i =>
    simp only [Agent.step] at hs
    split_ifs at hs with hg
    cases hs
    exact h.subscribe hg.1 hg.2
  | setInitialConfig i =>
    simp only [Agent.step] at hs
    split_ifs at hs with hg
    cases hs
    exact h.set (fun hw => absurd (h.handler_idle hg rfl) hw) (fun _ hv => by cases hv; rfl)
      (fun _ => h.registered i _ hg rfl)
  | initFailed i =>
    simp only [Agent.step] at hs
    split_ifs at hs with hg
    cases hs
    exact h.cancel hg.2
  | rUnlock i =>
    simp only [Agent.step] at hs
    split at hs
    · next v hg =>
      cases hs
      exact h.set (fun hw => absurd (h.handler_idle hg rfl) hw) (fun _ hv => nomatch hv)
        (fun _ => h.registered i _ hg rfl)
    · cases hs
  | disconnect i =>
    simp only [Agent.step] at hs
    split at hs
    · next w hi hp =>
      cases hs
      exact h.cancel hp
    · cases hs
  | storeListener =>
    simp only [Agent.step] at hs
    split at hs
    · next i hp =>
      cases hs
      exact h.storeListener hp
    · cases hs
  | lock =>
    simp only [Agent.step] at hs
    split_ifs at hs with hg
    cases hs
    exact ⟨fun _ a ha => by simpa using List.all_eq_true.1 hg.2 a ha, h.initialized_current, h.registered⟩
  | setFiles =>
    simp only [Agent.step] at hs
    split_ifs at hs with hg
    cases hs
    exact h.setFiles hg
  | send =>
    simp only [Agent.step] at hs
    split_ifs at hs with hg
    cases hs
    exact ⟨fun _ => h.writer_excludes (by simp [hg.1]), h.initialized_current, h.registered⟩
  | snapshot =>
    simp only [Agent.step] at hs
    split at hs
    · cases hs
      exact ⟨h.writer_excludes, h.initialized_current, h.registered⟩
    · cases hs
  | publish =>
    simp only [Agent.step] at hs
    split at hs
    · next v snapshot _ =>
      cases hs
      exact h.publish snapshot v
    · cases hs
  | unlock =>
    simp only [Agent.step] at hs
    split_ifs at hs with hg
    cases hs
    exact ⟨fun hw => absurd rfl hw, h.initialized_current, h.registered⟩

end Step

theorem reachable_inv {s : St} (h : Reachable s) : Inv s := by
  obtain ⟨n, acts, hrun⟩ := h
  exact run_inv step Inv (fun _ _ _ hi hs => hi.step hs) acts (initial n) s (inv_initial n) hrun

/-! ## What a Subscribe call gets -/

/-- At its unlock a Subscribe call has sent the agent the deployment's latest
files: no `SetFiles` came between its `setInitialConfig` and its unlock. -/
theorem rUnlock_listening_version {s s' : St} {i : Nat} (hr : Reachable s) (hs : step s (.rUnlock i) = some s') :
    s'.agents[i]? = some (.listening s.version) ∧ s'.version = s.version := by
  simp only [step] at hs
  split at hs
  · next v hi =>
    cases hs
    have hv : v = s.version := (reachable_inv hr).initialized_current v (List.mem_of_getElem? hi)
    have hlt : i < s.agents.length := (List.getElem?_eq_some_iff.1 hi).1
    subst hv
    exact ⟨by simp [hlt], rfl⟩
  · cases hs

/-- A Subscribe call that has sent the files of version 0 unlocks with the
agent at version 0, the deployment's. -/
theorem rUnlock_after_initial_config :
    let s : St :=
      { version := 0, agents := [.initialized 0], pending := some 0, listeners := [], handler := .idle
        publisher := .idle }
    let s' : St := { s with agents := [.listening 0] }
    Reachable s ∧ step s (.rUnlock 0) = some s' ∧ s'.agents[0]? = some (.listening s.version) ∧
      s'.version = s.version := by
  intro s s'
  have hr : Reachable s := ⟨1, [.rLock 0, .subscribe 0, .setInitialConfig 0], by decide⟩
  have hs : step s (.rUnlock 0) = some s' := by decide
  exact ⟨hr, hs, rUnlock_listening_version hr hs⟩

/-- The copy of the listener map a `Send` reaches has every Subscribe call of
the event loop but the one whose channels the subscriber goroutine took from
`subCh` and has not yet stored. -/
theorem snapshot_mem_or_pending {s s' : St} {i w : Nat} (hr : Reachable s) (hs : step s .snapshot = some s')
    (hi : s.agents[i]? = some (.listening w)) :
    ∃ v snapshot, s'.publisher = .publishing v snapshot ∧ (i ∈ snapshot ∨ s.pending = some i) := by
  simp only [step] at hs
  split at hs
  · next v _ =>
    cases hs
    exact ⟨v, s.listeners, rfl, (reachable_inv hr).registered i _ hi rfl⟩
  · cases hs

/-- A copy taken while the subscriber goroutine still holds the channels of
the call in its event loop: the call is the pending one. -/
theorem snapshot_while_subscriber_pending :
    let s : St :=
      { version := 1, agents := [.listening 0], pending := some 0, listeners := [], handler := .waiting
        publisher := .received 1 }
    let s' : St := { s with publisher := .publishing 1 [] }
    Reachable s ∧ step s .snapshot = some s' ∧
      ∃ v snapshot, s'.publisher = .publishing v snapshot ∧ (0 ∈ snapshot ∨ s.pending = some 0) := by
  intro s s'
  have hr : Reachable s :=
    ⟨1, [.rLock 0, .subscribe 0, .setInitialConfig 0, .rUnlock 0, .lock, .setFiles, .send], by decide⟩
  have hs : step s .snapshot = some s' := by decide
  have hi : s.agents[0]? = some (.listening 0) := rfl
  exact ⟨hr, hs, snapshot_mem_or_pending hr hs hi⟩

/-- One Subscribe call and one change of the configuration, the goroutines
taking turns as the scheduler may let them: the subscriber goroutine stores
the new channels only after the publisher has copied the map. -/
def lostUpdateRun : List Action :=
  [.rLock 0, .subscribe 0, .setInitialConfig 0, .rUnlock 0, .lock, .setFiles, .send, .snapshot, .publish, .unlock,
    .storeListener]

theorem subscriber_misses_update :
    -- the Subscribe call is in its event loop when the publisher copies the map, and the copy lacks it
    run step (initial 1) (lostUpdateRun.take 8) = some
        { version := 1, agents := [.listening 0], pending := some 0, listeners := [],
          handler := .waiting, publisher := .publishing 1 [] } ∧
      run step (initial 1) lostUpdateRun = some
        { version := 1, agents := [.listening 0], pending := none, listeners := [0],
          handler := .idle, publisher := .idle } := by
  decide

end GatewayFabric.Agent
