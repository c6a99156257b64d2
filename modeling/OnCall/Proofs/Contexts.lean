import OnCall.Proofs.Runs

/-!
# How the context of an attempt comes about

* `Dossier.Grounded`: the cluster on file is one that the platform answered with earlier.
* `Context.gives_build_ok`: what a context consists of; `Context.gives_build_error`: which call
  failed when there is none.
-/

namespace OnCall

open Resolving

variable {alert : Alert} {settings : Settings} {analyst : Bool} {name : String}
  {needs : Requirements} {d d' : Dossier} {log : Log}

/-! ## 1. Single resources -/

/-- Get a resource if it is asked for. -/
def Resolving.ifNeeded {α : Type} (needed : Bool) (x : Resolving α) : Resolving (Option α) :=
  if needed then some <$> x else pure none

theorem Context.build_eq :
    Context.build alert settings analyst name needs = (do
      let cluster ← Resolving.cluster alert
      let deployment ← ifNeeded needs.deployment (Resolving.deployment alert)
      let cloud ← ifNeeded needs.cloud (Resolving.cloud alert)
      return { alert, investigation := name, cluster, deployment, cloud, analyst, settings
               notes := .empty name }) := by
  obtain ⟨deployment, cloud⟩ := needs
  cases deployment <;> cases cloud <;> rfl

namespace Resolving

theorem gives_ifNeeded {α : Type} {needed : Bool} {x : Resolving α}
    {r : Except ResolutionFailure (Option α)} (h : Gives (ifNeeded needed x) d log r d') :
    (needed = true ∧ ∃ r₀, Gives x d log r₀ d' ∧ r = r₀.map some) ∨
      (needed = false ∧ log = [] ∧ r = .ok none ∧ d' = d) := by
  unfold ifNeeded at h
  split at h
  · rename_i asked
    rw [map_eq_pure_bind] at h
    rcases gives_bind.mp h with ⟨first, a, d₁, second, rfl, h₁, h₂⟩ | ⟨e, rfl, h₁⟩
    · obtain ⟨rfl, rfl, rfl⟩ := gives_pure.mp h₂
      exact .inl ⟨asked, .ok a, by rwa [List.append_nil], rfl⟩
    · exact .inl ⟨asked, .error e, h₁, rfl⟩
  · rename_i asked
    exact .inr ⟨by simpa using asked, gives_pure.mp h⟩

/-- What is needed is there afterwards. -/
theorem exists_of_needed {α : Type} {x : Resolving α} {o : Option α}
    (h : Gives (ifNeeded true x) d log (.ok o) d') : ∃ v, o = some v := by
  rcases gives_ifNeeded h with ⟨_, r₀, _, same⟩ | ⟨wrong, _⟩
  · cases r₀ with
    | error f => cases same
    | ok v => exact ⟨v, Except.ok.inj same⟩
  · cases wrong

/-- Only what is needed can fail. -/
theorem error_of_ifNeeded {α : Type} {needed : Bool} {x : Resolving α} {f : ResolutionFailure}
    (h : Gives (ifNeeded needed x) d log (.error f) d') :
    needed = true ∧ Gives x d log (.error f) d' := by
  rcases gives_ifNeeded h with ⟨asked, r₀, failed, same⟩ | ⟨_, _, wrong, _⟩
  · cases r₀ with
    | error g =>
      cases same
      exact ⟨asked, failed⟩
    | ok v => cases same
  · cases wrong

section Cached

variable {α : Type} {look : Dossier → Option α} {keep : α → Dossier → Dossier}
  {resource : Resource} {id : String} {y : Fallible α}

/-- A resource fails as its fetch failed. -/
theorem error_of_cached {f : ResolutionFailure}
    (h : Gives (cached look keep resource id y) d log (.error f) d') :
    f.resource = resource ∧ Fallible.Gives y log (.error f.raw) := by
  rcases gives_cached.mp h with ⟨_, _, _, wrong, _⟩ | ⟨_, ⟨_, _, wrong, _⟩ | ⟨raw, called, same, _⟩⟩
  · cases wrong
  · cases wrong
  · cases same
    exact ⟨rfl, called⟩

/-- A resource that was got is on file. -/
theorem look_of_cached {v : α} (h : Gives (cached look keep resource id y) d log (.ok v) d')
    (keeps : ∀ v d, look (keep v d) = some v) : look d' = some v := by
  rcases gives_cached.mp h with ⟨_, held, _, same, rfl⟩ | ⟨_, ⟨_, _, same, rfl⟩ | ⟨_, _, wrong, _⟩⟩
  · cases same
    exact held
  · cases same
    exact keeps _ _
  · cases wrong

/-- Keeping another resource leaves a part of what is on file. -/
theorem part_cached {β : Type} {r : Except ResolutionFailure α} (part : Dossier → β)
    (h : Gives (cached look keep resource id y) d log r d')
    (other : ∀ v d, part (keep v d) = part d) : part d' = part d := by
  rcases gives_cached.mp h with ⟨_, _, _, _, rfl⟩ | ⟨_, ⟨_, _, _, rfl⟩ | ⟨_, _, _, rfl⟩⟩
  · rfl
  · exact other _ _
  · rfl

end Cached

/-- The cluster of an alert is the one on file, or the one that the platform answers with. -/
theorem gives_cluster_ok {c : Cluster} (h : Gives (Resolving.cluster alert) d log (.ok c) d') :
    d' = { d with cluster := some c } ∧
      ((d.cluster = some c ∧ log = []) ∨
        (d.cluster = none ∧
          log = [(Call.manager (.cluster alert.clusterId)).exchange (.ok c)])) := by
  rw [cluster_eq_cached] at h
  rcases gives_cached.mp h with ⟨v, held, rfl, hv, rfl⟩ |
    ⟨none, ⟨v, hv, hr, rfl⟩ | ⟨raw, _, hr, _⟩⟩
  · cases hv
    refine ⟨?_, .inl ⟨held, rfl⟩⟩
    rw [← held]
  · cases hr
    exact ⟨rfl, .inr ⟨none, Fallible.gives_call.mp hv⟩⟩
  · cases hr

theorem gives_cluster_error {f : ResolutionFailure}
    (h : Gives (Resolving.cluster alert) d log (.error f) d') :
    d' = d ∧ f.resource = .cluster ∧
      log = [(Call.manager (.cluster alert.clusterId)).exchange (.error f.raw)] := by
  rw [cluster_eq_cached] at h
  rcases gives_cached.mp h with ⟨v, held, rfl, hv, rfl⟩ |
    ⟨none, ⟨v, hv, hr, rfl⟩ | ⟨raw, hv, hr, rfl⟩⟩
  · cases hv
  · cases hr
  · cases hr
    exact ⟨rfl, rfl, Fallible.gives_call.mp hv⟩

/-- Once the cluster is on file, getting it asks for nothing. -/
theorem gives_bind_cluster {α : Type} {c : Cluster} {f : Cluster → Resolving α}
    {r : Except ResolutionFailure α} (known : d.cluster = some c)
    (h : Gives (Resolving.cluster alert >>= f) d log r d') : Gives (f c) d log r d' := by
  rcases gives_bind.mp h with ⟨first, c', d₁, second, rfl, h₁, h₂⟩ | ⟨e, rfl, h₁⟩
  · obtain ⟨rfl, ⟨held, rfl⟩ | ⟨held, _⟩⟩ := gives_cluster_ok h₁
    · rw [known, Option.some.injEq] at held
      subst held
      have same : { d with cluster := some c } = d := by rw [← known]
      rw [same] at h₂
      exact h₂
    · rw [known] at held
      cases held
  · rw [cluster_eq_cached] at h₁
    rcases gives_cached.mp h₁ with ⟨v, _, _, hv, _⟩ | ⟨none, _⟩
    · cases hv
    · rw [known] at none
      cases none

/-- Once the cluster is on file, the deployment is recalled by its id. -/
theorem gives_deployment {c : Cluster} {r : Except ResolutionFailure Deployment}
    (known : d.cluster = some c) (h : Gives (Resolving.deployment alert) d log r d') :
    Gives (cached Dossier.deployment (fun v d => { d with deployment := some v }) .deployment c.id
      (Work.fetchDeployment c.id)) d log r d' :=
  gives_bind_cluster known (deployment_eq_cached alert ▸ h)

/-- Once the cluster is on file, the cloud account is recalled for it. -/
theorem gives_cloud {c : Cluster} {r : Except ResolutionFailure CloudClient}
    (known : d.cluster = some c) (h : Gives (Resolving.cloud alert) d log r d') :
    Gives (cached Dossier.cloud (fun v d => { d with cloud := some v }) .cloud c.id
      (Work.openCloud c)) d log r d' :=
  gives_bind_cluster known (cloud_eq_cached alert ▸ h)

/-- Getting the deployment leaves the cluster on file. -/
theorem cluster_deployment {needed : Bool} {c : Cluster}
    {r : Except ResolutionFailure (Option Deployment)} (known : d.cluster = some c)
    (h : Gives (ifNeeded needed (Resolving.deployment alert)) d log r d') :
    d'.cluster = some c := by
  rcases gives_ifNeeded h with ⟨_, r₀, h, _⟩ | ⟨_, _, _, rfl⟩
  · rw [part_cached Dossier.cluster (gives_deployment known h) fun _ _ => rfl, known]
  · exact known

/-- Getting the cloud account leaves the cluster on file. -/
theorem cluster_cloud {needed : Bool} {c : Cluster}
    {r : Except ResolutionFailure (Option CloudClient)} (known : d.cluster = some c)
    (h : Gives (ifNeeded needed (Resolving.cloud alert)) d log r d') :
    d'.cluster = some c := by
  rcases gives_ifNeeded h with ⟨_, r₀, h, _⟩ | ⟨_, _, _, rfl⟩
  · rw [part_cached Dossier.cluster (gives_cloud known h) fun _ _ => rfl, known]
  · exact known

end Resolving

/-! ## 2. Contexts -/

/-- The cluster on file is one that the platform answered with in these exchanges. -/
def Dossier.Grounded (alert : Alert) (past : Log) (d : Dossier) : Prop :=
  ∀ c, d.cluster = some c → (Call.manager (.cluster alert.clusterId)).exchange (.ok c) ∈ past

namespace Dossier

variable {past : Log}

theorem grounded_empty (alert : Alert) (past : Log) : Grounded alert past .empty :=
  fun _ h => nomatch h

theorem Grounded.mono (h : Grounded alert past d) (more : Log) : Grounded alert (past ++ more) d :=
  fun c held => List.mem_append_left more (h c held)

theorem Grounded.of_cluster_eq (h : Grounded alert past d) (same : d'.cluster = d.cluster) :
    Grounded alert past d' :=
  fun c held => h c (same ▸ held)

theorem Grounded.cluster {r : Except ResolutionFailure Cluster} (grounded : Grounded alert past d)
    (h : Gives (Resolving.cluster alert) d log r d') : Grounded alert (past ++ log) d' := by
  cases r with
  | error f =>
    obtain ⟨rfl, _⟩ := gives_cluster_error h
    exact grounded.mono log
  | ok c =>
    obtain ⟨rfl, ⟨held, rfl⟩ | ⟨_, rfl⟩⟩ := gives_cluster_ok h
    · exact (grounded.mono []).of_cluster_eq held.symm
    · intro c' held
      cases held
      exact List.mem_append_right past (List.mem_singleton_self _)

end Dossier

namespace Context

variable {ctx : Context}

/-- A context is made of the resources that were asked for. -/
theorem gives_build_ok
    (h : Gives (build alert settings analyst name needs) d log (.ok ctx) d') :
    ctx.alert = alert ∧ ctx.settings = settings ∧
      ∃ l₁ l₂ l₃ d₁ d₂, log = l₁ ++ (l₂ ++ l₃) ∧ Gives (Resolving.cluster alert) d l₁ (.ok ctx.cluster) d₁ ∧
        Gives (ifNeeded needs.deployment (Resolving.deployment alert)) d₁ l₂ (.ok ctx.deployment) d₂ ∧
        Gives (ifNeeded needs.cloud (Resolving.cloud alert)) d₂ l₃ (.ok ctx.cloud) d' := by
  rw [build_eq] at h
  obtain ⟨l₁, cluster, d₁, rest, rfl, h₁, h⟩ := gives_bind_ok.mp h
  obtain ⟨l₂, deployment, d₂, rest, rfl, h₂, h⟩ := gives_bind_ok.mp h
  obtain ⟨l₃, cloud, d₃, rest, rfl, h₃, h⟩ := gives_bind_ok.mp h
  obtain ⟨rfl, hc, rfl⟩ := gives_pure.mp h
  cases hc
  exact ⟨rfl, rfl, l₁, l₂, l₃, d₁, d₂, by rw [List.append_nil], h₁, h₂, h₃⟩

/-- A new context is one for its investigation, with no line written in it. -/
theorem blank_of_build
    (h : Gives (build alert settings analyst name needs) d log (.ok ctx) d') :
    ctx.investigation = name ∧ ctx.analyst = analyst ∧ ctx.notes = .empty name := by
  rw [build_eq] at h
  obtain ⟨_, cluster, d₁, rest, rfl, _, h⟩ := gives_bind_ok.mp h
  obtain ⟨_, deployment, d₂, rest, rfl, _, h⟩ := gives_bind_ok.mp h
  obtain ⟨_, cloud, d₃, rest, rfl, _, h⟩ := gives_bind_ok.mp h
  cases (gives_pure.mp h).2.1
  exact ⟨rfl, rfl, rfl⟩

/-- Where both are needed, the cloud account and the deployment are there. -/
theorem equipped_of_build
    (h : Gives (build alert settings analyst name ⟨true, true⟩) d log (.ok ctx) d') :
    ∃ client infraId, ctx.cloudClient = .ok client ∧ ctx.infraId = .ok infraId := by
  obtain ⟨_, _, l₁, l₂, l₃, d₁, d₂, rfl, _, deployed, opened⟩ := gives_build_ok h
  obtain ⟨v, deployment⟩ : ∃ v, ctx.deployment = some v := exists_of_needed deployed
  obtain ⟨client, cloud⟩ : ∃ v, ctx.cloud = some v := exists_of_needed opened
  refine ⟨client, v.infraId, ?_, ?_⟩
  · rw [cloudClient, cloud]
  · rw [infraId, deployment]
    rfl

/-- The cluster of a context is on file from then on. -/
theorem cluster_of_build_ok
    (h : Gives (build alert settings analyst name needs) d log (.ok ctx) d') :
    d'.cluster = some ctx.cluster := by
  obtain ⟨_, _, l₁, l₂, l₃, d₁, d₂, rfl, h₁, h₂, h₃⟩ := gives_build_ok h
  obtain ⟨rfl, _⟩ := gives_cluster_ok h₁
  exact cluster_cloud (cluster_deployment rfl h₂) h₃

/-- Whatever comes of a context, the cluster on file stays grounded. -/
theorem grounded_build {r : Except ResolutionFailure Context} {past : Log}
    (grounded : d.Grounded alert past)
    (h : Gives (build alert settings analyst name needs) d log r d') :
    d'.Grounded alert (past ++ log) := by
  rw [build_eq] at h
  rcases gives_bind.mp h with ⟨l₁, c, d₁, rest, rfl, h₁, h⟩ | ⟨e, rfl, h₁⟩
  · have known : d₁.cluster = some c := by
      obtain ⟨rfl, _⟩ := gives_cluster_ok h₁
      rfl
    have first := (grounded.cluster h₁).mono rest
    rw [List.append_assoc] at first
    suffices same : d'.cluster = some c from first.of_cluster_eq (same.trans known.symm)
    rcases gives_bind.mp h with ⟨l₂, v, d₂, rest, rfl, h₂, h⟩ | ⟨e, rfl, h₂⟩
    · have known := cluster_deployment known h₂
      rcases gives_bind.mp h with ⟨l₃, w, d₃, rest, rfl, h₃, h⟩ | ⟨e, rfl, h₃⟩
      · obtain ⟨rfl, _, rfl⟩ := gives_pure.mp h
        exact cluster_cloud known h₃
      · exact cluster_cloud known h₃
    · exact cluster_deployment known h₂
  · exact grounded.cluster h₁

/-- If there is no context, the failure is the one of fetching what could not be had. -/
theorem gives_build_error {f : ResolutionFailure}
    (h : Gives (build alert settings analyst name needs) d log (.error f) d') :
    (f.resource = .cluster ∧
        (Call.manager (.cluster alert.clusterId)).exchange (.error f.raw) ∈ log) ∨
      (f.resource = .deployment ∧ ∃ id, (Call.deployment id).exchange (.error f.raw) ∈ log) ∨
      (f.resource = .cloud ∧ needs.cloud = true ∧ ∃ c, d'.cluster = some c ∧
        (Call.openCloud c).exchange (.error f.raw) ∈ log) := by
  rw [build_eq] at h
  rcases gives_bind.mp h with ⟨l₁, c, d₁, rest, rfl, h₁, h⟩ | ⟨e, he, h₁⟩
  · have known : d₁.cluster = some c := by
      obtain ⟨rfl, _⟩ := gives_cluster_ok h₁
      rfl
    rcases gives_bind.mp h with ⟨l₂, v, d₂, rest, rfl, h₂, h⟩ | ⟨e, he, h₂⟩
    · have known := cluster_deployment known h₂
      rcases gives_bind.mp h with ⟨l₃, w, d₃, rest, rfl, h₃, h⟩ | ⟨e, he, h₃⟩
      · obtain ⟨_, h, _⟩ := gives_pure.mp h
        cases h
      · cases he
        obtain ⟨needed, failed⟩ := error_of_ifNeeded h₃
        obtain ⟨resource, called⟩ := error_of_cached (gives_cloud known failed)
        rw [Fallible.gives_call.mp called]
        refine .inr (.inr ⟨resource, needed, c, cluster_cloud known h₃, ?_⟩)
        exact List.mem_append_right _ (List.mem_append_right _ (List.mem_singleton_self _))
    · cases he
      obtain ⟨_, failed⟩ := error_of_ifNeeded h₂
      obtain ⟨resource, called⟩ := error_of_cached (gives_deployment known failed)
      rw [Fallible.gives_call.mp called]
      exact .inr (.inl ⟨resource, c.id, List.mem_append_right _ (List.mem_singleton_self _)⟩)
  · cases he
    obtain ⟨_, resource, rfl⟩ := gives_cluster_error h₁
    exact .inl ⟨resource, List.mem_singleton_self _⟩

end Context

end OnCall
