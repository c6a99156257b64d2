import OnCall.Proofs.Contexts
import OnCall.Proofs.Traces

/-!
# What is fetched for an alert

A dossier keeps what was fetched, so over any number of contexts that are made for one alert every
resource is fetched until the platform has answered once, and then never again.

* `Dossier.told`: what the platforms answered first in some exchanges, resource by resource.
* `Requirements.resources`, `Resource.fetch?`: what is asked for, in which order, and by which call.
* `Gathers`: **getting resources one after the other** out of a dossier or from the platforms.
* `Context.gathers_build`: making a context gets the resources that are asked for.
* `Builds`: contexts made one after the other, each with needs of its own, whatever came of those
  before; `Build.Memoized` is what is fetched for one of them and what comes of it.
* `Context.fetched_once`: **no resource is fetched again once it was answered**, and every context is
  made out of what was answered first.
* `Rehearsal.builds`: any sequence of contexts made in a rehearsal.
-/

namespace OnCall

/-! ## 1. What was answered -/

namespace Exchange

/-- The resource that a call is to fetch. -/
def resource? : Exchange collaboration → Option Resource
  | ⟨Ask.call (.manager (.cluster _)), _⟩ => some .cluster
  | ⟨Ask.call (.deployment _), _⟩ => some .deployment
  | ⟨Ask.call (.openCloud _), _⟩ => some .cloud
  | _ => none

/-- The cluster record that the platform answered with. -/
def cluster? : Exchange collaboration → Option Cluster
  | ⟨Ask.call (.manager (.cluster _)), .ok c⟩ => some c
  | _ => none

/-- The deployment record that the platform answered with. -/
def deployment? : Exchange collaboration → Option Deployment
  | ⟨Ask.call (.deployment _), .ok v⟩ => some v
  | _ => none

/-- The cloud account that was opened. -/
def cloud? : Exchange collaboration → Option CloudClient
  | ⟨Ask.call (.openCloud _), .ok client⟩ => some client
  | _ => none

end Exchange

namespace Dossier

/-- A resource is on file. -/
def has (d : Dossier) : Resource → Bool
  | .cluster => d.cluster.isSome
  | .deployment => d.deployment.isSome
  | .cloud => d.cloud.isSome

/-- What is on file, and where nothing is, what another dossier has. -/
def or (d e : Dossier) : Dossier :=
  ⟨d.cluster.or e.cluster, d.deployment.or e.deployment, d.cloud.or e.cloud⟩

/-- **What was answered first** in some exchanges, resource by resource. -/
def told (log : Log) : Dossier :=
  ⟨log.findSome? Exchange.cluster?, log.findSome? Exchange.deployment?,
    log.findSome? Exchange.cloud?⟩

variable {d e : Dossier} {log : Log} {R : Resource}

@[simp] theorem told_nil : told [] = .empty := rfl

theorem or_empty (d : Dossier) : d.or .empty = d := by
  obtain ⟨cluster, deployment, cloud⟩ := d
  simp only [or, empty, Option.or_none]

theorem or_assoc (d e f : Dossier) : (d.or e).or f = d.or (e.or f) := by
  simp only [or, Option.or_assoc]

theorem told_append (first second : Log) : told (first ++ second) = (told first).or (told second) := by
  simp only [told, or, List.findSome?_append]

theorem told_cons (e : Exchange collaboration) (log : Log) :
    told (e :: log) = (told [e]).or (told log) := told_append [e] log

theorem has_or : (d.or e).has R = (d.has R || e.has R) := by
  cases R <;> exact Option.isSome_or

/-- What is on file stays there. -/
theorem has_or_left (there : d.has R = true) : (d.or e).has R = true := by
  rw [has_or, there, Bool.true_or]

theorem told_singleton (e : Exchange collaboration) :
    told [e] = ⟨e.cluster?, e.deployment?, e.cloud?⟩ := by
  simp only [told, List.findSome?_singleton]

/-- Only a call for a resource brings it. -/
theorem resource_of_has_told {e : Exchange collaboration} (brought : (told [e]).has R = true) :
    e.resource? = some R := by
  rw [told_singleton] at brought
  cases R with
  | cluster =>
    rw [has, Exchange.cluster?.eq_def] at brought
    split at brought
    · rfl
    · cases brought
  | deployment =>
    rw [has, Exchange.deployment?.eq_def] at brought
    split at brought
    · rfl
    · cases brought
  | cloud =>
    rw [has, Exchange.cloud?.eq_def] at brought
    split at brought
    · rfl
    · cases brought

/-- A call for a resource that is answered brings it. -/
theorem has_told_answered {c : Call} (v : c.Answer)
    (call : (c.exchange (.ok v)).resource? = some R) : (told [c.exchange (.ok v)]).has R = true := by
  cases c with
  | manager m =>
    cases m with
    | cluster id =>
      cases call
      rfl
    | _ => cases call
  | deployment id =>
    cases call
    rfl
  | openCloud cluster =>
    cases call
    rfl
  | _ => cases call

/-- A cluster record is put on file where there is none. -/
theorem or_told_cluster (none' : d.cluster = none) (id : String) (c : Cluster) :
    d.or (told [(Call.manager (.cluster id)).exchange (.ok c)]) = { d with cluster := some c } := by
  have brought : told [(Call.manager (.cluster id)).exchange (.ok c)] = ⟨some c, none, none⟩ := rfl
  simp only [brought, or, none', Option.none_or, Option.or_none]

/-- So is a deployment record. -/
theorem or_told_deployment (none' : d.deployment = none) (id : String) (v : Deployment) :
    d.or (told [(Call.deployment id).exchange (.ok v)]) = { d with deployment := some v } := by
  have brought : told [(Call.deployment id).exchange (.ok v)] = ⟨none, some v, none⟩ := rfl
  simp only [brought, or, none', Option.none_or, Option.or_none]

/-- So is a cloud account. -/
theorem or_told_cloud (none' : d.cloud = none) (c : Cluster) (client : CloudClient) :
    d.or (told [(Call.openCloud c).exchange (.ok client)]) = { d with cloud := some client } := by
  have brought : told [(Call.openCloud c).exchange (.ok client)] = ⟨none, none, some client⟩ := rfl
  simp only [brought, or, none', Option.none_or, Option.or_none]

/-- A call that was refused brings nothing. -/
theorem told_refused (c : Call) (raw : Failure) : told [c.exchange (.error raw)] = .empty := by
  rw [told_singleton]
  cases c with
  | manager call => cases call <;> rfl
  | pager call => rfl
  | cloud client call => rfl
  | openCloud cluster => rfl
  | deployment clusterId => rfl
  | verifyEgress target => rfl

end Dossier

/-! ## 2. Getting resources -/

/-- The resources that are asked for, in the order in which they are got. -/
def Requirements.resources (needs : Requirements) : List Resource :=
  .cluster ::
    ((if needs.deployment then [.deployment] else []) ++ if needs.cloud then [.cloud] else [])

/-- The call that fetches a resource, and the id of the cluster that it is made for. A deployment
and a cloud account are those of a cluster record. -/
def Resource.fetch? (alert : Alert) (cluster : Option Cluster) : Resource → Option (String × Call)
  | .cluster => some (alert.clusterId, .manager (.cluster alert.clusterId))
  | .deployment => cluster.map fun c => (c.id, .deployment c.id)
  | .cloud => cluster.map fun c => (c.id, .openCloud c)

/-- The call that fetches a resource is one for that resource, whatever it is answered with. -/
theorem Resource.resource_of_fetch? {alert : Alert} {cluster : Option Cluster} {R : Resource}
    {id : String} {c : Call} (call : R.fetch? alert cluster = some (id, c))
    (reply : Except Failure c.Answer) : (c.exchange reply).resource? = some R := by
  cases R with
  | cluster =>
    cases call
    rfl
  | deployment =>
    obtain ⟨_, rfl, same⟩ := Option.map_eq_some_iff.mp call
    cases same
    rfl
  | cloud =>
    obtain ⟨_, rfl, same⟩ := Option.map_eq_some_iff.mp call
    cases same
    rfl

/-- **Resources are got one after the other.** What is on file is not asked for; what is not is
fetched, and is on file from then on; the first that cannot be fetched ends it. -/
inductive Gathers (alert : Alert) :
    List Resource → Dossier → Log → Option ResolutionFailure → Dossier → Prop where
  | done (d : Dossier) : Gathers alert [] d [] none d
  | kept {R : Resource} {Rs : List Resource} {d d' : Dossier} {log : Log}
      {f : Option ResolutionFailure} (there : d.has R = true) (others : Gathers alert Rs d log f d') :
      Gathers alert (R :: Rs) d log f d'
  | fetched {R : Resource} {Rs : List Resource} {d d' : Dossier} {id : String} {c : Call}
      {log : Log} {f : Option ResolutionFailure} (missing : d.has R = false)
      (call : R.fetch? alert d.cluster = some (id, c)) (answer : c.Answer)
      (brought : (Dossier.told [c.exchange (.ok answer)]).has R = true)
      (others : Gathers alert Rs (d.or (.told [c.exchange (.ok answer)])) log f d') :
      Gathers alert (R :: Rs) d (c.exchange (.ok answer) :: log) f d'
  | refused {R : Resource} {Rs : List Resource} {d : Dossier} {id : String} {c : Call}
      (missing : d.has R = false) (call : R.fetch? alert d.cluster = some (id, c)) (raw : Failure) :
      Gathers alert (R :: Rs) d [c.exchange (.error raw)] (some ⟨R, id, raw⟩) d

namespace Gathers

variable {alert : Alert} {Rs Rs' : List Resource} {d d₁ d' : Dossier} {log first second : Log}
  {f : Option ResolutionFailure} {g : ResolutionFailure}

/-- What follows is got out of what is on file by then. -/
theorem append (h : Gathers alert Rs d first none d₁) (others : Gathers alert Rs' d₁ second f d') :
    Gathers alert (Rs ++ Rs') d (first ++ second) f d' := by
  generalize none' : (none : Option ResolutionFailure) = f₁ at h
  induction h with
  | done => exact others
  | kept there _ ih => exact .kept there (ih others none')
  | fetched missing call answer brought _ ih => exact .fetched missing call answer brought (ih others none')
  | refused => cases none'

/-- A failure ends it, whatever was to follow. -/
theorem stop (h : Gathers alert Rs d log (some g) d') (Rs' : List Resource) :
    Gathers alert (Rs ++ Rs') d log (some g) d' := by
  generalize failed : some g = f at h
  induction h with
  | done => cases failed
  | kept there _ ih => exact .kept there (ih failed)
  | fetched missing call answer brought _ ih => exact .fetched missing call answer brought (ih failed)
  | refused missing call raw => exact .refused missing call raw

/-- What is on file afterwards: what was, and else what was answered. -/
theorem after (h : Gathers alert Rs d log f d') : d' = d.or (.told log) := by
  induction h with
  | done => exact (Dossier.or_empty _).symm
  | kept _ _ ih => exact ih
  | fetched _ _ answer _ _ ih =>
    rw [ih, Dossier.or_assoc, ← Dossier.told_append, List.singleton_append]
  | refused _ _ raw => rw [Dossier.told_refused, Dossier.or_empty]

/-- If nothing failed, everything is on file. -/
theorem complete (h : Gathers alert Rs d log none d') : ∀ R ∈ Rs, d'.has R = true := by
  generalize none' : (none : Option ResolutionFailure) = f at h
  induction h with
  | done => exact fun _ mem => absurd mem List.not_mem_nil
  | kept there others ih =>
    refine List.forall_mem_cons.mpr ⟨?_, ih none'⟩
    rw [others.after]
    exact Dossier.has_or_left there
  | fetched _ _ _ brought others ih =>
    refine List.forall_mem_cons.mpr ⟨?_, ih none'⟩
    rw [others.after]
    refine Dossier.has_or_left ?_
    rw [Dossier.has_or, brought, Bool.or_true]
  | refused => cases none'

/-- **Only what is not on file is fetched**, when everything in front of it was got, and by the call
for it and for the cluster on file. -/
theorem everywhere (h : Gathers alert Rs d log f d') :
    log.Everywhere fun before e _ => ∃ earlier R later, Rs = earlier ++ R :: later ∧
      (∀ R' ∈ earlier, (d.or (.told before)).has R' = true) ∧
      (d.or (.told before)).has R = false ∧
      ∃ id c reply, R.fetch? alert (d.or (.told before)).cluster = some (id, c) ∧
        e = c.exchange reply := by
  induction h with
  | done => exact Log.everywhere_nil
  | kept there _ ih =>
    refine ih.imp fun before e behind => ?_
    rintro ⟨earlier, R, later, rfl, had, fetched⟩
    exact ⟨_ :: earlier, R, later, rfl,
      List.forall_mem_cons.mpr ⟨Dossier.has_or_left there, had⟩, fetched⟩
  | fetched missing call answer brought _ ih =>
    refine Log.everywhere_cons.mpr
      ⟨⟨[], _, _, rfl, List.forall_mem_nil _, ?_⟩, ih.imp fun before e behind => ?_⟩
    · rw [Dossier.told_nil, Dossier.or_empty]
      exact ⟨missing, _, _, _, call, rfl⟩
    · rintro ⟨earlier, R, later, rfl, had, fetched⟩
      rw [Dossier.or_assoc, ← Dossier.told_append, List.singleton_append] at had fetched
      refine ⟨_ :: earlier, R, later, rfl, List.forall_mem_cons.mpr ⟨?_, had⟩, fetched⟩
      rw [← List.singleton_append, Dossier.told_append, Dossier.has_or, Dossier.has_or, brought,
        Bool.true_or, Bool.or_true]
  | refused missing call raw =>
    refine Log.everywhere_singleton.mpr ⟨[], _, _, rfl, List.forall_mem_nil _, ?_⟩
    rw [Dossier.told_nil, Dossier.or_empty]
    exact ⟨missing, _, _, _, call, rfl⟩

/-- **What fails is the first resource that is missing**, with the failure of its call, which is the
last one. -/
theorem failed (h : Gathers alert Rs d log (some g) d') :
    ∃ earlier later before c, Rs = earlier ++ g.resource :: later ∧
      (∀ R ∈ earlier, d'.has R = true) ∧ d'.has g.resource = false ∧
      log = before ++ [c.exchange (.error g.raw)] ∧
      g.resource.fetch? alert d'.cluster = some (g.clusterId, c) := by
  generalize failed : some g = f at h
  induction h with
  | done => cases failed
  | kept there others ih =>
    obtain ⟨earlier, later, before, c, rfl, had, missing, rfl, call⟩ := ih failed
    refine ⟨_ :: earlier, later, before, c, rfl, ?_, missing, rfl, call⟩
    refine List.forall_mem_cons.mpr ⟨?_, had⟩
    rw [others.after]
    exact Dossier.has_or_left there
  | fetched _ _ answer brought others ih =>
    obtain ⟨earlier, later, before, c, rfl, had, missing, rfl, call⟩ := ih failed
    refine ⟨_ :: earlier, later, _ :: before, c, rfl, ?_, missing, rfl, call⟩
    refine List.forall_mem_cons.mpr ⟨?_, had⟩
    rw [others.after]
    refine Dossier.has_or_left ?_
    rw [Dossier.has_or, brought, Bool.or_true]
  | refused missing call raw =>
    cases failed
    exact ⟨[], _, [], _, rfl, List.forall_mem_nil _, missing, rfl, call⟩

/-- **Only the last call is refused**, and then that is what failed. -/
theorem refused_last (h : Gathers alert Rs d log f d') :
    log.Everywhere fun _ e behind => ∀ (c : Call) (raw : Failure), e = c.exchange (.error raw) →
      behind = [] ∧ ∃ R id, f = some ⟨R, id, raw⟩ ∧ e.resource? = some R := by
  induction h with
  | done => exact Log.everywhere_nil
  | kept _ _ ih => exact ih
  | fetched _ _ answer _ _ ih =>
    refine Log.everywhere_cons.mpr ⟨fun c raw same => ?_, ih⟩
    cases same
  | refused _ call raw =>
    refine Log.everywhere_singleton.mpr fun c raw' same => ?_
    cases same
    exact ⟨rfl, _, _, rfl, Resource.resource_of_fetch? call _⟩

/-- **What is missing is fetched**, whether an earlier fetch failed or there was none, as soon as
everything in front of it was got. -/
theorem fetches (h : Gathers alert Rs d log f d') {earlier later : List Resource} {R : Resource}
    (place : Rs = earlier ++ R :: later) (missing : d.has R = false)
    (had : ∀ R' ∈ earlier, d'.has R' = true) : ∃ e ∈ log, e.resource? = some R := by
  induction h generalizing earlier with
  | done => simp at place
  | kept there _ ih =>
    cases earlier with
    | nil =>
      obtain ⟨rfl, rfl⟩ := List.cons_eq_cons.mp place
      rw [missing] at there
      cases there
    | cons R₀ earlier =>
      obtain ⟨rfl, same⟩ := List.cons_eq_cons.mp place
      exact ih same missing (List.forall_mem_cons.mp had).2
  | @fetched _ _ d _ _ c log _ _ call answer brought _ ih =>
    -- the answer may have brought it, or it is still missing
    by_cases now : (Dossier.told [c.exchange (.ok answer)]).has R = true
    · exact ⟨_, List.mem_cons_self, Dossier.resource_of_has_told now⟩
    · cases earlier with
      | nil =>
        obtain ⟨rfl, rfl⟩ := List.cons_eq_cons.mp place
        exact absurd brought now
      | cons R₀ earlier =>
        obtain ⟨rfl, same⟩ := List.cons_eq_cons.mp place
        have still : (d.or (.told [c.exchange (.ok answer)])).has R = false := by
          rw [Dossier.has_or, missing, Bool.eq_false_iff.mpr now, Bool.or_false]
        obtain ⟨e, mem, resource⟩ := ih same still (List.forall_mem_cons.mp had).2
        exact ⟨e, List.mem_cons_of_mem _ mem, resource⟩
  | refused missing' call raw =>
    cases earlier with
    | nil =>
      obtain ⟨rfl, rfl⟩ := List.cons_eq_cons.mp place
      exact ⟨_, List.mem_singleton_self _, Resource.resource_of_fetch? call _⟩
    | cons R₀ earlier =>
      obtain ⟨rfl, same⟩ := List.cons_eq_cons.mp place
      rw [(List.forall_mem_cons.mp had).1] at missing'
      cases missing'

end Gathers

/-! ## 3. Making a context -/

/-- The failure of a program that gets resources, if it failed. -/
def ResolutionFailure.of? {α : Type} : Except ResolutionFailure α → Option ResolutionFailure
  | .ok _ => none
  | .error f => some f

namespace Resolving

variable {alert : Alert} {d d' : Dossier} {log : Log}

/-- Recalling a single resource gets it. -/
theorem gathers_cached {c : Call} {look : Dossier → Option c.Answer}
    {keep : c.Answer → Dossier → Dossier} {R : Resource} {id : String}
    {r : Except ResolutionFailure c.Answer} (call : R.fetch? alert d.cluster = some (id, c))
    (file : d.has R = (look d).isSome)
    (brings : ∀ v, (Dossier.told [c.exchange (.ok v)]).has R = true)
    (keeps : ∀ v, look d = none → keep v d = d.or (.told [c.exchange (.ok v)]))
    (h : Gives (cached look keep R id (Work.call c)) d log r d') :
    Gathers alert [R] d log (ResolutionFailure.of? r) d' := by
  rcases gives_cached.mp h with ⟨v, held, rfl, rfl, rfl⟩ |
    ⟨none', ⟨v, answered, rfl, rfl⟩ | ⟨raw, refused, rfl, rfl⟩⟩
  · exact .kept (by rw [file, held, Option.isSome_some]) (.done _)
  · rw [Fallible.gives_call.mp answered, keeps v none']
    exact .fetched (by rw [file, none', Option.isSome_none]) call v (brings v) (.done _)
  · rw [Fallible.gives_call.mp refused]
    exact .refused (by rw [file, none', Option.isSome_none]) call raw

theorem gathers_cluster {r : Except ResolutionFailure Cluster}
    (h : Gives (Resolving.cluster alert) d log r d') :
    Gathers alert [.cluster] d log (ResolutionFailure.of? r) d' := by
  rw [cluster_eq_cached] at h
  exact gathers_cached (c := .manager (.cluster alert.clusterId)) rfl rfl (fun _ => rfl)
    (fun v none' => (Dossier.or_told_cluster none' alert.clusterId v).symm) h

/-- What is asked for is got if it can be. -/
theorem gathers_ifNeeded {α : Type} {needed : Bool} {x : Resolving α} {R : Resource}
    {r : Except ResolutionFailure (Option α)}
    (gets : ∀ r₀, Gives x d log r₀ d' → Gathers alert [R] d log (ResolutionFailure.of? r₀) d')
    (h : Gives (ifNeeded needed x) d log r d') :
    Gathers alert (if needed then [R] else []) d log (ResolutionFailure.of? r) d' := by
  rcases gives_ifNeeded h with ⟨rfl, r₀, got, rfl⟩ | ⟨rfl, rfl, rfl, rfl⟩
  · have gathered := gets r₀ got
    cases r₀ <;> exact gathered
  · exact .done _

theorem gathers_deployment {needed : Bool} {c : Cluster}
    {r : Except ResolutionFailure (Option Deployment)} (known : d.cluster = some c)
    (h : Gives (ifNeeded needed (Resolving.deployment alert)) d log r d') :
    Gathers alert (if needed then [.deployment] else []) d log (ResolutionFailure.of? r) d' := by
  have call : Resource.fetch? alert d.cluster .deployment = some (c.id, .deployment c.id) := by
    rw [known]
    rfl
  exact gathers_ifNeeded (fun _ got => gathers_cached call rfl (fun _ => rfl)
    (fun v none' => (Dossier.or_told_deployment none' c.id v).symm) (gives_deployment known got)) h

theorem gathers_cloud {needed : Bool} {c : Cluster}
    {r : Except ResolutionFailure (Option CloudClient)} (known : d.cluster = some c)
    (h : Gives (ifNeeded needed (Resolving.cloud alert)) d log r d') :
    Gathers alert (if needed then [.cloud] else []) d log (ResolutionFailure.of? r) d' := by
  have call : Resource.fetch? alert d.cluster .cloud = some (c.id, .openCloud c) := by
    rw [known]
    rfl
  exact gathers_ifNeeded (fun _ got => gathers_cached call rfl (fun _ => rfl)
    (fun v none' => (Dossier.or_told_cloud none' c v).symm) (gives_cloud known got)) h

/-- What was asked for is what is on file, and nothing else is there. -/
theorem value_of_ifNeeded {α : Type} {needed : Bool} {x : Resolving α} {o : Option α}
    {look : Dossier → Option α} (gets : ∀ v, Gives x d log (.ok v) d' → look d' = some v)
    (h : Gives (ifNeeded needed x) d log (.ok o) d') :
    o = (if needed then look d' else none) ∧ o.isSome = needed := by
  rcases gives_ifNeeded h with ⟨rfl, _ | v, got, same⟩ | ⟨rfl, _, same, _⟩
  · cases same
  · rw [Except.ok.inj same, gets v got]
    exact ⟨rfl, rfl⟩
  · rw [Except.ok.inj same]
    exact ⟨rfl, rfl⟩

end Resolving

namespace Context

variable {alert : Alert} {settings : Settings} {analyst : Bool} {name : String}
  {needs : Requirements} {d d' : Dossier} {log : Log}

/-- **Making a context gets the resources that are asked for**, in their order. -/
theorem gathers_build {r : Except ResolutionFailure Context}
    (h : Resolving.Gives (build alert settings analyst name needs) d log r d') :
    Gathers alert needs.resources d log (ResolutionFailure.of? r) d' := by
  rw [build_eq] at h
  rcases Resolving.gives_bind.mp h with ⟨l₁, c, d₁, rest, rfl, h₁, h⟩ | ⟨f, rfl, h₁⟩
  · have known : d₁.cluster = some c := by
      obtain ⟨rfl, _⟩ := Resolving.gives_cluster_ok h₁
      rfl
    refine (Resolving.gathers_cluster h₁).append ?_
    rcases Resolving.gives_bind.mp h with ⟨l₂, v, d₂, rest, rfl, h₂, h⟩ | ⟨f, rfl, h₂⟩
    · refine (Resolving.gathers_deployment known h₂).append ?_
      have known := Resolving.cluster_deployment known h₂
      rcases Resolving.gives_bind.mp h with ⟨l₃, w, d₃, rest, rfl, h₃, h⟩ | ⟨f, rfl, h₃⟩
      · obtain ⟨rfl, rfl, rfl⟩ := Resolving.gives_pure.mp h
        rw [List.append_nil]
        exact Resolving.gathers_cloud known h₃
      · exact Resolving.gathers_cloud known h₃
    · exact (Resolving.gathers_deployment known h₂).stop _
  · exact (Resolving.gathers_cluster h₁).stop _

/-- A context carries what is on file, of what need not be there just what was asked for, and
starts with no line written. -/
structure Carries (alert : Alert) (settings : Settings) (analyst : Bool) (name : String)
    (needs : Requirements) (d : Dossier) (ctx : Context) : Prop where
  cluster : d.cluster = some ctx.cluster
  deployment : ctx.deployment = if needs.deployment then d.deployment else none
  deployed : ctx.deployment.isSome = needs.deployment
  cloud : ctx.cloud = if needs.cloud then d.cloud else none
  opened : ctx.cloud.isSome = needs.cloud
  notes : ctx.notes = .empty name
  rest : ctx.alert = alert ∧ ctx.investigation = name ∧ ctx.settings = settings ∧
    ctx.analyst = analyst

theorem carries_of_build {ctx : Context}
    (h : Resolving.Gives (build alert settings analyst name needs) d log (.ok ctx) d') :
    ctx.Carries alert settings analyst name needs d' := by
  obtain ⟨sameAlert, sameSettings, l₁, l₂, l₃, d₁, d₂, rfl, h₁, h₂, h₃⟩ := gives_build_ok h
  obtain ⟨sameName, sameAnalyst, blank⟩ := blank_of_build h
  have known₁ : d₁.cluster = some ctx.cluster := by
    obtain ⟨rfl, _⟩ := Resolving.gives_cluster_ok h₁
    rfl
  have known₂ := Resolving.cluster_deployment known₁ h₂
  obtain ⟨deployment, deployed⟩ := Resolving.value_of_ifNeeded (fun _ got =>
    Resolving.look_of_cached (Resolving.gives_deployment known₁ got) fun _ _ => rfl) h₂
  obtain ⟨cloud, opened⟩ := Resolving.value_of_ifNeeded (fun _ got =>
    Resolving.look_of_cached (Resolving.gives_cloud known₂ got) fun _ _ => rfl) h₃
  -- opening the cloud account leaves the deployment on file
  have kept : d'.deployment = d₂.deployment := by
    rcases Resolving.gives_ifNeeded h₃ with ⟨_, _, opening, _⟩ | ⟨_, _, _, rfl⟩
    · exact Resolving.part_cached Dossier.deployment (Resolving.gives_cloud known₂ opening)
        fun _ _ => rfl
    · rfl
  rw [← kept] at deployment
  exact ⟨cluster_of_build_ok h, deployment, deployed, cloud, opened, blank, sameAlert, sameName,
    sameSettings, sameAnalyst⟩

end Context

/-! ## 4. One context after the other -/

/-- A context that was made, or that could not be made. -/
structure Build where
  name : String
  needs : Requirements
  log : Log
  result : Except ResolutionFailure Context

/-- **Contexts are made one after the other for an alert**, whatever came of those before. -/
inductive Builds (alert : Alert) (settings : Settings) (analyst : Bool) :
    Dossier → List Build → Dossier → Prop where
  | none (d : Dossier) : Builds alert settings analyst d [] d
  | more {d d₁ d' : Dossier} {b : Build} {bs : List Build}
      (made : Resolving.Gives (Context.build alert settings analyst b.name b.needs) d b.log b.result
        d₁)
      (others : Builds alert settings analyst d₁ bs d') : Builds alert settings analyst d (b :: bs) d'

/-- **What is fetched for a context, and what comes of it**, when something was answered before. -/
structure Build.Memoized (alert : Alert) (settings : Settings) (analyst : Bool) (past : Log)
    (b : Build) : Prop where
  /-- Every exchange fetches what is asked for and was never answered, when everything in front of
  it was answered, for the cluster that was answered. -/
  fetched : b.log.Everywhere fun before e _ => ∃ earlier R later,
    b.needs.resources = earlier ++ R :: later ∧
      (∀ R' ∈ earlier, (Dossier.told (past ++ before)).has R' = true) ∧
      (Dossier.told (past ++ before)).has R = false ∧
      ∃ id c reply, R.fetch? alert (Dossier.told (past ++ before)).cluster = some (id, c) ∧
        e = c.exchange reply
  /-- What was never answered is fetched, even if that failed before. -/
  again : ∀ earlier R later, b.needs.resources = earlier ++ R :: later →
    (Dossier.told past).has R = false →
    (∀ R' ∈ earlier, (Dossier.told (past ++ b.log)).has R' = true) → ∃ e ∈ b.log, e.resource? = some R
  /-- There is a context just if everything that is asked for was answered by then. -/
  succeeds : (∃ ctx, b.result = .ok ctx) ↔
    ∀ R ∈ b.needs.resources, (Dossier.told (past ++ b.log)).has R = true
  /-- The context carries what was answered first. -/
  carries : ∀ ctx, b.result = .ok ctx →
    ctx.Carries alert settings analyst b.name b.needs (.told (past ++ b.log))
  /-- What failed is the first resource that is missing, as its call failed, which is the last. -/
  failed : ∀ f, b.result = .error f → ∃ earlier later before c,
    b.needs.resources = earlier ++ f.resource :: later ∧
      (∀ R ∈ earlier, (Dossier.told (past ++ b.log)).has R = true) ∧
      (Dossier.told (past ++ b.log)).has f.resource = false ∧
      b.log = before ++ [c.exchange (.error f.raw)] ∧
      f.resource.fetch? alert (Dossier.told (past ++ b.log)).cluster = some (f.clusterId, c)

section Builds

variable {alert : Alert} {settings : Settings} {analyst : Bool} {past : Log} {d d' : Dossier}
  {b : Build} {bs : List Build}

/-- A single context. -/
theorem Build.memoized
    (made : Resolving.Gives (Context.build alert settings analyst b.name b.needs) (.told past) b.log
      b.result d') : b.Memoized alert settings analyst past := by
  have gathers := Context.gathers_build made
  have after : d' = .told (past ++ b.log) := by rw [gathers.after, Dossier.told_append]
  refine ⟨?_, ?_, ⟨?_, ?_⟩, ?_, ?_⟩
  · exact gathers.everywhere.imp fun before e _ fetched => by rwa [Dossier.told_append]
  · intro earlier R later place missing had
    rw [← after] at had
    exact gathers.fetches place missing had
  · rintro ⟨ctx, ok⟩
    rw [ok] at gathers
    rw [← after]
    exact gathers.complete
  · intro had
    cases result : b.result with
    | ok ctx => exact ⟨ctx, rfl⟩
    | error f =>
      rw [result] at gathers
      obtain ⟨_, _, _, _, place, _, missing, _⟩ := gathers.failed
      have there := had f.resource (by rw [place]; simp)
      rw [← after, missing] at there
      cases there
  · intro ctx ok
    rw [ok] at made
    rw [← after]
    exact Context.carries_of_build made
  · intro f error
    rw [error] at gathers
    rw [← after]
    exact gathers.failed

/-- What is on file after some contexts: what was answered. -/
theorem Builds.after (h : Builds alert settings analyst d bs d') :
    d' = d.or (.told (bs.flatMap Build.log)) := by
  induction h with
  | none => exact (Dossier.or_empty _).symm
  | more made _ ih =>
    rw [ih, (Context.gathers_build made).after, List.flatMap_cons, Dossier.told_append,
      Dossier.or_assoc]

/-- Each context is made out of what was answered for those before. -/
theorem Builds.memoized (past : Log) (h : Builds alert settings analyst (.told past) bs d') :
    ∀ earlier b later, bs = earlier ++ b :: later →
      b.Memoized alert settings analyst (past ++ earlier.flatMap Build.log) := by
  generalize held : Dossier.told past = d at h
  induction h generalizing past with
  | none => exact fun _ _ _ place => by simp at place
  | more made _ ih =>
    subst held
    intro earlier b later place
    cases earlier with
    | nil =>
      obtain ⟨rfl, rfl⟩ := List.cons_eq_cons.mp place
      rw [List.flatMap_nil, List.append_nil]
      exact Build.memoized made
    | cons b₀ earlier =>
      obtain ⟨rfl, same⟩ := List.cons_eq_cons.mp place
      rw [List.flatMap_cons, ← List.append_assoc]
      refine ih _ ?_ earlier b later same
      rw [(Context.gathers_build made).after, Dossier.told_append]

/-- Over any number of contexts, what is fetched was never answered before. -/
theorem Builds.unanswered (h : Builds alert settings analyst d bs d') :
    Log.Everywhere (fun before e _ =>
      ∃ R, e.resource? = some R ∧ (d.or (.told before)).has R = false) (bs.flatMap Build.log) := by
  induction h with
  | none => exact Log.everywhere_nil
  | more made _ ih =>
    have gathers := Context.gathers_build made
    refine Log.everywhere_append_iff.mpr ⟨gathers.everywhere.imp ?_, ih.imp ?_⟩
    · rintro before e behind ⟨_, R, _, _, _, missing, _, _, reply, call, rfl⟩
      exact ⟨R, Resource.resource_of_fetch? call reply, missing⟩
    · rintro before e behind ⟨R, resource, missing⟩
      refine ⟨R, resource, ?_⟩
      rwa [gathers.after, Dossier.or_assoc, ← Dossier.told_append] at missing

end Builds

/-- **Every resource is fetched until the platform has answered once, and then never again**,
whatever contexts are made for an alert, and whatever fails. What is on file is what was answered,
and each context is made out of what was answered for those before it. -/
theorem Context.fetched_once {alert : Alert} {settings : Settings} {analyst : Bool}
    {bs : List Build} {d' : Dossier} (h : Builds alert settings analyst .empty bs d') :
    d' = .told (bs.flatMap Build.log) ∧
      Log.Everywhere (fun _ e behind => ∀ (c : Call) (v : c.Answer) (R : Resource),
        e = c.exchange (.ok v) → e.resource? = some R → ∀ e' ∈ behind, e'.resource? ≠ some R)
        (bs.flatMap Build.log) ∧
      ∀ earlier b later, bs = earlier ++ b :: later →
        b.Memoized alert settings analyst (earlier.flatMap Build.log) := by
  refine ⟨h.after, ?_, fun earlier b later place => ?_⟩
  · rintro before e behind place c v R rfl resource e' mem resource'
    obtain ⟨between, rest, rfl⟩ := List.append_of_mem mem
    have split : bs.flatMap Build.log =
        (before ++ c.exchange (.ok v) :: between) ++ e' :: rest := by
      rw [place, List.append_assoc, List.cons_append]
    obtain ⟨R', again, missing⟩ := h.unanswered _ _ _ split
    obtain rfl : R' = R := Option.some.inj (again.symm.trans resource')
    -- it stands behind the answer
    have there : (Dossier.told (before ++ c.exchange (.ok v) :: between)).has R' = true := by
      rw [Dossier.told_append, Dossier.told_cons, Dossier.has_or, Dossier.has_or,
        Dossier.has_told_answered v resource, Bool.true_or, Bool.or_true]
    rw [Dossier.has_or, there, Bool.or_true] at missing
    cases missing
  · exact h.memoized [] earlier b later place

/-- Make contexts one after the other in a rehearsal: what was made, what is on file, and the script
after it. -/
def Rehearsal.builds (alert : Alert) (settings : Settings) (analyst : Bool) :
    List (String × Requirements) → Dossier → Rehearsal → List Build × Dossier × Rehearsal
  | [], d, s => ([], d, s)
  | (name, needs) :: others, d, s =>
    let (log, (result, d), s) := s.run ((Context.build alert settings analyst name needs).run.run d)
    let (bs, d, s) := builds alert settings analyst others d s
    (⟨name, needs, log, result⟩ :: bs, d, s)

theorem Rehearsal.builds_made (alert : Alert) (settings : Settings) (analyst : Bool)
    (asked : List (String × Requirements)) (d : Dossier) (s : Rehearsal) :
    Builds alert settings analyst d (builds alert settings analyst asked d s).1
      (builds alert settings analyst asked d s).2.1 := by
  induction asked generalizing d s with
  | nil => exact .none d
  | cons next others ih => exact .more (Program.run_play _ _ s) (ih _ _)

/-- The cluster cannot be had at first, and the cloud account neither. -/
theorem Context.fetched_once_after_failures :
    let boom : Failure := .root (.reported "boom")
    let alert : Alert := ⟨"Q1", "cluster has gone missing", .triggered, "c1"⟩
    let made := Rehearsal.builds alert .standard false
      [("first", ⟨true, true⟩), ("second", ⟨true, true⟩), ("third", ⟨false, true⟩), ("last", .none)]
      .empty { Rehearsal.standard with
        faults := [(.getCluster, [some boom]), (.forCluster, [some boom])] }
    made.1.map (fun b => b.log.filterMap Exchange.resource?) =
        [[.cluster], [.cluster, .deployment, .cloud], [.cloud], []] ∧
      made.2.1 = .told (made.1.flatMap Build.log) := by
  intro boom alert made
  refine ⟨by rfl, ?_⟩
  exact (Context.fetched_once (Rehearsal.builds_made alert .standard false _ _ _)).1

end OnCall
