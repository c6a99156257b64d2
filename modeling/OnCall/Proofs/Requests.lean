import OnCall.Proofs.Contexts
import OnCall.Proofs.Retries

/-!
# What an attempt asks for

* `Call.kind`: what a call is for. An investigation can go on without some answers
  (`Call.isSecondary`), and not without others.
* `Ask.Suits`, `Ask.Admits`: a kind of request that covers everything an investigation, an attempt
  may make. Whether it covers the lifting of restrictions matters only to those that lift.
* `Investigation.only_run`, `Desk.only_attempt_of`: **what an attempt asks for**, in terms of any
  such kind; one short lemma for each program.
-/

namespace OnCall

/-! ## 1. Kinds of calls -/

/-- What a call is for. -/
inductive CallKind where
  /-- To make the context of an attempt. -/
  | resource
  /-- An investigation cannot go on without the answer. -/
  | evidence
  /-- An investigation goes on without the answer. -/
  | background
  /-- To probe the egress of a cluster. -/
  | egress
  /-- To delete a restriction. -/
  | deletion
  /-- To post something or to write to an incident. -/
  | write
deriving DecidableEq

namespace Call

def kind : Call → CallKind
  | .manager (.cluster _) => .resource
  | .openCloud _ => .resource
  | .deployment _ => .resource
  | .manager (.expectedNodes _) => .evidence
  | .manager (.restrictions _) => .evidence
  | .manager (.advisories _ _) => .evidence
  | .cloud _ (.stoppedInstances _) => .evidence
  | .cloud _ (.runningInstances _) => .evidence
  | .cloud _ (.stopEvents _ _ _) => .evidence
  | .cloud _ (.routeTables _) => .evidence
  | .manager (.stateTransitions _) => .background
  | .manager (.organization _) => .background
  | .manager (.accessProtection _) => .background
  | .cloud _ (.subnets _) => .egress
  | .cloud _ (.securityGroup _) => .egress
  | .verifyEgress _ => .egress
  | .manager (.deleteRestriction _ _) => .deletion
  | .manager (.postRestriction _ _) => .write
  | .manager (.postAdvisory _ _) => .write
  | .pager _ => .write

/-- An investigation goes on without the answer. -/
def isSecondary (c : Call) : Bool := c.kind = .background || c.kind = .egress

end Call

/-- **A kind of request that covers what an investigation may make**; `lifts` says whether it may
lift restrictions, which are then deleted and counted. -/
structure Ask.Suits (P : Ask → Prop) (lifts : Prop) : Prop where
  evidence : ∀ c : Call, c.kind = .evidence → P (.call c)
  background : ∀ c : Call, c.kind = .background → P (.call c)
  egress : ∀ c : Call, c.kind = .egress → P (.call c)
  analyze : ∀ request limit, P (.analyze request limit)
  pause : ∀ span, P (.pause span)
  now : P .now
  delete : lifts → ∀ clusterId id, P (.call (.manager (.deleteRestriction clusterId id)))
  removed : lifts → P (.count .restrictionsRemoved)

/-- **A kind of request that covers what an attempt may make**, which also makes its context. -/
structure Ask.Admits (P : Ask → Prop) (lifts : Prop) : Prop where
  look : ∀ c : Call, c.kind ≠ .deletion → c.kind ≠ .write → P (.call c)
  analyze : ∀ request limit, P (.analyze request limit)
  pause : ∀ span, P (.pause span)
  now : P .now
  delete : lifts → ∀ clusterId id, P (.call (.manager (.deleteRestriction clusterId id)))
  removed : lifts → P (.count .restrictionsRemoved)

namespace Ask.Admits

variable {P : Ask → Prop} {lifts : Prop}

theorem resource (h : Admits P lifts) (c : Call) (kind : c.kind = .resource) : P (.call c) :=
  h.look c (by rw [kind]; decide) (by rw [kind]; decide)

theorem suits (h : Admits P lifts) : Suits P lifts where
  evidence := fun c kind => h.look c (by rw [kind]; decide) (by rw [kind]; decide)
  background := fun c kind => h.look c (by rw [kind]; decide) (by rw [kind]; decide)
  egress := fun c kind => h.look c (by rw [kind]; decide) (by rw [kind]; decide)
  analyze := h.analyze
  pause := h.pause
  now := h.now
  delete := h.delete
  removed := h.removed

end Ask.Admits

/-! ## 2. Programs -/

variable {P : Ask → Prop} {α : Type}

theorem RetryPolicy.only_runFrom {x : Fallible α} {backoff : Backoff} (hx : Fallible.Only P x)
    (hp : ∀ span, P (.pause span)) (left attempt : Nat) :
    Program.Only (I := collaboration) P
      (runFrom backoff Work.pause (fun _ => pure true) x.run attempt left) := by
  induction left generalizing attempt with
  | zero => exact hx
  | succ left ih =>
    refine Program.only_bind hx fun r => ?_
    cases r with
    | ok a => trivial
    | error f => exact ⟨hp _, fun _ => ih (attempt + 1)⟩

theorem Fallible.only_retried {x : Fallible α} {policy : RetryPolicy} (hx : Fallible.Only P x)
    (hp : ∀ span, P (.pause span)) : Fallible.Only P (Work.retried policy x) :=
  RetryPolicy.only_runFrom hx hp _ 1

/-- A conclusion with the lines so far asks for nothing. -/
theorem Inquiry.only_finish {finish : Conclusion.Draft → Conclusion} :
    Inquiry.Only P (do return finish (← Inquiry.draft)) :=
  Inquiry.only_bind Inquiry.only_draft fun _ => Inquiry.only_pure _

/-- Nor does it after one more line. -/
theorem Inquiry.only_noted {mark : Mark} {message : String}
    {finish : Conclusion.Draft → Conclusion} :
    Inquiry.Only P (do
      Inquiry.note mark message
      return finish (← Inquiry.draft)) :=
  Inquiry.only_bind (Inquiry.only_note _ _) fun _ => Inquiry.only_finish

namespace EgressFinding

variable (egress : ∀ c : Call, c.kind = .egress → P (.call c))

include egress

theorem only_target (ctx : Context) : Fallible.Only P (target ctx) := by
  unfold target
  refine Fallible.only_bind (Fallible.only_ofExcept _) fun client => ?_
  refine Fallible.only_bind (Fallible.only_ofExcept _) fun infraId => ?_
  have grouped (subnetIds : List String) : Fallible.Only P (do
      let group ← liftM (n := Fallible) (Work.securityGroup client infraId).run
      return EgressTarget.mk ctx.cluster.id ctx.cluster.region subnetIds group.toOption
        ctx.cluster.hosted) :=
    Fallible.only_bind (Fallible.only_liftM (Fallible.only_call (egress _ rfl))) fun _ =>
      Fallible.only_pure _
  have chosen (subnetIds : List String) : Fallible.Only P (do
      if subnetIds.isEmpty then throw (.root (.noSubnets infraId))
      let group ← liftM (n := Fallible) (Work.securityGroup client infraId).run
      return EgressTarget.mk ctx.cluster.id ctx.cluster.region subnetIds group.toOption
        ctx.cluster.hosted) := by
    split
    · exact Fallible.only_bind (Fallible.only_throw _) fun _ => grouped subnetIds
    · exact grouped subnetIds
  split
  · exact Fallible.only_bind (Fallible.only_call (egress _ rfl)) chosen
  · exact Fallible.only_bind (Fallible.only_pure _) chosen

theorem only_run (ctx : Context) : Program.Only (I := collaboration) P (run ctx) := by
  refine Program.only_bind (Fallible.only_bind (only_target egress ctx) fun _ =>
    Fallible.only_call (egress _ rfl)) fun r => ?_
  split <;> trivial

end EgressFinding

namespace Restriction

/-- Deleting asks for nothing but the deletion of these ids, and waits. -/
theorem only_deleteAll {retry : RetryPolicy} {clusterId : String} {ids : List String}
    (pauses : ∀ span, P (.pause span))
    (deletes : ∀ id ∈ ids, P (.call (.manager (.deleteRestriction clusterId id)))) :
    Fallible.Only P (deleteAll retry clusterId ids) := by
  induction ids with
  | nil => exact Fallible.only_pure ()
  | cons id ids ih =>
    refine Fallible.only_bind (Fallible.only_retried
      (Fallible.only_call (deletes id (List.mem_cons_self ..))) pauses) fun _ => ?_
    exact ih fun id' h => deletes id' (List.mem_cons_of_mem _ h)

/-- Lifting looks at the history and at what is listed, and deletes. -/
theorem only_lift {s : Settings} {cluster : Cluster} {r : Restriction} {now : Instant}
    (looks : ∀ filter, P (.call (.manager (.advisories cluster filter))))
    (lists : P (.call (.manager (.restrictions cluster.id)))) (pauses : ∀ span, P (.pause span))
    (deletes : ∀ id, P (.call (.manager (.deleteRestriction cluster.id id)))) :
    Fallible.Only P (lift s cluster r now) := by
  unfold lift changesWithin
  refine Fallible.only_bind (Fallible.only_bind (Fallible.only_call (looks _)) fun _ =>
    Fallible.only_pure _) fun changes => ?_
  split
  · exact Fallible.only_pure _
  · refine Fallible.only_bind (Fallible.only_call lists) fun listed => ?_
    dsimp only
    split
    · exact Fallible.only_pure _
    · exact Fallible.only_bind (only_deleteAll pauses fun id _ => deletes id) fun _ =>
        Fallible.only_pure _

end Restriction

/-! ## 3. Investigations -/

namespace Unreachable

variable (ctx : Context) (now : Instant)

/-- Who stopped the instances is found out by calls that all have to be answered. -/
theorem only_inspect (evidence : ∀ c : Call, c.kind = .evidence → P (.call c)) :
    Inquiry.Only P (inspect ctx now) := by
  have required {text : String} {c : Call} (kind : c.kind = .evidence) :
      Inquiry.Only P (Inquiry.require text (Work.call c)) :=
    Inquiry.only_require (Fallible.only_call (evidence c kind))
  unfold inspect
  refine Inquiry.only_bind (Inquiry.only_ofExcept _) fun client => ?_
  refine Inquiry.only_bind (Inquiry.only_ofExcept _) fun infraId => ?_
  refine Inquiry.only_bind (required rfl) fun stopped => ?_
  refine Inquiry.only_bind (required rfl) fun running => ?_
  refine Inquiry.only_bind (required rfl) fun expected => ?_
  split
  · exact Inquiry.only_pure _
  · refine Inquiry.only_bind (required rfl) fun events => ?_
    exact Inquiry.only_bind (Inquiry.only_ofExcept _) fun _ => Inquiry.only_pure _

theorem only_noteHibernation (background : ∀ c : Call, c.kind = .background → P (.call c)) :
    Inquiry.Only P (noteHibernation ctx now) := by
  unfold noteHibernation
  refine Inquiry.only_bind (Inquiry.only_attempt (Fallible.only_call (background _ rfl)))
    fun r => ?_
  split
  · dsimp only
    split
    · exact Inquiry.only_note _ _
    · exact Inquiry.only_pure _
  · exact Inquiry.only_note _ _

theorem only_concludeByEgress (egress : ∀ c : Call, c.kind = .egress → P (.call c)) :
    Inquiry.Only P (concludeByEgress ctx) := by
  unfold concludeByEgress
  refine Inquiry.only_bind (Inquiry.only_liftM (EgressFinding.only_run egress ctx))
    fun finding => ?_
  split
  · exact Inquiry.only_noted
  · split
    · exact Inquiry.only_bind (Inquiry.only_note _ _) fun _ => Inquiry.only_noted
    · exact Inquiry.only_bind (Inquiry.only_note _ _) fun _ => Inquiry.only_noted
  · exact Inquiry.only_noted

theorem only_triggered {lifts : Prop} (suits : Ask.Suits P lifts) :
    Inquiry.Only P (triggered ctx now) := by
  unfold triggered
  refine Inquiry.only_bind (only_inspect ctx now suits.evidence) fun found => ?_
  refine Inquiry.only_bind (Inquiry.only_note _ _) fun _ => ?_
  have rest : Inquiry.Only P (do
      noteHibernation ctx now
      concludeByEgress ctx) :=
    Inquiry.only_bind (only_noteHibernation ctx now suits.background) fun _ =>
      only_concludeByEgress ctx suits.egress
  dsimp only
  split
  · exact Inquiry.only_bind (Inquiry.only_note _ _) fun _ => rest
  · exact Inquiry.only_bind (Inquiry.only_note _ _) fun _ => rest
  · exact Inquiry.only_bind (Inquiry.only_note _ _) fun _ => Inquiry.only_noted

section Recovered

variable (evidence : ∀ c : Call, c.kind = .evidence → P (.call c)) (pauses : ∀ span, P (.pause span))
  (deletes : ∀ clusterId id, P (.call (.manager (.deleteRestriction clusterId id))))
  (removed : P (.count .restrictionsRemoved))

include evidence pauses deletes removed

theorem only_liftOne (change : Restriction.Change) : Inquiry.Only P (liftOne ctx now change) := by
  unfold liftOne
  have lifting : Fallible.Only P
      (Restriction.lift ctx.settings ctx.cluster change.restriction now) :=
    Restriction.only_lift (fun _ => evidence _ rfl) (evidence _ rfl) pauses fun _ => deletes _ _
  refine Inquiry.only_bind (Inquiry.only_require lifting) fun lifted => ?_
  split
  · refine Inquiry.only_bind (Inquiry.only_liftM (Program.only_request removed)) fun _ => ?_
    exact Inquiry.only_bind (Inquiry.only_note _ _) fun _ => Inquiry.only_pure _
  · exact Inquiry.only_bind (Inquiry.only_note _ _) fun _ => Inquiry.only_pure _
  · exact Inquiry.only_pure _

theorem only_recovered : Inquiry.Only P (recovered ctx now) := by
  have lifting := only_liftOne ctx now evidence pauses deletes removed
  unfold recovered
  refine Inquiry.only_bind (Inquiry.only_ofExcept _) fun client => ?_
  refine Inquiry.only_bind (Inquiry.only_ofExcept _) fun infraId => ?_
  refine Inquiry.only_bind
    (Inquiry.only_require (Fallible.only_call (evidence _ rfl))) fun running => ?_
  refine Inquiry.only_bind
    (Inquiry.only_require (Fallible.only_call (evidence _ rfl))) fun expected => ?_
  split
  · exact Inquiry.only_noted
  · refine Inquiry.only_bind (Inquiry.only_note _ _) fun _ => ?_
    refine Inquiry.only_bind (lifting _) fun stoppedFlaps => ?_
    refine Inquiry.only_bind (lifting _) fun egressFlaps => ?_
    split
    · exact Inquiry.only_finish
    · exact Inquiry.only_finish

end Recovered

end Unreachable

namespace Provisioning

theorem only_withoutRoute (evidence : ∀ c : Call, c.kind = .evidence → P (.call c))
    (client : CloudClient) (subnetIds : List String) :
    Inquiry.Only P (withoutRoute client subnetIds) := by
  induction subnetIds with
  | nil => exact Inquiry.only_pure _
  | cons subnet others ih =>
    refine Inquiry.only_bind
      (Inquiry.only_require (Fallible.only_call (evidence _ rfl))) fun tables => ?_
    exact Inquiry.only_bind ih fun _ => Inquiry.only_pure _

variable (ctx : Context)

theorem only_unroutedSubnets (evidence : ∀ c : Call, c.kind = .evidence → P (.call c)) :
    Inquiry.Only P (unroutedSubnets ctx) := by
  unfold unroutedSubnets
  split
  · exact Inquiry.only_pure _
  · refine Inquiry.only_bind (Inquiry.only_ofExcept _) fun client => ?_
    refine Inquiry.only_bind (only_withoutRoute evidence _ _) fun missing => ?_
    dsimp only
    split
    · exact Inquiry.only_bind (Inquiry.only_note _ _) fun _ => Inquiry.only_pure _
    · exact Inquiry.only_pure _

theorem only_noteAccessProtection (background : ∀ c : Call, c.kind = .background → P (.call c)) :
    Inquiry.Only P (noteAccessProtection ctx) := by
  unfold noteAccessProtection
  refine Inquiry.only_bind (Inquiry.only_attempt (Fallible.only_call (background _ rfl)))
    fun r => ?_
  split
  · exact Inquiry.only_note _ _
  · exact Inquiry.only_pure _
  · exact Inquiry.only_note _ _

theorem only_concludeByEgress (egress : ∀ c : Call, c.kind = .egress → P (.call c)) :
    Inquiry.Only P (concludeByEgress ctx) := by
  unfold concludeByEgress
  refine Inquiry.only_bind (Inquiry.only_liftM (EgressFinding.only_run egress ctx))
    fun finding => ?_
  split <;> exact Inquiry.only_noted

theorem only_run {lifts : Prop} (suits : Ask.Suits P lifts) : Inquiry.Only P (run ctx) := by
  unfold run
  split
  · exact Inquiry.only_noted
  · refine Inquiry.only_bind (Inquiry.only_note _ _) fun _ => ?_
    refine Inquiry.only_bind (only_noteAccessProtection ctx suits.background) fun _ => ?_
    refine Inquiry.only_bind (only_unroutedSubnets ctx suits.evidence) fun missing => ?_
    split
    · exact only_concludeByEgress ctx suits.egress
    · exact Inquiry.only_noted

end Provisioning

theorem Assisted.only_run (ctx : Context)
    (background : ∀ c : Call, c.kind = .background → P (.call c))
    (analyze : ∀ request limit, P (.analyze request limit)) : Inquiry.Only P (Assisted.run ctx) := by
  unfold Assisted.run
  split
  · refine Inquiry.only_bind
      (Inquiry.only_attempt (Fallible.only_call (background _ rfl))) fun _ => ?_
    refine Inquiry.only_bind Inquiry.only_get fun _ => ?_
    refine Inquiry.only_bind ?_ fun _ => Inquiry.only_finish
    refine Inquiry.only_bind
      (Inquiry.only_liftM (Program.only_request (analyze _ _))) fun answer => ?_
    split
    · split <;> exact Inquiry.only_note _ _
    · exact Inquiry.only_note _ _
  · exact Inquiry.only_noted

namespace Investigation

/-- Whether the investigation is one that lifts restrictions. -/
def Lifts (i : Investigation) (alert : Alert) : Prop :=
  i = .unreachable ∧ alert.hasCleared = true

theorem only_steps (i : Investigation) (ctx : Context) (now : Instant)
    (suits : Ask.Suits P (i.Lifts ctx.alert)) : Inquiry.Only P (i.steps ctx now) := by
  cases i with
  | unreachable =>
    show Inquiry.Only _ (if ctx.alert.hasCleared then Unreachable.recovered ctx now
      else Unreachable.triggered ctx now)
    split
    · rename_i cleared
      have lifts : (Investigation.unreachable.Lifts ctx.alert) = True :=
        eq_true ⟨rfl, cleared⟩
      rw [lifts] at suits
      exact Unreachable.only_recovered ctx now suits.evidence suits.pause (suits.delete trivial)
        (suits.removed trivial)
    · exact Unreachable.only_triggered ctx now suits
  | provisioning => exact Provisioning.only_run ctx suits
  | assisted => exact Assisted.only_run ctx suits.background suits.analyze

/-- **What an investigation asks for.** -/
theorem only_run (i : Investigation) (ctx : Context) (suits : Ask.Suits P (i.Lifts ctx.alert)) :
    Inquiry.Only P (i.run ctx) := by
  refine Inquiry.only_bind (Inquiry.only_liftM (Program.only_request suits.now)) fun now => ?_
  refine Inquiry.only_tryCatch (only_steps i ctx now suits) fun failure => ?_
  split
  · exact Inquiry.only_noted
  · exact Inquiry.only_throw _

end Investigation

/-! ## 4. Attempts -/

namespace Resolving

variable {alert : Alert} (resource : ∀ c : Call, c.kind = .resource → P (.call c))

theorem only_ifNeeded {needed : Bool} {x : Resolving α} (hx : Only P x) :
    Only P (ifNeeded needed x) := by
  unfold ifNeeded
  split
  · rw [map_eq_pure_bind]
    exact only_bind hx fun _ => only_pure _
  · exact only_pure _

include resource

theorem only_cluster : Only P (Resolving.cluster alert) := by
  rw [cluster_eq_cached]
  exact only_cached (Fallible.only_call (resource _ rfl))

theorem only_deployment : Only P (Resolving.deployment alert) := by
  rw [deployment_eq_cached]
  exact only_bind (only_cluster resource) fun _ =>
    only_cached (Fallible.only_call (resource _ rfl))

theorem only_cloud : Only P (Resolving.cloud alert) := by
  rw [cloud_eq_cached]
  exact only_bind (only_cluster resource) fun _ =>
    only_cached (Fallible.only_call (resource _ rfl))

/-- The context of an attempt is made of resources. -/
theorem only_build {settings : Settings} {analyst : Bool} {name : String} {needs : Requirements} :
    Only P (Context.build alert settings analyst name needs) := by
  rw [Context.build_eq]
  refine only_bind (only_cluster resource) fun _ => ?_
  refine only_bind (only_ifNeeded (only_deployment resource)) fun _ => ?_
  exact only_bind (only_ifNeeded (only_cloud resource)) fun _ => only_pure _

end Resolving

/-- **What an attempt asks for**, whether it gets to its investigation or not. -/
theorem Desk.only_attempt_of {d : Desk} {i : Investigation} {alert : Alert}
    (admits : Ask.Admits P (i.Lifts alert)) : Filing.Only P (d.attempt i alert) := by
  have built {needs : Requirements} :
      Resolving.Only P (Context.build alert d.settings d.analyst i.name needs) :=
    Resolving.only_build admits.resource
  refine Filing.only_bind_run built fun s log r s₁ resolved => ?_
  cases r with
  | ok ctx =>
    have same : ctx.alert = alert := (Context.gives_build_ok resolved).1
    refine Filing.only_bind (Filing.only_liftM ?_) fun _ => Filing.only_pure _
    exact Investigation.only_run i ctx (same ▸ admits.suits) _
  | error f =>
    dsimp only
    split
    · refine Filing.only_bind built fun r => ?_
      cases r <;> exact Filing.only_pure _
    · exact Filing.only_pure _

end OnCall
