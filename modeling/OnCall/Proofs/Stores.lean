import OnCall.Proofs.Attempts
import OnCall.Proofs.Holding
import OnCall.Proofs.Lifts

/-!
# The restrictions on a cluster along a run

Cluster management keeps the restrictions on each cluster. Here they are followed through the
exchanges of a run, whatever the other platforms answer and whichever calls fail.

* `Ledger.After`: the ledger of a cluster before and after some exchanges; `Ask.Leaving` are the
  requests that leave its restrictions as they are.
* `Ledger.Loses`: only restrictions for one reason went.
* `Ledger.lift_spec`: **lifting a restriction** takes only what was set for its reason, all of it if
  it says so, and nothing if it does not.
-/

namespace OnCall

open Restriction (Change)

/-! ## 1. Ledgers along a run -/

/-- A request that leaves the restrictions on a cluster as they are. -/
def Ask.Leaving (clusterId : String) : Ask → Prop
  | .call (.manager (.postRestriction id _)) => id ≠ clusterId
  | .call (.manager (.deleteRestriction id _)) => id ≠ clusterId
  | _ => True

theorem Ask.Inquiring.leaving {clusterId : String} {q : Ask} (h : q.Inquiring False) :
    q.Leaving clusterId := by
  cases q with
  | call c =>
    cases c with
    | manager call => cases call <;> first | exact h.elim | trivial
    | _ => trivial
  | _ => trivial

theorem Restriction.step_leaving {clusterId : String} {held held' : List Restriction}
    {e : Exchange collaboration} (leaving : Ask.Leaving clusterId e.request)
    (step : Restriction.Step clusterId held e held') : held' = held := by
  obtain ⟨q, reply⟩ := e
  cases q with
  | call c =>
    cases c with
    | manager call =>
      cases call with
      | restrictions id =>
        cases reply with
        | ok listed => exact step.2
        | error f => exact step
      | postRestriction id r =>
        cases reply with
        | ok _ => exact step.2 leaving
        | error f => exact step
      | deleteRestriction id restrictionId =>
        cases reply with
        | ok _ => exact step.2 leaving
        | error f => exact step
      | _ => exact step
    | _ => exact step
  | _ => exact step

namespace Ledger

/-- The ledger of a cluster before and after an exchange. Of the history nothing is said. -/
def Step (clusterId : String) (s : Ledger) (e : Exchange collaboration) (t : Ledger) : Prop :=
  Restriction.Step clusterId s.restrictions e t.restrictions

/-- **The ledger of a cluster before and after some exchanges.** A posted restriction gets an id that
no other one has. -/
def After (clusterId : String) (s : Ledger) : Log → Ledger → Prop
  | [], t => t = s
  | e :: log, t => ∃ next, s.Step clusterId e next ∧ After clusterId next log t

variable {clusterId : String} {s t u : Ledger} {log first second : Log} {x y : Change}

theorem after_append :
    s.After clusterId (first ++ second) t ↔
      ∃ mid, s.After clusterId first mid ∧ mid.After clusterId second t := by
  induction first generalizing s with
  | nil =>
    constructor
    · exact fun h => ⟨s, rfl, h⟩
    · intro ⟨mid, same, h⟩
      rw [← same]
      exact h
  | cons e first ih =>
    constructor
    · intro ⟨next, step, rest⟩
      obtain ⟨mid, before, behind⟩ := ih.mp rest
      exact ⟨mid, ⟨next, step, before⟩, behind⟩
    · intro ⟨mid, ⟨next, step, before⟩, behind⟩
      exact ⟨next, step, ih.mpr ⟨mid, before, behind⟩⟩

theorem after_singleton {e : Exchange collaboration} :
    s.After clusterId [e] t ↔ s.Step clusterId e t := by
  constructor
  · intro ⟨next, step, same⟩
    rw [show t = next from same]
    exact step
  · exact fun step => ⟨t, step, rfl⟩

theorem step_leaving {e : Exchange collaboration} (leaving : Ask.Leaving clusterId e.request)
    (step : s.Step clusterId e t) : t.restrictions = s.restrictions :=
  Restriction.step_leaving leaving step

/-- Requests that leave the restrictions as they are. -/
theorem after_leaving (leaving : ∀ e ∈ log, Ask.Leaving clusterId e.request)
    (after : s.After clusterId log t) : t.restrictions = s.restrictions := by
  induction log generalizing s with
  | nil => rw [show t = s from after]
  | cons e log ih =>
    obtain ⟨next, step, rest⟩ := after
    rw [ih (fun e he => leaving e (List.mem_cons_of_mem _ he)) rest,
      step_leaving (leaving e (List.mem_cons_self ..)) step]

/-- What every failed try may do to the restrictions, any number of them may do. -/
theorem after_retries {σ α : Type} {step : σ → Log → Except Failure α → σ → Prop}
    {between : Failure → Log → Prop} {R : Ledger → Ledger → Prop} {n : Nat} {a a' : σ}
    (waits : ∀ f mid, between f mid → ∀ e ∈ mid, Ask.Leaving clusterId e.request)
    (same : ∀ s t : Ledger, t.restrictions = s.restrictions → R s t)
    (trans : ∀ s t u, R s t → R t u → R s u)
    (failed : ∀ a l f a' s t, step a l (.error f) a' → s.After clusterId l t → R s t)
    (tries : Retries step between n a log a') (after : s.After clusterId log t) : R s t := by
  induction tries generalizing s with
  | none => exact same s t (by rw [show t = s from after])
  | more ran next _ ih =>
    obtain ⟨s₁, first, rest⟩ := after_append.mp after
    obtain ⟨s₂, waited, later⟩ := after_append.mp rest
    exact trans s s₁ t (failed _ _ _ _ s s₁ ran first)
      (trans s₁ s₂ t (same s₁ s₂ (after_leaving (waits _ _ next) waited)) (ih later))

end Ledger

theorem Pausing.leaving {clusterId : String} {f : Failure} {mid : Log} (h : Pausing f mid) :
    ∀ e ∈ mid, Ask.Leaving clusterId e.request := by
  obtain ⟨span, rfl⟩ := h
  intro e he
  rw [List.mem_singleton.mp he]
  trivial

theorem Repeating.leaving {clusterId : String} {f : Failure} {mid : Log} (h : Repeating f mid) :
    ∀ e ∈ mid, Ask.Leaving clusterId e.request := by
  obtain ⟨_, span, rfl⟩ := h
  intro e he
  rcases List.mem_cons.mp he with rfl | he
  · trivial
  · rw [List.mem_singleton.mp he]
    trivial

/-! ## 2. Deleting -/

/-- An id is given once, so the first restriction with it is the only one. -/
theorem Restriction.eraseP_id_eq_filter {id : String} {held : List Restriction}
    (distinct : (held.filterMap Restriction.id).Nodup) :
    (held.eraseP fun r => r.id = some id) = held.filter fun r => r.id ≠ some id := by
  induction held with
  | nil => rfl
  | cons r held ih =>
    by_cases this : r.id = some id
    · rw [List.filterMap_cons_some this, List.nodup_cons] at distinct
      have others : ∀ e ∈ held, decide (e.id ≠ some id) = true := fun e he =>
        decide_eq_true fun same => distinct.1 (List.mem_filterMap.mpr ⟨e, he, same⟩)
      rw [List.eraseP_cons_of_pos (by simp [this]), List.filter_cons_of_neg (by simp [this]),
        List.filter_eq_self.mpr others]
    · have rest : (held.filterMap Restriction.id).Nodup :=
        distinct.sublist ((List.sublist_cons_self r held).filterMap _)
      rw [List.eraseP_cons_of_neg (by simp [this]), List.filter_cons_of_pos (by simp [this]), ih rest]

/-- If no ids are to go, nothing goes. -/
theorem Restriction.filter_ids_nil (held : List Restriction) :
    (held.filter fun e => decide (∀ id ∈ ([] : List String), e.id ≠ some id)) = held :=
  List.filter_eq_self.mpr fun _ _ => decide_eq_true fun _ mem => absurd mem List.not_mem_nil

/-- One id goes, and then some others. -/
theorem Restriction.filter_ids_cons (id : String) (ids : List String) (held : List Restriction) :
    ((held.filter fun e => e.id ≠ some id).filter fun e =>
        decide (∀ other ∈ ids, e.id ≠ some other)) =
      held.filter fun e => decide (∀ other ∈ id :: ids, e.id ≠ some other) := by
  rw [List.filter_filter]
  refine List.filter_congr fun e _ => ?_
  simp only [List.mem_cons, forall_eq_or_imp, Bool.decide_and]
  exact Bool.and_comm _ _

namespace Ledger

variable {clusterId id : String} {ids : List String} {policy : RetryPolicy} {s t u : Ledger}
  {log : Log} {r : Except Failure Unit}

/-- A restriction is deleted, or the call failed and all is as it was. -/
theorem delete_spec (h : Fallible.Gives (Work.deleteRestriction clusterId id) log r)
    (after : s.After clusterId log t) :
    (r = .ok () ∧ t.restrictions = s.restrictions.filter fun e => e.id ≠ some id) ∨
      (∃ f, r = .error f) ∧ t.restrictions = s.restrictions := by
  rw [Fallible.gives_call.mp h, after_singleton] at after
  cases r with
  | ok _ => exact .inl ⟨rfl, (after.1 rfl).trans (Restriction.eraseP_id_eq_filter s.distinct)⟩
  | error f => exact .inr ⟨⟨f, rfl⟩, after⟩

theorem retried_delete_spec
    (h : Fallible.Gives (Work.retried policy (Work.deleteRestriction clusterId id)) log r)
    (after : s.After clusterId log t) :
    (r = .ok () ∧ t.restrictions = s.restrictions.filter fun e => e.id ≠ some id) ∨
      (∃ f, r = .error f) ∧ t.restrictions = s.restrictions := by
  obtain ⟨n, earlier, last, _, rfl, tries, final, _⟩ := Fallible.gives_retried h
  obtain ⟨mid, before, behind⟩ := after_append.mp after
  -- the failed tries change nothing
  have same : mid.restrictions = s.restrictions := by
    refine after_retries (R := fun s t => t.restrictions = s.restrictions)
      (fun _ _ => Pausing.leaving) (fun _ _ h => h) (fun _ _ _ h₁ h₂ => h₂.trans h₁)
      (fun _ _ _ _ _ _ failed after => ?_) tries before
    rcases delete_spec failed after with ⟨wrong, _⟩ | ⟨_, same⟩
    · cases wrong
    · exact same
  rw [← same]
  exact delete_spec final behind

/-- Restrictions are deleted one after the other, up to the first that fails. -/
theorem deleteAll_spec (h : Fallible.Gives (Restriction.deleteAll policy clusterId ids) log r)
    (after : s.After clusterId log t) :
    ∃ done left, ids = done ++ left ∧
      (t.restrictions = s.restrictions.filter fun e => decide (∀ id ∈ done, e.id ≠ some id)) ∧
      ((∃ f, r = .error f) ∧ left ≠ [] ∨ r = .ok () ∧ left = []) := by
  induction ids generalizing log s with
  | nil =>
    obtain ⟨rfl, rfl⟩ := Fallible.gives_pure.mp h
    rw [show t = s from after]
    exact ⟨[], [], rfl, (Restriction.filter_ids_nil _).symm, .inr ⟨rfl, rfl⟩⟩
  | cons id ids ih =>
    rcases Fallible.gives_bind.mp h with ⟨first, _, second, rfl, h₁, h₂⟩ | ⟨f, rfl, h₁⟩
    · obtain ⟨mid, before, behind⟩ := after_append.mp after
      rcases retried_delete_spec h₁ before with ⟨_, gone⟩ | ⟨⟨_, wrong⟩, _⟩
      · obtain ⟨done, left, rfl, same, ended⟩ := ih h₂ behind
        refine ⟨id :: done, left, rfl, ?_, ended⟩
        rw [same, gone]
        exact Restriction.filter_ids_cons id done _
      · cases wrong
    · rcases retried_delete_spec h₁ after with ⟨wrong, _⟩ | ⟨_, same⟩
      · cases wrong
      · rw [same]
        exact ⟨[], id :: ids, rfl, (Restriction.filter_ids_nil _).symm,
          .inl ⟨⟨f, rfl⟩, List.cons_ne_nil _ _⟩⟩

end Ledger

/-! ## 3. Lifting -/

namespace Ledger

/-- **Only some of the restrictions may have gone**, and the others are as they were. -/
def Loses (may : Restriction → Prop) (s t : Ledger) : Prop :=
  ∃ keep : Restriction → Bool, t.restrictions = s.restrictions.filter keep ∧
    ∀ r ∈ s.restrictions, keep r = false → may r

/-- Everything for a reason went, and there was something. -/
def Cleared (x : Change) (s t : Ledger) : Prop := s.ids x ≠ [] ∧ t.ids x = []

variable {s t u : Ledger} {x y : Change} {log : Log}

namespace Loses

variable {may may' : Restriction → Prop}

theorem of_eq (same : t.restrictions = s.restrictions) : s.Loses may t :=
  ⟨fun _ => true, same.trans (List.filter_eq_self.mpr fun _ _ => rfl).symm, nofun⟩

theorem trans (h₁ : s.Loses may t) (h₂ : t.Loses may u) : s.Loses may u := by
  obtain ⟨keep₁, same₁, may₁⟩ := h₁
  obtain ⟨keep₂, same₂, may₂⟩ := h₂
  refine ⟨fun r => keep₂ r && keep₁ r, by rw [same₂, same₁, List.filter_filter], fun r hr gone => ?_⟩
  cases there : keep₁ r with
  | false => exact may₁ r hr there
  | true =>
    have gone₂ : keep₂ r = false := by simpa only [there, Bool.and_true] using gone
    exact may₂ r (same₁ ▸ List.mem_filter.mpr ⟨hr, there⟩) gone₂

theorem imp (h : s.Loses may t) (weaker : ∀ r, may r → may' r) : s.Loses may' t := by
  obtain ⟨keep, same, lost⟩ := h
  exact ⟨keep, same, fun r hr gone => weaker r (lost r hr gone)⟩

theorem sublist (h : s.Loses may t) : t.restrictions.Sublist s.restrictions := by
  obtain ⟨keep, same, _⟩ := h
  rw [same]
  exact List.filter_sublist

/-- What went was one of them. -/
theorem may_of_not_mem (h : s.Loses may t) {r : Restriction} (hr : r ∈ s.restrictions)
    (gone : r ∉ t.restrictions) : may r := by
  obtain ⟨keep, same, lost⟩ := h
  refine lost r hr (Bool.eq_false_iff.mpr fun there => gone ?_)
  rw [same]
  exact List.mem_filter.mpr ⟨hr, there⟩

/-- Of the others nothing went. -/
theorem filter_eq (h : s.Loses may t) {p : Restriction → Bool} (other : ∀ r, may r → p r = false) :
    t.restrictions.filter p = s.restrictions.filter p := by
  obtain ⟨keep, same, lost⟩ := h
  rw [same, List.filter_filter]
  refine List.filter_congr fun r hr => ?_
  cases there : keep r with
  | true => rw [Bool.and_true]
  | false => rw [other r (lost r hr there), Bool.false_and]

theorem ids_sublist (h : s.Loses may t) (x : Change) : (t.ids x).Sublist (s.ids x) :=
  (h.sublist.filter _).filterMap _

end Loses

theorem ids_congr (same : t.restrictions = s.restrictions) : t.ids x = s.ids x := by
  rw [ids, ids, same]

/-- What lifting a change deletes are the restrictions with its ids. -/
theorem owns_iff {e : Restriction} (he : e ∈ s.restrictions) :
    x.owns e = true ↔ ∃ id ∈ s.ids x, e.id = some id := by
  rw [Change.owns, Bool.and_eq_true, Option.isSome_iff_exists]
  constructor
  · rintro ⟨reason, id, has⟩
    exact ⟨id, mem_ids.mpr ⟨e, he, reason, has⟩, has⟩
  · rintro ⟨id, hid, has⟩
    obtain ⟨e', he', reason, has'⟩ := mem_ids.mp hid
    rw [s.eq_of_id_eq he he' has has']
    exact ⟨reason, id, has'⟩

/-- What is deleted of what is set for a reason. -/
theorem deleteIds_spec {policy : RetryPolicy} {clusterId : String} {r : Except Failure Unit}
    (h : Fallible.Gives (Restriction.deleteAll policy clusterId (s.ids x)) log r)
    (after : s.After clusterId log t) :
    s.Loses (x.owns · = true) t ∧ ((∃ f, r = .error f) ∧ t.ids x ≠ [] ∨ r = .ok () ∧ t.ids x = []) := by
  obtain ⟨done, left, split, same, ended⟩ := deleteAll_spec h after
  have loses : s.Loses (x.owns · = true) t := by
    refine ⟨_, same, fun e he gone => ?_⟩
    simp only [decide_eq_false_iff_not, not_forall, not_not] at gone
    obtain ⟨id, hid, has⟩ := gone
    exact (owns_iff he).mpr ⟨id, split ▸ List.mem_append_left left hid, has⟩
  refine ⟨loses, ?_⟩
  rcases ended with ⟨failed, some'⟩ | ⟨ok, none'⟩
  · -- what is left to delete is still there
    obtain ⟨id, hid⟩ := List.exists_mem_of_ne_nil left some'
    obtain ⟨e, he, reason, has⟩ := mem_ids.mp (split ▸ List.mem_append_right done hid : id ∈ s.ids x)
    have distinct : (done ++ left).Nodup := split ▸ s.nodup_ids x
    refine .inl ⟨failed, List.ne_nil_of_mem (mem_ids.mpr ⟨e, ?_, reason, has⟩)⟩
    rw [same]
    refine List.mem_filter.mpr ⟨he, decide_eq_true fun id' hid' has' => ?_⟩
    rw [has] at has'
    cases has'
    exact (List.nodup_append.mp distinct).2.2 id hid' id hid rfl
  · rw [none', List.append_nil] at split
    refine .inr ⟨ok, List.eq_nil_iff_forall_not_mem.mpr fun id hid => ?_⟩
    obtain ⟨e, he, reason, has⟩ := mem_ids.mp hid
    rw [same] at he
    obtain ⟨he, kept⟩ := List.mem_filter.mp he
    exact of_decide_eq_true kept id (split ▸ mem_ids.mpr ⟨e, he, reason, has⟩) has

/-- What is deleted as it was listed. -/
theorem deleteListed_spec {settings : Settings} {cluster : Cluster} {r : Except Failure Lifting}
    (h : Fallible.Gives (Surroundings.deleteListed settings cluster x.restriction) log r)
    (after : s.After cluster.id log t) :
    s.Loses (x.owns · = true) t ∧
      ((∃ n, r = .ok (.removed n)) ∧ s.Cleared x t ∨
        r = .ok .notFound ∧ t.restrictions = s.restrictions ∨
        (∃ f, r = .error f) ∧ (s.ids x ≠ [] → t.ids x ≠ [])) := by
  rcases Fallible.gives_bind.mp h with ⟨l₁, listed, l₂, rfl, asked, h₁⟩ | ⟨f, rfl, asked⟩
  · obtain ⟨mid, before, behind⟩ := after_append.mp after
    rw [Fallible.gives_call.mp asked, after_singleton] at before
    obtain ⟨truthful, same⟩ := before
    have ids : x.restriction.idsFor listed = mid.ids x := by
      rw [truthful rfl, ← same]
      rfl
    dsimp only at h₁
    rw [ids] at h₁
    split at h₁
    · obtain ⟨rfl, rfl⟩ := Fallible.gives_pure.mp h₁
      rw [show t = mid from behind]
      exact ⟨.of_eq same, .inr (.inl ⟨rfl, same⟩)⟩
    · rename_i any
      rw [List.isEmpty_iff, ids_congr same] at any
      rcases Fallible.gives_bind.mp h₁ with ⟨l₃, _, l₄, rfl, deleted, ended⟩ | ⟨f, rfl, deleted⟩
      · obtain ⟨rfl, rfl⟩ := Fallible.gives_pure.mp ended
        rw [List.append_nil] at behind
        obtain ⟨loses, ⟨⟨_, wrong⟩, _⟩ | ⟨_, gone⟩⟩ := deleteIds_spec deleted behind
        · cases wrong
        · exact ⟨(Loses.of_eq same).trans loses, .inl ⟨⟨_, rfl⟩, any, gone⟩⟩
      · obtain ⟨loses, ⟨_, some'⟩ | ⟨wrong, _⟩⟩ := deleteIds_spec deleted behind
        · exact ⟨(Loses.of_eq same).trans loses, .inr (.inr ⟨⟨f, rfl⟩, fun _ => some'⟩)⟩
        · cases wrong
  · rw [Fallible.gives_call.mp asked, after_singleton] at after
    have same : t.restrictions = s.restrictions := after
    exact ⟨.of_eq same, .inr (.inr ⟨⟨f, rfl⟩, fun any => ids_congr same ▸ any⟩)⟩

/-- **Lifting a restriction** of the cluster. Only what is set for its reason can go. If it says that
something was removed, then all of it; if it ends otherwise, nothing; and if a call failed, something
may be gone, but not all. -/
theorem lift_spec {settings : Settings} {cluster : Cluster} {now : Instant}
    {r : Except Failure Lifting}
    (h : Fallible.Gives (Restriction.lift settings cluster x.restriction now) log r)
    (after : s.After cluster.id log t) :
    s.Loses (x.owns · = true) t ∧
      ((∃ n, r = .ok (.removed n)) ∧ s.Cleared x t ∨
        (∃ lifting, r = .ok lifting ∧ ∀ n, lifting ≠ .removed n) ∧ t.restrictions = s.restrictions ∨
        (∃ f, r = .error f) ∧ (s.ids x ≠ [] → t.ids x ≠ [])) := by
  rw [Surroundings.lift_eq] at h
  have counting : Fallible.Only (Ask.Leaving cluster.id)
      (changesWithin settings cluster x.restriction.summary now) :=
    Fallible.only_bind (Fallible.only_call trivial) fun _ => Fallible.only_pure _
  rcases Fallible.gives_bind.mp h with ⟨l₁, changes, l₂, rfl, counted, h₁⟩ | ⟨f, rfl, counted⟩
  · obtain ⟨mid, before, behind⟩ := after_append.mp after
    have same : mid.restrictions = s.restrictions := after_leaving (counting.of_run counted) before
    split at h₁
    · obtain ⟨rfl, rfl⟩ := Fallible.gives_pure.mp h₁
      rw [show t = mid from behind]
      exact ⟨.of_eq same, .inr (.inl ⟨⟨_, rfl, nofun⟩, same⟩)⟩
    · obtain ⟨loses, ended⟩ := deleteListed_spec h₁ behind
      refine ⟨(Loses.of_eq same).trans loses, ?_⟩
      rw [Cleared, ids_congr same] at ended
      rcases ended with removed | ⟨rfl, unchanged⟩ | failed
      · exact .inl removed
      · exact .inr (.inl ⟨⟨_, rfl, nofun⟩, unchanged.trans same⟩)
      · exact .inr (.inr failed)
  · have same := after_leaving (counting.of_run counted) after
    exact ⟨.of_eq same, .inr (.inr ⟨⟨f, rfl⟩, fun any => ids_congr same ▸ any⟩)⟩

/-- Lifting a restriction of another cluster. -/
theorem lift_elsewhere {settings : Settings} {cluster : Cluster} {clusterId : String} {now : Instant}
    {r : Except Failure Lifting} (elsewhere : cluster.id ≠ clusterId)
    (h : Fallible.Gives (Restriction.lift settings cluster x.restriction now) log r)
    (after : s.After clusterId log t) : t.restrictions = s.restrictions := by
  have leaving : Fallible.Only (Ask.Leaving clusterId)
      (Restriction.lift settings cluster x.restriction now) :=
    Restriction.only_lift (fun _ => trivial) trivial (fun _ => trivial) fun _ => elsewhere
  exact after_leaving (leaving.of_run h) after

end Ledger

/-! ## 4. Given surroundings -/

/-- The request posts no restriction, and deletes none elsewhere. -/
def Ask.isHome (clusterId : String) : Ask → Bool
  | .call (.manager (.postRestriction _ _)) => false
  | .call (.manager (.deleteRestriction id _)) => id = clusterId
  | _ => true

namespace Surroundings

variable {settings : Settings} {w : Surroundings settings} {may : Call → Prop} {clusterId : String}
  {s t : Ledger} {log : Log}

theorem restrictions_delete (id : String) :
    (w.delete id s).restrictions = s.restrictions.filter fun r => r.id ≠ some id := by
  by_cases there : ∃ r ∈ s.restrictions, r.id = some id
  · obtain ⟨r, hr, hid⟩ := there
    exact (delete_present hr hid).1
  · have absent : ∀ r ∈ s.restrictions, r.id ≠ some id := fun r hr hid => there ⟨r, hr, hid⟩
    rw [delete_absent absent]
    exact (List.filter_eq_self.mpr fun r hr => decide_eq_true (absent r hr)).symm

theorem step_answer {q : Ask} (home : q.isHome clusterId = true) :
    s.Step clusterId ⟨q, (w.answer q s).1⟩ (w.answer q s).2 := by
  cases q with
  | call c =>
    cases c with
    | manager call =>
      cases call with
      | restrictions id => exact ⟨fun _ => rfl, rfl⟩
      | postRestriction id r => cases home
      | deleteRestriction id restrictionId =>
        refine ⟨fun _ => ?_, fun other => absurd (of_decide_eq_true home) other⟩
        exact (restrictions_delete restrictionId).trans
          (Restriction.eraseP_id_eq_filter s.distinct).symm
      | _ => rfl
    | cloud client call => cases call <;> rfl
    | _ => rfl
  | _ => rfl

/-- An exchange in the surroundings of a cluster is one of its ledger. -/
theorem step_home {e : Exchange collaboration} (home : Ask.isHome clusterId e.request = true)
    (step : w.Step may s e t) : s.Step clusterId e t := by
  obtain ⟨q, reply⟩ := e
  rcases step with ⟨answered, rfl⟩ | ⟨failed, rfl⟩
  · rw [show reply = (w.answer q s).1 from answered]
    exact step_answer home
  · -- a call that failed has no effect here, and none there
    cases q with
    | call c =>
      cases reply with
      | ok v => exact failed.elim
      | error f => exact Restriction.step_failed clusterId c f _
    | _ => exact failed.elim

/-- A run in the surroundings of a cluster is one of its ledger. -/
theorem after_of_follows (home : ∀ e ∈ log, Ask.isHome clusterId e.request = true)
    (follows : w.Follows may s log t) : s.After clusterId log t := by
  induction log generalizing s with
  | nil => exact follows
  | cons e log ih =>
    obtain ⟨next, step, rest⟩ := follows
    exact ⟨next, step_home (home e (List.mem_cons_self ..)) step,
      ih (fun e he => home e (List.mem_cons_of_mem _ he)) rest⟩

end Surroundings

end OnCall
