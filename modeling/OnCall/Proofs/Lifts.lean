import OnCall.Proofs.Attempts
import OnCall.Proofs.Surroundings

/-!
# Lifting restrictions while calls fail

* `Surroundings.lift_spec`: lifting one restriction. It is not begun if the restriction is flapping;
  else everything for the reason goes, or a call failed on the way.
* `Surroundings.Worn`: what failed attempts leave behind.
* `Surroundings.recovered_spec`: the investigation of a cleared alert.
-/

namespace OnCall.Surroundings

open Restriction (Change)

variable {settings : Settings} {w : Surroundings settings} {may : Call → Prop} {s t u : Ledger}
  {log : Log} {x y : Change}

/-! ## 1. Deleting -/

section Deleting

variable {clusterId id : String} {ids : List String} {policy : RetryPolicy}
  {r : Except Failure Unit}

theorem follows_delete (h : Fallible.Gives (Work.deleteRestriction clusterId id) log r)
    (follows : w.Follows may s log t) :
    (r = .ok () ∧ t = w.delete id s) ∨ (t = s ∧ ∃ f, r = .error f ∧ Plain may f) := by
  rw [Fallible.gives_call.mp h, follows_singleton] at follows
  rcases follows with ⟨reply, same⟩ | ⟨failed, same⟩
  · exact .inl ⟨reply, same⟩
  · cases r with
    | ok v => exact failed.elim
    | error f => exact .inr ⟨same, f, rfl, failed.2, _, failed.1⟩

/-- Failed tries to delete change nothing. -/
theorem follows_failed_deletes {n : Nat}
    (tries : Retries (Fallible.Try (Work.deleteRestriction clusterId id)) Pausing n () log ())
    (follows : w.Follows may s log t) : t = s := by
  induction n generalizing log s with
  | zero =>
    cases tries
    exact follows
  | succ n ih =>
    cases tries with
    | more failed next others =>
      obtain ⟨span, rfl⟩ := next
      obtain ⟨s₁, first, rest⟩ := follows_append.mp follows
      obtain ⟨s₂, paused, later⟩ := follows_append.mp rest
      rcases follows_delete failed first with ⟨wrong, _⟩ | ⟨same, _⟩
      · cases wrong
      · have waited : s₂ = s₁ := follows_keeping (fun e he => by
          rw [List.mem_singleton.mp he]
          trivial) paused
        rw [ih others later, waited, same]

theorem follows_retried_delete
    (h : Fallible.Gives (Work.retried policy (Work.deleteRestriction clusterId id)) log r)
    (follows : w.Follows may s log t) :
    (r = .ok () ∧ t = w.delete id s) ∨ (t = s ∧ ∃ f, r = .error f ∧ Plain may f) := by
  obtain ⟨n, earlier, last, _, rfl, tries, final, _⟩ := Fallible.gives_retried h
  obtain ⟨mid, before, behind⟩ := follows_append.mp follows
  rw [follows_failed_deletes tries before] at behind
  exact follows_delete final behind

/-- Deleting one after the other what is set for one reason. What was not deleted when a call failed
is left. -/
theorem deleteAll_spec (h : Fallible.Gives (Restriction.deleteAll policy clusterId ids) log r)
    (follows : w.Follows may s log t)
    (own : ∀ id ∈ ids, ∀ e ∈ s.restrictions, e.id = some id →
      e.hasReasonOf x.restriction = true) :
    w.Shed x s t ∧ ((r = .ok () ∧ ∀ id ∈ ids, ∀ e ∈ t.restrictions, e.id ≠ some id) ∨
      ∃ f, r = .error f ∧ Plain may f) := by
  induction ids generalizing log s with
  | nil =>
    obtain ⟨rfl, rfl⟩ := Fallible.gives_pure.mp h
    rw [show t = s from follows]
    exact ⟨.refl, .inl ⟨rfl, fun _ none' => absurd none' List.not_mem_nil⟩⟩
  | cons id ids ih =>
    rcases Fallible.gives_bind.mp h with ⟨first, _, second, rfl, h₁, h₂⟩ | ⟨f, rfl, h₁⟩
    · obtain ⟨mid, before, behind⟩ := follows_append.mp follows
      rcases follows_retried_delete h₁ before with ⟨_, rfl⟩ | ⟨_, _, wrong, _⟩
      · have shed : w.Shed x s (w.delete id s) := shed_delete (own id (List.mem_cons_self ..))
        obtain ⟨more, ended⟩ := ih h₂ behind fun i hi e he =>
          own i (List.mem_cons_of_mem _ hi) e (shed.subset he)
        refine ⟨shed.trans more, ended.imp_left fun ⟨done, gone⟩ => ⟨done, fun i hi e he => ?_⟩⟩
        rcases List.mem_cons.mp hi with rfl | hi
        · exact gone_delete e (more.subset he)
        · exact gone i hi e he
      · cases wrong
    · rcases follows_retried_delete h₁ follows with ⟨wrong, _⟩ | ⟨rfl, g, same, plain⟩
      · cases wrong
      · exact ⟨.refl, .inr ⟨g, same, plain⟩⟩

end Deleting

/-! ## 2. Lifting one restriction -/

/-- What is left to do when a restriction is not flapping. -/
def deleteListed (settings : Settings) (cluster : Cluster) (r : Restriction) : Fallible Lifting := do
  let ids := r.idsFor (← Work.listRestrictions cluster.id)
  if ids.isEmpty then return .notFound
  Restriction.deleteAll settings.retry cluster.id ids
  return .removed ids.length

theorem lift_eq {cluster : Cluster} {r : Restriction} {now : Instant} :
    Restriction.lift settings cluster r now = (do
      let changes ← changesWithin settings cluster r.summary now
      if settings.flappingThreshold ≤ changes then return .flapping changes
      deleteListed settings cluster r) := rfl

/-- The changes that are counted are those of the ledger. -/
theorem changesWithin_spec {cluster : Cluster} {r : Except Failure Nat}
    (h : Fallible.Gives (changesWithin settings cluster x.summary w.clock) log r)
    (follows : w.Follows may s log t) :
    t = s ∧ (r = .ok (w.changes x s) ∨ ∃ f, r = .error f ∧ Plain may f) := by
  rcases Fallible.gives_bind.mp h with ⟨l₁, history, l₂, rfl, fetched, counted⟩ | ⟨f, rfl, fetched⟩
  · obtain ⟨rfl, rfl⟩ := Fallible.gives_pure.mp counted
    rw [List.append_nil] at follows
    obtain ⟨rfl, truthful | ⟨_, wrong, _⟩⟩ := follows_look rfl fetched follows
    · cases truthful
      exact ⟨rfl, .inl rfl⟩
    · cases wrong
  · obtain ⟨rfl, wrong | ⟨g, same, plain⟩⟩ := follows_look rfl fetched follows
    · cases wrong
    · cases same
      exact ⟨rfl, .inr ⟨f, rfl, plain⟩⟩

/-- What is not flapping is deleted as it is listed. -/
theorem deleteListed_spec {cluster : Cluster} {r : Except Failure Lifting}
    (h : Fallible.Gives (deleteListed settings cluster x.restriction) log r)
    (follows : w.Follows may s log t) :
    w.Shed x s t ∧
      ((∃ lifted, r = .ok lifted ∧ (∀ changes, lifted ≠ .flapping changes) ∧ t.ids x = []) ∨
        ∃ f, r = .error f ∧ Plain may f) := by
  rcases Fallible.gives_bind.mp h with ⟨l₁, listed, l₂, rfl, asked, h₁⟩ | ⟨f, rfl, asked⟩
  · obtain ⟨mid, before, behind⟩ := follows_append.mp follows
    obtain ⟨rfl, truthful | ⟨_, wrong, _⟩⟩ := follows_look rfl asked before
    · cases truthful
      have own : ∀ id ∈ mid.ids x, ∀ e ∈ mid.restrictions, e.id = some id →
          e.hasReasonOf x.restriction = true := by
        intro id hid e he hide
        obtain ⟨e', he', reason, hide'⟩ := Ledger.mem_ids.mp hid
        rw [mid.eq_of_id_eq he he' hide hide']
        exact reason
      dsimp only at h₁
      split at h₁
      · rename_i none'
        obtain ⟨rfl, rfl⟩ := Fallible.gives_pure.mp h₁
        rw [show t = mid from behind]
        exact ⟨.refl, .inl ⟨_, rfl, nofun, List.isEmpty_iff.mp none'⟩⟩
      · rcases Fallible.gives_bind.mp h₁ with ⟨l₃, _, l₄, rfl, deleted, ended⟩ | ⟨f, rfl, deleted⟩
        · obtain ⟨rfl, rfl⟩ := Fallible.gives_pure.mp ended
          rw [List.append_nil] at behind
          obtain ⟨shed, ⟨_, gone⟩ | ⟨_, wrong, _⟩⟩ := deleteAll_spec deleted behind own
          · refine ⟨shed, .inl ⟨_, rfl, nofun, ?_⟩⟩
            refine List.eq_nil_iff_forall_not_mem.mpr fun id hid => ?_
            obtain ⟨e, he, reason, hide⟩ := Ledger.mem_ids.mp hid
            exact gone id (Ledger.mem_ids.mpr ⟨e, shed.subset he, reason, hide⟩) e he hide
          · cases wrong
        · obtain ⟨shed, ⟨wrong, _⟩ | failed⟩ := deleteAll_spec deleted behind own
          · cases wrong
          · obtain ⟨g, same, plain⟩ := failed
            cases same
            exact ⟨shed, .inr ⟨f, rfl, plain⟩⟩
    · cases wrong
  · obtain ⟨rfl, wrong | ⟨g, same, plain⟩⟩ := follows_look rfl asked follows
    · cases wrong
    · cases same
      exact ⟨.refl, .inr ⟨f, rfl, plain⟩⟩

/-- **Lifting one restriction.** If it is flapping, nothing is deleted; else everything for the
reason is, or a call failed on the way. -/
theorem lift_spec {cluster : Cluster} {r : Except Failure Lifting}
    (h : Fallible.Gives (Restriction.lift settings cluster x.restriction w.clock) log r)
    (follows : w.Follows may s log t) :
    w.Shed x s t ∧
      ((∃ changes, r = .ok (.flapping changes) ∧ w.Flaps x s ∧ t = s) ∨
        (∃ lifted, r = .ok lifted ∧ (∀ changes, lifted ≠ .flapping changes) ∧ ¬ w.Flaps x s ∧
          t.ids x = []) ∨
        ∃ f, r = .error f ∧ Plain may f ∧ (w.Flaps x s → t = s)) := by
  rw [lift_eq] at h
  rcases Fallible.gives_bind.mp h with ⟨l₁, changes, l₂, rfl, counted, h₁⟩ | ⟨f, rfl, counted⟩
  · obtain ⟨mid, before, behind⟩ := follows_append.mp follows
    obtain ⟨rfl, truthful | ⟨_, wrong, _⟩⟩ := changesWithin_spec counted before
    · cases truthful
      split at h₁
      · rename_i flaps
        obtain ⟨rfl, rfl⟩ := Fallible.gives_pure.mp h₁
        rw [show t = mid from behind]
        exact ⟨.refl, .inl ⟨_, rfl, flaps, rfl⟩⟩
      · rename_i steady
        obtain ⟨shed, ⟨lifted, done, other, gone⟩ | ⟨f, failed, plain⟩⟩ := deleteListed_spec h₁ behind
        · exact ⟨shed, .inr (.inl ⟨lifted, done, other, steady, gone⟩)⟩
        · exact ⟨shed, .inr (.inr ⟨f, failed, plain, fun flaps => absurd flaps steady⟩)⟩
    · cases wrong
  · obtain ⟨rfl, wrong | ⟨g, same, plain⟩⟩ := changesWithin_spec counted follows
    · cases wrong
    · cases same
      exact ⟨.refl, .inr (.inr ⟨f, rfl, plain, fun _ => rfl⟩)⟩

instance (x : Change) (s : Ledger) : Decidable (w.Flaps x s) := inferInstanceAs (Decidable (_ ≤ _))

/-- What is left after a restriction was lifted, unless it is flapping. -/
theorem Shed.restrictions_eq (h : w.Shed x s t) (flapping : w.Flaps x s → t = s)
    (steady : ¬ w.Flaps x s → t.ids x = []) :
    t.restrictions = s.restrictions.filter fun r => !(x.owns r && !decide (w.Flaps x s)) := by
  by_cases flaps : w.Flaps x s
  · rw [flapping flaps, decide_eq_true flaps]
    exact (List.filter_eq_self.mpr fun r _ => by rw [Bool.not_true, Bool.and_false]; rfl).symm
  · obtain ⟨keep, same, owned⟩ := h.kept
    have unowned := Ledger.ids_eq_nil.mp (steady flaps)
    rw [same] at unowned ⊢
    refine List.filter_congr fun r hr => ?_
    rw [decide_eq_false flaps, Bool.not_false, Bool.and_true]
    cases there : keep r with
    | false => rw [owned r hr there]; rfl
    | true => rw [unowned r (List.mem_filter.mpr ⟨hr, there⟩)]; rfl

/-! ## 3. What failed attempts leave behind -/

/-- The restrictions that are lifted when a cluster has recovered. -/
def liftable : List Change := [Unreachable.stoppedRestriction, Unreachable.egressRestriction]

theorem stopped_mem : Unreachable.stoppedRestriction ∈ liftable := List.mem_cons_self ..

theorem egress_mem : Unreachable.egressRestriction ∈ liftable :=
  List.mem_cons_of_mem _ (List.mem_cons_self ..)

theorem stopped_apart : Unreachable.stoppedRestriction.Apart Unreachable.egressRestriction :=
  ⟨by decide +kernel, by decide +kernel⟩

/-- One of them is not taken for the other. -/
theorem liftable_apart (hx : x ∈ liftable) (hy : y ∈ liftable) : x = y ∨ x.Apart y := by
  simp only [liftable, List.mem_cons, List.not_mem_nil, or_false] at hx hy
  rcases hx with rfl | rfl
  · rcases hy with rfl | rfl
    · exact .inl rfl
    · exact .inr stopped_apart
  · rcases hy with rfl | rfl
    · exact .inr ⟨stopped_apart.2, stopped_apart.1⟩
    · exact .inl rfl

/-- **What failed attempts leave behind.** Only restrictions that were not flapping can have gone,
each one that went is a change in the history, and none goes before enough nodes run. -/
structure Worn (w : Surroundings settings) (s t : Ledger) : Prop where
  kept : ∃ keep : Restriction → Bool, t.restrictions = s.restrictions.filter keep ∧
    ∀ r ∈ s.restrictions, keep r = false → ∃ x ∈ liftable, ¬ w.Flaps x s ∧ x.owns r = true
  counted : ∀ x ∈ liftable,
    w.changes x t + (t.ids x).length = w.changes x s + (s.ids x).length
  unrecovered : w.running.length < w.expected.min.toNat → t = s

namespace Worn

theorem refl : w.Worn s s :=
  ⟨⟨fun _ => true, (List.filter_eq_self.mpr fun _ _ => rfl).symm, nofun⟩, fun _ _ => rfl,
    fun _ => rfl⟩

/-- Changes become more. -/
theorem changes_le (h : w.Worn s t) (hx : x ∈ liftable) : w.changes x s ≤ w.changes x t := by
  obtain ⟨keep, same, _⟩ := h.kept
  have fewer : (t.ids x).length ≤ (s.ids x).length := by
    rw [Ledger.ids, Ledger.ids, same]
    exact ((List.filter_sublist.filter _).filterMap _).length_le
  have := h.counted x hx
  omega

/-- What is flapping stays so. -/
theorem flaps (h : w.Worn s t) (hx : x ∈ liftable) (flaps : w.Flaps x s) : w.Flaps x t :=
  Nat.le_trans flaps (h.changes_le hx)

theorem trans (h₁ : w.Worn s t) (h₂ : w.Worn t u) : w.Worn s u := by
  obtain ⟨keep₁, same₁, owned₁⟩ := h₁.kept
  obtain ⟨keep₂, same₂, owned₂⟩ := h₂.kept
  refine ⟨⟨fun r => keep₂ r && keep₁ r, ?_, fun r hr gone => ?_⟩,
    fun x hx => (h₂.counted x hx).trans (h₁.counted x hx),
    fun few => (h₂.unrecovered few).trans (h₁.unrecovered few)⟩
  · rw [same₂, same₁, List.filter_filter]
  · cases there : keep₁ r with
    | false => exact owned₁ r hr there
    | true =>
      have gone₂ : keep₂ r = false := by simpa only [there, Bool.and_true] using gone
      obtain ⟨x, hx, steady, owned⟩ := owned₂ r (same₁ ▸ List.mem_filter.mpr ⟨hr, there⟩) gone₂
      exact ⟨x, hx, fun flaps => steady (h₁.flaps hx flaps), owned⟩

/-- What lifting one of the restrictions leaves behind. -/
theorem of_shed (enough : ¬ w.running.length < w.expected.min.toNat) (hx : x ∈ liftable)
    (h : w.Shed x s t) (flapping : w.Flaps x s → t = s) : w.Worn s t := by
  by_cases flaps : w.Flaps x s
  · rw [flapping flaps]
    exact refl
  · obtain ⟨keep, same, owned⟩ := h.kept
    refine ⟨⟨keep, same, fun r hr gone => ⟨x, hx, flaps, owned r hr gone⟩⟩, fun y hy => ?_,
      fun few => absurd few enough⟩
    rcases liftable_apart hx hy with rfl | apart
    · exact h.counted
    · rw [h.others y apart, h.ids_eq apart]

end Worn

/-! ## 4. The investigation of a cleared alert -/

/-- How such an investigation routes the incident. -/
def verdict (w : Surroundings settings) (s : Ledger) : Routing :=
  if w.running.length < w.expected.min.toNat then .escalate "cluster has not fully recovered"
  else if ∃ x ∈ liftable, w.Flaps x s then .escalate "restriction is flapping"
  else .silence "cluster recovered"

/-- The restrictions that it leaves. -/
def remaining (w : Surroundings settings) (s : Ledger) : List Restriction :=
  if w.running.length < w.expected.min.toNat then s.restrictions
  else s.restrictions.filter fun r => !liftable.any fun x => x.owns r && !decide (w.Flaps x s)

/-- A failure that leads to another attempt. -/
def Passing (may : Call → Prop) (f : Failure) : Prop :=
  f.classification = some .infrastructure ∧ ∃ c, may c

theorem Plain.passing {text : String} {f : Failure} (h : Plain may f) :
    Passing may (f.asInfrastructure text) := by
  refine ⟨?_, h.2⟩
  rw [Failure.asInfrastructure, Failure.classification_classify, h.1]
  rfl

section Recovered

variable {ctx : Context} {n n' : Notes}

/-- A call that only looks, made by an investigation. -/
theorem require_look {c : Call} {v : c.Answer} {text : String} {r : Except Failure c.Answer}
    (looks : w.answer (.call c) s = (.ok v, s))
    (h : Inquiry.Gives (Inquiry.require text (Work.call c)) n log r n')
    (follows : w.Follows may s log t) :
    t = s ∧ n' = n ∧ (r = .ok v ∨ ∃ f, r = .error f ∧ Passing may f) := by
  obtain ⟨r₀, called, rfl, same⟩ := Inquiry.gives_require.mp h
  obtain ⟨unchanged, rfl | ⟨f, rfl, plain⟩⟩ := follows_look looks called follows
  · exact ⟨unchanged, same, .inl rfl⟩
  · exact ⟨unchanged, same, .inr ⟨_, rfl, plain.passing⟩⟩

/-- Lifting one restriction and noting what came of it. -/
theorem liftOne_spec {r : Except Failure Bool} (desk : ctx.settings = settings)
    (h : Inquiry.Gives (Unreachable.liftOne ctx w.clock x) n log r n')
    (follows : w.Follows may s log t) :
    w.Shed x s t ∧ (w.Flaps x s → t = s) ∧
      ((r = .ok (decide (w.Flaps x s)) ∧ (¬ w.Flaps x s → t.ids x = [])) ∨
        ∃ f, r = .error f ∧ Passing may f) := by
  rcases Inquiry.gives_bind.mp h with ⟨l₁, lifted, n₁, l₂, rfl, required, noted⟩ | ⟨f, rfl, required⟩
  · obtain ⟨mid, before, behind⟩ := follows_append.mp follows
    obtain ⟨run, _⟩ := Inquiry.gives_require_ok.mp required
    rw [desk] at run
    -- noting changes nothing, and the answer is whether the restriction is flapping
    have ended : t = mid ∧ ((∃ changes, lifted = .flapping changes ∧ r = .ok true) ∨
        (∀ changes, lifted ≠ .flapping changes) ∧ r = .ok false) := by
      cases lifted with
      | removed count =>
        rcases Inquiry.gives_bind.mp noted with ⟨l₃, _, n₂, l₄, rfl, counted, rest⟩ | ⟨f, _, counted⟩
        · have ended := Inquiry.gives_note_bind.mp rest
          obtain ⟨rfl, rfl, _⟩ := Inquiry.gives_pure.mp ended
          obtain ⟨_, run, _⟩ := Inquiry.gives_liftM.mp counted
          rw [Program.run_request.mp run, List.append_nil] at behind
          refine ⟨follows_keeping (fun e he => ?_) behind, .inr ⟨nofun, rfl⟩⟩
          rw [List.mem_singleton.mp he]
          trivial
        · obtain ⟨_, _, wrong, _⟩ := Inquiry.gives_liftM.mp counted
          cases wrong
      | flapping changes =>
        have ended := Inquiry.gives_note_bind.mp noted
        obtain ⟨rfl, rfl, _⟩ := Inquiry.gives_pure.mp ended
        exact ⟨behind, .inl ⟨changes, rfl, rfl⟩⟩
      | notFound =>
        obtain ⟨rfl, rfl, _⟩ := Inquiry.gives_pure.mp noted
        exact ⟨behind, .inr ⟨nofun, rfl⟩⟩
    obtain ⟨rfl, answer⟩ := ended
    obtain ⟨shed, ⟨changes, same, flaps, unchanged⟩ | ⟨_, same, steady, few, gone⟩ | ⟨_, wrong, _⟩⟩ :=
      lift_spec run before
    · cases same
      refine ⟨shed, fun _ => unchanged, .inl ⟨?_, fun few => absurd flaps few⟩⟩
      rcases answer with ⟨_, _, same⟩ | ⟨steady, _⟩
      · rw [same, decide_eq_true flaps]
      · exact absurd rfl (steady changes)
    · cases same
      refine ⟨shed, fun flaps => absurd flaps few, .inl ⟨?_, fun _ => gone⟩⟩
      rcases answer with ⟨changes, flaps, _⟩ | ⟨_, same⟩
      · exact absurd flaps (steady changes)
      · rw [same, decide_eq_false few]
    · cases wrong
  · obtain ⟨r₀, run, same, _⟩ := Inquiry.gives_require.mp required
    rw [desk] at run
    obtain ⟨shed, ⟨_, rfl, _⟩ | ⟨_, rfl, _⟩ | ⟨g, rfl, plain, unchanged⟩⟩ := lift_spec run follows
    · cases same
    · cases same
    · cases same
      exact ⟨shed, unchanged, .inr ⟨_, rfl, plain.passing⟩⟩

/-- Lift both restrictions and conclude. -/
def liftBoth (ctx : Context) (now : Instant) : Inquiry Conclusion := do
  let stoppedFlaps ← Unreachable.liftOne ctx now Unreachable.stoppedRestriction
  let egressFlaps ← Unreachable.liftOne ctx now Unreachable.egressRestriction
  if stoppedFlaps || egressFlaps then
    return (← Inquiry.draft).escalate "restriction is flapping"
  return (← Inquiry.draft).silence "cluster recovered"

theorem liftBoth_spec {r : Except Failure Conclusion} (desk : ctx.settings = settings)
    (enough : ¬ w.running.length < w.expected.min.toNat)
    (h : Inquiry.Gives (liftBoth ctx w.clock) n log r n') (follows : w.Follows may s log t) :
    (∃ c, r = .ok c ∧ c.sideActions = [] ∧ c.routing = w.verdict s ∧
        t.restrictions = w.remaining s) ∨
      (w.Worn s t ∧ ∃ f, r = .error f ∧ Passing may f) := by
  rcases Inquiry.gives_bind.mp h with ⟨l₁, flaps₁, n₁, r₁, rfl, stopped, h₁⟩ | ⟨f, rfl, stopped⟩
  · obtain ⟨m, before, follows₁⟩ := follows_append.mp follows
    obtain ⟨shed₁, kept₁, ⟨same₁, gone₁⟩ | ⟨_, wrong, _⟩⟩ := liftOne_spec desk stopped before
    · have worn₁ := Worn.of_shed enough stopped_mem shed₁ kept₁
      rcases Inquiry.gives_bind.mp h₁ with ⟨l₂, flaps₂, n₂, r₂, rfl, egress, h₂⟩ | ⟨f, rfl, egress⟩
      · obtain ⟨u, before₁, follows₂⟩ := follows_append.mp follows₁
        obtain ⟨shed₂, kept₂, ⟨same₂, gone₂⟩ | ⟨_, wrong, _⟩⟩ := liftOne_spec desk egress before₁
        · cases same₁
          cases same₂
          have same : w.Flaps Unreachable.egressRestriction m ↔
              w.Flaps Unreachable.egressRestriction s := by
            rw [Flaps, Flaps, shed₁.others _ stopped_apart]
          have left : u.restrictions = w.remaining s := by
            rw [shed₂.restrictions_eq kept₂ gone₂, shed₁.restrictions_eq kept₁ gone₁, remaining,
              if_neg enough, List.filter_filter]
            refine List.filter_congr fun r _ => ?_
            simp only [liftable, List.any_cons, List.any_nil, Bool.or_false, Bool.not_or,
              decide_eq_decide.mpr same]
            exact Bool.and_comm _ _
          have any : (∃ x ∈ liftable, w.Flaps x s) ↔ w.Flaps Unreachable.stoppedRestriction s ∨
              w.Flaps Unreachable.egressRestriction s := by
            simp only [liftable, List.mem_cons, List.not_mem_nil, or_false, exists_eq_or_imp,
              exists_eq_left]
          left
          split at h₂
          · rename_i flapping
            obtain ⟨rfl, rfl, _⟩ := Inquiry.gives_drafted.mp h₂
            rw [Bool.or_eq_true, decide_eq_true_iff, decide_eq_true_iff, same] at flapping
            rw [show t = u from follows₂]
            refine ⟨_, rfl, rfl, ?_, left⟩
            rw [verdict, if_neg enough, if_pos (any.mpr flapping)]
            rfl
          · rename_i steady
            obtain ⟨rfl, rfl, _⟩ := Inquiry.gives_drafted.mp h₂
            rw [Bool.or_eq_true, decide_eq_true_iff, decide_eq_true_iff, same] at steady
            rw [show t = u from follows₂]
            refine ⟨_, rfl, rfl, ?_, left⟩
            rw [verdict, if_neg enough, if_neg fun flapping => steady (any.mp flapping)]
            rfl
        · cases wrong
      · obtain ⟨shed₂, kept₂, ⟨wrong, _⟩ | ⟨g, same, passing⟩⟩ := liftOne_spec desk egress follows₁
        · cases wrong
        · cases same
          exact .inr ⟨worn₁.trans (.of_shed enough egress_mem shed₂ kept₂), f, rfl, passing⟩
    · cases wrong
  · obtain ⟨shed, kept, ⟨wrong, _⟩ | ⟨g, same, passing⟩⟩ := liftOne_spec desk stopped follows
    · cases wrong
    · cases same
      exact .inr ⟨.of_shed enough stopped_mem shed kept, f, rfl, passing⟩

/-- **The investigation of a cleared alert.** It deletes what is not flapping and routes the
incident by that; or a call failed on the way. -/
theorem recovered_spec {client : CloudClient} {infraId : String} {r : Except Failure Conclusion}
    (desk : ctx.settings = settings) (cloud : ctx.cloudClient = .ok client)
    (infra : ctx.infraId = .ok infraId)
    (h : Inquiry.Gives (Unreachable.recovered ctx w.clock) n log r n')
    (follows : w.Follows may s log t) :
    (∃ c, r = .ok c ∧ c.sideActions = [] ∧ c.routing = w.verdict s ∧
        t.restrictions = w.remaining s) ∨
      (w.Worn s t ∧ ∃ f, r = .error f ∧ Passing may f) := by
  have h₀ := Inquiry.gives_ofExcept_bind cloud h
  have h₁ := Inquiry.gives_ofExcept_bind infra h₀
  rcases Inquiry.gives_bind.mp h₁ with ⟨l₁, running, n₁, r₁, rfl, counted, h₂⟩ | ⟨f, rfl, counted⟩
  · obtain ⟨s₁, before, follows₁⟩ := follows_append.mp follows
    obtain ⟨rfl, rfl, same | ⟨_, wrong, _⟩⟩ := require_look rfl counted before
    · cases same
      rcases Inquiry.gives_bind.mp h₂ with ⟨l₂, expected, n₂, r₂, rfl, asked, h₃⟩ | ⟨f, rfl, asked⟩
      · obtain ⟨s₂, before₁, follows₂⟩ := follows_append.mp follows₁
        obtain ⟨rfl, rfl, same | ⟨_, wrong, _⟩⟩ := require_look rfl asked before₁
        · cases same
          split at h₃
          · rename_i few
            obtain ⟨rfl, rfl, _⟩ := Inquiry.gives_drafted.mp (Inquiry.gives_note_bind.mp h₃)
            rw [show t = s₂ from follows₂]
            refine .inl ⟨_, rfl, rfl, ?_, ?_⟩
            · rw [verdict, if_pos few]
              rfl
            · rw [remaining, if_pos few]
          · rename_i enough
            have h₄ := Inquiry.gives_note_bind.mp h₃
            exact liftBoth_spec desk enough h₄ follows₂
        · cases wrong
      · obtain ⟨rfl, _, wrong | ⟨g, same, passing⟩⟩ := require_look rfl asked follows₁
        · cases wrong
        · cases same
          exact .inr ⟨.refl, f, rfl, passing⟩
    · cases wrong
  · obtain ⟨rfl, _, wrong | ⟨g, same, passing⟩⟩ := require_look rfl counted follows
    · cases wrong
    · cases same
      exact .inr ⟨.refl, f, rfl, passing⟩

end Recovered

end OnCall.Surroundings
