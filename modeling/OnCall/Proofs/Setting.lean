import OnCall.Proofs.Conclusions
import OnCall.Proofs.Outcomes
import OnCall.Proofs.Stores

/-!
# Setting restrictions

* `Ledger.count`: how many restrictions are set for a reason.
* `Ledger.Gains`: some were posted, none for a reason that one was set for.
* `Ledger.gains_ensure`, `Ledger.gains_applyAll`: **setting a restriction and carrying out a
  conclusion** do no more than that, whichever calls fail.
* `Desk.gains_fallBack`, `Desk.gains_carryOut`: nor does what follows an attempt.
-/

namespace OnCall

open Restriction (Change)

/-! ## 1. Gaining restrictions -/

/-- How many restrictions are set for a reason. -/
def Ledger.count (x : Change) (s : Ledger) : Nat :=
  s.restrictions.countP fun r => r.hasReasonOf x.restriction

/-- The reasons for one restriction are the same. -/
theorem Restriction.hasReasonOf_congr {r r' q : Restriction} (h : r.hasReasonOf r' = true) :
    q.hasReasonOf r = q.hasReasonOf r' :=
  Bool.eq_iff_iff.mpr ⟨fun reason => hasReasonOf_trans reason h,
    fun reason => hasReasonOf_trans reason (hasReasonOf_symm h)⟩

namespace Ledger

/-- **Some restrictions were posted** for reasons that are allowed, after those that were set; and
none for a reason that one was set for. -/
structure Gains (may : Change → Prop) (s t : Ledger) : Prop where
  grown : ∃ more : List Restriction, t.restrictions = s.restrictions ++ more ∧
    ∀ r ∈ more, ∃ x, may x ∧ r.hasReasonOf x.restriction = true
  most : ∀ x, t.count x ≤ max (s.count x) 1

variable {may may' : Change → Prop} {clusterId : String} {s t u : Ledger} {log : Log} {x : Change}

theorem count_congr (same : t.restrictions = s.restrictions) : t.count x = s.count x := by
  rw [count, count, same]

namespace Gains

theorem of_eq (same : t.restrictions = s.restrictions) : s.Gains may t := by
  refine ⟨⟨[], same.trans (List.append_nil _).symm, nofun⟩, fun x => ?_⟩
  rw [count_congr same]
  exact Nat.le_max_left _ _

theorem trans (h₁ : s.Gains may t) (h₂ : t.Gains may u) : s.Gains may u := by
  obtain ⟨⟨more₁, grown₁, for₁⟩, most₁⟩ := h₁
  obtain ⟨⟨more₂, grown₂, for₂⟩, most₂⟩ := h₂
  refine ⟨⟨more₁ ++ more₂, by rw [grown₂, grown₁, List.append_assoc], fun r hr => ?_⟩, fun x => ?_⟩
  · exact (List.mem_append.mp hr).elim (for₁ r) (for₂ r)
  · have := most₁ x
    have := most₂ x
    omega

theorem imp (h : s.Gains may t) (weaker : ∀ x, may x → may' x) : s.Gains may' t := by
  obtain ⟨⟨more, grown, reasons⟩, most⟩ := h
  refine ⟨⟨more, grown, fun r hr => ?_⟩, most⟩
  obtain ⟨x, allowed, reason⟩ := reasons r hr
  exact ⟨x, weaker x allowed, reason⟩

/-- One is posted for a reason that none was set for. -/
theorem of_post {given : String} (allowed : may x) (unset : s.count x = 0)
    (grown : t.restrictions = s.restrictions ++ [{ x.restriction with id := some given }]) :
    s.Gains may t := by
  have reason : ({ x.restriction with id := some given } : Restriction).hasReasonOf x.restriction =
      true := Restriction.hasReasonOf_iff.mpr ⟨rfl, rfl⟩
  refine ⟨⟨_, grown, fun r hr => ?_⟩, fun y => ?_⟩
  · rw [List.mem_singleton.mp hr]
    exact ⟨x, allowed, reason⟩
  · rw [count, grown, List.countP_append, List.countP_singleton, count]
    split
    · rename_i other
      -- for this reason, too, none was set
      have same : s.count y = s.count x := by
        have alike : x.restriction.hasReasonOf y.restriction = true :=
          Restriction.hasReasonOf_trans (Restriction.hasReasonOf_symm reason) other
        rw [count, count]
        congr 1
        funext r
        exact (Restriction.hasReasonOf_congr alike).symm
      rw [← count, same, unset]
      exact Nat.le_refl 1
    · exact Nat.le_max_left _ _

/-- What was set is still there. -/
theorem subset (h : s.Gains may t) : s.restrictions ⊆ t.restrictions := by
  obtain ⟨⟨more, grown, _⟩, _⟩ := h
  rw [grown]
  exact List.subset_append_left _ _

theorem count_le (h : s.Gains may t) (x : Change) : s.count x ≤ t.count x := by
  obtain ⟨⟨more, grown, _⟩, _⟩ := h
  rw [count, count, grown, List.countP_append]
  exact Nat.le_add_right _ _

/-- What is set for no reason that is allowed is as it was. -/
theorem filter_eq (h : s.Gains may t) {p : Restriction → Bool}
    (other : ∀ x r, may x → r.hasReasonOf x.restriction = true → p r = false) :
    t.restrictions.filter p = s.restrictions.filter p := by
  obtain ⟨⟨more, grown, reasons⟩, _⟩ := h
  have none' : more.filter p = [] := List.filter_eq_nil_iff.mpr fun r hr => by
    obtain ⟨x, allowed, reason⟩ := reasons r hr
    rw [other x r allowed reason]
    exact Bool.false_ne_true
  rw [grown, List.filter_append, none', List.append_nil]

end Gains

/-! ## 2. Carrying out a conclusion -/

/-- **Setting a restriction** posts it at most, and only if none is set for the reason. -/
theorem gains_ensure {id : String} {r : Except Failure Bool} (allowed : may x)
    (h : Fallible.Gives (Restriction.ensure id x.restriction) log r)
    (after : s.After clusterId log t) : s.Gains may t := by
  rcases Fallible.gives_bind.mp h with ⟨l₁, listed, l₂, rfl, asked, h₁⟩ | ⟨f, rfl, asked⟩
  · obtain ⟨mid, before, behind⟩ := after_append.mp after
    rw [Fallible.gives_call.mp asked, after_singleton] at before
    obtain ⟨truthful, same⟩ := before
    refine Gains.trans (.of_eq same) ?_
    split at h₁
    · obtain ⟨rfl, _⟩ := Fallible.gives_pure.mp h₁
      rw [show t = mid from behind]
      exact .of_eq rfl
    · rename_i unset
      have posted : ∃ reply,
          l₂ = [(Call.manager (.postRestriction id x.restriction)).exchange reply] := by
        rcases Fallible.gives_bind.mp h₁ with ⟨l₃, _, l₄, rfl, sent, ended⟩ | ⟨f, _, sent⟩
        · obtain ⟨rfl, _⟩ := Fallible.gives_pure.mp ended
          rw [List.append_nil]
          exact ⟨_, Fallible.gives_call.mp sent⟩
        · exact ⟨_, Fallible.gives_call.mp sent⟩
      obtain ⟨reply, rfl⟩ := posted
      rw [after_singleton] at behind
      cases reply with
      | error f => exact .of_eq behind
      | ok _ =>
        by_cases own : id = clusterId
        · obtain ⟨given, grown⟩ := behind.1 own
          refine .of_post allowed (List.countP_eq_zero.mpr fun r hr reason => unset ?_) grown
          rw [truthful own, ← same]
          exact List.any_eq_true.mpr ⟨r, hr, reason⟩
        · exact .of_eq (behind.2 own)
  · rw [Fallible.gives_call.mp asked, after_singleton] at after
    exact .of_eq after

/-- However often it is tried. -/
theorem gains_retried {id : String} {policy : RetryPolicy} {r : Except Failure Bool}
    (allowed : may x)
    (h : Fallible.Gives (Work.retried policy (Restriction.ensure id x.restriction)) log r)
    (after : s.After clusterId log t) : s.Gains may t := by
  obtain ⟨n, earlier, last, _, rfl, tries, final, _⟩ := Fallible.gives_retried h
  obtain ⟨mid, before, behind⟩ := after_append.mp after
  refine Gains.trans ?_ (gains_ensure allowed final behind)
  exact after_retries (fun _ _ => Pausing.leaving) (fun _ _ => .of_eq) (fun _ _ _ => .trans)
    (fun _ _ _ _ _ _ failed after => gains_ensure allowed failed after) tries before

end Ledger

namespace Ledger

variable {may : Change → Prop} {clusterId : String} {s t : Ledger} {log : Log} {site : Site}
  {r : Except Failure Unit}

/-- One step. -/
theorem gains_apply {a : Action} (allowed : ∀ x, a = .side (.restrict x) → may x)
    (h : Fallible.Gives (a.apply site) log r) (after : s.After clusterId log t) : s.Gains may t := by
  by_cases restrict : ∃ x, a = .side (.restrict x)
  · obtain ⟨x, rfl⟩ := restrict
    rcases Fallible.gives_bind.mp h with ⟨l₁, cluster, l₂, rfl, needed, h₁⟩ | ⟨f, _, needed⟩
    · rw [site.gives_needCluster needed, List.nil_append] at after
      rcases Fallible.gives_bind.mp h₁ with ⟨l₃, posted, l₄, rfl, set, counted⟩ | ⟨f, _, set⟩
      · obtain ⟨mid, before, behind⟩ := after_append.mp after
        have counting : Fallible.Only (Ask.Leaving clusterId) (if posted = true then
            liftM (Work.count .restrictionsSet) else (pure () : Fallible Unit)) := by
          split
          · exact Fallible.only_liftM (Program.only_request trivial)
          · exact Fallible.only_pure ()
        exact (gains_retried (allowed x rfl) set before).trans
          (.of_eq (after_leaving (counting.of_run counted) behind))
      · exact gains_retried (allowed x rfl) set after
    · rw [site.gives_needCluster needed] at after
      rw [show t = s from after]
      exact .of_eq rfl
  · refine .of_eq (after_leaving (fun e he => ?_) after)
    have asked := (Action.only_apply site a).of_run h e he
    generalize e.request = q at asked
    cases asked with
    | post x => exact absurd ⟨x, rfl⟩ restrict
    | _ => trivial

theorem gains_applyAll {as : List Action} (allowed : ∀ x, .side (.restrict x) ∈ as → may x)
    (h : Fallible.Gives (Action.applyAll site as) log r) (after : s.After clusterId log t) :
    s.Gains may t := by
  induction as generalizing log s with
  | nil =>
    obtain ⟨rfl, _⟩ := Fallible.gives_pure.mp h
    rw [show t = s from after]
    exact .of_eq rfl
  | cons a as ih =>
    have first : ∀ x, a = .side (.restrict x) → may x := fun x same =>
      allowed x (same ▸ List.mem_cons_self ..)
    rcases Action.gives_applyAll_cons h with ⟨l₁, l₂, rfl, applied, others⟩ | ⟨f, g, refused, _⟩
    · obtain ⟨mid, before, behind⟩ := after_append.mp after
      exact (gains_apply first applied before).trans
        (ih (fun x mem => allowed x (List.mem_cons_of_mem _ mem)) others behind)
    · exact gains_apply first refused after

/-- **Carrying out a conclusion** posts at most the restrictions among its side actions. -/
theorem gains_execute {c : Conclusion} (h : Fallible.Gives (c.execute site) log r)
    (after : s.After clusterId log t) : s.Gains (.restrict · ∈ c.sideActions) t :=
  gains_applyAll (fun _ => c.mem_sideActions) h after

end Ledger

/-! ## 3. After the attempts -/

namespace Desk

variable {d : Desk} {clusterId : String} {s t : Ledger} {log : Log} {r : Except Failure Outcome}

/-- A fallback sets nothing. -/
theorem restrictions_fallBack {alert : Alert} {cluster : Option Cluster} {name : String}
    {status : OutcomeStatus} {mark : Mark} {line reason : String}
    (h : Fallible.Gives (d.fallBack alert cluster name status mark line reason) log r)
    (after : s.After clusterId log t) : t.restrictions = s.restrictions := by
  obtain ⟨_, executed, _⟩ := gives_fallBack h
  obtain ⟨⟨more, grown, reasons⟩, _⟩ := Ledger.gains_execute executed after
  have none' : more = [] := List.eq_nil_iff_forall_not_mem.mpr fun q hq => by
    obtain ⟨x, mem, _⟩ := reasons q hq
    exact absurd mem List.not_mem_nil
  rw [grown, none', List.append_nil]

theorem gains_carryOut {name : String} {ctx : Context} {c : Conclusion}
    (h : Fallible.Gives (d.carryOut name ctx c) log r) (after : s.After clusterId log t) :
    s.Gains (.restrict · ∈ c.sideActions) t := by
  rcases gives_carryOut h with ⟨_, executed⟩ | ⟨first, last, f, rfl, executed, reported⟩
  · exact Ledger.gains_execute executed after
  · obtain ⟨mid, before, behind⟩ := Ledger.after_append.mp after
    exact (Ledger.gains_execute executed before).trans (.of_eq (restrictions_fallBack reported behind))

end Desk

end OnCall
