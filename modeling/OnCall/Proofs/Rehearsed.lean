import OnCall.Proofs.Stores
import OnCall.Rehearsal

/-!
# The restrictions in a rehearsal

A rehearsal keeps the restrictions on its cluster as cluster management does. What is said of the
ledger of a cluster along any run can so be seen in one that is rehearsed.

* `Rehearsal.Numbered`: an id is given once. Every request keeps that (`Rehearsal.Numbered.run`).
* `Rehearsal.step_answer`: a request and its reply are an exchange of the ledger, whether the script
  lets it fail or not.
* `Rehearsal.after_run`: **so are the exchanges of a rehearsed run.**
-/

namespace OnCall

/-- The request posts and deletes no restriction elsewhere. -/
def Ask.isWithin (clusterId : String) : Ask → Bool
  | .call (.manager (.postRestriction id _)) => id = clusterId
  | .call (.manager (.deleteRestriction id _)) => id = clusterId
  | _ => true

namespace Rehearsal

/-! ## 1. Ids -/

/-- The id that is given after so many others. -/
def given (n : Nat) : String := "lsr-" ++ toString (n + 1)

theorem given_injective {m n : Nat} (h : given m = given n) : m = n := by
  have texts : (toString (m + 1)).toList = (toString (n + 1)).toList := by
    have whole := congrArg String.toList h
    rw [given, given, String.toList_append, String.toList_append] at whole
    exact List.append_cancel_left whole
  rw [Nat.toString_eq_repr, Nat.toString_eq_repr, Nat.toList_repr, Nat.toList_repr] at texts
  have numbers := congrArg Text.valueOf texts
  rw [Text.valueOf, Text.valueOf, Nat.ofDigitChars_ten_toDigits,
    Nat.ofDigitChars_ten_toDigits] at numbers
  exact Nat.succ.inj numbers

/-- Every id was given once, and those that are still to come have not been given. -/
structure Numbered (s : Rehearsal) : Prop where
  distinct : (s.restrictions.filterMap Restriction.id).Nodup
  fresh : ∀ n, s.idsGiven ≤ n → given n ∉ s.restrictions.filterMap Restriction.id

variable {s t : Rehearsal}

theorem numbered_standard : Numbered .standard := ⟨List.nodup_nil, fun _ _ => List.not_mem_nil⟩

namespace Numbered

/-- Where nothing is posted. -/
theorem of_sublist (h : s.Numbered) (fewer : t.restrictions.Sublist s.restrictions)
    (count : t.idsGiven = s.idsGiven) : t.Numbered := by
  refine ⟨h.distinct.sublist (fewer.filterMap _), fun n later mem => ?_⟩
  exact h.fresh n (count ▸ later) ((fewer.filterMap _).subset mem)

/-- Where the restrictions are as they were. -/
theorem of_eq (h : s.Numbered) (same : t.restrictions = s.restrictions)
    (count : t.idsGiven = s.idsGiven) : t.Numbered :=
  h.of_sublist (same ▸ List.Sublist.refl _) count

theorem keep (h : s.Numbered) (r : Restriction) : (s.keep r).Numbered := by
  have ids : (s.keep r).restrictions.filterMap Restriction.id =
      s.restrictions.filterMap Restriction.id ++ [given s.idsGiven] := List.filterMap_append
  refine ⟨?_, fun n later mem => ?_⟩
  · rw [ids, List.nodup_append]
    refine ⟨h.distinct, List.pairwise_singleton _ _, fun id old id' new same => ?_⟩
    rw [List.mem_singleton.mp new] at same
    exact h.fresh _ (Nat.le_refl _) (same ▸ old)
  · have later : s.idsGiven + 1 ≤ n := later
    rw [ids] at mem
    rcases List.mem_append.mp mem with old | new
    · exact h.fresh n (Nat.le_of_succ_le later) old
    · rw [given_injective (List.mem_singleton.mp new)] at later
      exact absurd later (Nat.not_succ_le_self _)

end Numbered

/-! ## 2. One request -/

theorem restrictions_record (r : Restriction) (s : Rehearsal) :
    (s.record r).restrictions = s.restrictions ∧ (s.record r).idsGiven = s.idsGiven := by
  unfold record
  split <;> exact ⟨rfl, rfl⟩

theorem restrictions_delete (id : String) (s : Rehearsal) :
    (s.delete id).restrictions = s.restrictions.eraseP (fun r => r.id = some id) ∧
      (s.delete id).idsGiven = s.idsGiven := by
  unfold delete
  split
  · rename_i absent
    exact ⟨(List.eraseP_of_forall_not (List.find?_eq_none.mp absent)).symm, rfl⟩
  · exact restrictions_record _ _

/-- A call that goes through. -/
theorem step_serve (clusterId : String) (h : s.Numbered) (c : Call) :
    (Ask.isWithin clusterId (.call c) = true →
      Restriction.Step clusterId s.restrictions (c.exchange (s.serve c).1)
        (s.serve c).2.restrictions) ∧
      (s.serve c).2.Numbered := by
  cases c with
  | manager call =>
    cases call with
    | cluster id =>
      simp only [serve, manager]
      split
      · split <;> exact ⟨fun _ => rfl, h⟩
      · exact ⟨fun _ => rfl, h⟩
    | restrictions id => exact ⟨fun _ => ⟨fun _ => rfl, rfl⟩, h⟩
    | postRestriction id r =>
      obtain ⟨same, count⟩ := restrictions_record r (s.keep r)
      refine ⟨fun within => ⟨fun _ => ⟨_, same⟩, fun elsewhere => ?_⟩, ?_⟩
      · exact absurd (of_decide_eq_true within) elsewhere
      · exact (h.keep r).of_eq same count
    | deleteRestriction id restrictionId =>
      obtain ⟨same, count⟩ := restrictions_delete restrictionId s
      refine ⟨fun within => ⟨fun _ => same, fun elsewhere => ?_⟩, ?_⟩
      · exact absurd (of_decide_eq_true within) elsewhere
      · exact h.of_sublist (same ▸ List.eraseP_sublist) count
    | _ => exact ⟨fun _ => rfl, h⟩
  | deployment id =>
    simp only [serve]
    split <;> exact ⟨fun _ => rfl, h⟩
  | verifyEgress target =>
    simp only [serve, report]
    split <;> exact ⟨fun _ => rfl, h.of_eq rfl rfl⟩
  | _ => exact ⟨fun _ => rfl, h⟩

/-- **A request and its reply are an exchange of the ledger**, and ids are given once after it. -/
theorem step_answer (clusterId : String) (h : s.Numbered) (q : Ask) :
    (q.isWithin clusterId = true →
      Restriction.Step clusterId s.restrictions ⟨q, (answer q s).1⟩ (answer q s).2.restrictions) ∧
      (answer q s).2.Numbered := by
  cases q with
  | call c =>
    simp only [answer]
    split
    · exact ⟨fun _ => Restriction.step_failed clusterId c _ _, h.of_eq rfl rfl⟩
    · rename_i faults _
      have ready : Numbered { s with faults } := h.of_eq rfl rfl
      exact step_serve clusterId ready c
  | pause span =>
    -- whatever was waited: the number of milliseconds is not to be computed here
    suffices any : ∀ waited, (Ask.isWithin clusterId (.pause span) = true →
        Restriction.Step clusterId s.restrictions ⟨.pause span, ()⟩
          { s with waited }.restrictions) ∧ Numbered { s with waited } from any _
    exact fun waited => ⟨fun _ => rfl, h.of_eq rfl rfl⟩
  | _ => exact ⟨fun _ => rfl, h.of_eq rfl rfl⟩

/-! ## 3. A whole run -/

/-- Ids are given once, whatever is run. -/
theorem Numbered.run {α : Type} (h : s.Numbered) (p : Work α) : (s.run p).2.2.Numbered := by
  induction p generalizing s with
  | done a => exact h
  | ask q next ih => exact ih _ (step_answer "" h q).2

/-- The ledger of the cluster. -/
def ledger (s : Rehearsal) (h : s.Numbered) : Ledger := ⟨s.restrictions, s.history, h.distinct⟩

/-- **The exchanges of a rehearsed run are those of the ledger**, from what the script had before it
to what it has after it. -/
theorem after_run {α : Type} {p : Work α} {clusterId : String} (h : s.Numbered)
    (within : ∀ e ∈ (s.run p).1, Ask.isWithin clusterId e.request = true) :
    (s.ledger h).After clusterId (s.run p).1 ((s.run p).2.2.ledger (h.run p)) := by
  induction p generalizing s with
  | done a => rfl
  | ask q next ih =>
    obtain ⟨step, numbered⟩ := step_answer clusterId h q
    refine ⟨(answer q s).2.ledger numbered, step (within _ (List.mem_cons_self ..)), ?_⟩
    exact ih _ numbered fun e he => within e (List.mem_cons_of_mem _ he)

/-- What is played in a rehearsal is a run that the ledger follows. -/
theorem after_played {α : Type} {p : Work α} {clusterId : String} {log : Log} {a : α}
    (h : s.Numbered) (played : s.run p = (log, a, t))
    (within : ∀ e ∈ log, Ask.isWithin clusterId e.request = true) :
    Program.Run p log a ∧ ∃ h' : t.Numbered, (s.ledger h).After clusterId log (t.ledger h') := by
  have ran : Program.Run p (s.run p).1 (s.run p).2.1 := Program.run_play _ p s
  have follows : _ → (s.ledger h).After clusterId (s.run p).1 ((s.run p).2.2.ledger (h.run p)) :=
    after_run h
  have numbered := h.run p
  simp only [played] at ran follows numbered
  exact ⟨ran, numbered, follows within⟩

end Rehearsal

end OnCall
