import OnCall.Proofs.Outcomes
import OnCall.Proofs.Standing

/-!
# What the incident is told of lifted restrictions

When a cluster is back, restrictions are lifted during the investigation, before anything is written
to the incident. Whether the incident is told depends on what comes after.

* `Ledger.Lost`: something that was set for a reason is gone.
* `Desk.unset_attempt`: the conclusion for a cluster that is back sets nothing that could be lifted.
* `Desk.posted_fallBack`, `Desk.posted_carryOut`: the notes that are put on the incident.
* `Desk.Course`: the attempts of a handling, with the ledgers before and after the one that counts.
* `Desk.lifted_told_iff`: **the incident is told what that attempt lifted entirely**, if it concluded
  and its note was accepted; of anything else that was lifted it is not told.
-/

namespace OnCall

open Restriction (Change)
open Surroundings (liftable)

/-! ## 1. Lost restrictions -/

namespace Ledger

/-- Something that was set for the reason is gone. -/
def Lost (x : Change) (s t : Ledger) : Prop :=
  ∃ r ∈ s.restrictions, x.owns r = true ∧ r ∉ t.restrictions

variable {s mid t : Ledger} {x : Change} {may may' : Restriction → Prop}

/-- What is gone in the end went in the one part or the other. -/
theorem lost_iff (first : s.Loses may mid) (second : mid.Loses may' t) :
    s.Lost x t ↔ s.Lost x mid ∨ mid.Lost x t := by
  constructor
  · intro ⟨r, hr, owned, gone⟩
    by_cases there : r ∈ mid.restrictions
    · exact .inr ⟨r, there, owned, gone⟩
    · exact .inl ⟨r, hr, owned, there⟩
  · rintro (⟨r, hr, owned, gone⟩ | ⟨r, hr, owned, gone⟩)
    · exact ⟨r, hr, owned, fun there => gone (second.sublist.subset there)⟩
    · exact ⟨r, first.sublist.subset hr, owned, gone⟩

/-- What is set later for other reasons makes no difference. -/
theorem lost_congr (same : t.restrictions.filter (x.owns ·) = mid.restrictions.filter (x.owns ·)) :
    s.Lost x t ↔ s.Lost x mid := by
  have alike {r : Restriction} (owned : x.owns r = true) :
      r ∈ t.restrictions ↔ r ∈ mid.restrictions := by
    have mem : r ∈ t.restrictions.filter (x.owns ·) ↔ r ∈ mid.restrictions.filter (x.owns ·) := by
      rw [same]
    rwa [List.mem_filter, List.mem_filter, and_iff_left owned, and_iff_left owned] at mem
  refine exists_congr fun r => and_congr_right fun _ => and_congr_right fun owned => ?_
  rw [alike owned]

end Ledger

/-! ## 2. After the attempts -/

namespace Desk

variable {d : Desk} {alert : Alert} {clusterId : String} {s t : Ledger} {log : Log} {o : Outcome}

/-- **The conclusion for a cluster that is back** sets a restriction only for revoked credentials. -/
theorem unset_attempt {a a' : Dossier} {ctx : Context} {c : Conclusion} {x : Change}
    (cleared : alert.hasCleared = true)
    (run : Filing.Gives (d.attempt .unreachable alert) a log (.ok (ctx, c)) a')
    (mem : .restrict x ∈ c.sideActions) : x = Credentials.invalid := by
  rcases gives_attempt_ok run with ⟨_, _, notes, _, built, investigated⟩ | ⟨f, _, _, _, _, _, _, _, rfl⟩
  · have onAlert : ctx.alert = alert := (Context.gives_build_ok built).1
    have plain : (Investigation.unreachable.run ctx).Concludes
        fun n c => ∃ routing, c = ⟨n.render, [], routing⟩ := by
      refine Investigation.concludes_run (fun now => ?_) fun _ => ⟨_, rfl⟩
      rw [Investigation.steps, onAlert, if_pos cleared]
      exact Unreachable.concludes_recovered ctx now ⟨fun _ _ _ => ⟨_, rfl⟩, fun _ _ => ⟨_, rfl⟩⟩
    obtain ⟨_, rfl⟩ := plain _ _ _ _ investigated
    cases mem
  · cases List.mem_singleton.mp mem
    rfl

/-- Nothing that could be lifted is set for a cluster that is back. -/
theorem lost_carried {c : Conclusion} {x : Change} {mid : Ledger} (hx : x ∈ liftable)
    (only : ∀ y, .restrict y ∈ c.sideActions → y = Credentials.invalid)
    (gains : mid.Gains (.restrict · ∈ c.sideActions) t) : s.Lost x t ↔ s.Lost x mid := by
  refine Ledger.lost_congr (gains.filter_eq fun y r allowed reason => ?_)
  have other : x ≠ Credentials.invalid := by
    have apart : ∀ x ∈ liftable, x ≠ Credentials.invalid := by decide +kernel
    exact apart x hx
  rw [only y allowed] at reason
  refine Bool.eq_false_iff.mpr fun owned => other ?_
  rw [Change.owns, Bool.and_eq_true] at owned
  exact Restriction.builtIn_apart (builtIn_of_liftable hx) Restriction.invalid_builtIn owned.1 reason

/-- The writes of a run to the incident: these notes, then the terminal action of the outcome. -/
def Posted (alert : Alert) (o : Outcome) (log : Log) (notes : List Notes) : Prop :=
  written log = notes.map (fun n => (alert.incidentId, Action.note n.render)) ++
    [(alert.incidentId, o.conclusion.terminal)]

theorem posted_execute {site : Site} {n : Notes} (incident : site.incidentId = alert.incidentId)
    (rendered : o.conclusion.note = n.render)
    (done : Fallible.Gives (o.conclusion.execute site) log (.ok ())) : Posted alert o log [n] := by
  rw [Posted, Conclusion.written_execute done, o.conclusion.filter_isWrite_actions, rendered, incident]
  rfl

/-- **The note of a fallback** says of no restriction that it was removed. -/
theorem posted_fallBack {cluster : Option Cluster} {name : String} {status : OutcomeStatus}
    {mark : Mark} {line reason : String} (other : mark ≠ .automation)
    (h : Fallible.Gives (d.fallBack alert cluster name status mark line reason) log (.ok o)) :
    ∃ n, Posted alert o log [n] ∧ ∀ x : Change, x.removalLine ∉ n.lines := by
  obtain ⟨done, rfl⟩ := gives_fallBack_ok h
  refine ⟨(Notes.empty name).add mark line, posted_execute rfl rfl done, fun x mem => ?_⟩
  rcases Notes.mem_add.mp mem with none' | same
  · cases none'
  · exact x.ne_removalLine other line same.symm

/-- **The note of a conclusion** is on the incident, unless it was refused. -/
theorem posted_carryOut {name : String} {ctx : Context} {c : Conclusion} {n : Notes}
    (onAlert : ctx.alert = alert) (rendered : c.note = n.render)
    (h : Fallible.Gives (d.carryOut name ctx c) log (.ok o)) :
    ∃ posted, Posted alert o log posted ∧ ∀ x : Change, (∃ p ∈ posted, x.removalLine ∈ p.lines) ↔
      ¬ FirstNoteRefused alert.incidentId log ∧ x.removalLine ∈ n.lines := by
  subst onAlert
  rcases gives_carryOut h with ⟨same, done⟩ | ⟨first, last, f, rfl, failed, reported⟩
  · cases same
    refine ⟨[n], posted_execute rfl rendered done, fun x => ?_⟩
    rcases Conclusion.noted_execute done with ⟨_, _, wrong⟩ | accepted
    · cases wrong
    · have told : ¬ FirstNoteRefused ctx.alert.incidentId (log ++ []) :=
        not_firstNoteRefused accepted []
      rw [List.append_nil] at told
      simp only [List.mem_singleton, exists_eq_left, and_iff_right told]
  · obtain ⟨m, wrote, silent⟩ := posted_fallBack (by decide) reported
    rcases Conclusion.written_execute_error failed with ⟨g, rfl⟩ | ⟨accepted, wrote'⟩
    · refine ⟨[m], ?_, fun x => iff_of_false ?_ ?_⟩
      · rw [Posted, written_append]
        exact wrote
      · simp only [List.mem_singleton, exists_eq_left]
        exact silent x
      · exact fun ⟨told, _⟩ => told ⟨c.note, g, rfl⟩
    · refine ⟨[n, m], ?_, fun x => ?_⟩
      · rw [Posted, written_append, wrote', wrote, rendered]
        rfl
      · simp only [List.mem_cons, List.not_mem_nil, or_false, exists_eq_or_imp, exists_eq_left,
          and_iff_right (not_firstNoteRefused accepted last)]
        exact or_iff_left (silent x)

/-! ## 3. What is told -/

/-- **The course of a handling**: attempts that failed, up to the ledger `s₁`; the attempt that counts,
with its result, up to `s₂`; and what followed. -/
inductive Course (d : Desk) (i : Investigation) (alert : Alert) (clusterId : String) (s : Ledger) :
    Log → Ledger → Except Failure (Context × Conclusion) → Ledger → Ledger → Prop where
  | of {n : Nat} {a a' : Dossier} {earlier last carried : Log} {s₁ s₂ t : Ledger}
      {r : Except Failure (Context × Conclusion)}
      (tries : Retries (Filing.Gives (d.attempt i alert)) Repeating n .empty earlier a)
      (before : s.After clusterId (⟨Ask.count .alertsHandled, ()⟩ :: earlier) s₁)
      (counts : Filing.Gives (d.attempt i alert) a last r a') (during : s₁.After clusterId last s₂)
      (behind : s₂.After clusterId carried t) :
      Course d i alert clusterId s (⟨Ask.count .alertsHandled, ()⟩ :: (earlier ++ last ++ carried)) t
        r s₁ s₂

/-- What follows the attempt that counts: nothing more is lost, and the notes tell what the attempt
lifted entirely if it concluded and its note was not refused. -/
theorem told_ended {name : String} {a a' : Dossier} {last carried : Log} {s₁ s₂ : Ledger}
    {res : Except Failure (Context × Conclusion)} {cluster : Option Cluster}
    (cleared : alert.hasCleared = true)
    (counts : Filing.Gives (d.attempt .unreachable alert) a last res a')
    (during : s₁.After clusterId last s₂)
    (own : ∀ ctx c, res = .ok (ctx, c) → ctx.cluster.id = clusterId)
    (ended : (∃ ctx c, res = .ok (ctx, c) ∧
        Fallible.Gives (d.carryOut name ctx c) carried (.ok o)) ∨
      ∃ f, res = .error f ∧ Fallible.Gives (d.giveUp alert cluster name f) carried (.ok o))
    (behind : s₂.After clusterId carried t) :
    ∃ posted, Posted alert o carried posted ∧ ∀ x ∈ liftable, (s.Lost x t ↔ s.Lost x s₂) ∧
      ((∃ p ∈ posted, x.removalLine ∈ p.lines) ↔
        (∃ concluded, res = .ok concluded) ∧ ¬ FirstNoteRefused alert.incidentId carried ∧
          s₁.Cleared x s₂) := by
  rcases ended with ⟨ctx, c, rfl, carriedOut⟩ | ⟨f, rfl, givenUp⟩
  · rcases noted_attempt cleared counts during with ⟨_, _, n, n', same, rendered, blank, noted⟩ |
      ⟨⟨_, wrong⟩, _⟩
    · cases same
      obtain ⟨onAlert, _, _⟩ := context_of_attempt_ok counts
      obtain ⟨posted, wrote, told⟩ := posted_carryOut onAlert rendered carriedOut
      refine ⟨posted, wrote, fun x hx => ⟨?_, ?_⟩⟩
      · exact lost_carried hx (fun _ => unset_attempt cleared counts) (gains_carryOut carriedOut behind)
      · have line : x.removalLine ∈ n'.lines ↔ s₁.Cleared x s₂ := by
          rw [noted.told (own _ _ rfl) x hx, blank]
          exact or_iff_right List.not_mem_nil
        rw [told x, line]
        exact (and_iff_right ⟨_, rfl⟩).symm
    · cases wrong
  · obtain ⟨m, wrote, silent⟩ := posted_fallBack (by decide) givenUp
    refine ⟨[m], wrote, fun x _ => ⟨?_, iff_of_false ?_ ?_⟩⟩
    · exact Ledger.lost_congr (by rw [restrictions_fallBack givenUp behind])
    · simp only [List.mem_singleton, exists_eq_left]
      exact silent x
    · exact fun ⟨⟨_, wrong⟩, _⟩ => nomatch wrong

/-- **When what was lifted is told.** A cleared alert is handled, and an outcome comes of it. Only
liftable restrictions of a cluster that is back are gone. Let `s₁` be the ledger when the attempt that
counts begins, and `s₂` when it ends. What went before `s₁` is not told; what went between is told
exactly if the attempt concluded, its note was not refused, and nothing is left for the reason. -/
theorem lifted_told_iff (cleared : alert.hasCleared = true)
    (h : Fallible.Gives (d.handle alert) log (.ok o)) (after : s.After clusterId log t)
    (own : ∀ c : Cluster,
      (Call.manager (.cluster alert.clusterId)).exchange (.ok c) ∈ log → c.id = clusterId) :
    (∀ r ∈ s.restrictions, r ∉ t.restrictions →
      r.Liftable ∧ d.roster.find alert.title = some .unreachable) ∧
    (d.roster.find alert.title = some .unreachable → ∃ res s₁ s₂ posted,
      d.Course .unreachable alert clusterId s log t res s₁ s₂ ∧ Posted alert o log posted ∧
      ∀ x ∈ liftable, (s.Lost x t ↔ s.Lost x s₁ ∨ s₁.Lost x s₂) ∧
        ((∃ p ∈ posted, x.removalLine ∈ p.lines) ↔
          (∃ concluded, res = .ok concluded) ∧ ¬ FirstNoteRefused alert.incidentId log ∧
            s₁.Cleared x s₂)) := by
  refine ⟨fun r hr gone => ?_, fun found => ?_⟩
  · obtain ⟨mid, loses, gains⟩ := loses_gains_handle h after
    obtain ⟨⟨found, _⟩, liftable⟩ := loses.may_of_not_mem hr fun there => gone (gains.subset there)
    exact ⟨liftable, found⟩
  obtain ⟨rest, rfl, ⟨unmatched, _⟩ | ⟨i, matched, tries, res, b, carried, rfl, tried, ended⟩⟩ :=
    gives_handle h
  · rw [found] at unmatched
    cases unmatched
  · obtain rfl : Investigation.unreachable = i := Option.some.inj (found.symm.trans matched)
    obtain ⟨n, earlier, a, last, _, rfl, failed, counts, _⟩ := gives_attempts tried
    rw [← List.cons_append, ← List.cons_append] at after
    obtain ⟨s₂, attempted, behind⟩ := Ledger.after_append.mp after
    obtain ⟨s₁, before, during⟩ := Ledger.after_append.mp attempted
    have known : ∀ ctx c, res = .ok (ctx, c) → ctx.cluster.id = clusterId := by
      rintro ctx c rfl
      obtain ⟨_, _, onFile⟩ := context_of_attempt_ok counts
      have onRecord := grounded_attempt
        (grounded_attempts (Dossier.grounded_empty alert []) failed) counts ctx.cluster onFile
      exact own _ (List.mem_cons_of_mem _ (List.mem_append_left _ onRecord))
    obtain ⟨posted, wrote, told⟩ := told_ended cleared counts during known ended behind
    -- the attempts are no matter of the pager
    have paged : pagerCalls (⟨Ask.count .alertsHandled, ()⟩ :: (earlier ++ last ++ carried)) =
        pagerCalls carried := by
      rw [pagerCalls_count, pagerCalls_append, pagerCalls_attempts failed counts, List.nil_append]
    refine ⟨_, s₁, s₂, posted, .of failed before counts during behind, ?_, fun x hx => ⟨?_, ?_⟩⟩
    · rw [Posted, written, paged]
      exact wrote
    · have sooner : s.Loses Restriction.Liftable s₁ := by
        obtain ⟨s₀, counting, before⟩ := before
        have counted : Ask.Leaving clusterId (.count .alertsHandled) := trivial
        exact (Ledger.Loses.of_eq (Ledger.step_leaving counted counting)).trans
          ((loses_attempts failed before).imp fun _ lost => lost.2)
      rw [(told x hx).1]
      exact Ledger.lost_iff sooner (loses_attempt counts during)
    · rw [FirstNoteRefused, paged]
      exact (told x hx).2

end Desk

/-! ### A restriction that is lifted and not told -/

namespace Surroundings

variable {settings : Settings} {w : Surroundings settings} {may : Call → Prop} {s t : Ledger}
  {log : Log} {c : Call} {v : c.Answer}

/-- What a call is answered is how things are. -/
theorem answered_of_mem (follows : w.Follows may s log t) (mem : c.exchange (.ok v) ∈ log) :
    ∃ u, (w.answer (.call c) u).1 = .ok v := by
  induction log generalizing s with
  | nil => exact absurd mem List.not_mem_nil
  | cons e log ih =>
    obtain ⟨next, step, rest⟩ := follows
    rcases List.mem_cons.mp mem with rfl | mem
    · rcases step with ⟨reply, _⟩ | ⟨failed, _⟩
      · exact ⟨s, Eq.symm reply⟩
      · exact failed.elim
    · exact ih rest mem

end Surroundings

/-- One restriction is set, and no change was made to it before. -/
def Ledger.fresh : Ledger := { Ledger.sample with history := [] }

/-- The handling of a cleared alert, whose first attempt deletes it and then fails. -/
def Desk.sampleRepeated : Log × Except Failure Outcome × Ledger × List (Option Failure) :=
  sampleHandling.play Surroundings.sample.answerUnder (.fresh, sampleSchedule)

/-- The second attempt finds nothing to lift, and the incident is silenced with a note that says
nothing of it. -/
theorem Desk.lifted_told_iff_repeated :
    ∃ log o t left, sampleRepeated = (log, .ok o, t, left) ∧
      o.conclusion.terminal = .terminal (.silence "cluster recovered") ∧
      Ledger.fresh.Lost Unreachable.stoppedRestriction t ∧
      ∃ posted, Posted ⟨"Q1", "cluster has gone missing", .resolved, "c1"⟩ o log posted ∧
        ∀ x ∈ liftable, ¬ ∃ p ∈ posted, x.removalLine ∈ p.lines := by
  obtain ⟨recovered, gone, home, silent⟩ :
      ending sampleRepeated.2.1 = some (.concluded, .terminal (.silence "cluster recovered")) ∧
      sampleRepeated.2.2.1.restrictions = [] ∧
      (∀ e ∈ sampleRepeated.1, Ask.isHome "c1" e.request = true) ∧
      ((written sampleRepeated.1).all fun write => match write.2 with
        | .note text => liftable.all fun x => !Text.occursIn x.removalLine text
        | _ => true) = true := by decide +kernel
  have found : (Desk.standard .standard false).roster.find "cluster has gone missing" =
      some .unreachable := by decide +kernel
  generalize played : sampleRepeated = ended at recovered gone home silent ⊢
  obtain ⟨log, r, t, left⟩ := ended
  obtain ⟨o, rfl, _, routed⟩ := eq_ok_of_ending recovered
  obtain ⟨run, follows⟩ : Fallible.Gives ((Desk.standard .standard false).handle
        ⟨"Q1", "cluster has gone missing", .resolved, "c1"⟩) log (.ok o) ∧
      Surroundings.sample.Follows Call.Lifting .fresh log t :=
    Surroundings.run_playUnder plain_sampleSchedule played
  have own : ∀ c : Cluster,
      (Call.manager (.cluster "c1")).exchange (.ok c) ∈ log → c.id = "c1" := by
    intro c mem
    obtain ⟨u, answered⟩ := Surroundings.answered_of_mem follows mem
    cases answered
    rfl
  obtain ⟨_, course⟩ := lifted_told_iff rfl run (Surroundings.after_of_follows home follows) own
  obtain ⟨_, _, _, posted, _, wrote, _⟩ := course found
  have owned : ∀ r ∈ Ledger.fresh.restrictions, Unreachable.stoppedRestriction.owns r = true := by
    decide +kernel
  have set : _ ∈ Ledger.fresh.restrictions := List.mem_cons_self ..
  refine ⟨log, o, t, left, rfl, routed, ⟨_, set, owned _ set, ?_⟩, posted, wrote, ?_⟩
  · rw [gone]
    exact List.not_mem_nil
  · intro x hx ⟨p, hp, line⟩
    have there : ("Q1", Action.note p.render) ∈ written log := by
      rw [wrote]
      exact List.mem_append_left _ (List.mem_map.mpr ⟨p, hp, rfl⟩)
    have absent := List.all_eq_true.mp (List.all_eq_true.mp silent _ there) x hx
    rw [p.shows_render.occursIn line] at absent
    cases absent

end OnCall
