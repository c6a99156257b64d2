import OnCall.Proofs.Denials
import OnCall.Proofs.Filtering

/-!
# What a lifting leaves behind

Nobody else is at work on the cluster, cluster management answers as things are, and a call that
fails has no effect. Then what a lifting comes to says which restrictions are left.

* `Restriction.lifts`: the restrictions that a lifting deletes.
* `Ledger.Served`: an exchange with such a cluster management.
* `Restriction.LeftBy`: **what is left, by what the lifting came to**.
* `Restriction.lift_outcome`: what it comes to, and that it leaves just this.
-/

namespace OnCall

/-! ## 1. Restrictions with an id -/

namespace Restriction

/-- The restriction is one that lifting `r` deletes: it is set for the same reason and has an id. -/
def lifts (r e : Restriction) : Bool := e.hasReasonOf r && e.id.isSome

theorem idsFor_eq (r : Restriction) (listed : List Restriction) :
    r.idsFor listed = (listed.filter r.lifts).filterMap Restriction.id := by
  rw [idsFor, List.filterMap_filter, List.filterMap_filter]
  congr 1
  funext e
  cases reason : e.hasReasonOf r <;> cases has : e.id <;> simp [lifts, reason, has]

theorem length_idsFor (r : Restriction) (listed : List Restriction) :
    (r.idsFor listed).length = (listed.filter r.lifts).length := by
  rw [idsFor_eq]
  refine List.filterMap_length_eq_length.mpr fun e mem => ?_
  have lifted := (List.mem_filter.mp mem).2
  rw [lifts, Bool.and_eq_true] at lifted
  exact lifted.2

end Restriction

namespace Ledger

variable {s t : Ledger} {r : Restriction} {clusterId : String} {log : Log}

/-- Of restrictions on the cluster that have an id, to be none of them is to have none of their ids. -/
theorem filter_ids_eq {gone : List Restriction} (there : ∀ e ∈ gone, e ∈ s.restrictions)
    (named : ∀ e ∈ gone, e.id.isSome = true) :
    (s.restrictions.filter fun e => decide (∀ id ∈ gone.filterMap Restriction.id, e.id ≠ some id)) =
      s.restrictions.filter fun e => decide (e ∉ gone) := by
  refine List.filter_congr fun e mem => decide_eq_decide.mpr ?_
  constructor
  · intro other isGone
    obtain ⟨id, has⟩ := Option.isSome_iff_exists.mp (named e isGone)
    exact other id (List.mem_filterMap.mpr ⟨e, isGone, has⟩) has
  · intro kept id isGone has
    obtain ⟨e', mem', has'⟩ := List.mem_filterMap.mp isGone
    rw [s.eq_of_id_eq mem (there e' mem') has has'] at kept
    exact kept mem'

/-! ## 2. A cluster management that answers as things are -/

/-- **An exchange with cluster management while nobody else is at work on the cluster.** Its answers
are true, and a call that fails has no effect. -/
def Served (clusterId : String) (s : Ledger) (e : Exchange collaboration) (t : Ledger) : Prop :=
  s.Truthful e ∧ s.Step clusterId e t

theorem after_of_served (served : Along (Served clusterId) s log t) : s.After clusterId log t := by
  induction served with
  | nil s => rfl
  | cons first others ih => exact ⟨_, first.2, ih⟩

/-- A list of the history leads to the number of recent changes that there are. -/
theorem changes_of_served {settings : Settings} {cluster : Cluster} {now : Instant}
    {listed : List AdvisoryEntry} {rest : Log} (summary : String)
    (served : Along (Served clusterId) s (settings.told cluster now listed :: rest) t) :
    settings.recentChanges summary now listed = settings.recentChanges summary now s.history := by
  obtain ⟨_, ⟨⟨all, part⟩, _⟩, _⟩ := Along.cons_iff.mp served
  exact Settings.recentChanges_of_trims (AdvisoryFilter.trims_of_subperm all part) summary

theorem after_told {settings : Settings} {cluster : Cluster} {now : Instant}
    {reply : Except Failure (List AdvisoryEntry)} {rest : Log}
    (after : s.After clusterId ((Call.history settings cluster now).exchange reply :: rest) t) :
    ∃ next : Ledger, next.restrictions = s.restrictions ∧ next.After clusterId rest t := by
  obtain ⟨next, step, later⟩ := after
  have leaving : Ask.Leaving clusterId (.call (Call.history settings cluster now)) := trivial
  exact ⟨next, step_leaving leaving step, later⟩

/-- The list of the restrictions is what is set. -/
theorem after_listed {cluster : Cluster} {listed : List Restriction} {rest : Log}
    (after : s.After cluster.id ((Call.listed cluster).exchange (.ok listed) :: rest) t) :
    listed = s.restrictions ∧ ∃ next : Ledger, next.restrictions = s.restrictions ∧
      next.After cluster.id rest t := by
  obtain ⟨next, ⟨truthful, same⟩, later⟩ := after
  exact ⟨truthful rfl, next, same, later⟩

end Ledger

/-! ## 3. What is left -/

namespace Restriction

/-- **What is left of the restrictions on a cluster after a lifting**, by what it came to. If it
failed, what is gone is a first part of what it was to delete. -/
def LeftBy (r : Restriction) (held : List Restriction) :
    Except Failure Lifting → List Restriction → Prop
  | .ok (.removed n), left =>
    1 ≤ n ∧ n = (held.filter r.lifts).length ∧ left = held.filter fun e => !r.lifts e
  | .ok .notFound, left => held.filter r.lifts = [] ∧ left = held
  | .ok (.flapping _), left => left = held
  | .error _, left =>
    ∃ gone kept, held.filter r.lifts = gone ++ kept ∧ left = held.filter fun e => decide (e ∉ gone)

variable {s t : Ledger} {settings : Settings} {cluster : Cluster} {r : Restriction}
  {now : Instant} {log : Log} {result : Except Failure Lifting}

/-- A failure before anything was deleted. -/
theorem leftBy_error (r : Restriction) (held : List Restriction) (f : Failure) :
    r.LeftBy held (.error f) held :=
  ⟨[], _, rfl, (List.filter_eq_self.mpr fun _ _ => decide_eq_true List.not_mem_nil).symm⟩

theorem leftBy_deleteAll {policy : RetryPolicy} {clusterId : String} {ended : Except Failure Unit}
    (set : r.idsFor s.restrictions ≠ [])
    (deleted : Fallible.Gives (deleteAll policy clusterId (r.idsFor s.restrictions)) log ended)
    (after : s.After clusterId log t) :
    r.LeftBy s.restrictions (ended.map fun _ => .removed (r.idsFor s.restrictions).length)
      t.restrictions := by
  obtain ⟨done, left, split, same, ended⟩ := Ledger.deleteAll_spec deleted after
  rw [idsFor_eq] at split
  obtain ⟨gone, kept, parts, rfl, rfl⟩ := List.filterMap_eq_append_iff.mp split
  have mem : ∀ e ∈ gone ++ kept, e ∈ s.restrictions ∧ r.lifts e = true :=
    fun e he => List.mem_filter.mp (parts ▸ he)
  have named : ∀ e ∈ gone ++ kept, e.id.isSome = true := by
    intro e he
    have lifted := (mem e he).2
    rw [lifts, Bool.and_eq_true] at lifted
    exact lifted.2
  rw [Ledger.filter_ids_eq (fun e he => (mem e (List.mem_append_left _ he)).1)
    fun e he => named e (List.mem_append_left _ he)] at same
  rcases ended with ⟨⟨f, rfl⟩, _⟩ | ⟨rfl, all⟩
  · exact ⟨gone, kept, parts, same⟩
  · -- no id is left to delete, and so no restriction
    have none' : kept = [] := by
      refine List.eq_nil_iff_forall_not_mem.mpr fun e he => ?_
      obtain ⟨id, has⟩ := Option.isSome_iff_exists.mp (named e (List.mem_append_right _ he))
      have unnamed : e.id = none := List.filterMap_eq_nil_iff.mp all e he
      rw [unnamed] at has
      cases has
    rw [none', List.append_nil] at parts
    refine ⟨List.length_pos_iff.mpr set, length_idsFor _ _, ?_⟩
    rw [same]
    refine List.filter_congr fun e he => ?_
    have isGone : e ∈ gone ↔ r.lifts e = true := by
      rw [← parts, List.mem_filter]
      exact and_iff_right he
    rw [Bool.eq_iff_iff, decide_eq_true_iff, isGone, Bool.not_eq_true', Bool.not_eq_true]

/-- Whatever it comes to, a lifting leaves just this. -/
theorem Lifted.leftBy (lifted : Lifted settings cluster r now log result)
    (after : s.After cluster.id log t) : r.LeftBy s.restrictions result t.restrictions := by
  cases lifted with
  | unread f =>
    obtain ⟨next, same, rest⟩ := Ledger.after_told after
    rw [show t = next from rest, same]
    exact leftBy_error r s.restrictions f
  | flapping =>
    obtain ⟨next, same, rest⟩ := Ledger.after_told after
    rw [show t = next from rest]
    exact same
  | unlisted _ f =>
    obtain ⟨next, same, rest⟩ := Ledger.after_told after
    have unchanged : t.restrictions = next.restrictions := Ledger.after_singleton.mp rest
    rw [unchanged, same]
    exact leftBy_error r s.restrictions f
  | absent _ unset =>
    obtain ⟨next, same, rest⟩ := Ledger.after_told after
    obtain ⟨rfl, last, same', rest⟩ := Ledger.after_listed rest
    rw [same] at unset same'
    have none' := length_idsFor r s.restrictions
    rw [unset] at none'
    rw [show t = last from rest]
    exact ⟨List.eq_nil_of_length_eq_zero none'.symm, same'⟩
  | deleting _ set deleted =>
    obtain ⟨next, same, rest⟩ := Ledger.after_told after
    obtain ⟨rfl, last, same', rest⟩ := Ledger.after_listed rest
    rw [← same'] at set deleted ⊢
    rw [← same, ← same']
    exact leftBy_deleteAll set deleted rest

/-! ## 4. A lifting -/

/-- **What comes of a lifting, and what it leaves behind.** It begins with a look at the history. If
that fails, so does the lifting, and it has done nothing. If the history has as many recent changes
as are flapping, it says so and does nothing more. Otherwise it deletes one after the other what is
set for the reason and has an id, all of it unless a call fails. -/
theorem lift_outcome (ran : Fallible.Gives (lift settings cluster r now) log result)
    (served : Along (Ledger.Served cluster.id) s log t) :
    ∃ reply rest, log = (Call.history settings cluster now).exchange reply :: rest ∧
      (∀ f, reply = .error f →
        result = .error f ∧ rest = [] ∧ t.restrictions = s.restrictions) ∧
      ∀ listed, reply = .ok listed →
        (settings.flappingThreshold ≤ settings.recentChanges r.summary now s.history →
          result = .ok (.flapping (settings.recentChanges r.summary now s.history)) ∧ rest = [] ∧
            t.restrictions = s.restrictions) ∧
        (settings.recentChanges r.summary now s.history < settings.flappingThreshold →
          (∀ n, result ≠ .ok (.flapping n)) ∧ r.LeftBy s.restrictions result t.restrictions ∧
            ∀ f, result = .error f → ∃ c, log.RefusedBy c f) := by
  have lifted := lifted_of_lift ran
  have left := lifted.leftBy (Ledger.after_of_served served)
  have refused : ∀ f, result = .error f → ∃ c, log.RefusedBy c f := by
    rintro f rfl
    obtain ⟨c, _, refused⟩ := failsBy_lift settings cluster r now log f ran
    exact ⟨c, refused⟩
  -- whichever list is answered with, it has the recent changes that there are
  have seen {listed : List AdvisoryEntry} {rest : Log}
      (told : log = settings.told cluster now listed :: rest) :
      settings.recentChanges r.summary now listed =
        settings.recentChanges r.summary now s.history :=
    Ledger.changes_of_served r.summary (told ▸ served)
  cases lifted with
  | unread f =>
    refine ⟨.error f, [], rfl, fun f' same => ?_, nofun⟩
    cases same
    obtain ⟨next, same, rest⟩ := Ledger.after_told (Ledger.after_of_served served)
    exact ⟨rfl, rfl, (congrArg Ledger.restrictions rest).trans same⟩
  | @flapping listed flaps =>
    have number := seen rfl
    rw [Settings.Flaps, number] at flaps
    rw [number] at left ⊢
    refine ⟨.ok listed, [], rfl, nofun, fun _ _ => ⟨fun _ => ⟨rfl, rfl, left⟩, fun steady => ?_⟩⟩
    exact absurd flaps (Nat.not_le.mpr steady)
  | @unlisted listed steady f =>
    rw [Settings.Flaps, seen rfl] at steady
    exact ⟨.ok listed, _, rfl, nofun, fun _ _ =>
      ⟨fun flaps => absurd flaps steady, fun _ => ⟨nofun, left, refused⟩⟩⟩
  | @absent listed existing steady unset =>
    rw [Settings.Flaps, seen rfl] at steady
    exact ⟨.ok listed, _, rfl, nofun, fun _ _ =>
      ⟨fun flaps => absurd flaps steady, fun _ => ⟨nofun, left, refused⟩⟩⟩
  | @deleting listed existing deletions ended steady set deleted =>
    rw [Settings.Flaps, seen rfl] at steady
    have removed : ∀ n, (ended.map fun _ => Lifting.removed (r.idsFor existing).length) ≠
        .ok (.flapping n) := by
      cases ended <;> nofun
    exact ⟨.ok listed, _, rfl, nofun, fun _ _ =>
      ⟨fun flaps => absurd flaps steady, fun _ => ⟨removed, left, refused⟩⟩⟩

/-! ### A lifting that is broken off -/

/-- Exchanges in given surroundings are such exchanges. -/
theorem served_of_follows {w : Surroundings settings} {may : Call → Prop} {clusterId : String}
    (home : ∀ e ∈ log, Ask.isHome clusterId e.request = true) (follows : w.Follows may s log t) :
    Along (Ledger.Served clusterId) s log t := by
  induction log generalizing s with
  | nil =>
    rw [show t = s from follows]
    exact .nil s
  | cons e log ih =>
    obtain ⟨next, step, rest⟩ := follows
    have here := Surroundings.step_home (home e (List.mem_cons_self ..)) step
    have others := ih (fun e he => home e (List.mem_cons_of_mem _ he)) rest
    refine .cons ⟨?_, here⟩ others
    obtain ⟨q, reply⟩ := e
    rcases step with ⟨answered, _⟩ | ⟨failed, _⟩
    · rw [show reply = (w.answer q s).1 from answered]
      exact truthful_answer q
    · exact truthful_of_failed failed

/-- A lifting changes nothing elsewhere. -/
theorem isHome_of_lift (ran : Fallible.Gives (lift settings cluster r now) log result) :
    ∀ e ∈ log, Ask.isHome cluster.id e.request = true := by
  have home : Fallible.Only (fun q : Ask => q.isHome cluster.id = true)
      (lift settings cluster r now) :=
    only_lift (fun _ => rfl) rfl (fun _ => rfl) fun _ => decide_eq_true rfl
  exact Program.Only.of_run home ran

/-- Three restrictions to lift, one for the same reason that has no id, and one with other details. -/
def crowded : Ledger :=
  let r := Unreachable.stoppedRestriction.restriction
  { restrictions := [{ r with id := some "lsr-1" }, { r with id := none },
      { r with id := some "lsr-2", details := "under migration" }, { r with id := some "lsr-3" },
      { r with id := some "lsr-4" }]
    history := Ledger.sample.history
    distinct := by decide }

/-- The schedule by which no try of the second deletion succeeds. -/
def brokenOff : List (Option Failure) :=
  [none, none, none] ++ List.replicate 3 (some (.root (.reported "unavailable")))

theorem plain_brokenOff : ∀ f, some f ∈ brokenOff → f.classification = none := by
  intro f hf
  rcases List.mem_append.mp hf with early | late
  · simp only [List.mem_cons, reduceCtorEq, List.not_mem_nil, or_false] at early
  · cases (List.mem_replicate.mp late).2
    rfl

/-- The first deletion stands, and what was to follow is still there. -/
theorem lift_outcome_brokenOff :
    ∃ (log : Log) (f : Failure) (t : Ledger), Fallible.Gives (lift .standard sampleCluster
        Unreachable.stoppedRestriction.restriction .epoch) log (.error f) ∧
      Along (Ledger.Served sampleCluster.id) crowded log t ∧
      t.restrictions.map Restriction.id = [none, some "lsr-2", some "lsr-3", some "lsr-4"] ∧
      Unreachable.stoppedRestriction.restriction.LeftBy crowded.restrictions (.error f)
        t.restrictions ∧
      ∃ c, log.RefusedBy c f := by
  have failed : (sampleLifting.play Surroundings.sample.answerUnder
      (crowded, brokenOff)).2.1.toOption = none := by decide +kernel
  have kept : (sampleLifting.play Surroundings.sample.answerUnder
      (crowded, brokenOff)).2.2.1.restrictions.map Restriction.id =
      [none, some "lsr-2", some "lsr-3", some "lsr-4"] := by decide +kernel
  have steady : Settings.standard.recentChanges Unreachable.stoppedRestriction.restriction.summary
      .epoch crowded.history < Settings.standard.flappingThreshold := by decide +kernel
  generalize played : sampleLifting.play Surroundings.sample.answerUnder (crowded, brokenOff) =
    ended at failed kept
  obtain ⟨log, result, t, unused⟩ := ended
  obtain ⟨run, follows⟩ := Surroundings.run_playUnder plain_brokenOff played
  have served := served_of_follows (isHome_of_lift run) follows
  obtain ⟨reply, rest, _, unread, told⟩ := lift_outcome run served
  cases result with
  | ok lifting => cases failed
  | error f =>
    cases reply with
    | error f' =>
      -- nothing would have been deleted then
      rw [(unread f' rfl).2.2] at kept
      exact absurd kept (by decide)
    | ok listed =>
      obtain ⟨_, left, refused⟩ := (told listed rfl).2 steady
      exact ⟨log, f, t, run, served, kept, left, refused f rfl⟩

end Restriction

end OnCall
