import Mathlib.Data.List.Perm.Subperm
import OnCall.Proofs.Repetition

/-!
# How often a restriction is lifted

The check for flapping looks at the history before it deletes, and every deletion is written there.
So it bounds how often restrictions are lifted for one reason, over any number of calls and whatever
else happens to the cluster in between.

* `Instant.elapsed`, `Instant.Within`: closed intervals of time; `Instant.back_le_of_within`.
* `Settings.changeFilter`: what the history is asked for, and `Settings.admits_of_counts`: it admits
  all that counts.
* `Restriction.Course`: the exchanges of one call, while others post restrictions and write to the
  history as well; it says how many restrictions the call deleted.
* `Restriction.Visits`: calls one after the other, and anything in between that keeps the history.
* `Restriction.lifted_within_window_le`: **in every interval of the length of the window** at most
  as many calls delete anything as there may be changes before a restriction is flapping.
-/

namespace OnCall

/-! ## 1. Intervals of time -/

namespace Instant

variable {a b : Instant} {span : Span}

/-- The nanoseconds from `a` to a later moment `b`. If `a` lies in a leap second, a later second
begins when that has passed. -/
def elapsed (a b : Instant) : Int :=
  (b.second - a.second + if a.isLeap ∧ a.second < b.second then 1 else 0) * nanosPerSecond +
    ((b.nano : Int) - a.nano)

/-- Where there are no leap seconds, it is the distance. -/
theorem elapsed_eq_since (ha : a.isLeap = false) (hb : b.isLeap = false) :
    a.elapsed b = b.since a := by
  simp only [elapsed, since, ha, hb, Bool.false_eq_true, false_and, and_false, if_false]

/-- The closed interval of the length of `span` that begins at `a`. -/
def Within (a : Instant) (span : Span) (t : Instant) : Prop := a ≤ t ∧ a.elapsed t ≤ span.nanos

instance : Decidable (Within a span b) := inferInstanceAs (Decidable (_ ∧ _))

/-- A look back from inside the interval reaches its beginning. -/
theorem back_le_of_within (h : a.Within span b) : b.back span ≤ a := by
  obtain ⟨after, near⟩ := h
  have whole : nanosPerSecond = 1_000_000_000 := rfl
  have leapA : a.isLeap = true ↔ 1_000_000_000 ≤ a.nano := decide_eq_true_iff
  have leapB : b.isLeap = true ↔ 1_000_000_000 ≤ b.nano := decide_eq_true_iff
  have parts : span.nanos = span.seconds * nanosPerSecond + span.subsecond :=
    (Nat.div_add_mod' _ _).symm
  have sub : span.subsecond < nanosPerSecond := Nat.mod_lt _ (by decide)
  have longA := a.nano_lt
  have longB := b.nano_lt
  rw [le_def] at after
  simp only [elapsed, leapA, parts, whole] at near sub longA longB
  by_cases late : b.isLeap = true
  · have := leapB.mp late
    by_cases far : 1 ≤ span.seconds
    · simp only [back, if_pos late, if_pos far, whole]
      split <;> exact of?_getD_le (by simp only; split at near <;> omega)
    · simp only [back, if_pos late, if_neg far, whole]
      split <;> exact of?_getD_le (by simp only; split at near <;> omega)
  · have := mt leapB.mpr late
    simp only [back, if_neg late, whole]
    split <;> exact of?_getD_le (by simp only; split at near <;> omega)

end Instant

/-! ## 2. What the history is asked for -/

/-- The filter for the recent changes of restrictions. -/
def Settings.changeFilter (s : Settings) (now : Instant) : AdvisoryFilter :=
  ⟨some AdvisoryEntry.restrictionChange, some (now.back s.flappingWindow)⟩

/-- What counts as a recent change is admitted. -/
theorem Settings.admits_of_counts {s : Settings} {summary : String} {now : Instant}
    {e : AdvisoryEntry} (counts : s.countsAsChange summary (now.back s.flappingWindow) e = true) :
    (s.changeFilter now).admits e = true := by
  simp only [countsAsChange, Bool.and_eq_true, decide_eq_true_eq] at counts
  obtain ⟨⟨⟨_, kind⟩, recent⟩, _⟩ := counts
  simp only [changeFilter, AdvisoryFilter.admits, Option.all_some, kind, recent, decide_true,
    Bool.and_self]

/-! ## 3. Liftings beside others -/

namespace Ledger

/-- What others do to a cluster while a restriction is lifted: they post restrictions and write to
the history, and take nothing away. -/
def Grows (s t : Ledger) : Prop :=
  s.restrictions ⊆ t.restrictions ∧ s.history.Subperm t.history

/-- A reply of cluster management is true: of the history it lists what the filter asks for, and
nothing that is not there, in any order; and it lists no restriction that is not set. -/
def Truthful (s : Ledger) : Exchange collaboration → Prop
  | ⟨Ask.call (.manager (.advisories _ filter)), .ok listed⟩ =>
    (s.history.filter filter.admits).Subperm listed ∧ listed.Subperm s.history
  | ⟨Ask.call (.manager (.restrictions _)), .ok listed⟩ =>
    List.Subset listed s.restrictions
  | _ => True

/-- The deletion of the restriction with an id, no earlier than `now`. It is written to the history
as a change that the automation made. -/
def Deletes (settings : Settings) (now : Instant) (id : String) (s t : Ledger) : Prop :=
  ∃ r ∈ s.restrictions, r.id = some id ∧
    t.restrictions = s.restrictions.filter (fun r => r.id ≠ some id) ∧
    ∃ e : AdvisoryEntry, t.history.Perm (e :: s.history) ∧ e.summary = r.summary ∧
      e.logType = AdvisoryEntry.restrictionChange ∧ settings.ownsAccount e.username = true ∧
      now ≤ e.timestamp

variable {s t : Ledger}

theorem Grows.refl (s : Ledger) : s.Grows s := ⟨fun _ h => h, .refl _⟩

theorem Deletes.history_subperm {settings : Settings} {now : Instant} {id : String}
    (h : s.Deletes settings now id t) : s.history.Subperm t.history := by
  obtain ⟨_, _, _, _, e, grown, _⟩ := h
  exact (List.sublist_cons_self e s.history).subperm.trans grown.symm.subperm

end Ledger

namespace Restriction

open Program

/-- **The exchanges of a lifting that began at `now`**, from one ledger to another, with the number of
restrictions that it deleted. Before each exchange and after the last one others may have been at
work. A call to delete may have deleted whatever its reply says, and may have done nothing. -/
inductive Course (settings : Settings) (now : Instant) : Ledger → Log → Nat → Ledger → Prop where
  | done {s t : Ledger} (meanwhile : s.Grows t) : Course settings now s [] 0 t
  | other {s s₁ t : Ledger} {e : Exchange collaboration} {log : Log} {n : Nat}
      (meanwhile : s.Grows s₁) (reply : s₁.Truthful e) (rest : Course settings now s₁ log n t) :
      Course settings now s (e :: log) n t
  | deletion {s s₁ s₂ t : Ledger} {clusterId id : String} {reply : Except Failure Unit} {log : Log}
      {n : Nat} (meanwhile : s.Grows s₁) (deleted : s₁.Deletes settings now id s₂)
      (rest : Course settings now s₂ log n t) :
      Course settings now s
        ((Call.manager (.deleteRestriction clusterId id)).exchange reply :: log) (n + 1) t

/-- A call to lift a restriction: when it was made, and how many restrictions it deleted. -/
structure Visit where
  now : Instant
  deleted : Nat
deriving DecidableEq

/-- **Calls to lift the restrictions for one reason from one cluster**, one after the other. Between
two of them anything may happen that keeps the history. -/
inductive Visits (settings : Settings) (cluster : Cluster) (r : Restriction) :
    Ledger → List Visit → Ledger → Prop where
  | none {s t : Ledger} (kept : s.history.Subperm t.history) : Visits settings cluster r s [] t
  | more {s s₁ s₂ t : Ledger} {v : Visit} {others : List Visit} {log : Log}
      {result : Except Failure Lifting} (kept : s.history.Subperm s₁.history)
      (ran : Fallible.Gives (lift settings cluster r v.now) log result)
      (course : Course settings v.now s₁ log v.deleted s₂)
      (rest : Visits settings cluster r s₂ others t) :
      Visits settings cluster r s (v :: others) t

section Course

variable {settings : Settings} {now : Instant} {s t : Ledger} {log : Log} {n : Nat}
  {r : Restriction} {ids : List String}

/-- Nothing goes from the history. -/
theorem Course.history_subperm (h : Course settings now s log n t) :
    s.history.Subperm t.history := by
  induction h with
  | done meanwhile => exact meanwhile.2
  | other meanwhile _ _ ih => exact meanwhile.2.trans ih
  | deletion meanwhile deleted _ ih =>
    exact meanwhile.2.trans ((deleted.history_subperm).trans ih)

theorem course_append {first second : Log} :
    Course settings now s (first ++ second) n t →
      ∃ m n₁ n₂, n = n₁ + n₂ ∧ Course settings now s first n₁ m ∧
        Course settings now m second n₂ t := by
  induction first generalizing s n with
  | nil => exact fun h => ⟨s, 0, n, (Nat.zero_add n).symm, .done (.refl s), h⟩
  | cons e first ih =>
    intro h
    cases h with
    | other meanwhile reply rest =>
      obtain ⟨m, n₁, n₂, same, before, behind⟩ := ih rest
      exact ⟨m, n₁, n₂, same, .other meanwhile reply before, behind⟩
    | deletion meanwhile deleted rest =>
      obtain ⟨m, n₁, n₂, same, before, behind⟩ := ih rest
      exact ⟨m, n₁ + 1, n₂, by omega, .deletion meanwhile deleted before, behind⟩

/-- One exchange that does not delete. -/
theorem course_single {e : Exchange collaboration} (h : Course settings now s [e] n t)
    (keeping : Ask.Keeping e.request) :
    n = 0 ∧ ∃ s₁, s.Grows s₁ ∧ s₁.Truthful e ∧ s₁.Grows t := by
  cases h with
  | other meanwhile reply rest =>
    cases rest with
    | done later => exact ⟨rfl, _, meanwhile, reply, later⟩
  | deletion => exact keeping.elim

end Course

/-! ## 4. Changes on record -/

section Changes

variable {settings : Settings} {now since : Instant} {s t : Ledger} {r : Restriction}

/-- The changes on record since a moment that count against lifting a restriction. -/
def changesSince (settings : Settings) (r : Restriction) (since : Instant) (s : Ledger) : Nat :=
  s.history.countP (settings.countsAsChange r.summary since)

theorem changesSince_mono (h : s.history.Subperm t.history) :
    changesSince settings r since s ≤ changesSince settings r since t :=
  h.countP_le _

/-- A longer look back finds more. -/
theorem changesSince_anti {later : Instant} (h : since ≤ later) :
    changesSince settings r later s ≤ changesSince settings r since s := by
  refine List.countP_mono_left fun e _ counts => ?_
  simp only [Settings.countsAsChange, Bool.and_eq_true, decide_eq_true_eq] at counts ⊢
  exact ⟨⟨counts.1.1, Instant.le_trans h counts.1.2⟩, counts.2⟩

/-- A deletion for the reason is one more change. -/
theorem changesSince_delete {id : String} (h : s.Deletes settings now id t)
    (own : ∃ e ∈ s.restrictions, e.hasReasonOf r = true ∧ e.id = some id) (early : since ≤ now) :
    changesSince settings r since s + 1 ≤ changesSince settings r since t := by
  obtain ⟨r', hr', hid', _, entry, grown, summary, logType, account, recent⟩ := h
  obtain ⟨e, he, reason, hid⟩ := own
  have same : entry.summary = r.summary := by
    rw [summary, s.eq_of_id_eq hr' he hid' hid]
    exact (hasReasonOf_iff.mp reason).1
  have counts : settings.countsAsChange r.summary since entry = true := by
    simp only [Settings.countsAsChange, account, logType, same, Text.occursIn_self,
      decide_eq_true (Instant.le_trans early recent), decide_true, Bool.and_self]
  have one : changesSince settings r since t = changesSince settings r since s + 1 := by
    rw [changesSince, grown.countP_eq, List.countP_cons_of_pos counts, changesSince]
  exact Nat.le_of_eq one.symm

end Changes

/-! ## 5. One call -/

section Call

variable {settings : Settings} {cluster : Cluster} {now since : Instant} {s t : Ledger} {log : Log}
  {n : Nat} {r : Restriction} {ids : List String} {result : Except Failure Lifting}

/-- Requests that delete nothing but restrictions with these ids. -/
def DeletesOnly (ids : List String) : Ask → Prop
  | .call (.manager (.deleteRestriction _ id)) => id ∈ ids
  | _ => True

/-- What is deleted under ids that stand for the reason is on record. Others only add restrictions,
so an id stands for the same one until it is deleted. -/
theorem Course.changesSince_lt
    (own : ∀ id ∈ ids, ∃ e ∈ s.restrictions, e.hasReasonOf r = true ∧ e.id = some id)
    (asked : ∀ e ∈ log, DeletesOnly ids e.request) (early : since ≤ now)
    (h : Course settings now s log n t) (any : 0 < n) :
    changesSince settings r since s < changesSince settings r since t := by
  induction h with
  | done => exact absurd any (Nat.lt_irrefl 0)
  | other meanwhile _ _ ih =>
    refine Nat.lt_of_le_of_lt (changesSince_mono meanwhile.2) (ih (fun id hid => ?_)
      (fun e he => asked e (List.mem_cons_of_mem _ he)) any)
    obtain ⟨e, he, stands⟩ := own id hid
    exact ⟨e, meanwhile.1 he, stands⟩
  | deletion meanwhile deleted rest =>
    obtain ⟨e, he, stands⟩ := own _ (asked _ (List.mem_cons_self ..))
    have more := changesSince_delete deleted ⟨e, meanwhile.1 he, stands⟩ early
    have before : changesSince settings r since _ ≤ changesSince settings r since _ :=
      changesSince_mono meanwhile.2
    have after : changesSince settings r since _ ≤ changesSince settings r since _ :=
      changesSince_mono rest.history_subperm
    omega

/-- The changes that are counted are all that were on record, and counting deletes nothing. -/
theorem changesWithin_course {counted : Except Failure Nat}
    (ran : Fallible.Gives (changesWithin settings cluster r.summary now) log counted)
    (h : Course settings now s log n t) :
    n = 0 ∧ ∀ changes, counted = .ok changes →
      changesSince settings r (now.back settings.flappingWindow) s ≤ changes := by
  rcases Fallible.gives_bind.mp ran with ⟨l₁, listed, l₂, rfl, asked, ended⟩ | ⟨f, rfl, asked⟩
  · obtain ⟨rfl, rfl⟩ := Fallible.gives_pure.mp ended
    rw [List.append_nil, Fallible.gives_call.mp asked] at h
    obtain ⟨none', s₁, meanwhile, ⟨all, _⟩, _⟩ := course_single h trivial
    refine ⟨none', fun changes same => ?_⟩
    cases same
    refine Nat.le_trans (changesSince_mono meanwhile.2) (Nat.le_trans ?_ (all.countP_le _))
    -- what counts is among what the filter asks for
    rw [changesSince, List.countP_filter]
    exact List.countP_mono_left fun e _ counts =>
      Bool.and_eq_true_iff.mpr ⟨counts, Settings.admits_of_counts counts⟩
  · rw [Fallible.gives_call.mp asked] at h
    refine ⟨(course_single h trivial).1, fun changes wrong => ?_⟩
    cases wrong

/-- What is deleted as it was listed is on record. -/
theorem deleteListed_course
    (ran : Fallible.Gives (Surroundings.deleteListed settings cluster r) log result)
    (h : Course settings now s log n t) (any : 0 < n) (early : since ≤ now) :
    changesSince settings r since s < changesSince settings r since t := by
  rcases Fallible.gives_bind.mp ran with ⟨l₁, listed, l₂, rfl, asked, h₁⟩ | ⟨f, rfl, asked⟩
  · obtain ⟨m, n₁, n₂, rfl, before, behind⟩ := course_append h
    rw [Fallible.gives_call.mp asked] at before
    obtain ⟨rfl, s₁, meanwhile, held, later⟩ := course_single before trivial
    rw [Nat.zero_add] at any
    have own : ∀ id ∈ r.idsFor listed,
        ∃ e ∈ m.restrictions, e.hasReasonOf r = true ∧ e.id = some id := by
      intro id hid
      obtain ⟨e, found, same⟩ := List.mem_filterMap.mp hid
      obtain ⟨he, reason⟩ := List.mem_filter.mp found
      exact ⟨e, later.1 (held he), reason, same⟩
    have asks : ∀ e ∈ l₂, DeletesOnly (r.idsFor listed) e.request := by
      dsimp only at h₁
      split at h₁
      · rw [(Fallible.gives_pure.mp h₁).1]
        exact fun _ he => absurd he List.not_mem_nil
      · refine Program.Only.of_run (Fallible.only_bind ?_ fun _ => Fallible.only_pure _) h₁
        exact only_deleteAll (fun _ => trivial) fun _ hid => hid
    exact Nat.lt_of_le_of_lt (changesSince_mono (meanwhile.2.trans later.2))
      (behind.changesSince_lt own asks early any)
  · rw [Fallible.gives_call.mp asked] at h
    rw [(course_single h trivial).1] at any
    exact absurd any (Nat.lt_irrefl 0)

/-- **A call that deletes** found less changes on record than would be flapping, and left more. -/
theorem lift_course (ran : Fallible.Gives (lift settings cluster r now) log result)
    (h : Course settings now s log n t) (any : 0 < n) (early : since ≤ now) :
    changesSince settings r (now.back settings.flappingWindow) s < settings.flappingThreshold ∧
      changesSince settings r since s < changesSince settings r since t := by
  rw [Surroundings.lift_eq] at ran
  rcases Fallible.gives_bind.mp ran with ⟨l₁, changes, l₂, rfl, counted, h₁⟩ | ⟨f, rfl, counted⟩
  · obtain ⟨m, n₁, n₂, rfl, before, behind⟩ := course_append h
    obtain ⟨rfl, seen⟩ := changesWithin_course counted before
    rw [Nat.zero_add] at any
    split at h₁
    · rw [(Fallible.gives_pure.mp h₁).1] at behind
      cases behind
      exact absurd any (Nat.lt_irrefl 0)
    · rename_i steady
      refine ⟨Nat.lt_of_le_of_lt (seen changes rfl) (Nat.lt_of_not_le steady), ?_⟩
      exact Nat.lt_of_le_of_lt (changesSince_mono before.history_subperm)
        (deleteListed_course h₁ behind any early)
  · rw [(changesWithin_course counted h).1] at any
    exact absurd any (Nat.lt_irrefl 0)

end Call

/-! ## 6. Any number of calls -/

section Visits

variable {settings : Settings} {cluster : Cluster} {r : Restriction} {s t : Ledger}
  {visits : List Visit} {start : Instant}

/-- Whether a call was made in an interval of the length of the flapping window, and deleted
something. -/
def liftedWithin (settings : Settings) (start : Instant) (v : Visit) : Bool :=
  start.Within settings.flappingWindow v.now ∧ 0 < v.deleted

/-- Every change on record since the interval began leaves one lifting less. -/
theorem lifted_add_changes_le (h : Visits settings cluster r s visits t) :
    visits.countP (liftedWithin settings start) ≤
      settings.flappingThreshold - changesSince settings r start s := by
  induction h with
  | none => exact Nat.zero_le _
  | @more s s₁ s₂ t v others log result kept ran course rest ih =>
    have before : changesSince settings r start s ≤ changesSince settings r start s₁ :=
      changesSince_mono kept
    rw [List.countP_cons]
    by_cases inside : liftedWithin settings start v = true
    · obtain ⟨near, any⟩ := of_decide_eq_true inside
      obtain ⟨few, more⟩ := lift_course ran course any near.1
      have seen : changesSince settings r start s₁ ≤ _ :=
        changesSince_anti (Instant.back_le_of_within near)
      rw [if_pos inside]
      omega
    · have after : changesSince settings r start s₁ ≤ changesSince settings r start s₂ :=
        changesSince_mono course.history_subperm
      rw [if_neg inside]
      omega

/-- **In every interval of the length of the flapping window** at most as many calls delete anything
as there may be changes before a restriction is flapping. -/
theorem lifted_within_window_le (start : Instant) (h : Visits settings cluster r s visits t) :
    (visits.countP fun v => start.Within settings.flappingWindow v.now ∧ 0 < v.deleted) ≤
      settings.flappingThreshold :=
  Nat.le_trans (lifted_add_changes_le h) (Nat.sub_le ..)

end Visits

/-! ### A call in given surroundings -/

section Given

variable {settings : Settings} {w : Surroundings settings} {may : Call → Prop} {s t : Ledger}
  {log : Log}

/-- What is answered in given surroundings is true. -/
theorem truthful_answer (q : Ask) : s.Truthful ⟨q, (w.answer q s).1⟩ := by
  cases q with
  | call c =>
    cases c with
    | manager call =>
      cases call with
      | restrictions id => exact fun _ h => h
      | advisories cluster filter => exact ⟨List.filter_sublist.subperm, .refl _⟩
      | _ => trivial
    | cloud client call => cases call <;> trivial
    | _ => trivial
  | _ => trivial

theorem truthful_of_failed {e : Exchange collaboration} (h : e.Failed may) : s.Truthful e := by
  obtain ⟨q, reply⟩ := e
  cases q with
  | call c =>
    cases reply with
    | error f =>
      cases c with
      | manager call => cases call <;> trivial
      | _ => trivial
    | ok v => exact h.elim
  | _ => exact h.elim

theorem deletes_of_not_keeping {q : Ask} (h : ¬ q.Keeping) :
    ∃ clusterId id, q = .call (.manager (.deleteRestriction clusterId id)) := by
  cases q with
  | call c =>
    cases c with
    | manager call => cases call <;> first | exact ⟨_, _, rfl⟩ | exact absurd trivial h
    | _ => exact absurd trivial h
  | _ => exact absurd trivial h

/-- Exchanges in given surroundings are such a course. -/
theorem course_of_follows (h : w.Follows may s log t) :
    ∃ n, Course settings w.clock s log n t := by
  induction log generalizing s with
  | nil =>
    rw [show t = s from h]
    exact ⟨0, .done (.refl s)⟩
  | cons e log ih =>
    obtain ⟨next, step, rest⟩ := h
    obtain ⟨n, course⟩ := ih rest
    obtain ⟨q, reply⟩ := e
    rcases step with ⟨answered, rfl⟩ | ⟨failed, rfl⟩
    · rw [show reply = (w.answer q s).1 from answered]
      by_cases keeping : Ask.Keeping q
      · rw [show (w.answer q s).2 = s from Surroundings.answer_keeping keeping] at course
        exact ⟨n, .other (.refl s) (truthful_answer q) course⟩
      · obtain ⟨clusterId, id, rfl⟩ := deletes_of_not_keeping keeping
        rw [show (w.answer (.call (.manager (.deleteRestriction clusterId id))) s).2 = w.delete id s
          from rfl] at course
        by_cases there : ∃ r ∈ s.restrictions, r.id = some id
        · obtain ⟨r, hr, hid⟩ := there
          obtain ⟨left, written⟩ := Surroundings.delete_present (w := w) hr hid
          refine ⟨n + 1, .deletion (.refl s) ⟨r, hr, hid, left, w.entry s.history r, ?_,
            w.entry_summary .., w.entry_logType .., w.entry_account .., ?_⟩ course⟩
          · rw [written]
            exact List.perm_append_singleton _ _
          · rw [w.entry_timestamp]
            exact Instant.le_refl _
        · have absent : ∀ r ∈ s.restrictions, r.id ≠ some id := fun r hr hid => there ⟨r, hr, hid⟩
          rw [Surroundings.delete_absent absent] at course
          exact ⟨n, .other (.refl s) trivial course⟩
    · exact ⟨n, .other (.refl _) (truthful_of_failed failed) course⟩

/-- A call that leaves less than it found has deleted something. -/
theorem Course.deleted_pos {now : Instant} {n : Nat} (h : Course settings now s log n t)
    (less : ¬ s.restrictions ⊆ t.restrictions) : 0 < n := by
  induction h with
  | done meanwhile => exact absurd meanwhile.1 less
  | other meanwhile _ _ ih => exact ih fun kept => less fun _ hr => kept (meanwhile.1 hr)
  | deletion => exact Nat.succ_pos _

/-- A call in given surroundings is a run of the lifting and such a course. -/
theorem course_played {cluster : Cluster} {r : Restriction} {result : Except Failure Lifting}
    (played : (lift settings cluster r w.clock).run.play w.answer s = (log, result, t)) :
    Fallible.Gives (lift settings cluster r w.clock) log result ∧
      ∃ n, Course settings w.clock s log n t := by
  obtain ⟨run, follows⟩ : _ ∧ w.Follows (fun _ => False) s log t := Surroundings.run_played played
  exact ⟨run, course_of_follows follows⟩

end Given

end Restriction

/-! ### Three calls within a day -/

/-- Noon of the first day of 1970. -/
def Instant.noon : Instant := (Instant.of? 43_200 0).get (by decide)

/-- A day after the start of 1970. -/
def Instant.secondDay : Instant := (Instant.of? 86_400 0).get (by decide)

/-- The sample at another moment. -/
def Surroundings.sampleAt (now : Instant) : Surroundings Settings.standard :=
  { Surroundings.sample with
    clock := now
    entry := fun history r => { Surroundings.sample.entry history r with timestamp := now }
    entry_summary := fun _ _ => rfl
    entry_account := Surroundings.sample.entry_account
    entry_logType := fun _ _ => rfl
    entry_timestamp := fun _ _ => rfl }

/-- The restriction is set, and this is the history. -/
def Ledger.sampleWith (history : List AdvisoryEntry) : Ledger :=
  { Ledger.sample with history := history }

namespace Restriction

open Program

/-- The cluster of the sample. -/
def sampleCluster : Cluster :=
  ⟨"c1", "uuid-1", "prod", .ready, .rosa, true, "aws", "us-east-1", false, none, [], none⟩

/-- The lifting of the restriction that is set on it. -/
def sampleLifting : Work (Except Failure Lifting) :=
  (lift .standard sampleCluster Unreachable.stoppedRestriction.restriction .epoch).run

/-- Its lifting at some moment, with this history. -/
def sampleLiftedAt (now : Instant) (history : List AdvisoryEntry) :
    Log × Except Failure Lifting × Ledger :=
  (lift .standard sampleCluster Unreachable.stoppedRestriction.restriction now).run.play
    (Surroundings.sampleAt now).answer (.sampleWith history)

/-- It is a call that deletes some number of restrictions. -/
theorem course_sampleLiftedAt {now : Instant} {history : List AdvisoryEntry}
    {ended : Log × Except Failure Lifting × Ledger} (lifted : sampleLiftedAt now history = ended) :
    Fallible.Gives (lift .standard sampleCluster Unreachable.stoppedRestriction.restriction now)
        ended.1 ended.2.1 ∧
      ∃ n, Course .standard now (.sampleWith history) ended.1 n ended.2.2 := by
  obtain ⟨log, result, t⟩ := ended
  exact course_played (w := .sampleAt now) lifted

/-- The restriction is lifted at the start of a day and, set once more, at noon. Set again, it is
flapping when the day is over: a day is as long as the window, and the first lifting still counts. -/
theorem lifted_within_window_le_sample :
    let first := sampleLiftedAt .epoch []
    let second := sampleLiftedAt .noon first.2.2.history
    let third := sampleLiftedAt .secondDay second.2.2.history
    ∃ n₁ n₂, 0 < n₁ ∧ 0 < n₂ ∧
      Visits .standard sampleCluster Unreachable.stoppedRestriction.restriction (.sampleWith [])
        [⟨.epoch, n₁⟩, ⟨.noon, n₂⟩, ⟨.secondDay, 0⟩] third.2.2 ∧
      third.2.1.toOption = some (.flapping 2) ∧ third.2.2.restrictions ≠ [] ∧
      (∀ now ∈ [Instant.epoch, .noon, .secondDay],
        Instant.Within .epoch Settings.standard.flappingWindow now) ∧
      ([⟨.epoch, n₁⟩, ⟨.noon, n₂⟩, ⟨.secondDay, 0⟩].countP fun v : Visit =>
        Instant.Within .epoch Settings.standard.flappingWindow v.now ∧ 0 < v.deleted) = 2 ∧
      ([⟨.epoch, n₁⟩, ⟨.noon, n₂⟩, ⟨.secondDay, 0⟩].countP fun v : Visit =>
        Instant.Within .epoch Settings.standard.flappingWindow v.now ∧ 0 < v.deleted) ≤
          Settings.standard.flappingThreshold := by
  intro first second third
  have gone₁ : first.2.2.restrictions = [] := by decide +kernel
  have gone₂ : second.2.2.restrictions = [] := by decide +kernel
  have many : Settings.standard.flappingThreshold ≤ changesSince .standard
      Unreachable.stoppedRestriction.restriction
      (Instant.secondDay.back Settings.standard.flappingWindow) (.sampleWith second.2.2.history) := by
    decide +kernel
  have refused : third.2.1.toOption = some (.flapping 2) ∧ third.2.2.restrictions ≠ [] := by
    decide +kernel
  have near : ∀ now ∈ [Instant.epoch, .noon, .secondDay],
      Instant.Within .epoch Settings.standard.flappingWindow now := by decide +kernel
  obtain ⟨ran₁, n₁, course₁⟩ := course_sampleLiftedAt (show sampleLiftedAt .epoch [] = first from rfl)
  obtain ⟨ran₂, n₂, course₂⟩ :=
    course_sampleLiftedAt (show sampleLiftedAt .noon first.2.2.history = second from rfl)
  obtain ⟨ran₃, n₃, course₃⟩ :=
    course_sampleLiftedAt (show sampleLiftedAt .secondDay second.2.2.history = third from rfl)
  clear_value third second first
  have lifted {history : List AdvisoryEntry} {now : Instant} {log : Log} {n : Nat} {t : Ledger}
      (course : Course .standard now (.sampleWith history) log n t) (gone : t.restrictions = []) :
      0 < n := by
    refine course.deleted_pos fun kept => ?_
    rw [gone] at kept
    exact List.not_mem_nil (kept (List.mem_cons_self ..))
  have pos₁ := lifted course₁ gone₁
  have pos₂ := lifted course₂ gone₂
  -- a third lifting would have found fewer changes on record
  obtain rfl : n₃ = 0 := Nat.eq_zero_of_not_pos fun any =>
    absurd (lift_course ran₃ course₃ any (Instant.le_refl _)).1 (Nat.not_lt_of_le many)
  -- between two calls the restriction is set, which leaves the history as it is
  have kept (history : List AdvisoryEntry) :
      history.Subperm (Ledger.sampleWith history).history := .refl _
  have visits : Visits .standard sampleCluster Unreachable.stoppedRestriction.restriction
      (.sampleWith []) [⟨.epoch, n₁⟩, ⟨.noon, n₂⟩, ⟨.secondDay, 0⟩] third.2.2 :=
    .more (kept []) ran₁ course₁
      (.more (kept first.2.2.history) ran₂ course₂
        (.more (kept second.2.2.history) ran₃ course₃ (.none (.refl _))))
  refine ⟨n₁, n₂, pos₁, pos₂, visits, refused.1, refused.2, near, ?_,
    lifted_within_window_le .epoch visits⟩
  obtain ⟨near₁, near₂, _⟩ : _ ∧ _ ∧ _ := by simpa using near
  simp [pos₁, pos₂, near₁, near₂]

end Restriction

end OnCall
