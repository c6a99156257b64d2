import Mathlib.Data.List.Destutter
import OnCall.Investigation.Hibernation

/-!
# Hibernations as pairs

The periods that a cluster slept are collected in one pass over its changes of state. Here they are
compared with what they mean: of the changes to hibernating and to resuming, those that turn the
cluster from one to the other, taken two by two.

* `HibernationPeriod.turns`: the changes that turn a cluster, a hibernation first.
* `HibernationPeriod.paired`: such changes two by two; the last hibernation may still go on.
* `HibernationPeriod.collect_asleep`, `HibernationPeriod.collect_awake`: **the pass follows the
  turns**, one lemma for each of its two states.
* `HibernationPeriod.InOrder`: periods one behind the other.
* `HibernationPeriod.LastClosed`: the last period with a resume.
* `HibernationPeriod.ofTransitions_exact`: **what the periods are**, and when the last resume is
  recent.
-/

namespace OnCall.HibernationPeriod

/-! ## 1. Turns, two by two -/

/-- Whether a change counts: it is one to hibernating or to resuming. -/
def counts (t : StateTransition) : Bool := t.state = .hibernating || t.state = .resuming

/-- Whether a change is one to resuming. -/
def isResume (t : StateTransition) : Bool := t.state = .resuming

/-- Two changes to different states. -/
def Differ (a b : StateTransition) : Prop := a.state ≠ b.state

instance : DecidableRel Differ := fun a b => inferInstanceAs (Decidable (a.state ≠ b.state))

/-- **The changes that turn a cluster**: of those that count, not the resumes at the start, and of
each run of equal states the first. -/
def turns (ts : List StateTransition) : List StateTransition :=
  ((ts.filter counts).dropWhile isResume).destutter Differ

/-- Changes two by two: a hibernation and the resume behind it, the last one perhaps without. -/
def paired : List StateTransition → List HibernationPeriod
  | [] => []
  | [h] => [⟨h.timestamp, none⟩]
  | h :: r :: rest => ⟨h.timestamp, some r.timestamp⟩ :: paired rest

/-- Periods one behind the other: each ends after it began, and before the later ones begin. -/
structure InOrder (periods : List HibernationPeriod) : Prop where
  within : ∀ p ∈ periods, ∀ t, p.resumedAt = some t → p.hibernatedAt ≤ t
  between : periods.Pairwise fun p later => ∀ t, p.resumedAt = some t → t ≤ later.hibernatedAt

/-- The last period with a resume, and the moment of this resume. -/
def LastClosed (periods : List HibernationPeriod) (p : HibernationPeriod) (t : Instant) : Prop :=
  p.resumedAt = some t ∧
    ∃ before after, periods = before ++ p :: after ∧ ∀ q ∈ after, q.resumedAt = none

section Pass

variable {h r t : StateTransition} {since : Instant} {asleep : Option Instant}
  {ts : List StateTransition}

/-! ## 2. The pass over the changes -/

theorem counts_iff : counts t = true ↔ t.state = .hibernating ∨ t.state = .resuming := by
  simp only [counts, Bool.or_eq_true, decide_eq_true_eq]

theorem collect_hibernating_awake (is : t.state = .hibernating) :
    collect none (t :: ts) = collect (some t.timestamp) ts := by
  simp only [collect, is]

theorem collect_hibernating_asleep (is : t.state = .hibernating) :
    collect (some since) (t :: ts) = collect (some since) ts := by
  simp only [collect, is]

theorem collect_resuming_awake (is : t.state = .resuming) :
    collect none (t :: ts) = collect none ts := by
  simp only [collect, is]

theorem collect_resuming_asleep (is : t.state = .resuming) :
    collect (some since) (t :: ts) = ⟨since, some t.timestamp⟩ :: collect none ts := by
  simp only [collect, is]

/-- A change that does not count is passed over. -/
theorem collect_of_not_counts (other : counts t ≠ true) :
    collect asleep (t :: ts) = collect asleep ts := by
  obtain ⟨notHibernating, notResuming⟩ := not_or.mp (mt counts_iff.mpr other)
  rw [collect.eq_def]
  cases is : t.state with
  | hibernating => exact absurd is notHibernating
  | resuming => exact absurd is notResuming
  | _ => cases asleep <;> simp only [is]

/-- Only the changes that count matter. -/
theorem collect_filter : collect asleep (ts.filter counts) = collect asleep ts := by
  induction ts generalizing asleep with
  | nil => rfl
  | cons t ts ih =>
    by_cases counted : counts t = true
    · rw [List.filter_cons_of_pos counted]
      rcases counts_iff.mp counted with is | is <;> cases asleep
      · rw [collect_hibernating_awake is, collect_hibernating_awake is, ih]
      · rw [collect_hibernating_asleep is, collect_hibernating_asleep is, ih]
      · rw [collect_resuming_awake is, collect_resuming_awake is, ih]
      · rw [collect_resuming_asleep is, collect_resuming_asleep is, ih]
    · rw [List.filter_cons_of_neg counted, collect_of_not_counts counted, ih]

/-! ## 3. The pass follows the turns -/

theorem differ_of_states (hib : h.state = .hibernating) (res : r.state = .resuming) :
    Differ h r := by
  rw [Differ, hib, res]
  decide

theorem differ_of_states' (hib : h.state = .hibernating) (res : r.state = .resuming) :
    Differ r h := by
  rw [Differ, hib, res]
  decide

theorem not_differ (same : t.state = r.state) : ¬ Differ t r := not_not.mpr same

/-- What is kept of a list starts with the element that was kept before it. -/
theorem destutter'_eq_cons (t : StateTransition) (ts : List StateTransition) :
    ts.destutter' Differ t = t :: (ts.destutter' Differ t).tail := by
  induction ts generalizing t with
  | nil => rfl
  | cons b ts ih =>
    by_cases turn : Differ t b
    · rw [List.destutter'_cons_pos _ turn, List.tail_cons]
    · rw [List.destutter'_cons_neg _ turn]
      exact ih t

/-- **The two states of the pass.** Asleep since `h`, the periods are the turns from `h` on; awake
since `r`, they are the turns behind `r`. Each state goes over into the other, so the two go
together. -/
theorem collect_turns (counted : ∀ t ∈ ts, counts t = true) :
    (∀ h, h.state = .hibernating →
      collect (some h.timestamp) ts = paired (ts.destutter' Differ h)) ∧
    ∀ r, r.state = .resuming → collect none ts = paired (ts.destutter' Differ r).tail := by
  induction ts with
  | nil => exact ⟨fun _ _ => rfl, fun _ _ => rfl⟩
  | cons t ts ih =>
    obtain ⟨now, others⟩ := List.forall_mem_cons.mp counted
    obtain ⟨asleep, awake⟩ := ih others
    rcases counts_iff.mp now with is | is
    · refine ⟨fun h hib => ?_, fun r res => ?_⟩
      · rw [collect_hibernating_asleep is,
          List.destutter'_cons_neg _ (not_differ (hib.trans is.symm))]
        exact asleep h hib
      · rw [collect_hibernating_awake is, List.destutter'_cons_pos _ (differ_of_states' is res)]
        exact asleep t is
    · refine ⟨fun h hib => ?_, fun r res => ?_⟩
      · rw [collect_resuming_asleep is, List.destutter'_cons_pos _ (differ_of_states hib is),
          destutter'_eq_cons, paired, awake t is]
      · rw [collect_resuming_awake is, List.destutter'_cons_neg _ (not_differ (res.trans is.symm))]
        exact awake r res

/-- Before the first hibernation resumes are passed over. -/
theorem collect_start (counted : ∀ t ∈ ts, counts t = true) :
    collect none ts = paired ((ts.dropWhile isResume).destutter Differ) := by
  induction ts with
  | nil => rfl
  | cons t ts ih =>
    obtain ⟨now, others⟩ := List.forall_mem_cons.mp counted
    rcases counts_iff.mp now with is | is
    · have stays : ¬ isResume t = true := by
        rw [isResume, is]
        decide
      rw [collect_hibernating_awake is, List.dropWhile_cons_of_neg stays, List.destutter_cons']
      exact (collect_turns others).1 t is
    · have goes : isResume t = true := decide_eq_true is
      rw [collect_resuming_awake is, List.dropWhile_cons_of_pos goes]
      exact ih others

/-- **The periods are the turns, two by two.** -/
theorem ofTransitions_eq (ts : List StateTransition) : ofTransitions ts = paired (turns ts) := by
  rw [ofTransitions, ← collect_filter, collect_start fun t mem => (List.mem_filter.mp mem).2, turns]

end Pass

/-! ## 4. Periods one behind the other -/

section Order

variable {ts : List StateTransition} {p : HibernationPeriod} {periods : List HibernationPeriod}

/-- A period begins at one of the changes. -/
theorem exists_of_mem_paired (mem : p ∈ paired ts) : ∃ t ∈ ts, t.timestamp = p.hibernatedAt := by
  induction ts using paired.induct with
  | case1 => cases mem
  | case2 h =>
    rw [paired, List.mem_singleton] at mem
    exact ⟨h, List.mem_cons_self, by rw [mem]⟩
  | case3 h r rest ih =>
    rw [paired, List.mem_cons] at mem
    rcases mem with rfl | mem
    · exact ⟨h, List.mem_cons_self, rfl⟩
    · obtain ⟨t, mem, same⟩ := ih mem
      exact ⟨t, List.mem_cons_of_mem _ (List.mem_cons_of_mem _ mem), same⟩

/-- Only the last period may still go on. -/
theorem closed_of_mem_dropLast (mem : p ∈ (paired ts).dropLast) : ∃ t, p.resumedAt = some t := by
  induction ts using paired.induct with
  | case1 => cases mem
  | case2 h => cases mem
  | case3 h r rest ih =>
    rw [paired] at mem
    by_cases last : paired rest = []
    · rw [last] at mem
      cases mem
    · rw [List.dropLast_cons_of_ne_nil last, List.mem_cons] at mem
      rcases mem with rfl | mem
      · exact ⟨r.timestamp, rfl⟩
      · exact ih mem

/-- Changes in order of time make periods one behind the other. -/
theorem inOrder_paired (ordered : ts.Pairwise fun a b => a.timestamp ≤ b.timestamp) :
    InOrder (paired ts) := by
  induction ts using paired.induct with
  | case1 => exact ⟨fun _ mem => absurd mem List.not_mem_nil, .nil⟩
  | case2 h =>
    refine ⟨fun p mem t closed => ?_, List.pairwise_singleton _ _⟩
    rw [paired, List.mem_singleton] at mem
    rw [mem] at closed
    cases closed
  | case3 h r rest ih =>
    obtain ⟨first, ordered⟩ := List.pairwise_cons.mp ordered
    obtain ⟨second, ordered⟩ := List.pairwise_cons.mp ordered
    obtain ⟨within, between⟩ := ih ordered
    rw [paired]
    refine ⟨List.forall_mem_cons.mpr ⟨fun t closed => ?_, within⟩,
      List.pairwise_cons.mpr ⟨fun later mem t closed => ?_, between⟩⟩
    · cases closed
      exact first r List.mem_cons_self
    · obtain ⟨start, mem, same⟩ := exists_of_mem_paired mem
      cases closed
      rw [← same]
      exact second start mem

/-- The turns stand among the changes in their order. -/
theorem turns_sublist (ts : List StateTransition) : (turns ts).Sublist ts :=
  ((List.destutter_sublist _ _).trans (List.dropWhile_suffix _).sublist).trans List.filter_sublist

/-! ## 5. The last resume -/

/-- The last resume is the one of the last period that has one. -/
theorem lastResume_eq_some_iff {t : Instant} :
    periods.reverse.findSome? HibernationPeriod.resumedAt = some t ↔
      ∃ p, LastClosed periods p t := by
  rw [List.findSome?_eq_some_iff]
  constructor
  · intro ⟨after, p, before, split, closed, open'⟩
    refine ⟨p, closed, before.reverse, after.reverse, ?_, fun q mem => ?_⟩
    · rw [← List.reverse_reverse periods, split]
      simp only [List.reverse_append, List.reverse_cons, List.append_assoc, List.singleton_append]
    · exact open' q (List.mem_reverse.mp mem)
  · rintro ⟨p, closed, before, after, rfl, open'⟩
    refine ⟨after.reverse, p, before.reverse, ?_, closed, fun q mem => ?_⟩
    · simp only [List.reverse_append, List.reverse_cons, List.append_assoc, List.singleton_append]
    · exact open' q (List.mem_reverse.mp mem)

/-- **When the last resume is recent**: if there is one, no longer ago than the window. -/
theorem resumedWithin_iff {now : Instant} {window : Span} :
    resumedWithin periods now window = true ↔
      ∃ p t, LastClosed periods p t ∧ now.since t ≤ window.nanos := by
  unfold resumedWithin
  cases last : periods.reverse.findSome? HibernationPeriod.resumedAt with
  | none =>
    refine iff_of_false nofun fun ⟨p, t, closed, _⟩ => ?_
    have found := lastResume_eq_some_iff.mpr ⟨p, closed⟩
    rw [last] at found
    cases found
  | some t =>
    rw [decide_eq_true_eq]
    constructor
    · intro near
      obtain ⟨p, closed⟩ := lastResume_eq_some_iff.mp last
      exact ⟨p, t, closed, near⟩
    · intro ⟨p, t', closed, near⟩
      have found := lastResume_eq_some_iff.mpr ⟨p, closed⟩
      rw [last] at found
      cases found
      exact near

end Order

/-- **What the periods are.** They are the turns of the cluster, two by two: of its changes to
hibernating and to resuming, without the resumes at the start, the first of each run of equal
states. So every period but the last has a resume, and changes in order of time make periods one
behind the other. The last resume is recent exactly if there is one and it is no longer ago than the
window; one that lies ahead, at a negative distance, is. -/
theorem ofTransitions_exact (ts : List StateTransition) :
    ofTransitions ts = paired (turns ts) ∧
    (∀ p ∈ (ofTransitions ts).dropLast, ∃ t, p.resumedAt = some t) ∧
    (ts.Pairwise (fun a b => a.timestamp ≤ b.timestamp) → InOrder (ofTransitions ts)) ∧
    ∀ now window, resumedWithin (ofTransitions ts) now window = true ↔
      ∃ p t, LastClosed (ofTransitions ts) p t ∧ now.since t ≤ window.nanos := by
  refine ⟨ofTransitions_eq ts, ?_, fun ordered => ?_, fun now window => resumedWithin_iff⟩
  · rw [ofTransitions_eq]
    exact fun p mem => closed_of_mem_dropLast mem
  · rw [ofTransitions_eq]
    exact inOrder_paired (ordered.sublist (turns_sublist ts))

/-- The moment so many hours after the start of 1970. -/
def hour (n : Nat) : Instant := (Instant.of? (3600 * n) 0).getD .epoch

/-- A resume without a hibernation, two hibernations in a row with another state between them, a
resume that is told twice, and a hibernation that still goes on. -/
def restless : List StateTransition :=
  [⟨.resuming, hour 1⟩, ⟨.hibernating, hour 2⟩, ⟨.poweringDown, hour 3⟩, ⟨.hibernating, hour 4⟩,
    ⟨.resuming, hour 5⟩, ⟨.ready, hour 6⟩, ⟨.resuming, hour 7⟩, ⟨.hibernating, hour 8⟩]

/-- The restless cluster slept twice, and the last resume is recent for two hours and whenever the
clock is behind it. -/
theorem ofTransitions_exact_restless :
    restless.Pairwise (fun a b => a.timestamp ≤ b.timestamp) ∧
    ofTransitions restless = [⟨hour 2, some (hour 5)⟩, ⟨hour 8, none⟩] ∧
    InOrder (ofTransitions restless) ∧
    resumedWithin (ofTransitions restless) (hour 7) (.ofSeconds 7200) = true ∧
    resumedWithin (ofTransitions restless) (hour 8) (.ofSeconds 7200) = false ∧
    resumedWithin (ofTransitions restless) (hour 4) .zero = true := by
  have ordered : restless.Pairwise fun a b => a.timestamp ≤ b.timestamp := by decide
  obtain ⟨same, _, inOrder, recent⟩ := ofTransitions_exact restless
  have slept : ofTransitions restless = [⟨hour 2, some (hour 5)⟩, ⟨hour 8, none⟩] := by
    rw [same]
    decide
  have last : LastClosed (ofTransitions restless) ⟨hour 2, some (hour 5)⟩ (hour 5) :=
    ⟨rfl, [], [⟨hour 8, none⟩], slept, by simp only [List.mem_singleton, forall_eq]⟩
  refine ⟨ordered, slept, inOrder ordered, (recent _ _).mpr ⟨_, _, last, by decide⟩, ?_,
    (recent _ _).mpr ⟨_, _, last, by decide⟩⟩
  rw [slept]
  decide

end OnCall.HibernationPeriod
