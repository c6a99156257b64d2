import OnCall.Proofs.Records
import OnCall.Proofs.Rehearsed
import OnCall.Proofs.Repetition
import OnCall.Proofs.Setting

/-!
# Which restrictions are set

However often alerts are handled and whichever calls fail, no restriction is set twice for the same
reason, only a recovered cluster loses one, and what others have set is left alone.

* `Restriction.isForeign`: a restriction is set for no reason that is built in.
* `Ledger.Tended`: what may become of the restrictions on a cluster.
* `Desk.loses_gains_handle`, `Desk.tended_handle`: one alert.
* `Desk.Works`: alerts that are handled one after the other.
* `Desk.works_tended`: **any number of alerts**.
-/

namespace OnCall

open Restriction (Change builtIn)
open Surroundings (liftable)

/-! ## 1. What may become of the restrictions -/

/-- The restriction is set for no reason that is built in. -/
def Restriction.isForeign (r : Restriction) : Bool :=
  !builtIn.any fun x => r.hasReasonOf x.restriction

/-- A restriction is set for one of these reasons at most. -/
theorem Restriction.builtIn_apart {x y : Change} {r : Restriction} (hx : x ∈ builtIn)
    (hy : y ∈ builtIn) (rx : r.hasReasonOf x.restriction = true)
    (ry : r.hasReasonOf y.restriction = true) : x = y := by
  have apart : ∀ x ∈ builtIn, ∀ y ∈ builtIn, x.summary = y.summary → x = y := by decide +kernel
  exact apart x hx y hy ((hasReasonOf_iff.mp rx).1.symm.trans (hasReasonOf_iff.mp ry).1)

theorem Restriction.not_isForeign {x : Change} {r : Restriction} (hx : x ∈ builtIn)
    (reason : r.hasReasonOf x.restriction = true) : r.isForeign = false := by
  rw [isForeign, List.any_eq_true.mpr ⟨x, hx, reason⟩]
  rfl

/-- What is liftable is built in. -/
theorem builtIn_of_liftable {x : Change} (hx : x ∈ liftable) : x ∈ builtIn := by
  rcases List.mem_cons.mp hx with rfl | hx
  · exact Restriction.stopped_builtIn
  · rw [List.mem_singleton.mp hx]
    exact Restriction.egress_builtIn

namespace Ledger

/-- **What may become of the restrictions on a cluster.** None is set once more for a reason that one
is set for, fewer are set only for reasons that may be lost, and the foreign ones are as they were. -/
structure Tended (lost : Change → Prop) (s t : Ledger) : Prop where
  most : ∀ x ∈ builtIn, t.count x ≤ max (s.count x) 1
  fewer : ∀ x ∈ builtIn, t.count x < s.count x → lost x
  foreign : t.restrictions.filter Restriction.isForeign = s.restrictions.filter Restriction.isForeign

namespace Tended

variable {lost : Change → Prop} {s t u : Ledger}

theorem trans (h₁ : Tended lost s t) (h₂ : Tended lost t u) : Tended lost s u := by
  refine ⟨fun x hx => ?_, fun x hx less => ?_, h₂.foreign.trans h₁.foreign⟩
  · have := h₁.most x hx
    have := h₂.most x hx
    omega
  · by_cases early : t.count x < s.count x
    · exact h₁.fewer x hx early
    · exact h₂.fewer x hx (Nat.lt_of_lt_of_le less (Nat.le_of_not_lt early))

/-- What is lost was set for a liftable reason. -/
theorem of_loses {lifts : Prop} (h : s.Loses (fun r => lifts ∧ r.Liftable) t) :
    Tended (fun x => x ∈ liftable ∧ lifts) s t := by
  refine ⟨fun x _ => ?_, fun x hx less => ?_, h.filter_eq ?_⟩
  · exact Nat.le_trans (h.sublist.countP_le) (Nat.le_max_left _ _)
  · by_cases may : x ∈ liftable ∧ lifts
    · exact may
    · have same : t.restrictions.filter (fun r => r.hasReasonOf x.restriction) =
          s.restrictions.filter fun r => r.hasReasonOf x.restriction := by
        refine h.filter_eq fun r ⟨lifting, y, hy, owned⟩ => ?_
        rw [Change.owns, Bool.and_eq_true] at owned
        refine Bool.eq_false_iff.mpr fun reason => may ⟨?_, lifting⟩
        rw [Restriction.builtIn_apart hx (builtIn_of_liftable hy) reason owned.1]
        exact hy
      rw [count, count, List.countP_eq_length_filter, List.countP_eq_length_filter, same] at less
      exact absurd less (Nat.lt_irrefl _)
  · rintro r ⟨_, y, hy, owned⟩
    rw [Change.owns, Bool.and_eq_true] at owned
    exact Restriction.not_isForeign (builtIn_of_liftable hy) owned.1

/-- What is gained is set for a built-in reason. -/
theorem of_gains (h : s.Gains (· ∈ builtIn) t) : Tended lost s t := by
  refine ⟨fun x _ => h.most x, fun x _ less => ?_, h.filter_eq fun x r hx reason => ?_⟩
  · exact absurd less (Nat.not_lt_of_le (h.count_le x))
  · exact Restriction.not_isForeign hx reason

end Tended

end Ledger

/-! ## 2. Handling alerts -/

namespace Desk

variable {d : Desk} {alert : Alert} {clusterId : String} {s t : Ledger} {log : Log}

open Ledger (Tended after_append)

/-- The alert is one for which restrictions are lifted: a cluster that had gone missing is back. -/
def LiftsFor (d : Desk) (alert : Alert) : Prop :=
  d.roster.find alert.title = some .unreachable ∧ alert.hasCleared = true

/-- **What the handling of an alert does to the restrictions on a cluster**: its attempts may lift some,
and what follows may set some. -/
theorem loses_gains_handle {r : Except Failure Outcome} (h : Fallible.Gives (d.handle alert) log r)
    (after : s.After clusterId log t) :
    ∃ mid, s.Loses (fun r => d.LiftsFor alert ∧ r.Liftable) mid ∧ mid.Gains (· ∈ builtIn) t := by
  obtain ⟨rest, rfl, ended⟩ := gives_handle h
  obtain ⟨s₁, counting, after⟩ := after
  have counted : Ask.Leaving clusterId (.count .alertsHandled) := trivial
  have start : s₁.restrictions = s.restrictions := Ledger.step_leaving counted counting
  rcases ended with ⟨_, fell⟩ | ⟨i, found, tries, res, a, carried, rfl, tried, ended⟩
  · exact ⟨s₁, .of_eq start, .of_eq (restrictions_fallBack fell after)⟩
  · obtain ⟨n, earlier, a₁, last, _, rfl, failed, counts, _⟩ := gives_attempts tried
    obtain ⟨s₃, attempted, carrying⟩ := after_append.mp after
    obtain ⟨s₂, before, behind⟩ := after_append.mp attempted
    have lost : s₁.Loses (fun r => i.Lifts alert ∧ r.Liftable) s₃ :=
      (loses_attempts failed before).trans (loses_attempt counts behind)
    refine ⟨s₃, (Ledger.Loses.of_eq start).trans (lost.imp fun r ⟨lifts, liftable⟩ => ?_), ?_⟩
    · exact ⟨⟨lifts.1 ▸ found, lifts.2⟩, liftable⟩
    · rcases ended with ⟨ctx, c, rfl, carriedOut⟩ | ⟨f, rfl, givenUp⟩
      · obtain ⟨notes, regular⟩ := regular_attempt counts
        exact (gains_carryOut carriedOut carrying).imp fun x mem => regular.mem_builtIn mem
      · exact .of_eq (restrictions_fallBack givenUp carrying)

theorem tended_handle {r : Except Failure Outcome} (h : Fallible.Gives (d.handle alert) log r)
    (after : s.After clusterId log t) : Tended (fun x => x ∈ liftable ∧ d.LiftsFor alert) s t := by
  obtain ⟨mid, loses, gains⟩ := loses_gains_handle h after
  exact (Tended.of_loses loses).trans (.of_gains gains)

/-- An alert that was handled, and the ledger of a cluster before and after that. -/
structure Shift where
  alert : Alert
  before : Ledger
  after : Ledger

/-- **Alerts that are handled one after the other**, from one ledger of a cluster to another, whatever
comes of each. -/
inductive Works (d : Desk) (clusterId : String) : Ledger → List Shift → Ledger → Prop where
  | none (s : Ledger) : Works d clusterId s [] s
  | more {alert : Alert} {s mid t : Ledger} {others : List Shift} {log : Log}
      {r : Except Failure Outcome} (ran : Fallible.Gives (d.handle alert) log r)
      (follows : s.After clusterId log mid) (rest : Works d clusterId mid others t) :
      Works d clusterId s (⟨alert, s, mid⟩ :: others) t

/-- **However many alerts are handled, and whatever fails**: each one leaves at most one restriction
for a built-in reason, if there were no more; it takes one away only if it is for a cluster that is
back, and only for a reason that is liftable; and what is set for other reasons stays as it is, in
order. -/
theorem works_tended {shifts : List Shift} (h : d.Works clusterId s shifts t) :
    ∀ w ∈ shifts,
      (∀ x ∈ builtIn, w.after.count x ≤ max (w.before.count x) 1 ∧
        (w.after.count x < w.before.count x → x ∈ liftable ∧ d.LiftsFor w.alert)) ∧
      w.after.restrictions.filter Restriction.isForeign =
        w.before.restrictions.filter Restriction.isForeign := by
  induction h with
  | none => exact fun _ hw => absurd hw List.not_mem_nil
  | more ran follows _ ih =>
    intro w hw
    rcases List.mem_cons.mp hw with rfl | hw
    · have tended := tended_handle ran follows
      exact ⟨fun x hx => ⟨tended.most x hx, tended.fewer x hx⟩, tended.foreign⟩
    · exact ih w hw

/-- An alert that is handled in a rehearsal, with any others after it. -/
theorem Works.rehearsed {s u : Rehearsal} {r : Except Failure Outcome} (h : s.Numbered)
    (played : s.run (d.handle alert).run = (log, r, u))
    (within : ∀ e ∈ log, Ask.isWithin clusterId e.request = true) :
    ∃ h' : u.Numbered, ∀ others t, d.Works clusterId (u.ledger h') others t →
      d.Works clusterId (s.ledger h) (⟨alert, s.ledger h, u.ledger h'⟩ :: others) t := by
  obtain ⟨ran, h', follows⟩ := Rehearsal.after_played h played within
  exact ⟨h', fun _ _ => .more ran follows⟩

end Desk

/-! ### A restriction that is set, found again and lifted -/

/-- A restriction that is set for no reason that is built in. -/
def Restriction.overdue : Restriction where
  id := none
  summary := "Cluster is in Limited Support due to an overdue subscription"
  details := "Renew the subscription to restore support."

/-- A cluster that has one, and that blocks egress to the monitoring. The first listing of its
restrictions fails, and so does the first deletion. -/
def Rehearsal.blocked : Rehearsal :=
  { Rehearsal.standard.keep .overdue with
    reports := [.failure "https://nosnch.in:443"]
    recordHistory := true
    faults := [(.listRestrictions, [some (.root (.reported "unavailable"))]),
      (.deleteRestriction, [some (.root (.reported "unavailable"))])] }

/-- The handling of an alert there. -/
def Desk.blockedHandling (status : AlertStatus) : Work (Except Failure Outcome) :=
  ((Desk.standard .standard false).handle ⟨"Q1", "cluster has gone missing", status, "c1"⟩).run

/-- A cluster goes missing, and again: one restriction is set. When it is back, that one is lifted.
The one for another reason is there all along. -/
theorem Desk.works_tended_recovered :
    let d := Desk.standard .standard false
    let other : Restriction := { Restriction.overdue with id := some "lsr-1" }
    let blocked : Restriction :=
      { Unreachable.egressRestriction.restriction with id := some "lsr-2" }
    ∃ missing again back : Shift,
      d.Works "c1" missing.before [missing, again, back] back.after ∧
      missing.before.restrictions = [other] ∧ missing.after.restrictions = [other, blocked] ∧
      again.after.restrictions = [other, blocked] ∧ back.after.restrictions = [other] ∧
      (∀ w ∈ [missing, again, back], w.after.restrictions.filter Restriction.isForeign = [other]) ∧
      ¬ d.LiftsFor missing.alert ∧ ¬ d.LiftsFor again.alert ∧ d.LiftsFor back.alert := by
  intro d other blocked
  obtain ⟨set, found, lifted, within₁, within₂, within₃⟩ :
      let day₁ := Rehearsal.blocked.run (blockedHandling .triggered)
      let day₂ := day₁.2.2.run (blockedHandling .triggered)
      let day₃ := day₂.2.2.run (blockedHandling .resolved)
      day₁.2.2.restrictions = [other, blocked] ∧ day₂.2.2.restrictions = [other, blocked] ∧
        day₃.2.2.restrictions = [other] ∧
        (∀ e ∈ day₁.1, Ask.isWithin "c1" e.request = true) ∧
        (∀ e ∈ day₂.1, Ask.isWithin "c1" e.request = true) ∧
        ∀ e ∈ day₃.1, Ask.isWithin "c1" e.request = true := by decide +kernel
  generalize played₁ : Rehearsal.blocked.run (blockedHandling .triggered) = day₁ at *
  obtain ⟨log₁, r₁, s₁⟩ := day₁
  generalize played₂ : s₁.run (blockedHandling .triggered) = day₂ at *
  obtain ⟨log₂, r₂, s₂⟩ := day₂
  generalize played₃ : s₂.run (blockedHandling .resolved) = day₃ at *
  obtain ⟨log₃, r₃, s₃⟩ := day₃
  dsimp only at set found lifted
  have numbered : Rehearsal.blocked.Numbered :=
    (Rehearsal.numbered_standard.keep .overdue).of_eq rfl rfl
  obtain ⟨numbered₁, first⟩ := Works.rehearsed numbered played₁ within₁
  obtain ⟨numbered₂, second⟩ := Works.rehearsed numbered₁ played₂ within₂
  obtain ⟨numbered₃, third⟩ := Works.rehearsed numbered₂ played₃ within₃
  have works := first _ _ (second _ _ (third _ _ (.none _)))
  have tended := works_tended works
  obtain ⟨_, kept₁⟩ := tended _ (List.mem_cons_self ..)
  obtain ⟨_, kept₂⟩ := tended _ (List.mem_cons_of_mem _ (List.mem_cons_self ..))
  obtain ⟨only₃, kept₃⟩ := tended _ (List.mem_of_getLast? rfl)
  have other₁ := kept₁.trans (rfl : [other].filter Restriction.isForeign = [other])
  have other₂ := kept₂.trans other₁
  have other₃ := kept₃.trans other₂
  -- what was set is not there any more
  have less : (s₃.ledger numbered₃).count Unreachable.egressRestriction <
      (s₂.ledger numbered₂).count Unreachable.egressRestriction := by
    change s₃.restrictions.countP _ < s₂.restrictions.countP _
    rw [lifted, found]
    decide +kernel
  refine ⟨⟨_, _, s₁.ledger numbered₁⟩, ⟨_, _, s₂.ledger numbered₂⟩, ⟨_, _, s₃.ledger numbered₃⟩,
    works, rfl, set, found, lifted, ?_, ?_, ?_, ?_⟩
  · intro w hw
    simp only [List.mem_cons, List.not_mem_nil, or_false] at hw
    rcases hw with rfl | rfl | rfl
    · exact other₁
    · exact other₂
    · exact other₃
  · exact fun lifts => Bool.false_ne_true lifts.2
  · exact fun lifts => Bool.false_ne_true lifts.2
  · exact ((only₃ _ Restriction.egress_builtIn).2 less).2

end OnCall
