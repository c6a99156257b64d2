import Mathlib.Data.List.Pairwise
import OnCall.Proofs.Retries

/-!
# The surroundings of a cluster that recovers

A cleared alert is handled against platforms that answer the same all along, but for the
restrictions that are lifted: each one that goes leaves an entry in the history.

* `Ledger`: the restrictions on the cluster, and the history of changes to them.
* `Surroundings`: what the platforms answer; `Surroundings.answer` is the reply to a request.
* `Surroundings.Follows`: runs in these surroundings in which some calls fail. A failed call has no
  effect.
* `Surroundings.Shed`: what lifting one restriction does to the ledger, whether it got through or
  not. **What goes is counted**: restrictions that are left and changes in the history add up to the
  same number.
-/

namespace OnCall

/-! ## 1. Ledgers -/

theorem Restriction.mem_idsFor {r : Restriction} {listed : List Restriction} {id : String} :
    id ∈ r.idsFor listed ↔ ∃ e ∈ listed, e.hasReasonOf r = true ∧ e.id = some id := by
  simp only [idsFor, List.mem_filterMap, List.mem_filter, and_assoc]

/-- The restrictions on a cluster, and the history of changes to them. An id is given once. -/
structure Ledger where
  restrictions : List Restriction
  history : List AdvisoryEntry
  distinct : (restrictions.filterMap Restriction.id).Nodup

namespace Ledger

/-- The ids under which a restriction is set. -/
def ids (s : Ledger) (x : Restriction.Change) : List String := x.restriction.idsFor s.restrictions

theorem mem_ids {s : Ledger} {x : Restriction.Change} {id : String} :
    id ∈ s.ids x ↔
      ∃ r ∈ s.restrictions, r.hasReasonOf x.restriction = true ∧ r.id = some id :=
  Restriction.mem_idsFor

/-- An id belongs to one restriction only. -/
theorem eq_of_id_eq {s : Ledger} {r r' : Restriction} {id : String} (h : r ∈ s.restrictions)
    (h' : r' ∈ s.restrictions) (hid : r.id = some id) (hid' : r'.id = some id) : r = r' := by
  have apart := List.pairwise_filterMap.mp s.distinct
  have symm : Std.Symm fun a b : Restriction => ∀ i, a.id = some i → ∀ j, b.id = some j → i ≠ j :=
    ⟨fun a b h i hi j hj same => h j hj i hi same.symm⟩
  by_cases same : r = r'
  · exact same
  · exact absurd rfl (apart.forall h h' same id hid id hid')

/-- Ids are listed once. -/
theorem nodup_ids (s : Ledger) (x : Restriction.Change) : (s.ids x).Nodup :=
  s.distinct.sublist (List.filter_sublist.filterMap _)

end Ledger

namespace Restriction.Change

/-- The restriction is one that lifting this change deletes. -/
def owns (x : Change) (r : Restriction) : Bool := r.hasReasonOf x.restriction && r.id.isSome

/-- The summary of neither restriction stands in that of the other. -/
def Apart (x y : Change) : Prop :=
  Text.occursIn x.summary y.summary = false ∧ Text.occursIn y.summary x.summary = false

/-- A restriction is not there for two reasons that are apart. -/
theorem Apart.not_hasReasonOf {x y : Change} {r : Restriction} (apart : x.Apart y)
    (h : r.hasReasonOf x.restriction = true) : r.hasReasonOf y.restriction = false := by
  cases other : r.hasReasonOf y.restriction with
  | false => rfl
  | true =>
    have same : x.summary = y.summary :=
      (Restriction.hasReasonOf_iff.mp h).1.symm.trans (Restriction.hasReasonOf_iff.mp other).1
    have occurs := apart.1
    rw [same, Text.occursIn_self] at occurs
    cases occurs

theorem Apart.not_owns {x y : Change} {r : Restriction} (apart : x.Apart y)
    (h : x.owns r = true) : y.owns r = false := by
  rw [owns, Bool.and_eq_true] at h
  rw [owns, apart.not_hasReasonOf h.1, Bool.false_and]

end Restriction.Change

theorem Ledger.ids_eq_nil {s : Ledger} {x : Restriction.Change} :
    s.ids x = [] ↔ ∀ r ∈ s.restrictions, x.owns r = false := by
  rw [List.eq_nil_iff_forall_not_mem]
  constructor
  · intro none' r hr
    cases h : x.owns r with
    | false => rfl
    | true =>
      rw [Restriction.Change.owns, Bool.and_eq_true, Option.isSome_iff_exists] at h
      obtain ⟨reason, id, hid⟩ := h
      exact absurd (Ledger.mem_ids.mpr ⟨r, hr, reason, hid⟩) (none' id)
  · intro unowned id hid
    obtain ⟨r, hr, reason, hid⟩ := Ledger.mem_ids.mp hid
    have owned : x.owns r = true := by
      rw [Restriction.Change.owns, reason, hid]
      rfl
    rw [unowned r hr] at owned
    cases owned

/-! ## 2. Surroundings -/

/-- What the platforms answer while the alert of one cluster is handled. -/
structure Surroundings (settings : Settings) where
  clock : Instant
  running : List Instance
  expected : NodeCount
  /-- The answers to calls about anything else than nodes and restrictions. -/
  other : (c : Call) → c.Answer
  analysis : AnalysisRequest → Span → Timed (Except Failure String)
  /-- The entry that is added to the history when a restriction is deleted. -/
  entry : List AdvisoryEntry → Restriction → AdvisoryEntry
  entry_summary : ∀ history r, (entry history r).summary = r.summary
  entry_account : ∀ history r, settings.ownsAccount (entry history r).username = true
  entry_logType : ∀ history r, (entry history r).logType = AdvisoryEntry.restrictionChange
  entry_timestamp : ∀ history r, (entry history r).timestamp = clock

/-- The calls that are made to see whether a cluster has recovered and to lift restrictions. -/
def Call.isLifting : Call → Bool
  | .cloud _ (.runningInstances _) => true
  | .manager (.expectedNodes _) => true
  | .manager (.advisories _ _) => true
  | .manager (.restrictions _) => true
  | .manager (.deleteRestriction _ _) => true
  | _ => false

def Call.Lifting (c : Call) : Prop := c.isLifting = true

/-- A call that is allowed to fail did, and the failure was not classified. -/
def Exchange.Failed (may : Call → Prop) : Exchange collaboration → Prop
  | ⟨Ask.call c, .error f⟩ => may c ∧ f.classification = none
  | _ => False

/-- A request that deletes no restriction. -/
def Ask.Keeping : Ask → Prop
  | .call (.manager (.deleteRestriction _ _)) => False
  | _ => True

namespace Surroundings

variable {settings : Settings} (w : Surroundings settings)

/-- Delete the restriction with an id, if there is one, and write it down. -/
def delete (id : String) (s : Ledger) : Ledger :=
  match s.restrictions.find? fun r => r.id = some id with
  | none => s
  | some r => {
      restrictions := s.restrictions.filter fun r => r.id ≠ some id
      history := s.history ++ [w.entry s.history r]
      distinct := s.distinct.sublist (List.filter_sublist.filterMap _) }

/-- The reply to a request, and the ledger after it. -/
def answer : (q : Ask) → Ledger → q.Reply × Ledger
  | .call (.manager (.restrictions _)), s => (.ok s.restrictions, s)
  | .call (.manager (.advisories _ _)), s => (.ok s.history, s)
  | .call (.manager (.deleteRestriction _ id)), s => (.ok (), w.delete id s)
  | .call (.manager (.expectedNodes _)), s => (.ok w.expected, s)
  | .call (.cloud _ (.runningInstances _)), s => (.ok w.running, s)
  | .call c, s => (.ok (w.other c), s)
  | .analyze request limit, s => (w.analysis request limit, s)
  | .pause _, s => ((), s)
  | .now, s => (w.clock, s)
  | .count _, s => ((), s)

/-- An exchange in these surroundings: the request was answered, or the call failed. -/
def Step (may : Call → Prop) (s : Ledger) (e : Exchange collaboration) (t : Ledger) : Prop :=
  (e.reply = (w.answer e.request s).1 ∧ t = (w.answer e.request s).2) ∨ (e.Failed may ∧ t = s)

/-- The exchanges of a run in these surroundings, from one ledger to another. -/
def Follows (may : Call → Prop) (s : Ledger) : Log → Ledger → Prop
  | [], t => t = s
  | e :: log, t => ∃ next, w.Step may s e next ∧ Follows may next log t

/-- The number of changes that count against lifting a restriction. -/
def changes (x : Restriction.Change) (s : Ledger) : Nat :=
  s.history.countP (settings.countsAsChange x.summary (w.clock.back settings.flappingWindow))

/-- The restriction is flapping. -/
def Flaps (x : Restriction.Change) (s : Ledger) : Prop :=
  settings.flappingThreshold ≤ w.changes x s

section Follows

variable {w} {may : Call → Prop} {s t : Ledger}

theorem follows_append {first second : Log} :
    w.Follows may s (first ++ second) t ↔
      ∃ mid, w.Follows may s first mid ∧ w.Follows may mid second t := by
  induction first generalizing s with
  | nil =>
    constructor
    · exact fun h => ⟨s, rfl, h⟩
    · intro ⟨mid, same, h⟩
      rw [← same]
      exact h
  | cons e first ih =>
    constructor
    · intro ⟨next, step, rest⟩
      obtain ⟨mid, before, behind⟩ := ih.mp rest
      exact ⟨mid, ⟨next, step, before⟩, behind⟩
    · intro ⟨mid, ⟨next, step, before⟩, behind⟩
      exact ⟨next, step, ih.mpr ⟨mid, before, behind⟩⟩

theorem follows_singleton {e : Exchange collaboration} :
    w.Follows may s [e] t ↔ w.Step may s e t := by
  constructor
  · intro ⟨next, step, same⟩
    rw [show t = next from same]
    exact step
  · exact fun step => ⟨t, step, rfl⟩

/-- What does not delete leaves the ledger as it is. -/
theorem answer_keeping {q : Ask} (keeping : q.Keeping) : (w.answer q s).2 = s := by
  cases q with
  | call c =>
    cases c with
    | manager call => cases call <;> first | exact keeping.elim | rfl
    | cloud client call => cases call <;> rfl
    | _ => rfl
  | _ => rfl

theorem follows_keeping {log : Log} (keeping : ∀ e ∈ log, Ask.Keeping e.request)
    (follows : w.Follows may s log t) : t = s := by
  induction log generalizing s with
  | nil => exact follows
  | cons e log ih =>
    obtain ⟨next, step, rest⟩ := follows
    have same : next = s := by
      rcases step with ⟨_, same⟩ | ⟨_, same⟩
      · rw [same, answer_keeping (keeping e (List.mem_cons_self ..))]
      · exact same
    rw [ih (fun e he => keeping e (List.mem_cons_of_mem _ he)) rest, same]

/-- A program that is answered without failures follows the surroundings. -/
theorem follows_play {α : Type} (p : Work α) (s : Ledger) :
    w.Follows may s (p.play w.answer s).1 (p.play w.answer s).2.2 := by
  induction p generalizing s with
  | done a => rfl
  | ask q next ih => exact ⟨_, .inl ⟨rfl, rfl⟩, ih _ _⟩

theorem run_played {α : Type} {p : Work α} {log : Log} {a : α}
    (played : p.play w.answer s = (log, a, t)) : Program.Run p log a ∧ w.Follows may s log t := by
  have run := Program.run_play w.answer p s
  have follows : w.Follows may s (p.play w.answer s).1 (p.play w.answer s).2.2 := follows_play p s
  rw [played] at run follows
  exact ⟨run, follows⟩

/-- The reply to a request under a schedule of failures. Each call of the lifting takes the next
entry of the schedule, and goes through where that is none. -/
def answerUnder (w : Surroundings settings) : (q : Ask) → Ledger × List (Option Failure) →
    q.Reply × (Ledger × List (Option Failure))
  | .call c, (s, entry :: schedule) =>
    if c.isLifting then
      match entry with
      | some f => (.error f, (s, schedule))
      | none => ((w.answer (.call c) s).1, ((w.answer (.call c) s).2, schedule))
    else ((w.answer (.call c) s).1, ((w.answer (.call c) s).2, entry :: schedule))
  | q, (s, schedule) => ((w.answer q s).1, ((w.answer q s).2, schedule))

theorem step_answerUnder {q : Ask} {schedule : List (Option Failure)}
    (plain : ∀ f, some f ∈ schedule → f.classification = none) :
    w.Step Call.Lifting s ⟨q, (w.answerUnder q (s, schedule)).1⟩
        (w.answerUnder q (s, schedule)).2.1 ∧
      ∀ f, some f ∈ (w.answerUnder q (s, schedule)).2.2 → some f ∈ schedule := by
  cases q with
  | call c =>
    cases schedule with
    | nil => exact ⟨.inl ⟨rfl, rfl⟩, fun _ h => h⟩
    | cons entry schedule =>
      by_cases lifting : c.isLifting = true
      · cases entry with
        | none =>
          simp only [answerUnder, if_pos lifting]
          exact ⟨.inl ⟨rfl, rfl⟩, fun _ h => List.mem_cons_of_mem _ h⟩
        | some f =>
          simp only [answerUnder, if_pos lifting]
          exact ⟨.inr ⟨⟨lifting, plain f (List.mem_cons_self ..)⟩, rfl⟩,
            fun _ h => List.mem_cons_of_mem _ h⟩
      · simp only [answerUnder, if_neg lifting]
        exact ⟨.inl ⟨rfl, rfl⟩, fun _ h => h⟩
  | _ => exact ⟨.inl ⟨rfl, rfl⟩, fun _ h => h⟩

/-- Under a schedule of unclassified failures a program follows the surroundings as well. -/
theorem follows_playUnder {α : Type} (p : Work α) (s : Ledger) (schedule : List (Option Failure))
    (plain : ∀ f, some f ∈ schedule → f.classification = none) :
    w.Follows Call.Lifting s (p.play w.answerUnder (s, schedule)).1
      (p.play w.answerUnder (s, schedule)).2.2.1 := by
  induction p generalizing s schedule with
  | done a => rfl
  | ask q next ih =>
    obtain ⟨step, fewer⟩ := step_answerUnder plain
    exact ⟨_, step, ih _ _ _ fun f h => plain f (fewer f h)⟩

/-- What is played under a schedule is a run in these surroundings. -/
theorem run_playUnder {α : Type} {p : Work α} {schedule left : List (Option Failure)} {log : Log}
    {a : α} (plain : ∀ f, some f ∈ schedule → f.classification = none)
    (played : p.play w.answerUnder (s, schedule) = (log, a, t, left)) :
    Program.Run p log a ∧ w.Follows Call.Lifting s log t := by
  have run := Program.run_play w.answerUnder p (s, schedule)
  have follows : w.Follows Call.Lifting s (p.play w.answerUnder (s, schedule)).1
      (p.play w.answerUnder (s, schedule)).2.2.1 := follows_playUnder p s schedule plain
  rw [played] at run follows
  exact ⟨run, follows⟩

/-- A failure of a call that is allowed to fail. -/
def Plain (may : Call → Prop) (f : Failure) : Prop := f.classification = none ∧ ∃ c, may c

/-- A call that only looks is answered as things are, or fails. -/
theorem follows_look {c : Call} {v : c.Answer} {log : Log} {r : Except Failure c.Answer}
    (looks : w.answer (.call c) s = (.ok v, s)) (h : Fallible.Gives (Work.call c) log r)
    (follows : w.Follows may s log t) : t = s ∧ (r = .ok v ∨ ∃ f, r = .error f ∧ Plain may f) := by
  rw [Fallible.gives_call.mp h, follows_singleton] at follows
  rcases follows with ⟨reply, same⟩ | ⟨failed, same⟩
  · have reply' : r = (w.answer (.call c) s).1 := reply
    have same' : t = (w.answer (.call c) s).2 := same
    rw [looks] at reply' same'
    exact ⟨same', .inl reply'⟩
  · cases r with
    | ok v => exact failed.elim
    | error f => exact ⟨same, .inr ⟨f, rfl, failed.2, c, failed.1⟩⟩

end Follows

/-! ## 3. Deleting and counting -/

section Delete

variable {w} {s t u : Ledger} {x y : Restriction.Change} {id : String} {r : Restriction}

/-- An entry that is added counts if the summary stands in that of the deleted restriction. -/
theorem countsAsChange_entry (history : List AdvisoryEntry) :
    settings.countsAsChange x.summary (w.clock.back settings.flappingWindow) (w.entry history r) =
      Text.occursIn x.summary r.summary := by
  have recent : w.clock.back settings.flappingWindow ≤ (w.entry history r).timestamp := by
    rw [w.entry_timestamp]
    exact Instant.back_le _ _
  simp only [Settings.countsAsChange, w.entry_account, w.entry_logType, w.entry_summary,
    decide_eq_true recent, decide_true, Bool.true_and]

theorem delete_absent (absent : ∀ r ∈ s.restrictions, r.id ≠ some id) : w.delete id s = s := by
  have notFound : (s.restrictions.find? fun r => r.id = some id) = none :=
    List.find?_eq_none.mpr fun r hr found => absent r hr (of_decide_eq_true found)
  unfold delete
  rw [notFound]

theorem delete_present (hr : r ∈ s.restrictions) (hid : r.id = some id) :
    (w.delete id s).restrictions = s.restrictions.filter (fun r => r.id ≠ some id) ∧
      (w.delete id s).history = s.history ++ [w.entry s.history r] := by
  cases found : s.restrictions.find? fun r => r.id = some id with
  | none => exact absurd (decide_eq_true hid) (List.find?_eq_none.mp found r hr)
  | some r' =>
    have same : r' = r := s.eq_of_id_eq (List.mem_of_find?_eq_some found) hr
      (of_decide_eq_true (List.find?_some found :)) hid
    unfold delete
    rw [found, same]
    exact ⟨rfl, rfl⟩

theorem ids_delete (hr : r ∈ s.restrictions) (hid : r.id = some id) :
    (w.delete id s).ids x = (s.ids x).filter (· ≠ id) := by
  rw [Ledger.ids, (delete_present hr hid).1, Ledger.ids, Restriction.idsFor, Restriction.idsFor]
  simp only [List.filterMap_filter, List.filter_filterMap, List.filter_filter]
  congr 1
  funext e
  cases e.hasReasonOf x.restriction <;> cases e.id <;> simp [Option.filter]

/-- One id less. -/
theorem length_ids_delete (hr : r ∈ s.restrictions) (hid : r.id = some id)
    (reason : r.hasReasonOf x.restriction = true) :
    ((w.delete id s).ids x).length + 1 = (s.ids x).length := by
  have mem : id ∈ s.ids x := Ledger.mem_ids.mpr ⟨r, hr, reason, hid⟩
  have erased : (s.ids x).filter (· ≠ id) = (s.ids x).erase id := by
    rw [(s.nodup_ids x).erase_eq_filter]
    exact List.filter_congr fun a _ => Bool.eq_iff_iff.mpr (by rw [decide_eq_true_iff, bne_iff_ne])
  have pos := List.length_pos_of_mem mem
  rw [ids_delete hr hid, erased, List.length_erase_of_mem mem]
  omega

theorem changes_delete (hr : r ∈ s.restrictions) (hid : r.id = some id) :
    w.changes x (w.delete id s) =
      w.changes x s + if Text.occursIn x.summary r.summary = true then 1 else 0 := by
  rw [changes, (delete_present hr hid).2, List.countP_append, List.countP_singleton,
    countsAsChange_entry]
  rfl

/-- **What goes is counted.** The restrictions for a reason that were deleted since `s`, the other
ones that are as they were, and the changes that were written down. -/
structure Shed (w : Surroundings settings) (x : Restriction.Change) (s t : Ledger) : Prop where
  kept : ∃ keep : Restriction → Bool, t.restrictions = s.restrictions.filter keep ∧
    ∀ r ∈ s.restrictions, keep r = false → x.owns r = true
  counted : w.changes x t + (t.ids x).length = w.changes x s + (s.ids x).length
  others : ∀ y, x.Apart y → w.changes y t = w.changes y s

namespace Shed

theorem refl : Shed w x s s :=
  ⟨⟨fun _ => true, (List.filter_eq_self.mpr fun _ _ => rfl).symm, fun _ _ h => nomatch h⟩, rfl, fun _ _ => rfl⟩

theorem trans (h₁ : Shed w x s t) (h₂ : Shed w x t u) : Shed w x s u := by
  obtain ⟨keep₁, same₁, owned₁⟩ := h₁.kept
  obtain ⟨keep₂, same₂, owned₂⟩ := h₂.kept
  refine ⟨⟨fun r => keep₂ r && keep₁ r, ?_, fun r hr gone => ?_⟩, h₂.counted.trans h₁.counted,
    fun y apart => (h₂.others y apart).trans (h₁.others y apart)⟩
  · rw [same₂, same₁, List.filter_filter]
  · cases there : keep₁ r with
    | false => exact owned₁ r hr there
    | true =>
      have gone₂ : keep₂ r = false := by simpa only [there, Bool.and_true] using gone
      refine owned₂ r ?_ gone₂
      rw [same₁]
      exact List.mem_filter.mpr ⟨hr, there⟩

theorem subset (h : Shed w x s t) : t.restrictions ⊆ s.restrictions := by
  obtain ⟨keep, same, _⟩ := h.kept
  rw [same]
  exact List.filter_sublist.subset

/-- The restrictions for a reason apart are as they were. -/
theorem ids_eq (h : Shed w x s t) (apart : x.Apart y) : t.ids y = s.ids y := by
  obtain ⟨keep, same, owned⟩ := h.kept
  rw [Ledger.ids, same, Ledger.ids, Restriction.idsFor, Restriction.idsFor, List.filter_filter]
  congr 1
  refine List.filter_congr fun r hr => ?_
  cases there : keep r with
  | true => rw [Bool.and_true]
  | false =>
    have reason := owned r hr there
    rw [Restriction.Change.owns, Bool.and_eq_true] at reason
    rw [apart.not_hasReasonOf reason.1, Bool.and_false]

end Shed

/-- Deleting what has an id of this reason. -/
theorem shed_delete
    (own : ∀ r ∈ s.restrictions, r.id = some id → r.hasReasonOf x.restriction = true) :
    Shed w x s (w.delete id s) := by
  by_cases there : ∃ r ∈ s.restrictions, r.id = some id
  · obtain ⟨r, hr, hid⟩ := there
    have reason := own r hr hid
    have summary : r.summary = x.summary := (Restriction.hasReasonOf_iff.mp reason).1
    refine ⟨⟨_, (delete_present hr hid).1, fun e he gone => ?_⟩, ?_, fun y apart => ?_⟩
    · have hid' : e.id = some id := by simpa using gone
      rw [Restriction.Change.owns, own e he hid', hid']
      rfl
    · have fewer : ((w.delete id s).ids x).length + 1 = (s.ids x).length :=
        length_ids_delete hr hid reason
      rw [changes_delete hr hid, summary, Text.occursIn_self, if_pos rfl]
      omega
    · rw [changes_delete hr hid, summary, apart.2]
      rfl
  · have absent : ∀ r ∈ s.restrictions, r.id ≠ some id := fun r hr hid => there ⟨r, hr, hid⟩
    rw [delete_absent absent]
    exact .refl

/-- After that the id is gone. -/
theorem gone_delete : ∀ r ∈ (w.delete id s).restrictions, r.id ≠ some id := by
  by_cases there : ∃ r ∈ s.restrictions, r.id = some id
  · obtain ⟨r, hr, hid⟩ := there
    intro e he
    rw [(delete_present hr hid).1] at he
    simpa using (List.mem_filter.mp he).2
  · have absent : ∀ r ∈ s.restrictions, r.id ≠ some id := fun r hr hid => there ⟨r, hr, hid⟩
    rwa [delete_absent absent]

end Delete

end Surroundings

end OnCall
