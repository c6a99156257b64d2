import OnCall.Proofs.Counters
import OnCall.Proofs.SafeDeletions

/-!
# The removal counter and the deletions

A lifting deletes every restriction that is set for its reason. It is counted once, when the last of
them is gone, so the counter tells how many liftings went through and not how many restrictions went.

* `Store`: the restrictions on all clusters, and how many of them deletions have taken.
* `uncounted`: the deletions that no count follows at once.
* `Reckoned`: **what is deleted in a part of a run**: each successful deletion takes one restriction,
  and is counted unless it is one of the uncounted. Parts add up.
* `Desk.removals_agree_iff`: **the counter agrees with the deletions exactly if each of them is
  counted at once**, and else it is too small.
-/

namespace OnCall

open Restriction (Change)
open Surroundings (liftable liftBoth)

/-! ## 1. The restrictions on all clusters -/

/-- The restrictions on all clusters, and how many of them deletions have taken. -/
structure Store where
  ledger : String → Ledger
  taken : Nat

/-- The exchange is a successful deletion. -/
def Exchange.deletes : Exchange collaboration → Bool := Exchange.succeeds .deleteRestriction

/-- The number of restrictions that a deletion takes. One that failed takes none. -/
def Exchange.takes (s t : String → Ledger) : Exchange collaboration → Nat
  | ⟨Ask.call (.manager (.deleteRestriction clusterId _)), .ok _⟩ =>
    (s clusterId).restrictions.length - (t clusterId).restrictions.length
  | _ => 0

/-- The store before and after an exchange. -/
def Store.Step (s : Store) (e : Exchange collaboration) (t : Store) : Prop :=
  (∀ clusterId, (s.ledger clusterId).Step clusterId e (t.ledger clusterId)) ∧
    t.taken = s.taken + e.takes s.ledger t.ledger

/-- The number of successful deletions. -/
def deleted (log : Log) : Nat := succeeded .deleteRestriction log

theorem deleted_append {first second : Log} :
    deleted (first ++ second) = deleted first + deleted second :=
  List.countP_append

namespace Store

variable {s t : Store} {log : Log}

/-- The ledger of each cluster goes on with the store. -/
theorem after (along : Along Step s log t) (clusterId : String) :
    (s.ledger clusterId).After clusterId log (t.ledger clusterId) := by
  induction along with
  | nil s => rfl
  | cons first _ ih => exact ⟨_, first.1 clusterId, ih⟩

/-- Nothing else than a successful deletion takes a restriction. -/
theorem takes_eq_zero {ledger ledger' : String → Ledger} {e : Exchange collaboration}
    (other : e.deletes = false) : e.takes ledger ledger' = 0 := by
  obtain ⟨q, reply⟩ := e
  cases q with
  | call c =>
    cases c with
    | manager call =>
      cases call with
      | deleteRestriction clusterId id =>
        cases reply with
        | ok _ => cases other
        | error f => rfl
      | _ => rfl
    | _ => rfl
  | _ => rfl

theorem taken_eq_of_idle (idle : ∀ e ∈ log, Exchange.deletes e = false)
    (along : Along Step s log t) : t.taken = s.taken := by
  induction along with
  | nil s => rfl
  | cons first _ ih =>
    rw [ih fun e he => idle e (List.mem_cons_of_mem _ he), first.2,
      takes_eq_zero (idle _ (List.mem_cons_self ..)), Nat.add_zero]

end Store

theorem deleted_eq_zero {log : Log} (idle : ∀ e ∈ log, Exchange.deletes e = false) :
    deleted log = 0 :=
  List.countP_eq_zero.mpr fun e he deletes => by
    rw [show Exchange.succeeds .deleteRestriction e = false from idle e he] at deletes
    cases deletes

theorem Ask.Keeping.idle {e : Exchange collaboration} (h : Ask.Keeping e.request) :
    e.deletes = false := by
  obtain ⟨q, reply⟩ := e
  cases q with
  | call c =>
    cases c with
    | manager call => cases call <;> first | exact h.elim | (cases reply <;> rfl)
    | cloud client call => cases call <;> cases reply <;> rfl
    | pager call => cases call <;> cases reply <;> rfl
    | _ => cases reply <;> rfl
  | _ => rfl

/-! ## 2. What is counted at once -/

/-- The exchange counts a lifted restriction. -/
def Exchange.countsRemoval : Exchange collaboration → Bool
  | ⟨Ask.count .restrictionsRemoved, _⟩ => true
  | _ => false

/-- What stands first counts a lifted restriction. -/
def Log.opensCounting (log : Log) : Bool := log.head?.any Exchange.countsRemoval

/-- **The deletions that no count follows at once.** -/
def uncounted : Log → Nat
  | [] => 0
  | e :: log => uncounted log + if e.deletes && !Log.opensCounting log then 1 else 0

/-- A successful deletion is counted at once. -/
def CountedAtOnce (_ : Log) (e : Exchange collaboration) (behind : Log) : Prop :=
  e.deletes = true → Log.opensCounting behind = true

/-- The number of counts of lifted restrictions. -/
def removals (log : Log) : Nat := (counted log).count .restrictionsRemoved

theorem removals_append {first second : Log} :
    removals (first ++ second) = removals first + removals second := by
  rw [removals, counted_append, List.count_append]
  rfl

section Uncounted

variable {log first second : Log}

theorem removals_eq_zero (silent : ∀ e ∈ log, Exchange.countsRemoval e = false) :
    removals log = 0 := by
  rw [removals, List.count_eq_zero]
  intro mem
  obtain ⟨⟨q, reply⟩, he, bumps⟩ := List.mem_filterMap.mp mem
  have silent := silent _ he
  cases q with
  | count c =>
    cases bumps
    cases silent
  | _ => cases bumps

theorem uncounted_append (opens : Log.opensCounting second = false) :
    uncounted (first ++ second) = uncounted first + uncounted second := by
  induction first with
  | nil => rw [List.nil_append, uncounted, Nat.zero_add]
  | cons e first ih =>
    have same : Log.opensCounting (first ++ second) = Log.opensCounting first := by
      cases first with
      | nil => exact opens
      | cons => rfl
    rw [List.cons_append, uncounted, uncounted, same, ih]
    omega

/-- Where nothing is counted, all deletions are uncounted. -/
theorem uncounted_eq_deleted (silent : ∀ e ∈ log, Exchange.countsRemoval e = false) :
    uncounted log = deleted log := by
  induction log with
  | nil => rfl
  | cons e log ih =>
    have opens : Log.opensCounting log = false := by
      cases log with
      | nil => rfl
      | cons e' log => exact silent e' (List.mem_cons_of_mem _ (List.mem_cons_self ..))
    rw [uncounted, ih fun e' he => silent e' (List.mem_cons_of_mem _ he), opens, Bool.not_false,
      Bool.and_true, deleted, deleted, succeeded, succeeded, List.countP_cons]
    rfl

/-- **No deletion is uncounted if each is counted at once.** -/
theorem uncounted_eq_zero_iff : uncounted log = 0 ↔ Log.Everywhere CountedAtOnce log := by
  induction log with
  | nil => exact iff_of_true rfl Log.everywhere_nil
  | cons e log ih =>
    rw [uncounted, Nat.add_eq_zero_iff, ih, Log.everywhere_cons, and_comm]
    refine and_congr ?_ Iff.rfl
    rw [CountedAtOnce]
    cases e.deletes <;> cases Log.opensCounting log <;> simp

end Uncounted

/-! ## 3. Parts of a run -/

/-- **What is deleted in a part of a run.** Each successful deletion takes one restriction. As many
liftings are counted as there are deletions, less the uncounted ones; and no count stands first, so
that none belongs to a deletion in an earlier part. -/
structure Reckoned (log : Log) : Prop where
  taken : ∀ s t : Store, Along Store.Step s log t → t.taken = s.taken + deleted log
  counted : removals log + uncounted log = deleted log
  opens : Log.opensCounting log = false

namespace Reckoned

variable {log first second : Log}

theorem append (h₁ : Reckoned first) (h₂ : Reckoned second) : Reckoned (first ++ second) where
  taken := fun s t along => by
    obtain ⟨mid, before, behind⟩ := Along.append_iff.mp along
    rw [h₂.taken mid t behind, h₁.taken s mid before, deleted_append, Nat.add_assoc]
  counted := by
    have := h₁.counted
    have := h₂.counted
    rw [removals_append, uncounted_append h₂.opens, deleted_append]
    omega
  opens := by
    cases first with
    | nil => exact h₂.opens
    | cons e first => exact h₁.opens

/-- A part in which nothing is counted. -/
theorem of_silent (silent : ∀ e ∈ log, Exchange.countsRemoval e = false)
    (taken : ∀ s t : Store, Along Store.Step s log t → t.taken = s.taken + deleted log) :
    Reckoned log where
  taken := taken
  counted := by rw [removals_eq_zero silent, uncounted_eq_deleted silent, Nat.zero_add]
  opens := by
    cases log with
    | nil => rfl
    | cons e log => exact silent e (List.mem_cons_self ..)

/-- A part in which nothing is deleted or counted. -/
theorem of_idle (silent : ∀ e ∈ log, Exchange.countsRemoval e = false)
    (idle : ∀ e ∈ log, Exchange.deletes e = false) : Reckoned log :=
  of_silent silent fun s t along => by
    rw [Store.taken_eq_of_idle idle along, deleted_eq_zero idle, Nat.add_zero]

end Reckoned

/-- A request that neither deletes a restriction nor counts a lifted one. -/
def Ask.Aside : Ask → Prop
  | .call (.manager (.deleteRestriction _ _)) => False
  | .count .restrictionsRemoved => False
  | _ => True

theorem Ask.Aside.keeping {q : Ask} (h : q.Aside) : q.Keeping := by
  cases q with
  | call c =>
    cases c with
    | manager call => cases call <;> first | exact h.elim | trivial
    | _ => trivial
  | _ => trivial

theorem Ask.Aside.silent {e : Exchange collaboration} (h : Ask.Aside e.request) :
    e.countsRemoval = false := by
  obtain ⟨q, reply⟩ := e
  cases q with
  | count c => cases c <;> first | exact h.elim | rfl
  | _ => rfl

theorem Ask.admits_aside : Ask.Admits Ask.Aside False where
  look := by
    intro c kept _
    cases c with
    | manager call => cases call <;> first | exact absurd rfl kept | trivial
    | _ => trivial
  analyze := fun _ _ => trivial
  pause := fun _ => trivial
  now := trivial
  delete := False.elim
  removed := False.elim

theorem Reckoned.of_aside {log : Log} (aside : ∀ e ∈ log, Ask.Aside e.request) : Reckoned log :=
  .of_idle (fun e he => (aside e he).silent) fun e he => (aside e he).keeping.idle

/-! ## 4. Deleting -/

/-- A restriction with this id is on the cluster. -/
def Store.Has (s : Store) (clusterId id : String) : Prop :=
  ∃ e ∈ (s.ledger clusterId).restrictions, e.id = some id

section Deleting

variable {clusterId id : String} {ids : List String} {policy : RetryPolicy} {s t : Store} {log : Log}
  {r : Except Failure Unit}

/-- A failed try to delete is no successful deletion. -/
theorem idle_failed_deletes {n : Nat}
    (tries : Retries (Fallible.Try (Work.deleteRestriction clusterId id)) Pausing n () log ()) :
    ∀ e ∈ log, Exchange.deletes e = false := by
  induction n generalizing log with
  | zero =>
    cases tries
    exact List.forall_mem_nil _
  | succ n ih =>
    cases tries with
    | more failed next others =>
      obtain ⟨span, rfl⟩ := next
      rw [Fallible.gives_call.mp failed]
      intro e he
      rcases List.mem_cons.mp he with rfl | he
      · rfl
      · rcases List.mem_cons.mp he with rfl | he
        · rfl
        · exact ih others e he

/-- **A deletion takes one restriction**, if it is there, and leaves the others. -/
theorem Store.taken_delete (there : s.Has clusterId id)
    (step : s.Step ((Call.deletion clusterId id).exchange (.ok ())) t) : t.taken = s.taken + 1 := by
  obtain ⟨e, he, named⟩ := there
  have gone := (step.1 clusterId).1 rfl
  have shorter := List.length_eraseP_of_mem (p := fun r : Restriction => decide (r.id = some id)) he
    (decide_eq_true named)
  have some' : 0 < (s.ledger clusterId).restrictions.length := List.length_pos_of_mem he
  rw [step.2]
  show s.taken + ((s.ledger clusterId).restrictions.length -
    (t.ledger clusterId).restrictions.length) = s.taken + 1
  rw [gone, shorter]
  omega

/-- A deletion under the retry policy takes the restriction, or it failed and took nothing. -/
theorem taken_retried_delete
    (h : Fallible.Gives (Work.retried policy (Work.deleteRestriction clusterId id)) log r)
    (along : Along Store.Step s log t) (there : s.Has clusterId id) :
    t.taken = s.taken + deleted log := by
  obtain ⟨n, earlier, last, _, rfl, tries, final, _⟩ := Fallible.gives_retried h
  obtain ⟨mid, before, behind⟩ := Along.append_iff.mp along
  have idle := idle_failed_deletes tries
  have same : (mid.ledger clusterId).restrictions = (s.ledger clusterId).restrictions := by
    refine Ledger.after_retries (R := fun s t => t.restrictions = s.restrictions)
      (fun _ _ => Pausing.leaving) (fun _ _ h => h) (fun _ _ _ h₁ h₂ => h₂.trans h₁)
      (fun _ _ _ _ _ _ failed after => ?_) tries (Store.after before clusterId)
    rcases Ledger.delete_spec failed after with ⟨wrong, _⟩ | ⟨_, same⟩
    · cases wrong
    · exact same
  rw [deleted_append, deleted_eq_zero idle, Nat.zero_add, ← Store.taken_eq_of_idle idle before]
  rw [Fallible.gives_call.mp final] at behind ⊢
  have step := Along.singleton_iff.mp behind
  cases r with
  | error f => exact step.2
  | ok _ =>
    refine Store.taken_delete ?_ step
    rwa [Store.Has, same]

/-- **Restrictions that are there are taken one by one**, up to the first that cannot be deleted. -/
theorem taken_deleteAll (h : Fallible.Gives (Restriction.deleteAll policy clusterId ids) log r)
    (along : Along Store.Step s log t) (distinct : ids.Nodup)
    (there : ∀ id ∈ ids, s.Has clusterId id) : t.taken = s.taken + deleted log := by
  induction ids generalizing log s with
  | nil =>
    obtain ⟨rfl, _⟩ := Fallible.gives_pure.mp h
    rw [Along.nil_iff.mp along]
    rfl
  | cons id ids ih =>
    obtain ⟨apart, distinct⟩ := List.nodup_cons.mp distinct
    have first := there id (List.mem_cons_self ..)
    rcases Fallible.gives_bind.mp h with ⟨l₁, _, l₂, rfl, h₁, h₂⟩ | ⟨f, rfl, h₁⟩
    · obtain ⟨mid, before, behind⟩ := Along.append_iff.mp along
      have took := taken_retried_delete h₁ before first
      have left : ∀ other ∈ ids, mid.Has clusterId other := by
        intro other mem
        obtain ⟨e, he, named⟩ := there other (List.mem_cons_of_mem _ mem)
        rcases Ledger.retried_delete_spec h₁ (Store.after before clusterId) with
          ⟨_, gone⟩ | ⟨⟨_, wrong⟩, _⟩
        · refine ⟨e, ?_, named⟩
          rw [gone, List.mem_filter, decide_eq_true_iff, named]
          exact ⟨he, fun same => apart (Option.some.inj same ▸ mem)⟩
        · cases wrong
      rw [ih h₂ behind distinct left, took, deleted_append, Nat.add_assoc]
    · exact taken_retried_delete h₁ along first

/-- If all were deleted, the last exchange is a successful deletion. -/
theorem deleteAll_ends (h : Fallible.Gives (Restriction.deleteAll policy clusterId ids) log (.ok ()))
    (some' : ids ≠ []) :
    ∃ earlier id, log = earlier ++ [(Call.deletion clusterId id).exchange (.ok ())] := by
  induction ids generalizing log with
  | nil => exact absurd rfl some'
  | cons id ids ih =>
    obtain ⟨l₁, _, l₂, rfl, h₁, h₂⟩ := Fallible.gives_bind_ok.mp h
    cases ids with
    | nil =>
      obtain ⟨rfl, _⟩ := Fallible.gives_pure.mp h₂
      obtain ⟨n, earlier, last, _, rfl, _, final, _⟩ := Fallible.gives_retried h₁
      rw [Fallible.gives_call.mp final]
      exact ⟨earlier, id, List.append_nil _⟩
    | cons other ids =>
      obtain ⟨earlier, last, rfl⟩ := ih h₂ (List.cons_ne_nil _ _)
      exact ⟨l₁ ++ earlier, last, (List.append_assoc ..).symm⟩

/-- Deleting counts nothing. -/
theorem silent_deleteAll (h : Fallible.Gives (Restriction.deleteAll policy clusterId ids) log r) :
    ∀ e ∈ log, Exchange.countsRemoval e = false := by
  have removing : Fallible.Only (Ask.Removing clusterId ids)
      (Restriction.deleteAll policy clusterId ids) :=
    Restriction.only_deleteAll (fun _ => trivial) fun _ mem => ⟨rfl, mem⟩
  intro e he
  have asked := removing.of_run h e he
  obtain ⟨q, reply⟩ := e
  cases q with
  | count c => exact asked.elim
  | _ => rfl

end Deleting

/-! ## 5. Lifting -/

namespace Restriction

variable {settings : Settings} {cluster : Cluster} {r : Restriction} {now : Instant} {log : Log}
  {result : Except Failure Lifting}

/-- **A lifting takes what it deletes**: what it deletes stands in the list that it read. -/
theorem Lifted.taken (h : Lifted settings cluster r now log result) {s t : Store}
    (along : Along Store.Step s log t) : t.taken = s.taken + deleted log := by
  cases h with
  | unread f => exact (Along.singleton_iff.mp along).2
  | flapping => exact (Along.singleton_iff.mp along).2
  | unlisted steady f =>
    obtain ⟨mid, first, second⟩ := Along.cons_iff.mp along
    rw [(Along.singleton_iff.mp second).2, first.2]
    rfl
  | absent =>
    obtain ⟨mid, first, second⟩ := Along.cons_iff.mp along
    rw [(Along.singleton_iff.mp second).2, first.2]
    rfl
  | @deleting history listed deletions _ steady set gone =>
    obtain ⟨s₁, first, along⟩ := Along.cons_iff.mp along
    obtain ⟨s₂, second, along⟩ := Along.cons_iff.mp along
    -- the list is truthful, so each id is there, and it is there once
    obtain ⟨truthful, same⟩ := second.1 cluster.id
    have shown : listed = (s₂.ledger cluster.id).restrictions := (truthful rfl).trans same.symm
    have distinct : (r.idsFor listed).Nodup := by
      rw [shown]
      exact (s₂.ledger cluster.id).distinct.sublist (List.filter_sublist.filterMap _)
    have there : ∀ id ∈ r.idsFor listed, s₂.Has cluster.id id := by
      intro id mem
      obtain ⟨e, he, _, named⟩ := mem_idsFor.mp mem
      exact ⟨e, shown ▸ he, named⟩
    rw [taken_deleteAll gone along distinct there, second.2, first.2]
    rfl

/-- Nothing is counted by the lifting itself. -/
theorem Lifted.silent (h : Lifted settings cluster r now log result) :
    ∀ e ∈ log, Exchange.countsRemoval e = false := by
  cases h with
  | unread f => exact List.forall_mem_singleton.mpr rfl
  | flapping => exact List.forall_mem_singleton.mpr rfl
  | unlisted => exact List.forall_mem_cons.mpr ⟨rfl, List.forall_mem_singleton.mpr rfl⟩
  | absent => exact List.forall_mem_cons.mpr ⟨rfl, List.forall_mem_singleton.mpr rfl⟩
  | deleting steady set gone =>
    exact List.forall_mem_cons.mpr ⟨rfl, List.forall_mem_cons.mpr ⟨rfl, silent_deleteAll gone⟩⟩

/-- A lifting that deleted something ends with a deletion. -/
theorem Lifted.ends {count : Nat} (h : Lifted settings cluster r now log (.ok (.removed count))) :
    ∃ earlier id, log = earlier ++ [(Call.deletion cluster.id id).exchange (.ok ())] := by
  generalize ended : (Except.ok (.removed count) : Except Failure Lifting) = result at h
  cases h with
  | @deleting history listed deletions result steady set gone =>
    cases result with
    | error f => cases ended
    | ok _ =>
      obtain ⟨earlier, id, rfl⟩ := deleteAll_ends gone set
      exact ⟨_ :: _ :: earlier, id, rfl⟩
  | _ => cases ended

/-- **The count behind a lifting belongs to its last deletion.** -/
theorem Lifted.reckoned {lifting : Lifting} (h : Lifted settings cluster r now log (.ok lifting)) :
    Reckoned (log ++ lifting.tally) := by
  cases lifting with
  | removed count =>
    obtain ⟨earlier, id, rfl⟩ := h.ends
    have silent := h.silent
    have before : ∀ e ∈ earlier, Exchange.countsRemoval e = false := fun e he =>
      silent e (List.mem_append_left _ he)
    refine ⟨fun s t along => ?_, ?_, ?_⟩
    · obtain ⟨mid, lifted, counted⟩ := Along.append_iff.mp along
      have bumped : t.taken = mid.taken := (Along.singleton_iff.mp counted).2
      rw [bumped, h.taken lifted]
      simp only [deleted_append]
      rfl
    · rw [List.append_assoc, uncounted_append rfl, uncounted_eq_deleted before, removals_append,
        removals_eq_zero before, deleted_append]
      show 0 + 1 + (deleted earlier + 0) = deleted earlier + 1
      omega
    · cases earlier with
      | nil => rfl
      | cons e earlier => exact before e (List.mem_cons_self ..)
  | notFound =>
    rw [show Lifting.notFound.tally = [] from rfl, List.append_nil]
    exact .of_silent h.silent fun _ _ => h.taken
  | flapping changes =>
    rw [show (Lifting.flapping changes).tally = [] from rfl, List.append_nil]
    exact .of_silent h.silent fun _ _ => h.taken

end Restriction

/-! ## 6. Inquiries -/

/-- An inquiry whose runs are reckoned. -/
def Inquiry.Reckons {α : Type} (x : Inquiry α) : Prop := ∀ n log r n', Gives x n log r n' → Reckoned log

namespace Inquiry

variable {α β : Type} {x : Inquiry α}

theorem reckons_of_only (h : x.Only Ask.Aside) : x.Reckons :=
  fun n _ _ _ run => .of_aside ((h n).of_run run)

theorem reckons_bind {f : α → Inquiry β} (hx : x.Reckons) (hf : ∀ a, (f a).Reckons) :
    (x >>= f).Reckons := by
  intro n log r n' run
  rcases gives_bind.mp run with ⟨first, a, n₁, second, rfl, h₁, h₂⟩ | ⟨_, _, h⟩
  · exact (hx _ _ _ _ h₁).append (hf a _ _ _ _ h₂)
  · exact hx _ _ _ _ h

theorem reckons_tryCatch {handler : Failure → Inquiry α} (hx : x.Reckons)
    (hh : ∀ f, (handler f).Reckons) : (tryCatch x handler).Reckons := by
  intro n log r n' run
  rcases gives_tryCatch.mp run with ⟨_, _, h⟩ | ⟨_, f, n₁, _, rfl, h₁, h₂⟩
  · exact hx _ _ _ _ h
  · exact (hx _ _ _ _ h₁).append (hh f _ _ _ _ h₂)

end Inquiry

namespace Unreachable

variable {ctx : Context} {now : Instant} {x : Change}

theorem reckons_liftOne : (liftOne ctx now x).Reckons := by
  rw [liftOne_eq]
  intro n log r n' run
  rcases Inquiry.gives_bind.mp run with
    ⟨l₁, lifting, n₁, l₂, rfl, required, noted⟩ | ⟨f, rfl, required⟩
  · obtain ⟨lifted, _⟩ := Inquiry.gives_require_ok.mp required
    obtain ⟨rfl, _⟩ := gives_noteLifting noted
    exact (Restriction.lifted_of_lift lifted).reckoned
  · obtain ⟨_, lifted, _⟩ := Inquiry.gives_require.mp required
    have lifted := Restriction.lifted_of_lift lifted
    exact .of_silent lifted.silent fun _ _ => lifted.taken

theorem reckons_liftBoth : (liftBoth ctx now).Reckons := by
  refine Inquiry.reckons_bind reckons_liftOne fun stopped =>
    Inquiry.reckons_bind reckons_liftOne fun egress => ?_
  split
  · exact Inquiry.reckons_of_only Inquiry.only_finish
  · exact Inquiry.reckons_of_only Inquiry.only_finish

theorem Course.reckoned {log : Log} {r : Except Failure Conclusion} (h : Course ctx now log r) :
    Reckoned log := by
  cases h with
  | unequipped => exact .of_aside (List.forall_mem_nil _)
  | uncounted => exact .of_aside (List.forall_mem_singleton.mpr trivial)
  | unasked =>
    exact .of_aside (List.forall_mem_cons.mpr ⟨trivial, List.forall_mem_singleton.mpr trivial⟩)
  | few =>
    exact .of_aside (List.forall_mem_cons.mpr ⟨trivial, List.forall_mem_singleton.mpr trivial⟩)
  | @lifting client infraId instances expected rest r n n' cloud infra enough lifted =>
    have looked : Reckoned [(Call.running client infraId).exchange (.ok instances),
        (Call.expected ctx.cluster).exchange (.ok expected)] :=
      .of_aside (List.forall_mem_cons.mpr ⟨trivial, List.forall_mem_singleton.mpr trivial⟩)
    exact looked.append (reckons_liftBoth _ _ _ _ lifted)

end Unreachable

theorem Investigation.reckons_run {ctx : Context} (cleared : ctx.alert.hasCleared = true) :
    (Investigation.unreachable.run ctx).Reckons := by
  have clock : (liftM (n := Inquiry) Work.now).Reckons :=
    Inquiry.reckons_of_only (Inquiry.only_liftM (Program.only_request trivial))
  refine Inquiry.reckons_bind clock fun now => Inquiry.reckons_tryCatch ?_ fun failure => ?_
  · rw [Investigation.steps, if_pos cleared]
    exact fun _ _ _ _ run => (Unreachable.course_of_recovered run).reckoned
  · split
    · exact Inquiry.reckons_of_only Inquiry.only_noted
    · exact Inquiry.reckons_of_only (Inquiry.only_throw _)

/-! ## 7. Handling alerts -/

/-- Carrying out a conclusion counts no lifted restriction, and deletes none. -/
theorem Conclusion.reckoned_execute {c : Conclusion} {site : Site} {log : Log}
    {r : Except Failure Unit} (h : Fallible.Gives (c.execute site) log r) : Reckoned log := by
  refine .of_idle (fun e he => ?_) fun e he => (Desk.keeping_execute.of_run h e he).idle
  have agree := Conclusion.counted_execute h
  rw [← Bool.not_eq_true]
  intro counts
  -- what is counted tells of a call, and this count does not
  have bumps : e.counted? = some .restrictionsRemoved := by
    obtain ⟨q, reply⟩ := e
    cases q with
    | count c => cases c <;> first | rfl | cases counts
    | _ => cases counts
  have mem : Counter.restrictionsRemoved ∈ counted log := List.mem_filterMap.mpr ⟨e, he, bumps⟩
  rw [agree] at mem
  obtain ⟨⟨q, reply⟩, _, tells⟩ := List.mem_filterMap.mp mem
  cases q with
  | call call =>
    cases reply with
    | error f => cases tells
    | ok v =>
      rw [Exchange.effect?] at tells
      generalize call.operation = op at tells
      cases op <;> cases tells
  | _ => cases tells

namespace Desk

variable {d : Desk} {i : Investigation} {alert : Alert} {s s' : Dossier} {log : Log}

theorem reckoned_attempt {r : Except Failure (Context × Conclusion)}
    (run : Filing.Gives (d.attempt i alert) s log r s') : Reckoned log := by
  by_cases lifts : i.Lifts alert
  · obtain ⟨rfl, cleared⟩ := lifts
    have built {needs : Requirements} {s s' : Dossier} {l : Log}
        {r : Except ResolutionFailure Context}
        (h : Resolving.Gives (d.contextFor .unreachable alert needs) s l r s') : Reckoned l :=
      .of_aside ((Resolving.only_build Ask.admits_aside.resource s).of_run h)
    rcases gives_attempt run with ⟨ctx, l₁, l₂, res, notes, rfl, context, ran, _⟩ |
      ⟨f, l₁, l₂, s₁, res, rfl, context, _, again, _⟩ | ⟨f, context, _⟩
    · obtain ⟨onAlert, _⟩ := Context.gives_build_ok context
      exact (built context).append (Investigation.reckons_run (onAlert ▸ cleared) _ _ _ _ ran)
    · exact (built context).append (built again)
    · exact built context
  · have admits : Ask.Admits Ask.Aside (i.Lifts alert) := by
      rw [eq_false lifts]
      exact Ask.admits_aside
    exact .of_aside ((only_attempt_of admits s).of_run run)

/-- Failed attempts, and what is counted between them. -/
theorem reckoned_tries {n : Nat}
    (tries : Retries (Filing.Gives (d.attempt i alert)) Repeating n s log s') : Reckoned log := by
  induction tries with
  | none => exact .of_aside (List.forall_mem_nil _)
  | more failed next _ ih =>
    obtain ⟨_, span, rfl⟩ := next
    have between : Reckoned [⟨Ask.count .infrastructureRetries, ()⟩, ⟨Ask.pause span, ()⟩] :=
      .of_aside (List.forall_mem_cons.mpr ⟨trivial, List.forall_mem_singleton.mpr trivial⟩)
    exact (reckoned_attempt failed).append (between.append ih)

theorem reckoned_attempts {r : Except Failure (Context × Conclusion)}
    (run : Filing.Gives (d.attempts i alert) s log r s') : Reckoned log := by
  obtain ⟨n, earlier, s₁, last, _, rfl, tries, counts, _⟩ := gives_attempts run
  exact (reckoned_tries tries).append (reckoned_attempt counts)

theorem reckoned_fallBack {cluster : Option Cluster} {name line reason : String}
    {status : OutcomeStatus} {mark : Mark} {r : Except Failure Outcome}
    (run : Fallible.Gives (d.fallBack alert cluster name status mark line reason) log r) :
    Reckoned log := by
  obtain ⟨_, executed, _⟩ := gives_fallBack run
  exact Conclusion.reckoned_execute executed

theorem reckoned_carryOut {name : String} {ctx : Context} {c : Conclusion}
    {r : Except Failure Outcome} (run : Fallible.Gives (d.carryOut name ctx c) log r) :
    Reckoned log := by
  rcases gives_carryOut run with ⟨_, executed⟩ | ⟨first, last, f, rfl, executed, fell⟩
  · exact Conclusion.reckoned_execute executed
  · exact (Conclusion.reckoned_execute executed).append (reckoned_fallBack fell)

theorem reckoned_handle {r : Except Failure Outcome}
    (run : Fallible.Gives (d.handle alert) log r) : Reckoned log := by
  have begun : Reckoned [⟨Ask.count .alertsHandled, ()⟩] :=
    .of_aside (List.forall_mem_singleton.mpr trivial)
  obtain ⟨rest, rfl, ⟨_, fell⟩ | ⟨i, _, tries, res, s, carried, rfl, tried, ended⟩⟩ :=
    gives_handle run
  · exact begun.append (reckoned_fallBack fell)
  · refine begun.append ((reckoned_attempts tried).append ?_)
    rcases ended with ⟨ctx, c, _, ran⟩ | ⟨f, _, ran⟩
    · exact reckoned_carryOut ran
    · exact reckoned_fallBack ran

/-- **What is deleted while alerts are handled one after the other.** -/
theorem reckoned_handleAll {alerts : List (Desk × Alert)} {ended : List (Except Failure Outcome)}
    (run : Program.Run (handleAll alerts) log ended) : Reckoned log := by
  induction alerts generalizing log ended with
  | nil =>
    obtain ⟨rfl, _⟩ := Program.run_done.mp run
    exact .of_aside (List.forall_mem_nil _)
  | cons work others ih =>
    obtain ⟨first, r, second, rfl, handled, run⟩ := Program.run_bind.mp run
    obtain ⟨rest, later, last, rfl, running, done⟩ := Program.run_bind.mp run
    obtain ⟨rfl, _⟩ := Program.run_done.mp done
    rw [List.append_nil]
    exact (reckoned_handle handled).append (ih running)

/-- **When the removal counter agrees with the deletions.** However many alerts are handled, and
whatever fails, each successful deletion takes one restriction. The counter grows by as many, less
the deletions that no count follows at once: those of a lifting before its last one, and all of a
lifting that failed on the way. So it agrees exactly if each deletion is counted at once. -/
theorem removals_agree_iff {alerts : List (Desk × Alert)} {ended : List (Except Failure Outcome)}
    (h : Program.Run (handleAll alerts) log ended) {s t : Store} (along : Along Store.Step s log t)
    (tally : Tally) :
    t.taken = s.taken + deleted log ∧
    (tally.after log).restrictionsRemoved + uncounted log = tally.restrictionsRemoved + deleted log ∧
    ((tally.after log).restrictionsRemoved = tally.restrictionsRemoved + (t.taken - s.taken) ↔
      Log.Everywhere CountedAtOnce log) := by
  have reckoned := reckoned_handleAll h
  have taken := reckoned.taken s t along
  have counted := reckoned.counted
  have grown : (tally.after log).restrictionsRemoved = tally.restrictionsRemoved + removals log :=
    Tally.get_after tally log .restrictionsRemoved
  refine ⟨taken, by omega, ?_⟩
  rw [← uncounted_eq_zero_iff]
  omega

end Desk

/-! ### Two restrictions for one reason -/

/-- The request is about the restrictions on no other cluster. -/
def Ask.isAbout (clusterId : String) : Ask → Bool
  | .call (.manager (.restrictions id)) => id = clusterId
  | .call (.manager (.postRestriction id _)) => id = clusterId
  | .call (.manager (.deleteRestriction id _)) => id = clusterId
  | _ => true

theorem Restriction.step_elsewhere {clusterId other : String} {held : List Restriction}
    {e : Exchange collaboration} (about : Ask.isAbout clusterId e.request = true)
    (elsewhere : other ≠ clusterId) : Restriction.Step other held e held := by
  obtain ⟨q, reply⟩ := e
  cases q with
  | call c =>
    cases c with
    | manager call =>
      cases call <;> cases reply <;> first
        | rfl
        | exact ⟨fun same => absurd (same.symm.trans (of_decide_eq_true about)) elsewhere, rfl⟩
        | exact ⟨fun same => absurd (same.symm.trans (of_decide_eq_true about)) elsewhere,
            fun _ => rfl⟩
    | cloud client call => cases reply <;> rfl
    | _ => cases reply <;> rfl
  | _ => rfl

/-- The store of all clusters goes on with the ledger of one. -/
theorem Store.along_of_after {clusterId : String} {held held' : Ledger} {log : Log}
    (others : String → Ledger) (about : ∀ e ∈ log, Ask.isAbout clusterId e.request = true)
    (after : held.After clusterId log held') (taken : Nat) :
    ∃ taken', Along Store.Step ⟨Function.update others clusterId held, taken⟩ log
      ⟨Function.update others clusterId held', taken'⟩ := by
  induction log generalizing held taken with
  | nil =>
    rw [show held' = held from after]
    exact ⟨taken, .nil _⟩
  | cons e log ih =>
    obtain ⟨next, step, rest⟩ := after
    obtain ⟨taken', later⟩ := ih (fun e he => about e (List.mem_cons_of_mem _ he)) rest
      (taken + e.takes (Function.update others clusterId held)
        (Function.update others clusterId next))
    refine ⟨taken', .cons ⟨fun id => ?_, rfl⟩ later⟩
    by_cases here : id = clusterId
    · subst here
      simpa only [Function.update_self] using step
    · simp only [Function.update_of_ne here]
      exact Restriction.step_elsewhere (about e (List.mem_cons_self ..)) here

/-- Two restrictions are set for one reason. -/
def Ledger.twofold : Ledger where
  restrictions := [
    { Unreachable.stoppedRestriction.restriction with id := some "lsr-1" },
    { Unreachable.stoppedRestriction.restriction with id := some "lsr-2" }]
  history := []
  distinct := by decide

/-- Both are deleted, and the counter tells of one. -/
theorem Desk.removals_agree_iff_twofold :
    let alerts : List (Desk × Alert) := [(Desk.standard .standard false,
      ⟨"Q1", "cluster has gone missing", .resolved, "c1"⟩)]
    ∃ log ended s t, Program.Run (handleAll alerts) log ended ∧ Along Store.Step s log t ∧
      (s.ledger "c1").restrictions = Ledger.twofold.restrictions ∧
      (t.ledger "c1").restrictions = [] ∧ t.taken = s.taken + 2 ∧
      (Tally.zero.after log).restrictionsRemoved = 1 ∧ ¬ Log.Everywhere CountedAtOnce log := by
  intro alerts
  obtain ⟨two, one, gone, home, about⟩ :
      let played := (handleAll alerts).play Surroundings.sample.answer .twofold
      deleted played.1 = 2 ∧ (Tally.zero.after played.1).restrictionsRemoved = 1 ∧
      played.2.2.restrictions = [] ∧ (∀ e ∈ played.1, Ask.isHome "c1" e.request = true) ∧
      ∀ e ∈ played.1, Ask.isAbout "c1" e.request = true := by decide +kernel
  generalize played : (handleAll alerts).play Surroundings.sample.answer .twofold = whole
    at two one gone home about
  obtain ⟨log, ended, held⟩ := whole
  obtain ⟨run, follows⟩ : _ ∧ Surroundings.sample.Follows Call.Lifting .twofold log held :=
    Surroundings.run_played played
  obtain ⟨taken, along⟩ := Store.along_of_after (fun _ => .twofold) about
    (Surroundings.after_of_follows home follows) 0
  obtain ⟨took, _, agrees⟩ := removals_agree_iff run along .zero
  rw [show deleted log = 2 from two] at took
  have here (s : Ledger) : Function.update (fun _ => Ledger.twofold) "c1" s "c1" = s :=
    Function.update_self ..
  refine ⟨log, ended, _, _, run, along, congrArg Ledger.restrictions (here _),
    (congrArg Ledger.restrictions (here _)).trans gone, took, one, ?_⟩
  rw [← agrees, took, show (Tally.zero.after log).restrictionsRemoved = 1 from one]
  decide

end OnCall
