import OnCall.Proofs.Stores
import OnCall.Proofs.Traces

/-!
# The exchanges of a lifting

* `Settings.Flaps`: a restriction is flapping, by what the history says.
* `Restriction.Lifted`: **the exchanges of a lifting**, one case for each way it can end; what
  follows does not look at the program again.
* `Restriction.Screened`: what stands before a deletion: the history, then the list, both as they
  have to be.
* `Log.Smooth`: no call failed. Then a lifting is a sweep (`Restriction.sweep`), which takes
  everything for its reason or nothing (`Ledger.after_sweep`).
-/

namespace OnCall

open Restriction (Change)

/-- The number of recent changes of a restriction, by what the history says. -/
def Settings.recentChanges (s : Settings) (summary : String) (now : Instant)
    (history : List AdvisoryEntry) : Nat :=
  history.countP (s.countsAsChange summary (now.back s.flappingWindow))

/-- A restriction is flapping, by what the history says. -/
def Settings.Flaps (s : Settings) (summary : String) (now : Instant)
    (history : List AdvisoryEntry) : Prop :=
  s.flappingThreshold ≤ s.recentChanges summary now history

instance (s : Settings) (summary : String) (now : Instant) (history : List AdvisoryEntry) :
    Decidable (s.Flaps summary now history) :=
  inferInstanceAs (Decidable (_ ≤ _))

/-! ## 1. The exchanges of a lifting -/

/-- The call for the recent changes of restrictions on a cluster. -/
def Call.history (s : Settings) (cluster : Cluster) (now : Instant) : Call :=
  .manager (.advisories cluster
    ⟨some AdvisoryEntry.restrictionChange, some (now.back s.flappingWindow)⟩)

/-- The call for the restrictions on a cluster. -/
def Call.listed (cluster : Cluster) : Call := .manager (.restrictions cluster.id)

/-- The call that deletes a restriction. -/
def Call.deletion (clusterId id : String) : Call := .manager (.deleteRestriction clusterId id)

/-- The request deletes one of these restrictions, or waits. -/
def Ask.Removing (clusterId : String) (ids : List String) : Ask → Prop
  | .call (.manager (.deleteRestriction clusterId' id)) => clusterId' = clusterId ∧ id ∈ ids
  | .pause _ => True
  | _ => False

namespace Restriction

/-- **The exchanges of a lifting.** The history cannot be read; or the restriction is flapping; or
the list cannot be read; or none is set for the reason; or those that are set are deleted. -/
inductive Lifted (s : Settings) (cluster : Cluster) (r : Restriction) (now : Instant) :
    Log → Except Failure Lifting → Prop where
  | unread (f : Failure) :
    Lifted s cluster r now [(Call.history s cluster now).exchange (.error f)] (.error f)
  | flapping {history : List AdvisoryEntry} (flaps : s.Flaps r.summary now history) :
    Lifted s cluster r now [(Call.history s cluster now).exchange (.ok history)]
      (.ok (.flapping (s.recentChanges r.summary now history)))
  | unlisted {history : List AdvisoryEntry} (steady : ¬ s.Flaps r.summary now history)
      (f : Failure) :
    Lifted s cluster r now
      [(Call.history s cluster now).exchange (.ok history),
        (Call.listed cluster).exchange (.error f)]
      (.error f)
  | absent {history : List AdvisoryEntry} {listed : List Restriction}
      (steady : ¬ s.Flaps r.summary now history) (unset : r.idsFor listed = []) :
    Lifted s cluster r now
      [(Call.history s cluster now).exchange (.ok history),
        (Call.listed cluster).exchange (.ok listed)]
      (.ok .notFound)
  | deleting {history : List AdvisoryEntry} {listed : List Restriction} {deletions : Log}
      {result : Except Failure Unit} (steady : ¬ s.Flaps r.summary now history)
      (set : r.idsFor listed ≠ [])
      (deleted : Fallible.Gives (deleteAll s.retry cluster.id (r.idsFor listed)) deletions result) :
    Lifted s cluster r now
      ((Call.history s cluster now).exchange (.ok history) ::
        (Call.listed cluster).exchange (.ok listed) :: deletions)
      (result.map fun _ => .removed (r.idsFor listed).length)

variable {s : Settings} {cluster : Cluster} {r : Restriction} {now : Instant} {log : Log}

theorem lifted_of_lift {result : Except Failure Lifting}
    (h : Fallible.Gives (lift s cluster r now) log result) : Lifted s cluster r now log result := by
  rw [Surroundings.lift_eq] at h
  rcases Fallible.gives_bind.mp h with ⟨l₁, changes, l₂, rfl, counted, h⟩ | ⟨f, rfl, counted⟩
  · obtain ⟨l₃, history, l₄, rfl, read, same⟩ := Fallible.gives_bind_ok.mp counted
    obtain ⟨rfl, same⟩ := Fallible.gives_pure.mp same
    cases same
    rw [Fallible.gives_call.mp read]
    split at h
    · rename_i flaps
      obtain ⟨rfl, rfl⟩ := Fallible.gives_pure.mp h
      exact .flapping flaps
    · rename_i steady
      rcases Fallible.gives_bind.mp h with ⟨l₅, listed, l₆, rfl, asked, h⟩ | ⟨f, rfl, asked⟩
      · rw [Fallible.gives_call.mp asked]
        dsimp only at h
        split at h
        · rename_i unset
          obtain ⟨rfl, rfl⟩ := Fallible.gives_pure.mp h
          exact .absent steady (List.isEmpty_iff.mp unset)
        · rename_i set
          have some' : r.idsFor listed ≠ [] := fun unset => set (List.isEmpty_iff.mpr unset)
          rcases Fallible.gives_bind.mp h with ⟨l₇, _, l₈, rfl, deleted, h⟩ | ⟨f, rfl, deleted⟩
          · obtain ⟨rfl, rfl⟩ := Fallible.gives_pure.mp h
            rw [List.append_nil l₇]
            exact .deleting steady some' deleted
          · exact .deleting steady some' deleted
      · rw [Fallible.gives_call.mp asked]
        exact .unlisted steady f
  · rcases Fallible.gives_bind.mp counted with ⟨_, _, _, _, _, wrong⟩ | ⟨f', same, read⟩
    · cases (Fallible.gives_pure.mp wrong).2
    · cases same
      rw [Fallible.gives_call.mp read]
      exact .unread f

end Restriction

/-! ## 2. What stands before a deletion -/

/-- What holds of every deletion, by what stands before it. -/
def AtDeletion (G : Log → String → String → Prop) (before : Log) (e : Exchange collaboration)
    (_ : Log) : Prop :=
  ∀ clusterId id reply, e = (Call.deletion clusterId id).exchange reply → G before clusterId id

namespace AtDeletion

variable {G : Log → String → String → Prop} {before behind : Log} {e : Exchange collaboration}

theorem isLocal
    (h : ∀ before clusterId id earlier,
      G before clusterId id → G (earlier ++ before) clusterId id) :
    Log.Local (AtDeletion G) :=
  fun before _ _ earlier _ at' clusterId id reply same =>
    h before clusterId id earlier (at' clusterId id reply same)

/-- Other requests are no deletions. -/
theorem of_keeping (h : Ask.Keeping e.request) : AtDeletion G before e behind := by
  rintro clusterId id reply rfl
  exact h.elim

theorem everywhere {log : Log} (h : ∀ e ∈ log, Ask.Keeping e.request) :
    Log.Everywhere (AtDeletion G) log :=
  Log.everywhere_of_forall fun e he _ _ => of_keeping (h e he)

theorem places {α : Type} {x : Inquiry α} (h : x.Only Ask.Keeping) : x.Places (AtDeletion G) :=
  Inquiry.places_of_only h fun _ keeping _ _ => of_keeping keeping

end AtDeletion

namespace Restriction

/-- **What stands before a deletion** by a lifting: the history, by which the restriction is not
flapping, and then a list that has the id for exactly this reason. After the list there are only
deletions of what it has for the reason. -/
inductive Screened (s : Settings) (cluster : Cluster) (r : Restriction) (now : Instant)
    (before : Log) (clusterId id : String) : Prop where
  | intro {earlier between : Log} {history : List AdvisoryEntry} {listed : List Restriction}
      {entry : Restriction} (own : clusterId = cluster.id)
      (parts : before = earlier ++ (Call.history s cluster now).exchange (.ok history) ::
        (Call.listed cluster).exchange (.ok listed) :: between)
      (steady : ¬ s.Flaps r.summary now history) (mem : entry ∈ listed)
      (reason : entry.summary = r.summary ∧ entry.details = r.details) (named : entry.id = some id)
      (since : ∀ e ∈ between, Ask.Removing cluster.id (r.idsFor listed) e.request)

variable {s : Settings} {cluster : Cluster} {r : Restriction} {now : Instant} {log : Log}

theorem Screened.append_left {before : Log} {clusterId id : String}
    (h : Screened s cluster r now before clusterId id) (earlier : Log) :
    Screened s cluster r now (earlier ++ before) clusterId id := by
  obtain ⟨own, rfl, steady, mem, reason, named, since⟩ := h
  exact .intro own (List.append_assoc ..).symm steady mem reason named since

theorem Lifted.screened {result : Except Failure Lifting} (h : Lifted s cluster r now log result) :
    Log.Everywhere (AtDeletion (Screened s cluster r now)) log := by
  cases h with
  | unread => exact Log.everywhere_singleton.mpr nofun
  | flapping => exact Log.everywhere_singleton.mpr nofun
  | unlisted => exact Log.everywhere_cons.mpr ⟨nofun, Log.everywhere_singleton.mpr nofun⟩
  | absent => exact Log.everywhere_cons.mpr ⟨nofun, Log.everywhere_singleton.mpr nofun⟩
  | @deleting history listed deletions result steady set deleted =>
    have removing : Fallible.Only (Ask.Removing cluster.id (r.idsFor listed))
        (deleteAll s.retry cluster.id (r.idsFor listed)) :=
      only_deleteAll (fun _ => trivial) fun _ mem => ⟨rfl, mem⟩
    have all := removing.of_run deleted
    refine Log.everywhere_cons.mpr ⟨nofun, Log.everywhere_cons.mpr ⟨nofun, ?_⟩⟩
    rintro before e behind rfl clusterId id reply rfl
    obtain ⟨own, mem⟩ := all _ (List.mem_append_right _ (List.mem_cons_self ..))
    obtain ⟨entry, there, reason, named⟩ := mem_idsFor.mp mem
    exact .intro own (List.nil_append _).symm steady there (hasReasonOf_iff.mp reason) named
      fun e he => all e (List.mem_append_left _ he)

end Restriction

/-! ## 3. Sweeps -/

/-- A call failed. -/
def Exchange.isRefused : Exchange collaboration → Bool
  | ⟨Ask.call _, .error _⟩ => true
  | _ => false

/-- No call failed. -/
def Log.Smooth (log : Log) : Prop := ∀ e ∈ log, e.isRefused = false

instance (log : Log) : Decidable log.Smooth := inferInstanceAs (Decidable (∀ e ∈ log, _))

namespace Log.Smooth

variable {log first second : Log}

theorem left (h : Log.Smooth (first ++ second)) : Log.Smooth first :=
  fun e mem => h e (List.mem_append_left _ mem)

theorem right (h : Log.Smooth (first ++ second)) : Log.Smooth second :=
  fun e mem => h e (List.mem_append_right _ mem)

theorem tail {e : Exchange collaboration} (h : Log.Smooth (e :: log)) : Log.Smooth log :=
  fun e' mem => h e' (List.mem_cons_of_mem _ mem)

theorem not_mem (h : log.Smooth) (c : Call) (f : Failure) : c.exchange (.error f) ∉ log :=
  fun mem => nomatch h _ mem

end Log.Smooth

/-- A retried call that does not fail is made once. -/
theorem Fallible.retried_smooth {policy : RetryPolicy} {c : Call} {log : Log}
    {r : Except Failure c.Answer} (h : Fallible.Gives (Work.retried policy (Work.call c)) log r)
    (smooth : Log.Smooth log) : ∃ v, r = .ok v ∧ log = [c.exchange (.ok v)] := by
  obtain ⟨n, earlier, last, _, rfl, tries, final, _⟩ := Fallible.gives_retried h
  cases tries with
  | none =>
    rw [Fallible.gives_call.mp final] at smooth ⊢
    cases r with
    | error f => exact absurd (List.mem_singleton_self _) (smooth.not_mem c f)
    | ok v => exact ⟨v, rfl, rfl⟩
  | more failed =>
    rw [Fallible.gives_call.mp failed] at smooth
    exact absurd (List.mem_cons_self ..) (smooth.not_mem c _)

namespace Restriction

/-- The exchanges in which these restrictions are deleted. -/
def deletions (clusterId : String) (ids : List String) : Log :=
  ids.map fun id => (Call.deletion clusterId id).exchange (.ok ())

theorem deleteAll_smooth {policy : RetryPolicy} {clusterId : String} {ids : List String} {log : Log}
    {r : Except Failure Unit} (h : Fallible.Gives (deleteAll policy clusterId ids) log r)
    (smooth : Log.Smooth log) : r = .ok () ∧ log = deletions clusterId ids := by
  induction ids generalizing log with
  | nil =>
    obtain ⟨rfl, rfl⟩ := Fallible.gives_pure.mp h
    exact ⟨rfl, rfl⟩
  | cons id ids ih =>
    rcases Fallible.gives_bind.mp h with ⟨first, _, second, rfl, h₁, h₂⟩ | ⟨f, rfl, h₁⟩
    · obtain ⟨_, _, rfl⟩ := Fallible.retried_smooth h₁ smooth.left
      obtain ⟨rfl, rfl⟩ := ih h₂ smooth.right
      exact ⟨rfl, rfl⟩
    · obtain ⟨_, wrong, _⟩ := Fallible.retried_smooth h₁ smooth
      cases wrong

/-- **The exchanges of a lifting without a failure**, given the history and the list: a flapping
restriction is left alone, and otherwise everything for the reason is deleted. -/
def sweep (s : Settings) (cluster : Cluster) (r : Restriction) (now : Instant)
    (history : List AdvisoryEntry) (listed : List Restriction) : Log :=
  (Call.history s cluster now).exchange (.ok history) ::
    if s.Flaps r.summary now history then []
    else (Call.listed cluster).exchange (.ok listed) :: deletions cluster.id (r.idsFor listed)

/-- What comes of it. -/
def swept (s : Settings) (r : Restriction) (now : Instant) (history : List AdvisoryEntry)
    (listed : List Restriction) : Lifting :=
  if s.Flaps r.summary now history then .flapping (s.recentChanges r.summary now history)
  else if r.idsFor listed = [] then .notFound else .removed (r.idsFor listed).length

variable {s : Settings} {cluster : Cluster} {r : Restriction} {now : Instant} {log : Log}

theorem Lifted.eq_sweep {result : Except Failure Lifting} (h : Lifted s cluster r now log result)
    (smooth : Log.Smooth log) : ∃ history listed, log = sweep s cluster r now history listed ∧
      result = .ok (swept s r now history listed) := by
  cases h with
  | unread f => exact absurd (List.mem_singleton_self _) (smooth.not_mem _ f)
  | @flapping history flaps =>
    refine ⟨history, [], ?_, ?_⟩
    · rw [sweep, if_pos flaps]
    · rw [swept, if_pos flaps]
  | unlisted steady f =>
    exact absurd (List.mem_cons_of_mem _ (List.mem_singleton_self _)) (smooth.not_mem _ f)
  | @absent history listed steady unset =>
    refine ⟨history, listed, ?_, ?_⟩
    · rw [sweep, if_neg steady, unset]
      rfl
    · rw [swept, if_neg steady, if_pos unset]
  | @deleting history listed _ _ steady set deleted =>
    obtain ⟨rfl, rfl⟩ := deleteAll_smooth deleted smooth.tail.tail
    refine ⟨history, listed, ?_, ?_⟩
    · rw [sweep, if_neg steady]
    · rw [swept, if_neg steady, if_neg set]
      rfl

end Restriction

namespace Ledger

variable {s t : Ledger} {cluster : Cluster} {settings : Settings} {now : Instant}

theorem after_deletions {clusterId : String} {ids : List String}
    (after : s.After clusterId (Restriction.deletions clusterId ids) t) :
    t.restrictions = s.restrictions.filter fun e => decide (∀ id ∈ ids, e.id ≠ some id) := by
  induction ids generalizing s with
  | nil =>
    rw [show t = s from after]
    exact (Restriction.filter_ids_nil _).symm
  | cons id ids ih =>
    obtain ⟨next, step, rest⟩ := after
    have deleted : Fallible.Gives (Work.deleteRestriction clusterId id)
        [(Call.deletion clusterId id).exchange (.ok ())] (.ok ()) := Fallible.gives_call.mpr rfl
    rcases delete_spec deleted (after_singleton.mpr step) with ⟨_, gone⟩ | ⟨⟨_, wrong⟩, _⟩
    · rw [ih rest, gone]
      exact Restriction.filter_ids_cons id ids _
    · cases wrong

/-- **What a sweep leaves**: all if the restriction is flapping, else nothing for its reason. -/
theorem after_sweep {x : Change} {history : List AdvisoryEntry} {listed : List Restriction}
    (after : s.After cluster.id
      (x.restriction.sweep settings cluster now history listed) t) :
    t.restrictions = s.restrictions.filter fun r =>
      !(x.owns r && !decide (settings.Flaps x.summary now history)) := by
  obtain ⟨s₁, step, after⟩ := after
  have read : s₁.restrictions = s.restrictions :=
    step_leaving (e := (Call.history settings cluster now).exchange (.ok history)) trivial step
  rw [← read]
  by_cases flaps : settings.Flaps x.summary now history
  · rw [if_pos (show settings.Flaps x.restriction.summary now history from flaps)] at after
    rw [show t = s₁ from after, decide_eq_true flaps]
    exact (List.filter_eq_self.mpr fun r _ => by rw [Bool.not_true, Bool.and_false]; rfl).symm
  · rw [if_neg (show ¬ settings.Flaps x.restriction.summary now history from flaps)] at after
    -- the list is what is set, and nothing else has an id that it has for the reason
    obtain ⟨s₂, ⟨truthful, same⟩, after⟩ := after
    rw [truthful rfl] at after
    rw [after_deletions after, same]
    refine List.filter_congr fun e he => ?_
    rw [decide_eq_false flaps, Bool.not_false, Bool.and_true, Bool.eq_iff_iff, decide_eq_true_iff,
      Bool.not_eq_true', Bool.eq_false_iff, Ne, owns_iff he]
    constructor
    · exact fun kept ⟨id, hid, has⟩ => kept id hid has
    · exact fun kept id hid has => kept ⟨id, hid, has⟩

end Ledger

end OnCall
