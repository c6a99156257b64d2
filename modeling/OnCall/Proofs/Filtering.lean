import OnCall.Proofs.Liftings
import OnCall.Proofs.RateLimit

/-!
# A history that is filtered or not

Together with a look at the history goes a filter. What is listed is looked at once more, and by every
part of the filter: so it does not matter whether cluster management minds it, and in which order it
lists.

* `AdvisoryFilter.Trims`: a list that lacks nothing but what the filter leaves out.
* `Settings.recentChanges_of_trims`: **the number of recent changes is the same by each such list**.
* `telling`: surroundings in which the history is listed as given.
* `lift_of_trims`: **so is everything that a lifting does**.
-/

namespace OnCall

/-! ## 1. Lists of the history -/

/-- A look at the history for the recent changes of restrictions, and the list it is answered with. -/
def Settings.told (s : Settings) (cluster : Cluster) (now : Instant) (listed : List AdvisoryEntry) :
    Exchange collaboration :=
  (Call.manager (.advisories cluster (s.changeFilter now))).exchange (.ok listed)

/-- **What may be listed of a history under a filter**: all of it in any order, but for entries that
the filter does not admit. -/
def AdvisoryFilter.Trims (f : AdvisoryFilter) (history listed : List AdvisoryEntry) : Prop :=
  ∃ dropped, history.Perm (listed ++ dropped) ∧ ∀ e ∈ dropped, f.admits e = false

/-- A part of the history in which all is that the filter admits. -/
theorem AdvisoryFilter.trims_of_subperm {f : AdvisoryFilter} {history listed : List AdvisoryEntry}
    (all : (history.filter f.admits).Subperm listed) (part : listed.Subperm history) :
    f.Trims history listed := by
  obtain ⟨kept, same, sub⟩ := part
  obtain ⟨dropped, perm⟩ := sub.exists_perm_append
  have perm : history.Perm (listed ++ dropped) := perm.trans (same.append_right dropped)
  have enough : history.countP f.admits ≤ listed.countP f.admits := by
    have fewer := all.countP_le f.admits
    simpa only [List.countP_filter, Bool.and_self] using fewer
  rw [perm.countP_eq, List.countP_append] at enough
  have uncounted : dropped.countP f.admits = 0 := by omega
  exact ⟨dropped, perm, fun e mem => Bool.eq_false_iff.mpr (List.countP_eq_zero.mp uncounted e mem)⟩

/-- The list of just what the filter admits. -/
theorem AdvisoryFilter.trims_filter (f : AdvisoryFilter) (history : List AdvisoryEntry) :
    f.Trims history (history.filter f.admits) :=
  trims_of_subperm (.refl _) List.filter_sublist.subperm

/-- **The number of recent changes** is the same by the whole history and by each list of it. -/
theorem Settings.recentChanges_of_trims {s : Settings} {now : Instant}
    {history listed : List AdvisoryEntry} (trims : (s.changeFilter now).Trims history listed)
    (summary : String) :
    s.recentChanges summary now listed = s.recentChanges summary now history := by
  obtain ⟨dropped, perm, out⟩ := trims
  have uncounted : s.recentChanges summary now dropped = 0 := by
    refine List.countP_eq_zero.mpr fun e mem counts => ?_
    have admitted := admits_of_counts counts
    rw [out e mem] at admitted
    cases admitted
  have whole : s.recentChanges summary now history =
      s.recentChanges summary now listed + s.recentChanges summary now dropped := by
    rw [recentChanges, perm.countP_eq, List.countP_append]
    rfl
  rw [whole, uncounted, Nat.add_zero]

/-! ## 2. The same surroundings with another list -/

/-- The surroundings list the history as given, and are otherwise as they are. -/
def telling {σ : Type} (answer : (q : collaboration.Request) → σ → collaboration.Reply q × σ)
    (listed : List AdvisoryEntry) : (q : collaboration.Request) → σ → collaboration.Reply q × σ
  | Ask.call (.manager (.advisories cluster filter)), s =>
    (.ok listed, (answer (Ask.call (.manager (.advisories cluster filter))) s).2)
  | q, s => answer q s

/-- A request that does not look at the history. -/
def Ask.Blind : Ask → Prop
  | .call (.manager (.advisories _ _)) => False
  | _ => True

section Telling

variable {σ α : Type} {answer : (q : collaboration.Request) → σ → collaboration.Reply q × σ}
  {history listed : List AdvisoryEntry} {settings : Settings} {cluster : Cluster}
  {r : Restriction} {now : Instant}

theorem telling_of_blind {q : Ask} (blind : q.Blind) (s : σ) :
    telling answer listed q s = answer q s := by
  cases q with
  | call c =>
    cases c with
    | manager call => cases call <;> first | exact blind.elim | rfl
    | _ => rfl
  | _ => rfl

/-- What does not look at the history goes on as it is. -/
theorem play_telling {p : Work α} (blind : Program.Only (I := collaboration) Ask.Blind p) (s : σ) :
    p.play (telling answer listed) s = p.play answer s := by
  induction p generalizing s with
  | done a => rfl
  | ask q next ih =>
    rw [Program.play, Program.play, telling_of_blind blind.1]
    simp only [ih _ (blind.2 _)]

/-- What is done once the recent changes are known. -/
def settle (settings : Settings) (cluster : Cluster) (r : Restriction) (changes : Nat) :
    Fallible Lifting :=
  if settings.flappingThreshold ≤ changes then return .flapping changes
  else Surroundings.deleteListed settings cluster r

/-- The history is looked at only once. -/
theorem blind_settle (changes : Nat) : Fallible.Only Ask.Blind (settle settings cluster r changes) := by
  unfold settle
  split
  · exact Fallible.only_pure _
  · unfold Surroundings.deleteListed
    refine Fallible.only_bind (Fallible.only_call trivial) fun listed => ?_
    dsimp only
    split
    · exact Fallible.only_pure _
    · have deletes : Fallible.Only Ask.Blind
          (Restriction.deleteAll settings.retry cluster.id (r.idsFor listed)) :=
        Restriction.only_deleteAll (fun _ => trivial) fun _ _ => trivial
      exact Fallible.only_bind deletes fun _ => Fallible.only_pure _

theorem play_changesWithin_telling (summary : String) (s : σ) :
    (changesWithin settings cluster summary now).run.play (telling answer listed) s =
      ([settings.told cluster now listed], .ok (settings.recentChanges summary now listed),
        (answer (Ask.call (Call.history settings cluster now)) s).2) := rfl

/-- The list of the history is turned into a number, and then it is gone. -/
theorem play_lift_telling (s : σ) :
    (Restriction.lift settings cluster r now).run.play (telling answer listed) s =
      let later := (answer (Ask.call (Call.history settings cluster now)) s).2
      let changes := settings.recentChanges r.summary now listed
      let ended := (settle settings cluster r changes).run.play answer later
      (settings.told cluster now listed :: ended.1, ended.2) := by
  have first : (Restriction.lift settings cluster r now).run.play (telling answer listed) s =
      let later := (answer (Ask.call (Call.history settings cluster now)) s).2
      let changes := settings.recentChanges r.summary now listed
      let ended := (settle settings cluster r changes).run.play (telling answer listed) later
      (settings.told cluster now listed :: ended.1, ended.2) := by
    rw [Surroundings.lift_eq]
    rfl
  rw [first]
  simp only [play_telling (blind_settle _)]

/-- **It does not matter what the list has besides, nor in which order**: with the whole history and
with a list of it the same number of recent changes is found, and a lifting makes the same calls,
gets the same replies, comes to the same and leaves the same behind. -/
theorem lift_of_trims (trims : (settings.changeFilter now).Trims history listed)
    (answer : (q : collaboration.Request) → σ → collaboration.Reply q × σ) (s : σ)
    (cluster : Cluster) :
    (∀ summary, ∃ changes t,
      (changesWithin settings cluster summary now).run.play (telling answer history) s =
        ([settings.told cluster now history], .ok changes, t) ∧
      (changesWithin settings cluster summary now).run.play (telling answer listed) s =
        ([settings.told cluster now listed], .ok changes, t)) ∧
    ∀ r, ∃ others result t,
      (Restriction.lift settings cluster r now).run.play (telling answer history) s =
        (settings.told cluster now history :: others, result, t) ∧
      (Restriction.lift settings cluster r now).run.play (telling answer listed) s =
        (settings.told cluster now listed :: others, result, t) := by
  have same := Settings.recentChanges_of_trims trims
  constructor
  · intro summary
    refine ⟨_, _, play_changesWithin_telling summary s, ?_⟩
    rw [play_changesWithin_telling, same]
  · intro r
    refine ⟨_, _, _, play_lift_telling s, ?_⟩
    rw [play_lift_telling, same]

end Telling

/-! ### A history with entries of all kinds -/

/-- A change that was made right when the window begins, one that was made before, one that was made
just now, and an entry of another type. -/
def sampleHistory : List AdvisoryEntry :=
  let change := Surroundings.sample.entry [] Unreachable.stoppedRestriction.restriction
  [change, { change with timestamp := .earliest }, { change with timestamp := .secondDay },
    { change with logType := "customer" }]

/-- What is listed of it, the last entry first. -/
def sampleListed : List AdvisoryEntry :=
  (sampleHistory.filter (Settings.standard.changeFilter .secondDay).admits).reverse

/-- The lifting of a restriction on the second day, with a list of the history. -/
def sampleLiftingBy (listed : List AdvisoryEntry) : Log × Except Failure Lifting × Ledger :=
  (Restriction.lift .standard Restriction.sampleCluster
    Unreachable.stoppedRestriction.restriction .secondDay).run.play
    (telling Surroundings.sample.answer listed) .sample

/-- Two changes count by either list, so the restriction is flapping. -/
theorem lift_of_trims_flapping :
    (Settings.standard.changeFilter .secondDay).Trims sampleHistory sampleListed ∧
      sampleHistory.length = 4 ∧ sampleListed.length = 2 ∧
      ∃ others result t,
        sampleLiftingBy sampleHistory =
          (Settings.standard.told Restriction.sampleCluster .secondDay sampleHistory :: others,
            result, t) ∧
        sampleLiftingBy sampleListed =
          (Settings.standard.told Restriction.sampleCluster .secondDay sampleListed :: others,
            result, t) ∧
        result.toOption = some (.flapping 2) := by
  have trims : (Settings.standard.changeFilter .secondDay).Trims sampleHistory sampleListed := by
    obtain ⟨dropped, perm, out⟩ := AdvisoryFilter.trims_filter
      (Settings.standard.changeFilter .secondDay) sampleHistory
    exact ⟨dropped, perm.trans ((List.reverse_perm _).symm.append_right dropped), out⟩
  have flapping : (sampleLiftingBy sampleHistory).2.1.toOption = some (.flapping 2) := by
    decide +kernel
  obtain ⟨_, lifted⟩ := lift_of_trims trims Surroundings.sample.answer Ledger.sample
    Restriction.sampleCluster
  obtain ⟨others, result, t, whole, part⟩ := lifted Unreachable.stoppedRestriction.restriction
  have ended : sampleLiftingBy sampleHistory = _ := whole
  rw [ended] at flapping
  exact ⟨trims, by decide +kernel, by decide +kernel, others, result, t, whole, part, flapping⟩

end OnCall
