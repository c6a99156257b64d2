import OnCall.Proofs.Retries

/-!
# What cluster management holds

* `Restriction.Step`: how the restrictions on a cluster go on with an exchange, where cluster
  management answers truthfully and a failed call has no effect.
* `Restriction.After`: the same along the exchanges of a run.
* `SideAction.holds_of_apply`: **once a restriction has been set, it is held.**
-/

namespace OnCall

namespace Restriction

/-- The restrictions on a cluster before and after an exchange. They are listed as they are, a
posted one is given an id, and a call that failed has changed nothing. -/
def Step (clusterId : String) (held : List Restriction) :
    Exchange collaboration → List Restriction → Prop
  | ⟨Ask.call (.manager (.restrictions id)), .ok listed⟩, held' =>
    (id = clusterId → listed = held) ∧ held' = held
  | ⟨Ask.call (.manager (.postRestriction id r)), .ok _⟩, held' =>
    (id = clusterId → ∃ given, held' = held ++ [{ r with id := some given }]) ∧
      (id ≠ clusterId → held' = held)
  | ⟨Ask.call (.manager (.deleteRestriction id restrictionId)), .ok _⟩, held' =>
    (id = clusterId → held' = held.eraseP fun r => r.id = some restrictionId) ∧
      (id ≠ clusterId → held' = held)
  | _, held' => held' = held

/-- A call that failed has changed nothing. -/
theorem step_failed (clusterId : String) (c : Call) (f : Failure) (held : List Restriction) :
    Step clusterId held (c.exchange (.error f)) held := by
  cases c with
  | manager call => cases call <;> rfl
  | _ => rfl

/-- The restrictions on a cluster before and after some exchanges. -/
def After (clusterId : String) (held : List Restriction) : Log → List Restriction → Prop
  | [], held' => held' = held
  | e :: log, held' => ∃ next, Step clusterId held e next ∧ After clusterId next log held'

/-- A restriction is held for the same reason. -/
def Held (r : Restriction) (held : List Restriction) : Prop := ∃ e ∈ held, e.hasReasonOf r = true

section

variable {clusterId : String} {held held' : List Restriction} {log : Log} {r : Restriction}

theorem after_append {first second : Log} :
    After clusterId held (first ++ second) held' ↔
      ∃ next, After clusterId held first next ∧ After clusterId next second held' := by
  induction first generalizing held with
  | nil =>
    constructor
    · exact fun h => ⟨held, rfl, h⟩
    · intro ⟨next, same, h⟩
      rw [← same]
      exact h
  | cons e first ih =>
    constructor
    · intro ⟨next, step, rest⟩
      obtain ⟨mid, before, behind⟩ := ih.mp rest
      exact ⟨mid, ⟨next, step, before⟩, behind⟩
    · intro ⟨mid, ⟨next, step, before⟩, behind⟩
      exact ⟨next, step, ih.mpr ⟨mid, before, behind⟩⟩

/-- Setting a restriction: it was listed, or it is posted now. -/
theorem held_of_ensure {posted : Bool} (h : Fallible.Gives (ensure clusterId r) log (.ok posted))
    (kept : After clusterId held log held') : r.Held held' := by
  obtain ⟨first, existing, second, rfl, listed, h⟩ := Fallible.gives_bind_ok.mp h
  rw [Fallible.gives_call.mp listed] at kept
  obtain ⟨next, ⟨truthful, same⟩, kept⟩ := kept
  rw [same, ← truthful rfl] at kept
  split at h
  · rename_i found
    obtain ⟨rfl, _⟩ := Fallible.gives_pure.mp h
    rw [show held' = existing from kept]
    exact List.any_eq_true.mp found
  · obtain ⟨third, _, fourth, rfl, sent, h⟩ := Fallible.gives_bind_ok.mp h
    obtain ⟨rfl, _⟩ := Fallible.gives_pure.mp h
    rw [Fallible.gives_call.mp sent] at kept
    obtain ⟨last, ⟨added, _⟩, same⟩ := kept
    obtain ⟨given, grown⟩ := added rfl
    rw [show held' = last from same, grown]
    exact ⟨_, List.mem_append_right _ (List.mem_singleton_self _), hasReasonOf_iff.mpr ⟨rfl, rfl⟩⟩

end

end Restriction

/-- **Once a restriction has been set, it is held**, whether it was found or posted, and however
often the setting had to be tried. -/
theorem SideAction.held_of_apply {site : Site} {change : Restriction.Change} {log : Log}
    (h : Fallible.Gives ((Action.side (.restrict change)).apply site) log (.ok ())) :
    ∃ cluster, site.cluster = some cluster ∧ ∀ held held',
      Restriction.After cluster.id held log held' → change.restriction.Held held' := by
  obtain ⟨first, cluster, second, rfl, needed, h⟩ := Fallible.gives_bind_ok.mp h
  have known : site.cluster = some cluster ∧ first = [] := by
    unfold Site.needCluster at needed
    split at needed
    · rename_i cluster' there
      obtain ⟨rfl, same⟩ := Fallible.gives_pure.mp needed
      cases same
      exact ⟨there, rfl⟩
    · obtain ⟨_, wrong⟩ := Fallible.gives_throw.mp needed
      cases wrong
  refine ⟨cluster, known.1, fun held held' kept => ?_⟩
  rw [known.2, List.nil_append] at kept
  obtain ⟨third, posted, fourth, rfl, set, counted⟩ := Fallible.gives_bind_ok.mp h
  obtain ⟨_, earlier, last, _, rfl, _, final, _⟩ := Fallible.gives_retried set
  obtain ⟨mid, setting, rest⟩ := Restriction.after_append.mp kept
  obtain ⟨_, _, tried⟩ := Restriction.after_append.mp setting
  have there := Restriction.held_of_ensure final tried
  suffices same : held' = mid from same ▸ there
  split at counted
  · obtain ⟨_, run, _⟩ := Fallible.gives_liftM.mp counted
    rw [Program.run_request.mp run] at rest
    obtain ⟨next, step, same⟩ := rest
    exact same.trans step
  · obtain ⟨rfl, _⟩ := Fallible.gives_pure.mp counted
    exact rest

end OnCall
