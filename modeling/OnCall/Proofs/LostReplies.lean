import OnCall.Proofs.Stores
import OnCall.Proofs.Traces

/-!
# Setting a restriction when replies get lost

A call that is reported as failed may have had its effect all the same. Setting a restriction lists
before it posts, in every try anew, so a repetition finds what a lost reply kept quiet about.

* `Restriction.LossyStep`: how the restrictions on a cluster go on with an exchange, where a reply
  may have got lost after the call had its effect.
* `Restriction.Checked`: a posting directly after a list that has nothing for its reason.
* `Restriction.Once`: one more is set at most, and none where one was set.
* `Restriction.once_retried_ensure`: **setting a restriction is idempotent**, also when replies get
  lost.
-/

namespace OnCall.Restriction

/-! ## 1. Replies that get lost -/

/-- The restrictions on a cluster before and after an exchange: what the reply tells is so, or the
call is reported as failed and had its effect. -/
def LossyStep (clusterId : String) (held : List Restriction) (e : Exchange collaboration)
    (held' : List Restriction) : Prop :=
  Step clusterId held e held' ∨ ∃ (c : Call) (answer : c.Answer) (f : Failure),
    e = c.exchange (.error f) ∧ Step clusterId held (c.exchange (.ok answer)) held'

variable {clusterId : String} {held held' : List Restriction} {r : Restriction} {log : Log}

/-- A request that leaves the restrictions as they are does so also if its reply gets lost. -/
theorem lossy_leaving {e : Exchange collaboration} (h : LossyStep clusterId held e held')
    (leaving : Ask.Leaving clusterId e.request) : held' = held := by
  rcases h with h | ⟨c, answer, f, rfl, h⟩
  · exact step_leaving leaving h
  · exact step_leaving (e := c.exchange (.ok answer)) leaving h

theorem along_leaving (leaving : ∀ e ∈ log, Ask.Leaving clusterId e.request)
    (along : Along (LossyStep clusterId) held log held') : held' = held :=
  along.eq_of_still fun e he _ _ step => lossy_leaving step (leaving e he)

/-- A list tells what is held, if it comes. -/
theorem lossy_listed {listed : List Restriction}
    (h : LossyStep clusterId held
      (Call.exchange (.manager (.restrictions clusterId)) (.ok listed)) held') : listed = held := by
  rcases h with h | ⟨c, answer, f, same, h⟩
  · exact h.1 rfl
  · cases same

/-- A posting adds the restriction, unless it failed; and it may add it though it failed. -/
theorem lossy_post {reply : Except Failure Unit}
    (h : LossyStep clusterId held (Call.exchange (.manager (.postRestriction clusterId r)) reply)
      held') :
    (∃ given, held' = held ++ [{ r with id := some given }]) ∨
      held' = held ∧ ∃ f, reply = .error f := by
  rcases h with h | ⟨c, answer, f, same, h⟩
  · cases reply with
    | ok _ => exact .inl (h.1 rfl)
    | error f => exact .inr ⟨h, f, rfl⟩
  · cases same
    exact .inl (h.1 rfl)

/-! ## 2. One try -/

/-- **A try to set a restriction.** The list is refused; or it has a restriction for the reason; or
it has none, and the restriction is posted. -/
inductive Tried (clusterId : String) (r : Restriction) : Log → Except Failure Bool → Prop where
  | unlisted (f : Failure) :
    Tried clusterId r [Call.exchange (.manager (.restrictions clusterId)) (.error f)] (.error f)
  | found {listed : List Restriction} (h : r.Held listed) :
    Tried clusterId r [Call.exchange (.manager (.restrictions clusterId)) (.ok listed)] (.ok false)
  | posted {listed : List Restriction} (h : ¬ r.Held listed) (reply : Except Failure Unit) :
    Tried clusterId r
      [Call.exchange (.manager (.restrictions clusterId)) (.ok listed),
        Call.exchange (.manager (.postRestriction clusterId r)) reply]
      (reply.map fun _ => true)

theorem tried_of_ensure {result : Except Failure Bool}
    (h : Fallible.Gives (ensure clusterId r) log result) : Tried clusterId r log result := by
  rcases Fallible.gives_bind.mp h with ⟨first, existing, rest, rfl, listed, h⟩ | ⟨f, rfl, refused⟩
  · rw [Fallible.gives_call.mp listed]
    split at h
    · rename_i found
      obtain ⟨rfl, rfl⟩ := Fallible.gives_pure.mp h
      exact .found (List.any_eq_true.mp found)
    · rename_i missing
      have unset : ¬ r.Held existing := fun set => missing (List.any_eq_true.mpr set)
      rcases Fallible.gives_bind.mp h with ⟨second, _, third, rfl, sent, h⟩ | ⟨f, rfl, refused⟩
      · obtain ⟨rfl, rfl⟩ := Fallible.gives_pure.mp h
        rw [Fallible.gives_call.mp sent]
        exact .posted unset (.ok ())
      · rw [Fallible.gives_call.mp refused]
        exact .posted unset (.error f)
  · rw [Fallible.gives_call.mp refused]
    exact .unlisted f

/-- A posting of this restriction, directly after a list that has nothing for its reason. -/
def Checked (clusterId : String) (r : Restriction) (before : Log) (e : Exchange collaboration)
    (_ : Log) : Prop :=
  ∀ id sent reply, e = Call.exchange (.manager (.postRestriction id sent)) reply →
    id = clusterId ∧ sent = r ∧ ∃ earlier listed,
      before = earlier ++ [Call.exchange (.manager (.restrictions clusterId)) (.ok listed)] ∧
        ¬ r.Held listed

theorem local_checked : Log.Local (Checked clusterId r) := by
  intro before e behind earlier later h id sent reply same
  obtain ⟨rfl, rfl, earlier', listed, rfl, unset⟩ := h id sent reply same
  exact ⟨rfl, rfl, earlier ++ earlier', listed, (List.append_assoc ..).symm, unset⟩

theorem Tried.checked {result : Except Failure Bool} (h : Tried clusterId r log result) :
    Log.Everywhere (Checked clusterId r) log := by
  cases h with
  | unlisted f => exact Log.everywhere_singleton.mpr nofun
  | found set => exact Log.everywhere_singleton.mpr nofun
  | @posted listed unset reply =>
    refine Log.everywhere_cons.mpr
      ⟨nofun, Log.everywhere_singleton.mpr fun id sent reply' same => ?_⟩
    cases same
    exact ⟨rfl, rfl, [], listed, rfl, unset⟩

/-! ## 3. What is set -/

/-- **One more at most**: the restriction was added where none was set for its reason, or all is as
it was. -/
def Once (r : Restriction) (held held' : List Restriction) : Prop :=
  held' = held ∨ ¬ r.Held held ∧ ∃ given, held' = held ++ [{ r with id := some given }]

theorem held_append (r : Restriction) (held : List Restriction) (given : String) :
    r.Held (held ++ [{ r with id := some given }]) :=
  ⟨_, List.mem_append_right _ (List.mem_singleton_self _), hasReasonOf_iff.mpr ⟨rfl, rfl⟩⟩

namespace Once

variable {first second third : List Restriction}

theorem trans (h₁ : r.Once first second) (h₂ : r.Once second third) : r.Once first third := by
  rcases h₁ with rfl | ⟨unset, given, rfl⟩
  · exact h₂
  · rcases h₂ with rfl | ⟨still, _⟩
    · exact .inr ⟨unset, given, rfl⟩
    · exact absurd (held_append r first given) still

theorem eq_of_held (h : r.Once held held') (set : r.Held held) : held' = held := by
  rcases h with same | ⟨unset, _⟩
  · exact same
  · exact absurd set unset

theorem length_le (h : r.Once held held') : held'.length ≤ held.length + 1 := by
  rcases h with rfl | ⟨_, given, rfl⟩
  · exact Nat.le_succ _
  · rw [List.length_append]
    exact Nat.le_refl _

end Once

/-- Whatever got lost in a try, one more is set at most, and the reason is set if it succeeded. -/
theorem Tried.once {result : Except Failure Bool} (h : Tried clusterId r log result)
    (along : Along (LossyStep clusterId) held log held') :
    r.Once held held' ∧ ∀ posted, result = .ok posted → r.Held held' := by
  cases h with
  | unlisted f => exact ⟨.inl (lossy_leaving (Along.singleton_iff.mp along) trivial), nofun⟩
  | found set =>
    have listed := Along.singleton_iff.mp along
    have same := lossy_leaving listed trivial
    rw [lossy_listed listed, ← same] at set
    exact ⟨.inl same, fun _ _ => set⟩
  | posted unset reply =>
    obtain ⟨mid, listed, sent⟩ := Along.cons_iff.mp along
    rw [lossy_listed listed] at unset
    rw [lossy_leaving listed trivial] at sent
    rcases lossy_post (Along.singleton_iff.mp sent) with ⟨given, rfl⟩ | ⟨rfl, f, rfl⟩
    · exact ⟨.inr ⟨unset, given, rfl⟩, fun _ _ => held_append r held given⟩
    · exact ⟨.inl rfl, nofun⟩

/-- Setting a restriction on one cluster leaves the other ones as they are. -/
theorem only_retried_ensure {policy : RetryPolicy} {other : String}
    (elsewhere : clusterId ≠ other) :
    Fallible.Only (Ask.Leaving other) (Work.retried policy (ensure clusterId r)) := by
  refine Fallible.only_retried (Fallible.only_bind (Fallible.only_call trivial) fun listed => ?_)
    fun _ => trivial
  split
  · exact Fallible.only_pure _
  · exact Fallible.only_bind (Fallible.only_call elsewhere) fun _ => Fallible.only_pure _

/-! ## 4. Any number of tries -/

/-- **Setting a restriction is idempotent, also when replies get lost.** Each posting comes directly
after a list that has nothing for the reason. So one more restriction is set at most, none if the
reason was set before, and the reason is set if the setting succeeded; on other clusters nothing
changes. -/
theorem once_retried_ensure {policy : RetryPolicy} {result : Except Failure Bool}
    (run : Fallible.Gives (Work.retried policy (ensure clusterId r)) log result) :
    Log.Everywhere (Checked clusterId r) log ∧
      (∀ held held', Along (LossyStep clusterId) held log held' →
        held'.length ≤ held.length + 1 ∧ r.Once held held' ∧ (r.Held held → held' = held) ∧
          ∀ posted, result = .ok posted → r.Held held') ∧
      ∀ other held held', clusterId ≠ other → Along (LossyStep other) held log held' →
        held' = held := by
  refine ⟨?_, fun held held' along => ?_, fun other held held' elsewhere along => ?_⟩
  · obtain ⟨n, earlier, last, _, rfl, tries, final, _⟩ := Fallible.gives_retried run
    refine Log.everywhere_append local_checked ?_ (tried_of_ensure final).checked
    refine tries.everywhere local_checked (fun f mid ⟨span, paused⟩ => ?_)
      fun _ _ _ _ failed => (tried_of_ensure failed).checked
    rw [paused]
    exact Log.everywhere_singleton.mpr nofun
  · obtain ⟨n, earlier, last, _, rfl, tries, final, _⟩ := Fallible.gives_retried run
    obtain ⟨mid, before, behind⟩ := Along.append_iff.mp along
    have failed : r.Once held mid := tries.along (fun _ => .inl rfl) (fun _ _ _ => Once.trans)
      (fun _ _ _ _ waits => along_leaving waits.leaving)
      (fun _ _ _ _ _ _ failed along => ((tried_of_ensure failed).once along).1) before
    obtain ⟨once, set⟩ := (tried_of_ensure final).once behind
    have all := failed.trans once
    exact ⟨all.length_le, all, all.eq_of_held, set⟩
  · exact along_leaving ((only_retried_ensure elsewhere).of_run run) along

/-- The reply to the posting gets lost, and the repetition finds what was posted. -/
theorem once_retried_ensure_reply_lost :
    let r : Restriction := .ofReason "blocked egress" "allow it"
    let kept : Restriction := { r with id := some "lsr-1" }
    let lost : Failure := .root (.api (.status 504 ""))
    let log : Log :=
      [Call.exchange (.manager (.restrictions "c1")) (.ok []),
        Call.exchange (.manager (.postRestriction "c1" r)) (.error lost),
        ⟨Ask.pause (RetryPolicy.standard.backoff.delay 1), ()⟩,
        Call.exchange (.manager (.restrictions "c1")) (.ok [kept])]
    (Fallible.Gives (Work.retried .standard (ensure "c1" r)) log (.ok false) ∧
        Along (LossyStep "c1") [] log [kept]) ∧
      Log.Everywhere (Checked "c1" r) log ∧ r.Once [] [kept] ∧ r.Held [kept] := by
  intro r kept lost log
  have run : Fallible.Gives (Work.retried .standard (ensure "c1" r)) log (.ok false) :=
    .ask _ _ _ (.ask _ _ _ (.ask _ _ _ (.ask _ _ _ (.done _))))
  have here : Along (LossyStep "c1") [] log [kept] :=
    .cons (.inl ⟨fun _ => rfl, rfl⟩)
      (.cons (.inr ⟨.manager (.postRestriction "c1" r), (), lost, rfl, fun _ => ⟨"lsr-1", rfl⟩,
          fun other => absurd rfl other⟩)
        (.cons (.inl rfl) (.cons (.inl ⟨fun _ => rfl, rfl⟩) (.nil _))))
  have ⟨checked, set, _⟩ := once_retried_ensure run
  have ⟨_, once, _, held⟩ := set [] [kept] here
  exact ⟨⟨run, here⟩, checked, once, held false rfl⟩

end OnCall.Restriction
