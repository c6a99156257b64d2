import OnCall.Proofs.Conclusions
import OnCall.Proofs.Stores

/-!
# What is written down of lifted restrictions

* `Restriction.Change.removalLine`: the line that says that a restriction was removed.
* `Ledger.Noted`: only liftable restrictions went, and whatever is gone entirely is written down.
* `Inquiry.Records`: inquiries of which that holds, **however they end**; it goes through sequences.
* `Investigation.records_run`, `Desk.noted_attempt`: the investigation of a cleared alert is one.
* `Desk.loses_attempt`: of every attempt, the restrictions that may have gone.
-/

namespace OnCall

open Restriction (Change)
open Surroundings (liftable liftable_apart stopped_mem egress_mem)

/-! ## 1. Lines -/

/-- Signs differ in the first character. -/
theorem Mark.sign_injective {m m' : Mark} (h : m.sign.toList.head? = m'.sign.toList.head?) :
    m = m' := by
  cases m <;> cases m' <;> first | rfl | exact absurd h (by decide)

theorem Mark.head?_line (m : Mark) (message : String) :
    (m.sign ++ " " ++ message).toList.head? = m.sign.toList.head? := by
  have sign : m.sign.toList ≠ [] := by
    cases m <;> decide
  obtain ⟨c, others, same⟩ := List.exists_cons_of_ne_nil sign
  rw [String.toList_append, String.toList_append, same]
  rfl

/-- The line that says that a restriction was removed. -/
def Restriction.Change.removalLine (x : Change) : String :=
  Mark.automation.sign ++ " " ++ ("Removed restriction '" ++ x.summary ++ "'")

/-- A line of another kind does not say so. -/
theorem Restriction.Change.ne_removalLine {m : Mark} (other : m ≠ .automation) (message : String)
    (x : Change) : m.sign ++ " " ++ message ≠ x.removalLine := by
  intro same
  refine other (Mark.sign_injective ?_)
  rw [← m.head?_line message, same]
  exact Mark.head?_line _ _

/-- The line names the restriction. -/
theorem removalLine_ne {x y : Change} (hx : x ∈ liftable) (hy : y ∈ liftable) (other : x ≠ y) :
    x.removalLine ≠ y.removalLine := by
  have apart : ∀ x ∈ liftable, ∀ y ∈ liftable, x.removalLine = y.removalLine → x = y := by
    decide +kernel
  exact fun same => other (apart x hx y hy same)

theorem Notes.mem_add {n : Notes} {m : Mark} {message line : String} :
    line ∈ (n.add m message).lines ↔ line ∈ n.lines ∨ line = m.sign ++ " " ++ message := by
  rw [Notes.lines_add, List.mem_append, List.mem_singleton]

/-! ## 2. What went and what was written down -/

/-- The restriction is one that is lifted when a cluster has recovered. -/
def Restriction.Liftable (r : Restriction) : Prop := ∃ x ∈ liftable, x.owns r = true

/-- **What went and what was written down of it**, from one ledger and notes to others. What is
written is about the own cluster only. -/
structure Ledger.Noted (own : Prop) (s t : Ledger) (n n' : Notes) : Prop where
  lost : s.Loses Restriction.Liftable t
  told : own → ∀ x ∈ liftable,
    (x.removalLine ∈ n'.lines ↔ x.removalLine ∈ n.lines ∨ s.Cleared x t)

namespace Ledger

variable {own : Prop} {s t u : Ledger} {n n' n'' : Notes} {x y : Change}

theorem not_cleared (same : t.ids x = s.ids x) : ¬ s.Cleared x t :=
  fun ⟨any, none'⟩ => any (same ▸ none')

namespace Noted

/-- Nothing went, and no line says so. -/
theorem of_eq (same : t.restrictions = s.restrictions)
    (silent : ∀ x ∈ liftable, x.removalLine ∈ n'.lines ↔ x.removalLine ∈ n.lines) :
    Noted own s t n n' :=
  ⟨.of_eq same, fun _ x hx => (silent x hx).trans (or_iff_left (not_cleared (ids_congr same))).symm⟩

theorem trans (h₁ : Noted own s t n n') (h₂ : Noted own t u n' n'') : Noted own s u n n'' := by
  refine ⟨h₁.lost.trans h₂.lost, fun same x hx => ?_⟩
  rw [h₂.told same x hx, h₁.told same x hx, or_assoc]
  refine or_congr_right ⟨?_, fun ⟨any, none'⟩ => ?_⟩
  · rintro (⟨any, none'⟩ | ⟨any, none'⟩)
    · exact ⟨any, List.sublist_nil.mp (none' ▸ h₂.lost.ids_sublist x)⟩
    · exact ⟨fun empty => any (List.sublist_nil.mp (empty ▸ h₁.lost.ids_sublist x)), none'⟩
  · by_cases later : t.ids x = []
    · exact .inl ⟨any, later⟩
    · exact .inr ⟨later, none'⟩

/-- One restriction was lifted. -/
theorem of_lift (hx : x ∈ liftable) (loses : s.Loses (x.owns · = true) t)
    (told : x.removalLine ∈ n'.lines ↔ x.removalLine ∈ n.lines ∨ s.Cleared x t)
    (silent : ∀ y ∈ liftable, y ≠ x → (y.removalLine ∈ n'.lines ↔ y.removalLine ∈ n.lines)) :
    Noted own s t n n' := by
  refine ⟨loses.imp fun r owned => ⟨x, hx, owned⟩, fun _ y hy => ?_⟩
  by_cases this : y = x
  · rw [this]
    exact told
  · have apart := (liftable_apart hx hy).resolve_left (Ne.symm this)
    have same : t.ids y = s.ids y := by
      rw [ids, ids, Restriction.idsFor, Restriction.idsFor, loses.filter_eq fun r owned => ?_]
      rw [Change.owns, Bool.and_eq_true] at owned
      exact apart.not_hasReasonOf owned.1
    exact (silent y hy this).trans (or_iff_left (not_cleared same)).symm

end Noted

end Ledger

/-! ## 3. Inquiries -/

/-- Whatever it is answered and however it ends, the inquiry lets only liftable restrictions go and
writes down what is gone. -/
def Inquiry.Records {α : Type} (clusterId : String) (own : Prop) (x : Inquiry α) : Prop :=
  ∀ n log r n' s t, Inquiry.Gives x n log r n' → Ledger.After clusterId s log t →
    Ledger.Noted own s t n n'

namespace Inquiry

variable {α β : Type} {clusterId : String} {own : Prop} {x : Inquiry α} {f : α → Inquiry β}

/-- What neither deletes nor writes. -/
theorem records_of_quiet (only : Only (Ask.Leaving clusterId) x)
    (silent : ∀ n log r n', Gives x n log r n' → n' = n) : Records clusterId own x := by
  intro n log r n' s t run after
  rw [silent n log r n' run]
  exact .of_eq (Ledger.after_leaving ((only n).of_run run) after) fun _ _ => Iff.rfl

theorem records_pure (a : α) : Records clusterId own (pure a) :=
  records_of_quiet (only_pure a) fun _ _ _ _ run => (gives_pure.mp run).2.2

theorem records_throw (e : Failure) : Records clusterId own (throw e : Inquiry α) :=
  records_of_quiet (only_throw e) fun _ _ _ _ run => (gives_throw.mp run).2.2

theorem records_ofExcept (e : Except Failure α) :
    Records clusterId own (MonadExcept.ofExcept e) :=
  records_of_quiet (only_ofExcept e) fun _ _ _ _ run => (gives_ofExcept.mp run).2.2

theorem records_liftM {p : Work α} (only : Program.Only (I := collaboration) (Ask.Leaving clusterId) p) :
    Records clusterId own (liftM p) :=
  records_of_quiet (only_liftM only) fun _ _ _ _ run =>
    let ⟨_, _, _, same⟩ := gives_liftM.mp run
    same

theorem records_require {text : String} {y : Fallible α}
    (only : Fallible.Only (Ask.Leaving clusterId) y) : Records clusterId own (require text y) :=
  records_of_quiet (only_require only) fun _ _ _ _ run =>
    let ⟨_, _, _, same⟩ := gives_require.mp run
    same

/-- A line of another kind. -/
theorem records_note {m : Mark} (other : m ≠ .automation) (message : String) :
    Records clusterId own (note m message) := by
  intro n log r n' s t run after
  obtain ⟨rfl, _, rfl⟩ := gives_note.mp run
  rw [show t = s from after]
  refine .of_eq rfl fun x _ => Notes.mem_add.trans (or_iff_left fun same => ?_)
  exact x.ne_removalLine other message same.symm

theorem records_bind (hx : Records clusterId own x) (hf : ∀ a, Records clusterId own (f a)) :
    Records clusterId own (x >>= f) := by
  intro n log r n' s t run after
  rcases gives_bind.mp run with ⟨first, a, n₁, second, rfl, h₁, h₂⟩ | ⟨e, _, h₁⟩
  · obtain ⟨mid, before, behind⟩ := Ledger.after_append.mp after
    exact (hx _ _ _ _ _ _ h₁ before).trans (hf a _ _ _ _ _ _ h₂ behind)
  · exact hx _ _ _ _ _ _ h₁ after

theorem records_tryCatch {handler : Failure → Inquiry α} (hx : Records clusterId own x)
    (hh : ∀ e, Records clusterId own (handler e)) : Records clusterId own (tryCatch x handler) := by
  intro n log r n' s t run after
  rcases gives_tryCatch.mp run with ⟨a, _, h₁⟩ | ⟨first, e, n₁, second, rfl, h₁, h₂⟩
  · exact hx _ _ _ _ _ _ h₁ after
  · obtain ⟨mid, before, behind⟩ := Ledger.after_append.mp after
    exact (hx _ _ _ _ _ _ h₁ before).trans (hh e _ _ _ _ _ _ h₂ behind)

theorem records_finish {finish : Conclusion.Draft → Conclusion} :
    Records clusterId own (do return finish (← draft)) :=
  records_of_quiet only_finish fun _ _ _ _ run => (gives_drafted.mp run).2.2

theorem records_noted {m : Mark} {message : String} {finish : Conclusion.Draft → Conclusion}
    (other : m ≠ .automation) :
    Records clusterId own (do
      note m message
      return finish (← draft)) :=
  records_bind (records_note other message) fun _ => records_finish

end Inquiry

/-! ## 4. The investigation of a cleared alert -/

section Recovered

variable {clusterId : String} {ctx : Context} {now : Instant} {x : Change}

/-- Write down what came of lifting a restriction. -/
def Unreachable.noteLifting (x : Change) : Lifting → Inquiry Bool
  | .removed _ => do
    liftM (n := Inquiry) (Work.count .restrictionsRemoved)
    Inquiry.note .automation ("Removed restriction '" ++ x.summary ++ "'")
    return false
  | .flapping changes => do
    Inquiry.note .warning
      ("Restriction '" ++ x.summary ++ "' changed " ++ toString changes ++
        " times recently; not removing it")
    return true
  | .notFound => return false

theorem Unreachable.liftOne_eq :
    liftOne ctx now x = Inquiry.require "could not remove restriction"
      (Restriction.lift ctx.settings ctx.cluster x.restriction now) >>= noteLifting x := rfl

/-- What was removed is counted and written down. -/
theorem Unreachable.gives_noteLifting_removed {count : Nat} {n n' : Notes} {log : Log}
    {r : Except Failure Bool} (h : Inquiry.Gives (noteLifting x (.removed count)) n log r n') :
    log = [⟨Ask.count .restrictionsRemoved, ()⟩] ∧
      n' = n.add .automation ("Removed restriction '" ++ x.summary ++ "'") := by
  rcases Inquiry.gives_bind.mp h with ⟨l₁, _, n₁, l₂, rfl, counted, rest⟩ | ⟨f, _, counted⟩
  · obtain ⟨_, run, _, rfl⟩ := Inquiry.gives_liftM.mp counted
    have ended := Inquiry.gives_note_bind.mp rest
    obtain ⟨rfl, _, rfl⟩ := Inquiry.gives_pure.mp ended
    exact ⟨by rw [Program.run_request.mp run, List.append_nil], rfl⟩
  · obtain ⟨_, _, wrong, _⟩ := Inquiry.gives_liftM.mp counted
    cases wrong

/-- Nothing else is written down as removed. -/
theorem Unreachable.records_noteLifting {own : Prop} {lifting : Lifting}
    (other : ∀ count, lifting ≠ .removed count) : (noteLifting x lifting).Records clusterId own := by
  cases lifting with
  | removed count => exact absurd rfl (other count)
  | flapping changes =>
    exact Inquiry.records_bind (Inquiry.records_note (by decide) _) fun _ => Inquiry.records_pure _
  | notFound => exact Inquiry.records_pure _

/-- **Lifting one restriction** and writing down what came of it. -/
theorem Unreachable.records_liftOne (hx : x ∈ liftable) :
    (liftOne ctx now x).Records clusterId (ctx.cluster.id = clusterId) := by
  rw [liftOne_eq]
  intro n log r n' s t run after
  rcases Inquiry.gives_bind.mp run with ⟨l₁, lifting, n₁, l₂, rfl, required, noted⟩ | ⟨f, _, required⟩
  · obtain ⟨mid, before, behind⟩ := Ledger.after_append.mp after
    obtain ⟨lifted, rfl⟩ := Inquiry.gives_require_ok.mp required
    by_cases removed : ∃ count, lifting = .removed count
    · obtain ⟨count, rfl⟩ := removed
      obtain ⟨rfl, rfl⟩ := gives_noteLifting_removed noted
      have same : t.restrictions = mid.restrictions := Ledger.after_leaving (fun e he => by
        rw [List.mem_singleton.mp he]
        trivial) behind
      by_cases own : ctx.cluster.id = clusterId
      · subst own
        obtain ⟨loses, ⟨_, any, none'⟩ | ⟨⟨_, wrong, other⟩, _⟩ | ⟨⟨_, wrong⟩, _⟩⟩ :=
          Ledger.lift_spec lifted before
        · refine .of_lift hx (loses.trans (.of_eq same)) ?_ fun y hy other =>
            Notes.mem_add.trans (or_iff_left fun wrong => removalLine_ne hy hx other wrong)
          exact iff_of_true (Notes.mem_add.mpr (.inr rfl))
            (.inr ⟨any, (Ledger.ids_congr same).trans none'⟩)
        · cases wrong
          exact absurd rfl (other count)
        · cases wrong
      · exact ⟨.of_eq (same.trans (Ledger.lift_elsewhere own lifted before)),
          fun same => absurd same own⟩
    · have other : ∀ count, lifting ≠ .removed count := fun count same => removed ⟨count, same⟩
      refine Ledger.Noted.trans (.of_eq ?_ fun _ _ => Iff.rfl)
        (records_noteLifting other _ _ _ _ _ _ noted behind)
      by_cases own : ctx.cluster.id = clusterId
      · subst own
        obtain ⟨_, ⟨⟨_, wrong⟩, _⟩ | ⟨_, unchanged⟩ | ⟨⟨_, wrong⟩, _⟩⟩ :=
          Ledger.lift_spec lifted before
        · cases wrong
          exact absurd rfl (other _)
        · exact unchanged
        · cases wrong
      · exact Ledger.lift_elsewhere own lifted before
  · obtain ⟨r₀, lifted, failed, rfl⟩ := Inquiry.gives_require.mp required
    by_cases own : ctx.cluster.id = clusterId
    · subst own
      obtain ⟨loses, ⟨⟨_, rfl⟩, _⟩ | ⟨⟨_, rfl, _⟩, _⟩ | ⟨_, left⟩⟩ := Ledger.lift_spec lifted after
      · cases failed
      · cases failed
      · exact .of_lift hx loses (or_iff_left fun ⟨any, none'⟩ => left any none').symm
          fun _ _ _ => Iff.rfl
    · exact .of_eq (Ledger.lift_elsewhere own lifted after) fun _ _ => Iff.rfl

theorem Unreachable.records_recovered :
    (recovered ctx now).Records clusterId (ctx.cluster.id = clusterId) := by
  unfold recovered
  refine Inquiry.records_bind (Inquiry.records_ofExcept _) fun client => ?_
  refine Inquiry.records_bind (Inquiry.records_ofExcept _) fun infraId => ?_
  refine Inquiry.records_bind (Inquiry.records_require (Fallible.only_call trivial)) fun running => ?_
  refine Inquiry.records_bind (Inquiry.records_require (Fallible.only_call trivial)) fun expected => ?_
  split
  · exact Inquiry.records_noted (by decide)
  · refine Inquiry.records_bind (Inquiry.records_note (by decide) _) fun _ => ?_
    refine Inquiry.records_bind (records_liftOne stopped_mem) fun stoppedFlaps => ?_
    refine Inquiry.records_bind (records_liftOne egress_mem) fun egressFlaps => ?_
    split
    · exact Inquiry.records_finish
    · exact Inquiry.records_finish

theorem Investigation.records_run (cleared : ctx.alert.hasCleared = true) :
    (Investigation.unreachable.run ctx).Records clusterId (ctx.cluster.id = clusterId) := by
  refine Inquiry.records_bind (Inquiry.records_liftM (Program.only_request trivial)) fun now => ?_
  refine Inquiry.records_tryCatch ?_ fun failure => ?_
  · rw [steps, if_pos cleared]
    exact Unreachable.records_recovered
  · split
    · exact Inquiry.records_noted (by decide)
    · exact Inquiry.records_throw _

end Recovered

/-! ## 5. Attempts -/

/-- The conclusion for revoked credentials says of no restriction that it was removed. -/
theorem Credentials.not_mem_notes {f : ResolutionFailure} {name : String} {x : Change}
    (hx : x ∈ liftable) : x.removalLine ∉ (Credentials.notes f (.empty name)).lines := by
  intro mem
  rcases Notes.mem_add.mp mem with mem | same
  · rcases Notes.mem_add.mp mem with mem | same
    · exact absurd mem List.not_mem_nil
    · exact x.ne_removalLine (m := .warning) (by decide) _ same.symm
  · have other : ∀ x ∈ liftable, x.removalLine ≠
        Mark.automation.sign ++ " " ++ "Setting restriction: cloud credentials are invalid" := by
      decide +kernel
    exact other x hx same

namespace Desk

variable {d : Desk} {i : Investigation} {alert : Alert} {clusterId : String} {a a' : Dossier}
  {s t : Ledger} {log : Log} {r : Except Failure (Context × Conclusion)}

/-- **An attempt for a cleared alert.** If it concludes, the note says which restrictions are gone
entirely; if it fails, some may be gone and nothing says so. -/
theorem noted_attempt (cleared : alert.hasCleared = true)
    (h : Filing.Gives (d.attempt .unreachable alert) a log r a') (after : s.After clusterId log t) :
    (∃ ctx c n n', r = .ok (ctx, c) ∧ c.note = n'.render ∧ n.lines = [] ∧
        Ledger.Noted (ctx.cluster.id = clusterId) s t n n') ∨
      (∃ f, r = .error f) ∧ s.Loses Restriction.Liftable t := by
  have resolving {needs : Requirements} {l : Log} {r : Except ResolutionFailure Context}
      {a a' : Dossier} {s t : Ledger}
      (built : Resolving.Gives (d.contextFor .unreachable alert needs) a l r a')
      (after : s.After clusterId l t) : t.restrictions = s.restrictions :=
    Ledger.after_leaving (fun e he => (inquiring_context built e he).leaving) after
  rcases gives_attempt h with ⟨ctx, l₁, l₂, res, notes, rfl, built, investigated, rfl⟩ |
    ⟨f, l₁, l₂, a₁, res, rfl, built, _, rebuilt, rfl⟩ | ⟨f, built, rfl⟩
  · obtain ⟨mid, before, behind⟩ := Ledger.after_append.mp after
    have same := resolving built before
    have onAlert : ctx.alert = alert := (Context.gives_build_ok built).1
    have noted : Ledger.Noted (ctx.cluster.id = clusterId) mid t (.empty Unreachable.name) notes :=
      Investigation.records_run (onAlert ▸ cleared) _ _ _ _ _ _ investigated behind
    have both : Ledger.Noted (ctx.cluster.id = clusterId) s t (.empty Unreachable.name) notes :=
      Ledger.Noted.trans (.of_eq same fun _ _ => Iff.rfl) noted
    cases res with
    | error f => exact .inr ⟨⟨f, rfl⟩, both.lost⟩
    | ok c =>
      have regular := Investigation.regular_run _ ctx _ _ _ _ investigated
      exact .inl ⟨ctx, c, _, notes, rfl, regular.note_eq, rfl, both⟩
  · obtain ⟨mid, before, behind⟩ := Ledger.after_append.mp after
    have same : t.restrictions = s.restrictions :=
      (resolving rebuilt behind).trans (resolving built before)
    cases res with
    | error g => exact .inr ⟨⟨_, rfl⟩, .of_eq same⟩
    | ok ctx =>
      refine .inl ⟨ctx, _, .empty Unreachable.name, _, rfl,
        (Credentials.regular_conclude f _).note_eq, rfl, .of_eq same fun x hx => ?_⟩
      exact iff_of_false (Credentials.not_mem_notes hx) List.not_mem_nil
  · exact .inr ⟨⟨_, rfl⟩, .of_eq (resolving built after)⟩

/-- **What an attempt may take away**: liftable restrictions, and only if it lifts at all. -/
theorem loses_attempt (h : Filing.Gives (d.attempt i alert) a log r a')
    (after : s.After clusterId log t) :
    s.Loses (fun r => i.Lifts alert ∧ r.Liftable) t := by
  by_cases lifts : i.Lifts alert
  · obtain ⟨rfl, cleared⟩ := lifts
    have lost : s.Loses Restriction.Liftable t := by
      rcases noted_attempt cleared h after with ⟨_, _, _, _, _, _, _, noted⟩ | ⟨_, lost⟩
      · exact noted.lost
      · exact lost
    exact lost.imp fun r liftable => ⟨⟨rfl, cleared⟩, liftable⟩
  · refine .of_eq (Ledger.after_leaving (fun e he => ?_) after)
    have inquiring := (only_attempt a).of_run h e he
    rw [eq_false lifts] at inquiring
    exact inquiring.leaving

/-- The failed attempts before the one that counts take away no more than that. -/
theorem loses_attempts {n : Nat}
    (tries : Retries (Filing.Gives (d.attempt i alert)) Repeating n a log a')
    (after : s.After clusterId log t) :
    s.Loses (fun r => i.Lifts alert ∧ r.Liftable) t :=
  Ledger.after_retries (fun _ _ => Repeating.leaving) (fun _ _ => .of_eq) (fun _ _ _ => .trans)
    (fun _ _ _ _ _ _ failed after => loses_attempt failed after) tries after

end Desk

end OnCall
