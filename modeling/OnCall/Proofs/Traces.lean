import OnCall.Proofs.Retries

/-!
# States and places along a log

* `Along`: a state goes on with one exchange after the other, by a relation for single exchanges.
* `Log.Everywhere`: what holds of every place in a log; `Log.Local` are the properties that stay
  when more stands before and behind, so that the parts of a log can be looked at one by one.
* `Retries.along`, `Retries.everywhere`: both of the failed tries of an operation.
* `Inquiry.Places`: what holds of every place in a run of an inquiry.
-/

namespace OnCall

/-! ## 1. States -/

/-- A state goes on with one exchange after the other. -/
inductive Along {I : Interface} {σ : Type} (step : σ → Exchange I → σ → Prop) :
    σ → List (Exchange I) → σ → Prop where
  | nil (s : σ) : Along step s [] s
  | cons {s t u : σ} {e : Exchange I} {log : List (Exchange I)} (first : step s e t)
      (others : Along step t log u) : Along step s (e :: log) u

namespace Along

variable {I : Interface} {σ : Type} {step : σ → Exchange I → σ → Prop} {s t : σ}
  {e : Exchange I} {log first second : List (Exchange I)}

@[simp] theorem nil_iff : Along step s [] t ↔ t = s := by
  constructor
  · intro h
    cases h
    rfl
  · rintro rfl
    exact .nil _

theorem cons_iff : Along step s (e :: log) t ↔ ∃ mid, step s e mid ∧ Along step mid log t := by
  constructor
  · intro h
    cases h with
    | cons first others => exact ⟨_, first, others⟩
  · intro ⟨mid, first, others⟩
    exact .cons first others

theorem singleton_iff : Along step s [e] t ↔ step s e t := by
  rw [cons_iff]
  constructor
  · intro ⟨mid, first, same⟩
    rwa [nil_iff.mp same]
  · intro first
    exact ⟨t, first, .nil t⟩

theorem append_iff :
    Along step s (first ++ second) t ↔ ∃ mid, Along step s first mid ∧ Along step mid second t := by
  induction first generalizing s with
  | nil =>
    constructor
    · exact fun h => ⟨s, .nil s, h⟩
    · intro ⟨mid, same, h⟩
      rwa [← nil_iff.mp same]
  | cons e first ih =>
    constructor
    · intro h
      obtain ⟨next, now, rest⟩ := cons_iff.mp h
      obtain ⟨mid, before, behind⟩ := ih.mp rest
      exact ⟨mid, .cons now before, behind⟩
    · intro ⟨mid, h, behind⟩
      obtain ⟨next, now, before⟩ := cons_iff.mp h
      exact .cons now (ih.mpr ⟨mid, before, behind⟩)

/-- Exchanges that leave the state as it is. -/
theorem eq_of_still (still : ∀ e ∈ log, ∀ s t, step s e t → t = s) (h : Along step s log t) :
    t = s := by
  induction h with
  | nil s => rfl
  | cons first others ih =>
    rw [ih fun e he => still e (List.mem_cons_of_mem _ he),
      still _ (List.mem_cons_self ..) _ _ first]

end Along

/-- What every failed try may do to a state, any number of them may do. -/
theorem Retries.along {σ τ α : Type} {step : σ → Log → Except Failure α → σ → Prop}
    {between : Failure → Log → Prop} {go : τ → Exchange collaboration → τ → Prop}
    {R : τ → τ → Prop} {n : Nat} {a a' : σ} {s t : τ} {log : Log}
    (refl : ∀ s, R s s) (trans : ∀ s t u, R s t → R t u → R s u)
    (waits : ∀ f mid s t, between f mid → Along go s mid t → t = s)
    (failed : ∀ a l f a' s t, step a l (.error f) a' → Along go s l t → R s t)
    (tries : Retries step between n a log a') (along : Along go s log t) : R s t := by
  induction tries generalizing s with
  | none => rw [Along.nil_iff.mp along]; exact refl s
  | more ran next _ ih =>
    obtain ⟨s₁, first, rest⟩ := Along.append_iff.mp along
    obtain ⟨s₂, waited, later⟩ := Along.append_iff.mp rest
    rw [waits _ _ s₁ s₂ next waited] at later
    exact trans s s₁ t (failed _ _ _ _ s s₁ ran first) (ih later)

/-! ## 2. Places -/

namespace Log

/-- What holds of every place in a log: `P` is told what stands before an exchange, the exchange,
and what stands behind it. -/
def Everywhere (P : Log → Exchange collaboration → Log → Prop) (log : Log) : Prop :=
  ∀ before e behind, log = before ++ e :: behind → P before e behind

/-- What holds of a place still holds when more stands before and behind. -/
def Local (P : Log → Exchange collaboration → Log → Prop) : Prop :=
  ∀ before e behind earlier later, P before e behind → P (earlier ++ before) e (behind ++ later)

variable {P : Log → Exchange collaboration → Log → Prop} {first second log : Log}

theorem everywhere_nil : Everywhere P [] := fun _ _ _ h => by simp at h

theorem everywhere_cons {e : Exchange collaboration} :
    Everywhere P (e :: log) ↔
      P [] e log ∧ Everywhere (fun before e' behind => P (e :: before) e' behind) log := by
  constructor
  · intro h
    exact ⟨h [] e log rfl, fun before e' behind split => h (e :: before) e' behind (split ▸ rfl)⟩
  · intro ⟨now, rest⟩ before e' behind split
    cases before with
    | nil =>
      obtain ⟨rfl, rfl⟩ := List.cons_eq_cons.mp split
      exact now
    | cons e₀ before =>
      obtain ⟨rfl, same⟩ := List.cons_eq_cons.mp split
      exact rest before e' behind same

theorem everywhere_singleton {e : Exchange collaboration} : Everywhere P [e] ↔ P [] e [] := by
  rw [everywhere_cons]
  exact and_iff_left everywhere_nil

/-- A part of a log where `P` has nothing to say. -/
theorem everywhere_of_forall (h : ∀ e ∈ log, ∀ before behind, P before e behind) :
    Everywhere P log := by
  rintro before e behind rfl
  exact h e (by simp) before behind

theorem everywhere_append_iff :
    Everywhere P (first ++ second) ↔
      Everywhere (fun before e behind => P before e (behind ++ second)) first ∧
        Everywhere (fun before e behind => P (first ++ before) e behind) second := by
  constructor
  · intro h
    refine ⟨fun before e behind split => ?_, fun before e behind split => ?_⟩
    · exact h before e (behind ++ second) (by rw [split, List.append_assoc, List.cons_append])
    · exact h (first ++ before) e behind (by rw [split, List.append_assoc])
  · intro ⟨h₁, h₂⟩ before e behind split
    rcases List.append_eq_append_iff.mp split with ⟨more, rfl, same⟩ | ⟨more, rfl, same⟩
    · exact h₂ more e behind same
    · cases more with
      | nil =>
        have := h₂ [] e behind same.symm
        rwa [List.append_nil, List.append_nil] at this
      | cons e' more =>
        obtain ⟨rfl, rfl⟩ := List.cons_eq_cons.mp same
        exact h₁ before e more rfl

theorem Everywhere.imp {Q : Log → Exchange collaboration → Log → Prop} (h : Everywhere P log)
    (weaker : ∀ before e behind, P before e behind → Q before e behind) : Everywhere Q log :=
  fun before e behind split => weaker before e behind (h before e behind split)

theorem everywhere_append (localP : Local P) (h₁ : Everywhere P first) (h₂ : Everywhere P second) :
    Everywhere P (first ++ second) := by
  refine everywhere_append_iff.mpr
    ⟨h₁.imp fun before e behind h => ?_, h₂.imp fun before e behind h => ?_⟩
  · exact localP before e behind [] second h
  · have := localP before e behind first [] h
    rwa [List.append_nil] at this

end Log

/-- What holds of every place in a failed try, and in what stands between two tries, holds of every
place in any number of them. -/
theorem Retries.everywhere {σ α : Type} {step : σ → Log → Except Failure α → σ → Prop}
    {between : Failure → Log → Prop} {P : Log → Exchange collaboration → Log → Prop} {n : Nat}
    {a a' : σ} {log : Log} (localP : Log.Local P)
    (waits : ∀ f mid, between f mid → Log.Everywhere P mid)
    (failed : ∀ a l f a', step a l (.error f) a' → Log.Everywhere P l)
    (tries : Retries step between n a log a') : Log.Everywhere P log := by
  induction tries with
  | none => exact Log.everywhere_nil
  | more ran next _ ih =>
    exact Log.everywhere_append localP (failed _ _ _ _ ran)
      (Log.everywhere_append localP (waits _ _ next) ih)

/-! ## 3. Inquiries -/

namespace Inquiry

variable {α β : Type} {x : Inquiry α} {f : α → Inquiry β}
  {P : Log → Exchange collaboration → Log → Prop}

/-- What holds of every place in a run of an inquiry. -/
def Places (P : Log → Exchange collaboration → Log → Prop) (x : Inquiry α) : Prop :=
  ∀ n log r n', Gives x n log r n' → Log.Everywhere P log

/-- Of inquiries whose requests `P` has nothing to say of. -/
theorem places_of_only {Q : Ask → Prop} (h : x.Only Q)
    (aside : ∀ e : Exchange collaboration, Q e.request → ∀ before behind, P before e behind) :
    x.Places P :=
  fun n _ _ _ run => Log.everywhere_of_forall fun e he => aside e ((h n).of_run run e he)

/-- The second part of a sequence stands behind a run of the first part. -/
theorem places_bind_run (localP : Log.Local P) (hx : x.Places P)
    (hf : ∀ n log a n₁, Gives x n log (.ok a) n₁ →
      (f a).Places fun before e behind => P (log ++ before) e behind) : (x >>= f).Places P := by
  intro n log r n' run
  rcases gives_bind.mp run with ⟨first, a, n₁, second, rfl, h₁, h₂⟩ | ⟨_, _, h⟩
  · refine Log.everywhere_append_iff.mpr ⟨(hx _ _ _ _ h₁).imp fun before e behind h => ?_,
      hf _ _ _ _ h₁ _ _ _ _ h₂⟩
    exact localP before e behind [] second h
  · exact hx _ _ _ _ h

theorem places_bind (localP : Log.Local P) (hx : x.Places P) (hf : ∀ a, (f a).Places P) :
    (x >>= f).Places P := by
  refine places_bind_run localP hx fun n log a n₁ _ n₂ second r n' run => ?_
  refine (hf a _ _ _ _ run).imp fun before e behind h => ?_
  have := localP before e behind log [] h
  rwa [List.append_nil] at this

theorem places_tryCatch {handler : Failure → Inquiry α} (localP : Log.Local P) (hx : x.Places P)
    (hh : ∀ e, (handler e).Places P) : (tryCatch x handler).Places P := by
  intro n log r n' run
  rcases gives_tryCatch.mp run with ⟨_, _, h⟩ | ⟨_, e, n₁, _, rfl, h₁, h₂⟩
  · exact hx _ _ _ _ h
  · exact Log.everywhere_append localP (hx _ _ _ _ h₁) (hh e _ _ _ _ h₂)

end Inquiry

end OnCall
