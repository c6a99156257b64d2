import OnCall.Proofs.Runs

/-!
# Runs of retried programs

* `Retries`: failed tries of an operation, one after the other.
* `Fallible.gives_retried`: a run of a retried program is failed tries and then the one that counts.
* `Desk.gives_attempts`: the same of the attempts of an investigation, which are repeated only after
  an infrastructure failure.
-/

namespace OnCall

/-- Failed tries of an operation, each followed by what leads to the next one: `step` are the runs
of the operation from state to state, `between` is what may stand between two tries. -/
inductive Retries {σ α : Type} (step : σ → Log → Except Failure α → σ → Prop)
    (between : Failure → Log → Prop) : Nat → σ → Log → σ → Prop where
  | none (s : σ) : Retries step between 0 s [] s
  | more {n : Nat} {s s₁ s₂ : σ} {first mid rest : Log} {f : Failure}
      (failed : step s first (.error f) s₁) (next : between f mid)
      (others : Retries step between n s₁ rest s₂) :
      Retries step between (n + 1) s (first ++ (mid ++ rest)) s₂

section Retried

open Program

variable {α : Type} {log : Log}

/-- A try of a program without a state of its own. -/
def Fallible.Try (x : Fallible α) (_ : Unit) (log : Log) (r : Except Failure α) (_ : Unit) : Prop :=
  Fallible.Gives x log r

/-- Between two tries of a call there is a pause, whatever the failure. -/
def Pausing (_ : Failure) (mid : Log) : Prop :=
  ∃ span, mid = [⟨Ask.pause span, ()⟩]

/-- Between two attempts of an investigation the repetition is counted, then there is a pause; the
failure was worth it. -/
def Repeating (f : Failure) (mid : Log) : Prop :=
  f.isTransient = true ∧
    ∃ span, mid = [⟨Ask.count .infrastructureRetries, ()⟩, ⟨Ask.pause span, ()⟩]

theorem gives_runFrom {x : Fallible α} {backoff : Backoff} {r : Except Failure α} (left : Nat)
    {attempt : Nat}
    (run : Run (RetryPolicy.runFrom backoff Work.pause (fun _ => pure true) x.run attempt left)
      log r) :
    ∃ n earlier last, n ≤ left ∧ log = earlier ++ last ∧
      Retries (Fallible.Try x) Pausing n () earlier () ∧ Fallible.Gives x last r ∧
      ∀ f, r = .error f → n = left := by
  induction left generalizing attempt log with
  | zero => exact ⟨0, [], _, Nat.le_refl 0, rfl, .none (), run, fun _ _ => rfl⟩
  | succ left ih =>
    rw [RetryPolicy.runFrom] at run
    obtain ⟨first, r₁, second, rfl, h₁, h₂⟩ := run_bind.mp run
    cases r₁ with
    | ok a =>
      obtain ⟨rfl, rfl⟩ := run_done.mp h₂
      exact ⟨0, [], first, Nat.zero_le _, List.append_nil first, .none (), h₁,
        fun _ h => nomatch h⟩
    | error f =>
      obtain ⟨_, rest, rfl, tail⟩ := run_ask.mp h₂
      obtain ⟨n, earlier, last, hn, rfl, tries, hl, he⟩ := ih tail
      refine ⟨n + 1, _, last, Nat.succ_le_succ hn, ?_,
        .more h₁ ⟨backoff.delay attempt, rfl⟩ tries, hl, fun f' h => congrArg (· + 1) (he f' h)⟩
      simp only [List.append_assoc]
      rfl

/-- **A retried program** makes failed tries, fewer than the policy allows, and then the try that
counts. If that failed as well, it was the last one allowed. -/
theorem Fallible.gives_retried {x : Fallible α} {policy : RetryPolicy} {r : Except Failure α}
    (run : Fallible.Gives (Work.retried policy x) log r) :
    ∃ n earlier last, n < policy.attempts ∧ log = earlier ++ last ∧
      Retries (Fallible.Try x) Pausing n () earlier () ∧ Fallible.Gives x last r ∧
      ∀ f, r = .error f → n + 1 = policy.attempts := by
  have one := policy.one_le_attempts
  obtain ⟨n, earlier, last, hn, rest⟩ := gives_runFrom (policy.attempts - 1) run
  refine ⟨n, earlier, last, by omega, rest.1, rest.2.1, rest.2.2.1, fun f h => ?_⟩
  have := rest.2.2.2 f h
  omega

theorem Desk.run_repeatable {f : Failure} {again : Bool} (run : Run (repeatable f) log again) :
    again = f.isTransient ∧
      log = if f.isTransient then [⟨Ask.count .infrastructureRetries, ()⟩] else [] := by
  unfold repeatable at run
  split at run
  · rename_i transient
    obtain ⟨_, rest, rfl, tail⟩ := run_ask.mp run
    obtain ⟨rfl, rfl⟩ := run_done.mp tail
    rw [transient]
    exact ⟨rfl, rfl⟩
  · rename_i transient
    obtain ⟨rfl, rfl⟩ := run_done.mp run
    rw [Bool.not_eq_true] at transient
    rw [transient]
    exact ⟨rfl, rfl⟩

theorem Desk.gives_attemptsFrom {x : Filing (Except Failure α)} {backoff : Backoff} {d d' : Dossier}
    {r : Except Failure α} (left : Nat) {attempt : Nat}
    (run : Filing.Gives
      (RetryPolicy.runFrom backoff (fun span => liftM (n := Filing) (Work.pause span))
        (fun f => liftM (n := Filing) (repeatable f)) x attempt left) d log r d') :
    ∃ n earlier d₁ last, n ≤ left ∧ log = earlier ++ last ∧
      Retries (Filing.Gives x) Repeating n d earlier d₁ ∧ Filing.Gives x d₁ last r d' ∧
      ∀ f, r = .error f → n = left ∨ f.isTransient = false := by
  induction left generalizing attempt log d with
  | zero => exact ⟨0, [], d, _, Nat.le_refl 0, rfl, .none d, run, fun _ _ => .inl rfl⟩
  | succ left ih =>
    rw [RetryPolicy.runFrom] at run
    obtain ⟨first, r₁, d₁, second, rfl, h₁, h₂⟩ := Filing.gives_bind.mp run
    cases r₁ with
    | ok a =>
      obtain ⟨rfl, rfl, rfl⟩ := Filing.gives_pure.mp h₂
      exact ⟨0, [], d, first, Nat.zero_le _, List.append_nil first, .none d, h₁,
        fun _ h => nomatch h⟩
    | error f =>
      obtain ⟨counted, again, d₂, others, rfl, hc, h₃⟩ := Filing.gives_bind.mp h₂
      obtain ⟨asked, rfl⟩ := Filing.gives_liftM.mp hc
      obtain ⟨rfl, rfl⟩ := run_repeatable asked
      cases worth : f.isTransient with
      | false =>
        rw [worth] at h₃
        obtain ⟨rfl, rfl, rfl⟩ := Filing.gives_pure.mp h₃
        exact ⟨0, [], d, first, Nat.zero_le _, by simp, .none d, h₁,
          fun _ h => .inr (Except.error.inj h ▸ worth)⟩
      | true =>
        rw [worth] at h₃
        obtain ⟨paused, _, d₃, rest, rfl, hp, tail⟩ := Filing.gives_bind.mp h₃
        obtain ⟨waited, rfl⟩ := Filing.gives_liftM.mp hp
        have paused_eq := run_request.mp waited
        obtain ⟨n, earlier, d₄, last, hn, rfl, tries, hl, he⟩ := ih tail
        refine ⟨n + 1, _, d₄, last, Nat.succ_le_succ hn, ?_,
          .more h₁ ⟨worth, backoff.delay attempt, rfl⟩ tries, hl,
          fun f' h => (he f' h).imp (congrArg (· + 1)) id⟩
        rw [paused_eq]
        simp only [List.append_assoc]
        rfl

/-- **The attempts of an investigation** are failed ones, fewer than the policy allows, and then the
one that counts. If that failed as well, it was the last one allowed, or not worth another. -/
theorem Desk.gives_attempts {d : Desk} {i : Investigation} {alert : Alert} {s s' : Dossier}
    {r : Except Failure (Context × Conclusion)}
    (run : Filing.Gives (d.attempts i alert) s log r s') :
    ∃ n earlier s₁ last, n < d.settings.retry.attempts ∧ log = earlier ++ last ∧
      Retries (Filing.Gives (d.attempt i alert)) Repeating n s earlier s₁ ∧
      Filing.Gives (d.attempt i alert) s₁ last r s' ∧
      ∀ f, r = .error f → n + 1 = d.settings.retry.attempts ∨ f.isTransient = false := by
  have one := d.settings.retry.one_le_attempts
  obtain ⟨n, earlier, s₁, last, hn, rest⟩ := gives_attemptsFrom (d.settings.retry.attempts - 1) run
  refine ⟨n, earlier, s₁, last, by omega, rest.1, rest.2.1, rest.2.2.1, fun f h => ?_⟩
  exact (rest.2.2.2 f h).imp (fun e => by omega) id

end Retried

end OnCall
