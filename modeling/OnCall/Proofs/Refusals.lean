import OnCall.Proofs.Retries

/-!
# Why a program fails

A program makes no failure of its own out of nothing: it passes on what a call was refused with, and
it stops there, so the refused call is the last exchange.

* `Log.RefusedBy`: the last exchange is a call that was refused.
* `Failure.Bears`: a failure that a text was put in front of; it weighs the same.
* `Fallible.FailsBy`, `Inquiry.Fails`: **why a program fails**, whatever its surroundings do; one rule
  for each way to put programs together.
-/

namespace OnCall

/-! ## 1. Refusals -/

/-- The last exchange is a call that was refused. -/
def Log.RefusedBy (log : Log) (c : Call) (f : Failure) : Prop :=
  ∃ earlier, log = earlier ++ [c.exchange (.error f)]

theorem Log.RefusedBy.append_left {log : Log} {c : Call} {f : Failure} (h : log.RefusedBy c f)
    (earlier : Log) : Log.RefusedBy (earlier ++ log) c f := by
  obtain ⟨before, rfl⟩ := h
  exact ⟨earlier ++ before, (List.append_assoc ..).symm⟩

/-- **A failure that texts were put in front of**: it still says the same, and weighs the same. -/
structure Failure.Bears (f g : Failure) : Prop where
  texts : g.texts <:+ f.texts
  kind : f.kind = g.kind

namespace Failure.Bears

variable {f g h : Failure}

theorem trans (h₁ : f.Bears g) (h₂ : g.Bears h) : f.Bears h :=
  ⟨h₂.texts.trans h₁.texts, h₁.kind.trans h₂.kind⟩

theorem context (text : String) (f : Failure) : (Failure.context text f).Bears f :=
  ⟨List.suffix_cons .., rfl⟩

/-- What counts as infrastructure where nothing is said weighs as before. -/
theorem asInfrastructure (text : String) (f : Failure) : (f.asInfrastructure text).Bears f where
  texts := by
    rw [Failure.asInfrastructure, texts_classify]
    exact List.suffix_cons ..
  kind := by
    rw [Failure.kind, Failure.kind, Failure.asInfrastructure, classification_classify]
    cases f.classification <;> rfl

end Failure.Bears

/-! ## 2. Programs that may fail -/

namespace Fallible

variable {α β : Type} {x : Fallible α} {f : α → Fallible β} {P : Call → Prop}

/-- The program fails by a call of this kind that was refused, and by nothing else. -/
def FailsBy (P : Call → Prop) (x : Fallible α) : Prop :=
  ∀ log f, Gives x log (.error f) → ∃ c, P c ∧ log.RefusedBy c f

theorem failsBy_pure (a : α) : FailsBy P (pure a : Fallible α) := by
  intro log f h
  cases (gives_pure.mp h).2

theorem failsBy_call {c : Call} (h : P c) : FailsBy P (Work.call c) := by
  intro log f failed
  exact ⟨c, h, [], gives_call.mp failed⟩

theorem failsBy_liftM (p : Work α) : FailsBy P (liftM p : Fallible α) := by
  intro log f h
  obtain ⟨_, _, wrong⟩ := gives_liftM.mp h
  cases wrong

theorem failsBy_bind (hx : FailsBy P x) (hf : ∀ a, FailsBy P (f a)) : FailsBy P (x >>= f) := by
  intro log e h
  rcases gives_bind.mp h with ⟨first, a, second, rfl, _, failed⟩ | ⟨e', same, failed⟩
  · obtain ⟨c, kind, refused⟩ := hf a _ _ failed
    exact ⟨c, kind, refused.append_left first⟩
  · cases same
    exact hx _ _ failed

/-- However often it is tried, the last try fails like one. -/
theorem failsBy_retried {policy : RetryPolicy} (hx : FailsBy P x) :
    FailsBy P (Work.retried policy x) := by
  intro log e h
  obtain ⟨_, earlier, last, _, rfl, _, failed, _⟩ := gives_retried h
  obtain ⟨c, kind, refused⟩ := hx _ _ failed
  exact ⟨c, kind, refused.append_left earlier⟩

end Fallible

/-! ## 3. Inquiries -/

/-- A reason for a failure that lies at the end of a log. -/
def Log.AtEnd (R : Log → Failure → Prop) : Prop :=
  ∀ earlier log f, R log f → R (earlier ++ log) f

namespace Inquiry

variable {α β : Type} {x : Inquiry α} {f : α → Inquiry β} {R : Log → Failure → Prop}

/-- The inquiry fails for such a reason only. -/
def Fails (R : Log → Failure → Prop) (x : Inquiry α) : Prop :=
  ∀ n log f n', Gives x n log (.error f) n' → R log f

theorem fails_pure (a : α) : Fails R (pure a : Inquiry α) := by
  intro n log f n' h
  cases (gives_pure.mp h).2.1

theorem fails_liftM (p : Work α) : Fails R (liftM (n := Inquiry) p) := by
  intro n log f n' h
  obtain ⟨_, _, wrong, _⟩ := gives_liftM.mp h
  cases wrong

/-- What is done whether it fails or not does not fail the inquiry. -/
theorem fails_attempt (y : Fallible α) : Fails R (attempt y) := fails_liftM y.run

theorem fails_note (mark : Mark) (message : String) : Fails R (note mark message) := by
  intro n log f n' h
  cases (gives_note.mp h).2.1

theorem fails_get : Fails R (get : Inquiry Notes) := by
  intro n log f n' h
  cases (run_done_pair.mp h).2.1

theorem fails_finish {finish : Conclusion.Draft → Conclusion} :
    Fails R (do return finish (← draft)) := by
  intro n log f n' h
  cases (run_done_pair.mp h).2.1

/-- The second part fails behind a run of the first. -/
theorem fails_bind_run (hx : Fails R x)
    (hf : ∀ n log a n₁, Gives x n log (.ok a) n₁ → Fails (fun rest f => R (log ++ rest) f) (f a)) :
    Fails R (x >>= f) := by
  intro n log e n' h
  rcases gives_bind.mp h with ⟨first, a, n₁, second, rfl, h₁, failed⟩ | ⟨e', same, failed⟩
  · exact hf n first a n₁ h₁ _ _ _ _ failed
  · cases same
    exact hx _ _ _ _ failed

theorem fails_bind (ends : Log.AtEnd R) (hx : Fails R x) (hf : ∀ a, Fails R (f a)) :
    Fails R (x >>= f) :=
  fails_bind_run hx fun _ log a _ _ _ _ _ _ failed => ends log _ _ (hf a _ _ _ _ failed)

/-- Writing a line fails nothing. -/
theorem fails_note_bind {mark : Mark} {message : String} {f : Unit → Inquiry β} (hf : Fails R (f ())) :
    Fails R (note mark message >>= f) :=
  fun n _ _ _ h => hf (n.add mark message) _ _ _ (gives_note_bind.mp h)

/-- What is at hand fails nothing. -/
theorem fails_ofExcept_bind {e : Except Failure α} {a : α} (known : e = .ok a) (hf : Fails R (f a)) :
    Fails R (MonadExcept.ofExcept e >>= f) :=
  fun _ _ _ _ h => hf _ _ _ _ (gives_ofExcept_bind known h)

/-- What is required fails the inquiry as it fails itself, with a text in front. -/
theorem fails_require {P : Call → Prop} {text : String} {y : Fallible α} (hy : Fallible.FailsBy P y)
    (why : ∀ log c f g, P c → log.RefusedBy c g → Failure.Bears f g → R log f) :
    Fails R (require text y) := by
  intro n log f n' h
  obtain ⟨_ | g, ran, same, _⟩ := gives_require.mp h
  · cases same
    obtain ⟨c, kind, refused⟩ := hy _ _ ran
    exact why _ _ _ _ kind refused (.asInfrastructure text _)
  · cases same

end Inquiry

end OnCall
