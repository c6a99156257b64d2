import OnCall.Proofs.Counters
import OnCall.Proofs.Degradation
import OnCall.Proofs.Findings
import OnCall.Proofs.Outcomes

/-!
# What is told of the attempts that failed

The line on a failed investigation tells a number of attempts. It is the number that the policy
allows, and not all of these need have been made: there is no other attempt behind a finding. An
investigation itself never fails with one, but the context of an attempt can be refused with one.

* `Notes.TellsAttempts`: the number that such a note tells; `tellsAttempts_unique`: there is no other.
* `Desk.Rounds.accounted`: every attempt but the first is counted as a repetition.
* `Desk.GaveUp`: how a handling came to give up on its investigation; `gaveUp_of_handle`.
* `Desk.attempts_told_iff`: **the number that is told is the number of attempts, unless the last one
  could not resolve its context because of a finding and the policy allowed another**.
-/

namespace OnCall

/-! ## 1. The number in a note -/

/-- The note on an investigation that failed after so many attempts. -/
def Notes.TellsAttempts (investigation note : String) (n : Nat) : Prop :=
  ∃ reason, note = ((Notes.empty investigation).add .warning
    ("Investigation failed after " ++ toString n ++ " attempts: " ++ reason)).render

/-- A number is read back from a text that goes on with something else. -/
theorem Text.valueOf_takeWhile_toDigits {n : Nat} {c : Char} {cs : List Char}
    (other : c.isDigit = false) :
    valueOf ((Nat.toDigits 10 n ++ c :: cs).takeWhile Char.isDigit) = n := by
  have digits : ∀ d ∈ Nat.toDigits 10 n, d.isDigit = true := fun d mem =>
    Nat.isDigit_of_mem_toDigits (by decide) (by decide) mem
  rw [List.takeWhile_append_of_pos digits, List.takeWhile_cons_of_neg (by simp [other]),
    List.append_nil, valueOf, Nat.ofDigitChars_ten_toDigits]

/-- **A note tells one number of attempts.** -/
theorem Notes.tellsAttempts_unique {investigation note : String} {n m : Nat}
    (h₁ : TellsAttempts investigation note n) (h₂ : TellsAttempts investigation note m) : n = m := by
  obtain ⟨reason, rfl⟩ := h₁
  obtain ⟨reason', same⟩ := h₂
  rw [render_add, render_add] at same
  have lines := congrArg String.toList ((String.append_right_inj _).mp same)
  have numbers : Nat.toDigits 10 n ++ (" attempts: " ++ reason ++ "\n").toList =
      Nat.toDigits 10 m ++ (" attempts: " ++ reason' ++ "\n").toList := by
    simpa [Nat.toString_eq_ofList_toDigits] using lines
  have read := congrArg (fun cs => Text.valueOf (cs.takeWhile Char.isDigit)) numbers
  have behind (r : String) : (" attempts: " ++ r ++ "\n").toList =
      ' ' :: ("attempts: " ++ r ++ "\n").toList := by simp
  simp only [behind] at read
  rwa [Text.valueOf_takeWhile_toDigits rfl, Text.valueOf_takeWhile_toDigits rfl] at read

/-! ## 2. The attempts that were made -/

namespace Desk

variable {d : Desk} {i : Investigation} {alert : Alert} {s s' : Dossier} {log : Log}
  {rounds earlier : List Round} {last : Round} {o : Outcome}

/-- Every attempt but the first is counted as a repetition. -/
theorem Rounds.accounted (h : Rounds d i alert s rounds log s') :
    ∃ repeated, rounds.length = repeated + 1 ∧ Accounted 0 repeated log := by
  induction h with
  | last round ran => exact ⟨0, rfl, accounted_attempt ran⟩
  | @more round rounds rest s' mid span ran between _ ih =>
    obtain ⟨repeated, length, behind⟩ := ih
    subst between
    exact ⟨repeated + 1, by rw [List.length_cons, length], (accounted_attempt ran).again _ behind⟩

/-- **The attempt failed because its context could not be resolved**: that of the investigation, or
the one for revoked credentials. -/
def Round.Unresolved (d : Desk) (i : Investigation) (alert : Alert) (round : Round)
    (f : ResolutionFailure) : Prop :=
  round.result = .error (unresolved f) ∧
    ∃ needs before built s₁, round.log = before ++ built ∧
      Resolving.Gives (d.contextFor i alert needs) s₁ built (.error f) round.after

/-- What could not be resolved weighs as what the platform answered. -/
theorem isTransient_unresolved (f : ResolutionFailure) :
    (unresolved f).isTransient = f.raw.isTransient := by
  unfold Failure.isTransient unresolved
  rw [(Failure.Bears.asInfrastructure _ f.failure).kind]
  rfl

/-- **Only a context that could not be resolved is not worth another attempt.** -/
theorem Round.unresolved_of_ran {round : Round} {f : Failure} (ran : round.Ran d i alert)
    (failed : round.result = .error f) (final : f.isTransient = false) :
    ∃ g, round.Unresolved d i alert g ∧ g.raw.isTransient = false := by
  rcases gives_attempt ran with ⟨ctx, l₁, l₂, res, notes, whole, _, investigated, came⟩ |
    ⟨_, l₁, l₂, s₁, res, whole, _, _, rebuilt, came⟩ | ⟨g, refused, came⟩
  · rw [failed] at came
    cases res with
    | ok c => cases came
    | error f' =>
      cases came
      have other := Investigation.not_conclusive_of_run investigated
      rw [Failure.isConclusive_eq_not, final] at other
      cases other
  · rw [failed] at came
    cases res with
    | ok ctx => cases came
    | error g =>
      cases came
      exact ⟨g, ⟨failed, _, l₁, l₂, s₁, whole, rebuilt⟩, isTransient_unresolved g ▸ final⟩
  · rw [failed] at came
    cases came
    exact ⟨g, ⟨failed, _, [], round.log, _, rfl, refused⟩, isTransient_unresolved g ▸ final⟩

/-! ## 3. Giving up -/

/-- **How a handling came to give up on its investigation**: these attempts were made, and the last
of them failed as well. It was the last one that the policy allows, or not worth another. Then the
conclusion of the outcome was carried out, and its note tells the number that the policy allows. -/
structure GaveUp (d : Desk) (i : Investigation) (alert : Alert) (o : Outcome) (log : Log)
    (earlier : List Round) (last : Round) : Prop where
  found : d.roster.find alert.title = some i
  course : ∃ tries s carried, log = ⟨Ask.count .alertsHandled, ()⟩ :: (tries ++ carried) ∧
    d.Rounds i alert .empty (earlier ++ [last]) tries s ∧
    Fallible.Gives (o.conclusion.execute ⟨alert.incidentId, s.cluster, d.settings.retry⟩)
      carried (.ok ())
  failed : ∃ f, last.result = .error f ∧
    (earlier.length + 1 < d.settings.retry.attempts → f.isTransient = false)
  within : earlier.length + 1 ≤ d.settings.retry.attempts
  told : Notes.TellsAttempts o.investigation o.conclusion.note d.settings.retry.attempts

theorem gaveUp_of_handle (run : Fallible.Gives (d.handle alert) log (.ok o))
    (status : o.status = .investigationFailed) :
    ∃ i earlier last, d.GaveUp i alert o log earlier last := by
  obtain ⟨rest, rfl, ⟨_, fell⟩ | ⟨i, found, tries, res, s, carried, rfl, tried, ended⟩⟩ :=
    gives_handle run
  · obtain ⟨_, rfl⟩ := gives_fallBack_ok fell
    cases status
  rcases ended with ⟨ctx, c, _, carriedOut⟩ | ⟨f, failed, givenUp⟩
  · rcases gives_carryOut carriedOut with ⟨same, _⟩ | ⟨_, _, f, _, _, fell⟩
    · cases same
      cases status
    · obtain ⟨_, rfl⟩ := gives_fallBack_ok fell
      cases status
  · obtain ⟨executed, rfl⟩ := gives_fallBack_ok givenUp
    obtain ⟨rounds, made, ⟨last, isLast, result⟩, followed⟩ := rounds_of_attempts tried
    obtain ⟨earlier, rfl⟩ := List.getLast?_eq_some_iff.mp isLast
    have result : last.result = .error f := result.trans failed
    refine ⟨i, earlier, last, found, ⟨tries, s, carried, rfl, made, executed⟩,
      ⟨f, result, fun more => ?_⟩, ?_, ⟨f.full, rfl⟩⟩
    · -- a failure that is worth it would have been followed by another attempt
      have alone := followed earlier last [] rfl
      by_contra worth
      exact alone.mpr ⟨more, f, result, Bool.not_eq_false _ ▸ worth⟩ rfl
    · -- the attempt before the last one had another behind it
      rcases List.eq_nil_or_concat earlier with rfl | ⟨before, round, rfl⟩
      · exact d.settings.retry.one_le_attempts
      · rw [List.concat_eq_append] at followed ⊢
        have behind := followed before round [last] (by simp)
        have more := (behind.mp (by simp)).1
        rw [List.length_append, List.length_singleton]
        omega

/-- The repetitions that are counted are those of the attempts. -/
theorem GaveUp.counted (h : d.GaveUp i alert o log earlier last) :
    (counted log).count .infrastructureRetries = earlier.length := by
  obtain ⟨tries, s, carried, rfl, made, executed⟩ := h.course
  obtain ⟨repeated, length, accounted⟩ := made.accounted
  have behind : Accounted 0 0 carried := .of_agreeing (Conclusion.counted_execute executed)
  have whole := (accounted_begin.append (accounted.append behind)).repeated
  rw [List.length_append, List.length_singleton] at length
  rw [List.singleton_append] at whole
  omega

/-- The number that is told is the one that the policy allows. -/
theorem GaveUp.tellsAttempts_iff (h : d.GaveUp i alert o log earlier last) {n : Nat} :
    Notes.TellsAttempts o.investigation o.conclusion.note n ↔ n = d.settings.retry.attempts := by
  constructor
  · intro tells
    exact Notes.tellsAttempts_unique tells h.told
  · intro same
    rw [same]
    exact h.told

/-- An attempt that was the last one though the policy allowed another could not resolve its context
because of a finding. -/
theorem GaveUp.unresolved (h : d.GaveUp i alert o log earlier last)
    (more : earlier.length + 1 < d.settings.retry.attempts) :
    ∃ f, last.Unresolved d i alert f ∧ f.raw.isConclusive = true := by
  obtain ⟨tries, s, carried, _, made, _⟩ := h.course
  obtain ⟨f, result, final⟩ := h.failed
  have ran : last.Ran d i alert := made.ran last (by simp)
  obtain ⟨g, unresolved, finding⟩ := Round.unresolved_of_ran ran result (final more)
  refine ⟨g, unresolved, ?_⟩
  rw [Failure.isConclusive_eq_not, finding]
  rfl

/-- **When the note on a failed investigation tells the number of its attempts.** There is one more
attempt than repetitions were counted, and not more than the policy allows; the note tells the number
that the policy allows, and no other. So what it tells is wrong exactly if the policy allowed another
attempt. Then the last one could not resolve its context, and what the platform had answered was a
finding. -/
theorem attempts_told_iff (run : Fallible.Gives (d.handle alert) log (.ok o))
    (status : o.status = .investigationFailed) :
    let made := (OnCall.counted log).count .infrastructureRetries + 1
    ∃ i earlier last, d.GaveUp i alert o log earlier last ∧
      (earlier ++ [last]).length = made ∧ made ≤ d.settings.retry.attempts ∧
      (∀ n, Notes.TellsAttempts o.investigation o.conclusion.note n ↔
        n = d.settings.retry.attempts) ∧
      (¬ Notes.TellsAttempts o.investigation o.conclusion.note made ↔
        made < d.settings.retry.attempts ∧
          ∃ f, last.Unresolved d i alert f ∧ f.raw.isConclusive = true) := by
  intro made
  obtain ⟨i, earlier, last, gaveUp⟩ := gaveUp_of_handle run status
  have count : made = earlier.length + 1 := congrArg (· + 1) gaveUp.counted
  have within : made ≤ d.settings.retry.attempts := by
    rw [count]
    exact gaveUp.within
  refine ⟨i, earlier, last, gaveUp, by simp [count], within, fun n => gaveUp.tellsAttempts_iff, ?_⟩
  rw [gaveUp.tellsAttempts_iff]
  constructor
  · intro wrong
    have more : made < d.settings.retry.attempts := by omega
    exact ⟨more, gaveUp.unresolved (count ▸ more)⟩
  · intro ⟨more, _⟩ same
    omega

/-- The platform answers the first request for the cluster with a finding. There is one attempt, and
the note tells three. -/
theorem attempts_told_iff_unresolved :
    let d := Desk.standard .standard false
    let alert : Alert := ⟨"Q1", "cluster has gone missing", .triggered, "c1"⟩
    let played := d.rehearse alert { Rehearsal.standard with
      faults := [(.getCluster, [some ((Failure.root (.reported "boom")).asFinding "no such id")])] }
    ∃ o i last f, played.2 = .ok o ∧ o.status = .investigationFailed ∧
      (counted played.1).count .infrastructureRetries = 0 ∧
      d.GaveUp i alert o played.1 [] last ∧
      last.Unresolved d i alert f ∧ f.raw.isConclusive = true ∧
      Notes.TellsAttempts o.investigation o.conclusion.note 3 ∧
      ¬ Notes.TellsAttempts o.investigation o.conclusion.note 1 := by
  intro d alert played
  have run : Fallible.Gives (d.handle alert) played.1 played.2 := gives_rehearse
  have once : (counted played.1).count .infrastructureRetries = 0 := by decide +kernel
  have shown : played.2.toOption.map Outcome.status = some .investigationFailed := by decide +kernel
  generalize played.2 = r at run shown ⊢
  cases r with
  | error f => cases shown
  | ok o =>
    have status : o.status = .investigationFailed := Option.some.inj shown
    obtain ⟨i, earlier, last, gaveUp, length, _, told, wrong⟩ := attempts_told_iff run status
    rw [once] at length wrong
    have alone : earlier = [] := by simpa using length
    rw [alone] at gaveUp
    have untold : ¬ Notes.TellsAttempts o.investigation o.conclusion.note 1 := by
      rw [told]
      decide
    obtain ⟨_, f, unresolved, finding⟩ := wrong.mp untold
    exact ⟨o, i, last, f, rfl, status, once, gaveUp, unresolved, finding, gaveUp.told, untold⟩

end Desk

end OnCall
