import OnCall.Proofs.Denials
import OnCall.Proofs.FailedAttempts

/-!
# Findings and other failures

A finding is a result. It ends the investigation with a page, and no other attempt is made. Every
other failure is passed on as it is, and the attempt is repeated as long as the policy allows it.

* `Conclusion.inconclusive`: the conclusion after a finding.
* `Investigation.gives_run_of_steps`: what becomes of an investigation, once its steps have ended.
* `Desk.Round`, `Desk.Rounds`: the attempts of a handling, one after the other;
  `Desk.rounds_of_attempts`: **which of them is followed by another.**
* `Desk.Walked`: an attempt whose investigation was gone through, and how its steps ended;
  `Desk.Followed`: what becomes of it.
* `Desk.findings_end`: **findings end the run, and everything else is repeated.**
-/

namespace OnCall

/-! ## 1. Investigations -/

/-- The conclusion after a finding: the lines so far and the finding behind them, and a page. -/
def Conclusion.inconclusive (investigation : String) (lines : List String) (f : Failure) :
    Conclusion :=
  ⟨Notes.render ⟨investigation, lines ++ [Mark.warning.sign ++ " " ++ f.full]⟩, [],
    .escalate "investigation was inconclusive"⟩

namespace Investigation

variable {i : Investigation} {ctx : Context} {now : Instant} {n n' n₁ : Notes} {rest : Log}
  {r r₀ : Except Failure Conclusion}

/-- An investigation ends as its steps have ended. -/
theorem gives_run_of_steps (ran : Inquiry.Gives (i.steps ctx now) n rest r₀ n₁) :
    Inquiry.Gives (i.run ctx) n (⟨Ask.now, now⟩ :: rest) r n' ↔ (r, n') = settle r₀ n₁ := by
  rw [gives_run_iff]
  constructor
  · rintro ⟨now', rest', r₁, n₂, same, ran', settled⟩
    cases same
    cases Program.run_unique ran ran'
    exact settled
  · exact fun settled => ⟨now, rest, r₀, n₁, rfl, ran, settled⟩

/-- An investigation never fails with a finding. -/
theorem not_conclusive_of_run {log : Log} {f : Failure}
    (h : Inquiry.Gives (i.run ctx) n log (.error f) n') : f.isConclusive = false := by
  obtain ⟨_, _, _, _, ⟨⟨_, wrong⟩ | ⟨_, same, other⟩, _⟩ | ⟨_, _, _, wrong⟩⟩ := gives_run h
  · cases wrong
  · cases same
    exact other
  · cases wrong

end Investigation

/-! ## 2. The attempts of a handling -/

namespace Desk

/-- One attempt: what was on file before, its exchanges, what came of it, and what was on file
then. -/
structure Round where
  before : Dossier
  log : Log
  result : Except Failure (Context × Conclusion)
  after : Dossier

variable {d : Desk} {i : Investigation} {alert : Alert} {s s' : Dossier} {log : Log}

/-- The attempt was made like this. -/
abbrev Round.Ran (d : Desk) (i : Investigation) (alert : Alert) (round : Round) : Prop :=
  Filing.Gives (d.attempt i alert) round.before round.log round.result round.after

/-- **Attempts one after the other.** Each starts with what the one before it has left on file, and
between two of them the repetition is counted, and there is a pause. -/
inductive Rounds (d : Desk) (i : Investigation) (alert : Alert) :
    Dossier → List Round → Log → Dossier → Prop where
  | last (round : Round) (ran : round.Ran d i alert) :
      Rounds d i alert round.before [round] round.log round.after
  | more (round : Round) {rounds : List Round} {rest : Log} {s' : Dossier} {mid : Log} (span : Span)
      (ran : round.Ran d i alert)
      (between : mid = [⟨Ask.count .infrastructureRetries, ()⟩, ⟨Ask.pause span, ()⟩])
      (others : Rounds d i alert round.after rounds rest s') :
      Rounds d i alert round.before (round :: rounds) (round.log ++ (mid ++ rest)) s'

theorem Rounds.ran {rounds : List Round} (h : Rounds d i alert s rounds log s') :
    ∀ round ∈ rounds, round.Ran d i alert := by
  induction h with
  | last round ran => exact List.forall_mem_singleton.mpr ran
  | more round span ran _ _ ih => exact List.forall_mem_cons.mpr ⟨ran, ih⟩

/-- Failed attempts are rounds before any others. -/
theorem rounds_of_retries {n : Nat}
    (tries : Retries (Filing.Gives (d.attempt i alert)) Repeating n s log s') :
    ∃ failed : List Round, failed.length = n ∧
      (∀ round ∈ failed, ∃ f, round.result = .error f ∧ f.isTransient = true) ∧
      ∀ rounds rest s₁, Rounds d i alert s' rounds rest s₁ →
        Rounds d i alert s (failed ++ rounds) (log ++ rest) s₁ := by
  induction tries with
  | none s => exact ⟨[], rfl, List.forall_mem_nil _, fun _ _ _ others => others⟩
  | @more n s s₁ s₂ first mid rest f ran next _ ih =>
    obtain ⟨transient, span, between⟩ := next
    obtain ⟨failed, count, errors, before⟩ := ih
    refine ⟨⟨s, first, .error f, s₁⟩ :: failed, by rw [List.length_cons, count],
      List.forall_mem_cons.mpr ⟨⟨f, rfl, transient⟩, errors⟩, fun rounds rest' s₃ others => ?_⟩
    rw [List.append_assoc, List.append_assoc]
    exact .more ⟨s, first, .error f, s₁⟩ span ran between (before _ _ _ others)

/-- **The attempts of an investigation**, and which of them is followed by another: one that failed,
but not with a finding, as long as fewer were made than the policy allows. -/
theorem rounds_of_attempts {r : Except Failure (Context × Conclusion)}
    (run : Filing.Gives (d.attempts i alert) s log r s') :
    ∃ rounds, Rounds d i alert s rounds log s' ∧
      (∃ last, rounds.getLast? = some last ∧ last.result = r) ∧
      ∀ earlier round behind, rounds = earlier ++ round :: behind →
        (behind ≠ [] ↔ earlier.length + 1 < d.settings.retry.attempts ∧
          ∃ f, round.result = .error f ∧ f.isTransient = true) := by
  obtain ⟨n, first, s₁, rest, few, rfl, tries, counts, final⟩ := gives_attempts run
  obtain ⟨failed, rfl, errors, before⟩ := rounds_of_retries tries
  refine ⟨failed ++ [⟨s₁, rest, r, s'⟩], before _ _ _ (.last ⟨s₁, rest, r, s'⟩ counts),
    ⟨_, List.getLast?_concat, rfl⟩, fun earlier round behind split => ?_⟩
  rcases List.eq_nil_or_concat behind with rfl | ⟨others, last, rfl⟩
  · -- the last one did not fail, or was the last one allowed
    obtain ⟨rfl, same⟩ := List.append_inj' split rfl
    obtain rfl := (List.cons.inj same).1
    refine ⟨fun more => absurd rfl more, fun ⟨more, f, error, transient⟩ => ?_⟩
    rcases final f error with all | other
    · omega
    · rw [transient] at other
      cases other
  · rw [List.concat_eq_append, ← List.cons_append, ← List.append_assoc] at split
    obtain ⟨rfl, _⟩ := List.append_inj' split rfl
    refine ⟨fun _ => ⟨?_, errors round (by simp)⟩, fun _ => by simp⟩
    rw [List.length_append, List.length_cons] at few
    omega

/-! ## 3. How the steps of an attempt ended -/

/-- **The investigation of an attempt was gone through**: its context was made, and its steps ended
like this, with these lines. -/
def Walked (d : Desk) (i : Investigation) (alert : Alert) (round : Round) (ctx : Context)
    (r₀ : Except Failure Conclusion) (lines : List String) : Prop :=
  ∃ built now asked, round.log = built ++ ⟨Ask.now, now⟩ :: asked ∧
    Resolving.Gives (d.contextFor i alert i.needs) round.before built (.ok ctx) round.after ∧
    Inquiry.Gives (i.steps ctx now) (.empty i.name) asked r₀ ⟨i.name, lines⟩

/-- The attempt comes to what the investigation makes of the end of its steps. -/
theorem Walked.result {round : Round} {ctx : Context} {r₀ : Except Failure Conclusion}
    {lines : List String} (walked : d.Walked i alert round ctx r₀ lines)
    (ran : round.Ran d i alert) :
    round.result = (Investigation.settle r₀ ⟨i.name, lines⟩).1.map (ctx, ·) := by
  obtain ⟨built, now, asked, whole, resolved, went⟩ := walked
  have investigated : Inquiry.Gives (i.run ctx) (.empty i.name) (⟨Ask.now, now⟩ :: asked)
      (Investigation.settle r₀ ⟨i.name, lines⟩).1 (Investigation.settle r₀ ⟨i.name, lines⟩).2 :=
    (Investigation.gives_run_of_steps went).mpr rfl
  have ran' : Filing.Gives (d.attempt i alert) round.before round.log
      ((Investigation.settle r₀ ⟨i.name, lines⟩).1.map (ctx, ·)) round.after := by
    rw [← (Context.blank_of_build resolved).2.2] at investigated
    rw [whole]
    refine Filing.gives_bind.mpr ⟨built, .ok ctx, round.after, _, rfl, resolved, ?_⟩
    exact Filing.gives_bind.mpr ⟨_, _, round.after, [], (List.append_nil _).symm,
      Filing.gives_liftM.mpr ⟨investigated, rfl⟩, Filing.gives_pure.mpr ⟨rfl, rfl, rfl⟩⟩
  exact congrArg Prod.fst (Program.run_unique ran ran')

/-- Where the context was made, the investigation was gone through. -/
theorem walked_of_run {round : Round} {ctx : Context} {built asked : Log}
    {res : Except Failure Conclusion} {notes : Notes} (whole : round.log = built ++ asked)
    (resolved : Resolving.Gives (d.contextFor i alert i.needs) round.before built (.ok ctx)
      round.after)
    (ran : Inquiry.Gives (i.run ctx) (.empty i.name) asked res notes) :
    ∃ r₀ lines, d.Walked i alert round ctx r₀ lines ∧
      (res, notes) = Investigation.settle r₀ ⟨i.name, lines⟩ := by
  obtain ⟨now, rest, r₀, n₁, rfl, went, settled⟩ := Investigation.gives_run_iff.mp ran
  obtain ⟨lines, rfl⟩ := i.appends_steps ctx now _ _ _ _ went
  exact ⟨r₀, lines, ⟨built, now, rest, whole, resolved, went⟩, settled⟩

/-- Either the investigation of an attempt was gone through, or its context could not be made. -/
theorem walked_or_unresolved {round : Round} (ran : round.Ran d i alert) :
    (∃ ctx r₀ lines, d.Walked i alert round ctx r₀ lines) ∨
      ∃ f built rest s₁, round.log = built ++ rest ∧
        Resolving.Gives (d.contextFor i alert i.needs) round.before built (.error f) s₁ := by
  rcases gives_attempt ran with ⟨ctx, l₁, l₂, _, _, whole, resolved, went, _⟩ |
    ⟨f, l₁, l₂, s₁, _, whole, refused, _⟩ | ⟨f, refused, _⟩
  · obtain ⟨r₀, lines, walked, _⟩ := walked_of_run whole resolved went
    exact .inl ⟨ctx, r₀, lines, walked⟩
  · exact .inr ⟨f, l₁, l₂, s₁, whole, refused⟩
  · exact .inr ⟨f, round.log, [], _, (List.append_nil _).symm, refused⟩

/-- **An attempt is inconclusive only by a finding.** -/
theorem walked_of_undecided {round : Round} {ctx : Context} {c : Conclusion}
    (ran : round.Ran d i alert) (concluded : round.result = .ok (ctx, c))
    (undecided : ¬ c.Decided) :
    ∃ f lines, f.isConclusive = true ∧ d.Walked i alert round ctx (.error f) lines := by
  rw [Round.Ran, concluded] at ran
  rcases gives_attempt_ok ran with
    ⟨l₁, l₂, _, whole, resolved, went⟩ | ⟨_, _, _, _, _, _, _, _, rfl⟩
  · obtain ⟨r₀, lines, walked, settled⟩ := walked_of_run whole resolved went
    cases r₀ with
    | ok c' =>
      cases settled
      obtain ⟨_, now, _, _, _, steps⟩ := walked
      exact absurd (i.decides_steps ctx now _ _ _ _ steps) undecided
    | error f =>
      cases kind : f.isConclusive with
      | true => exact ⟨f, lines, kind, walked⟩
      | false =>
        rw [Investigation.settle_other kind] at settled
        cases settled
  · exact absurd Conclusion.decided_silence undecided

/-! ## 4. What becomes of a failure -/

/-- **What becomes of an attempt**, with the earlier ones and those behind it: the investigation was
gone through, unless there was no context for it; behind a finding there is no other attempt, and
behind any other failure there is one as long as the policy allows it. -/
structure Followed (d : Desk) (i : Investigation) (alert : Alert) (earlier : List Round)
    (round : Round) (behind : List Round) : Prop where
  through : (∃ ctx r₀ lines, d.Walked i alert round ctx r₀ lines) ∨
    ∃ f built rest s₁, round.log = built ++ rest ∧
      Resolving.Gives (d.contextFor i alert i.needs) round.before built (.error f) s₁
  finding : ∀ ctx f lines, d.Walked i alert round ctx (.error f) lines → f.isConclusive = true →
    round.result = .ok (ctx, .inconclusive i.name lines f) ∧ behind = []
  other : ∀ ctx f lines, d.Walked i alert round ctx (.error f) lines → f.isConclusive = false →
    round.result = .error f ∧ (behind ≠ [] ↔ earlier.length + 1 < d.settings.retry.attempts)

theorem followed_of_ran {round : Round} {earlier behind : List Round}
    (ran : round.Ran d i alert)
    (more : behind ≠ [] ↔ earlier.length + 1 < d.settings.retry.attempts ∧
      ∃ f, round.result = .error f ∧ f.isTransient = true) :
    d.Followed i alert earlier round behind where
  through := walked_or_unresolved ran
  finding := by
    intro ctx f lines walked finding
    have came := walked.result ran
    rw [Investigation.settle_finding finding] at came
    refine ⟨came, Classical.byContradiction fun some' => ?_⟩
    obtain ⟨_, _, error, _⟩ := more.mp some'
    rw [came] at error
    cases error
  other := by
    intro ctx f lines walked other
    have came := walked.result ran
    rw [Investigation.settle_other other] at came
    have transient : f.isTransient = true := by
      rw [Failure.isConclusive_eq_not] at other
      simpa using other
    exact ⟨came, more.trans (and_iff_left ⟨f, came, transient⟩)⟩

/-- **Findings end the run, and everything else is repeated.** An investigation never fails with a
finding. If its steps fail with one, it concludes with a page, and its note shows every line that
they wrote, in their order, and the full text of the finding behind them; any other failure it passes
on as it is. While an alert is handled, the attempt with a finding is the last one, and the attempt
with any other failure is followed by another exactly as long as fewer attempts were made than the
policy allows. -/
theorem findings_end (d : Desk) (i : Investigation) (alert : Alert) :
    (∀ ctx n log f n', Inquiry.Gives (i.run ctx) n log (.error f) n' → f.isConclusive = false) ∧
    (∀ ctx now n rest f n₁, Inquiry.Gives (i.steps ctx now) n rest (.error f) n₁ →
      ∃ lines, n₁ = ⟨n.investigation, n.lines ++ lines⟩ ∧
        (f.isConclusive = true →
          (∀ r n', Inquiry.Gives (i.run ctx) n (⟨Ask.now, now⟩ :: rest) r n' ↔
            r = .ok (.inconclusive n.investigation (n.lines ++ lines) f) ∧
              n' = n₁.add .warning f.full) ∧
          Notes.Shows (n.lines ++ lines ++ [Mark.warning.sign ++ " " ++ f.full])
            (Conclusion.inconclusive n.investigation (n.lines ++ lines) f).note) ∧
        (f.isConclusive = false → ∀ r n',
          Inquiry.Gives (i.run ctx) n (⟨Ask.now, now⟩ :: rest) r n' ↔ r = .error f ∧ n' = n₁)) ∧
    (d.roster.find alert.title = some i → ∀ log r, Fallible.Gives (d.handle alert) log r →
      ∃ rounds tries s carried, log = ⟨Ask.count .alertsHandled, ()⟩ :: (tries ++ carried) ∧
        d.Rounds i alert .empty rounds tries s ∧
        (∃ last, rounds.getLast? = some last ∧
          ((∃ ctx c, last.result = .ok (ctx, c) ∧
              Fallible.Gives (d.carryOut i.name ctx c) carried r) ∨
            ∃ f, last.result = .error f ∧
              Fallible.Gives (d.giveUp alert s.cluster i.name f) carried r)) ∧
        ∀ earlier round behind, rounds = earlier ++ round :: behind →
          d.Followed i alert earlier round behind) := by
  refine ⟨fun ctx n log f n' => Investigation.not_conclusive_of_run,
    fun ctx now n rest f n₁ went => ?_, fun found log r run => ?_⟩
  · obtain ⟨lines, rfl⟩ := i.appends_steps ctx now _ _ _ _ went
    refine ⟨lines, rfl, fun finding => ⟨fun r n' => ?_, Notes.shows_render ⟨_, _⟩⟩,
      fun other r n' => ?_⟩
    · rw [Investigation.gives_run_of_steps went, Investigation.settle_finding finding,
        Prod.mk.injEq]
      rfl
    · rw [Investigation.gives_run_of_steps went, Investigation.settle_other other, Prod.mk.injEq]
  · obtain ⟨rest, rfl, ⟨none', _⟩ | ⟨i', found', tries, res, s, carried, rfl, tried, ended⟩⟩ :=
      gives_handle run
    · rw [found] at none'
      cases none'
    · obtain rfl : i = i' := Option.some.inj (found.symm.trans found')
      obtain ⟨rounds, made, ⟨last, isLast, result⟩, followed⟩ := rounds_of_attempts tried
      rw [← result] at ended
      refine ⟨rounds, tries, s, carried, rfl, made, ⟨last, isLast, ended⟩,
        fun earlier round behind split => ?_⟩
      exact followed_of_ran (made.ran round (by rw [split]; simp)) (followed _ _ _ split)

/-- The first attempt fails on the route tables and is repeated; the second one finds them unusable.
The page has the line that was written before. -/
theorem findings_end_repeated :
    let d := Desk.standard .standard false
    let alert : Alert := ⟨"Q1", "ClusterProvisioningDelay", .triggered, "c1"⟩
    let played := d.rehearse alert { Rehearsal.standard with
      cluster := Rehearsal.standard.cluster.map fun c =>
        { c with state := .installing, subnetIds := ["subnet-a"] }
      faults := [(.routeTables, [some (.root (.reported "throttled")),
        some (.asFinding "unusable" (.root (.reported "no routes")))])] }
    d.roster.find alert.title = some .provisioning ∧
    ∃ o, played.2 = .ok o ∧ o.status = .concluded ∧
      (∃ e ∈ played.1, e.request = Ask.count .infrastructureRetries) ∧
      o.conclusion.note = Notes.render ⟨"ClusterProvisioningDelay",
        ["ℹ️ Cluster is in state 'installing'",
          "⚠️ could not retrieve route tables of subnet-a: unusable: no routes"]⟩ ∧
      ∃ rounds tries s earlier round ctx f lines,
        d.Rounds .provisioning alert .empty rounds tries s ∧ rounds = earlier ++ [round] ∧
        d.Walked .provisioning alert round ctx (.error f) lines ∧ f.isConclusive = true ∧
        round.result = .ok (ctx, .inconclusive "ClusterProvisioningDelay" lines f) ∧
        o.conclusion = .inconclusive "ClusterProvisioningDelay" lines f := by
  intro d alert played
  have found : d.roster.find alert.title = some .provisioning := by decide +kernel
  have run : Fallible.Gives (d.handle alert) played.1 played.2 := gives_rehearse
  have repeated : ∃ e ∈ played.1, e.request = Ask.count .infrastructureRetries :=
    mem_counted.mp (by decide +kernel)
  have shown :
      played.2.toOption.map (fun o => (o.status, o.conclusion.routing, o.conclusion.note)) =
        some (.concluded, .escalate "investigation was inconclusive",
          Notes.render ⟨"ClusterProvisioningDelay", ["ℹ️ Cluster is in state 'installing'",
            "⚠️ could not retrieve route tables of subnet-a: unusable: no routes"]⟩) := by
    decide +kernel
  obtain ⟨_, _, course⟩ := findings_end d .provisioning alert
  obtain ⟨rounds, tries, s, carried, _, made, ⟨last, isLast, ended⟩, each⟩ := course found _ _ run
  generalize played.2 = r at shown ended ⊢
  cases r with
  | error f => cases shown
  | ok o =>
    obtain ⟨status, shown⟩ := Prod.mk.injEq .. ▸ Option.some.inj shown
    obtain ⟨routing, text⟩ := Prod.mk.injEq .. ▸ shown
    obtain ⟨earlier, split⟩ := List.getLast?_eq_some_iff.mp isLast
    obtain ⟨ctx, c, result, applied⟩ :
        ∃ ctx c, last.result = .ok (ctx, c) ∧ o.conclusion = c := by
      rcases ended with ⟨ctx, c, result, carriedOut⟩ | ⟨f, _, givenUp⟩
      · rcases gives_carryOut carriedOut with ⟨same, _⟩ | ⟨_, _, f, _, _, fell⟩
        · cases same
          exact ⟨ctx, c, result, rfl⟩
        · obtain ⟨_, rfl⟩ := gives_fallBack_ok fell
          cases status
      · obtain ⟨_, rfl⟩ := gives_fallBack_ok givenUp
        cases status
    rw [applied] at routing
    have ran : last.Ran d .provisioning alert := made.ran last (by rw [split]; simp)
    obtain ⟨f, lines, finding, walked⟩ :=
      walked_of_undecided ran result fun decided => decided routing
    obtain ⟨came, _⟩ := (each earlier last [] split).finding ctx f lines walked finding
    have same : c = .inconclusive "ClusterProvisioningDelay" lines f := by
      rw [result] at came
      exact (Prod.mk.inj (Except.ok.inj came)).2
    exact ⟨found, o, rfl, status, repeated, text, rounds, tries, s, earlier, last, ctx, f, lines,
      made, split, walked, finding, came, applied.trans same⟩

end Desk

end OnCall
