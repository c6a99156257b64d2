import OnCall.Proofs.Conclusions
import OnCall.Proofs.LostReplies
import OnCall.Proofs.Outcomes

/-!
# What failed attempts leave behind

An attempt starts with empty notes and only adds lines. Its requests read, so a failed one leaves
the platforms as they were, apart from the restrictions that the investigation of a cleared alert
lifts. What is carried out in the end is the conclusion of the last attempt, with the lines of that
attempt alone.

* `Inquiry.Appends`: an inquiry only adds lines; one short lemma for each program.
* `Investigation.appends_run`: **investigations only add lines.**
* `Desk.Concluded`: how an attempt came to its conclusion, and the lines that it added.
* `Desk.untouched_attempts`: what any number of failed attempts leave as it was.
* `Desk.attempts_leave_nothing`: **failed attempts leave nothing behind.**
-/

namespace OnCall

/-! ## 1. Adding lines -/

namespace Notes

/-- Lines were added, and nothing else was changed. -/
def Grows (n n' : Notes) : Prop := ∃ lines, n' = ⟨n.investigation, n.lines ++ lines⟩

variable {n n₁ n' : Notes}

theorem Grows.refl (n : Notes) : n.Grows n := ⟨[], by rw [List.append_nil]⟩

theorem Grows.trans (h₁ : n.Grows n₁) (h₂ : n₁.Grows n') : n.Grows n' := by
  obtain ⟨first, rfl⟩ := h₁
  obtain ⟨second, rfl⟩ := h₂
  exact ⟨first ++ second, by rw [List.append_assoc]⟩

theorem grows_add (mark : Mark) (message : String) (n : Notes) : n.Grows (n.add mark message) :=
  ⟨[mark.sign ++ " " ++ message], rfl⟩

end Notes

namespace Inquiry

variable {α β : Type} {x : Inquiry α} {f : α → Inquiry β}

/-- However the inquiry ends, it only added lines. -/
def Appends (x : Inquiry α) : Prop := ∀ n log r n', Gives x n log r n' → n.Grows n'

theorem appends_pure (a : α) : (pure a : Inquiry α).Appends := by
  intro n log r n' run
  rw [(gives_pure.mp run).2.2]
  exact .refl n

theorem appends_throw (e : Failure) : (throw e : Inquiry α).Appends := by
  intro n log r n' run
  rw [(gives_throw.mp run).2.2]
  exact .refl n

theorem appends_bind (hx : x.Appends) (hf : ∀ a, (f a).Appends) : (x >>= f).Appends := by
  intro n log r n' run
  rcases gives_bind.mp run with ⟨_, a, n₁, _, _, h₁, h₂⟩ | ⟨_, _, h⟩
  · exact (hx _ _ _ _ h₁).trans (hf a _ _ _ _ h₂)
  · exact hx _ _ _ _ h

theorem appends_tryCatch {handler : Failure → Inquiry α} (hx : x.Appends)
    (hh : ∀ e, (handler e).Appends) : (tryCatch x handler).Appends := by
  intro n log r n' run
  rcases gives_tryCatch.mp run with ⟨_, _, h⟩ | ⟨_, e, n₁, _, _, h₁, h₂⟩
  · exact hx _ _ _ _ h
  · exact (hx _ _ _ _ h₁).trans (hh e _ _ _ _ h₂)

theorem appends_liftM (p : Work α) : (liftM p : Inquiry α).Appends := by
  intro n log r n' run
  obtain ⟨_, _, _, rfl⟩ := gives_liftM.mp run
  exact .refl n'

theorem appends_attempt (y : Fallible α) : (attempt y).Appends := appends_liftM _

theorem appends_require (text : String) (y : Fallible α) : (require text y).Appends := by
  intro n log r n' run
  obtain ⟨_, _, _, rfl⟩ := gives_require.mp run
  exact .refl n'

theorem appends_ofExcept (e : Except Failure α) : (MonadExcept.ofExcept e : Inquiry α).Appends := by
  cases e with
  | error e => exact appends_throw e
  | ok a => exact appends_pure a

theorem appends_note (mark : Mark) (message : String) : (note mark message).Appends := by
  intro n log r n' run
  rw [(gives_note.mp run).2.2]
  exact Notes.grows_add mark message n

theorem appends_finish {finish : Conclusion.Draft → Conclusion} :
    Appends (do return finish (← draft)) := by
  intro n log r n' run
  rw [(gives_drafted.mp run).2.2]
  exact .refl n

theorem appends_noted {mark : Mark} {message : String} {finish : Conclusion.Draft → Conclusion} :
    Appends (do
      note mark message
      return finish (← draft)) :=
  appends_bind (appends_note _ _) fun _ => appends_finish

end Inquiry

open Inquiry

/-! ## 2. Investigations -/

namespace Unreachable

variable (ctx : Context) (now : Instant)

theorem appends_inspect : (inspect ctx now).Appends := by
  refine appends_bind (appends_ofExcept _) fun client => appends_bind (appends_ofExcept _)
    fun infraId => appends_bind (appends_require _ _) fun stopped =>
    appends_bind (appends_require _ _) fun running => appends_bind (appends_require _ _)
    fun expected => ?_
  split
  · exact appends_pure _
  · exact appends_bind (appends_require _ _) fun events =>
      appends_bind (appends_ofExcept _) fun _ => appends_pure _

theorem appends_noteHibernation : (noteHibernation ctx now).Appends := by
  refine appends_bind (appends_attempt _) fun transitions => ?_
  split
  · dsimp only
    split
    · exact appends_note _ _
    · exact appends_pure _
  · exact appends_note _ _

theorem appends_concludeByEgress : (concludeByEgress ctx).Appends := by
  refine appends_bind (appends_liftM _) fun finding => ?_
  split
  · exact appends_noted
  · split
    · exact appends_bind (appends_note _ _) fun _ => appends_noted
    · exact appends_bind (appends_note _ _) fun _ => appends_noted
  · exact appends_noted

theorem appends_triggered : (triggered ctx now).Appends := by
  have rest : Appends (do
      noteHibernation ctx now
      concludeByEgress ctx) :=
    appends_bind (appends_noteHibernation ctx now) fun _ => appends_concludeByEgress ctx
  refine appends_bind (appends_inspect ctx now) fun found => appends_bind (appends_note _ _)
    fun _ => ?_
  dsimp only
  split
  · exact appends_bind (appends_note _ _) fun _ => rest
  · exact appends_bind (appends_note _ _) fun _ => rest
  · exact appends_bind (appends_note _ _) fun _ => appends_noted

theorem appends_liftOne (change : Restriction.Change) : (liftOne ctx now change).Appends := by
  refine appends_bind (appends_require _ _) fun lifting => ?_
  split
  · exact appends_bind (appends_liftM _) fun _ => appends_bind (appends_note _ _)
      fun _ => appends_pure _
  · exact appends_bind (appends_note _ _) fun _ => appends_pure _
  · exact appends_pure _

theorem appends_recovered : (recovered ctx now).Appends := by
  refine appends_bind (appends_ofExcept _) fun client => appends_bind (appends_ofExcept _)
    fun infraId => appends_bind (appends_require _ _) fun running =>
    appends_bind (appends_require _ _) fun expected => ?_
  split
  · exact appends_noted
  · refine appends_bind (appends_note _ _) fun _ => appends_bind (appends_liftOne _ _ _)
      fun stoppedFlaps => appends_bind (appends_liftOne _ _ _) fun egressFlaps => ?_
    split
    · exact appends_finish
    · exact appends_finish

end Unreachable

namespace Provisioning

variable (ctx : Context)

theorem appends_withoutRoute (client : CloudClient) (subnetIds : List String) :
    (withoutRoute client subnetIds).Appends := by
  induction subnetIds with
  | nil => exact appends_pure _
  | cons subnet others ih =>
    exact appends_bind (appends_require _ _) fun tables => appends_bind ih fun _ => appends_pure _

theorem appends_unroutedSubnets : (unroutedSubnets ctx).Appends := by
  unfold unroutedSubnets
  split
  · exact appends_pure _
  · refine appends_bind (appends_ofExcept _) fun client =>
      appends_bind (appends_withoutRoute _ _) fun missing => ?_
    dsimp only
    split
    · exact appends_bind (appends_note _ _) fun _ => appends_pure _
    · exact appends_pure _

theorem appends_noteAccessProtection : (noteAccessProtection ctx).Appends := by
  refine appends_bind (appends_attempt _) fun answer => ?_
  split
  · exact appends_note _ _
  · exact appends_pure _
  · exact appends_note _ _

theorem appends_concludeByEgress : (concludeByEgress ctx).Appends := by
  refine appends_bind (appends_liftM _) fun finding => ?_
  split <;> exact appends_noted

theorem appends_run : (run ctx).Appends := by
  unfold run
  split
  · exact appends_noted
  · refine appends_bind (appends_note _ _) fun _ =>
      appends_bind (appends_noteAccessProtection ctx) fun _ =>
      appends_bind (appends_unroutedSubnets ctx) fun missing => ?_
    split
    · exact appends_concludeByEgress ctx
    · exact appends_noted

end Provisioning

namespace Assisted

theorem appends_noteAnalysis (request : AnalysisRequest) (limit : Span) :
    (noteAnalysis request limit).Appends := by
  refine appends_bind (appends_liftM _) fun answer => ?_
  split
  · split <;> exact appends_note _ _
  · exact appends_note _ _

theorem appends_run (ctx : Context) : (run ctx).Appends := by
  unfold run
  split
  · have asked (request : AnalysisRequest) : Appends (do
        noteAnalysis request ctx.settings.analysisTimeout
        return (← draft).escalate "AI-assisted analysis needs human review") :=
      appends_bind (appends_noteAnalysis _ _) fun _ => appends_finish
    refine appends_bind (appends_attempt _) fun organization => ?_
    intro n log r n' run
    exact asked _ n log r n' run
  · exact appends_noted

end Assisted

theorem Investigation.appends_steps (i : Investigation) (ctx : Context) (now : Instant) :
    (i.steps ctx now).Appends := by
  cases i with
  | unreachable =>
    show Appends (if ctx.alert.hasCleared then Unreachable.recovered ctx now
      else Unreachable.triggered ctx now)
    split
    · exact Unreachable.appends_recovered ctx now
    · exact Unreachable.appends_triggered ctx now
  | provisioning => exact Provisioning.appends_run ctx
  | assisted => exact Assisted.appends_run ctx

/-- **Investigations only add lines**, whether they fail or conclude. -/
theorem Investigation.appends_run (i : Investigation) (ctx : Context) : (i.run ctx).Appends := by
  refine appends_bind (appends_liftM _) fun now =>
    appends_tryCatch (i.appends_steps ctx now) fun failure => ?_
  split
  · exact appends_noted
  · exact appends_throw _

/-! ## 3. Attempts -/

/-- **What some exchanges leave as it was**: the incident and the log of the customer are not
written to, and no cluster has other restrictions than before, even if calls that failed had their
effect. -/
structure Untouched (log : Log) : Prop where
  incident : pagerCalls log = []
  advisories : ∀ cluster advisory reply,
    Call.exchange (.manager (.postAdvisory cluster advisory)) reply ∉ log
  restrictions : ∀ clusterId held held',
    Along (Restriction.LossyStep clusterId) held log held' → held' = held

theorem Untouched.of_inquiring {log : Log} (h : ∀ e ∈ log, Ask.Inquiring False e.request) :
    Untouched log where
  incident := pagerCalls_eq_nil fun e he => (h e he).offPager
  advisories := fun _ _ _ mem => h _ mem
  restrictions := fun _ _ _ along => Restriction.along_leaving (fun e he => (h e he).leaving) along

namespace Desk

variable {d : Desk} {i : Investigation} {alert : Alert} {s s' : Dossier} {log : Log}
  {ctx : Context} {c : Conclusion}

/-- Failed attempts leave everything as it was, unless they may lift restrictions. -/
theorem untouched_attempts {n : Nat} (reads : ¬ i.Lifts alert)
    (tries : Retries (Filing.Gives (d.attempt i alert)) Repeating n s log s') : Untouched log := by
  refine .of_inquiring fun e he => ?_
  rw [← eq_false reads]
  exact only_attempts tries e he

/-- **How an attempt came to its conclusion**, and the lines that it added: its investigation
started with none, and wrote these; or the credentials were found revoked, which makes two
lines. -/
inductive Concluded (d : Desk) (i : Investigation) (alert : Alert) (s : Dossier) (log : Log)
    (ctx : Context) (c : Conclusion) (lines : List String) (s' : Dossier) : Prop where
  | investigated {built asked : Log} (whole : log = built ++ asked)
      (context : Resolving.Gives (d.contextFor i alert i.needs) s built (.ok ctx) s')
      (wrote : Inquiry.Gives (i.run ctx) (.empty i.name) asked (.ok c) ⟨i.name, lines⟩)
  | revoked {built rebuilt : Log} {f : ResolutionFailure} {s₁ : Dossier}
      (whole : log = built ++ rebuilt)
      (refused : Resolving.Gives (d.contextFor i alert i.needs) s built (.error f) s₁)
      (shows : f.showsRevocation = true)
      (context : Resolving.Gives (d.contextFor i alert .none) s₁ rebuilt (.ok ctx) s')
      (concludes : c = Credentials.conclude f (.empty i.name))
      (wrote : Credentials.notes f (.empty i.name) = ⟨i.name, lines⟩)

/-- The note of an attempt's conclusion is made of the lines that the attempt added. -/
theorem concluded_of_attempt (run : Filing.Gives (d.attempt i alert) s log (.ok (ctx, c)) s') :
    ∃ lines, d.Concluded i alert s log ctx c lines s' ∧ c.note = Notes.render ⟨i.name, lines⟩ := by
  rcases gives_attempt_ok run with ⟨l₁, l₂, notes, whole, context, ran⟩ |
    ⟨f, l₁, l₂, s₁, whole, refused, shows, context, concludes⟩
  · have regular := Investigation.regular_run i ctx _ _ _ _ ran
    obtain ⟨lines, rfl⟩ := Investigation.appends_run i ctx _ _ _ _ ran
    exact ⟨lines, .investigated whole context ran, regular.note_eq⟩
  · rw [concludes]
    exact ⟨_, .revoked whole refused shows context rfl rfl,
      (Credentials.regular_conclude f (.empty i.name)).note_eq⟩

/-! ## 4. The conclusion that counts -/

/-- **Attempts leave nothing behind.** An attempt makes no call to the pager and posts nothing, and
deletes only where it lifts restrictions; so failed attempts leave everything else as it was. The
conclusion that is carried out is that of the last attempt, and its note shows the lines that this
attempt added to none, in their order. -/
theorem attempts_leave_nothing (d : Desk) (i : Investigation) (alert : Alert) :
    (∀ s log r s', Filing.Gives (d.attempt i alert) s log r s' →
      ∀ e ∈ log, Ask.Inquiring (i.Lifts alert) e.request) ∧
    (¬ i.Lifts alert → ∀ n s log s',
      Retries (Filing.Gives (d.attempt i alert)) Repeating n s log s' → Untouched log) ∧
    (∀ ctx, (i.run ctx).Appends) ∧
    ∀ log r, d.roster.find alert.title = some i → Fallible.Gives (d.handle alert) log r →
      ∃ n earlier s last res s' carried,
        log = ⟨Ask.count .alertsHandled, ()⟩ :: (earlier ++ last ++ carried) ∧
        Retries (Filing.Gives (d.attempt i alert)) Repeating n .empty earlier s ∧
        Filing.Gives (d.attempt i alert) s last res s' ∧
        (∀ f, res = .error f → Fallible.Gives (d.giveUp alert s'.cluster i.name f) carried r) ∧
        ∀ ctx c, res = .ok (ctx, c) → Fallible.Gives (d.carryOut i.name ctx c) carried r ∧
          ∃ lines, d.Concluded i alert s last ctx c lines s' ∧
            c.note = Notes.render ⟨i.name, lines⟩ ∧ Notes.Shows lines c.note := by
  refine ⟨fun s log r s' run => (only_attempt s).of_run run,
    fun reads n s log s' => untouched_attempts reads, i.appends_run, fun log r found run => ?_⟩
  obtain ⟨rest, rfl, ⟨none', _⟩ | ⟨i', found', tries, res, s', carried, rfl, tried, ended⟩⟩ :=
    gives_handle run
  · rw [found] at none'
    cases none'
  · obtain rfl : i = i' := Option.some.inj (found.symm.trans found')
    obtain ⟨n, earlier, s, last, _, rfl, failed, counts, _⟩ := gives_attempts tried
    refine ⟨n, earlier, s, last, res, s', carried, rfl, failed, counts, ?_, ?_⟩
    · rintro f rfl
      rcases ended with ⟨_, _, wrong, _⟩ | ⟨_, same, givenUp⟩
      · cases wrong
      · cases same
        exact givenUp
    · rintro ctx c rfl
      rcases ended with ⟨_, _, same, carriedOut⟩ | ⟨_, wrong, _⟩
      · cases same
        obtain ⟨lines, concluded, note⟩ := concluded_of_attempt counts
        refine ⟨carriedOut, lines, concluded, note, ?_⟩
        rw [note]
        exact Notes.shows_render ⟨i.name, lines⟩
      · cases wrong

/-- The first attempt wrote a line before it failed; the note has that line of the second one. -/
theorem attempts_leave_nothing_repeated :
    let d := Desk.standard .standard false
    let alert : Alert := ⟨"Q1", "ClusterProvisioningDelay", .triggered, "c1"⟩
    let played := d.rehearse alert { Rehearsal.standard with
      cluster := Rehearsal.standard.cluster.map fun c =>
        { c with state := .installing, subnetIds := ["subnet-a"] }
      faults := [(.routeTables, [some (.root (.reported "throttled"))])] }
    (d.roster.find alert.title = some .provisioning ∧ ¬ Investigation.provisioning.Lifts alert) ∧
    ∃ o, played.2 = .ok o ∧ o.status = .concluded ∧
      (∃ e ∈ played.1, e.request = Ask.count .infrastructureRetries) ∧
      o.conclusion.note = Notes.render ⟨"ClusterProvisioningDelay",
        ["ℹ️ Cluster is in state 'installing'", "⚠️ Subnets without a default route: subnet-a"]⟩ ∧
      ∃ n earlier s last ctx s',
        Retries (Filing.Gives (d.attempt .provisioning alert)) Repeating n .empty earlier s ∧
          Untouched earlier ∧ ∃ lines,
            d.Concluded .provisioning alert s last ctx o.conclusion lines s' ∧
              o.conclusion.note = Notes.render ⟨"ClusterProvisioningDelay", lines⟩ ∧
              Notes.Shows lines o.conclusion.note := by
  intro d alert played
  have found : d.roster.find alert.title = some .provisioning := by decide +kernel
  have reads : ¬ Investigation.provisioning.Lifts alert := nofun
  have run : Fallible.Gives (d.handle alert) played.1 played.2 := gives_rehearse
  have repeated : ∃ e ∈ played.1, e.request = Ask.count .infrastructureRetries := by
    let isRepetition (q : Ask) : Bool := q = .count .infrastructureRetries
    have counted : (played.1.any fun e => isRepetition e.request) = true := by decide +kernel
    have told (q : Ask) (h : isRepetition q = true) : q = .count .infrastructureRetries :=
      of_decide_eq_true h
    obtain ⟨e, he, same⟩ := List.any_eq_true.mp counted
    exact ⟨e, he, told e.request same⟩
  have shown : played.2.toOption.map (fun o => (o.status, o.conclusion.note)) =
      some (.concluded, Notes.render ⟨"ClusterProvisioningDelay",
        ["ℹ️ Cluster is in state 'installing'", "⚠️ Subnets without a default route: subnet-a"]⟩) := by
    decide +kernel
  obtain ⟨_, untouched, _, course⟩ := attempts_leave_nothing d .provisioning alert
  obtain ⟨n, earlier, s, last, res, s', carried, _, failed, _, givenUp, concluded⟩ :=
    course _ _ found run
  generalize played.2 = r at shown givenUp concluded ⊢
  cases r with
  | error f => cases shown
  | ok o =>
    obtain ⟨status, text⟩ := Prod.mk.injEq .. ▸ Option.some.inj shown
    refine ⟨⟨found, reads⟩, o, rfl, status, repeated, text, n, earlier, s, last, ?_⟩
    have failedOnce := untouched reads n _ _ _ failed
    cases res with
    | error f =>
      obtain ⟨_, rfl⟩ := gives_fallBack_ok (givenUp f rfl)
      cases status
    | ok res =>
      obtain ⟨ctx, c⟩ := res
      obtain ⟨carriedOut, lines, came, note⟩ := concluded ctx c rfl
      rcases gives_carryOut carriedOut with ⟨same, _⟩ | ⟨_, _, f, _, _, fell⟩
      · cases same
        exact ⟨ctx, s', failed, failedOnce, lines, came, note⟩
      · obtain ⟨_, rfl⟩ := gives_fallBack_ok fell
        cases status

end Desk

end OnCall
