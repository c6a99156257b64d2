import OnCall.Proofs.Requests

/-!
# What an attempt does

* `Ask.Inquiring`: the requests an attempt may make. It reads, waits and counts; it never writes to
  the incident and posts nothing. Only the attempt for a cleared alert about a missing cluster
  deletes restrictions.
* `Desk.only_attempt`: **attempts do not write**.
* `Inquiry.Concludes`: what an inquiry concludes, if it does; again one short lemma for each program.
* `Investigation.gives_run_iff`: an investigation ends as its steps do, but for findings.
* `Desk.gives_attempt`: an attempt runs its investigation, or finds the credentials revoked, or
  could not resolve its context.
-/

namespace OnCall

/-- The requests an attempt may make; `deletes` says whether it may delete restrictions. -/
def Ask.Inquiring (deletes : Prop) : Ask → Prop
  | .call (.pager _) => False
  | .call (.manager (.postRestriction _ _)) => False
  | .call (.manager (.postAdvisory _ _)) => False
  | .call (.manager (.deleteRestriction _ _)) => deletes
  | _ => True

/-! ## 1. Attempts do not write -/

theorem Ask.admits_inquiring (deletes : Prop) : Ask.Admits (Ask.Inquiring deletes) deletes where
  look := by
    intro c kept read
    cases c with
    | manager call => cases call <;> first | exact absurd rfl kept | exact absurd rfl read | trivial
    | pager call => exact absurd rfl read
    | _ => trivial
  analyze := fun _ _ => trivial
  pause := fun _ => trivial
  now := trivial
  delete := fun deletes _ _ => deletes
  removed := fun _ => trivial

/-- **Attempts do not write**, whether they get to their investigation or not: they make no call to
the pager and post nothing, and only the one for a cleared alert about a missing cluster deletes. -/
theorem Desk.only_attempt {d : Desk} {i : Investigation} {alert : Alert} :
    Filing.Only (Ask.Inquiring (i.Lifts alert)) (d.attempt i alert) :=
  only_attempt_of (Ask.admits_inquiring _)

/-! ## 2. What inquiries conclude -/

namespace Inquiry

/-- If the inquiry comes to a conclusion, it is such a one, in view of what was written. -/
def Concludes (P : Notes → Conclusion → Prop) (x : Inquiry Conclusion) : Prop :=
  ∀ n log c n', Gives x n log (.ok c) n' → P n' c

variable {P : Notes → Conclusion → Prop} {α : Type} {finish : Conclusion.Draft → Conclusion}

/-- A conclusion with the lines so far. -/
theorem gives_drafted {n n' : Notes} {log : Log} {r : Except Failure Conclusion} :
    Gives (do return finish (← draft)) n log r n' ↔
      log = [] ∧ r = .ok (finish (.ofNotes n)) ∧ n' = n := run_done_pair

theorem concludes_bind {x : Inquiry α} {f : α → Inquiry Conclusion} (h : ∀ a, Concludes P (f a)) :
    Concludes P (x >>= f) := by
  intro n log c n' run
  obtain ⟨_, a, n₁, second, _, _, rest⟩ := gives_bind_ok.mp run
  exact h a n₁ second c n' rest

theorem concludes_finish (h : ∀ n, P n (finish (.ofNotes n))) :
    Concludes P (do return finish (← draft)) := by
  intro n log c n' run
  obtain ⟨_, same, rfl⟩ := gives_drafted.mp run
  cases same
  exact h n'

/-- The same after one more line. -/
theorem concludes_noted {mark : Mark} {message : String} (h : ∀ n, P n (finish (.ofNotes n))) :
    Concludes P (do
      note mark message
      return finish (← draft)) :=
  concludes_bind fun _ => concludes_finish h

theorem concludes_throw (f : Failure) : Concludes P (throw f : Inquiry Conclusion) := by
  intro n log c n' run
  cases (gives_throw.mp run).2.1

theorem concludes_tryCatch {x : Inquiry Conclusion} {handler : Failure → Inquiry Conclusion}
    (hx : Concludes P x) (hh : ∀ f, Concludes P (handler f)) : Concludes P (tryCatch x handler) := by
  intro n log c n' run
  rcases gives_tryCatch.mp run with ⟨c', same, ran⟩ | ⟨_, f, n₁, second, _, _, handled⟩
  · cases same
    exact hx n log c n' ran
  · exact hh f n₁ second c n' handled

end Inquiry

/-- An investigation concludes as its steps do, or pages with what was found out so far. -/
theorem Investigation.concludes_run {P : Notes → Conclusion → Prop} {i : Investigation}
    {ctx : Context} (steps : ∀ now, (i.steps ctx now).Concludes P)
    (inconclusive : ∀ n : Notes,
      P n ((Conclusion.Draft.ofNotes n).escalate "investigation was inconclusive")) :
    (i.run ctx).Concludes P := by
  refine Inquiry.concludes_bind fun now => ?_
  refine Inquiry.concludes_tryCatch (steps now) fun failure => ?_
  split
  · exact Inquiry.concludes_noted inconclusive
  · exact Inquiry.concludes_throw _

namespace Investigation

variable {i : Investigation} {ctx : Context} {n n' : Notes} {log : Log} {f : Failure}

/-- What an investigation makes of the end of its steps: a finding is noted and escalated. -/
def settle : Except Failure Conclusion → Notes → Except Failure Conclusion × Notes
  | .ok c, n => (.ok c, n)
  | .error f, n =>
    if f.isConclusive then
      (.ok ((Conclusion.Draft.ofNotes (n.add .warning f.full)).escalate
        "investigation was inconclusive"), n.add .warning f.full)
    else (.error f, n)

theorem settle_finding (finding : f.isConclusive = true) :
    settle (.error f) n = (.ok ((Conclusion.Draft.ofNotes (n.add .warning f.full)).escalate
      "investigation was inconclusive"), n.add .warning f.full) :=
  if_pos finding

theorem settle_other (other : f.isConclusive = false) : settle (.error f) n = (.error f, n) :=
  if_neg (Bool.eq_false_iff.mp other)

/-- **How an investigation ends**, by how its steps do. -/
theorem gives_run_iff {r : Except Failure Conclusion} :
    Inquiry.Gives (i.run ctx) n log r n' ↔
      ∃ now rest r₀ n₁, log = ⟨Ask.now, now⟩ :: rest ∧
        Inquiry.Gives (i.steps ctx now) n rest r₀ n₁ ∧ (r, n') = settle r₀ n₁ := by
  have handled (f : Failure) (n₁ : Notes) (second : Log) :
      Inquiry.Gives (if f.isConclusive then inconclusive f else throw f) n₁ second r n' ↔
        second = [] ∧ (r, n') = settle (.error f) n₁ := by
    rw [settle]
    split
    · exact Inquiry.gives_note_bind.trans (Inquiry.gives_drafted.trans (by rw [Prod.mk.injEq]))
    · exact Inquiry.gives_throw.trans (by rw [Prod.mk.injEq])
  rw [run, Inquiry.gives_bind]
  constructor
  · rintro (⟨first, now, n₁, rest, rfl, looked, tried⟩ | ⟨f, _, looked⟩)
    · obtain ⟨_, asked, told, rfl⟩ := Inquiry.gives_liftM.mp looked
      cases told
      rw [Program.run_request.mp asked]
      rcases Inquiry.gives_tryCatch.mp tried with ⟨c, rfl, ran⟩ | ⟨l₁, f, n₂, l₂, rfl, ran, ended⟩
      · exact ⟨now, rest, .ok c, n', rfl, ran, rfl⟩
      · obtain ⟨rfl, settled⟩ := (handled f n₂ l₂).mp ended
        exact ⟨now, l₁ ++ [], .error f, n₂, rfl, by rwa [List.append_nil], settled⟩
    · obtain ⟨_, _, wrong, _⟩ := Inquiry.gives_liftM.mp looked
      cases wrong
  · rintro ⟨now, rest, r₀, n₁, rfl, ran, settled⟩
    refine .inl ⟨[⟨Ask.now, now⟩], now, n, rest, rfl,
      Inquiry.gives_liftM.mpr ⟨now, Program.run_request.mpr rfl, rfl, rfl⟩, ?_⟩
    refine Inquiry.gives_tryCatch.mpr ?_
    cases r₀ with
    | ok c =>
      cases settled
      exact .inl ⟨c, rfl, ran⟩
    | error f =>
      exact .inr ⟨rest, f, n₁, [], (List.append_nil rest).symm, ran,
        (handled f n₁ []).mpr ⟨rfl, settled⟩⟩

end Investigation

/-! ## 3. How an attempt ends -/

namespace Desk

variable {d : Desk} {i : Investigation} {alert : Alert} {s s' : Dossier} {log : Log}

/-- The context of an attempt of an investigation. -/
abbrev contextFor (d : Desk) (i : Investigation) (alert : Alert) (needs : Requirements) :
    Resolving Context :=
  Context.build alert d.settings d.analyst i.name needs

/-- Nothing is written while the context is made. -/
theorem inquiring_context {needs : Requirements} {r : Except ResolutionFailure Context}
    (h : Resolving.Gives (d.contextFor i alert needs) s log r s') :
    ∀ e ∈ log, Ask.Inquiring False e.request := by
  have inquiring : Resolving.Only (Ask.Inquiring False) (d.contextFor i alert needs) :=
    Resolving.only_build (Ask.admits_inquiring False).resource
  exact (inquiring s).of_run h

/-- **An attempt** runs its investigation in a context; or the credentials are found revoked, and the
context is made without them; or it cannot be made. -/
theorem gives_attempt {r : Except Failure (Context × Conclusion)}
    (run : Filing.Gives (d.attempt i alert) s log r s') :
    (∃ ctx l₁ l₂ res notes, log = l₁ ++ l₂ ∧
      Resolving.Gives (d.contextFor i alert i.needs) s l₁ (.ok ctx) s' ∧
      Inquiry.Gives (i.run ctx) (.empty i.name) l₂ res notes ∧ r = res.map (ctx, ·)) ∨
    (∃ f l₁ l₂ s₁ res, log = l₁ ++ l₂ ∧
      Resolving.Gives (d.contextFor i alert i.needs) s l₁ (.error f) s₁ ∧
      f.showsRevocation = true ∧
      Resolving.Gives (d.contextFor i alert .none) s₁ l₂ res s' ∧
      r = (res.mapError unresolved).map (·, Credentials.conclude f (.empty i.name))) ∨
    ∃ f, Resolving.Gives (d.contextFor i alert i.needs) s log (.error f) s' ∧
      r = .error (unresolved f) := by
  obtain ⟨l₁, built, s₁, l₂, rfl, resolved, run⟩ := Filing.gives_bind.mp run
  cases built with
  | ok ctx =>
    obtain ⟨l₃, ⟨res, notes⟩, s₂, l₄, rfl, lifted, ending⟩ := Filing.gives_bind.mp run
    obtain ⟨investigated, rfl⟩ := Filing.gives_liftM.mp lifted
    obtain ⟨rfl, rfl, rfl⟩ := Filing.gives_pure.mp ending
    rw [(Context.blank_of_build resolved).2.2] at investigated
    exact .inl ⟨ctx, l₁, l₃, res, notes, by rw [List.append_nil], resolved, investigated, rfl⟩
  | error f =>
    dsimp only at run
    split at run
    · rename_i revoked
      obtain ⟨l₃, res, s₂, l₄, rfl, rebuilt, run⟩ := Filing.gives_bind.mp run
      refine .inr (.inl ⟨f, l₁, l₃, s₁, res, ?_⟩)
      cases res with
      | ok ctx =>
        obtain ⟨rfl, rfl, rfl⟩ := Filing.gives_pure.mp run
        rw [(Context.blank_of_build rebuilt).2.2]
        exact ⟨by rw [List.append_nil], resolved, revoked, rebuilt, rfl⟩
      | error g =>
        obtain ⟨rfl, rfl, rfl⟩ := Filing.gives_pure.mp run
        exact ⟨by rw [List.append_nil], resolved, revoked, rebuilt, rfl⟩
    · obtain ⟨rfl, rfl, rfl⟩ := Filing.gives_pure.mp run
      rw [List.append_nil]
      exact .inr (.inr ⟨f, resolved, rfl⟩)

/-- An attempt that concluded ran its investigation in a context, or found the credentials
revoked. -/
theorem gives_attempt_ok {ctx : Context} {c : Conclusion}
    (run : Filing.Gives (d.attempt i alert) s log (.ok (ctx, c)) s') :
    (∃ l₁ l₂ notes, log = l₁ ++ l₂ ∧
      Resolving.Gives (d.contextFor i alert i.needs) s l₁ (.ok ctx) s' ∧
      Inquiry.Gives (i.run ctx) (.empty i.name) l₂ (.ok c) notes) ∨
    ∃ f l₁ l₂ s₁, log = l₁ ++ l₂ ∧
      Resolving.Gives (d.contextFor i alert i.needs) s l₁ (.error f) s₁ ∧
      f.showsRevocation = true ∧
      Resolving.Gives (d.contextFor i alert .none) s₁ l₂ (.ok ctx) s' ∧
      c = Credentials.conclude f (.empty i.name) := by
  rcases gives_attempt run with ⟨_, l₁, l₂, _ | c', notes, rfl, built, investigated, same⟩ |
    ⟨f, l₁, l₂, s₁, _ | ctx', rfl, built, revoked, rebuilt, same⟩ | ⟨_, _, wrong⟩
  · cases same
  · cases same
    exact .inl ⟨l₁, l₂, notes, rfl, built, investigated⟩
  · cases same
  · cases same
    exact .inr ⟨f, l₁, l₂, s₁, rfl, built, revoked, rebuilt, rfl⟩
  · cases wrong

/-- The context of an attempt that concluded is one for the alert, under the settings of the
desk, and its cluster is on file. -/
theorem context_of_attempt_ok {ctx : Context} {c : Conclusion}
    (run : Filing.Gives (d.attempt i alert) s log (.ok (ctx, c)) s') :
    ctx.alert = alert ∧ ctx.settings = d.settings ∧ s'.cluster = some ctx.cluster := by
  rcases gives_attempt_ok run with ⟨l₁, l₂, notes, rfl, built, _⟩ |
    ⟨f, l₁, l₂, s₁, rfl, _, _, built, _⟩
  · obtain ⟨ha, hs, _⟩ := Context.gives_build_ok built
    exact ⟨ha, hs, Context.cluster_of_build_ok built⟩
  · obtain ⟨ha, hs, _⟩ := Context.gives_build_ok built
    exact ⟨ha, hs, Context.cluster_of_build_ok built⟩

/-- Whatever comes of an attempt, the cluster on file is one that the platform answered with. -/
theorem grounded_attempt {past : Log} {r : Except Failure (Context × Conclusion)}
    (grounded : s.Grounded alert past) (run : Filing.Gives (d.attempt i alert) s log r s') :
    s'.Grounded alert (past ++ log) := by
  rcases gives_attempt run with ⟨_, l₁, l₂, _, _, rfl, built, _, _⟩ |
    ⟨f, l₁, l₂, s₁, _, rfl, built, _, rebuilt, _⟩ | ⟨f, built, _⟩
  · rw [← List.append_assoc]
    exact (Context.grounded_build grounded built).mono l₂
  · rw [← List.append_assoc]
    exact Context.grounded_build (Context.grounded_build grounded built) rebuilt
  · exact Context.grounded_build grounded built

/-! ## 4. How an alert is handled -/

/-- The failed attempts before the one that counts write nothing either. -/
theorem only_attempts {n : Nat}
    (tries : Retries (Filing.Gives (d.attempt i alert)) Repeating n s log s') :
    ∀ e ∈ log, Ask.Inquiring (i.Lifts alert) e.request := by
  induction tries with
  | none s => exact fun _ he => absurd he List.not_mem_nil
  | more failed next _ ih =>
    obtain ⟨_, span, rfl⟩ := next
    intro e he
    rcases List.mem_append.mp he with he | he
    · exact (only_attempt _).of_run failed e he
    · rcases List.mem_append.mp he with he | he
      · rcases List.mem_cons.mp he with rfl | he
        · trivial
        · rw [List.mem_singleton.mp he]
          trivial
      · exact ih e he

/-- Whatever comes of the failed attempts, the cluster on file is one that the platform answered
with. -/
theorem grounded_attempts {n : Nat} {past : Log} (grounded : s.Grounded alert past)
    (tries : Retries (Filing.Gives (d.attempt i alert)) Repeating n s log s') :
    s'.Grounded alert (past ++ log) := by
  induction tries generalizing past with
  | none s => exact grounded.mono []
  | @more n s s₁ s₂ first mid rest f failed next _ ih =>
    have later := ih ((grounded_attempt grounded failed).mono mid)
    rwa [List.append_assoc, List.append_assoc] at later

/-- What is counted first leaves one exchange, and does not fail. -/
theorem gives_counted {α : Type} {counter : Counter} {x : Fallible α} {r : Except Failure α}
    (run : Fallible.Gives (do Work.count counter; x) log r) :
    ∃ rest, log = ⟨Ask.count counter, ()⟩ :: rest ∧ Fallible.Gives x rest r := by
  rcases Fallible.gives_bind.mp run with ⟨first, _, rest, rfl, h₁, h₂⟩ | ⟨f, rfl, h₁⟩
  · obtain ⟨_, counted, _⟩ := Fallible.gives_liftM.mp h₁
    rw [Program.run_request.mp counted]
    exact ⟨rest, rfl, h₂⟩
  · obtain ⟨_, _, hr⟩ := Fallible.gives_liftM.mp h₁
    cases hr

/-- The conclusion that a fallback carries out. -/
def fallbackConclusion (name : String) (mark : Mark) (line reason : String) : Conclusion :=
  (Conclusion.Draft.ofNotes ((Notes.empty name).add mark line)).escalate reason

/-- A fallback carries out its conclusion, and ends as that does. -/
theorem gives_fallBack {cluster : Option Cluster} {name : String} {status : OutcomeStatus}
    {mark : Mark} {line reason : String} {r : Except Failure Outcome}
    (run : Fallible.Gives (d.fallBack alert cluster name status mark line reason) log r) :
    ∃ r₀, Fallible.Gives ((fallbackConclusion name mark line reason).execute
        ⟨alert.incidentId, cluster, d.settings.retry⟩) log r₀ ∧
      ((r₀ = .ok () ∧ r = .ok ⟨name, status, fallbackConclusion name mark line reason⟩) ∨
        ∃ f g, r₀ = .error f ∧ r = .error g) := by
  rcases Fallible.gives_bind.mp run with ⟨first, _, second, rfl, h₁, h₂⟩ | ⟨g, rfl, h₁⟩
  · obtain ⟨rfl, rfl⟩ := Fallible.gives_pure.mp h₂
    obtain ⟨f | _, executed, hr⟩ := Fallible.gives_adapt.mp h₁
    · cases hr
    · rw [List.append_nil]
      exact ⟨_, executed, .inl ⟨rfl, rfl⟩⟩
  · obtain ⟨f | _, executed, hr⟩ := Fallible.gives_adapt.mp h₁
    · exact ⟨_, executed, .inr ⟨f, g, rfl, rfl⟩⟩
    · cases hr

/-- A conclusion is carried out, or that failed and is reported. -/
theorem gives_carryOut {name : String} {ctx : Context} {c : Conclusion}
    {r : Except Failure Outcome} (run : Fallible.Gives (d.carryOut name ctx c) log r) :
    let site : Site := ⟨ctx.alert.incidentId, some ctx.cluster, ctx.settings.retry⟩
    (r = .ok ⟨name, .concluded, c⟩ ∧ Fallible.Gives (c.execute site) log (.ok ())) ∨
      ∃ first last f, log = first ++ last ∧ Fallible.Gives (c.execute site) first (.error f) ∧
        Fallible.Gives (d.reportUnapplied ctx f) last r := by
  rcases Fallible.gives_bind.mp run with ⟨first, r₀, second, rfl, h₁, h₂⟩ | ⟨f, _, h₁⟩
  · obtain ⟨_, executed, hr⟩ := Fallible.gives_liftM.mp h₁
    cases hr
    cases r₀ with
    | ok _ =>
      obtain ⟨rfl, rfl⟩ := Fallible.gives_pure.mp h₂
      rw [List.append_nil]
      exact .inl ⟨rfl, executed⟩
    | error f => exact .inr ⟨first, second, f, rfl, executed, h₂⟩
  · obtain ⟨_, _, hr⟩ := Fallible.gives_liftM.mp h₁
    cases hr

/-- **The handling of an alert**: no investigation is for it; or its attempts end with a conclusion
that is carried out, or with a failure that is given up on. -/
theorem gives_handle {r : Except Failure Outcome} (run : Fallible.Gives (d.handle alert) log r) :
    ∃ rest, log = ⟨Ask.count .alertsHandled, ()⟩ :: rest ∧
      ((d.roster.find alert.title = none ∧
          Fallible.Gives (d.fallBack alert none unmatchedName .unmatched .info
            ("No automated investigation exists for \"" ++ alert.title ++ "\"")
            "no automated investigation available") rest r) ∨
        ∃ i, d.roster.find alert.title = some i ∧ ∃ tries res s carried, rest = tries ++ carried ∧
          Filing.Gives (d.attempts i alert) .empty tries res s ∧
          ((∃ ctx c, res = .ok (ctx, c) ∧ Fallible.Gives (d.carryOut i.name ctx c) carried r) ∨
            ∃ f, res = .error f ∧
              Fallible.Gives (d.giveUp alert s.cluster i.name f) carried r)) := by
  unfold handle at run
  split at run
  · rename_i unmatched
    obtain ⟨rest, rfl, h⟩ := gives_counted run
    exact ⟨rest, rfl, .inl ⟨unmatched, h⟩⟩
  · rename_i i found
    obtain ⟨rest, rfl, h⟩ := gives_counted run
    refine ⟨rest, rfl, .inr ⟨i, found, ?_⟩⟩
    rcases Fallible.gives_bind.mp h with ⟨tries, ⟨res, s⟩, carried, rfl, h₁, h₂⟩ | ⟨f, rfl, h₁⟩
    · obtain ⟨_, tried, hr⟩ := Fallible.gives_liftM.mp h₁
      cases hr
      refine ⟨tries, res, s, carried, rfl, tried, ?_⟩
      rcases res with f | ⟨ctx, c⟩
      · exact .inr ⟨f, rfl, h₂⟩
      · exact .inl ⟨ctx, c, rfl, h₂⟩
    · obtain ⟨_, _, hr⟩ := Fallible.gives_liftM.mp h₁
      cases hr

end Desk

end OnCall
