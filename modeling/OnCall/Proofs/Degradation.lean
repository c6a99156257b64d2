import OnCall.Proofs.Denials
import OnCall.Proofs.Outcomes
import OnCall.Proofs.Probing

/-!
# What goes on without an answer

The lookups that an investigation can go on without never make it fail: they leave out a line or add
one.

* `Assisted.Course`: what an assisted investigation asks for and concludes; `Assisted.course_run`:
  **it concludes whatever it is answered**.
* `Desk.Degrades`: what an attempt may come to for want of answers.
* `Desk.secondary_lookups_only_degrade`: **no attempt fails, is repeated or is inconclusive for want
  of an answer that is not needed**.
-/

namespace OnCall

/-! ## 1. Lines -/

namespace Notes

theorem render_add (n : Notes) (mark : Mark) (message : String) :
    (n.add mark message).render = n.render ++ (mark.sign ++ " " ++ message ++ "\n") := by
  simp [render, add, String.append_assoc]

/-- The last line of a note tells its mark. -/
theorem mark_of_render {n : Notes} {mark mark' : Mark} {message message' : String}
    (same : (n.add mark message).render = (n.add mark' message').render) : mark = mark' := by
  rw [render_add, render_add] at same
  have lines := congrArg String.toList ((String.append_right_inj n.render).mp same)
  have first (m : Mark) (text : String) :
      (m.sign ++ " " ++ text ++ "\n").toList.head? = m.sign.toList.head? := by
    cases m <;> simp [Mark.sign]
  have heads := congrArg List.head? lines
  rw [first, first] at heads
  -- the four signs start with four characters
  revert heads
  cases mark <;> cases mark' <;> decide

end Notes

/-! ## 2. The assisted investigation -/

/-- The exchange is an answer of the analyst that is of no use: an error, or one that came late. -/
def Exchange.isUnusable (limit : Span) : Exchange collaboration → Bool
  | ⟨Ask.analyze _ _, answer⟩ => !answer.reply.isOk || !decide (answer.elapsed ≤ limit)
  | _ => false

namespace Assisted

/-- **What is noted of an answer of the analyst**: its summary only if it came in time. -/
inductive Noted (limit : Span) : Timed (Except Failure String) → Mark → String → Prop where
  | summary {elapsed : Span} (inTime : elapsed ≤ limit) (summary : String) :
      Noted limit ⟨elapsed, .ok summary⟩ .info ("AI-assisted analysis:\n" ++ summary)
  | failed {elapsed : Span} (inTime : elapsed ≤ limit) (f : Failure) :
      Noted limit ⟨elapsed, .error f⟩ .warning ("AI-assisted analysis failed: " ++ f.full)
  | late {elapsed : Span} (late : ¬ elapsed ≤ limit) (reply : Except Failure String) :
      Noted limit ⟨elapsed, reply⟩ .warning
        ("AI-assisted analysis timed out after " ++ toString limit.seconds ++ "s")

/-- **What an assisted investigation asks for and concludes**: one line and a page. An organization
that could not be found is left out of the request. -/
inductive Course (ctx : Context) (n : Notes) : Log → Conclusion → Prop where
  | unconfigured (off : ctx.analyst = false) :
      Course ctx n [] ⟨(n.add .warning "AI-assisted analysis is not configured").render, [],
        .escalate "no automated analysis available"⟩
  | analyzed (on : ctx.analyst = true) (organization : Except Failure String)
      {answer : Timed (Except Failure String)} {mark : Mark} {message : String}
      (noted : Noted ctx.settings.analysisTimeout answer mark message) :
      Course ctx n
        [(Call.manager (.organization ctx.cluster)).exchange organization,
          ⟨Ask.analyze ⟨ctx.cluster.id, ctx.cluster.externalId, organization.toOption,
            ctx.alert.title, n.lines⟩ ctx.settings.analysisTimeout, answer⟩]
        ⟨(n.add mark message).render, [], .escalate "AI-assisted analysis needs human review"⟩

/-- An answer that is an error or came late is warned of. -/
theorem Noted.warns {limit limit' : Span} {request : AnalysisRequest}
    {answer : Timed (Except Failure String)} {mark : Mark} {message : String}
    (h : Noted limit answer mark message)
    (unusable : Exchange.isUnusable limit ⟨Ask.analyze request limit', answer⟩ = true) :
    mark = .warning := by
  cases h with
  | @summary elapsed inTime summary =>
    have late : ¬ elapsed ≤ limit := by
      simpa [Exchange.isUnusable, Except.isOk, Except.toBool] using unusable
    exact absurd inTime late
  | failed => rfl
  | late => rfl

theorem noted_of_noteAnalysis {request : AnalysisRequest} {limit : Span} {n n' : Notes} {log : Log}
    {r : Except Failure Unit} (h : Inquiry.Gives (noteAnalysis request limit) n log r n') :
    ∃ answer mark message, log = [⟨Ask.analyze request limit, answer⟩] ∧
      Noted limit answer mark message ∧ r = .ok () ∧ n' = n.add mark message := by
  rcases Inquiry.gives_bind.mp h with ⟨l₁, answer, n₁, l₂, rfl, asked, noting⟩ | ⟨f, _, asked⟩
  · obtain ⟨_, run, same, rfl⟩ := Inquiry.gives_liftM.mp asked
    cases same
    rw [Program.run_request.mp run]
    obtain ⟨elapsed, reply⟩ := answer
    split at noting
    · rename_i inTime
      cases reply with
      | ok summary =>
        obtain ⟨rfl, rfl, rfl⟩ := Inquiry.gives_note.mp noting
        exact ⟨_, _, _, rfl, .summary inTime summary, rfl, rfl⟩
      | error f =>
        obtain ⟨rfl, rfl, rfl⟩ := Inquiry.gives_note.mp noting
        exact ⟨_, _, _, rfl, .failed inTime f, rfl, rfl⟩
    · rename_i late
      obtain ⟨rfl, rfl, rfl⟩ := Inquiry.gives_note.mp noting
      exact ⟨_, _, _, rfl, .late late reply, rfl, rfl⟩
  · obtain ⟨_, _, wrong, _⟩ := Inquiry.gives_liftM.mp asked
    cases wrong

/-- **An assisted investigation concludes**, whatever it is answered. -/
theorem course_run {ctx : Context} {n n' : Notes} {log : Log} {r : Except Failure Conclusion}
    (h : Inquiry.Gives (run ctx) n log r n') : ∃ c, r = .ok c ∧ Course ctx n log c := by
  unfold run at h
  split at h
  · rename_i on
    rcases Inquiry.gives_bind.mp h with ⟨l₁, organization, n₁, l₂, rfl, asked, h₁⟩ | ⟨f, _, asked⟩
    · obtain ⟨_, called, same, rfl⟩ := Inquiry.gives_attempt.mp asked
      cases same
      rw [Fallible.gives_call.mp called]
      rcases Inquiry.gives_bind.mp h₁ with ⟨l₃, n₂, n₃, l₄, rfl, known, h₂⟩ | ⟨f, _, known⟩
      · obtain ⟨rfl, same, rfl⟩ := Inquiry.run_done_pair.mp known
        cases same
        rcases Inquiry.gives_bind.mp h₂ with ⟨l₅, _, n₄, l₆, rfl, noting, ended⟩ | ⟨f, _, noting⟩
        · obtain ⟨answer, mark, message, rfl, noted, _, rfl⟩ := noted_of_noteAnalysis noting
          obtain ⟨rfl, rfl, rfl⟩ := Inquiry.gives_drafted.mp ended
          exact ⟨_, rfl, .analyzed on organization noted⟩
        · obtain ⟨_, _, _, _, _, wrong, _⟩ := noted_of_noteAnalysis noting
          cases wrong
      · cases (Inquiry.run_done_pair.mp known).2.1
    · obtain ⟨_, _, wrong, _⟩ := Inquiry.gives_attempt.mp asked
      cases wrong
  · rename_i off
    obtain ⟨rfl, rfl, rfl⟩ := Inquiry.gives_drafted.mp (Inquiry.gives_note_bind.mp h)
    exact ⟨_, rfl, .unconfigured (Bool.not_eq_true _ ▸ off)⟩

/-- **A conclusion of an assisted investigation**, after these exchanges: a note of one line, and a
page. The line is not a summary if the analyst's answer is of no use. -/
structure Ends (limit : Span) (log : Log) (c : Conclusion) : Prop where
  plain : ∃ mark message reason,
    c = ⟨((Notes.empty name).add mark message).render, [], .escalate reason⟩
  unusable : ∀ e ∈ log, e.isUnusable limit = true → ∀ summary,
    c.note ≠ ((Notes.empty name).add .info ("AI-assisted analysis:\n" ++ summary)).render

theorem Course.ends {ctx : Context} {log : Log} {c : Conclusion}
    (h : Course ctx (.empty name) log c) : Ends ctx.settings.analysisTimeout log c := by
  cases h with
  | unconfigured => exact ⟨⟨_, _, _, rfl⟩, fun _ mem => absurd mem List.not_mem_nil⟩
  | @analyzed on organization answer mark message noted =>
    refine ⟨⟨mark, message, _, rfl⟩, fun e mem unusable summary same => ?_⟩
    rcases List.mem_cons.mp mem with rfl | mem
    · cases unusable
    · rw [List.mem_singleton.mp mem] at unusable
      have info := Notes.mark_of_render same
      rw [noted.warns unusable] at info
      cases info

theorem Ends.append_left {limit : Span} {log earlier : Log} {c : Conclusion} (h : Ends limit log c)
    (quiet : ∀ e ∈ earlier, ∀ request limit', e.request ≠ .analyze request limit') :
    Ends limit (earlier ++ log) c where
  plain := h.plain
  unusable := by
    intro e mem unusable
    rcases List.mem_append.mp mem with mem | mem
    · obtain ⟨q, answer⟩ := e
      cases q with
      | analyze request limit' => exact absurd rfl (quiet _ mem request limit')
      | _ => cases unusable
    · exact h.unusable e mem unusable

end Assisted

/-! ## 3. Attempts -/

namespace Desk

variable {d : Desk} {i : Investigation} {alert : Alert} {s s' : Dossier} {log : Log}
  {r : Except Failure (Context × Conclusion)}

/-- **What an attempt may come to for want of answers.** -/
structure Degrades (log : Log) (r : Except Failure (Context × Conclusion)) : Prop where
  /-- It fails only by a call that is needed, which was refused last. -/
  failing : ∀ f, r = .error f → log.Denied f
  /-- It is inconclusive only by such a call, or because nobody can be blamed. -/
  undecided : ∀ ctx c, r = .ok (ctx, c) → ¬ c.Decided →
    ∃ f, f.isConclusive = true ∧ log.Stuck ctx.cluster.ccs f
  /-- It concludes if only calls were refused that are not needed. -/
  concluding : (∀ (c : Call) f, c.exchange (.error f) ∈ log → c.isSecondary = true) →
    ∃ ctx c, r = .ok (ctx, c) ∧ (c.Decided ∨ ∃ f, log.Unjudged ctx.cluster.ccs f)
  /-- A probe without a verdict adds a line, and a person is paged. -/
  unprobed : ∀ e f, e ∈ log → e.StopsProbe f →
    ∃ ctx notes, r = .ok (ctx, Conclusion.unprobed notes f)
  /-- A security group that could not be found is left out of the target. -/
  ungrouped : ∀ client infraId group,
    (Call.cloud client (.securityGroup infraId)).exchange group ∈ log →
    ∃ ctx c before listed subnetIds reply, r = .ok (ctx, c) ∧
      EgressFinding.Listed ctx client infraId listed (.ok subnetIds) ∧
      log = before ++ (listed ++ [(Call.cloud client (.securityGroup infraId)).exchange group,
        (Call.verifyEgress ⟨ctx.cluster.id, ctx.cluster.region, subnetIds, group.toOption,
          ctx.cluster.hosted⟩).exchange reply])

theorem degrades_attempt (run : Filing.Gives (d.attempt i alert) s log r s') : Degrades log r where
  failing := by
    rintro f rfl
    exact denied_of_attempt run
  undecided := by
    rintro ctx c rfl
    exact undecided_of_attempt run
  concluding := by
    intro secondary
    have answered (f : Failure) : ¬ log.Denied f := by
      rintro ⟨c, g, needed, ⟨earlier, rfl⟩, _⟩
      rw [secondary c g (List.mem_append_right _ (List.mem_singleton_self _))] at needed
      cases needed
    rcases r with f | ⟨ctx, c⟩
    · exact absurd (denied_of_attempt run) (answered f)
    · refine ⟨ctx, c, rfl, ?_⟩
      by_cases decided : c.Decided
      · exact .inl decided
      · obtain ⟨f, _, denied | unjudged⟩ := undecided_of_attempt run decided
        · exact absurd denied (answered f)
        · exact .inr ⟨f, unjudged⟩
  unprobed := fun _ _ mem stops => unprobed_of_attempt run mem stops
  ungrouped := fun _ _ _ mem => grouped_of_attempt run mem

/-- Only who asks for the cloud account finds the credentials revoked, and by then the cluster is on
file. -/
theorem cloud_of_revoked {needs : Requirements} {f : ResolutionFailure}
    (h : Resolving.Gives (d.contextFor i alert needs) s log (.error f) s')
    (revoked : f.showsRevocation = true) :
    needs.cloud = true ∧ ∃ c, s'.cluster = some c := by
  have resource : f.resource = .cloud := of_decide_eq_true (Bool.and_eq_true_iff.mp revoked).1
  rcases Context.gives_build_error h with ⟨other, _⟩ | ⟨other, _⟩ | ⟨_, asked, c, known, _⟩
  · rw [other] at resource
    cases resource
  · rw [other] at resource
    cases resource
  · exact ⟨asked, c, known⟩

/-- **An attempt of the assisted investigation ends with one line and a page.** -/
theorem ends_attempt {ctx : Context} {c : Conclusion}
    (run : Filing.Gives (d.attempt .assisted alert) s log (.ok (ctx, c)) s') :
    Assisted.Ends d.settings.analysisTimeout log c := by
  rcases gives_attempt_ok run with ⟨l₁, l₂, notes, rfl, built, ran⟩ |
    ⟨f, l₁, l₂, s₁, rfl, built, revoked, _⟩
  · obtain ⟨_, settings, _⟩ := Context.gives_build_ok built
    have making : Resolving.Only (fun q => ∀ request limit, q ≠ .analyze request limit)
        (d.contextFor .assisted alert Investigation.assisted.needs) :=
      Resolving.only_build fun _ _ => nofun
    refine .append_left ?_ ((making s).of_run built)
    obtain ⟨now, rest, n₁, rfl, ⟨_, asked⟩ | ⟨_, _, asked, _⟩⟩ := Investigation.gives_run ran
    · obtain ⟨_, same, course⟩ := Assisted.course_run asked
      cases same
      have ends := course.ends
      rw [settings] at ends
      have clock : ∀ e ∈ ([⟨Ask.now, now⟩] : Log),
          ∀ request limit', e.request ≠ .analyze request limit' := by
        intro e he
        rw [List.mem_singleton.mp he]
        nofun
      exact ends.append_left clock
    · obtain ⟨_, wrong, _⟩ := Assisted.course_run asked
      cases wrong
  · cases (cloud_of_revoked built revoked).1

/-! ## 4. Handling -/

/-- Whatever becomes of an alert that is put to the analyst, a note is written and a person is
paged. -/
theorem shape_assisted {log : Log} {o : Outcome}
    (found : d.roster.find alert.title = some .assisted)
    (run : Fallible.Gives (d.handle alert) log (.ok o)) :
    o.conclusion.shape = ["note", "escalate"] := by
  obtain ⟨rest, rfl, ⟨unmatched, _⟩ | ⟨i, other, tries, res, s, carried, rfl, tried, ended⟩⟩ :=
    gives_handle run
  · rw [found] at unmatched
    cases unmatched
  · rw [found] at other
    cases other
    rcases ended with ⟨ctx, c, rfl, carriedOut⟩ | ⟨f, rfl, givenUp⟩
    · rcases gives_carryOut carriedOut with ⟨same, _⟩ | ⟨_, _, f, rfl, _, fell⟩
      · cases same
        obtain ⟨_, _, _, _, _, rfl, _, counts, _⟩ := gives_attempts tried
        obtain ⟨_, _, _, rfl⟩ := (ends_attempt counts).plain
        rfl
      · obtain ⟨_, rfl⟩ := gives_fallBack_ok fell
        rfl
    · obtain ⟨_, rfl⟩ := gives_fallBack_ok givenUp
      rfl

end Desk

end OnCall
