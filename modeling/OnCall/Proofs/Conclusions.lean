import OnCall.Proofs.Attempts

/-!
# The conclusions there are

* `Notes.Shows`: a text that shows some lines; `Notes.shows_render`: **a note shows its lines**.
* `Restriction.builtIn`: the restrictions that are ever set.
* `Conclusion.Regular`: the conclusions that an investigation comes to: its lines, at most one side
  action, and the routing that goes with it.
* `Conclusion.Covers`, `Investigation.concludes_steps`: what the steps of an investigation come to, in
  terms of any kind of conclusion that covers it; one short lemma for each program.
* `Investigation.regular_run`, `Desk.regular_attempt`: **every conclusion is regular**.
-/

namespace OnCall

/-! ## 1. What a note shows -/

namespace Notes

/-- **The text shows these lines**: they stand behind a heading, in order and each ended by a line
feed, and nothing stands between them or behind the last one. -/
def Shows (lines : List String) (text : String) : Prop :=
  ∃ heading, text = heading ++ String.join (lines.map (· ++ "\n"))

theorem shows_render (n : Notes) : Shows n.lines n.render := ⟨heading n.investigation, rfl⟩

/-- Every line that is shown stands in the text. -/
theorem Shows.occursIn {lines : List String} {line text : String} (h : Shows lines text)
    (mem : line ∈ lines) : Text.occursIn line text = true := by
  obtain ⟨heading, rfl⟩ := h
  obtain ⟨before, after, rfl⟩ := List.append_of_mem mem
  refine Text.occursIn_iff.mpr ⟨heading.toList ++ (String.join (before.map (· ++ "\n"))).toList,
    "\n".toList ++ (String.join (after.map (· ++ "\n"))).toList, ?_⟩
  rw [List.map_append, List.map_cons]
  simp only [String.join_append, String.join_cons, String.toList_append, List.append_assoc]

end Notes

/-! ## 2. Regular conclusions -/

/-- The restrictions that are ever set. -/
def Restriction.builtIn : List Restriction.Change :=
  [Unreachable.stoppedRestriction, Unreachable.egressRestriction, Credentials.invalid]

namespace Restriction

theorem stopped_builtIn : Unreachable.stoppedRestriction ∈ builtIn := List.mem_cons_self ..

theorem egress_builtIn : Unreachable.egressRestriction ∈ builtIn :=
  List.mem_cons_of_mem _ (List.mem_cons_self ..)

theorem invalid_builtIn : Credentials.invalid ∈ builtIn :=
  List.mem_cons_of_mem _ (List.mem_cons_of_mem _ (List.mem_cons_self ..))

end Restriction

/-- **The conclusions there are**, given what was written. A restriction goes with a silence, and an
advisory with a page. -/
inductive Conclusion.Regular (n : Notes) : Conclusion → Prop where
  | plain (routing : Routing) : Regular n ⟨n.render, [], routing⟩
  | restricting {change : Restriction.Change} (known : change ∈ Restriction.builtIn)
      (reason : String) : Regular n ⟨n.render, [.restrict change], .silence reason⟩
  | advising (draft : Advisory.Draft) (reason : String) :
      Regular n ⟨n.render, [.advise draft], .escalate reason⟩

namespace Conclusion.Regular

variable {n : Notes} {c : Conclusion}

theorem note_eq (h : c.Regular n) : c.note = n.render := by
  cases h <;> rfl

/-- What is set is built in. -/
theorem mem_builtIn (h : c.Regular n) {change : Restriction.Change}
    (mem : .restrict change ∈ c.sideActions) : change ∈ Restriction.builtIn := by
  cases h with
  | plain => cases mem
  | restricting known =>
    cases List.mem_singleton.mp mem
    exact known
  | advising => cases List.mem_singleton.mp mem

end Conclusion.Regular

/-! ## 3. What the steps come to -/

/-- **A kind of conclusion that covers what is decided of the incident alone**, given what was
written. No decision says that the investigation was inconclusive. -/
structure Conclusion.CoversRouting (P : Notes → Conclusion → Prop) : Prop where
  escalate : ∀ (n : Notes) (reason : String), reason ≠ "investigation was inconclusive" →
    P n ⟨n.render, [], .escalate reason⟩
  silence : ∀ (n : Notes) (reason : String), P n ⟨n.render, [], .silence reason⟩

/-- **A kind of conclusion that covers what the steps of an investigation come to.** -/
structure Conclusion.Covers (P : Notes → Conclusion → Prop) : Prop extends CoversRouting P where
  restrict : ∀ (n : Notes) (reason : String), ∀ change ∈ [Unreachable.stoppedRestriction,
    Unreachable.egressRestriction], P n ⟨n.render, [.restrict change], .silence reason⟩
  advise : ∀ (n : Notes) (draft : Advisory.Draft) (reason : String),
    reason ≠ "investigation was inconclusive" → P n ⟨n.render, [.advise draft], .escalate reason⟩

section Steps

variable {P : Notes → Conclusion → Prop} (ctx : Context) (now : Instant)

namespace Unreachable

theorem concludes_concludeByEgress (covers : Conclusion.Covers P) :
    (concludeByEgress ctx).Concludes P := by
  refine Inquiry.concludes_bind fun finding => ?_
  split
  · exact Inquiry.concludes_noted fun n => covers.escalate n _ (by decide)
  · split
    · refine Inquiry.concludes_bind fun _ => Inquiry.concludes_noted fun n => ?_
      exact covers.restrict n _ egressRestriction (List.mem_cons_of_mem _ List.mem_cons_self)
    · exact Inquiry.concludes_bind fun _ =>
        Inquiry.concludes_noted fun n => covers.advise n _ _ (by decide)
  · exact Inquiry.concludes_noted fun n => covers.escalate n _ (by decide)

theorem concludes_triggered (covers : Conclusion.Covers P) : (triggered ctx now).Concludes P := by
  have rest : Inquiry.Concludes P (do
      noteHibernation ctx now
      concludeByEgress ctx) :=
    Inquiry.concludes_bind fun _ => concludes_concludeByEgress ctx covers
  refine Inquiry.concludes_bind fun found => Inquiry.concludes_bind fun _ => ?_
  dsimp only
  split
  · exact Inquiry.concludes_bind fun _ => rest
  · exact Inquiry.concludes_bind fun _ => rest
  · refine Inquiry.concludes_bind fun _ => Inquiry.concludes_noted fun n => ?_
    exact covers.restrict n _ stoppedRestriction List.mem_cons_self

/-- Of a cluster that is back, only the incident is written to. -/
theorem concludes_recovered (covers : Conclusion.CoversRouting P) :
    (recovered ctx now).Concludes P := by
  refine Inquiry.concludes_bind fun _ => Inquiry.concludes_bind fun _ =>
    Inquiry.concludes_bind fun running => Inquiry.concludes_bind fun expected => ?_
  split
  · exact Inquiry.concludes_noted fun n => covers.escalate n _ (by decide)
  · refine Inquiry.concludes_bind fun _ => Inquiry.concludes_bind fun _ =>
      Inquiry.concludes_bind fun _ => ?_
    split
    · exact Inquiry.concludes_finish fun n => covers.escalate n _ (by decide)
    · exact Inquiry.concludes_finish fun n => covers.silence n _

end Unreachable

theorem Provisioning.concludes_run (covers : Conclusion.Covers P) : (run ctx).Concludes P := by
  unfold run
  split
  · exact Inquiry.concludes_noted fun n => covers.silence n _
  · refine Inquiry.concludes_bind fun _ => Inquiry.concludes_bind fun _ =>
      Inquiry.concludes_bind fun missing => ?_
    split
    · refine Inquiry.concludes_bind fun finding => ?_
      split
      · exact Inquiry.concludes_noted fun n => covers.escalate n _ (by decide)
      · exact Inquiry.concludes_noted fun n => covers.advise n _ _ (by decide)
      · exact Inquiry.concludes_noted fun n => covers.escalate n _ (by decide)
    · exact Inquiry.concludes_noted fun n => covers.advise n _ _ (by decide)

theorem Assisted.concludes_run (covers : Conclusion.CoversRouting P) : (run ctx).Concludes P := by
  unfold run
  split
  · refine Inquiry.concludes_bind fun _ => Inquiry.concludes_bind fun _ =>
      Inquiry.concludes_bind fun _ => ?_
    exact Inquiry.concludes_finish fun n => covers.escalate n _ (by decide)
  · exact Inquiry.concludes_noted fun n => covers.escalate n _ (by decide)

/-- **What the steps of an investigation come to.** -/
theorem Investigation.concludes_steps (i : Investigation) (covers : Conclusion.Covers P) :
    (i.steps ctx now).Concludes P := by
  cases i with
  | unreachable =>
    show (if ctx.alert.hasCleared then Unreachable.recovered ctx now
      else Unreachable.triggered ctx now).Concludes P
    split
    · exact Unreachable.concludes_recovered ctx now covers.toCoversRouting
    · exact Unreachable.concludes_triggered ctx now covers
  | provisioning => exact Provisioning.concludes_run ctx covers
  | assisted => exact Assisted.concludes_run ctx covers.toCoversRouting

end Steps

/-! ## 4. Every conclusion is regular -/

/-- Whatever the inquiry concludes is regular. -/
abbrev Inquiry.Regular (x : Inquiry Conclusion) : Prop := x.Concludes Conclusion.Regular

theorem Conclusion.covers_regular : Covers fun n c => c.Regular n where
  escalate := fun _ _ _ => .plain _
  silence := fun _ _ => .plain _
  restrict := by
    intro n reason change known
    refine .restricting ?_ reason
    rcases List.mem_cons.mp known with rfl | known
    · exact Restriction.stopped_builtIn
    · cases List.mem_singleton.mp known
      exact Restriction.egress_builtIn
  advise := fun _ draft reason _ => .advising draft reason

/-- **Every conclusion of an investigation is regular.** -/
theorem Investigation.regular_run (i : Investigation) (ctx : Context) : (i.run ctx).Regular :=
  Investigation.concludes_run (fun now => i.concludes_steps ctx now Conclusion.covers_regular)
    fun _ => .plain _

/-- So is the conclusion for revoked credentials. -/
theorem Credentials.regular_conclude (f : ResolutionFailure) (n : Notes) :
    (Credentials.conclude f n).Regular (Credentials.notes f n) :=
  .restricting Restriction.invalid_builtIn _

/-- **Every conclusion of an attempt is regular.** -/
theorem Desk.regular_attempt {d : Desk} {i : Investigation} {alert : Alert} {s s' : Dossier}
    {log : Log} {ctx : Context} {c : Conclusion}
    (run : Filing.Gives (d.attempt i alert) s log (.ok (ctx, c)) s') : ∃ n, c.Regular n := by
  rcases gives_attempt_ok run with ⟨_, _, notes, _, _, investigated⟩ | ⟨f, _, _, _, _, _, _, _, rfl⟩
  · exact ⟨notes, Investigation.regular_run i ctx _ _ _ _ investigated⟩
  · exact ⟨_, Credentials.regular_conclude f _⟩

end OnCall
