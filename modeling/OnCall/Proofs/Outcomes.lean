import OnCall.Proofs.Paging

/-!
# What an outcome tells of the incident

The outcome of a handling has a conclusion: the one that was carried out last. If an earlier one was
given up halfway, what it did to the incident is not told.

* `written`: the writes of a run to incidents that succeeded, as steps of a conclusion.
* `Conclusion.written_execute`, `Conclusion.only_execute`: carrying out a conclusion writes and posts
  what the conclusion has.
* `Desk.Ended`: how a handling came to its outcome; `Desk.ended_handle`.
* `Outcome.Reports`: the outcome tells what was done to the incident.
* `Desk.handle_reports_iff`: **it does, unless an earlier note stays on the incident**.
-/

namespace OnCall

/-! ## 1. What is written to an incident -/

/-- The step is a write to the incident. -/
def Action.isWrite : Action → Bool
  | side _ => false
  | _ => true

/-- A conclusion writes its note and its terminal action. -/
theorem Conclusion.filter_isWrite_actions (c : Conclusion) :
    c.actions.filter Action.isWrite = [.note c.note, c.terminal] := by
  have aside : (c.sideActions.map Action.side).filter Action.isWrite = [] := by
    simp [List.filter_eq_nil_iff, Action.isWrite]
  simp [actions, terminal, List.filter_cons, List.filter_append, Action.isWrite, aside]

theorem Conclusion.mem_sideActions (c : Conclusion) {a : SideAction} (h : .side a ∈ c.actions) :
    a ∈ c.sideActions := by
  rcases List.mem_append.mp h with h | h
  · rcases List.mem_cons.mp h with h | h
    · cases h
    · obtain ⟨a', mem, same⟩ := List.mem_map.mp h
      cases same
      exact mem
  · cases List.mem_singleton.mp h

/-- The step that a call to the pager was, with its incident; nothing if it failed. -/
def Paged.write? : Paged → Option (String × Action)
  | (.addNote incidentId text, .ok _) => some (incidentId, .note text)
  | (.escalate incidentId reason, .ok _) => some (incidentId, .terminal (.escalate reason))
  | (.silence incidentId reason, .ok _) => some (incidentId, .terminal (.silence reason))
  | (_, .error _) => none

/-- The writes of a run that succeeded, in order. -/
def written (log : Log) : List (String × Action) := (pagerCalls log).filterMap Paged.write?

/-- A restriction was posted. -/
def RestrictionPosted (log : Log) : Prop :=
  ∃ clusterId r, (Call.manager (.postRestriction clusterId r)).exchange (.ok ()) ∈ log

/-- An advisory was posted. -/
def AdvisoryPosted (log : Log) : Prop :=
  ∃ cluster advisory, (Call.manager (.postAdvisory cluster advisory)).exchange (.ok ()) ∈ log

/-- The first call to the pager was a note, and it was refused. -/
def FirstNoteRefused (incidentId : String) (log : Log) : Prop :=
  ∃ text f, (pagerCalls log).head? = some (.addNote incidentId text, .error f)

section Written

variable {log first second : Log} {incidentId : String}

theorem written_append : written (first ++ second) = written first ++ written second := by
  rw [written, pagerCalls_append, List.filterMap_append]
  rfl

@[simp] theorem Paged.write?_note_ok (text : String) :
    Paged.write? (.addNote incidentId text, .ok ()) = some (incidentId, .note text) := rfl

@[simp] theorem Paged.write?_call_ok (r : Routing) :
    Paged.write? (r.call incidentId, .ok ()) = some (incidentId, .terminal r) := by
  cases r <;> rfl

@[simp] theorem Paged.write?_error (call : PagerCall) (f : Failure) :
    Paged.write? (call, .error f) = none := by
  cases call <;> rfl

end Written

/-! ## 2. Carrying out a conclusion -/

/-- What may be posted: restrictions and advisories, if `restricts` and `advises` say so. -/
def Ask.Posting (restricts advises : Prop) : Ask → Prop
  | .call (.manager (.postRestriction _ _)) => restricts
  | .call (.manager (.postAdvisory _ _)) => advises
  | _ => True

theorem Ask.Inquiring.posting {deletes restricts advises : Prop} {q : Ask}
    (h : q.Inquiring deletes) : q.Posting restricts advises := by
  cases q with
  | call c =>
    cases c with
    | manager call => cases call <;> first | exact h.elim | trivial
    | _ => trivial
  | _ => trivial

theorem Ask.Posting.imp {restricts restricts' advises advises' : Prop} {q : Ask}
    (h : q.Posting restricts advises) (r : restricts → restricts') (a : advises → advises') :
    q.Posting restricts' advises' := by
  cases q with
  | call c =>
    cases c with
    | manager call => cases call <;> first | exact r h | exact a h | trivial
    | _ => trivial
  | _ => trivial

section Execution

variable {site : Site} {c : Conclusion} {log : Log} {f : Failure} {restricts advises : Prop}

theorem RestrictionPosted.of_posting (h : RestrictionPosted log)
    (posting : ∀ e ∈ log, Ask.Posting restricts advises e.request) : restricts := by
  obtain ⟨clusterId, r, mem⟩ := h
  exact posting _ mem

theorem AdvisoryPosted.of_posting (h : AdvisoryPosted log)
    (posting : ∀ e ∈ log, Ask.Posting restricts advises e.request) : advises := by
  obtain ⟨cluster, advisory, mem⟩ := h
  exact posting _ mem

/-- A step posts what it is. -/
theorem Action.only_posting (site : Site) {a : Action}
    (restrict : ∀ change, a = .side (.restrict change) → restricts)
    (advise : ∀ draft, a = .side (.advise draft) → advises) :
    Fallible.Only (Ask.Posting restricts advises) (a.apply site) := by
  refine (only_apply site a).imp fun q asked => ?_
  cases asked with
  | post change => exact restrict change rfl
  | advise draft => exact advise draft rfl
  | _ => trivial

/-- **Carrying out a conclusion posts what the conclusion has.** -/
theorem Conclusion.only_execute (site : Site) (c : Conclusion) :
    Fallible.Only (Ask.Posting (c.restricts = true) (c.advises = true)) (c.execute site) := by
  refine Action.only_applyAll fun a ha => Action.only_posting site ?_ ?_
  · rintro change rfl
    exact List.any_eq_true.mpr ⟨.restrict change, c.mem_sideActions ha, rfl⟩
  · rintro draft rfl
    exact List.any_eq_true.mpr ⟨.advise draft, c.mem_sideActions ha, rfl⟩

/-- A conclusion that was carried out is what was written. -/
theorem Conclusion.written_execute (h : Fallible.Gives (c.execute site) log (.ok ())) :
    written log = (c.actions.filter Action.isWrite).map (site.incidentId, ·) := by
  have carried := Conclusion.carried_execute h
  rw [written, c.filter_isWrite_actions]
  generalize pagerCalls log = calls at carried ⊢
  cases carried with
  | applied =>
    rw [List.filterMap_cons_some (Paged.write?_note_ok _),
      List.filterMap_cons_some (Paged.write?_call_ok _)]
    rfl

/-- The note comes first: it was refused, and that was all, or it was accepted. -/
theorem Conclusion.noted_execute {r : Except Failure Unit} (h : Fallible.Gives (c.execute site) log r) :
    ((∃ g, log = [(Call.pager (.addNote site.incidentId c.note)).exchange (.error g)]) ∧
        ∃ g, r = .error g) ∨
      (pagerCalls log).head? = some (.addNote site.incidentId c.note, .ok ()) := by
  rcases Action.gives_applyAll_cons h with ⟨l₁, l₂, rfl, noted, _⟩ | ⟨g, g', refused, failed⟩
  · refine .inr ?_
    rw [pagerCalls_append, Fallible.gives_call.mp noted]
    rfl
  · exact .inl ⟨⟨g, Fallible.gives_call.mp refused⟩, g', failed⟩

/-- Of a conclusion that failed, the note was refused, and that was all; or the note was written,
and nothing else to the incident. -/
theorem Conclusion.written_execute_error (h : Fallible.Gives (c.execute site) log (.error f)) :
    (∃ g, log = [(Call.pager (.addNote site.incidentId c.note)).exchange (.error g)]) ∨
      (pagerCalls log).head? = some (.addNote site.incidentId c.note, .ok ()) ∧
        written log = [(site.incidentId, .note c.note)] := by
  rcases Conclusion.noted_execute h with ⟨refused, _⟩ | accepted
  · exact .inl refused
  · refine .inr ⟨accepted, ?_⟩
    have carried := Conclusion.carried_execute h
    rw [written]
    generalize pagerCalls log = calls at carried accepted ⊢
    cases carried with
    | noteRefused => cases accepted
    | sideFailed => rfl
    | routingRefused g =>
      rw [List.filterMap_cons_some (Paged.write?_note_ok _),
        List.filterMap_cons_none (Paged.write?_error _ _)]
      rfl

/-- An accepted note is no refused one. -/
theorem not_firstNoteRefused {call : PagerCall} {incidentId : String}
    (accepted : (pagerCalls log).head? = some (call, .ok ())) (later : Log) :
    ¬ FirstNoteRefused incidentId (log ++ later) := by
  intro ⟨text, g, refused⟩
  rw [pagerCalls_append, List.head?_append, accepted, Option.some_or] at refused
  cases (Prod.mk.inj (Option.some.inj refused)).2

end Execution

/-! ## 3. How a handling came to its outcome -/

/-- **How a handling came to its outcome**: after exchanges that wrote and posted nothing, the
conclusion of the outcome was carried out; or that was a fallback after one that failed. -/
inductive Desk.Ended (d : Desk) (alert : Alert) (o : Outcome) : Log → Prop where
  | applied {cluster : Option Cluster} {before last : Log}
      (quiet : ∀ e ∈ before, ∃ deletes, Ask.Inquiring deletes e.request)
      (status : o.status ≠ .executionFailed)
      (done : Fallible.Gives (o.conclusion.execute ⟨alert.incidentId, cluster, d.settings.retry⟩)
        last (.ok ())) : Ended d alert o (before ++ last)
  | fellBack {site : Site} {before first last : Log} {c : Conclusion} {f : Failure}
      (quiet : ∀ e ∈ before, ∃ deletes, Ask.Inquiring deletes e.request)
      (incident : site.incidentId = alert.incidentId)
      (failed : Fallible.Gives (c.execute site) first (.error f))
      (status : o.status = .executionFailed) (plain : o.conclusion.sideActions = [])
      (done : Fallible.Gives (o.conclusion.execute site) last (.ok ())) :
      Ended d alert o (before ++ (first ++ last))

namespace Desk

variable {d : Desk} {alert : Alert} {log : Log} {o : Outcome}

theorem gives_fallBack_ok {cluster : Option Cluster} {name : String} {status : OutcomeStatus}
    {mark : Mark} {line reason : String}
    (h : Fallible.Gives (d.fallBack alert cluster name status mark line reason) log (.ok o)) :
    Fallible.Gives (o.conclusion.execute ⟨alert.incidentId, cluster, d.settings.retry⟩) log
        (.ok ()) ∧ o = ⟨name, status, fallbackConclusion name mark line reason⟩ := by
  obtain ⟨_, executed, ⟨rfl, same⟩ | ⟨_, _, _, wrong⟩⟩ := gives_fallBack h
  · cases same
    exact ⟨executed, rfl⟩
  · cases wrong

theorem ended_handle (h : Fallible.Gives (d.handle alert) log (.ok o)) : d.Ended alert o log := by
  obtain ⟨rest, rfl, ⟨_, fell⟩ | ⟨i, _, tries, res, s, carried, rfl, tried, ended⟩⟩ :=
    gives_handle h
  · obtain ⟨done, rfl⟩ := gives_fallBack_ok fell
    rw [← List.singleton_append]
    refine .applied (fun e he => ?_) nofun done
    rw [List.mem_singleton.mp he]
    exact ⟨False, trivial⟩
  · obtain ⟨_, earlier, s₁, last, _, rfl, failed, counts, _⟩ := gives_attempts tried
    have quiet : ∀ e ∈ (⟨Ask.count .alertsHandled, ()⟩ : Exchange collaboration) ::
        (earlier ++ last), ∃ deletes, Ask.Inquiring deletes e.request := by
      intro e he
      rcases List.mem_cons.mp he with rfl | he
      · exact ⟨False, trivial⟩
      · rcases List.mem_append.mp he with he | he
        · exact ⟨_, only_attempts failed e he⟩
        · exact ⟨_, (only_attempt _).of_run counts e he⟩
    rw [← List.cons_append]
    rcases ended with ⟨ctx, c, rfl, carriedOut⟩ | ⟨f, rfl, givenUp⟩
    · obtain ⟨sameAlert, sameSettings, _⟩ := context_of_attempt_ok counts
      rcases gives_carryOut carriedOut with ⟨same, done⟩ | ⟨l₁, l₂, f, rfl, wrong, fell⟩
      · cases same
        rw [sameAlert, sameSettings] at done
        exact .applied quiet nofun done
      · obtain ⟨done, rfl⟩ := gives_fallBack_ok fell
        rw [sameSettings] at wrong
        exact .fellBack quiet (congrArg Alert.incidentId sameAlert) wrong rfl rfl done
    · obtain ⟨done, rfl⟩ := gives_fallBack_ok givenUp
      exact .applied quiet nofun done

end Desk

/-! ## 4. What the outcome tells -/

/-- **The outcome tells what was done**: the writes to the incident are those of its conclusion, and
a restriction or an advisory that was posted is among the steps of it. -/
structure Outcome.Reports (o : Outcome) (incidentId : String) (log : Log) : Prop where
  writes : written log = (o.conclusion.actions.filter Action.isWrite).map (incidentId, ·)
  restriction : RestrictionPosted log → o.conclusion.restricts = true
  advisory : AdvisoryPosted log → o.conclusion.advises = true

namespace Desk

variable {d : Desk} {alert : Alert} {log : Log} {o : Outcome}

/-- Exchanges that only inquire write nothing. -/
theorem pagerCalls_quiet (quiet : ∀ e ∈ log, ∃ deletes, Ask.Inquiring deletes e.request) :
    pagerCalls log = [] := by
  refine pagerCalls_eq_nil fun e he => ?_
  obtain ⟨_, inquiring⟩ := quiet e he
  exact inquiring.offPager

/-- The conclusion that was carried out is told, whatever was only inquired before. -/
theorem reports_of_execute {site : Site} {before last : Log}
    (incident : site.incidentId = alert.incidentId) (silent : written before = [])
    (posting : ∀ e ∈ before, Ask.Posting False False e.request)
    (done : Fallible.Gives (o.conclusion.execute site) last (.ok ())) :
    o.Reports alert.incidentId (before ++ last) := by
  have all : ∀ e ∈ before ++ last, Ask.Posting (o.conclusion.restricts = true)
      (o.conclusion.advises = true) e.request := by
    intro e he
    rcases List.mem_append.mp he with he | he
    · exact (posting e he).imp False.elim False.elim
    · exact (Conclusion.only_execute site _).of_run done e he
  refine ⟨?_, fun posted => posted.of_posting all, fun posted => posted.of_posting all⟩
  rw [written_append, silent, List.nil_append, Conclusion.written_execute done, incident]

/-- **When the outcome tells what was done.** It does, but for a conclusion that failed after its
note: that note stays on the incident, and the outcome does not tell of it. -/
theorem handle_reports_iff (h : Fallible.Gives (d.handle alert) log (.ok o)) :
    (o.Reports alert.incidentId log ↔
      (o.status = .executionFailed → FirstNoteRefused alert.incidentId log)) ∧
    (¬ o.Reports alert.incidentId log → ∃ text,
      written log = (alert.incidentId, .note text) ::
        (o.conclusion.actions.filter Action.isWrite).map (alert.incidentId, ·)) := by
  cases ended_handle h with
  | @applied cluster before last quiet status done =>
    have reports : o.Reports alert.incidentId (before ++ last) := by
      refine reports_of_execute rfl ?_ (fun e he => ?_) done
      · rw [written, pagerCalls_quiet quiet, List.filterMap_nil]
      · obtain ⟨_, inquiring⟩ := quiet e he
        exact inquiring.posting
    exact ⟨⟨fun _ failed => absurd failed status, fun _ => reports⟩, fun wrong => absurd reports wrong⟩
  | @fellBack site before first last c f quiet incident failed status plain done =>
    have silent : pagerCalls before = [] := pagerCalls_quiet quiet
    rcases Conclusion.written_execute_error failed with ⟨g, rfl⟩ | ⟨noted, wrote⟩
    · have reports : o.Reports alert.incidentId
          (before ++ ([(Call.pager (.addNote site.incidentId c.note)).exchange (.error g)] ++ last)) := by
        rw [← List.append_assoc]
        refine reports_of_execute incident ?_ (fun e he => ?_) done
        · rw [written, pagerCalls_append, silent]
          rfl
        · rcases List.mem_append.mp he with he | he
          · obtain ⟨_, inquiring⟩ := quiet e he
            exact inquiring.posting
          · rw [List.mem_singleton.mp he]
            trivial
      refine ⟨⟨fun _ _ => ⟨c.note, g, ?_⟩, fun _ => reports⟩, fun wrong => absurd reports wrong⟩
      rw [pagerCalls_append, silent, ← incident]
      rfl
    · have both : written (before ++ (first ++ last)) = (alert.incidentId, .note c.note) ::
          (o.conclusion.actions.filter Action.isWrite).map (alert.incidentId, ·) := by
        rw [written_append, written_append, wrote, Conclusion.written_execute done, incident, written,
          silent]
        rfl
      have untold : ¬ o.Reports alert.incidentId (before ++ (first ++ last)) := by
        intro reports
        have same := congrArg List.length (both.symm.trans reports.writes)
        rw [List.length_cons] at same
        omega
      have accepted : ¬ FirstNoteRefused alert.incidentId (before ++ (first ++ last)) := by
        rw [FirstNoteRefused, pagerCalls_append, silent, List.nil_append]
        exact not_firstNoteRefused noted last
      exact ⟨⟨fun reports => absurd reports untold, fun told => absurd (told status) accepted⟩,
        fun _ => ⟨c.note, both⟩⟩

theorem handle_reports_iff_page_refused :
    let played := (Desk.standard .standard false).rehearse
      ⟨"Q1", "cluster has gone missing", .triggered, "c1"⟩
      { Rehearsal.standard with faults := [(.escalate, [some (.root (.reported "boom"))])] }
    ∃ o text, played.2 = .ok o ∧ o.status = .executionFailed ∧
      ¬ FirstNoteRefused "Q1" played.1 ∧ ¬ o.Reports "Q1" played.1 ∧
      written played.1 = [("Q1", .note text), ("Q1", .note o.conclusion.note),
        ("Q1", .terminal (.escalate "automated remediation failed"))] := by
  intro played
  obtain ⟨o, ended⟩ : ∃ o, played.2 = .ok o := ⟨_, rfl⟩
  have run : Fallible.Gives _ played.1 played.2 := gives_rehearse
  rw [ended] at run
  have status : o.status = .executionFailed := by
    cases ended
    rfl
  have accepted : ¬ FirstNoteRefused "Q1" played.1 := fun ⟨_, _, refused⟩ => nomatch refused
  obtain ⟨told, more⟩ := handle_reports_iff run
  have untold : ¬ o.Reports "Q1" played.1 := fun reports => accepted (told.mp reports status)
  obtain ⟨text, both⟩ := more untold
  refine ⟨o, text, ended, status, accepted, untold, both.trans ?_⟩
  rw [o.conclusion.filter_isWrite_actions]
  cases ended
  rfl

end Desk

end OnCall
