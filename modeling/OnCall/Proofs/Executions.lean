import OnCall.Proofs.Conclusions
import OnCall.Proofs.Metering
import OnCall.Proofs.Paging
import OnCall.Proofs.Refusals

/-!
# The conclusions that are carried out

* `Conclusion.Draft.finish_foldl_add`: what a draft becomes by some calls and a terminal action.
* `Desk.handleRecorded`: the handling of an alert with a record of each conclusion that it carries
  out; `Desk.fst_handleRecorded`: **without the record it is the handling**.
* `Execution.Sound`: at most one side action, with the routing that goes with it, and a cluster.
* `Action.refused_apply`: a step at a cluster fails by a call that was refused, and by nothing else.
* `Desk.conclusions_shaped`: **the shape of every conclusion**.
-/

namespace OnCall

/-! ## 1. Drafts -/

namespace Conclusion

namespace Draft

/-- One more side action. -/
def add (d : Draft) : SideAction → Draft
  | .restrict change => d.restrict change
  | .advise draft => d.advise draft

/-- The conclusion with a terminal action. -/
def finish (d : Draft) : Routing → Conclusion
  | .escalate reason => d.escalate reason
  | .silence reason => d.silence reason

theorem add_eq (d : Draft) (a : SideAction) : d.add a = ⟨d.note, d.sideActions ++ [a]⟩ := by
  cases a <;> rfl

theorem foldl_add (d : Draft) (sides : List SideAction) :
    sides.foldl add d = ⟨d.note, d.sideActions ++ sides⟩ := by
  induction sides generalizing d with
  | nil => rw [List.foldl_nil, List.append_nil]
  | cons a sides ih => rw [List.foldl_cons, ih, add_eq, List.append_assoc, List.singleton_append]

/-- **What a draft becomes**: the lines so far, the side actions in order, the terminal action. -/
theorem finish_foldl_add (notes : Notes) (sides : List SideAction) (routing : Routing) :
    (sides.foldl add (ofNotes notes)).finish routing = ⟨notes.render, sides, routing⟩ := by
  rw [foldl_add]
  cases routing <;> rfl

end Draft

/-- **The parts of a conclusion**: the note, which shows the lines, the side actions in order, and then
the terminal action, which is the only one. The two flags tell whether there is such a side
action. -/
structure Made (notes : Notes) (sides : List SideAction) (routing : Routing) (c : Conclusion) :
    Prop where
  shown : Notes.Shows notes.lines c.note
  actions : c.actions = .note notes.render :: sides.map .side ++ [.terminal routing]
  terminals : c.actions.filter Action.isTerminal = [.terminal routing]
  last : c.actions.getLast? = some (.terminal routing)
  restricts : c.restricts = true ↔ ∃ change, .side (.restrict change) ∈ c.actions
  advises : c.advises = true ↔ ∃ draft, .side (.advise draft) ∈ c.actions

theorem side_mem_actions {c : Conclusion} {a : SideAction} :
    .side a ∈ c.actions ↔ a ∈ c.sideActions := by
  simp [actions]

theorem made (c : Conclusion) (notes : Notes) (noted : c.note = notes.render) :
    c.Made notes c.sideActions c.routing where
  shown := by rw [noted]; exact notes.shows_render
  actions := by rw [Conclusion.actions, noted]
  terminals := c.filter_isTerminal_actions
  last := c.getLast?_actions
  restricts := by
    simp only [Conclusion.restricts, List.any_eq_true, side_mem_actions]
    constructor
    · rintro ⟨a, mem, is⟩
      cases a with
      | restrict change => exact ⟨change, mem⟩
      | advise => cases is
    · rintro ⟨change, mem⟩
      exact ⟨_, mem, rfl⟩
  advises := by
    simp only [Conclusion.advises, List.any_eq_true, side_mem_actions]
    constructor
    · rintro ⟨a, mem, is⟩
      cases a with
      | restrict => cases is
      | advise draft => exact ⟨draft, mem⟩
    · rintro ⟨draft, mem⟩
      exact ⟨_, mem, rfl⟩

end Conclusion

/-! ## 2. A record of what is carried out -/

/-- A conclusion that was carried out, and what came of it. -/
structure Execution where
  site : Site
  conclusion : Conclusion
  result : Except Failure Unit

/-- Carry out a conclusion, and record it. -/
def Conclusion.executeRecorded (site : Site) (c : Conclusion) : Work Execution := do
  return ⟨site, c, ← (c.execute site).run⟩

namespace Desk

/-- Put one line on the incident and escalate it. -/
def fallBackRecorded (d : Desk) (alert : Alert) (cluster : Option Cluster) (name : String)
    (status : OutcomeStatus) (mark : Mark) (line reason : String) :
    Work (Except Failure Outcome × List Execution) := do
  let x ← (fallbackConclusion name mark line reason).executeRecorded
    ⟨alert.incidentId, cluster, d.settings.retry⟩
  let described := x.result.mapError (.context ("failed to escalate incident " ++ alert.incidentId))
  return (described.map fun _ => ⟨name, status, x.conclusion⟩, [x])

/-- Carry out the conclusion of an investigation. -/
def carryOutRecorded (d : Desk) (name : String) (ctx : Context) (conclusion : Conclusion) :
    Work (Except Failure Outcome × List Execution) := do
  let x ← conclusion.executeRecorded ⟨ctx.alert.incidentId, some ctx.cluster, ctx.settings.retry⟩
  match x.result with
  | .ok () => return (.ok ⟨name, .concluded, conclusion⟩, [x])
  | .error failure => do
    let (ended, others) ← d.fallBackRecorded ctx.alert (some ctx.cluster) ctx.investigation
      .executionFailed .warning ("Automated remediation failed: " ++ failure.full)
      "automated remediation failed"
    return (ended, x :: others)

/-- **Handle an alert, and record each conclusion that is carried out.** -/
def handleRecorded (d : Desk) (alert : Alert) : Work (Except Failure Outcome × List Execution) := do
  Work.count .alertsHandled
  match d.roster.find alert.title with
  | none =>
    d.fallBackRecorded alert none unmatchedName .unmatched .info
      ("No automated investigation exists for \"" ++ alert.title ++ "\"")
      "no automated investigation available"
  | some i =>
    let (result, dossier) ← (d.attempts i alert).run .empty
    match result with
    | .ok (ctx, conclusion) => d.carryOutRecorded i.name ctx conclusion
    | .error failure =>
      d.fallBackRecorded alert dossier.cluster i.name .investigationFailed .warning
        ("Investigation failed after " ++ toString d.settings.retry.attempts ++ " attempts: " ++
          failure.full)
        "automated investigation failed"

theorem fst_fallBackRecorded (d : Desk) (alert : Alert) (cluster : Option Cluster) (name : String)
    (status : OutcomeStatus) (mark : Mark) (line reason : String) :
    Prod.fst <$> d.fallBackRecorded alert cluster name status mark line reason =
      (d.fallBack alert cluster name status mark line reason).run := by
  unfold fallBackRecorded fallBack Conclusion.executeRecorded Fallible.describe
  simp only [map_bind, bind_assoc, pure_bind, map_pure, ExceptT.run_bind, ExceptT.run_adapt,
    bind_map_left]
  congr 1
  funext r
  cases r <;> rfl

theorem fst_carryOutRecorded (d : Desk) (name : String) (ctx : Context) (c : Conclusion) :
    Prod.fst <$> d.carryOutRecorded name ctx c = (d.carryOut name ctx c).run := by
  unfold carryOutRecorded carryOut Conclusion.executeRecorded
  simp only [map_bind, bind_assoc, pure_bind, Fallible.run_liftM_bind]
  congr 1
  funext r
  cases r with
  | ok _ => rfl
  | error f =>
    show Prod.fst <$> (_ >>= fun ended => pure _) = (d.reportUnapplied ctx f).run
    rw [reportUnapplied, ← fst_fallBackRecorded, map_bind, map_eq_pure_bind]
    rfl

/-- **Without the record it is the handling.** -/
theorem fst_handleRecorded (d : Desk) (alert : Alert) :
    Prod.fst <$> d.handleRecorded alert = (d.handle alert).run := by
  unfold handleRecorded handle
  cases d.roster.find alert.title with
  | none =>
    simp only [map_bind, fst_fallBackRecorded]
    exact (Fallible.run_liftM_bind _ _).symm
  | some i =>
    simp only [map_bind, Fallible.run_liftM_bind]
    congr 1
    funext _
    congr 1
    funext tried
    obtain ⟨result, dossier⟩ := tried
    cases result with
    | ok concluded => exact fst_carryOutRecorded d i.name concluded.1 concluded.2
    | error failure => exact fst_fallBackRecorded ..

/-- **Every run of the handling is one with the record.** -/
theorem run_handle {d : Desk} {alert : Alert} {log : Log} {r : Except Failure Outcome} :
    Fallible.Gives (d.handle alert) log r ↔
      ∃ executions, Program.Run (d.handleRecorded alert) log (r, executions) := by
  rw [Fallible.Gives, ← fst_handleRecorded, Program.run_map]
  constructor
  · rintro ⟨⟨_, executions⟩, run, rfl⟩
    exact ⟨executions, run⟩
  · exact fun ⟨executions, run⟩ => ⟨_, run, rfl⟩

end Desk

/-! ## 3. Steps that fail -/

section Steps

variable {site : Site} {log : Log}

theorem Restriction.failsBy_ensure (clusterId : String) (r : Restriction) :
    (Restriction.ensure clusterId r).FailsBy fun _ => True := by
  refine Fallible.failsBy_bind (Fallible.failsBy_call trivial) fun existing => ?_
  split
  · exact Fallible.failsBy_pure _
  · exact Fallible.failsBy_bind (Fallible.failsBy_call trivial) fun _ => Fallible.failsBy_pure _

/-- The cluster that a step needs is there, or the step is no side action. -/
def Action.Located (site : Site) (a : Action) : Prop :=
  ∀ side, a = .side side → ∃ cluster, site.cluster = some cluster

/-- **A step that has its cluster fails by a call that was refused**, and by nothing else. -/
theorem Action.failsBy_apply {a : Action} (located : a.Located site) :
    (a.apply site).FailsBy fun _ => True := by
  have counted (counter : Counter) :
      Fallible.FailsBy (fun _ => True) (liftM (n := Fallible) (Work.count counter)) :=
    Fallible.failsBy_liftM _
  have there {side : SideAction} (same : a = .side side) (label : String) :
      (site.needCluster label).FailsBy fun _ => True := by
    obtain ⟨cluster, known⟩ := located side same
    rw [Site.needCluster, known]
    exact Fallible.failsBy_pure cluster
  cases a with
  | note text => exact Fallible.failsBy_call trivial
  | side side =>
    cases side with
    | restrict change =>
      refine Fallible.failsBy_bind (there rfl _) fun cluster => ?_
      refine Fallible.failsBy_bind
        (Fallible.failsBy_retried (Restriction.failsBy_ensure _ _)) fun posted => ?_
      split
      · exact counted _
      · exact Fallible.failsBy_pure _
    | advise draft =>
      refine Fallible.failsBy_bind (there rfl _) fun cluster => ?_
      exact Fallible.failsBy_bind (Fallible.failsBy_call trivial) fun _ => counted _
  | terminal routing =>
    cases routing with
    | escalate reason => exact Fallible.failsBy_bind (Fallible.failsBy_call trivial) fun _ => counted _
    | silence reason => exact Fallible.failsBy_bind (Fallible.failsBy_call trivial) fun _ => counted _

/-- One of the steps failed by a call that was refused; the failure says which step it was. -/
def Action.Refused (as : List Action) (log : Log) (f : Failure) : Prop :=
  ∃ a ∈ as, ∃ c g, log.RefusedBy c g ∧ f = .context ("failed to " ++ a.label) g

theorem Action.refused_applyAll {as : List Action} {f : Failure} (located : ∀ a ∈ as, a.Located site)
    (h : Fallible.Gives (applyAll site as) log (.error f)) : Refused as log f := by
  induction as generalizing log with
  | nil => cases (Fallible.gives_pure.mp h).2
  | cons a as ih =>
    rcases Fallible.gives_bind.mp h with ⟨first, _, second, rfl, _, others⟩ | ⟨g, same, failed⟩
    · obtain ⟨b, mem, c, g, refused, same⟩ :=
        ih (fun b mem => located b (List.mem_cons_of_mem _ mem)) others
      exact ⟨b, List.mem_cons_of_mem _ mem, c, g, refused.append_left first, same⟩
    · cases same
      obtain ⟨_ | _, applied, described⟩ := Fallible.gives_adapt.mp failed
      · cases described
        obtain ⟨c, _, refused⟩ := failsBy_apply (located a (List.mem_cons_self ..)) _ _ applied
        exact ⟨a, List.mem_cons_self .., c, _, refused, rfl⟩
      · cases described

end Steps

/-! ## 4. Every conclusion that is carried out -/

namespace Execution

/-- **What is carried out.** There is at most one side action; a restriction goes with a silence and
an advisory with a page; and where there is a side action, there is a cluster. -/
structure Sound (x : Execution) : Prop where
  few : x.conclusion.sideActions.length ≤ 1
  silences : x.conclusion.restricts = true → x.conclusion.isSilence = true
  pages : x.conclusion.advises = true → x.conclusion.isEscalation = true
  located : x.conclusion.sideActions ≠ [] → ∃ cluster, x.site.cluster = some cluster

/-- **The part of a log in which it is carried out.** If that fails, a call was refused: it never
lacks a cluster. -/
structure Ran (x : Execution) (log : Log) : Prop where
  gives : Fallible.Gives (x.conclusion.execute x.site) log x.result
  refused : ∀ f, x.result = .error f → Action.Refused x.conclusion.actions log f

variable {x : Execution} {log : Log}

theorem Sound.of_plain (plain : x.conclusion.sideActions = []) : x.Sound where
  few := by rw [plain]; exact Nat.zero_le 1
  silences := by rw [Conclusion.restricts, plain]; nofun
  pages := by rw [Conclusion.advises, plain]; nofun
  located := fun some' => absurd plain some'

theorem Sound.of_regular {n : Notes} (regular : x.conclusion.Regular n)
    (there : ∃ cluster, x.site.cluster = some cluster) : x.Sound := by
  obtain ⟨site, c, result⟩ := x
  cases regular with
  | plain => exact .of_plain rfl
  | restricting => exact ⟨Nat.le_refl 1, fun _ => rfl, nofun, fun _ => there⟩
  | advising => exact ⟨Nat.le_refl 1, nofun, fun _ => rfl, fun _ => there⟩

theorem Sound.ran (sound : x.Sound)
    (h : Program.Run (x.conclusion.execute x.site).run log x.result) : x.Ran log where
  gives := h
  refused := by
    intro f failed
    rw [failed] at h
    refine Action.refused_applyAll (fun a mem side same => ?_) h
    subst same
    exact sound.located (List.ne_nil_of_mem (Conclusion.side_mem_actions.mp mem))

end Execution

theorem Conclusion.run_executeRecorded {site : Site} {c : Conclusion} {log : Log} {x : Execution}
    (h : Program.Run (c.executeRecorded site) log x) :
    x.site = site ∧ x.conclusion = c ∧ Program.Run (c.execute site).run log x.result := by
  obtain ⟨first, r, second, rfl, executed, done⟩ := Program.run_bind.mp h
  obtain ⟨rfl, rfl⟩ := Program.run_done.mp done
  exact ⟨rfl, rfl, by rwa [List.append_nil]⟩

namespace Desk

/-- **What a handling carries out**: each conclusion is sound and has its part of the log; and if the
handling ended, the last one was carried out, and it is the one that is reported. -/
structure Records (log : Log) (r : Except Failure Outcome) (executions : List Execution) : Prop where
  sound : ∀ x ∈ executions, x.Sound
  parts : ∀ x ∈ executions, ∃ before part behind, log = before ++ (part ++ behind) ∧ x.Ran part
  last : ∃ x, executions.getLast? = some x ∧
    ∀ o, r = .ok o → x.conclusion = o.conclusion ∧ x.result = .ok ()

variable {d : Desk} {alert : Alert} {log : Log} {r : Except Failure Outcome}
  {executions : List Execution}

namespace Records

theorem append_left (h : Records log r executions) (earlier : Log) :
    Records (earlier ++ log) r executions where
  sound := h.sound
  parts := fun x mem => by
    obtain ⟨before, part, behind, rfl, ran⟩ := h.parts x mem
    exact ⟨earlier ++ before, part, behind, (List.append_assoc ..).symm, ran⟩
  last := h.last

theorem singleton {x : Execution} (sound : x.Sound) (ran : x.Ran log)
    (ended : ∀ o, r = .ok o → x.conclusion = o.conclusion ∧ x.result = .ok ()) :
    Records log r [x] where
  sound := fun y mem => List.mem_singleton.mp mem ▸ sound
  parts := fun y mem => by
    rw [List.mem_singleton.mp mem]
    exact ⟨[], log, [], by rw [List.nil_append, List.append_nil], ran⟩
  last := ⟨x, rfl, ended⟩

theorem cons {x : Execution} {first second : Log} (sound : x.Sound) (ran : x.Ran first)
    (h : Records second r executions) : Records (first ++ second) r (x :: executions) where
  sound := List.forall_mem_cons.mpr ⟨sound, h.sound⟩
  parts := List.forall_mem_cons.mpr ⟨⟨[], first, second, rfl, ran⟩, (h.append_left first).parts⟩
  last := by
    obtain ⟨y, last, ended⟩ := h.last
    exact ⟨y, by rw [List.getLast?_cons, last]; rfl, ended⟩

end Records

theorem records_fallBack {cluster : Option Cluster} {name : String} {status : OutcomeStatus}
    {mark : Mark} {line reason : String}
    (h : Program.Run (d.fallBackRecorded alert cluster name status mark line reason) log
      (r, executions)) : Records log r executions := by
  obtain ⟨first, x, second, rfl, carried, done⟩ := Program.run_bind.mp h
  obtain ⟨rfl, same⟩ := Program.run_done.mp done
  cases same
  obtain ⟨site, conclusion, executed⟩ := Conclusion.run_executeRecorded carried
  rw [← site, ← conclusion] at executed
  have sound : x.Sound := .of_plain (by rw [conclusion]; rfl)
  rw [List.append_nil]
  refine .singleton sound (sound.ran executed) fun o ended => ?_
  cases result : x.result with
  | ok _ =>
    rw [result] at ended
    cases ended
    exact ⟨rfl, rfl⟩
  | error f =>
    rw [result] at ended
    cases ended

theorem records_carryOut {name : String} {ctx : Context} {c : Conclusion} {n : Notes}
    (regular : c.Regular n)
    (h : Program.Run (d.carryOutRecorded name ctx c) log (r, executions)) :
    Records log r executions := by
  obtain ⟨first, x, second, rfl, carried, rest⟩ := Program.run_bind.mp h
  obtain ⟨site, rfl, executed⟩ := Conclusion.run_executeRecorded carried
  rw [← site] at executed
  have sound : x.Sound := .of_regular regular ⟨ctx.cluster, by rw [site]⟩
  have ran := sound.ran executed
  cases result : x.result with
  | ok _ =>
    rw [result] at rest
    obtain ⟨rfl, same⟩ := Program.run_done.mp rest
    cases same
    rw [List.append_nil]
    refine .singleton sound ran fun o ended => ?_
    cases ended
    exact ⟨rfl, result⟩
  | error f =>
    rw [result] at rest
    obtain ⟨third, ⟨ended, others⟩, fourth, rfl, fell, done⟩ := Program.run_bind.mp rest
    obtain ⟨rfl, same⟩ := Program.run_done.mp done
    cases same
    rw [List.append_nil]
    exact .cons sound ran (records_fallBack fell)

/-- **What the handling of an alert carries out**, whether the investigation concluded, or the
credentials were revoked, or there was a fallback. -/
theorem records_handle (h : Program.Run (d.handleRecorded alert) log (r, executions)) :
    Records log r executions := by
  obtain ⟨first, _, second, rfl, _, rest⟩ := Program.run_bind.mp h
  refine Records.append_left ?_ first
  cases found : d.roster.find alert.title with
  | none =>
    rw [found] at rest
    exact records_fallBack rest
  | some i =>
    rw [found] at rest
    obtain ⟨tries, ⟨result, dossier⟩, third, rfl, tried, ended⟩ := Program.run_bind.mp rest
    refine Records.append_left ?_ tries
    rcases result with f | ⟨ctx, c⟩
    · exact records_fallBack ended
    · obtain ⟨_, _, _, _, _, rfl, _, counts, _⟩ := gives_attempts tried
      obtain ⟨n, regular⟩ := regular_attempt counts
      exact records_carryOut regular ended

/-- **The shape of every conclusion.** However a draft is put together, the conclusion is the note,
which shows the lines so far, the side actions in order and one terminal action behind them, and its
flags tell whether there is a restriction or an advisory. And of each conclusion that is carried out while an alert is handled,
whatever the platforms answer: there is at most one side action, a restriction goes with a silence
and an advisory with a page, and where there is a side action there is a cluster, so that only a
refused call can make it fail. -/
theorem conclusions_shaped :
    (∀ (notes : Notes) (sides : List SideAction) (routing : Routing),
      ((sides.foldl Conclusion.Draft.add (.ofNotes notes)).finish routing).Made notes sides routing) ∧
    ∀ (d : Desk) (alert : Alert) (log : Log) (r : Except Failure Outcome),
      Fallible.Gives (d.handle alert) log r →
      ∃ executions, Program.Run (d.handleRecorded alert) log (r, executions) ∧
        Records log r executions := by
  refine ⟨fun notes sides routing => ?_, fun d alert log r h => ?_⟩
  · rw [Conclusion.Draft.finish_foldl_add]
    exact Conclusion.made ⟨notes.render, sides, routing⟩ notes rfl
  · obtain ⟨executions, run⟩ := run_handle.mp h
    exact ⟨executions, run, records_handle run⟩

/-- A restriction is set, on the cluster that was found, and the incident is silenced. -/
theorem conclusions_shaped_restricted :
    let d := Desk.standard .standard false
    let alert : Alert := ⟨"Q1", "cluster has gone missing", .triggered, "c1"⟩
    let played := d.rehearse alert
      { Rehearsal.standard with reports := [.failure "https://nosnch.in:443"] }
    ∃ executions, Program.Run (d.handleRecorded alert) played.1 (played.2, executions) ∧
      ∃ x ∈ executions, x.result = .ok () ∧ x.conclusion.shape = ["note", "restrict", "silence"] ∧
        x.conclusion.sideActions.length ≤ 1 ∧ ∃ cluster, x.site.cluster = some cluster := by
  intro d alert played
  have shape : played.2.toOption.map (fun o => o.conclusion.shape) =
      some ["note", "restrict", "silence"] := by decide +kernel
  have run : Fallible.Gives (d.handle alert) played.1 played.2 := gives_rehearse
  generalize played = ended at shape run
  obtain ⟨o, same, shape⟩ := Option.map_eq_some_iff.mp shape
  obtain ⟨executions, recorded, records⟩ := conclusions_shaped.2 d alert ended.1 ended.2 run
  obtain ⟨x, last, concluded⟩ := records.last
  have mem : x ∈ executions := List.mem_of_getLast? last
  have ok : ended.2 = .ok o := by
    cases r : ended.2 with
    | error f => rw [r] at same; cases same
    | ok o' => rw [r] at same; cases same; rfl
  obtain ⟨reported, applied⟩ := concluded o ok
  rw [← reported] at shape
  have sound := records.sound x mem
  refine ⟨executions, recorded, x, mem, applied, shape, sound.few, sound.located fun none' => ?_⟩
  rw [Conclusion.shape, Conclusion.actions, none'] at shape
  have lengths : 2 = 3 := congrArg List.length shape
  cases lengths

end Desk

end OnCall
