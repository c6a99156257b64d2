import OnCall.Proofs.Liftings
import OnCall.Proofs.Records
import OnCall.Proofs.Repetition

/-!
# Restrictions are deleted safely

Only the investigation of a cleared alert deletes restrictions. It has seen enough nodes run, and it
has screened each restriction that it deletes.

* `Unreachable.Course`: **the exchanges of the investigation**, one case for each place where it can
  end before it lifts; what follows does not look at the program again.
* `Unreachable.Guarded`, `Desk.Safe`: what stands before a deletion in an investigation and in an
  attempt.
* `Unreachable.Answers`: what the investigation is answered when no call fails, and what it does
  then.
* `Desk.lifting_safe`: **restrictions are deleted safely**, and where no call fails, each for its
  own reason.
-/

namespace OnCall

open Restriction (Change)
open Surroundings (liftable liftBoth stopped_mem egress_mem)

/-! ## 1. The exchanges of the investigation -/

/-- The call for the instances of a cluster that run. -/
def Call.running (client : CloudClient) (infraId : String) : Call :=
  .cloud client (.runningInstances infraId)

/-- The call for the number of nodes that a cluster should have. -/
def Call.expected (cluster : Cluster) : Call := .manager (.expectedNodes cluster)

namespace Unreachable

variable {ctx : Context} {now : Instant} {x : Change} {n n' : Notes} {log : Log}

/-- **The exchanges of the investigation of a cleared alert.** There is no cloud account; or the
nodes cannot be counted; or too few of them run; or the restrictions are lifted. -/
inductive Course (ctx : Context) (now : Instant) : Log → Except Failure Conclusion → Prop where
  | unequipped (f : Failure)
      (lacks : ∀ client infraId, ctx.cloudClient = .ok client → ctx.infraId ≠ .ok infraId) :
    Course ctx now [] (.error f)
  | uncounted {client : CloudClient} {infraId : String} (f g : Failure) :
    Course ctx now [(Call.running client infraId).exchange (.error f)] (.error g)
  | unasked {client : CloudClient} {infraId : String} {instances : List Instance} (f g : Failure) :
    Course ctx now
      [(Call.running client infraId).exchange (.ok instances),
        (Call.expected ctx.cluster).exchange (.error f)] (.error g)
  | few {client : CloudClient} {infraId : String} {instances : List Instance} {expected : NodeCount}
      (cloud : ctx.cloudClient = .ok client) (infra : ctx.infraId = .ok infraId)
      (few : instances.length < expected.min.toNat) (notes : Notes) :
    Course ctx now
      [(Call.running client infraId).exchange (.ok instances),
        (Call.expected ctx.cluster).exchange (.ok expected)]
      (.ok ((Conclusion.Draft.ofNotes notes).escalate "cluster has not fully recovered"))
  | lifting {client : CloudClient} {infraId : String} {instances : List Instance}
      {expected : NodeCount} {rest : Log} {r : Except Failure Conclusion} {n n' : Notes}
      (cloud : ctx.cloudClient = .ok client) (infra : ctx.infraId = .ok infraId)
      (enough : expected.min.toNat ≤ instances.length)
      (lifted : Inquiry.Gives (liftBoth ctx now) n rest r n') :
    Course ctx now
      ((Call.running client infraId).exchange (.ok instances) ::
        (Call.expected ctx.cluster).exchange (.ok expected) :: rest) r

/-- What is needed for the investigation is there, or it ends at once. -/
theorem equipped_or_failed {r : Except Failure Conclusion}
    (h : Inquiry.Gives (recovered ctx now) n log r n') :
    (∃ client infraId, ctx.cloudClient = .ok client ∧ ctx.infraId = .ok infraId) ∨
      (∀ client infraId, ctx.cloudClient = .ok client → ctx.infraId ≠ .ok infraId) ∧ log = [] ∧
        ∃ f, r = .error f := by
  rcases Inquiry.gives_bind.mp h with ⟨_, client, n₁, l₁, rfl, opened, h₁⟩ | ⟨f, rfl, opened⟩
  · obtain ⟨rfl, cloud, rfl⟩ := Inquiry.gives_ofExcept.mp opened
    rcases Inquiry.gives_bind.mp h₁ with ⟨_, infraId, _, _, _, known, _⟩ | ⟨f, rfl, known⟩
    · exact .inl ⟨client, infraId, cloud.symm, (Inquiry.gives_ofExcept.mp known).2.1.symm⟩
    · obtain ⟨rfl, unknown, rfl⟩ := Inquiry.gives_ofExcept.mp known
      exact .inr ⟨fun _ _ _ known => (nomatch unknown.trans known), rfl, f, rfl⟩
  · obtain ⟨rfl, closed, rfl⟩ := Inquiry.gives_ofExcept.mp opened
    exact .inr ⟨fun _ _ cloud => (nomatch closed.trans cloud), rfl, f, rfl⟩

theorem course_of_recovered {r : Except Failure Conclusion}
    (h : Inquiry.Gives (recovered ctx now) n log r n') : Course ctx now log r := by
  rcases equipped_or_failed h with ⟨client, infraId, cloud, infra⟩ | ⟨lacks, rfl, f, rfl⟩
  · have opened := Inquiry.gives_ofExcept_bind cloud h
    have h₀ := Inquiry.gives_ofExcept_bind infra opened
    rcases Inquiry.gives_bind.mp h₀ with
      ⟨l₁, instances, n₁, l₂, rfl, counted, h₁⟩ | ⟨g, rfl, counted⟩
    · obtain ⟨running, rfl⟩ := Inquiry.gives_require_ok.mp counted
      rw [Fallible.gives_call.mp running]
      rcases Inquiry.gives_bind.mp h₁ with ⟨l₃, expected, n₂, l₄, rfl, asked, h₂⟩ | ⟨g, rfl, asked⟩
      · obtain ⟨told, rfl⟩ := Inquiry.gives_require_ok.mp asked
        rw [Fallible.gives_call.mp told]
        split at h₂
        · rename_i few
          obtain ⟨rfl, rfl, rfl⟩ := Inquiry.gives_drafted.mp (Inquiry.gives_note_bind.mp h₂)
          exact .few cloud infra few _
        · rename_i enough
          exact .lifting cloud infra (Nat.le_of_not_lt enough) (Inquiry.gives_note_bind.mp h₂)
      · obtain ⟨_ | f, told, failed, _⟩ := Inquiry.gives_require.mp asked
        · rw [Fallible.gives_call.mp told]
          exact .unasked _ g
        · cases failed
    · obtain ⟨_ | f, running, failed, _⟩ := Inquiry.gives_require.mp counted
      · rw [Fallible.gives_call.mp running]
        exact .uncounted _ g
      · cases failed
  · exact .unequipped f lacks

/-! ## 2. What stands before a deletion -/

/-- What is deleted was screened as one of the restrictions that are lifted. -/
def Screened (ctx : Context) (now : Instant) (before : Log) (clusterId id : String) : Prop :=
  ∃ x ∈ liftable, x.restriction.Screened ctx.settings ctx.cluster now before clusterId id

theorem Screened.append_left {before : Log} {clusterId id : String}
    (h : Screened ctx now before clusterId id) (earlier : Log) :
    Screened ctx now (earlier ++ before) clusterId id := by
  obtain ⟨x, lifts, screened⟩ := h
  exact ⟨x, lifts, screened.append_left earlier⟩

theorem local_screened : Log.Local (AtDeletion (Screened ctx now)) :=
  AtDeletion.isLocal fun _ _ _ earlier h => h.append_left earlier

/-- **What stands before a deletion** in the investigation: so many nodes run as are expected at
least, and what is deleted was screened. -/
inductive Guarded (ctx : Context) (now : Instant) (before : Log) (clusterId id : String) :
    Prop where
  | intro {client : CloudClient} {infraId : String} {instances : List Instance}
      {expected : NodeCount} (cloud : ctx.cloudClient = .ok client)
      (infra : ctx.infraId = .ok infraId)
      (counted : (Call.running client infraId).exchange (.ok instances) ∈ before)
      (asked : (Call.expected ctx.cluster).exchange (.ok expected) ∈ before)
      (enough : expected.min.toNat ≤ instances.length)
      (screened : Screened ctx now before clusterId id)

theorem Guarded.append_left {before : Log} {clusterId id : String}
    (h : Guarded ctx now before clusterId id) (earlier : Log) :
    Guarded ctx now (earlier ++ before) clusterId id := by
  obtain ⟨cloud, infra, counted, asked, enough, screened⟩ := h
  exact .intro cloud infra (List.mem_append_right _ counted) (List.mem_append_right _ asked) enough
    (screened.append_left earlier)

theorem only_noteLifting (lifting : Lifting) : (noteLifting x lifting).Only Ask.Keeping := by
  cases lifting with
  | removed count =>
    exact Inquiry.only_bind (Inquiry.only_liftM (Program.only_request trivial)) fun _ =>
      Inquiry.only_bind (Inquiry.only_note _ _) fun _ => Inquiry.only_pure _
  | flapping changes =>
    exact Inquiry.only_bind (Inquiry.only_note _ _) fun _ => Inquiry.only_pure _
  | notFound => exact Inquiry.only_pure _

theorem places_liftOne (lifts : x ∈ liftable) :
    (liftOne ctx now x).Places (AtDeletion (Screened ctx now)) := by
  rw [liftOne_eq]
  refine Inquiry.places_bind local_screened ?_ fun lifting =>
    AtDeletion.places (only_noteLifting lifting)
  intro n log r n' run
  obtain ⟨r₀, lifted, _⟩ := Inquiry.gives_require.mp run
  exact (Restriction.lifted_of_lift lifted).screened.imp fun _ _ _ at' clusterId id reply same =>
    ⟨x, lifts, at' clusterId id reply same⟩

theorem places_liftBoth : (liftBoth ctx now).Places (AtDeletion (Screened ctx now)) := by
  refine Inquiry.places_bind local_screened (places_liftOne stopped_mem) fun stopped =>
    Inquiry.places_bind local_screened (places_liftOne egress_mem) fun egress => ?_
  split
  · exact AtDeletion.places Inquiry.only_finish
  · exact AtDeletion.places Inquiry.only_finish

theorem Course.guarded {r : Except Failure Conclusion} (h : Course ctx now log r) :
    Log.Everywhere (AtDeletion (Guarded ctx now)) log := by
  cases h with
  | unequipped => exact Log.everywhere_nil
  | uncounted => exact Log.everywhere_singleton.mpr nofun
  | unasked => exact Log.everywhere_cons.mpr ⟨nofun, Log.everywhere_singleton.mpr nofun⟩
  | few => exact Log.everywhere_cons.mpr ⟨nofun, Log.everywhere_singleton.mpr nofun⟩
  | lifting cloud infra enough lifted =>
    -- both looks stand before whatever is lifted
    refine Log.everywhere_cons.mpr ⟨nofun, Log.everywhere_cons.mpr ⟨nofun, ?_⟩⟩
    refine (places_liftBoth _ _ _ _ lifted).imp ?_
    intro before e behind at' clusterId id reply same
    exact .intro cloud infra (List.mem_cons_self ..)
      (List.mem_cons_of_mem _ (List.mem_cons_self ..)) enough
      ((at' clusterId id reply same).append_left [_, _])

end Unreachable

/-- What an investigation deletes is guarded, at the time that it was told first. -/
theorem Investigation.places_run {ctx : Context} (cleared : ctx.alert.hasCleared = true) :
    (Investigation.unreachable.run ctx).Places (AtDeletion fun before clusterId id =>
      ∃ now, ⟨Ask.now, now⟩ ∈ before ∧ Unreachable.Guarded ctx now before clusterId id) := by
  have steps (now : Instant) : (Investigation.unreachable.steps ctx now).Places
      (AtDeletion (Unreachable.Guarded ctx now)) := by
    rw [Investigation.steps, if_pos cleared]
    exact fun _ _ _ _ run => (Unreachable.course_of_recovered run).guarded
  have still (now : Instant) : Log.Local (AtDeletion (Unreachable.Guarded ctx now)) :=
    AtDeletion.isLocal fun _ _ _ earlier h => h.append_left earlier
  have handler (failure : Failure) : Inquiry.Only Ask.Keeping
      (if failure.isConclusive then inconclusive failure else throw failure) := by
    split
    · exact Inquiry.only_noted
    · exact Inquiry.only_throw _
  have tried (now : Instant) := Inquiry.places_tryCatch (still now) (steps now) fun failure =>
    AtDeletion.places (handler failure)
  intro n log r n' run
  rcases Inquiry.gives_bind.mp run with ⟨l₁, now, n₁, l₂, rfl, looked, ran⟩ | ⟨f, rfl, looked⟩
  · obtain ⟨_, asked, told, _⟩ := Inquiry.gives_liftM.mp looked
    cases told
    rw [Program.run_request.mp asked]
    refine Log.everywhere_cons.mpr ⟨AtDeletion.of_keeping trivial, ?_⟩
    refine (tried now _ _ _ _ ran).imp fun before e behind at' clusterId id reply same => ?_
    exact ⟨now, List.mem_cons_self .., (at' clusterId id reply same).append_left [_]⟩
  · obtain ⟨_, _, wrong, _⟩ := Inquiry.gives_liftM.mp looked
    cases wrong

namespace Desk

variable {d : Desk} {i : Investigation} {alert : Alert} {s s' : Dossier} {log : Log}

/-- **What stands before a deletion** in an attempt: it is one of the investigation of a cleared
alert, whose context is there, and which guards what it deletes. -/
inductive Safe (d : Desk) (i : Investigation) (alert : Alert) (s : Dossier) (before : Log)
    (clusterId id : String) : Prop where
  | intro {ctx : Context} {built asked : Log} {s' : Dossier} {now : Instant}
      (lifts : i.Lifts alert) (parts : before = built ++ asked)
      (context : Resolving.Gives (d.contextFor i alert i.needs) s built (.ok ctx) s')
      (settings : ctx.settings = d.settings) (clock : ⟨Ask.now, now⟩ ∈ asked)
      (guarded : Unreachable.Guarded ctx now asked clusterId id)

/-- Every deletion in an attempt is safe. -/
theorem safe_attempt {r : Except Failure (Context × Conclusion)}
    (run : Filing.Gives (d.attempt i alert) s log r s') :
    Log.Everywhere (AtDeletion (d.Safe i alert s)) log := by
  by_cases lifts : i.Lifts alert
  · obtain ⟨rfl, cleared⟩ := lifts
    rcases gives_attempt run with ⟨ctx, l₁, l₂, res, notes, rfl, built, ran, _⟩ |
      ⟨f, l₁, l₂, s₁, res, rfl, built, _, rebuilt, _⟩ | ⟨f, built, _⟩
    · -- the context is made first, and nothing is deleted for that
      obtain ⟨onAlert, underSettings, _⟩ := Context.gives_build_ok built
      refine Log.everywhere_append_iff.mpr ⟨?_, ?_⟩
      · exact AtDeletion.everywhere fun e he => (inquiring_context built e he).keeping
      · refine (Investigation.places_run (onAlert ▸ cleared) _ _ _ _ ran).imp ?_
        intro before e behind at' clusterId id reply same
        obtain ⟨now, clock, guarded⟩ := at' clusterId id reply same
        exact .intro ⟨rfl, cleared⟩ rfl built underSettings clock guarded
    · refine AtDeletion.everywhere fun e he => ?_
      rcases List.mem_append.mp he with he | he
      · exact (inquiring_context built e he).keeping
      · exact (inquiring_context rebuilt e he).keeping
    · exact AtDeletion.everywhere fun e he => (inquiring_context built e he).keeping
  · have inquiring := (only_attempt s).of_run run
    rw [eq_false lifts] at inquiring
    exact AtDeletion.everywhere fun e he => (inquiring e he).keeping

/-- **What holds of a deletion while an alert is handled**: it is safe in an attempt of the
investigation for cleared alerts about a missing cluster. -/
def DeletesSafely (d : Desk) (alert : Alert) (before : Log) (e : Exchange collaboration)
    (behind : Log) : Prop :=
  ∀ clusterId id reply, e = (Call.deletion clusterId id).exchange reply →
    d.roster.find alert.title = some .unreachable ∧ alert.hasCleared = true ∧
      ∃ earlier first last later s r s', before = earlier ++ first ∧ behind = last ++ later ∧
        Filing.Gives (d.attempt .unreachable alert) s (first ++ e :: last) r s' ∧
        d.Safe .unreachable alert s first clusterId id

theorem local_deletesSafely : Log.Local (d.DeletesSafely alert) := by
  intro before e behind more rest h clusterId id reply same
  obtain ⟨found, cleared, earlier, first, last, later, s, r, s', rfl, rfl, run, safe⟩ :=
    h clusterId id reply same
  exact ⟨found, cleared, more ++ earlier, first, last, later ++ rest, s, r, s',
    (List.append_assoc ..).symm, List.append_assoc .., run, safe⟩

theorem deletesSafely_attempt {r : Except Failure (Context × Conclusion)}
    (found : d.roster.find alert.title = some i)
    (run : Filing.Gives (d.attempt i alert) s log r s') :
    Log.Everywhere (d.DeletesSafely alert) log := by
  rintro before e behind rfl clusterId id reply same
  have safe := safe_attempt run _ _ _ rfl clusterId id reply same
  have lifts : i.Lifts alert := by
    obtain ⟨lifts⟩ := safe
    exact lifts
  obtain ⟨rfl, cleared⟩ := lifts
  exact ⟨found, cleared, [], before, behind, [], s, r, s', rfl, (List.append_nil _).symm, run, safe⟩

theorem deletesSafely_of_keeping (keeping : ∀ e ∈ log, Ask.Keeping e.request) :
    Log.Everywhere (d.DeletesSafely alert) log :=
  Log.everywhere_of_forall fun e he _ _ clusterId id reply same => by
    have kept := keeping e he
    rw [same] at kept
    exact kept.elim

theorem deletesSafely_attempts {r : Except Failure (Context × Conclusion)}
    (found : d.roster.find alert.title = some i)
    (run : Filing.Gives (d.attempts i alert) s log r s') :
    Log.Everywhere (d.DeletesSafely alert) log := by
  obtain ⟨n, earlier, s₁, last, _, rfl, failed, counts, _⟩ := gives_attempts run
  refine Log.everywhere_append local_deletesSafely ?_ (deletesSafely_attempt found counts)
  refine failed.everywhere local_deletesSafely (fun f mid ⟨_, span, waited⟩ => ?_)
    fun _ _ _ _ ran => deletesSafely_attempt found ran
  rw [waited]
  exact Log.everywhere_cons.mpr ⟨nofun, Log.everywhere_singleton.mpr nofun⟩

/-- Nothing is deleted by a fallback. -/
theorem keeping_fallBack {cluster : Option Cluster} {name line reason : String}
    {status : OutcomeStatus} {mark : Mark} {r : Except Failure Outcome}
    (run : Fallible.Gives (d.fallBack alert cluster name status mark line reason) log r) :
    ∀ e ∈ log, Ask.Keeping e.request := by
  obtain ⟨_, executed, _⟩ := gives_fallBack run
  exact keeping_execute.of_run executed

/-- Nor is it by the carrying out of a conclusion. -/
theorem keeping_carryOut {name : String} {ctx : Context} {c : Conclusion}
    {r : Except Failure Outcome} (run : Fallible.Gives (d.carryOut name ctx c) log r) :
    ∀ e ∈ log, Ask.Keeping e.request := by
  rcases gives_carryOut run with ⟨_, executed⟩ | ⟨first, last, f, rfl, executed, fell⟩
  · exact keeping_execute.of_run executed
  · intro e he
    rcases List.mem_append.mp he with he | he
    · exact keeping_execute.of_run executed e he
    · exact keeping_fallBack fell e he

/-- **Every deletion in the handling of an alert is safe.** -/
theorem deletesSafely_handle {r : Except Failure Outcome}
    (run : Fallible.Gives (d.handle alert) log r) :
    Log.Everywhere (d.DeletesSafely alert) log := by
  obtain ⟨rest, rfl, ⟨_, fell⟩ | ⟨i, found, tries, res, s, carried, rfl, tried, ended⟩⟩ :=
    gives_handle run
  · refine deletesSafely_of_keeping fun e he => ?_
    rcases List.mem_cons.mp he with rfl | he
    · trivial
    · exact keeping_fallBack fell e he
  · have counted : Log.Everywhere (d.DeletesSafely alert) [⟨Ask.count .alertsHandled, ()⟩] :=
      Log.everywhere_singleton.mpr nofun
    have carriedOut : ∀ e ∈ carried, Ask.Keeping e.request := by
      rcases ended with ⟨ctx, c, _, ran⟩ | ⟨f, _, ran⟩
      · exact keeping_carryOut ran
      · exact keeping_fallBack ran
    exact Log.everywhere_append local_deletesSafely counted
      (Log.everywhere_append local_deletesSafely (deletesSafely_attempts found tried)
        (deletesSafely_of_keeping carriedOut))

end Desk

/-! ## 3. Investigations in which no call fails -/

/-- What is counted when a lifting ended so. -/
def Lifting.tally : Lifting → Log
  | .removed _ => [⟨Ask.count .restrictionsRemoved, ()⟩]
  | _ => []

def Lifting.isFlapping : Lifting → Bool
  | .flapping _ => true
  | _ => false

theorem Restriction.isFlapping_swept {s : Settings} {r : Restriction} {now : Instant}
    {history : List AdvisoryEntry} {listed : List Restriction} :
    (swept s r now history listed).isFlapping = decide (s.Flaps r.summary now history) := by
  unfold swept
  split
  · rename_i flaps
    rw [decide_eq_true flaps]
    rfl
  · rename_i steady
    rw [decide_eq_false steady]
    split <;> rfl

namespace Unreachable

/-- What the platforms answer an investigation of a cleared alert in which no call fails: for each
of the restrictions that are lifted, there is a history and a list. -/
structure Answers where
  now : Instant
  instances : List Instance
  expected : NodeCount
  history : Change → List AdvisoryEntry
  listed : Change → List Restriction

namespace Answers

variable (a : Answers) (s : Settings)

/-- Fewer nodes run than are expected at least. -/
def Few : Prop := a.instances.length < a.expected.min.toNat

/-- The restriction is flapping. -/
def Flaps (x : Change) : Prop := s.Flaps x.summary a.now (a.history x)

instance : Decidable a.Few := inferInstanceAs (Decidable (_ < _))

instance (x : Change) : Decidable (a.Flaps s x) := inferInstanceAs (Decidable (s.Flaps _ _ _))

/-- The exchanges in which one restriction is lifted. -/
def lifting (cluster : Cluster) (x : Change) : Log :=
  x.restriction.sweep s cluster a.now (a.history x) (a.listed x) ++
    (x.restriction.swept s a.now (a.history x) (a.listed x)).tally

/-- The exchanges before anything is lifted. -/
def looked (cluster : Cluster) (client : CloudClient) (infraId : String) : Log :=
  [⟨Ask.now, a.now⟩, (Call.running client infraId).exchange (.ok a.instances),
    (Call.expected cluster).exchange (.ok a.expected)]

/-- The exchanges of the investigation. -/
def log (cluster : Cluster) (client : CloudClient) (infraId : String) : Log :=
  a.looked cluster client infraId ++
    if a.Few then [] else liftable.flatMap (a.lifting s cluster)

/-- How the incident is routed. -/
def routing : Routing :=
  if a.Few then .escalate "cluster has not fully recovered"
  else if ∃ x ∈ liftable, a.Flaps s x then .escalate "restriction is flapping"
  else .silence "cluster recovered"

/-- The restrictions that are left: each one of the liftable ones goes, unless it is flapping. -/
def keeps (r : Restriction) : Bool :=
  a.Few || liftable.all fun x => !(x.owns r && !decide (a.Flaps s x))

section Both

variable (now : Instant) (instances : List Instance) (expected : NodeCount)
  (history₁ history₂ : List AdvisoryEntry) (listed₁ listed₂ : List Restriction)

/-- The answers about the two restrictions, put together. -/
def both : Answers where
  now
  instances
  expected
  history x := if x = stoppedRestriction then history₁ else history₂
  listed x := if x = stoppedRestriction then listed₁ else listed₂

variable {now instances expected history₁ history₂ listed₁ listed₂ s}

theorem exists_flaps_both :
    (∃ x ∈ liftable, (both now instances expected history₁ history₂ listed₁ listed₂).Flaps s x) ↔
      s.Flaps stoppedRestriction.summary now history₁ ∨
        s.Flaps egressRestriction.summary now history₂ := by
  have apart : egressRestriction ≠ stoppedRestriction := by decide
  simp only [liftable, List.mem_cons, List.not_mem_nil, or_false, exists_eq_or_imp, exists_eq_left,
    Flaps, both, if_pos, if_neg apart]

theorem flatMap_lifting_both {cluster : Cluster} :
    liftable.flatMap
        ((both now instances expected history₁ history₂ listed₁ listed₂).lifting s cluster) =
      stoppedRestriction.restriction.sweep s cluster now history₁ listed₁ ++
          (stoppedRestriction.restriction.swept s now history₁ listed₁).tally ++
        (egressRestriction.restriction.sweep s cluster now history₂ listed₂ ++
          (egressRestriction.restriction.swept s now history₂ listed₂).tally) := by
  have apart : egressRestriction ≠ stoppedRestriction := by decide
  simp only [liftable, List.flatMap_cons, List.flatMap_nil, List.append_nil, lifting, both, if_pos,
    if_neg apart]

end Both

end Answers

variable {ctx : Context} {now : Instant} {x : Change} {n n' : Notes} {log : Log}

theorem gives_noteLifting {lifting : Lifting} {r : Except Failure Bool}
    (h : Inquiry.Gives (noteLifting x lifting) n log r n') :
    log = lifting.tally ∧ r = .ok lifting.isFlapping := by
  cases lifting with
  | removed count =>
    rcases Inquiry.gives_bind.mp h with ⟨l₁, _, n₁, l₂, rfl, counted, rest⟩ | ⟨f, _, counted⟩
    · obtain ⟨_, run, _⟩ := Inquiry.gives_liftM.mp counted
      have ended := Inquiry.gives_note_bind.mp rest
      obtain ⟨rfl, rfl, _⟩ := Inquiry.gives_pure.mp ended
      rw [Program.run_request.mp run]
      exact ⟨rfl, rfl⟩
    · obtain ⟨_, _, wrong, _⟩ := Inquiry.gives_liftM.mp counted
      cases wrong
  | flapping changes =>
    have ended := Inquiry.gives_note_bind.mp h
    obtain ⟨rfl, rfl, _⟩ := Inquiry.gives_pure.mp ended
    exact ⟨rfl, rfl⟩
  | notFound =>
    obtain ⟨rfl, rfl, _⟩ := Inquiry.gives_pure.mp h
    exact ⟨rfl, rfl⟩

/-- One restriction is lifted, or it is flapping. -/
theorem gives_liftOne_smooth {r : Except Failure Bool}
    (h : Inquiry.Gives (liftOne ctx now x) n log r n') (smooth : log.Smooth) :
    ∃ history listed,
      log = x.restriction.sweep ctx.settings ctx.cluster now history listed ++
        (x.restriction.swept ctx.settings now history listed).tally ∧
      r = .ok (decide (ctx.settings.Flaps x.summary now history)) := by
  rw [liftOne_eq] at h
  rcases Inquiry.gives_bind.mp h with
    ⟨l₁, lifting, n₁, l₂, rfl, required, noted⟩ | ⟨f, rfl, required⟩
  · obtain ⟨lifted, _⟩ := Inquiry.gives_require_ok.mp required
    obtain ⟨history, listed, rfl, same⟩ := (Restriction.lifted_of_lift lifted).eq_sweep smooth.left
    cases same
    obtain ⟨rfl, rfl⟩ := gives_noteLifting noted
    exact ⟨history, listed, rfl, congrArg Except.ok Restriction.isFlapping_swept⟩
  · obtain ⟨r₀, lifted, failed, _⟩ := Inquiry.gives_require.mp required
    obtain ⟨_, _, _, rfl⟩ := (Restriction.lifted_of_lift lifted).eq_sweep smooth
    cases failed

/-- Both are lifted, each by its own history and list. -/
theorem gives_liftBoth_smooth {r : Except Failure Conclusion}
    (h : Inquiry.Gives (liftBoth ctx now) n log r n') (smooth : log.Smooth)
    (instances : List Instance) (expected : NodeCount) :
    ∃ a : Answers, a.now = now ∧ a.instances = instances ∧ a.expected = expected ∧
      log = liftable.flatMap (a.lifting ctx.settings ctx.cluster) ∧
      ∃ c, r = .ok c ∧ c.sideActions = [] ∧
        (¬ a.Few → c.routing = a.routing ctx.settings) := by
  rcases Inquiry.gives_bind.mp h with ⟨l₁, flaps₁, n₁, l₂, rfl, stopped, h₁⟩ | ⟨f, rfl, stopped⟩
  · obtain ⟨history₁, listed₁, rfl, same₁⟩ := gives_liftOne_smooth stopped smooth.left
    cases same₁
    rcases Inquiry.gives_bind.mp h₁ with ⟨l₃, flaps₂, n₂, l₄, rfl, egress, h₂⟩ | ⟨f, rfl, egress⟩
    · obtain ⟨history₂, listed₂, rfl, same₂⟩ := gives_liftOne_smooth egress smooth.right.left
      cases same₂
      -- the second history is a reply of its own: it may have the deletions of the first lifting
      refine ⟨.both now instances expected history₁ history₂ listed₁ listed₂, rfl, rfl, rfl, ?_⟩
      rw [Answers.flatMap_lifting_both]
      split at h₂
      · rename_i flapping
        rw [Bool.or_eq_true, decide_eq_true_iff, decide_eq_true_iff] at flapping
        obtain ⟨rfl, rfl, _⟩ := Inquiry.gives_drafted.mp h₂
        refine ⟨by rw [List.append_nil], _, rfl, rfl, fun enough => ?_⟩
        rw [Answers.routing, if_neg enough, if_pos (Answers.exists_flaps_both.mpr flapping)]
        rfl
      · rename_i steady
        rw [Bool.or_eq_true, decide_eq_true_iff, decide_eq_true_iff] at steady
        obtain ⟨rfl, rfl, _⟩ := Inquiry.gives_drafted.mp h₂
        refine ⟨by rw [List.append_nil], _, rfl, rfl, fun enough => ?_⟩
        rw [Answers.routing, if_neg enough,
          if_neg fun flapping => steady (Answers.exists_flaps_both.mp flapping)]
        rfl
    · obtain ⟨_, _, _, wrong⟩ := gives_liftOne_smooth egress smooth.right
      cases wrong
  · obtain ⟨_, _, _, wrong⟩ := gives_liftOne_smooth stopped smooth
    cases wrong

/-- **An investigation in which no call fails** concludes, by what it was answered alone. -/
theorem Course.answered {client : CloudClient} {infraId : String} {r : Except Failure Conclusion}
    (h : Course ctx now log r) (cloud : ctx.cloudClient = .ok client)
    (infra : ctx.infraId = .ok infraId) (smooth : log.Smooth) :
    ∃ (a : Answers) (c : Conclusion), r = .ok c ∧
      ⟨Ask.now, now⟩ :: log = a.log ctx.settings ctx.cluster client infraId ∧
      c.sideActions = [] ∧ c.routing = a.routing ctx.settings := by
  cases h with
  | unequipped f lacks => exact absurd infra (lacks client infraId cloud)
  | uncounted f g => exact absurd (List.mem_cons_self ..) (smooth.not_mem _ f)
  | unasked f g =>
    exact absurd (List.mem_cons_of_mem _ (List.mem_singleton_self _)) (smooth.not_mem _ f)
  | @few client' infraId' instances expected cloud' infra' few notes =>
    cases cloud.symm.trans cloud'
    cases infra.symm.trans infra'
    let a : Answers := ⟨now, instances, expected, fun _ => [], fun _ => []⟩
    have few : a.Few := few
    refine ⟨a, _, rfl, ?_, rfl, ?_⟩
    · rw [Answers.log, if_pos few]
      rfl
    · rw [Answers.routing, if_pos few]
      rfl
  | @lifting client' infraId' instances expected rest r n n' cloud' infra' enough lifted =>
    cases cloud.symm.trans cloud'
    cases infra.symm.trans infra'
    obtain ⟨a, rfl, rfl, rfl, rfl, c, rfl, sides, routed⟩ :=
      gives_liftBoth_smooth lifted smooth.tail.tail instances expected
    have enough : ¬ a.Few := Nat.not_lt_of_le enough
    refine ⟨a, c, rfl, ?_, sides, routed enough⟩
    rw [Answers.log, if_neg enough]
    rfl

namespace Answers

variable {a : Answers} {s : Settings} {cluster : Cluster}

/-- A person is paged if too few nodes run or something is flapping. -/
theorem escalates_iff {c : Conclusion} (routed : c.routing = a.routing s) :
    c.isEscalation = true ↔ a.Few ∨ ∃ x ∈ liftable, a.Flaps s x := by
  rw [Conclusion.isEscalation, routed, routing]
  by_cases few : a.Few
  · rw [if_pos few]
    exact iff_of_true rfl (.inl few)
  · by_cases flapping : ∃ x ∈ liftable, a.Flaps s x
    · rw [if_neg few, if_pos flapping]
      exact iff_of_true rfl (.inr flapping)
    · rw [if_neg few, if_neg flapping]
      exact iff_of_false nofun fun either => either.elim few flapping

/-- What lifting one restriction leaves. -/
theorem after_lifting {x : Change} {held held' : Ledger}
    (after : held.After cluster.id (a.lifting s cluster x) held') :
    held'.restrictions = held.restrictions.filter fun r =>
      !(x.owns r && !decide (a.Flaps s x)) := by
  obtain ⟨mid, before, behind⟩ := Ledger.after_append.mp after
  have counted : held'.restrictions = mid.restrictions := by
    refine Ledger.after_leaving (fun e he => ?_) behind
    generalize x.restriction.swept s a.now (a.history x) (a.listed x) = lifting at he
    cases lifting with
    | removed count =>
      rw [List.mem_singleton.mp he]
      trivial
    | _ => exact absurd he List.not_mem_nil
  rw [counted]
  exact Ledger.after_sweep before

/-- What lifting restrictions one after the other leaves: each goes for its own reason. -/
theorem after_liftings {xs : List Change} {held held' : Ledger}
    (after : held.After cluster.id (xs.flatMap (a.lifting s cluster)) held') :
    held'.restrictions =
      held.restrictions.filter fun r => xs.all fun x => !(x.owns r && !decide (a.Flaps s x)) := by
  induction xs generalizing held with
  | nil =>
    rw [show held' = held from after]
    exact (List.filter_eq_self.mpr fun _ _ => rfl).symm
  | cons x xs ih =>
    obtain ⟨mid, before, behind⟩ := Ledger.after_append.mp after
    rw [ih behind, after_lifting before, List.filter_filter]
    exact List.filter_congr fun r _ => Bool.and_comm ..

/-- **What the investigation leaves.** -/
theorem after_log {client : CloudClient} {infraId : String} {held held' : Ledger}
    (after : held.After cluster.id (a.log s cluster client infraId) held') :
    held'.restrictions = held.restrictions.filter (a.keeps s) := by
  obtain ⟨mid, before, behind⟩ := Ledger.after_append.mp after
  have same : mid.restrictions = held.restrictions := by
    refine Ledger.after_leaving (fun e he => ?_) before
    simp only [looked, List.mem_cons, List.not_mem_nil, or_false] at he
    rcases he with rfl | rfl | rfl <;> trivial
  rw [← same]
  by_cases few : a.Few
  · rw [if_pos few] at behind
    rw [show held' = mid from behind]
    exact (List.filter_eq_self.mpr fun r _ => by rw [keeps, decide_eq_true few, Bool.true_or]).symm
  · rw [if_neg few] at behind
    rw [after_liftings behind]
    exact List.filter_congr fun r _ => by rw [keeps, decide_eq_false few, Bool.false_or]

end Answers

end Unreachable

theorem Investigation.answered_run {ctx : Context} {client : CloudClient} {infraId : String}
    {n n' : Notes} {log : Log} {r : Except Failure Conclusion}
    (cleared : ctx.alert.hasCleared = true) (cloud : ctx.cloudClient = .ok client)
    (infra : ctx.infraId = .ok infraId)
    (h : Inquiry.Gives (Investigation.unreachable.run ctx) n log r n') (smooth : log.Smooth) :
    ∃ (a : Unreachable.Answers) (c : Conclusion), r = .ok c ∧
      log = a.log ctx.settings ctx.cluster client infraId ∧ c.sideActions = [] ∧
      c.routing = a.routing ctx.settings := by
  rcases Inquiry.gives_bind.mp h with ⟨l₁, now, n₁, l₂, rfl, looked, tried⟩ | ⟨f, rfl, looked⟩
  · obtain ⟨_, asked, told, _⟩ := Inquiry.gives_liftM.mp looked
    cases told
    rw [Program.run_request.mp asked]
    have steps {n n' : Notes} {l : Log} {r : Except Failure Conclusion}
        (ran : Inquiry.Gives (Investigation.unreachable.steps ctx now) n l r n') :
        Unreachable.Course ctx now l r := by
      rw [Investigation.steps, cleared] at ran
      exact Unreachable.course_of_recovered ran
    rcases Inquiry.gives_tryCatch.mp tried with ⟨c, rfl, ran⟩ | ⟨l₃, f, n₂, l₄, rfl, ran, _⟩
    · obtain ⟨a, _, same, whole, sides, routed⟩ := (steps ran).answered cloud infra smooth.right
      cases same
      exact ⟨a, c, rfl, whole, sides, routed⟩
    · -- nothing but a failed call would have led to the handler
      obtain ⟨_, _, wrong, _⟩ := (steps ran).answered cloud infra smooth.right.left
      cases wrong
  · obtain ⟨_, _, wrong, _⟩ := Inquiry.gives_liftM.mp looked
    cases wrong

namespace Desk

variable {d : Desk} {alert : Alert} {s s' : Dossier} {log : Log}

/-- If no call fails, there is a context. -/
theorem built_smooth {r : Except ResolutionFailure Context} {needs : Requirements}
    (h : Resolving.Gives (d.contextFor .unreachable alert needs) s log r s')
    (smooth : log.Smooth) : ∃ ctx, r = .ok ctx := by
  cases r with
  | ok ctx => exact ⟨ctx, rfl⟩
  | error f =>
    rcases Context.gives_build_error h with ⟨_, failed⟩ | ⟨_, id, failed⟩ | ⟨_, _, c, _, failed⟩
    · exact absurd failed (smooth.not_mem _ _)
    · exact absurd failed (smooth.not_mem _ _)
    · exact absurd failed (smooth.not_mem _ _)

/-- **An attempt for a cleared alert in which no call fails** has a context and concludes by what
its investigation was answered. -/
theorem answered_attempt {r : Except Failure (Context × Conclusion)}
    (cleared : alert.hasCleared = true)
    (run : Filing.Gives (d.attempt .unreachable alert) s log r s') (smooth : log.Smooth) :
    ∃ ctx c built client infraId, ∃ a : Unreachable.Answers, r = .ok (ctx, c) ∧
      Resolving.Gives (d.contextFor .unreachable alert Investigation.unreachable.needs) s built
        (.ok ctx) s' ∧
      log = built ++ a.log d.settings ctx.cluster client infraId ∧
      c.sideActions = [] ∧ c.routing = a.routing d.settings := by
  have built {l : Log} {s s' : Dossier} {f : ResolutionFailure} (smooth : l.Smooth) :
      ¬ Resolving.Gives (d.contextFor .unreachable alert Investigation.unreachable.needs) s l
        (.error f) s' := by
    intro failed
    obtain ⟨_, wrong⟩ := built_smooth failed smooth
    cases wrong
  rcases gives_attempt run with ⟨ctx, l₁, l₂, res, notes, rfl, context, ran, rfl⟩ |
    ⟨f, l₁, l₂, s₁, res, rfl, failed, _⟩ | ⟨f, failed, _⟩
  · obtain ⟨onAlert, underSettings, _⟩ := Context.gives_build_ok context
    obtain ⟨client, infraId, cloud, infra⟩ := Context.equipped_of_build context
    obtain ⟨a, c, rfl, rfl, sides, routed⟩ :=
      Investigation.answered_run (onAlert ▸ cleared) cloud infra ran smooth.right
    rw [underSettings] at routed ⊢
    exact ⟨ctx, c, l₁, client, infraId, a, rfl, context, rfl, sides, routed⟩
  · exact absurd failed (built smooth.left)
  · exact absurd failed (built smooth)

/-! ## 4. The handling of an alert -/

/-- **Restrictions are deleted safely.** Every deletion in the handling of an alert is one of an
attempt for a cleared alert about a missing cluster; in it enough nodes were seen to run, a history
was read by which the restriction is not flapping, and the list that was read then has the deleted
one for exactly this reason. And if no call of such an attempt fails, then each restriction goes or
stays by its own history alone, and a person is paged if and only if too few nodes run or some
restriction is flapping. -/
theorem lifting_safe (d : Desk) (alert : Alert) :
    (∀ log r, Fallible.Gives (d.handle alert) log r → Log.Everywhere (d.DeletesSafely alert) log) ∧
    ∀ s log r s', alert.hasCleared = true →
      Filing.Gives (d.attempt .unreachable alert) s log r s' → log.Smooth →
      ∃ ctx c built client infraId, ∃ a : Unreachable.Answers, r = .ok (ctx, c) ∧
        Resolving.Gives (d.contextFor .unreachable alert Investigation.unreachable.needs) s built
          (.ok ctx) s' ∧
        log = built ++ a.log d.settings ctx.cluster client infraId ∧
        (∀ held held', Ledger.After ctx.cluster.id held log held' →
          held'.restrictions = held.restrictions.filter (a.keeps d.settings)) ∧
        c.routing = a.routing d.settings ∧
        (c.isEscalation = true ↔ a.Few ∨ ∃ x ∈ liftable, a.Flaps d.settings x) := by
  refine ⟨fun log r run => deletesSafely_handle run, fun s log r s' cleared run smooth => ?_⟩
  obtain ⟨ctx, c, built, client, infraId, a, rfl, context, rfl, _, routed⟩ :=
    answered_attempt cleared run smooth
  refine ⟨ctx, c, built, client, infraId, a, rfl, context, rfl, fun held held' after => ?_, routed,
    Unreachable.Answers.escalates_iff routed⟩
  obtain ⟨mid, before, behind⟩ := Ledger.after_append.mp after
  have same : mid.restrictions = held.restrictions :=
    Ledger.after_leaving (fun e he => (inquiring_context context e he).leaving) before
  rw [← same]
  exact Unreachable.Answers.after_log behind

end Desk

/-! ### One of two restrictions is flapping -/

/-- Both restrictions are set, and one by hand; the one for blocked egress changed twice. -/
def Ledger.mixed : Ledger where
  restrictions := [
    { Unreachable.stoppedRestriction.restriction with id := some "lsr-1" },
    { Unreachable.egressRestriction.restriction with id := some "lsr-2" },
    ⟨some "lsr-3", Unreachable.stoppedRestriction.summary, "set by hand"⟩]
  history := List.replicate 2
    (Surroundings.sample.entry [] Unreachable.egressRestriction.restriction)
  distinct := by decide

/-- The restriction for stopped instances goes, the other two stay, and a person is paged. -/
theorem Desk.lifting_safe_mixed :
    let d := Desk.standard .standard false
    let alert : Alert := ⟨"Q1", "cluster has gone missing", .resolved, "c1"⟩
    let left := Ledger.mixed.restrictions.filter fun r => decide (r.id ≠ some "lsr-1")
    (∃ log o t, sampleHandling.play Surroundings.sample.answer Ledger.mixed = (log, .ok o, t) ∧
      (∃ e ∈ log, e.request = Ask.call (Call.deletion "c1" "lsr-1")) ∧ t.restrictions = left ∧
      Log.Everywhere (d.DeletesSafely alert) log) ∧
    ∃ log ctx c s' t, ((d.attempt .unreachable alert).run .empty).play Surroundings.sample.answer
        Ledger.mixed = (log, (.ok (ctx, c), s'), t) ∧
      alert.hasCleared = true ∧ Log.Smooth log ∧ c.isEscalation = true ∧
      ∃ a : Unreachable.Answers, (a.Few ∨ ∃ x ∈ liftable, a.Flaps d.settings x) ∧
        left = Ledger.mixed.restrictions.filter (a.keeps d.settings) := by
  intro d alert left
  obtain ⟨safe, concludes⟩ := lifting_safe d alert
  refine ⟨?_, ?_⟩
  · let deletes (q : Ask) : Bool := q = .call (Call.deletion "c1" "lsr-1")
    obtain ⟨ended, gone, deleted⟩ :
        ending (sampleHandling.play Surroundings.sample.answer Ledger.mixed).2.1 =
          some (.concluded, .terminal (.escalate "restriction is flapping")) ∧
        (sampleHandling.play Surroundings.sample.answer Ledger.mixed).2.2.restrictions = left ∧
        ((sampleHandling.play Surroundings.sample.answer Ledger.mixed).1.any fun e =>
          deletes e.request) = true := by decide +kernel
    generalize played : sampleHandling.play Surroundings.sample.answer Ledger.mixed = whole
      at ended gone deleted ⊢
    obtain ⟨log, r, t⟩ := whole
    obtain ⟨o, rfl, _, _⟩ := eq_ok_of_ending ended
    obtain ⟨e, he, same⟩ := List.any_eq_true.mp deleted
    have told (q : Ask) (h : deletes q = true) : q = .call (Call.deletion "c1" "lsr-1") :=
      of_decide_eq_true h
    obtain ⟨run, _⟩ : _ ∧ Surroundings.sample.Follows Call.Lifting .mixed log t :=
      Surroundings.run_played played
    exact ⟨log, o, t, rfl, ⟨e, he, told e.request same⟩, gone, safe log _ run⟩
  · let attempt := (d.attempt .unreachable alert).run .empty
    obtain ⟨smooth, pages, gone, home⟩ :
        Log.Smooth (attempt.play Surroundings.sample.answer Ledger.mixed).1 ∧
        ((attempt.play Surroundings.sample.answer Ledger.mixed).2.1.1.toOption.map
          fun res => (res.1.cluster.id, res.2.isEscalation)) = some ("c1", true) ∧
        (attempt.play Surroundings.sample.answer Ledger.mixed).2.2.restrictions = left ∧
        ∀ e ∈ (attempt.play Surroundings.sample.answer Ledger.mixed).1,
          Ask.isHome "c1" e.request = true := by decide +kernel
    change ∃ log ctx c s' t, attempt.play _ _ = _ ∧ _
    generalize played : attempt.play Surroundings.sample.answer Ledger.mixed = whole
      at smooth pages gone home ⊢
    obtain ⟨log, ⟨r, s'⟩, t⟩ := whole
    obtain ⟨run, follows⟩ : _ ∧ Surroundings.sample.Follows Call.Lifting .mixed log t :=
      Surroundings.run_played played
    obtain ⟨ctx, c, built, client, infraId, a, rfl, _, _, leaves, _, escalates⟩ :=
      concludes .empty log r s' rfl run smooth
    obtain ⟨here, paged⟩ := Prod.mk.injEq .. ▸ Option.some.inj pages
    refine ⟨log, ctx, c, s', t, rfl, rfl, smooth, paged, a, escalates.mp paged, ?_⟩
    rw [← gone]
    refine leaves _ _ ?_
    rw [here]
    exact Surroundings.after_of_follows home follows

end OnCall
