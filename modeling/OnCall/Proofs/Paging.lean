import OnCall.Proofs.Attempts

/-!
# What the pager sees of a handled alert

* `pagerCalls`: the calls of a run to the paging platform, with their replies; `routings`: the pages
  and silences among them that succeeded.
* `Conclusion.Carried`: what the pager sees of a conclusion that is carried out, and what comes of
  it; `Conclusion.carried_execute`.
* `Desk.Seen`: what it sees of a whole handling; `Desk.seen_handle`.
-/

namespace OnCall

/-! ## 1. Calls to the pager -/

/-- A call to the pager with its reply. -/
abbrev Paged := PagerCall × Except Failure Unit

/-- The call to the pager that an exchange is, if it is one. -/
def Exchange.paged? : Exchange collaboration → Option Paged
  | ⟨Ask.call (.pager call), reply⟩ => some (call, reply)
  | _ => none

/-- The calls of a run to the pager, in order. -/
def pagerCalls (log : Log) : List Paged := log.filterMap Exchange.paged?

@[simp] theorem pagerCalls_count (counter : Counter) (log : Log) :
    pagerCalls (⟨Ask.count counter, ()⟩ :: log) = pagerCalls log := rfl

@[simp] theorem pagerCalls_append (a b : Log) : pagerCalls (a ++ b) = pagerCalls a ++ pagerCalls b :=
  List.filterMap_append

/-- A request that is no call to the pager. -/
def Ask.OffPager : Ask → Prop
  | .call (.pager _) => False
  | _ => True

theorem Ask.Inquiring.offPager {deletes : Prop} {q : Ask} (h : q.Inquiring deletes) :
    q.OffPager := by
  cases q with
  | call c => cases c <;> first | exact h | trivial
  | _ => trivial

theorem pagerCalls_eq_nil {log : Log} (h : ∀ e ∈ log, Ask.OffPager e.request) :
    pagerCalls log = [] := by
  refine List.filterMap_eq_nil_iff.mpr fun e he => ?_
  have off := h e he
  obtain ⟨q, reply⟩ := e
  cases q with
  | call c =>
    cases c with
    | pager call => exact off.elim
    | _ => rfl
  | _ => rfl

/-- The call that routes an incident. -/
def Routing.call (incidentId : String) : Routing → PagerCall
  | escalate reason => .escalate incidentId reason
  | silence reason => .silence incidentId reason

/-- What a call to the pager did to the routing of an incident: nothing if it failed. -/
def Paged.routing? : Paged → Option (String × Routing)
  | (.escalate incidentId reason, .ok _) => some (incidentId, .escalate reason)
  | (.silence incidentId reason, .ok _) => some (incidentId, .silence reason)
  | _ => none

/-- The pages and silences of a run that succeeded, with their incidents. -/
def routings (log : Log) : List (String × Routing) := (pagerCalls log).filterMap Paged.routing?

@[simp] theorem Paged.routing?_call_ok (incidentId : String) (r : Routing) :
    Paged.routing? (r.call incidentId, .ok ()) = some (incidentId, r) := by
  cases r <;> rfl

@[simp] theorem Paged.routing?_call_error (incidentId : String) (r : Routing) (f : Failure) :
    Paged.routing? (r.call incidentId, .error f) = none := by
  cases r <;> rfl

@[simp] theorem Paged.routing?_note (incidentId text : String) (r : Except Failure Unit) :
    Paged.routing? (.addNote incidentId text, r) = none := rfl

/-! ## 2. Carrying out a conclusion -/

/-- **What the pager sees of a conclusion** that is carried out for an incident, and what comes of
it: the note, then the routing, up to the first step that fails. -/
inductive Conclusion.Carried (incidentId : String) (c : Conclusion) :
    List Paged → Except Failure Unit → Prop where
  | noteRefused (f g : Failure) : Carried incidentId c [(.addNote incidentId c.note, .error f)] (.error g)
  /-- A step between the note and the routing failed. -/
  | sideFailed (g : Failure) (aside : c.sideActions ≠ []) :
      Carried incidentId c [(.addNote incidentId c.note, .ok ())] (.error g)
  | routingRefused (f g : Failure) :
      Carried incidentId c [(.addNote incidentId c.note, .ok ()), (c.routing.call incidentId, .error f)]
        (.error g)
  | applied :
      Carried incidentId c [(.addNote incidentId c.note, .ok ()), (c.routing.call incidentId, .ok ())]
        (.ok ())

/-- Whether there is a cluster is known. -/
theorem Site.gives_needCluster (site : Site) {label : String} {log : Log} {r : Except Failure Cluster}
    (h : Fallible.Gives (site.needCluster label) log r) : log = [] := by
  unfold needCluster at h
  split at h
  · exact (Fallible.gives_pure.mp h).1
  · exact (Fallible.gives_throw.mp h).1

section Execution

variable {site : Site} {log : Log} {r : Except Failure Unit}

/-- The requests that a step may make. -/
inductive Action.Asks (site : Site) : Action → Ask → Prop where
  | note (text : String) : Asks site (.note text) (.call (.pager (.addNote site.incidentId text)))
  | list (change : Restriction.Change) (clusterId : String) :
      Asks site (.side (.restrict change)) (.call (.manager (.restrictions clusterId)))
  | post (change : Restriction.Change) (clusterId : String) :
      Asks site (.side (.restrict change))
        (.call (.manager (.postRestriction clusterId change.restriction)))
  | wait (change : Restriction.Change) (span : Span) : Asks site (.side (.restrict change)) (.pause span)
  | advise (draft : Advisory.Draft) (cluster : Cluster) :
      Asks site (.side (.advise draft)) (.call (.manager (.postAdvisory cluster draft.advisory)))
  | route (routing : Routing) :
      Asks site (.terminal routing) (.call (.pager (routing.call site.incidentId)))
  | count (a : Action) (counter : Counter) : Asks site a (.count counter)

/-- **A step makes no other requests.** -/
theorem Action.only_apply (site : Site) (a : Action) :
    Fallible.Only (Action.Asks site a) (a.apply site) := by
  have needed {P : Ask → Prop} (label : String) : Fallible.Only P (site.needCluster label) := by
    unfold Site.needCluster
    split
    · exact Fallible.only_pure _
    · exact Fallible.only_throw _
  have counted (a : Action) (counter : Counter) :
      Fallible.Only (Action.Asks site a) (liftM (Work.count counter)) :=
    Fallible.only_liftM (Program.only_request (.count a counter))
  cases a with
  | note text => exact Fallible.only_call (.note text)
  | side side =>
    cases side with
    | restrict change =>
      have ensured (clusterId : String) : Fallible.Only (Action.Asks site (.side (.restrict change)))
          (Restriction.ensure clusterId change.restriction) := by
        refine Fallible.only_bind (Fallible.only_call (.list change clusterId)) fun existing => ?_
        split
        · exact Fallible.only_pure _
        · exact Fallible.only_bind (Fallible.only_call (.post change clusterId)) fun _ =>
            Fallible.only_pure _
      refine Fallible.only_bind (needed _) fun cluster => ?_
      refine Fallible.only_bind (Fallible.only_retried (ensured _) (.wait change)) fun posted => ?_
      split
      · exact counted _ _
      · exact Fallible.only_pure _
    | advise draft =>
      refine Fallible.only_bind (needed _) fun cluster => ?_
      exact Fallible.only_bind (Fallible.only_call (.advise draft cluster)) fun _ => counted _ _
  | terminal routing =>
    cases routing with
    | escalate reason =>
      exact Fallible.only_bind (Fallible.only_call (.route (.escalate reason))) fun _ => counted _ _
    | silence reason =>
      exact Fallible.only_bind (Fallible.only_call (.route (.silence reason))) fun _ => counted _ _

/-- A side action is no matter of the pager. -/
theorem Action.only_side (site : Site) (a : SideAction) :
    Fallible.Only Ask.OffPager ((Action.side a).apply site) :=
  (only_apply site _).imp fun q asked => by cases asked <;> trivial

/-- A call to the pager, and a count if it succeeded. -/
theorem gives_call_count {call : PagerCall} {counter : Counter}
    (h : Fallible.Gives (Work.call (.pager call) >>= fun _ => liftM (Work.count counter)) log r) :
    ∃ rest, log = (Call.pager call).exchange r :: rest ∧ ∀ e ∈ rest, e.request = .count counter := by
  rcases Fallible.gives_bind.mp h with ⟨l₁, _, l₂, rfl, called, counted⟩ | ⟨f, rfl, called⟩
  · rw [Fallible.gives_call.mp called]
    obtain ⟨_, run, rfl⟩ := Fallible.gives_liftM.mp counted
    rw [Program.run_request.mp run]
    exact ⟨[_], rfl, fun e he => by rw [List.mem_singleton.mp he]⟩
  · rw [Fallible.gives_call.mp called]
    exact ⟨[], rfl, fun _ he => absurd he List.not_mem_nil⟩

/-- The terminal action is one call to the pager, and ends as that call does. -/
theorem Action.gives_terminal {routing : Routing}
    (h : Fallible.Gives ((Action.terminal routing).apply site) log r) :
    ∃ rest, log = (Call.pager (routing.call site.incidentId)).exchange r :: rest ∧
      ∀ e ∈ rest, ∃ counter, e.request = .count counter := by
  cases routing with
  | escalate reason =>
    obtain ⟨rest, same, counts⟩ := gives_call_count h
    exact ⟨rest, same, fun e he => ⟨_, counts e he⟩⟩
  | silence reason =>
    obtain ⟨rest, same, counts⟩ := gives_call_count h
    exact ⟨rest, same, fun e he => ⟨_, counts e he⟩⟩

theorem Action.paged_terminal {routing : Routing}
    (h : Fallible.Gives ((Action.terminal routing).apply site) log r) :
    pagerCalls log = [(routing.call site.incidentId, r)] := by
  obtain ⟨rest, rfl, counts⟩ := gives_terminal h
  have quiet : pagerCalls rest = [] := by
    refine pagerCalls_eq_nil fun e he => ?_
    obtain ⟨counter, same⟩ := counts e he
    rw [same]
    trivial
  show (routing.call site.incidentId, r) :: pagerCalls rest = _
  rw [quiet]

/-- What comes of a list of steps: of the first, and of the others if that succeeded. -/
theorem Action.gives_applyAll_cons {a : Action} {as : List Action}
    (h : Fallible.Gives (applyAll site (a :: as)) log r) :
    (∃ first second, log = first ++ second ∧ Fallible.Gives (a.apply site) first (.ok ()) ∧
        Fallible.Gives (applyAll site as) second r) ∨
      ∃ f g, Fallible.Gives (a.apply site) log (.error f) ∧ r = .error g := by
  rcases Fallible.gives_bind.mp h with ⟨first, _, second, rfl, h₁, h₂⟩ | ⟨g, rfl, h₁⟩
  · obtain ⟨f | _, applied, hr⟩ := Fallible.gives_adapt.mp h₁
    · cases hr
    · exact .inl ⟨first, second, rfl, applied, h₂⟩
  · obtain ⟨f | _, applied, hr⟩ := Fallible.gives_adapt.mp h₁
    · exact .inr ⟨f, g, applied, rfl⟩
    · cases hr

/-- What comes of two lists of steps: of the one, and of the other if that succeeded. -/
theorem Action.gives_applyAll_append {as bs : List Action}
    (h : Fallible.Gives (applyAll site (as ++ bs)) log r) :
    (∃ first second, log = first ++ second ∧ Fallible.Gives (applyAll site as) first (.ok ()) ∧
        Fallible.Gives (applyAll site bs) second r) ∨
      ∃ g, Fallible.Gives (applyAll site as) log (.error g) ∧ r = .error g := by
  induction as generalizing log with
  | nil => exact .inl ⟨[], log, rfl, Fallible.gives_pure.mpr ⟨rfl, rfl⟩, h⟩
  | cons a as ih =>
    rcases Fallible.gives_bind.mp h with ⟨l₁, _, l₂, rfl, h₁, h₂⟩ | ⟨g, rfl, h₁⟩
    · rcases ih h₂ with ⟨first, second, rfl, h₃, h₄⟩ | ⟨g, h₃, rfl⟩
      · refine .inl ⟨l₁ ++ first, second, (List.append_assoc ..).symm, ?_, h₄⟩
        exact Fallible.gives_bind_ok.mpr ⟨l₁, (), first, rfl, h₁, h₃⟩
      · exact .inr ⟨g, Fallible.gives_bind.mpr (.inl ⟨l₁, (), l₂, rfl, h₁, h₃⟩), rfl⟩
    · exact .inr ⟨g, Fallible.gives_bind.mpr (.inr ⟨g, rfl, h₁⟩), rfl⟩

theorem Action.only_applyAll {P : Ask → Prop} {as : List Action}
    (h : ∀ a ∈ as, Fallible.Only P (a.apply site)) : Fallible.Only P (applyAll site as) := by
  induction as with
  | nil => exact Fallible.only_pure ()
  | cons a as ih =>
    refine Fallible.only_bind (Fallible.only_adapt (h a (List.mem_cons_self ..))) fun _ => ?_
    exact ih fun b hb => h b (List.mem_cons_of_mem a hb)

/-- Side actions are no matter of the pager. -/
theorem Action.only_sides (site : Site) (sides : List SideAction) :
    Fallible.Only Ask.OffPager (applyAll site (sides.map Action.side)) := by
  refine only_applyAll fun a ha => ?_
  obtain ⟨side, _, rfl⟩ := List.mem_map.mp ha
  exact only_side site side

/-- **Carrying out a conclusion**: the pager sees the note, then the routing, up to the first step
that fails. -/
theorem Conclusion.carried_execute {c : Conclusion}
    (h : Fallible.Gives (c.execute site) log r) : Carried site.incidentId c (pagerCalls log) r := by
  have quiet {l : Log} {r : Except Failure Unit}
      (h : Fallible.Gives (Action.applyAll site (c.sideActions.map Action.side)) l r) :
      pagerCalls l = [] := pagerCalls_eq_nil ((Action.only_sides site _).of_run h)
  rcases Action.gives_applyAll_append h with ⟨l₁, l₂, rfl, before, routed⟩ | ⟨g, failed, rfl⟩
  · rcases Action.gives_applyAll_cons before with ⟨l₃, l₄, rfl, noted, sides⟩ | ⟨_, _, _, wrong⟩
    · rw [pagerCalls_append, pagerCalls_append, Fallible.gives_call.mp noted, quiet sides]
      rcases Action.gives_applyAll_cons routed with ⟨l₅, l₆, rfl, applied, ended⟩ |
        ⟨f, g, refused, rfl⟩
      · obtain ⟨rfl, rfl⟩ := Fallible.gives_pure.mp ended
        rw [List.append_nil, List.append_nil, Action.paged_terminal applied]
        exact .applied
      · rw [Action.paged_terminal refused]
        exact .routingRefused f g
    · cases wrong
  · rcases Action.gives_applyAll_cons failed with ⟨l₁, l₂, rfl, noted, sides⟩ | ⟨f, _, noted, _⟩
    · rw [pagerCalls_append, Fallible.gives_call.mp noted, quiet sides]
      refine .sideFailed g fun none' => ?_
      rw [none'] at sides
      cases (Fallible.gives_pure.mp sides).2
    · rw [Fallible.gives_call.mp noted]
      exact .noteRefused f g

end Execution

/-! ## 3. Handling an alert -/

/-- **What the pager sees of a fallback**: a note and a page, up to the first that is refused, and
nothing in between. -/
inductive Desk.FellBack (incidentId : String) : List Paged → Except Failure Outcome → Prop where
  | noteRefused (text : String) (f g : Failure) :
      FellBack incidentId [(.addNote incidentId text, .error f)] (.error g)
  | pageRefused (text reason : String) (f g : Failure) :
      FellBack incidentId
        [(.addNote incidentId text, .ok ()), (.escalate incidentId reason, .error f)] (.error g)
  | paged (text : String) (o : Outcome) (reason : String) (fallback : o.status ≠ .concluded)
      (routed : o.conclusion.routing = .escalate reason) :
      FellBack incidentId
        [(.addNote incidentId text, .ok ()), (.escalate incidentId reason, .ok ())] (.ok o)

/-- **What the pager sees of a handled alert**: a conclusion that was carried out; or a fallback,
after a conclusion that was not or after none at all. -/
inductive Desk.Seen (incidentId : String) : List Paged → Except Failure Outcome → Prop where
  | concluded {calls : List Paged} {o : Outcome} (status : o.status = .concluded)
      (carried : o.conclusion.Carried incidentId calls (.ok ())) : Seen incidentId calls (.ok o)
  | fellBack {calls : List Paged} {r : Except Failure Outcome} (h : FellBack incidentId calls r) :
      Seen incidentId calls r
  | unapplied {first second : List Paged} {r : Except Failure Outcome} {c : Conclusion} {f : Failure}
      (carried : c.Carried incidentId first (.error f)) (h : FellBack incidentId second r) :
      Seen incidentId (first ++ second) r

namespace Desk

variable {d : Desk} {alert : Alert} {log : Log} {r : Except Failure Outcome}

theorem seen_fallBack {cluster : Option Cluster} {name : String} {status : OutcomeStatus}
    {mark : Mark} {line reason : String}
    (h : Fallible.Gives (d.fallBack alert cluster name status mark line reason) log r)
    (fallback : status ≠ .concluded) :
    FellBack alert.incidentId (pagerCalls log) r := by
  obtain ⟨r₀, executed, ended⟩ := gives_fallBack h
  have carried := Conclusion.carried_execute executed
  generalize pagerCalls log = calls at carried ⊢
  rcases ended with ⟨rfl, rfl⟩ | ⟨f, g, rfl, rfl⟩
  · cases carried with
    | applied => exact .paged _ _ reason fallback rfl
  · cases carried with
    | noteRefused f => exact .noteRefused _ f g
    | sideFailed _ aside => exact absurd rfl aside
    | routingRefused f => exact .pageRefused _ reason f g

theorem seen_carryOut {name : String} {ctx : Context} {c : Conclusion}
    (h : Fallible.Gives (d.carryOut name ctx c) log r) :
    Seen ctx.alert.incidentId (pagerCalls log) r := by
  rcases gives_carryOut h with ⟨rfl, executed⟩ | ⟨first, last, f, rfl, executed, reported⟩
  · exact .concluded rfl (Conclusion.carried_execute executed)
  · rw [pagerCalls_append]
    exact .unapplied (Conclusion.carried_execute executed) (seen_fallBack reported (by decide))

/-- Attempts are no matter of the pager. -/
theorem pagerCalls_attempts {i : Investigation} {n : Nat} {s s₁ s₂ : Dossier} {earlier last : Log}
    {res : Except Failure (Context × Conclusion)}
    (failed : Retries (Filing.Gives (d.attempt i alert)) Repeating n s earlier s₁)
    (counts : Filing.Gives (d.attempt i alert) s₁ last res s₂) : pagerCalls (earlier ++ last) = [] := by
  refine pagerCalls_eq_nil fun e he => ?_
  rcases List.mem_append.mp he with he | he
  · exact (only_attempts failed e he).offPager
  · exact ((only_attempt _).of_run counts e he).offPager

/-- **What the pager sees of a handled alert.** -/
theorem seen_handle (h : Fallible.Gives (d.handle alert) log r) :
    Seen alert.incidentId (pagerCalls log) r := by
  obtain ⟨rest, rfl, ⟨_, fell⟩ | ⟨i, _, tries, res, s, carried, rfl, tried, ended⟩⟩ :=
    gives_handle h
  · rw [pagerCalls_count]
    exact .fellBack (seen_fallBack fell (by decide))
  · obtain ⟨_, earlier, s₁, last, _, rfl, failed, counts, _⟩ := gives_attempts tried
    rw [pagerCalls_count, pagerCalls_append, pagerCalls_attempts failed counts, List.nil_append]
    rcases ended with ⟨ctx, c, rfl, carriedOut⟩ | ⟨f, rfl, givenUp⟩
    · rw [← (context_of_attempt_ok counts).1]
      exact seen_carryOut carriedOut
    · exact .fellBack (seen_fallBack givenUp (by decide))

end Desk

/-! ## 4. Exactly one routing -/

/-- A conclusion that was not carried out routed nothing. -/
theorem Conclusion.Carried.not_routed {incidentId : String} {c : Conclusion} {calls : List Paged}
    {f : Failure} (h : c.Carried incidentId calls (.error f)) :
    calls.filterMap Paged.routing? = [] := by
  cases h with
  | noteRefused => rfl
  | sideFailed => rfl
  | routingRefused f g =>
    rw [List.filterMap_cons_none (Paged.routing?_note _ _ _),
      List.filterMap_cons_none (Paged.routing?_call_error _ _ _), List.filterMap_nil]

/-- What becomes of an incident by the calls to the pager and the value of a handling: if it
ended, one routing, the last call to the pager; if it failed, none. -/
def Desk.RoutesOnce (incidentId : String) (calls : List Paged) : Except Failure Outcome → Prop
  | .ok o => ∃ routing, o.conclusion.actions.filter Action.isTerminal = [.terminal routing] ∧
      calls.filterMap Paged.routing? = [(incidentId, routing)] ∧
      calls.getLast? = some (routing.call incidentId, .ok ()) ∧
      ((∃ reason, routing = .silence reason) → o.status = .concluded)
  | .error _ => calls.filterMap Paged.routing? = []

theorem Desk.FellBack.routes_once {incidentId : String} {calls : List Paged}
    {r : Except Failure Outcome} (h : FellBack incidentId calls r) :
    RoutesOnce incidentId calls r := by
  cases h with
  | noteRefused => rfl
  | pageRefused => rfl
  | paged text o reason _ routed =>
    refine ⟨.escalate reason, ?_, rfl, rfl, fun ⟨_, silent⟩ => nomatch silent⟩
    rw [o.conclusion.filter_isTerminal_actions, Conclusion.terminal, routed]

theorem Desk.Seen.routes_once {incidentId : String} {calls : List Paged}
    {r : Except Failure Outcome} (h : Seen incidentId calls r) : RoutesOnce incidentId calls r := by
  cases h with
  | @concluded calls o status carried =>
    cases carried with
    | applied =>
      refine ⟨o.conclusion.routing, o.conclusion.filter_isTerminal_actions, ?_, rfl, fun _ => status⟩
      rw [List.filterMap_cons_none (Paged.routing?_note _ _ _),
        List.filterMap_cons_some (Paged.routing?_call_ok _ _), List.filterMap_nil]
  | fellBack fell => exact fell.routes_once
  | @unapplied first second r c f carried fell =>
    have once := fell.routes_once
    have nothing := carried.not_routed
    cases r with
    | ok o =>
      obtain ⟨routing, terminal, routed, last, silent⟩ := once
      refine ⟨routing, terminal, ?_, ?_, silent⟩
      · rw [List.filterMap_append, nothing, List.nil_append, routed]
      · rw [List.getLast?_append, last, Option.some_or]
    | error g => exact (List.filterMap_append ..).trans (by rw [nothing]; exact once)

/-- **Exactly one routing**: a handling that ended paged or silenced its incident once, by its last
call to the pager and as the terminal action of its conclusion says; it silenced only what was
concluded. A handling that failed did neither. -/
theorem Desk.handle_routes_once {d : Desk} {alert : Alert} {log : Log} {r : Except Failure Outcome}
    (h : Fallible.Gives (d.handle alert) log r) :
    (∀ o, r = .ok o → ∃ routing,
      o.conclusion.actions.filter Action.isTerminal = [.terminal routing] ∧
      routings log = [(alert.incidentId, routing)] ∧
      (pagerCalls log).getLast? = some (routing.call alert.incidentId, .ok ()) ∧
      ((∃ reason, routing = .silence reason) → o.status = .concluded)) ∧
    ∀ f, r = .error f → routings log = [] := by
  have once := (seen_handle h).routes_once
  refine ⟨fun o ended => ?_, fun f failed => ?_⟩
  · rw [ended] at once
    exact once
  · rw [failed] at once
    exact once

theorem Desk.handle_routes_once_recovered :
    let played := (Desk.standard .standard false).rehearse
      ⟨"Q1", "cluster has gone missing", .resolved, "c1"⟩ .standard
    ∃ o, played.2 = .ok o ∧ o.status = .concluded ∧ ∃ routing,
      o.conclusion.actions.filter Action.isTerminal = [.terminal routing] ∧
      routings played.1 = [("Q1", routing)] ∧
      (pagerCalls played.1).getLast? = some (routing.call "Q1", .ok ()) ∧
      ((∃ reason, routing = .silence reason) → o.status = .concluded) :=
  ⟨_, rfl, rfl, (handle_routes_once gives_rehearse).1 _ rfl⟩

/-! ## 5. Failing without a page -/

/-- A page of the incident was tried and refused. -/
def PageRefused (incidentId : String) (calls : List Paged) : Prop :=
  ∃ reason f, (.escalate incidentId reason, .error f) ∈ calls

/-- The last call was a note that was refused, and no page of the incident was tried before. -/
def StoppedAtNote (incidentId : String) (calls : List Paged) : Prop :=
  ∃ earlier text f, calls = earlier ++ [(.addNote incidentId text, .error f)] ∧
    ∀ reason reply, (.escalate incidentId reason, reply) ∉ earlier

/-- The last call was refused. -/
def LastRefused (calls : List Paged) : Prop := ∃ call f, calls.getLast? = some (call, .error f)

theorem StoppedAtNote.lastRefused {incidentId : String} {calls : List Paged}
    (h : StoppedAtNote incidentId calls) : LastRefused calls := by
  obtain ⟨earlier, text, f, rfl, _⟩ := h
  exact ⟨_, f, List.getLast?_concat⟩

theorem StoppedAtNote.not_pageRefused {incidentId : String} {calls : List Paged}
    (h : StoppedAtNote incidentId calls) : ¬ PageRefused incidentId calls := by
  obtain ⟨earlier, text, f, rfl, unpaged⟩ := h
  intro ⟨reason, g, paged⟩
  rcases List.mem_append.mp paged with paged | paged
  · exact unpaged reason _ paged
  · cases List.mem_singleton.mp paged

theorem Desk.FellBack.failed_iff {incidentId : String} {calls : List Paged}
    {r : Except Failure Outcome} (h : FellBack incidentId calls r) :
    (∃ f, r = .error f) ↔ LastRefused calls := by
  cases h with
  | noteRefused text f g => exact ⟨fun _ => ⟨_, f, rfl⟩, fun _ => ⟨g, rfl⟩⟩
  | pageRefused text reason f g => exact ⟨fun _ => ⟨_, f, rfl⟩, fun _ => ⟨g, rfl⟩⟩
  | paged text o reason => exact ⟨(fun ⟨_, e⟩ => nomatch e), (fun ⟨_, _, e⟩ => nomatch e)⟩

theorem Desk.FellBack.ne_nil {incidentId : String} {calls : List Paged}
    {r : Except Failure Outcome} (h : FellBack incidentId calls r) : calls ≠ [] := by
  cases h <;> exact List.cons_ne_nil _ _

/-- A handling fails if its last call to the pager was refused, and only then. -/
theorem Desk.Seen.failed_iff {incidentId : String} {calls : List Paged}
    {r : Except Failure Outcome} (h : Seen incidentId calls r) :
    (∃ f, r = .error f) ↔ LastRefused calls := by
  cases h with
  | concluded _ carried =>
    cases carried with
    | applied => exact ⟨(fun ⟨_, e⟩ => nomatch e), (fun ⟨_, _, e⟩ => nomatch e)⟩
  | fellBack fell => exact fell.failed_iff
  | unapplied _ fell =>
    have last := List.getLast?_eq_some_getLast fell.ne_nil
    rw [fell.failed_iff, LastRefused, LastRefused, List.getLast?_append, last, Option.some_or]

/-- A page among the calls for a conclusion that was not carried out is one that was refused. -/
theorem Conclusion.Carried.pageRefused {incidentId reason : String} {c : Conclusion}
    {calls : List Paged} {f : Failure} {reply : Except Failure Unit}
    (h : c.Carried incidentId calls (.error f)) (paged : (.escalate incidentId reason, reply) ∈ calls) :
    PageRefused incidentId calls := by
  cases reply with
  | error g => exact ⟨reason, g, paged⟩
  | ok _ =>
    have routed : (incidentId, Routing.escalate reason) ∈ calls.filterMap Paged.routing? :=
      List.mem_filterMap.mpr ⟨_, paged, rfl⟩
    rw [h.not_routed] at routed
    exact absurd routed List.not_mem_nil

theorem Desk.FellBack.stoppedAtNote {incidentId : String} {calls : List Paged} {f : Failure}
    (h : FellBack incidentId calls (.error f)) (unpaged : ¬ PageRefused incidentId calls) :
    ∃ text g, calls = [(.addNote incidentId text, .error g)] := by
  cases h with
  | noteRefused text g => exact ⟨text, g, rfl⟩
  | pageRefused text reason g =>
    exact absurd ⟨reason, g, List.mem_cons_of_mem _ (List.mem_singleton_self _)⟩ unpaged

/-- A handling that failed, and no page was refused, stopped at a note. -/
theorem Desk.Seen.stoppedAtNote {incidentId : String} {calls : List Paged} {f : Failure}
    (h : Seen incidentId calls (.error f)) (unpaged : ¬ PageRefused incidentId calls) :
    StoppedAtNote incidentId calls := by
  cases h with
  | fellBack fell =>
    obtain ⟨text, g, rfl⟩ := fell.stoppedAtNote unpaged
    exact ⟨[], text, g, rfl, fun _ _ => List.not_mem_nil⟩
  | @unapplied first second _ c _ carried fell =>
    have later : ¬ PageRefused incidentId second := fun ⟨reason, g, paged⟩ =>
      unpaged ⟨reason, g, List.mem_append_right first paged⟩
    obtain ⟨text, g, rfl⟩ := fell.stoppedAtNote later
    refine ⟨first, text, g, rfl, fun reason reply paged => unpaged ?_⟩
    obtain ⟨reason, g, refused⟩ := carried.pageRefused paged
    exact ⟨reason, g, List.mem_append_left _ refused⟩

/-- **Failing without a page.** A handling fails if its last call to the pager was refused, and only
then. No refused page is behind the failure exactly if that last call was a note, and no page of the
incident had been tried: then the refused note alone kept the incident from being escalated. -/
theorem Desk.handle_fails_unpaged_iff {d : Desk} {alert : Alert} {log : Log}
    {r : Except Failure Outcome} (h : Fallible.Gives (d.handle alert) log r) :
    ((∃ f, r = .error f) ↔ LastRefused (pagerCalls log)) ∧
    ((∃ f, r = .error f) ∧ ¬ PageRefused alert.incidentId (pagerCalls log) ↔
      StoppedAtNote alert.incidentId (pagerCalls log)) := by
  have seen := seen_handle h
  refine ⟨seen.failed_iff, ?_⟩
  constructor
  · intro ⟨⟨f, failed⟩, unpaged⟩
    rw [failed] at seen
    exact seen.stoppedAtNote unpaged
  · intro stopped
    exact ⟨seen.failed_iff.mpr stopped.lastRefused, stopped.not_pageRefused⟩

theorem Desk.handle_fails_unpaged_note_refused :
    let played := (Desk.standard .standard false).rehearse
      ⟨"Q1", "KubeAPIDown", .triggered, "c1"⟩
      { Rehearsal.standard with faults := [(.addNote, [some (.root (.reported "unavailable"))])] }
    (∃ text f, pagerCalls played.1 = [(.addNote "Q1" text, .error f)]) ∧
    (∃ f, played.2 = .error f) ∧ ¬ PageRefused "Q1" (pagerCalls played.1) :=
  ⟨⟨_, _, rfl⟩, (handle_fails_unpaged_iff gives_rehearse).2.mpr
    ⟨[], _, _, rfl, fun _ _ => List.not_mem_nil⟩⟩

end OnCall
