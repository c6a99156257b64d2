import OnCall.Proofs.Findings
import OnCall.Proofs.Probing
import OnCall.Proofs.Refusals

/-!
# What is decided about an installation that takes too long

The cluster is ready by now; or a lookup of route tables is refused; or some of the customer's
subnets have no way out; or none is without, and the egress decides.

* `Route.LeadsOut`, `HaveWayOut`: a route, and route tables, by which traffic leaves for anywhere.
* `Provisioning.Fetched`: the route tables of subnets, asked for one subnet after the other;
  `Provisioning.lacking`: the subnets without a way out.
* `Provisioning.TellsOfSubnets`, `Provisioning.TellsOfEndpoints`: what an advisory tells the customer;
  `Provisioning.AfterEgress`: what is concluded from a probe.
* `Provisioning.Course`: the cases, each with everything that is asked for and what is concluded;
  `Provisioning.course_run`: **there is no other**.
* `Desk.installation_decided`: **what an attempt comes to**.
-/

namespace OnCall

/-! ## 1. Ways out -/

/-- **Traffic to anywhere leaves by the route**: it is a default route, it works, and it goes
through an internet gateway, a NAT gateway or a transit gateway. -/
def Route.LeadsOut (r : Route) : Prop :=
  r.destinationCidr = some "0.0.0.0/0" ∧ r.state ≠ some "blackhole" ∧
    ((∃ id, r.gatewayId = some ("igw-" ++ id)) ∨ (∃ id, r.natGatewayId = some id) ∨
      ∃ id, r.transitGatewayId = some id)

/-- One of the routes in the tables leads out. -/
def HaveWayOut (tables : List RouteTable) : Prop := ∃ t ∈ tables, ∃ r ∈ t.routes, r.LeadsOut

/-- A text starts with another one if it goes on from there. -/
theorem Text.starts_iff {start text : String} :
    start.toList.isPrefixOf text.toList = true ↔ ∃ rest, text = start ++ rest := by
  rw [List.isPrefixOf_iff_prefix]
  constructor
  · intro ⟨rest, whole⟩
    refine ⟨String.ofList rest, String.toList_inj.mp ?_⟩
    rw [String.toList_append, String.toList_ofList, whole]
  · intro ⟨rest, whole⟩
    rw [whole, String.toList_append]
    exact List.prefix_append _ _

theorem Route.isDefault_iff (r : Route) : r.isDefault = true ↔ r.LeadsOut := by
  unfold isDefault LeadsOut
  simp only [Bool.and_eq_true, Bool.or_eq_true, decide_eq_true_eq, Option.any_eq_true,
    Option.isSome_iff_exists, Text.starts_iff, and_assoc, or_assoc]
  have gateway : (∃ g, r.gatewayId = some g ∧ ∃ id, g = "igw-" ++ id) ↔
      ∃ id, r.gatewayId = some ("igw-" ++ id) := by
    constructor
    · intro ⟨g, known, id, same⟩
      exact ⟨id, same ▸ known⟩
    · intro ⟨id, known⟩
      exact ⟨_, known, id, rfl⟩
  rw [gateway]

theorem leadsOut_iff {tables : List RouteTable} : leadsOut tables = true ↔ HaveWayOut tables := by
  unfold leadsOut HaveWayOut
  simp only [List.any_eq_true, Route.isDefault_iff]

instance (tables : List RouteTable) : Decidable (HaveWayOut tables) :=
  decidable_of_iff _ leadsOut_iff

/-! ## 2. Probes -/

namespace EgressFinding

variable {ctx : Context} {log : Log}

/-- Everything that a probe asks for has to do with it. -/
theorem Listed.probing {client : CloudClient} {infraId : String}
    {r : Except Failure (List String)} (h : Listed ctx client infraId log r) :
    ∀ e ∈ log, ¬ e.request.Unprobing := by
  cases h with
  | own => exact List.forall_mem_nil _
  | looked => exact List.forall_mem_singleton.mpr fun unprobing => unprobing rfl

theorem Aimed.probing {r : Except Failure EgressTarget} (h : Aimed ctx log r) :
    ∀ e ∈ log, ¬ e.request.Unprobing := by
  cases h with
  | unequipped => exact List.forall_mem_nil _
  | unlisted listed => exact listed.probing
  | subnetless listed => exact listed.probing
  | chosen listed =>
    exact List.forall_mem_append.mpr ⟨listed.probing,
      List.forall_mem_singleton.mpr fun unprobing => unprobing rfl⟩

theorem Probed.probing {finding : EgressFinding} (h : Probed ctx log finding) :
    ∀ e ∈ log, ¬ e.request.Unprobing := by
  cases h with
  | unaimed aimed => exact aimed.probing
  | verified aimed =>
    exact List.forall_mem_append.mpr ⟨aimed.probing,
      List.forall_mem_singleton.mpr fun unprobing => unprobing rfl⟩

end EgressFinding

/-! ## 3. The route tables of subnets -/

namespace Provisioning

/-- The lookups of route tables that were answered, subnet by subnet. -/
def fetches (client : CloudClient) (fetched : List (String × List RouteTable)) : Log :=
  fetched.map fun answer => (Call.cloud client (.routeTables answer.1)).exchange (.ok answer.2)

/-- **The subnets without a way out**, in order. -/
def lacking (fetched : List (String × List RouteTable)) : List String :=
  (fetched.filter fun answer => ¬ HaveWayOut answer.2).map Prod.fst

/-- What a refused lookup of the route tables of a subnet makes of the failure. -/
def unfetched (subnet : String) (f : Failure) : Failure :=
  f.asInfrastructure ("could not retrieve route tables of " ++ subnet)

/-- **The route tables of some subnets are asked for**, once for each subnet and in order, up to the
first lookup that is refused. -/
inductive Fetched (client : CloudClient) :
    List String → Log → Except Failure (List String) → Prop where
  | all (fetched : List (String × List RouteTable)) :
      Fetched client (fetched.map Prod.fst) (fetches client fetched) (.ok (lacking fetched))
  | refused (fetched : List (String × List RouteTable)) (subnet : String) (others : List String)
      (f : Failure) :
      Fetched client (fetched.map Prod.fst ++ subnet :: others)
        (fetches client fetched ++ [(Call.cloud client (.routeTables subnet)).exchange (.error f)])
        (.error (unfetched subnet f))

variable {ctx : Context} {client : CloudClient} {n n' : Notes} {log : Log}

theorem Fetched.cons {subnet : String} {tables : List RouteTable} {others : List String}
    {rest : Log} {r : Except Failure (List String)} (h : Fetched client others rest r) :
    Fetched client (subnet :: others)
      ((Call.cloud client (.routeTables subnet)).exchange (.ok tables) :: rest)
      (r.map fun missing => if leadsOut tables then missing else subnet :: missing) := by
  cases h with
  | all fetched =>
    have head : lacking ((subnet, tables) :: fetched) =
        if leadsOut tables then lacking fetched else subnet :: lacking fetched := by
      unfold lacking
      by_cases out : leadsOut tables = true
      · simp [leadsOut_iff.mp out, out]
      · have stuck : ¬ HaveWayOut tables := fun way => out (leadsOut_iff.mpr way)
        simp [stuck, out]
    have more : Fetched client _ _ (.ok (lacking ((subnet, tables) :: fetched))) :=
      .all ((subnet, tables) :: fetched)
    rw [head] at more
    exact more
  | refused fetched subnet' others f =>
    exact .refused ((subnet, tables) :: fetched) subnet' others f

theorem fetched_of_withoutRoute {subnets : List String} {r : Except Failure (List String)}
    (h : Inquiry.Gives (withoutRoute client subnets) n log r n') :
    Fetched client subnets log r ∧ n' = n := by
  induction subnets generalizing log r n' with
  | nil =>
    obtain ⟨rfl, rfl, rfl⟩ := Inquiry.gives_pure.mp h
    exact ⟨.all [], rfl⟩
  | cons subnet others ih =>
    unfold withoutRoute at h
    rcases Inquiry.gives_bind.mp h with ⟨first, tables, n₁, rest, rfl, asked, behind⟩ |
      ⟨f, rfl, asked⟩
    · obtain ⟨called, rfl⟩ := Inquiry.gives_require_ok.mp asked
      rw [Fallible.gives_call.mp called]
      rcases Inquiry.gives_bind.mp behind with ⟨second, missing, n₂, last, rfl, found, ended⟩ |
        ⟨f, rfl, found⟩
      · obtain ⟨fetched, rfl⟩ := ih found
        obtain ⟨rfl, rfl, rfl⟩ := Inquiry.gives_pure.mp ended
        rw [List.append_nil]
        exact ⟨fetched.cons, rfl⟩
      · obtain ⟨fetched, rfl⟩ := ih found
        exact ⟨fetched.cons, rfl⟩
    · obtain ⟨g | _, called, failed, rfl⟩ := Inquiry.gives_require.mp asked
      · cases failed
        rw [Fallible.gives_call.mp called]
        exact ⟨.refused [] subnet others g, rfl⟩
      · cases failed

/-! ## 4. The course of the investigation -/

/-- The first lines: the state of the cluster, and what is known about its protection. -/
def opening (ctx : Context) (protection : Except Failure Bool) (n : Notes) : Notes :=
  let n := n.add .info ("Cluster is in state '" ++ ctx.cluster.state.name ++ "'")
  match protection with
  | .ok true => n.add .info "Access protection is enabled; cluster access needs customer approval"
  | .ok false => n
  | .error f => n.add .warning ("Could not check access protection: " ++ f.full)

/-- The line about the subnets of a customer that all have a way out, if there are any. -/
def routed (ctx : Context) (n : Notes) : Notes :=
  if ctx.cluster.subnetIds = [] then n
  else n.add .success "All customer subnets have a default route"

/-- The line about subnets without a way out. -/
def unrouted (missing : List String) (n : Notes) : Notes :=
  n.add .warning ("Subnets without a default route: " ++ ", ".intercalate missing)

/-- **The advisory tells of these subnets**, in order and of no others: they have no way out, and the
installation waits for one. -/
structure TellsOfSubnets (missing : List String) (advisory : Advisory.Draft) : Prop where
  severity : advisory.severity = .warning
  summary : advisory.summary = "Installation blocked: Missing route to internet"
  description : advisory.description =
    "Your cluster's installation is blocked because subnets " ++ ", ".intercalate missing ++
      " have no default route to an internet, NAT or transit gateway. Add a 0.0.0.0/0 route to the " ++
      "subnets' route tables so that installation can continue."
  serviceTag : advisory.serviceTag = "SREManualAction"

theorem tellsOfSubnets_routeAdvisory (missing : List String) :
    TellsOfSubnets missing (routeAdvisory missing) := ⟨rfl, rfl, rfl, rfl⟩

/-- The advisory tells of the endpoints, as the probe reported them. -/
structure TellsOfEndpoints (product : Product) (endpoints : String) (advisory : Advisory.Draft) :
    Prop where
  severity : advisory.severity = .warning
  summary : advisory.summary = "Action required: Network misconfiguration"
  description : advisory.description =
    "Your cluster requires you to take action. The cluster is unable to reach the following " ++
      "required endpoints: " ++ endpoints ++ ". Please review your firewall and proxy " ++
      "configuration against " ++ product.firewallGuide ++ "."
  serviceTag : advisory.serviceTag = "SREManualAction"

theorem tellsOfEndpoints_egressAdvisory (product : Product) (endpoints : String) :
    TellsOfEndpoints product endpoints (egressAdvisory product endpoints) := ⟨rfl, rfl, rfl, rfl⟩

/-- The line about the egress. -/
def probed (finding : EgressFinding) (n : Notes) : Notes :=
  match finding with
  | .passed => n.add .success "Network egress verification passed"
  | .blocked endpoints => n.add .warning ("Network egress verification failed: " ++ endpoints)
  | .toolingError f => n.add .warning ("Network egress verification could not run: " ++ f.full)

/-- **What is concluded from the egress**, with a note of these lines: blocked endpoints, whatever
they are, are told to the customer; and a person is paged. -/
inductive AfterEgress (product : Product) (n : Notes) : EgressFinding → Conclusion → Prop where
  | passed :
      AfterEgress product n .passed ⟨n.render, [], .escalate "no automated remediation available"⟩
  | blocked {endpoints : String} {advisory : Advisory.Draft}
      (told : TellsOfEndpoints product endpoints advisory) :
      AfterEgress product n (.blocked endpoints)
        ⟨n.render, [.advise advisory], .escalate "cluster blocks required egress endpoints"⟩
  | toolingError (f : Failure) :
      AfterEgress product n (.toolingError f)
        ⟨n.render, [], .escalate "no automated remediation available"⟩

/-- **What is asked for and concluded**, from the notes `n` on. -/
inductive Course (ctx : Context) (client : CloudClient) (n : Notes) :
    Log → Except Failure Conclusion → Notes → Prop where
  /-- The cluster is ready: nothing is asked for, and the incident is silenced. -/
  | ready {m : Notes} (state : ctx.cluster.state = .ready)
      (noted : m = n.add .success "Cluster finished installing; the alert is stale") :
      Course ctx client n [] (.ok ⟨m.render, [], .silence "cluster is ready"⟩) m
  /-- The route tables of one of the subnets were not to be had: this ends the investigation. -/
  | refused {m : Notes} (state : ctx.cluster.state ≠ .ready) (protection : Except Failure Bool)
      (noted : m = opening ctx protection n) (fetched : List (String × List RouteTable))
      (subnet : String) {others : List String}
      (split : ctx.cluster.subnetIds = fetched.map Prod.fst ++ subnet :: others) (f : Failure) :
      Course ctx client n
        ((Call.manager (.accessProtection ctx.cluster)).exchange protection ::
          (fetches client fetched ++
            [(Call.cloud client (.routeTables subnet)).exchange (.error f)]))
        (.error (unfetched subnet f)) m
  /-- Some subnets have no way out: they are noted and told to the customer, and a person is paged.
  There is no probe. -/
  | stranded {m : Notes} {advisory : Advisory.Draft} (state : ctx.cluster.state ≠ .ready)
      (protection : Except Failure Bool) (fetched : List (String × List RouteTable))
      (all : fetched.map Prod.fst = ctx.cluster.subnetIds) (some' : lacking fetched ≠ [])
      (told : TellsOfSubnets (lacking fetched) advisory)
      (noted : m = unrouted (lacking fetched) (opening ctx protection n)) :
      Course ctx client n
        ((Call.manager (.accessProtection ctx.cluster)).exchange protection ::
          fetches client fetched)
        (.ok ⟨m.render, [.advise advisory],
          .escalate "customer subnets have no route to the internet"⟩) m
  /-- No subnet is without a way out: the egress is probed. -/
  | probed {m : Notes} (state : ctx.cluster.state ≠ .ready) (protection : Except Failure Bool)
      (fetched : List (String × List RouteTable))
      (all : fetched.map Prod.fst = ctx.cluster.subnetIds) (none' : lacking fetched = [])
      {probe : Log} {finding : EgressFinding} (ran : EgressFinding.Probed ctx probe finding)
      (noted : m = Provisioning.probed finding (routed ctx (opening ctx protection n)))
      {c : Conclusion} (concluded : AfterEgress ctx.cluster.product m finding c) :
      Course ctx client n
        ((Call.manager (.accessProtection ctx.cluster)).exchange protection ::
          (fetches client fetched ++ probe))
        (.ok c) m

theorem gives_noteAccessProtection {r : Except Failure Unit}
    (h : Inquiry.Gives (noteAccessProtection ctx)
      (n.add .info ("Cluster is in state '" ++ ctx.cluster.state.name ++ "'")) log r n') :
    ∃ protection, log = [(Call.manager (.accessProtection ctx.cluster)).exchange protection] ∧
      r = .ok () ∧ n' = opening ctx protection n := by
  rcases Inquiry.gives_bind.mp h with ⟨first, protection, n₁, second, rfl, asked, noting⟩ |
    ⟨f, rfl, asked⟩
  · obtain ⟨_, called, same, rfl⟩ := Inquiry.gives_attempt.mp asked
    cases same
    refine ⟨protection, ?_⟩
    rw [Fallible.gives_call.mp called]
    rcases protection with f | _ | _
    · obtain ⟨rfl, rfl, rfl⟩ := Inquiry.gives_note.mp noting
      exact ⟨rfl, rfl, rfl⟩
    · obtain ⟨rfl, rfl, rfl⟩ := Inquiry.gives_pure.mp noting
      exact ⟨rfl, rfl, rfl⟩
    · obtain ⟨rfl, rfl, rfl⟩ := Inquiry.gives_note.mp noting
      exact ⟨rfl, rfl, rfl⟩
  · obtain ⟨_, _, wrong, _⟩ := Inquiry.gives_attempt.mp asked
    cases wrong

/-- Subnets are asked for only if there are any; that none is without a way out is noted. -/
theorem gives_unroutedSubnets {r : Except Failure (List String)}
    (cloud : ctx.cloudClient = .ok client) (h : Inquiry.Gives (unroutedSubnets ctx) n log r n') :
    Fetched client ctx.cluster.subnetIds log r ∧ (r = .ok [] → n' = routed ctx n) ∧
      (r ≠ .ok [] → n' = n) := by
  unfold unroutedSubnets at h
  split at h
  · rename_i none'
    have none' := List.isEmpty_iff.mp none'
    obtain ⟨rfl, rfl, rfl⟩ := Inquiry.gives_pure.mp h
    rw [routed, if_pos none', none']
    exact ⟨.all [], fun _ => rfl, fun _ => rfl⟩
  · rename_i some'
    have some' : ctx.cluster.subnetIds ≠ [] := fun none' => some' (List.isEmpty_iff.mpr none')
    have rest := Inquiry.gives_ofExcept_bind cloud h
    rcases Inquiry.gives_bind.mp rest with ⟨first, missing, n₁, second, rfl, asked, ended⟩ |
      ⟨f, rfl, asked⟩
    · obtain ⟨fetched, rfl⟩ := fetched_of_withoutRoute asked
      cases missing with
      | nil =>
        have noted : Inquiry.Gives (pure [])
            (n₁.add .success "All customer subnets have a default route") second r n' := ended
        obtain ⟨rfl, rfl, rfl⟩ := Inquiry.gives_pure.mp noted
        rw [List.append_nil, routed, if_neg some']
        exact ⟨fetched, fun _ => rfl, fun other => absurd rfl other⟩
      | cons subnet others =>
        obtain ⟨rfl, rfl, rfl⟩ := Inquiry.gives_pure.mp ended
        rw [List.append_nil]
        exact ⟨fetched, nofun, fun _ => rfl⟩
    · obtain ⟨fetched, rfl⟩ := fetched_of_withoutRoute asked
      exact ⟨fetched, nofun, fun _ => rfl⟩

theorem gives_concludeByEgress {r : Except Failure Conclusion}
    (h : Inquiry.Gives (concludeByEgress ctx) n log r n') :
    ∃ finding c, EgressFinding.Probed ctx log finding ∧ n' = probed finding n ∧
      AfterEgress ctx.cluster.product n' finding c ∧ r = .ok c := by
  rcases Inquiry.gives_bind.mp h with ⟨first, finding, n₁, second, rfl, probing, ended⟩ |
    ⟨f, rfl, probing⟩
  · obtain ⟨_, ran, same, rfl⟩ := Inquiry.gives_liftM.mp probing
    cases same
    obtain ⟨rfl, noted, c, after, concludes⟩ : second = [] ∧ n' = probed finding n₁ ∧
        ∃ c, AfterEgress ctx.cluster.product n' finding c ∧ r = .ok c := by
      cases finding with
      | passed =>
        obtain ⟨rfl, rfl, rfl⟩ := Inquiry.gives_drafted.mp (Inquiry.gives_note_bind.mp ended)
        exact ⟨rfl, rfl, _, .passed, rfl⟩
      | blocked endpoints =>
        obtain ⟨rfl, rfl, rfl⟩ := Inquiry.gives_drafted.mp (Inquiry.gives_note_bind.mp ended)
        exact ⟨rfl, rfl, _, .blocked (tellsOfEndpoints_egressAdvisory _ _), rfl⟩
      | toolingError f =>
        obtain ⟨rfl, rfl, rfl⟩ := Inquiry.gives_drafted.mp (Inquiry.gives_note_bind.mp ended)
        exact ⟨rfl, rfl, _, .toolingError f, rfl⟩
    rw [List.append_nil]
    exact ⟨finding, c, EgressFinding.probed_of_run ran, noted, after, concludes⟩
  · obtain ⟨_, _, wrong, _⟩ := Inquiry.gives_liftM.mp probing
    cases wrong

/-- **The investigation takes one of these courses.** -/
theorem course_run {r : Except Failure Conclusion} (cloud : ctx.cloudClient = .ok client)
    (h : Inquiry.Gives (run ctx) n log r n') : Course ctx client n log r n' := by
  unfold run at h
  split at h
  · rename_i state
    obtain ⟨rfl, rfl, rfl⟩ := Inquiry.gives_drafted.mp (Inquiry.gives_note_bind.mp h)
    exact .ready state rfl
  · rename_i state
    have opened := Inquiry.gives_note_bind.mp h
    rcases Inquiry.gives_bind.mp opened with ⟨first, _, n₁, behind, rfl, asked, rest⟩ |
      ⟨f, _, asked⟩
    · obtain ⟨protection, rfl, _, rfl⟩ := gives_noteAccessProtection asked
      rcases Inquiry.gives_bind.mp rest with ⟨second, missing, n₂, last, rfl, found, ended⟩ |
        ⟨f, rfl, found⟩
      · obtain ⟨fetched, noted, unnoted⟩ := gives_unroutedSubnets cloud found
        generalize subnets : ctx.cluster.subnetIds = subnetIds at fetched
        generalize answer : (Except.ok missing : Except Failure (List String)) = r₁ at fetched
        cases fetched with
        | refused => cases answer
        | all fetched =>
          cases answer
          by_cases none' : lacking fetched = []
          · rw [none'] at ended
            obtain ⟨finding, c, ran, same, concluded, rfl⟩ := gives_concludeByEgress ended
            rw [noted (congrArg _ none')] at same
            exact .probed state protection fetched subnets.symm none' ran same concluded
          · rw [unnoted fun same => none' (Except.ok.inj same), List.isEmpty_eq_false_iff.mpr none']
              at ended
            obtain ⟨rfl, rfl, rfl⟩ := Inquiry.gives_drafted.mp (Inquiry.gives_note_bind.mp ended)
            rw [List.append_nil]
            exact .stranded state protection fetched subnets.symm none'
              (tellsOfSubnets_routeAdvisory _) rfl
      · obtain ⟨fetched, _, unnoted⟩ := gives_unroutedSubnets cloud found
        rw [unnoted nofun]
        generalize subnets : ctx.cluster.subnetIds = subnetIds at fetched
        generalize answer : (Except.error f : Except Failure (List String)) = r₁ at fetched
        cases fetched with
        | all => cases answer
        | refused fetched subnet others g =>
          cases answer
          exact .refused state protection rfl fetched subnet subnets g
    · obtain ⟨_, _, wrong, _⟩ := gives_noteAccessProtection asked
      cases wrong

namespace Course

variable {r : Except Failure Conclusion} {c : Conclusion} {f : Failure}

/-- The note shows all lines. -/
theorem shows (h : Course ctx client n log (.ok c) n') : Notes.Shows n'.lines c.note := by
  have noted : c.note = n'.render := by
    generalize ended : (Except.ok c : Except Failure Conclusion) = r at h
    cases h with
    | refused => cases ended
    | ready =>
      cases ended
      rfl
    | stranded =>
      cases ended
      rfl
    | probed _ _ _ _ _ _ _ concluded =>
      cases ended
      cases concluded <;> rfl
  rw [noted]
  exact n'.shows_render

/-- A restriction is never set. -/
theorem restricts (h : Course ctx client n log (.ok c) n') : c.restricts = false := by
  generalize ended : (Except.ok c : Except Failure Conclusion) = r at h
  cases h with
  | refused => cases ended
  | ready =>
    cases ended
    rfl
  | stranded =>
    cases ended
    rfl
  | probed _ _ _ _ _ _ _ concluded =>
    cases ended
    cases concluded <;> rfl

/-- **The incident is silenced exactly if the cluster is ready.** -/
theorem isSilence_iff (h : Course ctx client n log (.ok c) n') :
    c.isSilence = true ↔ ctx.cluster.state = .ready := by
  generalize ended : (Except.ok c : Except Failure Conclusion) = r at h
  cases h with
  | refused => cases ended
  | ready state =>
    cases ended
    exact iff_of_true rfl state
  | stranded state =>
    cases ended
    exact iff_of_false nofun state
  | probed state _ _ _ _ _ _ concluded =>
    cases ended
    refine iff_of_false (fun silenced => ?_) state
    cases concluded <;> cases silenced

/-- A lookup that was answered is not a refused one. -/
theorem not_mem_fetches {fetched : List (String × List RouteTable)} {subnet : String} :
    (Call.cloud client (.routeTables subnet)).exchange (.error f) ∉ fetches client fetched := by
  intro mem
  obtain ⟨answer, _, same⟩ := List.mem_map.mp mem
  cases same

/-- **A refused lookup of route tables ends the investigation.** -/
theorem of_refused {subnet : String} (h : Course ctx client n log r n')
    (mem : (Call.cloud client (.routeTables subnet)).exchange (.error f) ∈ log) :
    log.getLast? = some ((Call.cloud client (.routeTables subnet)).exchange (.error f)) ∧
      r = .error (unfetched subnet f) := by
  cases h with
  | ready => cases mem
  | refused state protection noted fetched subnet' split g =>
    rcases List.mem_cons.mp mem with same | mem
    · cases same
    rcases List.mem_append.mp mem with mem | mem
    · exact absurd mem not_mem_fetches
    · cases List.mem_singleton.mp mem
      rw [← List.cons_append]
      exact ⟨List.getLast?_concat, rfl⟩
  | stranded =>
    rcases List.mem_cons.mp mem with same | mem
    · cases same
    · exact absurd mem not_mem_fetches
  | probed _ _ _ _ _ ran =>
    rcases List.mem_cons.mp mem with same | mem
    · cases same
    rcases List.mem_append.mp mem with mem | mem
    · exact absurd mem not_mem_fetches
    · have apart : Ask.Unprobing (.call (.cloud client (.routeTables subnet))) := nofun
      exact absurd apart (ran.probing _ mem)

/-- **Whatever the investigation comes to**, a finding included: no restriction is set, and the
incident is silenced exactly if the cluster is ready. -/
theorem settled (h : Course ctx client n log r n')
    (concluded : (Investigation.settle r n').1 = .ok c) :
    c.restricts = false ∧ (c.isSilence = true ↔ ctx.cluster.state = .ready) := by
  cases r with
  | ok c' =>
    cases concluded
    exact ⟨h.restricts, h.isSilence_iff⟩
  | error f =>
    have waiting : ctx.cluster.state ≠ .ready := by
      cases h
      assumption
    cases finding : f.isConclusive with
    | false =>
      rw [Investigation.settle_other finding] at concluded
      cases concluded
    | true =>
      rw [Investigation.settle_finding finding] at concluded
      cases concluded
      exact ⟨rfl, iff_of_false nofun waiting⟩

end Course

/-- A refused lookup weighs as what the platform answered. -/
theorem isConclusive_unfetched (subnet : String) (f : Failure) :
    (unfetched subnet f).isConclusive = f.isConclusive := by
  unfold Failure.isConclusive unfetched
  rw [(Failure.Bears.asInfrastructure _ f).kind]

end Provisioning

/-! ## 5. Attempts -/

namespace Desk

/-- Either the investigation of an attempt was gone through, or its context could not be made; then
the attempt concludes only if the credentials are revoked. -/
theorem walked_or_revoked {d : Desk} {i : Investigation} {alert : Alert} {round : Round}
    (ran : round.Ran d i alert) :
    (∃ ctx r₀ lines, d.Walked i alert round ctx r₀ lines) ∨
      ∃ f built rest s₁, round.log = built ++ rest ∧
        Resolving.Gives (d.contextFor i alert i.needs) round.before built (.error f) s₁ ∧
        ∀ ctx c, round.result = .ok (ctx, c) →
          f.showsRevocation = true ∧ c = Credentials.conclude f (.empty i.name) := by
  rcases gives_attempt ran with ⟨ctx, l₁, l₂, _, _, whole, resolved, went, _⟩ |
    ⟨f, l₁, l₂, s₁, res, whole, refused, revoked, _, came⟩ | ⟨f, refused, came⟩
  · obtain ⟨r₀, lines, walked, _⟩ := walked_of_run whole resolved went
    exact .inl ⟨ctx, r₀, lines, walked⟩
  · refine .inr ⟨f, l₁, l₂, s₁, whole, refused, fun ctx c concluded => ?_⟩
    rw [concluded] at came
    cases res with
    | ok ctx' =>
      cases came
      exact ⟨revoked, rfl⟩
    | error g => cases came
  · refine .inr ⟨f, round.log, [], _, (List.append_nil _).symm, refused, fun ctx c concluded => ?_⟩
    rw [concluded] at came
    cases came

/-- **What an attempt comes to for an installation that takes too long.** Either its context could
not be made, or the investigation took one of the courses, and the attempt comes to what that
concludes, with a note that shows all its lines. Where a lookup of route tables is refused, it is
the last thing that is asked for; if the refusal is no finding, the attempt fails with it, in a way
that is worth another, and the failure names the subnet; if it is one, the attempt is inconclusive.
No attempt sets a restriction, and the incident is silenced exactly if the cluster is ready. -/
theorem installation_decided {d : Desk} {alert : Alert} {s s' : Dossier} {log : Log}
    {r : Except Failure (Context × Conclusion)}
    (run : Filing.Gives (d.attempt .provisioning alert) s log r s') :
    (∃ f built rest s₁, log = built ++ rest ∧
      Resolving.Gives (d.contextFor .provisioning alert Investigation.provisioning.needs) s built
        (.error f) s₁ ∧
      ∀ ctx c, r = .ok (ctx, c) →
        f.showsRevocation = true ∧ c = Credentials.conclude f (.empty Provisioning.name)) ∨
    ∃ ctx client built now asked r₀ lines, log = built ++ ⟨Ask.now, now⟩ :: asked ∧
      Resolving.Gives (d.contextFor .provisioning alert Investigation.provisioning.needs) s built
        (.ok ctx) s' ∧
      ctx.cloudClient = .ok client ∧
      Provisioning.Course ctx client (.empty Provisioning.name) asked r₀
        ⟨Provisioning.name, lines⟩ ∧
      (∀ c, r₀ = .ok c → r = .ok (ctx, c) ∧ Notes.Shows lines c.note) ∧
      (∀ subnet f, (Call.cloud client (.routeTables subnet)).exchange (.error f) ∈ asked →
        asked.getLast? = some ((Call.cloud client (.routeTables subnet)).exchange (.error f)) ∧
        (f.isConclusive = false → r = .error (Provisioning.unfetched subnet f) ∧
          (Provisioning.unfetched subnet f).isTransient = true) ∧
        (f.isConclusive = true → r = .ok (ctx, .inconclusive Provisioning.name lines
          (Provisioning.unfetched subnet f)))) ∧
      ∀ c, r = .ok (ctx, c) →
        c.restricts = false ∧ (c.isSilence = true ↔ ctx.cluster.state = .ready) := by
  have ran : Round.Ran d .provisioning alert ⟨s, log, r, s'⟩ := run
  rcases walked_or_revoked ran with ⟨ctx, r₀, lines, walked⟩ | unresolved
  · have ended : r = (Investigation.settle r₀ ⟨Provisioning.name, lines⟩).1.map (ctx, ·) :=
      walked.result ran
    obtain ⟨built, now, asked, whole, resolved, went⟩ := walked
    obtain ⟨client, cloud⟩ := (Investigation.equipped_of_build resolved).1 rfl
    have course := Provisioning.course_run cloud went
    refine .inr ⟨ctx, client, built, now, asked, r₀, lines, whole, resolved, cloud, course,
      ?_, ?_, ?_⟩
    · intro c concluded
      rw [concluded] at ended course
      exact ⟨ended, course.shows⟩
    · intro subnet f mem
      obtain ⟨last, failed⟩ := course.of_refused mem
      rw [failed] at ended
      refine ⟨last, fun other => ?_, fun finding => ?_⟩
      · rw [← Provisioning.isConclusive_unfetched subnet] at other
        rw [Investigation.settle_other other] at ended
        refine ⟨ended, ?_⟩
        rw [Failure.isConclusive_eq_not] at other
        simpa using other
      · rw [← Provisioning.isConclusive_unfetched subnet] at finding
        rw [Investigation.settle_finding finding] at ended
        exact ended
    · intro c concluded
      refine course.settled ?_
      rw [concluded] at ended
      cases settled : (Investigation.settle r₀ ⟨Provisioning.name, lines⟩).1 with
      | ok c' =>
        rw [settled] at ended
        cases ended
        exact settled
      | error f =>
        rw [settled] at ended
        cases ended
  · exact .inl unresolved

/-- Three subnets: one has a route through an internet gateway; of the next one's routes one leads
everywhere but nowhere any more, and one works but does not lead everywhere; the last has no tables.
The note and the advisory list the last two. -/
theorem installation_decided_stranded :
    let d := Desk.standard .standard false
    let alert : Alert := ⟨"Q1", "ClusterProvisioningDelay", .triggered, "c1"⟩
    let out : Route := ⟨some "0.0.0.0/0", some "igw-1", none, none, some "active"⟩
    let dead : Route := ⟨some "0.0.0.0/0", none, some "nat-1", none, some "blackhole"⟩
    let inner : Route := ⟨some "10.0.0.0/8", none, none, some "tgw-1", none⟩
    let script : Rehearsal := { Rehearsal.standard with
      cluster := Rehearsal.standard.cluster.map fun c =>
        { c with state := .installing, subnetIds := ["subnet-a", "subnet-b", "subnet-c"] }
      routeTables := [("subnet-a", [⟨"rtb-1", [out]⟩]), ("subnet-b", [⟨"rtb-2", [dead, inner]⟩])] }
    let played := script.run ((d.attempt .provisioning alert).run .empty)
    ∃ ctx c client fetched advisory lines, played.2.1.1 = .ok (ctx, c) ∧
      ctx.cluster.state ≠ .ready ∧ fetched.map Prod.fst = ctx.cluster.subnetIds ∧
      Provisioning.lacking fetched ≠ [] ∧ Provisioning.fetches client fetched <:+ played.1 ∧
      c.sideActions = [.advise advisory] ∧
      Provisioning.TellsOfSubnets (Provisioning.lacking fetched) advisory ∧
      advisory.description = "Your cluster's installation is blocked because subnets " ++
        "subnet-b, subnet-c have no default route to an internet, NAT or transit gateway. Add a " ++
        "0.0.0.0/0 route to the subnets' route tables so that installation can continue." ∧
      lines.getLast? = some ("⚠️ Subnets without a default route: " ++
        ", ".intercalate (Provisioning.lacking fetched)) ∧
      Notes.Shows lines c.note ∧
      Text.occursIn "⚠️ Subnets without a default route: subnet-b, subnet-c\n" c.note = true ∧
      c.restricts = false ∧ c.isSilence = false := by
  intro d alert out dead inner script
  have run := Rehearsal.gives_played (d.attempt .provisioning alert) .empty script
  have shown : (script.run ((d.attempt .provisioning alert).run .empty)).2.1.1.toOption.map
      (fun p => (p.2.sideActions, p.2.routing,
        Text.occursIn "⚠️ Subnets without a default route: subnet-b, subnet-c\n" p.2.note)) =
        some ([.advise (Provisioning.routeAdvisory ["subnet-b", "subnet-c"])],
          .escalate "customer subnets have no route to the internet", true) := by decide +kernel
  generalize script.run ((d.attempt .provisioning alert).run .empty) = ran at run shown ⊢
  obtain ⟨log, ⟨r, s'⟩, after⟩ := ran
  intro played
  cases r with
  | error f => cases shown
  | ok concluded =>
    obtain ⟨ctx, c⟩ := concluded
    obtain ⟨told, shown⟩ := Prod.mk.injEq .. ▸ Option.some.inj shown
    obtain ⟨routing, line⟩ := Prod.mk.injEq .. ▸ shown
    rcases installation_decided run with ⟨f, _, _, _, _, _, revoked⟩ |
      ⟨ctx', client, built, now, asked, r₀, lines, whole, _, _, course, ended, refusals, decided⟩
    · obtain ⟨_, same⟩ := revoked ctx c rfl
      rw [same] at routing
      cases routing
    · cases course with
      | ready =>
        cases (ended _ rfl).1
        cases routing
      | refused _ _ _ _ subnet _ f =>
        obtain ⟨_, other, finding⟩ := refusals subnet f (by simp)
        cases kind : f.isConclusive with
        | false => cases (other kind).1
        | true =>
          cases finding kind
          exact absurd (Routing.escalate.inj routing) (by decide)
      | @stranded _ advisory state protection fetched all some' tells noted =>
        obtain ⟨concludes, shows⟩ := ended _ rfl
        cases concludes
        obtain ⟨unrestricted, silenced⟩ := decided _ rfl
        have suffix : Provisioning.fetches client fetched <:+ log := by
          have whole : log = _ := whole
          rw [whole]
          exact ((List.suffix_cons _ _).trans (List.suffix_cons _ _)).trans (List.suffix_append _ _)
        have last : lines.getLast? = some ("⚠️ Subnets without a default route: " ++
            ", ".intercalate (Provisioning.lacking fetched)) := by
          rw [show lines = _ from congrArg Notes.lines noted]
          exact List.getLast?_concat
        cases told
        have description : (Provisioning.routeAdvisory ["subnet-b", "subnet-c"]).description =
            "Your cluster's installation is blocked because subnets " ++
              "subnet-b, subnet-c have no default route to an internet, NAT or transit gateway. Add a " ++
              "0.0.0.0/0 route to the subnets' route tables so that installation can continue." := by
          decide +kernel
        exact ⟨ctx, _, client, fetched, _, lines, rfl, state, all, some', suffix, rfl, tells,
          description, last, shows, line, unrestricted,
          Bool.eq_false_iff.mpr fun silence => state (silenced.mp silence)⟩
      | probed _ _ _ _ _ _ _ concluded =>
        cases (ended _ rfl).1
        cases concluded <;> exact absurd (Routing.escalate.inj routing) (by decide)

end Desk

end OnCall
