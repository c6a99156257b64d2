import Mathlib.Data.List.Basic
import OnCall.Proofs.Conclusions
import OnCall.Proofs.Fetches
import OnCall.Proofs.Needs

/-!
# How revoked credentials are recognized

A failure to open the cloud account shows revoked credentials if one of a few markers stands in what
the platform said, however deep. The cluster is then restricted and the alert silenced, at once.

* `Credentials.Marked`: a marker stands in a text; `Credentials.marked_full`: it stands in the text
  of a failure **just if it stands in one of the links**.
* `Context.refused_of_build`: only the last call for a context is refused, and then there is none.
* `Desk.gives_attempt_of_failed`: **what an attempt does without a context**.
* `Desk.Recognizes`: when an attempt restricts for revoked credentials, and what it does otherwise.
* `Desk.revocation_recognized`: **so it is with every attempt, and nothing is asked or tried again
  once the credentials were found revoked**.
-/

namespace OnCall

/-! ## 1. Markers -/

namespace Text

theorem occursIn_iff_infix {part whole : String} :
    occursIn part whole = true ↔ part.toList <:+: whole.toList := by
  rw [occursIn_iff]
  exact exists_congr fun _ => exists_congr fun _ => eq_comm

/-- What has no such character does not reach over it. -/
theorem infix_append_cons {part first rest : List Char} {c : Char} (without : c ∉ part) :
    part <:+: first ++ c :: rest ↔ part <:+: first ∨ part <:+: rest := by
  constructor
  · intro h
    rcases List.infix_append_iff.mp h with h | h | ⟨l₁, l₂, rfl, ends, starts⟩
    · exact .inl h
    · rcases List.infix_cons_iff.mp h with h | h
      · cases part with
        | nil => exact .inl List.nil_infix
        | cons c' part =>
          obtain ⟨rfl, _⟩ := List.cons_prefix_cons.mp h
          exact absurd List.mem_cons_self without
      · exact .inr h
    · cases l₂ with
      | nil =>
        rw [List.append_nil]
        exact .inl ends.isInfix
      | cons c' l₂ =>
        obtain ⟨rfl, _⟩ := List.cons_prefix_cons.mp starts
        exact absurd (List.mem_append_right l₁ List.mem_cons_self) without
  · rintro (h | h)
    · exact List.infix_append_of_infix_left h
    · exact (List.infix_cons h).trans (List.suffix_append first _).isInfix

/-- What has no colon and does not start with a blank stands in one of the texts that are joined. -/
theorem infix_joined {part : List Char} (some' : part ≠ []) (colon : ':' ∉ part)
    (blank : part.head? ≠ some ' ') (texts : List (List Char)) :
    part <:+: [':', ' '].intercalate texts ↔ ∃ text ∈ texts, part <:+: text := by
  have skip (rest : List Char) : part <:+: ' ' :: rest ↔ part <:+: rest := by
    rw [List.infix_cons_iff]
    refine or_iff_right fun h => ?_
    cases part with
    | nil => exact some' rfl
    | cons c part =>
      obtain ⟨rfl, _⟩ := List.cons_prefix_cons.mp h
      exact blank rfl
  induction texts with
  | nil => simp [some']
  | cons text others ih =>
    cases others with
    | nil => simp
    | cons next others =>
      rw [List.intercalate_cons_cons, List.append_assoc, List.cons_append, List.cons_append,
        List.nil_append, infix_append_cons colon, skip, List.exists_mem_cons_iff]
      exact or_congr_right ih

end Text

namespace Credentials

/-- **A marker stands in the text.** -/
def Marked (text : String) : Prop :=
  Text.occursIn "InvalidClientTokenId" text = true ∨ Text.occursIn "AccessDenied" text = true ∨
    Text.occursIn "could not assume support role" text = true

theorem marked_iff {text : String} :
    Marked text ↔ ∃ m ∈ revokedMarkers, Text.occursIn m text = true := by
  simp only [Marked, revokedMarkers, List.exists_mem_cons_iff, List.not_mem_nil, false_and,
    exists_false, or_false]

/-- A marker does not reach over the joint of two texts. -/
theorem compact_of_marker {m : String} (marker : m ∈ revokedMarkers) :
    m.toList ≠ [] ∧ ':' ∉ m.toList ∧ m.toList.head? ≠ some ' ' := by
  have compact : ∀ m ∈ revokedMarkers, m.toList ≠ [] ∧ ':' ∉ m.toList ∧ m.toList.head? ≠ some ' ' := by
    decide +kernel
  exact compact m marker

/-- **A marker stands in all that is said of a failure just if it stands in one of its texts**, the
outermost or the innermost. -/
theorem marked_full (f : Failure) : Marked f.full ↔ ∃ text ∈ f.texts, Marked text := by
  have joined : f.full.toList = [':', ' '].intercalate (f.texts.map String.toList) :=
    String.toList_intercalate
  have one (m : String) (marker : m ∈ revokedMarkers) :
      Text.occursIn m f.full = true ↔ ∃ text ∈ f.texts, Text.occursIn m text = true := by
    obtain ⟨some', colon, blank⟩ := compact_of_marker marker
    rw [Text.occursIn_iff_infix, joined, Text.infix_joined some' colon blank]
    simp only [List.mem_map, exists_exists_and_eq_and, Text.occursIn_iff_infix]
  rw [marked_iff]
  constructor
  · rintro ⟨m, marker, stands⟩
    obtain ⟨text, mem, stands⟩ := (one m marker).mp stands
    exact ⟨text, mem, marked_iff.mpr ⟨m, marker, stands⟩⟩
  · rintro ⟨text, mem, marked⟩
    obtain ⟨m, marker, stands⟩ := marked_iff.mp marked
    exact ⟨m, marker, (one m marker).mpr ⟨text, mem, stands⟩⟩

/-- The conclusion for revoked credentials: a note, the restriction, and the silence. -/
theorem actions_conclude (f : ResolutionFailure) (n : Notes) :
    (conclude f n).actions = [.note (notes f n).render, .side (.restrict invalid),
      .terminal (.silence "customer revoked cloud credentials")] := rfl

end Credentials

/-- Only a failure to open the cloud account shows revoked credentials, and only with a marker. -/
theorem ResolutionFailure.showsRevocation_iff {f : ResolutionFailure} :
    f.showsRevocation = true ↔ f.resource = .cloud ∧ Credentials.Marked f.raw.full := by
  rw [showsRevocation, Bool.and_eq_true, decide_eq_true_iff, List.any_eq_true,
    Credentials.marked_iff]

/-! ## 2. Conclusions of investigations -/

/-- The conclusion does not restrict for revoked credentials. -/
def Conclusion.Spares (c : Conclusion) : Prop := .restrict Credentials.invalid ∉ c.sideActions

theorem Conclusion.covers_spares : Covers fun _ c => c.Spares where
  escalate := fun _ _ _ => List.not_mem_nil
  silence := fun _ _ => List.not_mem_nil
  restrict := by
    intro n reason change own mem
    have apart : ∀ change ∈ [Unreachable.stoppedRestriction, Unreachable.egressRestriction],
        Credentials.invalid ≠ change := by decide +kernel
    exact apart change own (SideAction.restrict.inj (List.mem_singleton.mp mem))
  advise := fun _ _ _ _ mem => nomatch List.mem_singleton.mp mem

/-- **No investigation restricts for revoked credentials.** -/
theorem Investigation.spares_run (i : Investigation) (ctx : Context) :
    (i.run ctx).Concludes fun _ c => c.Spares :=
  Investigation.concludes_run (fun now => i.concludes_steps ctx now Conclusion.covers_spares)
    fun _ => List.not_mem_nil

/-! ## 3. Attempts without a context -/

/-- **Only the last call for a context is refused**, and then there is none. -/
theorem Context.refused_of_build {alert : Alert} {settings : Settings} {analyst : Bool} {name : String}
    {needs : Requirements} {s s' : Dossier} {log : Log} {r : Except ResolutionFailure Context}
    (h : Resolving.Gives (build alert settings analyst name needs) s log r s') :
    log.Everywhere fun _ e behind => ∀ c raw, e = (Call.openCloud c).exchange (.error raw) →
      behind = [] ∧ ∃ f, r = .error f ∧ f.resource = .cloud ∧ f.raw = raw := by
  refine (gathers_build h).refused_last.imp fun _ e behind last c raw same => ?_
  obtain ⟨none', R, id, failed, resource⟩ := last _ raw same
  subst same
  cases r with
  | ok ctx => cases failed
  | error f =>
    cases failed
    cases resource
    exact ⟨none', _, rfl, rfl, rfl⟩

namespace Desk

variable {d : Desk} {i : Investigation} {alert : Alert} {s s₁ s' : Dossier} {log built more : Log}
  {f : ResolutionFailure} {r : Except Failure (Context × Conclusion)}

/-- **What an attempt does without a context**: it asks for nothing more, and concludes that the
credentials were revoked, or fails. -/
theorem gives_attempt_of_failed
    (failed : Resolving.Gives (d.contextFor i alert i.needs) s built (.error f) s₁)
    (run : Filing.Gives (d.attempt i alert) s (built ++ more) r s') :
    more = [] ∧ s' = s₁ ∧
      ((f.showsRevocation = true ∧ ∃ ctx, r = .ok (ctx, Credentials.conclude f (.empty i.name))) ∨
        (f.showsRevocation = false ∧ r = .error (unresolved f))) := by
  obtain ⟨first, resolved, s₂, rest, parts, resolves, run⟩ := Filing.gives_bind.mp run
  obtain ⟨rfl, same⟩ := Program.run_unique_of_append failed resolves parts
  cases same
  obtain rfl := List.append_cancel_left parts
  dsimp only at run
  split at run
  · rename_i revoked
    obtain ⟨_, c, known⟩ := cloud_of_revoked failed revoked
    obtain ⟨rfl, rfl, rfl⟩ := (gives_concludeRevoked known).mp run
    exact ⟨rfl, rfl, .inl ⟨revoked, _, rfl⟩⟩
  · rename_i other
    obtain ⟨rfl, rfl, rfl⟩ := Filing.gives_pure.mp run
    exact ⟨rfl, rfl, .inr ⟨Bool.eq_false_iff.mpr other, rfl⟩⟩

/-- The failure without a context says so, and keeps its kind, or counts as infrastructure. -/
theorem texts_unresolved (f : ResolutionFailure) :
    (unresolved f).texts = "could not resolve alert context" :: f.message :: f.raw.texts := by
  rw [unresolved, Failure.asInfrastructure, Failure.texts_classify]
  rfl

theorem classification_unresolved (f : ResolutionFailure) :
    (unresolved f).classification = f.raw.classification.or (some .infrastructure) := by
  rw [unresolved, Failure.asInfrastructure, Failure.classification_classify]
  rfl

/-- **When an attempt restricts for revoked credentials, and what it does otherwise.** -/
structure Recognizes (d : Desk) (i : Investigation) (alert : Alert) (s : Dossier) (log : Log)
    (r : Except Failure (Context × Conclusion)) (s' : Dossier) : Prop where
  /-- It does just if the cloud account is what could not be had, and a marker stands in what was
  said of that. -/
  path : (∃ ctx c, r = .ok (ctx, c) ∧ .restrict Credentials.invalid ∈ c.sideActions) ↔
    ∃ f, Resolving.Gives (d.contextFor i alert i.needs) s log (.error f) s' ∧ f.resource = .cloud ∧
      Credentials.Marked f.raw.full
  /-- Then nothing is asked for behind the refusal. -/
  revoked : ∀ built more f s₁, log = built ++ more →
    Resolving.Gives (d.contextFor i alert i.needs) s built (.error f) s₁ →
    f.resource = .cloud → Credentials.Marked f.raw.full →
      more = [] ∧ (∃ ctx, r = .ok (ctx, Credentials.conclude f (.empty i.name))) ∧
        ∃ c, log.RefusedBy (.openCloud c) f.raw
  /-- Whatever else cannot be had, the attempt fails, with the kind that was attached before. -/
  other : ∀ built more f s₁, log = built ++ more →
    Resolving.Gives (d.contextFor i alert i.needs) s built (.error f) s₁ →
    ¬ (f.resource = .cloud ∧ Credentials.Marked f.raw.full) → ∃ g, r = .error g ∧
      g.texts = "could not resolve alert context" :: f.message :: f.raw.texts ∧
      g.classification = f.raw.classification.or (some .infrastructure)

/-- The last call for the cloud account was refused. -/
theorem refusedBy_of_cloud
    (failed : Resolving.Gives (d.contextFor i alert i.needs) s log (.error f) s')
    (cloud : f.resource = .cloud) : ∃ c, log.RefusedBy (.openCloud c) f.raw := by
  obtain ⟨_, _, before, call, _, _, _, rfl, fetch⟩ := (Context.gathers_build failed).failed
  rw [cloud] at fetch
  obtain ⟨c, _, same⟩ := Option.map_eq_some_iff.mp fetch
  obtain ⟨_, rfl⟩ := Prod.mk.inj same
  exact ⟨c, before, rfl⟩

/-- **How an attempt recognizes revoked credentials.** -/
theorem recognizes_attempt (run : Filing.Gives (d.attempt i alert) s log r s') :
    Recognizes d i alert s log r s' := by
  have revoked : ∀ built more f s₁, log = built ++ more →
      Resolving.Gives (d.contextFor i alert i.needs) s built (.error f) s₁ →
      f.resource = .cloud → Credentials.Marked f.raw.full →
        more = [] ∧ (∃ ctx, r = .ok (ctx, Credentials.conclude f (.empty i.name))) ∧
          ∃ c, log.RefusedBy (.openCloud c) f.raw := by
    rintro built more f s₁ rfl failed cloud marked
    obtain ⟨rfl, rfl, ⟨_, concluded⟩ | ⟨other, _⟩⟩ := gives_attempt_of_failed failed run
    · rw [List.append_nil]
      exact ⟨rfl, concluded, refusedBy_of_cloud failed cloud⟩
    · rw [ResolutionFailure.showsRevocation_iff.mpr ⟨cloud, marked⟩] at other
      cases other
  refine ⟨⟨?_, ?_⟩, revoked, ?_⟩
  · rintro ⟨ctx, c, rfl, restricts⟩
    rcases gives_attempt_ok run with ⟨l₁, l₂, notes, rfl, _, ran⟩ | ⟨f, l₁, l₂, s₁, rfl, failed, shows, _⟩
    · exact absurd restricts (Investigation.spares_run i ctx _ _ _ _ ran)
    · obtain ⟨rfl, rfl, _⟩ := gives_attempt_of_failed failed run
      rw [List.append_nil]
      exact ⟨f, failed, ResolutionFailure.showsRevocation_iff.mp shows⟩
  · rintro ⟨f, failed, cloud, marked⟩
    obtain ⟨_, ⟨ctx, rfl⟩, _⟩ := revoked log [] f s' (List.append_nil log).symm failed cloud marked
    exact ⟨ctx, _, rfl, List.mem_singleton_self _⟩
  · rintro built more f s₁ rfl failed unmarked
    obtain ⟨_, _, ⟨shows, _⟩ | ⟨_, rfl⟩⟩ := gives_attempt_of_failed failed run
    · exact absurd (ResolutionFailure.showsRevocation_iff.mp shows) unmarked
    · exact ⟨_, rfl, texts_unresolved f, classification_unresolved f⟩

end Desk

/-! ## 4. Handling -/

/-- A request for something other than the cloud account. -/
def Ask.Unopening : Ask → Prop
  | .call (.openCloud _) => False
  | _ => True

theorem Ask.unopening_of_kind {c : Call} {kind : CallKind} (other : kind ≠ .resource)
    (same : c.kind = kind) : Ask.Unopening (.call c) := by
  subst same
  cases c <;> trivial

/-- No investigation opens the cloud account. -/
theorem Ask.suits_unopening (lifts : Prop) : Ask.Suits Ask.Unopening lifts where
  evidence := fun _ => Ask.unopening_of_kind (by decide)
  background := fun _ => Ask.unopening_of_kind (by decide)
  egress := fun _ => Ask.unopening_of_kind (by decide)
  analyze := fun _ _ => trivial
  pause := fun _ => trivial
  now := trivial
  delete := fun _ _ _ => trivial
  removed := fun _ => trivial

/-- Nor does the carrying out of a conclusion. -/
theorem Conclusion.unopening_execute (site : Site) (c : Conclusion) :
    Fallible.Only Ask.Unopening (c.execute site) :=
  Action.only_applyAll fun a _ => (Action.only_apply site a).imp fun _ asked => by
    cases asked <;> trivial

/-- **What stands behind the refusal** of a cloud account that shows revoked credentials. -/
def Log.Revoking (P : Failure → Log → Prop) (log : Log) : Prop :=
  log.Everywhere fun _ e behind => ∀ c raw, e = (Call.openCloud c).exchange (.error raw) →
    Credentials.Marked raw.full → P raw behind

namespace Log.Revoking

variable {P : Failure → Log → Prop} {log first second : Log}

theorem of_unopening (h : ∀ e ∈ log, Ask.Unopening e.request) : log.Revoking P := by
  refine Log.everywhere_of_forall fun e mem _ _ c raw same _ => ?_
  have wrong := h e mem
  rw [same] at wrong
  exact wrong.elim

theorem append (h₁ : first.Revoking fun raw behind => P raw (behind ++ second))
    (h₂ : second.Revoking P) : Revoking P (first ++ second) :=
  Log.everywhere_append_iff.mpr ⟨h₁, h₂⟩

theorem imp {Q : Failure → Log → Prop} (h : log.Revoking P)
    (weaker : ∀ raw behind, P raw behind → Q raw behind) : log.Revoking Q :=
  Log.Everywhere.imp h fun _ _ behind at' c raw same marked => weaker raw behind (at' c raw same marked)

end Log.Revoking

namespace Desk

variable {d : Desk} {i : Investigation} {alert : Alert} {s s' : Dossier} {log : Log}
  {r : Except Failure (Context × Conclusion)}

/-- The attempt concluded from this failure that the credentials were revoked. -/
def ConcludesRevoked (i : Investigation) (r : Except Failure (Context × Conclusion)) (raw : Failure) :
    Prop :=
  ∃ ctx f, r = .ok (ctx, Credentials.conclude f (.empty i.name)) ∧ f.resource = .cloud ∧ f.raw = raw

/-- **Behind such a refusal an attempt asks for nothing more.** -/
theorem revoking_attempt (run : Filing.Gives (d.attempt i alert) s log r s') :
    log.Revoking fun raw behind => behind = [] ∧ ConcludesRevoked i r raw := by
  have unresolved {built more : Log} {f : ResolutionFailure} {s₁ : Dossier}
      (parts : log = built ++ more)
      (failed : Resolving.Gives (d.contextFor i alert i.needs) s built (.error f) s₁) :
      log.Revoking fun raw behind => behind = [] ∧ ConcludesRevoked i r raw := by
    subst parts
    obtain ⟨rfl, _, ended⟩ := gives_attempt_of_failed failed run
    rw [List.append_nil]
    refine (Context.refused_of_build failed).imp fun _ e behind last c raw same marked => ?_
    obtain ⟨none', g, found, cloud, rfl⟩ := last c raw same
    cases found
    rcases ended with ⟨_, ctx, concluded⟩ | ⟨other, _⟩
    · exact ⟨none', ctx, f, concluded, cloud, rfl⟩
    · rw [ResolutionFailure.showsRevocation_iff.mpr ⟨cloud, marked⟩] at other
      cases other
  rcases gives_attempt run with ⟨ctx, l₁, l₂, res, notes, rfl, built, ran, _⟩ |
    ⟨f, l₁, l₂, s₁, _, parts, failed, _⟩ | ⟨f, failed, _⟩
  · refine .append ?_ (.of_unopening ?_)
    · refine (Context.refused_of_build built).imp fun _ e behind last c raw same _ => ?_
      obtain ⟨_, _, wrong, _⟩ := last c raw same
      cases wrong
    · exact (Investigation.only_run i ctx (Ask.suits_unopening _) _).of_run ran
  · exact unresolved parts failed
  · exact unresolved (List.append_nil log).symm failed

/-- **An attempt that meets such a refusal is not repeated**, and is the last. -/
theorem revoking_attempts (run : Filing.Gives (d.attempts i alert) s log r s') :
    log.Revoking fun raw behind => behind = [] ∧ ConcludesRevoked i r raw := by
  obtain ⟨_, earlier, s₁, last, _, rfl, tries, counts, _⟩ := gives_attempts run
  refine .append ?_ (revoking_attempt counts)
  have none' : earlier.Revoking fun _ _ => False := by
    refine Retries.everywhere (fun _ _ _ _ _ h => h) ?_ ?_ tries
    · rintro f mid ⟨_, span, rfl⟩
      exact Log.Revoking.of_unopening (P := fun _ _ => False)
        (List.forall_mem_cons.mpr ⟨trivial, List.forall_mem_singleton.mpr trivial⟩)
    · intro a l f a' failed
      refine (revoking_attempt failed).imp ?_
      rintro raw behind ⟨_, _, _, wrong, _⟩
      cases wrong
  exact none'.imp fun _ _ wrong => wrong.elim

theorem unopening_fallBack {cluster : Option Cluster} {name : String} {status : OutcomeStatus}
    {mark : Mark} {line reason : String} :
    Fallible.Only Ask.Unopening (d.fallBack alert cluster name status mark line reason) :=
  Fallible.only_bind (Fallible.only_adapt (Conclusion.unopening_execute _ _)) fun _ =>
    Fallible.only_pure _

theorem unopening_carryOut {name : String} {ctx : Context} {c : Conclusion} :
    Fallible.Only Ask.Unopening (d.carryOut name ctx c) := by
  refine Fallible.only_bind (Fallible.only_liftM (Conclusion.unopening_execute _ _)) fun r => ?_
  cases r with
  | ok _ => exact Fallible.only_pure _
  | error f => exact unopening_fallBack

/-- **Behind such a refusal only the conclusion is carried out.** -/
theorem revoking_handle {r : Except Failure Outcome} (run : Fallible.Gives (d.handle alert) log r) :
    log.Revoking fun raw behind => ∃ i ctx f, d.roster.find alert.title = some i ∧
      f.resource = .cloud ∧ f.raw = raw ∧
      Fallible.Gives (d.carryOut i.name ctx (Credentials.conclude f (.empty i.name))) behind r := by
  obtain ⟨rest, rfl, ended⟩ := gives_handle run
  rw [← List.singleton_append]
  refine .append (.of_unopening (List.forall_mem_singleton.mpr trivial)) ?_
  rcases ended with ⟨_, fell⟩ | ⟨i, found, tries, res, s, carried, rfl, tried, ended⟩
  · exact .of_unopening (unopening_fallBack.of_run fell)
  · have quiet : ∀ e ∈ carried, Ask.Unopening e.request := by
      rcases ended with ⟨ctx, c, _, ran⟩ | ⟨f, _, ran⟩
      · exact unopening_carryOut.of_run ran
      · exact unopening_fallBack.of_run ran
    refine .append ((revoking_attempts tried).imp ?_) (.of_unopening quiet)
    rintro raw behind ⟨rfl, ctx, f, rfl, cloud, raw'⟩
    rcases ended with ⟨_, _, same, ran⟩ | ⟨_, wrong, _⟩
    · cases same
      exact ⟨i, ctx, f, found, cloud, raw', ran⟩
    · cases wrong

/-- **Revoked credentials are recognized exactly.** They show where the cloud account could not be
opened and a marker stands in what was said of that, at any depth. Then, and only then, an attempt
concludes with a note, the restriction for them and a silence; it asks for nothing more, no other
attempt is made, and the conclusion is carried out. Everything else that cannot be had makes the
attempt fail, as infrastructure unless it had a kind before. -/
theorem revocation_recognized (d : Desk) (alert : Alert) :
    (∀ f : ResolutionFailure, f.showsRevocation = true ↔
      f.resource = .cloud ∧ Credentials.Marked f.raw.full) ∧
    (∀ raw : Failure, Credentials.Marked raw.full ↔ ∃ text ∈ raw.texts, Credentials.Marked text) ∧
    (∀ f n, (Credentials.conclude f n).actions = [.note (Credentials.notes f n).render,
      .side (.restrict Credentials.invalid),
      .terminal (.silence "customer revoked cloud credentials")]) ∧
    (∀ i s log r s', Filing.Gives (d.attempt i alert) s log r s' → Recognizes d i alert s log r s') ∧
    ∀ (log : Log) r, Fallible.Gives (d.handle alert) log r → log.Revoking fun raw behind =>
      ∃ i ctx f, d.roster.find alert.title = some i ∧ f.resource = .cloud ∧ f.raw = raw ∧
        Fallible.Gives (d.carryOut i.name ctx (Credentials.conclude f (.empty i.name))) behind r :=
  ⟨fun _ => ResolutionFailure.showsRevocation_iff, Credentials.marked_full,
    Credentials.actions_conclude, fun _ _ _ _ _ run => recognizes_attempt run,
    fun _ _ run => revoking_handle run⟩

/-- The same denial of access, deep in a failure that counts as a finding: of the cloud account it
shows revoked credentials, of the cluster it is a failure like any other. -/
theorem revocation_recognized_denied :
    let denied := ((Failure.root (.reported "AccessDenied")).context "cannot look").asFinding "odd"
    let d := Desk.standard .standard false
    let alert : Alert := ⟨"Q1", "cluster has gone missing", .triggered, "c1"⟩
    let opening := Rehearsal.run ((d.attempt .unreachable alert).run .empty)
      { Rehearsal.standard with faults := [(.forCluster, [some denied])] }
    let fetching := Rehearsal.run ((d.attempt .unreachable alert).run .empty)
      { Rehearsal.standard with faults := [(.getCluster, [some denied])] }
    (∃ f, Resolving.Gives (d.contextFor .unreachable alert ⟨true, true⟩) .empty opening.1 (.error f)
      opening.2.1.2 ∧ f.resource = .cloud ∧ Credentials.Marked f.raw.full) ∧
    Credentials.Marked denied.full ∧
    ∃ g, fetching.2.1.1 = .error g ∧ g.classification = some .finding := by
  intro denied d alert opening fetching
  have opened : Filing.Gives (d.attempt .unreachable alert) .empty opening.1 opening.2.1.1
      opening.2.1.2 := Rehearsal.gives_played _ _ _
  have fetched : Filing.Gives (d.attempt .unreachable alert) .empty fetching.1 fetching.2.1.1
      fetching.2.1.2 := Rehearsal.gives_played _ _ _
  have restricting : opening.2.1.1.toOption.any
      (fun concluded => .restrict Credentials.invalid ∈ concluded.2.sideActions) = true := by
    decide +kernel
  have unfetched : Resolving.Gives (d.contextFor .unreachable alert ⟨true, true⟩) .empty fetching.1
      (.error ⟨.cluster, "c1", denied⟩) fetching.2.1.2 := Rehearsal.resolves_played
    (d.contextFor .unreachable alert ⟨true, true⟩) .empty
    { Rehearsal.standard with faults := [(.getCluster, [some denied])] }
  clear_value opening fetching
  obtain ⟨_, deep, _, recognizes, _⟩ := revocation_recognized d alert
  refine ⟨(recognizes _ _ _ _ _ opened).path.mp ?_, ?_, ?_⟩
  · cases concluded : opening.2.1.1 with
    | error f =>
      rw [concluded] at restricting
      cases restricting
    | ok result =>
      rw [concluded] at restricting
      exact ⟨result.1, result.2, rfl, of_decide_eq_true restricting⟩
  · exact (deep denied).mpr ⟨"AccessDenied", by decide, .inr (.inl (Text.occursIn_self _))⟩
  · obtain ⟨g, failed, _, kind⟩ := (recognizes _ _ _ _ _ fetched).other _ [] _ _
      (List.append_nil _).symm unfetched (fun wrong => nomatch wrong.1)
    exact ⟨g, failed, kind⟩

end Desk

end OnCall
