import OnCall.Proofs.Lifts
import OnCall.Proofs.Paging

/-!
# Repeating the investigation of a cleared alert

The investigation of a cleared alert deletes restrictions and may then be repeated. The repetition
finds the deletions of the earlier attempts in the history, where they count against deleting more.

* `Desk.attempt_spec`, `Surroundings.worn_attempts`: one attempt, and the failed ones before it.
* `Desk.handle_spec`: the handling in given surroundings.
* `Desk.repeated_eq_iff`: **when a repetition makes no difference.**
-/

namespace OnCall

open Resolving Surroundings

/-! ## 1. Attempts -/

section

variable {settings : Settings} {w : Surroundings settings} {may : Call → Prop} {s t : Ledger}
  {log : Log}

/-- No call is refused but by a failure. -/
theorem Surroundings.may_of_refused {c : Call} {f : Failure} (follows : w.Follows may s log t)
    (refused : c.exchange (.error f) ∈ log) : may c := by
  induction log generalizing s with
  | nil => exact absurd refused List.not_mem_nil
  | cons e log ih =>
    obtain ⟨next, step, rest⟩ := follows
    rcases List.mem_cons.mp refused with rfl | refused
    · rcases step with ⟨reply, _⟩ | ⟨failed, _⟩
      · have answered : ∃ v, (w.answer (.call c) s).1 = .ok v := by
          cases c with
          | manager call => cases call <;> exact ⟨_, rfl⟩
          | cloud client call => cases call <;> exact ⟨_, rfl⟩
          | _ => exact ⟨_, rfl⟩
        obtain ⟨v, answered⟩ := answered
        have wrong : Except.error f = Except.ok v := Eq.trans reply answered
        cases wrong
      · exact failed.1
    · exact ih rest refused

theorem Ask.Inquiring.keeping {q : Ask} (h : q.Inquiring False) : q.Keeping := by
  cases q with
  | call c =>
    cases c with
    | manager call => cases call <;> first | exact h.elim | trivial
    | _ => trivial
  | _ => trivial

end

namespace Desk

variable {d : Desk} {alert : Alert} {w : Surroundings d.settings} {may : Call → Prop}
  {s t : Ledger} {log : Log}

/-- In these surroundings the context is there. -/
theorem build_spec {a a' : Dossier} {r : Except ResolutionFailure Context}
    (calm : ∀ c, may c → c.Lifting)
    (h : Resolving.Gives (d.contextFor .unreachable alert Investigation.unreachable.needs) a log r a')
    (follows : w.Follows may s log t) :
    t = s ∧ ∃ ctx client infraId, r = .ok ctx ∧ ctx.alert = alert ∧ ctx.settings = d.settings ∧
      ctx.cloudClient = .ok client ∧ ctx.infraId = .ok infraId := by
  have keeping : ∀ e ∈ log, Ask.Keeping e.request := fun e he =>
    (inquiring_context h e he).keeping
  refine ⟨follows_keeping keeping follows, ?_⟩
  cases r with
  | error f =>
    rcases Context.gives_build_error h with ⟨_, refused⟩ | ⟨_, id, refused⟩ | ⟨_, _, c, _, refused⟩
    · cases calm _ (may_of_refused follows refused)
    · cases calm _ (may_of_refused follows refused)
    · cases calm _ (may_of_refused follows refused)
  | ok ctx =>
    obtain ⟨onAlert, underSettings, _⟩ := Context.gives_build_ok h
    obtain ⟨client, infraId, cloud, infra⟩ := Context.equipped_of_build h
    exact ⟨ctx, client, infraId, rfl, onAlert, underSettings, cloud, infra⟩

/-- A look at the clock. -/
theorem clock_look {n n' : Notes} {now : Instant}
    (h : Inquiry.Gives (liftM Work.now) n log (.ok now) n') (follows : w.Follows may s log t) :
    now = w.clock ∧ t = s ∧ n' = n := by
  obtain ⟨_, asked, clock, same⟩ := Inquiry.gives_liftM.mp h
  cases clock
  rw [Program.run_request.mp asked, follows_singleton] at follows
  rcases follows with answered | ⟨never, _⟩
  · exact ⟨answered.1, answered.2, same⟩
  · exact never.elim

/-- The investigation of a cleared alert, whose failures are not findings. -/
theorem run_spec {ctx : Context} {client : CloudClient} {infraId : String} {n n' : Notes}
    {r : Except Failure Conclusion} (cleared : ctx.alert.hasCleared = true)
    (underSettings : ctx.settings = d.settings) (cloud : ctx.cloudClient = .ok client)
    (infra : ctx.infraId = .ok infraId)
    (h : Inquiry.Gives (Investigation.unreachable.run ctx) n log r n')
    (follows : w.Follows may s log t) :
    (∃ c, r = .ok c ∧ c.sideActions = [] ∧ c.routing = w.verdict s ∧
        t.restrictions = w.remaining s) ∨
      (w.Worn s t ∧ ∃ f, r = .error f ∧ ∃ c, may c) := by
  rcases Inquiry.gives_bind.mp h with ⟨l₁, now, n₁, l₂, rfl, looked, tried⟩ | ⟨f, _, looked⟩
  · obtain ⟨s₁, before, follows₁⟩ := follows_append.mp follows
    obtain ⟨rfl, rfl, rfl⟩ := clock_look looked before
    have steps {r : Except Failure Conclusion} {n' : Notes} {l : Log}
        (ran : Inquiry.Gives (Investigation.unreachable.steps ctx w.clock) n₁ l r n') :
        Inquiry.Gives (Unreachable.recovered ctx w.clock) n₁ l r n' := by
      rw [Investigation.steps, cleared] at ran
      exact ran
    rcases Inquiry.gives_tryCatch.mp tried with ⟨c, rfl, ran⟩ | ⟨l₃, f, n₂, l₄, rfl, ran, handled⟩
    · rcases recovered_spec underSettings cloud infra (steps ran) follows₁ with
        concluded | ⟨_, _, wrong, _⟩
      · exact .inl concluded
      · cases wrong
    · obtain ⟨s₂, failing, follows₂⟩ := follows_append.mp follows₁
      rcases recovered_spec underSettings cloud infra (steps ran) failing with
        ⟨_, wrong, _⟩ | ⟨worn, g, same, infrastructure, allowed⟩
      · cases wrong
      · cases same
        have passed : f.isConclusive = false := by
          rw [Failure.isConclusive, Failure.kind, infrastructure]
          rfl
        rw [passed] at handled
        obtain ⟨rfl, rfl, _⟩ := Inquiry.gives_throw.mp handled
        rw [show t = s₂ from follows₂]
        exact .inr ⟨worn, f, rfl, allowed⟩
  · obtain ⟨_, _, wrong, _⟩ := Inquiry.gives_liftM.mp looked
    cases wrong

/-- **One attempt.** It deletes what is not flapping and routes the incident by that; or a call
failed on the way. -/
theorem attempt_spec {a a' : Dossier} {r : Except Failure (Context × Conclusion)}
    (cleared : alert.hasCleared = true) (calm : ∀ c, may c → c.Lifting)
    (h : Filing.Gives (d.attempt .unreachable alert) a log r a') (follows : w.Follows may s log t) :
    (∃ ctx c, r = .ok (ctx, c) ∧ c.sideActions = [] ∧ c.routing = w.verdict s ∧
        t.restrictions = w.remaining s) ∨
      (w.Worn s t ∧ ∃ f, r = .error f ∧ ∃ c, may c) := by
  obtain ⟨l₁, built, a₁, l₂, rfl, resolved, h₁⟩ := Filing.gives_bind.mp h
  obtain ⟨s₁, before, follows₁⟩ := follows_append.mp follows
  obtain ⟨rfl, ctx, client, infraId, rfl, onAlert, underSettings, cloud, infra⟩ :=
    build_spec calm resolved before
  obtain ⟨l₃, ⟨concluded, notes⟩, a₂, l₄, rfl, lifted, ending⟩ := Filing.gives_bind.mp h₁
  obtain ⟨rfl, same, rfl⟩ := Filing.gives_pure.mp ending
  obtain ⟨run, rfl⟩ := Filing.gives_liftM.mp lifted
  rw [List.append_nil] at follows₁
  rw [← onAlert] at cleared
  rcases run_spec cleared underSettings cloud infra run follows₁ with
    ⟨c, rfl, sides, routed, left⟩ | ⟨worn, f, rfl, allowed⟩
  · exact .inl ⟨ctx, c, same, sides, routed, left⟩
  · exact .inr ⟨worn, f, same, allowed⟩

/-- What the failed attempts before the one that counts leave behind. -/
theorem worn_attempts {a a' : Dossier} {n : Nat} (cleared : alert.hasCleared = true)
    (calm : ∀ c, may c → c.Lifting)
    (tries : Retries (Filing.Gives (d.attempt .unreachable alert)) Repeating n a log a')
    (follows : w.Follows may s log t) : w.Worn s t ∧ (n ≠ 0 → ∃ c, may c) := by
  induction tries generalizing s with
  | none a =>
    rw [show t = s from follows]
    exact ⟨.refl, fun h => absurd rfl h⟩
  | @more n a a₁ a₂ first mid rest f failed next _ ih =>
    obtain ⟨s₁, before, follows₁⟩ := follows_append.mp follows
    obtain ⟨s₂, between, behind⟩ := follows_append.mp follows₁
    obtain ⟨_, span, rfl⟩ := next
    have waited : s₂ = s₁ := by
      refine follows_keeping (fun e he => ?_) between
      rcases List.mem_cons.mp he with rfl | he
      · trivial
      · rw [List.mem_singleton.mp he]
        trivial
    rw [waited] at behind
    rcases attempt_spec cleared calm failed before with ⟨_, _, wrong, _⟩ | ⟨worn, _, _, allowed⟩
    · cases wrong
    · exact ⟨worn.trans (ih behind).1, fun _ => allowed⟩

/-! ## 2. The handling -/

/-- No call to the pager is refused. -/
theorem not_refused {call : PagerCall} {f : Failure} (calm : ∀ c, may c → c.Lifting)
    (follows : w.Follows may s log t) : (call, .error f) ∉ pagerCalls log := by
  intro mem
  obtain ⟨e, he, paged⟩ := List.mem_filterMap.mp mem
  have same : e = (Call.pager call).exchange (.error f) := by
    obtain ⟨q, reply⟩ := e
    cases q with
    | call c =>
      cases c with
      | pager other =>
        cases Option.some.inj paged
        rfl
      | _ => cases paged
    | _ => cases paged
  rw [same] at he
  cases calm _ (may_of_refused follows he)

/-- Nothing that is carried out deletes a restriction. -/
theorem keeping_execute {c : Conclusion} {site : Site} : Fallible.Only Ask.Keeping (c.execute site) :=
  Action.only_applyAll fun a _ => (Action.only_apply site a).imp fun q asked => by
    cases asked <;> trivial

/-- A conclusion without side actions is carried out. -/
theorem carryOut_spec {name : String} {ctx : Context} {c : Conclusion} {r : Except Failure Outcome}
    (calm : ∀ c, may c → c.Lifting) (sides : c.sideActions = [])
    (h : Fallible.Gives (d.carryOut name ctx c) log r) (follows : w.Follows may s log t) :
    t = s ∧ r = .ok ⟨name, .concluded, c⟩ := by
  -- a step can only fail if a call to the pager was refused
  have applied {l : Log} {u : Ledger} {r₀ : Except Failure Unit}
      (executed : Fallible.Gives
        (c.execute ⟨ctx.alert.incidentId, some ctx.cluster, ctx.settings.retry⟩) l r₀)
      (follows : w.Follows may s l u) : r₀ = .ok () := by
    have accepted {call : PagerCall} {f : Failure} : (call, .error f) ∉ pagerCalls l :=
      not_refused calm follows
    have carried := Conclusion.carried_execute executed
    generalize pagerCalls l = calls at carried accepted
    cases carried with
    | noteRefused f g => exact absurd (List.mem_cons_self ..) accepted
    | sideFailed g aside => exact absurd sides aside
    | routingRefused f g =>
      exact absurd (List.mem_cons_of_mem _ (List.mem_singleton_self _)) accepted
    | applied => rfl
  rcases gives_carryOut h with ⟨same, executed⟩ | ⟨first, last, f, rfl, executed, _⟩
  · exact ⟨follows_keeping (keeping_execute.of_run executed) follows, same⟩
  · obtain ⟨u, before, _⟩ := follows_append.mp follows
    cases applied executed before

/-- What was given up on is not concluded. -/
theorem giveUp_status {cluster : Option Cluster} {name : String} {f : Failure} {o : Outcome}
    (h : Fallible.Gives (d.giveUp alert cluster name f) log (.ok o)) : o.status ≠ .concluded := by
  have fell := seen_fallBack h (by decide)
  generalize pagerCalls log = calls at fell
  cases fell with
  | paged _ _ _ fallback => exact fallback

/-- **The handling of a cleared alert.** If it concluded, the attempt that counts decided, by the
ledger that the earlier ones left. -/
theorem handle_spec {r : Except Failure Outcome} (found : d.roster.find alert.title = some .unreachable)
    (cleared : alert.hasCleared = true) (calm : ∀ c, may c → c.Lifting)
    (h : Fallible.Gives (d.handle alert) log r) (follows : w.Follows may s log t) :
    ((∃ o, r = .ok o ∧ o.status = .concluded) ∨ ∃ c, may c) ∧
      ∀ o, r = .ok o → o.status = .concluded →
        ∃ n earlier a last res a' carried s₁,
          log = ⟨Ask.count .alertsHandled, ()⟩ :: (earlier ++ last ++ carried) ∧
          Retries (Filing.Gives (d.attempt .unreachable alert)) Repeating n .empty earlier a ∧
          Filing.Gives (d.attempt .unreachable alert) a last (.ok res) a' ∧
          w.Follows may s (⟨Ask.count .alertsHandled, ()⟩ :: earlier) s₁ ∧
          w.Worn s s₁ ∧ (n ≠ 0 → ∃ c, may c) ∧
          o.conclusion.routing = w.verdict s₁ ∧ t.restrictions = w.remaining s₁ := by
  obtain ⟨rest, rfl, ⟨unmatched, _⟩ | ⟨i, matched, tries, res, b, carried, rfl, tried, ended⟩⟩ :=
    gives_handle h
  · rw [found] at unmatched
    cases unmatched
  · rw [found] at matched
    cases matched
    obtain ⟨n, earlier, a, last, _, rfl, failed, counts, _⟩ := gives_attempts tried
    obtain ⟨s₀, counted, follows₀⟩ := follows
    have unchanged : s₀ = s := by
      rcases counted with ⟨_, same⟩ | ⟨never, _⟩
      · exact same
      · exact never.elim
    rw [unchanged] at follows₀ counted
    rw [List.append_assoc] at follows₀
    obtain ⟨s₁, before, follows₁⟩ := follows_append.mp follows₀
    obtain ⟨s₂, during, behind⟩ := follows_append.mp follows₁
    obtain ⟨worn, again⟩ := worn_attempts cleared calm failed before
    rcases attempt_spec cleared calm counts during with ⟨ctx, c, rfl, sides, routed, left⟩ |
      ⟨_, f, rfl, allowed⟩
    · rcases ended with ⟨ctx', c', same, ended⟩ | ⟨_, wrong, _⟩
      · cases same
        obtain ⟨rfl, rfl⟩ := carryOut_spec calm sides ended behind
        refine ⟨.inl ⟨_, rfl, rfl⟩, fun o same _ => ?_⟩
        cases same
        exact ⟨n, earlier, a, last, _, b, carried, s₁, rfl, failed, counts, ⟨s, counted, before⟩,
          worn, again, routed, left⟩
      · cases wrong
    · rcases ended with ⟨_, _, wrong, _⟩ | ⟨g, _, ended⟩
      · cases wrong
      · refine ⟨.inr allowed, fun o same concluded => ?_⟩
        rw [same] at ended
        exact absurd concluded (giveUp_status ended)

end Desk

/-! ## 3. What a repetition makes different -/

namespace Surroundings

variable {settings : Settings} {w : Surroundings settings} {s t : Ledger}

/-- The incident is routed alike if something was flapping from the start, or nothing is yet. -/
theorem Worn.verdict_eq_iff (worn : w.Worn s t) :
    w.verdict t = w.verdict s ↔ (∃ x ∈ liftable, w.Flaps x s) ∨ ∀ x ∈ liftable, ¬ w.Flaps x t := by
  by_cases few : w.running.length < w.expected.min.toNat
  · rw [worn.unrecovered few]
    refine ⟨fun _ => ?_, fun _ => rfl⟩
    by_cases flaps : ∃ x ∈ liftable, w.Flaps x s
    · exact .inl flaps
    · exact .inr fun x hx h => flaps ⟨x, hx, h⟩
  · rw [verdict, verdict, if_neg few, if_neg few]
    by_cases before : ∃ x ∈ liftable, w.Flaps x s
    · obtain ⟨x, hx, flaps⟩ := before
      rw [if_pos ⟨x, hx, worn.flaps hx flaps⟩, if_pos ⟨x, hx, flaps⟩]
      exact ⟨fun _ => .inl ⟨x, hx, flaps⟩, fun _ => rfl⟩
    · rw [if_neg before]
      by_cases later : ∃ x ∈ liftable, w.Flaps x t
      · rw [if_pos later]
        obtain ⟨x, hx, flaps⟩ := later
        constructor
        · intro same
          cases same
        · intro other
          rcases other with earlier | never
          · exact absurd earlier before
          · exact absurd flaps (never x hx)
      · rw [if_neg later]
        exact ⟨fun _ => .inr fun x hx h => later ⟨x, hx, h⟩, fun _ => rfl⟩

/-- A restriction stays if what would delete it is flapping. -/
theorem stays_iff {r : Restriction} :
    (!liftable.any fun x => x.owns r && !decide (w.Flaps x s)) = true ↔
      ∀ x ∈ liftable, x.owns r = true → w.Flaps x s := by
  simp only [Bool.not_eq_true', List.any_eq_false, Bool.and_eq_true, Bool.not_eq_true',
    decide_eq_false_iff_not, not_and, not_not]

/-- When the same restrictions are left: for each reason, it was flapping from the start, or is not
yet, or there is nothing left for it. -/
theorem Worn.remaining_iff (worn : w.Worn s t) :
    ((∀ r, r ∈ w.remaining t ↔ r ∈ w.remaining s) →
        ∀ x ∈ liftable, w.Flaps x s ∨ ¬ w.Flaps x t ∨ t.ids x = []) ∧
      ((∀ x ∈ liftable, w.Flaps x s ∨ ¬ w.Flaps x t ∨ t.ids x = []) →
        w.remaining t = w.remaining s) := by
  by_cases few : w.running.length < w.expected.min.toNat
  · rw [worn.unrecovered few]
    refine ⟨fun _ x _ => ?_, fun _ => rfl⟩
    by_cases flaps : w.Flaps x s
    · exact .inl flaps
    · exact .inr (.inl flaps)
  · obtain ⟨keep, same, owned⟩ := worn.kept
    rw [remaining, remaining, if_neg few, if_neg few]
    constructor
    · intro alike x hx
      by_cases before : w.Flaps x s
      · exact .inl before
      by_cases later : w.Flaps x t
      · refine .inr (.inr (Ledger.ids_eq_nil.mpr fun r hr => ?_))
        cases owns : x.owns r with
        | false => rfl
        | true =>
          have stays : ∀ y ∈ liftable, y.owns r = true → w.Flaps y t := by
            intro y hy owns'
            rcases liftable_apart hx hy with rfl | apart
            · exact later
            · rw [apart.not_owns owns] at owns'
              cases owns'
          have left := (alike r).mp (List.mem_filter.mpr ⟨hr, stays_iff.mpr stays⟩)
          exact absurd (stays_iff.mp (List.mem_filter.mp left).2 x hx owns) before
      · exact .inr (.inl later)
    · intro alike
      rw [same, List.filter_filter]
      refine List.filter_congr fun r hr => Bool.eq_iff_iff.mpr ?_
      rw [Bool.and_eq_true, stays_iff, stays_iff]
      constructor
      · intro both x hx owns
        obtain ⟨stays, there⟩ := both
        rcases alike x hx with before | few' | none'
        · exact before
        · exact absurd (stays x hx owns) few'
        · have mem : r ∈ t.restrictions := same ▸ List.mem_filter.mpr ⟨hr, there⟩
          rw [Ledger.ids_eq_nil.mp none' r mem] at owns
          cases owns
      · intro stays
        refine ⟨fun x hx owns => worn.flaps hx (stays x hx owns), ?_⟩
        cases there : keep r with
        | true => rfl
        | false =>
          obtain ⟨x, hx, steady, owns⟩ := owned r hr there
          exact absurd (stays x hx owns) steady

end Surroundings

/-- **When a repetition makes no difference.** A cleared alert is handled while calls fail, and
concluded; and it is handled from the same ledger without failures. Let `s₁` be the ledger when the
attempt that counts begins. Whatever the earlier attempts deleted counts as a change there. So the
incident is routed alike exactly if a restriction was flapping from the start or none is yet at
`s₁`; and the same restrictions are left exactly if each reason was flapping from the start, or is
not yet at `s₁`, or has nothing left to delete. -/
theorem Desk.repeated_eq_iff {d : Desk} {alert : Alert} {w : Surroundings d.settings} {s t : Ledger}
    {log : Log} {o : Outcome} (found : d.roster.find alert.title = some .unreachable)
    (cleared : alert.hasCleared = true) (run : Fallible.Gives (d.handle alert) log (.ok o))
    (follows : w.Follows Call.Lifting s log t) (concluded : o.status = .concluded) :
    ∃ o' t', ((d.handle alert).run.play w.answer s).2 = (.ok o', t') ∧ o'.status = .concluded ∧
      ∃ n earlier a last res a' carried s₁,
        log = ⟨Ask.count .alertsHandled, ()⟩ :: (earlier ++ last ++ carried) ∧
        Retries (Filing.Gives (d.attempt .unreachable alert)) Repeating n .empty earlier a ∧
        Filing.Gives (d.attempt .unreachable alert) a last (.ok res) a' ∧
        w.Follows Call.Lifting s (⟨Ask.count .alertsHandled, ()⟩ :: earlier) s₁ ∧
        (∀ x ∈ liftable, w.changes x s₁ + (s₁.ids x).length = w.changes x s + (s.ids x).length) ∧
        (o.conclusion.terminal = o'.conclusion.terminal ↔
          (∃ x ∈ liftable, w.Flaps x s) ∨ ∀ x ∈ liftable, ¬ w.Flaps x s₁) ∧
        ((∀ r, r ∈ t.restrictions ↔ r ∈ t'.restrictions) ↔
          ∀ x ∈ liftable, w.Flaps x s ∨ ¬ w.Flaps x s₁ ∨ s₁.ids x = []) ∧
        ((∀ r, r ∈ t.restrictions ↔ r ∈ t'.restrictions) → t.restrictions = t'.restrictions) := by
  have undisturbed : w.Follows (fun _ => False) s ((d.handle alert).run.play w.answer s).1
      ((d.handle alert).run.play w.answer s).2.2 := follows_play _ s
  obtain ⟨⟨o', ended, concluded'⟩ | ⟨_, never⟩, decided⟩ :=
    handle_spec found cleared (fun _ h => h.elim) (Program.run_play w.answer _ s) undisturbed
  · obtain ⟨n', earlier', _, _, _, _, _, s', _, tries', _, before', _, again, routed', left'⟩ :=
      decided o' ended concluded'
    -- without failures there is one attempt, and it begins with the ledger as it was
    have start : s' = s := by
      cases tries' with
      | none =>
        refine follows_keeping (fun e he => ?_) before'
        rw [List.mem_singleton.mp he]
        trivial
      | more =>
        obtain ⟨_, never⟩ := again (Nat.succ_ne_zero _)
        exact never.elim
    rw [start] at routed' left'
    obtain ⟨_, decided'⟩ := handle_spec found cleared (fun _ h => h) run follows
    obtain ⟨n, earlier, a, last, res, a', carried, s₁, parts, tries, counts, before, worn, _, routed,
      left⟩ := decided' o rfl concluded
    refine ⟨o', _, Prod.ext ended rfl, concluded', n, earlier, a, last, res, a', carried, s₁, parts,
      tries, counts, before, worn.counted, ?_, ?_, ?_⟩
    · rw [Conclusion.terminal, Conclusion.terminal, Action.terminal.injEq, routed, routed']
      exact worn.verdict_eq_iff
    · rw [left, left']
      exact ⟨worn.remaining_iff.1, fun alike r => by rw [worn.remaining_iff.2 alike]⟩
    · rw [left, left']
      exact fun alike => worn.remaining_iff.2 (worn.remaining_iff.1 alike)
  · exact never.elim

/-! ### A restriction that is deleted and then found flapping -/

/-- Surroundings with a cluster whose nodes run again. -/
def Surroundings.sample : Surroundings Settings.standard where
  clock := .epoch
  running := List.replicate 6 ⟨"", .running, none⟩
  expected := ⟨5, 8⟩
  other := fun
    | .manager (.cluster id) => ({
        id, externalId := "uuid-1", name := "prod", state := .ready, product := .rosa, ccs := true
        cloudProvider := "aws", region := "us-east-1", hosted := false, infraId := none
        subnetIds := [], subscriptionId := none } : Cluster)
    | .manager (.expectedNodes _) => (⟨5, 8⟩ : NodeCount)
    | .manager (.restrictions _) => ([] : List Restriction)
    | .manager (.postRestriction _ _) => ()
    | .manager (.deleteRestriction _ _) => ()
    | .manager (.postAdvisory _ _) => ()
    | .manager (.advisories _ _) => ([] : List AdvisoryEntry)
    | .manager (.stateTransitions _) => ([] : List StateTransition)
    | .manager (.organization _) => ("org-1" : String)
    | .manager (.accessProtection _) => (false : Bool)
    | .pager _ => ()
    | .cloud _ (.stoppedInstances _) => ([] : List Instance)
    | .cloud _ (.runningInstances _) => ([] : List Instance)
    | .cloud _ (.stopEvents _ _ _) => ([] : List AuditEvent)
    | .cloud _ (.routeTables _) => ([] : List RouteTable)
    | .cloud _ (.subnets _) => ([] : List String)
    | .cloud _ (.securityGroup _) => ("sg-1" : String)
    | .openCloud _ => (⟨0⟩ : CloudClient)
    | .deployment _ => (⟨"prod", "uhc-production-c1", "prod-x7k2p", true, none⟩ : Deployment)
    | .verifyEgress _ => EgressReport.success
  analysis := fun _ limit => ⟨limit, .ok ""⟩
  entry := fun _ r => {
    id := "", username := "service-account-cluster-triage"
    logType := AdvisoryEntry.restrictionChange, summary := r.summary, description := ""
    timestamp := .epoch }
  entry_summary := fun _ _ => rfl
  entry_account := fun _ _ =>
    (by decide : Settings.standard.ownsAccount "service-account-cluster-triage" = true)
  entry_logType := fun _ _ => rfl
  entry_timestamp := fun _ _ => rfl

/-- One restriction is set, and one change was made to it before. -/
def Ledger.sample : Ledger where
  restrictions := [{ Unreachable.stoppedRestriction.restriction with id := some "lsr-1" }]
  history := [Surroundings.sample.entry [] Unreachable.stoppedRestriction.restriction]
  distinct := by decide

/-- The handling of a cleared alert there. -/
def Desk.sampleHandling : Work (Except Failure Outcome) :=
  ((Desk.standard .standard false).handle ⟨"Q1", "cluster has gone missing", .resolved, "c1"⟩).run

/-- The schedule by which the second look at the history fails. -/
def sampleSchedule : List (Option Failure) :=
  [none, none, none, none, none, some (.root (.reported "unavailable"))]

theorem plain_sampleSchedule : ∀ f, some f ∈ sampleSchedule → f.classification = none := by
  intro f hf
  simp only [sampleSchedule, List.mem_cons, reduceCtorEq, Option.some.injEq, List.not_mem_nil,
    or_false, false_or] at hf
  rw [hf]
  rfl

/-- How a handling ended. -/
def Desk.ending (r : Except Failure Outcome) : Option (OutcomeStatus × Action) :=
  r.toOption.map fun o => (o.status, o.conclusion.terminal)

theorem Desk.eq_ok_of_ending {r : Except Failure Outcome} {status : OutcomeStatus} {a : Action}
    (h : ending r = some (status, a)) :
    ∃ o, r = .ok o ∧ o.status = status ∧ o.conclusion.terminal = a := by
  cases r with
  | error f => cases h
  | ok o =>
    cases h
    exact ⟨o, rfl, rfl, rfl⟩

theorem Desk.repeated_eq_iff_own_deletion :
    ∃ log o t left o' t' earlier rest s₁,
      sampleHandling.play Surroundings.sample.answerUnder (.sample, sampleSchedule) =
        (log, .ok o, t, left) ∧
      (sampleHandling.play Surroundings.sample.answer .sample).2 = (.ok o', t') ∧
      o.conclusion.terminal = .terminal (.escalate "restriction is flapping") ∧
      o'.conclusion.terminal = .terminal (.silence "cluster recovered") ∧
      (∀ x ∈ liftable, ¬ Surroundings.sample.Flaps x .sample) ∧
      log = earlier ++ rest ∧ Surroundings.sample.Follows Call.Lifting .sample earlier s₁ ∧
      ∃ x ∈ liftable, Surroundings.sample.Flaps x s₁ := by
  have disturbed : ending
      (sampleHandling.play Surroundings.sample.answerUnder (.sample, sampleSchedule)).2.1 =
      some (.concluded, .terminal (.escalate "restriction is flapping")) := by decide +kernel
  have undisturbed : ending (sampleHandling.play Surroundings.sample.answer .sample).2.1 =
      some (.concluded, .terminal (.silence "cluster recovered")) := by decide +kernel
  have found : (Desk.standard .standard false).roster.find "cluster has gone missing" =
      some .unreachable := by decide +kernel
  generalize played :
    sampleHandling.play Surroundings.sample.answerUnder (.sample, sampleSchedule) = ended at disturbed
  obtain ⟨log, r, t, left⟩ := ended
  obtain ⟨o, rfl, concluded, routed⟩ := eq_ok_of_ending disturbed
  obtain ⟨o₀, ended₀, _, routed₀⟩ := eq_ok_of_ending undisturbed
  obtain ⟨run, follows⟩ := run_playUnder plain_sampleSchedule played
  obtain ⟨o', t', free, _, _, earlier, _, last, _, _, carried, s₁, parts, _, _, before, _, terminal,
    _⟩ := repeated_eq_iff found rfl run follows concluded
  have free' : (sampleHandling.play Surroundings.sample.answer .sample).2 = (.ok o', t') := free
  rw [free'] at ended₀
  cases ended₀
  rw [routed, routed₀] at terminal
  have differ : ¬ ((∃ x ∈ liftable, Surroundings.sample.Flaps x .sample) ∨
      ∀ x ∈ liftable, ¬ Surroundings.sample.Flaps x s₁) := by
    intro alike
    cases terminal.mpr alike
  refine ⟨log, o, t, left, o₀, t', _, last ++ carried, s₁, rfl, free', routed, routed₀,
    fun x hx flaps => ?_, ?_, before, ?_⟩
  · exact differ (.inl ⟨x, hx, flaps⟩)
  · rw [parts, List.append_assoc, List.cons_append]
  · by_cases later : ∃ x ∈ liftable, Surroundings.sample.Flaps x s₁
    · exact later
    · exact (differ (.inr fun x hx flaps => later ⟨x, hx, flaps⟩)).elim

end OnCall
