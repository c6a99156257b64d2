import OnCall.Proofs.Machine
import OnCall.Proofs.Traces

/-!
# Deleting a restriction again

A deletion may have had its effect and still be reported as failed. Then it is tried again, and the
server does not know the restriction any more.

* `ManagementService.deletion`: the request that deletes a restriction.
* `Deleting`: what a server may answer to it, and whether the restriction is set before and after.
* `Platforms.deletion_retried`: the exchanges of a deletion that is tried again until it succeeds.
* `Platforms.deletion_ok_iff`: **when a deletion succeeds**: if the last request is told to have
  succeeded, and never once the restriction was gone.
-/

namespace OnCall

open ManagementService (Submitted restrictionsPath)

/-! ## 1. The request -/

namespace ManagementService

/-- The path of a restriction. -/
def restrictionPath (clusterId id : String) : String := restrictionsPath clusterId ++ "/" ++ id

/-- The request that deletes a restriction. -/
def deletion (s : ManagementService) (clusterId id : String) : WebRequest :=
  s.request .delete (restrictionPath clusterId id) [] none

/-- The failure when the server does not know the restriction. -/
def deletionUnknown (clusterId id : String) : Failure :=
  .context ("failed to delete restriction " ++ id)
    (.root (.api (.notFound (restrictionPath clusterId id))))

end ManagementService

/-- **A server that is asked to delete a restriction**, and whether it is set before and after an
exchange. The request may be told to have failed, or not be answered at all, although it had its
effect. A restriction that is gone is not known any more. -/
inductive Deleting (q : WebRequest) : Bool → Exchange machine → Bool → Prop where
  | deleted {status : Nat} {body : String} (h : 200 ≤ status ∧ status < 300) :
    Deleting q true (q.exchange (.answered status body)) false
  | lost {status : Nat} {body : String} (h : 500 ≤ status) :
    Deleting q true (q.exchange (.answered status body)) false
  | unanswered {report : String} : Deleting q true (q.exchange (.unanswered report)) false
  | kept {reply : WebReply}
      (h : ∀ status body, reply = .answered status body → ¬ (200 ≤ status ∧ status < 300)) :
    Deleting q true (q.exchange reply) true
  | gone {body : String} : Deleting q false (q.exchange (.answered 404 body)) false
  | aside {e : Exchange machine} {set : Bool} (h : ∀ reply, e ≠ q.exchange reply) :
    Deleting q set e set

/-- What is gone stays gone. -/
theorem Deleting.stays_gone {q : WebRequest} {set' : Bool} {log : List (Exchange machine)}
    (along : Along (Deleting q) false log set') : set' = false := by
  induction log with
  | nil => exact Along.nil_iff.mp along
  | cons e log ih =>
    obtain ⟨mid, first, others⟩ := Along.cons_iff.mp along
    cases first with
    | gone => exact ih others
    | aside => exact ih others

/-- What a server tells to have deleted is gone. -/
theorem Deleting.of_accepted {q : WebRequest} {set set' : Bool} {status : Nat} {body : String}
    (good : 200 ≤ status ∧ status < 300)
    (h : Deleting q set (q.exchange (.answered status body)) set') : set' = false := by
  cases h with
  | deleted => rfl
  | lost => rfl
  | kept bad => exact absurd good (bad status body rfl)
  | gone => rfl
  | aside h => exact absurd rfl (h _)

/-- A server does not know a restriction that is gone. -/
theorem Deleting.of_gone {q : WebRequest} {set' : Bool} {reply : WebReply}
    (h : Deleting q false (q.exchange reply) set') : ∃ body, reply = .answered 404 body := by
  cases h with
  | gone => exact ⟨_, rfl⟩
  | aside h => exact absurd rfl (h reply)

/-! ## 2. Tries -/

/-- The number of web requests that were sent. -/
def sends (log : List (Exchange machine)) : Nat :=
  log.countP fun e => match e.request with
    | .send _ => true
    | _ => false

theorem sends_append (first second : List (Exchange machine)) :
    sends (first ++ second) = sends first + sends second := List.countP_append

@[simp] theorem sends_send (q : WebRequest) (reply : WebReply) :
    sends [q.exchange reply] = 1 := rfl

@[simp] theorem sends_pause (span : Span) : sends [⟨MachineAsk.pause span, ()⟩] = 0 := rfl

theorem sends_pos {q : WebRequest} {reply : WebReply} {log : List (Exchange machine)}
    (h : q.exchange reply ∈ log) : 0 < sends log :=
  List.countP_pos_iff.mpr ⟨_, h, rfl⟩

namespace Platforms

variable {p : Platforms} {policy : RetryPolicy} {clusterId id : String} {c c' : Connections}
  {done : List (Exchange machine)} {r : Except Failure Unit}

/-- **One try**: the request is sent once, if it can be sent. -/
theorem met_deletion :
    p.Met c [Call.exchange (.manager (.deleteRestriction clusterId id)) r] done c' ↔
      (((p.management.deletion clusterId id).isSendable = true ∧ ∃ reply,
        done = [(p.management.deletion clusterId id).exchange reply] ∧
          Submitted (ManagementService.restrictionPath clusterId id)
            ("failed to delete restriction " ++ id) reply r) ∨
      ((p.management.deletion clusterId id).isSendable = false ∧ done = [] ∧
        r = .error (.root .unsent))) ∧ c' = c := by
  refine met_singleton.trans (run_manager.trans (and_congr_left' ?_))
  constructor
  · rintro ⟨sent, run, rfl⟩
    rcases ManagementService.run_submit.mp run with
      ⟨sendable, reply, rfl, told⟩ | ⟨sendable, rfl, told⟩
    · exact .inl ⟨sendable, reply, rfl, told⟩
    · cases told
      exact .inr ⟨sendable, rfl, rfl⟩
  · rintro (⟨sendable, reply, rfl, told⟩ | ⟨sendable, rfl, rfl⟩)
    · exact ⟨_, ManagementService.run_submit.mpr (.inl ⟨sendable, reply, rfl, told⟩), rfl⟩
    · exact ⟨[], ManagementService.run_submit.mpr (.inr ⟨sendable, rfl, .unsent⟩), rfl⟩

/-- The tries that failed: a request for each, if it can be sent. -/
theorem deletion_failed {n : Nat} {log : Log} {a a' : Unit}
    (tries : Retries (Fallible.Try (Work.deleteRestriction clusterId id)) Pausing n a log a')
    (met : p.Met c log done c') :
    sends done = if (p.management.deletion clusterId id).isSendable then n else 0 := by
  induction tries generalizing c done with
  | none =>
    cases met
    split <;> rfl
  | more failed next _ ih =>
    obtain ⟨done₁, c₁, _, rfl, met₁, met⟩ := met_append.mp met
    obtain ⟨done₂, c₂, done₃, rfl, met₂, met₃⟩ := met_append.mp met
    obtain ⟨span, rfl⟩ := next
    obtain ⟨rfl, _⟩ := run_pause.mp (met_singleton.mp met₂)
    have others := ih met₃
    rw [sends_append, sends_append, sends_pause, others]
    rw [Fallible.gives_call.mp failed] at met₁
    rcases (met_deletion.mp met₁).1 with ⟨sendable, reply, rfl, _⟩ | ⟨sendable, rfl, _⟩
    · rw [if_pos sendable, if_pos sendable, sends_send]
      omega
    · rw [sendable]
      rfl

/-- **A deletion that is tried again** until it succeeds: the reply to the last request decides, and
if the deletion failed, all the tries that the policy allows were made. -/
theorem deletion_retried
    (run : p.Performs (Work.retried policy (Work.deleteRestriction clusterId id)) c done r c') :
    (∃ earlier reply, done = earlier ++ [(p.management.deletion clusterId id).exchange reply] ∧
      Submitted (ManagementService.restrictionPath clusterId id)
        ("failed to delete restriction " ++ id) reply r ∧
      ∀ f, r = .error f → sends done = policy.attempts) ∨
    sends done = 0 ∧ r = .error (.root .unsent) := by
  obtain ⟨log, asked, met⟩ := performs_iff.mp run
  obtain ⟨n, failed, last, _, rfl, tries, final, used⟩ := Fallible.gives_retried asked
  obtain ⟨earlier, c₁, done₂, rfl, before, behind⟩ := met_append.mp met
  have made := deletion_failed tries before
  rw [Fallible.gives_call.mp final] at behind
  rcases (met_deletion.mp behind).1 with ⟨sendable, reply, rfl, told⟩ | ⟨sendable, rfl, told⟩
  · rw [if_pos sendable] at made
    refine .inl ⟨earlier, reply, rfl, told, fun f failed => ?_⟩
    rw [sends_append, made, sends_send, used f failed]
  · rw [sendable] at made
    exact .inr ⟨by rw [List.append_nil]; exact made, told⟩

/-! ## 3. Success -/

/-- **When a deletion succeeds.** It does if its last request is told to have succeeded. Once the
restriction is gone, a further request is answered that the restriction is not known: then the
deletion fails, after all the tries that the policy allows. -/
theorem deletion_ok_iff
    (run : p.Performs (Work.retried policy (Work.deleteRestriction clusterId id)) c done r c') :
    (r = .ok () ↔ ∃ earlier status body,
      done = earlier ++ [(p.management.deletion clusterId id).exchange (.answered status body)] ∧
        200 ≤ status ∧ status < 300) ∧
      (r = .ok () → ∀ set set',
        Along (Deleting (p.management.deletion clusterId id)) set done set' → set' = false) ∧
      ∀ first second set set', done = first ++ second →
        Along (Deleting (p.management.deletion clusterId id)) set first false →
        Along (Deleting (p.management.deletion clusterId id)) false second set' →
        (∃ reply, (p.management.deletion clusterId id).exchange reply ∈ second) →
          r = .error (ManagementService.deletionUnknown clusterId id) ∧
            sends done = policy.attempts := by
  rcases deletion_retried run with ⟨earlier, reply, rfl, told, used⟩ | ⟨unsent, rfl⟩
  · refine ⟨?_, fun succeeded set set' along => ?_, ?_⟩
    · rw [told.ok_iff]
      constructor
      · rintro ⟨status, body, rfl, good⟩
        exact ⟨earlier, status, body, rfl, good⟩
      · rintro ⟨_, status, body, same, good⟩
        cases (List.append_inj' same rfl).2
        exact ⟨status, body, rfl, good⟩
    · obtain ⟨status, body, rfl, good⟩ := told.ok_iff.mp succeeded
      obtain ⟨_, _, behind⟩ := Along.append_iff.mp along
      exact Deleting.of_accepted good (Along.singleton_iff.mp behind)
    · rintro first second set set' split _ later ⟨_, further⟩
      -- the last request of the run is the last one after the restriction was gone
      obtain ⟨waits, last, rfl⟩ : ∃ waits last, second = waits ++ [last] :=
        ⟨_, _, (List.dropLast_concat_getLast (List.ne_nil_of_mem further)).symm⟩
      rw [← List.append_assoc] at split
      cases (List.append_inj' split rfl).2
      obtain ⟨mid, before, behind⟩ := Along.append_iff.mp later
      rw [Deleting.stays_gone before] at behind
      obtain ⟨body, rfl⟩ := Deleting.of_gone (Along.singleton_iff.mp behind)
      cases told with
      | accepted good => exact absurd good.2 (by decide)
      | unknown => exact ⟨rfl, used _ rfl⟩
      | refused _ other => exact absurd rfl other
  · refine ⟨?_, nofun, ?_⟩
    · refine iff_of_false nofun fun ⟨earlier, status, body, same, _⟩ => ?_
      have sent : 0 < sends done :=
        sends_pos (same ▸ List.mem_append_right _ (List.mem_singleton_self _))
      omega
    · rintro first second set set' rfl _ _ ⟨reply, further⟩
      have sent := sends_pos (List.mem_append_right first further)
      omega

/-- The server deletes the restriction and reports a fault; asked again, it does not know it. -/
theorem deletion_ok_iff_lost :
    let p : Platforms :=
      { management := ⟨"https://api.openshift.com", "secret"⟩, paging := ⟨"", "", "", "", ""⟩,
        clouds := ⟨⟨"aws", .ofSeconds 30⟩, none⟩, deployments := ⟨""⟩,
        probe := ⟨⟨"verifier", .ofSeconds 30⟩, none⟩, analysis := none }
    let q := p.management.deletion "c1" "lsr-1"
    let tried := [q.exchange (.answered 503 "")]
    let again := [⟨MachineAsk.pause .zero, ()⟩, q.exchange (.answered 404 "")]
    let r : Except Failure Unit := .error (ManagementService.deletionUnknown "c1" "lsr-1")
    (p.Performs (Work.retried ⟨2, .fixed .zero⟩ (Work.deleteRestriction "c1" "lsr-1")) .none
        (tried ++ again) r .none ∧
      Along (Deleting q) true tried false ∧ Along (Deleting q) false again false) ∧
    r ≠ .ok () := by
  intro p q tried again r
  have sendable : q.isSendable = true := by decide +kernel
  have refused : ¬ (200 ≤ 503 ∧ 503 < 300) := by decide
  let fault : Failure :=
    .context "failed to delete restriction lsr-1" (.root (.api (.status 503 "")))
  have first : p.Met .none
      [Call.exchange (.manager (.deleteRestriction "c1" "lsr-1")) (.error fault)] tried .none :=
    met_deletion.mpr ⟨.inl ⟨sendable, _, rfl, .refused refused (by decide)⟩, rfl⟩
  have pause : p.Met .none [⟨Ask.pause .zero, ()⟩] [⟨MachineAsk.pause .zero, ()⟩] .none :=
    met_singleton.mpr (run_pause.mpr ⟨rfl, rfl⟩)
  have second : p.Met .none [Call.exchange (.manager (.deleteRestriction "c1" "lsr-1")) r]
      [q.exchange (.answered 404 "")] .none :=
    met_deletion.mpr ⟨.inl ⟨sendable, _, rfl, .unknown⟩, rfl⟩
  have asked : Fallible.Gives (Work.retried ⟨2, .fixed .zero⟩ (Work.deleteRestriction "c1" "lsr-1"))
      [Call.exchange (.manager (.deleteRestriction "c1" "lsr-1")) (.error fault),
        ⟨Ask.pause .zero, ()⟩,
        Call.exchange (.manager (.deleteRestriction "c1" "lsr-1")) r] r :=
    .ask _ _ _ (.ask _ _ _ (.ask _ _ _ (.done _)))
  have run : p.Performs (Work.retried ⟨2, .fixed .zero⟩ (Work.deleteRestriction "c1" "lsr-1")) .none
      (tried ++ again) r .none :=
    performs_iff.mpr ⟨_, asked,
      met_append.mpr ⟨_, _, _, rfl, first, met_append.mpr ⟨_, _, _, rfl, pause, second⟩⟩⟩
  have lost : Along (Deleting q) true tried false :=
    Along.singleton_iff.mpr (.lost (by decide))
  have gone : Along (Deleting q) false again false :=
    .cons (.aside nofun) (Along.singleton_iff.mpr .gone)
  have failed := (deletion_ok_iff run).2.2 tried again true false rfl lost gone
    ⟨_, List.mem_cons_of_mem _ (List.mem_singleton_self _)⟩
  exact ⟨⟨run, lost, gone⟩, failed.1 ▸ nofun⟩

end Platforms

end OnCall
