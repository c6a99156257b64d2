import OnCall.CommandLine.Platforms
import OnCall.Proofs.Retries

/-!
# Runs on the machine

The requests of an investigation are met by requests to services and tools. Here a run on the
machine is taken apart into the requests of the investigation that it meets.

* `Program.run_sent`: a program of web requests that is carried out on the machine.
* `Platforms.Met`: the exchanges on the machine that meet the exchanges of an investigation, one
  after the other.
* `Platforms.run_interpret`: **a run on the machine is a run of the program**, with every request
  met; `Platforms.Performs` are the runs of a program that may fail.
* `ManagementService.Submitted`: what becomes of a request whose reply says no more than whether it
  succeeded.
* `ManagementService.Fetched`: a path that is fetched, and what its reply spells.
-/

namespace OnCall

/-! ## 1. Web requests -/

/-- A web request that the machine sends, together with its reply. -/
def WebRequest.exchange (q : WebRequest) (reply : WebReply) : Exchange machine :=
  ⟨MachineAsk.send q, reply⟩

/-- An exchange with a web service, made by the machine. -/
def Exchange.onMachine (e : Exchange web) : Exchange machine :=
  WebRequest.exchange e.request e.reply

namespace Program

/-- A program of web requests is carried out by sending them. -/
theorem run_sent {α : Type} {x : Program web α} {log : List (Exchange machine)} {a : α} :
    Run (x.interpret fun q => OnMachine.ask (.send q)) log a ↔
      ∃ sent, Run x sent a ∧ log = sent.map Exchange.onMachine := by
  induction x generalizing log with
  | done b =>
    constructor
    · intro run
      obtain ⟨rfl, rfl⟩ := run_done.mp run
      exact ⟨[], .done a, rfl⟩
    · rintro ⟨sent, run, rfl⟩
      obtain ⟨rfl, rfl⟩ := run_done.mp run
      exact .done a
  | ask q next ih =>
    constructor
    · intro run
      obtain ⟨reply, rest, rfl, tail⟩ := run_ask.mp run
      obtain ⟨sent, ran, rfl⟩ := (ih reply).mp tail
      exact ⟨⟨q, reply⟩ :: sent, .ask q next reply ran, rfl⟩
    · rintro ⟨sent, run, rfl⟩
      obtain ⟨reply, rest, rfl, tail⟩ := run_ask.mp run
      exact run_ask.mpr ⟨reply, _, rfl, (ih reply).mpr ⟨rest, tail, rfl⟩⟩

end Program

/-- A request is sent once, if it can be sent. -/
theorem WebWork.run_send {q : WebRequest} {log : List (Exchange web)}
    {r : Except Failure WebReply} :
    Program.Run (WebWork.send q).run log r ↔
      (q.isSendable = true ∧ ∃ reply, log = [⟨q, reply⟩] ∧ r = .ok reply) ∨
        (q.isSendable = false ∧ log = [] ∧ r = .ok .unsent) := by
  unfold WebWork.send
  cases sendable : q.isSendable with
  | true =>
    constructor
    · intro run
      obtain ⟨reply, rest, rfl, tail⟩ := Program.run_ask.mp run
      obtain ⟨rfl, rfl⟩ := Program.run_done.mp tail
      exact .inl ⟨rfl, reply, rfl, rfl⟩
    · rintro (⟨_, reply, rfl, rfl⟩ | ⟨wrong, _⟩)
      · exact Program.run_ask.mpr ⟨reply, [], rfl, .done _⟩
      · cases wrong
  | false =>
    constructor
    · intro run
      obtain ⟨rfl, rfl⟩ := Program.run_done.mp run
      exact .inr ⟨rfl, rfl, rfl⟩
    · rintro (⟨wrong, _⟩ | ⟨_, rfl, rfl⟩)
      · cases wrong
      · exact .done _

/-! ## 2. Requests of an investigation -/

namespace Platforms

/-- **The exchanges on the machine** that meet the exchanges of an investigation, and the
connections before and after them. -/
inductive Met (p : Platforms) :
    Connections → Log → List (Exchange machine) → Connections → Prop where
  | nil (c : Connections) : Met p c [] [] c
  | cons {c c₁ c₂ : Connections} {e : Exchange collaboration} {log : Log}
      {done rest : List (Exchange machine)}
      (first : Program.Run (p.meet e.request c) done (e.reply, c₁))
      (others : Met p c₁ log rest c₂) : Met p c (e :: log) (done ++ rest) c₂

variable {p : Platforms} {α : Type} {c c' : Connections}

theorem met_append {first second : Log} {done : List (Exchange machine)} :
    p.Met c (first ++ second) done c' ↔
      ∃ done₁ c₁ done₂, done = done₁ ++ done₂ ∧ p.Met c first done₁ c₁ ∧
        p.Met c₁ second done₂ c' := by
  induction first generalizing c done with
  | nil =>
    constructor
    · exact fun h => ⟨[], c, done, rfl, .nil c, h⟩
    · rintro ⟨_, _, _, rfl, h, rest⟩
      cases h
      exact rest
  | cons e first ih =>
    constructor
    · intro h
      cases h with
      | cons now others =>
        obtain ⟨done₁, c₁, done₂, rfl, before, behind⟩ := ih.mp others
        exact ⟨_, c₁, done₂, (List.append_assoc ..).symm, .cons now before, behind⟩
    · rintro ⟨_, c₁, done₂, rfl, h, behind⟩
      cases h with
      | cons now before =>
        rw [List.append_assoc]
        exact .cons now (ih.mpr ⟨_, c₁, done₂, rfl, before, behind⟩)

theorem met_singleton {e : Exchange collaboration} {done : List (Exchange machine)} :
    p.Met c [e] done c' ↔ Program.Run (p.meet e.request c) done (e.reply, c') := by
  constructor
  · intro h
    cases h with
    | cons now others =>
      cases others
      rwa [List.append_nil]
  · intro now
    have met : p.Met c [e] (done ++ []) c' := .cons now (.nil c')
    rwa [List.append_nil] at met

/-- **A run on the machine is a run of the program**, with every request met. -/
theorem run_interpret {x : Work α} {done : List (Exchange machine)} {a : α} :
    Program.Run ((x.interpret (I := collaboration) p.meet).run c) done (a, c') ↔
      ∃ log, Program.Run x log a ∧ p.Met c log done c' := by
  induction x generalizing c done with
  | done b =>
    constructor
    · intro run
      obtain ⟨rfl, same⟩ := Program.run_done.mp run
      cases same
      exact ⟨[], .done a, .nil _⟩
    · rintro ⟨log, run, met⟩
      obtain ⟨rfl, rfl⟩ := Program.run_done.mp run
      cases met
      exact .done _
  | ask q next ih =>
    constructor
    · intro run
      obtain ⟨done₁, ⟨reply, c₁⟩, done₂, rfl, now, rest⟩ := Program.run_bind.mp run
      obtain ⟨log, run, met⟩ := (ih reply).mp rest
      exact ⟨⟨q, reply⟩ :: log, .ask q next reply run, .cons now met⟩
    · rintro ⟨log, run, met⟩
      obtain ⟨reply, rest, rfl, tail⟩ := Program.run_ask.mp run
      cases met with
      | cons now others =>
        exact Program.run_bind.mpr ⟨_, _, _, rfl, now, (ih reply).mpr ⟨_, tail, others⟩⟩

/-- The runs on the machine of a program that may fail, with the connections before and after. -/
def Performs (p : Platforms) (x : Fallible α) (c : Connections) (done : List (Exchange machine))
    (r : Except Failure α) (c' : Connections) : Prop :=
  Program.Run ((x.run.interpret (I := collaboration) p.meet).run c) done (r, c')

theorem performs_iff {x : Fallible α} {done : List (Exchange machine)} {r : Except Failure α} :
    p.Performs x c done r c' ↔ ∃ log, Fallible.Gives x log r ∧ p.Met c log done c' :=
  run_interpret

/-- What is done on the machine leaves the connections as they are. -/
theorem run_onMachine {x : OnMachine α} {done : List (Exchange machine)} {a : α} :
    Program.Run (onMachine x c) done (a, c') ↔ Program.Run x done a ∧ c' = c := by
  have split : Program.Run (onMachine x c) done (a, c') ↔ _ :=
    Program.run_bind (f := fun a => .done (a, c))
  rw [split]
  constructor
  · rintro ⟨first, b, second, rfl, h₁, h₂⟩
    obtain ⟨rfl, same⟩ := Program.run_done.mp h₂
    cases same
    exact ⟨by rwa [List.append_nil], rfl⟩
  · rintro ⟨run, rfl⟩
    exact ⟨done, a, [], (List.append_nil _).symm, run, .done _⟩

theorem run_pause {span : Span} {done : List (Exchange machine)} :
    Program.Run (p.meet (.pause span) c) done ((), c') ↔ done = [⟨.pause span, ()⟩] ∧ c' = c :=
  run_onMachine.trans (and_congr_left' Program.run_request)

/-- A call to cluster management is met by sending web requests. -/
theorem run_manager {call : ManagerCall} {done : List (Exchange machine)}
    {r : Except Failure call.Answer} :
    Program.Run (p.meet (.call (.manager call)) c) done (r, c') ↔
      (∃ sent, Program.Run (p.management.perform call).run sent r ∧
        done = sent.map Exchange.onMachine) ∧ c' = c :=
  run_onMachine.trans (and_congr_left' Program.run_sent)

end Platforms

/-! ## 3. Requests without an answer -/

namespace ManagementService

/-- **What becomes of a request whose reply says no more than whether it succeeded.** A reply that
reports failure is told with what was to be done, and whatever else goes wrong is told as it is. -/
inductive Submitted (path what : String) : WebReply → Except Failure Unit → Prop where
  | accepted {status : Nat} {body : String} (h : 200 ≤ status ∧ status < 300) :
    Submitted path what (.answered status body) (.ok ())
  | unknown {body : String} :
    Submitted path what (.answered 404 body)
      (.error (.context what (.root (.api (.notFound path)))))
  | refused {status : Nat} {body : String} (h : ¬ (200 ≤ status ∧ status < 300))
      (other : status ≠ 404) :
    Submitted path what (.answered status body)
      (.error (.context what (.root (.api (.status status body)))))
  | unanswered {report : String} :
    Submitted path what (.unanswered report) (.error (.root (.reported report)))
  | unsent : Submitted path what .unsent (.error (.root .unsent))

/-- The reply reports success exactly if the request is told to have succeeded. -/
theorem Submitted.ok_iff {path what : String} {reply : WebReply} {r : Except Failure Unit}
    (h : Submitted path what reply r) :
    r = .ok () ↔ ∃ status body, reply = .answered status body ∧ 200 ≤ status ∧ status < 300 := by
  cases h with
  | accepted h => exact iff_of_true rfl ⟨_, _, rfl, h⟩
  | unknown =>
    refine iff_of_false nofun fun ⟨_, _, same, h⟩ => ?_
    cases same
    exact absurd h.2 (by decide)
  | refused h other =>
    refine iff_of_false nofun fun ⟨_, _, same, inside⟩ => ?_
    cases same
    exact h inside
  | unanswered => exact iff_of_false nofun nofun
  | unsent => exact iff_of_false nofun nofun

variable {s : ManagementService} {method : WebMethod} {path what : String} {body : Option Json}

/-- What a reply is told as. -/
theorem run_settled (reply : WebReply) {log : List (Exchange web)} {r : Except Failure Unit} :
    Program.Run (match reply with
      | reply@(.answered _ _) =>
        (discard (WebWork.settle (reply.content .bare path))).describe what
      | reply => discard (WebWork.settle (reply.content .bare path)) : WebWork Unit).run log r ↔
    log = [] ∧ Submitted path what reply r := by
  cases reply with
  | unsent =>
    refine Program.run_done.trans (and_congr_right' ⟨fun same => same ▸ .unsent, fun told => ?_⟩)
    cases told
    rfl
  | unanswered report =>
    refine Program.run_done.trans
      (and_congr_right' ⟨fun same => same ▸ .unanswered, fun told => ?_⟩)
    cases told
    rfl
  | answered status text =>
    simp only [WebReply.content]
    split
    · rename_i good
      refine Program.run_done.trans
        (and_congr_right' ⟨fun same => same ▸ .accepted good, fun told => ?_⟩)
      cases told with
      | accepted => rfl
      | unknown => exact absurd good.2 (by decide)
      | refused bad => exact absurd good bad
    · rename_i bad
      split
      · rename_i missing
        subst missing
        refine Program.run_done.trans
          (and_congr_right' ⟨fun same => same ▸ .unknown, fun told => ?_⟩)
        cases told with
        | accepted good => exact absurd good bad
        | unknown => rfl
        | refused _ other => exact absurd rfl other
      · rename_i other
        refine Program.run_done.trans
          (and_congr_right' ⟨fun same => same ▸ .refused bad other, fun told => ?_⟩)
        cases told with
        | accepted good => exact absurd good bad
        | unknown => exact absurd rfl other
        | refused => rfl

/-- **One such request**: it is sent once, if it can be sent, and its reply decides. -/
theorem run_submit {log : List (Exchange web)} {r : Except Failure Unit} :
    Program.Run (s.submit method path body what).run log r ↔
      ((s.request method path [] body).isSendable = true ∧
        ∃ reply, log = [⟨s.request method path [] body, reply⟩] ∧ Submitted path what reply r) ∨
      ((s.request method path [] body).isSendable = false ∧
        log = [] ∧ Submitted path what .unsent r) := by
  constructor
  · intro run
    obtain ⟨first, reply, second, rfl, sent, settled⟩ := Program.run_bind.mp run
    rcases WebWork.run_send.mp sent with ⟨sendable, answer, rfl, rfl⟩ | ⟨sendable, rfl, rfl⟩
    · obtain ⟨rfl, told⟩ := (run_settled answer).mp settled
      exact .inl ⟨sendable, answer, rfl, told⟩
    · obtain ⟨rfl, told⟩ := (run_settled .unsent).mp settled
      exact .inr ⟨sendable, rfl, told⟩
  · rintro (⟨sendable, reply, rfl, told⟩ | ⟨sendable, rfl, told⟩)
    · exact Program.run_bind.mpr ⟨_, .ok reply, [], rfl,
        WebWork.run_send.mpr (.inl ⟨sendable, reply, rfl, rfl⟩),
        (run_settled reply).mpr ⟨rfl, told⟩⟩
    · exact Program.run_bind.mpr ⟨[], .ok .unsent, [], rfl,
        WebWork.run_send.mpr (.inr ⟨sendable, rfl, rfl⟩), (run_settled .unsent).mpr ⟨rfl, told⟩⟩

end ManagementService

/-! ## 4. Requests for a value -/

/-- The body of a reply is there if its status reports success. -/
theorem WebReply.content_ok_iff {telling : Telling} {resource text : String} {reply : WebReply} :
    reply.content telling resource = .ok text ↔
      ∃ status, reply = .answered status text ∧ 200 ≤ status ∧ status < 300 := by
  cases reply with
  | unsent => exact ⟨nofun, fun ⟨_, same, _⟩ => nomatch same⟩
  | unanswered report => exact ⟨nofun, fun ⟨_, same, _⟩ => nomatch same⟩
  | answered status body =>
    simp only [content, WebReply.answered.injEq]
    by_cases good : 200 ≤ status ∧ status < 300
    · rw [if_pos good, Except.ok.injEq]
      exact ⟨fun same => ⟨status, ⟨rfl, same⟩, good⟩, fun ⟨_, ⟨_, same⟩, _⟩ => same⟩
    · rw [if_neg good]
      constructor
      · intro failed
        split at failed <;> cases failed
      · intro ⟨_, ⟨same, _⟩, inside⟩
        exact absurd (same ▸ inside) good

/-- That body is read. -/
theorem WebReply.read_ok_iff {α : Type} {telling : Telling} {resource : String}
    {value : Json → Option α} {reply : WebReply} {a : α} :
    reply.read telling resource value = .ok a ↔ ∃ text,
      reply.content telling resource = .ok text ∧ Json.decode? value text = some a := by
  unfold read
  cases reply.content telling resource with
  | error cause => exact ⟨nofun, fun ⟨_, same, _⟩ => nomatch same⟩
  | ok text =>
    simp only [Except.ok.injEq, exists_eq_left']
    dsimp only [bind, Except.bind]
    cases Json.decode? value text with
    | none => exact ⟨nofun, nofun⟩
    | some b => exact ⟨fun same => congrArg some (Except.ok.inj same),
        fun same => congrArg Except.ok (Option.some.inj same)⟩

namespace WebWork

variable {α : Type} {x : WebWork α} {log : List (Exchange web)} {a : α}

theorem run_settle_ok_iff {e : Except Cause α} :
    Program.Run (settle e).run log (.ok a) ↔ log = [] ∧ e = .ok a := by
  cases e with
  | ok b =>
    refine Program.run_done.trans (and_congr_right' ?_)
    rw [Except.ok.injEq, Except.ok.injEq, eq_comm]
  | error cause =>
    refine Program.run_done.trans (and_congr_right' ?_)
    exact ⟨nofun, nofun⟩

/-- A text that is added to a failure changes no success. -/
theorem run_describe_ok_iff {text : String} :
    Program.Run (describe text x).run log (.ok a) ↔ Program.Run x.run log (.ok a) := by
  refine Program.run_adapt_except.trans ?_
  constructor
  · intro ran
    obtain ⟨_ | b, run, same⟩ := ran
    · cases same
    · cases same
      exact run
  · exact fun run => ⟨_, run, rfl⟩

end WebWork

namespace ManagementService

/-- **A path that is fetched**: it is asked for once, the reply reports success, and it spells what
is wanted. -/
inductive Fetched (s : ManagementService) (path : String) (spelled : Json → Prop) :
    List (Exchange web) → Prop where
  | intro {status : Nat} {body : String} {j : Json}
      (sendable : (s.request .get path [] none).isSendable = true)
      (good : 200 ≤ status ∧ status < 300) (read : Json.read? body = some j)
      (spells : spelled j) :
    Fetched s path spelled [⟨s.request .get path [] none, .answered status body⟩]

/-- **Something is fetched** if the reply can be read as such. -/
theorem run_fetch_ok_iff {s : ManagementService} {α : Type} {path : String}
    {log : List (Exchange web)} {value : Json → Option α} {a : α} :
    Program.Run (s.fetch path value).run log (.ok a) ↔
      s.Fetched path (fun j => value j = some a) log := by
  refine Program.run_bind_ok.trans ?_
  constructor
  · intro run
    obtain ⟨_, reply, _, rfl, sent, settled⟩ := run
    obtain ⟨rfl, read⟩ := WebWork.run_settle_ok_iff.mp settled
    obtain ⟨text, held, decoded⟩ := WebReply.read_ok_iff.mp read
    obtain ⟨status, rfl, good⟩ := WebReply.content_ok_iff.mp held
    obtain ⟨j, parsed, known⟩ := Option.bind_eq_some_iff.mp decoded
    rcases WebWork.run_send.mp sent with ⟨sendable, _, rfl, same⟩ | ⟨_, _, wrong⟩
    · cases same
      exact .intro sendable good parsed known
    · cases wrong
  · intro fetched
    obtain ⟨sendable, good, parsed, known⟩ := fetched
    refine ⟨_, _, [], rfl, WebWork.run_send.mpr (.inl ⟨sendable, _, rfl, rfl⟩),
      WebWork.run_settle_ok_iff.mpr ⟨rfl, ?_⟩⟩
    exact WebReply.read_ok_iff.mpr ⟨_, WebReply.content_ok_iff.mpr ⟨_, rfl, good⟩,
      Option.bind_eq_some_iff.mpr ⟨_, parsed, known⟩⟩

end ManagementService

end OnCall
