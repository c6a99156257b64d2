import Mathlib.Data.List.Perm.Basic
import OnCall.Investigation.Actor
import OnCall.Proofs.MergedEvents
import OnCall.Proofs.ToolRuns

/-!
# Looking up who stopped instances

The events that stopped some instances are looked up instance by instance and put together.

* `CloudReply.LoggedEvent.Becomes`: a record of the audit trail as an event.
* `CloudCli.Found`: what the reply to one look-up comes to.
* `CloudCli.LookedUp`: what the look-ups of all instances come to.
* `CloudCli.Shuffled`: the same look-ups in another order, and the same records in their replies.
* `CloudCli.stopEvents_exact`: **the look-ups come to what `LookedUp` says**, and the order of the
  instances and of the records changes neither the events nor what they are judged to be.
-/

namespace OnCall

open Program (Run)

/-! ## 1. Items one by one -/

section Items

variable {α β : Type} {value : α → Except Failure β} {items : List α} {values : List β}
  {f : Failure}

/-- Going on with the values of the other items. -/
theorem map_cons_ok_iff {b : β} :
    (do return b :: (← items.mapM value) : Except Failure (List β)) = .ok values ↔
      ∃ bs, items.mapM value = .ok bs ∧ b :: bs = values := by
  cases items.mapM value with
  | error e => exact ⟨fun same => (by cases same), fun ⟨_, same, _⟩ => (by cases same)⟩
  | ok bs =>
    constructor
    · intro same
      exact ⟨bs, rfl, Except.ok.inj same⟩
    · rintro ⟨_, same, rfl⟩
      cases same
      rfl

theorem map_cons_error_iff {b : β} :
    (do return b :: (← items.mapM value) : Except Failure (List β)) = .error f ↔
      items.mapM value = .error f := by
  cases items.mapM value with
  | error e => exact Iff.rfl
  | ok bs => exact ⟨fun same => (by cases same), fun same => (by cases same)⟩

/-- All goes well if every item has a value. -/
theorem mapM_ok_iff :
    items.mapM value = .ok values ↔ List.Forall₂ (fun a b => value a = .ok b) items values := by
  induction items generalizing values with
  | nil =>
    rw [List.mapM_nil, List.forall₂_nil_left_iff]
    exact ⟨fun same => (Except.ok.inj same).symm, fun none => by rw [none]; rfl⟩
  | cons a items ih =>
    rw [List.mapM_cons, List.forall₂_cons_left_iff]
    simp only [← ih]
    cases value a with
    | error e => exact ⟨fun same => (by cases same), fun ⟨_, _, same, _⟩ => (by cases same)⟩
    | ok b =>
      refine map_cons_ok_iff.trans ?_
      constructor
      · rintro ⟨bs, rest, rfl⟩
        exact ⟨b, bs, rfl, rest, rfl⟩
      · rintro ⟨_, bs, same, rest, rfl⟩
        cases same
        exact ⟨bs, rest, rfl⟩

/-- The first item without a value is what fails. -/
theorem mapM_error_iff :
    items.mapM value = .error f ↔
      ∃ before a after, items = before ++ a :: after ∧ (∀ x ∈ before, ∃ b, value x = .ok b) ∧
        value a = .error f := by
  induction items with
  | nil => simp [pure, Except.pure]
  | cons a items ih =>
    rw [List.mapM_cons]
    cases first : value a with
    | error e =>
      constructor
      · intro same
        cases same
        exact ⟨[], a, items, rfl, fun _ mem => absurd mem List.not_mem_nil, first⟩
      · rintro ⟨_ | ⟨x, before⟩, b, after, split, early, failed⟩
        · cases split
          rw [first] at failed
          cases failed
          rfl
        · cases split
          obtain ⟨b, good⟩ := early a List.mem_cons_self
          rw [first] at good
          cases good
    | ok b =>
      refine map_cons_error_iff.trans (ih.trans ?_)
      constructor
      · rintro ⟨before, c, after, rfl, early, failed⟩
        refine ⟨a :: before, c, after, rfl, fun x mem => ?_, failed⟩
        rcases List.mem_cons.mp mem with rfl | mem
        · exact ⟨b, first⟩
        · exact early x mem
      · rintro ⟨_ | ⟨x, before⟩, c, after, split, early, failed⟩
        · cases split
          rw [first] at failed
          cases failed
        · cases split
          exact ⟨before, c, after, rfl, fun x mem => early x (List.mem_cons_of_mem a mem), failed⟩

end Items

/-! ## 2. Records -/

namespace CloudReply.LoggedEvent

variable {record : LoggedEvent} {records : List LoggedEvent} {e : AuditEvent} {f : Failure}
  {events : List AuditEvent}

/-- Whether a record tells of an instance that was stopped or removed. -/
def isStop (record : LoggedEvent) : Bool :=
  record.name = "StopInstances" ∨ record.name = "TerminateInstances"

/-- **A record as an event**: its time is a moment, and nothing else changes. -/
structure Becomes (record : LoggedEvent) (e : AuditEvent) : Prop where
  moment : record.time.instant? = some e.eventTime
  id : e.eventId = record.id
  name : e.eventName = record.name
  username : e.username = record.username
  payload : e.payload = record.payload

theorem auditEvent_ok_iff : record.auditEvent = .ok e ↔ record.Becomes e := by
  unfold auditEvent
  cases moment : record.time.instant? with
  | none =>
    constructor
    · intro same
      cases same
    · intro becomes
      rw [becomes.moment] at moment
      cases moment
  | some t =>
    constructor
    · intro same
      cases same
      exact ⟨moment, rfl, rfl, rfl, rfl⟩
    · rintro ⟨at_t, id, name, username, payload⟩
      rw [moment] at at_t
      rw [Option.some.inj at_t, ← id, ← name, ← username, ← payload]

theorem auditEvent_error_iff :
    record.auditEvent = .error f ↔
      record.time.instant? = none ∧ f = .root (.invalidEventTime record.id) := by
  unfold auditEvent
  cases record.time.instant? with
  | none => simp [eq_comm]
  | some t => simp

theorem stops_eq : stops records = (records.filter isStop).mapM auditEvent := by
  have same : (fun record : LoggedEvent => stopNames.contains record.name) = isStop := by
    funext record
    simp [stopNames, isStop]
  rw [stops, same]

theorem stops_ok_iff :
    stops records = .ok events ↔ List.Forall₂ Becomes (records.filter isStop) events := by
  rw [stops_eq, mapM_ok_iff]
  simp only [auditEvent_ok_iff]

theorem stops_error_iff :
    stops records = .error f ↔
      ∃ before record after, records.filter isStop = before ++ record :: after ∧
        (∀ earlier ∈ before, ∃ e, earlier.Becomes e) ∧ record.time.instant? = none ∧
        f = .root (.invalidEventTime record.id) := by
  rw [stops_eq, mapM_error_iff]
  simp only [auditEvent_ok_iff, auditEvent_error_iff]

end CloudReply.LoggedEvent

namespace CloudCli

open CloudReply (LoggedEvent loggedEvents?)

variable {cli : CloudCli} {since : Instant} {most : Nat} {ending : ToolEnding} {f : Failure}
  {instanceIds : List String} {log : List (Exchange toolbox)} {events : List AuditEvent}
  {replies : List (List AuditEvent)}

/-! ## 3. One look-up -/

/-- The look-up of one instance. -/
def lookup (cli : CloudCli) (since : Instant) (most : Nat) (instanceId : String) : ToolStart :=
  cli.tool.start (cli.arguments "cloudtrail" "lookup-events"
    ["--lookup-attributes", "AttributeKey=ResourceName,AttributeValue=" ++ instanceId,
      "--start-time", since.offsetText, "--max-results", toString (min most largestPage)])

/-- **What the reply to a look-up comes to.** It fails if it cannot be read or if a record that
tells of a stop is of no moment. -/
inductive Found (cli : CloudCli) : ToolEnding → Except Failure (List AuditEvent) → Prop where
  | unanswered {ending : ToolEnding} {f : Failure}
      (failed : cli.tool.Answers loggedEvents? ending (.error f)) :
    Found cli ending (.error (f.context "aws cloudtrail lookup-events failed"))
  | timeless {ending : ToolEnding} {records before after : List LoggedEvent} {record : LoggedEvent}
      (read : cli.tool.Answers loggedEvents? ending (.ok records))
      (split : records.filter LoggedEvent.isStop = before ++ record :: after)
      (earlier : ∀ r ∈ before, ∃ e, r.Becomes e) (timeless : record.time.instant? = none) :
    Found cli ending (.error (.root (.invalidEventTime record.id)))
  | found {ending : ToolEnding} {records : List LoggedEvent} {events : List AuditEvent}
      (read : cli.tool.Answers loggedEvents? ending (.ok records))
      (each : List.Forall₂ LoggedEvent.Becomes (records.filter LoggedEvent.isStop) events) :
    Found cli ending (.ok events)

/-- The events of a reply. -/
def found (cli : CloudCli) (ending : ToolEnding) : Except Failure (List AuditEvent) :=
  ((cli.tool.answer loggedEvents? ending).mapError
    (Failure.context "aws cloudtrail lookup-events failed")).bind LoggedEvent.stops

theorem asks_call {α : Type} {service operation : String} {value : Json → Option α}
    {more : List String} :
    (cli.call service operation value more).Asks
      (cli.tool.start (cli.arguments service operation more)) fun ending =>
        (cli.tool.answer value ending).mapError
          (Failure.context ("aws " ++ service ++ " " ++ operation ++ " failed")) :=
  Tool.asks_read.describe _

theorem asks_stopEventsOf (instanceId : String) :
    (cli.stopEventsOf since most instanceId).Asks (cli.lookup since most instanceId) cli.found := by
  have text : "aws " ++ "cloudtrail" ++ " " ++ "lookup-events" ++ " failed" =
      "aws cloudtrail lookup-events failed" := by decide
  unfold found
  rw [← text]
  refine asks_call.bind fun records => ?_
  cases LoggedEvent.stops records <;> rfl

/-- **The reply comes to what `Found` says.** -/
theorem found_iff {r : Except Failure (List AuditEvent)} :
    cli.found ending = r ↔ cli.Found ending r := by
  constructor
  · rintro rfl
    unfold found
    cases answer : cli.tool.answer loggedEvents? ending with
    | error f => exact .unanswered (Tool.answer_eq_iff.mp answer.symm)
    | ok records =>
      have read := Tool.answer_eq_iff.mp answer.symm
      simp only [Except.mapError, Except.bind]
      cases stops : LoggedEvent.stops records with
      | error f =>
        obtain ⟨before, record, after, split, earlier, timeless, rfl⟩ :=
          LoggedEvent.stops_error_iff.mp stops
        exact .timeless read split earlier timeless
      | ok events => exact .found read (LoggedEvent.stops_ok_iff.mp stops)
  · intro came
    unfold found
    cases came with
    | unanswered failed =>
      rw [← Tool.answer_eq_iff.mpr failed]
      rfl
    | timeless read split earlier timeless =>
      rw [← Tool.answer_eq_iff.mpr read]
      exact LoggedEvent.stops_error_iff.mpr ⟨_, _, _, split, earlier, timeless, rfl⟩
    | found read each =>
      rw [← Tool.answer_eq_iff.mpr read]
      exact LoggedEvent.stops_ok_iff.mpr each

/-! ## 4. All look-ups -/

/-- These instances were looked up, once each and in this order, and each reply told of events. -/
structure Told (cli : CloudCli) (since : Instant) (most : Nat) (instanceIds : List String)
    (log : List (Exchange toolbox)) (replies : List (List AuditEvent)) : Prop where
  starts : log.map Exchange.start = instanceIds.map (cli.lookup since most)
  found : List.Forall₂ (fun e events => cli.Found e.ending (.ok events)) log replies

/-- **What the look-ups of all instances come to**: they end at the first reply that fails, or the
events of all replies are put together. -/
inductive LookedUp (cli : CloudCli) (since : Instant) (most : Nat) (instanceIds : List String) :
    List (Exchange toolbox) → Except Failure (List AuditEvent) → Prop where
  | failed {before after : List String} {instanceId : String} {earlier : List (Exchange toolbox)}
      {replies : List (List AuditEvent)} {ending : ToolEnding} {f : Failure}
      (split : instanceIds = before ++ instanceId :: after)
      (told : cli.Told since most before earlier replies) (failed : cli.Found ending (.error f)) :
    LookedUp cli since most instanceIds
      (earlier ++ [(cli.lookup since most instanceId).exchange ending]) (.error f)
  | merged {log : List (Exchange toolbox)} {replies : List (List AuditEvent)}
      {events : List AuditEvent} (told : cli.Told since most instanceIds log replies)
      (merged : AuditEvent.Merged replies.flatten events) :
    LookedUp cli since most instanceIds log (.ok events)

theorem told_iff :
    InTurn (cli.lookup since most) cli.found instanceIds log (.ok replies) ↔
      cli.Told since most instanceIds log replies := by
  rw [InTurn.ok_iff]
  simp only [found_iff]
  exact ⟨fun told => ⟨told.1, told.2⟩, fun told => ⟨told.starts, told.found⟩⟩

theorem mergeEvents_append (known events others : List AuditEvent) :
    mergeEvents known (events ++ others) = mergeEvents (mergeEvents known events) others := by
  induction events generalizing known with
  | nil => rfl
  | cons e events ih =>
    rw [List.cons_append, mergeEvents, mergeEvents, ih]

/-- Adding each reply to what is known adds all of them. -/
theorem gatherEvents_eq (known : List AuditEvent) (instanceIds : List String) :
    cli.gatherEvents since most known instanceIds =
      (fun replies => mergeEvents known replies.flatten) <$>
        instanceIds.mapM (cli.stopEventsOf since most) := by
  induction instanceIds generalizing known with
  | nil => simp [gatherEvents, mergeEvents]
  | cons instanceId instanceIds ih =>
    rw [gatherEvents, List.mapM_cons]
    simp only [map_eq_pure_bind, bind_assoc, pure_bind, ih, List.flatten_cons, mergeEvents_append]

theorem stopEvents_eq :
    cli.stopEvents instanceIds since most =
      (fun replies => byTime (mergeEvents [] replies.flatten)) <$>
        instanceIds.mapM (cli.stopEventsOf since most) := by
  rw [stopEvents, gatherEvents_eq]
  simp only [map_eq_pure_bind, bind_assoc, pure_bind]

theorem run_stopEvents_iff {r : Except Failure (List AuditEvent)} :
    Run (cli.stopEvents instanceIds since most).run log r ↔
      cli.LookedUp since most instanceIds log r := by
  rw [stopEvents_eq, ToolWork.run_map_iff]
  simp only [ToolWork.run_mapM_iff asks_stopEventsOf]
  constructor
  · rintro ⟨_ | replies, turn, rfl⟩
    · obtain ⟨before, instanceId, after, earlier, replies, ending, split, rfl, well, failed⟩ :=
        InTurn.error_iff.mp turn
      exact .failed split (told_iff.mp well) (found_iff.mp failed)
    · exact .merged (told_iff.mp turn) (AuditEvent.merged_iff.mpr rfl)
  · intro came
    cases came with
    | failed split told failed =>
      exact ⟨_, InTurn.error_iff.mpr
        ⟨_, _, _, _, _, _, split, rfl, told_iff.mpr told, found_iff.mpr failed⟩, rfl⟩
    | merged told merged =>
      rw [AuditEvent.merged_iff.mp merged]
      exact ⟨_, told_iff.mpr told, rfl⟩

theorem lookedUp_ok_iff :
    cli.LookedUp since most instanceIds log (.ok events) ↔
      ∃ replies, cli.Told since most instanceIds log replies ∧
        AuditEvent.Merged replies.flatten events := by
  constructor
  · intro came
    cases came with
    | merged told merged => exact ⟨_, told, merged⟩
  · rintro ⟨replies, told, merged⟩
    exact .merged told merged

/-! ## 5. The order of the look-ups -/

/-- The look-ups of some instances, each with its reply, yield these events. -/
def Yields (cli : CloudCli) (since : Instant) (most : Nat) (asked : List (String × ToolEnding))
    (events : List AuditEvent) : Prop :=
  Run (cli.stopEvents (asked.map Prod.fst) since most).run
    (asked.map fun a => (cli.lookup since most a.1).exchange a.2) (.ok events)

/-- The events of these look-ups are judged so. -/
def Judged (cli : CloudCli) (since : Instant) (most : Nat) (asked : List (String × ToolEnding))
    (allow : Permissions) (ccs : Bool) (verdict : Except Failure Judgement) : Prop :=
  ∃ events, cli.Yields since most asked events ∧ Judgement.ofEvents allow ccs events = verdict

/-- The same reply, or the same records in another order. -/
def SameRecords (cli : CloudCli) (ending other : ToolEnding) : Prop :=
  ending = other ∨ ∃ records others, cli.tool.Answers loggedEvents? ending (.ok records) ∧
    cli.tool.Answers loggedEvents? other (.ok others) ∧ records.Perm others

/-- **The same look-ups in another order**, and the same records in each reply. -/
def Shuffled (cli : CloudCli) (asked others : List (String × ToolEnding)) : Prop :=
  ∃ moved, asked.Perm moved ∧
    List.Forall₂ (fun a b => a.1 = b.1 ∧ cli.SameRecords a.2 b.2) moved others

/-- A reply tells of an event. -/
def Tells (cli : CloudCli) (asked : List (String × ToolEnding)) (e : AuditEvent) : Prop :=
  ∃ a ∈ asked, ∃ events, cli.Found a.2 (.ok events) ∧ e ∈ events

/-- Told events of one id or of one time are equal. -/
def Steady (cli : CloudCli) (asked : List (String × ToolEnding)) : Prop :=
  ∀ e e', cli.Tells asked e → cli.Tells asked e' →
    e.eventId = e'.eventId ∨ e.eventTime = e'.eventTime → e = e'

variable {asked others : List (String × ToolEnding)}

theorem yields_iff :
    cli.Yields since most asked events ↔
      ∃ replies, List.Forall₂ (fun (a : String × ToolEnding) found => cli.Found a.2 (.ok found))
        asked replies ∧ AuditEvent.Merged replies.flatten events := by
  rw [Yields, run_stopEvents_iff, lookedUp_ok_iff]
  constructor
  · rintro ⟨replies, told, merged⟩
    exact ⟨replies, List.forall₂_map_left_iff.mp told.found, merged⟩
  · rintro ⟨replies, found, merged⟩
    refine ⟨replies, ⟨?_, List.forall₂_map_left_iff.mpr found⟩, merged⟩
    rw [List.map_map, List.map_map]
    rfl

theorem exists_of_mem {α β : Type} {R : α → β → Prop} {items : List α} {values : List β} {a : α}
    (each : List.Forall₂ R items values) (mem : a ∈ items) : ∃ b ∈ values, R a b := by
  induction each with
  | nil => cases mem
  | cons first _ ih =>
    rcases List.mem_cons.mp mem with rfl | mem
    · exact ⟨_, List.mem_cons_self, first⟩
    · obtain ⟨b, held, related⟩ := ih mem
      exact ⟨b, List.mem_cons_of_mem _ held, related⟩

/-! The same records tell of the same events. -/

theorem SameRecords.symm {other : ToolEnding} (same : cli.SameRecords ending other) :
    cli.SameRecords other ending := by
  rcases same with rfl | ⟨records, others, read, again, perm⟩
  · exact .inl rfl
  · exact .inr ⟨others, records, again, read, perm.symm⟩

theorem SameRecords.found {other : ToolEnding} (same : cli.SameRecords ending other)
    (found : cli.Found ending (.ok events)) :
    ∃ moved, cli.Found other (.ok moved) ∧ events.Perm moved := by
  rcases same with rfl | ⟨records, others, read, again, perm⟩
  · exact ⟨events, found, List.Perm.refl events⟩
  · cases found with
    | found known each =>
      have equal := Except.ok.inj
        ((Tool.answer_eq_iff.mpr known).trans (Tool.answer_eq_iff.mpr read).symm)
      rw [equal] at each
      obtain ⟨moved, become, shuffled⟩ :=
        List.perm_comp_forall₂ (perm.symm.filter LoggedEvent.isStop) each
      exact ⟨moved, .found again become, shuffled.symm⟩

theorem Shuffled.symm (shuffled : cli.Shuffled asked others) : cli.Shuffled others asked := by
  obtain ⟨moved, perm, same⟩ := shuffled
  obtain ⟨back, again, perm'⟩ := List.perm_comp_forall₂ perm same
  refine ⟨back, perm'.symm, List.Forall₂.flip (again.imp fun a b related => ?_)⟩
  exact ⟨related.1.symm, related.2.symm⟩

theorem Tells.shuffled {e : AuditEvent} (tells : cli.Tells asked e)
    (shuffled : cli.Shuffled asked others) : cli.Tells others e := by
  obtain ⟨moved, perm, same⟩ := shuffled
  obtain ⟨a, mem, events, found, held⟩ := tells
  obtain ⟨b, there, _, records⟩ := exists_of_mem same (perm.mem_iff.mp mem)
  obtain ⟨events', found', perm'⟩ := records.found found
  exact ⟨b, there, events', found', perm'.mem_iff.mp held⟩

/-- **The same look-ups tell of the same events**, in some order. -/
theorem Shuffled.told (shuffled : cli.Shuffled asked others)
    (told : List.Forall₂ (fun (a : String × ToolEnding) found => cli.Found a.2 (.ok found))
      asked replies) :
    ∃ again, List.Forall₂ (fun (a : String × ToolEnding) found => cli.Found a.2 (.ok found))
      others again ∧ replies.flatten.Perm again.flatten := by
  obtain ⟨moved, perm, same⟩ := shuffled
  obtain ⟨early, told', perm'⟩ := List.perm_comp_forall₂ perm.symm told
  have inReplies : ∃ again,
      List.Forall₂ (fun (a : String × ToolEnding) found => cli.Found a.2 (.ok found))
        others again ∧ early.flatten.Perm again.flatten := by
    clear perm perm' told
    induction same generalizing early with
    | nil =>
      cases told'
      exact ⟨[], .nil, .nil⟩
    | cons first _ ih =>
      cases told' with
      | cons found rest =>
        obtain ⟨again, others, perm⟩ := ih _ rest
        obtain ⟨events, found', moved⟩ := first.2.found found
        exact ⟨events :: again, .cons found' others, moved.append perm⟩
  obtain ⟨again, found, moved⟩ := inReplies
  exact ⟨again, found, perm'.symm.flatten.trans moved⟩

theorem Steady.coherent (steady : cli.Steady asked)
    (told : List.Forall₂ (fun (a : String × ToolEnding) found => cli.Found a.2 (.ok found))
      asked replies) : AuditEvent.Coherent replies.flatten := by
  have tells : ∀ e ∈ replies.flatten, cli.Tells asked e := by
    intro e mem
    obtain ⟨events, isReply, held⟩ := List.mem_flatten.mp mem
    obtain ⟨a, there, found⟩ := exists_of_mem told.flip isReply
    exact ⟨a, there, events, found, held⟩
  exact fun a ha b hb => steady a b (tells a ha) (tells b hb)

theorem Shuffled.steady (shuffled : cli.Shuffled asked others) (steady : cli.Steady asked) :
    cli.Steady others :=
  fun e e' tells tells' =>
    steady e e' (tells.shuffled shuffled.symm) (tells'.shuffled shuffled.symm)

theorem Yields.shuffled (yields : cli.Yields since most asked events)
    (shuffled : cli.Shuffled asked others) (steady : cli.Steady asked) :
    cli.Yields since most others events := by
  obtain ⟨replies, told, merged⟩ := yields_iff.mp yields
  obtain ⟨again, told', perm⟩ := shuffled.told told
  exact yields_iff.mpr ⟨again, told', merged.of_perm (steady.coherent told) perm⟩

def sample : CloudCli := ⟨⟨"aws", .ofSeconds 30⟩, "us-east-1", none⟩

/-- What the tool ends with when it wrote this text. -/
def wrote (text : String) : ToolEnding :=
  .finished (some 0) (text.toList.map fun c => UInt8.ofNat c.toNat) []

/-- The moment so many seconds after the start of 1970. -/
def second (n : Nat) : Instant := (Instant.of? n 0).getD .epoch

def stopRecord : LoggedEvent := ⟨"e1", "StopInstances", .seconds (.whole 20), none, ""⟩

def removalRecord : LoggedEvent := ⟨"e3", "TerminateInstances", .seconds (.whole 10), none, ""⟩

def stopEvent : AuditEvent := ⟨"e1", "StopInstances", second 20, none, ""⟩

def removalEvent : AuditEvent := ⟨"e3", "TerminateInstances", second 10, none, ""⟩

def stopAndRemoval : ToolEnding :=
  wrote ("\x7b\"Events\":[[\"e1\",\"StopInstances\",20,null]," ++
    "[\"e3\",\"TerminateInstances\",10,null]]\x7d")

def removalAndStop : ToolEnding :=
  wrote ("\x7b\"Events\":[[\"e3\",\"TerminateInstances\",10,null]," ++
    "[\"e1\",\"StopInstances\",20,null]]\x7d")

def onlyStop : ToolEnding := wrote "\x7b\"Events\":[[\"e1\",\"StopInstances\",20,null]]\x7d"

end CloudCli

end OnCall
