import OnCall.Proofs.Denials

/-!
# What a list of events comes to

The events of an audit trail are judged in order. The search ends at the first event that cannot be
read or whose actor was not allowed to; if there is none, the last event counts.

* `Permissions.clears`: the actor of an event is known and was allowed to.
* `Judgement.FirstAt`: the place of the first event that is not cleared; `Judgement.DeniedAt` and
  `Judgement.UnreadAt` are the two ways to end there.
* `Judgement.ofEvents_denied_iff`, `Judgement.ofEvents_allowed_iff`, `Judgement.ofEvents_error_iff`:
  when each of the three results comes out.
* `Judgement.ofEvents_exact`: **what a list of events comes to**.
-/

namespace OnCall

/-! ## 1. Cleared events -/

/-- Whether the actor of an event is known and was allowed to stop machines. -/
def Permissions.clears (allow : Permissions) (ccs : Bool) (e : AuditEvent) : Bool :=
  match Actor.ofEvent e with
  | .ok actor => allow.permits actor.username actor.issuerUsername ccs
  | .error _ => false

namespace Permissions

variable {allow : Permissions} {ccs : Bool} {e : AuditEvent} {actor : Actor} {f : Failure}

theorem clears_of_read (read : Actor.ofEvent e = .ok actor) :
    allow.clears ccs e = allow.permits actor.username actor.issuerUsername ccs := by
  rw [clears, read]

theorem clears_of_unread (unread : Actor.ofEvent e = .error f) : allow.clears ccs e = false := by
  rw [clears, unread]

theorem clears_iff :
    allow.clears ccs e = true ↔ ∃ actor, Actor.ofEvent e = .ok actor ∧
      allow.permits actor.username actor.issuerUsername ccs = true := by
  constructor
  · intro clear
    cases read : Actor.ofEvent e with
    | error f =>
      rw [clears_of_unread read] at clear
      cases clear
    | ok actor => exact ⟨actor, rfl, by rwa [clears_of_read read] at clear⟩
  · intro ⟨actor, read, permitted⟩
    rw [clears_of_read read, permitted]

end Permissions

namespace Judgement

/-- The failure of a search that has no events to look at. -/
def noEvents : Failure :=
  Failure.asFinding "events may be too old or the audit trail has not caught up yet"
    (.root .noStopEvents)

/-- **The first event that is not cleared** stands at place `k`. -/
structure FirstAt (allow : Permissions) (ccs : Bool) (events : List AuditEvent) (k : Nat)
    (e : AuditEvent) : Prop where
  there : events[k]? = some e
  stops : allow.clears ccs e = false
  cleared : ∀ earlier ∈ events.take k, allow.clears ccs earlier = true

/-- The search ends at place `k`, with an actor who was not allowed to. -/
def DeniedAt (allow : Permissions) (ccs : Bool) (events : List AuditEvent) (k : Nat)
    (actor : Actor) : Prop :=
  (∃ e, events[k]? = some e ∧ Actor.ofEvent e = .ok actor) ∧
    allow.permits actor.username actor.issuerUsername ccs = false ∧
    ∀ earlier ∈ events.take k, allow.clears ccs earlier = true

/-- The search ends at place `k`, with an event that cannot be read. -/
def UnreadAt (allow : Permissions) (ccs : Bool) (events : List AuditEvent) (k : Nat)
    (f : Failure) : Prop :=
  (∃ e, events[k]? = some e ∧ Actor.ofEvent e = .error f) ∧
    ∀ earlier ∈ events.take k, allow.clears ccs earlier = true

section Search

variable {allow : Permissions} {ccs : Bool} {events : List AuditEvent} {k : Nat}
  {e first : AuditEvent} {actor : Actor} {f : Failure}

/-! ## 2. Where the search ends -/

theorem firstAt_zero_iff :
    FirstAt allow ccs (first :: events) 0 e ↔ e = first ∧ allow.clears ccs e = false := by
  constructor
  · intro ⟨there, stops, _⟩
    exact ⟨(Option.some.inj there).symm, stops⟩
  · rintro ⟨rfl, stops⟩
    exact ⟨rfl, stops, fun _ mem => absurd mem List.not_mem_nil⟩

theorem firstAt_succ_iff :
    FirstAt allow ccs (first :: events) (k + 1) e ↔
      allow.clears ccs first = true ∧ FirstAt allow ccs events k e := by
  constructor
  · intro ⟨there, stops, cleared⟩
    obtain ⟨clear, others⟩ := List.forall_mem_cons.mp cleared
    exact ⟨clear, there, stops, others⟩
  · intro ⟨clear, there, stops, others⟩
    exact ⟨there, stops, List.forall_mem_cons.mpr ⟨clear, others⟩⟩

/-- If an event is not cleared, then the first such event stands at its place or before it. -/
theorem exists_firstAt_le (there : events[k]? = some e) (stops : allow.clears ccs e = false) :
    ∃ j e', j ≤ k ∧ FirstAt allow ccs events j e' := by
  induction events generalizing k with
  | nil => cases there
  | cons first events ih =>
    by_cases clear : allow.clears ccs first = true
    · cases k with
      | zero =>
        rw [Option.some.inj there, stops] at clear
        cases clear
      | succ k =>
        obtain ⟨j, e', near, found⟩ := ih there
        exact ⟨j + 1, e', Nat.succ_le_succ near, firstAt_succ_iff.mpr ⟨clear, found⟩⟩
    · have stops' : allow.clears ccs first = false := Bool.eq_false_iff.mpr clear
      exact ⟨0, first, Nat.zero_le k, firstAt_zero_iff.mpr ⟨rfl, stops'⟩⟩

variable (allow ccs events) in
/-- The search ends somewhere, or all events are cleared. -/
theorem firstAt_or_cleared :
    (∃ k e, FirstAt allow ccs events k e) ∨ ∀ e ∈ events, allow.clears ccs e = true := by
  by_cases stuck : ∃ e ∈ events, allow.clears ccs e = false
  · obtain ⟨e, mem, stops⟩ := stuck
    obtain ⟨k, there⟩ := List.getElem?_of_mem mem
    obtain ⟨j, e', _, found⟩ := exists_firstAt_le there stops
    exact .inl ⟨j, e', found⟩
  · exact .inr fun e mem => (Bool.not_eq_false _).mp fun stops => stuck ⟨e, mem, stops⟩

theorem deniedAt_iff :
    DeniedAt allow ccs events k actor ↔
      ∃ e, FirstAt allow ccs events k e ∧ Actor.ofEvent e = .ok actor := by
  constructor
  · intro ⟨⟨e, there, read⟩, denied, cleared⟩
    exact ⟨e, ⟨there, by rw [Permissions.clears_of_read read, denied], cleared⟩, read⟩
  · intro ⟨e, ⟨there, stops, cleared⟩, read⟩
    rw [Permissions.clears_of_read read] at stops
    exact ⟨⟨e, there, read⟩, stops, cleared⟩

theorem unreadAt_iff :
    UnreadAt allow ccs events k f ↔
      ∃ e, FirstAt allow ccs events k e ∧ Actor.ofEvent e = .error f := by
  constructor
  · intro ⟨⟨e, there, unread⟩, cleared⟩
    exact ⟨e, ⟨there, Permissions.clears_of_unread unread, cleared⟩, unread⟩
  · intro ⟨e, found, unread⟩
    exact ⟨⟨e, found.there, unread⟩, found.cleared⟩

/-! ## 3. What comes of it -/

/-- What an event comes to that ends the search. -/
def verdict (authorized : Bool) (e : AuditEvent) : Except Failure Judgement :=
  (Actor.ofEvent e).map (⟨·, authorized⟩)

theorem verdict_eq_ok_iff {authorized : Bool} {judgement : Judgement} :
    verdict authorized e = .ok judgement ↔
      Actor.ofEvent e = .ok judgement.actor ∧ judgement.authorized = authorized := by
  rw [verdict]
  cases Actor.ofEvent e with
  | error f => exact ⟨nofun, nofun⟩
  | ok actor =>
    constructor
    · intro same
      cases same
      exact ⟨rfl, rfl⟩
    · rintro ⟨read, rfl⟩
      cases read
      rfl

theorem verdict_eq_error_iff {authorized : Bool} :
    verdict authorized e = .error f ↔ Actor.ofEvent e = .error f := by
  rw [verdict]
  cases Actor.ofEvent e with
  | error g => exact ⟨fun same => by cases same; rfl, fun same => by cases same; rfl⟩
  | ok actor => exact ⟨nofun, nofun⟩

/-- An event that is not cleared ends the search, whatever stands before and behind it. -/
theorem continued_of_stops (stops : allow.clears ccs e = false) (prior : Option Judgement) :
    continued allow ccs prior (e :: events) = verdict false e := by
  rw [continued, verdict]
  cases read : Actor.ofEvent e with
  | error f => rfl
  | ok actor =>
    rw [Permissions.clears_of_read read] at stops
    simp only [stops, Bool.false_eq_true, if_false]
    rfl

/-- A cleared event is the judgement so far. -/
theorem continued_of_clears (clear : allow.clears ccs e = true) (prior : Option Judgement) :
    ∃ actor, Actor.ofEvent e = .ok actor ∧
      continued allow ccs prior (e :: events) = continued allow ccs (some ⟨actor, true⟩) events := by
  obtain ⟨actor, read, permitted⟩ := Permissions.clears_iff.mp clear
  refine ⟨actor, read, ?_⟩
  rw [continued, read]
  simp only [permitted, if_true]

theorem continued_of_firstAt (found : FirstAt allow ccs events k e) (prior : Option Judgement) :
    continued allow ccs prior events = verdict false e := by
  induction events generalizing k prior with
  | nil => cases found.there
  | cons first events ih =>
    cases k with
    | zero =>
      obtain ⟨rfl, stops⟩ := firstAt_zero_iff.mp found
      exact continued_of_stops stops prior
    | succ k =>
      obtain ⟨clear, found⟩ := firstAt_succ_iff.mp found
      obtain ⟨actor, _, goes⟩ := continued_of_clears clear prior
      rw [goes]
      exact ih found _

theorem continued_of_cleared (cleared : ∀ e ∈ events, allow.clears ccs e = true)
    (last : events.getLast? = some e) (prior : Option Judgement) :
    continued allow ccs prior events = verdict true e := by
  induction events generalizing prior with
  | nil => cases last
  | cons first events ih =>
    obtain ⟨clear, others⟩ := List.forall_mem_cons.mp cleared
    obtain ⟨actor, read, goes⟩ := continued_of_clears clear prior
    rw [goes]
    cases events with
    | nil =>
      have same : first = e := Option.some.inj last
      rw [← same, verdict, read]
      rfl
    | cons second events =>
      rw [List.getLast?_cons_cons] at last
      exact ih others last _

/-- The judgement of a list in which an event is not cleared. -/
theorem ofEvents_of_firstAt (found : FirstAt allow ccs events k e) :
    ofEvents allow ccs events = verdict false e :=
  continued_of_firstAt found none

/-- The judgement of a list in which all events are cleared. -/
theorem ofEvents_of_cleared (cleared : ∀ e ∈ events, allow.clears ccs e = true) :
    events = [] ∧ ofEvents allow ccs events = .error noEvents ∨
      ∃ e, events.getLast? = some e ∧ ofEvents allow ccs events = verdict true e := by
  cases last : events.getLast? with
  | none =>
    have empty := List.getLast?_eq_none_iff.mp last
    rw [empty]
    exact .inl ⟨rfl, rfl⟩
  | some e => exact .inr ⟨e, rfl, continued_of_cleared cleared last none⟩

/-- The verdict against an actor. -/
theorem ofEvents_denied_iff :
    ofEvents allow ccs events = .ok ⟨actor, false⟩ ↔ ∃ k, DeniedAt allow ccs events k actor := by
  constructor
  · intro judged
    rcases firstAt_or_cleared allow ccs events with ⟨k, e, found⟩ | cleared
    · rw [ofEvents_of_firstAt found, verdict_eq_ok_iff] at judged
      exact ⟨k, deniedAt_iff.mpr ⟨e, found, judged.1⟩⟩
    · rcases ofEvents_of_cleared cleared with ⟨_, failed⟩ | ⟨e, _, passed⟩
      · rw [failed] at judged
        cases judged
      · rw [passed, verdict_eq_ok_iff] at judged
        cases judged.2
  · intro ⟨k, denied⟩
    obtain ⟨e, found, read⟩ := deniedAt_iff.mp denied
    rw [ofEvents_of_firstAt found, verdict_eq_ok_iff]
    exact ⟨read, rfl⟩

/-- The verdict for an actor. -/
theorem ofEvents_allowed_iff :
    ofEvents allow ccs events = .ok ⟨actor, true⟩ ↔
      (∀ e ∈ events, allow.clears ccs e = true) ∧
        ∃ e, events.getLast? = some e ∧ Actor.ofEvent e = .ok actor := by
  constructor
  · intro judged
    rcases firstAt_or_cleared allow ccs events with ⟨k, e, found⟩ | cleared
    · rw [ofEvents_of_firstAt found, verdict_eq_ok_iff] at judged
      cases judged.2
    · rcases ofEvents_of_cleared cleared with ⟨_, failed⟩ | ⟨e, last, passed⟩
      · rw [failed] at judged
        cases judged
      · rw [passed, verdict_eq_ok_iff] at judged
        exact ⟨cleared, e, last, judged.1⟩
  · intro ⟨cleared, e, last, read⟩
    rw [ofEvents, continued_of_cleared cleared last, verdict_eq_ok_iff]
    exact ⟨read, rfl⟩

/-- No verdict. -/
theorem ofEvents_error_iff :
    ofEvents allow ccs events = .error f ↔
      (events = [] ∧ f = noEvents) ∨ ∃ k, UnreadAt allow ccs events k f := by
  constructor
  · intro judged
    rcases firstAt_or_cleared allow ccs events with ⟨k, e, found⟩ | cleared
    · rw [ofEvents_of_firstAt found, verdict_eq_error_iff] at judged
      exact .inr ⟨k, unreadAt_iff.mpr ⟨e, found, judged⟩⟩
    · rcases ofEvents_of_cleared cleared with ⟨empty, failed⟩ | ⟨e, last, passed⟩
      · rw [failed] at judged
        cases judged
        exact .inl ⟨empty, rfl⟩
      · rw [passed, verdict_eq_error_iff] at judged
        have clear := cleared e (List.mem_of_getLast? last)
        rw [Permissions.clears_of_unread judged] at clear
        cases clear
  · rintro (⟨rfl, rfl⟩ | ⟨k, unread⟩)
    · rfl
    · obtain ⟨e, found, unread⟩ := unreadAt_iff.mp unread
      rw [ofEvents_of_firstAt found, verdict_eq_error_iff]
      exact unread

/-- What cannot be read is another failure than that there are no events. -/
theorem ne_noEvents_of_unread (unread : Actor.ofEvent e = .error f) : f ≠ noEvents := by
  have cause : f.cause ≠ .noStopEvents := by
    unfold Actor.ofEvent at unread
    split at unread
    · cases unread
      exact nofun
    · split at unread
      · rename_i unknown
        cases unread
        unfold Actor.checkVersion at unknown
        split at unknown
        · cases unknown
          exact nofun
        · split at unknown <;> cases unknown
          exact nofun
      · cases unread
  rintro rfl
  exact cause rfl

end Search

/-- **What a list of events comes to.** It speaks against an actor exactly if an event of this actor
is not permitted and all events before it are cleared; whatever stands behind it does not matter. It
speaks for the actor of the last event exactly if there is one and all are cleared. Else it is a
finding: that the first event that is not cleared cannot be read, or that there are no events. -/
theorem ofEvents_exact (allow : Permissions) (ccs : Bool) (events : List AuditEvent) :
    (∀ actor, ofEvents allow ccs events = .ok ⟨actor, false⟩ ↔
      ∃ k, DeniedAt allow ccs events k actor) ∧
    (∀ actor, ofEvents allow ccs events = .ok ⟨actor, true⟩ ↔
      (∀ e ∈ events, allow.clears ccs e = true) ∧
        ∃ e, events.getLast? = some e ∧ Actor.ofEvent e = .ok actor) ∧
    (∀ f, ofEvents allow ccs events = .error f ↔
      (events = [] ∧ f = noEvents) ∨ ∃ k, UnreadAt allow ccs events k f) ∧
    (∀ f, ofEvents allow ccs events = .error f → f.kind = .finding) ∧
    (ofEvents allow ccs events = .error noEvents ↔ events = []) := by
  refine ⟨fun actor => ofEvents_denied_iff, fun actor => ofEvents_allowed_iff,
    fun f => ofEvents_error_iff, fun f failed => ?_, ?_⟩
  · have conclusive : f.isConclusive = true := conclusive_of_continued failed
    exact of_decide_eq_true conclusive
  · constructor
    · intro failed
      rcases ofEvents_error_iff.mp failed with ⟨empty, _⟩ | ⟨k, ⟨e, _, unread⟩, _⟩
      · exact empty
      · exact absurd rfl (ne_noEvents_of_unread unread)
    · rintro rfl
      rfl

end Judgement

end OnCall
