import OnCall.Proofs.Judgements

/-!
# More patterns permit more

The patterns of the permissions are only ever looked for. So whoever has more of them permits at
least as much, and the search through a list of events gets at least as far.

* `Permissions.Within`: the patterns of one are among those of the other.
* `Permissions.permits_mono`, `Permissions.clears_mono`: **a permission stays**.
* `Judgement.DeniedAt.exists_le`: **where the search ends with an actor, it ended before**, no later.
* `Judgement.widening_never_revokes`: what more patterns do to every judgement.
-/

namespace OnCall

/-! ## 1. Permissions -/

namespace Permissions

/-- The patterns of `allow` are among those of `wider`, list by list. -/
structure Within (allow wider : Permissions) : Prop where
  users : allow.users ⊆ wider.users
  roles : allow.roles ⊆ wider.roles
  nonCcsRoles : allow.nonCcsRoles ⊆ wider.nonCcsRoles

variable {allow wider : Permissions} {ccs ccs' : Bool} {username issuerUsername : String}
  {e : AuditEvent}

/-- Every pattern that counts counts in the wider permissions. -/
theorem Within.patterns (h : allow.Within wider) : allow.patterns ccs ⊆ wider.patterns ccs := by
  have conditional : (if ccs then [] else allow.nonCcsRoles) ⊆
      (if ccs then [] else wider.nonCcsRoles) := by
    cases ccs with
    | true => exact List.Subset.refl []
    | false => exact h.nonCcsRoles
  intro p mem
  simp only [Permissions.patterns, List.mem_append] at mem ⊢
  exact mem.imp (Or.imp (h.users ·) (h.roles ·)) (conditional ·)

/-- Where the account is not the customer's, more patterns count. -/
theorem patterns_ccs_subset : allow.patterns true ⊆ allow.patterns false := by
  intro p mem
  simp only [patterns, if_true, List.append_nil] at mem
  exact List.mem_append_left _ mem

theorem permits_mono (more : allow.patterns ccs ⊆ wider.patterns ccs')
    (permitted : allow.permits username issuerUsername ccs = true) :
    wider.permits username issuerUsername ccs' = true := by
  obtain ⟨p, mem, occurs⟩ := List.any_eq_true.mp permitted
  exact List.any_eq_true.mpr ⟨p, more mem, occurs⟩

/-- The same patterns permit the same, in any order and number. -/
theorem permits_congr (h : allow.Within wider) (h' : wider.Within allow) :
    allow.permits username issuerUsername ccs = wider.permits username issuerUsername ccs :=
  Bool.eq_iff_iff.mpr ⟨permits_mono h.patterns, permits_mono h'.patterns⟩

theorem clears_mono (h : allow.Within wider) (clear : allow.clears ccs e = true) :
    wider.clears ccs e = true := by
  obtain ⟨actor, read, permitted⟩ := clears_iff.mp clear
  exact clears_iff.mpr ⟨actor, read, permits_mono h.patterns permitted⟩

end Permissions

/-! ## 2. Judgements -/

namespace Judgement

variable {allow wider : Permissions} {ccs : Bool} {events : List AuditEvent} {k : Nat}
  {actor : Actor} {f : Failure}

/-- A verdict for an actor stays. -/
theorem allowed_mono (h : allow.Within wider)
    (judged : ofEvents allow ccs events = .ok ⟨actor, true⟩) :
    ofEvents wider ccs events = .ok ⟨actor, true⟩ := by
  obtain ⟨cleared, last⟩ := ofEvents_allowed_iff.mp judged
  exact ofEvents_allowed_iff.mpr ⟨fun e mem => Permissions.clears_mono h (cleared e mem), last⟩

/-- An event that could not be read still ends the search: those before it are still cleared. -/
theorem UnreadAt.mono (h : allow.Within wider) (unread : UnreadAt allow ccs events k f) :
    UnreadAt wider ccs events k f :=
  ⟨unread.1, fun e mem => Permissions.clears_mono h (unread.2 e mem)⟩

theorem error_mono (h : allow.Within wider) (judged : ofEvents allow ccs events = .error f) :
    ofEvents wider ccs events = .error f := by
  rcases ofEvents_error_iff.mp judged with empty | ⟨k, unread⟩
  · exact ofEvents_error_iff.mpr (.inl empty)
  · exact ofEvents_error_iff.mpr (.inr ⟨k, unread.mono h⟩)

/-- Where the search ends with an actor who was not allowed to, it ended so before, no later: all
that stands up to there can be read. -/
theorem DeniedAt.exists_le (h : allow.Within wider) (denied : DeniedAt wider ccs events k actor) :
    ∃ j actor', j ≤ k ∧ DeniedAt allow ccs events j actor' := by
  obtain ⟨e, ⟨there, stops, cleared⟩, read⟩ := deniedAt_iff.mp denied
  have stops' : allow.clears ccs e = false :=
    Bool.eq_false_iff.mpr fun clear => by
      rw [Permissions.clears_mono h clear] at stops
      cases stops
  obtain ⟨j, e', near, found⟩ := exists_firstAt_le there stops'
  have readable : ∃ actor', Actor.ofEvent e' = .ok actor' := by
    rcases Nat.lt_or_eq_of_le near with before | rfl
    · have mem : e' ∈ events.take k := by
        refine List.mem_of_getElem? (i := j) ?_
        rw [List.getElem?_take_of_lt before, found.there]
      obtain ⟨actor', read', _⟩ := Permissions.clears_iff.mp (cleared e' mem)
      exact ⟨actor', read'⟩
    · have same : e' = e := Option.some.inj (found.there.symm.trans there)
      exact ⟨actor, same ▸ read⟩
  obtain ⟨actor', read'⟩ := readable
  exact ⟨j, actor', near, deniedAt_iff.mpr ⟨e', found, read'⟩⟩

/-- The same patterns come to the same judgement, in any order and number. -/
theorem ofEvents_congr (h : allow.Within wider) (h' : wider.Within allow) :
    ofEvents allow ccs events = ofEvents wider ccs events := by
  match judged : ofEvents allow ccs events with
  | .error f => exact (error_mono h judged).symm
  | .ok ⟨actor, true⟩ => exact (allowed_mono h judged).symm
  | .ok ⟨actor, false⟩ =>
    obtain ⟨k, event, denied, cleared⟩ := ofEvents_denied_iff.mp judged
    refine (ofEvents_denied_iff.mpr ⟨k, event, ?_, fun e mem => ?_⟩).symm
    · rw [← Permissions.permits_congr h h', denied]
    · exact Permissions.clears_mono h (cleared e mem)

/-- **More patterns never take a permission away.** Whoever is permitted stays so, and whoever is
permitted on the customer's account is on any other. A verdict for an actor and a failure stay as
they are. Where there is a verdict against an actor at some event, there was one before, at this
event or an earlier one. Only which patterns there are counts, not their order or number. -/
theorem widening_never_revokes (h : allow.Within wider) :
    (∀ username issuerUsername ccs, allow.permits username issuerUsername ccs = true →
      wider.permits username issuerUsername ccs = true) ∧
    (∀ username issuerUsername, allow.permits username issuerUsername true = true →
      allow.permits username issuerUsername false = true) ∧
    (∀ ccs events,
      (∀ actor, ofEvents allow ccs events = .ok ⟨actor, true⟩ →
        ofEvents wider ccs events = .ok ⟨actor, true⟩) ∧
      (∀ f, ofEvents allow ccs events = .error f → ofEvents wider ccs events = .error f) ∧
      (∀ actor, ofEvents wider ccs events = .ok ⟨actor, false⟩ →
        ∃ k, DeniedAt wider ccs events k actor) ∧
      ∀ k actor, DeniedAt wider ccs events k actor →
        ∃ j actor', j ≤ k ∧ DeniedAt allow ccs events j actor' ∧
          ofEvents allow ccs events = .ok ⟨actor', false⟩) ∧
    (wider.Within allow → ∀ ccs,
      (∀ username issuerUsername, allow.permits username issuerUsername ccs =
        wider.permits username issuerUsername ccs) ∧
      ∀ events, ofEvents allow ccs events = ofEvents wider ccs events) := by
  refine ⟨fun _ _ _ => Permissions.permits_mono h.patterns,
    fun _ _ => Permissions.permits_mono Permissions.patterns_ccs_subset, fun ccs events => ?_,
    fun h' ccs => ⟨fun _ _ => Permissions.permits_congr h h', fun events => ofEvents_congr h h'⟩⟩
  refine ⟨fun actor => allowed_mono h, fun f => error_mono h, fun actor => ofEvents_denied_iff.mp,
    fun k actor denied => ?_⟩
  obtain ⟨j, actor', near, denied'⟩ := denied.exists_le h
  exact ⟨j, actor', near, denied', ofEvents_denied_iff.mpr ⟨j, denied'⟩⟩

/-- The standard permissions, with one more pattern, some in another order and one twice. -/
def extended : Permissions where
  users := "custom-" :: Permissions.standard.users
  roles := Permissions.standard.roles.reverse ++ ["-Support-Role"]
  nonCcsRoles := Permissions.standard.nonCcsRoles

/-- An event that names its user outside of the payload. -/
def sampleEvent (username version : String) : AuditEvent :=
  ⟨"e-" ++ username, "StopInstances", .epoch, some username,
    "\x7b\"eventVersion\":\"" ++ version ++ "\"\x7d"⟩

/-- With the pattern the search gets past the operator, and to the next who is not permitted; the
last event cannot be read. -/
theorem widening_never_revokes_operator :
    let events := [sampleEvent "custom-operator" "1.08", sampleEvent "mallory" "1.9",
      sampleEvent "eve" "2.0"]
    Permissions.standard.Within extended ∧
      ofEvents extended true events = .ok ⟨⟨"mallory", "", ""⟩, false⟩ ∧
      ∃ k, DeniedAt extended true events k ⟨"mallory", "", ""⟩ ∧
        ∃ j actor', j ≤ k ∧ DeniedAt .standard true events j actor' ∧
          ofEvents .standard true events = .ok ⟨actor', false⟩ := by
  intro events
  have within : Permissions.standard.Within extended := by
    refine ⟨List.subset_cons_self .., fun p mem => ?_, List.Subset.refl _⟩
    exact List.mem_append_left _ (List.mem_reverse.mpr mem)
  have shown : (ofEvents extended true events).toOption = some ⟨⟨"mallory", "", ""⟩, false⟩ := by
    decide +kernel
  have judged : ofEvents extended true events = .ok ⟨⟨"mallory", "", ""⟩, false⟩ := by
    cases came : ofEvents extended true events with
    | error f =>
      rw [came] at shown
      cases shown
    | ok judgement =>
      rw [came] at shown
      rw [Option.some.inj shown]
  obtain ⟨_, _, both, _⟩ := widening_never_revokes within
  obtain ⟨_, _, placed, earlier⟩ := both true events
  obtain ⟨k, denied⟩ := placed _ judged
  exact ⟨within, judged, k, denied, earlier k _ denied⟩

end Judgement

end OnCall
