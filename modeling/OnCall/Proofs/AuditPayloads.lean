import Mathlib.Data.List.Induction
import Mathlib.Data.List.TakeWhile
import OnCall.Proofs.Denials
import OnCall.Proofs.Shapes

/-!
# Payloads that name an actor

The payload of an audit event is accepted if it has the shape of such an event and a version that is
supported. Then the actor is named by what stands at fixed places of the payload.

* `Actor.Writes`: a decimal numeral; `Actor.word32?_iff` reads exactly those.
* `Actor.Supported`: a version that is supported, as a text.
* `Actor.payloadFields`: the shape of a payload; `Actor.issuerPath` and the other ways lead to its
  texts.
* `Actor.payload?_iff`: what is read out of a payload.
* `Actor.ofEvent_exact`: **which events name an actor, and whom**; all others are findings.
-/

namespace OnCall.Actor

open Json (Shaped Follows TextAt IsText fields? names)

/-! ## 1. Numerals -/

/-- **A decimal numeral** of a number of 32 bits: a plus and zeros may stand in front, nothing else.
-/
structure Writes (cs : List Char) (n : Nat) : Prop where
  fits : n < UInt32.size
  digits : ∃ sign zeros, (sign = [] ∨ sign = ['+']) ∧
    cs = sign ++ (List.replicate zeros '0' ++ Nat.toDigits 10 n)

section Numerals

variable {c : Char} {cs : List Char} {n : Nat}

theorem value_lt_ten (digit : c.isDigit = true) : c.toNat - '0'.toNat < 10 := by
  simp only [Char.isDigit, Bool.and_eq_true, decide_eq_true_eq, UInt32.le_iff_toNat_le] at digit
  have high : c.toNat ≤ 57 := digit.2
  have zero : '0'.toNat = 48 := rfl
  omega

theorem digitChar_value (digit : c.isDigit = true) : Nat.digitChar (c.toNat - '0'.toNat) = c := by
  have small := value_lt_ten digit
  simp only [Char.isDigit, Bool.and_eq_true, decide_eq_true_eq, UInt32.le_iff_toNat_le] at digit
  have low : 48 ≤ c.toNat := digit.1
  have zero : '0'.toNat = 48 := rfl
  apply Char.toNat_inj.mp
  rw [Nat.toNat_digitChar_of_lt_ten small]
  omega

theorem toDigits_value (digit : c.isDigit = true) :
    Nat.toDigits 10 (c.toNat - '0'.toNat) = [c] := by
  rw [Nat.toDigits_of_lt_base (value_lt_ten digit), digitChar_value digit]

theorem valueOf_concat (cs : List Char) (c : Char) :
    Text.valueOf (cs ++ [c]) = 10 * Text.valueOf cs + (c.toNat - '0'.toNat) := by
  rw [Text.valueOf, Nat.ofDigitChars_append, Nat.ofDigitChars_cons, Nat.ofDigitChars_nil,
    Text.valueOf]

/-- **Digits are zeros and the numeral of their value.** The induction is on the last digit: behind
zeros it takes the place of the last of them. -/
theorem exists_zeros (some : cs ≠ []) (digits : ∀ c ∈ cs, c.isDigit = true) :
    ∃ zeros, cs = List.replicate zeros '0' ++ Nat.toDigits 10 (Text.valueOf cs) := by
  induction cs using List.reverseRecOn with
  | nil => exact absurd rfl some
  | append_singleton cs c ih =>
    have digit : c.isDigit = true := digits c (List.mem_append_right _ (List.mem_singleton_self c))
    by_cases first : cs = []
    · refine ⟨0, ?_⟩
      have value : Text.valueOf ([] ++ [c]) = c.toNat - '0'.toNat := by
        rw [valueOf_concat]
        exact Nat.zero_add _
      rw [first, value, toDigits_value digit]
      rfl
    · obtain ⟨zeros, split⟩ := ih first fun d mem => digits d (List.mem_append_left _ mem)
      rw [valueOf_concat]
      by_cases zero : Text.valueOf cs = 0
      · refine ⟨zeros + 1, ?_⟩
        rw [zero, Nat.toDigits_zero] at split
        rw [zero, Nat.mul_zero, Nat.zero_add, toDigits_value digit, List.replicate_succ', ← split]
      · refine ⟨zeros, ?_⟩
        rw [← Nat.toDigits_append_toDigits (by decide) (Nat.pos_of_ne_zero zero)
          (value_lt_ten digit), toDigits_value digit, ← List.append_assoc, ← split]

theorem valueOf_zeros (zeros n : Nat) :
    Text.valueOf (List.replicate zeros '0' ++ Nat.toDigits 10 n) = n := by
  rw [Text.valueOf, Nat.ofDigitChars_append, Nat.ofDigitChars_replicate_zero, Nat.mul_zero,
    Nat.ofDigitChars_ten_toDigits]

theorem isDigit_of_mem_zeros {zeros : Nat}
    (mem : c ∈ List.replicate zeros '0' ++ Nat.toDigits 10 n) : c.isDigit = true := by
  rcases List.mem_append.mp mem with mem | mem
  · rw [(List.mem_replicate.mp mem).2]
    rfl
  · exact Nat.isDigit_of_mem_toDigits (by decide) (by decide) mem

/-- The digits of a number without its sign. -/
theorem unsigned_iff :
    (if cs.isEmpty || !cs.all Char.isDigit then none
      else if Text.valueOf cs < UInt32.size then some (Text.valueOf cs) else none) = some n ↔
      n < UInt32.size ∧ ∃ zeros, cs = List.replicate zeros '0' ++ Nat.toDigits 10 n := by
  constructor
  · intro read
    by_cases bad : (cs.isEmpty || !cs.all Char.isDigit) = true
    · rw [if_pos bad] at read
      cases read
    · rw [if_neg bad] at read
      have nonempty : cs ≠ [] := fun none => bad (by simp [none])
      have digits : ∀ c ∈ cs, c.isDigit = true := by
        simpa [nonempty] using bad
      by_cases fits : Text.valueOf cs < UInt32.size
      · rw [if_pos fits] at read
        cases read
        exact ⟨fits, exists_zeros nonempty digits⟩
      · rw [if_neg fits] at read
        cases read
  · rintro ⟨fits, zeros, rfl⟩
    have nonempty : List.replicate zeros '0' ++ Nat.toDigits 10 n ≠ [] := by
      simp [Nat.toDigits_ne_nil]
    have digits : (List.replicate zeros '0' ++ Nat.toDigits 10 n).all Char.isDigit = true :=
      List.all_eq_true.mpr fun _ => isDigit_of_mem_zeros
    have good : ¬ ((List.replicate zeros '0' ++ Nat.toDigits 10 n).isEmpty ||
        !(List.replicate zeros '0' ++ Nat.toDigits 10 n).all Char.isDigit) = true := by
      rw [digits, Bool.not_true, Bool.or_false, List.isEmpty_iff]
      exact nonempty
    rw [if_neg good, valueOf_zeros, if_pos fits]

/-- **The numbers that are read are those that are written.** A plus is no digit, so a text is read
with it or without it, never both. -/
theorem word32?_iff : word32? cs = some n ↔ Writes cs n := by
  by_cases plus : ∃ rest, cs = '+' :: rest
  · obtain ⟨rest, rfl⟩ := plus
    refine unsigned_iff.trans ?_
    constructor
    · rintro ⟨fits, zeros, same⟩
      exact ⟨fits, ['+'], zeros, .inr rfl, congrArg ('+' :: ·) same⟩
    · rintro ⟨fits, sign, zeros, form, same⟩
      rcases form with rfl | rfl
      · have held : '+' ∈ List.replicate zeros '0' ++ Nat.toDigits 10 n := by
          rw [← List.nil_append (_ ++ _), ← same]
          exact List.mem_cons_self
        cases isDigit_of_mem_zeros held
      · exact ⟨fits, zeros, List.tail_eq_of_cons_eq same⟩
  · have opened : word32? cs = if cs.isEmpty || !cs.all Char.isDigit then none
        else if Text.valueOf cs < UInt32.size then some (Text.valueOf cs) else none := by
      unfold word32?
      split
      · exact absurd ⟨_, rfl⟩ plus
      · rfl
    rw [opened]
    refine unsigned_iff.trans ?_
    constructor
    · rintro ⟨fits, zeros, same⟩
      exact ⟨fits, [], zeros, .inl rfl, same⟩
    · rintro ⟨fits, sign, zeros, form, same⟩
      rcases form with rfl | rfl
      · exact ⟨fits, zeros, same⟩
      · exact absurd ⟨_, same⟩ plus

end Numerals

/-! ## 2. Versions -/

/-- **A version that is supported**: its parts before and behind its first point are numerals, the
first one of 1 and the second one of at least 8. -/
inductive Supported (version : String) : Prop where
  | intro {before after : List Char} {major minor : Nat}
      (split : version.toList = before ++ '.' :: after) (first : '.' ∉ before)
      (majors : Writes before major) (minors : Writes after minor) (same : major = 1)
      (late : 8 ≤ minor)

theorem splitVersion_iff {version before after : List Char} :
    splitVersion version = some (before, after) ↔
      version = before ++ '.' :: after ∧ '.' ∉ before := by
  unfold splitVersion
  constructor
  · intro read
    split at read
    · rename_i minor rest
      cases read
      refine ⟨?_, fun point => ?_⟩
      · rw [← rest, List.takeWhile_append_dropWhile]
      · have other := List.mem_takeWhile_imp point
        simp at other
    · cases read
  · rintro ⟨rfl, first⟩
    have others : ∀ c ∈ before, decide (c ≠ '.') = true := by
      intro c mem
      refine decide_eq_true ?_
      rintro rfl
      exact first mem
    have dropped : (before ++ '.' :: after).dropWhile (· ≠ '.') = '.' :: after := by
      rw [List.dropWhile_append_of_pos others]
      rfl
    have taken : (before ++ '.' :: after).takeWhile (· ≠ '.') = before := by
      rw [List.takeWhile_append_of_pos others, List.takeWhile_cons_of_neg (by decide),
        List.append_nil]
    rw [dropped, taken]
    rfl

/-- The version is split at its first point, and both of its parts are numerals. -/
theorem version?_iff {version : String} {major minor : Nat} :
    version? version = some (major, minor) ↔ ∃ before after,
      version.toList = before ++ '.' :: after ∧ '.' ∉ before ∧ Writes before major ∧
        Writes after minor := by
  simp only [version?, Option.bind_eq_bind, Option.bind_eq_some_iff, Option.pure_def,
    Option.some.injEq, Prod.mk.injEq, word32?_iff, Prod.exists, splitVersion_iff]
  constructor
  · rintro ⟨before, after, ⟨split, first⟩, _, majors, _, minors, rfl, rfl⟩
    exact ⟨before, after, split, first, majors, minors⟩
  · rintro ⟨before, after, split, first, majors, minors⟩
    exact ⟨before, after, ⟨split, first⟩, _, majors, _, minors, rfl, rfl⟩

example : version? "+01.10" = some (1, 10) ∧ version? "1.8.9" = none ∧ version? "1.-8" = none := by
  decide +kernel

theorem checkVersion_ok_iff {version : String} :
    checkVersion version = .ok () ↔ Supported version := by
  unfold checkVersion
  constructor
  · intro passed
    split at passed
    · cases passed
    · rename_i major minor read
      split at passed
      · rename_i fits
        obtain ⟨before, after, split, first, majors, minors⟩ := version?_iff.mp read
        exact ⟨split, first, majors, minors, fits.1, fits.2⟩
      · cases passed
  · rintro ⟨split, first, majors, minors, same, late⟩
    rw [version?_iff.mpr ⟨_, _, split, first, majors, minors⟩]
    exact if_pos ⟨same, late⟩

/-! ## 3. Payloads -/

/-- The issuer of a session. -/
def issuerFields : List Json.Field := [⟨"userName", .optional, IsText⟩]

/-- The context of a session. -/
def contextFields : List Json.Field := [⟨"sessionIssuer", .optional, Shaped issuerFields⟩]

/-- The identity behind an event. -/
def identityFields : List Json.Field :=
  [⟨"type", .defaulted, IsText⟩, ⟨"userName", .optional, IsText⟩,
    ⟨"sessionContext", .optional, Shaped contextFields⟩]

/-- **The payload of an event.** -/
def payloadFields : List Json.Field :=
  [⟨"eventVersion", .required, IsText⟩, ⟨"userIdentity", .defaulted, Shaped identityFields⟩]

/-- From an identity to the name of the issuer of its session. -/
def sessionPath : List (List Json.Field × String) :=
  [(identityFields, "sessionContext"), (contextFields, "sessionIssuer"), (issuerFields, "userName")]

/-- From a payload to its version. -/
def versionPath : List (List Json.Field × String) := [(payloadFields, "eventVersion")]

/-- From a payload to the type of the identity. -/
def typePath : List (List Json.Field × String) :=
  [(payloadFields, "userIdentity"), (identityFields, "type")]

/-- From a payload to the name of the user. -/
def userNamePath : List (List Json.Field × String) :=
  [(payloadFields, "userIdentity"), (identityFields, "userName")]

/-- From a payload to the name of the issuer. -/
def issuerPath : List (List Json.Field × String) := (payloadFields, "userIdentity") :: sessionPath

section Payloads

variable {j : Json} {text : Option String} {slots : List Json.Slot}

theorem issuer?_iff (j : Json) (text : Option String) :
    issuer? j = some text ↔
      Shaped issuerFields j ∧ TextAt [(issuerFields, "userName")] j text := by
  have distinct : (names issuerFields).Nodup := by decide
  refine Json.read_iff distinct fun slots stand => ?_
  obtain _ | ⟨userName, ⟨⟩⟩ := stand
  rw [Json.textAt_cons userName]
  refine Json.Slot.optional_text_iff.trans ?_
  simp [issuerFields]

theorem sessionIssuer?_iff (j : Json) (text : Option String) :
    sessionIssuer? j = some text ↔
      Shaped contextFields j ∧
        TextAt [(contextFields, "sessionIssuer"), (issuerFields, "userName")] j text := by
  have distinct : (names contextFields).Nodup := by decide
  refine Json.read_iff distinct fun slots stand => ?_
  obtain _ | ⟨issuer, ⟨⟩⟩ := stand
  rename_i slot
  have joined : (do return (← slot.optional issuer?).join : Option (Option String)) = some text ↔
      ∃ read, slot.optional issuer? = some read ∧ read.join = text := by
    simp [Option.bind_eq_some_iff]
  rw [Json.textAt_cons issuer]
  refine joined.trans ((Json.Slot.optional_record_iff issuer?_iff).trans ?_)
  simp [contextFields]

/-- **What is said of an identity**, from where it stands. -/
structure Identity.At (typePath userNamePath issuerPath : List (List Json.Field × String))
    (j : Json) (identity : Identity) : Prop where
  identityType : ∃ text, TextAt typePath j text ∧ identity.identityType = text.getD ""
  userName : TextAt userNamePath j identity.userName
  issuerName : TextAt issuerPath j identity.issuerName

theorem identity_iff (j : Json) (identity : Identity) :
    Identity.ofJson? j = some identity ↔
      Shaped identityFields j ∧
        identity.At [(identityFields, "type")] [(identityFields, "userName")] sessionPath j := by
  have distinct : (names identityFields).Nodup := by decide
  refine Json.read_iff distinct fun slots stand => ?_
  obtain _ | ⟨identityType, _ | ⟨userName, _ | ⟨context, ⟨⟩⟩⟩⟩ := stand
  rename_i kind name session
  have parts : (do return {
      identityType := ← kind.defaulted "" Json.string?
      userName := ← name.optional Json.string?
      issuerName := (← session.optional sessionIssuer?).join } : Option Identity) = some identity ↔
      kind.defaulted "" Json.string? = some identity.identityType ∧
        name.optional Json.string? = some identity.userName ∧
        ∃ read, session.optional sessionIssuer? = some read ∧ read.join = identity.issuerName := by
    cases identity
    simp only [Option.bind_eq_bind, Option.bind_eq_some_iff, Option.pure_def, Option.some.injEq,
      Identity.mk.injEq]
    constructor
    · rintro ⟨_, first, _, second, read, third, rfl, rfl, rfl⟩
      exact ⟨first, second, read, third, rfl⟩
    · rintro ⟨first, second, read, third, rfl⟩
      exact ⟨_, first, _, second, read, third, rfl, rfl, rfl⟩
  refine parts.trans ?_
  rw [Json.Slot.defaulted_text_iff, Json.Slot.optional_text_iff,
    Json.Slot.optional_record_iff sessionIssuer?_iff]
  have fits : List.Forall₂ (fun (field : Json.Field) slot => slot.Fits field.presence field.value)
      identityFields [kind, name, session] ↔ kind.Fits .defaulted IsText ∧
        name.Fits .optional IsText ∧ session.Fits .optional (Shaped contextFields) := by
    simp [identityFields]
  rw [fits]
  constructor
  · rintro ⟨⟨fits₁, type⟩, ⟨fits₂, user⟩, fits₃, issuer⟩
    exact ⟨⟨fits₁, fits₂, fits₃⟩, by simpa only [Json.textAt_cons identityType] using type,
      (Json.textAt_cons userName).mpr user, (Json.textAt_cons context).mpr issuer⟩
  · rintro ⟨⟨fits₁, fits₂, fits₃⟩, type, user, issuer⟩
    simp only [Json.textAt_cons identityType] at type
    exact ⟨⟨fits₁, type⟩, ⟨fits₂, (Json.textAt_cons userName).mp user⟩, fits₃,
      (Json.textAt_cons context).mp issuer⟩

/-- An identity that is missing is one that nothing is said of. -/
theorem identity_unnamed_iff (identity : Identity) :
    .unnamed = identity ↔
      (∃ text, text = none ∧ identity.identityType = Option.getD text "") ∧
        identity.userName = none ∧ identity.issuerName = none := by
  cases identity
  simp [Identity.unnamed, eq_comm]

theorem defaulted_identity_iff {slot : Json.Slot} {identity : Identity} :
    slot.defaulted .unnamed Identity.ofJson? = some identity ↔
      slot.Fits .defaulted (Shaped identityFields) ∧
        (∃ text, slot.TextAt [(identityFields, "type")] text ∧
          identity.identityType = text.getD "") ∧
        slot.TextAt [(identityFields, "userName")] identity.userName ∧
        slot.TextAt sessionPath identity.issuerName := by
  cases slot with
  | given j =>
    by_cases null : j = .null
    · subst null
      constructor
      · intro read
        cases read
      · rintro ⟨shaped | ⟨other, _⟩, _⟩
        · cases shaped.record
        · cases other
    · rw [Json.Slot.fits_given null]
      simp only [Json.Slot.textAt_given null]
      refine (identity_iff j identity).trans (and_congr_right fun _ => ?_)
      exact ⟨fun at_j => ⟨at_j.identityType, at_j.userName, at_j.issuerName⟩,
        fun ⟨type, user, issuer⟩ => ⟨type, user, issuer⟩⟩
  | unnamed =>
    simp only [Json.Slot.textAt_unnamed]
    refine Option.some_inj.trans ((identity_unnamed_iff identity).trans ?_)
    exact ⟨fun said => ⟨nofun, said⟩, fun both => both.2⟩
  | beyond =>
    simp only [Json.Slot.textAt_beyond]
    refine Option.some_inj.trans ((identity_unnamed_iff identity).trans ?_)
    exact ⟨fun said => ⟨rfl, said⟩, fun both => both.2⟩

/-- **What is read out of a payload.** -/
theorem payload?_iff (j : Json) (version : String) (identity : Identity) :
    payload? j = some (version, identity) ↔
      Shaped payloadFields j ∧ Follows versionPath j (.text version) ∧
        identity.At typePath userNamePath issuerPath j := by
  have distinct : (names payloadFields).Nodup := by decide
  refine Json.read_iff distinct fun slots stand => ?_
  obtain _ | ⟨eventVersion, _ | ⟨userIdentity, ⟨⟩⟩⟩ := stand
  rename_i first second
  have parts : (do return (← first.required Json.string?,
      ← second.defaulted .unnamed Identity.ofJson?) : Option (String × Identity)) =
        some (version, identity) ↔
      first.required Json.string? = some version ∧
        second.defaulted .unnamed Identity.ofJson? = some identity := by
    simp [Option.bind_eq_some_iff]
  have fits : List.Forall₂ (fun (field : Json.Field) slot => slot.Fits field.presence field.value)
      payloadFields [first, second] ↔ first.Fits .required IsText ∧
        second.Fits .defaulted (Shaped identityFields) := by
    simp [payloadFields]
  refine parts.trans ?_
  rw [Json.Slot.required_text_iff, defaulted_identity_iff, fits]
  constructor
  · rintro ⟨⟨fits₁, leads⟩, fits₂, type, user, issuer⟩
    exact ⟨⟨fits₁, fits₂⟩, (Json.follows_cons eventVersion).mpr leads,
      by simpa only [typePath, Json.textAt_cons userIdentity] using type,
      (Json.textAt_cons userIdentity).mpr user, (Json.textAt_cons userIdentity).mpr issuer⟩
  · rintro ⟨⟨fits₁, fits₂⟩, follows, type, user, issuer⟩
    simp only [typePath, Json.textAt_cons userIdentity] at type
    exact ⟨⟨fits₁, (Json.follows_cons eventVersion).mp follows⟩, fits₂, type,
      (Json.textAt_cons userIdentity).mp user, (Json.textAt_cons userIdentity).mp issuer⟩

end Payloads

/-! ## 4. Events -/

/-- **A payload that is accepted**: it has the shape of an event, of a version that is supported. -/
structure Accepted (tree : Json) : Prop where
  shaped : Shaped payloadFields tree
  version : ∃ version, Follows versionPath tree (.text version) ∧ Supported version

/-- **Whom an event names**: the name outside of the payload comes before the one inside, and what
is missing is empty. -/
structure Names (e : AuditEvent) (tree : Json) (actor : Actor) : Prop where
  username : ∃ inner, TextAt userNamePath tree inner ∧
    actor.username = (e.username.or inner).getD ""
  issuerUsername : ∃ issuer, TextAt issuerPath tree issuer ∧
    actor.issuerUsername = issuer.getD ""
  identityType : ∃ text, TextAt typePath tree text ∧ actor.identityType = text.getD ""

variable {e : AuditEvent} {actor : Actor} {f : Failure}

/-- An event names an actor if its payload is accepted. -/
theorem ofEvent_ok_iff :
    ofEvent e = .ok actor ↔
      ∃ tree, Json.read? e.payload = some tree ∧ Accepted tree ∧ Names e tree actor := by
  constructor
  · intro named
    unfold ofEvent at named
    split at named
    · cases named
    · rename_i version identity decoded
      obtain ⟨tree, read, known⟩ := Option.bind_eq_some_iff.mp decoded
      obtain ⟨shaped, follows, said⟩ := (payload?_iff tree version identity).mp known
      obtain ⟨text, type, same⟩ := said.identityType
      split at named
      · cases named
      · rename_i passed
        cases named
        exact ⟨tree, read, ⟨shaped, version, follows, checkVersion_ok_iff.mp passed⟩,
          ⟨_, said.userName, rfl⟩, ⟨_, said.issuerName, rfl⟩, text, type, same⟩
  · rintro ⟨tree, read, ⟨shaped, version, follows, supported⟩, ⟨inner, user, name⟩,
      ⟨issuer, session, issuerName⟩, text, type, kind⟩
    have known : payload? tree = some (version, ⟨text.getD "", inner, issuer⟩) :=
      (payload?_iff _ _ _).mpr ⟨shaped, follows, ⟨text, type, rfl⟩, user, session⟩
    have decoded : Json.decode? payload? e.payload =
        some (version, ⟨text.getD "", inner, issuer⟩) := by
      rw [Json.decode?, read]
      exact known
    have passed := checkVersion_ok_iff.mpr supported
    unfold ofEvent
    simp only [decoded, passed, ← name, ← issuerName, ← kind]

/-- **Which events name an actor, and whom.** An event whose payload is not accepted is a finding.
-/
theorem ofEvent_exact (e : AuditEvent) :
    (∀ f, ofEvent e = .error f → f.kind = .finding) ∧
    ((∃ actor, ofEvent e = .ok actor) ↔ ∃ tree, Json.read? e.payload = some tree ∧ Accepted tree) ∧
    ∀ actor tree, ofEvent e = .ok actor → Json.read? e.payload = some tree →
      Names e tree actor := by
  refine ⟨fun f failed => of_decide_eq_true (conclusive_of_error failed), ⟨?_, ?_⟩, ?_⟩
  · rintro ⟨actor, named⟩
    obtain ⟨tree, read, accepted, _⟩ := ofEvent_ok_iff.mp named
    exact ⟨tree, read, accepted⟩
  · rintro ⟨tree, read, accepted⟩
    obtain ⟨inner, user⟩ := Json.exists_textAt userNamePath tree
    obtain ⟨issuer, session⟩ := Json.exists_textAt issuerPath tree
    obtain ⟨text, type⟩ := Json.exists_textAt typePath tree
    exact ⟨⟨(e.username.or inner).getD "", issuer.getD "", text.getD ""⟩, ofEvent_ok_iff.mpr
      ⟨tree, read, accepted, ⟨inner, user, rfl⟩, ⟨issuer, session, rfl⟩, text, type, rfl⟩⟩
  · intro actor tree named read
    obtain ⟨other, again, _, names⟩ := ofEvent_ok_iff.mp named
    cases Option.some.inj (read.symm.trans again)
    exact names

/-- An event that only names the role that was taken on. -/
def assumed : AuditEvent where
  eventId := "e1"
  eventName := "StopInstances"
  eventTime := .epoch
  username := none
  payload := "\x7b\"eventVersion\":\"+1.010\",\"userIdentity\":\x7b\"sessionContext\":" ++
    "\x7b\"sessionIssuer\":\x7b\"userName\":\"support\"\x7d\x7d\x7d\x7d"

/-- The same event as it was written some versions before. -/
def outdated : AuditEvent := { assumed with payload := "\x7b\"eventVersion\":\"1.7\"\x7d" }

/-- The version 1.10 is a later one than 1.8, whatever stands in front of its numbers; 1.7 is not.
-/
theorem ofEvent_exact_assumed :
    (∃ tree, Json.read? assumed.payload = some tree ∧ Accepted tree ∧
      Names assumed tree ⟨"", "support", ""⟩) ∧
    ∃ f, ofEvent outdated = .error f ∧ f.kind = .finding := by
  have named : ofEvent assumed = .ok ⟨"", "support", ""⟩ := by decide +kernel
  have failed : ofEvent outdated = .error (Failure.asFinding "cannot decode audit event e1"
      (.root (.unsupportedVersion "1.7"))) := by decide +kernel
  obtain ⟨tree, read, accepted⟩ := (ofEvent_exact assumed).2.1.mp ⟨_, named⟩
  exact ⟨⟨tree, read, accepted, (ofEvent_exact assumed).2.2 _ tree named read⟩, _, failed,
    (ofEvent_exact outdated).1 _ failed⟩

end OnCall.Actor
