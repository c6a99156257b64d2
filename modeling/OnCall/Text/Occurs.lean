/-!
# One text inside another

* `occursIn`: a text stands somewhere inside another, as written (`occursIn_iff`).
-/

namespace OnCall.Text

/-- Whether `part` stands somewhere in `whole`. -/
def occurs (part : List Char) : List Char → Bool
  | [] => part.isEmpty
  | c :: cs => part.isPrefixOf (c :: cs) || occurs part cs

/-- Whether `part` stands somewhere in `whole`, upper and lower case told apart. -/
def occursIn (part whole : String) : Bool :=
  occurs part.toList whole.toList

/-- A text occurs in another iff it is what stands between some beginning and some end. -/
theorem occurs_iff {part whole : List Char} :
    occurs part whole = true ↔ ∃ before after, whole = before ++ part ++ after := by
  induction whole with
  | nil =>
    simp only [occurs, List.isEmpty_iff, List.nil_eq, List.append_eq_nil_iff]
    constructor
    · rintro rfl
      exact ⟨[], [], ⟨rfl, rfl⟩, rfl⟩
    · rintro ⟨_, _, ⟨_, h⟩, _⟩
      exact h
  | cons c cs ih =>
    rw [occurs, Bool.or_eq_true, List.isPrefixOf_iff_prefix, ih]
    constructor
    · rintro (⟨after, h⟩ | ⟨before, after, rfl⟩)
      · exact ⟨[], after, h.symm⟩
      · exact ⟨c :: before, after, rfl⟩
    · rintro ⟨before, after, h⟩
      cases before with
      | nil => exact .inl ⟨after, h.symm⟩
      | cons b before =>
        simp only [List.cons_append, List.cons.injEq] at h
        exact .inr ⟨before, after, h.2⟩

theorem occursIn_iff {part whole : String} :
    occursIn part whole = true ↔
      ∃ before after, whole.toList = before ++ part.toList ++ after :=
  occurs_iff

/-- A text stands in itself. -/
theorem occursIn_self (text : String) : occursIn text text = true :=
  occursIn_iff.mpr ⟨[], [], (List.append_nil _).symm⟩

end OnCall.Text
