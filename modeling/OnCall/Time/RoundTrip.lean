import OnCall.Time.Timestamp

/-!
# Timestamps that were written are read back

* `Instant.read?_text`: every moment can be read from its timestamp.

Each field of a timestamp is read up to what follows it: years end before a dash, the other fields
have two digits, and the decimals end before the offset. The fields of a moment are those of a day
and a time of day that exist, and they make the moment again.
-/

namespace OnCall.Instant

open Text

/-! ## 1. Fields -/

theorem trimStart_padded (width n : Nat) (rest : List Char) :
    trimStart ((padded width n).toList ++ rest) = (padded width n).toList ++ rest := by
  obtain ⟨c, cs, hp, hc⟩ := padded_eq_cons width n
  rw [hp]
  exact trimStart_cons (isBlank_of_isDigit hc)

theorem mark_cons {c : Char} (h : isBlank c = false) (rest : List Char) :
    mark c (c :: rest) = some rest := by
  rw [mark, trimStart_cons h]
  simp

/-- Two digits are read, whatever follows them. -/
theorem field_padded {n : Nat} (h : n < 100) (rest : List Char) :
    field 2 ((padded 2 n).toList ++ rest) = some (n, rest) := by
  have hlen : (padded 2 n).toList.length = 2 := length_padded (by decide) h
  rw [field, trimStart_padded, takeDigits_append (padded_ne_nil 2 n)
    (fun c hc => isDigit_of_mem_padded hc) (Nat.le_of_eq hlen) (.inl hlen)]
  simp

/-- The digits of a year without a sign are read, whatever follows them. -/
theorem yearField_padded {n : Nat} (h : n < 10_000) (rest : List Char) :
    yearField ((padded 4 n).toList ++ rest) = some ((n : Int), rest) := by
  have hlen : (padded 4 n).toList.length = 4 := length_padded (by decide) h
  have htake : takeDigits 4 ((padded 4 n).toList ++ rest) = some ((padded 4 n).toList, rest) :=
    takeDigits_append (padded_ne_nil _ _) (fun c hc => isDigit_of_mem_padded hc)
      (Nat.le_of_eq hlen) (.inl hlen)
  obtain ⟨c, cs, hp, hc⟩ := padded_eq_cons 4 n
  have noSign : ∀ sign others, Char.isDigit sign = false →
      (padded 4 n).toList ++ rest ≠ sign :: others := by
    rintro sign others hs h
    rw [hp, List.cons_append, List.cons.injEq] at h
    rw [h.1, hs] at hc
    exact Bool.false_ne_true hc
  rw [yearField, trimStart_padded]
  split
  next h => exact absurd h (noSign _ _ rfl)
  next h => exact absurd h (noSign _ _ rfl)
  next => simp [htake]

/-- The digits of a year after a sign are read up to the dash. -/
theorem takeDigits_year (n : Nat) (rest : List Char) :
    takeDigits ((padded 4 n).toList ++ '-' :: rest).length ((padded 4 n).toList ++ '-' :: rest) =
      some ((padded 4 n).toList, '-' :: rest) :=
  takeDigits_append (padded_ne_nil _ _) (fun c hc => isDigit_of_mem_padded hc) (by simp) (.inr rfl)

theorem yearField_yearText (year : Int) (rest : List Char) :
    yearField ((yearText year).toList ++ '-' :: rest) = some (year, '-' :: rest) := by
  unfold yearText
  split
  next h => rw [yearField_padded (by omega), Int.toNat_of_nonneg h.1]
  next h =>
    split
    next hneg =>
      have h : yearField ('-' :: ((padded 4 year.natAbs).toList ++ '-' :: rest)) =
          some (year, '-' :: rest) := by
        rw [yearField, trimStart_cons (by decide)]
        simp only [takeDigits_year, Option.map_some, valueOf_padded]
        congr 2
        omega
      simpa using h
    next hpos =>
      have h : yearField ('+' :: ((padded 4 year.natAbs).toList ++ '-' :: rest)) =
          some (year, '-' :: rest) := by
        rw [yearField, trimStart_cons (by decide)]
        simp only [takeDigits_year, Option.map_some, valueOf_padded]
        congr 2
        omega
      simpa using h

/-- The decimals of a second give its nanoseconds. -/
theorem decimals_fraction {nano : Nat} (h : nano < 1_000_000_000) (rest : List Char) :
    decimals ((fraction nano).toList ++ 'Z' :: rest) = some (nano, 'Z' :: rest) := by
  have key : ∀ width n unit, 0 < width → width ≤ 9 → n < Nat.pow 10 width →
      Nat.pow 10 (9 - width) = unit → n * unit = nano →
      decimals ('.' :: (padded width n).toList ++ 'Z' :: rest) = some (nano, 'Z' :: rest) := by
    intro width n unit hw h9 hn hu hv
    have hlen := length_padded hw hn
    rw [List.cons_append, decimals, takeDigits_append (padded_ne_nil _ _)
      (fun c hc => isDigit_of_mem_padded hc) (by omega) (.inr rfl)]
    simp only [Option.map_some, valueOf_padded, hlen, hu, hv]
    rfl
  have three : Nat.pow 10 3 = 1_000 := rfl
  have six : Nat.pow 10 6 = 1_000_000 := rfl
  have nine : Nat.pow 10 9 = 1_000_000_000 := rfl
  unfold fraction
  split
  next h =>
    subst h
    rfl
  next =>
    split
    next =>
      simpa using
        key 3 (nano / 1_000_000) 1_000_000 (by decide) (by decide) (by omega) rfl (by omega)
    next =>
      split
      next =>
        simpa using key 6 (nano / 1_000) 1_000 (by decide) (by decide) (by omega) rfl (by omega)
      next => simpa using key 9 nano 1 (by decide) (by decide) (by omega) rfl (by omega)

/-! ## 2. Moments -/

/-- The years of the first and of the last moment. -/
theorem year_bounds (t : Instant) :
    -262_143 ≤ (Date.ofDayNumber (t.second / 86_400)).year ∧
      (Date.ofDayNumber (t.second / 86_400)).year ≤ 262_142 := by
  have h₁ := yearStart_yearOf_le (t.second / 86_400)
  have h₂ := lt_yearStart_yearOf (t.second / 86_400)
  have h₃ := t.earliest_le
  have h₄ := t.le_latest
  have hy : (Date.ofDayNumber (t.second / 86_400)).year = yearOf (t.second / 86_400) := rfl
  rw [hy]
  constructor
  · refine Int.not_lt.mp fun h => ?_
    have := yearStart_mono (show yearOf (t.second / 86_400) + 1 ≤ -262_143 by omega)
    have e : yearStart (-262_143) = -96_465_292 := by decide
    omega
  · refine Int.not_lt.mp fun h => ?_
    have := yearStart_mono (show 262_143 ≤ yearOf (t.second / 86_400) by omega)
    have e : yearStart 262_143 = 95_026_237 := by decide
    omega

/-- The characters of a timestamp. -/
theorem toList_text (t : Instant) {date : Date} (h : Date.ofDayNumber (t.second / 86_400) = date) :
    t.text.toList = (yearText date.year).toList ++ '-' :: ((padded 2 date.month).toList ++ '-' ::
      ((padded 2 date.day).toList ++ 'T' :: ((padded 2 (t.clock.toNat / 3600)).toList ++ ':' ::
      ((padded 2 (t.clock.toNat / 60 % 60)).toList ++ ':' ::
      ((padded 2 (t.clock.toNat % 60 + if t.isLeap then 1 else 0)).toList ++
      ((fraction (t.nano - (if t.isLeap then 1 else 0) * nanosPerSecond)).toList ++ ['Z'])))))) := by
  subst h
  simp only [text, write, String.toList_append, List.append_assoc,
    show "-".toList = ['-'] from rfl, show "T".toList = ['T'] from rfl,
    show ":".toList = [':'] from rfl, show "Z".toList = ['Z'] from rfl, List.cons_append,
    List.nil_append]

/-- A timestamp whose fields exist is read as the moment of these fields. -/
theorem read?_of_fields {date : Date} {hour minute second nano : Nat} {s : String}
    (hs : s.toList = (yearText date.year).toList ++ '-' :: ((padded 2 date.month).toList ++ '-' ::
      ((padded 2 date.day).toList ++ 'T' :: ((padded 2 hour).toList ++ ':' ::
      ((padded 2 minute).toList ++ ':' :: ((padded 2 second).toList ++
      ((fraction nano).toList ++ ['Z'])))))))
    (hyear : -262_143 ≤ date.year ∧ date.year ≤ 262_142) (hdate : date.Valid)
    (hhour : hour ≤ 23) (hminute : minute ≤ 59) (hsecond : second ≤ 60)
    (hnano : nano < 1_000_000_000) :
    read? s =
      of? (date.dayNumber * 86_400 + (hour * 3600 + minute * 60 +
          (second - if second = 60 then 1 else 0) : Nat))
        (nano + (if second = 60 then 1 else 0) * nanosPerSecond) := by
  have hmonth := hdate.month_le
  have hday := hdate.day_le
  have hexists := (Date.exists?_iff _).mpr hdate
  have hoffset : offset ['Z'] = some (0, []) := rfl
  rw [read?, hs]
  simp only [yearField_yearText, Option.bind_eq_bind, Option.bind_some,
    mark_cons (show isBlank '-' = false by decide), mark_cons (show isBlank ':' = false by decide),
    field_padded (show date.month < 100 by omega), field_padded (show date.day < 100 by omega),
    field_padded (show hour < 100 by omega), field_padded (show minute < 100 by omega),
    field_padded (show second < 100 by omega), decimals_fraction hnano, hoffset]
  rw [if_pos (by simp [trimStart, hyear, hexists, hhour, hminute, hsecond]), Int.sub_zero]

/-- **Every moment can be read from its timestamp.** -/
theorem read?_text (t : Instant) : read? t.text = some t := by
  have hclock := t.clock_bounds
  have hvalid := Date.valid_ofDayNumber (t.second / 86_400)
  have hday := Date.dayNumber_ofDayNumber (t.second / 86_400)
  have hyear := t.year_bounds
  have hnano := t.nano_lt
  have hsecond : t.second = t.second / 86_400 * 86_400 + t.clock := by
    unfold clock
    omega
  have hminute : t.clock % 60 = t.second % 60 := by
    unfold clock
    omega
  have nanos : nanosPerSecond = 1_000_000_000 := rfl
  have key := t.toList_text rfl
  generalize Date.ofDayNumber (t.second / 86_400) = date at hvalid hday hyear key
  by_cases h : nanosPerSecond ≤ t.nano
  · have hlast := t.leap_last h
    simp only [isLeap, h, decide_true, if_true, Nat.one_mul] at key
    rw [read?_of_fields key hyear hvalid (by omega) (by omega) (by omega) (by omega),
      if_pos (by omega), hday]
    exact of?_eq_some (by omega) (by omega)
  · simp only [isLeap, h, decide_false, Bool.false_eq_true, if_false, Nat.add_zero, Nat.zero_mul,
      Nat.sub_zero] at key
    rw [read?_of_fields key hyear hvalid (by omega) (by omega) (by omega) (by omega),
      if_neg (by omega), hday]
    exact of?_eq_some (by omega) (by omega)

end OnCall.Instant
