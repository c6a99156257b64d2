import OnCall.Json.Record
import OnCall.Json.Writer

/-!
# JSON that was written is read back

* `Json.Proper`: the trees that may be written: strings and names can be read, and numbers have
  digits where they need them.
* `Json.read?_write`: such a tree can be read from the text that is written for it.

Every part is read up to what follows it: a string ends with its quote, a number before a comma, a
closing bracket or the end, and everything else with a bracket or a word of its own. The bound of
the reader is twice the length of what is read.
-/

namespace OnCall

/-! ## 1. What may be written -/

/-- Digits only. -/
def AllDigits (cs : List Char) : Prop := ∀ c ∈ cs, c.isDigit = true

/-- A number as it may be written: there are whole digits, the first of several is no zero, and an
exponent has digits. -/
def Numeral.Proper (n : Numeral) : Prop :=
  (n.whole ≠ [] ∧ AllDigits n.whole ∧ ∀ c cs, n.whole ≠ '0' :: c :: cs) ∧ AllDigits n.decimals ∧
    ∀ negative ds, n.exponent = some (negative, ds) → ds ≠ [] ∧ AllDigits ds

namespace Json

mutual

/-- A tree that may be written. -/
def Proper : Json → Prop
  | .null => True
  | .bool _ => True
  | .number n => n.Proper
  | .string s => s.isSome = true
  | .array items => AllProper items
  | .object members => MembersProper members

def AllProper : List Json → Prop
  | [] => True
  | item :: items => item.Proper ∧ AllProper items

def MembersProper : List (Option String × Json) → Prop
  | [] => True
  | (name, value) :: members => name.isSome = true ∧ value.Proper ∧ MembersProper members

end

/-- What may follow a value: nothing, a comma or a closing bracket. -/
def Closes (rest : List Char) : Prop := ∀ c ∈ rest.head?, c = ',' ∨ c = ']' ∨ c = '}'

/-- What may follow the digits of a number: neither a digit nor a point. -/
def Ends (rest : List Char) : Prop := ∀ c ∈ rest.head?, c.isDigit = false ∧ c ≠ '.'

theorem Closes.ends {rest : List Char} (h : Closes rest) : Ends rest := by
  intro c hc
  rcases h c hc with rfl | rfl | rfl <;> exact ⟨rfl, by decide⟩

theorem skip_cons {c : Char} {cs : List Char} (h : isSpace c = false) :
    skip (c :: cs) = c :: cs := by
  simp [skip, h]

/-! ## 2. Strings -/

/-- The piece stands for the character. -/
def Piece.StandsFor (p : Piece) (c : Char) : Prop :=
  p = .char c ∨ (p = .unit c.toNat ∧ c.toNat < 0x20)

theorem hexDigit?_hexDigit : ∀ n < 16, hexDigit? (hexDigit n) = some n := by decide

theorem pieces_short {e c : Char} (he : e ≠ 'u') (h : shortEscape? e = some c)
    (rest : List Char) :
    pieces ('\\' :: e :: rest) = (pieces rest).map fun (ps, rest) => (.char c :: ps, rest) := by
  rw [pieces.eq_4 e rest fun _ _ _ _ _ h _ => he h, h]
  cases pieces rest <;> rfl

theorem pieces_unit {n : Nat} (h : n < 256) (rest : List Char) :
    pieces ('\\' :: 'u' :: '0' :: '0' :: hexDigit (n / 16) :: hexDigit (n % 16) :: rest) =
      (pieces rest).map fun (ps, rest) => (.unit n :: ps, rest) := by
  rw [pieces.eq_3, hexDigit?_hexDigit _ (show n / 16 < 16 by omega),
    hexDigit?_hexDigit _ (show n % 16 < 16 by omega), show hexDigit? '0' = some 0 from rfl]
  have hn : 0 * 4096 + 0 * 256 + n / 16 * 16 + n % 16 = n := by omega
  simp only [Option.bind_eq_bind, Option.bind_some, hn]
  cases pieces rest <;> rfl

theorem pieces_plain {c : Char} (hquote : c ≠ '"') (hslash : c ≠ '\\') (hcontrol : ¬ c.toNat < 0x20)
    (rest : List Char) :
    pieces (c :: rest) = (pieces rest).map fun (ps, rest) => (.char c :: ps, rest) := by
  rw [pieces.eq_5 c rest (fun h => hquote h) (fun _ _ _ _ _ h _ => hslash h)
    (fun _ _ h _ => hslash h), if_neg (by simp [hslash, Nat.not_lt.mp hcontrol])]
  cases pieces rest <;> rfl

/-- What is written for a character inside a string is read as one piece that stands for it. -/
theorem pieces_escapedChar (c : Char) :
    ∃ p : Piece, p.StandsFor c ∧ ∀ rest, pieces (escapedChar c ++ rest) =
      (pieces rest).map fun (ps, rest) => (p :: ps, rest) := by
  have short : ∀ e : Char, e ≠ 'u' → shortEscape? e = some c →
      ∃ p : Piece, p.StandsFor c ∧ ∀ rest, pieces (['\\', e] ++ rest) =
        (pieces rest).map fun (ps, rest) => (p :: ps, rest) :=
    fun e he h => ⟨.char c, .inl rfl, fun rest => pieces_short he h rest⟩
  unfold escapedChar
  split
  next h => exact short _ (by decide) (by rw [h]; rfl)
  split
  next h => exact short _ (by decide) (by rw [h]; rfl)
  split
  next h => exact short _ (by decide) (by rw [h]; rfl)
  split
  next h => exact short _ (by decide) (by rw [h]; rfl)
  split
  next h => exact short _ (by decide) (by rw [h]; rfl)
  split
  next h => exact short _ (by decide) (by rw [h]; rfl)
  split
  next h => exact short _ (by decide) (by rw [h]; rfl)
  next hquote hslash _ _ _ _ _ =>
    split
    next h => exact ⟨.unit c.toNat, .inr ⟨rfl, h⟩, fun rest => pieces_unit (by omega) rest⟩
    next h => exact ⟨.char c, .inl rfl, fun rest => pieces_plain hquote hslash h rest⟩

theorem joined_standsFor {p : Piece} {c : Char} (h : p.StandsFor c) (ps : List Piece) :
    joined (p :: ps) = (joined ps).map (c :: ·) := by
  rcases h with rfl | ⟨rfl, h⟩
  · rfl
  · have hc : Char.ofNat c.toNat = c := Char.ofNat_toNat c
    have high : ¬ (0xD800 ≤ c.toNat ∧ c.toNat < 0xDC00) := by omega
    have low : ¬ (0xDC00 ≤ c.toNat ∧ c.toNat < 0xE000) := by omega
    have half : ¬ (0xD800 ≤ c.toNat ∧ c.toNat < 0xE000) := by omega
    cases ps with
    | nil => rw [joined.eq_4 _ _ (by simp), if_neg half, hc]
    | cons q ps =>
      cases q with
      | char d => rw [joined.eq_4 _ _ (by simp), if_neg half, hc]
      | unit n => rw [joined.eq_3, if_neg high, if_neg low, hc]

/-- A string is read up to its closing quote. -/
theorem readString_escaped (s : String) (rest : List Char) :
    readString (s.toList.flatMap escapedChar ++ '"' :: rest) = some (some s, rest) := by
  have key : ∀ cs : List Char, ∃ ps,
      pieces (cs.flatMap escapedChar ++ '"' :: rest) = some (ps, rest) ∧ joined ps = some cs := by
    intro cs
    induction cs with
    | nil => exact ⟨[], rfl, rfl⟩
    | cons c cs ih =>
      obtain ⟨ps, h₁, h₂⟩ := ih
      obtain ⟨p, hp, hpieces⟩ := pieces_escapedChar c
      refine ⟨p :: ps, ?_, ?_⟩
      · rw [List.flatMap_cons, List.append_assoc, hpieces, h₁]
        rfl
      · rw [joined_standsFor hp, h₂]
        rfl
  obtain ⟨ps, h₁, h₂⟩ := key s.toList
  rw [readString, h₁, Option.map_some]
  simp only [h₂, Option.map_some, String.ofList_toList]

/-! ## 3. Numbers -/

theorem digits_append {ds rest : List Char} (h : AllDigits ds)
    (hrest : ∀ c ∈ rest.head?, c.isDigit = false) : digits (ds ++ rest) = (ds, rest) := by
  have htake : rest.takeWhile Char.isDigit = [] := by
    cases rest with
    | nil => rfl
    | cons c cs => simp [hrest c (by simp)]
  have hdrop : rest.dropWhile Char.isDigit = rest := by
    cases rest with
    | nil => rfl
    | cons c cs => simp [hrest c (by simp)]
  rw [digits, List.takeWhile_append_of_pos h, List.dropWhile_append_of_pos h, htake, hdrop,
    List.append_nil]

/-- Digits do not start with a character that is none. -/
theorem cons_ne_of_allDigits {d c : Char} {ds cs cs' : List Char} (h : AllDigits (d :: ds))
    (hc : c.isDigit = false) : d :: cs ≠ c :: cs' := by
  intro he
  have := h d (by simp)
  rw [(List.cons.inj he).1, hc] at this
  exact Bool.false_ne_true this

theorem readMinus_append {negative : Bool} {ds rest : List Char} (hne : ds ≠ [])
    (h : AllDigits ds) :
    readMinus ((if negative then ['-'] else []) ++ (ds ++ rest)) = (negative, ds ++ rest) := by
  cases negative with
  | true => rfl
  | false =>
    obtain _ | ⟨d, ds⟩ := ds
    · exact absurd rfl hne
    rw [if_neg Bool.false_ne_true, List.nil_append, List.cons_append, readMinus.eq_def]
    split
    next heq => exact absurd heq (cons_ne_of_allDigits h rfl)
    next => rfl

theorem readWhole_append {ds rest : List Char} (hne : ds ≠ []) (h : AllDigits ds)
    (hzero : ∀ c cs, ds ≠ '0' :: c :: cs) (hrest : ∀ c ∈ rest.head?, c.isDigit = false) :
    readWhole (ds ++ rest) = some (ds, rest) := by
  rw [readWhole, digits_append h hrest]
  split
  next heq => exact absurd (Prod.mk.inj heq).1 hne
  next heq => exact absurd (Prod.mk.inj heq).1 (hzero _ _)
  next heq => rw [(Prod.mk.inj heq).1, (Prod.mk.inj heq).2]

theorem readDecimals_text {ds rest : List Char} (h : AllDigits ds) (hrest : Ends rest) :
    readDecimals (Numeral.decimalText ds ++ rest) = some (ds, rest) := by
  cases ds with
  | nil =>
    cases rest with
    | nil => rfl
    | cons c cs =>
      rw [Numeral.decimalText, List.isEmpty_nil, if_pos rfl, List.nil_append, readDecimals.eq_def]
      split
      next heq => exact absurd (List.cons.inj heq).1 (hrest c (by simp)).2
      next => rfl
  | cons d ds =>
    rw [Numeral.decimalText, List.isEmpty_cons, if_neg Bool.false_ne_true, List.cons_append,
      readDecimals, digits_append h fun c hc => (hrest c hc).1]

theorem readExponent_text {e : Option (Bool × List Char)} {rest : List Char}
    (h : ∀ negative ds, e = some (negative, ds) → ds ≠ [] ∧ AllDigits ds) (hrest : Closes rest) :
    readExponent (Numeral.exponentText e ++ rest) = some (e, rest) := by
  obtain _ | ⟨negative, ds⟩ := e
  · cases rest with
    | nil => rfl
    | cons c cs => rcases hrest c (by simp) with rfl | rfl | rfl <;> rfl
  · obtain ⟨hne, hd⟩ := h _ _ rfl
    have hsign : readSign ((if negative then '-' else '+') :: (ds ++ rest)) =
        (negative, ds ++ rest) := by
      cases negative <;> rfl
    rw [Numeral.exponentText, List.cons_append, List.cons_append, readExponent,
      if_pos (.inl rfl)]
    simp only [hsign, digits_append hd fun c hc => (hrest.ends c hc).1]

theorem ends_exponentText {e : Option (Bool × List Char)} {rest : List Char} (h : Closes rest) :
    Ends (Numeral.exponentText e ++ rest) := by
  cases e with
  | none => exact h.ends
  | some e =>
    intro c hc
    obtain rfl : 'e' = c := by simpa [Numeral.exponentText] using hc
    exact ⟨rfl, by decide⟩

/-- A number is read up to what closes it. -/
theorem readNumber_write {n : Numeral} (h : n.Proper) {rest : List Char} (hrest : Closes rest) :
    readNumber (n.write ++ rest) = some (n, rest) := by
  obtain ⟨negative, whole, decimals, exponent⟩ := n
  obtain ⟨⟨hne, hw, hzero⟩, hd, he⟩ := h
  dsimp only at hne hw hzero hd he
  have hends : Ends (Numeral.exponentText exponent ++ rest) := ends_exponentText hrest
  have hwhole : ∀ c ∈ (Numeral.decimalText decimals ++
      (Numeral.exponentText exponent ++ rest)).head?, c.isDigit = false := by
    intro c hc
    cases decimals with
    | nil => exact (hends c (by simpa [Numeral.decimalText] using hc)).1
    | cons d ds =>
      obtain rfl : '.' = c := by simpa [Numeral.decimalText] using hc
      rfl
  rw [Numeral.write, readNumber]
  simp only [List.append_assoc, readMinus_append hne hw, readWhole_append hne hw hzero hwhole,
    Option.bind_eq_bind, Option.bind_some, readDecimals_text hd hends, readExponent_text he hrest]

/-- A number starts with a minus or a digit. -/
theorem write_eq_cons {n : Numeral} (h : n.Proper) :
    ∃ c cs, n.write = c :: cs ∧ (c = '-' ∨ c.isDigit = true) := by
  obtain ⟨⟨hne, hw, -⟩, -, -⟩ := h
  rw [Numeral.write]
  cases n.negative with
  | true => exact ⟨'-', _, rfl, .inl rfl⟩
  | false =>
    cases hwhole : n.whole with
    | nil => exact absurd hwhole hne
    | cons d ds => exact ⟨d, _, rfl, .inr (hw d (by rw [hwhole]; simp))⟩

/-! ## 4. Values -/

/-- The characters that a value may start with. -/
def isStart (c : Char) : Bool :=
  c = 'n' || c = 't' || c = 'f' || c = '"' || c = '[' || c = '{' || c = '-' || c.isDigit

theorem isSpace_of_isStart {c : Char} (h : isStart c = true) : isSpace c = false := by
  cases hs : isSpace c with
  | false => rfl
  | true =>
    simp only [isSpace, Bool.or_eq_true, decide_eq_true_eq] at hs
    rcases hs with ((rfl | rfl) | rfl) | rfl <;> exact absurd h (by decide)

theorem chars_eq_cons {j : Json} (h : j.Proper) :
    ∃ c cs, chars j = c :: cs ∧ isStart c = true := by
  cases j with
  | null => exact ⟨_, _, rfl, rfl⟩
  | bool b => cases b <;> exact ⟨_, _, rfl, rfl⟩
  | string s => exact ⟨_, _, rfl, rfl⟩
  | array items => exact ⟨_, _, rfl, rfl⟩
  | object members => exact ⟨_, _, rfl, rfl⟩
  | number n =>
    obtain ⟨c, cs, hn, hc⟩ := write_eq_cons h
    refine ⟨c, cs, hn, ?_⟩
    rcases hc with rfl | hc <;> simp [isStart, *]

theorem length_chars_pos {j : Json} (h : j.Proper) : 0 < (chars j).length := by
  obtain ⟨c, cs, hc, -⟩ := chars_eq_cons h
  simp [hc]

theorem readValue_number {n : Numeral} (h : n.Proper) {rest : List Char} (hrest : Closes rest)
    (bound : Nat) : readValue (bound + 1) (n.write ++ rest) = some (.number n, rest) := by
  have hread := readNumber_write h hrest
  obtain ⟨c, cs, hn, hc⟩ := write_eq_cons h
  rw [hn, List.cons_append] at hread ⊢
  have hstart : isStart c = true := by rcases hc with rfl | hc <;> simp [isStart, *]
  have other : ∀ d others others', c :: others = d :: others' → (d ≠ '-' ∧ d.isDigit = false) →
      False := by
    intro d others others' he hd
    obtain rfl := (List.cons.inj he).1
    rcases hc with rfl | hc
    · exact hd.1 rfl
    · exact Bool.false_ne_true (hd.2.symm.trans hc)
  rw [readValue, skip_cons (isSpace_of_isStart hstart)]
  split
  next heq => exact (other _ _ _ heq ⟨by decide, rfl⟩).elim
  next heq => exact (other _ _ _ heq ⟨by decide, rfl⟩).elim
  next heq => exact (other _ _ _ heq ⟨by decide, rfl⟩).elim
  next heq => exact (other _ _ _ heq ⟨by decide, rfl⟩).elim
  next heq => exact (other _ _ _ heq ⟨by decide, rfl⟩).elim
  next heq => exact (other _ _ _ heq ⟨by decide, rfl⟩).elim
  next => rw [hread, Option.map_some]

/-- The characters between the brackets of an array. -/
abbrev itemText (items : List Json) : List Char := joinedWithCommas (itemChars items)

/-- The characters between the braces of an object. -/
abbrev memberText (members : List (Option String × Json)) : List Char :=
  joinedWithCommas (memberChars members)

theorem itemText_eq_cons {item : Json} (items : List Json) (h : item.Proper) :
    ∃ c cs, itemText (item :: items) = c :: cs ∧ isStart c = true := by
  obtain ⟨c, cs, hc, hstart⟩ := chars_eq_cons h
  cases items with
  | nil => exact ⟨c, cs, hc, hstart⟩
  | cons other items =>
    exact ⟨c, cs ++ ',' :: itemText (other :: items), by
      simp [itemText, itemChars, joinedWithCommas, hc], hstart⟩

theorem memberText_eq_cons (name : Option String) (value : Json)
    (members : List (Option String × Json)) :
    ∃ cs, memberText ((name, value) :: members) = '"' :: cs := by
  cases members with
  | nil => exact ⟨_, rfl⟩
  | cons other members => exact ⟨_, rfl⟩

mutual

/-- A value is read up to what closes it. -/
theorem readValue_chars : (j : Json) → j.Proper → ∀ (bound : Nat) (rest : List Char),
    2 * (chars j).length ≤ bound → Closes rest → readValue bound (chars j ++ rest) = some (j, rest)
  | .null, _, bound, rest, hb, _ => by
    obtain _ | bound := bound
    · simp [chars] at hb
    · rfl
  | .bool b, _, bound, rest, hb, _ => by
    obtain _ | bound := bound
    · cases b <;> simp [chars] at hb
    · cases b <;> rfl
  | .number n, h, bound, rest, hb, hrest => by
    have hpos : 0 < (chars (.number n)).length := length_chars_pos h
    obtain _ | bound := bound
    · omega
    · exact readValue_number h hrest bound
  | .string none, h, _, _, _, _ => by simp [Proper] at h
  | .string (some s), _, bound, rest, hb, _ => by
    obtain _ | bound := bound
    · simp [chars, escaped] at hb
    · rw [chars, escaped, Option.getD_some, List.cons_append, List.cons_append, List.append_assoc,
        readValue, skip_cons (by decide)]
      simp only [List.cons_append, List.nil_append, readString_escaped, Option.map_some]
  | .array [], _, bound, rest, hb, _ => by
    obtain _ | bound := bound
    · simp [chars] at hb
    · rfl
  | .array (item :: items), h, bound, rest, hb, _ => by
    have hlen : (chars (.array (item :: items))).length =
        (itemText (item :: items)).length + 2 := by simp [chars]
    obtain _ | bound := bound
    · omega
    have hread := readItems_text (item :: items) (by simp) h bound rest (by omega)
    obtain ⟨c, cs, hc, hstart⟩ := itemText_eq_cons items h.1
    rw [chars, List.cons_append, List.cons_append, List.append_assoc, readValue,
      skip_cons (by decide)]
    rw [hc] at hread
    simp only [hc, List.cons_append, List.nil_append, skip_cons (isSpace_of_isStart hstart)]
    split
    next heq =>
      rw [(List.cons.inj heq).1] at hstart
      exact absurd hstart (by decide)
    next => rw [← List.cons_append, hread, Option.map_some]
  | .object [], _, bound, rest, hb, _ => by
    obtain _ | bound := bound
    · simp [chars] at hb
    · rfl
  | .object ((name, value) :: members), h, bound, rest, hb, _ => by
    have hlen : (chars (.object ((name, value) :: members))).length =
        (memberText ((name, value) :: members)).length + 2 := by simp [chars]
    obtain _ | bound := bound
    · omega
    have hread := readMembers_text ((name, value) :: members) (by simp) h bound rest (by omega)
    obtain ⟨cs, hc⟩ := memberText_eq_cons name value members
    rw [chars, List.cons_append, List.cons_append, List.append_assoc, readValue,
      skip_cons (by decide)]
    rw [hc, List.cons_append] at hread
    simp only [hc, List.cons_append, List.nil_append,
      skip_cons (show isSpace '"' = false by decide)]
    split
    next heq => exact absurd (List.cons.inj heq).1 (by decide)
    next => rw [hread, Option.map_some]

/-- The items of an array are read up to its closing bracket. -/
theorem readItems_text : (items : List Json) → items ≠ [] → AllProper items →
    ∀ (bound : Nat) (rest : List Char), 2 * (itemText items).length + 1 ≤ bound →
      readItems bound (itemText items ++ ']' :: rest) = some (items, rest)
  | [], hne, _, _, _, _ => absurd rfl hne
  | [item], _, h, bound, rest, hb => by
    obtain _ | bound := bound
    · omega
    have hread := readValue_chars item h.1 bound (']' :: rest)
      (by simp only [itemText, itemChars, joinedWithCommas] at hb; omega) (by simp [Closes])
    rw [readItems, show itemText [item] = chars item from rfl, hread]
    simp only [skip_cons (show isSpace ']' = false by decide)]
  | item :: other :: items, _, h, bound, rest, hb => by
    have hlen : (itemText (item :: other :: items)).length =
        (chars item).length + (itemText (other :: items)).length + 1 := by
      simp [itemText, itemChars, joinedWithCommas]
      omega
    obtain _ | bound := bound
    · omega
    have hread := readValue_chars item h.1 bound (',' :: (itemText (other :: items) ++ ']' :: rest))
      (by omega) (by simp [Closes])
    have hothers := readItems_text (other :: items) (by simp) h.2 bound rest (by omega)
    rw [readItems, show itemText (item :: other :: items) ++ ']' :: rest =
      chars item ++ ',' :: (itemText (other :: items) ++ ']' :: rest) by
        simp [itemText, itemChars, joinedWithCommas], hread]
    simp only [skip_cons (show isSpace ',' = false by decide), hothers, Option.map_some]

/-- The members of an object are read up to its closing brace. -/
theorem readMembers_text : (members : List (Option String × Json)) → members ≠ [] →
    MembersProper members → ∀ (bound : Nat) (rest : List Char),
      2 * (memberText members).length + 1 ≤ bound →
      readMembers bound (memberText members ++ '}' :: rest) = some (members, rest)
  | [], hne, _, _, _, _ => absurd rfl hne
  | (none, _) :: _, _, h, _, _, _ => by simp [MembersProper] at h
  | [(some name, value)], _, h, bound, rest, hb => by
    have hlen : (memberText [(some name, value)]).length =
        (escaped name).length + (chars value).length + 1 := by
      simp [memberText, memberChars, joinedWithCommas]
      omega
    obtain _ | bound := bound
    · omega
    have hread := readValue_chars value h.2.1 bound ('}' :: rest) (by omega) (by simp [Closes])
    rw [readMembers, show memberText [(some name, value)] ++ '}' :: rest =
      '"' :: (name.toList.flatMap escapedChar ++ '"' :: ':' :: (chars value ++ '}' :: rest)) by
        simp [memberText, memberChars, joinedWithCommas, escaped]]
    simp only [skip_cons (show isSpace '"' = false by decide), readString_escaped,
      skip_cons (show isSpace ':' = false by decide), hread,
      skip_cons (show isSpace '}' = false by decide)]
  | (some name, value) :: other :: members, _, h, bound, rest, hb => by
    have hlen : (memberText ((some name, value) :: other :: members)).length =
        (escaped name).length + (chars value).length +
          (memberText (other :: members)).length + 2 := by
      obtain ⟨otherName, otherValue⟩ := other
      simp [memberText, memberChars, joinedWithCommas]
      omega
    obtain _ | bound := bound
    · omega
    have hread := readValue_chars value h.2.1 bound
      (',' :: (memberText (other :: members) ++ '}' :: rest)) (by omega) (by simp [Closes])
    have hothers := readMembers_text (other :: members) (by simp) h.2.2 bound rest (by omega)
    rw [readMembers, show memberText ((some name, value) :: other :: members) ++ '}' :: rest =
      '"' :: (name.toList.flatMap escapedChar ++ '"' :: ':' :: (chars value ++ ',' ::
        (memberText (other :: members) ++ '}' :: rest))) by
        obtain ⟨otherName, otherValue⟩ := other
        simp [memberText, memberChars, joinedWithCommas, escaped]]
    simp only [skip_cons (show isSpace '"' = false by decide), readString_escaped,
      skip_cons (show isSpace ':' = false by decide), hread,
      skip_cons (show isSpace ',' = false by decide), hothers, Option.map_some]

end

/-- **A tree can be read from the text that is written for it.** -/
theorem read?_write {j : Json} (h : j.Proper) : read? j.write = some j := by
  have hread := readValue_chars j h (2 * (chars j).length + 2) [] (by omega) (by simp [Closes])
  rw [List.append_nil] at hread
  rw [read?, write, String.toList_ofList]
  simp [hread, skip]

/-- Reading a text that was written is reading its tree. -/
theorem decode?_write {α : Type} (value : Json → Option α) {j : Json} (h : j.Proper) :
    decode? value j.write = value j := by
  rw [decode?, read?_write h, Option.bind_some]

end Json

end OnCall
