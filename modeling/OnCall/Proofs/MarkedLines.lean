import Mathlib.Data.List.DropRight
import OnCall.Text.Blank
import OnCall.Text.Occurs

/-!
# Lines with a mark

What matters of an output are the lines in which a mark stands, without the blanks around them. So
it does not matter whether lines end with a carriage return, nor whether blanks stand around the
whole output, and outputs can be put one behind the other.

* `Text.pieces_eq_splitOn`: the pieces between line feeds are the list split at them.
* `Text.Solid`: a text that blanks around it do not touch; `Text.Solid.occurs_trim` finds it in a
  trimmed line exactly if it stands in the line.
* `Text.marked`: the lines with a mark; `Text.marked_append` and `Text.marked_trim` are their laws.
* `Text.marked_lines`: **the lines of a text, trimmed and then searched, are the marked ones**.
* `Text.marked_joined`: **marked lines put together as a text are its marked lines**.
-/

namespace OnCall.Text

/-! ## 1. Pieces between line feeds -/

section Pieces

variable {c : Char} {cs text line : List Char}

theorem splitOn_feed (cs : List Char) : ('\n' :: cs).splitOn '\n' = [] :: cs.splitOn '\n' := by
  rw [List.splitOn_eq_splitOnP, List.splitOnP_cons_eq_if_modifyHead, List.splitOn_eq_splitOnP]
  rfl

/-- A character that is no line feed goes to the first piece. -/
theorem splitOn_cons {first : List Char} {others : List (List Char)} (other : c ≠ '\n')
    (split : cs.splitOn '\n' = first :: others) :
    (c :: cs).splitOn '\n' = (c :: first) :: others := by
  rw [List.splitOn_eq_splitOnP] at split ⊢
  have no : ¬ (c == '\n') = true := fun same => other (eq_of_beq same)
  rw [List.splitOnP_cons_eq_if_modifyHead, if_neg no, split]
  rfl

theorem exists_splitOn (cs : List Char) : ∃ first others, cs.splitOn '\n' = first :: others :=
  List.exists_cons_of_ne_nil (List.splitOn_ne_nil '\n' cs)

theorem splitOn_append (cs text : List Char) :
    (cs ++ '\n' :: text).splitOn '\n' = cs.splitOn '\n' ++ text.splitOn '\n' := by
  rw [List.splitOn_eq_splitOnP, List.splitOn_eq_splitOnP, List.splitOn_eq_splitOnP]
  exact List.splitOnP_append_cons cs text rfl

theorem splitOn_of_not_mem (no : '\n' ∉ cs) : cs.splitOn '\n' = [cs] := by
  rw [List.splitOn_eq_splitOnP]
  refine List.splitOnP_eq_singleton fun c mem => beq_false_of_ne ?_
  rintro rfl
  exact no mem

/-- A piece holds no line feed. -/
theorem feed_not_mem (mem : line ∈ cs.splitOn '\n') : '\n' ∉ line := by
  induction cs generalizing line with
  | nil =>
    rw [List.splitOn_nil, List.mem_singleton] at mem
    rw [mem]
    exact List.not_mem_nil
  | cons c cs ih =>
    by_cases feed : c = '\n'
    · rw [feed, splitOn_feed, List.mem_cons] at mem
      rcases mem with rfl | mem
      · exact List.not_mem_nil
      · exact ih mem
    · obtain ⟨first, others, split⟩ := exists_splitOn cs
      rw [splitOn_cons feed split, List.mem_cons] at mem
      rcases mem with rfl | mem
      · rw [List.mem_cons, not_or]
        exact ⟨Ne.symm feed, ih (by rw [split]; exact List.mem_cons_self)⟩
      · exact ih (by rw [split]; exact List.mem_cons_of_mem _ mem)

/-- **The pieces of a text are the text split at its line feeds.** -/
theorem pieces_eq_splitOn (cs : List Char) : (pieces cs).1 :: (pieces cs).2 = cs.splitOn '\n' := by
  induction cs with
  | nil => rfl
  | cons c cs ih =>
    unfold pieces
    by_cases feed : c = '\n'
    · simp only [if_pos feed, ih]
      rw [feed, splitOn_feed]
    · simp only [if_neg feed]
      exact (splitOn_cons feed ih.symm).symm

end Pieces

/-! ## 2. Blanks around a line -/

section Blanks

variable {b : Char} {cs line part : List Char}

theorem trimStart_blank (blank : isBlank b = true) : trimStart (b :: cs) = trimStart cs :=
  List.dropWhile_cons_of_pos blank

theorem trim_blank (blank : isBlank b = true) : trim (b :: line) = trim line := by
  rw [trim, trimStart_blank blank, trim]

/-- If there are only blanks in front, what follows counts, else it stays as it is. -/
theorem trimStart_append (front rest : List Char) :
    trimStart (front ++ rest) =
      if trimStart front = [] then trimStart rest else trimStart front ++ rest := by
  unfold trimStart
  rw [List.dropWhile_append]
  simp only [List.isEmpty_iff]

/-- A blank at the end of a line does not matter, whether or not there is anything else on it. -/
theorem trim_append_blank (blank : isBlank b = true) : trim (line ++ [b]) = trim line := by
  unfold trim
  rw [trimStart_append]
  by_cases empty : trimStart line = []
  · rw [if_pos empty, trimStart_blank blank, empty]
    rfl
  · rw [if_neg empty, List.reverse_append, List.reverse_singleton, List.singleton_append,
      trimStart_blank blank]

theorem trim_withoutReturn (line : List Char) : trim (withoutReturn line) = trim line := by
  unfold withoutReturn
  by_cases ends : line.getLast? = some '\r'
  · obtain ⟨start, rfl⟩ := List.getLast?_eq_some_iff.mp ends
    rw [if_pos ends, List.dropLast_concat, trim_append_blank (by decide)]
  · rw [if_neg ends]

theorem trimStart_suffix (cs : List Char) : trimStart cs <:+ cs := List.dropWhile_suffix _

/-- Once the blanks at its start are cut off, only the end of a line is. -/
theorem trim_front (line : List Char) : trim line <+: trimStart line := by
  rw [← List.reverse_suffix, trim, List.reverse_reverse]
  exact trimStart_suffix _

/-- What is left of a line stood in it. -/
theorem trim_infix (line : List Char) : trim line <:+: line :=
  (trim_front line).isInfix.trans (trimStart_suffix line).isInfix

theorem trimStart_trimStart (cs : List Char) : trimStart (trimStart cs) = trimStart cs :=
  List.dropWhile_idempotent _ _

/-- What starts with no blank still does when it is cut off at the end. -/
theorem trimStart_of_prefix {front : List Char} (starts : trimStart cs = cs) (pre : front <+: cs) :
    trimStart front = front := by
  cases front with
  | nil => rfl
  | cons c front =>
    obtain ⟨rest, rfl⟩ := pre
    by_cases blank : isBlank c = true
    · have shorter : (trimStart (c :: (front ++ rest))).length ≤ (front ++ rest).length := by
        rw [trimStart_blank blank]
        exact (trimStart_suffix _).length_le
      rw [← List.cons_append, starts, List.cons_append, List.length_cons] at shorter
      omega
    · exact trimStart_cons (Bool.eq_false_iff.mpr blank)

theorem trim_trim (line : List Char) : trim (trim line) = trim line := by
  have starts : trimStart (trim line) = trim line :=
    trimStart_of_prefix (trimStart_trimStart line) (trim_front line)
  have back : (trim line).reverse = trimStart (trimStart line).reverse := by
    rw [trim, List.reverse_reverse]
  rw [trim, starts, back, trimStart_trimStart, ← back, List.reverse_reverse]

/-- **A text that blanks around it do not touch**: it has a character at either end that is none. -/
structure Solid (part : List Char) : Prop where
  starts : ∀ rest, trimStart (part ++ rest) = part ++ rest
  ends : ∀ rest, trimStart (part.reverse ++ rest) = part.reverse ++ rest

theorem Solid.ne_nil (solid : Solid part) : part ≠ [] := by
  rintro rfl
  have stays := solid.starts ['\n']
  rw [List.nil_append, trimStart_blank (by decide)] at stays
  cases stays

theorem trimStart_append_solid (front : List Char) {rest : List Char}
    (starts : trimStart rest = rest) : trimStart (front ++ rest) = trimStart front ++ rest := by
  rw [trimStart_append]
  by_cases empty : trimStart front = []
  · rw [if_pos empty, empty, starts, List.nil_append]
  · rw [if_neg empty]

/-- **A solid text stands in a line exactly if it stands in the line without its blanks.** -/
theorem Solid.occurs_trim (solid : Solid part) (line : List Char) :
    occurs part (trim line) = occurs part line := by
  rw [Bool.eq_iff_iff, occurs_iff, occurs_iff]
  constructor
  · rintro ⟨before, after, split⟩
    obtain ⟨front, back, whole⟩ := trim_infix line
    refine ⟨front ++ before, after ++ back, ?_⟩
    rw [← whole, split]
    simp only [List.append_assoc]
  · rintro ⟨before, after, rfl⟩
    refine ⟨trimStart before, (trimStart after.reverse).reverse, ?_⟩
    have front : trimStart (before ++ (part ++ after)) = trimStart before ++ (part ++ after) :=
      trimStart_append_solid before (solid.starts after)
    have back : trimStart (after.reverse ++ (part.reverse ++ (trimStart before).reverse)) =
        trimStart after.reverse ++ (part.reverse ++ (trimStart before).reverse) :=
      trimStart_append_solid _ (solid.ends _)
    rw [trim, List.append_assoc, front]
    simp only [List.reverse_append, List.append_assoc, back, List.reverse_reverse]

end Blanks

/-! ## 3. The lines with a mark -/

/-- **The lines in which a mark stands**, without the blanks around them. -/
def marked (mark text : List Char) : List (List Char) :=
  ((text.splitOn '\n').filter (occurs mark)).map trim

section Marked

variable {mark : List Char} {b : Char} {line : List Char}

theorem occurs_nil (solid : Solid mark) : occurs mark [] = false := by
  rw [occurs]
  exact List.isEmpty_eq_false_iff.mpr solid.ne_nil

/-- Trimming before the search finds the same lines. -/
theorem marked_eq (solid : Solid mark) (text : List Char) :
    marked mark text = ((text.splitOn '\n').map trim).filter (occurs mark) := by
  have same : occurs mark ∘ trim = occurs mark := funext solid.occurs_trim
  rw [marked, List.filter_map, same]

theorem marked_append (mark cs text : List Char) :
    marked mark (cs ++ '\n' :: text) = marked mark cs ++ marked mark text := by
  unfold marked
  rw [splitOn_append, List.filter_append, List.map_append]

/-- The only line of a text. -/
theorem marked_of_not_mem (solid : Solid mark) (no : '\n' ∉ line) :
    marked mark line = [trim line].filter (occurs mark) := by
  rw [marked_eq solid, splitOn_of_not_mem no, List.map_singleton]

theorem marked_nil (solid : Solid mark) : marked mark [] = [] := by
  have none : ¬ occurs mark [] = true := by
    rw [occurs_nil solid]
    exact Bool.false_ne_true
  rw [marked_of_not_mem solid List.not_mem_nil]
  exact List.filter_cons_of_neg none

/-- A blank in front of a text does not matter, be it a line feed or in the first line. -/
theorem marked_blank (solid : Solid mark) (blank : isBlank b = true) (cs : List Char) :
    marked mark (b :: cs) = marked mark cs := by
  by_cases feed : b = '\n'
  · have front := marked_append mark [] cs
    rw [marked_nil solid] at front
    rw [feed]
    exact front
  · obtain ⟨first, others, split⟩ := exists_splitOn cs
    rw [marked_eq solid, marked_eq solid, splitOn_cons feed split, split, List.map_cons,
      trim_blank blank, List.map_cons]

/-- A blank behind a text does not matter. The induction goes line by line, since the last line is
the one that is longer. -/
theorem marked_append_blank (solid : Solid mark) (blank : isBlank b = true) (cs : List Char) :
    marked mark (cs ++ [b]) = marked mark cs := by
  by_cases ends : '\n' ∈ cs
  · obtain ⟨first, rest, rfl, _⟩ := List.eq_append_cons_of_mem ends
    have shorter : rest.length < (first ++ '\n' :: rest).length := by
      rw [List.length_append, List.length_cons]
      omega
    rw [List.append_assoc, List.cons_append, marked_append, marked_append,
      marked_append_blank solid blank rest]
  · by_cases feed : b = '\n'
    · rw [feed, marked_append, marked_nil solid, List.append_nil]
    · have no : '\n' ∉ cs ++ [b] := by
        rw [List.mem_append, List.mem_singleton, not_or]
        exact ⟨ends, Ne.symm feed⟩
      rw [marked_of_not_mem solid no, marked_of_not_mem solid ends, trim_append_blank blank]
termination_by cs.length

/-- **Blanks around a text do not matter.** -/
theorem marked_trim (solid : Solid mark) (cs : List Char) :
    marked mark (trim cs) = marked mark cs := by
  have front : ∀ cs, marked mark (trimStart cs) = marked mark cs := by
    intro cs
    induction cs with
    | nil => rfl
    | cons c cs ih =>
      by_cases blank : isBlank c = true
      · rw [trimStart_blank blank, ih, marked_blank solid blank]
      · rw [trimStart_cons (Bool.eq_false_iff.mpr blank)]
  have back : ∀ cs, marked mark (trimStart cs).reverse = marked mark cs.reverse := by
    intro cs
    induction cs with
    | nil => rfl
    | cons c cs ih =>
      by_cases blank : isBlank c = true
      · rw [trimStart_blank blank, ih, List.reverse_cons, marked_append_blank solid blank]
      · rw [trimStart_cons (Bool.eq_false_iff.mpr blank)]
  rw [trim, back, List.reverse_reverse, front]

/-- **The lines of a text, trimmed and then searched**, are the marked ones: the carriage returns
that are dropped are blanks, and a last line that is empty holds no mark. -/
theorem marked_lines (solid : Solid mark) (cs : List Char) :
    ((lines cs).map trim).filter (occurs mark) = marked mark cs := by
  rw [marked_eq solid, ← pieces_eq_splitOn]
  unfold lines
  cases turned : ((pieces cs).1 :: (pieces cs).2).reverse with
  | nil => cases List.reverse_eq_nil_iff.mp turned
  | cons last ended =>
    have whole : (pieces cs).1 :: (pieces cs).2 = ended.reverse ++ [last] := by
      rw [← List.reverse_reverse (_ :: _), turned, List.reverse_cons]
    have inner : (ended.reverse.map withoutReturn).map trim = ended.reverse.map trim := by
      rw [List.map_map]
      exact List.map_congr_left fun l _ => trim_withoutReturn l
    have outer : ((if last.isEmpty then [] else [last]).map trim).filter (occurs mark) =
        ([last].map trim).filter (occurs mark) := by
      by_cases empty : last.isEmpty = true
      · rw [if_pos empty, List.isEmpty_iff.mp empty]
        exact (marked_nil solid).symm.trans (marked_of_not_mem solid List.not_mem_nil)
      · rw [if_neg empty]
    simp only [turned]
    rw [whole, List.map_append, List.map_append, List.filter_append, List.filter_append, inner,
      outer]

/-- **Marked lines put together as a text** are its marked lines again. -/
theorem marked_joined {found : List (List Char)} (some : found ≠ [])
    (trimmed : ∀ l ∈ found, trim l = l) (whole : ∀ l ∈ found, '\n' ∉ l)
    (there : ∀ l ∈ found, occurs mark l = true) :
    marked mark (['\n'].intercalate found) = found := by
  rw [marked, List.splitOn_intercalate '\n' whole some, List.filter_eq_self.mpr there]
  exact (List.map_congr_left trimmed).trans (List.map_id _)

end Marked

end OnCall.Text
