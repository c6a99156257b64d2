import OnCall.Investigation.Hibernation

/-!
# Looking back

Whether a moment lies within a window that ends now is asked in two ways: the history of
restrictions is cut off at the start of the window, and a resume is recent if no more time than the
window has passed since. The first goes back from now and stops at the earliest moment, the second
measures a distance that may be negative.

* `Instant.nanos`: a moment as a whole number, without bounds.
* `Instant.nanos_back`, `Instant.since_eq_sub`: **both computations in whole numbers**, for moments
  that are no leap seconds.
* `Instant.look_backs_agree`: going back is exact and monotone, and the two ways agree.
-/

namespace OnCall.Instant

variable {a b now t : Instant} {span window : Span}

/-! ## 1. Moments as whole numbers -/

/-- The nanoseconds from the start of 1970 to a moment, negative before it. -/
def nanos (a : Instant) : Int := a.second * nanosPerSecond + a.nano

theorem isLeap_eq_false_iff : a.isLeap = false ↔ a.nano < nanosPerSecond := by
  rw [isLeap, decide_eq_false_iff_not, Nat.not_le]

/-- Where there are no leap seconds, the order is that of the numbers. -/
theorem le_iff_nanos_le (ha : a.isLeap = false) (hb : b.isLeap = false) :
    a ≤ b ↔ a.nanos ≤ b.nanos := by
  have whole : nanosPerSecond = 1_000_000_000 := rfl
  have shortA := isLeap_eq_false_iff.mp ha
  have shortB := isLeap_eq_false_iff.mp hb
  rw [whole] at shortA shortB
  simp only [le_def, nanos, whole]
  omega

/-- Where there are no leap seconds, a distance is the difference of the numbers. -/
theorem since_eq_sub (ha : a.isLeap = false) (hb : b.isLeap = false) :
    a.since b = a.nanos - b.nanos := by
  have whole : nanosPerSecond = 1_000_000_000 := rfl
  simp only [since, ha, hb, Bool.false_eq_true, and_false, if_false, Int.add_zero, nanos, whole]
  omega

theorem earliest_nanos_le (a : Instant) : earliest.nanos ≤ a.nanos := by
  have whole : nanosPerSecond = 1_000_000_000 := rfl
  have first := a.earliest_le
  simp only [nanos, earliest, whole]
  omega

/-! ## 2. Going back -/

/-- A second that is not too late and the nanoseconds beyond it make their moment, or the earliest
one. -/
theorem of?_getD_eq (second : Int) (nano : Nat) (latest : second ≤ 8_210_266_876_799)
    (short : nano < nanosPerSecond) :
    ((of? second nano).getD earliest).isLeap = false ∧
      ((of? second nano).getD earliest).nanos =
        max (second * nanosPerSecond + nano) earliest.nanos := by
  have whole : nanosPerSecond = 1_000_000_000 := rfl
  have first : earliest.nanos = -8_334_601_228_800 * nanosPerSecond := by decide
  by_cases inside : -8_334_601_228_800 ≤ second
  · have made : of? second nano = some ⟨second, nano, inside, latest, by omega, by omega⟩ :=
      dif_pos ⟨⟨inside, latest⟩, by omega, by omega⟩
    rw [made, Option.getD_some, isLeap_eq_false_iff, first]
    refine ⟨short, ?_⟩
    simp only [nanos, whole]
    omega
  · have beyond : of? second nano = none := dif_neg fun made => inside made.1.1
    rw [beyond, Option.getD_none, first]
    refine ⟨rfl, ?_⟩
    rw [whole] at short ⊢
    omega

/-- **Going back is a subtraction** that stops at the earliest moment, and it leads to no leap
second. -/
theorem back_eq (ha : a.isLeap = false) (span : Span) :
    (a.back span).isLeap = false ∧
      (a.back span).nanos = max (a.nanos - span.nanos) earliest.nanos := by
  have whole : nanosPerSecond = 1_000_000_000 := rfl
  have short := isLeap_eq_false_iff.mp ha
  have sub : span.subsecond < nanosPerSecond := Nat.mod_lt _ (by decide)
  have parts : span.nanos = span.seconds * nanosPerSecond + span.subsecond :=
    (Nat.div_add_mod' _ _).symm
  have latest := a.le_latest
  rw [whole] at short sub parts
  simp only [back, ha, Bool.false_eq_true, if_false]
  by_cases borrows : (a.nano : Int) - span.subsecond < 0
  · -- a second is broken into its nanoseconds
    simp only [if_pos borrows]
    obtain ⟨plain, number⟩ := of?_getD_eq (a.second - span.seconds - 1)
      ((a.nano : Int) - span.subsecond + nanosPerSecond).toNat (by omega) (by omega)
    refine ⟨plain, number.trans (congrArg (max · earliest.nanos) ?_)⟩
    simp only [nanos, whole]
    omega
  · simp only [if_neg borrows]
    obtain ⟨plain, number⟩ := of?_getD_eq (a.second - span.seconds)
      ((a.nano : Int) - span.subsecond).toNat (by omega) (by omega)
    refine ⟨plain, number.trans (congrArg (max · earliest.nanos) ?_)⟩
    simp only [nanos, whole]
    omega

/-- A longer window begins no later. -/
theorem back_antitone (ha : a.isLeap = false) {window window' : Span} (longer : window ≤ window') :
    a.back window' ≤ a.back window := by
  obtain ⟨plain, number⟩ := back_eq ha window
  obtain ⟨plain', number'⟩ := back_eq ha window'
  have longer : window.nanos ≤ window'.nanos := longer
  rw [le_iff_nanos_le plain' plain, number, number']
  omega

/-- A window that ends later begins no earlier. -/
theorem back_mono (ha : a.isLeap = false) (hb : b.isLeap = false) (later : a ≤ b) (window : Span) :
    a.back window ≤ b.back window := by
  obtain ⟨plain, number⟩ := back_eq ha window
  obtain ⟨plain', number'⟩ := back_eq hb window
  rw [le_iff_nanos_le ha hb] at later
  rw [le_iff_nanos_le plain plain', number, number']
  omega

/-- **A moment is not before the start of a window iff no more than the window has passed since.** -/
theorem back_le_iff (hnow : now.isLeap = false) (ht : t.isLeap = false) (window : Span) :
    now.back window ≤ t ↔ now.since t ≤ window.nanos := by
  obtain ⟨plain, number⟩ := back_eq hnow window
  have first := earliest_nanos_le t
  rw [le_iff_nanos_le plain ht, since_eq_sub hnow ht, number]
  omega

/-! ## 3. The two ways -/

/-- **The two ways to look back agree.** For moments that are no leap seconds and any window, the
start of the window is the difference of now and the window in whole numbers, or the earliest moment
if that is later; so it is never after now, no later for a longer window, and no earlier for a later
now. And a moment is not before it exactly if a cluster that was resumed at this moment counts as
resumed within the window, whenever it fell asleep. -/
theorem look_backs_agree {now : Instant} (hnow : now.isLeap = false) (window : Span) :
    (now.back window).isLeap = false ∧
    (now.back window).nanos = max (now.nanos - window.nanos) earliest.nanos ∧
    now.back window ≤ now ∧
    (∀ window', window ≤ window' → now.back window' ≤ now.back window) ∧
    (∀ now' : Instant, now'.isLeap = false → now ≤ now' → now.back window ≤ now'.back window) ∧
    ∀ t hibernatedAt : Instant, t.isLeap = false →
      (now.back window ≤ t ↔
        HibernationPeriod.resumedWithin [⟨hibernatedAt, some t⟩] now window = true) := by
  obtain ⟨plain, number⟩ := back_eq hnow window
  refine ⟨plain, number, back_le now window, fun _ longer => back_antitone hnow longer,
    fun _ hnow' later => back_mono hnow hnow' later window, fun t hibernatedAt ht => ?_⟩
  have measured : HibernationPeriod.resumedWithin [⟨hibernatedAt, some t⟩] now window =
      decide (now.since t ≤ window.nanos) := rfl
  rw [measured, decide_eq_true_iff]
  exact back_le_iff hnow ht window

/-- The greatest window begins at the earliest moment, so every resume is within it. A window of two
hours has its first nanosecond within it, and not the one before. -/
theorem look_backs_agree_at_edges :
    let window := Span.ofSeconds 7_200
    let first := epoch.back window
    let before := epoch.back (.ofNanos (7_200 * nanosPerSecond + 1))
    epoch.isLeap = false ∧ epoch.back .greatest = earliest ∧
    (earliest.isLeap = false ∧
      HibernationPeriod.resumedWithin [⟨epoch, some earliest⟩] epoch .greatest = true) ∧
    (first.isLeap = false ∧
      HibernationPeriod.resumedWithin [⟨epoch, some first⟩] epoch window = true) ∧
    before.isLeap = false ∧
      HibernationPeriod.resumedWithin [⟨epoch, some before⟩] epoch window = false := by
  intro window first before
  have plain : epoch.isLeap = false := by decide
  have whole : epoch.back .greatest = earliest := by decide
  obtain ⟨_, _, _, _, _, greatest⟩ := look_backs_agree plain .greatest
  obtain ⟨started, _, _, _, _, agree⟩ := look_backs_agree plain window
  have earlier : before.isLeap = false := by decide
  refine ⟨plain, whole, ⟨by decide, ?_⟩, ⟨started, ?_⟩, earlier, ?_⟩
  · exact (greatest earliest epoch (by decide)).mp (whole ▸ le_refl earliest)
  · exact (agree first epoch started).mp (le_refl first)
  · rw [← Bool.not_eq_true, ← agree before epoch earlier]
    decide

end OnCall.Instant
