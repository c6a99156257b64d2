import Mathlib.Data.List.Sort
import OnCall.Tool.CloudCli

/-!
# Events put together

The look-ups of several instances may tell of the same event. They are put together: each event
once, as it was told first, and by time.

* `AuditEvent.firstWith`, `AuditEvent.place`: the first event with an id, and where it stands.
* `AuditEvent.Merged`: what the events of all look-ups are put together to.
* `AuditEvent.Collected`: the events collected so far; `AuditEvent.Collected.step` adds one more and
  `AuditEvent.Collected.mergeEvents` all of a reply.
* `AuditEvent.merged_iff`: **the events are put together as `Merged` says**, and only so.
* `AuditEvent.Merged.of_perm`: if events of one id or of one time are equal, **the order in which
  they were told does not matter**.
-/

namespace OnCall

theorem Instant.le_antisymm {a b : Instant} (before : a ≤ b) (after : b ≤ a) : a = b := by
  rw [Instant.le_def] at before after
  have second : a.second = b.second := by omega
  have nano : a.nano = b.nano := by omega
  cases a
  cases b
  cases second
  cases nano
  rfl

namespace AuditEvent

variable {all all' known events : List AuditEvent} {e : AuditEvent} {id : String}

/-! ## 1. First appearances -/

/-- The first event with an id. -/
def firstWith (all : List AuditEvent) (id : String) : Option AuditEvent :=
  all.find? fun e => e.eventId = id

/-- Where the first event with an id stands. -/
def place (all : List AuditEvent) (id : String) : Nat := all.findIdx fun e => e.eventId = id

theorem eventId_of_firstWith (first : firstWith all id = some e) : e.eventId = id :=
  of_decide_eq_true (List.find?_some (p := fun e : AuditEvent => e.eventId = id) first)

theorem mem_of_firstWith (first : firstWith all id = some e) : e ∈ all :=
  List.mem_of_find?_eq_some first

theorem exists_firstWith (mem : e ∈ all) : ∃ first, firstWith all e.eventId = some first :=
  Option.isSome_iff_exists.mp (List.find?_isSome.mpr ⟨e, mem, decide_eq_true rfl⟩)

theorem firstWith_append (first : firstWith all id = some e) (more : List AuditEvent) :
    firstWith (all ++ more) id = some e := by
  unfold firstWith at first ⊢
  rw [List.find?_append, first]
  rfl

theorem place_lt (first : firstWith all id = some e) : place all id < all.length :=
  List.findIdx_lt_length.mpr
    ⟨e, mem_of_firstWith first, decide_eq_true (eventId_of_firstWith first)⟩

theorem place_append (first : firstWith all id = some e) (more : List AuditEvent) :
    place (all ++ more) id = place all id := by
  have inside := place_lt first
  unfold place at inside ⊢
  rw [List.findIdx_append, if_pos inside]

/-- An event whose id is new comes last. -/
theorem firstWith_new (new : firstWith all e.eventId = none) :
    firstWith (all ++ [e]) e.eventId = some e := by
  unfold firstWith at new ⊢
  rw [List.find?_append, new]
  simp

theorem length_le_place_new (new : firstWith all e.eventId = none) :
    all.length ≤ place (all ++ [e]) e.eventId := by
  have absent : ¬ all.findIdx (fun a => a.eventId = e.eventId) < all.length := by
    intro inside
    obtain ⟨a, mem, same⟩ := List.findIdx_lt_length.mp inside
    exact List.find?_eq_none.mp new a mem same
  unfold place
  rw [List.findIdx_append, if_neg absent]
  omega

/-! ## 2. Collecting -/

/-- **One event for each id, by time.** Of the events with the same id the first counts, and events
of the same time stand as their ids appeared. -/
structure Merged (all events : List AuditEvent) : Prop where
  sorted : events.Pairwise fun a b => a.eventTime ≤ b.eventTime
  distinct : events.Pairwise fun a b => a.eventId ≠ b.eventId
  ids : ∀ id, (∃ e ∈ events, e.eventId = id) ↔ ∃ e ∈ all, e.eventId = id
  first : ∀ e ∈ events, firstWith all e.eventId = some e
  stable : events.Pairwise fun a b =>
    a.eventTime = b.eventTime → place all a.eventId < place all b.eventId

/-- **The events collected so far**: the first one for each id, as they appeared. -/
structure Collected (all known : List AuditEvent) : Prop where
  first : ∀ e ∈ known, firstWith all e.eventId = some e
  ids : ∀ e ∈ all, ∃ k ∈ known, k.eventId = e.eventId
  ordered : known.Pairwise fun a b => place all a.eventId < place all b.eventId

/-- An event is added if its id is new. -/
theorem Collected.step (collected : Collected all known) (e : AuditEvent) :
    Collected (all ++ [e])
      (if known.any fun k => k.eventId = e.eventId then known else known ++ [e]) := by
  have kept : ∀ k ∈ known, firstWith (all ++ [e]) k.eventId = some k :=
    fun k mem => firstWith_append (collected.first k mem) [e]
  have places : ∀ k ∈ known, place (all ++ [e]) k.eventId = place all k.eventId :=
    fun k mem => place_append (collected.first k mem) [e]
  have ordered : known.Pairwise fun a b =>
      place (all ++ [e]) a.eventId < place (all ++ [e]) b.eventId := by
    refine collected.ordered.imp_of_mem fun ha hb before => ?_
    rw [places _ ha, places _ hb]
    exact before
  by_cases old : (known.any fun k => k.eventId = e.eventId) = true
  · rw [if_pos old]
    obtain ⟨k, mem, same⟩ := List.any_eq_true.mp old
    refine ⟨kept, fun a told => ?_, ordered⟩
    rcases List.mem_append.mp told with told | told
    · exact collected.ids a told
    · rw [List.mem_singleton.mp told]
      exact ⟨k, mem, of_decide_eq_true same⟩
  · rw [if_neg old]
    have new : firstWith all e.eventId = none := by
      rw [firstWith, List.find?_eq_none]
      intro a mem same
      obtain ⟨k, isKnown, id⟩ := collected.ids a mem
      exact old (List.any_eq_true.mpr ⟨k, isKnown, by simpa [id] using same⟩)
    refine ⟨fun k mem => ?_, fun a told => ?_, List.pairwise_append.mpr
      ⟨ordered, List.pairwise_singleton _ _, fun k mem b last => ?_⟩⟩
    · rcases List.mem_append.mp mem with mem | mem
      · exact kept k mem
      · rw [List.mem_singleton.mp mem]
        exact firstWith_new new
    · rcases List.mem_append.mp told with told | told
      · obtain ⟨k, mem, id⟩ := collected.ids a told
        exact ⟨k, List.mem_append_left _ mem, id⟩
      · exact ⟨e, List.mem_append_right _ (List.mem_singleton_self e),
          by rw [List.mem_singleton.mp told]⟩
    · rw [List.mem_singleton.mp last, places k mem]
      exact Nat.lt_of_lt_of_le (place_lt (collected.first k mem)) (length_le_place_new new)

/-- **The events of a reply are added one by one.** -/
theorem Collected.mergeEvents (collected : Collected all known) (events : List AuditEvent) :
    Collected (all ++ events) (CloudCli.mergeEvents known events) := by
  induction events generalizing all known with
  | nil =>
    rw [List.append_nil]
    exact collected
  | cons e events ih =>
    rw [CloudCli.mergeEvents, List.append_cons]
    exact ih (collected.step e)

theorem collected_nil : Collected [] [] :=
  ⟨fun _ mem => absurd mem List.not_mem_nil, fun _ mem => absurd mem List.not_mem_nil, .nil⟩

/-! ## 3. By time -/

theorem earlier_trans (a b c : AuditEvent) (before : decide (a.eventTime ≤ b.eventTime) = true)
    (after : decide (b.eventTime ≤ c.eventTime) = true) :
    decide (a.eventTime ≤ c.eventTime) = true :=
  decide_eq_true (Instant.le_trans (of_decide_eq_true before) (of_decide_eq_true after))

theorem earlier_total (a b : AuditEvent) :
    (decide (a.eventTime ≤ b.eventTime) || decide (b.eventTime ≤ a.eventTime)) = true := by
  rw [Bool.or_eq_true, decide_eq_true_iff, decide_eq_true_iff]
  exact Instant.le_total a.eventTime b.eventTime

/-- Sorting does not move events of the same time. -/
theorem filter_byTime (known : List AuditEvent) (t : Instant) :
    (CloudCli.byTime known).filter (fun e => e.eventTime = t) =
      known.filter fun e => e.eventTime = t := by
  have kept : (known.filter fun e => e.eventTime = t).Sublist (CloudCli.byTime known) := by
    refine List.sublist_mergeSort earlier_trans earlier_total ?_ List.filter_sublist
    refine List.pairwise_of_forall_mem_list fun a ha b hb => ?_
    have at_a : a.eventTime = t := of_decide_eq_true (List.mem_filter.mp ha).2
    have at_b : b.eventTime = t := of_decide_eq_true (List.mem_filter.mp hb).2
    rw [at_a, at_b]
    exact decide_eq_true (Instant.le_refl t)
  have inside := kept.filter fun e => e.eventTime = t
  rw [List.filter_filter] at inside
  simp only [Bool.and_self] at inside
  refine (inside.eq_of_length ?_).symm
  exact ((List.mergeSort_perm known _).filter _).length_eq.symm

theorem sorted_byTime (known : List AuditEvent) :
    (CloudCli.byTime known).Pairwise fun a b => a.eventTime ≤ b.eventTime :=
  (List.pairwise_mergeSort earlier_trans earlier_total known).imp of_decide_eq_true

/-- **What is collected and sorted is merged.** -/
theorem Collected.byTime (collected : Collected all known) :
    Merged all (CloudCli.byTime known) := by
  have mem : ∀ e, e ∈ CloudCli.byTime known ↔ e ∈ known :=
    fun e => (List.mergeSort_perm known _).mem_iff
  have apart : known.Pairwise fun a b => a.eventId ≠ b.eventId :=
    collected.ordered.imp fun before same => absurd before (by rw [same]; exact Nat.lt_irrefl _)
  refine ⟨sorted_byTime known, ?_, fun id => ?_, fun e held => ?_, ?_⟩
  · exact (List.mergeSort_perm known _).symm.pairwise apart fun unequal => unequal.symm
  · constructor
    · rintro ⟨e, held, same⟩
      exact ⟨e, mem_of_firstWith (collected.first e ((mem e).mp held)), same⟩
    · rintro ⟨e, told, same⟩
      obtain ⟨k, held, id⟩ := collected.ids e told
      exact ⟨k, (mem k).mpr held, id.trans same⟩
  · exact collected.first e ((mem e).mp held)
  · rw [List.pairwise_iff_forall_sublist]
    intro a b pair same
    have both : [a, b].filter (fun e => e.eventTime = b.eventTime) = [a, b] := by simp [same]
    have there : [a, b].Sublist known := by
      have inside := pair.filter fun e => e.eventTime = b.eventTime
      rw [filter_byTime, both] at inside
      exact inside.trans List.filter_sublist
    exact List.pairwise_iff_forall_sublist.mp collected.ordered there

/-! ## 4. Merged events -/

theorem Merged.mem_iff (merged : Merged all events) :
    e ∈ events ↔ firstWith all e.eventId = some e := by
  constructor
  · exact merged.first e
  · intro first
    obtain ⟨k, held, same⟩ := (merged.ids e.eventId).mpr ⟨e, mem_of_firstWith first, rfl⟩
    have again := merged.first k held
    rw [same, first] at again
    rw [Option.some.inj again]
    exact held

theorem Merged.nodup (merged : Merged all events) : events.Nodup :=
  merged.distinct.imp fun unequal same => unequal (congrArg AuditEvent.eventId same)

/-- **There is one way to put events together.** -/
theorem Merged.unique {others : List AuditEvent} (merged : Merged all events)
    (again : Merged all others) : events = others := by
  have same : events.Perm others :=
    (List.perm_ext_iff_of_nodup merged.nodup again.nodup).mpr fun e =>
      merged.mem_iff.trans again.mem_iff.symm
  refine same.eq_of_pairwise (fun a b _ _ before after => ?_)
    (merged.sorted.and merged.stable) (again.sorted.and again.stable)
  have time := Instant.le_antisymm before.1 after.1
  exact absurd (before.2 time) (Nat.lt_asymm (after.2 time.symm))

/-- **The events are put together as `Merged` says.** -/
theorem merged_iff :
    Merged all events ↔ events = CloudCli.byTime (CloudCli.mergeEvents [] all) := by
  have collected : Collected all (CloudCli.mergeEvents [] all) := collected_nil.mergeEvents all
  constructor
  · exact fun merged => merged.unique collected.byTime
  · rintro rfl
    exact collected.byTime

/-- Events of one id or of one time are equal. -/
def Coherent (all : List AuditEvent) : Prop :=
  ∀ a ∈ all, ∀ b ∈ all, a.eventId = b.eventId ∨ a.eventTime = b.eventTime → a = b

/-- **The order in which coherent events were told does not matter.** -/
theorem Merged.of_perm (merged : Merged all events) (coherent : Coherent all)
    (perm : all.Perm all') : Merged all' events := by
  have told : ∀ e ∈ events, e ∈ all := fun e held => mem_of_firstWith (merged.first e held)
  refine ⟨merged.sorted, merged.distinct, fun id => ?_, fun e held => ?_, ?_⟩
  · rw [merged.ids]
    simp only [perm.mem_iff]
  · obtain ⟨first, found⟩ := exists_firstWith (perm.mem_iff.mp (told e held))
    rw [found]
    have isTold := perm.mem_iff.mpr (mem_of_firstWith found)
    exact congrArg some (coherent first isTold e (told e held) (.inl (eventId_of_firstWith found)))
  · refine merged.distinct.imp_of_mem fun ha hb unequal same => ?_
    have equal := coherent _ (told _ ha) _ (told _ hb) (.inr same)
    exact absurd (congrArg AuditEvent.eventId equal) unequal

end AuditEvent

end OnCall
