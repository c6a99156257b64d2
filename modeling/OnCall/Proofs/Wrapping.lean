import OnCall.Failure.Basic

/-!
# Failures on their way up

On its way up a failure gets one text after the other, and with some of them a kind. The kind that
counts is the innermost one, however many texts are put in front of it.

* `Failure.chain`: the links of a failure, the outermost first; `Failure.classification_eq_chain`:
  the classification is the innermost kind in it.
* `Wrapping`: one step on the way up; `Wrapping.chain_apply`: it makes one link.
* `Failure.wrap`: any number of steps; `Failure.chain_wrap`: what they add to the chain.
* `Failure.first_classification_wins`: **the first kind stays, whatever the later steps are.**
-/

namespace OnCall

namespace Failure

/-! ## 1. The chain of a failure -/

/-- One link of a failure: its text, and the kind that was attached with it. -/
structure Link where
  text : String
  kind? : Option FailureKind
deriving DecidableEq

/-- The links of a failure, the outermost first. -/
def chain : Failure → List Link
  | root cause => (cause.text :: cause.beneath).map (⟨·, none⟩)
  | context text inner => ⟨text, none⟩ :: inner.chain
  | classified kind text inner => ⟨text, some kind⟩ :: inner.chain

theorem texts_eq_chain (f : Failure) : f.texts = f.chain.map Link.text := by
  induction f with
  | root cause =>
    rw [chain, List.map_map]
    exact (List.map_id _).symm
  | context text inner ih => rw [chain, texts, List.map_cons, ih]
  | classified kind text inner ih => rw [chain, texts, List.map_cons, ih]

/-- **The classification is the innermost kind in the chain.** -/
theorem classification_eq_chain (f : Failure) :
    f.classification = (f.chain.filterMap Link.kind?).getLast? := by
  induction f with
  | root cause =>
    have none' : (chain (root cause)).filterMap Link.kind? = [] := by
      refine List.filterMap_eq_nil_iff.mpr fun link mem => ?_
      obtain ⟨_, _, rfl⟩ := List.mem_map.mp mem
      rfl
    rw [none']
    rfl
  | context text inner ih => exact ih
  | classified kind text inner ih =>
    rw [chain, List.filterMap_cons, classification, ih, List.getLast?_cons]
    cases (inner.chain.filterMap Link.kind?).getLast? <;> rfl

theorem chain_classify (k : FailureKind) (t : String) (f : Failure) :
    (f.classify k t).chain =
      ⟨t, if f.classification.isSome then none else some k⟩ :: f.chain := by
  unfold classify
  split <;> rfl

end Failure

/-! ## 2. Single steps -/

/-- A step on the way up. -/
inductive Wrapping where
  | asInfrastructure (text : String)
  | asFinding (text : String)
  | context (text : String)
deriving DecidableEq

namespace Wrapping

/-- The text that goes in front. -/
def text : Wrapping → String
  | asInfrastructure text => text
  | asFinding text => text
  | context text => text

/-- The kind that is to be attached. -/
def kind? : Wrapping → Option FailureKind
  | asInfrastructure _ => some .infrastructure
  | asFinding _ => some .finding
  | context _ => none

/-- The failure behind the step. -/
def apply : Wrapping → Failure → Failure
  | asInfrastructure text, f => f.asInfrastructure text
  | asFinding text, f => f.asFinding text
  | context text, f => .context text f

/-- The same step with a result, where the operation is called. -/
def onResult {α : Type} (w : Wrapping) (r : Except Failure α) : Except Failure α :=
  r.mapError w.apply

variable (w : Wrapping) (f : Failure)

theorem classification_apply : (w.apply f).classification = f.classification.or w.kind? := by
  cases w with
  | asInfrastructure text => exact Failure.classification_classify _ text f
  | asFinding text => exact Failure.classification_classify _ text f
  | context text => exact (Option.or_none ..).symm

/-- **A step makes one link**, with a kind if there was none below. -/
theorem chain_apply :
    (w.apply f).chain =
      ⟨w.text, if f.classification.isSome then none else w.kind?⟩ :: f.chain := by
  cases w with
  | asInfrastructure text => exact Failure.chain_classify _ text f
  | asFinding text => exact Failure.chain_classify _ text f
  | context text =>
    rw [kind?, ite_self]
    rfl

end Wrapping

/-! ## 3. The way up -/

namespace Failure

/-- The failure behind some steps, the first of them taken first. -/
def wrap (f : Failure) (steps : List Wrapping) : Failure :=
  steps.foldl (fun f w => w.apply f) f

variable (f : Failure)

@[simp] theorem wrap_nil : f.wrap [] = f := rfl

@[simp] theorem wrap_cons (w : Wrapping) (steps : List Wrapping) :
    f.wrap (w :: steps) = (w.apply f).wrap steps := rfl

theorem wrap_append (first later : List Wrapping) :
    f.wrap (first ++ later) = (f.wrap first).wrap later :=
  List.foldl_append

/-- **The kind is the one that the failure had, else the first that a step attaches.** -/
theorem classification_wrap (steps : List Wrapping) :
    (f.wrap steps).classification = f.classification.or (steps.findSome? Wrapping.kind?) := by
  induction steps generalizing f with
  | nil => exact (Option.or_none ..).symm
  | cons w steps ih =>
    rw [wrap_cons, ih, Wrapping.classification_apply, Option.or_assoc, List.findSome?_cons]
    cases w.kind? <;> rfl

/-- **What the steps add to the chain**: their texts, the last one in front, and a kind only if
there was none. -/
theorem chain_wrap (steps : List Wrapping) :
    ∃ added, (f.wrap steps).chain = added ++ f.chain ∧
      added.map Link.text = (steps.map Wrapping.text).reverse ∧
      added.filterMap Link.kind? =
        if f.classification.isSome then [] else (steps.findSome? Wrapping.kind?).toList := by
  induction steps generalizing f with
  | nil => exact ⟨[], rfl, rfl, (ite_self _).symm⟩
  | cons w steps ih =>
    obtain ⟨added, chain, texts, kinds⟩ := ih (w.apply f)
    refine ⟨added ++ [⟨w.text, if f.classification.isSome then none else w.kind?⟩], ?_, ?_, ?_⟩
    · rw [wrap_cons, chain, Wrapping.chain_apply, List.append_assoc]
      rfl
    · rw [List.map_append, texts, List.map_singleton, List.map_cons, List.reverse_cons]
    · rw [List.filterMap_append, kinds, Wrapping.classification_apply, List.findSome?_cons]
      -- the new link has a kind only if the failure had none and the step attaches one
      cases f.classification with
      | some k => rfl
      | none => cases w.kind? <;> simp

theorem texts_wrap (steps : List Wrapping) :
    (f.wrap steps).texts = (steps.map Wrapping.text).reverse ++ f.texts := by
  obtain ⟨added, chain, texts, _⟩ := f.chain_wrap steps
  rw [texts_eq_chain, chain, List.map_append, texts, ← texts_eq_chain]

/-- The full text of the failure stands behind the texts of the steps. -/
theorem full_wrap (steps : List Wrapping) :
    (f.wrap steps).full =
      ": ".intercalate ((steps.map Wrapping.text).reverse ++ [f.full]) := by
  rw [full, texts_wrap]
  by_cases none' : (steps.map Wrapping.text).reverse = []
  · rw [none', List.nil_append, List.nil_append, String.intercalate_singleton]
    rfl
  · obtain ⟨others, texts⟩ := f.texts_eq_message_cons
    have some' : f.texts ≠ [] := by
      rw [texts]
      exact List.cons_ne_nil _ _
    rw [String.intercalate_append_of_ne_nil none' some',
      String.intercalate_append_of_ne_nil none' (List.cons_ne_nil _ _),
      String.intercalate_singleton]
    rfl

/-- What was not classified counts as infrastructure. -/
theorem isTransient_iff : f.isTransient = true ↔ f.classification ≠ some .finding := by
  rw [isTransient, decide_eq_true_iff, kind]
  rcases f.classification with _ | _ | _ <;> simp

/-- With a result the steps do the same to its failure. -/
theorem foldl_onResult {α : Type} (steps : List Wrapping) (r : Except Failure α) :
    steps.foldl (fun r w => w.onResult r) r = r.mapError (·.wrap steps) := by
  induction steps generalizing r with
  | nil => cases r <;> rfl
  | cons w steps ih =>
    rw [List.foldl_cons, ih]
    cases r <;> rfl

/-- **The first classification wins**, through any number of steps on the way up of any failure. The
kind is the one that the failure had, else the first that a step attaches, and it is the innermost
of the chain; later steps leave it. Each step adds one link, and they add one kind at most; the
failure stands below as it was. The full text is that of the failure behind the texts of the steps.
What was not classified counts as infrastructure, and what is not infrastructure is a finding. With
a result the steps do the same to its failure. -/
theorem first_classification_wins (f : Failure) (steps : List Wrapping) :
    (f.wrap steps).classification = f.classification.or (steps.findSome? Wrapping.kind?) ∧
    (f.wrap steps).classification = ((f.wrap steps).chain.filterMap Link.kind?).getLast? ∧
    (∀ k later, (f.wrap steps).classification = some k →
      (f.wrap (steps ++ later)).classification = some k) ∧
    (∃ added, (f.wrap steps).chain = added ++ f.chain ∧
      (added.filterMap Link.kind?).length ≤ 1 ∧ added.length = steps.length) ∧
    (∀ w, (f.wrap (steps ++ [w])).chain.length = (f.wrap steps).chain.length + 1) ∧
    (f.wrap steps).full =
      ": ".intercalate ((steps.map Wrapping.text).reverse ++ [f.full]) ∧
    (f.wrap steps).isConclusive = !(f.wrap steps).isTransient ∧
    ((f.wrap steps).isTransient = true ↔ (f.wrap steps).classification ≠ some .finding) ∧
    ∀ (α : Type) (r : Except Failure α),
      steps.foldl (fun r w => w.onResult r) r = r.mapError (·.wrap steps) := by
  refine ⟨f.classification_wrap steps, classification_eq_chain _, fun k later first => ?_, ?_,
    fun w => ?_, f.full_wrap steps, isConclusive_eq_not _, isTransient_iff _,
    fun α r => foldl_onResult steps r⟩
  · rw [wrap_append, classification_wrap, first]
    rfl
  · obtain ⟨added, chain, texts, kinds⟩ := f.chain_wrap steps
    refine ⟨added, chain, ?_, ?_⟩
    · rw [kinds]
      split
      · exact Nat.zero_le 1
      · exact Option.length_toList_le
    · have lengths := congrArg List.length texts
      rwa [List.length_map, List.length_reverse, List.length_map] at lengths
  · rw [wrap_append, wrap_cons, wrap_nil, Wrapping.chain_apply]
    rfl

/-- A finding stays a finding, whatever is said of it further up. -/
theorem first_classification_wins_finding :
    let f : Failure := .root (.reported "bad payload")
    let steps : List Wrapping := [.context "reading events", .asFinding "decoding"]
    let later : List Wrapping := [.context "stopped machines", .asInfrastructure "outer call"]
    (f.wrap steps).classification = some .finding ∧
      (f.wrap (steps ++ later)).classification = some .finding ∧
      (f.wrap (steps ++ later)).isTransient = false ∧
      (f.wrap (steps ++ later)).full =
        "outer call: stopped machines: decoding: reading events: bad payload" := by
  intro f steps later
  have first : (f.wrap steps).classification = some .finding := by decide
  obtain ⟨_, _, stays, _⟩ := first_classification_wins f steps
  obtain ⟨_, _, _, _, _, full, _, transient, _⟩ := first_classification_wins f (steps ++ later)
  have still := stays _ later first
  refine ⟨first, still, ?_, full.trans (by decide +kernel)⟩
  exact Bool.eq_false_iff.mpr fun worth => transient.mp worth still

end Failure

end OnCall
