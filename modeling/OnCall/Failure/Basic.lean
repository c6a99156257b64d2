import OnCall.Failure.Cause

/-!
# Failures and their classification

A failure is a cause and what was said about it on the way up. Somewhere on the way it may have
been classified: an infrastructure failure is worth another attempt, a finding is a result.

* `Failure`: the chain, outermost text first in `Failure.texts`; `Failure.full` joins the texts.
* `Failure.classification`: the kind that was attached first, that is, innermost.
* `Failure.classify`: attaches a kind, unless one is attached already. Then only the text is added.
* `Failure.kind`: the effective kind; what was never classified counts as infrastructure.
-/

namespace OnCall

/-- What a failure says about the world. -/
inductive FailureKind where
  /-- A platform did not work; another attempt may. -/
  | infrastructure
  /-- The data are invalid or inconclusive; a person has to look. -/
  | finding
deriving DecidableEq

/-- A failure: a cause, contexts added on the way, and kinds attached on the way. -/
inductive Failure where
  | root (cause : Cause)
  | context (text : String) (inner : Failure)
  | classified (kind : FailureKind) (text : String) (inner : Failure)
deriving DecidableEq

namespace Failure

/-! ## 1. Texts -/

/-- The texts of a failure, the outermost first. -/
def texts : Failure → List String
  | root cause => cause.text :: cause.beneath
  | context text inner => text :: inner.texts
  | classified _ text inner => text :: inner.texts

/-- The outermost text. -/
def message : Failure → String
  | root cause => cause.text
  | context text _ => text
  | classified _ text _ => text

/-- All texts of a failure in one line. -/
def full (f : Failure) : String := ": ".intercalate f.texts

/-- The cause that the failure starts with. -/
def cause : Failure → Cause
  | root cause => cause
  | context _ inner => inner.cause
  | classified _ _ inner => inner.cause

theorem texts_eq_message_cons (f : Failure) : ∃ others, f.texts = f.message :: others := by
  cases f <;> exact ⟨_, rfl⟩

/-! ## 2. Kinds -/

/-- The kind that was attached first. -/
def classification : Failure → Option FailureKind
  | root _ => none
  | context _ inner => inner.classification
  | classified kind _ inner => inner.classification.or (some kind)

/-- The effective kind: infrastructure, if none was attached. -/
def kind (f : Failure) : FailureKind := f.classification.getD .infrastructure

/-- Another attempt may succeed. -/
def isTransient (f : Failure) : Bool := f.kind = .infrastructure

/-- The failure is a result. -/
def isConclusive (f : Failure) : Bool := f.kind = .finding

/-- Attach a kind together with a text. The first kind stays: on a failure that has one, only the
text is added. -/
def classify (kind : FailureKind) (text : String) (f : Failure) : Failure :=
  if f.classification.isSome then context text f else classified kind text f

/-- Attach the kind infrastructure, unless the failure has a kind. -/
def asInfrastructure (text : String) (f : Failure) : Failure := f.classify .infrastructure text

/-- Attach the kind finding, unless the failure has a kind. -/
def asFinding (text : String) (f : Failure) : Failure := f.classify .finding text

theorem isConclusive_eq_not (f : Failure) : f.isConclusive = !f.isTransient := by
  unfold isConclusive isTransient
  cases f.kind <;> rfl

@[simp] theorem texts_classify (k : FailureKind) (t : String) (f : Failure) :
    (f.classify k t).texts = t :: f.texts := by
  unfold classify
  split <;> rfl

@[simp] theorem classification_context (t : String) (f : Failure) :
    (context t f).classification = f.classification := rfl

/-- Attaching a kind leaves an earlier kind as it is. -/
@[simp] theorem classification_classify (k : FailureKind) (t : String) (f : Failure) :
    (f.classify k t).classification = f.classification.or (some k) := by
  unfold classify
  cases h : f.classification <;> simp [classification, h]

end Failure

end OnCall
