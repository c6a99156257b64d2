import OnCall.Proofs.MarkedLines
import OnCall.Proofs.ToolRuns
import OnCall.Tool.EgressProbe

/-!
# Verdicts of the egress probe

The probe of a subnet tells which endpoints are blocked by the marked lines that it writes. Its exit
code only matters if it wrote none.

* `EgressProbe.marks`: the marked lines of an output; `EgressProbe.told`: those of a run.
* `EgressProbe.blocked_outputs`: the lines that are found in the two outputs put together are those
  of the one and then those of the other.
* `EgressProbe.Mute`: the runs that say nothing about their subnet, and the failure of each.
* `EgressProbe.Reported`: what is reported of the lines of all subnets.
* `EgressProbe.Verified`: what verifying a target comes to.
* `EgressProbe.verify_iff`: **the probe is run as `Verified` says**, whatever its runs come to.
-/

namespace OnCall.EgressProbe

open Program (Run)

/-! ## 1. The marked lines of an output -/

/-- The mark starts and ends with a letter. -/
theorem solid_mark : Text.Solid mark.toList where
  starts _ := Text.trimStart_cons (by decide)
  ends _ := Text.trimStart_cons (by decide)

/-- The lines of an output in which the mark stands, without the blanks around them. -/
def marks (output : String) : List String :=
  (Text.marked mark.toList output.toList).map String.ofList

theorem blocked_eq_marks (output : String) : blocked output = marks output := by
  have same : Text.occursIn mark ∘ String.ofList = Text.occurs mark.toList := by
    funext line
    simp [Text.occursIn]
  have apart : (Text.lines output.toList).map (fun line => String.ofList (Text.trim line)) =
      ((Text.lines output.toList).map Text.trim).map String.ofList := by
    rw [List.map_map]
    rfl
  rw [blocked, apart, List.filter_map, same, marks, Text.marked_lines solid_mark]

/-- The lines of the standard output stand before those of the error output, and none is lost or
merged where one output follows the other. -/
theorem blocked_outputs (stdout stderr : String) :
    blocked (stdout ++ "\n" ++ Text.trimmed stderr) = marks stdout ++ marks stderr := by
  have joined : (stdout ++ "\n" ++ Text.trimmed stderr).toList =
      stdout.toList ++ '\n' :: Text.trim stderr.toList := by
    simp [Text.trimmed]
  rw [blocked_eq_marks, marks, joined, Text.marked_append, Text.marked_trim solid_mark,
    List.map_append, marks, marks]

theorem mem_marks {output line : String} (mem : line ∈ marks output) :
    Text.trim line.toList = line.toList ∧ '\n' ∉ line.toList ∧
      Text.occurs mark.toList line.toList = true := by
  obtain ⟨cs, found, rfl⟩ := List.mem_map.mp mem
  obtain ⟨piece, held, rfl⟩ := List.mem_map.mp found
  obtain ⟨isPiece, there⟩ := List.mem_filter.mp held
  rw [String.toList_ofList]
  exact ⟨Text.trim_trim piece,
    fun feed => Text.feed_not_mem isPiece ((Text.trim_infix piece).subset feed),
    (solid_mark.occurs_trim piece).trans there⟩

/-- **Marked lines of several outputs, put together as one text**: they are what stands between its
line feeds, and they are found in it again. -/
theorem joined_of_marks {lines : List String} (some : lines ≠ [])
    (marked : ∀ line ∈ lines, ∃ output, line ∈ marks output) :
    ("\n".intercalate lines).toList.splitOn '\n' = lines.map String.toList ∧
      blocked ("\n".intercalate lines) = lines := by
  have joined : ("\n".intercalate lines).toList = ['\n'].intercalate (lines.map String.toList) :=
    String.toList_intercalate
  have nonempty : lines.map String.toList ≠ [] := mt List.map_eq_nil_iff.mp some
  have each : ∀ cs ∈ lines.map String.toList, Text.trim cs = cs ∧ '\n' ∉ cs ∧
      Text.occurs mark.toList cs = true := by
    intro cs mem
    obtain ⟨line, isLine, rfl⟩ := List.mem_map.mp mem
    obtain ⟨output, found⟩ := marked line isLine
    exact mem_marks found
  constructor
  · rw [joined]
    exact List.splitOn_intercalate '\n' (fun cs mem => (each cs mem).2.1) nonempty
  · rw [blocked_eq_marks, marks, joined, Text.marked_joined nonempty (fun cs mem => (each cs mem).1)
      (fun cs mem => (each cs mem).2.1) fun cs mem => (each cs mem).2.2]
    simp

/-! ## 2. One run -/

variable {probe : EgressProbe} {target : EgressTarget} {ending : ToolEnding} {f : Failure}

/-- The marked lines of a run, standard output first. -/
def told : ToolEnding → List String
  | .finished _ stdout stderr => marks (Text.Utf8.decode stdout) ++ marks (Text.Utf8.decode stderr)
  | _ => []

/-- **The runs that say nothing about their subnet**, and the failure of each. -/
inductive Mute (probe : EgressProbe) : ToolEnding → Failure → Prop where
  | notStarted {report : String} :
    Mute probe (.notStarted report) (.root (.command (.spawn probe.tool.program report)))
  | timedOut :
    Mute probe .timedOut (.root (.command (.timeout probe.tool.program probe.tool.limit)))
  | unmarked {code : Option Int} {stdout stderr : List UInt8} (failed : code ≠ some 0)
      (nothing : told (.finished code stdout stderr) = []) :
    Mute probe (.finished code stdout stderr)
      (.root (.noVerdict code (Text.trimmed (Text.Utf8.decode stderr))))

/-- The start of the probe for one subnet. -/
def start (probe : EgressProbe) (target : EgressTarget) (subnetId : String) : ToolStart :=
  probe.tool.start (probe.arguments target subnetId)

/-- The probe of one subnet. -/
def one (probe : EgressProbe) (target : EgressTarget) (subnetId : String) :
    ToolWork (List String) := do
  match verdict (← probe.tool.capture (probe.arguments target subnetId)) with
  | .error cause => throw (.root cause)
  | .ok lines => return lines

/-- What comes of it. -/
def heard (probe : EgressProbe) (ending : ToolEnding) : Except Failure (List String) :=
  (probe.tool.captured ending).bind fun run => (verdict run).mapError Failure.root

theorem asks_one (subnetId : String) :
    (probe.one target subnetId).Asks (probe.start target subnetId) probe.heard := by
  refine Tool.asks_capture.bind fun run => ?_
  cases verdict run <;> rfl

theorem heard_of_finished (code : Option Int) (stdout stderr : List UInt8) :
    probe.heard (.finished code stdout stderr) =
      if code ≠ some 0 ∧ told (.finished code stdout stderr) = [] then
        .error (.root (.noVerdict code (Text.trimmed (Text.Utf8.decode stderr))))
      else .ok (told (.finished code stdout stderr)) := by
  have captured : probe.tool.captured (.finished code stdout stderr) =
      .ok ⟨code, Text.Utf8.decode stdout, Text.trimmed (Text.Utf8.decode stderr)⟩ := rfl
  have lines : blocked (Text.Utf8.decode stdout ++ "\n" ++ Text.trimmed (Text.Utf8.decode stderr)) =
      told (.finished code stdout stderr) := blocked_outputs _ _
  rw [heard, captured]
  simp only [Except.bind, verdict, Captured.succeeded, lines]
  by_cases silent : code ≠ some 0 ∧ told (.finished code stdout stderr) = []
  · rw [if_pos silent, if_pos (by simp [silent])]
    rfl
  · have speaks : ¬ ((told (.finished code stdout stderr)).isEmpty &&
        !decide (code = some 0)) = true := by
      simpa [and_comm] using silent
    rw [if_neg silent, if_neg speaks]
    rfl

/-- **A run fails as a mute one.** -/
theorem heard_error_iff : probe.heard ending = .error f ↔ probe.Mute ending f := by
  constructor
  · intro failed
    cases ending with
    | notStarted report =>
      cases failed
      exact .notStarted
    | timedOut =>
      cases failed
      exact .timedOut
    | finished code stdout stderr =>
      rw [heard_of_finished] at failed
      by_cases silent : code ≠ some 0 ∧ told (.finished code stdout stderr) = []
      · rw [if_pos silent] at failed
        cases failed
        exact .unmarked silent.1 silent.2
      · rw [if_neg silent] at failed
        cases failed
  · intro mute
    cases mute with
    | notStarted => rfl
    | timedOut => rfl
    | unmarked failed nothing => rw [heard_of_finished, if_pos ⟨failed, nothing⟩]

/-- **A run that is not mute tells its marked lines.** -/
theorem heard_ok_iff {lines : List String} :
    probe.heard ending = .ok lines ↔ (∀ f, ¬ probe.Mute ending f) ∧ told ending = lines := by
  cases came : probe.heard ending with
  | error f =>
    have mute := heard_error_iff.mp came
    constructor
    · intro same
      cases same
    · rintro ⟨speaks, _⟩
      exact absurd mute (speaks f)
  | ok found =>
    have speaks : ∀ f, ¬ probe.Mute ending f := by
      intro f mute
      rw [heard_error_iff.mpr mute] at came
      cases came
    have marked : found = told ending := by
      cases ending with
      | notStarted report => cases came
      | timedOut => cases came
      | finished code stdout stderr =>
        rw [heard_of_finished, if_neg fun silent => speaks _ (.unmarked silent.1 silent.2)] at came
        exact (Except.ok.inj came).symm
    rw [Except.ok.injEq, marked]
    exact ⟨fun same => ⟨speaks, same⟩, fun told => told.2⟩

/-! ## 3. All subnets -/

/-- **What is reported of the lines of all subnets.** -/
inductive Reported : List String → EgressReport → Prop where
  | clear : Reported [] .success
  | blocked {lines : List String} {text : String} (some : lines ≠ [])
      (split : text.toList.splitOn '\n' = lines.map String.toList)
      (again : EgressProbe.blocked text = lines) :
    Reported lines (.failure text)

/-- These subnets were probed, once each and in this order, and every run told something. -/
structure Heard (probe : EgressProbe) (target : EgressTarget) (subnetIds : List String)
    (log : List (Exchange toolbox)) : Prop where
  starts : log.map Exchange.start = subnetIds.map (probe.start target)
  speaks : ∀ e ∈ log, ∀ f, ¬ probe.Mute e.ending f

/-- **What verifying a target comes to**: nothing is started if it has no subnet; else its subnets
are probed up to the first mute run, or all of them. -/
inductive Verified (probe : EgressProbe) (target : EgressTarget) :
    List (Exchange toolbox) → Except Failure EgressReport → Prop where
  | nothing (none : target.subnetIds = []) :
    Verified probe target [] (.error (.root (.nothingToVerify target.clusterId)))
  | mute {before after : List String} {subnetId : String} {earlier : List (Exchange toolbox)}
      {ending : ToolEnding} {f : Failure} (split : target.subnetIds = before ++ subnetId :: after)
      (heard : probe.Heard target before earlier) (mute : probe.Mute ending f) :
    Verified probe target (earlier ++ [(probe.start target subnetId).exchange ending]) (.error f)
  | heard {log : List (Exchange toolbox)} {report : EgressReport} (some : target.subnetIds ≠ [])
      (heard : probe.Heard target target.subnetIds log)
      (reported : Reported (log.flatMap fun e => told e.ending) report) :
    Verified probe target log (.ok report)

/-- The report of some lines. -/
def report (lines : List String) : EgressReport :=
  if lines = [] then .success else .failure ("\n".intercalate lines)

theorem probe_eq (subnetIds : List String) :
    probe.probe target subnetIds = List.flatten <$> subnetIds.mapM (probe.one target) := by
  induction subnetIds with
  | nil => simp [EgressProbe.probe]
  | cons subnetId subnetIds ih =>
    rw [EgressProbe.probe, List.mapM_cons, one, ih]
    simp only [map_eq_pure_bind, bind_assoc, pure_bind]
    congr 1
    funext run
    cases verdict run with
    | error cause => rfl
    | ok lines => simp

/-- Verifying a target with subnets probes them and reports what was found. -/
theorem verify_eq (some : target.subnetIds ≠ []) :
    probe.verify target =
      (report ∘ List.flatten) <$> target.subnetIds.mapM (probe.one target) := by
  have goesOn : ¬ target.subnetIds.isEmpty = true := fun none => some (List.isEmpty_iff.mp none)
  rw [verify, if_neg goesOn, probe_eq]
  simp only [map_eq_pure_bind, bind_assoc, pure_bind]
  congr 1
  funext found
  cases joined : found.flatten <;> simp [report, joined]

theorem verify_none (none : target.subnetIds = []) :
    (probe.verify target).run = .done (.error (.root (.nothingToVerify target.clusterId))) := by
  rw [verify, none]
  rfl

/-- **Every subnet told something exactly if none of the runs was mute**, and then it told its
marked lines. -/
theorem heard_iff {subnetIds : List String} {log : List (Exchange toolbox)}
    {found : List (List String)} :
    InTurn (probe.start target) probe.heard subnetIds log (.ok found) ↔
      probe.Heard target subnetIds log ∧ found = log.map fun e => told e.ending := by
  have each : List.Forall₂ (fun (e : Exchange toolbox) lines => told e.ending = lines) log found ↔
      found = log.map fun e => told e.ending := by
    rw [← List.forall₂_map_left_iff (f := fun e : Exchange toolbox => told e.ending),
      List.forall₂_eq_eq_eq, eq_comm]
  rw [InTurn.ok_iff]
  simp only [heard_ok_iff]
  rw [List.forall₂_and_left (p := fun e : Exchange toolbox => ∀ f, ¬ probe.Mute e.ending f), each]
  constructor
  · rintro ⟨starts, speaks, same⟩
    exact ⟨⟨starts, speaks⟩, same⟩
  · rintro ⟨⟨starts, speaks⟩, same⟩
    exact ⟨starts, speaks, same⟩

/-- **The report says what it is to say**, and no other report does. -/
theorem reported_iff {lines : List String} {r : EgressReport}
    (marked : ∀ line ∈ lines, ∃ output, line ∈ marks output) :
    Reported lines r ↔ r = report lines := by
  constructor
  · intro reported
    cases reported with
    | clear => rfl
    | @blocked lines text some split again =>
      have joined : ("\n".intercalate lines).toList =
          ['\n'].intercalate (lines.map String.toList) := String.toList_intercalate
      have same : text = "\n".intercalate lines := by
        rw [← String.toList_inj, joined, ← split, List.intercalate_splitOn]
      rw [report, if_neg some, same]
  · rintro rfl
    by_cases none : lines = []
    · rw [report, if_pos none, none]
      exact .clear
    · rw [report, if_neg none]
      obtain ⟨split, again⟩ := joined_of_marks none marked
      exact .blocked none split again

theorem exists_marks {log : List (Exchange toolbox)} {line : String}
    (mem : line ∈ log.flatMap fun e => told e.ending) : ∃ output, line ∈ marks output := by
  obtain ⟨e, _, mem⟩ := List.mem_flatMap.mp mem
  unfold told at mem
  split at mem
  · rcases List.mem_append.mp mem with mem | mem
    · exact ⟨_, mem⟩
    · exact ⟨_, mem⟩
  · cases mem

end OnCall.EgressProbe
