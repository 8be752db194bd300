import Oneshot.Proofs.Pipeline.Stages

/-!
# The Course of a Pipeline

A pipeline ends in an outcome once there is a program, and the outcome tells how the run has gone:
with the exit status of the artifact it has passed all stages, and with any other one it has broken
off. A reported error means the same as an outcome that stands for an error.

* `Pipeline.runs_build`: the stages up to the compiler.
* `Pipeline.runs_execute`: the stages behind it.
* `Pipeline.runs_run`: the whole course, by its outcome.
-/

namespace Oneshot

open Action (Absorbs runs_bind)
open Trace (Calm)

variable {plan : Plan} {stage : Stage} {t : Trace}

/-! ### Outcomes -/

/-- An outcome agrees with the course of a run from a stage on. -/
inductive OutcomeOf (plan : Plan) (stage : Stage) (t : Trace) : Outcome → Prop
  | completed {status : Int} (h : Completes plan stage t status) :
      OutcomeOf plan stage t (.completed (exitCodeOf status))
  | failed {outcome : Outcome} (herror : outcome.error?.isSome = true)
      (h : Breaks plan stage t) : OutcomeOf plan stage t outcome

theorem OutcomeOf.append_left {outcome : Outcome} {before : Trace}
    (h : OutcomeOf plan stage t outcome) (hbefore : Calm before) :
    OutcomeOf plan stage (before ++ t) outcome := by
  cases h with
  | completed hcompletes => exact .completed (hcompletes.append_left hbefore.quiet)
  | failed herror hbreaks => exact .failed herror (hbreaks.append_left hbefore)

theorem OutcomeOf.append_right {outcome : Outcome} {after : Trace}
    (h : OutcomeOf plan stage t outcome) (hafter : Calm after) :
    OutcomeOf plan stage (t ++ after) outcome := by
  cases h with
  | completed hcompletes => exact .completed (hcompletes.append_right hafter.quiet)
  | failed herror hbreaks => exact .failed herror (hbreaks.append_right hafter)

/-- The outcome behind a stage that the run has passed. -/
theorem PassesAt.outcomeOf {next : Stage} {outcome : Outcome} {rest : Trace}
    (h : PassesAt plan stage t) (hnext : stage.next? = some next)
    (hrest : OutcomeOf plan next rest outcome) : OutcomeOf plan stage (t ++ rest) outcome := by
  cases hrest with
  | completed hcompletes => exact .completed (h.completes hnext hcompletes)
  | failed herror hbreaks => exact .failed herror (h.breaks hnext hbreaks)

namespace Pipeline

variable {p : Pipeline}

/-- An outcome in place of a failure stands for an error. -/
theorem error?_of_outcomeOf {failure : Failure} {outcome : Outcome}
    (h : outcomeOf failure = some outcome) : outcome.error?.isSome = true := by
  unfold outcomeOf at h
  split at h
  · obtain rfl := Option.some.inj h
    rfl
  · split at h
    · obtain rfl := Option.some.inj h
      rfl
    · simp at h
  · simp at h

/-- What an attempt makes of how its action has ended: a reported error can become an outcome. -/
inductive Attempted {α : Type} : Except Failure α → Except Failure (Except Outcome α) → Prop
  | value (value : α) : Attempted (.ok value) (.ok (.ok value))
  | outcome {e : RunError} {outcome : Outcome} (herror : outcome.error?.isSome = true) :
      Attempted (.error (.reported e)) (.ok (.error outcome))
  | failure (failure : Failure) : Attempted (.error failure) (.error failure)

theorem runs_orOutcome {α : Type} {a : Action α} {x : Except Failure (Except Outcome α)}
    (h : (orOutcome a).run.Runs t x) : ∃ y, a.run.Runs t y ∧ Attempted y x := by
  obtain ⟨y, hy, rfl⟩ := runs_orOutcome_iff.1 h
  refine ⟨y, hy, ?_⟩
  rcases y with failure | value
  · rw [attempted]
    cases houtcome : outcomeOf failure with
    | none => exact .failure failure
    | some outcome =>
      cases failure with
      | reported e => exact .outcome (error?_of_outcomeOf houtcome)
      | escaped e => simp [outcomeOf] at houtcome
  · exact .value value

/-- How an attempt ends, escapes aside: with a value that `passed` holds of, or, if `broken` holds,
with a reported error or with an outcome that stands for one. -/
def AttemptEnds {α : Type} (passed : α → Prop) (broken : Prop)
    (x : Except Failure (Except Outcome α)) : Prop :=
  Ends (fun result => match result with
    | .ok value => passed value
    | .error outcome => outcome.error?.isSome = true ∧ broken) broken x

theorem attemptEnds_of_ends {α : Type} {y : Except Failure α}
    {x : Except Failure (Except Outcome α)} (h : Attempted y x) {passed : α → Prop} {broken : Prop}
    (hends : Ends passed broken y) : AttemptEnds passed broken x := by
  cases h with
  | value => exact hends
  | outcome herror => exact ⟨herror, hends⟩
  | failure => exact hends.of_error id

/-! ### Stages of the pipeline -/

/-- The plan of a pipeline for some crates, an artifact and the arguments of a script. -/
def planFor (p : Pipeline) (inColor : Bool) (crates : List Text) (artifact : Artifact)
    (executable : Path) (arguments : List Text) : Plan :=
  ⟨p.cache, p.settings.toolchain, p.platform, inColor, crates, artifact, executable, arguments⟩

/-- How building ends: with the artifact, once the run has passed the compiler. -/
def BuildEnds (p : Pipeline) (crates : List Text) (t : Trace) (inColor : Bool)
    (artifact : Artifact) (x : Except Failure (Except Outcome Artifact)) : Prop :=
  ∀ executable arguments,
    let plan := p.planFor inColor crates artifact executable arguments
    AttemptEnds (fun built => built = artifact ∧ PassesAt plan .compiling t)
      (Breaks plan .compiling t) x

/-- The compiler behind an idle part of a trace. -/
theorem BuildEnds.append_left {crates : List Text} {before : Trace} {inColor : Bool}
    {artifact : Artifact} {x : Except Failure (Except Outcome Artifact)}
    (h : p.BuildEnds crates t inColor artifact x) (hbefore : Calm before) :
    p.BuildEnds crates (before ++ t) inColor artifact x := by
  intro executable arguments
  refine (h executable arguments).imp (fun result hresult => ?_) fun hbreaks =>
    hbreaks.append_left hbefore
  cases result with
  | ok built => exact ⟨hresult.1, hresult.2.append_left hbefore.quiet⟩
  | error outcome => exact ⟨hresult.1, hresult.2.append_left hbefore⟩

/-- Nothing that happens in front of the compiler matters. -/
theorem absorbs_buildEnds (p : Pipeline) (crates : List Text) :
    Absorbs Calm fun t x => ∃ inColor artifact, p.BuildEnds crates t inColor artifact x where
  of_error hcalm :=
    ⟨false, ⟨Path.ofText [], Path.ofText []⟩, fun _ _ => ends_error (.early hcalm.quiet) _⟩
  append_left := by
    rintro before t x hcalm ⟨inColor, artifact, hends⟩
    exact ⟨inColor, artifact, hends.append_left hcalm⟩

theorem runs_build (hreport : ∀ event, (p.report event).Idle) {prepared : Prepared}
    {x : Except Failure (Except Outcome Artifact)} (h : (p.build prepared).run.Runs t x) :
    ∃ inColor artifact, p.BuildEnds prepared.analysis.crates t inColor artifact x := by
  rw [build_eq_planning] at h
  refine (p.absorbs_buildEnds _).bind h (fun h => h.calm (idle_planning hreport prepared))
    fun _ h => ?_
  obtain ⟨y, hy, hattempted⟩ := runs_orOutcome h
  obtain ⟨inColor, artifact, hends⟩ := Toolchain.runs_buildProgram hy
  exact ⟨inColor, artifact, fun executable arguments =>
    attemptEnds_of_ends hattempted (hends executable arguments)⟩

theorem runs_execute (hreport : ∀ event, (p.report event).Idle) {artifact : Artifact}
    {arguments : List Text} {x : Except Failure Outcome}
    (h : (p.execute artifact arguments).run.Runs t x) (inColor : Bool) (crates : List Text) :
    ∃ executable, (artifact.executable.isAbsolute = true → executable = artifact.executable) ∧
      let plan := p.planFor inColor crates artifact executable arguments
      Ends (OutcomeOf plan .querying t) (Breaks plan .querying t) x := by
  rw [execute] at h
  obtain ⟨t₁, rest, _, rfl, hcalm, -, hlaunch⟩ | ⟨hcalm, failure, rfl⟩ :=
    runs_idle_bind (hreport _) h
  swap
  · exact ⟨artifact.executable, fun _ => rfl,
      ends_error (.unfound (.inl rfl) hcalm.quiet hcalm.unfound) failure⟩
  obtain ⟨t₂, t₃, result, rfl, hattempt, hend⟩ | ⟨failure, hattempt, rfl⟩ := runs_bind.1 hlaunch
  all_goals
    obtain ⟨y, hy, hattempted⟩ := runs_orOutcome hattempt
    obtain ⟨executable, habsolute, hends⟩ :=
      Toolchain.runs_launchArtifact hy inColor crates artifact
    have hresult := attemptEnds_of_ends hattempted hends
    refine ⟨executable, habsolute, ?_⟩
  · cases result with
    | ok code =>
      obtain ⟨rfl, rfl⟩ := hend
      obtain ⟨status, hcompletes, rfl⟩ := hresult
      rw [List.append_nil]
      exact .append_left (.completed hcompletes) hcalm
    | error outcome =>
      obtain ⟨rfl, rfl⟩ := hend
      rw [List.append_nil]
      exact .append_left (.failed hresult.1 hresult.2) hcalm
  · exact hresult.of_error fun hbreaks => hbreaks.append_left hcalm

/-- An outcome stays what it is where the end of a pipeline is reported. -/
theorem runs_reportDone (hreport : ∀ event, (p.report event).Idle)
    (hfailed : ∀ event t e, ¬ (p.report event).run.Runs t (.error (.reported e))) {stage : Stage}
    {event : Event} {outcome : Outcome} {before : Trace} {x : Except Failure Outcome}
    (h : (do p.report event; return outcome : Action Outcome).run.Runs t x)
    (houtcome : OutcomeOf plan stage before outcome) :
    Ends (OutcomeOf plan stage (before ++ t)) (Breaks plan stage (before ++ t)) x := by
  obtain ⟨t₁, t₂, _, rfl, hevent, rfl, rfl⟩ | ⟨failure, hevent, rfl⟩ := runs_bind.1 h
  · have hcalm : Calm t₁ := hevent.calm (hreport event)
    rw [List.append_nil]
    exact houtcome.append_right hcalm
  · cases failure with
    | reported e => exact absurd hevent (hfailed event t e)
    | escaped e => trivial

/-- **The course of a pipeline**: its outcome says how the run has gone, and a reported error means
that it has broken off. -/
theorem runs_run (hreport : ∀ event, (p.report event).Idle)
    (hfailed : ∀ event t e, ¬ (p.report event).run.Runs t (.error (.reported e)))
    {script : Path} {arguments : List Text}
    {x : Except Failure Outcome} (h : (p.run script arguments).run.Runs t x) :
    ∃ inColor crates artifact executable,
      (artifact.executable.isAbsolute = true → executable = artifact.executable) ∧
      let plan := p.planFor inColor crates artifact executable arguments
      Ends (OutcomeOf plan .compiling t) (Breaks plan .compiling t) x := by
  rw [Pipeline.run] at h
  obtain ⟨t₁, rest, prepared, rfl, hcalm, -, hbuilding⟩ | ⟨hcalm, failure, rfl⟩ :=
    runs_idle_bind (idle_prepare hreport script) h
  swap
  · exact ⟨false, [], ⟨script, script⟩, script, fun _ => rfl, ends_error (.early hcalm.quiet) _⟩
  obtain ⟨t₂, t₃, built, rfl, hbuild, hrest⟩ | ⟨failure, hbuild, rfl⟩ := runs_bind.1 hbuilding
  all_goals
    obtain ⟨inColor, artifact, hends⟩ := runs_build hreport hbuild
    have hbuilt := hends.append_left hcalm
  swap
  · exact ⟨inColor, _, artifact, artifact.executable, fun _ => rfl,
      (hbuilt artifact.executable arguments).of_error id⟩
  cases built with
  | error outcome =>
    refine ⟨inColor, prepared.analysis.crates, artifact, artifact.executable, fun _ => rfl, ?_⟩
    obtain ⟨herror, hbreaks⟩ := hbuilt artifact.executable arguments
    rw [← List.append_assoc]
    exact runs_reportDone hreport hfailed hrest (.failed herror hbreaks)
  | ok built =>
    obtain ⟨rfl, -⟩ := hbuilt artifact.executable arguments
    obtain ⟨t₄, t₅, outcome, rfl, hexecute, hdone⟩ | ⟨failure, hexecute, rfl⟩ :=
      runs_bind.1 hrest
    all_goals
      obtain ⟨executable, habsolute, hcourse⟩ :=
        runs_execute hreport hexecute inColor prepared.analysis.crates
      have hpasses := (hbuilt executable arguments).2
      refine ⟨inColor, prepared.analysis.crates, built, executable, habsolute, ?_⟩
    · have htrace : t₁ ++ (t₂ ++ (t₄ ++ t₅)) = t₁ ++ t₂ ++ t₄ ++ t₅ := by simp
      rw [htrace]
      exact runs_reportDone hreport hfailed hdone (hpasses.outcomeOf rfl hcourse)
    · rw [← List.append_assoc]
      exact hcourse.of_error fun hbreaks => hpasses.breaks rfl hbreaks

end Pipeline

end Oneshot
