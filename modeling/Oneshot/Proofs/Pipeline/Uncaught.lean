import Oneshot.Proofs.Pipeline.Writing

/-!
# A Pipeline That Catches Nothing

A pipeline turns the errors of the compiler and of the launch into outcomes. Here are its stages
without that: every error of a stage is the error of the whole. Both pipelines do the same up to the
first error. What the original makes of the error is known: it leaves it alone, or it ends in an
outcome that stands for an error of the same kind with the same message, and reports that outcome.

* `Action.Begins`: a trace that begins with a run of an action.
* `Outcome.StandsFor`: what an outcome keeps of an error.
* `Pipeline.uncaught`: the stages, without a handler.
* `Pipeline.Caught`: what the original makes of their end.
* `Pipeline.runs_uncaught`: each run of a pipeline begins with one of its stages.
-/

namespace Oneshot

open Action (runs_bind)

namespace Action

variable {α β : Type} {t t₁ t₂ : Trace} {a : Action α} {f : α → Action β}

/-- The trace begins with a run of the action; `ends` is about how that run ends, and about what
comes behind it. -/
def Begins (a : Action α) (t : Trace) (ends : Except Failure α → Trace → Prop) : Prop :=
  ∃ t₁ t₂ x, t = t₁ ++ t₂ ∧ a.run.Runs t₁ x ∧ ends x t₂

theorem begins_of_runs {ends : Except Failure α → Trace → Prop} {x : Except Failure α}
    (h : a.run.Runs t x) (hends : ends x []) : a.Begins t ends :=
  ⟨t, [], x, by simp, h, hends⟩

theorem begins_bind_ok {ends : Except Failure β → Trace → Prop} {x : α}
    (ha : a.run.Runs t₁ (.ok x)) (h : (f x).Begins t₂ ends) :
    (a >>= f).Begins (t₁ ++ t₂) ends := by
  obtain ⟨t₃, t₄, y, rfl, hy, hends⟩ := h
  exact ⟨t₁ ++ t₃, t₄, y, by simp, runs_bind.2 (.inl ⟨t₁, t₃, x, rfl, ha, hy⟩), hends⟩

theorem begins_bind_error {ends : Except Failure β → Trace → Prop} {failure : Failure}
    (ha : a.run.Runs t₁ (.error failure)) (hends : ends (.error failure) t₂) :
    (a >>= f).Begins (t₁ ++ t₂) ends :=
  ⟨t₁, t₂, .error failure, rfl, runs_bind.2 (.inr ⟨failure, ha, rfl⟩), hends⟩

end Action

open Action (begins_of_runs begins_bind_ok begins_bind_error)

/-- An outcome stands for an error: for one of its kind, with its message. -/
def Outcome.StandsFor (outcome : Outcome) (e : RunError) : Prop :=
  ∃ e', outcome.error? = some e' ∧ e'.kind = e.kind ∧ e'.message = e.message

namespace Pipeline

variable {p : Pipeline} {t : Trace} {α β : Type}

theorem standsFor_of_outcomeOf {e : RunError} {outcome : Outcome}
    (h : outcomeOf (.reported e) = some outcome) : outcome.StandsFor e := by
  unfold outcomeOf at h
  split at h
  · next written status he =>
    obtain rfl := Failure.reported.inj he
    obtain rfl := Option.some.inj h
    exact ⟨_, rfl, rfl, rfl⟩
  · next e' _ he =>
    obtain rfl := Failure.reported.inj he
    split at h
    · next hkind =>
      obtain rfl := Option.some.inj h
      exact ⟨_, rfl, hkind.symm, rfl⟩
    · simp at h
  · simp at h

/-- An attempt and what follows it: a value is passed on, an error of the compiler or of a launch is
passed on as an outcome, and any other failure ends the whole. -/
theorem runs_orOutcome_bind {a : Action α} {f : Except Outcome α → Action β} {y : Except Failure β}
    (h : (orOutcome a >>= f).run.Runs t y) :
    (∃ t₁ t₂ value, t = t₁ ++ t₂ ∧ a.run.Runs t₁ (.ok value) ∧ (f (.ok value)).run.Runs t₂ y) ∨
      (∃ t₁ t₂ e outcome, t = t₁ ++ t₂ ∧ a.run.Runs t₁ (.error (.reported e)) ∧
        outcome.StandsFor e ∧ (f (.error outcome)).run.Runs t₂ y) ∨
      ∃ failure, a.run.Runs t (.error failure) ∧ y = .error failure := by
  obtain ⟨t₁, t₂, x, rfl, hx, hrest⟩ | ⟨failure', hx, rfl⟩ := runs_bind.1 h
  all_goals obtain ⟨failure | value, ha, hattempted⟩ := runs_orOutcome_iff.1 hx
  · cases houtcome : outcomeOf failure with
    | none => simp [attempted, houtcome] at hattempted
    | some outcome =>
      obtain rfl : x = .error outcome := by simpa [attempted, houtcome] using hattempted
      cases failure with
      | escaped e => simp [outcomeOf] at houtcome
      | reported e =>
        exact .inr (.inl ⟨t₁, t₂, e, outcome, rfl, ha, standsFor_of_outcomeOf houtcome, hrest⟩)
  · obtain rfl := Except.ok.inj hattempted
    exact .inl ⟨t₁, t₂, value, rfl, ha, hrest⟩
  · cases houtcome : outcomeOf failure with
    | none =>
      obtain rfl : failure' = failure := by simpa [attempted, houtcome] using hattempted
      exact .inr (.inr ⟨failure', ha, rfl⟩)
    | some outcome => simp [attempted, houtcome] at hattempted
  · simp [attempted] at hattempted

/-! ### The stages -/

/-- The artifact, with the exit status that it gives. -/
def launching (p : Pipeline) (artifact : Artifact) (arguments : List Text) : Action Int :=
  Toolchain.launchArtifact p.cache p.settings p.platform none artifact.executable arguments

/-- All stages, with no error turned into an outcome. -/
def uncaught (p : Pipeline) (script : Path) (arguments : List Text) : Action Int := do
  let prepared ← p.prepare script
  let workDir ← p.planning prepared
  let artifact ← p.compiling prepared workDir
  p.report (.running artifact.executable)
  let code ← p.launching artifact arguments
  p.report (.done (.completed code) true)
  return code

/-- A pipeline behind its preparation, with the places where errors become outcomes. -/
theorem finish_eq (arguments : List Text) (prepared : Prepared) :
    p.finish arguments prepared = p.planning prepared >>= fun workDir =>
      orOutcome (p.compiling prepared workDir) >>= fun
        | .error outcome => p.report (.done outcome false) >>= fun _ => pure outcome
        | .ok artifact => p.report (.running artifact.executable) >>= fun _ =>
          orOutcome (p.launching artifact arguments) >>= fun
            | .error outcome => p.report (.done outcome true) >>= fun _ => pure outcome
            | .ok code =>
              p.report (.done (.completed code) true) >>= fun _ => pure (.completed code) := by
  rw [finish, build_eq_planning, bind_assoc]
  refine congrArg (p.planning prepared >>= ·) (funext fun workDir => ?_)
  refine congrArg (orOutcome (p.compiling prepared workDir) >>= ·) (funext fun built => ?_)
  cases built with
  | error outcome => rfl
  | ok artifact =>
    simp only [execute, bind_assoc]
    refine congrArg (p.report (.running artifact.executable) >>= ·) (funext fun _ => ?_)
    refine congrArg (orOutcome (p.launching artifact arguments) >>= ·) (funext fun launched => ?_)
    cases launched <;> simp only [pure_bind]

/-- What a pipeline makes of the end of its stages, and what it does behind them. -/
inductive Caught (p : Pipeline) : Except Failure Int → Trace → Except Failure Outcome → Prop
  | completed (code : Int) : Caught p (.ok code) [] (.ok (.completed code))
  | outcome {e : RunError} {outcome : Outcome} {hasRun : Bool} {t : Trace}
      (h : outcome.StandsFor e) (hdone : (p.report (.done outcome hasRun)).run.Runs t (.ok ())) :
      Caught p (.error (.reported e)) t (.ok outcome)
  | failure (failure : Failure) : Caught p (.error failure) [] (.error failure)

/-- Each run of `a` begins with a run of `b`, and the pipeline makes its end of that. -/
def Reflects (p : Pipeline) (b : Action Int) (a : Action Outcome) : Prop :=
  ∀ t x, a.run.Runs t x → b.Begins t fun y rest => p.Caught y rest x

theorem reflects_completed (code : Int) :
    p.Reflects (pure code) (pure (.completed code)) := by
  rintro t x ⟨rfl, rfl⟩
  exact begins_of_runs ⟨rfl, rfl⟩ (.completed code)

/-- What both do first does not matter. -/
theorem reflects_bind {c : Action α} {g : α → Action Int} {f : α → Action Outcome}
    (h : ∀ z, p.Reflects (g z) (f z)) : p.Reflects (c >>= g) (c >>= f) := by
  intro t x hruns
  obtain ⟨t₁, t₂, z, rfl, hz, hrest⟩ | ⟨failure, hfailure, rfl⟩ := runs_bind.1 hruns
  · exact begins_bind_ok hz (h z t₂ x hrest)
  · exact begins_of_runs (runs_bind.2 (.inr ⟨failure, hfailure, rfl⟩)) (.failure failure)

/-- **An error is caught**: it ends the stages, and the pipeline in an outcome that it reports. -/
theorem reflects_orOutcome_bind (hreport : ∀ event t x, (p.report event).run.Runs t x → x = .ok ())
    {c : Action α} {g : α → Action Int} {f : Except Outcome α → Action Outcome} {hasRun : Bool}
    (herror : ∀ outcome, f (.error outcome)
      = p.report (.done outcome hasRun) >>= fun _ => pure outcome)
    (hok : ∀ z, p.Reflects (g z) (f (.ok z))) :
    p.Reflects (c >>= g) (orOutcome c >>= f) := by
  intro t x hruns
  obtain ⟨t₁, t₂, z, rfl, hz, hrest⟩ | ⟨t₁, t₂, e, outcome, rfl, he, hstands, hrest⟩ |
    ⟨failure, hfailure, rfl⟩ := runs_orOutcome_bind hruns
  · exact begins_bind_ok hz (hok z t₂ x hrest)
  · rw [herror] at hrest
    refine begins_bind_error he ?_
    obtain ⟨t₃, t₄, _, rfl, hdone, rfl, rfl⟩ | ⟨failure, hdone, rfl⟩ := runs_bind.1 hrest
    · exact .outcome hstands (by simpa using hdone)
    · exact absurd (hreport _ _ _ hdone) (by simp)
  · exact begins_of_runs (runs_bind.2 (.inr ⟨failure, hfailure, rfl⟩)) (.failure failure)

/-- **The stages of a pipeline.** Each run of a pipeline whose reports do not fail begins with a run
of its stages, and ends as they have ended. -/
theorem runs_uncaught (hreport : ∀ event t x, (p.report event).run.Runs t x → x = .ok ())
    {script : Path} {arguments : List Text} {x : Except Failure Outcome}
    (h : (p.run script arguments).run.Runs t x) :
    (p.uncaught script arguments).Begins t fun y rest => p.Caught y rest x := by
  have hreflects : p.Reflects (p.uncaught script arguments) (p.run script arguments) := by
    rw [run_eq]
    refine reflects_bind fun prepared => ?_
    rw [finish_eq]
    refine reflects_bind fun workDir => ?_
    refine reflects_orOutcome_bind hreport (fun _ => rfl) fun artifact => ?_
    refine reflects_bind fun _ => ?_
    refine reflects_orOutcome_bind hreport (fun _ => rfl) fun code => ?_
    exact reflects_bind fun _ => reflects_completed code
  exact hreflects t x h

end Pipeline

end Oneshot
