import Oneshot.Proofs.Pipeline.Outcomes
import Oneshot.Proofs.Pipeline.Writing

/-!
# A Program That Is Rejected

A compiler that ends with a status other than zero has rejected the program. What it has written to
standard error is a text or it is none: a text goes, with unified newlines, into the outcome in
which the pipeline ends, and otherwise the pipeline is ended by an escape. In either case nothing is
asked for behind the compiler.

* `Trace.append_eq_of_quiet_left`, `Trace.append_eq_of_quiet_right`: on which side of a composed
  trace a launch lies.
* `Finished.Rejects`: what is made of what the compiler has left.
* `Toolchain.runs_compile_rejected`, `Pipeline.runs_build_rejected`: one function at a time.
* `Pipeline.runs_run_rejected`: the whole pipeline.
-/

namespace Oneshot

open Action (runs_bind runs_lift_bind runs_ask_bind)
open Trace (Quiet)

variable {before after t t₁ t₂ : Trace} {launch : Launch} {finished : Finished}

/-! ### The place of a launch -/

namespace Trace

variable {e : Exchange}

/-- A launch does not lie in front, where nothing is launched. -/
theorem append_eq_of_quiet_left (h : t₁ ++ t₂ = before ++ e :: after) (hquiet : Quiet t₁)
    (he : e.command? ≠ none) : ∃ between, before = t₁ ++ between ∧ t₂ = between ++ e :: after := by
  rcases List.append_eq_append_iff.1 h with ⟨between, hbefore, ht₂⟩ | ⟨between, ht₁, hrest⟩
  · exact ⟨between, hbefore, ht₂⟩
  · rcases List.cons_eq_append_iff.1 hrest with ⟨rfl, ht₂⟩ | ⟨tail, rfl, -⟩
    · exact ⟨[], by simpa using ht₁.symm, ht₂⟩
    · exact absurd (hquiet e (by simp [ht₁])) he

/-- A launch does not lie behind, where nothing is launched. -/
theorem append_eq_of_quiet_right (h : t₁ ++ t₂ = before ++ e :: after) (hquiet : Quiet t₂)
    (he : e.command? ≠ none) : ∃ between, t₁ = before ++ e :: between ∧ after = between ++ t₂ := by
  rcases List.append_eq_append_iff.1 h with ⟨between, hbefore, ht₂⟩ | ⟨between, ht₁, hrest⟩
  · exact absurd (hquiet e (by simp [ht₂])) he
  · rcases List.cons_eq_append_iff.1 hrest with ⟨rfl, ht₂⟩ | ⟨tail, rfl, htail⟩
    · exact absurd (hquiet e (by simp [ht₂])) he
    · exact ⟨tail, ht₁, htail⟩

end Trace

/-- Behind an idle action comes a launch that the trace still holds. -/
theorem runs_bind_launch {α β : Type} {a : Action α} {f : α → Action β} {y : Except Failure β}
    {reply : Except Refusal Finished} (ha : a.Idle)
    (h : (a >>= f).run.Runs (before ++ ⟨.launch launch, reply⟩ :: after) y) :
    ∃ t between x, before = t ++ between ∧ a.run.Runs t (.ok x) ∧
      (f x).run.Runs (between ++ ⟨.launch launch, reply⟩ :: after) y := by
  obtain ⟨t₁, t₂, x, ht, hx, hy⟩ | ⟨failure, hx, -⟩ := runs_bind.1 h
  · obtain ⟨between, hbefore, rfl⟩ :=
      Trace.append_eq_of_quiet_left ht.symm (hx.calm ha).quiet (by simp [Exchange.command?])
    exact ⟨t₁, between, x, hbefore, hx, hy⟩
  · exact ((hx.calm ha) _ (List.mem_append_right _ List.mem_cons_self)).elim

/-! ### What a compiler has left -/

/-- What is made of what a compiler has left: an escape if one of its streams is no text, and
otherwise what `shown` makes of the text of standard error. -/
inductive Finished.Rejects {α : Type} (finished : Finished) (shown : Text → Except Failure α) :
    Except Failure α → Prop
  | undecodable {fault : Utf8.Fault} (h : finished.fault? = some fault) :
      finished.Rejects shown (.error (.escaped (.undecodable fault)))
  | shown {text : Text} (hfault : finished.fault? = none)
      (htext : Utf8.decode finished.errors = .ok text) :
      finished.Rejects shown (shown (Text.unifyNewlines text))

namespace Finished.Rejects

variable {α β : Type} {value : Text → α}

/-- A value is made of a text. -/
theorem exists_text {x : α} (h : finished.Rejects (fun errors => .ok (value errors)) (.ok x)) :
    ∃ text, finished.fault? = none ∧ Utf8.decode finished.errors = .ok text ∧
      x = value (Text.unifyNewlines text) := by
  generalize hy : (Except.ok x : Except Failure α) = y at h
  cases h with
  | undecodable => simp at hy
  | shown hfault htext => exact ⟨_, hfault, htext, Except.ok.inj hy⟩

/-- Where a text gives a value, a failure is the escape, whatever is made of a text elsewhere. -/
theorem of_error {shown : Text → Except Failure β} {failure : Failure}
    (h : finished.Rejects (fun errors => .ok (value errors)) (.error failure)) :
    finished.Rejects shown (.error failure) := by
  cases h with
  | undecodable hfault => exact .undecodable hfault

end Finished.Rejects

namespace Command

/-- A child whose streams are collected. -/
theorem runs_launch_collected {arguments : List Text} {vars : Option Variables}
    {x : Except Failure (Except LaunchFault Completed)}
    (h : (Command.launch arguments vars true).run.Runs
      (before ++ ⟨.launch launch, .ok finished⟩ :: after) x) :
    before = [] ∧ after = [] ∧ launch = ⟨arguments, vars, true⟩ ∧ ∃ output,
      finished.Rejects
        (fun errors => .ok (.ok ⟨arguments, finished.status, output, errors⟩)) x := by
  obtain ⟨reply, ht, -⟩ := runs_launch h
  obtain ⟨rfl, he, rfl⟩ : before = [] ∧
      (⟨.launch launch, .ok finished⟩ : Exchange) = ⟨.launch ⟨arguments, vars, true⟩, reply⟩ ∧
        after = [] := by
    rcases List.append_eq_cons_iff.1 ht with ⟨rfl, hcons⟩ | ⟨tail, -, htail⟩
    · obtain ⟨he, rfl⟩ := List.cons.inj hcons
      exact ⟨rfl, he, rfl⟩
    · simp at htail
  obtain ⟨hlaunch, hreply⟩ := Exchange.mk.inj he
  obtain rfl := Request.launch.inj hlaunch
  obtain rfl := eq_of_heq hreply
  refine ⟨rfl, rfl, rfl, ?_⟩
  obtain ⟨reply, rest, ht, hcollect⟩ := runs_ask_bind.1 h
  obtain ⟨hhead, rfl⟩ := List.cons.inj ht
  obtain rfl := eq_of_heq (Exchange.mk.inj hhead).2
  simp only [if_true] at hcollect
  obtain ⟨output, errors, hfault, -, hdecode, -, rfl⟩ | ⟨fault, hfault, -, rfl⟩ :=
    runs_collectedText_bind hcollect
  · exact ⟨_, .shown hfault hdecode⟩
  · exact ⟨[], .undecodable hfault⟩

/-- A command whose streams are collected, with all that has happened up to its launch. -/
theorem runs_run_collected {command : List Text} {vars : Option Variables}
    {x : Except Failure (Except LaunchFault Completed)}
    (h : (Command.run command vars true).run.Runs
      (before ++ ⟨.launch launch, .ok finished⟩ :: after) x) :
    after = [] ∧ Launches command launch ∧ launch.captured = true ∧ ∃ output,
      finished.Rejects (fun errors => .ok (.ok ⟨launch.arguments, finished.status, output, errors⟩))
        x := by
  cases command with
  | nil =>
    obtain ⟨hnil, -⟩ := h
    simp at hnil
  | cons program rest =>
    rw [Command.run] at h
    split at h
    · obtain ⟨-, rfl, rfl, hrejects⟩ := runs_launch_collected h
      exact ⟨rfl, ⟨program, _, rest, rfl, rfl, fun _ => rfl⟩, rfl, hrejects⟩
    · next hrelative =>
      obtain ⟨t₁, t₂, found, ht, hlook, hrest⟩ := runs_lift_bind.1 h
      obtain ⟨between, rfl, rfl⟩ := Trace.append_eq_of_quiet_left ht.symm (runs_lookUp hlook).1
        (by simp [Exchange.command?])
      cases found with
      | none =>
        obtain ⟨hnil, -⟩ := hrest
        simp at hnil
      | some place =>
        obtain ⟨-, rfl, rfl, hrejects⟩ := runs_launch_collected hrest
        exact ⟨rfl, ⟨program, place, rest, rfl, rfl, fun hp => absurd hp hrelative⟩, rfl, hrejects⟩

end Command

/-! ### The compiler -/

namespace Toolchain

/-- **A compiler that rejects a program** is the end of compiling. -/
theorem runs_compile_rejected {command : List Text} {artifact : Artifact}
    {x : Except Failure Artifact}
    (h : (compile command artifact).run.Runs (before ++ ⟨.launch launch, .ok finished⟩ :: after) x)
    (hstatus : finished.status ≠ 0) :
    after = [] ∧ Launches command launch ∧ launch.captured = true ∧
      finished.Rejects (fun errors => .error (.reported (.compilerRejected errors finished.status)))
        x := by
  have hcommand : (⟨.launch launch, .ok finished⟩ : Exchange).command? ≠ none := by
    simp [Exchange.command?]
  rw [compile] at h
  obtain ⟨t₁, t₂, launched, ht, hrun, hrest⟩ | ⟨failure, hrun, rfl⟩ := runs_bind.1 h
  swap
  · obtain ⟨rfl, hlaunches, hcaptured, output, hrejects⟩ := Command.runs_run_collected hrun
    exact ⟨rfl, hlaunches, hcaptured, hrejects.of_error⟩
  have hend : t₂ = [] := by
    rcases launched with (_ | e) | done
    · exact hrest.1
    · simp only at hrest
      split at hrest
      · exact hrest.1
      · exact hrest.1
    · simp only at hrest
      split at hrest
      · exact hrest.1
      · exact hrest.1
  subst hend
  rw [List.append_nil] at ht
  subst ht
  obtain ⟨rfl, hlaunches, hcaptured, output, hrejects⟩ := Command.runs_run_collected hrun
  obtain ⟨text, hfault, htext, rfl⟩ := hrejects.exists_text
  simp only [hstatus, if_false] at hrest
  obtain ⟨-, rfl⟩ := hrest
  exact ⟨rfl, hlaunches, hcaptured, .shown hfault htext⟩

theorem runs_buildProgram_rejected {cache : Cache} {settings : Settings} {platform : Platform}
    {workDir : Path} {crates : List Text} {program : Text} {script : Path}
    {x : Except Failure Artifact}
    (h : (buildProgram cache settings platform workDir crates program script).run.Runs
      (before ++ ⟨.launch launch, .ok finished⟩ :: after) x)
    (hstatus : finished.status ≠ 0) :
    after = [] ∧ (∃ inColor artifact, Launches
        (compileCommand cache settings.toolchain platform inColor crates artifact) launch) ∧
      launch.captured = true ∧
      finished.Rejects (fun errors => .error (.reported (.compilerRejected errors finished.status)))
        x := by
  obtain ⟨t₁, between, artifact, rfl, -, h⟩ := runs_bind_launch (idle_artifactFor ..) h
  obtain ⟨t₂, between, _, rfl, -, h⟩ := runs_bind_launch (idle_writeSource ..) h
  obtain ⟨t₃, between, command, rfl, hcommand, h⟩ := runs_bind_launch (idle_plannedCommand ..) h
  obtain ⟨inColor, hcommand⟩ := runs_plannedCommand hcommand
  obtain rfl := Except.ok.inj hcommand
  obtain ⟨rfl, hlaunches, hcaptured, hrejects⟩ := runs_compile_rejected h hstatus
  exact ⟨rfl, ⟨inColor, artifact, hlaunches⟩, hcaptured, hrejects⟩

end Toolchain

/-! ### The pipeline -/

namespace Pipeline

variable {p : Pipeline}

/-- What a compiler has left becomes an outcome, or it stays an escape. -/
theorem runs_orOutcome_rejected {α : Type} {a : Action α} {x : Except Failure (Except Outcome α)}
    (h : (orOutcome a).run.Runs t x) : ∃ y, a.run.Runs t y ∧ (finished.Rejects
      (fun errors => .error (.reported (.compilerRejected errors finished.status))) y →
        finished.Rejects
          (fun errors => .ok (.error (.compileFailed errors finished.status))) x) := by
  obtain ⟨y, hy, rfl⟩ := runs_orOutcome_iff.1 h
  refine ⟨y, hy, fun hrejects => ?_⟩
  cases hrejects with
  | undecodable hfault => exact .undecodable hfault
  | shown hfault htext => exact .shown hfault htext

theorem runs_build_rejected (hreport : ∀ event, (p.report event).Idle) {prepared : Prepared}
    {x : Except Failure (Except Outcome Artifact)}
    (h : (p.build prepared).run.Runs (before ++ ⟨.launch launch, .ok finished⟩ :: after) x)
    (hstatus : finished.status ≠ 0) :
    after = [] ∧ (∃ inColor artifact, Launches (Toolchain.compileCommand p.cache
        p.settings.toolchain p.platform inColor prepared.analysis.crates artifact) launch) ∧
      launch.captured = true ∧
      finished.Rejects (fun errors => .ok (.error (.compileFailed errors finished.status))) x := by
  rw [build_eq_planning] at h
  obtain ⟨t, between, workDir, rfl, -, h⟩ :=
    runs_bind_launch (idle_planning hreport prepared) h
  obtain ⟨y, hbuild, houtcome⟩ := runs_orOutcome_rejected h
  obtain ⟨rfl, hlaunches, hcaptured, hrejects⟩ :=
    Toolchain.runs_buildProgram_rejected hbuild hstatus
  exact ⟨rfl, hlaunches, hcaptured, houtcome hrejects⟩

/-- An artifact is built by a launch. -/
theorem not_quiet_of_built (hreport : ∀ event, (p.report event).Idle) {prepared : Prepared}
    {artifact : Artifact} (h : (p.build prepared).run.Runs t (.ok (.ok artifact))) : ¬ Quiet t := by
  obtain ⟨inColor, planned, hends⟩ := runs_build hreport h
  obtain ⟨-, before, e, rfl, -, hask, -⟩ := hends artifact.executable []
  intro hquiet
  have hnone := hquiet e (by simp)
  obtain ⟨request, reply⟩ := e
  cases request with
  | launch launch => simp [Exchange.command?] at hnone
  | _ => exact hask

/-- **A pipeline whose program is rejected** ends with what the compiler has written, and asks for
nothing more. The first command that it launches is that of the compiler. -/
theorem runs_run_rejected (hreport : ∀ event, (p.report event).Idle)
    (hdone : ∀ outcome hasRun, p.report (.done outcome hasRun) = pure ()) {script : Path}
    {arguments : List Text} {x : Except Failure Outcome}
    (h : (p.run script arguments).run.Runs (before ++ ⟨.launch launch, .ok finished⟩ :: after) x)
    (hbefore : Quiet before) (hstatus : finished.status ≠ 0) :
    after = [] ∧ (∃ inColor crates artifact, Launches (Toolchain.compileCommand p.cache
        p.settings.toolchain p.platform inColor crates artifact) launch) ∧
      launch.captured = true ∧
      finished.Rejects (fun errors => .ok (.compileFailed errors finished.status)) x := by
  rw [run_eq] at h
  obtain ⟨t₁, between, prepared, rfl, -, h⟩ := runs_bind_launch (idle_prepare hreport script) h
  rw [finish] at h
  obtain ⟨t₂, t₃, built, ht, hbuild, hrest⟩ | ⟨failure, hbuild, rfl⟩ := runs_bind.1 h
  swap
  · obtain ⟨rfl, ⟨inColor, artifact, hlaunches⟩, hcaptured, hrejects⟩ :=
      runs_build_rejected hreport hbuild hstatus
    exact ⟨rfl, ⟨inColor, _, artifact, hlaunches⟩, hcaptured, hrejects.of_error⟩
  cases built with
  | ok artifact =>
    -- the compiler is launched for an artifact, and it has not rejected the program then
    have hloud := not_quiet_of_built hreport hbuild
    have hbetween : Quiet between := fun e he => hbefore e (by simp [he])
    rcases List.append_eq_append_iff.1 ht with ⟨more, rfl, hmore⟩ | ⟨more, rfl, -⟩
    · rcases List.cons_eq_append_iff.1 hmore with ⟨rfl, -⟩ | ⟨tail, rfl, -⟩
      · exact absurd (by simpa using hbetween) hloud
      · obtain ⟨-, -, -, hrejects⟩ := runs_build_rejected hreport hbuild hstatus
        obtain ⟨text, -, -, hbuilt⟩ := hrejects.exists_text
        simp at hbuilt
    · exact absurd (fun e he => hbetween e (List.mem_append_left _ he)) hloud
  | error outcome =>
    simp only [hdone] at hrest
    obtain ⟨rfl, rfl⟩ := hrest
    rw [List.append_nil] at ht
    subst ht
    obtain ⟨rfl, ⟨inColor, artifact, hlaunches⟩, hcaptured, hrejects⟩ :=
      runs_build_rejected hreport hbuild hstatus
    obtain ⟨text, hfault, htext, houtcome⟩ := hrejects.exists_text
    obtain rfl := Except.error.inj houtcome
    exact ⟨rfl, ⟨inColor, _, artifact, hlaunches⟩, hcaptured, .shown hfault htext⟩

end Pipeline

end Oneshot
