import Oneshot.Proofs.Host.Topics

/-!
# What a Pipeline Writes

A pipeline makes directories, and it lets the compiler write. It writes one file itself, the source
in the scratch directory, and what it writes there is the text of the program that has been
prepared.

* `Trace.written`: what is written in a trace.
* `Pipeline.prepare_eq`: up to its report, a preparation is that of a pipeline without reports.
* `Pipeline.writesOnly_finish`: behind the preparation nothing is written but the program.
-/

namespace Oneshot

open Action (every_bind every_ask every_lift)

/-! ### What is written in a trace -/

/-- The content of an exchange that writes a file in place of what it held. -/
def Exchange.written? : Exchange → Option Bytes
  | ⟨.write _ content, _⟩ => some content
  | _ => none

/-- The request writes nothing but the content. -/
def Request.WritesOnly (content : Bytes) (request : Request) : Prop :=
  ∀ path written, request = .write path written → written = content

namespace Trace

/-- The contents that are written in place of what files held, in order. -/
def written (t : Trace) : List Bytes :=
  t.filterMap Exchange.written?

@[simp] theorem written_append (t t' : Trace) : written (t ++ t') = written t ++ written t' :=
  List.filterMap_append

/-- Only what is about writing writes. -/
theorem written_eq_nil {t : Trace} {topics : List Topic}
    (h : ∀ e ∈ t, e.request.topic ∈ topics) (hnot : .write ∉ topics) : t.written = [] := by
  refine filterMap_eq_nil_of_topic h hnot fun e htopic => ?_
  obtain ⟨request, reply⟩ := e
  cases request with
  | write path content => exact absurd rfl htopic
  | _ => rfl

/-- Where only the content may be written, it is all that is written. -/
theorem eq_of_mem_written {t : Trace} {content written : Bytes}
    (h : ∀ e ∈ t, e.request.WritesOnly content) (hmem : written ∈ t.written) :
    written = content := by
  obtain ⟨⟨request, reply⟩, he, hwritten⟩ := List.mem_filterMap.1 hmem
  cases request with
  | write path found => exact Option.some.inj hwritten ▸ h _ he path found rfl
  | _ => simp [Exchange.written?] at hwritten

end Trace

/-! ### The stages write the program -/

/-- What is not about writing writes nothing. -/
theorem Action.Within.writesOnly {α : Type} {a : Action α} {topics : List Topic}
    (h : a.Within topics) (hnot : .write ∉ topics) (content : Bytes) :
    a.run.Every (Request.WritesOnly content) := by
  refine Routine.Every.imp h fun request hmem path written hwrite => ?_
  subst hwrite
  exact absurd hmem hnot

namespace Toolchain

theorem writesOnly_writeSource (source : Path) (program : Text) :
    (writeSource source program).run.Every (Request.WritesOnly (Utf8.encode program)) := by
  refine every_bind (Action.Within.writesOnly (every_lift (Files.within_makeDirs _)) (by decide) _)
    fun made => ?_
  refine every_bind (Action.every_reporting made) fun _ => ?_
  refine every_bind (every_ask fun path written hwrite => ?_) fun x => Action.every_reporting x
  exact (Request.write.inj hwrite).2.symm

theorem writesOnly_buildProgram (cache : Cache) (settings : Settings) (platform : Platform)
    (workDir : Path) (crates : List Text) (program : Text) (script : Path) :
    (buildProgram cache settings platform workDir crates program script).run.Every
      (Request.WritesOnly (Utf8.encode program)) := by
  refine every_bind ((within_artifactFor ..).writesOnly (by decide) _) fun artifact => ?_
  refine every_bind (writesOnly_writeSource ..) fun _ => ?_
  refine every_bind ((within_plannedCommand ..).writesOnly (by decide) _) fun command => ?_
  exact (within_compile command artifact).writesOnly (by decide) _

end Toolchain

namespace Pipeline

variable {p : Pipeline} {topics : List Topic}

/-- The program of a script is that of its text. -/
theorem program_of_prepare {p : Pipeline} {script : Path} {t : Trace} {prepared : Prepared}
    (h : (p.prepare script).run.Runs t (.ok prepared)) :
    prepared.program =
      Program.ofSnippet p.settings.policy prepared.analysis p.cache.prelude prepared.text := by
  rw [prepare] at h
  split at h
  · simp at h
  obtain ⟨t₁, t₂, text, rfl, -, h⟩ := Action.runs_bind_ok.1 h
  split at h
  · simp at h
  obtain ⟨t₃, t₄, -, rfl, -, h⟩ := Action.runs_bind_ok.1 h
  obtain ⟨-, rfl⟩ := Action.runs_pure_ok.1 h
  rfl

/-- The pipeline without its reports. -/
def muted (p : Pipeline) : Pipeline :=
  { p with report := fun _ => pure () }

/-- A report of what has been prepared follows the preparation. -/
theorem prepare_eq (p : Pipeline) (script : Path) :
    p.prepare script = p.muted.prepare script >>= fun prepared =>
      p.report (.analyzed prepared.analysis) >>= fun _ => pure prepared := by
  rw [prepare, prepare]
  split
  · rfl
  · rw [bind_assoc]
    refine congrArg _ (funext fun text => ?_)
    simp only [muted]
    split
    · rfl
    · simp

/-- What a pipeline does with a program that has been prepared. -/
def finish (p : Pipeline) (arguments : List Text) (prepared : Prepared) : Action Outcome := do
  match ← p.build prepared with
  | .error outcome =>
    p.report (.done outcome false)
    return outcome
  | .ok artifact =>
    let outcome ← p.execute artifact arguments
    p.report (.done outcome true)
    return outcome

/-- A pipeline prepares its script, and then it compiles and runs it. -/
theorem run_eq (script : Path) (arguments : List Text) :
    p.run script arguments = p.prepare script >>= p.finish arguments :=
  rfl

theorem writesOnly_build (hreport : ∀ event, (p.report event).Within topics)
    (hnot : .write ∉ topics) (prepared : Prepared) :
    (p.build prepared).run.Every (Request.WritesOnly (Utf8.encode prepared.program.text)) := by
  have hplanning : (p.planning prepared).Within (.look :: .surroundings :: topics) :=
    within_planning (fun event => (hreport event).mono fun _ hmem => .tail _ (.tail _ hmem))
      (by simp) (by simp) prepared
  rw [build_eq_planning]
  refine every_bind (hplanning.writesOnly (by simpa using hnot) _) fun workDir => ?_
  refine Action.every_tryCatch (every_bind (Toolchain.writesOnly_buildProgram ..) fun _ => trivial)
    fun failure => ?_
  split <;> trivial

/-- **A pipeline writes the program, and nothing else.** -/
theorem writesOnly_finish (hreport : ∀ event, (p.report event).Within topics)
    (hnot : .write ∉ topics) (arguments : List Text) (prepared : Prepared) :
    (p.finish arguments prepared).run.Every
      (Request.WritesOnly (Utf8.encode prepared.program.text)) := by
  have hannounce : ∀ event, (p.report event).run.Every
      (Request.WritesOnly (Utf8.encode prepared.program.text)) := fun event =>
    (hreport event).writesOnly hnot _
  refine every_bind (writesOnly_build hreport hnot prepared) fun built => ?_
  cases built with
  | error outcome => exact every_bind (hannounce _) fun _ => trivial
  | ok artifact =>
    refine every_bind ?_ fun outcome => every_bind (hannounce _) fun _ => trivial
    refine every_bind (hannounce _) fun _ => ?_
    refine every_bind ?_ fun ended => ?_
    · exact (within_orOutcome (Toolchain.within_launchArtifact ..)).writesOnly (by decide) _
    · cases ended <;> trivial

end Pipeline

end Oneshot
