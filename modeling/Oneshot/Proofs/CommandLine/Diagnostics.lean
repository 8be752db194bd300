import Oneshot.Proofs.CommandLine.ExitStatus
import Oneshot.Proofs.CommandLine.Stages
import Oneshot.Proofs.Pipeline.Rejection
import Oneshot.Proofs.Pipeline.Uncaught
import Oneshot.Proofs.Text.Bytes

/-!
# The Diagnostics of the Compiler

A compiler that rejects a program says why on standard error. A run without debug lines repeats this
behind its own notices, puts nothing around it and ends with the exit status 1; the artifact is not
run. What is repeated is a text. Streams that are no UTF-8 are not repeated at all, since the run is
ended by an escape, and a CR in them comes back as LF.

* `Request.IsNotice`: what a run says in front of the compiler.
* `CommandLine.runs_endRun_compileFailed`: the diagnostics are repeated as they are known.
* `CommandLine.diagnostics_replayed`: the whole run, and when the bytes are repeated.
-/

namespace Oneshot

open Action (every_pure every_bind every_lift runs_bind runs_bind_ok runs_lift_bind)
open Trace (Quiet)

/-! ### Notices -/

/-- The text of an exchange that prints on standard error. -/
def Exchange.diagnostic? : Exchange → Option Text
  | ⟨.print .errors text, _⟩ => some text
  | _ => none

namespace Trace

/-- The texts that are printed on standard error, in order. -/
def diagnostics (t : Trace) : List Text :=
  t.filterMap Exchange.diagnostic?

@[simp] theorem diagnostics_append (t t' : Trace) :
    diagnostics (t ++ t') = diagnostics t ++ diagnostics t' :=
  List.filterMap_append

/-- Only what is about printing prints. -/
theorem diagnostics_eq_nil {t : Trace} {topics : List Topic} (h : ∀ e ∈ t, e.request.topic ∈ topics)
    (hnot : .print ∉ topics) : t.diagnostics = [] := by
  refine filterMap_eq_nil_of_topic h hnot fun e htopic => ?_
  obtain ⟨request, reply⟩ := e
  cases request with
  | print channel text => exact absurd rfl htopic
  | _ => rfl

end Trace

/-- The first launch of a trace has left something. -/
theorem Trace.exists_first_launch {t : Trace} {finished : Finished}
    (h : (t.find? (·.command?.isSome)).bind Exchange.finished? = some finished) :
    ∃ before launch after, t = before ++ ⟨.launch launch, .ok finished⟩ :: after ∧
      Quiet before := by
  obtain ⟨e, he, hfinished⟩ := Option.bind_eq_some_iff.1 h
  obtain ⟨-, before, after, rfl, hbefore⟩ := List.find?_eq_some_iff_append.1 he
  have hquiet : Quiet before := fun x hx => by simpa using hbefore x hx
  obtain ⟨launch, rfl⟩ := Exchange.eq_of_finished? hfinished
  exact ⟨before, launch, after, rfl, hquiet⟩

/-- The request prints nothing but a notice: on standard error the warning about a missing library
or, if that is asked for, where the program has been written. -/
def Request.IsNotice (showExpanded : Bool) (request : Request) : Prop :=
  ∀ channel text, request = .print channel text → channel = .errors ∧
    ∃ withMark rendering detail,
      text = Console.messageText .warning withMark rendering ("no shared library for ".toList
        ++ detail ++ "; build it into the artifact cache first".toList) ∨
      showExpanded = true ∧ text = Console.messageText .info withMark rendering
        ("***expanded code is in ".toList ++ detail ++ "***".toList)

/-- What is not about printing prints nothing. -/
theorem Action.Within.isNotice {α : Type} {a : Action α} {topics : List Topic}
    (h : a.Within topics) (hnot : .print ∉ topics) (showExpanded : Bool) :
    a.run.Every (Request.IsNotice showExpanded) := by
  refine Routine.Every.imp h fun request hmem channel text hprint => ?_
  subst hprint
  exact absurd hmem hnot

namespace Pipeline

variable {p : Pipeline} {showExpanded : Bool}

/-- What a pipeline says of a script that it prepares is what it reports. -/
theorem isNotice_prepare
    (hreport : ∀ event, (p.report event).run.Every (Request.IsNotice showExpanded))
    (script : Path) : (p.prepare script).run.Every (Request.IsNotice showExpanded) := by
  have hmuted : (p.muted.prepare script).Within [.look] :=
    within_prepare (fun _ => every_pure) List.mem_cons_self script
  rw [prepare_eq]
  exact every_bind (hmuted.isNotice (by decide) _) fun prepared =>
    every_bind (hreport _) fun _ => trivial

/-- What it says in front of the compiler is what it reports. -/
theorem isNotice_planning
    (hreport : ∀ event, (p.report event).run.Every (Request.IsNotice showExpanded))
    (prepared : Prepared) : (p.planning prepared).run.Every (Request.IsNotice showExpanded) := by
  refine every_planning hreport (fun request hmem channel text hprint => ?_) prepared
  subst hprint
  simp at hmem

/-- **All that a pipeline says is what it reports.** -/
theorem isNotice_run
    (hreport : ∀ event, (p.report event).run.Every (Request.IsNotice showExpanded)) (script : Path)
    (arguments : List Text) :
    (p.run script arguments).run.Every (Request.IsNotice showExpanded) := by
  rw [run_eq]
  refine every_bind (isNotice_prepare hreport script) fun prepared => ?_
  rw [finish_eq]
  refine every_bind (isNotice_planning hreport prepared) fun workDir => ?_
  refine every_bind ?_ fun built => ?_
  · exact (within_orOutcome (Toolchain.within_buildProgram ..)).isNotice (by decide) _
  cases built with
  | error outcome => exact every_bind (hreport _) fun _ => trivial
  | ok artifact =>
    refine every_bind (hreport _) fun _ => every_bind ?_ fun ended => ?_
    · exact (within_orOutcome (Toolchain.within_launchArtifact ..)).isNotice (by decide) _
    · cases ended with
      | error outcome => exact every_bind (hreport _) fun _ => trivial
      | ok code => exact every_bind (hreport _) fun _ => trivial

/-- Its stages say the same, with nothing caught. -/
theorem isNotice_uncaught
    (hreport : ∀ event, (p.report event).run.Every (Request.IsNotice showExpanded)) (script : Path)
    (arguments : List Text) :
    (p.uncaught script arguments).run.Every (Request.IsNotice showExpanded) := by
  refine every_bind (isNotice_prepare hreport script) fun prepared => ?_
  refine every_bind (isNotice_planning hreport prepared) fun workDir => ?_
  refine every_bind ((Toolchain.within_buildProgram ..).isNotice (by decide) _) fun artifact => ?_
  refine every_bind (hreport _) fun _ => every_bind ?_ fun code => ?_
  · exact (Toolchain.within_launchArtifact ..).isNotice (by decide) _
  · exact every_bind (hreport _) fun _ => trivial

end Pipeline

namespace CommandLine

theorem note_of_not_debug {logger : Logger} (h : logger.debug = false) (message : Text) :
    logger.note message = pure () := by
  simp [Logger.note, h]

/-- A message is printed on standard error, behind questions about the surroundings. -/
theorem every_printMessage {P : Request → Prop} {window : Console.Window} {level : Console.Level}
    {withMark : Bool} {wantsColor : Option Bool} {message : Text}
    (hterminal : P (.isTerminal .errors)) (henvironment : P .environment)
    (h : ∀ rendering, P (.print .errors (Console.messageText level withMark rendering message))) :
    (Console.printMessage window level withMark wantsColor message).Every P := by
  refine Routine.every_bind (Routine.every_request hterminal) fun _ => ?_
  refine Routine.every_bind (Routine.every_request henvironment) fun vars => ?_
  split
  · exact Routine.every_request (h _)
  · trivial

/-- Without debug lines, all that is said about an event is a notice. -/
theorem isNotice_sayEvent {logger : Logger} (h : logger.debug = false) (showExpanded : Bool)
    (event : Event) : (sayEvent logger showExpanded event).Every
      (Request.IsNotice showExpanded) := by
  unfold sayEvent
  rw [note_of_not_debug h, Routine.pure_eq, Routine.bind_done]
  cases event with
  | missingLibrary crate library =>
    refine every_printMessage (by simp [Request.IsNotice]) (by simp [Request.IsNotice])
      fun rendering channel text hprint => ?_
    obtain ⟨rfl, rfl⟩ := Request.print.inj hprint
    exact ⟨rfl, _, _, _, .inl rfl⟩
  | scratch source =>
    simp only
    split
    · next hshow =>
      refine every_printMessage (by simp [Request.IsNotice]) (by simp [Request.IsNotice])
        fun rendering channel text hprint => ?_
      obtain ⟨rfl, rfl⟩ := Request.print.inj hprint
      exact ⟨rfl, _, _, _, .inr ⟨hshow, rfl⟩⟩
    · trivial
  | _ => trivial

/-- Without debug lines, nothing is said about the end of a pipeline. -/
theorem report_done_of_not_debug {platform : Platform} {settings : Settings} {logger : Logger}
    (h : logger.debug = false) (cache : Cache) (outcome : Outcome) (hasRun : Bool) :
    (pipelineOf platform settings logger cache).report (.done outcome hasRun) = pure () := by
  simp only [pipelineOf, sayEvent, note_of_not_debug h]
  rfl

/-- An error is shown with its exit status. -/
theorem runs_showing {α : Type} {logger : Logger} {e : RunError} {t : Trace}
    {x : Except Failure (Except Int α)}
    (h : (showing (pure logger) (fun _ => false) (.reported e)).run.Runs t x) :
    ∃ code, (logger.report e.diagnostic).Runs t code ∧ x = .ok (.error code) := by
  obtain ⟨t₁, t₂, opened, rfl, ⟨rfl, hlogger⟩, hreport⟩ | ⟨failure, ⟨-, hx⟩, -⟩ := runs_bind.1 h
  · obtain rfl := Except.ok.inj hlogger
    obtain ⟨t₃, t₄, code, rfl, hcode, rfl, rfl⟩ := runs_lift_bind.1 hreport
    exact ⟨code, by simpa using hcode, rfl⟩
  · simp at hx

/-- **The diagnostics are repeated** as they are known, and the exit status is 1. -/
theorem runs_endRun_compileFailed {logger : Logger} (h : logger.debug = false) {written : Text}
    {status : Int} {t : Trace} {x : Except Failure Int}
    (hruns : (endRun logger (fun _ => false) (.ok (.compileFailed written status))).run.Runs t x) :
    t = [⟨.print .errors written, ()⟩] ∧ x = .ok 1 := by
  have hreport : logger.report (RunError.compilerRejected written status).diagnostic
      = Routine.ask (.print .errors written) fun _ => .done 1 := by
    simp only [Logger.report, RunError.diagnostic, note_of_not_debug h]
    rfl
  obtain ⟨t₁, t₂, value, -, -, -⟩ | ⟨t₁, t₂, failure, rfl, hfail, hshown⟩ :=
    runs_reportingTo_bind hruns
  · exact value.elim
  obtain ⟨rfl, hfailure⟩ := Action.runs_fail.1 hfail
  obtain rfl := Except.error.inj hfailure
  obtain ⟨t₃, t₄, ended, rfl, hended, hend⟩ | ⟨failure, hended, rfl⟩ := runs_bind.1 hshown
  all_goals
    obtain ⟨code, hcode, hx⟩ := runs_showing hended
  · obtain rfl := Except.ok.inj hx
    rw [hreport] at hcode
    obtain ⟨reply, rest, rfl, rfl, rfl⟩ := hcode
    obtain ⟨rfl, rfl⟩ := hend
    exact ⟨rfl, rfl⟩
  · simp at hx

/-- A logger speaks as it has been opened to. -/
theorem debug_of_opened {emoji color debug : Bool} {logger : Logger} {t : Trace}
    (h : (Logger.opened emoji color debug).run.Runs t (.ok logger)) : logger.debug = debug := by
  obtain ⟨t₁, t₂, window, -, -, h⟩ := runs_bind_ok.1 h
  obtain ⟨-, rfl⟩ := Action.runs_pure_ok.1 h
  rfl

/-- What a run does behind its logger, if its program is rejected. -/
theorem runs_pipelineOf_rejected {platform : Platform} {settings : Settings} {logger : Logger}
    {root script : Path} {arguments : List Text} {before after : Trace} {launch : Launch}
    {finished : Finished} {x : Except Failure Outcome} (hdebug : logger.debug = false)
    (h : (do
      let cache ← openCache root logger
      (pipelineOf platform settings logger cache).run script arguments : Action Outcome).run.Runs
        (before ++ ⟨.launch launch, .ok finished⟩ :: after) x)
    (hbefore : Quiet before) (hstatus : finished.status ≠ 0) :
    after = [] ∧ (∃ cache inColor crates artifact, Launches (Toolchain.compileCommand cache
        settings.toolchain platform inColor crates artifact) launch) ∧
      launch.captured = true ∧
      (∀ e ∈ before, e.request.IsNotice settings.output.showExpanded) ∧
      finished.Rejects (fun errors => .ok (.compileFailed errors finished.status)) x := by
  rw [openCache_of_not_debug hdebug] at h
  have hnotices : (do
      let cache ← Cache.ensure root
      (pipelineOf platform settings logger cache).run script arguments : Action Outcome).run.Every
        (Request.IsNotice settings.output.showExpanded) :=
    every_bind ((Cache.within_ensure root).isNotice (by decide) _) fun cache =>
      Pipeline.isNotice_run (fun event => every_lift (isNotice_sayEvent hdebug _ event)) _ _
  have hbefore_notices : ∀ e ∈ before, e.request.IsNotice settings.output.showExpanded :=
    fun e he => h.every hnotices e (List.mem_append_left _ he)
  obtain ⟨t, between, cache, rfl, -, h⟩ := runs_bind_launch (Cache.idle_ensure root) h
  obtain ⟨rfl, ⟨inColor, crates, artifact, hlaunches⟩, hcaptured, hrejects⟩ :=
    Pipeline.runs_run_rejected (fun event => every_lift (idle_sayEvent _ _ event))
      (report_done_of_not_debug hdebug cache) h
      (fun e he => hbefore e (List.mem_append_right _ he)) hstatus
  exact ⟨rfl, ⟨cache, inColor, crates, artifact, hlaunches⟩, hcaptured, hbefore_notices, hrejects⟩

/-- The end of a pipeline whose program is rejected is not shown: it is an outcome or an escape. -/
theorem runs_reportingTo_rejected {platform : Platform} {settings : Settings} {logger : Logger}
    {root script : Path} {arguments : List Text} {before after : Trace} {launch : Launch}
    {finished : Finished} {x : Except Failure (Except Int Outcome)} (hdebug : logger.debug = false)
    (h : (reportingTo (pure logger) (fun _ => false) do
      let cache ← openCache root logger
      (pipelineOf platform settings logger cache).run script arguments).run.Runs
        (before ++ ⟨.launch launch, .ok finished⟩ :: after) x)
    (hbefore : Quiet before) (hstatus : finished.status ≠ 0) :
    after = [] ∧ (∃ cache inColor crates artifact, Launches (Toolchain.compileCommand cache
        settings.toolchain platform inColor crates artifact) launch) ∧
      launch.captured = true ∧
      (∀ e ∈ before, e.request.IsNotice settings.output.showExpanded) ∧
      finished.Rejects (fun errors => .ok (.ok (.compileFailed errors finished.status))) x := by
  obtain ⟨outcome, hpipeline, rfl⟩ | ⟨t₁, t₂, failure, ht, hfailed, hshown⟩ :=
    runs_reportingTo_iff.1 h
  · obtain ⟨rfl, hlaunches, hcaptured, hnotices, hrejects⟩ :=
      runs_pipelineOf_rejected hdebug hpipeline hbefore hstatus
    obtain ⟨text, hfault, htext, rfl⟩ := hrejects.exists_text
    exact ⟨rfl, hlaunches, hcaptured, hnotices, .shown hfault htext⟩
  · have hwithin : (showing (pure logger) (fun _ => false) failure :
        Action (Except Int Outcome)).Within [.surroundings, .print] :=
      within_showing every_pure (by decide) (by decide) failure
    have hquiet : Quiet t₂ := (hshown.calm (hwithin.idle (by decide))).quiet
    obtain ⟨more, rfl, rfl⟩ := Trace.append_eq_of_quiet_right ht.symm hquiet
      (by simp [Exchange.command?])
    obtain ⟨rfl, hlaunches, hcaptured, hnotices, hrejects⟩ :=
      runs_pipelineOf_rejected hdebug hfailed hbefore hstatus
    cases hrejects with
    | undecodable hfault =>
      obtain ⟨rfl, rfl⟩ := hshown
      exact ⟨rfl, hlaunches, hcaptured, hnotices, .undecodable hfault⟩

/-- A run behind its settings, if its program is rejected. -/
theorem runs_runLoaded_rejected {platform : Platform} {r : RunRequest} {root script : Path}
    {settings : Settings} {before after : Trace} {launch : Launch} {finished : Finished}
    {x : Except Failure Int} (hverbose : r.verbose = false)
    (hsettings : settings.raiseErrors = false ∧ settings.output.verbose = false)
    (h : (runLoaded platform r root (.ok (script, settings))).run.Runs
      (before ++ ⟨.launch launch, .ok finished⟩ :: after) x)
    (hbefore : Quiet before) (hstatus : finished.status ≠ 0) :
    (∃ cache inColor crates artifact, Launches (Toolchain.compileCommand cache
        settings.toolchain platform inColor crates artifact) launch) ∧
      launch.captured = true ∧
      (∀ e ∈ before, e.request.IsNotice (settings.output.showExpanded || r.showExpanded)) ∧
      ((∃ fault, finished.fault? = some fault ∧ after = [] ∧
          x = .error (.escaped (.undecodable fault))) ∨
        ∃ text, finished.fault? = none ∧ Utf8.decode finished.errors = .ok text ∧
          after = [⟨.print .errors (Text.unifyNewlines text), ()⟩] ∧ x = .ok 1) := by
  obtain ⟨t, between, logger, rfl, hlogger, h⟩ := runs_bind_launch (Logger.idle_opened ..) h
  have hdebug : logger.debug = false := by
    rw [debug_of_opened hlogger]
    simp [withRequest, hsettings.2, hverbose]
  simp only [hsettings.1] at h
  have hbetween : Quiet between := fun e he => hbefore e (List.mem_append_right _ he)
  have hnotices : (∀ e ∈ between,
      e.request.IsNotice (settings.output.showExpanded || r.showExpanded)) →
        ∀ e ∈ t ++ between, e.request.IsNotice (settings.output.showExpanded || r.showExpanded) :=
    fun hlate e he => (List.mem_append.1 he).elim
      (hlogger.every ((Logger.within_opened ..).isNotice (by decide) _) e) (hlate e)
  obtain ⟨t₁, t₂, ended, ht, hended, hend⟩ | ⟨failure, hended, rfl⟩ := runs_bind.1 h
  · obtain ⟨more, rfl, rfl⟩ := Trace.append_eq_of_quiet_right ht.symm
      (hend.calm ((within_endRun ..).idle (by decide))).quiet (by simp [Exchange.command?])
    obtain ⟨rfl, hlaunches, hcaptured, hlate, hrejects⟩ :=
      runs_reportingTo_rejected hdebug hended hbetween hstatus
    obtain ⟨text, hfault, htext, rfl⟩ := hrejects.exists_text
    obtain ⟨rfl, rfl⟩ := runs_endRun_compileFailed hdebug hend
    exact ⟨hlaunches, hcaptured, hnotices hlate, .inr ⟨text, hfault, htext, rfl, rfl⟩⟩
  · obtain ⟨rfl, hlaunches, hcaptured, hlate, hrejects⟩ :=
      runs_reportingTo_rejected hdebug hended hbetween hstatus
    refine ⟨hlaunches, hcaptured, hnotices hlate, .inl ?_⟩
    cases hrejects with
    | undecodable hfault => exact ⟨_, hfault, rfl, rfl⟩

/-- **The diagnostics of the compiler.** The first command that a run launches is that of the
compiler. If the compiler ends with a status other than zero, and neither debug lines nor raised
errors are asked for, then the run has said nothing but notices before. Behind the compiler it does
one thing: it prints the text that the compiler has written to standard error, with unified
newlines, and it ends with the exit status 1. The bytes are those of the compiler exactly if none of
them is that of CR. Only if one of the streams of the compiler is no UTF-8, the run prints nothing
and is ended by an escape. -/
theorem diagnostics_replayed {platform : Platform} {r : RunRequest} {before after : Trace}
    {launch : Launch} {finished : Finished} {x : Except Failure Int}
    (h : (runOn platform r).run.Runs (before ++ ⟨.launch launch, .ok finished⟩ :: after) x)
    (hverbose : r.verbose = false)
    (hsettings : ∀ settings,
      Loads r (before ++ ⟨.launch launch, .ok finished⟩ :: after) settings →
        settings.raiseErrors = false ∧ settings.output.verbose = false)
    (hbefore : Quiet before) (hstatus : finished.status ≠ 0) :
    ∃ settings, Loads r (before ++ ⟨.launch launch, .ok finished⟩ :: after) settings ∧
      (∃ cache inColor crates artifact, Launches (Toolchain.compileCommand cache
        settings.toolchain platform inColor crates artifact) launch) ∧
      launch.captured = true ∧
      (∀ e ∈ before, e.request.IsNotice (settings.output.showExpanded || r.showExpanded)) ∧
      ((∃ fault, finished.fault? = some fault ∧ after = [] ∧
          x = .error (.escaped (.undecodable fault))) ∨
        ∃ text, finished.fault? = none ∧ Utf8.decode finished.errors = .ok text ∧
          after = [⟨.print .errors (Text.unifyNewlines text), ()⟩] ∧ x = .ok 1 ∧
          (Utf8.encode (Text.unifyNewlines text) = finished.errors ↔
            (13 : UInt8) ∉ finished.errors)) := by
  rw [runOn_eq] at h
  obtain ⟨t₁, between, root, rfl, hroot, h⟩ := runs_bind_launch (idle_cacheRoot r.cacheDir) h
  have hwithin : (reportingTo Logger.plain (fun _ => false) (loading r.script root)).Within
      [.look, .surroundings, .print] :=
    within_reportingTo ((Logger.within_opened ..).mono (by decide))
      ((within_loading ..).mono (by decide)) (by decide) (by decide)
  obtain ⟨t₂, between, loaded, rfl, hloaded, h⟩ := runs_bind_launch (hwithin.idle (by decide)) h
  rcases loaded with code | ⟨script, settings⟩
  · obtain ⟨hnil, -⟩ := h
    simp at hnil
  have hloads : Loads r (t₁ ++ (t₂ ++ between) ++ ⟨.launch launch, .ok finished⟩ :: after)
      settings := by
    simpa using loads_of_runs hroot (runs_of_reportingTo hloaded)
      (between ++ ⟨.launch launch, .ok finished⟩ :: after)
  obtain ⟨hlaunches, hcaptured, hlate, hend⟩ := runs_runLoaded_rejected hverbose
    (hsettings settings hloads) h (fun e he => hbefore e (by simp [he])) hstatus
  refine ⟨settings, hloads, hlaunches, hcaptured, fun e he => ?_, hend.imp_right ?_⟩
  · rcases List.mem_append.1 he with he | he
    · exact hroot.every ((within_cacheRoot _).isNotice (by decide) _) e he
    rcases List.mem_append.1 he with he | he
    · exact (runs_of_reportingTo hloaded).every
        ((within_loading _ _).isNotice (by decide) _) e he
    · exact hlate e he
  · rintro ⟨text, hfault, htext, rfl, rfl⟩
    exact ⟨text, hfault, htext, rfl, rfl, Utf8.encode_unifyNewlines_iff htext⟩

/-! ### Rejected programs -/

/-- A host whose compiler rejects every program and writes the bytes to standard error. -/
def rejectingHost (errors : Bytes) : (request : Request) → request.Reply
  | .launch _ => .ok ⟨1, [], errors⟩
  | request => killingHost request

/-- The loading of the settings of the plain request. -/
def plainSettings : Action Settings := do
  let root ← cacheRoot plainRequest.cacheDir
  Settings.load (some root) (← Action.ask .environment)

/-- The default settings, if a host has no others, ask for no debug lines and raise no errors. -/
theorem quiet_of_loads {host : (request : Request) → request.Reply}
    (hdefault : (plainSettings.run.follow host).2 = .ok .default) {t : Trace}
    (hhost : ∀ e ∈ t, e.reply = host e.request) {settings : Settings}
    (h : Loads plainRequest t settings) :
    settings.raiseErrors = false ∧ settings.output.verbose = false := by
  obtain ⟨part, hpart, hload⟩ := h
  have hloaded := hload.eq_follow fun e he => hhost e (hpart.subset he)
  obtain rfl := Except.ok.inj (hloaded.trans hdefault)
  exact ⟨rfl, rfl⟩

/-- Before a host, a run of the plain request ends with the exit status 1 behind its first launch,
with the given texts on standard error, and its settings are the default ones. -/
structure Rejected (host : (request : Request) → request.Reply) (finished : Finished)
    (diagnostics : List Text) : Prop where
  value_eq : ((runOn .linux plainRequest).run.follow host).2 = .ok 1
  finished_eq : (((runOn .linux plainRequest).run.follow host).1.find?
    (·.command?.isSome)).bind Exchange.finished? = some finished
  diagnostics_eq : ((runOn .linux plainRequest).run.follow host).1.diagnostics = diagnostics
  loaded_eq : (plainSettings.run.follow host).2 = .ok .default

theorem Rejected.exists_runs {host : (request : Request) → request.Reply} {finished : Finished}
    {diagnostics : List Text} (h : Rejected host finished diagnostics) :
    ∃ before launch after, Quiet before ∧
      (runOn .linux plainRequest).run.Runs (before ++ ⟨.launch launch, .ok finished⟩ :: after)
        (.ok 1) ∧
      (∀ settings, Loads plainRequest (before ++ ⟨.launch launch, .ok finished⟩ :: after) settings →
        settings.raiseErrors = false ∧ settings.output.verbose = false) ∧
      Trace.diagnostics (before ++ ⟨.launch launch, .ok finished⟩ :: after) = diagnostics := by
  obtain ⟨before, launch, after, htrace, hbefore⟩ := Trace.exists_first_launch h.finished_eq
  have hruns := Routine.runs_follow host (runOn .linux plainRequest).run
  rw [h.value_eq, htrace] at hruns
  refine ⟨before, launch, after, hbefore, hruns, fun settings => ?_, htrace ▸ h.diagnostics_eq⟩
  rw [← htrace]
  exact quiet_of_loads h.loaded_eq fun _ => Routine.reply_of_mem_follow

/-- Diagnostics that are lines of text are repeated. -/
theorem diagnostics_replayed_lines :
    let bytes := Utf8.encode "error: ü\n".toList
    ∃ before launch, Quiet before ∧
      (∀ settings, Loads plainRequest (before ++ [⟨.launch launch, .ok ⟨1, [], bytes⟩⟩,
          ⟨.print .errors "error: ü\n".toList, ()⟩]) settings →
        settings.raiseErrors = false ∧ settings.output.verbose = false) ∧
      (runOn .linux plainRequest).run.Runs (before ++ [⟨.launch launch, .ok ⟨1, [], bytes⟩⟩,
        ⟨.print .errors "error: ü\n".toList, ()⟩]) (.ok 1) := by
  intro bytes
  have hrejected : Rejected (rejectingHost bytes) ⟨1, [], bytes⟩ ["error: ü\n".toList] :=
    ⟨by decide +kernel, by decide +kernel, by decide +kernel, by decide +kernel⟩
  obtain ⟨before, launch, after, hbefore, hruns, hsettings, -⟩ := hrejected.exists_runs
  obtain ⟨settings, -, -, -, -, ⟨fault, -, -, hx⟩ | ⟨text, -, htext, rfl, -, hsame⟩⟩ :=
    diagnostics_replayed hruns rfl hsettings hbefore (by decide)
  · simp at hx
  · have hcr : Utf8.encode (Text.unifyNewlines text) = bytes := hsame.2 (by decide +kernel)
    rw [Utf8.encode_inj.1 hcr] at hruns hsettings
    exact ⟨before, launch, hbefore, hsettings, hruns⟩

/-- **A carriage return in the diagnostics is lost**: all that is written to standard error then are
other bytes than those that the compiler has written there. -/
theorem carriage_return_lost :
    let bytes : Bytes := [97, 13, 98]
    ∃ before launch after, Quiet before ∧
      (runOn .linux plainRequest).run.Runs (before ++ ⟨.launch launch, .ok ⟨1, [], bytes⟩⟩ :: after)
        (.ok 1) ∧
      (∀ settings, Loads plainRequest (before ++ ⟨.launch launch, .ok ⟨1, [], bytes⟩⟩ :: after)
        settings → settings.raiseErrors = false ∧ settings.output.verbose = false) ∧
      ∃ text, Trace.diagnostics (before ++ ⟨.launch launch, .ok ⟨1, [], bytes⟩⟩ :: after) = [text] ∧
        Utf8.encode text ≠ bytes := by
  intro bytes
  have hrejected : Rejected (rejectingHost bytes) ⟨1, [], bytes⟩ ["a\nb".toList] :=
    ⟨by decide +kernel, by decide +kernel, by decide +kernel, by decide +kernel⟩
  obtain ⟨before, launch, after, hbefore, hruns, hsettings, hprinted⟩ := hrejected.exists_runs
  exact ⟨before, launch, after, hbefore, hruns, hsettings, _, hprinted, by decide +kernel⟩

end CommandLine

end Oneshot
