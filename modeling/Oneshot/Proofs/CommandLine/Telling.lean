import Oneshot.Proofs.CommandLine.Raising
import Oneshot.Proofs.Console.Printing

/-!
# Errors That Are Told

A run that raises no errors and writes no debug lines tells the error of its stages, unless the
compiler has rejected the program: behind the stages there is one message on standard error, and the
exit status is 1. Nothing is written to standard output then, neither by the runner nor by an
artifact, and in front of the message there are notices at most.

The message has as many lines as the wording of the error, and it is this wording behind the name of
the program, unless a terminal gets it in colour or the console has something to remove from it.
Most errors are worded in one line. But a path is quoted as it is, and what a compiler writes that
cannot be queried is repeated with its line ends, so that an error can take more than one line.

* `Invocation.failsUnstarted_uncaught`, `Invocation.isNotice_of_uncaught`: what the stages of a run
  have done if they fail.
* `Invocation.runs_uncaught_of_runOn`: a run begins with its stages, and tells their error.
* `Invocation.error_told`: all that is told of an error, and in how many lines.
* `Invocation.error_on_two_lines`: a run whose error takes two lines.
-/

namespace Oneshot

open Action (runs_bind every_bind every_lift reports_pure reports_lift reports_bind
  begins_of_runs begins_bind_ok begins_bind_error)

/-! ### Standard output -/

/-- The text of an exchange that prints on standard output. -/
def Exchange.output? : Exchange → Option Text
  | ⟨.print .output text, _⟩ => some text
  | _ => none

namespace Trace

/-- The texts that are printed on standard output, in order. -/
def outputs (t : Trace) : List Text :=
  t.filterMap Exchange.output?

theorem outputs_eq_nil {t : Trace} (h : ∀ e ∈ t, ∀ text, e.request ≠ .print .output text) :
    t.outputs = [] := by
  refine List.filterMap_eq_nil_iff.2 fun e he => ?_
  have hnot := h e he
  obtain ⟨request, reply⟩ := e
  cases request with
  | print channel text =>
    cases channel with
    | output => exact absurd rfl (hnot text)
    | errors => rfl
  | _ => rfl

end Trace

/-! ### Stages that fail -/

namespace Action

variable {α β : Type} {a : Action α} {f : α → Action β} {topics : List Topic}

/-- If the action reports an error, no artifact has come to its end before. -/
def FailsUnstarted (a : Action α) : Prop :=
  ∀ t e, a.run.Runs t (.error (.reported e)) → t.artifactStatuses = []

/-- What starts nothing can be followed by what fails without an artifact. -/
theorem failsUnstarted_bind (ha : a.Within topics) (hnot : .start ∉ topics)
    (hf : ∀ x, (f x).FailsUnstarted) : (a >>= f).FailsUnstarted := by
  intro t e h
  obtain ⟨t₁, t₂, x, rfl, hstarts, -, hrest⟩ | hstarts := runs_unstarting_bind ha hnot h
  · have hfirst := Trace.artifactStatuses_of_starts hstarts
    have hlast := hf x t₂ e hrest
    rw [Trace.artifactStatuses_append, hfirst, hlast, List.append_nil]
  · exact Trace.artifactStatuses_of_starts hstarts

/-- Behind what fails without an artifact there can be anything that reports no errors. -/
theorem FailsUnstarted.bind (ha : a.FailsUnstarted) (hf : ∀ x, (f x).Reports fun _ => False) :
    (a >>= f).FailsUnstarted := by
  intro t e h
  obtain ⟨t₁, t₂, x, -, -, hrest⟩ | ⟨failure, hfailure, hx⟩ := runs_bind.1 h
  · exact (hf x t₂ e hrest).elim
  · obtain rfl := Except.error.inj hx
    exact ha t e hfailure

end Action

open Action (failsUnstarted_bind)

/-- An artifact that has come to its end gives its status, so that no error is reported. -/
theorem Toolchain.failsUnstarted_launchArtifact (cache : Cache) (settings : Settings)
    (platform : Platform) (executable : Path) (arguments : List Text) :
    (launchArtifact cache settings platform none executable arguments).FailsUnstarted := by
  intro t e h
  obtain ⟨place, -, hbreaks⟩ :=
    runs_launchArtifact h false [] (⟨executable, executable⟩ : Artifact)
  exact Breaks.spawned hbreaks

theorem Pipeline.failsUnstarted_uncaught {p : Pipeline}
    (hreport : ∀ event, (p.report event).Within [.surroundings, .print])
    (hreports : ∀ event, (p.report event).Reports fun _ => False) (script : Path)
    (arguments : List Text) : (p.uncaught script arguments).FailsUnstarted := by
  have hreport' : ∀ event, (p.report event).Within [.look, .surroundings, .print] :=
    fun event => (hreport event).mono (by decide)
  refine failsUnstarted_bind (within_prepare hreport' (by decide) script) (by decide)
    fun prepared => ?_
  refine failsUnstarted_bind (within_planning hreport' (by decide) (by decide) prepared) (by decide)
    fun workDir => ?_
  refine failsUnstarted_bind (Toolchain.within_buildProgram ..) (by decide) fun artifact => ?_
  refine failsUnstarted_bind (hreport _) (by decide) fun _ => ?_
  exact Action.FailsUnstarted.bind (Toolchain.failsUnstarted_launchArtifact _ _ _ _ _) fun code =>
    reports_bind (hreports _) fun _ => reports_pure code

/-- What tells something starts nothing. -/
theorem Trace.starts_of_tells {t : Trace} (h : ∀ e ∈ t, e.request.Tells) : t.starts = [] := by
  refine List.filterMap_eq_nil_iff.2 fun e he => ?_
  have htells := h e he
  obtain ⟨request, reply⟩ := e
  cases request with
  | launch command =>
    have htopic : (Request.launch command).topic = .surroundings := htells
    rw [Request.topic] at htopic
    split at htopic <;> simp at htopic
  | _ => rfl

namespace CommandLine

variable {platform : Platform} {r : RunRequest} {t : Trace}

namespace Invocation

/-- The stages of a run that fail have not run an artifact. -/
theorem failsUnstarted_uncaught (platform : Platform) (r : RunRequest) :
    (run platform r).uncaught.FailsUnstarted := by
  refine failsUnstarted_bind (within_cacheRoot _) (by decide) fun root => ?_
  refine failsUnstarted_bind (within_loading _ root) (by decide) fun loaded => ?_
  refine failsUnstarted_bind (Logger.within_opened ..) (by decide) fun logger => ?_
  refine failsUnstarted_bind (within_openCache root logger) (by decide) fun cache => ?_
  exact Pipeline.failsUnstarted_uncaught (fun event => every_lift (within_sayEvent ..))
    (fun event => reports_lift _) _ _

/-- **The stages of a run say notices** and nothing else, if no debug lines are asked for. -/
theorem isNotice_of_uncaught {y : Except Failure Int}
    (h : (run platform r).uncaught.run.Runs t y) (hverbose : r.verbose = false)
    (hsettings : ∀ settings, Loads r t settings → settings.output.verbose = false) :
    ∃ shown, (shown = true → r.showExpanded = true ∨
        ∃ settings, Loads r t settings ∧ settings.output.showExpanded = true) ∧
      ∀ exchange ∈ t, exchange.request.IsNotice shown := by
  obtain ⟨t₁, rest, root, rfl, hroot, h⟩ | ⟨failure, hroot, rfl⟩ := runs_bind.1 h
  all_goals
    have hfirst := fun shown => hroot.every ((within_cacheRoot _).isNotice (by decide) shown)
  swap
  · exact ⟨false, by simp, hfirst false⟩
  obtain ⟨t₂, t₃, ⟨script, settings⟩, rfl, hloading, h⟩ | ⟨failure, hloading, rfl⟩ := runs_bind.1 h
  all_goals
    have hsecond := fun shown =>
      hloading.every ((within_loading _ root).isNotice (by decide) shown)
  swap
  · exact ⟨false, by simp, List.forall_mem_append.2 ⟨hfirst false, hsecond false⟩⟩
  have hloads : Loads r (t₁ ++ (t₂ ++ t₃)) settings := loads_of_runs hroot hloading t₃
  let output := withRequest settings.output r
  have hdebug : output.verbose = false := by
    simp [output, withRequest, hverbose, hsettings settings hloads]
  have hlast : ∀ exchange ∈ t₃, exchange.request.IsNotice output.showExpanded := by
    refine h.every ?_
    simp only [loggerOf, opened_bind]
    refine every_bind (Console.Window.within_opened.isNotice (by decide) _) fun window => ?_
    refine every_bind ?_ fun cache => ?_
    · rw [openCache_of_not_debug]
      · exact (Cache.within_ensure root).isNotice (by decide) _
      · exact hdebug
    exact Pipeline.isNotice_uncaught (fun event => every_lift (isNotice_sayEvent hdebug _ event))
      _ _
  refine ⟨output.showExpanded, fun hshown => ?_, ?_⟩
  · rcases Bool.or_eq_true_iff.1 hshown with hshown | hshown
    · exact .inr ⟨settings, hloads, hshown⟩
    · exact .inl hshown
  · exact List.forall_mem_append.2 ⟨hfirst _, List.forall_mem_append.2 ⟨hsecond _, hlast⟩⟩

end Invocation

/-! ### Telling -/

variable {e : RunError} {whole told : Trace} {x : Except Failure Int} {logger : Logger}

/-- The wording of an error behind the name of the program. -/
def errorLine (e : RunError) : Text :=
  Logger.programName ++ " error: ".toList ++ e.message

/-- How a run ends whose stages have failed with the error. `told` is what it does behind them. -/
inductive ErrorEnds (e : RunError) (whole told : Trace) : Except Failure Int → Prop
  /-- One message is printed on standard error. It has the lines of the wording, and where standard
  error is no terminal it is the wording itself, unless that holds a tab or a character that no
  console is given. -/
  | told {rendering : Console.Rendering} {text : Text} (hdiagnostics : told.diagnostics = [text])
      (htext : text = Console.messageText .error false rendering (errorLine e))
      (hlines : text.count '\n' = e.message.count '\n' + 1)
      (hsame : ⟨.isTerminal .errors, true⟩ ∉ told → (text = errorLine e ++ ['\n'] ↔
        ∀ c ∈ e.message, c ≠ '\t' ∧ Console.isRemoved c = false)) : ErrorEnds e whole told (.ok 1)
  /-- Nothing is shown in a window without columns. -/
  | hidden {vars : Variables} (hvars : ⟨.environment, vars⟩ ∈ whole)
      (hcolumns : Console.Window.sizeOf? (vars.get? "COLUMNS") = .ok (some 0))
      (hdiagnostics : told.diagnostics = []) : ErrorEnds e whole told (.ok 1)
  /-- The size of the window is no number, and the command is ended by an escape. Only for an error
  in front of the settings a logger is opened after the error; for any other it is there before. -/
  | unmeasured {vars : Variables} {fault : Text.NumeralFault}
      (hkind : e.kind = .usage ∨ e.kind = .config) (hvars : ⟨.environment, vars⟩ ∈ whole)
      (hwindow : Console.Window.ofVariables vars = .error fault)
      (hdiagnostics : told.diagnostics = []) :
      ErrorEnds e whole told (.error (.escaped (.numeral fault)))

/-- A message that is printed has the lines of its wording, and is its wording on a plain device. -/
theorem ErrorEnds.of_messageText {rendering : Console.Rendering}
    (hdiagnostics : told.diagnostics
      = [Console.messageText .error false rendering (errorLine e)])
    (hrendering : ⟨.isTerminal .errors, true⟩ ∉ told → rendering = .plain) :
    ErrorEnds e whole told (.ok 1) := by
  have hall : (Logger.programName ++ " error: ".toList).all
      (fun c => c ≠ '\n' ∧ c ≠ '\t' ∧ Console.isRemoved c = false) = true := by
    decide
  have hfront : ∀ c ∈ Logger.programName ++ " error: ".toList,
      c ≠ '\n' ∧ c ≠ '\t' ∧ Console.isRemoved c = false :=
    fun c hc => of_decide_eq_true (List.all_eq_true.1 hall c hc)
  refine .told hdiagnostics rfl ?_ fun hterminal => ?_
  · have hnone : (Logger.programName ++ " error: ".toList).count '\n' = 0 :=
      List.count_eq_zero.2 fun hmem => (hfront _ hmem).1 rfl
    rw [Console.count_lf_messageText, errorLine, List.count_append, hnone, Nat.zero_add]
  · rw [hrendering hterminal, Console.messageText_plain_eq_iff, errorLine,
      List.forall_mem_append]
    exact and_iff_right fun c hc => (hfront c hc).2

theorem ErrorEnds.cons {vars : Variables} (h : ErrorEnds e whole told x) :
    ErrorEnds e whole (⟨.environment, vars⟩ :: told) x := by
  cases h with
  | told hdiagnostics htext hlines hsame =>
    exact .told hdiagnostics htext hlines fun hnot => hsame fun hmem => hnot (.tail _ hmem)
  | hidden hvars hcolumns hdiagnostics => exact .hidden hvars hcolumns hdiagnostics
  | unmeasured hkind hvars hwindow hdiagnostics =>
    exact .unmeasured hkind hvars hwindow hdiagnostics

/-- **An error is told** by a logger that has been opened for the window of the run. -/
theorem errorEnds_of_tell {vars : Variables} (hvars : ⟨.environment, vars⟩ ∈ whole)
    (hwindow : Console.Window.ofVariables vars = .ok logger.window)
    (h : (tell logger e.message).run.Runs told x) :
    (∀ exchange ∈ told, exchange.request.Tells) ∧ ErrorEnds e whole told x := by
  refine ⟨h.every (every_bind (every_lift (every_printMessage rfl rfl fun _ => rfl))
    fun _ => trivial), ?_⟩
  obtain ⟨htold, rfl⟩ := runs_tell h
  obtain ⟨rendering, hrendering, hprinted⟩ | ⟨hcolumns, hnone⟩ := runs_printMessage htold
  · exact .of_messageText hprinted hrendering
  · exact .hidden hvars (hcolumns ▸ columns_of_ofVariables hwindow) hnone

/-- A logger that has been opened shows its lines in the window of the environment. -/
theorem window_of_opened {emoji color debug : Bool}
    (h : (Logger.opened emoji color debug).run.Runs t (.ok logger)) :
    ∃ vars, t = [⟨.environment, vars⟩] ∧ Console.Window.ofVariables vars = .ok logger.window := by
  obtain ⟨vars, rfl, ⟨window, hwindow, hx⟩ | ⟨fault, -, hx⟩⟩ := runs_opened h
  · obtain rfl := Except.ok.inj hx
    exact ⟨vars, rfl, hwindow⟩
  · simp at hx

/-- An error that comes before the settings is told by a logger that is opened for it. -/
theorem errorEnds_of_plain (hkind : e.kind = .usage ∨ e.kind = .config) (hsub : told ⊆ whole)
    (h : (Logger.plain >>= fun logger => tell logger e.message).run.Runs told x) :
    (∀ exchange ∈ told, exchange.request.Tells) ∧ ErrorEnds e whole told x := by
  obtain ⟨t₁, t₂, logger, rfl, hlogger, h⟩ | ⟨failure, hlogger, rfl⟩ := runs_bind.1 h
  all_goals
    obtain ⟨vars, rfl, ⟨window, hwindow, hx⟩ | ⟨fault, hwindow, hx⟩⟩ := runs_opened hlogger
  · obtain rfl := Except.ok.inj hx
    obtain ⟨htells, hends⟩ := errorEnds_of_tell (hsub List.mem_cons_self) hwindow h
    exact ⟨List.forall_mem_cons.2 ⟨rfl, htells⟩, hends.cons⟩
  · simp at hx
  · simp at hx
  · obtain rfl := Except.error.inj hx
    exact ⟨by simp [Request.Tells], .unmeasured hkind (hsub List.mem_cons_self) hwindow rfl⟩

/-! ### The run -/

/-- The error that an outcome stands for is told. -/
theorem endRun_of_standsFor {outcome : Outcome} (h : outcome.StandsFor e)
    (hkind : e.kind ≠ .compile) (hdebug : logger.debug = false) :
    endRun logger (fun _ => false) (.ok outcome) = tell logger e.message := by
  obtain ⟨e', herror, hsame, hmessage⟩ := h
  rw [← hmessage, endRun, herror]
  exact showing_pure_bind (hsame ▸ hkind) hdebug fun _ => rfl

/-- What comes behind the logger of a run, and the same with nothing caught. Without debug lines
they leave one trace, and the error of the second is the failure of the first or what its outcome
stands for. -/
theorem runs_uncaught_of_run {settings : Settings} {root script : Path} {arguments : List Text}
    {z : Except Failure Outcome} (hdebug : logger.debug = false)
    (h : (do
      let cache ← openCache root logger
      (pipelineOf platform settings logger cache).run script arguments : Action Outcome).run.Runs
        t z) :
    ∃ y, (do
      let cache ← openCache root logger
      (pipelineOf platform settings logger cache).uncaught script arguments : Action Int).run.Runs
        t y ∧ ∀ e, y = .error (.reported e) →
          z = .error (.reported e) ∨ ∃ outcome, z = .ok outcome ∧ outcome.StandsFor e := by
  obtain ⟨t₁, t₂, cache, rfl, hcache, h⟩ | ⟨failure, hcache, rfl⟩ := runs_bind.1 h
  · have hreport : ∀ event t x,
        ((pipelineOf platform settings logger cache).report event).run.Runs t x → x = .ok () := by
      intro event t x h
      obtain ⟨_, -, rfl⟩ := Action.runs_lift.1 h
      rfl
    obtain ⟨t₃, t₄, y, rfl, hy, hcaught⟩ := Pipeline.runs_uncaught hreport h
    have hsilent : t₄ = [] ∧ ∀ e, y = .error (.reported e) →
        z = .error (.reported e) ∨ ∃ outcome, z = .ok outcome ∧ outcome.StandsFor e := by
      cases hcaught with
      | completed code => exact ⟨rfl, by simp⟩
      | outcome hstands hdone =>
        rw [report_done_of_not_debug hdebug] at hdone
        refine ⟨hdone.1, fun e he => .inr ⟨_, rfl, ?_⟩⟩
        obtain rfl := Failure.reported.inj (Except.error.inj he)
        exact hstands
      | failure failure => exact ⟨rfl, fun e he => .inl (by rw [Except.error.inj he])⟩
    obtain ⟨rfl, hends⟩ := hsilent
    rw [List.append_nil]
    exact ⟨y, runs_bind.2 (.inl ⟨t₁, t₃, cache, rfl, hcache, hy⟩), hends⟩
  · exact ⟨_, runs_bind.2 (.inr ⟨failure, hcache, rfl⟩), fun e he =>
      .inl (by rw [Except.error.inj he])⟩

/-- What comes behind the logger of a run begins with the stages, and the error in which they end is
told by this logger. -/
theorem begins_of_logged {settings : Settings} {root script : Path} {arguments : List Text}
    {vars : Variables} (hvars : ⟨.environment, vars⟩ ∈ whole)
    (hwindow : Console.Window.ofVariables vars = .ok logger.window) (hdebug : logger.debug = false)
    (h : ((reportingTo (pure logger) (fun _ => false) do
      let cache ← openCache root logger
      (pipelineOf platform settings logger cache).run script arguments)
        >>= endRun logger fun _ => false).run.Runs t x) :
    (do
      let cache ← openCache root logger
      (pipelineOf platform settings logger cache).uncaught script arguments : Action Int).Begins t
        fun y told => ∀ e, y = .error (.reported e) → e.kind ≠ .compile →
          (∀ exchange ∈ told, exchange.request.Tells) ∧ ErrorEnds e whole told x := by
  obtain ⟨t₁, told, outcome, rfl, hrun, hend⟩ | ⟨t₁, told, failure, rfl, hrun, hend⟩ :=
    runs_reportingTo_bind h
  all_goals
    obtain ⟨y, hy, hends⟩ := runs_uncaught_of_run hdebug hrun
    refine ⟨t₁, told, y, rfl, hy, fun e he hkind => errorEnds_of_tell hvars hwindow ?_⟩
    obtain hz | ⟨outcome', hz, hstands⟩ := hends e he
  · simp at hz
  · obtain rfl := Except.ok.inj hz
    rwa [endRun_of_standsFor hstands hkind hdebug] at hend
  · obtain rfl := Except.error.inj hz
    rwa [showing_pure_bind hkind hdebug fun _ => rfl] at hend
  · simp at hz

namespace Invocation

/-- A run begins with its stages, and it tells the error in which they end. -/
theorem runs_uncaught_of_runOn (h : (runOn platform r).run.Runs t x) (hverbose : r.verbose = false)
    (hsettings : ∀ settings, Loads r t settings →
      settings.raiseErrors = false ∧ settings.output.verbose = false) :
    (run platform r).uncaught.Begins t fun y told => ∀ e, y = .error (.reported e) →
      e.kind ≠ .compile →
        (∀ exchange ∈ told, exchange.request.Tells) ∧ ErrorEnds e t told x := by
  rw [runOn_eq] at h
  obtain ⟨t₁, rest, root, rfl, hroot, h⟩ | ⟨failure, hroot, rfl⟩ := runs_bind.1 h
  swap
  · obtain ⟨escape, rfl⟩ := (unreported_cacheRoot _).exists_escape hroot
    exact begins_of_runs (runs_bind.2 (.inr ⟨_, hroot, rfl⟩)) (by simp)
  refine begins_bind_ok hroot ?_
  obtain ⟨t₂, rest, ⟨script, settings⟩, rfl, hloading, h⟩ | ⟨t₂, rest, failure, rfl, hloading, h⟩ :=
    runs_reportingTo_bind h
  swap
  · -- the settings are not known yet, so that a logger is opened for the error
    refine begins_bind_error hloading fun e he hkind => ?_
    obtain rfl := Except.error.inj he
    have hreports : (loading r.script root).Reports fun kind => kind = .usage ∨ kind = .config :=
      reports_loading (.inl rfl) (.inr rfl) _ root
    have hearly := hreports t₂ e hloading
    rw [showing_plain_bind hkind fun _ => rfl] at h
    exact errorEnds_of_plain hearly (fun _ hmem => by simp [hmem]) h
  have hloads : Loads r (t₁ ++ (t₂ ++ rest)) settings := loads_of_runs hroot hloading rest
  obtain ⟨hraise, hquiet⟩ := hsettings settings hloads
  obtain ⟨policy, toolchain, output, raiseErrors⟩ := settings
  obtain rfl : raiseErrors = false := hraise
  refine begins_bind_ok hloading ?_
  obtain ⟨t₃, rest, logger, rfl, hlogger, hcaught⟩ | ⟨failure, hlogger, rfl⟩ := runs_bind.1 h
  swap
  · obtain ⟨escape, rfl⟩ := (Logger.unreported_opened _ _ _).exists_escape hlogger
    exact begins_of_runs (runs_bind.2 (.inr ⟨_, hlogger, rfl⟩)) (by simp)
  have hdebug : logger.debug = false := by
    rw [debug_of_opened hlogger]
    exact Bool.or_eq_false_iff.2 ⟨hquiet, hverbose⟩
  obtain ⟨vars, rfl, hwindow⟩ := window_of_opened hlogger
  exact begins_bind_ok hlogger (begins_of_logged (by simp) hwindow hdebug hcaught)

/-- **The error of a run is told.** A run that writes no debug lines and raises no errors takes its
stages in order. If they fail with an error, and it is not the compiler that has rejected the
program, then they have said nothing but notices, no artifact has come to its end, and nothing is
printed on standard output at any time. Behind the stages the error is told on standard error, with
the exit status 1. This takes as many lines as the error is worded in, and no more than one message;
it is the line with the name of the program and the wording exactly if no terminal asks for colour
and the console has nothing to change in the wording. -/
theorem error_told (h : (runOn platform r).run.Runs t x) (hverbose : r.verbose = false)
    (hsettings : ∀ settings, Loads r t settings →
      settings.raiseErrors = false ∧ settings.output.verbose = false) :
    ∃ stages told y, t = stages ++ told ∧ (run platform r).uncaught.run.Runs stages y ∧
      ∀ e, y = .error (.reported e) → e.kind ≠ .compile →
        (∃ shown, (shown = true → r.showExpanded = true ∨
            ∃ settings, Loads r t settings ∧ settings.output.showExpanded = true) ∧
          ∀ exchange ∈ stages, exchange.request.IsNotice shown) ∧
        t.outputs = [] ∧ t.artifactStatuses = [] ∧ ErrorEnds e t told x := by
  obtain ⟨stages, told, y, rfl, hstages, hends⟩ := runs_uncaught_of_runOn h hverbose hsettings
  have hpart : ∀ settings, Loads r stages settings → Loads r (stages ++ told) settings :=
    fun settings ⟨part, hpart, hload⟩ => ⟨part, hpart.trans (List.prefix_append _ _), hload⟩
  refine ⟨stages, told, y, rfl, hstages, fun e he hkind => ?_⟩
  obtain ⟨htells, herror⟩ := hends e he hkind
  obtain ⟨shown, hshown, hnotices⟩ := isNotice_of_uncaught hstages hverbose fun settings hloads =>
    (hsettings settings (hpart settings hloads)).2
  refine ⟨⟨shown, fun hs => (hshown hs).imp_right fun ⟨settings, hloads, hexpanded⟩ =>
    ⟨settings, hpart settings hloads, hexpanded⟩, hnotices⟩, ?_, ?_, herror⟩
  · refine Trace.outputs_eq_nil fun exchange hmem text hprint => ?_
    rcases List.mem_append.1 hmem with hmem | hmem
    · simpa using (hnotices exchange hmem _ _ hprint).1
    · have htell := htells exchange hmem
      rw [hprint] at htell
      exact absurd htell (by simp [Request.Tells])
  · have hfirst := failsUnstarted_uncaught platform r stages e (he ▸ hstages)
    have hlast := Trace.artifactStatuses_of_starts (Trace.starts_of_tells htells)
    rw [Trace.artifactStatuses_append, hfirst, hlast, List.append_nil]

/-! ### Compilers that cannot be queried -/

/-- A host whose compiler compiles, but does not say where its libraries are: it fails, and writes
the bytes to standard error. -/
def unqueriedHost (errors : Bytes) : (request : Request) → request.Reply
  | .launch command =>
    .ok (if command.arguments.elem "--print".toList then ⟨1, [], errors⟩ else ⟨0, [], []⟩)
  | request => killingHost request

/-- Before a host, the stages of the plain request end with the error, and the run ends with the
exit status 1 and with the given texts on standard error. Its settings are the default ones. -/
structure Fails (host : (request : Request) → request.Reply) (e : RunError)
    (diagnostics : List Text) : Prop where
  run_eq : (((runOn .linux plainRequest).run.follow host).2,
    ((runOn .linux plainRequest).run.follow host).1.diagnostics) = (.ok 1, diagnostics)
  stages_eq : ((run .linux plainRequest).uncaught.run.follow host).2 = .error (.reported e)
  loaded_eq : (plainSettings.run.follow host).2 = .ok .default

variable {host : (request : Request) → request.Reply} {diagnostics : List Text}

theorem Fails.value_eq (h : Fails host e diagnostics) :
    ((runOn .linux plainRequest).run.follow host).2 = .ok 1 :=
  (Prod.mk.inj h.run_eq).1

theorem Fails.diagnostics_eq (h : Fails host e diagnostics) :
    ((runOn .linux plainRequest).run.follow host).1.diagnostics = diagnostics :=
  (Prod.mk.inj h.run_eq).2

/-- The run of such a host. -/
theorem Fails.runs (h : Fails host e diagnostics) :
    (runOn .linux plainRequest).run.Runs ((runOn .linux plainRequest).run.follow host).1 (.ok 1) ∧
      ∀ settings, Loads plainRequest ((runOn .linux plainRequest).run.follow host).1 settings →
        settings.raiseErrors = false ∧ settings.output.verbose = false :=
  ⟨h.value_eq ▸ Routine.runs_follow host _, fun _ =>
    quiet_of_loads h.loaded_eq fun _ => Routine.reply_of_mem_follow⟩

/-- Its stages end with the error. -/
theorem Fails.eq_of_stages (h : Fails host e diagnostics) {stages told : Trace}
    {y : Except Failure Int}
    (ht : ((runOn .linux plainRequest).run.follow host).1 = stages ++ told)
    (hstages : (run .linux plainRequest).uncaught.run.Runs stages y) :
    y = .error (.reported e) :=
  (hstages.eq_follow fun _ hmem =>
    Routine.reply_of_mem_follow (ht.symm ▸ List.mem_append_left told hmem)).trans h.stages_eq

/-- The error of a query that is worded in one line is told in one line. -/
theorem error_told_query :
    let e : RunError :=
      .queryFailed "target-libdir" ["rustc", "--print", "target-libdir"] "no such target"
    ∃ stages told text, (runOn .linux plainRequest).run.Runs (stages ++ told) (.ok 1) ∧
      (∀ settings, Loads plainRequest (stages ++ told) settings →
        settings.raiseErrors = false ∧ settings.output.verbose = false) ∧
      (run .linux plainRequest).uncaught.run.Runs stages (.error (.reported e)) ∧
      e.kind ≠ .compile ∧ stages.diagnostics = [] ∧ told.diagnostics = [text] ∧
      text = "snippet-runner error: cannot query target-libdir from 'rustc': no such target\n" ∧
      text.count '\n' = 1 := by
  intro e
  let host := unqueriedHost (Utf8.encode " no such target\n")
  have hfails : Fails host e
      ["snippet-runner error: cannot query target-libdir from 'rustc': no such target\n"] :=
    ⟨by decide +kernel, by decide +kernel, by decide +kernel⟩
  obtain ⟨hruns, hsettings⟩ := hfails.runs
  obtain ⟨stages, told, y, ht, hy, htold⟩ := error_told hruns rfl hsettings
  obtain rfl := hfails.eq_of_stages ht hy
  obtain ⟨-, -, -, hends⟩ := htold e rfl (by decide)
  have hprinted := ht ▸ hfails.diagnostics_eq
  rw [Trace.diagnostics_append] at hprinted
  cases hends with
  | @told rendering text hdiagnostics htext hlines hsame =>
    rw [hdiagnostics] at hprinted
    obtain ⟨hsilent, hone⟩ := List.append_inj' (hprinted.trans (List.nil_append _).symm) rfl
    rw [ht] at hruns hsettings
    exact ⟨stages, told, text, hruns, hsettings, hy, by decide, hsilent, hdiagnostics,
      List.singleton_inj.1 hone, hlines.trans (by decide +kernel)⟩
  | @hidden vars hvars hcolumns =>
    have hnone : vars = [] := Routine.reply_of_mem_follow hvars
    rw [hnone] at hcolumns
    simp [Console.Window.sizeOf?, Variables.get?] at hcolumns

/-- **An error can take more than one line**: the compiler is quoted with its line ends. -/
theorem error_on_two_lines :
    let e : RunError :=
      .queryFailed "target-libdir" ["rustc", "--print", "target-libdir"] "one\ntwo"
    ∃ stages told, (runOn .linux plainRequest).run.Runs (stages ++ told) (.ok 1) ∧
      (∀ settings, Loads plainRequest (stages ++ told) settings →
        settings.raiseErrors = false ∧ settings.output.verbose = false) ∧
      (run .linux plainRequest).uncaught.run.Runs stages (.error (.reported e)) ∧
      e.kind ≠ .compile ∧ (stages ++ told).diagnostics
        = ["snippet-runner error: cannot query target-libdir from 'rustc': one\ntwo\n"] ∧
      ∀ line, '\n' ∉ line → (stages ++ told).diagnostics ≠ [line ++ ['\n']] := by
  intro e
  have hfails : Fails (unqueriedHost (Utf8.encode "one\ntwo\n")) e
      ["snippet-runner error: cannot query target-libdir from 'rustc': one\ntwo\n"] :=
    ⟨by decide +kernel, by decide +kernel, by decide +kernel⟩
  obtain ⟨hruns, hsettings⟩ := hfails.runs
  obtain ⟨stages, told, y, ht, hy, -⟩ := runs_uncaught_of_runOn hruns rfl hsettings
  obtain rfl := hfails.eq_of_stages ht hy
  have hprinted := ht ▸ hfails.diagnostics_eq
  rw [ht] at hruns hsettings
  refine ⟨stages, told, hruns, hsettings, hy, by decide, hprinted, fun line hline hsame => ?_⟩
  have htext := List.singleton_inj.1 (hprinted.symm.trans hsame)
  have hcount := congrArg (List.count '\n') htext
  rw [List.count_append, List.count_eq_zero.2 hline] at hcount
  exact absurd hcount (by decide +kernel)

end Invocation

end CommandLine

end Oneshot
