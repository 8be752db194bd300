import Oneshot.Proofs.CommandLine.Kinds
import Oneshot.Proofs.CommandLine.Usage
import Oneshot.Proofs.Pipeline.Escapes
import Oneshot.Proofs.Pipeline.Starting
import Oneshot.Proofs.Pipeline.Uncaught

/-!
# The Switch for Errors

The environment can ask for errors to be raised instead of shown. The switch is one of the settings,
so that it is known behind the loading of the settings only: errors that come before, which are
those of usage and of the configuration, are shown all the same, and `cache`, which reads no
settings, shows every error. All other errors are raised. An error of the compiler or of a launch
has been an outcome in between; what is raised has its kind and its message.

* `Settings.raiseErrors_of_load`: the environment sets the switch, whatever the file says.
* `Invocation.uncaught`: the stages of a command, with nothing caught.
* `Invocation.Ends`: what a command makes of their end if the switch is on.
* `Invocation.errors_raised`: all commands.
-/

namespace Oneshot

open Action (runs_bind reports_pure reports_fail reports_ask reports_lift reports_bind
  begins_of_runs begins_bind_ok begins_bind_error)

/-! ### The switch -/

namespace Settings

/-- **The switch is on** where the environment says so. -/
theorem raiseErrors_of_load {cacheRoot : Option Path} {vars : Variables} {value : Text} {t : Trace}
    {settings : Settings} (hvalue : vars.get? raiseVariable = some value)
    (htruthy : isTruthy value = true)
    (h : (load cacheRoot vars).run.Runs t (.ok settings)) : settings.raiseErrors = true := by
  obtain ⟨file, -, hpassed⟩ := runs_load_iff.1 h
  obtain ⟨-, -, -, hraise⟩ := ofEntries_eq_passed_iff.1 hpassed
  have hne : ("raise_errors".toList : Text) ≠ "toolchain".toList := by decide
  have hswitch : ((Entries.merge [] file).merge (environmentLayer vars)).find? "raise_errors"
      = some (.bool true) := by
    rw [find?_layers, if_neg hne, if_pos rfl, hvalue, ← htruthy]
  rw [Entries.field, hswitch] at hraise
  exact (Check.passed.inj hraise).symm

end Settings

namespace CommandLine

variable {t : Trace}

/-- All along the trace, the environment asks for errors to be raised. -/
def SwitchedOn (t : Trace) : Prop :=
  ∀ vars, ⟨.environment, vars⟩ ∈ t → ∃ value,
    vars.get? Settings.raiseVariable = some value ∧ Settings.isTruthy value = true

theorem SwitchedOn.of_subset {t t' : Trace} (h : SwitchedOn t) (hsub : t' ⊆ t) : SwitchedOn t' :=
  fun vars hvars => h vars (hsub hvars)

/-- Errors that are raised anyway are not caught. -/
theorem reportingTo_raised {α : Type} (opening : Action Logger) (a : Action α) :
    reportingTo opening (fun _ => true) a = a >>= fun x => pure (.ok x) := by
  refine ExceptT.ext ?_
  rw [reportingTo_eq, Action.run_tryCatch]
  refine (congrArg _ (funext fun result => ?_)).trans (bind_pure _)
  rcases result with (e | e) | x
  · rfl
  · rfl
  · rfl

/-- Loaded settings have the switch on, if the environment has. -/
theorem raiseErrors_of_loading {script : Option Path} {root checked : Path} {settings : Settings}
    (h : (loading script root).run.Runs t (.ok (checked, settings))) (hswitch : SwitchedOn t) :
    settings.raiseErrors = true := by
  obtain ⟨vars, rest, rfl, -, -, hload⟩ := runs_loading h
  obtain ⟨value, hvalue, htruthy⟩ := hswitch vars (by simp)
  exact Settings.raiseErrors_of_load hvalue htruthy hload

/-! ### The commands -/

/-- A command with what it is asked for. -/
inductive Invocation where
  | run (platform : Platform) (request : RunRequest)
  | expand (request : ExpandRequest)
  | cache (asked : Option Path)

namespace Invocation

/-- What a command does. -/
def action : Invocation → Action Int
  | .run platform r => runOn platform r
  | .expand r => CommandLine.expand r
  | .cache asked => printCache asked

/-- The stages of a command, with nothing caught: every error of a stage is the error of the whole.
-/
def uncaught : Invocation → Action Int
  | .run platform r => do
    let root ← cacheRoot r.cacheDir
    let (script, settings) ← loading r.script root
    let settings := { settings with output := withRequest settings.output r }
    let logger ← loggerOf settings.output
    let cache ← openCache root logger
    (pipelineOf platform settings logger cache).uncaught script r.arguments
  | .expand r => do
    let root ← cacheRoot r.cacheDir
    let logger ← Logger.plain
    let (script, settings) ← loading r.script root
    let cache ← openCache root logger
    let prepared ← Pipeline.prepare ⟨cache, settings, .linux, none, fun _ => pure ()⟩ script
    echoAll (← expandedLines settings.policy prepared.program r.bodyOnly)
    return 0
  | .cache asked => do
    let _ ← Logger.plain
    let cache ← cacheRoot asked >>= Cache.ensure
    echo ("root: ".toList ++ cache.root.text)
    echo ("prelude: ".toList ++ cache.preludePath.text)
    echo ("artifacts: ".toList ++ cache.artifactsDir.text)
    return 0

/-- The errors that a command shows though the switch is on. -/
def shows : Invocation → ErrorKind → Bool
  | .cache _, _ => true
  | _, kind => kind == .usage || kind == .config

/-- What a command makes of the end of its stages, and what it does behind them, if the switch is
on. -/
inductive Ends (i : Invocation) : Except Failure Int → Trace → Except Failure Int → Prop
  | value (code : Int) : Ends i (.ok code) [] (.ok code)
  | escaped (e : Escape) : Ends i (.error (.escaped e)) [] (.error (.escaped e))
  /-- An error is shown by a logger without settings, and the exit status is 1. -/
  | shown {e : RunError} {before told : Trace} {logger : Logger} (hkind : i.shows e.kind = true)
      (hbefore : before = [] ∨ Logger.plain.run.Runs before (.ok logger))
      (htold : (logger.error e.message).Runs told ()) :
      Ends i (.error (.reported e)) (before ++ told) (.ok 1)
  /-- An error is to be shown, but no logger can be opened. -/
  | unshown {e : RunError} {escape : Escape} {t : Trace} (hkind : i.shows e.kind = true)
      (hlogger : Logger.plain.run.Runs t (.error (.escaped escape))) :
      Ends i (.error (.reported e)) t (.error (.escaped escape))
  /-- An error is raised, with its kind and its message. The only thing that is said before is that
  the pipeline has come to its end, which is a debug line. -/
  | raised {e e' : RunError} {t : Trace} (hkind : i.shows e.kind = false)
      (hsame : e'.kind = e.kind) (hmessage : e'.message = e.message)
      (hdone : t = [] ∨ ∃ logger showExpanded outcome hasRun,
        (sayEvent logger showExpanded (.done outcome hasRun)).Runs t ()) :
      Ends i (.error (.reported e)) t (.error (.reported e'))

variable {i : Invocation} {α : Type} {c : Action α} {g : α → Action Int}

/-- Each run of `a` begins with a run of `b`, and the command makes its end of that. -/
def Reflects (i : Invocation) (b a : Action Int) : Prop :=
  ∀ t x, SwitchedOn t → a.run.Runs t x → b.Begins t fun y rest => i.Ends y rest x

/-- A failure that is not caught. -/
theorem exists_ends_of_failure {failure : Failure}
    (hkind : ∀ e, failure = .reported e → i.shows e.kind = false) :
    i.Ends (.error failure) [] (.error failure) := by
  cases failure with
  | escaped e => exact .escaped e
  | reported e => exact .raised (hkind e rfl) rfl rfl (.inl rfl)

/-- What ends a command in its last stage ends its stages alike. -/
theorem reflects_self {a : Action Int} (ha : a.Reports (i.shows · = false)) : i.Reflects a a := by
  intro t x _ hruns
  refine begins_of_runs hruns ?_
  rcases x with failure | code
  · exact exists_ends_of_failure fun e he => ha t e (he ▸ hruns)
  · exact .value code

/-- A stage whose errors are raised. -/
theorem reflects_bind {f : α → Action Int} (hc : c.Reports (i.shows · = false))
    (h : ∀ z t, c.run.Runs t (.ok z) → SwitchedOn t → i.Reflects (g z) (f z)) :
    i.Reflects (c >>= g) (c >>= f) := by
  intro t x hswitch hruns
  obtain ⟨t₁, t₂, z, rfl, hz, hrest⟩ | ⟨failure, hfailure, rfl⟩ := runs_bind.1 hruns
  · have hfirst := hswitch.of_subset (List.subset_append_left t₁ t₂)
    have hlast := hswitch.of_subset (List.subset_append_right t₁ t₂)
    exact begins_bind_ok hz (h z t₁ hz hfirst t₂ x hlast hrest)
  · exact begins_of_runs (runs_bind.2 (.inr ⟨failure, hfailure, rfl⟩))
      (exists_ends_of_failure fun e he => hc t e (he ▸ hfailure))

/-- What is made of an error that is shown: it is told by an open logger, or by one that is opened
for it, if one can be opened. -/
theorem runs_showing_bind {opening : Action Logger} {f : Except Int α → Action Int}
    (hopening : opening = Logger.plain ∨ ∃ logger, opening = pure logger ∧ logger.debug = false)
    {e : RunError} (hkind : e.kind ≠ .compile) (hf : ∀ code, f (.error code) = pure code)
    {x : Except Failure Int}
    (h : (showing opening (fun _ => false) (.reported e) >>= f).run.Runs t x) :
    (∃ before told logger, t = before ++ told ∧
        (before = [] ∨ Logger.plain.run.Runs before (.ok logger)) ∧
        (logger.error e.message).Runs told () ∧ x = .ok 1) ∨
      ∃ escape, Logger.plain.run.Runs t (.error (.escaped escape)) ∧
        x = .error (.escaped escape) := by
  obtain rfl | ⟨logger, rfl, hdebug⟩ := hopening
  · rw [showing_plain_bind hkind hf] at h
    obtain ⟨t₁, t₂, logger, rfl, hlogger, hrest⟩ | ⟨failure, hlogger, rfl⟩ := runs_bind.1 h
    · obtain ⟨htold, rfl⟩ := runs_tell hrest
      exact .inl ⟨t₁, t₂, logger, rfl, .inr hlogger, htold, rfl⟩
    · obtain ⟨escape, rfl⟩ := (Logger.unreported_opened _ _ _).exists_escape hlogger
      exact .inr ⟨escape, hlogger, rfl⟩
  · rw [showing_pure_bind hkind hdebug hf] at h
    obtain ⟨htold, rfl⟩ := runs_tell h
    exact .inl ⟨[], t, logger, rfl, .inl rfl, htold, rfl⟩

/-- **A stage whose errors are shown**, before the switch is known. -/
theorem reflects_reportingTo_bind {opening : Action Logger} {f : Except Int α → Action Int}
    (hopening : opening = Logger.plain ∨ ∃ logger, opening = pure logger ∧ logger.debug = false)
    (hc : c.Reports fun kind => i.shows kind = true ∧ kind ≠ .compile)
    (hf : ∀ code, f (.error code) = pure code)
    (h : ∀ z t, c.run.Runs t (.ok z) → SwitchedOn t → i.Reflects (g z) (f (.ok z))) :
    i.Reflects (c >>= g) (reportingTo opening (fun _ => false) c >>= f) := by
  intro t x hswitch hruns
  obtain ⟨t₁, t₂, z, rfl, hz, hrest⟩ | ⟨t₁, t₂, failure, rfl, hfailure, hshown⟩ :=
    runs_reportingTo_bind hruns
  · have hfirst := hswitch.of_subset (List.subset_append_left t₁ t₂)
    have hlast := hswitch.of_subset (List.subset_append_right t₁ t₂)
    exact begins_bind_ok hz (h z t₁ hz hfirst t₂ x hlast hrest)
  · cases failure with
    | escaped e =>
      obtain ⟨rfl, rfl⟩ := hshown
      exact begins_bind_error hfailure (.escaped e)
    | reported e =>
      obtain ⟨hkind, hcompile⟩ := hc t₁ e hfailure
      obtain ⟨before, told, logger, rfl, hbefore, htold, rfl⟩ | ⟨escape, hlogger, rfl⟩ :=
        runs_showing_bind hopening hcompile hf hshown
      · exact begins_bind_error hfailure (.shown hkind hbefore htold)
      · exact begins_bind_error hfailure (.unshown hkind hlogger)

/-! ### `run` -/

/-- What comes behind the loading of the settings reports errors that are raised. -/
theorem reports_prepare {p : Pipeline} {kinds : ErrorKind → Prop} (hfilesystem : kinds .filesystem)
    (hparse : kinds .parse) (hreport : ∀ event, (p.report event).Reports kinds) {script : Path}
    (hscript : checkScript script scriptExtension = .ok script) :
    (p.prepare script).Reports kinds := by
  rw [Pipeline.prepare, hscript]
  refine reports_bind (Files.guarded_readText fun _ => hfilesystem).reports fun text => ?_
  split
  · exact reports_fail hparse
  · exact reports_bind (hreport _) fun _ => reports_pure _

theorem reports_reportMissing {p : Pipeline} {kinds : ErrorKind → Prop}
    (hreport : ∀ event, (p.report event).Reports kinds) (crates : List Text) :
    (p.reportMissing crates).Reports kinds := by
  induction crates with
  | nil => exact reports_pure ()
  | cons crate rest ih =>
    refine reports_bind (Action.reports_orEscape _) fun found => ?_
    cases found with
    | true => exact ih
    | false => exact reports_bind (hreport _) fun _ => ih

theorem reports_planning {p : Pipeline} {kinds : ErrorKind → Prop}
    (hfilesystem : kinds .filesystem) (hreport : ∀ event, (p.report event).Reports kinds)
    (prepared : Prepared) : (p.planning prepared).Reports kinds := by
  refine reports_bind Pipeline.guarded_base.reports fun workDir => ?_
  refine reports_bind (Toolchain.guarded_artifactFor hfilesystem _ _ _ _).reports fun planned => ?_
  refine reports_bind (Toolchain.guarded_plannedCommand _ _ _ _ _).reports fun command => ?_
  refine reports_bind (reports_reportMissing hreport _) fun _ => ?_
  exact reports_bind (hreport _) fun _ => reports_bind (hreport _) fun _ => reports_pure _

/-- **The stages of a pipeline** report errors of the file system, of the parser, of the compiler
and of a launch. -/
theorem reports_uncaught {p : Pipeline} {kinds : ErrorKind → Prop}
    (hfilesystem : kinds .filesystem) (hparse : kinds .parse) (hcompile : kinds .compile)
    (hlaunch : kinds .launch) (hreport : ∀ event, (p.report event).Reports kinds) {script : Path}
    (hscript : checkScript script scriptExtension = .ok script) (arguments : List Text) :
    (p.uncaught script arguments).Reports kinds := by
  refine reports_bind (reports_prepare hfilesystem hparse hreport hscript) fun prepared => ?_
  refine reports_bind (reports_planning hfilesystem hreport prepared) fun workDir => ?_
  refine reports_bind (Toolchain.guarded_buildProgram hfilesystem hcompile hlaunch
    _ _ _ _ _ _ _).reports fun artifact => ?_
  refine reports_bind (hreport _) fun _ => ?_
  refine reports_bind (Toolchain.guarded_launchArtifact hlaunch _ _ _ _ _).reports fun code => ?_
  exact reports_bind (hreport _) fun _ => reports_pure code

/-- With the switch on, `run` behind its settings is its pipeline, followed by what is made of the
outcome. -/
theorem runLoaded_of_raiseErrors {platform : Platform} {r : RunRequest} {root script : Path}
    {settings : Settings} (hraise : settings.raiseErrors = true) :
    runLoaded platform r root (.ok (script, settings)) = (do
      let settings := { settings with output := withRequest settings.output r }
      let logger ← loggerOf settings.output
      let cache ← openCache root logger
      let outcome ← (pipelineOf platform settings logger cache).run script r.arguments
      match outcome.error? with
      | none => return outcome.exitCode
      | some e => Action.fail e) := by
  have hend : ∀ (logger : Logger) (outcome : Outcome), endRun logger (fun _ => true) (.ok outcome)
      = match outcome.error? with
        | none => return outcome.exitCode
        | some e => Action.fail e := by
    intro logger outcome
    rw [endRun]
    cases outcome.error? with
    | none => rfl
    | some e => rfl
  simp only [runLoaded, hraise, reportingTo_raised, bind_assoc, pure_bind, hend]

/-- The pipeline of `run` with the switch on: what comes out of it as an outcome is raised. -/
theorem reflects_pipelineOf {platform : Platform} {r : RunRequest} {settings : Settings}
    {logger : Logger} {cache : Cache} {script : Path}
    (hscript : checkScript script scriptExtension = .ok script) :
    (run platform r).Reflects
      ((pipelineOf platform settings logger cache).uncaught script r.arguments) (do
        let outcome ← (pipelineOf platform settings logger cache).run script r.arguments
        match outcome.error? with
        | none => return outcome.exitCode
        | some e => Action.fail e) := by
  intro t x _ hruns
  let p := pipelineOf platform settings logger cache
  have hreport : ∀ event t x, (p.report event).run.Runs t x → x = .ok () := by
    intro event t x h
    obtain ⟨_, -, rfl⟩ := Action.runs_lift.1 h
    rfl
  have hreports : (p.uncaught script r.arguments).Reports ((run platform r).shows · = false) :=
    reports_uncaught (by rfl) (by rfl) (by rfl) (by rfl) (fun event => reports_lift _) hscript
      r.arguments
  obtain ⟨t₁, t₂, outcome, rfl, hrun, hrest⟩ | ⟨failure, hrun, rfl⟩ := runs_bind.1 hruns
  all_goals
    obtain ⟨t₃, t₄, y, rfl, hy, hcaught⟩ := Pipeline.runs_uncaught hreport hrun
  · cases hcaught with
    | completed code =>
      obtain ⟨rfl, rfl⟩ := hrest
      exact ⟨t₃, [], _, by simp, hy, .value code⟩
    | @outcome e _ hasRun _ hstands hdone =>
      obtain ⟨e', herror, hsame, hmessage⟩ := hstands
      simp only [herror] at hrest
      obtain ⟨rfl, rfl⟩ := hrest
      obtain ⟨_, hsaid, -⟩ := Action.runs_lift.1 hdone
      exact ⟨t₃, t₄, _, by simp, hy, .raised (hreports t₃ e hy) hsame hmessage
        (.inr ⟨logger, settings.output.showExpanded, outcome, hasRun, hsaid⟩)⟩
  · cases hcaught with
    | failure failure =>
      exact ⟨t₃, [], _, rfl, hy, exists_ends_of_failure fun e he => hreports t₃ e (he ▸ hy)⟩

theorem reports_openCache {kinds : ErrorKind → Prop} (hfilesystem : kinds .filesystem) (root : Path)
    (logger : Logger) : (openCache root logger).Reports kinds :=
  reports_bind (Cache.reports_ensure hfilesystem root) fun _ =>
    reports_bind (reports_lift _) fun _ => reports_pure _

theorem reflects_run (platform : Platform) (r : RunRequest) :
    (run platform r).Reflects (run platform r).uncaught (run platform r).action := by
  rw [uncaught, action, runOn_eq]
  refine reflects_bind (unreported_cacheRoot _).reports fun root _ _ _ => ?_
  refine reflects_reportingTo_bind (.inl rfl)
    (reports_loading ⟨rfl, by decide⟩ ⟨rfl, by decide⟩ _ _) (fun _ => rfl)
    fun loaded t hloading hswitch => ?_
  obtain ⟨script, settings⟩ := loaded
  obtain ⟨vars, rest, -, -, hscript, -⟩ := runs_loading hloading
  rw [runLoaded_of_raiseErrors (raiseErrors_of_loading hloading hswitch)]
  refine reflects_bind (Logger.unreported_opened _ _ _).reports fun logger _ _ _ => ?_
  refine reflects_bind (reports_openCache (by rfl) root logger) fun cache _ _ _ => ?_
  exact reflects_pipelineOf hscript

/-! ### `expand` and `cache` -/

theorem reports_echo {kinds : ErrorKind → Prop} (line : Text) : (echo line).Reports kinds :=
  reports_bind (reports_ask _) fun _ => reports_ask _

theorem reports_echoAll {kinds : ErrorKind → Prop} (lines : List Text) :
    (echoAll lines).Reports kinds := by
  induction lines with
  | nil => exact reports_pure ()
  | cons line rest ih => exact reports_bind (reports_echo line) fun _ => ih

theorem reports_expandedLines {kinds : ErrorKind → Prop} (policy : Policy) (program : Program)
    (bodyOnly : Bool) : (expandedLines policy program bodyOnly).Reports kinds := by
  unfold expandedLines
  split
  · exact reports_pure _
  · split
    · split
      · exact reports_pure _
      · exact Action.reports_escape _
    · exact reports_pure _

theorem reflects_expand (r : ExpandRequest) :
    (Invocation.expand r).Reflects (Invocation.expand r).uncaught (Invocation.expand r).action := by
  rw [uncaught, action, CommandLine.expand]
  refine reflects_bind (unreported_cacheRoot _).reports fun root _ _ _ => ?_
  refine reflects_bind (Logger.unreported_opened _ _ _).reports fun logger t hlogger _ => ?_
  refine reflects_reportingTo_bind (.inr ⟨logger, rfl, debug_of_opened hlogger⟩)
    (reports_loading ⟨rfl, by decide⟩ ⟨rfl, by decide⟩ _ _) (fun _ => rfl)
    fun loaded t hloading hswitch => ?_
  obtain ⟨script, settings⟩ := loaded
  obtain ⟨vars, rest, -, -, hscript, -⟩ := runs_loading hloading
  simp only [raiseErrors_of_loading hloading hswitch, reportingTo_raised, bind_assoc, pure_bind]
  refine reflects_self (reports_bind (reports_openCache (by rfl) root logger) fun cache => ?_)
  refine reports_bind (reports_prepare (by rfl) (by rfl) (fun _ => reports_pure _) hscript)
    fun prepared => ?_
  refine reports_bind (reports_expandedLines _ _ _) fun lines => ?_
  exact reports_bind (reports_echoAll lines) fun _ => reports_pure _

theorem reflects_cache (asked : Option Path) :
    (cache asked).Reflects (cache asked).uncaught (cache asked).action := by
  rw [uncaught, action, printCache]
  refine reflects_bind (Logger.unreported_opened _ _ _).reports fun logger t hlogger _ => ?_
  have hensure : (cacheRoot asked >>= Cache.ensure).Reports
      fun kind => (cache asked).shows kind = true ∧ kind ≠ .compile :=
    reports_bind (unreported_cacheRoot asked).reports fun root =>
      Cache.reports_ensure ⟨rfl, by decide⟩ root
  refine reflects_reportingTo_bind (.inr ⟨logger, rfl, debug_of_opened hlogger⟩) hensure
    (fun _ => rfl) fun cache t _ _ => reflects_self ?_
  exact reports_bind (reports_echo _) fun _ => reports_bind (reports_echo _) fun _ =>
    reports_bind (reports_echo _) fun _ => reports_pure _

/-- **Errors are raised** where the environment asks for it. A command takes its stages in order,
whatever the host replies. If one of them fails with an error, then this error is raised with its
kind and its message, and it is not told; but `run` and `expand` tell errors of usage and of the
configuration with the exit status 1, and `cache` tells every error so. -/
theorem errors_raised (i : Invocation) {x : Except Failure Int} (h : i.action.run.Runs t x)
    (hswitch : SwitchedOn t) :
    ∃ t₁ t₂ y, t = t₁ ++ t₂ ∧ i.uncaught.run.Runs t₁ y ∧ i.Ends y t₂ x := by
  cases i with
  | run platform r => exact reflects_run platform r t x hswitch h
  | expand r => exact reflects_expand r t x hswitch h
  | cache asked => exact reflects_cache asked t x hswitch h

/-- The host with an environment in which the switch is on. -/
def switched (host : (request : Request) → request.Reply) : (request : Request) → request.Reply
  | .environment => [("SNIPPET_RUNNER_RAISE", " Yes")]
  | request => host request

theorem switchedOn_follow {α : Type} (host : (request : Request) → request.Reply) (a : Action α) :
    SwitchedOn (a.run.follow (switched host)).1 := by
  intro vars hvars
  obtain rfl : vars = [("SNIPPET_RUNNER_RAISE".toList, " Yes".toList)] :=
    Routine.reply_of_mem_follow hvars
  exact ⟨" Yes", by decide +kernel, by decide +kernel⟩

/-- The error of a compiler that rejects the program has been an outcome before it is raised. -/
theorem errors_raised_rejected :
    let i : Invocation := .run .linux plainRequest
    ∃ t, SwitchedOn t ∧
      i.action.run.Runs t (.error (.reported (.compilerRejected "error\n" 1))) ∧
      t.diagnostics = [] ∧
      ∃ t₁ t₂ e, t = t₁ ++ t₂ ∧ i.uncaught.run.Runs t₁ (.error (.reported e)) ∧
        e.kind = .compile ∧ e.message = "compiler exited with status 1" := by
  intro i
  let host := switched (rejectingHost (Utf8.encode "error\n"))
  have hvalue : (i.action.run.follow host).2
      = .error (.reported (.compilerRejected "error\n" 1)) := by
    decide +kernel
  have hsilent : (i.action.run.follow host).1.diagnostics = [] := by
    decide +kernel
  have hruns := Routine.runs_follow host i.action.run
  rw [hvalue] at hruns
  have hswitch : SwitchedOn (i.action.run.follow host).1 := switchedOn_follow _ _
  obtain ⟨t₁, t₂, y, ht, hy, hends⟩ := errors_raised i hruns hswitch
  refine ⟨_, hswitch, hruns, hsilent, ?_⟩
  cases hends with
  | @raised e e' t hkind hsame hmessage hdone =>
    exact ⟨t₁, t₂, e, ht, hy, hsame.symm, hmessage.symm.trans (by decide +kernel)⟩

/-- A host that lets nobody read the files of the cache. -/
def lockedHost : (request : Request) → request.Reply
  | .read path => .error (.os ⟨.accessDenied, some path, none⟩)
  | request => killingHost request

/-- **The switch is not known everywhere**: though it is on, `run` tells a mistake, and `cache`
tells an error of the file system. -/
theorem switch_unknown :
    let r : RunRequest := { plainRequest with script := some (Path.ofText "notes.txt") }
    let mistake : RunError := .wrongExtension (Path.ofText "notes.txt") ".rs"
    let locked : RunError :=
      .preludeNotRead (Path.ofText "/cache/prelude")
        (.os ⟨.accessDenied, some "/cache/prelude", none⟩)
    (∃ t, SwitchedOn t ∧ (run .linux r).action.run.Runs t (.ok 1) ∧
      (run .linux r).uncaught.run.Runs [] (.error (.reported mistake)) ∧
      t.diagnostics = ["snippet-runner error: ".toList ++ mistake.message ++ ['\n']]) ∧
    ∃ t t', SwitchedOn t ∧ (cache (some (Path.ofText "/cache"))).action.run.Runs t (.ok 1) ∧
      (Cache.ensure (Path.ofText "/cache")).run.Runs t' (.error (.reported locked)) ∧
      t.diagnostics = ["snippet-runner error: ".toList ++ locked.message ++ ['\n']] := by
  intro r mistake locked
  have hran := Routine.runs_follow (switched killingHost) (run .linux r).action.run
  have hcode : ((run .linux r).action.run.follow (switched killingHost)).2 = .ok 1 := by
    decide +kernel
  let i : Invocation := cache (some (Path.ofText "/cache"))
  have hlisted := Routine.runs_follow (switched lockedHost) i.action.run
  have hcode' : (i.action.run.follow (switched lockedHost)).2 = .ok 1 := by
    decide +kernel
  have hensured := Routine.runs_follow (switched lockedHost)
    (Cache.ensure (Path.ofText "/cache")).run
  have hlocked : ((Cache.ensure (Path.ofText "/cache")).run.follow (switched lockedHost)).2
      = .error (.reported locked) := by
    decide +kernel
  exact ⟨⟨_, switchedOn_follow _ _, hcode ▸ hran, ⟨rfl, rfl⟩, by decide +kernel⟩,
    _, _, switchedOn_follow _ _, hcode' ▸ hlisted, hlocked ▸ hensured, by decide +kernel⟩

end Invocation

end CommandLine

end Oneshot
