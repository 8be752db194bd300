import Oneshot.Proofs.CommandLine.Stages
import Oneshot.Proofs.Pipeline.Outcomes

/-!
# The Exit Status of a Run

Whatever the host replies, a run that is not ended by an escape has an exit status. It shows how the
artifact has ended if the run gets as far as running it, and it is 1 in any other case: a failure in
front of the compiler is reported, and one at a later stage becomes an outcome which is then
reported.

Two things on the way never end with a reported error: finding the cache directory and opening the
logger. An error that is raised there could not be shown.

* `runs_reportingTo_calm`: how an action ends whose errors are shown.
* `runs_runLoaded`, `runs_run`: how a run ends behind its settings, and as a whole.
* `exitStatus_run`: the exit status of a run, by its course.
-/

namespace Oneshot

open Action (runs_bind runs_lift_bind runs_ask_bind)
open Trace (Calm)

/-! ### Unreported actions -/

namespace Action

variable {α β : Type}

/-- An action that never ends with a reported error. -/
def Unreported (a : Action α) : Prop :=
  a.run.Returns fun x => ∀ e, x ≠ .error (.reported e)

theorem unreported_pure (x : α) : (pure x : Action α).Unreported :=
  fun _ => by simp

theorem unreported_escape (e : Escape) : (escape e : Action α).Unreported :=
  fun _ => by simp

theorem unreported_bind {a : Action α} {f : α → Action β} (ha : a.Unreported)
    (hf : ∀ x, (f x).Unreported) : (a >>= f).Unreported := by
  rw [Unreported, run_bind]
  refine Routine.returns_bind ha fun x hx => ?_
  rcases x with (e | e) | x
  · exact absurd rfl (hx e)
  · exact fun _ => by simp
  · exact hf x

theorem unreported_ask (request : Request) : (ask request).Unreported :=
  fun _ _ => by simp

/-- The failure of such an action is an escape. -/
theorem Unreported.exists_escape {a : Action α} (ha : a.Unreported) {t : Trace} {failure : Failure}
    (h : a.run.Runs t (.error failure)) : ∃ e, failure = .escaped e := by
  cases failure with
  | reported e => exact absurd rfl (h.returns ha e)
  | escaped e => exact ⟨e, rfl⟩

end Action

open Action (unreported_pure unreported_escape unreported_bind unreported_ask)

theorem Path.unreported_expandHome (p : Path) : p.expandHome.Unreported := by
  have hrecorded : ∀ part, (recordedHome part).Unreported := by
    intro part
    rw [recordedHome]
    split
    · refine unreported_bind (unreported_ask _) fun vars => ?_
      split
      · exact unreported_pure _
      · exact unreported_ask _
    · split
      · exact unreported_escape _
      · exact unreported_ask _
  rw [expandHome]
  split
  · split
    · refine unreported_bind (hrecorded _) fun home => ?_
      split
      · simp only
        split
        · split
          · exact unreported_escape _
          · exact unreported_pure _
        · split
          · exact unreported_escape _
          · exact unreported_pure _
      · exact unreported_escape _
    · exact unreported_pure _
  · exact unreported_pure _

theorem Cache.unreported_defaultRoot (vars : Variables) : (defaultRoot vars).Unreported := by
  have hbase : (baseDir vars).Unreported := by
    rw [baseDir]
    split
    · exact Path.unreported_expandHome _
    · exact unreported_bind (Path.unreported_expandHome _) fun _ => unreported_pure _
  exact unreported_bind hbase fun _ => unreported_pure _

theorem Logger.unreported_opened (emoji color debug : Bool) :
    (opened emoji color debug).Unreported := by
  refine unreported_bind (unreported_bind (unreported_ask _) fun vars => ?_) fun _ =>
    unreported_pure _
  split
  · exact unreported_pure _
  · exact unreported_escape _

namespace CommandLine

variable {platform : Platform} {r : RunRequest} {t : Trace}

theorem unreported_cacheRoot (asked : Option Path) : (cacheRoot asked).Unreported := by
  cases asked with
  | some root => exact unreported_pure root
  | none => exact unreported_bind (unreported_ask _) fun vars => Cache.unreported_defaultRoot vars

theorem idle_cacheRoot (asked : Option Path) : (cacheRoot asked).Idle :=
  (within_cacheRoot asked).idle (by decide)

theorem idle_loading (script : Option Path) (root : Path) : (loading script root).Idle :=
  (within_loading script root).idle (by decide)

/-! ### Errors that are shown -/

/-- The exit status with which an error is shown. -/
theorem runs_report {logger : Logger} {d : Diagnostic} {code : Int}
    (h : (logger.report d).Runs t code) : Calm t ∧ code = d.exitCode := by
  refine ⟨h.calm (logger.idle_report d), ?_⟩
  rw [Logger.report] at h
  have hend : ∀ {t : Trace}, (do
      logger.note
        ("failure: kind=".toList ++ d.kind.word ++ " exit=".toList ++ Text.ofInt d.exitCode)
      return d.exitCode : Routine Int).Runs t code → code = d.exitCode := by
    intro t h
    obtain ⟨t₁, t₂, _, -, -, -, rfl⟩ := Routine.runs_bind.1 h
    rfl
  split at h
  · obtain ⟨t₁, t₂, _, -, -, hrest⟩ := Routine.runs_bind.1 h
    exact hend hrest
  · obtain ⟨t₁, t₂, _, -, -, hrest⟩ := Routine.runs_bind.1 h
    exact hend hrest

/-- What is shown has the exit status 1, and only an escape keeps it from being shown. -/
theorem runs_showing_calm {α : Type} {opening : Action Logger} (hidle : opening.Idle)
    (hopening : opening.Unreported) {raised : RunError → Bool} (hraised : ∀ e, raised e = false)
    {failure : Failure} {x : Except Failure (Except Int α)}
    (h : (showing opening raised failure).run.Runs t x) :
    (∃ e, failure = .reported e ∧ Calm t ∧ x = .ok (.error 1)) ∨ ∃ e, x = .error (.escaped e) := by
  cases failure with
  | escaped e =>
    obtain ⟨rfl, rfl⟩ := h
    exact .inr ⟨e, rfl⟩
  | reported e =>
    simp only [showing, hraised] at h
    obtain ⟨t₁, t₂, logger, rfl, hlogger, hreport⟩ | ⟨failure, hlogger, rfl⟩ := runs_bind.1 h
    · obtain ⟨t₃, t₄, code, rfl, hcode, rfl, rfl⟩ := runs_lift_bind.1 hreport
      obtain ⟨hcalm, rfl⟩ := runs_report hcode
      rw [List.append_nil]
      exact .inl ⟨e, rfl, (hlogger.calm hidle).append hcalm, rfl⟩
    · obtain ⟨e', rfl⟩ := hopening.exists_escape hlogger
      exact .inr ⟨e', rfl⟩

/-- **An action whose errors are shown** is followed by what is made of its value or of the exit
status 1; only an escape ends it otherwise. -/
theorem runs_reportingTo_calm {α β : Type} {opening : Action Logger} (hidle : opening.Idle)
    (hopening : opening.Unreported) {raised : RunError → Bool} (hraised : ∀ e, raised e = false)
    {action : Action α} {f : Except Int α → Action β} {y : Except Failure β}
    (h : (reportingTo opening raised action >>= f).run.Runs t y) :
    (∃ t₁ t₂ value, t = t₁ ++ t₂ ∧ action.run.Runs t₁ (.ok value) ∧
        (f (.ok value)).run.Runs t₂ y) ∨
      (∃ t₁ t₂ t₃ e, t = t₁ ++ (t₂ ++ t₃) ∧ action.run.Runs t₁ (.error (.reported e)) ∧ Calm t₂ ∧
        (f (.error 1)).run.Runs t₃ y) ∨
      ∃ e, y = .error (.escaped e) := by
  obtain hvalue | ⟨t₁, t₂, failure, rfl, hfailure, hshown⟩ := runs_reportingTo_bind h
  · exact .inl hvalue
  obtain ⟨t₃, t₄, ended, rfl, hended, hrest⟩ | ⟨failure', hended, rfl⟩ := runs_bind.1 hshown
  all_goals
    obtain ⟨e, rfl, hcalm, hx⟩ | ⟨e, hx⟩ := runs_showing_calm hidle hopening hraised hended
  · obtain rfl := Except.ok.inj hx
    exact .inr (.inl ⟨t₁, t₃, t₄, e, rfl, hfailure, hcalm, hrest⟩)
  · simp at hx
  · simp at hx
  · obtain rfl := Except.error.inj hx
    exact .inr (.inr ⟨e, rfl⟩)

/-! ### Loading -/

/-- Along the trace, the settings are loaded. -/
def Loads (r : RunRequest) (t : Trace) (settings : Settings) : Prop :=
  ∃ part, part <+: t ∧ (do
    let root ← cacheRoot r.cacheDir
    Settings.load (some root) (← Action.ask .environment) : Action Settings).run.Runs part
      (.ok settings)

/-- Along one trace, only one thing is loaded. -/
theorem Loads.unique {settings settings' : Settings} (h : Loads r t settings)
    (h' : Loads r t settings') : settings = settings' := by
  obtain ⟨part, hpart, hload⟩ := h
  obtain ⟨part', hpart', hload'⟩ := h'
  exact Except.ok.inj (hload.determined hload' hpart hpart').2

/-! ### The run -/

/-- The plan is one for the request on a platform, with the toolchain that is configured. -/
structure Serves (plan : Plan) (platform : Platform) (r : RunRequest) (t : Trace) : Prop where
  platform_eq : plan.platform = platform
  arguments_eq : plan.arguments = r.arguments
  toolchain_eq : ∀ settings, Loads r t settings → plan.toolchain = settings.toolchain
  executable_eq : plan.artifact.executable.isAbsolute = true →
    plan.executable = plan.artifact.executable

/-- Along each trace, there is a plan. -/
theorem exists_serves (platform : Platform) (r : RunRequest) (t : Trace) :
    ∃ plan, Serves plan platform r t := by
  have hplan : ∀ toolchain : ToolchainSettings,
      (∀ settings, Loads r t settings → toolchain = settings.toolchain) →
        ∃ plan, Serves plan platform r t :=
    fun toolchain htoolchain =>
      ⟨⟨Cache.ofRoot ⟨[], []⟩ [], toolchain, platform, false, [], ⟨⟨[], []⟩, ⟨[], []⟩⟩, ⟨[], []⟩,
        r.arguments⟩, rfl, rfl, htoolchain, fun _ => rfl⟩
  by_cases h : ∃ settings, Loads r t settings
  · obtain ⟨settings, hload⟩ := h
    exact hplan settings.toolchain fun settings' hload' => by rw [hload.unique hload']
  · exact hplan .default fun settings hload => absurd ⟨settings, hload⟩ h

/-- An exit status shows how a child has ended: with that status, or by the signal behind 128. -/
def Shows (code status : Int) : Prop :=
  (0 ≤ status ∧ code = status) ∨ ∃ signal : Nat, 0 < signal ∧ status = -signal ∧ code = 128 + signal

theorem shows_exitCodeOf (status : Int) : Shows (exitCodeOf status) status := by
  rw [exitCodeOf]
  split
  · next hneg => exact .inr ⟨status.natAbs, by omega, by omega, by omega⟩
  · next hpos => exact .inl ⟨by omega, rfl⟩

/-- The settings of a run are loaded behind its cache directory. -/
theorem loads_of_runs {root : Path} {before : Trace} {script : Path} {settings : Settings}
    (hroot : (cacheRoot r.cacheDir).run.Runs before (.ok root))
    (h : (loading r.script root).run.Runs t (.ok (script, settings))) (after : Trace) :
    Loads r (before ++ (t ++ after)) settings := by
  obtain ⟨vars, rest, rfl, -, -, hload⟩ := runs_loading h
  refine ⟨before ++ ⟨.environment, vars⟩ :: rest, ⟨after, by simp⟩, ?_⟩
  exact runs_bind.2
    (.inl ⟨before, _, root, rfl, hroot, runs_ask_bind.2 ⟨vars, rest, rfl, hload⟩⟩)

/-- How a run ends, escapes aside: with the status of the artifact if it completes, and with 1 if it
breaks off. -/
def RunEnds (plan : Plan) (t : Trace) : Except Failure Int → Prop :=
  Ends (fun code => (∃ status, Completes plan .compiling t status ∧ code = exitCodeOf status) ∨
    (Breaks plan .compiling t ∧ code = 1)) False

theorem RunEnds.append_left {plan : Plan} {before : Trace} {x : Except Failure Int}
    (h : RunEnds plan t x) (hbefore : Calm before) : RunEnds plan (before ++ t) x := by
  refine Ends.imp h (fun code hcode => ?_) id
  obtain ⟨status, hcompletes, rfl⟩ | ⟨hbreaks, rfl⟩ := hcode
  · exact .inl ⟨status, hcompletes.append_left hbefore.quiet, rfl⟩
  · exact .inr ⟨hbreaks.append_left hbefore, rfl⟩

/-- Without settings there is nothing to launch, so that any plan will do for an escape. -/
theorem exists_runEnds_escaped (platform : Platform) (r : RunRequest) (whole t : Trace)
    (e : Escape) : ∃ plan, Serves plan platform r whole ∧ RunEnds plan t (.error (.escaped e)) := by
  obtain ⟨plan, hplan⟩ := exists_serves platform r whole
  exact ⟨plan, hplan, trivial⟩

/-- The cache is opened, and the script is taken through the pipeline. -/
theorem runs_openCache_run {whole : Trace} {root : Path} {logger : Logger} {settings : Settings}
    (hloads : ∀ loaded, Loads r whole loaded → settings.toolchain = loaded.toolchain)
    {script : Path} {x : Except Failure Outcome}
    (h : (do
      let cache ← openCache root logger
      (pipelineOf platform settings logger cache).run script r.arguments : Action Outcome).run.Runs
        t x) :
    ∃ plan, Serves plan platform r whole ∧
      Ends (OutcomeOf plan .compiling t) (Breaks plan .compiling t) x := by
  have hopen : (openCache root logger).Idle := by
    refine Action.every_bind (Cache.idle_ensure root) fun cache => ?_
    exact Action.every_bind (Action.every_lift (logger.idle_note _)) fun _ => trivial
  obtain ⟨t₁, t₂, cache, rfl, hcalm, -, hpipeline⟩ | ⟨hcalm, failure, rfl⟩ :=
    runs_idle_bind hopen h
  · let pipeline := pipelineOf platform settings logger cache
    have hreport : ∀ event, (pipeline.report event).Idle :=
      fun event => Action.every_lift (idle_sayEvent _ _ event)
    have hfailed : ∀ event t e, ¬ (pipeline.report event).run.Runs t (.error (.reported e)) := by
      intro event t e hevent
      obtain ⟨_, -, hx⟩ := Action.runs_lift.1 hevent
      simp at hx
    obtain ⟨inColor, crates, artifact, executable, habsolute, hcourse⟩ :=
      Pipeline.runs_run hreport hfailed hpipeline
    refine ⟨_, ⟨rfl, rfl, hloads, habsolute⟩,
      hcourse.imp (fun outcome houtcome => ?_) fun hbreaks => hbreaks.append_left hcalm⟩
    exact houtcome.append_left hcalm
  · obtain ⟨plan, hplan⟩ := exists_serves platform r whole
    exact ⟨plan, hplan, ends_error (.early hcalm.quiet) failure⟩

/-- What is made of an outcome: the status of the artifact is handed on, and an error is shown. -/
theorem runs_exitStatus {plan : Plan} {before : Trace} {logger : Logger} {raised : RunError → Bool}
    (hraised : ∀ e, raised e = false) {outcome : Outcome}
    (houtcome : OutcomeOf plan .compiling before outcome) {x : Except Failure Int}
    (h : (endRun logger raised (.ok outcome)).run.Runs t x) : RunEnds plan (before ++ t) x := by
  rw [endRun] at h
  cases houtcome with
  | completed hcompletes =>
    obtain ⟨rfl, rfl⟩ := h
    rw [List.append_nil]
    exact .inl ⟨_, hcompletes, rfl⟩
  | failed herror hbreaks =>
    obtain ⟨e, he⟩ := Option.isSome_iff_exists.1 herror
    simp only [he] at h
    obtain ⟨t₁, t₂, impossible, -⟩ | ⟨t₁, t₂, t₃, e', rfl, hfail, hcalm, hend⟩ | ⟨e', rfl⟩ :=
      runs_reportingTo_calm Action.every_pure (unreported_pure logger) hraised h
    · exact impossible.elim
    · obtain ⟨rfl, -⟩ := Action.runs_fail.1 hfail
      obtain ⟨rfl, rfl⟩ := hend
      refine .inr ⟨hbreaks.append_right ?_, rfl⟩
      simpa using hcalm
    · trivial

/-- How a run ends once its settings are loaded. -/
theorem runs_runLoaded {whole : Trace} {root script : Path} {settings : Settings}
    (hraised : settings.raiseErrors = false)
    (hloads : ∀ loaded, Loads r whole loaded → settings.toolchain = loaded.toolchain)
    {x : Except Failure Int}
    (h : (runLoaded platform r root (.ok (script, settings))).run.Runs t x) :
    ∃ plan, Serves plan platform r whole ∧ RunEnds plan t x := by
  rw [runLoaded] at h
  obtain ⟨t₁, t₂, logger, rfl, hlogger, hended⟩ | ⟨failure, hlogger, rfl⟩ := runs_bind.1 h
  swap
  · obtain ⟨e, rfl⟩ := (Logger.unreported_opened _ _ _).exists_escape hlogger
    exact exists_runEnds_escaped platform r whole t e
  have hbefore : Calm t₁ := hlogger.calm (Logger.idle_opened ..)
  have hserved : ∀ loaded, Loads r whole loaded →
      ({ settings with output := withRequest settings.output r } : Settings).toolchain
        = loaded.toolchain := hloads
  obtain ⟨t₃, t₄, outcome, rfl, hpipeline, hexit⟩ | ⟨t₃, t₄, t₅, e, rfl, hpipeline, hcalm, hcode⟩ |
      ⟨e, rfl⟩ :=
    runs_reportingTo_calm Action.every_pure (unreported_pure logger) (fun _ => hraised) hended
  · obtain ⟨plan, hplan, houtcome⟩ := runs_openCache_run hserved hpipeline
    exact ⟨plan, hplan, (runs_exitStatus (fun _ => hraised) houtcome hexit).append_left hbefore⟩
  · obtain ⟨plan, hplan, hbreaks⟩ := runs_openCache_run hserved hpipeline
    obtain ⟨rfl, rfl⟩ := hcode
    have hends : RunEnds plan (t₃ ++ (t₄ ++ [])) (.ok 1) :=
      .inr ⟨hbreaks.append_right (hcalm.append Trace.calm_nil), rfl⟩
    exact ⟨plan, hplan, hends.append_left hbefore⟩
  · exact exists_runEnds_escaped platform r whole _ e

/-- How a run ends, with a plan for it. -/
theorem runs_run {x : Except Failure Int} (h : (runOn platform r).run.Runs t x)
    (hraise : ∀ settings, Loads r t settings → settings.raiseErrors = false) :
    ∃ plan, Serves plan platform r t ∧ RunEnds plan t x := by
  rw [runOn_eq] at h
  obtain ⟨t₁, rest, root, rfl, hroot, hloading⟩ | ⟨failure, hroot, rfl⟩ := runs_bind.1 h
  swap
  · obtain ⟨e, rfl⟩ := (unreported_cacheRoot r.cacheDir).exists_escape hroot
    exact exists_runEnds_escaped platform r t t e
  have hrootCalm : Calm t₁ := hroot.calm (idle_cacheRoot r.cacheDir)
  obtain ⟨t₂, t₃, ⟨script, settings⟩, rfl, hload, hrest⟩ |
      ⟨t₂, t₃, t₄, e, rfl, hload, hcalm, hcode⟩ | ⟨e, rfl⟩ :=
    runs_reportingTo_calm (Logger.idle_opened ..) (Logger.unreported_opened _ _ _) (fun _ => rfl)
      hloading
  · have hloads := loads_of_runs hroot hload t₃
    have hserved : ∀ loaded, Loads r (t₁ ++ (t₂ ++ t₃)) loaded →
        settings.toolchain = loaded.toolchain := fun loaded hloaded => by rw [hloads.unique hloaded]
    obtain ⟨plan, hplan, hends⟩ := runs_runLoaded (hraise settings hloads) hserved hrest
    have hloadCalm : Calm t₂ := hload.calm (idle_loading r.script root)
    exact ⟨plan, hplan, (hends.append_left hloadCalm).append_left hrootCalm⟩
  · obtain ⟨rfl, rfl⟩ := hcode
    obtain ⟨plan, hplan⟩ := exists_serves platform r (t₁ ++ (t₂ ++ (t₃ ++ [])))
    have hquiet : Calm (t₁ ++ (t₂ ++ (t₃ ++ []))) :=
      hrootCalm.append ((hload.calm (idle_loading r.script root)).append
        (hcalm.append Trace.calm_nil))
    exact ⟨plan, hplan, .inr ⟨.early hquiet.quiet, rfl⟩⟩
  · exact exists_runEnds_escaped platform r _ _ e

/-- **The exit status of a run** on any platform. If no error is raised and nothing escapes, then
either the run completes: it spawns one artifact, and its exit status shows how that has ended; or
it breaks off: it spawns no artifact, and its exit status is 1. So the exit status is 0 exactly if
the run completes with an artifact that ends with 0. In any case the compiler, its query and the
artifact are launched once at most, in this order. -/
theorem exitStatus_run {x : Except Failure Int} (h : (runOn platform r).run.Runs t x)
    (hraise : ∀ settings, Loads r t settings → settings.raiseErrors = false)
    (hend : ∀ e, x ≠ .error (.escaped e)) :
    ∃ code plan, x = .ok code ∧ Serves plan platform r t ∧
      ((∃ status, Completes plan .compiling t status ∧ t.artifactStatuses = [status] ∧
          Shows code status) ∨
        (Breaks plan .compiling t ∧ t.artifactStatuses = [] ∧ code = 1)) ∧
      (code = 0 ↔ Completes plan .compiling t 0) ∧
      LaunchedBy plan [.compiling, .querying, .starting] t.launches := by
  obtain ⟨plan, hserves, hends⟩ := runs_run h hraise
  rcases x with (e | e) | code
  · exact hends.elim
  · exact absurd rfl (hend e)
  refine ⟨code, plan, rfl, hserves, ?_⟩
  obtain ⟨status, hcompletes, rfl⟩ | ⟨hbreaks, rfl⟩ := hends
  · refine ⟨.inl ⟨status, hcompletes, hcompletes.spawned, shows_exitCodeOf status⟩, ?_,
      hcompletes.launches⟩
    constructor
    · intro hzero
      obtain ⟨-, hcode⟩ | ⟨signal, hsignal, -, hcode⟩ := shows_exitCodeOf status
      · rwa [← hcode, hzero] at hcompletes
      · omega
    · intro hzero
      obtain rfl : status = 0 := by simpa using hcompletes.spawned.symm.trans hzero.spawned
      rfl
  · refine ⟨.inr ⟨hbreaks, hbreaks.spawned, rfl⟩, ?_, hbreaks.launches⟩
    constructor
    · intro hzero
      omega
    · intro hzero
      simpa using hbreaks.spawned.symm.trans hzero.spawned

/-- A host on which all stages succeed and the artifact is ended by signal 9. -/
def killingHost : (request : Request) → request.Reply
  | .kind path =>
    if path = "/cache".toList then .ok .directory
    else if path = "/cache/config.toml".toList then
      .error (.os ⟨.noEntry, some "/cache/config.toml".toList, none⟩)
    else .ok .file
  | .isExecutable _ => true
  | .isReadable _ => true
  | .makeDir _ => .ok ()
  | .makeStaging _ _ => .ok []
  | .read _ => .ok (Utf8.encode "fn main() { loop {} }".toList)
  | .write _ _ => .ok ()
  | .create _ _ => .ok ()
  | .rename _ _ => .ok ()
  | .discard _ => ()
  | .launch command =>
    .ok (if command.captured then ⟨0, Utf8.encode "/lib".toList, []⟩ else ⟨-9, [], []⟩)
  | .workDir => .ok "/work".toList
  | .environment => []
  | .accountHome _ => none
  | .isTerminal _ => false
  | .validatorText _ => []
  | .print _ _ => ()
  | .announce _ _ => ()

/-- The request for a script in the working directory. -/
def plainRequest : RunRequest :=
  ⟨some (Path.ofText "s.rs"), [], false, none, none, false, some (Path.ofText "/cache")⟩

/-- An artifact that is ended by signal 9 gives the exit status 137. -/
theorem exitStatus_run_killed :
    ∃ t, (runOn .linux plainRequest).run.Runs t (.ok 137) ∧
      (∀ settings, Loads plainRequest t settings → settings.raiseErrors = false) ∧
      ∃ plan, Serves plan .linux plainRequest t ∧ Completes plan .compiling t (-9) := by
  have hvalue : ((runOn .linux plainRequest).run.follow killingHost).2 = .ok 137 := by
    decide +kernel
  have hspawned : ((runOn .linux plainRequest).run.follow killingHost).1.artifactStatuses
      = [-9] := by
    decide +kernel
  have hruns := Routine.runs_follow killingHost (runOn .linux plainRequest).run
  rw [hvalue] at hruns
  have hraise : ∀ settings,
      Loads plainRequest ((runOn .linux plainRequest).run.follow killingHost).1 settings →
        settings.raiseErrors = false := by
    rintro settings ⟨part, hpart, hload⟩
    have hloaded := hload.eq_follow fun e he =>
      Routine.reply_of_mem_follow (hpart.subset he)
    have hdefault : ((do
        let root ← cacheRoot plainRequest.cacheDir
        Settings.load (some root) (← Action.ask .environment) : Action Settings).run.follow
          killingHost).2 = .ok .default := by
      decide +kernel
    obtain rfl := Except.ok.inj (hloaded.trans hdefault)
    rfl
  refine ⟨_, hruns, hraise, ?_⟩
  obtain ⟨code, plan, -, hplan, ⟨status, hcompletes, hstatuses, -⟩ | ⟨-, hnone, -⟩, -⟩ :=
    exitStatus_run hruns hraise (by simp)
  · obtain rfl : -9 = status := by simpa using hspawned.symm.trans hstatuses
    exact ⟨plan, hplan, hcompletes⟩
  · simp [hnone] at hspawned

end CommandLine

end Oneshot
