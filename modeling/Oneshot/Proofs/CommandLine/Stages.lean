import Oneshot.Proofs.Host.Topics

/-!
# The Stages of the Commands

`run` and `expand` find the cache, load the script and the settings, and prepare a program. Between
these steps they differ: `expand` opens its logger first, `run` opens a plain one only for an error
and a configured one behind the settings, and each has its own way to show an error. This module
takes both commands apart into named stages.

* `CommandLine.preparation`: what both do up to the program, without a logger.
* `CommandLine.expand_eq`, `CommandLine.runOn_eq`: the commands in terms of their stages.
* `CommandLine.runs_loading`: what has been loaded.
* `CommandLine.within_loading`, `CommandLine.within_preparing`, `CommandLine.within_endRun`,
  `CommandLine.within_showProgram`: what the stages are about.
-/

namespace Oneshot

open Action (every_pure every_bind every_ask runs_bind_ok runs_ask_bind)

namespace CommandLine

/-- The script and the settings of a run. -/
def loading (script : Option Path) (root : Path) : Action (Path × Settings) := do
  let script ← requireScript script
  return (script, ← Settings.load (some root) (← Action.ask .environment))

/-- The program of a script, with the cache at `root`. -/
def preparing (root : Path) (platform : Platform) (loaded : Path × Settings) : Action Prepared := do
  let cache ← Cache.ensure root
  Pipeline.prepare ⟨cache, loaded.2, platform, none, fun _ => pure ()⟩ loaded.1

/-- What both commands do before one of them prints the program and the other one compiles it. -/
def preparation (script cacheDir : Option Path) : Action Prepared := do
  let root ← cacheRoot cacheDir
  let loaded ← loading script root
  preparing root .linux loaded

/-- What `expand` does with a program. -/
def showProgram (settings : Settings) : Except Int Prepared → Action Int
  | .error code => return code
  | .ok prepared => do
    echoAll (← expandedLines settings.policy prepared.program false)
    return 0

/-- What `expand` does with a script. -/
def expandLoaded (root : Path) (logger : Logger) : Except Int (Path × Settings) → Action Int
  | .error code => return code
  | .ok (script, settings) =>
    (reportingTo (pure logger) (fun _ => settings.raiseErrors) do
      let cache ← openCache root logger
      Pipeline.prepare ⟨cache, settings, .linux, none, fun _ => pure ()⟩ script)
      >>= showProgram settings

theorem expand_eq (script cacheDir : Option Path) : expand ⟨script, false, cacheDir⟩ = (do
    let root ← cacheRoot cacheDir
    let logger ← Logger.plain
    reportingTo (pure logger) (fun _ => false) (loading script root)
      >>= expandLoaded root logger) :=
  rfl

/-- What `run` does with the end of its pipeline. -/
def endRun (logger : Logger) (raised : RunError → Bool) : Except Int Outcome → Action Int
  | .error code => return code
  | .ok outcome =>
    match outcome.error? with
    | none => return outcome.exitCode
    | some e => do
      match ← reportingTo (α := Empty) (pure logger) raised (Action.fail e) with
      | .error code => return code
      | .ok impossible => nomatch impossible

/-- The pipeline of `run`. -/
def pipelineOf (platform : Platform) (settings : Settings) (logger : Logger) (cache : Cache) :
    Pipeline where
  cache := cache
  settings := settings
  platform := platform
  workDir := none
  report event := ExceptT.lift (sayEvent logger settings.output.showExpanded event)

/-- What `run` does with a script. -/
def runLoaded (platform : Platform) (r : RunRequest) (root : Path) :
    Except Int (Path × Settings) → Action Int
  | .error code => return code
  | .ok (script, settings) => do
    let settings := { settings with output := withRequest settings.output r }
    let logger ← loggerOf settings.output
    (reportingTo (pure logger) (fun _ => settings.raiseErrors) do
      let cache ← openCache root logger
      (pipelineOf platform settings logger cache).run script r.arguments)
      >>= endRun logger fun _ => settings.raiseErrors

theorem runOn_eq (platform : Platform) (r : RunRequest) : runOn platform r = (do
    let root ← cacheRoot r.cacheDir
    reportingTo Logger.plain (fun _ => false) (loading r.script root)
      >>= runLoaded platform r root) :=
  rfl

theorem within_loading (script : Option Path) (root : Path) :
    (loading script root).Within [.look, .surroundings] := by
  refine every_bind ((within_requireScript _).mono (List.nil_subset _)) fun script => ?_
  refine every_bind (every_ask (by simp)) fun vars => ?_
  exact every_bind ((Settings.within_load ..).mono (by decide)) fun _ => trivial

/-- A script and settings that have been loaded: the script has the right extension, and the
settings are loaded under the environment. -/
theorem runs_loading {script : Option Path} {root checked : Path} {settings : Settings} {t : Trace}
    (h : (loading script root).run.Runs t (.ok (checked, settings))) :
    ∃ vars rest, t = ⟨.environment, vars⟩ :: rest ∧ script = some checked ∧
      checkScript checked scriptExtension = .ok checked ∧
      (Settings.load (some root) vars).run.Runs rest (.ok settings) := by
  rw [loading] at h
  obtain ⟨t₁, t₂, required, rfl, hscript, hvars⟩ := runs_bind_ok.1 h
  obtain ⟨vars, t₃, rfl, hload⟩ := runs_ask_bind.1 hvars
  obtain ⟨t₄, t₅, loaded, rfl, hsettings, hend⟩ := runs_bind_ok.1 hload
  obtain ⟨rfl, hloaded⟩ := Action.runs_pure_ok.1 hend
  obtain ⟨rfl, rfl⟩ := Prod.mk.inj hloaded
  unfold requireScript at hscript
  split at hscript
  · simp at hscript
  · next given =>
    split at hscript
    · next path hchecked =>
      obtain ⟨rfl, rfl⟩ := Action.runs_pure_ok.1 hscript
      obtain rfl : given = checked := by
        rw [checkScript] at hchecked
        split at hchecked
        · exact Except.ok.inj hchecked
        · simp at hchecked
      exact ⟨vars, t₄, by simp, rfl, hchecked, hsettings⟩
    · simp at hscript

theorem within_mutedPrepare (cache : Cache) (settings : Settings) (platform : Platform)
    (script : Path) :
    (Pipeline.prepare ⟨cache, settings, platform, none, fun _ => pure ()⟩ script).Within [.look] :=
  Pipeline.within_prepare (fun _ => every_pure) List.mem_cons_self script

theorem within_preparing (root : Path) (platform : Platform) (loaded : Path × Settings) :
    (preparing root platform loaded).Within [.look, .arrange] := by
  refine every_bind (Cache.within_ensure root) fun cache => ?_
  exact (within_mutedPrepare ..).mono (by decide)

theorem within_endRun (logger : Logger) (raised : RunError → Bool)
    (ended : Except Int Outcome) : (endRun logger raised ended).Within [.surroundings, .print] := by
  rcases ended with code | outcome
  · trivial
  · rw [endRun]
    split
    · trivial
    · refine every_bind (within_reportingTo every_pure trivial (by decide) (by decide))
        fun shown => ?_
      rcases shown with code | impossible
      · trivial
      · exact impossible.elim

theorem within_echoAll (lines : List Text) : (echoAll lines).Within [.print] := by
  induction lines with
  | nil => trivial
  | cons line rest ih =>
    exact every_bind (every_bind (every_ask (by simp)) fun _ => every_ask (by simp)) fun _ => ih

theorem within_showProgram (settings : Settings) (prepared : Except Int Prepared) :
    (showProgram settings prepared).Within [.print] := by
  rcases prepared with code | prepared
  · trivial
  · exact every_bind every_pure fun lines => every_bind (within_echoAll lines) fun _ => trivial

/-- Without debug lines, nothing is said about the cache. -/
theorem openCache_of_not_debug {logger : Logger} (h : logger.debug = false) (root : Path) :
    openCache root logger = Cache.ensure root := by
  have hnote : ∀ message, logger.note message = pure () := fun message => by simp [Logger.note, h]
  simp only [openCache, hnote]
  exact bind_pure _

/-- Without debug lines, `expand` prepares the program and prints it. -/
theorem expandLoaded_eq {logger : Logger} (h : logger.debug = false) (root : Path)
    (loaded : Path × Settings) : expandLoaded root logger (.ok loaded)
      = reportingTo (pure logger) (fun _ => loaded.2.raiseErrors) (preparing root .linux loaded)
          >>= showProgram loaded.2 := by
  rw [expandLoaded, openCache_of_not_debug h]
  rfl

end CommandLine

end Oneshot
