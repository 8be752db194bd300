import Oneshot.Proofs.Pipeline.Outcomes
import Oneshot.Proofs.Settings.Passing

/-!
# How an Artifact Is Started

An artifact is the only child that is started with the streams of the runner, and a pipeline starts
one at most: the executable that belongs to its script, with exactly the arguments of the run. The
environment of the artifact is that of the runner, except for the variable that holds the search
path of the loader.

* `Settings.exists_scratchDir`: the scratch directory is a path that has been read.
* `Toolchain.get?_artifactVariables`: the environment of an artifact.
* `Toolchain.starts_testArtifact`, `Toolchain.starts_launchArtifact`: the command that starts an
  artifact.
* `Pipeline.starts_run`: what a whole pipeline starts.
-/

namespace Oneshot

open Action (runs_bind runs_bind_ok runs_ask_bind)

/-! ### What is started in a trace -/

/-- The command of an exchange that starts a child with the streams of the runner. -/
def Exchange.start? : Exchange → Option Launch
  | ⟨.launch command, _⟩ => if command.captured then none else some command
  | _ => none

namespace Trace

/-- The commands that are started with the streams of the runner, in order. -/
def starts (t : Trace) : List Launch :=
  t.filterMap Exchange.start?

@[simp] theorem starts_nil : starts [] = [] := rfl

@[simp] theorem starts_append (t t' : Trace) : starts (t ++ t') = starts t ++ starts t' :=
  List.filterMap_append

/-- Where nothing is started, no artifact comes to an end. -/
theorem artifactStatuses_of_starts {t : Trace} (h : t.starts = []) : t.artifactStatuses = [] := by
  refine List.filterMap_eq_nil_iff.2 fun e he => ?_
  have hstart := List.filterMap_eq_nil_iff.1 h e he
  obtain ⟨request, reply⟩ := e
  cases request with
  | launch command =>
    have hcaptured : command.captured = true := by
      by_contra hnot
      simp [Exchange.start?, hnot] at hstart
    cases reply with
    | error refusal => rfl
    | ok finished => simp [Exchange.artifactStatus?, hcaptured]
  | _ => rfl

end Trace

/-- A routine that does not have it among its topics starts nothing. -/
theorem Routine.Runs.starts_eq_nil {α : Type} {r : Routine α} {t : Trace} {x : α}
    {topics : List Topic} (h : r.Runs t x) (hr : r.Within topics) (hnot : .start ∉ topics) :
    t.starts = [] := by
  refine Trace.filterMap_eq_nil_of_topic (h.topic_mem hr) hnot fun e htopic => ?_
  obtain ⟨request, reply⟩ := e
  cases request with
  | launch command =>
    rw [Exchange.start?]
    split
    · rfl
    · next hcaptured => exact absurd (by simp [hcaptured]) htopic
  | _ => rfl

/-- An action that starts nothing, in front of another one. -/
theorem runs_unstarting_bind {α β : Type} {a : Action α} {f : α → Action β} {t : Trace}
    {y : Except Failure β} {topics : List Topic} (ha : a.Within topics) (hnot : .start ∉ topics)
    (h : (a >>= f).run.Runs t y) :
    (∃ t₁ t₂ x, t = t₁ ++ t₂ ∧ t₁.starts = [] ∧ a.run.Runs t₁ (.ok x) ∧ (f x).run.Runs t₂ y) ∨
      t.starts = [] := by
  obtain ⟨t₁, t₂, x, rfl, hx, hy⟩ | ⟨failure, hx, rfl⟩ := runs_bind.1 h
  · exact .inl ⟨t₁, t₂, x, rfl, hx.starts_eq_nil ha hnot, hx, hy⟩
  · exact .inr (hx.starts_eq_nil ha hnot)

/-! ### Paths from the root -/

namespace Path

/-- The path begins at a root. -/
def Rooted (p : Path) : Prop :=
  p.anchor.head? = some '/'

theorem Rooted.isAbsolute {p : Path} (h : p.Rooted) : p.isAbsolute = true := by
  rw [Rooted] at h
  rw [Path.isAbsolute]
  cases hanchor : p.anchor with
  | nil => simp [hanchor] at h
  | cons c rest => rfl

/-- A path that has been read begins at a root if it is absolute. -/
theorem rooted_ofText {s : Text} (h : (ofText s).isAbsolute = true) : (ofText s).Rooted := by
  simp only [isAbsolute, ofText, anchorOf] at h
  simp only [Rooted, ofText, anchorOf]
  split_ifs at h ⊢ <;> simp_all

theorem rooted_ofText_slash (s : Text) : (ofText ('/' :: s)).Rooted := by
  simp only [Rooted, ofText, anchorOf, List.takeWhile_cons, beq_self_eq_true, if_true,
    List.length_cons, Nat.add_one_ne_zero, if_false]
  split <;> rfl

/-- The text of a path that begins at a root is read as such a path. -/
theorem Rooted.ofText_text {p : Path} (h : p.Rooted) : (ofText p.text).Rooted := by
  rw [Rooted] at h
  cases hanchor : p.anchor with
  | nil => simp [hanchor] at h
  | cons c rest =>
    obtain rfl : c = '/' := by simpa [hanchor] using h
    have htext : p.text = '/' :: (rest ++ Text.join ['/'] p.parts) := by simp [text, hanchor]
    rw [htext]
    exact rooted_ofText_slash _

theorem Rooted.join {p : Path} (h : p.Rooted) {s : Text} : (p.join (ofText s)).Rooted := by
  rw [Path.join]
  split
  · next habsolute => exact rooted_ofText habsolute
  · exact h

end Path

/-- The executable of a script begins at a root if the working directory does. -/
theorem Scratch.rooted_executable {script workDir : Path} {toolchain : ToolchainSettings}
    {platform : Platform} {artifact : Artifact} {s : Text}
    (h : paths? script workDir toolchain platform = some artifact) (hworkDir : workDir.Rooted)
    (hscratch : toolchain.scratchDir = Path.ofText s) : artifact.executable.Rooted := by
  obtain ⟨place, hplace, rfl⟩ := Option.map_eq_some_iff.1 h
  have hanchor : place.anchor = [] := by
    rw [place?] at hplace
    split at hplace
    · simp at hplace
    · rw [← Option.some.inj hplace]
  have hjoined : (workDir.join toolchain.scratchDir).Rooted := hscratch ▸ hworkDir.join
  have hrelative : place.isAbsolute = false := by simp [Path.isAbsolute, hanchor]
  simp only [Path.Rooted, Path.withExtension, Path.join, hrelative] at hjoined ⊢
  exact hjoined

/-! ### The scratch directory of the settings -/

namespace Settings

/-- The scratch directory of loaded settings is a path that has been read. -/
theorem exists_scratchDir {cacheRoot : Option Path} {vars : Variables} {t : Trace}
    {settings : Settings} (h : (load cacheRoot vars).run.Runs t (.ok settings)) :
    ∃ s, settings.toolchain.scratchDir = Path.ofText s := by
  obtain ⟨file, -, hpassed⟩ := runs_load_iff.1 h
  exact (sound_of_ofEntries hpassed).toolchain

end Settings

/-! ### The command -/

namespace Toolchain

variable {t : Trace} {cache : Cache} {settings : Settings} {platform : Platform}

/-- The entries that the search path of the loader keeps at its end: those of the search path for
programs, where the loader uses that one. -/
def keptEntries (platform : Platform) (vars : Variables) : Text :=
  if platform.libraryVariable = "PATH".toList then
    match vars.get? "PATH" with
    | none | some [] => []
    | some entries => platform.pathSeparator :: entries
  else []

/-- What the variable of the loader holds for an artifact: the directory of the runtime libraries
and the directory of the cached libraries, in front of the entries that are kept. -/
def loaderPath (runtime : Path) (cache : Cache) (platform : Platform) (vars : Variables) : Text :=
  runtime.text ++ platform.pathSeparator :: cache.artifactsDir.text ++ keptEntries platform vars

/-- **The environment of an artifact** is that of the runner, except for the variable of the
loader. -/
theorem get?_artifactVariables (runtime : Path) (vars : Variables) (name : Text) :
    (runVariables (librarySearchPath runtime cache platform) platform vars).get? name
      = if name = platform.libraryVariable then some (loaderPath runtime cache platform vars)
        else vars.get? name := by
  have hvalue : searchPathValue (librarySearchPath runtime cache platform) platform vars
      = loaderPath runtime cache platform vars := by
    rw [searchPathValue, loaderPath, keptEntries]
    split
    · generalize vars.get? "PATH".toList = entries
      rcases entries with _ | _ | ⟨c, rest⟩ <;> simp [librarySearchPath, Text.join]
    · simp [librarySearchPath, Text.join]
  rw [get?_runVariables, hvalue]
  simp only [eq_comm]

/-- Along the trace, the command starts an executable with the given arguments, in the environment
of the runner except for the variable of the loader. An executable whose path begins at a root is
named by that path. -/
structure Starts (cache : Cache) (compiler : Text) (platform : Platform) (executable : Path)
    (arguments : List Text) (t : Trace) (command : Launch) : Prop where
  arguments_eq : ∃ program, command.arguments = program :: arguments
  absolute : executable.Rooted → (Path.ofText executable.text).isAbsolute = true ∧
    command.arguments = (Path.ofText executable.text).text :: arguments
  vars_eq : ∃ part runtime env vars, part <:+: t ∧
    (runtimeDir compiler platform).run.Runs part (.ok runtime) ∧ ⟨.environment, env⟩ ∈ t ∧
    command.vars = some vars ∧ ∀ name, vars.get? name
      = if name = platform.libraryVariable then some (loaderPath runtime cache platform env)
        else env.get? name

theorem Starts.of_infix {compiler : Text} {executable : Path} {arguments : List Text}
    {command : Launch} {t' : Trace}
    (h : Starts cache compiler platform executable arguments t command) (ht : t <:+: t') :
    Starts cache compiler platform executable arguments t' command where
  arguments_eq := h.arguments_eq
  absolute := h.absolute
  vars_eq := by
    obtain ⟨part, runtime, env, vars, hpart, hruntime, henv, hvars⟩ := h.vars_eq
    exact ⟨part, runtime, env, vars, hpart.trans ht, hruntime, ht.subset henv, hvars⟩

/-- Along the trace, nothing is started, or one command is, which starts the executable. -/
def StartsOnly (cache : Cache) (compiler : Text) (platform : Platform) (executable : Path)
    (arguments : List Text) (t : Trace) : Prop :=
  t.starts = [] ∨ ∃ command, t.starts = [command] ∧
    Starts cache compiler platform executable arguments t command

section

variable {compiler : Text} {executable : Path} {arguments : List Text}

theorem StartsOnly.append_left {before : Trace}
    (h : StartsOnly cache compiler platform executable arguments t) (hbefore : before.starts = []) :
    StartsOnly cache compiler platform executable arguments (before ++ t) := by
  rw [StartsOnly, Trace.starts_append, hbefore, List.nil_append]
  obtain hnone | ⟨command, hcommand, hstarts⟩ := h
  · exact .inl hnone
  · exact .inr ⟨command, hcommand, hstarts.of_infix (List.suffix_append before t).isInfix⟩

theorem StartsOnly.append_right {after : Trace}
    (h : StartsOnly cache compiler platform executable arguments t) (hafter : after.starts = []) :
    StartsOnly cache compiler platform executable arguments (t ++ after) := by
  rw [StartsOnly, Trace.starts_append, hafter, List.append_nil]
  obtain hnone | ⟨command, hcommand, hstarts⟩ := h
  · exact .inl hnone
  · exact .inr ⟨command, hcommand, hstarts.of_infix (List.prefix_append t after).isInfix⟩

end

/-- What is launched is one command. -/
theorem starts_launch {command : List Text} {vars : Option Variables}
    {x : Except Failure (Except LaunchFault Command.Completed)}
    (h : (Command.launch command vars false).run.Runs t x) :
    t.starts = [⟨command, vars, false⟩] := by
  rw [Command.launch] at h
  obtain ⟨reply, rest, rfl, hrest⟩ := runs_ask_bind.1 h
  have hnil : rest = [] := by
    rcases reply with (e | _ | _) | finished
    · exact hrest.1
    · exact hrest.1
    · exact hrest.1
    · exact hrest.1
  subst hnil
  rfl

/-- A command is launched with its arguments. A program that is an absolute path is launched as it
is, and any other one as it is found. -/
theorem starts_run {program : Text} {arguments : List Text} {vars : Option Variables}
    {x : Except Failure (Except LaunchFault Command.Completed)}
    (h : (Command.run (program :: arguments) vars false).run.Runs t x) :
    t.starts = [] ∨ ∃ place, t.starts = [⟨place :: arguments, vars, false⟩] ∧
      ((Path.ofText program).isAbsolute = true → place = (Path.ofText program).text) := by
  rw [Command.run] at h
  split at h
  · exact .inr ⟨_, starts_launch h, fun _ => rfl⟩
  next hrelative =>
  obtain ⟨t₁, t₂, found, rfl, hnone, -, hlaunch⟩ | hnone :=
    runs_unstarting_bind (Action.every_lift (Command.within_lookUp program)) (by decide) h
  swap
  · exact .inl hnone
  rw [Trace.starts_append, hnone, List.nil_append]
  cases found with
  | none => exact .inl (by rw [(Action.runs_pure.1 hlaunch).1]; rfl)
  | some place => exact .inr ⟨place, starts_launch hlaunch, fun h => absurd h hrelative⟩

/-- An executable is looked at, and started if it is a file. -/
theorem starts_testArtifact {executable : Path} {command : List Text} {arguments : List Text}
    {vars : Variables} {x : Except Failure Int}
    (h : (do
      if !(← Action.orEscape (Files.isFile executable)) then
        Action.fail (.artifactMissing executable command)
      match ← Command.run (executable.text :: arguments) (some vars) false with
      | .error fault => Action.fail (.artifactNotLaunched executable command fault)
      | .ok done => return exitCodeOf done.status : Action Int).run.Runs t x) :
    t.starts = [] ∨ ∃ place, t.starts = [⟨place :: arguments, some vars, false⟩] ∧
      ((Path.ofText executable.text).isAbsolute = true →
        place = (Path.ofText executable.text).text) := by
  obtain ⟨t₁, t₂, found, rfl, hnone, -, hstart⟩ | hnone :=
    runs_unstarting_bind (Action.every_orEscape (Files.within_hasKind .file executable))
      (by decide) h
  swap
  · exact .inl hnone
  rw [Trace.starts_append, hnone, List.nil_append]
  cases found with
  | false =>
    obtain ⟨rfl, -⟩ := Action.runs_fail_bind.1 hstart
    exact .inl rfl
  | true =>
    obtain ⟨t₃, t₄, launched, rfl, hrun, hend⟩ | ⟨failure, hrun, rfl⟩ := runs_bind.1 hstart
    · have hnil : t₄ = [] := by
        rcases launched with fault | done
        · exact (Action.runs_fail.1 hend).1
        · exact (Action.runs_pure.1 hend).1
      rw [hnil, List.append_nil]
      exact starts_run hrun
    · exact starts_run hrun

/-- **The command that starts an artifact**, if one is started. -/
theorem starts_launchArtifact {executable : Path} {arguments : List Text} {x : Except Failure Int}
    (h : (launchArtifact cache settings platform none executable arguments).run.Runs t x) :
    StartsOnly cache settings.toolchain.compiler platform executable arguments t := by
  obtain ⟨t₁, t₂, runtime, rfl, hstarts₁, hruntime, hvars⟩ | hnone :=
    runs_unstarting_bind (within_runtimeDir ..) (by decide) h
  swap
  · exact .inl hnone
  obtain ⟨env, t₃, rfl, hlocate⟩ := runs_ask_bind.1 hvars
  obtain ⟨t₄, t₅, located, rfl, hstarts₄, hlocated, htest⟩ | hnone :=
    runs_unstarting_bind (within_absolutePath executable) (by decide) hlocate
  swap
  · exact .inl (by rw [Trace.starts_append, hstarts₁]; exact hnone)
  have hsplit : Trace.starts (t₁ ++ ⟨.environment, env⟩ :: (t₄ ++ t₅)) = Trace.starts t₅ := by
    rw [Trace.starts_append, hstarts₁, List.nil_append]
    exact (Trace.starts_append t₄ t₅).trans (by rw [hstarts₄, List.nil_append])
  rw [StartsOnly, hsplit]
  refine (starts_testArtifact htest).imp id ?_
  rintro ⟨place, hstarts, hplace⟩
  refine ⟨_, hstarts, ⟨place, rfl⟩, fun hrooted => ?_, t₁, runtime, env, _,
    (List.prefix_append _ _).isInfix, hruntime, by simp, rfl, get?_artifactVariables runtime env⟩
  -- a path from the root is not looked up
  rw [absolutePath, if_pos hrooted.isAbsolute] at hlocated
  obtain rfl : located = executable := (Action.runs_pure_ok.1 hlocated).2
  have habsolute := hrooted.ofText_text.isAbsolute
  exact ⟨habsolute, by rw [hplace habsolute]⟩

/-- A program that has been built is the one of its script. -/
theorem paths_of_runs_buildProgram {workDir : Path} {crates : List Text} {program : Text}
    {script : Path} {artifact : Artifact}
    (h : (buildProgram cache settings platform workDir crates program script).run.Runs t
      (.ok artifact)) :
    Scratch.paths? script workDir settings.toolchain platform = some artifact := by
  obtain ⟨t₁, t₂, planned, rfl, hplanned, hrest⟩ := runs_bind_ok.1 h
  obtain ⟨t₃, t₄, _, rfl, -, hrest⟩ := runs_bind_ok.1 hrest
  obtain ⟨t₅, t₆, command, rfl, hcommand, hcompile⟩ := runs_bind_ok.1 hrest
  obtain ⟨inColor, hcommand⟩ := runs_plannedCommand hcommand
  obtain rfl := Except.ok.inj hcommand
  have hsame : artifact = planned := (runs_compile (p := ⟨cache, settings.toolchain, platform,
    inColor, crates, planned, planned.executable, []⟩) hcompile).1
  rw [hsame]
  exact (paths_of_runs_artifactFor hplanned).2

end Toolchain

namespace Pipeline

variable {p : Pipeline} {t : Trace}

/-- A program that has been built is the one of its script, below the base of the pipeline. -/
theorem paths_of_runs_build {prepared : Prepared} {artifact : Artifact}
    (h : (p.build prepared).run.Runs t (.ok (.ok artifact))) :
    ∃ part workDir, part <:+: t ∧ p.base.run.Runs part (.ok workDir) ∧
      Scratch.paths? prepared.script workDir p.settings.toolchain p.platform = some artifact := by
  rw [build_eq] at h
  obtain ⟨t₁, t₂, workDir, rfl, hbase, hat⟩ := runs_bind_ok.1 h
  refine ⟨t₁, workDir, (List.prefix_append t₁ t₂).isInfix, hbase, ?_⟩
  rw [buildAt] at hat
  obtain ⟨-, t₃, planned, -, -, hat⟩ := runs_bind_ok.1 hat
  obtain ⟨-, t₄, command, -, -, hat⟩ := runs_bind_ok.1 hat
  obtain ⟨-, t₅, _, -, -, hat⟩ := runs_bind_ok.1 hat
  obtain ⟨-, t₆, _, -, -, hat⟩ := runs_bind_ok.1 hat
  obtain ⟨-, t₇, _, -, -, hat⟩ := runs_bind_ok.1 hat
  obtain ⟨y, hy, hattempted⟩ := runs_orOutcome hat
  cases hattempted with
  | value => exact Toolchain.paths_of_runs_buildProgram hy

/-- A script keeps its path when it is prepared. -/
theorem script_of_runs_prepare {script : Path} {prepared : Prepared}
    (h : (p.prepare script).run.Runs t (.ok prepared)) : prepared.script = script := by
  rw [prepare] at h
  split at h
  · simp at h
  obtain ⟨-, t₂, text, -, -, h⟩ := runs_bind_ok.1 h
  split at h
  · simp at h
  obtain ⟨-, t₃, _, -, -, h⟩ := runs_bind_ok.1 h
  obtain ⟨-, rfl⟩ := Action.runs_pure_ok.1 h
  rfl

variable {topics : List Topic} {arguments : List Text}

/-- An event is reported without a start, and then comes what follows. -/
theorem starts_report (hreport : ∀ event, (p.report event).Within topics) (hnot : .start ∉ topics)
    {event : Event} {outcome : Outcome} {x : Except Failure Outcome}
    (h : (do p.report event; return outcome : Action Outcome).run.Runs t x) : t.starts = [] := by
  obtain ⟨t₁, t₂, _, rfl, hstarts, -, hend⟩ | hnone := runs_unstarting_bind (hreport _) hnot h
  · obtain ⟨rfl, -⟩ := Action.runs_pure.1 hend
    rwa [List.append_nil]
  · exact hnone

theorem starts_execute (hreport : ∀ event, (p.report event).Within topics)
    (hnot : .start ∉ topics) {artifact : Artifact} {x : Except Failure Outcome}
    (h : (p.execute artifact arguments).run.Runs t x) :
    Toolchain.StartsOnly p.cache p.settings.toolchain.compiler p.platform artifact.executable
      arguments t := by
  rw [execute] at h
  obtain ⟨t₁, t₂, _, rfl, hstarts, -, hlaunch⟩ | hnone := runs_unstarting_bind (hreport _) hnot h
  swap
  · exact .inl hnone
  refine .append_left ?_ hstarts
  obtain ⟨t₃, t₄, result, rfl, hattempt, hend⟩ | ⟨failure, hattempt, rfl⟩ := runs_bind.1 hlaunch
  all_goals
    obtain ⟨y, hy, -⟩ := runs_orOutcome hattempt
    have hstarts := Toolchain.starts_launchArtifact hy
  · have hnil : t₄ = [] := by
      cases result with
      | ok code => exact (Action.runs_pure.1 hend).1
      | error outcome => exact (Action.runs_pure.1 hend).1
    rwa [hnil, List.append_nil]
  · exact hstarts

/-- **What a pipeline starts**: nothing, or the executable of its script, whose place is below the
base of the pipeline. -/
theorem starts_run (hreport : ∀ event, (p.report event).Within topics)
    (hsub : [.look, .arrange, .write, .find, .surroundings, .collect] ⊆ topics)
    (hnot : .start ∉ topics) {script : Path} {x : Except Failure Outcome}
    (h : (p.run script arguments).run.Runs t x) :
    t.starts = [] ∨ ∃ part workDir artifact, part <:+: t ∧ p.base.run.Runs part (.ok workDir) ∧
      Scratch.paths? script workDir p.settings.toolchain p.platform = some artifact ∧
      Toolchain.StartsOnly p.cache p.settings.toolchain.compiler p.platform artifact.executable
        arguments t := by
  rw [Pipeline.run] at h
  obtain ⟨t₁, t₂, prepared, rfl, hstarts₁, hprepared, hbuilding⟩ | hnone :=
    runs_unstarting_bind (within_prepare hreport (hsub (by decide)) script) hnot h
  swap
  · exact .inl hnone
  obtain rfl := script_of_runs_prepare hprepared
  obtain ⟨t₃, t₄, built, rfl, hstarts₃, hbuild, hrest⟩ | hnone :=
    runs_unstarting_bind (within_build hreport hsub prepared) hnot hbuilding
  swap
  · exact .inl (by rw [Trace.starts_append, hstarts₁, hnone]; rfl)
  cases built with
  | error outcome =>
    refine .inl ?_
    rw [Trace.starts_append, Trace.starts_append, hstarts₁, hstarts₃,
      starts_report hreport hnot hrest]
    rfl
  | ok artifact =>
    obtain ⟨part, workDir, hpart, hworkDir, hpaths⟩ := paths_of_runs_build hbuild
    have hwhole : part <:+: t₁ ++ (t₃ ++ t₄) := hpart.trans ⟨t₁, t₄, by simp⟩
    have hlast : Toolchain.StartsOnly p.cache p.settings.toolchain.compiler p.platform
        artifact.executable arguments t₄ := by
      obtain ⟨t₅, t₆, outcome, rfl, hexecute, hend⟩ | ⟨failure, hexecute, rfl⟩ := runs_bind.1 hrest
      · exact (starts_execute hreport hnot hexecute).append_right
          (starts_report hreport hnot hend)
      · exact starts_execute hreport hnot hexecute
    exact .inr ⟨part, workDir, artifact, hwhole, hworkDir, hpaths,
      (hlast.append_left hstarts₃).append_left hstarts₁⟩

end Pipeline

end Oneshot
