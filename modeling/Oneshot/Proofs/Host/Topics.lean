import Mathlib.Data.List.Basic
import Oneshot.CommandLine.Commands
import Oneshot.Proofs.Host.Trace

/-!
# What Is Asked About

Each part of the runner talks to the host about a few things only: the cache is looked at and
arranged, a text is printed, a compiler is looked for and launched. `Request.topic` sorts the
requests by what they are about, and for each part there is one lemma that lists its topics
(`within_*`). What a part leaves alone is then read off its list.

* `Routine.Within`: all requests of a routine are about the listed topics.
* `Cache.within_ensure`, `Settings.within_load`, `Pipeline.within_prepare`: the stages in front of
  the compiler look and arrange.
* `Pipeline.build_eq_planning`: the two halves of building, what comes before the compiler and the
  compiler.
* `Toolchain.within_buildProgram`, `Toolchain.within_launchArtifact`: the stages of the compiler and
  of the artifact.
* `CommandLine.within_reportingTo`: errors that are shown add what is printed.
-/

namespace Oneshot

/-- What a request is about. -/
inductive Topic where
  /-- What stands at a path, or what a file holds. -/
  | look
  /-- Where an executable stands. -/
  | find
  /-- Directories, and files that are new. -/
  | arrange
  /-- A file in place of what it held. -/
  | write
  /-- A child whose output is collected. -/
  | collect
  /-- A child with the streams of the runner. -/
  | start
  /-- What surrounds the process: its directory, its environment, its account, its terminal, and the
  words of the validator. -/
  | surroundings
  /-- What is printed, and whether standard output is a terminal. -/
  | print
  | announce
deriving DecidableEq, Repr

/-- The topic of a request. -/
@[simp] def Request.topic : Request → Topic
  | .kind _ | .read _ | .isReadable _ => .look
  | .isExecutable _ => .find
  | .makeDir _ | .makeStaging .. | .create .. | .rename .. | .discard _ => .arrange
  | .write .. => .write
  | .launch command => if command.captured then .collect else .start
  | .workDir | .environment | .accountHome _ | .isTerminal .errors | .validatorText _ =>
    .surroundings
  | .isTerminal .output | .print .. => .print
  | .announce .. => .announce

/-- Every request that the routine can make is about one of the topics. -/
abbrev Routine.Within {α : Type} (topics : List Topic) (r : Routine α) : Prop :=
  r.Every fun request => request.topic ∈ topics

/-- Every request that the action can make is about one of the topics. -/
abbrev Action.Within {α : Type} (topics : List Topic) (a : Action α) : Prop :=
  a.run.Every fun request => request.topic ∈ topics

/-- What holds of all requests of a routine implies what follows from it. -/
theorem Routine.Every.imp {α : Type} {r : Routine α} {P Q : Request → Prop} (h : r.Every P)
    (himp : ∀ request, P request → Q request) : r.Every Q := by
  induction r with
  | done x => trivial
  | ask request next ih => exact ⟨himp request h.1, fun reply => ih reply (h.2 reply)⟩

/-- A routine keeps to longer lists too. -/
theorem Routine.Within.mono {α : Type} {r : Routine α} {topics more : List Topic}
    (h : r.Within topics) (hsub : topics ⊆ more) : r.Within more :=
  h.imp fun _ hmem => hsub hmem

theorem Action.Within.mono {α : Type} {a : Action α} {topics more : List Topic}
    (h : a.Within topics) (hsub : topics ⊆ more) : a.Within more :=
  Routine.Within.mono h hsub

/-- What has been asked is among what can be asked. -/
theorem Routine.Runs.topic_mem {α : Type} {r : Routine α} {t : Trace} {x : α} {topics : List Topic}
    (h : r.Runs t x) (hr : r.Within topics) : ∀ e ∈ t, e.request.topic ∈ topics :=
  h.every hr

/-- A trace of requests about some topics holds nothing of what only another topic has. -/
theorem Trace.filterMap_eq_nil_of_topic {β : Type} {t : Trace} {topics : List Topic}
    (h : ∀ e ∈ t, e.request.topic ∈ topics) {topic : Topic} (hnot : topic ∉ topics)
    {f : Exchange → Option β} (hf : ∀ e, e.request.topic ≠ topic → f e = none) :
    t.filterMap f = [] :=
  List.filterMap_eq_nil_iff.2 fun e he => hf e fun htopic => hnot (htopic ▸ h e he)

open Action (every_bind every_lift every_ask every_tryCatch every_reporting every_orEscape)

variable {topics : List Topic}

/-! ### Files -/

namespace Files

theorem within_hasKind (wanted : FileKind) (path : Path) :
    (hasKind wanted path).Within [.look] := by
  refine Routine.every_bind (Routine.every_request (by simp)) fun reply => ?_
  rcases reply with (e | _ | _) | kind <;> trivial

theorem within_makeDirHere (path : Path) : (makeDirHere path).Within [.look, .arrange] := by
  refine Routine.every_bind (Routine.every_request (by simp)) fun reply => ?_
  rcases reply with (e | _ | _) | _
  · simp only
    split
    · trivial
    · refine Routine.every_bind ((within_hasKind .directory path).mono (by decide)) fun found => ?_
      rcases found with e | _ | _ <;> trivial
  all_goals trivial

theorem within_makeDirsWithin (fuel : Nat) (path : Path) :
    (makeDirsWithin fuel path).Within [.look, .arrange] := by
  induction fuel generalizing path with
  | zero => exact within_makeDirHere path
  | succ fuel ih =>
    refine Routine.every_bind (within_makeDirHere path) fun made => ?_
    rcases made with (e | _ | _) | _
    · simp only
      split
      · refine Routine.every_bind (ih path.parent) fun made => ?_
        rcases made with _ | _
        · trivial
        · exact within_makeDirHere path
      · trivial
    all_goals trivial

theorem within_makeDirs (path : Path) : (makeDirs path).Within [.look, .arrange] :=
  within_makeDirsWithin path.parts.length path

theorem within_readText (path : Path) (wrap : ReadFault → RunError) :
    (readText path wrap).Within [.look] := by
  refine every_bind (every_ask (by simp)) fun reply => ?_
  refine every_bind (every_reporting reply) fun bytes => ?_
  split <;> trivial

end Files

/-! ### Commands -/

namespace Command

theorem within_firstExecutable (places : List Text) : (firstExecutable places).Within [.find] := by
  induction places with
  | nil => trivial
  | cons place rest ih =>
    refine Routine.every_bind (Routine.every_request (by simp)) fun found => ?_
    cases found with
    | true => trivial
    | false => exact ih

theorem within_lookUp (program : Text) : (lookUp program).Within [.find, .surroundings] := by
  rw [lookUp]
  split
  · exact (within_firstExecutable _).mono (by decide)
  · refine Routine.every_bind (Routine.every_request (by simp)) fun vars => ?_
    simp only
    split
    · trivial
    · exact (within_firstExecutable _).mono (by decide)

/-- The topic of a launch. -/
def topicOf (captured : Bool) : Topic :=
  if captured then .collect else .start

theorem within_collectedText (bytes : Bytes) : (collectedText bytes).Within topics := by
  rw [collectedText]
  split <;> trivial

theorem within_launch (arguments : List Text) (vars : Option Variables) (captured : Bool) :
    (launch arguments vars captured).Within [topicOf captured] := by
  refine every_bind (every_ask (List.mem_singleton.2 rfl)) fun reply => ?_
  rcases reply with (e | _ | _) | finished
  · trivial
  · trivial
  · trivial
  · simp only
    split
    · refine every_bind (within_collectedText _) fun output => ?_
      exact every_bind (within_collectedText _) fun errors => trivial
    · trivial

theorem within_run (arguments : List Text) (vars : Option Variables) (captured : Bool) :
    (run arguments vars captured).Within [.find, .surroundings, topicOf captured] := by
  have hlaunch : ∀ place rest,
      (launch (place :: rest) vars captured).Within [.find, .surroundings, topicOf captured] :=
    fun place rest => (within_launch (place :: rest) vars captured).mono (by simp)
  cases arguments with
  | nil => trivial
  | cons program rest =>
    rw [run]
    split
    · exact hlaunch _ rest
    · refine every_bind (every_lift ((within_lookUp program).mono (by simp))) fun place => ?_
      cases place with
      | none => trivial
      | some place => exact hlaunch place rest

end Command

/-! ### What is printed -/

theorem Console.within_printMessage (window : Window) (level : Level) (withMark : Bool)
    (wantsColor : Option Bool) (message : Text) :
    (printMessage window level withMark wantsColor message).Within [.surroundings, .print] := by
  refine Routine.every_bind (Routine.every_request (by simp)) fun isTerminal => ?_
  refine Routine.every_bind (Routine.every_request (by simp)) fun vars => ?_
  split
  · exact Routine.every_request (by simp)
  · trivial

theorem Console.Window.within_opened : Console.Window.opened.Within [.surroundings] := by
  refine every_bind (every_ask (by simp)) fun vars => ?_
  split <;> trivial

namespace Logger

theorem within_opened (emoji color debug : Bool) :
    (Logger.opened emoji color debug).Within [.surroundings] :=
  every_bind Console.Window.within_opened fun _ => trivial

theorem within_note (logger : Logger) (message : Text) :
    (logger.note message).Within [.surroundings, .print] := by
  rw [Logger.note]
  split
  · refine Routine.every_bind (Routine.every_request (by simp)) fun isTerminal => ?_
    refine Routine.every_bind (Routine.every_request (by simp)) fun vars => ?_
    simp only
    split
    · exact Routine.every_request (by simp)
    · trivial
  · trivial

theorem within_report (logger : Logger) (d : Diagnostic) :
    (logger.report d).Within [.surroundings, .print] := by
  have hend : ∀ _ : Unit, (do
      logger.note
        ("failure: kind=".toList ++ d.kind.word ++ " exit=".toList ++ Text.ofInt d.exitCode)
      return d.exitCode : Routine Int).Within [.surroundings, .print] := fun _ =>
    Routine.every_bind (logger.within_note _) fun _ => trivial
  rw [Logger.report]
  split
  · exact Routine.every_bind (Routine.every_request (by simp)) hend
  · exact Routine.every_bind (Console.within_printMessage ..) hend

end Logger

/-! ### The cache -/

theorem Path.within_expandHome (p : Path) : p.expandHome.Within [.surroundings] := by
  have hrecorded : ∀ part, (recordedHome part).Within [.surroundings] := by
    intro part
    rw [recordedHome]
    split
    · refine every_bind (every_ask (by simp)) fun vars => ?_
      split
      · trivial
      · exact every_ask (by simp)
    · split
      · trivial
      · exact every_ask (by simp)
  rw [expandHome]
  split
  · split
    · refine every_bind (hrecorded _) fun home => ?_
      split
      · simp only
        split <;> split <;> trivial
      · trivial
    · trivial
  · trivial

namespace Cache

theorem within_defaultRoot (vars : Variables) : (defaultRoot vars).Within [.surroundings] := by
  have hbase : (baseDir vars).Within [.surroundings] := by
    rw [baseDir]
    split
    · exact Path.within_expandHome _
    · exact every_bind (Path.within_expandHome _) fun _ => trivial
  exact every_bind hbase fun _ => trivial

theorem within_makePart (path : Path) : (makePart path).Within [.look, .arrange] :=
  every_bind (every_lift (Files.within_makeDirs path)) fun made => every_reporting made

theorem within_publishFrom (staging root : Path) :
    (publishFrom staging root).Within [.look, .arrange] := by
  refine every_bind (every_ask (by simp)) fun created => ?_
  refine every_bind (every_reporting created) fun _ => ?_
  exact every_bind (within_makePart _) fun _ => every_ask (by simp)

theorem within_publish (root : Path) : (publish root).Within [.look, .arrange] := by
  refine every_bind (within_makePart _) fun _ => ?_
  refine every_bind (every_ask (by simp)) fun made => ?_
  refine every_bind (every_reporting made) fun staging => ?_
  refine every_bind (every_tryCatch (within_publishFrom _ root) fun failure => ?_) fun renamed => ?_
  · cases failure with
    | reported e => exact every_bind (every_ask (by simp)) fun _ => trivial
    | escaped e => trivial
  · rcases renamed with (e | _ | _) | _
    · refine every_bind (every_ask (by simp)) fun _ => ?_
      refine every_bind (every_orEscape ((Files.within_hasKind .directory root).mono (by decide)))
        fun found => ?_
      cases found <;> trivial
    all_goals trivial

theorem within_loadPrelude (path : Path) : (loadPrelude path).Within [.look] := by
  refine every_bind (Files.within_readText path _) fun text => ?_
  split <;> trivial

theorem within_complete (root : Path) : (complete root).Within [.look, .arrange] :=
  every_bind (within_makePart _) fun _ =>
    every_bind ((within_loadPrelude _).mono (by decide)) fun _ => trivial

theorem within_ensure (root : Path) : (ensure root).Within [.look, .arrange] := by
  rw [ensure_eq]
  refine every_bind (every_orEscape ((Files.within_hasKind .directory root).mono (by decide)))
    fun found => ?_
  cases found with
  | true => exact within_complete root
  | false => exact every_bind (within_publish root) fun _ => within_complete root

end Cache

/-! ### Settings -/

namespace Settings

/-- The settings of a file under the environment, once they are checked. -/
def checked (vars : Variables) (file : Entries) : Action Settings :=
  match ofEntries ((Entries.merge [] file).merge (environmentLayer vars)) with
  | .passed settings => pure settings
  | .failed faults => do
    Action.fail (.invalidSettings faults (← Action.ask (.validatorText faults)))

theorem load_none (vars : Variables) : load none vars = checked vars [] :=
  rfl

theorem load_some (root : Path) (vars : Variables) :
    load (some root) vars = fileLayer (root.child fileName) >>= checked vars :=
  rfl

theorem within_load (cacheRoot : Option Path) (vars : Variables) :
    (load cacheRoot vars).Within [.look, .surroundings] := by
  have hfile : ∀ file, (fileLayer file).Within [.look, .surroundings] := by
    intro file
    refine every_bind (every_orEscape ((Files.within_hasKind .file file).mono (by simp)))
      fun found => ?_
    split
    · refine every_bind (every_ask (by simp)) fun reply => ?_
      refine every_bind (every_reporting reply) fun bytes => ?_
      split
      · trivial
      · split <;> trivial
    · trivial
  have hchecked : ∀ file, (checked vars file).Within [.look, .surroundings] := by
    intro file
    unfold checked
    split
    · trivial
    · exact every_bind (every_ask (by simp)) fun _ => trivial
  cases cacheRoot with
  | none =>
    rw [load_none]
    exact hchecked []
  | some root =>
    rw [load_some]
    exact every_bind (hfile _) hchecked

end Settings

/-! ### The compiler and the artifact -/

namespace Toolchain

theorem within_workDir : workDir.Within [.surroundings] := by
  refine every_bind (every_ask (by simp)) fun reply => ?_
  rcases reply with (e | _ | _) | _ <;> trivial

theorem within_absolutePath (path : Path) : (absolutePath path).Within [.surroundings] := by
  rw [absolutePath]
  split
  · trivial
  · exact every_bind within_workDir fun _ => trivial

theorem within_artifactFor (script workDir : Path) (settings : Settings) (platform : Platform) :
    (artifactFor script workDir settings platform).Within [] := by
  rw [artifactFor]
  split <;> trivial

theorem within_plannedCommand (cache : Cache) (settings : Settings) (platform : Platform)
    (crates : List Text) (artifact : Artifact) :
    (plannedCommand cache settings platform crates artifact).Within [.surroundings] := by
  have hcolor : ∀ choice, (wantsColor choice).Within [.surroundings] := by
    intro choice
    cases choice with
    | auto => exact every_ask (by simp)
    | always => trivial
    | never => trivial
  exact every_bind (hcolor _) fun _ => trivial

theorem within_writeSource (source : Path) (program : Text) :
    (writeSource source program).Within [.look, .arrange, .write] := by
  refine every_bind (every_lift ((Files.within_makeDirs _).mono (by decide))) fun made => ?_
  refine every_bind (every_reporting made) fun _ => ?_
  exact every_bind (every_ask (by simp)) fun written => every_reporting written

theorem within_compile (command : List Text) (artifact : Artifact) :
    (compile command artifact).Within [.find, .surroundings, .collect] := by
  refine every_bind (Command.within_run command none true) fun launched => ?_
  rcases launched with (_ | e) | done
  · trivial
  · simp only
    split <;> trivial
  · simp only
    split <;> trivial

theorem within_buildProgram (cache : Cache) (settings : Settings) (platform : Platform)
    (workDir : Path) (crates : List Text) (program : Text) (script : Path) :
    (buildProgram cache settings platform workDir crates program script).Within
      [.look, .arrange, .write, .find, .surroundings, .collect] := by
  refine every_bind ((within_artifactFor ..).mono (by decide)) fun artifact => ?_
  refine every_bind ((within_writeSource ..).mono (by decide)) fun _ => ?_
  refine every_bind ((within_plannedCommand ..).mono (by decide)) fun command => ?_
  exact (within_compile command artifact).mono (by decide)

theorem within_runtimeDir (compiler : Text) (platform : Platform) :
    (runtimeDir compiler platform).Within [.find, .surroundings, .collect] := by
  have hprinted : ∀ item,
      (printedPath compiler item).Within [.find, .surroundings, .collect] := by
    intro item
    refine every_bind (Command.within_run _ none true) fun launched => ?_
    rcases launched with fault | done
    · trivial
    · simp only
      split <;> trivial
  rw [runtimeDir]
  split
  · exact hprinted _
  · exact every_bind (hprinted _) fun _ => trivial

theorem within_launchArtifact (cache : Cache) (settings : Settings) (platform : Platform)
    (executable : Path) (arguments : List Text) :
    (launchArtifact cache settings platform none executable arguments).Within
      [.look, .find, .surroundings, .collect, .start] := by
  refine every_bind ((within_runtimeDir ..).mono (by decide)) fun runtime => ?_
  refine every_bind (every_ask (by simp)) fun vars => ?_
  refine every_bind ((within_absolutePath executable).mono (by decide)) fun place => ?_
  refine every_bind (every_orEscape ((Files.within_hasKind .file place).mono (by decide)))
    fun found => ?_
  cases found with
  | false => trivial
  | true =>
    refine every_bind ((Command.within_run _ _ false).mono (by decide)) fun launched => ?_
    rcases launched with fault | done <;> trivial

end Toolchain

/-! ### The pipeline -/

namespace Pipeline

variable {p : Pipeline}

theorem within_prepare (hreport : ∀ event, (p.report event).Within topics)
    (hlook : .look ∈ topics) (script : Path) : (p.prepare script).Within topics := by
  rw [prepare]
  split
  · trivial
  · refine every_bind ((Files.within_readText script _).mono (by simpa using hlook)) fun text => ?_
    split
    · trivial
    · exact every_bind (hreport _) fun _ => trivial

/-- Besides what it reports, the search for missing libraries looks at files. -/
theorem every_reportMissing {P : Request → Prop} (hreport : ∀ event, (p.report event).run.Every P)
    (hlook : ∀ request : Request, request.topic ∈ [.look] → P request) (crates : List Text) :
    (p.reportMissing crates).run.Every P := by
  induction crates with
  | nil => trivial
  | cons crate rest ih =>
    refine every_bind (every_orEscape ((Files.within_hasKind .file _).imp hlook)) fun found => ?_
    cases found with
    | true => exact ih
    | false => exact every_bind (hreport _) fun _ => ih

/-- An attempt asks what its action asks. -/
theorem within_orOutcome {α : Type} {a : Action α} (h : a.Within topics) :
    (orOutcome a).Within topics := by
  refine every_tryCatch (every_bind h fun _ => trivial) fun failure => ?_
  split <;> trivial

/-- What an attempt makes of how its action has ended. -/
def attempted {α : Type} : Except Failure α → Except Failure (Except Outcome α)
  | .ok value => .ok (.ok value)
  | .error failure =>
    match outcomeOf failure with
    | some outcome => .ok (.error outcome)
    | none => .error failure

/-- An attempt runs as its action does. -/
theorem runs_orOutcome_iff {α : Type} {a : Action α} {t : Trace}
    {x : Except Failure (Except Outcome α)} :
    (orOutcome a).run.Runs t x ↔ ∃ y, a.run.Runs t y ∧ x = attempted y := by
  have hhandler : ∀ {failure : Failure} {rest : Trace},
      (match outcomeOf failure with
        | some outcome => return .error outcome
        | none => throw failure : Action (Except Outcome α)).run.Runs rest x ↔
        rest = [] ∧ x = attempted (.error failure : Except Failure α) := by
    intro failure rest
    rw [attempted]
    cases outcomeOf failure <;> rfl
  rw [orOutcome, Action.runs_attempt]
  constructor
  · rintro (⟨value, hvalue, rfl⟩ | ⟨t₁, t₂, failure, rfl, hfailure, hrest⟩)
    · exact ⟨_, hvalue, rfl⟩
    · obtain ⟨rfl, rfl⟩ := hhandler.1 hrest
      exact ⟨_, by simpa using hfailure, rfl⟩
  · rintro ⟨failure | value, hy, rfl⟩
    · exact .inr ⟨t, [], failure, by simp, hy, hhandler.2 ⟨rfl, rfl⟩⟩
    · exact .inl ⟨value, hy, rfl⟩

/-- The directory that holds the scratch directory. -/
def base (p : Pipeline) : Action Path :=
  match p.workDir with
  | some dir => pure dir
  | none => Toolchain.workDir

/-- Compiles the program of a script, with the scratch directory in the given directory. -/
def buildAt (p : Pipeline) (prepared : Prepared) (workDir : Path) :
    Action (Except Outcome Artifact) := do
  let crates := prepared.analysis.crates
  let planned ← Toolchain.artifactFor prepared.script workDir p.settings p.platform
  let command ← Toolchain.plannedCommand p.cache p.settings p.platform crates planned
  p.reportMissing (Text.firsts crates)
  p.report (.scratch planned.source)
  p.report (.compiling command)
  orOutcome (Toolchain.buildProgram p.cache p.settings p.platform workDir crates
    prepared.program.text prepared.script)

theorem build_eq (prepared : Prepared) : p.build prepared = p.base >>= p.buildAt prepared := by
  unfold build base
  cases p.workDir with
  | some dir => exact (pure_bind dir (p.buildAt prepared)).symm
  | none => rfl

theorem within_base : p.base.Within [.surroundings] := by
  unfold base
  cases p.workDir with
  | some dir => trivial
  | none => exact Toolchain.within_workDir

/-- What comes before the compiler: the value is the directory that holds the scratch directory. -/
def planning (p : Pipeline) (prepared : Prepared) : Action Path := do
  let workDir ← p.base
  let crates := prepared.analysis.crates
  let planned ← Toolchain.artifactFor prepared.script workDir p.settings p.platform
  let command ← Toolchain.plannedCommand p.cache p.settings p.platform crates planned
  p.reportMissing (Text.firsts crates)
  p.report (.scratch planned.source)
  p.report (.compiling command)
  return workDir

/-- The compiler. -/
def compiling (p : Pipeline) (prepared : Prepared) (workDir : Path) : Action Artifact :=
  Toolchain.buildProgram p.cache p.settings p.platform workDir prepared.analysis.crates
    prepared.program.text prepared.script

theorem build_eq_planning (prepared : Prepared) :
    p.build prepared
      = p.planning prepared >>= fun workDir => orOutcome (p.compiling prepared workDir) := by
  simp only [build_eq, planning, bind_assoc, pure_bind]
  rfl

/-- Besides what it reports, what comes before the compiler asks for files and surroundings. -/
theorem every_planning {P : Request → Prop} (hreport : ∀ event, (p.report event).run.Every P)
    (hasks : ∀ request : Request, request.topic ∈ [.look, .surroundings] → P request)
    (prepared : Prepared) : (p.planning prepared).run.Every P := by
  have hwithin : ∀ {α : Type} {a : Action α}, a.Within [.surroundings] → a.run.Every P :=
    fun h => (h.mono (by decide)).imp hasks
  refine every_bind (hwithin within_base) fun workDir => ?_
  refine every_bind (hwithin ((Toolchain.within_artifactFor ..).mono (by decide))) fun planned => ?_
  refine every_bind (hwithin (Toolchain.within_plannedCommand ..)) fun command => ?_
  have hlook : ∀ request : Request, request.topic ∈ [.look] → P request :=
    fun request hmem => hasks request (List.mem_cons.2 (.inl (List.mem_singleton.1 hmem)))
  refine every_bind (every_reportMissing hreport hlook _) fun _ => ?_
  exact every_bind (hreport _) fun _ => every_bind (hreport _) fun _ => trivial

theorem within_planning (hreport : ∀ event, (p.report event).Within topics)
    (hlook : .look ∈ topics) (hsurroundings : .surroundings ∈ topics) (prepared : Prepared) :
    (p.planning prepared).Within topics := by
  have hsub : ([.look, .surroundings] : List Topic) ⊆ topics := by simp [hlook, hsurroundings]
  exact every_planning hreport (fun _ hmem => hsub hmem) prepared

theorem within_build (hreport : ∀ event, (p.report event).Within topics)
    (hsub : [.look, .arrange, .write, .find, .surroundings, .collect] ⊆ topics)
    (prepared : Prepared) : (p.build prepared).Within topics := by
  have hlook : .look ∈ topics := hsub (by decide)
  have hsurroundings : .surroundings ∈ topics := hsub (by decide)
  rw [build_eq_planning]
  exact every_bind (within_planning hreport hlook hsurroundings prepared) fun workDir =>
    within_orOutcome ((Toolchain.within_buildProgram ..).mono hsub)

end Pipeline

/-! ### The command line -/

namespace CommandLine

theorem within_sayEvent (logger : Logger) (showExpanded : Bool) (event : Event) :
    (sayEvent logger showExpanded event).Within [.surroundings, .print] := by
  refine Routine.every_bind (logger.within_note _) fun _ => ?_
  split
  · exact Console.within_printMessage ..
  · split
    · exact Console.within_printMessage ..
    · trivial
  · trivial

theorem within_cacheRoot (asked : Option Path) : (cacheRoot asked).Within [.surroundings] := by
  cases asked with
  | some root => trivial
  | none => exact every_bind (every_ask (by simp)) fun vars => Cache.within_defaultRoot vars

theorem within_requireScript (script : Option Path) : (requireScript script).Within [] := by
  unfold requireScript
  split
  · trivial
  · split <;> trivial

theorem within_openCache (root : Path) (logger : Logger) :
    (openCache root logger).Within [.look, .arrange, .surroundings, .print] := by
  refine every_bind ((Cache.within_ensure root).mono (by decide)) fun cache => ?_
  exact every_bind (every_lift ((logger.within_note _).mono (by decide))) fun _ => trivial

/-- What is made of a failure whose errors are shown: it is shown with its exit status, or it is
raised. -/
def showing {α : Type} (opening : Action Logger) (raised : RunError → Bool) (failure : Failure) :
    Action (Except Int α) := do
  match failure with
  | .reported e =>
    if raised e then throw failure
    else
      let logger ← opening
      return .error (← ExceptT.lift (logger.report e.diagnostic))
  | .escaped _ => throw failure

theorem reportingTo_eq {α : Type} (opening : Action Logger) (raised : RunError → Bool)
    (action : Action α) : reportingTo opening raised action
      = tryCatch (action >>= fun x => pure (.ok x)) (showing opening raised) :=
  rfl

theorem within_showing {α : Type} {opening : Action Logger} {raised : RunError → Bool}
    (hopening : opening.Within topics) (hsurroundings : .surroundings ∈ topics)
    (hprint : .print ∈ topics) (failure : Failure) :
    (showing opening raised failure : Action (Except Int α)).Within topics := by
  cases failure with
  | escaped e => trivial
  | reported e =>
    rw [showing]
    split
    · trivial
    · refine every_bind hopening fun logger => ?_
      refine every_bind (every_lift ((logger.within_report _).mono ?_)) fun _ => trivial
      simp [hsurroundings, hprint]

/-- Errors that are shown add what is printed. -/
theorem within_reportingTo {α : Type} {opening : Action Logger} {raised : RunError → Bool}
    {action : Action α} (hopening : opening.Within topics) (haction : action.Within topics)
    (hsurroundings : .surroundings ∈ topics) (hprint : .print ∈ topics) :
    (reportingTo opening raised action).Within topics :=
  every_tryCatch (every_bind haction fun _ => trivial)
    (within_showing hopening hsurroundings hprint)

/-- What is shown has no value besides its exit status. -/
theorem ne_of_runs_showing {α : Type} {opening : Action Logger} {raised : RunError → Bool}
    {failure : Failure} {t : Trace} {value : α} :
    ¬ (showing opening raised failure).run.Runs t (.ok (.ok value)) := by
  intro h
  cases failure with
  | escaped e =>
    obtain ⟨-, hx⟩ := Action.runs_throw.1 h
    simp at hx
  | reported e =>
    rw [showing] at h
    split at h
    · simp at h
    · obtain ⟨t₁, t₂, logger, -, -, hreport⟩ := Action.runs_bind_ok.1 h
      obtain ⟨t₃, t₄, code, -, -, hend⟩ := Action.runs_lift_bind.1 hreport
      obtain ⟨-, hx⟩ := Action.runs_pure_ok.1 hend
      simp at hx

/-- An action whose errors are shown: its value, or what is made of its failure. -/
theorem runs_reportingTo_iff {α : Type} {opening : Action Logger} {raised : RunError → Bool}
    {action : Action α} {t : Trace} {x : Except Failure (Except Int α)} :
    (reportingTo opening raised action).run.Runs t x ↔
      (∃ value, action.run.Runs t (.ok value) ∧ x = .ok (.ok value)) ∨
        ∃ t₁ t₂ failure, t = t₁ ++ t₂ ∧ action.run.Runs t₁ (.error failure) ∧
          (showing opening raised failure).run.Runs t₂ x := by
  rw [reportingTo_eq]
  exact Action.runs_attempt

/-- What follows an action whose errors are shown: it gets the value, or the failure is shown
first. -/
theorem runs_reportingTo_bind {α β : Type} {opening : Action Logger} {raised : RunError → Bool}
    {action : Action α} {f : Except Int α → Action β} {t : Trace} {y : Except Failure β}
    (h : (reportingTo opening raised action >>= f).run.Runs t y) :
    (∃ t₁ t₂ value, t = t₁ ++ t₂ ∧ action.run.Runs t₁ (.ok value) ∧
        (f (.ok value)).run.Runs t₂ y) ∨
      ∃ t₁ t₂ failure, t = t₁ ++ t₂ ∧ action.run.Runs t₁ (.error failure) ∧
        (showing opening raised failure >>= f).run.Runs t₂ y := by
  obtain ⟨t₁, t₂, ended, rfl, hended, hrest⟩ | ⟨failure, hended, rfl⟩ := Action.runs_bind.1 h
  all_goals
    obtain ⟨value, hvalue, hx⟩ | ⟨t₃, t₄, failure', rfl, hfailure, hshown⟩ :=
      runs_reportingTo_iff.1 hended
  · obtain rfl := Except.ok.inj hx
    exact .inl ⟨t₁, t₂, value, rfl, hvalue, hrest⟩
  · exact .inr ⟨t₃, t₄ ++ t₂, failure', by simp, hfailure,
      Action.runs_bind.2 (.inl ⟨t₄, t₂, ended, rfl, hshown, hrest⟩)⟩
  · simp at hx
  · exact .inr ⟨t₃, t₄, failure', rfl, hfailure,
      Action.runs_bind.2 (.inr ⟨failure, hshown, rfl⟩)⟩

/-- The value of an action whose errors are shown is that of the action. -/
theorem runs_of_reportingTo {α : Type} {opening : Action Logger} {raised : RunError → Bool}
    {action : Action α} {t : Trace} {value : α}
    (h : (reportingTo opening raised action).run.Runs t (.ok (.ok value))) :
    action.run.Runs t (.ok value) := by
  obtain ⟨value', hvalue, hx⟩ | ⟨t₁, t₂, failure, -, -, hshown⟩ := runs_reportingTo_iff.1 h
  · rwa [Except.ok.inj (Except.ok.inj hx)]
  · exact absurd hshown ne_of_runs_showing

end CommandLine

end Oneshot
