import Oneshot.Proofs.Host.Raises
import Oneshot.Proofs.Pipeline.Course

/-!
# Traces of the Stages

One lemma for each function on the way from the program to the artifact says along which traces it
can run and how it then ends. A command is launched at the end of such a trace, after its program
has been looked for; a stage is the launch of its command together with what is made of the reply.

* `Command.runs_run`: looking for a program and launching it.
* `Command.runs_run_bind`: what follows a command.
* `Toolchain.runs_buildProgram`: the stage of the compiler.
* `Toolchain.runs_launchArtifact`: the stages behind it.
-/

namespace Oneshot

open Action (Absorbs runs_bind runs_lift_bind runs_ask_bind)
open Trace (Quiet Unfound Calm quiet_nil unfound_nil)

/-! ### Commands -/

namespace Command

/-- How a launch ends, with the reply to it. -/
inductive LaunchResult (command : Launch) :
    Except Refusal Finished → Except Failure (Except LaunchFault Completed) → Prop
  | refused (e : OsError) : LaunchResult command (.error (.os e)) (.ok (.error (.os e)))
  | ended {finished : Finished} {done : Completed} (hstatus : done.status = finished.status)
      (hraised : Exchange.raised? ⟨.launch command, .ok finished⟩ = none)
      (houtput : command.captured = true → ∃ output, Utf8.decode finished.output = .ok output ∧
        done.output = Text.unifyNewlines output) :
      LaunchResult command (.ok finished) (.ok (.ok done))
  | raised {reply : Except Refusal Finished} {e : Escape}
      (h : Exchange.raised? ⟨.launch command, reply⟩ = some e) :
      LaunchResult command reply (.error (.escaped e))

theorem runs_collectedText {bytes : Bytes} {t : Trace} {x : Except Failure Text}
    (h : (collectedText bytes).run.Runs t x) :
    t = [] ∧ ((∃ text, Utf8.decode bytes = .ok text ∧ x = .ok (Text.unifyNewlines text)) ∨
      ∃ fault, Utf8.decode bytes = .error fault ∧ x = .error (.escaped (.undecodable fault))) := by
  rw [collectedText] at h
  split at h
  · next text hdecode =>
    obtain ⟨rfl, rfl⟩ := h
    exact ⟨rfl, .inl ⟨text, hdecode, rfl⟩⟩
  · next fault hdecode =>
    obtain ⟨rfl, rfl⟩ := h
    exact ⟨rfl, .inr ⟨fault, hdecode, rfl⟩⟩

/-- Both streams of a child have to be texts, standard output first. -/
theorem runs_collectedText_bind {α : Type} {finished : Finished} {f : Text → Text → Action α}
    {t : Trace} {x : Except Failure α}
    (h : (do
      let output ← collectedText finished.output
      let errors ← collectedText finished.errors
      f output errors : Action α).run.Runs t x) :
    (∃ output errors, finished.fault? = none ∧ Utf8.decode finished.output = .ok output ∧
      Utf8.decode finished.errors = .ok errors ∧
      (f (Text.unifyNewlines output) (Text.unifyNewlines errors)).run.Runs t x) ∨
    ∃ fault, finished.fault? = some fault ∧ t = [] ∧
      x = .error (.escaped (.undecodable fault)) := by
  obtain ⟨t₁, t₂, _, rfl, hout, hrest⟩ | ⟨failure, hout, rfl⟩ := runs_bind.1 h
  all_goals
    obtain ⟨rfl, ⟨output, hdecode, hx⟩ | ⟨fault, hundecodable, hx⟩⟩ := runs_collectedText hout
  · obtain rfl := Except.ok.inj hx
    obtain ⟨t₁, t₂, _, rfl, herr, hend⟩ | ⟨failure, herr, rfl⟩ := runs_bind.1 hrest
    all_goals
      obtain ⟨rfl, ⟨errors, hdecode', hx⟩ | ⟨fault, hundecodable, hx⟩⟩ := runs_collectedText herr
    · obtain rfl := Except.ok.inj hx
      exact .inl ⟨output, errors, by simp [Finished.fault?, hdecode, hdecode'], hdecode, hdecode',
        hend⟩
    · simp at hx
    · simp at hx
    · obtain rfl := Except.error.inj hx
      exact .inr ⟨fault, by simp [Finished.fault?, hdecode, hundecodable], rfl, rfl⟩
  · simp at hx
  · simp at hx
  · obtain rfl := Except.error.inj hx
    exact .inr ⟨fault, by simp [Finished.fault?, hundecodable], rfl, rfl⟩

theorem runs_launch {arguments : List Text} {vars : Option Variables} {captured : Bool} {t : Trace}
    {x : Except Failure (Except LaunchFault Completed)}
    (h : (launch arguments vars captured).run.Runs t x) :
    ∃ reply, t = [⟨.launch ⟨arguments, vars, captured⟩, reply⟩] ∧
      LaunchResult ⟨arguments, vars, captured⟩ reply x := by
  rw [launch] at h
  obtain ⟨reply, rest, rfl, hrest⟩ := runs_ask_bind.1 h
  refine ⟨reply, ?_⟩
  rcases reply with (e | _ | _) | finished
  · obtain ⟨rfl, rfl⟩ := hrest
    exact ⟨rfl, .refused e⟩
  · obtain ⟨rfl, rfl⟩ := hrest
    exact ⟨rfl, .raised rfl⟩
  · obtain ⟨rfl, rfl⟩ := hrest
    exact ⟨rfl, .raised rfl⟩
  · simp only at hrest
    split at hrest
    · next hcaptured =>
      obtain ⟨output, errors, hfault, hdecode, -, rfl, rfl⟩ | ⟨fault, hfault, rfl, rfl⟩ :=
        runs_collectedText_bind hrest
      · exact ⟨rfl, .ended rfl (by simp [Exchange.raised?, hfault]) fun _ => ⟨output, hdecode, rfl⟩⟩
      · exact ⟨rfl, .raised (by simp [Exchange.raised?, hfault, hcaptured])⟩
    · next hcaptured =>
      obtain ⟨rfl, rfl⟩ := hrest
      exact ⟨rfl, .ended rfl (by simp [Exchange.raised?, hcaptured])
        fun hc => absurd hc hcaptured⟩

theorem runs_firstExecutable {places : List Text} {t : Trace} {found : Option Text}
    (h : (firstExecutable places).Runs t found) : Quiet t ∧ (found = none → Unfound t) := by
  induction places generalizing t with
  | nil =>
    obtain ⟨rfl, rfl⟩ := h
    exact ⟨quiet_nil, fun _ => unfound_nil⟩
  | cons place rest ih =>
    rw [firstExecutable] at h
    obtain ⟨t₁, t₂, isThere, rfl, hask, hrest⟩ := Routine.runs_bind.1 h
    obtain rfl := Routine.runs_request.1 hask
    cases isThere with
    | true =>
      obtain ⟨rfl, rfl⟩ := hrest
      exact ⟨by simp [Quiet, Exchange.command?], by simp⟩
    | false =>
      obtain ⟨hquiet, hunfound⟩ := ih hrest
      refine ⟨Quiet.append (by simp [Quiet, Exchange.command?]) hquiet, fun hnone => ?_⟩
      refine Unfound.append (fun other hother => ?_) (hunfound hnone)
      simp at hother

theorem runs_lookUp {program : Text} {t : Trace} {found : Option Text}
    (h : (lookUp program).Runs t found) : Quiet t ∧ (found = none → Unfound t) := by
  rw [lookUp] at h
  split at h
  · exact runs_firstExecutable h
  · obtain ⟨t₁, t₂, vars, rfl, hask, hrest⟩ := Routine.runs_bind.1 h
    obtain rfl := Routine.runs_request.1 hask
    have hquiet : Quiet [⟨.environment, vars⟩] := by simp [Quiet, Exchange.command?]
    have hunfound : Unfound [⟨.environment, vars⟩] := by simp [Unfound]
    simp only at hrest
    split at hrest
    · obtain ⟨rfl, rfl⟩ := hrest
      exact ⟨hquiet.append quiet_nil, fun _ => hunfound.append unfound_nil⟩
    · obtain ⟨hquiet', hunfound'⟩ := runs_firstExecutable hrest
      exact ⟨hquiet.append hquiet', fun hnone => hunfound.append (hunfound' hnone)⟩

/-- **A command is launched at the end of its trace**, unless its program is not found. -/
theorem runs_run {command : List Text} {vars : Option Variables} {captured : Bool} {t : Trace}
    {x : Except Failure (Except LaunchFault Completed)} (hne : command ≠ [])
    (h : (Command.run command vars captured).run.Runs t x) :
    (∃ program, x = .ok (.error (.notOnPath program)) ∧ Quiet t ∧ Unfound t) ∨
      ∃ before launch reply, t = before ++ [⟨.launch launch, reply⟩] ∧ Quiet before ∧
        Launches command launch ∧ launch.vars = vars ∧ launch.captured = captured ∧
        LaunchResult launch reply x := by
  obtain ⟨program, rest, rfl⟩ := List.exists_cons_of_ne_nil hne
  rw [Command.run] at h
  split at h
  · next habsolute =>
    obtain ⟨reply, rfl, hresult⟩ := runs_launch h
    exact .inr ⟨[], _, reply, rfl, quiet_nil, ⟨program, _, rest, rfl, rfl, fun _ => rfl⟩, rfl, rfl,
      hresult⟩
  · next hrelative =>
    obtain ⟨t₁, t₂, found, rfl, hlook, hrest⟩ := runs_lift_bind.1 h
    obtain ⟨hquiet, hunfound⟩ := runs_lookUp hlook
    cases found with
    | none =>
      obtain ⟨rfl, rfl⟩ := hrest
      exact .inl ⟨program, rfl, by simpa using hquiet, by simpa using hunfound rfl⟩
    | some place =>
      obtain ⟨reply, rfl, hresult⟩ := runs_launch hrest
      exact .inr ⟨t₁, _, reply, rfl, hquiet,
        ⟨program, place, rest, rfl, rfl, fun hp => absurd hp hrelative⟩, rfl, rfl, hresult⟩

/-- **A command that is followed by something**: what follows gets a program that is not found, or
what comes of the launch, or else the launch ends the whole. -/
theorem runs_run_bind {α : Type} {command : List Text} {vars : Option Variables} {captured : Bool}
    {f : Except LaunchFault Completed → Action α} {t : Trace} {y : Except Failure α}
    (hne : command ≠ []) (h : (Command.run command vars captured >>= f).run.Runs t y) :
    (∃ before program rest, t = before ++ rest ∧ Quiet before ∧ Unfound before ∧
        (f (.error (.notOnPath program))).run.Runs rest y) ∨
      (∃ before launch reply launched rest, t = before ++ ⟨.launch launch, reply⟩ :: rest ∧
        Quiet before ∧ Launches command launch ∧ launch.vars = vars ∧ launch.captured = captured ∧
        LaunchResult launch reply (.ok launched) ∧ (f launched).run.Runs rest y) ∨
      ∃ e, y = .error (.escaped e) := by
  obtain ⟨t₁, rest, launched, rfl, hrun, hrest⟩ | ⟨failure, hrun, rfl⟩ := runs_bind.1 h
  · obtain ⟨program, hlaunched, hquiet, hunfound⟩ |
      ⟨before, launch, reply, rfl, hquiet, hlaunch, hvars, hcaptured, hresult⟩ := runs_run hne hrun
    · obtain rfl := Except.ok.inj hlaunched
      exact .inl ⟨t₁, program, rest, rfl, hquiet, hunfound, hrest⟩
    · exact .inr (.inl ⟨before, launch, reply, launched, rest, by simp, hquiet, hlaunch, hvars,
        hcaptured, hresult, hrest⟩)
  · obtain ⟨program, hlaunched, -⟩ | ⟨before, launch, reply, rfl, -, -, -, -, hresult⟩ :=
      runs_run hne hrun
    · simp at hlaunched
    · cases hresult with
      | raised => exact .inr (.inr ⟨_, rfl⟩)

end Command

/-! ### How actions end -/

/-- How an action ends, escapes aside: with a value that `passed` holds of, or, if `broken` holds,
with a reported error. -/
def Ends {α : Type} (passed : α → Prop) (broken : Prop) : Except Failure α → Prop
  | .ok x => passed x
  | .error (.reported _) => broken
  | .error (.escaped _) => True

theorem Ends.imp {α : Type} {passed passed' : α → Prop} {broken broken' : Prop}
    {x : Except Failure α} (h : Ends passed broken x) (hpassed : ∀ x, passed x → passed' x)
    (hbroken : broken → broken') : Ends passed' broken' x := by
  rcases x with (e | e) | x
  · exact hbroken h
  · trivial
  · exact hpassed x h

theorem ends_error {α : Type} {passed : α → Prop} {broken : Prop} (h : broken)
    (failure : Failure) : Ends passed broken (.error failure) := by
  cases failure with
  | reported e => exact h
  | escaped e => trivial

/-- A failure ends whatever follows in the same way. -/
theorem Ends.of_error {α β : Type} {passed : α → Prop} {passed' : β → Prop}
    {broken broken' : Prop} {failure : Failure}
    (h : Ends passed broken (.error failure : Except Failure α)) (hbroken : broken → broken') :
    Ends passed' broken' (.error failure : Except Failure β) := by
  cases failure with
  | reported e => exact hbroken h
  | escaped e => trivial

/-- Behind an idle action, the trace goes on with that of the next one. -/
theorem runs_idle_bind {α β : Type} {a : Action α} {f : α → Action β} {t : Trace}
    {y : Except Failure β} (ha : a.Idle) (h : (a >>= f).run.Runs t y) :
    (∃ t₁ t₂ x, t = t₁ ++ t₂ ∧ Calm t₁ ∧ a.run.Runs t₁ (.ok x) ∧ (f x).run.Runs t₂ y) ∨
      Calm t ∧ ∃ failure, y = .error failure := by
  obtain ⟨t₁, t₂, x, rfl, hx, hy⟩ | ⟨failure, hx, rfl⟩ := runs_bind.1 h
  · exact .inl ⟨t₁, t₂, x, rfl, hx.calm ha, hx, hy⟩
  · exact .inr ⟨hx.calm ha, failure, rfl⟩

namespace Toolchain

variable {p : Plan} {t : Trace}

/-! ### The compiler -/

theorem passesAt_of_launch {stage : Stage} {before : Trace} {launch : Launch}
    {reply : Except Refusal Finished} (hquiet : Quiet before)
    (hask : stage.Asks p (.launch launch)) (hpass : stage.Passes ⟨.launch launch, reply⟩) :
    PassesAt p stage (before ++ [⟨.launch launch, reply⟩]) :=
  ⟨before, _, rfl, hquiet, hask, hpass⟩

theorem runs_compile {artifact : Artifact} {x : Except Failure Artifact}
    (h : (compile p.compile artifact).run.Runs t x) :
    Ends (fun built => built = artifact ∧ PassesAt p .compiling t) (Breaks p .compiling t) x := by
  have hne : p.compile ≠ [] := List.cons_ne_nil _ _
  rw [compile] at h
  obtain ⟨before, program, rest, rfl, hquiet, -, hrest⟩ | ⟨before, launch, reply, launched, rest,
    rfl, hquiet, hlaunch, hvars, hcaptured, hresult, hrest⟩ | ⟨e, rfl⟩ :=
    Command.runs_run_bind hne h
  · obtain ⟨rfl, rfl⟩ := hrest
    exact .early (by simpa using hquiet)
  · have hask : Stage.compiling.Asks p (.launch launch) := ⟨hlaunch, hvars, hcaptured⟩
    cases hresult with
    | refused e =>
      have hbreaks : Breaks p .compiling (before ++ [⟨.launch launch, .error (.os e)⟩]) :=
        .fail hquiet hask (by simp [Stage.Passes, Exchange.finished?]) quiet_nil
      simp only at hrest
      split at hrest
      all_goals
        obtain ⟨rfl, rfl⟩ := hrest
        exact hbreaks
    | @ended finished done hstatus _ houtput =>
      simp only at hrest
      split at hrest
      · next hzero =>
        obtain ⟨rfl, rfl⟩ := hrest
        exact ⟨rfl, passesAt_of_launch hquiet hask ⟨finished, rfl, by rw [← hstatus, hzero]⟩⟩
      · next hzero =>
        obtain ⟨rfl, rfl⟩ := hrest
        refine .fail hquiet hask ?_ quiet_nil
        rintro ⟨other, hother, hother_zero⟩
        obtain rfl : finished = other := by simpa [Exchange.finished?] using hother
        exact hzero (hstatus.trans hother_zero)
  · trivial

/-- A planned artifact has the paths of its script, and nothing is asked for it. -/
theorem paths_of_runs_artifactFor {script workDir : Path} {settings : Settings}
    {platform : Platform} {artifact : Artifact} {t : Trace}
    (h : (artifactFor script workDir settings platform).run.Runs t (.ok artifact)) :
    t = [] ∧ Scratch.paths? script workDir settings.toolchain platform = some artifact := by
  rw [artifactFor] at h
  split at h
  · next planned hplanned =>
    obtain ⟨rfl, rfl⟩ := Action.runs_pure_ok.1 h
    exact ⟨rfl, hplanned⟩
  · simp at h

theorem runs_plannedCommand {cache : Cache} {settings : Settings} {platform : Platform}
    {crates : List Text} {artifact : Artifact} {x : Except Failure (List Text)}
    (h : (plannedCommand cache settings platform crates artifact).run.Runs t x) :
    ∃ inColor,
      x = .ok (compileCommand cache settings.toolchain platform inColor crates artifact) := by
  rw [plannedCommand] at h
  obtain ⟨t₁, t₂, inColor, rfl, -, rfl, rfl⟩ | ⟨failure, hcolor, rfl⟩ := runs_bind.1 h
  · exact ⟨inColor, rfl⟩
  · generalize settings.output.compilerColor = choice at hcolor
    cases choice with
    | auto =>
      obtain ⟨reply, -, hreply⟩ := Action.runs_ask.1 hcolor
      simp at hreply
    | always => simpa using (Action.runs_pure.1 hcolor).2
    | never => simpa using (Action.runs_pure.1 hcolor).2

/-- How the building of a program ends: with its artifact, once the run has passed the compiler, or
with a reported error, once it has broken off there or in front of it. -/
def BuildEnds (cache : Cache) (settings : Settings) (platform : Platform) (crates : List Text)
    (t : Trace) (x : Except Failure Artifact) : Prop :=
  ∃ inColor artifact, ∀ executable arguments,
    let p : Plan :=
      ⟨cache, settings.toolchain, platform, inColor, crates, artifact, executable, arguments⟩
    Ends (fun built => built = artifact ∧ PassesAt p .compiling t) (Breaks p .compiling t) x

/-- Nothing that happens in front of the compiler matters. Without an artifact any other one will
do, since nothing has been launched. -/
theorem absorbs_buildEnds (cache : Cache) (settings : Settings) (platform : Platform)
    (crates : List Text) : Absorbs Calm (BuildEnds cache settings platform crates) where
  of_error hcalm :=
    ⟨false, ⟨Path.ofText [], Path.ofText []⟩, fun _ _ => ends_error (.early hcalm.quiet) _⟩
  append_left := by
    rintro before t x hcalm ⟨inColor, artifact, hends⟩
    refine ⟨inColor, artifact, fun executable arguments => ?_⟩
    refine (hends executable arguments).imp (fun built hbuilt => ?_) fun hbreaks => ?_
    · exact ⟨hbuilt.1, hbuilt.2.append_left hcalm.quiet⟩
    · exact hbreaks.append_left hcalm

/-- **The stage of the compiler**: a program that is built has passed it, and a reported error
breaks off the run there or in front of it. -/
theorem runs_buildProgram {cache : Cache} {settings : Settings} {platform : Platform}
    {workDir : Path} {crates : List Text} {program : Text} {script : Path}
    {x : Except Failure Artifact}
    (h : (buildProgram cache settings platform workDir crates program script).run.Runs t x) :
    BuildEnds cache settings platform crates t x := by
  have habsorbs := absorbs_buildEnds cache settings platform crates
  rw [buildProgram] at h
  refine habsorbs.bind h (fun h => h.calm (idle_artifactFor ..)) fun {artifact} _ _ _ h => ?_
  refine habsorbs.bind h (fun h => h.calm (idle_writeSource ..)) fun _ h => ?_
  refine habsorbs.bind h (fun h => h.calm (idle_plannedCommand ..)) fun hcommand h => ?_
  obtain ⟨inColor, hcommand⟩ := runs_plannedCommand hcommand
  obtain rfl := Except.ok.inj hcommand
  exact ⟨inColor, artifact, fun executable arguments => runs_compile (p := ⟨cache,
    settings.toolchain, platform, inColor, crates, artifact, executable, arguments⟩) h⟩

/-! ### The stages behind the compiler -/

/-- How the stages from the given one on end: with the exit status of the artifact, once the run has
passed them all, or with a reported error, once it has broken off. -/
def ExitEnds (p : Plan) (stage : Stage) (t : Trace) (x : Except Failure Int) : Prop :=
  Ends (fun code => ∃ status, Completes p stage t status ∧ code = exitCodeOf status)
    (Breaks p stage t) x

theorem ExitEnds.append_left {stage : Stage} {before : Trace} {x : Except Failure Int}
    (h : ExitEnds p stage t x) (hbefore : Calm before) : ExitEnds p stage (before ++ t) x := by
  refine h.imp ?_ fun hbreaks => hbreaks.append_left hbefore
  rintro code ⟨status, hcompletes, hcode⟩
  exact ⟨status, hcompletes.append_left hbefore.quiet, hcode⟩

/-- The stages behind one that the run has passed. -/
theorem exitEnds_of_passesAt {stage next : Stage} {rest : Trace} {x : Except Failure Int}
    (h : PassesAt p stage t) (hnext : stage.next? = some next) (hrest : ExitEnds p next rest x) :
    ExitEnds p stage (t ++ rest) x := by
  refine hrest.imp ?_ fun hbreaks => h.breaks hnext hbreaks
  rintro code ⟨status, hcompletes, hcode⟩
  exact ⟨status, h.completes hnext hcompletes, hcode⟩

theorem runs_printedPath {compiler item : Text} {x : Except Failure Path}
    (hquery : p.query = [compiler, "--print".toList, item])
    (h : (printedPath compiler item).run.Runs t x) :
    Ends (fun _ => PassesAt p .querying t) (Breaks p .querying t) x := by
  rw [printedPath, ← hquery] at h
  have hne : p.query ≠ [] := List.cons_ne_nil _ _
  obtain ⟨before, program, rest, rfl, hquiet, hunfound, hrest⟩ | ⟨before, launch, reply, launched,
    rest, rfl, hquiet, hlaunch, hvars, hcaptured, hresult, hrest⟩ | ⟨e, rfl⟩ :=
    Command.runs_run_bind hne h
  · obtain ⟨rfl, rfl⟩ := hrest
    rw [List.append_nil]
    exact .unfound (.inl rfl) hquiet hunfound
  · have hask : Stage.querying.Asks p (.launch launch) := ⟨hlaunch, hvars, hcaptured⟩
    cases hresult with
    | refused e =>
      obtain ⟨rfl, rfl⟩ := hrest
      exact .fail hquiet hask (by simp [Stage.Passes, Exchange.finished?]) quiet_nil
    | @ended finished done hstatus _ houtput =>
      obtain ⟨output, hdecode, houtput⟩ := houtput hcaptured
      simp only at hrest
      split at hrest
      · next hanswer =>
        obtain ⟨rfl, rfl⟩ := hrest
        exact passesAt_of_launch hquiet hask ⟨finished, output, rfl, by rw [← hstatus, hanswer.1],
          hdecode, by rw [← houtput]; exact hanswer.2⟩
      · next hanswer =>
        obtain ⟨rfl, rfl⟩ := hrest
        refine .fail hquiet hask ?_ quiet_nil
        rintro ⟨other, output', hother, hzero, hdecode', hblank⟩
        obtain rfl : finished = other := by simpa [Exchange.finished?] using hother
        obtain rfl := Except.ok.inj (hdecode.symm.trans hdecode')
        exact hanswer ⟨hstatus.trans hzero, by rwa [houtput]⟩
  · trivial

theorem runs_runtimeDir {x : Except Failure Path}
    (h : (runtimeDir p.toolchain.compiler p.platform).run.Runs t x) :
    Ends (fun _ => PassesAt p .querying t) (Breaks p .querying t) x := by
  rw [runtimeDir] at h
  split at h
  · next hnone => exact runs_printedPath (by simp [Plan.query, hnone]) h
  · next subdirectory hsome =>
    have hquery : p.query = [p.toolchain.compiler, "--print".toList, "sysroot".toList] := by
      simp [Plan.query, hsome]
    obtain ⟨t₁, t₂, root, rfl, hroot, rfl, rfl⟩ | ⟨failure, hroot, rfl⟩ := runs_bind.1 h
    · rw [List.append_nil]
      have hpasses : PassesAt p .querying t₁ := runs_printedPath hquery hroot
      exact hpasses
    · exact runs_printedPath hquery hroot

/-- The working directory is asked for once, and a refusal of it escapes. -/
theorem runs_workDir {x : Except Failure Path} (h : workDir.run.Runs t x) :
    (∃ text, t = [⟨.workDir, .ok text⟩] ∧ x = .ok (Path.ofText text)) ∨
      ∃ refusal e, t = [⟨.workDir, .error refusal⟩] ∧
        Exchange.raised? ⟨.workDir, .error refusal⟩ = some e ∧ x = .error (.escaped e) := by
  rw [workDir] at h
  obtain ⟨reply, rest, rfl, hrest⟩ := runs_ask_bind.1 h
  rcases reply with (e | _ | _) | text
  · obtain ⟨rfl, rfl⟩ := hrest
    exact .inr ⟨_, _, rfl, rfl, rfl⟩
  · obtain ⟨rfl, rfl⟩ := hrest
    exact .inr ⟨_, _, rfl, rfl, rfl⟩
  · obtain ⟨rfl, rfl⟩ := hrest
    exact .inr ⟨_, _, rfl, rfl, rfl⟩
  · obtain ⟨rfl, rfl⟩ := hrest
    exact .inl ⟨text, rfl, rfl⟩

theorem runs_absolutePath {path : Path} {x : Except Failure Path}
    (h : (absolutePath path).run.Runs t x) :
    (∃ place, x = .ok place ∧ (path.isAbsolute = true → place = path)) ∨
      ∃ e, x = .error (.escaped e) := by
  rw [absolutePath] at h
  split at h
  · obtain ⟨rfl, rfl⟩ := h
    exact .inl ⟨path, rfl, fun _ => rfl⟩
  · next hrelative =>
    obtain ⟨t₁, t₂, dir, rfl, -, rfl, rfl⟩ | ⟨failure, hdir, rfl⟩ := runs_bind.1 h
    · exact .inl ⟨_, rfl, fun habsolute => absurd habsolute hrelative⟩
    · obtain ⟨text, -, hx⟩ | ⟨refusal, e, -, -, hx⟩ := runs_workDir hdir
      · simp at hx
      · exact .inr ⟨e, hx⟩

/-- The last stage: the launch of an executable that is a file. -/
theorem runs_startArtifact {vars : Variables} {x : Except Failure Int}
    (h : (do
      match ← Command.run p.start (some vars) false with
      | .error fault => Action.fail (.artifactNotLaunched p.executable p.start fault)
      | .ok done => return exitCodeOf done.status : Action Int).run.Runs t x) :
    ExitEnds p .starting t x := by
  have hne : p.start ≠ [] := List.cons_ne_nil _ _
  obtain ⟨before, program, rest, rfl, hquiet, hunfound, hend⟩ | ⟨before, launch, reply, launched,
    rest, rfl, hquiet, hlaunch, hvars, hcaptured, hresult, hend⟩ | ⟨e, rfl⟩ :=
    Command.runs_run_bind hne h
  · obtain ⟨rfl, rfl⟩ := hend
    rw [List.append_nil]
    exact .unfound (.inr rfl) hquiet hunfound
  · have hask : Stage.starting.Asks p (.launch launch) := ⟨hlaunch, by simp [hvars], hcaptured⟩
    cases hresult with
    | refused e =>
      obtain ⟨rfl, rfl⟩ := hend
      exact .fail hquiet hask (by simp [Stage.Passes, Exchange.finished?]) quiet_nil
    | @ended finished done hstatus _ houtput =>
      obtain ⟨rfl, rfl⟩ := hend
      exact ⟨finished.status, .starting hquiet hask rfl quiet_nil, by rw [hstatus]⟩
  · trivial

/-- The test of the executable as a stage of a run. -/
theorem passesAt_or_breaks_of_test {reply : Except Refusal FileKind} {found : Bool}
    (h : TestResult .file reply (.ok found)) :
    (found = true ∧ PassesAt p .testing [⟨.kind p.executable.text, reply⟩]) ∨
      found = false ∧ Breaks p .testing [⟨.kind p.executable.text, reply⟩] := by
  have hask : Stage.testing.Asks p (.kind p.executable.text) := rfl
  by_cases hfile : reply = .ok .file
  · subst hfile
    exact .inl ⟨h.found_iff.2 rfl, [], _, rfl, quiet_nil, hask, _, rfl⟩
  · have hfound : found = false := by simpa [hfile] using h.found_iff
    have hfail : ¬ Stage.testing.Passes ⟨.kind p.executable.text, reply⟩ := by
      rintro ⟨path, hpath⟩
      cases hpath
      exact hfile rfl
    have hbreaks : Breaks p .testing ([] ++ ⟨.kind p.executable.text, reply⟩ :: []) :=
      .fail quiet_nil hask hfail quiet_nil
    exact .inr ⟨hfound, hbreaks⟩

/-- The last two stages: the executable is looked at, and launched if it is a file. -/
theorem runs_testArtifact {vars : Variables} {x : Except Failure Int}
    (h : (do
      if !(← Action.orEscape (Files.isFile p.executable)) then
        Action.fail (.artifactMissing p.executable p.start)
      match ← Command.run p.start (some vars) false with
      | .error fault => Action.fail (.artifactNotLaunched p.executable p.start fault)
      | .ok done => return exitCodeOf done.status : Action Int).run.Runs t x) :
    ExitEnds p .testing t x := by
  obtain ⟨t₁, t₂, found, rfl, hfound, hstart⟩ | ⟨failure, hfound, rfl⟩ := runs_bind.1 h
  swap
  · obtain ⟨reply, rfl, hresult⟩ := Action.runs_test hfound
    cases hresult with
    | refused => trivial
  obtain ⟨reply, rfl, hresult⟩ := Action.runs_test hfound
  obtain ⟨rfl, hpasses⟩ | ⟨rfl, hbreaks⟩ := passesAt_or_breaks_of_test (p := p) hresult
  · exact exitEnds_of_passesAt hpasses rfl (runs_startArtifact hstart)
  · obtain ⟨rfl, rfl⟩ := Action.runs_fail_bind.1 hstart
    exact hbreaks

/-- **The stages behind the compiler**: an artifact that has run has passed all of them, and a
reported error breaks off the run at one of them. -/
theorem runs_launchArtifact {cache : Cache} {settings : Settings} {platform : Platform}
    {executable : Path} {arguments : List Text} {x : Except Failure Int}
    (h : (launchArtifact cache settings platform none executable arguments).run.Runs t x)
    (inColor : Bool) (crates : List Text) (artifact : Artifact) :
    ∃ place, (executable.isAbsolute = true → place = executable) ∧
      ExitEnds ⟨cache, settings.toolchain, platform, inColor, crates, artifact, place, arguments⟩
        .querying t x := by
  -- the place of the executable matters only once it is known
  let planOf (place : Path) : Plan :=
    ⟨cache, settings.toolchain, platform, inColor, crates, artifact, place, arguments⟩
  obtain ⟨t₁, rest, runtime, rfl, hruntime, hvars⟩ | ⟨failure, hruntime, rfl⟩ := runs_bind.1 h
  swap
  · exact ⟨executable, fun _ => rfl,
      (runs_runtimeDir (p := planOf executable) hruntime).of_error id⟩
  have hquery : ∀ place, PassesAt (planOf place) .querying t₁ := fun place =>
    runs_runtimeDir (p := planOf place) hruntime
  obtain ⟨vars, rest, rfl, hlocate⟩ := runs_ask_bind.1 hvars
  obtain ⟨t₂, rest, place, rfl, habsolute, htest⟩ | ⟨failure, habsolute, rfl⟩ :=
    runs_bind.1 hlocate
  swap
  · obtain ⟨place, hx, -⟩ | ⟨e, hx⟩ := runs_absolutePath habsolute
    · simp at hx
    · obtain rfl := Except.error.inj hx
      exact ⟨executable, fun _ => rfl, trivial⟩
  obtain ⟨place', hx, hplace⟩ | ⟨e, hx⟩ := runs_absolutePath habsolute
  swap
  · simp at hx
  obtain rfl := Except.ok.inj hx
  refine ⟨place, hplace, exitEnds_of_passesAt (hquery place) rfl ?_⟩
  have hcalm : Calm (⟨.environment, vars⟩ :: t₂) := by
    intro e he
    rcases List.mem_cons.1 he with rfl | he
    · trivial
    · exact habsolute.calm (idle_absolutePath executable) e he
  exact ExitEnds.append_left (runs_testArtifact (p := planOf place) htest) hcalm

end Toolchain

end Oneshot
