import Oneshot.Proofs.Pipeline.Stages

/-!
# What Escapes a Pipeline

Up to the program a pipeline may report an error of usage, of the file system or of the parser. From
there on every failure of the compiler and of the artifact is turned into an outcome, so that a
pipeline which does not end in an outcome has reported one of these three errors, unless its last
exchange with the host raises what escapes.

Such an exchange exists. The output of the compiler is collected and has to be UTF-8, and no stage
reports an error where it is not: a compiler that rejects the program with a diagnostic in another
encoding ends the run with an escape.

* `Pipeline.guarded_prepare`, `Pipeline.guarded_build`, `Pipeline.guarded_execute`: the stages.
* `Pipeline.run_ends`: the ends of a pipeline.
* `Pipeline.undecodable_diagnostic_escapes`: a run that ends with an escape.
-/

namespace Oneshot

open Action (guarded_pure guarded_fail guarded_ask guarded_bind guarded_unless guarded_of_idle)

variable {kinds : ErrorKind → Prop}

/-! ### Commands -/

/-- A command reports nothing: either it comes to an end or its launch raises what escapes. -/
theorem Command.guarded_run {command : List Text} (hne : command ≠ []) (vars : Option Variables)
    (captured : Bool) : (Command.run command vars captured).Guarded kinds := by
  intro t x h
  obtain ⟨program, rfl, hquiet, -⟩ | ⟨before, launch, reply, rfl, hquiet, -, -, -, hresult⟩ :=
    Command.runs_run hne h
  · refine ⟨fun failure hx => by simp at hx, fun command reply e hmem => ?_⟩
    simpa [Exchange.command?] using hquiet _ hmem
  -- the launch is the last exchange, and nothing is launched in front of it
  have hlast : ∀ command reply', ⟨.launch command, reply'⟩ ∈ before ++ [⟨.launch launch, reply⟩] →
      (⟨.launch command, reply'⟩ : Exchange) = ⟨.launch launch, reply⟩ := by
    intro command reply' hmem
    rcases List.mem_append.1 hmem with hmem | hmem
    · simpa [Exchange.command?] using hquiet _ hmem
    · exact List.mem_singleton.1 hmem
  constructor
  · rintro failure rfl
    cases hresult with
    | raised hraised => exact .raised rfl hraised
  · intro command reply' e hmem hraised
    rw [hlast command reply' hmem] at hraised
    cases hresult with
    | refused os => simp [Exchange.raised?, Refusal.escape?] at hraised
    | ended hstatus hnone houtput => simp [hnone] at hraised
    | @raised _ e' hraised' => rw [Option.some.inj (hraised.symm.trans hraised')]

namespace Toolchain

theorem guarded_workDir : workDir.Guarded kinds := by
  refine guarded_of_idle idle_workDir fun t failure h => ?_
  obtain ⟨text, -, hx⟩ | ⟨refusal, e, rfl, hraised, hx⟩ := runs_workDir h
  · simp at hx
  · obtain rfl := Except.error.inj hx
    exact .raised (List.nil_append _).symm hraised

theorem guarded_absolutePath (path : Path) : (absolutePath path).Guarded kinds := by
  unfold absolutePath
  split
  · exact guarded_pure path
  · exact guarded_bind guarded_workDir fun _ => guarded_pure _

/-! ### The compiler -/

theorem guarded_artifactFor (hfilesystem : kinds .filesystem) (script workDir : Path)
    (settings : Settings) (platform : Platform) :
    (artifactFor script workDir settings platform).Guarded kinds := by
  unfold artifactFor
  split
  · exact guarded_pure _
  · exact guarded_fail hfilesystem

theorem guarded_wantsColor (choice : ColorChoice) : (wantsColor choice).Guarded kinds := by
  cases choice with
  | auto => exact guarded_ask trivial
  | always => exact guarded_pure true
  | never => exact guarded_pure false

theorem guarded_plannedCommand (cache : Cache) (settings : Settings) (platform : Platform)
    (crates : List Text) (artifact : Artifact) :
    (plannedCommand cache settings platform crates artifact).Guarded kinds :=
  guarded_bind (guarded_wantsColor _) fun _ => guarded_pure _

theorem guarded_writeSource (hfilesystem : kinds .filesystem) (source : Path) (program : Text) :
    (writeSource source program).Guarded kinds := by
  have hassoc : writeSource source program
      = ((do Action.reporting (.scratchNotWritten source)
              (← ExceptT.lift (Files.makeDirs source.parent)) : Action Unit) >>= fun _ => do
            Action.reporting (.scratchNotWritten source)
              (← Action.ask (.write source.text (Utf8.encode program)))) :=
    (bind_assoc _ _ _).symm
  rw [hassoc]
  refine guarded_bind (Files.guarded_makeDirs (fun _ => hfilesystem) _) fun _ => ?_
  exact Files.guarded_write (fun _ => hfilesystem) _ _

theorem guarded_compile (hcompile : kinds .compile) (hlaunch : kinds .launch) {command : List Text}
    (hne : command ≠ []) (artifact : Artifact) : (compile command artifact).Guarded kinds := by
  refine guarded_bind (Command.guarded_run hne none true) fun launched => ?_
  rcases launched with (_ | e) | done
  · exact guarded_fail hlaunch
  · simp only
    split
    · exact guarded_fail hlaunch
    · exact guarded_fail hlaunch
  · simp only
    split
    · exact guarded_pure artifact
    · exact guarded_fail hcompile

theorem guarded_buildProgram (hfilesystem : kinds .filesystem) (hcompile : kinds .compile)
    (hlaunch : kinds .launch) (cache : Cache) (settings : Settings) (platform : Platform)
    (workDir : Path) (crates : List Text) (program : Text) (script : Path) :
    (buildProgram cache settings platform workDir crates program script).Guarded kinds := by
  refine guarded_bind (guarded_artifactFor hfilesystem _ _ _ _) fun artifact => ?_
  refine guarded_bind (guarded_writeSource hfilesystem _ _) fun _ => ?_
  -- the planned command is a command of the compiler, so that it is not empty
  have hcompile' : ∀ inColor, (compile (compileCommand cache settings.toolchain platform inColor
      crates artifact) artifact).Guarded kinds := fun inColor =>
    guarded_compile hcompile hlaunch (List.cons_ne_nil _ _) artifact
  have hassoc : (do compile (← plannedCommand cache settings platform crates artifact) artifact)
      = wantsColor settings.output.compilerColor >>= fun inColor => compile
          (compileCommand cache settings.toolchain platform inColor crates artifact) artifact := by
    rw [plannedCommand, bind_assoc]
    simp only [pure_bind]
  rw [hassoc]
  exact guarded_bind (guarded_wantsColor _) hcompile'

/-! ### The artifact -/

theorem guarded_printedPath (hlaunch : kinds .launch) (compiler item : Text) :
    (printedPath compiler item).Guarded kinds := by
  refine guarded_bind (Command.guarded_run (List.cons_ne_nil _ _) none true) fun launched => ?_
  rcases launched with fault | done
  · exact guarded_fail hlaunch
  · simp only
    split
    · exact guarded_pure _
    · exact guarded_fail hlaunch

theorem guarded_runtimeDir (hlaunch : kinds .launch) (compiler : Text) (platform : Platform) :
    (runtimeDir compiler platform).Guarded kinds := by
  unfold runtimeDir
  split
  · exact guarded_printedPath hlaunch _ _
  · exact guarded_bind (guarded_printedPath hlaunch _ _) fun _ => guarded_pure _

theorem guarded_launchArtifact (hlaunch : kinds .launch) (cache : Cache) (settings : Settings)
    (platform : Platform) (executable : Path) (arguments : List Text) :
    (launchArtifact cache settings platform none executable arguments).Guarded kinds := by
  refine guarded_bind (guarded_runtimeDir hlaunch _ _) fun runtime => ?_
  refine guarded_bind (guarded_ask trivial) fun vars => ?_
  refine guarded_bind (guarded_absolutePath executable) fun place => ?_
  refine guarded_bind (Files.guarded_isFile place) fun found => ?_
  refine guarded_unless hlaunch fun _ => ?_
  refine guarded_bind (Command.guarded_run (List.cons_ne_nil _ _) _ false) fun launched => ?_
  rcases launched with fault | done
  · exact guarded_fail hlaunch
  · exact guarded_pure _

end Toolchain

namespace Pipeline

variable {p : Pipeline}

/-! ### The stages of a pipeline -/

/-- An attempt makes outcomes of the errors of the compiler and of its launch. -/
theorem guarded_orOutcome {α : Type} {a : Action α}
    (ha : a.Guarded fun kind => kinds kind ∨ kind = .compile ∨ kind = .launch) :
    (orOutcome a).Guarded kinds := by
  intro t x h
  obtain ⟨y, hy, rfl⟩ := runs_orOutcome_iff.1 h
  obtain ⟨hfails, hlaunches⟩ := ha t y hy
  constructor
  · intro failure' hx
    rcases y with failure | value
    · cases houtcome : outcomeOf failure with
      | some outcome => simp [attempted, houtcome] at hx
      | none =>
        obtain rfl : failure = failure' := by simpa [attempted, houtcome] using hx
        cases hfails failure rfl with
        | raised ht hraises => exact .raised ht hraises
        | @reported e hkind =>
          obtain hkind | hcompile | hlaunch := hkind
          · exact .reported hkind
          · cases e <;> simp [outcomeOf, RunError.kind] at houtcome hcompile
          · cases e <;> simp [outcomeOf, RunError.kind] at houtcome hlaunch
    · simp [attempted] at hx
  · intro command reply e hmem hraised
    rw [hlaunches command reply e hmem hraised]
    rfl

theorem guarded_prepare (husage : kinds .usage) (hfilesystem : kinds .filesystem)
    (hparse : kinds .parse) (hreport : ∀ event, (p.report event).Guarded kinds) (script : Path) :
    (p.prepare script).Guarded kinds := by
  have hcheck : ∀ e, checkScript script scriptExtension = .error e → e.kind = .usage := by
    intro e he
    unfold checkScript at he
    split at he
    · simp at he
    · obtain rfl := Except.error.inj he
      rfl
  unfold prepare
  split
  · next e he => exact guarded_fail (hcheck e he ▸ husage)
  · refine guarded_bind (Files.guarded_readText fun _ => hfilesystem) fun text => ?_
    split
    · exact guarded_fail hparse
    · exact guarded_bind (hreport _) fun _ => guarded_pure _

theorem guarded_reportMissing (hreport : ∀ event, (p.report event).Guarded kinds)
    (crates : List Text) : (p.reportMissing crates).Guarded kinds := by
  induction crates with
  | nil => exact guarded_pure ()
  | cons crate rest ih =>
    refine guarded_bind (Files.guarded_isFile _) fun found => ?_
    cases found with
    | true => exact ih
    | false => exact guarded_bind (hreport _) fun _ => ih

theorem guarded_base : p.base.Guarded kinds := by
  unfold base
  cases p.workDir with
  | some dir => exact guarded_pure dir
  | none => exact Toolchain.guarded_workDir

theorem guarded_planning (hfilesystem : kinds .filesystem)
    (hreport : ∀ event, (p.report event).Guarded kinds) (prepared : Prepared) :
    (p.planning prepared).Guarded kinds := by
  refine guarded_bind guarded_base fun workDir => ?_
  refine guarded_bind (Toolchain.guarded_artifactFor hfilesystem _ _ _ _) fun planned => ?_
  refine guarded_bind (Toolchain.guarded_plannedCommand _ _ _ _ _) fun command => ?_
  refine guarded_bind (guarded_reportMissing hreport _) fun _ => ?_
  exact guarded_bind (hreport _) fun _ => guarded_bind (hreport _) fun _ => guarded_pure workDir

theorem guarded_build (hfilesystem : kinds .filesystem)
    (hreport : ∀ event, (p.report event).Guarded kinds) (prepared : Prepared) :
    (p.build prepared).Guarded kinds := by
  rw [build_eq_planning]
  refine guarded_bind (guarded_planning hfilesystem hreport prepared) fun workDir => ?_
  exact guarded_orOutcome (Toolchain.guarded_buildProgram (.inl hfilesystem) (.inr (.inl rfl))
    (.inr (.inr rfl)) _ _ _ _ _ _ _)

theorem guarded_execute (hreport : ∀ event, (p.report event).Guarded kinds) (artifact : Artifact)
    (arguments : List Text) : (p.execute artifact arguments).Guarded kinds := by
  refine guarded_bind (hreport _) fun _ => ?_
  refine guarded_bind (guarded_orOutcome
    (Toolchain.guarded_launchArtifact (.inr (.inr rfl)) _ _ _ _ _)) fun result => ?_
  cases result with
  | ok code => exact guarded_pure _
  | error outcome => exact guarded_pure outcome

theorem guarded_run (hreport : ∀ event, (p.report event).Guarded kinds) (husage : kinds .usage)
    (hfilesystem : kinds .filesystem) (hparse : kinds .parse) (script : Path)
    (arguments : List Text) : (p.run script arguments).Guarded kinds := by
  refine guarded_bind (guarded_prepare husage hfilesystem hparse hreport script) fun prepared => ?_
  refine guarded_bind (guarded_build hfilesystem hreport prepared) fun built => ?_
  cases built with
  | error outcome => exact guarded_bind (hreport _) fun _ => guarded_pure outcome
  | ok artifact =>
    refine guarded_bind (guarded_execute hreport artifact arguments) fun outcome => ?_
    exact guarded_bind (hreport _) fun _ => guarded_pure outcome

/-- **The ends of a pipeline** whose reports start nothing and do not fail: an outcome; a reported
error of usage, of the file system or of the parser; or, and only if the last exchange with the host
raises it, an escape. What a launch raises always escapes. -/
theorem run_ends {script : Path} {arguments : List Text} {t : Trace} {x : Except Failure Outcome}
    (hidle : ∀ event, (p.report event).Idle)
    (hreport : ∀ event t failure, ¬ (p.report event).run.Runs t (.error failure))
    (h : (p.run script arguments).run.Runs t x) :
    ((∃ outcome, x = .ok outcome) ∨
      (∃ e, x = .error (.reported e) ∧
        (e.kind = .usage ∨ e.kind = .filesystem ∨ e.kind = .parse)) ∨
      ∃ e before last, x = .error (.escaped e) ∧ t = before ++ [last] ∧ last.raised? = some e) ∧
    ∀ command reply e, ⟨.launch command, reply⟩ ∈ t →
      Exchange.raised? ⟨.launch command, reply⟩ = some e → x = .error (.escaped e) := by
  have hguarded : ∀ event, (p.report event).Guarded fun kind =>
      kind = .usage ∨ kind = .filesystem ∨ kind = .parse := fun event =>
    guarded_of_idle (hidle event) fun t failure hfailure =>
      absurd hfailure (hreport event t failure)
  have hends := guarded_run hguarded (.inl rfl) (.inr (.inl rfl)) (.inr (.inr rfl)) script
    arguments t x h
  refine ⟨?_, hends.launches⟩
  rcases x with failure | outcome
  · cases hends.fails failure rfl with
    | @reported e hkind => exact .inr (.inl ⟨e, rfl, hkind⟩)
    | @raised before last e ht hraised => exact .inr (.inr ⟨e, before, last, rfl, ht, hraised⟩)
  · exact .inl ⟨outcome, rfl⟩

/-- A host whose compiler rejects every program, with a diagnostic that is not UTF-8. -/
def rejectingHost : (request : Request) → request.Reply
  | .kind _ => .ok .file
  | .isExecutable _ => true
  | .isReadable _ => true
  | .makeDir _ => .ok ()
  | .makeStaging _ _ => .ok []
  | .read _ => .ok (Utf8.encode "fn main() {}".toList)
  | .write _ _ => .ok ()
  | .create _ _ => .ok ()
  | .rename _ _ => .ok ()
  | .discard _ => ()
  | .launch _ => .ok ⟨1, [], [0xff]⟩
  | .workDir => .ok "/work".toList
  | .environment => []
  | .accountHome _ => none
  | .isTerminal _ => false
  | .validatorText _ => []
  | .print _ _ => ()
  | .announce _ _ => ()

/-- A pipeline with the settings where nothing else is configured, which reports nothing. -/
def silent : Pipeline :=
  ⟨Cache.ofRoot (Path.ofText "/cache") [], .default, .linux, none, fun _ => pure ()⟩

/-- The byte 0xff starts no character. -/
def diagnosticFault : Utf8.Fault :=
  ⟨0xff, 0, 1, .invalidStart⟩

/-- The run of a silent pipeline whose compiler rejects the program. -/
theorem runs_rejected :
    (silent.run (Path.ofText "s.rs") []).run.Runs
      ((silent.run (Path.ofText "s.rs") []).run.follow rejectingHost).1
      (.error (.escaped (.undecodable diagnosticFault))) := by
  have hvalue : ((silent.run (Path.ofText "s.rs") []).run.follow rejectingHost).2
      = .error (.escaped (.undecodable diagnosticFault)) := by
    decide +kernel
  exact hvalue ▸ Routine.runs_follow rejectingHost _

/-- **A diagnostic that is not UTF-8 escapes**: a run in which the compiler rejects the program can
end neither with an outcome nor with a reported error of usage, of the file system or of the
parser. -/
theorem undecodable_diagnostic_escapes :
    ¬ ∀ p : Pipeline, (∀ event, p.report event = pure ()) →
      ∀ (script : Path) (arguments : List Text) (t : Trace) (x : Except Failure Outcome),
        (p.run script arguments).run.Runs t x →
          (∃ outcome, x = .ok outcome) ∨ ∃ e, x = .error (.reported e) ∧
            (e.kind = .usage ∨ e.kind = .filesystem ∨ e.kind = .parse) := by
  intro hclosed
  obtain ⟨outcome, hx⟩ | ⟨e, hx, -⟩ := hclosed silent (fun _ => rfl) _ _ _ _ runs_rejected
  · simp at hx
  · simp at hx

/-- The last exchange of that run raises what escapes. -/
theorem run_ends_rejected :
    ∃ before last, ((silent.run (Path.ofText "s.rs") []).run.follow rejectingHost).1
      = before ++ [last] ∧ last.raised? = some (.undecodable diagnosticFault) := by
  have hsilent : ∀ event t failure, ¬ (silent.report event).run.Runs t (.error failure) := by
    intro event t failure h
    simp [silent] at h
  have hidle : ∀ event, (silent.report event).Idle := fun _ => trivial
  obtain ⟨⟨outcome, hx⟩ | ⟨e, hx, -⟩ | ⟨e, before, last, hx, ht, hraised⟩, -⟩ :=
    run_ends hidle hsilent runs_rejected
  · simp at hx
  · simp at hx
  · obtain rfl : Escape.undecodable diagnosticFault = e := by simpa using hx
    exact ⟨before, last, ht, hraised⟩

end Pipeline

end Oneshot
