import Oneshot.Proofs.Pipeline.Announcements
import Oneshot.Proofs.Pipeline.Uncaught

/-!
# What Is Announced and What Is Done

Building works out the scratch paths and the command of the compiler twice: once to announce them,
and once again where the program is written and compiled. Both depend on the script, the base of the
pipeline and its settings, which stay the same, and on one thing more: whether the compiler is asked
for colour may depend on the terminal, and the host is asked about it each time. As long as the
answer does not change, what is announced is what is done.

Building has a part in front of the compiler, `Pipeline.approach`, which ends by handing over a
command and an artifact. It holds both computations, and what comes behind it is the compiler alone
(`Pipeline.build_eq_approach`).

* `Toolchain.runs_planned`: the command of a trace in which the terminal stays what it is.
* `Pipeline.runs_planning`, `Pipeline.runs_handOver`: the two computations.
* `Pipeline.Announces`: what has been announced is what is handed over.
* `Pipeline.announces_build`: so it is in every run that comes to the compiler.
-/

namespace Oneshot

open Action (runs_bind runs_bind_ok runs_lift_bind runs_ask_bind)

/-! ### The terminal and the files of a trace -/

/-- The path and the content of an exchange that writes a file in place of what it held. -/
def Exchange.file? : Exchange → Option (Text × Bytes)
  | ⟨.write path content, _⟩ => some (path, content)
  | _ => none

namespace Trace

/-- Whenever the host is asked, standard error is a terminal, or it never is. -/
def TerminalIs (t : Trace) (isTerminal : Bool) : Prop :=
  ∀ reply, ⟨.isTerminal .errors, reply⟩ ∈ t → reply = isTerminal

/-- The files that are written in place of what they held, in order. -/
def files (t : Trace) : List (Text × Bytes) :=
  t.filterMap Exchange.file?

variable {t t' : Trace} {isTerminal : Bool}

theorem terminalIs_append_iff :
    (t ++ t').TerminalIs isTerminal ↔ t.TerminalIs isTerminal ∧ t'.TerminalIs isTerminal := by
  simp only [TerminalIs, List.mem_append, or_imp, forall_and]

@[simp] theorem files_append (t t' : Trace) : files (t ++ t') = files t ++ files t' :=
  List.filterMap_append

end Trace

/-- A routine that does not have it among its topics writes no file. -/
theorem Routine.Runs.files_eq_nil {α : Type} {r : Routine α} {t : Trace} {x : α}
    {topics : List Topic} (h : r.Runs t x) (hr : r.Within topics) (hnot : .write ∉ topics) :
    t.files = [] := by
  refine Trace.filterMap_eq_nil_of_topic (h.topic_mem hr) hnot fun e htopic => ?_
  obtain ⟨request, reply⟩ := e
  cases request with
  | write path content => exact absurd rfl htopic
  | _ => rfl

/-- What follows a routine matters only for the values that the routine can have. -/
theorem Routine.bind_congr {α β : Type} {r : Routine α} {f g : α → Routine β}
    (h : ∀ t x, r.Runs t x → f x = g x) : r >>= f = r >>= g := by
  induction r with
  | done x => exact h [] x ⟨rfl, rfl⟩
  | ask request next ih =>
    rw [bind_ask, bind_ask]
    congr 1
    funext reply
    exact ih reply fun t x hx => h (⟨request, reply⟩ :: t) x ⟨reply, t, rfl, hx⟩

/-! ### The command -/

/-- Whether the compiler is asked for colour, where standard error is a terminal or is not. -/
def ColorChoice.inColor (isTerminal : Bool) : ColorChoice → Bool
  | .always => true
  | .never => false
  | .auto => isTerminal

namespace Toolchain

variable {t : Trace} {cache : Cache} {settings : Settings} {platform : Platform}
  {crates : List Text} {artifact : Artifact} {isTerminal : Bool}

theorem runs_wantsColor {choice : ColorChoice} {x : Except Failure Bool}
    (hterminal : t.TerminalIs isTerminal) (h : (wantsColor choice).run.Runs t x) :
    x = .ok (choice.inColor isTerminal) := by
  cases choice with
  | auto =>
    obtain ⟨reply, rfl, rfl⟩ := Action.runs_ask.1 h
    rw [hterminal reply List.mem_cons_self]
    rfl
  | always => exact (Action.runs_pure.1 h).2
  | never => exact (Action.runs_pure.1 h).2

/-- **The planned command is a function of the terminal.** -/
theorem runs_planned {x : Except Failure (List Text)} (hterminal : t.TerminalIs isTerminal)
    (h : (plannedCommand cache settings platform crates artifact).run.Runs t x) :
    x = .ok (compileCommand cache settings.toolchain platform
      (settings.output.compilerColor.inColor isTerminal) crates artifact) := by
  obtain ⟨t₁, t₂, inColor, rfl, hcolor, hend⟩ | ⟨failure, hcolor, rfl⟩ := runs_bind.1 h
  · obtain ⟨rfl, rfl⟩ := Action.runs_pure.1 hend
    rw [List.append_nil] at hterminal
    rw [Except.ok.inj (runs_wantsColor hterminal hcolor)]
  · simpa using runs_wantsColor hterminal hcolor

/-- Each crate is linked by a pair of arguments. -/
theorem link_infix_compileCommand (toolchain : ToolchainSettings) (inColor : Bool) {crate : Text}
    (h : crate ∈ crates) :
    ["--extern".toList, crate ++ '=' :: (libraryOf cache platform crate).text] <:+:
      compileCommand cache toolchain platform inColor crates artifact := by
  obtain ⟨front, back, rfl⟩ := List.append_of_mem h
  have hlinks : ["--extern".toList, crate ++ '=' :: (libraryOf cache platform crate).text] <:+:
      linkArguments cache platform (front ++ crate :: back) :=
    ⟨linkArguments cache platform front, linkArguments cache platform back,
      by simp [linkArguments]⟩
  refine hlinks.trans ?_
  rw [compileCommand, List.append_assoc]
  exact List.infix_append ..

/-- The executable and the source are the last arguments. -/
theorem paths_suffix_compileCommand (toolchain : ToolchainSettings) (inColor : Bool) :
    ["-o".toList, artifact.executable.text, artifact.source.text] <:+
      compileCommand cache toolchain platform inColor crates artifact :=
  List.suffix_append _ _

/-- A source that is written is the one file that is. -/
theorem files_of_runs_writeSource {source : Path} {program : Text} {x : Unit}
    (h : (writeSource source program).run.Runs t (.ok x)) :
    t.files = [(source.text, Utf8.encode program)] := by
  obtain ⟨t₁, t₂, made, rfl, hmade, hrest⟩ := runs_lift_bind.1 h
  have hquiet : ∀ reply : Except Refusal Unit,
      (Action.reporting (.scratchNotWritten source) reply).Within [] := Action.every_reporting
  have hnone := hmade.files_eq_nil (Files.within_makeDirs _) (by decide)
  obtain ⟨t₃, t₄, _, rfl, hreported, hrest⟩ := runs_bind_ok.1 hrest
  have hnone' := hreported.files_eq_nil (hquiet made) (by decide)
  obtain ⟨reply, t₅, rfl, hreported'⟩ := runs_ask_bind.1 hrest
  have hnone'' := hreported'.files_eq_nil (hquiet reply) (by decide)
  rw [Trace.files_append, Trace.files_append, hnone, hnone']
  exact congrArg ((source.text, Utf8.encode program) :: ·) hnone''

/-- **What a compiler is run on**: the command that is handed over, with the artifact as the only
result but a failure. -/
theorem runs_of_compile {command : List Text} {x : Except Failure Artifact}
    (h : (compile command artifact).run.Runs t x) :
    (∃ y, (Command.run command none true).run.Runs t y) ∧ ∀ built, x = .ok built →
      built = artifact := by
  obtain ⟨t₁, t₂, launched, rfl, hrun, hend⟩ | ⟨failure, hrun, rfl⟩ := runs_bind.1 h
  · have hends : t₂ = [] ∧ ∀ built, x = .ok built → built = artifact := by
      rcases launched with (_ | e) | done
      · obtain ⟨rfl, rfl⟩ := hend
        simp
      · simp only at hend
        split at hend
        · obtain ⟨rfl, rfl⟩ := hend
          simp
        · obtain ⟨rfl, rfl⟩ := hend
          simp
      · simp only at hend
        split at hend
        · obtain ⟨rfl, rfl⟩ := hend
          simp
        · obtain ⟨rfl, rfl⟩ := hend
          simp
    obtain ⟨rfl, hbuilt⟩ := hends
    exact ⟨⟨_, by simpa using hrun⟩, hbuilt⟩
  · exact ⟨⟨_, hrun⟩, by simp⟩

end Toolchain

namespace Pipeline

variable {p : Pipeline} {t : Trace} {prepared : Prepared} {isTerminal : Bool}

/-! ### In front of the compiler -/

/-- What is handed over to the compiler: its command, and the artifact that it is to make. -/
structure Handed where
  artifact : Artifact
  command : List Text

/-- What comes between the announcements and the compiler. -/
def handOver (p : Pipeline) (prepared : Prepared) (workDir : Path) : Action Handed := do
  let artifact ← Toolchain.artifactFor prepared.script workDir p.settings p.platform
  Toolchain.writeSource artifact.source prepared.program.text
  let command ← Toolchain.plannedCommand p.cache p.settings p.platform prepared.analysis.crates
    artifact
  return ⟨artifact, command⟩

/-- All that building does in front of the compiler. -/
def approach (p : Pipeline) (prepared : Prepared) : Action Handed := do
  let workDir ← p.planning prepared
  p.handOver prepared workDir

theorem compiling_eq_handOver (workDir : Path) :
    p.compiling prepared workDir = p.handOver prepared workDir >>= fun handed =>
      Toolchain.compile handed.command handed.artifact := by
  simp only [compiling, handOver, Toolchain.buildProgram, bind_assoc, pure_bind]

/-- No failure in front of the compiler is an outcome. -/
theorem outcomeOf_of_runs_handOver {workDir : Path} {failure : Failure}
    (h : (p.handOver prepared workDir).run.Runs t (.error failure)) : outcomeOf failure = none := by
  have hguarded : (p.handOver prepared workDir).Guarded (Eq .filesystem) :=
    Action.guarded_bind (Toolchain.guarded_artifactFor rfl _ _ _ _) fun _ =>
      Action.guarded_bind (Toolchain.guarded_writeSource rfl _ _) fun _ =>
        Action.guarded_bind (Toolchain.guarded_plannedCommand _ _ _ _ _) fun _ =>
          Action.guarded_pure _
  cases (hguarded t _ h).fails failure rfl with
  | @reported e hkind =>
    unfold outcomeOf
    split
    · next he =>
      obtain rfl := Failure.reported.inj he
      cases hkind
    · next e' _ he =>
      obtain rfl := Failure.reported.inj he
      exact if_neg (by simp [← hkind])
    · rfl
  | raised => rfl

/-- An attempt at two actions is an attempt at the second one, if no failure of the first is an
outcome. -/
theorem orOutcome_bind {α β : Type} {a : Action α} {f : α → Action β}
    (h : ∀ t failure, a.run.Runs t (.error failure) → outcomeOf failure = none) :
    orOutcome (a >>= f) = a >>= fun x => orOutcome (f x) := by
  refine ExceptT.ext ?_
  rw [orOutcome, Action.run_tryCatch, Action.run_bind, Action.run_bind, bind_assoc,
    Action.run_bind]
  rw [bind_assoc]
  refine Routine.bind_congr fun t x hx => ?_
  cases x with
  | ok x =>
    simp only
    rw [orOutcome, Action.run_tryCatch, Action.run_bind, bind_assoc]
  | error failure =>
    simp [h t failure hx]

/-- **Building is its approach to the compiler, and then an attempt at the compiler.** -/
theorem build_eq_approach (prepared : Prepared) :
    p.build prepared = p.approach prepared >>= fun handed =>
      orOutcome (Toolchain.compile handed.command handed.artifact) := by
  rw [build_eq_planning, approach, bind_assoc]
  refine congrArg (p.planning prepared >>= ·) (funext fun workDir => ?_)
  rw [compiling_eq_handOver]
  exact orOutcome_bind fun t failure => outcomeOf_of_runs_handOver

/-! ### Both computations -/

/-- What is worked out for a script whose paths are known, on a terminal or on none. -/
def plannedFor (p : Pipeline) (prepared : Prepared) (isTerminal : Bool) (artifact : Artifact) :
    Handed :=
  ⟨artifact, Toolchain.compileCommand p.cache p.settings.toolchain p.platform
    (p.settings.output.compilerColor.inColor isTerminal) prepared.analysis.crates artifact⟩

theorem within_report (hreport : p.report = announce) (event : Event) :
    (p.report event).Within [.look, .surroundings, .announce] := by
  rw [hreport]
  exact Action.every_ask (by simp)

/-- **What is announced**: some missing libraries, then the source and the command as planned. -/
theorem runs_planning (hreport : p.report = announce) (hterminal : t.TerminalIs isTerminal)
    {workDir : Path} (h : (p.planning prepared).run.Runs t (.ok workDir)) :
    ∃ artifact found,
      Scratch.paths? prepared.script workDir p.settings.toolchain p.platform = some artifact ∧
      t.files = [] ∧
      t.announced = (p.buildEvents prepared.analysis.crates found artifact.source
        (p.plannedFor prepared isTerminal artifact).command).map Event.words := by
  have hfiles := h.files_eq_nil (within_planning (within_report hreport) (by decide) (by decide) _)
    (by decide)
  obtain ⟨t₁, t₂, base, rfl, hbase, hplan⟩ := runs_bind_ok.1 h
  obtain ⟨t₃, t₄, artifact, rfl, hartifact, hcommands⟩ := runs_bind_ok.1 hplan
  obtain ⟨rfl, hpaths⟩ := Toolchain.paths_of_runs_artifactFor hartifact
  obtain ⟨t₅, t₆, command, rfl, hcommand, hreports⟩ := runs_bind_ok.1 hcommands
  simp only [Trace.terminalIs_append_iff] at hterminal
  obtain rfl := Except.ok.inj (Toolchain.runs_planned hterminal.2.2.1 hcommand)
  obtain ⟨t₇, t₈, _, rfl, hmissing, hlast⟩ := runs_bind_ok.1 hreports
  obtain ⟨found, tested, -, -, -, hall⟩ :=
    runs_reportMissing hreport (Text.nodup_firsts prepared.analysis.crates) hmissing
  rw [hreport] at hlast
  obtain ⟨t₉, t₁₀, rfl, hscratch, -, hcompiling⟩ := runs_announce_bind hlast
  obtain ⟨t₁₁, t₁₂, rfl, hcompile, -, rfl, hx⟩ := runs_announce_bind hcompiling
  obtain rfl := Except.ok.inj hx
  refine ⟨artifact, found, hpaths, hfiles, ?_⟩
  have hsilent₁ := hbase.announced_eq_nil within_base (by decide)
  have hsilent₅ := hcommand.announced_eq_nil (Toolchain.within_plannedCommand ..) (by decide)
  simp [hsilent₁, hsilent₅, (hall rfl).2, hscratch, hcompile, buildEvents, plannedFor]

/-- **What is handed over**: the artifact and its command as planned, behind the program. -/
theorem runs_handOver (hterminal : t.TerminalIs isTerminal) {workDir : Path} {handed : Handed}
    (h : (p.handOver prepared workDir).run.Runs t (.ok handed)) :
    ∃ artifact,
      Scratch.paths? prepared.script workDir p.settings.toolchain p.platform = some artifact ∧
      t.files = [(artifact.source.text, Utf8.encode prepared.program.text)] ∧
      t.announced = [] ∧ handed = p.plannedFor prepared isTerminal artifact := by
  obtain ⟨t₁, t₂, artifact, rfl, hartifact, hrest⟩ := runs_bind_ok.1 h
  obtain ⟨rfl, hpaths⟩ := Toolchain.paths_of_runs_artifactFor hartifact
  obtain ⟨t₃, t₄, _, rfl, hwrite, hlast⟩ := runs_bind_ok.1 hrest
  obtain ⟨t₅, t₆, command, rfl, hcommand, rfl, hx⟩ := runs_bind_ok.1 hlast
  simp only [Trace.terminalIs_append_iff] at hterminal
  obtain rfl := Except.ok.inj (Toolchain.runs_planned hterminal.2.2.1 hcommand)
  refine ⟨artifact, hpaths, ?_, ?_, Except.ok.inj hx⟩
  · have hnone := hcommand.files_eq_nil (Toolchain.within_plannedCommand ..) (by decide)
    simp [Toolchain.files_of_runs_writeSource hwrite, hnone]
  · have hsilent₃ := hwrite.announced_eq_nil (Toolchain.within_writeSource ..) (by decide)
    have hsilent₅ := hcommand.announced_eq_nil (Toolchain.within_plannedCommand ..) (by decide)
    simp [hsilent₃, hsilent₅]

/-! ### What is announced is what is done -/

/-- Along the trace, what is handed over has been announced, and the program has been written. -/
structure Announces (p : Pipeline) (prepared : Prepared) (handed : Handed) (t : Trace) : Prop where
  /-- Some crates are missing, each of which the command links with the library that is named; then
  come the source and the command. -/
  announced : ∃ missing : List Text, t.announced
      = missing.map (fun crate =>
          ("missing-dep".toList, crate ++ " (".toList ++ p.libraryText crate ++ [')']))
        ++ [("scratch".toList, handed.artifact.source.text),
          ("compile".toList, "command=".toList ++ Text.shellLine handed.command)] ∧
    ∀ crate ∈ missing,
      ["--extern".toList, crate ++ '=' :: p.libraryText crate] <:+: handed.command
  /-- The source is the one file that has been written, with the text of the program. -/
  files : t.files = [(handed.artifact.source.text, Utf8.encode prepared.program.text)]
  /-- The command ends with the paths of the artifact. -/
  paths : ["-o".toList, handed.artifact.executable.text, handed.artifact.source.text]
    <:+ handed.command

theorem announces_of_runs_approach (hreport : p.report = announce)
    (hterminal : t.TerminalIs isTerminal) {handed : Handed}
    (h : (p.approach prepared).run.Runs t (.ok handed)) : p.Announces prepared handed t := by
  obtain ⟨t₁, t₂, workDir, rfl, hplanning, hhandOver⟩ := runs_bind_ok.1 h
  rw [Trace.terminalIs_append_iff] at hterminal
  obtain ⟨artifact, found, hpaths, hnone, hannounced⟩ :=
    runs_planning hreport hterminal.1 hplanning
  obtain ⟨artifact', hpaths', hfiles, hsilent, rfl⟩ := runs_handOver hterminal.2 hhandOver
  -- both computations come to the same paths
  obtain rfl : artifact = artifact' := Option.some.inj (hpaths.symm.trans hpaths')
  constructor
  · refine ⟨(Text.firsts prepared.analysis.crates).filter fun crate => !found crate, ?_, ?_⟩
    · simp only [Trace.announced_append, hannounced, hsilent, List.append_nil, buildEvents,
        missingEvents, List.map_append, List.map_map]
      rfl
    · intro crate hcrate
      exact Toolchain.link_infix_compileCommand _ _
        (Text.mem_firsts.1 (List.mem_filter.1 hcrate).1)
  · rw [Trace.files_append, hnone, hfiles]
    rfl
  · exact Toolchain.paths_suffix_compileCommand _ _

/-- In front of the compiler nothing is launched. -/
theorem idle_approach (hreport : p.report = announce) (prepared : Prepared) :
    (p.approach prepared).Idle := by
  refine Action.every_bind ((within_planning (within_report hreport) (by decide) (by decide)
    _).idle (by decide)) fun workDir => ?_
  refine Action.every_bind (Toolchain.idle_artifactFor ..) fun artifact => ?_
  refine Action.every_bind (Toolchain.idle_writeSource ..) fun _ => ?_
  exact Action.every_bind (Toolchain.idle_plannedCommand ..) fun command => trivial

/-- What comes behind the approach is the command that is handed over. -/
theorem runs_compiler {handed : Handed} (hne : handed.command ≠ [])
    {x : Except Failure (Except Outcome Artifact)}
    (h : (orOutcome (Toolchain.compile handed.command handed.artifact)).run.Runs t x) :
    (∃ result, (Command.run handed.command none true).run.Runs t result) ∧ t.announced = [] ∧
      (∀ launch ∈ t.launches, Launches handed.command launch) ∧
      ∀ built, x = .ok (.ok built) → built = handed.artifact := by
  obtain ⟨y, hy, hattempted⟩ := runs_orOutcome h
  obtain ⟨⟨result, hrun⟩, hbuilt⟩ := Toolchain.runs_of_compile hy
  refine ⟨⟨result, hrun⟩, hrun.announced_eq_nil (Command.within_run ..) (by decide), ?_, ?_⟩
  · obtain ⟨program, -, hquiet, -⟩ | ⟨before, launch, reply, rfl, hquiet, hlaunches, -⟩ :=
      Command.runs_run hne hrun
    · simp [hquiet.launches]
    · have hlaunched : Trace.launches (before ++ [⟨.launch launch, reply⟩]) = [launch] := by
        rw [Trace.launches, List.filterMap_append]
        exact congrArg (· ++ [launch]) hquiet.launches
      simpa [hlaunched] using hlaunches
  · rintro built rfl
    cases hattempted with
    | value => exact hbuilt built rfl

/-- **What is announced is what is done.** A run of building fails in front of the compiler, where
nothing is launched, or it comes to the compiler. As long as standard error stays a terminal, or
stays none, what is handed over to the compiler has then been announced; its command is the one that
is run, and its artifact is the only one that can come of it. -/
theorem announces_build (hreport : p.report = announce) (hterminal : t.TerminalIs isTerminal)
    {x : Except Failure (Except Outcome Artifact)} (h : (p.build prepared).run.Runs t x) :
    (∃ failure, x = .error failure ∧ (p.approach prepared).run.Runs t (.error failure) ∧
        t.Calm) ∨
      ∃ before during handed, t = before ++ during ∧ before.Calm ∧
        (p.approach prepared).run.Runs before (.ok handed) ∧ p.Announces prepared handed before ∧
        (∃ result, (Command.run handed.command none true).run.Runs during result) ∧
        during.announced = [] ∧ (∀ launch ∈ during.launches, Launches handed.command launch) ∧
        ∀ built, x = .ok (.ok built) → built = handed.artifact := by
  rw [build_eq_approach] at h
  obtain ⟨before, during, handed, rfl, happroach, hcompiler⟩ | ⟨failure, happroach, rfl⟩ :=
    runs_bind.1 h
  · rw [Trace.terminalIs_append_iff] at hterminal
    have hannounces := announces_of_runs_approach hreport hterminal.1 happroach
    have hne : handed.command ≠ [] := by
      intro hnil
      have hpaths := hannounces.paths
      rw [hnil] at hpaths
      simp at hpaths
    exact .inr ⟨before, during, handed, rfl, happroach.calm (idle_approach hreport prepared),
      happroach, hannounces, runs_compiler hne hcompiler⟩
  · exact .inl ⟨failure, rfl, happroach, happroach.calm (idle_approach hreport prepared)⟩

/-- A host on which a library is missing, with standard error on a terminal. -/
def terminalHost : (request : Request) → request.Reply
  | .isTerminal _ => true
  | request => lackingHost request

/-- A script that declares two crates. -/
def twoCrates : Prepared where
  script := Path.ofText "s.rs"
  text := []
  analysis := ⟨true, [], ["serde".toList, "regex".toList]⟩
  program := ⟨"fn main() {}", false⟩

/-- One of two crates is missing, and on a terminal the compiler is asked for colour. -/
theorem announces_build_colored :
    let t := ((recorder.build twoCrates).run.follow terminalHost).1
    let built : Artifact := ⟨Path.ofText "/work/temp/s.rs", Path.ofText "/work/temp/s"⟩
    (recorder.build twoCrates).run.Runs t (.ok (.ok built)) ∧
      recorder.report = announce ∧ t.TerminalIs true ∧
      ∃ before during handed, t = before ++ during ∧ recorder.Announces twoCrates handed before ∧
        built = handed.artifact ∧ t.announced = [
          ("missing-dep".toList, "regex (/cache/dy-cache/libregex.so)".toList),
          ("scratch".toList, "/work/temp/s.rs".toList),
          ("compile".toList, ("command=rustc -C prefer-dynamic -C debuginfo=0 " ++
            "-L /cache/dy-cache --extern serde=/cache/dy-cache/libserde.so " ++
            "--extern regex=/cache/dy-cache/libregex.so " ++
            "--color always -o /work/temp/s /work/temp/s.rs").toList)] := by
  intro t built
  have hvalue : ((recorder.build twoCrates).run.follow terminalHost).2 = .ok (.ok built) := by
    decide +kernel
  have hruns := Routine.runs_follow terminalHost (recorder.build twoCrates).run
  rw [hvalue] at hruns
  have hterminal : t.TerminalIs true := fun reply hreply =>
    Routine.reply_of_mem_follow (e := ⟨.isTerminal .errors, reply⟩) hreply
  refine ⟨hruns, rfl, hterminal, ?_⟩
  obtain ⟨failure, hx, -⟩ | ⟨before, during, handed, ht, -, -, hannounces, -, -, -, hbuilt⟩ :=
    announces_build rfl hterminal hruns
  · simp at hx
  · refine ⟨before, during, handed, ht, hannounces, hbuilt built rfl, ?_⟩
    simp only [String.toList_append]
    simp (disch := rfl) only [Text.toList_eq]
    decide +kernel

end Pipeline

end Oneshot
