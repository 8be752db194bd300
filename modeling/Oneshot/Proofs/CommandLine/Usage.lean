import Oneshot.Proofs.CommandLine.Agreement
import Oneshot.Proofs.CommandLine.Diagnostics

/-!
# A Mistaken Script

A script that is missing, or that has another extension, is a mistake in the use of the program.
`run` and `expand` do the same then, whatever else they are asked for: they find the cache
directory, open a logger and tell the mistake (`tellMistake`). So neither settings nor a cache nor
the script is looked at, and nothing is changed. The mistake itself is not the first thing that is
looked at, though: without a home directory there is no place for the cache, and the program ends
with an escape before it has told anything.

* `mistake?`: what is wrong with a script.
* `runOn_of_mistake`, `expand_of_mistake`: both commands are the same action then.
* `MistakeEnds`, `runs_tellMistake`: how this action ends.
* `mistake_told`: both commands, whatever they are asked for.
-/

namespace Oneshot

open Action (runs_bind runs_lift_bind runs_ask_bind every_bind every_ask every_lift)

/-- The request is about the surroundings, or it prints on standard error. -/
def Request.Tells : Request → Prop
  | .print channel _ => channel = .errors
  | request => request.topic = .surroundings

theorem Action.Within.tells {α : Type} {a : Action α} (h : a.Within [.surroundings]) :
    a.run.Every Request.Tells := by
  refine Routine.Every.imp h fun request hmem => ?_
  cases request <;> simp_all [Request.Tells]

/-- Lifting a routine lifts its parts. -/
theorem Action.lift_bind {α β : Type} (r : Routine α) (f : α → Routine β) :
    (ExceptT.lift (r >>= f) : Action β) = ExceptT.lift r >>= fun x => ExceptT.lift (f x) := by
  refine ExceptT.ext ?_
  rw [run_lift, run_bind, run_lift, Routine.bind_assoc, Routine.bind_assoc]
  rfl

namespace CommandLine

/-! ### The commands -/

/-- A command that takes a script, with all that it is asked for. -/
inductive ScriptCommand where
  | run (platform : Platform) (request : RunRequest)
  | expand (request : ExpandRequest)
deriving Repr

namespace ScriptCommand

/-- The script that is asked for. -/
def script : ScriptCommand → Option Path
  | .run _ request => request.script
  | .expand request => request.script

/-- The cache directory that is asked for. -/
def cacheDir : ScriptCommand → Option Path
  | .run _ request => request.cacheDir
  | .expand request => request.cacheDir

/-- What a command does. -/
def action : ScriptCommand → Action Int
  | .run platform request => runOn platform request
  | .expand request => CommandLine.expand request

end ScriptCommand

/-- What is wrong with the script of a command: it is missing, or it has another extension. -/
def mistake? : Option Path → Option RunError
  | none => some .missingScript
  | some script =>
    if script.extension = scriptExtension then none
    else some (.wrongExtension script scriptExtension)

variable {script asked : Option Path} {e : RunError} {t : Trace}

theorem kind_of_mistake (h : mistake? script = some e) : e.kind = .usage := by
  unfold mistake? at h
  split at h
  · obtain rfl := Option.some.inj h
    rfl
  · split at h
    · simp at h
    · obtain rfl := Option.some.inj h
      rfl

theorem requireScript_of_mistake (h : mistake? script = some e) :
    requireScript script = Action.fail e := by
  cases script with
  | none =>
    obtain rfl := Option.some.inj h
    rfl
  | some path =>
    rw [mistake?] at h
    split at h
    · simp at h
    · next hextension =>
      obtain rfl := Option.some.inj h
      simp [requireScript, checkScript, hextension]

/-- No settings are read for a script that is a mistake. -/
theorem loading_of_mistake (h : mistake? script = some e) (root : Path) :
    loading script root = Action.fail e := by
  rw [loading, requireScript_of_mistake h]
  rfl

/-- A mistake is told once there is a cache directory. -/
def tellMistake (asked : Option Path) (e : RunError) : Action Int := do
  let _ ← cacheRoot asked
  let logger ← Logger.plain
  ExceptT.lift (logger.error e.message)
  return 1

/-- Tells what has gone wrong. The exit status is 1. -/
def tell (logger : Logger) (message : Text) : Action Int := do
  ExceptT.lift (logger.error message)
  return 1

/-- An error is told by its message, unless the output of the compiler belongs to it. -/
theorem report_of_not_compile {logger : Logger} (hdebug : logger.debug = false)
    (h : e.kind ≠ .compile) :
    logger.report e.diagnostic = logger.error e.message >>= fun _ => pure 1 := by
  have hreplayed : e.diagnostic.replayed = none := by
    cases e <;> first | rfl | exact absurd rfl h
  simp only [Logger.report, hreplayed, note_of_not_debug hdebug]
  rfl

/-- Loggers that are opened alike differ by their windows only. -/
theorem opened_bind {α : Type} (emoji color debug : Bool) (f : Logger → Action α) :
    Logger.opened emoji color debug >>= f
      = Console.Window.opened >>= fun window => f ⟨emoji, color, debug, window⟩ := by
  simp [Logger.opened]

theorem plain_bind {α : Type} (f : Logger → Action α) :
    Logger.plain >>= f = Console.Window.opened >>= fun window => f ⟨false, true, false, window⟩ :=
  opened_bind false true false f

/-- An error is told by an open logger. -/
theorem showing_pure {α : Type} (h : e.kind ≠ .compile) {logger : Logger}
    (hdebug : logger.debug = false) :
    showing (pure logger) (fun _ => false) (.reported e) = (do
      ExceptT.lift (logger.error e.message)
      return .error 1 : Action (Except Int α)) := by
  simp only [showing, Bool.false_eq_true, if_false, pure_bind, report_of_not_compile hdebug h,
    Action.lift_bind, bind_assoc]
  rfl

/-- An error is told by a logger that is opened for it. -/
theorem showing_plain {α : Type} (h : e.kind ≠ .compile) :
    showing Logger.plain (fun _ => false) (.reported e) = (do
      let logger ← Logger.plain
      ExceptT.lift (logger.error e.message)
      return .error 1 : Action (Except Int α)) := by
  rw [plain_bind]
  refine (plain_bind _).trans (congrArg (Console.Window.opened >>= ·) (funext fun window => ?_))
  exact (pure_bind _ _).symm.trans (showing_pure h rfl)

theorem showing_pure_bind {α : Type} {logger : Logger}
    {f : Except Int α → Action Int} (hkind : e.kind ≠ .compile)
    (hdebug : logger.debug = false) (hf : ∀ code, f (.error code) = pure code) :
    showing (pure logger) (fun _ => false) (.reported e) >>= f = tell logger e.message := by
  simp only [showing_pure hkind hdebug, bind_assoc, pure_bind, hf, tell]

theorem showing_plain_bind {α : Type} {f : Except Int α → Action Int} (hkind : e.kind ≠ .compile)
    (hf : ∀ code, f (.error code) = pure code) :
    showing Logger.plain (fun _ => false) (.reported e) >>= f
      = Logger.plain >>= fun logger => tell logger e.message := by
  simp only [showing_plain hkind, bind_assoc, pure_bind, hf, tell]

/-- What is told is told by the logger. -/
theorem runs_tell {logger : Logger} {message : Text} {x : Except Failure Int}
    (h : (tell logger message).run.Runs t x) : (logger.error message).Runs t () ∧ x = .ok 1 := by
  obtain ⟨t₁, t₂, _, rfl, htold, rfl, rfl⟩ := runs_lift_bind.1 h
  exact ⟨by simpa using htold, rfl⟩

/-- **A script that is a mistake** ends `run` before there are any settings. -/
theorem runOn_of_mistake {platform : Platform} {r : RunRequest} (h : mistake? r.script = some e) :
    runOn platform r = tellMistake r.cacheDir e := by
  have htold : (reportingTo Logger.plain (fun _ => false) (Action.fail e) :
      Action (Except Int (Path × Settings))) = _ := showing_plain (by simp [kind_of_mistake h])
  simp only [runOn_eq, loading_of_mistake h, htold, tellMistake, bind_assoc, pure_bind]
  rfl

/-- **A script that is a mistake** ends `expand` alike. -/
theorem expand_of_mistake {r : ExpandRequest} (h : mistake? r.script = some e) :
    expand r = tellMistake r.cacheDir e := by
  have htold : ∀ window, (reportingTo (pure ⟨false, true, false, window⟩) (fun _ => false)
      (Action.fail e) : Action (Except Int (Path × Settings))) = _ := fun window =>
    showing_pure (by simp [kind_of_mistake h]) rfl
  rw [expand]
  refine congrArg (cacheRoot r.cacheDir >>= ·) (funext fun root => ?_)
  rw [plain_bind, plain_bind]
  refine congrArg (Console.Window.opened >>= ·) (funext fun window => ?_)
  change reportingTo _ _ (loading r.script root) >>= _ = _
  rw [loading_of_mistake h, htold]
  simp only [bind_assoc, pure_bind]

theorem ScriptCommand.action_of_mistake {command : ScriptCommand}
    (h : mistake? command.script = some e) : command.action = tellMistake command.cacheDir e := by
  cases command with
  | run platform request => exact runOn_of_mistake h
  | expand request => exact expand_of_mistake h

/-! ### The ends of a mistake -/

/-- Nothing but the mistake is told, and nothing but the surroundings is asked for. -/
theorem tells_tellMistake (asked : Option Path) (e : RunError) :
    (tellMistake asked e).run.Every Request.Tells := by
  refine every_bind (within_cacheRoot asked).tells fun _ => ?_
  refine every_bind (Logger.within_opened ..).tells fun logger => ?_
  exact every_bind (every_lift (every_printMessage rfl rfl fun _ => rfl)) fun _ => trivial

/-- How a command ends whose script is a mistake. -/
inductive MistakeEnds (asked : Option Path) (e : RunError) (t : Trace) : Except Failure Int → Prop
  /-- The mistake is told, and it is all that is told. -/
  | told (rendering : Console.Rendering)
      (hdiagnostics : t.diagnostics = [Console.messageText .error false rendering
        (Logger.programName ++ " error: ".toList ++ e.message)]) : MistakeEnds asked e t (.ok 1)
  /-- Nothing is shown in a window without columns. -/
  | hidden {vars : Variables} (hvars : ⟨.environment, vars⟩ ∈ t)
      (hcolumns : Console.Window.sizeOf? (vars.get? "COLUMNS") = .ok (some 0))
      (hdiagnostics : t.diagnostics = []) : MistakeEnds asked e t (.ok 1)
  /-- No cache directory is given, and none is found. -/
  | homeless {escape : Escape} (hasked : asked = none) (hroot : ∃ part, part <+: t ∧
        (cacheRoot none).run.Runs part (.error (.escaped escape)))
      (hdiagnostics : t.diagnostics = []) : MistakeEnds asked e t (.error (.escaped escape))
  /-- The size of the window is no number. -/
  | unmeasured {vars : Variables} {fault : Text.NumeralFault} (hvars : ⟨.environment, vars⟩ ∈ t)
      (hwindow : Console.Window.ofVariables vars = .error fault)
      (hdiagnostics : t.diagnostics = []) :
      MistakeEnds asked e t (.error (.escaped (.numeral fault)))

/-- A logger is opened for the window that the environment describes. -/
theorem runs_opened {emoji color debug : Bool} {x : Except Failure Logger}
    (h : (Logger.opened emoji color debug).run.Runs t x) :
    ∃ vars, t = [⟨.environment, vars⟩] ∧
      ((∃ window, Console.Window.ofVariables vars = .ok window ∧
          x = .ok ⟨emoji, color, debug, window⟩) ∨
        ∃ fault, Console.Window.ofVariables vars = .error fault ∧
          x = .error (.escaped (.numeral fault))) := by
  rw [Logger.opened, Console.Window.opened, bind_assoc] at h
  obtain ⟨vars, rest, rfl, hrest⟩ := runs_ask_bind.1 h
  refine ⟨vars, ?_⟩
  cases hwindow : Console.Window.ofVariables vars with
  | ok window =>
    rw [hwindow] at hrest
    obtain ⟨rfl, rfl⟩ := hrest
    exact ⟨rfl, .inl ⟨window, rfl, rfl⟩⟩
  | error fault =>
    rw [hwindow] at hrest
    obtain ⟨rfl, rfl⟩ := hrest
    exact ⟨rfl, .inr ⟨fault, rfl, rfl⟩⟩

/-- A message is printed on standard error, if the window shows any. Only a terminal is given more
than text. -/
theorem runs_printMessage {window : Console.Window} {level : Console.Level} {withMark : Bool}
    {wantsColor : Option Bool} {message : Text}
    (h : (Console.printMessage window level withMark wantsColor message).Runs t ()) :
    (∃ rendering, (⟨.isTerminal .errors, true⟩ ∉ t → rendering = .plain) ∧
        t.diagnostics = [Console.messageText level withMark rendering message]) ∨
      window.columns = some 0 ∧ t.diagnostics = [] := by
  obtain ⟨isTerminal, t₁, rfl, vars, t₂, rfl, hprint⟩ := h
  change (if window.shows (isTerminal && Console.isDumb vars) then
    Routine.request (.print .errors (Console.messageText level withMark
      (Console.messageRendering (wantsColor.getD isTerminal) isTerminal vars) message))
    else pure ()).Runs t₂ () at hprint
  split at hprint
  · obtain ⟨-, t₃, rfl, rfl, -⟩ := hprint
    refine .inl ⟨_, fun hnot => ?_, rfl⟩
    obtain rfl : isTerminal = false := by
      cases isTerminal with
      | true => exact absurd List.mem_cons_self hnot
      | false => rfl
    simp [Console.messageRendering]
  · next hshows =>
    obtain ⟨rfl, -⟩ := hprint
    refine .inr ⟨by_contra fun hcolumns => hshows ?_, rfl⟩
    exact Console.Window.shows_of_columns hcolumns _

/-- The columns of a window are those that a variable gives. -/
theorem columns_of_ofVariables {vars : Variables} {window : Console.Window}
    (h : Console.Window.ofVariables vars = .ok window) :
    Console.Window.sizeOf? (vars.get? "COLUMNS") = .ok window.columns := by
  rw [Console.Window.ofVariables] at h
  generalize Console.Window.sizeOf? (vars.get? "COLUMNS") = columns? at h ⊢
  generalize Console.Window.sizeOf? (vars.get? "LINES") = rows? at h
  cases columns? with
  | error fault => simp [Bind.bind, Except.bind] at h
  | ok columns =>
    cases rows? with
    | error fault => simp [Bind.bind, Except.bind] at h
    | ok rows =>
      obtain rfl : (⟨columns, rows⟩ : Console.Window) = window := Except.ok.inj h
      rfl

/-- **How a mistake ends.** -/
theorem runs_tellMistake {x : Except Failure Int} (h : (tellMistake asked e).run.Runs t x) :
    MistakeEnds asked e t x := by
  obtain ⟨t₁, rest, root, rfl, hroot, h⟩ | ⟨failure, hroot, rfl⟩ := runs_bind.1 h
  all_goals
    have hsilent := Trace.diagnostics_eq_nil (hroot.topic_mem (within_cacheRoot asked)) (by decide)
  swap
  · obtain ⟨escape, rfl⟩ := (unreported_cacheRoot asked).exists_escape hroot
    cases asked with
    | some path => simp [cacheRoot] at hroot
    | none => exact .homeless rfl ⟨t, List.prefix_rfl, hroot⟩ hsilent
  obtain ⟨t₂, t₃, logger, rfl, hlogger, h⟩ | ⟨failure, hlogger, rfl⟩ := runs_bind.1 h
  all_goals
    obtain ⟨vars, rfl, ⟨window, hwindow, hx⟩ | ⟨fault, hwindow, hx⟩⟩ := runs_opened hlogger
  · obtain rfl := Except.ok.inj hx
    obtain ⟨htold, rfl⟩ := runs_tell h
    have hsame : Trace.diagnostics (t₁ ++ ([⟨.environment, vars⟩] ++ t₃)) = t₃.diagnostics := by
      rw [Trace.diagnostics_append, hsilent]
      rfl
    obtain ⟨rendering, -, hprinted⟩ | ⟨hcolumns, hnone⟩ := runs_printMessage htold
    · exact .told rendering (hsame.trans hprinted)
    · exact .hidden (by simp) (hcolumns ▸ columns_of_ofVariables hwindow) (hsame.trans hnone)
  · simp at hx
  · simp at hx
  · obtain rfl := Except.error.inj hx
    refine .unmeasured (by simp) hwindow ?_
    rw [Trace.diagnostics_append, hsilent]
    rfl

/-- **A mistaken script is told first.** Whatever `run` or `expand` is asked for with a script that
is missing or has another extension, and whatever the host replies, the command asks about its
surroundings and prints on standard error, and it does nothing else, so that it leaves every volume
as it is. It tells the mistake with the exit status 1; but without a cache directory, or with a
window whose size is no number, it is ended by an escape before. -/
theorem mistake_told {command : ScriptCommand} (hmistake : mistake? command.script = some e)
    {x : Except Failure Int} (h : command.action.run.Runs t x) :
    e.kind = .usage ∧ (∀ exchange ∈ t, exchange.request.Tells) ∧
      (∀ v v' : Volume, v.Along t v' → v' = v) ∧ MistakeEnds command.cacheDir e t x := by
  rw [ScriptCommand.action_of_mistake hmistake] at h
  have htells : (tellMistake command.cacheDir e).run.Every Request.Tells := tells_tellMistake ..
  refine ⟨kind_of_mistake hmistake, h.every htells, fun v v' halong => ?_, runs_tellMistake h⟩
  have hwithin : (tellMistake command.cacheDir e).Within [.surroundings, .print] :=
    Routine.Every.imp htells fun request hrequest => by
      cases request <;> simp_all [Request.Tells]
  exact (Volume.after_quiet (hwithin.mono (by decide)) v).of_runs h halong

/-- A run without a script, with its cache in a given directory. -/
def scriptless : ScriptCommand :=
  .run .linux ⟨none, [], false, none, none, false, some (Path.ofText "/cache")⟩

/-- A run without a script is told so, before any volume is looked at. -/
theorem mistake_told_missing :
    mistake? scriptless.script = some .missingScript ∧
      ∃ t, scriptless.action.run.Runs t (.ok 1) ∧
        Trace.diagnostics t = ["snippet-runner error: please supply a source file\n"] ∧
        (∀ exchange ∈ t, exchange.request.Tells) ∧
        ∀ v v' : Volume, v.Along t v' → v' = v := by
  have hvalue : (scriptless.action.run.follow killingHost).2 = .ok 1 := by
    decide +kernel
  have hdiagnostics : Trace.diagnostics (scriptless.action.run.follow killingHost).1
      = ["snippet-runner error: please supply a source file\n"] := by
    decide +kernel
  have hruns := Routine.runs_follow killingHost scriptless.action.run
  rw [hvalue] at hruns
  obtain ⟨-, htells, hsame, -⟩ := mistake_told (e := .missingScript) rfl hruns
  exact ⟨rfl, _, hruns, hdiagnostics, htells, hsame⟩

/-- A host whose environment places the cache in the home directory of an unknown account. -/
def homelessHost : (request : Request) → request.Reply
  | .environment => [("SNIPPET_RUNNER_HOME", "~nobody/cache")]
  | request => killingHost request

/-- **A mistaken script is not always told first**: without a home directory for the cache, both
commands are ended by an escape and tell nothing. -/
theorem mistake_untold_homeless :
    let script : Option Path := some (Path.ofText "notes.txt")
    let run : ScriptCommand := .run .linux ⟨script, [], false, none, none, false, none⟩
    let expand : ScriptCommand := .expand ⟨script, false, none⟩
    (mistake? script).isSome ∧ ∀ command ∈ [run, expand], ∃ t, Trace.diagnostics t = [] ∧
      command.action.run.Runs t (.error (.escaped .noHome)) := by
  intro script run expand
  refine ⟨rfl, fun command hcommand => ?_⟩
  have hruns := Routine.runs_follow homelessHost command.action.run
  refine ⟨(command.action.run.follow homelessHost).1, ?_, ?_⟩
  all_goals obtain rfl | rfl : command = run ∨ command = expand := by simpa using hcommand
  · decide +kernel
  · decide +kernel
  · have hran : (run.action.run.follow homelessHost).2 = .error (.escaped .noHome) := by
      decide +kernel
    exact hran ▸ hruns
  · have hexpanded : (expand.action.run.follow homelessHost).2 = .error (.escaped .noHome) := by
      decide +kernel
    exact hexpanded ▸ hruns

end CommandLine

end Oneshot
