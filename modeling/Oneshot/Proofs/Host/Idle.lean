import Oneshot.Proofs.Host.Topics

/-!
# Idle Routines

Most of what the runner does starts no process and looks for none: it reads and writes files, asks
for the environment and prints. Such a routine is idle. Along its trace nothing is launched,
whatever the host replies, so that a run is marked by the few places where it is not idle.

Every stage up to the compiler is idle, and so is everything that is printed.

* `Routine.Idle`: a routine that neither launches a command nor looks for a program.
* `Routine.Within.idle`: what keeps to idle topics is idle.
* `Cache.idle_ensure`, `Pipeline.idle_prepare`, `Pipeline.idle_planning`: the stages in front of the
  compiler.
* `Logger.idle_report`, `CommandLine.idle_sayEvent`: what is printed.
-/

namespace Oneshot

/-- A request that neither launches a command nor looks for a program. -/
def Request.Idle : Request → Prop
  | .launch _ | .isExecutable _ => False
  | _ => True

/-- A routine that neither launches a command nor looks for a program. -/
abbrev Routine.Idle {α : Type} (r : Routine α) : Prop :=
  r.Every Request.Idle

/-- An action that neither launches a command nor looks for a program. -/
abbrev Action.Idle {α : Type} (a : Action α) : Prop :=
  a.run.Every Request.Idle

/-- The topics of idle requests. -/
def Topic.idle : List Topic :=
  [.look, .arrange, .write, .surroundings, .print, .announce]

theorem Request.idle_iff {request : Request} : request.Idle ↔ request.topic ∈ Topic.idle := by
  cases request with
  | launch command =>
    rw [Request.topic]
    split <;> exact ⟨False.elim, fun h => by simp [Topic.idle] at h⟩
  | isExecutable place => exact ⟨False.elim, fun h => by simp [Topic.idle] at h⟩
  | isTerminal channel => cases channel <;> exact ⟨fun _ => by simp [Topic.idle], fun _ => trivial⟩
  | _ => exact ⟨fun _ => by simp [Topic.idle], fun _ => trivial⟩

/-- What keeps to idle topics is idle. -/
theorem Routine.Within.idle {α : Type} {r : Routine α} {topics : List Topic} (h : r.Within topics)
    (hsub : topics ⊆ Topic.idle) : r.Idle :=
  h.imp fun _ hmem => Request.idle_iff.2 (hsub hmem)

theorem Action.Within.idle {α : Type} {a : Action α} {topics : List Topic} (h : a.Within topics)
    (hsub : topics ⊆ Topic.idle) : a.Idle :=
  Routine.Within.idle h hsub

/-- What is idle keeps to idle topics. -/
theorem Action.Idle.within {α : Type} {a : Action α} (h : a.Idle) : a.Within Topic.idle :=
  h.imp fun _ hidle => Request.idle_iff.1 hidle

/-! ### What is printed -/

namespace Logger

theorem idle_opened (emoji color debug : Bool) : (Logger.opened emoji color debug).Idle :=
  (within_opened ..).idle (by decide)

theorem idle_note (logger : Logger) (message : Text) : (logger.note message).Idle :=
  (logger.within_note message).idle (by decide)

theorem idle_report (logger : Logger) (d : Diagnostic) : (logger.report d).Idle :=
  (logger.within_report d).idle (by decide)

end Logger

theorem CommandLine.idle_sayEvent (logger : Logger) (showExpanded : Bool) (event : Event) :
    (sayEvent logger showExpanded event).Idle :=
  (within_sayEvent ..).idle (by decide)

/-! ### Files -/

namespace Files

theorem idle_hasKind (wanted : FileKind) (path : Path) : (hasKind wanted path).Idle :=
  (within_hasKind wanted path).idle (by decide)

theorem idle_makeDirs (path : Path) : (makeDirs path).Idle :=
  (within_makeDirs path).idle (by decide)

theorem idle_readText (path : Path) (wrap : ReadFault → RunError) : (readText path wrap).Idle :=
  (within_readText path wrap).idle (by decide)

end Files

/-! ### The cache -/

theorem Cache.idle_ensure (root : Path) : (ensure root).Idle :=
  (within_ensure root).idle (by decide)

/-! ### The stages in front of the compiler -/

namespace Toolchain

theorem idle_workDir : workDir.Idle :=
  within_workDir.idle (by decide)

theorem idle_absolutePath (path : Path) : (absolutePath path).Idle :=
  (within_absolutePath path).idle (by decide)

theorem idle_artifactFor (script workDir : Path) (settings : Settings) (platform : Platform) :
    (artifactFor script workDir settings platform).Idle :=
  (within_artifactFor ..).idle (by decide)

theorem idle_plannedCommand (cache : Cache) (settings : Settings) (platform : Platform)
    (crates : List Text) (artifact : Artifact) :
    (plannedCommand cache settings platform crates artifact).Idle :=
  (within_plannedCommand ..).idle (by decide)

theorem idle_writeSource (source : Path) (program : Text) : (writeSource source program).Idle :=
  (within_writeSource ..).idle (by decide)

end Toolchain

namespace Pipeline

variable {p : Pipeline}

theorem idle_prepare (hreport : ∀ event, (p.report event).Idle) (script : Path) :
    (p.prepare script).Idle :=
  (within_prepare (fun event => (hreport event).within) (by decide) script).idle
    (List.Subset.refl _)

theorem idle_planning (hreport : ∀ event, (p.report event).Idle) (prepared : Prepared) :
    (p.planning prepared).Idle :=
  (within_planning (fun event => (hreport event).within) (by decide) (by decide) prepared).idle
    (List.Subset.refl _)

end Pipeline

end Oneshot
