import Oneshot.Failure
import Oneshot.Text.Line

/-!
# Files and directories

What the stages ask of the file system, in terms of single requests.

A test whether something is a file or a directory takes a missing path, a path through a file, a
path through a loop of links, a bad descriptor and a path with a NUL for "no"; any other refusal is
passed on.
-/

namespace Oneshot

namespace Files

/-- Whether a refusal only says that nothing stands at a path. -/
def isAbsence : Errno → Bool
  | .noEntry | .notDirectory | .badDescriptor | .linkLoop => true
  | _ => false

/-- Whether something of the given kind stands at a path. -/
def hasKind (wanted : FileKind) (path : Path) : Routine (Except OsError Bool) := do
  match ← Routine.request (.kind path.text) with
  | .ok kind => return .ok (kind == wanted)
  | .error (.os e) => return if isAbsence e.cause then .ok false else .error e
  | .error _ => return .ok false

/-- Whether a directory stands at a path. -/
def isDir (path : Path) : Routine (Except OsError Bool) :=
  hasKind .directory path

/-- Whether a file stands at a path. -/
def isFile (path : Path) : Routine (Except OsError Bool) :=
  hasKind .file path

/-- Makes a directory whose parent is there; a directory that is there already is left alone. -/
def makeDirHere (path : Path) : Routine (Except Refusal Unit) := do
  match ← Routine.request (.makeDir path.text) with
  | .error (.os e) =>
    if e.cause = .noEntry then return .error (.os e)
    else
      match ← isDir path with
      | .ok true => return .ok ()
      | .ok false => return .error (.os e)
      | .error e => return .error (.os e)
  | reply => return reply

/-- Makes a directory and those of its parents that are missing; at most `fuel` of them are. The
directory itself is tried first. -/
def makeDirsWithin : (fuel : Nat) → Path → Routine (Except Refusal Unit)
  | 0, path => makeDirHere path
  | fuel + 1, path => do
    match ← makeDirHere path with
    | .error (.os e) =>
      if e.cause = .noEntry ∧ path.parts ≠ [] then
        match ← makeDirsWithin fuel path.parent with
        | .ok () => makeDirHere path
        | refused => return refused
      else return .error (.os e)
    | reply => return reply

/-- Makes a directory and those of its parents that are missing. -/
def makeDirs (path : Path) : Routine (Except Refusal Unit) :=
  makeDirsWithin path.parts.length path

/-- Reads a text file, with every line end as LF. -/
def readText (path : Path) (wrap : ReadFault → RunError) : Action Text := do
  let bytes ← Action.reporting (fun e => wrap (.os e)) (← Action.ask (.read path.text))
  match Utf8.decode bytes with
  | .ok text => return Text.unifyNewlines text
  | .error fault => Action.fail (wrap (.undecodable fault))

end Files

namespace Action

/-- The value of a test that may be refused; a refusal escapes. -/
def orEscape {α : Type} (test : Routine (Except OsError α)) : Action α := do
  match ← ExceptT.lift test with
  | .ok x => return x
  | .error e => escape (.os e)

end Action

end Oneshot
