import Oneshot.Host.Error
import Oneshot.Settings.Check

/-!
# Requests to the host

The runner touches the world outside through the requests of this module only. Each request has a
type of replies. What a host answers is left open here, so that a statement about the runner holds
for every host that answers as the statement assumes.
-/

namespace Oneshot

/-- The variables of an environment, with one entry to a name. -/
abbrev Variables := List (Text × Text)

namespace Variables

/-- The value of a variable. -/
def get? (name : Text) : Variables → Option Text
  | [] => none
  | (n, v) :: rest => if n = name then some v else get? name rest

/-- The variables with a value for `name`, in its place or at the end. -/
def set (name value : Text) : Variables → Variables
  | [] => [(name, value)]
  | (n, v) :: rest => if n = name then (n, value) :: rest else (n, v) :: set name value rest

/-- The variables without `name`. -/
def unset (name : Text) (vars : Variables) : Variables :=
  vars.filter (·.1 != name)

theorem get?_set (name other value : Text) (vars : Variables) :
    get? other (set name value vars) = if name = other then some value else get? other vars := by
  induction vars with
  | nil => simp [set, get?]
  | cons e rest ih =>
    obtain ⟨n, v⟩ := e
    by_cases hn : n = name
    · subst hn
      by_cases ho : n = other <;> simp [set, get?, ho]
    · by_cases ho : n = other
      · subst ho
        have : name ≠ n := fun h => hn h.symm
        simp [set, get?, hn, this]
      · simp [set, get?, hn, ho, ih]

end Variables

/-- What stands at a path, links followed. -/
inductive FileKind where
  | file
  | directory
  | other
deriving DecidableEq, Repr

/-- The streams on which the runner prints. -/
inductive Channel where
  | output
  | errors
deriving DecidableEq, Repr

/-- A command as it is handed to the system. The first argument names the program. -/
structure Launch where
  arguments : List Text
  /-- The complete environment of the child; without one the child inherits the runner's. -/
  vars : Option Variables
  /-- Whether the output of the child is collected instead of going where the runner's goes. -/
  captured : Bool
deriving DecidableEq, Repr

/-- What a child has left: its status, negative when a signal has ended it, and the output that was
collected. -/
structure Finished where
  status : Int
  output : Bytes
  errors : Bytes
deriving DecidableEq, Repr

/-- A request to the host. -/
inductive Request where
  /-- What stands at a path? -/
  | kind (path : Text)
  /-- Is the path a file that may be executed? -/
  | isExecutable (path : Text)
  /-- May what stands at the path be read? -/
  | isReadable (path : Text)
  /-- Make a directory whose parent is there. -/
  | makeDir (path : Text)
  /-- Make a directory below `parent` whose name begins with `label` and is not taken; the reply is
  its path. -/
  | makeStaging (parent label : Text)
  | read (path : Text)
  /-- Write a file, in place of what it held. -/
  | write (path : Text) (content : Bytes)
  /-- Write a file that must not be there yet. -/
  | create (path : Text) (content : Bytes)
  | rename (old new : Text)
  /-- Remove a directory with all that it holds, as far as that is possible. -/
  | discard (path : Text)
  /-- Run a command to its end. -/
  | launch (command : Launch)
  | workDir
  | environment
  /-- The home directory in the records of the system: of an account, or of the runner's own. -/
  | accountHome (account : Option Text)
  /-- Is a stream a terminal? -/
  | isTerminal (channel : Channel)
  /-- What does the validator say of the faults that it finds in the settings? -/
  | validatorText (faults : List SettingsFault)
  | print (channel : Channel) (text : Text)
  /-- Report how far a run has come. -/
  | announce (stage detail : Text)
deriving DecidableEq, Repr

/-- The replies to a request. -/
abbrev Request.Reply : Request → Type
  | .kind _ => Except Refusal FileKind
  | .isExecutable _ => Bool
  | .isReadable _ => Bool
  | .makeDir _ => Except Refusal Unit
  | .makeStaging _ _ => Except Refusal Text
  | .read _ => Except Refusal Bytes
  | .write _ _ => Except Refusal Unit
  | .create _ _ => Except Refusal Unit
  | .rename _ _ => Except Refusal Unit
  | .discard _ => Unit
  | .launch _ => Except Refusal Finished
  | .workDir => Except Refusal Text
  | .environment => Variables
  | .accountHome _ => Option Text
  | .isTerminal _ => Bool
  | .validatorText _ => Text
  | .print _ _ => Unit
  | .announce _ _ => Unit

end Oneshot
