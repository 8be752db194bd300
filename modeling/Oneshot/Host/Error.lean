import Oneshot.Text.Quoted

/-!
# Refusals of the operating system

Every request to the host names the path it is about by its text, and a refusal names that text
again. A text that holds a NUL reaches no system call at all.
-/

namespace Oneshot

/-- The causes for which the system refuses a request. -/
inductive Errno where
  | noEntry
  | inputOutput
  | noDevice
  | tooLongArguments
  | notExecutable
  | badDescriptor
  | accessDenied
  | busy
  | alreadyThere
  | notDirectory
  | isDirectory
  | invalid
  | noSpace
  | nameTooLong
  | notEmpty
  | linkLoop
  /-- Any other cause, with its number and its wording. -/
  | other (number : Nat) (wording : Text)
deriving DecidableEq, Repr

namespace Errno

/-- The number of a cause. -/
def number : Errno → Nat
  | .noEntry => 2
  | .inputOutput => 5
  | .noDevice => 6
  | .tooLongArguments => 7
  | .notExecutable => 8
  | .badDescriptor => 9
  | .accessDenied => 13
  | .busy => 16
  | .alreadyThere => 17
  | .notDirectory => 20
  | .isDirectory => 21
  | .invalid => 22
  | .noSpace => 28
  | .nameTooLong => 36
  | .notEmpty => 39
  | .linkLoop => 40
  | .other number _ => number

/-- The wording of a cause. -/
def wording : Errno → Text
  | .noEntry => "No such file or directory"
  | .inputOutput => "Input/output error"
  | .noDevice => "No such device or address"
  | .tooLongArguments => "Argument list too long"
  | .notExecutable => "Exec format error"
  | .badDescriptor => "Bad file descriptor"
  | .accessDenied => "Permission denied"
  | .busy => "Device or resource busy"
  | .alreadyThere => "File exists"
  | .notDirectory => "Not a directory"
  | .isDirectory => "Is a directory"
  | .invalid => "Invalid argument"
  | .noSpace => "No space left on device"
  | .nameTooLong => "File name too long"
  | .notEmpty => "Directory not empty"
  | .linkLoop => "Too many levels of symbolic links"
  | .other _ wording => wording

end Errno

/-- A refusal of the system: its cause, the path the request was about, if there was one, and the
second path where the request had two. -/
structure OsError where
  cause : Errno
  subject : Option Text
  target : Option Text := none
deriving DecidableEq, Repr

/-- The wording of a refusal. -/
def OsError.message (e : OsError) : Text :=
  "[Errno ".toList ++ Text.ofNat e.cause.number ++ "] ".toList ++ e.cause.wording
    ++ (e.subject.elim [] fun path => ": ".toList ++ Text.quoted path)
    ++ (e.target.elim [] fun path => " -> ".toList ++ Text.quoted path)

/-- Why a request has not been carried out. -/
inductive Refusal where
  /-- The system refuses it. -/
  | os (e : OsError)
  /-- A text in it holds a NUL. -/
  | nulByte
  /-- A variable for a child has a name that no environment can hold. -/
  | illegalVariable
deriving DecidableEq, Repr

end Oneshot
