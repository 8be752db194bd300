import Oneshot.Virtual.Shell.Expansion

/-!
# Redirections

A redirection leads a descriptor to a file, to a document of the script, or to where another
descriptor leads. Those of a command are undone behind it; those that stay belong to the shell.

- `redirectAll_nil`: a command without redirections finds its descriptors as they are.
-/

namespace Oneshot

namespace Virtual

namespace Shell

/-- What the shell says when a file cannot be opened. -/
def openFault (isNew : Bool) (path : Text) (cause : Errno) : Text :=
  let wording : Text := match cause with
    | .noEntry | .notDirectory => if isNew then "Directory nonexistent" else "No such file"
    | cause => cause.wording
  (if isNew then "cannot create " else "cannot open ") ++ path ++ ": ".toList ++ wording

/-- A redirection whose target has been expanded. -/
inductive Lead where
  | file (path : Text) (mode : OpenMode)
  | document (text : Text)
  | copy (source : Nat)
  | close
deriving DecidableEq, Repr

/-- How a file is opened, where protected files may not be overwritten if `isCareful` says so. -/
def modeOf (isCareful : Bool) (direction : Direction) : OpenMode :=
  match direction with
  | .input => .read
  | .append => .append
  | .both => .update
  | .output => if isCareful then .fresh else .replace
  | _ => .replace

/-- Where a redirection leads. -/
def leadOf (e : Engine) : Redirection → Step Lead
  | .mk _ direction target document => do
    match direction with
    | .document =>
      match List.lookup document (← get).documents with
      | some word => return .document (← expandDocument e word)
      | none => return .document []
    | .duplicate =>
      match ← expandText e target with
      | ['-'] => return .close
      | [d] => if d.isDigit then return .copy (d.toNat - 48) else abort fault
      | _ => abort fault
    | direction =>
      let path ← expandText e target
      return .file path (modeOf ((← get).has 'C') direction)
where
  fault : Text := "Syntax error: Bad fd number"

/-- The descriptor that a redirection is about. -/
def descriptorOf : Redirection → Nat
  | .mk descriptor _ _ _ => descriptor

/-- Whether a file that is there may be opened as if it were new: a device holds nothing. -/
def isDevice (p : Process) (path : Text) : Bool :=
  match p.lookUp path with
  | .ok (_, .device _) => true
  | _ => false

/-- Leads a descriptor elsewhere, or says why that cannot be. -/
def redirect (descriptor : Nat) (lead : Lead) : Calm Bool := do
  let s ← get
  match lead with
  | .close =>
    set { s with toProcess := s.toProcess.close descriptor }
    return true
  | .copy source =>
    match s.fileOf? source with
    | some file =>
      set { s with toProcess := s.toProcess.redirect descriptor file }
      return true
    | none =>
      complain (Text.ofNat source ++ ": Bad file descriptor".toList)
      return false
  | .document text =>
    let (reader, _, system) := s.system.addStream text
    set { s with toProcess := { s.toProcess with system }.redirect descriptor reader }
    return true
  | .file path mode =>
    let mode := if mode = .fresh ∧ isDevice s.toProcess path = true then .replace else mode
    match s.openPath path mode with
    | .ok (file, p) =>
      set { s with toProcess := p.redirect descriptor file }
      return true
    | .error cause =>
      complain (openFault (mode != .read) path cause)
      return false

/-- Leads descriptors elsewhere, until one cannot be. -/
def redirectAll : List (Nat × Lead) → Calm Bool
  | [] => return true
  | (descriptor, lead) :: rest => do
    if ← redirect descriptor lead then redirectAll rest else return false

/-- Leads descriptors as redirections say. All targets are expanded first. -/
def redirectTo (e : Engine) (redirections : List Redirection) : Step Bool := do
  let leads ← redirections.mapM fun r => do
    let lead ← leadOf e r
    return (descriptorOf r, lead)
  redirectAll leads

/-- Puts descriptors back where they led. -/
def restoreDescriptors (descriptors : List (Nat × Nat)) : Calm Unit :=
  modify fun s => { s with descriptors }

/-- Runs a body with descriptors redirected. Where that cannot be, the status says so. -/
def withRedirections (e : Engine) (redirections : List Redirection) (body : Step Unit) :
    Step Unit := do
  if redirections.isEmpty then body
  else
    let descriptors := (← get).descriptors
    let redirected : Step Unit := do
      if ← redirectTo e redirections then body else finish 2
    ensuring redirected (restoreDescriptors descriptors)

/-- A command without redirections finds its descriptors as they are. -/
theorem redirectAll_nil (s : Interpreter) : (redirectAll []).run s = (true, s) := rfl

end Shell

end Virtual

end Oneshot
