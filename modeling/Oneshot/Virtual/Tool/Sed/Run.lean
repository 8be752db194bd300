import Oneshot.Virtual.Tool.Basic
import Oneshot.Virtual.Tool.Files
import Oneshot.Virtual.Tool.Sed.Cycle

/-!
# The line editor as a tool

The tool reads its script from its arguments or from files, edits its inputs one behind the other or
each for itself, and prints them or writes them back.

- `usage_operands`: an argument without a hyphen is no option of the editor.
-/

namespace Oneshot

namespace Virtual

namespace Tool

namespace Sed

/-- What the tool is called and which options it takes. -/
def usage : Usage :=
  ⟨"sed", "ne:f:ErsuzSi::l:bp+", [("quiet", 'n'), ("silent", 'n'), ("expression", 'e'),
    ("file", 'f'), ("regexp-extended", 'E'), ("in-place", 'i'), ("line-length", 'l'),
    ("separate", 's'), ("unbuffered", 'u'), ("null-data", 'z'), ("sandbox", 'S'), ("posix", 'p'),
    ("binary", 'b'), ("debug", '+')], false⟩

/-- Parts of a script of which one that ends with a backslash goes on in the next. -/
def joinParts : List Part → List Part
  | part :: next :: rest =>
    if part.path?.isNone && next.path?.isNone && part.text.getLast? == some '\\' then
      joinParts ({ part with text := part.text ++ '\n' :: next.text } :: rest)
    else part :: joinParts (next :: rest)
  | parts => parts
  termination_by parts => parts.length

/-- The parts of the script, or the path of a file that cannot be read and the cause. -/
def partsOf : List (Char × Text) → Run (Except (Text × Errno) (List Part))
  | [] => return .ok []
  | (letter, value) :: rest => do
    let part ← match letter with
      | 'e' => pure (Except.ok (some (Part.mk none value)))
      | 'f' => do
        match ← readOperand value with
        | .ok text => pure (.ok (some ⟨some value, text⟩))
        | .error cause => pure (.error (value, cause))
      | _ => pure (.ok none)
    match part, ← partsOf rest with
    | .error e, _ => return .error e
    | _, .error e => return .error e
    | .ok part?, .ok parts => return .ok (part?.toList ++ parts)

/-- The inputs that can be read, with a complaint about each of the others, and the status that
remains of that. Behind a directory no more inputs are read. -/
def readInputs : List Text → Run (List (Text × Text) × Nat)
  | [] => return ([], 0)
  | operand :: rest => do
    match ← readOperand operand with
    | .ok text =>
      let (inputs, status) ← readInputs rest
      return ((operand, text) :: inputs, status)
    | .error .isDirectory =>
      complain "sed" ("read error on ".toList ++ operand ++ ": Is a directory".toList)
      return ([], 4)
    | .error cause =>
      complain "sed" ("can't read ".toList ++ operand ++ ": ".toList ++ cause.wording)
      let (inputs, status) ← readInputs rest
      return (inputs, max status 2)

/-- Makes the files to which a script writes, all of them empty, or names the first that cannot be
made. -/
def openOutputs : List Text → Run (Option (Text × Errno))
  | [] => return none
  | path :: rest => do
    let p ← get
    match p.openPath path .replace with
    | .error cause => return some (path, cause)
    | .ok (_, q) =>
      set q
      openOutputs rest

/-- Writes a file in place of what it held. -/
def writeOut (path content : Text) : Run Unit := do
  let p ← get
  match p.openPath path .replace with
  | .error _ => return
  | .ok (file, q) =>
    match q.system.write file content with
    | .ok system => set { p with system }
    | .error _ => return

/-- Edits files in place. A suffix names the copies that are kept of them. -/
def editInPlace (g : Setting) (chars : Text → Text) (suffix : Text) :
    List (Text × Sink) → List (Text × Text) → Run (List (Text × Sink) × Nat)
  | files, [] => return (files, 0)
  | files, (path, content) :: rest => do
    let (status?, e) := edit g files [(path, splitLines g.delimiter (chars content))]
    if !suffix.isEmpty then
      let base := baseName path
      let kept := if suffix.contains '*' then
          let name := suffix.flatMap fun c => if c = '*' then base else [c]
          if name.contains '/' then name else path.take (path.length - base.length) ++ name
        else path ++ suffix
      writeOut kept content
    writeOut path e.output.content
    match status? with
    | some status => return (e.files, status)
    | none => editInPlace g chars suffix e.files rest

/-- Edits each input for itself. -/
def editSeparately (g : Setting) (chars : Text → Text) : Text → List (Text × Sink) →
    List (Text × Text) → Text × List (Text × Sink) × Nat
  | printed, files, [] => (printed, files, 0)
  | printed, files, (path, content) :: rest =>
    let (status?, e) := edit g files [(path, splitLines g.delimiter (chars content))]
    let printed := printed ++ e.output.content
    match status? with
    | some status => (printed, e.files, status)
    | none =>
      let gap : Text := if e.output.lacksEnd && !rest.isEmpty then [g.delimiter] else []
      editSeparately g chars (printed ++ gap) e.files rest

/-- Runs a script on the inputs of a call. -/
def runScript (given : Given) (script : Script) (wide : Bool) (operands : List Text) : Run Nat := do
  let outputs := script.outputs.eraseDups.filter fun path => path != "/dev/stdout".toList
  match ← openOutputs outputs with
  | some (path, cause) =>
    complain "sed" ("couldn't open file ".toList ++ path ++ ": ".toList ++ cause.wording)
    return 4
  | none =>
    let operands := if operands.isEmpty then [['-']] else operands
    let (inputs, failure) ← readInputs operands
    let p ← get
    let isWide := wide && inputs.all fun input => (Utf8.decode (bytesOf input.2)).isOk
    let g : Setting :=
      { script
        isQuiet := given.has 'n' || script.isQuiet
        delimiter := if given.has 'z' then '\x00' else '\n'
        width := (given.value? 'l').elim 70 natOf
        bytes := if isWide then rawOf else fun text => text
        content? := fun path => ((readPath path).run p).1.toOption }
    let chars (text : Text) : Text := (charsOf isWide text).1
    let start := outputs.map fun path => (path, Sink.mk [] false)
    let finish (printed : Text) (files : List (Text × Sink)) (status : Nat) : Run Nat := do
      let status ← printing "sed" printed (max status failure)
      for (path, sink) in files do
        if !sink.pieces.isEmpty then writeOut path sink.content
      return status
    if given.has 'i' then
      let (files, status) ← editInPlace g chars ((given.value? 'i').getD []) start inputs
      finish [] files status
    else if given.has 's' then
      let (printed, files, status) := editSeparately g chars [] start inputs
      finish printed files status
    else
      let all := inputs.map fun (name, content) => (name, splitLines g.delimiter (chars content))
      let (status?, e) := edit g start all
      finish e.output.content e.files (status?.getD 0)

/-- Refuses a call. -/
def refuseCall : Run Nat := do
  say 2 ("Usage: ".toList ++ (← ownName "sed")
    ++ " [OPTION]... \x7bscript-only-if-no-other-script\x7d [input-file]...\n\n".toList)
  return 1

/-- Edits lines. -/
def run : Tool := fun arguments => do
  match usage.read arguments with
  | .error message =>
    complain "sed" message
    refuseCall
  | .ok given =>
    match ← partsOf given.options with
    | .error (path, cause) =>
      complain "sed" ("couldn't open file ".toList ++ path ++ ": ".toList ++ cause.wording)
      return 4
    | .ok parts =>
      match parts, given.operands with
      | [], [] => refuseCall
      | parts, operands =>
        let (parts, operands) := if parts.isEmpty then
            ([Part.mk none (operands.headD [])], operands.drop 1)
          else (parts, operands)
        let wide := (← isWide) && parts.all fun part => (Utf8.decode (bytesOf part.text)).isOk
        let decoded := parts.map fun part => { part with text := (charsOf wide part.text).1 }
        let isExtended := given.has 'E' || given.has 'r'
        match readScript isExtended (joinParts decoded) with
        | .error (message, status) =>
          complain "sed" message
          return status
        | .ok script => runScript given script wide operands

/-- An argument without a hyphen is no option of the editor. -/
theorem usage_operands {c : Char} {text : Text} (h : c ≠ '-') :
    usage.read [c :: text] = .ok ⟨[], [c :: text]⟩ :=
  Usage.read_operand h

end Sed

end Tool

end Virtual

end Oneshot
