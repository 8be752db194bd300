import Oneshot.Virtual.Raw
import Oneshot.Virtual.Tree

/-!
# Processes

A process works on a system that it shares with all others: the tree, the open files and the streams
between processes. For itself it has a working directory, an environment, and descriptors that lead
to open files. Two descriptors of one open file share the place up to which it has been read or
written, also across processes.

- `System.write_null`: what is written to the null device changes nothing.
- `fileOf?_redirect`: a redirected descriptor leads where it was led.
-/

namespace Oneshot

namespace Virtual

/-- What stands behind an open file. -/
inductive Target where
  /-- A stream between processes. -/
  | stream (index : Nat)
  | file (place : Place)
  | directory (place : Place)
  | device (device : Device)
deriving DecidableEq, Repr

/-- An open file: what stands behind it, and how far it has been read or written. -/
structure OpenFile where
  target : Target
  offset : Nat
  canRead : Bool
  canWrite : Bool
  /-- Whether everything is written at the end. -/
  appends : Bool
deriving DecidableEq, Repr

/-- What a stream holds that nobody has read yet. -/
structure Stream where
  front : Text
  /-- What was written behind the front, the last of it first. -/
  added : List Text
deriving DecidableEq, Repr

namespace Stream

/-- All that a stream holds. -/
def content (s : Stream) : Text :=
  s.front ++ s.added.reverse.flatten

/-- A stream without its first characters. -/
def drop (count : Nat) (s : Stream) : Stream :=
  ⟨s.content.drop count, []⟩

/-- A stream that nothing has been written to. -/
def empty : Stream :=
  ⟨[], []⟩

end Stream

/-- What all processes share. -/
structure System where
  tree : Tree
  opened : Array OpenFile
  streams : Array Stream
  /-- The number of the process that was started last. -/
  lastProcess : Nat
  /-- The numbers of the shells that run, the one that was started last in front. -/
  running : List Nat
  /-- The signals on their way, each with the number of the process that it is for. -/
  sent : List (Nat × Nat)

/-- A process. Its texts are bytes, those of its places are not. -/
structure Process where
  system : System
  /-- The name under which the program has been started. -/
  calledAs : Text
  workDir : WorkDir
  /-- Where each descriptor leads: the number of an open file. -/
  descriptors : List (Nat × Nat)
  environment : List (Text × Text)

/-- How a process has ended. -/
inductive Ended where
  | exited (status : Nat)
  | killed (signal : Nat)
deriving DecidableEq, Repr

/-- A step of a process. -/
abbrev Run (α : Type) := StateM Process α

namespace System

/-- What is left to read of an open file. -/
def unread (system : System) (index : Nat) : Except Errno Text :=
  match system.opened[index]? with
  | none => .error .badDescriptor
  | some file =>
    if !file.canRead then .error .badDescriptor
    else
      match file.target with
      | .stream index => .ok ((system.streams[index]?).getD .empty).content
      | .directory _ => .error .isDirectory
      | .device device => (Tree.readDevice device).map rawOfBytes
      | .file place =>
        match system.tree.get? place with
        | some (.file content _) => .ok (rawOfBytes (content.drop file.offset))
        | _ => .ok []

/-- The system after some of an open file has been read. -/
def advance (system : System) (index count : Nat) : System :=
  match system.opened[index]? with
  | none => system
  | some file =>
    match file.target with
    | .stream index => { system with streams := system.streams.modify index (·.drop count) }
    | _ =>
      { system with opened := system.opened.modify index fun file =>
          { file with offset := file.offset + count } }

/-- Bytes with others written over them from an offset on. -/
def splice (content added : Bytes) (offset : Nat) : Bytes :=
  content.take offset ++ List.replicate (offset - content.length) 0 ++ added
    ++ content.drop (offset + added.length)

/-- The system after something has been written to an open file. -/
def write (system : System) (index : Nat) (text : Text) : Except Errno System :=
  match system.opened[index]? with
  | none => .error .badDescriptor
  | some file =>
    if !file.canWrite then .error .badDescriptor
    else
      match file.target with
      | .stream index =>
        .ok { system with streams := system.streams.modify index fun s =>
          { s with added := text :: s.added } }
      | .directory _ => .error .isDirectory
      | .device device =>
        if text.isEmpty then .ok system else (Tree.writeDevice device).map fun _ => system
      | .file place =>
        match system.tree.get? place with
        | some (.file content isExecutable) =>
          let offset := if file.appends then content.length else file.offset
          .ok { system with
            tree := system.tree.put place
              (.file (splice content (bytesOf text) offset) isExecutable)
            opened := system.opened.modify index fun file =>
              { file with offset := offset + text.length } }
        | _ => .ok system

/-- The system with one more open file, and its number. -/
def addFile (system : System) (file : OpenFile) : Nat × System :=
  (system.opened.size, { system with opened := system.opened.push file })

/-- The system with one more stream, and the numbers of an open file to read it and of one to write
it. -/
def addStream (system : System) (content : Text) : Nat × Nat × System :=
  let index := system.streams.size
  let system := { system with streams := system.streams.push ⟨content, []⟩ }
  let (reader, system) := system.addFile ⟨.stream index, 0, true, false, false⟩
  let (writer, system) := system.addFile ⟨.stream index, 0, false, true, false⟩
  (reader, writer, system)

/-- What is written to the null device changes nothing. -/
theorem write_null {system : System} {index : Nat} {file : OpenFile} (text : Text)
    (h : system.opened[index]? = some file) (hw : file.canWrite = true)
    (ht : file.target = .device .null) : system.write index text = .ok system := by
  simp only [write, h, hw, ht, Bool.not_true, Bool.false_eq_true, if_false]
  split
  · rfl
  · rfl

end System

/-- How a file is opened. -/
inductive OpenMode where
  | read
  /-- To write, in place of what it held. -/
  | replace
  | append
  /-- To read and to write. -/
  | update
  /-- To write, if nothing is lost by that. -/
  | fresh
deriving DecidableEq, Repr

namespace Process

/-- The open file to which a descriptor leads. -/
def fileOf? (p : Process) (descriptor : Nat) : Option Nat :=
  List.lookup descriptor p.descriptors

/-- The process with a descriptor that leads elsewhere. -/
def redirect (p : Process) (descriptor file : Nat) : Process :=
  { p with descriptors := (descriptor, file) :: p.descriptors.filter (·.1 != descriptor) }

/-- The process with a descriptor closed. -/
def close (p : Process) (descriptor : Nat) : Process :=
  { p with descriptors := p.descriptors.filter (·.1 != descriptor) }

/-- What stands at a path, links followed. -/
def lookUp (p : Process) (path : Text) : Except Errno (Place × Entry) :=
  p.system.tree.lookUp p.workDir (textOfRaw path)

/-- What stands at a path; a link at its end is not followed. -/
def lookAt (p : Process) (path : Text) : Except Errno (Place × Entry) :=
  match p.system.tree.find p.workDir false (textOfRaw path) with
  | .error e => .error e
  | .ok (_, none) => .error .noEntry
  | .ok (place, some entry) => .ok (place, entry)

/-- Whether a directory stands at a path. -/
def isDirectory (p : Process) (path : Text) : Bool :=
  match p.lookUp path with
  | .ok (_, entry) => entry.isDirectory
  | .error _ => false

/-- The open file of a way to open something. -/
def openFileFor (target : Target) (mode : OpenMode) : OpenFile :=
  let canRead := mode == .read || mode == .update
  ⟨target, 0, canRead, mode != .read, mode == .append⟩

/-- Opens the file at a path. -/
def openPath (p : Process) (path : Text) (mode : OpenMode) : Except Errno (Nat × Process) :=
  let added (system : System) (target : Target) : Except Errno (Nat × Process) :=
    let (index, system) := system.addFile (openFileFor target mode)
    .ok (index, { p with system })
  let tree := p.system.tree
  match tree.find p.workDir true (textOfRaw path) with
  | .error e => .error e
  | .ok (place, none) =>
    if mode = .read then .error .noEntry
    else added { p.system with tree := tree.put place (.file [] false) } (.file place)
  | .ok (place, some entry) =>
    match entry with
    | .directory _ =>
      if mode = .read then added p.system (.directory place) else .error .isDirectory
    | .file _ isExecutable =>
      if mode = .fresh then .error .alreadyThere
      else if mode = .replace then
        added { p.system with tree := tree.put place (.file [] isExecutable) } (.file place)
      else added p.system (.file place)
    | .device .terminal => .error .noDevice
    | .device (.descriptor n) =>
      match (p.fileOf? n).bind (p.system.opened[·]?) with
      | some file => added p.system file.target
      | none => .error .noEntry
    | .device device => added p.system (.device device)
    | .link _ => .error .linkLoop
    | .tool _ => if mode = .read then added p.system (.file place) else .error .accessDenied

/-- The value of a variable of the environment. -/
def valueOf? (p : Process) (name : Text) : Option Text :=
  List.lookup name p.environment

/-- A redirected descriptor leads where it was led. -/
theorem fileOf?_redirect (p : Process) (descriptor file : Nat) :
    (p.redirect descriptor file).fileOf? descriptor = some file := by
  simp [redirect, fileOf?]

end Process

/-- Writes to a descriptor. -/
def tell (descriptor : Nat) (text : Text) : Run (Except Errno Unit) := do
  let p ← get
  match p.fileOf? descriptor with
  | none => return .error .badDescriptor
  | some index =>
    match p.system.write index text with
    | .error e => return .error e
    | .ok system =>
      set { p with system }
      return .ok ()

/-- Writes to a descriptor, as far as that is possible. -/
def say (descriptor : Nat) (text : Text) : Run Unit := do
  let _ ← tell descriptor text

/-- What is left to read behind a descriptor; nothing of it is taken. -/
def peek (descriptor : Nat) : Run (Except Errno Text) := do
  let p ← get
  match p.fileOf? descriptor with
  | none => return .error .badDescriptor
  | some index => return p.system.unread index

/-- Takes some of what is left to read behind a descriptor. -/
def consume (descriptor count : Nat) : Run Unit :=
  modify fun p =>
    match p.fileOf? descriptor with
    | none => p
    | some index => { p with system := p.system.advance index count }

/-- Takes all that is left to read behind a descriptor. -/
def readAll (descriptor : Nat) : Run (Except Errno Text) := do
  match ← peek descriptor with
  | .error e => return .error e
  | .ok text =>
    consume descriptor text.length
    return .ok text

/-- Whether a descriptor leads to a file whose place can be moved. -/
def isSeekable (descriptor : Nat) : Run Bool := do
  let p ← get
  match (p.fileOf? descriptor).bind (p.system.opened[·]?) with
  | some file => return match file.target with
    | .file _ => true
    | _ => false
  | none => return false

end Virtual

end Oneshot
