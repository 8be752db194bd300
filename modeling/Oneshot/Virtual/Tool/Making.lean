import Oneshot.Virtual.Tool.Copies

/-!
# Files of a given kind

The tools that make temporary files, files of some size, files with some permissions, and files from
the blocks of others.

- `scaled_bytes`: a size without a unit counts bytes.
-/

namespace Oneshot

namespace Virtual

namespace Tool

/-! ### Temporary files -/

/-- A name with the number of an attempt in place of its last marks. -/
def filledName (count attempt : Nat) (front : Text) : Text :=
  let digits := Text.ofNat attempt
  front ++ List.replicate (count - digits.length) '0' ++ digits.take count

/-- The first of some names at which nothing stands. -/
def freeName? (p : Process) (nameOf : Nat → Text) : (fuel attempt : Nat) → Option Text
  | 0, _ => none
  | fuel + 1, attempt =>
    match entryAt? p (nameOf attempt) with
    | .ok (_, none) => some (nameOf attempt)
    | _ => freeName? p nameOf fuel (attempt + 1)

/-- Makes a temporary file or directory and prints its path. -/
def mktemp : Tool :=
  withGiven ⟨"mktemp", "dup:qtVs:T::", [("directory", 'd'), ("dry-run", 'u'), ("tmpdir", 'T'),
    ("quiet", 'q'), ("suffix", 's')], false⟩ 1 fun given => do
    match given.operands with
    | _ :: _ :: _ => refuseUsage "mktemp" "too many templates" 1
    | operands =>
      let p ← get
      let template := operands.headD "tmp.XXXXXXXXXX".toList
      let directory? : Option Text :=
        let asked := (given.value? 'p').orElse fun _ => given.value? 'T'
        if operands.isEmpty || asked.isSome || given.has 't' then
          let common := ((p.valueOf? "TMPDIR".toList).filter (!·.isEmpty)).getD "/tmp".toList
          some ((asked.filter (!·.isEmpty)).getD common)
        else none
      let path := directory?.elim template (below · template)
      let front := (Text.cutLast? ['X'] path).elim [] fun (front, _) => front ++ ['X']
      let behind := path.drop front.length ++ (given.value? 's').getD []
      let count := (front.reverse.takeWhile (· == 'X')).length
      if count < 3 then
        complain "mktemp" ("too few X's in template ".toList ++ (← inMarks template))
        return 1
      else
        let start := front.take (front.length - count)
        let kind : Text := if given.has 'd' then "directory" else "file"
        match freeName? p (fun attempt => filledName count attempt start ++ behind) 1000 1 with
        | some name =>
          if given.has 'u' then return ← printing "mktemp" (name ++ ['\n']) 0
          else
            let made := if given.has 'd' then p.system.tree.mkdir p.workDir (textOfRaw name)
              else p.system.tree.createFile p.workDir (textOfRaw name) []
            match made with
            | .ok tree =>
              set { p with system.tree := tree }
              printing "mktemp" (name ++ ['\n']) 0
            | .error cause => refuse given kind path cause
        | none => refuse given kind path .noEntry
where
  /-- Complains that nothing can be made. -/
  refuse (given : Given) (kind path : Text) (cause : Errno) : Run Nat := do
    if !given.has 'q' then
      complain "mktemp" ("failed to create ".toList ++ kind ++ " via template ".toList
        ++ (← inMarks path) ++ ": ".toList ++ cause.wording)
    return 1

/-! ### Sizes -/

/-- The number of bytes of a size with a unit. -/
def scaled? (s : Text) : Option Nat :=
  let digits := s.takeWhile Char.isDigit
  let unit? : Option Nat := match String.ofList (s.drop digits.length) with
    | "" | "c" => some 1
    | "w" => some 2
    | "b" => some 512
    | "K" | "k" | "KiB" => some 1024
    | "KB" | "kB" => some 1000
    | "M" | "MiB" => some (Nat.pow 1024 2)
    | "MB" => some (Nat.pow 1000 2)
    | "G" | "GiB" => some (Nat.pow 1024 3)
    | _ => none
  match natOf? digits, unit? with
  | some n, some unit => some (n * unit)
  | _, _ => none

/-- A size without a unit counts bytes. -/
theorem scaled_bytes : scaled? "12".toList = some 12 := by
  decide +kernel

/-- The size of a file behind a change, which a sign in front describes. -/
def newSize? (old : Nat) (s : Text) : Option Nat :=
  match s with
  | '+' :: rest => (scaled? rest).map (old + ·)
  | '-' :: rest => (scaled? rest).map (old - ·)
  | '<' :: rest => (scaled? rest).map (min old)
  | '>' :: rest => (scaled? rest).map (max old)
  | s => scaled? s

/-- Cuts files or lengthens them. -/
def truncate : Tool :=
  withGiven ⟨"truncate", "cor:s:", [("no-create", 'c'), ("io-blocks", 'o'), ("reference", 'r'),
    ("size", 's')], false⟩ 1 fun given => do
    match given.value? 's' with
    | none =>
      let either := (← inMarks "--size".toList) ++ " or ".toList ++ (← inMarks "--reference".toList)
      refuseUsage "truncate" ("you must specify either ".toList ++ either) 1
    | some size =>
      if (newSize? 0 size).isNone then
        complain "truncate" ("Invalid number: ".toList ++ (← inMarks size))
        return 1
      else if given.operands.isEmpty then refuseUsage "truncate" "missing file operand" 1
      else
        forEach given.operands fun path => do
          let p ← get
          let tree := p.system.tree
          let old := (tree.readFile p.workDir (textOfRaw path)).toOption
          if old.isNone && given.has 'c' then return 0
          else
            let content := old.getD []
            let length := (newSize? content.length size).getD 0
            let content := content.take length ++ List.replicate (length - content.length) 0
            changing "truncate" ("cannot open ".toList ++ quoted path ++ " for writing".toList)
              fun p => (p.system.tree.writeFile p.workDir (textOfRaw path) content).map (·.2)

/-! ### Permissions -/

/-- Copies a file and sets its permissions. -/
def installFile (given : Given) (mode source goal : Text) : Run Nat := do
  let p ← get
  match p.lookUp source with
  | .error cause =>
    complain "install" ("cannot stat ".toList ++ quoted source ++ ": ".toList ++ cause.wording)
    return 1
  | .ok (_, .directory _) =>
    complain "install" ("omitting directory ".toList ++ quoted source)
    return 1
  | .ok (_, entry) =>
    if given.has 'D' then
      let _ ← makeWay ⟨[], []⟩ (directoryName goal)
    let (content, _) := contentOf p source entry
    let isExecutable := (modeExecutes? false mode).getD true
    changing "install" ("cannot create regular file ".toList ++ quoted goal) fun p =>
      match p.system.tree.find p.workDir true (textOfRaw goal) with
      | .error cause => .error cause
      | .ok (_, some (.directory _)) => .error .isDirectory
      | .ok (place, _) => .ok (p.system.tree.put place (.file content isExecutable))

/-- Makes directories, or copies files and sets their permissions. -/
def install : Tool :=
  withGiven ⟨"install", "dDm:o:g:t:Tvcsbp", [("directory", 'd'), ("mode", 'm'), ("owner", 'o'),
    ("group", 'g'), ("target-directory", 't'), ("no-target-directory", 'T'), ("verbose", 'v')],
    false⟩ 1 fun given => do
    if given.has 'd' then
      if given.operands.isEmpty then refuseUsage "install" "missing file operand" 1
      else forEach given.operands (makeWay ⟨[], []⟩)
    else
      let mode := (given.value? 'm').getD "755".toList
      forEachArrival (← arrivals "install" given true) (installFile given mode)

/-! ### Blocks -/

/-- The value of an operand with a name in front. -/
def settingOf? (name : String) (operands : List Text) : Option Text :=
  operands.findSome? fun operand =>
    let front := name.toList ++ ['=']
    if front.isPrefixOf operand then some (operand.drop front.length) else none

/-- The names in front of the operands of the tool that copies blocks. -/
def blockSettings : List String :=
  ["if", "of", "bs", "ibs", "obs", "count", "skip", "seek", "conv", "status", "iflag", "oflag"]

/-- How many blocks a text has: whole ones, and one that is not. -/
def blockCounts (size length : Nat) : Text :=
  Text.ofNat (length / size) ++ '+' :: (if length % size = 0 then ['0'] else ['1'])

/-- Copies blocks. -/
def dd : Tool := fun operands => do
  let isKnown (operand : Text) : Bool :=
    operand.contains '=' && blockSettings.contains (String.ofList (operand.takeWhile (· != '=')))
  match operands.find? (!isKnown ·) with
  | some odd => refuseUsage "dd" ("unrecognized operand ".toList ++ quoted odd) 1
  | none =>
    let number (name : String) (otherwise : Nat) : Nat :=
      ((settingOf? name operands).bind scaled?).getD otherwise
    let size := max 1 (number "bs" (number "ibs" 512))
    let input ← match settingOf? "if" operands with
      | some path => readPath path
      | none => readAll 0
    match input with
    | .error cause =>
      let name := (settingOf? "if" operands).getD "standard input".toList
      complain "dd" ("failed to open ".toList ++ quoted name ++ ": ".toList ++ cause.wording)
      return 1
    | .ok text =>
      let text := text.drop (number "skip" 0 * size)
      let text := match (settingOf? "count" operands).bind scaled? with
        | some count => text.take (count * size)
        | none => text
      let status ← match settingOf? "of" operands with
        | none => printing "dd" text 0
        | some path =>
          let keeps := ((settingOf? "conv" operands).getD []) == "notrunc".toList
          changing "dd" ("failed to open ".toList ++ quoted path) fun p =>
            let tree := p.system.tree
            let old := (tree.readFile p.workDir (textOfRaw path)).toOption.getD []
            let start := number "seek" 0 * size
            let kept := if keeps then old else old.take start
            (tree.writeFile p.workDir (textOfRaw path)
              (System.splice kept (bytesOf text) start)).map (·.2)
      let counts := blockCounts size text.length
      let records := counts ++ " records in\n".toList ++ counts ++ " records out\n".toList
      let total := Text.ofNat text.length ++ " bytes copied, 0 s, Infinity B/s\n".toList
      match (settingOf? "status" operands).map String.ofList with
      | some "none" => pure ()
      | some "noxfer" => say 2 records
      | _ => say 2 (records ++ total)
      return status

end Tool

end Virtual

end Oneshot
