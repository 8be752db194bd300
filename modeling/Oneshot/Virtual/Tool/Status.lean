import Oneshot.Virtual.Account
import Oneshot.Virtual.Tool.Files

/-!
# What is known of a file

A tool prints what is known of files, in a form that a format describes.

- `permissionBits_link`: everything is permitted with a link.
-/

namespace Oneshot

namespace Virtual

namespace Tool

/-- What kind of file an entry is: in words, and the letter in front of its permissions. -/
def kindOfFile (entry : Entry) : Text × Char :=
  match entry with
  | .directory _ => ("directory", 'd')
  | .link _ => ("symbolic link", 'l')
  | .device _ => ("character special file", 'c')
  | .file [] _ => ("regular empty file", '-')
  | .file _ _ | .tool _ => ("regular file", '-')

/-- The bits of the permissions of an entry. -/
def permissionBits (entry : Entry) : Nat :=
  match entry with
  | .directory _ | .file _ true | .tool _ => 0o755
  | .link _ => 0o777
  | .device _ => 0o666
  | .file _ false => 0o644

/-- The permissions of an entry as they are listed. -/
def permissionsText (entry : Entry) : Text :=
  let letters (bits : Nat) : Text :=
    [if bits / 4 % 2 = 1 then 'r' else '-', if bits / 2 % 2 = 1 then 'w' else '-',
      if bits % 2 = 1 then 'x' else '-']
  let bits := permissionBits entry
  (kindOfFile entry).2 :: letters (bits / 64) ++ letters (bits / 8) ++ letters bits

/-- Everything is permitted with a link. -/
theorem permissionBits_link (target : Text) : permissionBits (.link target) = 0o777 := rfl

/-- How many bytes an entry has. -/
def byteCount (entry : Entry) : Nat :=
  match entry with
  | .file content _ => content.length
  | .link target => (Utf8.encode target).length
  | .directory _ => 4096
  | _ => 0

/-- What a letter behind a percent sign stands for. -/
def statusPart (path : Text) (entry : Entry) (letter : Char) : Text :=
  match letter with
  | 'n' => path
  | 'N' =>
    match entry with
    | .link target => quoted path ++ " -> ".toList ++ quoted (rawOf target)
    | _ => quoted path
  | 's' => Text.ofNat (byteCount entry)
  | 'F' => (kindOfFile entry).1
  | 'a' => Nat.toDigits 8 (permissionBits entry)
  | 'A' => permissionsText entry
  | 'u' | 'g' | 't' | 'T' | 'W' => ['0']
  | 'X' | 'Y' | 'Z' => ['0']
  | 'U' | 'G' => "root"
  | 'h' => ['1']
  | 'B' => "512"
  | 'o' => "4096"
  | 'b' => Text.ofNat ((byteCount entry + 4095) / 4096 * 8)
  | '%' => ['%']
  | _ => ['?']

/-- A format with its letters resolved, and with its escapes, if they count. -/
def statusText (path : Text) (entry : Entry) (resolves : Bool) : Text → Text
  | '%' :: c :: rest => statusPart path entry c ++ statusText path entry resolves rest
  | '\\' :: c :: rest =>
    let chars : Text := if !resolves then ['\\', c] else match c with
      | 'n' => ['\n']
      | 't' => ['\t']
      | '\\' => ['\\']
      | c => ['\\', c]
    chars ++ statusText path entry resolves rest
  | c :: rest => c :: statusText path entry resolves rest
  | [] => []

/-- The format that is used where none is given. -/
def usualFormat : Text :=
  "  File: %N\\n  Size: %s\\t\\tBlocks: %b\\t\\tIO Block: %o\\t%F\\nAccess: (0%a/%A)\\n".toList

/-- Prints what is known of files. -/
def stat : Tool :=
  withGiven ⟨"stat", "Lc:p:ft", [("dereference", 'L'), ("format", 'c'), ("printf", 'p'),
    ("file-system", 'f'), ("terse", 't')], false⟩ 1 fun given => do
    if given.operands.isEmpty then refuseUsage "stat" "missing operand" 1
    else
      forEach given.operands fun path => do
        let p ← get
        match if given.has 'L' then p.lookUp path else p.lookAt path with
        | .error cause =>
          complain "stat" ("cannot statx ".toList ++ quoted path ++ ": ".toList ++ cause.wording)
          return 1
        | .ok (_, entry) =>
          let text := match given.value? 'c', given.value? 'p' with
            | some format, none => statusText path entry false format ++ ['\n']
            | _, some format => statusText path entry true format
            | none, none => statusText path entry true usualFormat
          printing "stat" text 0

end Tool

end Virtual

end Oneshot
