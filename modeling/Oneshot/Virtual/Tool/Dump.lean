import Oneshot.Virtual.Format
import Oneshot.Virtual.Tool.Lines
import Oneshot.Virtual.Tool.Translate

/-!
# Dumping bytes

The tool that shows the bytes of its input as numbers or characters, in lines with their offsets.
Lines that repeat the one in front are shown by an asterisk.

- `cellWidth_byte`: the width of a byte in hexadecimal digits.
-/

namespace Oneshot

namespace Virtual

namespace Tool

/-- How the bytes of a cell are shown. -/
inductive CellStyle where
  | octal | hexadecimal | unsigned | signed
  /-- As characters, with escapes for those that do not print. -/
  | chars
  /-- As the names of characters. -/
  | names
deriving DecidableEq, Repr

/-- A way to show lines of bytes: how, how many bytes make a cell, and whether the characters are
shown behind the cells. -/
structure DumpRow where
  style : CellStyle
  size : Nat
  showsText : Bool
deriving DecidableEq, Repr

/-- How wide a cell is, without the blank in front. -/
def DumpRow.cellWidth (r : DumpRow) : Nat :=
  let bits := 8 * r.size
  match r.style with
  | .octal => (bits + 2) / 3
  | .hexadecimal => 2 * r.size
  | .unsigned => (Text.ofNat (Nat.pow 2 bits - 1)).length
  | .signed => (Text.ofNat (Nat.pow 2 (bits - 1))).length + 1
  | .chars | .names => 3

/-- The name of a character. -/
def charName (n : Nat) : Text :=
  let names : List String :=
    ["nul", "soh", "stx", "etx", "eot", "enq", "ack", "bel", "bs", "ht", "nl", "vt", "ff", "cr",
      "so", "si"]
  let more : List String :=
    ["dle", "dc1", "dc2", "dc3", "dc4", "nak", "syn", "etb", "can", "em", "sub", "esc", "fs", "gs",
      "rs", "us", "sp"]
  if n = 127 then "del"
  else
    match (names ++ more)[n]? with
    | some name => name.toList
    | none => [Char.ofNat n]

/-- Digits with zeros in front. -/
def zeroFilled (width : Nat) (digits : Text) : Text :=
  List.replicate (width - digits.length) '0' ++ digits

/-- A character, or an escape for it. -/
def charCell (c : Char) : Text :=
  match c with
  | '\x00' => "\\0"
  | '\x07' => "\\a"
  | '\x08' => "\\b"
  | '\x0c' => "\\f"
  | '\n' => "\\n"
  | '\r' => "\\r"
  | '\t' => "\\t"
  | '\x0b' => "\\v"
  | c => if Shell.isGraphic c || c = ' ' then [c] else zeroFilled 3 (Nat.toDigits 8 c.toNat)

/-- The text of a cell. -/
def DumpRow.cell (r : DumpRow) (bytes : Text) : Text :=
  let value := bytes.foldr (fun c n => n * 256 + c.toNat) 0
  let first := bytes.headD '\x00'
  match r.style with
  | .octal => zeroFilled r.cellWidth (Nat.toDigits 8 value)
  | .hexadecimal => zeroFilled r.cellWidth (Nat.toDigits 16 value)
  | .unsigned => Text.ofNat value
  | .signed =>
    let bits := 8 * r.size
    Text.ofInt (if value < Nat.pow 2 (bits - 1) then value else (value : Int) - Nat.pow 2 bits)
  | .chars => charCell first
  | .names => charName (first.toNat % 128)

/-- The rows of a type such as `x1` or `cd2`. `fuel` bounds its length. -/
def readRows : (fuel : Nat) → Text → Option (List DumpRow)
  | 0, _ => some []
  | _, [] => some []
  | fuel + 1, c :: rest => do
    let style ← match c with
      | 'o' => some CellStyle.octal
      | 'x' => some .hexadecimal
      | 'u' => some .unsigned
      | 'd' => some .signed
      | 'c' => some .chars
      | 'a' => some .names
      | _ => none
    let isNumber := style != .chars && style != .names
    let digits := if isNumber then rest.takeWhile Char.isDigit else []
    let behind := rest.drop digits.length
    let (size, behind) := match isNumber, digits, behind with
      | false, _, behind => (1, behind)
      | true, [], 'C' :: behind => (1, behind)
      | true, [], 'S' :: behind => (2, behind)
      | true, [], 'I' :: behind => (4, behind)
      | true, [], 'L' :: behind => (8, behind)
      | true, [], behind => (4, behind)
      | true, digits, behind => (natOf digits, behind)
    let (showsText, behind) := match behind with
      | 'z' :: behind => (true, behind)
      | behind => (false, behind)
    if [1, 2, 4, 8].contains size then
      return ⟨style, size, showsText⟩ :: (← readRows fuel behind)
    else none

/-- The rows of an old option. -/
def oldRow? (letter : Char) : Option DumpRow :=
  match letter with
  | 'a' => some ⟨.names, 1, false⟩
  | 'b' => some ⟨.octal, 1, false⟩
  | 'c' => some ⟨.chars, 1, false⟩
  | 'd' => some ⟨.unsigned, 2, false⟩
  | 'i' => some ⟨.signed, 4, false⟩
  | 'l' => some ⟨.signed, 8, false⟩
  | 'o' => some ⟨.octal, 2, false⟩
  | 's' => some ⟨.signed, 2, false⟩
  | 'x' | 'h' => some ⟨.hexadecimal, 2, false⟩
  | _ => none

/-- The cells of a block of bytes of which the last may be missing. `total` is the width of the
widest row, to which all others are filled up in front of their cells. -/
def DumpRow.line (r : DumpRow) (blockSize total : Nat) (bytes : Text) : Text :=
  let count := blockSize / r.size
  let padding := total - count * (r.cellWidth + 1)
  let cells := linesOf r.size bytes.length bytes
  let row := cells.zipIdx.flatMap fun (cell, i) =>
    let extra := padding * (count - i) / count - padding * (count - i - 1) / count
    let text := r.cell cell
    List.replicate (r.cellWidth + 1 + extra - text.length) ' ' ++ text
  if r.showsText then
    let shown := bytes.map fun c => if Shell.isGraphic c || c = ' ' then c else '.'
    row ++ List.replicate (total - row.length) ' ' ++ "  >".toList ++ shown ++ ['<']
  else row

/-- An offset as some radix shows it. -/
def offsetText (radix : Char) (offset : Nat) : Text :=
  match radix with
  | 'd' => zeroFilled 7 (Text.ofNat offset)
  | 'x' => zeroFilled 6 (Nat.toDigits 16 offset)
  | 'n' => []
  | _ => zeroFilled 7 (Nat.toDigits 8 offset)

/-- The lines for blocks of bytes, with an asterisk for those that repeat the one in front. -/
def dumpBlocks (showAll : Bool) (line : Nat → Text → Text) (blockSize : Nat) :
    (offset : Nat) → (previous : Option Text) → (isSkipping : Bool) → List Text → Text
  | _, _, _, [] => []
  | offset, previous, isSkipping, block :: rest =>
    let next := offset + block.length
    if !showAll && previous == some block && !rest.isEmpty then
      (if isSkipping then [] else "*\n".toList)
        ++ dumpBlocks showAll line blockSize next previous true rest
    else
      line offset block ++ dumpBlocks showAll line blockSize next (some block) false rest

/-- The number that a count of bytes denotes: octal or hexadecimal if it says so. -/
def byteCount? (s : Text) : Option Nat :=
  match s with
  | '0' :: 'x' :: digits =>
    if digits.all fun c => c.isDigit || ('a' ≤ c.toLower && c.toLower ≤ 'f') then
      some (digits.foldl (fun n c =>
        n * 16 + if c.isDigit then c.toNat - 48 else c.toLower.toNat - 87) 0)
    else none
  | '0' :: digits => if digits.all isOctal then some (octalOf digits) else none
  | s => scaledNumber? s

/-- The dump of some bytes that begin at an offset. -/
def dump (radix : Char) (showAll : Bool) (rows : List DumpRow) (blockSize offset : Nat)
    (bytes : Text) : Text :=
  let total := (rows.map fun r => blockSize / r.size * (r.cellWidth + 1)).foldl max 0
  let line (offset : Nat) (block : Text) : Text :=
    rows.zipIdx.flatMap fun (r, i) =>
      let front := offsetText radix offset
      let front := if i = 0 then front else List.replicate front.length ' '
      front ++ r.line blockSize total block ++ ['\n']
  let final := offsetText radix (offset + bytes.length)
  dumpBlocks showAll line blockSize offset none false (linesOf blockSize bytes.length bytes)
    ++ if final.isEmpty then [] else final ++ ['\n']

/-- Shows bytes as numbers or characters. -/
def od : Tool :=
  withGiven ⟨"od", "A:t:vN:j:w::abcdilosxhS:", [("address-radix", 'A'), ("format", 't'),
    ("output-duplicates", 'v'), ("read-bytes", 'N'), ("skip-bytes", 'j'), ("width", 'w')], false⟩
    1 fun given => do
    let refuse (message : Text) : Run Nat := do
      complain "od" message
      return 1
    let radix := ((given.value? 'A').getD ['o']).headD 'o'
    if !"doxn".toList.contains radix then
      refuse ("invalid output address radix '".toList
        ++ radix :: "'; it must be one character from [doxn]".toList)
    else
      let rowsOf : Char × Text → Except Text (List DumpRow)
        | ('t', type) => match readRows (type.length + 1) type with
          | some rows => .ok rows
          | none => .error type
        | (letter, _) => .ok (oldRow? letter).toList
      match given.options.mapM rowsOf with
      | .error type =>
        refuse ("invalid character '".toList ++ type.take 1 ++ "' in type string ".toList
          ++ (← inMarks type))
      | .ok rows =>
        let rows := if rows.flatten.isEmpty then [⟨.octal, 2, false⟩] else rows.flatten
        match (given.value? 'N').mapM byteCount?, (given.value? 'j').mapM byteCount? with
        | none, _ =>
          refuse ("invalid -N argument ".toList ++ (← inMarks ((given.value? 'N').getD [])))
        | _, none =>
          refuse ("invalid -j argument ".toList ++ (← inMarks ((given.value? 'j').getD [])))
        | some limit?, some skip? =>
          let (contents, isWhole) ← readOperands "od" given.operands
          if contents.isEmpty then return 1
          else
            let skip := skip?.getD 0
            let bytes := (contents.flatMap (·.2)).drop skip
            let bytes := limit?.elim bytes bytes.take
            let width := match given.value? 'w' with
              | none => 16
              | some [] => 32
              | some digits => max (natOf digits) 1
            printing "od" (dump radix (given.has 'v') rows width skip bytes) (statusFor isWhole)

/-- The width of a byte in hexadecimal digits. -/
theorem cellWidth_byte (showsText : Bool) : (DumpRow.mk .hexadecimal 1 showsText).cellWidth = 2 :=
  rfl

end Tool

end Virtual

end Oneshot
