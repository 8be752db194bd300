import Oneshot.Virtual.Shell.Pattern
import Oneshot.Virtual.Tool.Basic

/-!
# Translating characters

The tool that replaces, removes and squeezes bytes, and the one that writes bytes in sixty-four
characters.

- `squeeze_nil`: nothing is squeezed where no character is meant.
-/

namespace Oneshot

namespace Virtual

namespace Tool

/-! ### Sets -/

/-- An element of a set of characters. -/
inductive SetItem where
  | char (c : Char)
  | range (lo hi : Char)
  | named (name : Text)
  /-- A character that is repeated; without a number, as often as it takes. -/
  | repeated (c : Char) (count : Nat)
deriving DecidableEq, Repr

/-- The character in front, which an escape may stand for, and what is left. -/
def setChar (s : Text) : Option (Char × Text) :=
  match s with
  | [] => none
  | ['\\'] => some ('\\', [])
  | '\\' :: c :: rest =>
    if isOctal c then
      let digits := ((c :: rest).take 3).takeWhile isOctal
      let digits := if 255 < octalOf digits then digits.take 2 else digits
      some (Char.ofNat (octalOf digits), (c :: rest).drop digits.length)
    else
      let escaped := match c with
        | 'a' => '\x07'
        | 'b' => '\x08'
        | 'f' => '\x0c'
        | 'n' => '\n'
        | 'r' => '\r'
        | 't' => '\t'
        | 'v' => '\x0b'
        | c => c
      some (escaped, rest)
  | c :: rest => some (c, rest)

/-- The item between brackets in front, and what is left. -/
def bracketItem? (s : Text) : Option (SetItem × Text) :=
  match s with
  | '[' :: ':' :: rest =>
    let name := rest.takeWhile Char.isAlpha
    match rest.drop name.length with
    | ':' :: ']' :: rest => if name.isEmpty then none else some (.named name, rest)
    | _ => none
  | '[' :: '=' :: c :: '=' :: ']' :: rest => some (.char c, rest)
  | '[' :: rest => do
    let (c, rest) ← setChar rest
    match rest with
    | '*' :: rest =>
      let digits := rest.takeWhile Char.isDigit
      match rest.drop digits.length with
      | ']' :: rest =>
        let count := if digits.head? = some '0' then octalOf digits else natOf digits
        return (.repeated c count, rest)
      | _ => none
    | _ => none
  | _ => none

/-- A range as it is named in a message. -/
def rangeText (lo hi : Char) : Text :=
  let shown (c : Char) : Text := if c < ' ' || 0x7e < c.toNat then
      let digits := Nat.toDigits 8 c.toNat
      '\\' :: List.replicate (3 - digits.length) '0' ++ digits
    else [c]
  shown lo ++ '-' :: shown hi

/-- Why a set cannot be read. -/
inductive SetFault where
  | unknownClass (name : Text)
  | reversedRange (lo hi : Char)
deriving DecidableEq, Repr

/-- What is said of a set that cannot be read. -/
def SetFault.message : SetFault → Run Text
  | .unknownClass name => do return "invalid character class ".toList ++ (← inMarks name)
  | .reversedRange lo hi =>
    return "range-endpoints of '".toList ++ rangeText lo hi
      ++ "' are in reverse collating sequence order".toList

/-- The items of a set, which has at most `fuel` characters. -/
def readItems : (fuel : Nat) → Text → Except SetFault (List SetItem)
  | 0, _ => .ok []
  | _, [] => .ok []
  | fuel + 1, s =>
    match bracketItem? s with
    | some (.named name, rest) =>
      if Shell.classNames.contains (String.ofList name) then
        (readItems fuel rest).map (.named name :: ·)
      else .error (.unknownClass name)
    | some (item, rest) => (readItems fuel rest).map (item :: ·)
    | none =>
      match setChar s with
      | none => .ok []
      | some (c, '-' :: d :: rest) =>
        match setChar (d :: rest) with
        | none => .ok [.char c]
        | some (hi, rest) =>
          if hi < c then .error (.reversedRange c hi)
          else (readItems fuel rest).map (.range c hi :: ·)
      | some (c, rest) => (readItems fuel rest).map (.char c :: ·)

/-- All bytes, as characters. -/
def allBytes : Text :=
  (List.range 256).map Char.ofNat

/-- The characters of an item; `missing` says how often a character without a number is repeated. -/
def SetItem.chars (missing : Nat) : SetItem → Text
  | .char c => [c]
  | .range lo hi => (List.range (hi.toNat - lo.toNat + 1)).map fun i => Char.ofNat (lo.toNat + i)
  | .named name => allBytes.filter (Shell.inNamedClass name)
  | .repeated c count => List.replicate (if count = 0 then missing else count) c

/-- The characters of a set that is at least `length` long where an item asks for it. -/
def setChars (length : Nat) (items : List SetItem) : Text :=
  let fixed := items.foldl (fun n item => n + (item.chars 0).length) 0
  items.flatMap (SetItem.chars (length - fixed))

/-- The characters that are in no place of a set. -/
def complementOf (chars : Text) : Text :=
  allBytes.filter (!chars.contains ·)

/-- What a character is replaced by. -/
def translate (source target : Text) (c : Char) : Char :=
  ((source.zip target).reverse.lookup c).getD c

/-- A text in which none of some characters follows itself. -/
def squeeze (chars : Text) : Text → Text
  | [] => []
  | c :: rest =>
    match squeeze chars rest with
    | [] => [c]
    | d :: others => if c = d && chars.contains c then d :: others else c :: d :: others

/-- The bytes that a set is made longer by: its last one again and again. -/
def padded (length : Nat) (chars : Text) : Text :=
  match chars.getLast? with
  | none => []
  | some last => chars ++ List.replicate (length - chars.length) last

/-- Replaces, removes and squeezes bytes. -/
def tr : Tool :=
  withGiven ⟨"tr", "cCdst", [("complement", 'c'), ("delete", 'd'), ("squeeze-repeats", 's'),
    ("truncate-set1", 't')], true⟩ 1 fun given => do
    let deletes := given.has 'd'
    let squeezes := given.has 's'
    let needed := if deletes == squeezes then 2 else 1
    let allowed := if deletes && !squeezes then 1 else 2
    let refuse (message : Text) : Run Nat := do
      complain "tr" message
      return 1
    let refuseBecause (message why : Text) : Run Nat := do
      complain "tr" message
      say 2 (why ++ ['\n'])
      pointToHelp "tr"
      return 1
    match given.operands with
    | [] => refuseMissing "tr" []
    | first :: rest =>
      if rest.isEmpty && needed = 2 then
        let why : Text := if deletes then
            "Two strings must be given when both deleting and squeezing repeats."
          else "Two strings must be given when translating."
        refuseBecause ("missing operand after ".toList ++ (← inMarks first)) why
      else if allowed ≤ rest.length then
        let message := "extra operand ".toList ++ (← inMarks (rest.getD (allowed - 1) []))
        if allowed = 1 && rest.length = 1 then
          refuseBecause message
            "Only one string may be given when deleting without squeezing repeats."
        else refuseUsage "tr" message 1
      else
        match readItems (first.length + 1) first, readItems ((rest.headD []).length + 1)
            (rest.headD []) with
        | .error fault, _ | _, .error fault => do refuse (← fault.message)
        | .ok items, .ok others =>
          let source := setChars 0 items
          let source := if given.has 'c' || given.has 'C' then complementOf source else source
          let target := setChars source.length others
          let text := (← readAll 0).toOption.getD []
          if deletes then
            let kept := text.filter (!source.contains ·)
            printing "tr" (if squeezes then squeeze target kept else kept) 0
          else if rest.isEmpty then printing "tr" (squeeze source text) 0
          else if target.isEmpty && !source.isEmpty && !given.has 't' then
            refuse "when not truncating set1, string2 must be non-empty"
          else
            let target := if given.has 't' then target else padded source.length target
            let moved := text.map (translate source target)
            printing "tr" (if squeezes then squeeze target moved else moved) 0

/-! ### Sixty-four characters -/

/-- The digits that stand for six bits each. -/
def sixBitDigits : Text :=
  "ABCDEFGHIJKLMNOPQRSTUVWXYZabcdefghijklmnopqrstuvwxyz0123456789+/"

/-- Bytes in digits of six bits, with signs of equality for what is missing at the end. -/
def toSixBits : Text → Text
  | [] => []
  | [a] =>
    let n := a.toNat * 65536
    digitsOf n 2 ++ "==".toList
  | [a, b] =>
    let n := a.toNat * 65536 + b.toNat * 256
    digitsOf n 3 ++ ['=']
  | a :: b :: c :: rest =>
    digitsOf (a.toNat * 65536 + b.toNat * 256 + c.toNat) 4 ++ toSixBits rest
where
  /-- The first digits of a number of twenty-four bits. -/
  digitsOf (n count : Nat) : Text :=
    ([n / 262144 % 64, n / 4096 % 64, n / 64 % 64, n % 64].take count).map fun i =>
      sixBitDigits.getD i '='

/-- The bytes that digits of six bits stand for, as far as they do. -/
def fromSixBits (digits : Text) : Text :=
  let values := digits.filterMap sixBitDigits.idxOf?
  let rec bytes : List Nat → Text
    | a :: b :: rest =>
      let first := Char.ofNat (a * 4 + b / 16)
      match rest with
      | [] => [first]
      | c :: rest =>
        let second := Char.ofNat (b % 16 * 16 + c / 4)
        match rest with
        | [] => [first, second]
        | d :: rest => first :: second :: Char.ofNat (c % 4 * 64 + d) :: bytes rest
    | _ => []
  bytes values

/-- Lines of a text that are `width` long. -/
def linesOf (width : Nat) : (fuel : Nat) → Text → List Text
  | 0, _ => []
  | _, [] => []
  | fuel + 1, s => s.take width :: linesOf width fuel (s.drop width)

/-- Writes bytes in sixty-four characters, and reads them. -/
def base64 : Tool :=
  withGiven ⟨"base64", "diw:", [("decode", 'd'), ("ignore-garbage", 'i'), ("wrap", 'w')], false⟩ 1
    fun given => do
    match given.operands with
    | _ :: extra :: _ => refuseExtra "base64" extra
    | operands =>
      let operand := operands.headD ['-']
      match ← readOperand operand with
      | .error cause =>
        complainOf "base64" operand cause
        return 1
      | .ok text =>
        if given.has 'd' then
          let digits := text.filter (· != '\n')
          let isClean := digits.all fun c => sixBitDigits.contains c || c == '='
          let status ← printing "base64" (fromSixBits digits) 0
          if isClean && digits.length % 4 = 0 || given.has 'i' then return status
          else
            complain "base64" "invalid input"
            return 1
        else
          let width := (given.value? 'w').elim 76 natOf
          let digits := toSixBits text
          if width = 0 then printing "base64" digits 0
          else printing "base64" (Text.ended (linesOf width digits.length digits)) 0

/-- Nothing is squeezed where no character is meant. -/
theorem squeeze_nil (text : Text) : squeeze [] text = text := by
  induction text with
  | nil => rfl
  | cons c rest ih =>
    rw [squeeze, ih]
    cases rest <;> simp

end Tool

end Virtual

end Oneshot
