import Oneshot.Virtual.Account
import Oneshot.Virtual.Tool.Basic

/-!
# Facts about the system

The tools that print what is known of the system and of the account that uses it, and those that do
nothing but end.

- `idle_ends`: a tool that does nothing ends with its status.
-/

namespace Oneshot

namespace Virtual

namespace Tool

/-- A tool that does nothing but end with a status. -/
def idle (status : Nat) : Tool := fun _ => return status

/-- The number of seconds, minutes, hours or days that a text denotes is a number. -/
def isDuration (s : Text) : Bool :=
  let digits := match s.getLast? with
    | some c => if "smhd".toList.contains c then s.dropLast else s
    | none => []
  let whole := digits.takeWhile Char.isDigit
  let rest := digits.drop whole.length
  let fraction : Text := match rest with
    | '.' :: fraction => fraction
    | _ => []
  let isPlace := rest.isEmpty || rest.head? == some '.' && fraction.all Char.isDigit
  isPlace && !(whole ++ fraction).isEmpty || digits == "infinity".toList

/-- Waits, which takes no time here. -/
def sleep : Tool :=
  withGiven ⟨"sleep", "", [], false⟩ 1 fun given => do
    match given.operands.filter (!isDuration ·) with
    | [] => if given.operands.isEmpty then refuseMissing "sleep" [] else return 0
    | wrong =>
      for operand in wrong do
        complain "sleep" ("invalid time interval ".toList ++ (← inMarks operand))
      pointToHelp "sleep"
      return 1

/-- Prints the name of the account. -/
def whoami : Tool :=
  withGiven ⟨"whoami", "", [], false⟩ 1 fun given =>
    match given.operands with
    | [] => printing "whoami" "root\n" 0
    | extra :: _ => refuseExtra "whoami" extra

/-- The text of an account with its number. -/
def accountPart (label : String) (number : Nat) (name : Text) : Text :=
  label.toList ++ '=' :: Text.ofNat number ++ '(' :: name ++ [')']

/-- Prints the names and numbers of an account and its group. -/
def identity : Tool :=
  withGiven ⟨"id", "ugGnrza", [("user", 'u'), ("group", 'g'), ("groups", 'G'), ("name", 'n'),
    ("real", 'r')], false⟩ 1 fun given => do
    let name := given.operands.headD "root"
    let tree := (← get).system.tree
    match (Account.ofTree tree).find? (·.name == name) with
    | none =>
      complain "id" ((← inMarks name) ++ ": no such user".toList)
      return 1
    | some account =>
      let group := ((Account.ofTree tree).find? (·.number == account.group)).elim
        (Text.ofNat account.group) (·.name)
      match given.last? "ugG" with
      | some 'u' =>
        let text := if given.has 'n' then account.name else Text.ofNat account.number
        printing "id" (text ++ ['\n']) 0
      | some _ =>
        let text := if given.has 'n' then group else Text.ofNat account.group
        printing "id" (text ++ ['\n']) 0
      | none =>
        let parts := [accountPart "uid" account.number account.name,
          accountPart "gid" account.group group, accountPart "groups" account.group group]
        printing "id" (Text.join [' '] parts ++ ['\n']) 0

/-- What is known of the system, each part with the letter that asks for it. -/
def systemParts : List (Char × String) :=
  [('s', "Linux"), ('n', "localhost"), ('r', "6.1.0"), ('v', "#1 SMP"), ('m', "x86_64"),
    ('p', "unknown"), ('i', "unknown"), ('o', "GNU/Linux")]

/-- Prints what is known of the system. -/
def uname : Tool :=
  withGiven ⟨"uname", "asnrvmpio", [("all", 'a'), ("kernel-name", 's'), ("nodename", 'n'),
    ("kernel-release", 'r'), ("kernel-version", 'v'), ("machine", 'm'), ("processor", 'p'),
    ("hardware-platform", 'i'), ("operating-system", 'o')], false⟩ 1 fun given => do
    match given.operands with
    | extra :: _ => refuseExtra "uname" extra
    | [] =>
      let asked (letter : Char) : Bool :=
        if given.has 'a' then letter != 'p' && letter != 'i'
        else if given.options.isEmpty then letter == 's'
        else given.has letter
      let parts := (systemParts.filter fun part => asked part.1).map (·.2.toList)
      printing "uname" (Text.join [' '] parts ++ ['\n']) 0

/-- Prints a line. -/
def printLine (tool : String) (line : Text) (status : Nat) : Tool := fun _ =>
  printing tool (line ++ ['\n']) status

/-- How often a text is printed that is printed until nobody reads it. -/
def repetitions : Nat := 20000

/-- Prints a line until nobody reads it. -/
def yes : Tool := fun arguments => do
  let line := (if arguments.isEmpty then ['y'] else Text.join [' '] arguments) ++ ['\n']
  printing "yes" (List.replicate repetitions line).flatten 1

/-! ### Time -/

/-- What stands for a letter behind a percent sign, at the moment when time begins to be counted. -/
def beginningOfTime (letter : Char) : Text :=
  match letter with
  | 'Y' | 'G' => "1970"
  | 'y' | 'g' => "70"
  | 'C' => "19"
  | 'm' | 'd' | 'V' => "01"
  | 'e' => " 1"
  | 'j' => "001"
  | 'H' | 'M' | 'S' | 'U' | 'W' => "00"
  | 'k' => " 0"
  | 'I' => "12"
  | 'l' => "12"
  | 'p' => "AM"
  | 'P' => "am"
  | 's' => "0"
  | 'N' => "000000000"
  | 'u' | 'w' => "4"
  | 'a' => "Thu"
  | 'A' => "Thursday"
  | 'b' | 'h' => "Jan"
  | 'B' => "January"
  | 'F' => "1970-01-01"
  | 'D' | 'x' => "01/01/70"
  | 'T' | 'X' => "00:00:00"
  | 'R' => "00:00"
  | 'r' => "12:00:00 AM"
  | 'c' => "Thu Jan  1 00:00:00 1970"
  | 'Z' => "UTC"
  | 'z' => "+0000"
  | 'n' => "\n"
  | 't' => "\t"
  | '%' => "%"
  | other => ['%', other]

/-- A text in which percent signs with letters stand for parts of a moment. -/
def ofMoment : Text → Text
  | '%' :: '-' :: c :: rest =>
    (beginningOfTime c).dropWhile (fun c => c == '0' || c == ' ') ++ ofMoment rest
  | '%' :: c :: rest => beginningOfTime c ++ ofMoment rest
  | c :: rest => c :: ofMoment rest
  | [] => []

/-- Prints the time, which stands still here. -/
def date : Tool :=
  withGiven ⟨"date", "uRId:f:r:s:", [("utc", 'u'), ("universal", 'u'), ("date", 'd'),
    ("reference", 'r')], false⟩ 1 fun given =>
    match given.operands with
    | [] => printing "date" "Thu Jan  1 00:00:00 UTC 1970\n" 0
    | ('+' :: format) :: _ => printing "date" (ofMoment format ++ ['\n']) 0
    | wrong :: _ => do
      complain "date" ("invalid date ".toList ++ (← inMarks wrong))
      return 1

/-- A tool that does nothing ends with its status. -/
theorem idle_ends (status : Nat) (arguments : List Text) (p : Process) :
    (idle status arguments).run p = (status, p) := rfl

end Tool

end Virtual

end Oneshot
