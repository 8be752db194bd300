import Oneshot.Virtual.Raw
import Oneshot.Virtual.Tree

/-!
# Accounts

The system records its accounts in a file of the tree, one to a line, with their fields between
colons.

- `homeOf?_eq_none`: an account that is not recorded has no home.
-/

namespace Oneshot

namespace Virtual

/-- An account as the system records it. -/
structure Account where
  name : Text
  number : Nat
  group : Nat
  description : Text
  home : Text
  shell : Text
deriving DecidableEq, Repr

namespace Account

/-- The line of an account. -/
def line (a : Account) : Text :=
  Text.join [':'] [a.name, ['x'], Text.ofNat a.number, Text.ofNat a.group, a.description, a.home,
    a.shell]

/-- The content of the file that records accounts. -/
def fileOf (accounts : List Account) : Text :=
  Text.ended (accounts.map line)

/-- The accounts that the lines of a file record. -/
def ofFile (content : Text) : List Account :=
  (plainLines content).filterMap fun line =>
    match Text.splitAt ':' line with
    | [name, _, number, group, description, home, shell] =>
      some ⟨name, natOf number, natOf group, description, home, shell⟩
    | _ => none

/-- The place of the file that records accounts. -/
def filePlace : Place :=
  ["etc".toList, "passwd".toList]

/-- The accounts of a tree. -/
def ofTree (tree : Tree) : List Account :=
  match tree.get? filePlace with
  | some (.file content _) => ofFile (rawOfBytes content)
  | _ => []

/-- The home directory of an account. -/
def homeOf? (tree : Tree) (name : Text) : Option Text :=
  ((ofTree tree).find? (·.name == name)).map (·.home)

/-- The home directory of the account that everything runs for, which has the number zero. -/
def ownHome? (tree : Tree) : Option Text :=
  ((ofTree tree).find? (·.number == 0)).map (·.home)

/-- The accounts that every system has. -/
def ofSystem : List Account :=
  let ofRow : Text × Nat × Nat × Text × Text × Text → Account
    | (name, number, group, description, home, shell) =>
      ⟨name, number, group, description, home, shell⟩
  let nobody : Text := "/usr/sbin/nologin"
  let rows : List (Text × Nat × Nat × Text × Text × Text) :=
    [("root", 0, 0, "root", "/root", "/bin/bash"),
      ("daemon", 1, 1, "daemon", "/usr/sbin", nobody),
      ("bin", 2, 2, "bin", "/bin", nobody),
      ("sys", 3, 3, "sys", "/dev", nobody),
      ("sync", 4, 65534, "sync", "/bin", "/bin/sync"),
      ("games", 5, 60, "games", "/usr/games", nobody),
      ("man", 6, 12, "man", "/var/cache/man", nobody),
      ("lp", 7, 7, "lp", "/var/spool/lpd", nobody),
      ("mail", 8, 8, "mail", "/var/mail", nobody)]
  let more : List (Text × Nat × Nat × Text × Text × Text) :=
    [("news", 9, 9, "news", "/var/spool/news", nobody),
      ("uucp", 10, 10, "uucp", "/var/spool/uucp", nobody),
      ("proxy", 13, 13, "proxy", "/bin", nobody),
      ("www-data", 33, 33, "www-data", "/var/www", nobody),
      ("backup", 34, 34, "backup", "/var/backups", nobody),
      ("list", 38, 38, "Mailing List Manager", "/var/list", nobody),
      ("irc", 39, 39, "ircd", "/run/ircd", nobody),
      ("_apt", 42, 65534, [], "/nonexistent", nobody),
      ("nobody", 65534, 65534, "nobody", "/nonexistent", nobody)]
  (rows ++ more).map ofRow

/-- An account that is not recorded has no home. -/
theorem homeOf?_eq_none {tree : Tree} {name : Text}
    (h : ∀ a ∈ ofTree tree, a.name ≠ name) : homeOf? tree name = none := by
  simpa [homeOf?] using h

end Account

end Virtual

end Oneshot
