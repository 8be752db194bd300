import Oneshot.CommandLine.Options

/-!
# Commands and their help

The program and its three commands: their options, and the pages that describe them. A page lists
arguments first, then options by name, in two columns, and is set in lines of a given width.
-/

namespace Oneshot

namespace CommandLine

/-- The program itself, in front of its commands. -/
def program : Spec where
  command := "snippet-runner"
  synopsis := "[OPTIONS] COMMAND [ARGS]..."
  long := [("--help", .help)]
  short := []
  stopsAtArgument := true
  keepsUnknown := false

/-- The command that compiles a script and runs it. -/
def runSpec : Spec where
  command := "snippet-runner run"
  synopsis := "[OPTIONS] [script] [args]..."
  long := [("--verbose", .verbose), ("--emoji", .emoji true), ("--no-emoji", .emoji false),
    ("--color", .color true), ("--no-color", .color false), ("--show-expanded", .showExpanded),
    ("--cache-dir", .cacheDir), ("--help", .help)]
  short := [('v', .verbose)]
  stopsAtArgument := true
  keepsUnknown := true

/-- The command that prints the program of a script. -/
def expandSpec : Spec where
  command := "snippet-runner expand"
  synopsis := "[OPTIONS] [script]"
  long := [("--body", .body), ("--cache-dir", .cacheDir), ("--help", .help)]
  short := []
  stopsAtArgument := false
  keepsUnknown := false

/-- The command that shows the cache. -/
def cacheSpec : Spec where
  command := "snippet-runner cache"
  synopsis := "[OPTIONS]"
  long := [("--cache-dir", .cacheDir), ("--help", .help)]
  short := []
  stopsAtArgument := false
  keepsUnknown := false

/-- What a page says of a command. -/
structure Description where
  spec : Spec
  paragraphs : List Text
  /-- The parts of the page, each with its heading. -/
  parts : List (Text × List (Text × Text))

/-- The lines of a page. -/
def Description.page (width : Nat) (d : Description) : Text :=
  let paragraphs := d.paragraphs.flatMap fun paragraph =>
    [] :: (fill (width - 2) paragraph).map ([' ', ' '] ++ ·)
  let parts := d.parts.flatMap fun (heading, entries) =>
    [] :: (heading ++ [':']) :: definitions width entries
  Text.ended (d.spec.usage width ++ paragraphs ++ parts)

/-- The entry for the option that shows a page. -/
def helpEntry : Text × Text :=
  ("--help", "Show this message and exit.")

/-- The entry for the option that names the cache directory. -/
def cacheDirEntry : Text × Text :=
  ("--cache-dir <path>", "Cache directory (defaults to <config-root>/runner).")

/-- What each command does, in one sentence. -/
def summaries : List (Text × Text) :=
  [("cache", "Create the cache if needed and print its locations."),
    ("expand", "Print the program generated for SCRIPT without compiling it."),
    ("run", "Compile SCRIPT and run it, forwarding ARGS verbatim.")]

/-- The summary of a command. -/
def summary (name : Text) : Text :=
  (List.lookup name summaries).getD []

/-- The page of the program. Summaries are shortened to one line each. -/
def programHelp (width : Nat) : Text :=
  let longest := (summaries.map (·.1.length)).foldl max 0
  Description.page width {
    spec := program
    paragraphs := ["Compile and run bare Rust snippets without a Cargo project."]
    parts := [("Options", [helpEntry]),
      ("Commands",
        summaries.map fun (name, text) => (name, shortened (width - 6 - longest) text))] }

/-- The page of the command that runs a script. -/
def runHelp (width : Nat) : Text :=
  Description.page width {
    spec := runSpec
    paragraphs := [summary "run",
      "Runner options must precede SCRIPT; everything after it belongs to the ".toList
        ++ "compiled program. The exit status mirrors the program's own.".toList]
    parts := [
      ("Arguments", [("script <path>", "Snippet to run (.rs)."),
        ("args... <list[str]>", "Arguments passed to the compiled program.")]),
      ("Options", [cacheDirEntry, ("--color / --no-color", "Toggle coloured output."),
        ("--emoji / --no-emoji", "Toggle emoji output."), helpEntry,
        ("--show-expanded", "Report where the generated program was written."),
        ("-v, --verbose", "Print debug details to stderr.")])] }

/-- The page of the command that prints the program of a script. -/
def expandHelp (width : Nat) : Text :=
  Description.page width {
    spec := expandSpec
    paragraphs := [summary "expand"]
    parts := [("Arguments", [("script <path>", "Snippet to expand (.rs).")]),
      ("Options", [("--body", "Print only the wrapped body lines."), cacheDirEntry, helpEntry])] }

/-- The page of the command that shows the cache. -/
def cacheHelp (width : Nat) : Text :=
  Description.page width {
    spec := cacheSpec
    paragraphs := [summary "cache"]
    parts := [("Options", [cacheDirEntry, helpEntry])] }

end CommandLine

end Oneshot
