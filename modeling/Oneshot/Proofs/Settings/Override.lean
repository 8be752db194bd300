import Oneshot.Proofs.Settings.Passing

/-!
# The Environment over the File

The environment overrides two fields of the settings, the compiler and the switch for errors. It
does so before anything is checked, as a layer over the document that the file holds: the section of
the toolchain may be absent there or hold any fields, and it keeps those that it has. The settings
are the same as if the document had been checked alone and the two fields had been set behind the
check, because both new values always pass.

* `Settings.overridden`: settings with two new fields.
* `ToolchainSettings.ofEntries_put_compiler`: a section with another compiler.
* `Settings.ofEntries_layers`: merging and then checking is checking and then setting.
* `Settings.load_overridden`: the same for settings that are loaded.
-/

namespace Oneshot

/-- A section that passes also passes with another compiler, and has that one then. -/
theorem ToolchainSettings.ofEntries_put_compiler {entries : Entries} {toolchain : ToolchainSettings}
    (h : ofEntries entries = .passed toolchain) (compiler : Text) :
    ofEntries (entries.put "compiler" (.text compiler)) = .passed { toolchain with compiler } := by
  obtain ⟨-, hdir, hflags⟩ := ofEntries_eq_passed_iff.1 h
  have hother : ∀ name : Text, "compiler".toList ≠ name →
      (entries.put "compiler" (.text compiler)).find? name = entries.find? name := by
    intro name hne
    rw [Entries.find?_put, if_neg hne]
  refine ofEntries_eq_passed_iff.2 ⟨?_, ?_, ?_⟩
  · refine Entries.field_eq_passed_iff.2 (.inr ⟨.text compiler, ?_, rfl⟩)
    rw [Entries.find?_put, if_pos rfl]
  · exact (Entries.field_congr (hother _ (by decide))).trans hdir
  · exact (Entries.field_congr (hother _ (by decide))).trans hflags

/-- The section of the toolchain under a compiler of the environment, be the section there or
not. -/
theorem ToolchainSettings.field_laidOver {entries entries' : Entries} {name : Text}
    {toolchain : ToolchainSettings} {compiler : Text}
    (h : entries.field name ofValue default = .passed toolchain)
    (hfind : entries'.find? name
      = some (Value.laidOver (entries.find? name) (.table [("compiler", .text compiler)]))) :
    entries'.field name ofValue default = .passed { toolchain with compiler } := by
  refine Entries.field_eq_passed_iff.2 (.inr ⟨_, hfind, ?_⟩)
  obtain ⟨hnone, rfl⟩ | ⟨v, hv, hpassed⟩ := Entries.field_eq_passed_iff.1 h
  · rw [hnone]
    have hempty : ofEntries [] = .passed default := rfl
    exact ofEntries_put_compiler hempty compiler
  · rw [hv]
    cases v with
    | table lower => exact ofEntries_put_compiler hpassed compiler
    | _ => cases hpassed

namespace Settings

/-- The settings with the compiler and the switch that an environment sets: the compiler if its
variable is there and not blank, the switch if its variable is there, be it empty. -/
def overridden (settings : Settings) (vars : Variables) : Settings :=
  { settings with
    toolchain := { settings.toolchain with
      compiler :=
        match vars.get? compilerVariable with
        | some value =>
          if Text.trim value = [] then settings.toolchain.compiler else Text.trim value
        | none => settings.toolchain.compiler }
    raiseErrors :=
      match vars.get? raiseVariable with
      | some value => decide (Text.lower (Text.trim value) ∈ truthyWords)
      | none => settings.raiseErrors }

/-- The compiler that is set is the one that the environment names, or else the former. -/
theorem toolchain_overridden (settings : Settings) (vars : Variables) :
    (settings.overridden vars).toolchain
      = match compilerOf vars with
        | some compiler => { settings.toolchain with compiler }
        | none => settings.toolchain := by
  rw [overridden, compilerOf]
  cases vars.get? compilerVariable with
  | none => rfl
  | some value => by_cases hblank : Text.trim value = [] <;> simp [hblank]

theorem raiseErrors_overridden (settings : Settings) (vars : Variables) :
    (settings.overridden vars).raiseErrors
      = match vars.get? raiseVariable with
        | some value => isTruthy value
        | none => settings.raiseErrors := by
  rw [overridden]
  cases vars.get? raiseVariable with
  | none => rfl
  | some value => simp [isTruthy]

/-- **Merging and then checking is checking and then setting.** -/
theorem ofEntries_layers {lower : Entries} {settings : Settings}
    (h : ofEntries lower = .passed settings) (vars : Variables) :
    ofEntries (lower.merge (environmentLayer vars)) = .passed (settings.overridden vars) := by
  obtain ⟨hpolicy, htoolchain, houtput, hraise⟩ := ofEntries_eq_passed_iff.1 h
  have hfind := find?_layers lower vars
  have hother : ∀ key : Text, key ≠ "toolchain".toList → key ≠ "raise_errors".toList →
      (lower.merge (environmentLayer vars)).find? key = lower.find? key := fun key hne hne' => by
    rw [hfind, if_neg hne, if_neg hne']
  refine ofEntries_eq_passed_iff.2 ⟨?_, ?_, ?_, ?_⟩
  · exact (Entries.field_congr (hother _ (by decide) (by decide))).trans hpolicy
  · rw [toolchain_overridden]
    have hsection := hfind "toolchain"
    rw [if_pos rfl] at hsection
    cases hcompiler : compilerOf vars with
    | none =>
      rw [hcompiler] at hsection
      exact (Entries.field_congr hsection).trans htoolchain
    | some compiler =>
      rw [hcompiler] at hsection
      exact ToolchainSettings.field_laidOver htoolchain hsection
  · exact (Entries.field_congr (hother _ (by decide) (by decide))).trans houtput
  · rw [raiseErrors_overridden]
    have hswitch := hfind "raise_errors"
    rw [if_neg (by decide), if_pos rfl] at hswitch
    cases hvalue : vars.get? raiseVariable with
    | none =>
      rw [hvalue] at hswitch
      exact (Entries.field_congr hswitch).trans hraise
    | some value =>
      rw [hvalue] at hswitch
      exact Entries.field_eq_passed_iff.2 (.inr ⟨_, hswitch, rfl⟩)

/-- **The environment overrides its two fields and no others.** Where settings can be loaded in an
empty environment, they can be loaded in every environment, from the same replies of the host; the
compiler is the one that the environment names, the switch for errors is as the environment sets it,
and everything else is as it was. -/
theorem load_overridden {cacheRoot : Option Path} {t : Trace} {settings : Settings}
    (h : (load cacheRoot []).run.Runs t (.ok settings)) (vars : Variables) :
    (load cacheRoot vars).run.Runs t (.ok (settings.overridden vars)) := by
  obtain ⟨file, hfile, hpassed⟩ := runs_load_iff.1 h
  have hempty : environmentLayer [] = [] := by decide
  rw [hempty, Entries.merge_nil] at hpassed
  exact runs_load_iff.2 ⟨file, hfile, ofEntries_layers hpassed vars⟩

/-- A section without a compiler, a switch that is on and triggers in an order of their own, under a
compiler with blanks around it and an empty variable for the switch. -/
theorem load_overridden_sections :
    let document : Text := Text.ended ["raise_errors = true", "[toolchain]", "scratch_dir = \"s\"",
      "[policy.std_triggers]", "\"B\" = [\"use b;\"]", "A = []"]
    let vars : Variables := [("SNIPPET_RUNNER_RAISE", []), ("SNIPPET_RUNNER_COMPILER", " gcc ")]
    let t : Trace := [⟨.kind "c/config.toml".toList, .ok .file⟩,
      ⟨.read "c/config.toml".toList, .ok (Utf8.encode document)⟩]
    let policy := { Policy.default with triggers := [⟨"B", ["use b;"]⟩, ⟨"A", []⟩] }
    let toolchain := { ToolchainSettings.default with scratchDir := Path.ofText "s" }
    (load (some (Path.ofText "c")) []).run.Runs t
        (.ok ⟨policy, toolchain, .default, true⟩) ∧
      (load (some (Path.ofText "c")) vars).run.Runs t
        (.ok ⟨policy, { toolchain with compiler := "gcc" }, .default, false⟩) := by
  intro document vars t policy toolchain
  let settings : Settings := ⟨policy, toolchain, .default, true⟩
  have hdecode : Utf8.decode (Utf8.encode document) = .ok document := by decide +kernel
  have hdocument : (Toml.read document).toOption.map
      (fun file => ofEntries ((Entries.merge [] file).merge (environmentLayer [])))
      = some (.passed settings) := by
    decide +kernel
  have hload : (load (some (Path.ofText "c")) []).run.Runs t (.ok settings) := by
    cases hread : Toml.read document with
    | error fault => simp [hread, Except.toOption] at hdocument
    | ok file =>
      rw [hread] at hdocument
      exact runs_load_iff.2 ⟨file, runs_fileLayer hdecode hread, Option.some.inj hdocument⟩
  have hoverridden : settings.overridden vars
      = ⟨policy, { toolchain with compiler := "gcc" }, .default, false⟩ := by
    decide +kernel
  exact ⟨hload, hoverridden ▸ load_overridden hload vars⟩

end Settings

end Oneshot
