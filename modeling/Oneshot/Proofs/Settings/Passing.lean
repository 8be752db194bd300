import Oneshot.Proofs.Cache.Making
import Oneshot.Proofs.Host.Topics

/-!
# Settings That Pass

A check collects the faults of all fields, so that a document passes exactly if each of its fields
does, and what it passes with is what its fields pass with. A field is looked up by its name: what
else the document holds, and in which order, is of no account for it.

The settings of a run are those of a document with two layers. The lower one is read from the host
and does not depend on the environment; the upper one is the environment and does not depend on the
host.

* `Check.ap_eq_passed_iff`, `Entries.field_eq_passed_iff`: checks together, and the check of a
  field.
* `Settings.ofEntries_eq_passed_iff`: a document passes field by field.
* `Settings.runs_load_iff`: how settings are loaded.
* `Settings.find?_layers`: what the two layers hold.

Settings are also written as a document, in which every field has a value that passes the check of
the field unchanged. Three of the fields take not all that their types hold: there is an entry
marker, a declaration has a keyword, and the scratch directory is a path that has been read.
Whatever passes a check has these properties (`Settings.Sound`), and settings that have them are
read back from their document.

* `Entries.field_put`: the check of a field behind a change of one entry.
* `Settings.sound_of_ofEntries`, `Settings.ofEntries_toEntries`: what passes is sound, and what is
  sound is read back.
-/

namespace Oneshot

open Action (runs_bind runs_ask_bind)

variable {α β : Type}

/-! ### Checks -/

namespace Check

theorem map_eq_passed_iff {f : α → β} {c : Check α} {y : β} :
    c.map f = .passed y ↔ ∃ x, c = .passed x ∧ f x = y := by
  cases c <;> simp [map]

/-- Two checks together pass if both do. -/
theorem ap_eq_passed_iff {c : Check (α → β)} {d : Check α} {y : β} :
    c.ap d = .passed y ↔ ∃ f x, c = .passed f ∧ d = .passed x ∧ f x = y := by
  cases c <;> cases d <;> simp [ap]

theorem within_eq_passed_iff {step : Step} {c : Check α} {x : α} :
    c.within step = .passed x ↔ c = .passed x := by
  cases c <;> simp [within]

end Check

/-! ### Fields -/

namespace Entries

variable {entries entries' : Entries} {name : Text} {check : Value → Check α} {default x : α}

/-- A field that passes has the checked value of the section, or its default where there is none. -/
theorem field_eq_passed_iff :
    entries.field name check default = .passed x ↔
      entries.find? name = none ∧ default = x ∨
        ∃ v, entries.find? name = some v ∧ check v = .passed x := by
  rw [field]
  cases entries.find? name with
  | none => simp
  | some v => simp [Check.within_eq_passed_iff]

/-- A field does not depend on the rest of the section. -/
theorem field_congr (h : entries.find? name = entries'.find? name) :
    entries.field name check default = entries'.field name check default := by
  rw [field, field, h]

end Entries

theorem ToolchainSettings.ofEntries_eq_passed_iff {entries : Entries}
    {toolchain : ToolchainSettings} :
    ofEntries entries = .passed toolchain ↔
      entries.field "compiler" Value.toText default.compiler = .passed toolchain.compiler ∧
        entries.field "scratch_dir" Value.toPath default.scratchDir
          = .passed toolchain.scratchDir ∧
        entries.field "codegen_flags" Value.toTexts default.codegenFlags
          = .passed toolchain.codegenFlags := by
  simp only [ofEntries, Check.ap_eq_passed_iff, Check.map_eq_passed_iff]
  constructor
  · rintro ⟨_, flags, ⟨_, dir, ⟨compiler, hcompiler, rfl⟩, hdir, rfl⟩, hflags, rfl⟩
    exact ⟨hcompiler, hdir, hflags⟩
  · rintro ⟨hcompiler, hdir, hflags⟩
    exact ⟨_, _, ⟨_, _, ⟨_, hcompiler, rfl⟩, hdir, rfl⟩, hflags, rfl⟩

namespace Settings

/-- **A document passes field by field.** -/
theorem ofEntries_eq_passed_iff {entries : Entries} {settings : Settings} :
    ofEntries entries = .passed settings ↔
      entries.field "policy" Policy.ofValue default.policy = .passed settings.policy ∧
        entries.field "toolchain" ToolchainSettings.ofValue default.toolchain
          = .passed settings.toolchain ∧
        entries.field "output" OutputSettings.ofValue default.output = .passed settings.output ∧
        entries.field "raise_errors" Value.toSwitch default.raiseErrors
          = .passed settings.raiseErrors := by
  simp only [ofEntries, Check.ap_eq_passed_iff, Check.map_eq_passed_iff]
  constructor
  · rintro ⟨_, raised, ⟨_, output, ⟨_, toolchain, ⟨policy, hpolicy, rfl⟩, htoolchain, rfl⟩, houtput,
      rfl⟩, hraised, rfl⟩
    exact ⟨hpolicy, htoolchain, houtput, hraised⟩
  · rintro ⟨hpolicy, htoolchain, houtput, hraised⟩
    exact ⟨_, _, ⟨_, _, ⟨_, _, ⟨_, hpolicy, rfl⟩, htoolchain, rfl⟩, houtput, rfl⟩, hraised, rfl⟩

/-! ### Two layers -/

/-- The lower layer, which is that of the file. -/
def lowerLayer (cacheRoot : Option Path) : Action Entries :=
  match cacheRoot with
  | some root => fileLayer (root.child fileName)
  | none => pure []

theorem load_eq (cacheRoot : Option Path) (vars : Variables) :
    load cacheRoot vars = lowerLayer cacheRoot >>= checked vars := by
  cases cacheRoot <;> rfl

/-- A file that can be read as a document makes a layer. -/
theorem runs_fileLayer {file : Path} {bytes : Bytes} {source : Text} {entries : Entries}
    (hdecode : Utf8.decode bytes = .ok source) (hread : Toml.read source = .ok entries) :
    (fileLayer file).run.Runs
      [⟨.kind file.text, .ok .file⟩, ⟨.read file.text, .ok bytes⟩] (.ok entries) := by
  rw [fileLayer]
  refine runs_bind.2 (.inl ⟨[_], [_], true, rfl, ⟨_, _, rfl, rfl, rfl⟩, ?_⟩)
  rw [if_pos rfl]
  refine runs_ask_bind.2 ⟨_, _, rfl, runs_bind.2 (.inl ⟨[], [], bytes, rfl, ⟨rfl, rfl⟩, ?_⟩)⟩
  simp only [hdecode, hread]
  exact ⟨rfl, rfl⟩

/-- **Settings are loaded** where the lower layer is and the document of both layers passes. -/
theorem runs_load_iff {cacheRoot : Option Path} {vars : Variables} {t : Trace}
    {settings : Settings} :
    (load cacheRoot vars).run.Runs t (.ok settings) ↔
      ∃ file, (lowerLayer cacheRoot).run.Runs t (.ok file) ∧
        ofEntries ((Entries.merge [] file).merge (environmentLayer vars)) = .passed settings := by
  have hchecked : ∀ (file : Entries) (t : Trace),
      (checked vars file).run.Runs t (.ok settings) ↔ t = [] ∧
        ofEntries ((Entries.merge [] file).merge (environmentLayer vars)) = .passed settings := by
    intro file t
    rw [checked]
    split
    · next loaded hloaded => simp [hloaded, eq_comm]
    · next faults hfaults =>
      refine iff_of_false (fun h => ?_) (by simp [hfaults])
      obtain ⟨text, rest, -, hfail⟩ := runs_ask_bind.1 h
      simp at hfail
  rw [load_eq, runs_bind]
  constructor
  · rintro (⟨t₁, t₂, file, rfl, hfile, hrest⟩ | ⟨failure, -, hx⟩)
    · obtain ⟨rfl, hpassed⟩ := (hchecked file t₂).1 hrest
      exact ⟨file, by simpa using hfile, hpassed⟩
    · simp at hx
  · rintro ⟨file, hfile, hpassed⟩
    exact .inl ⟨t, [], file, by simp, hfile, (hchecked file []).2 ⟨rfl, hpassed⟩⟩

theorem nodup_keys_environmentLayer (vars : Variables) :
    (Entries.keys (environmentLayer vars)).Nodup := by
  rw [environmentLayer]
  have hne : "toolchain".toList ≠ "raise_errors".toList := by decide
  cases compilerOf vars <;> cases vars.get? raiseVariable <;> simp [Entries.keys]

/-- **What the two layers hold**: the environment has one field of the section of the toolchain and
the switch for errors, and everything else is as it is in the lower layer. -/
theorem find?_layers (lower : Entries) (vars : Variables) (key : Text) :
    (lower.merge (environmentLayer vars)).find? key
      = if key = "toolchain".toList then
          match compilerOf vars with
          | some compiler =>
            some (Value.laidOver (lower.find? key) (.table [("compiler", .text compiler)]))
          | none => lower.find? key
        else if key = "raise_errors".toList then
          match vars.get? raiseVariable with
          | some value => some (.bool (isTruthy value))
          | none => lower.find? key
        else lower.find? key := by
  rw [Entries.find?_merge _ _ (nodup_keys_environmentLayer vars), find?_environmentLayer]
  by_cases htoolchain : key = "toolchain".toList
  · rw [if_pos htoolchain, if_pos htoolchain]
    cases compilerOf vars <;> rfl
  · rw [if_neg htoolchain, if_neg htoolchain]
    by_cases hraise : key = "raise_errors".toList
    · rw [if_pos hraise, if_pos hraise]
      cases vars.get? raiseVariable <;> rfl
    · rw [if_neg hraise, if_neg hraise]

end Settings

/-! ### Values that are written -/

namespace Value

theorem textsFrom_write (i : Nat) (texts : List Text) :
    textsFrom i (texts.map .text) = .passed texts := by
  induction texts generalizing i with
  | nil => rfl
  | cons s rest ih => simp [textsFrom, toText, ih, Check.within, Check.map, Check.ap]

@[simp] theorem toTexts_write (texts : List Text) :
    toTexts (.list (texts.map .text)) = .passed texts :=
  textsFrom_write 0 texts

theorem toMarkers_write {texts : List Text} (h : texts ≠ []) :
    toMarkers (.list (texts.map .text)) = .passed texts := by
  rw [toMarkers, toTexts_write]
  cases texts with
  | nil => exact absurd rfl h
  | cons s rest => rfl

theorem toKeyword_write {s : Text} (h : s ≠ []) : toKeyword (.text s) = .passed s := by
  cases s with
  | nil => exact absurd rfl h
  | cons c cs => rfl

/-- The value of a trigger in the table of triggers. -/
def ofTrigger (t : Trigger) : Text × Value :=
  (t.pattern, .list (t.lines.map .text))

@[simp] theorem toTriggers_write (triggers : List Trigger) :
    toTriggers (.table (triggers.map ofTrigger)) = .passed triggers := by
  rw [toTriggers]
  induction triggers with
  | nil => rfl
  | cons t rest ih => simp [triggersOf, ofTrigger, ih, Check.within, Check.map, Check.ap]

@[simp] theorem toColorChoice_write (choice : ColorChoice) :
    toColorChoice (.text choice.word) = .passed choice := by
  cases choice <;> decide

theorem toPath_write (s : Text) : toPath (.text (Path.ofText s).text) = .passed (Path.ofText s) :=
  congrArg Check.passed (Path.proper_ofText s).ofText_text

/-! ### Values that pass -/

variable {v : Value}

theorem ne_nil_of_toMarkers {texts : List Text} (h : v.toMarkers = .passed texts) :
    texts ≠ [] := by
  rw [toMarkers] at h
  split at h
  · cases h
  · next checked hnot =>
    rintro rfl
    exact hnot h

theorem ne_nil_of_toKeyword {s : Text} (h : v.toKeyword = .passed s) : s ≠ [] := by
  rw [toKeyword.eq_def] at h
  split at h
  · cases h
  · next s' hnot =>
    obtain rfl := Check.passed.inj h
    exact hnot
  · cases h

theorem exists_of_toPath {path : Path} (h : v.toPath = .passed path) :
    ∃ s, path = Path.ofText s := by
  cases v with
  | text s => exact ⟨s, (Check.passed.inj h).symm⟩
  | _ => cases h

end Value

/-! ### Fields that are written -/

namespace Entries

variable {entries : Entries} {name key : Text} {check : Value → Check α}
  {default x : α} {v : Value}

/-- A property of the default, and of all values that pass, holds of a field. -/
theorem of_field_eq_passed {Q : α → Prop} (hdefault : Q default)
    (hcheck : ∀ v x, check v = .passed x → Q x)
    (h : entries.field name check default = .passed x) : Q x := by
  obtain ⟨-, rfl⟩ | ⟨v, -, hv⟩ := field_eq_passed_iff.1 h
  · exact hdefault
  · exact hcheck v x hv

end Entries

/-! ### Sections -/

namespace Policy

/-- The policy has an entry marker and a keyword for declarations. -/
structure Sound (p : Policy) : Prop where
  markers : p.entryMarkers ≠ []
  keyword : p.declarationKeyword ≠ []

theorem ofEntries_eq_passed_iff {entries : Entries} {policy : Policy} :
    ofEntries entries = .passed policy ↔
      entries.field "entry_markers" Value.toMarkers default.entryMarkers
          = .passed policy.entryMarkers ∧
        entries.field "std_triggers" Value.toTriggers default.triggers = .passed policy.triggers ∧
        entries.field "declaration_keyword" Value.toKeyword default.declarationKeyword
          = .passed policy.declarationKeyword ∧
        entries.field "comment_prefixes" Value.toTexts default.commentStarts
          = .passed policy.commentStarts ∧
        entries.field "import_prefixes" Value.toTexts default.importStarts
          = .passed policy.importStarts ∧
        entries.field "declarations_pass_through" Value.toSwitch default.declarationsPassThrough
          = .passed policy.declarationsPassThrough ∧
        entries.field "indent" Value.toText default.indent = .passed policy.indent := by
  simp only [ofEntries, Check.ap_eq_passed_iff, Check.map_eq_passed_iff]
  constructor
  · rintro ⟨_, indent, ⟨_, through, ⟨_, imports, ⟨_, comments, ⟨_, keyword, ⟨_, triggers,
      ⟨markers, hmarkers, rfl⟩, htriggers, rfl⟩, hkeyword, rfl⟩, hcomments, rfl⟩, himports, rfl⟩,
      hthrough, rfl⟩, hindent, rfl⟩
    exact ⟨hmarkers, htriggers, hkeyword, hcomments, himports, hthrough, hindent⟩
  · rintro ⟨hmarkers, htriggers, hkeyword, hcomments, himports, hthrough, hindent⟩
    exact ⟨_, _, ⟨_, _, ⟨_, _, ⟨_, _, ⟨_, _, ⟨_, _, ⟨_, hmarkers, rfl⟩, htriggers, rfl⟩, hkeyword,
      rfl⟩, hcomments, rfl⟩, himports, rfl⟩, hthrough, rfl⟩, hindent, rfl⟩

theorem sound_default : Sound default :=
  ⟨by decide, by decide⟩

theorem sound_of_ofEntries {entries : Entries} {policy : Policy}
    (h : ofEntries entries = .passed policy) : policy.Sound := by
  obtain ⟨hmarkers, -, hkeyword, -⟩ := ofEntries_eq_passed_iff.1 h
  constructor
  · exact Entries.of_field_eq_passed (Q := (· ≠ [])) sound_default.markers
      (fun _ _ => Value.ne_nil_of_toMarkers) hmarkers
  · exact Entries.of_field_eq_passed (Q := (· ≠ [])) sound_default.keyword
      (fun _ _ => Value.ne_nil_of_toKeyword) hkeyword

/-- A sound policy is read back from its section. -/
theorem ofEntries_toEntries {p : Policy} (h : p.Sound) : ofEntries p.toEntries = .passed p := by
  refine ofEntries_eq_passed_iff.2 ⟨?_, ?_, ?_, ?_, ?_, ?_, ?_⟩ <;>
    refine Entries.field_eq_passed_iff.2 (.inr ⟨_, rfl, ?_⟩)
  · exact Value.toMarkers_write h.markers
  · exact Value.toTriggers_write p.triggers
  · exact Value.toKeyword_write h.keyword
  · exact Value.toTexts_write p.commentStarts
  · exact Value.toTexts_write p.importStarts
  · rfl
  · rfl

theorem sound_of_ofValue {v : Value} {policy : Policy} (h : ofValue v = .passed policy) :
    policy.Sound := by
  cases v with
  | table entries => exact sound_of_ofEntries h
  | _ => cases h

end Policy

namespace ToolchainSettings

/-- The scratch directory is a path that has been read. -/
def Sound (t : ToolchainSettings) : Prop :=
  ∃ s, t.scratchDir = Path.ofText s

theorem sound_default : Sound default :=
  ⟨_, rfl⟩

theorem sound_of_ofEntries {entries : Entries} {toolchain : ToolchainSettings}
    (h : ofEntries entries = .passed toolchain) : toolchain.Sound := by
  obtain ⟨-, hdir, -⟩ := ofEntries_eq_passed_iff.1 h
  exact Entries.of_field_eq_passed (Q := fun dir => ∃ s, dir = Path.ofText s) sound_default
    (fun _ _ => Value.exists_of_toPath) hdir

theorem sound_of_ofValue {v : Value} {toolchain : ToolchainSettings}
    (h : ofValue v = .passed toolchain) : toolchain.Sound := by
  cases v with
  | table entries => exact sound_of_ofEntries h
  | _ => cases h

/-- Sound settings of the toolchain are read back from their section. -/
theorem ofEntries_toEntries {t : ToolchainSettings} (h : t.Sound) :
    ofEntries t.toEntries = .passed t := by
  obtain ⟨s, hs⟩ := h
  refine ofEntries_eq_passed_iff.2 ⟨?_, ?_, ?_⟩ <;>
    refine Entries.field_eq_passed_iff.2 (.inr ⟨_, rfl, ?_⟩)
  · rfl
  · rw [hs]
    exact Value.toPath_write s
  · exact Value.toTexts_write t.codegenFlags

end ToolchainSettings

namespace OutputSettings

theorem ofEntries_eq_passed_iff {entries : Entries} {output : OutputSettings} :
    ofEntries entries = .passed output ↔
      entries.field "verbose" Value.toSwitch default.verbose = .passed output.verbose ∧
        entries.field "emoji" Value.toSwitch default.emoji = .passed output.emoji ∧
        entries.field "color" Value.toSwitch default.color = .passed output.color ∧
        entries.field "compiler_color" Value.toColorChoice default.compilerColor
          = .passed output.compilerColor ∧
        entries.field "show_expanded" Value.toSwitch default.showExpanded
          = .passed output.showExpanded := by
  simp only [ofEntries, Check.ap_eq_passed_iff, Check.map_eq_passed_iff]
  constructor
  · rintro ⟨_, expanded, ⟨_, choice, ⟨_, color, ⟨_, emoji, ⟨verbose, hverbose, rfl⟩, hemoji, rfl⟩,
      hcolor, rfl⟩, hchoice, rfl⟩, hexpanded, rfl⟩
    exact ⟨hverbose, hemoji, hcolor, hchoice, hexpanded⟩
  · rintro ⟨hverbose, hemoji, hcolor, hchoice, hexpanded⟩
    exact ⟨_, _, ⟨_, _, ⟨_, _, ⟨_, _, ⟨_, hverbose, rfl⟩, hemoji, rfl⟩, hcolor, rfl⟩, hchoice,
      rfl⟩, hexpanded, rfl⟩

/-- Output settings are read back from their section. -/
theorem ofEntries_toEntries (o : OutputSettings) : ofEntries o.toEntries = .passed o := by
  refine ofEntries_eq_passed_iff.2 ⟨?_, ?_, ?_, ?_, ?_⟩ <;>
    refine Entries.field_eq_passed_iff.2 (.inr ⟨_, rfl, ?_⟩)
  · rfl
  · rfl
  · rfl
  · exact Value.toColorChoice_write o.compilerColor
  · rfl

end OutputSettings

/-! ### Whole settings -/

namespace Settings

/-- The fields that take not all that their types hold are as they have to be. -/
structure Sound (s : Settings) : Prop where
  policy : s.policy.Sound
  toolchain : s.toolchain.Sound

theorem sound_default : Sound default :=
  ⟨Policy.sound_default, ToolchainSettings.sound_default⟩

/-- **Whatever passes is sound.** -/
theorem sound_of_ofEntries {entries : Entries} {settings : Settings}
    (h : ofEntries entries = .passed settings) : settings.Sound := by
  obtain ⟨hpolicy, htoolchain, -⟩ := ofEntries_eq_passed_iff.1 h
  constructor
  · exact Entries.of_field_eq_passed Policy.sound_default
      (fun _ _ => Policy.sound_of_ofValue) hpolicy
  · exact Entries.of_field_eq_passed ToolchainSettings.sound_default
      (fun _ _ => ToolchainSettings.sound_of_ofValue) htoolchain

/-- **Sound settings are read back from their document.** -/
theorem ofEntries_toEntries {s : Settings} (h : s.Sound) : ofEntries s.toEntries = .passed s := by
  refine ofEntries_eq_passed_iff.2 ⟨?_, ?_, ?_, ?_⟩ <;>
    refine Entries.field_eq_passed_iff.2 (.inr ⟨_, rfl, ?_⟩)
  · exact Policy.ofEntries_toEntries h.policy
  · exact ToolchainSettings.ofEntries_toEntries h.toolchain
  · exact OutputSettings.ofEntries_toEntries s.output
  · rfl

end Settings

end Oneshot
