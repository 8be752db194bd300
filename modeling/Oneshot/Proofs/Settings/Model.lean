import Oneshot.Proofs.Settings.Schema

/-!
# The Models of Settings

Settings and their three sections are instances of models. Content that has the types of these
models is that of sound settings.

The values of a document are checked by `Value.validator`. It keeps to what is known of validators,
and it passes what the checks of documents pass: a check of a section comes to the same as the model
of the section (`Checks`).

* `Policy.model`, `ToolchainSettings.model`, `OutputSettings.model`, `Settings.model`: the models.
* `Settings.has_iff`: what has the types of the models.
* `Value.lax_validator`: the checks of documents are what is known of validators.
* `Settings.checks_model`: a document passes as the settings that its check passes.
-/

namespace Oneshot

/-! ### The models -/

namespace Policy

/-- What is declared of a policy. -/
def model : Schema :=
  .model "SnippetPolicy" [
    ("entry_markers", .field (.texts 1) (.texts default.entryMarkers)
      (FieldType.has_texts (Nat.le_refl 1))),
    ("std_triggers", .field .triggers (.triggers default.triggers) (FieldType.has_triggers _)),
    ("declaration_keyword", .field (.text 1) (.text default.declarationKeyword)
      (FieldType.has_text (Nat.succ_le_succ (Nat.zero_le _)))),
    ("comment_prefixes", .field (.texts 0) (.texts default.commentStarts)
      (FieldType.has_texts (Nat.zero_le _))),
    ("import_prefixes", .field (.texts 0) (.texts default.importStarts)
      (FieldType.has_texts (Nat.zero_le _))),
    ("declarations_pass_through", .field .switch (.switch default.declarationsPassThrough)
      (FieldType.has_switch _)),
    ("indent", .field (.text 0) (.text default.indent) (FieldType.has_text (Nat.zero_le _)))]

/-- The content of a policy. -/
def content (p : Policy) : Content :=
  .record [("entry_markers", .datum (.texts p.entryMarkers)),
    ("std_triggers", .datum (.triggers p.triggers)),
    ("declaration_keyword", .datum (.text p.declarationKeyword)),
    ("comment_prefixes", .datum (.texts p.commentStarts)),
    ("import_prefixes", .datum (.texts p.importStarts)),
    ("declarations_pass_through", .datum (.switch p.declarationsPassThrough)),
    ("indent", .datum (.text p.indent))]

/-- What has the types of the model is the content of a sound policy. -/
theorem has_iff {c : Content} : model.Has c ↔ ∃ p : Policy, p.Sound ∧ c = p.content := by
  simp only [model, Schema.has_model_iff, Schema.hasEach_cons_iff, Schema.hasEach_nil_iff,
    Schema.has_field_iff, FieldType.has_texts_iff, FieldType.has_triggers_iff,
    FieldType.has_text_iff, FieldType.has_switch_iff]
  constructor
  · rintro ⟨_, rfl, _, _, rfl, ⟨_, rfl, markers, rfl, hmarkers⟩, _, _, rfl, ⟨_, rfl, triggers, rfl⟩,
      _, _, rfl, ⟨_, rfl, keyword, rfl, hkeyword⟩, _, _, rfl, ⟨_, rfl, comments, rfl, -⟩, _, _, rfl,
      ⟨_, rfl, imports, rfl, -⟩, _, _, rfl, ⟨_, rfl, through, rfl⟩, _, _, rfl,
      ⟨_, rfl, indent, rfl, -⟩, rfl⟩
    exact ⟨⟨markers, triggers, keyword, comments, imports, through, indent⟩,
      ⟨List.length_pos_iff.1 hmarkers, List.length_pos_iff.1 hkeyword⟩, rfl⟩
  · rintro ⟨p, hp, rfl⟩
    exact ⟨_, rfl, _, _, rfl, ⟨_, rfl, _, rfl, List.length_pos_iff.2 hp.markers⟩, _, _, rfl,
      ⟨_, rfl, _, rfl⟩, _, _, rfl, ⟨_, rfl, _, rfl, List.length_pos_iff.2 hp.keyword⟩, _, _, rfl,
      ⟨_, rfl, _, rfl, Nat.zero_le _⟩, _, _, rfl, ⟨_, rfl, _, rfl, Nat.zero_le _⟩, _, _, rfl,
      ⟨_, rfl, _, rfl⟩, _, _, rfl, ⟨_, rfl, _, rfl, Nat.zero_le _⟩, rfl⟩

end Policy

namespace ToolchainSettings

/-- What is declared of the toolchain. -/
def model : Schema :=
  .model "ToolchainConfig" [
    ("compiler", .field (.text 0) (.text default.compiler) (FieldType.has_text (Nat.zero_le _))),
    ("scratch_dir", .field .path (.path default.scratchDir) (FieldType.has_path ⟨_, rfl⟩)),
    ("codegen_flags", .field (.texts 0) (.texts default.codegenFlags)
      (FieldType.has_texts (Nat.zero_le _)))]

/-- The content of the settings of the toolchain. -/
def content (t : ToolchainSettings) : Content :=
  .record [("compiler", .datum (.text t.compiler)), ("scratch_dir", .datum (.path t.scratchDir)),
    ("codegen_flags", .datum (.texts t.codegenFlags))]

theorem has_iff {c : Content} : model.Has c ↔ ∃ t : ToolchainSettings, t.Sound ∧ c = t.content := by
  simp only [model, Schema.has_model_iff, Schema.hasEach_cons_iff, Schema.hasEach_nil_iff,
    Schema.has_field_iff, FieldType.has_texts_iff, FieldType.has_path_iff, FieldType.has_text_iff]
  constructor
  · rintro ⟨_, rfl, _, _, rfl, ⟨_, rfl, compiler, rfl, -⟩, _, _, rfl, ⟨_, rfl, dir, rfl⟩, _, _, rfl,
      ⟨_, rfl, flags, rfl, -⟩, rfl⟩
    exact ⟨⟨compiler, _, flags⟩, ⟨dir, rfl⟩, rfl⟩
  · rintro ⟨⟨compiler, _, flags⟩, ⟨dir, rfl⟩, rfl⟩
    exact ⟨_, rfl, _, _, rfl, ⟨_, rfl, _, rfl, Nat.zero_le _⟩, _, _, rfl, ⟨_, rfl, _, rfl⟩, _, _,
      rfl, ⟨_, rfl, _, rfl, Nat.zero_le _⟩, rfl⟩

end ToolchainSettings

namespace OutputSettings

/-- What is declared of the output. -/
def model : Schema :=
  .model "OutputConfig" [
    ("verbose", .field .switch (.switch default.verbose) (FieldType.has_switch _)),
    ("emoji", .field .switch (.switch default.emoji) (FieldType.has_switch _)),
    ("color", .field .switch (.switch default.color) (FieldType.has_switch _)),
    ("compiler_color", .field (.oneOf ["auto", "always", "never"])
      (.text default.compilerColor.word) (FieldType.has_oneOf (.head _))),
    ("show_expanded", .field .switch (.switch default.showExpanded) (FieldType.has_switch _))]

/-- The content of the output settings. -/
def content (o : OutputSettings) : Content :=
  .record [("verbose", .datum (.switch o.verbose)), ("emoji", .datum (.switch o.emoji)),
    ("color", .datum (.switch o.color)),
    ("compiler_color", .datum (.text o.compilerColor.word)),
    ("show_expanded", .datum (.switch o.showExpanded))]

/-- The words of the model are those for the choices. -/
theorem exists_word_iff {s : Text} : s ∈ ["auto".toList, "always".toList, "never".toList] ↔
    ∃ choice : ColorChoice, s = choice.word := by
  simp only [List.mem_cons, List.not_mem_nil, or_false]
  constructor
  · rintro (rfl | rfl | rfl)
    exacts [⟨.auto, rfl⟩, ⟨.always, rfl⟩, ⟨.never, rfl⟩]
  · rintro ⟨_ | _ | _, rfl⟩
    exacts [.inl rfl, .inr (.inl rfl), .inr (.inr rfl)]

theorem has_iff {c : Content} : model.Has c ↔ ∃ o : OutputSettings, c = o.content := by
  simp only [model, Schema.has_model_iff, Schema.hasEach_cons_iff, Schema.hasEach_nil_iff,
    Schema.has_field_iff, FieldType.has_switch_iff, FieldType.has_oneOf_iff, exists_word_iff]
  constructor
  · rintro ⟨_, rfl, _, _, rfl, ⟨_, rfl, verbose, rfl⟩, _, _, rfl, ⟨_, rfl, emoji, rfl⟩, _, _, rfl,
      ⟨_, rfl, color, rfl⟩, _, _, rfl, ⟨_, rfl, _, ⟨choice, rfl⟩, rfl⟩, _, _, rfl,
      ⟨_, rfl, expanded, rfl⟩, rfl⟩
    exact ⟨⟨verbose, emoji, color, choice, expanded⟩, rfl⟩
  · rintro ⟨o, rfl⟩
    exact ⟨_, rfl, _, _, rfl, ⟨_, rfl, _, rfl⟩, _, _, rfl, ⟨_, rfl, _, rfl⟩, _, _, rfl,
      ⟨_, rfl, _, rfl⟩, _, _, rfl, ⟨_, rfl, _, ⟨_, rfl⟩, rfl⟩, _, _, rfl, ⟨_, rfl, _, rfl⟩, rfl⟩

end OutputSettings

namespace Settings

/-- What is declared of settings. -/
def model : Schema :=
  .model "RunnerConfig" [("policy", Policy.model), ("toolchain", ToolchainSettings.model),
    ("output", OutputSettings.model),
    ("raise_errors", .field .switch (.switch default.raiseErrors) (FieldType.has_switch _))]

/-- The content of settings. -/
def content (s : Settings) : Content :=
  .record [("policy", s.policy.content), ("toolchain", s.toolchain.content),
    ("output", s.output.content), ("raise_errors", .datum (.switch s.raiseErrors))]

theorem default_model : model.default = default.content := rfl

theorem distinct_model : model.Distinct := by
  simp +decide [model, Policy.model, ToolchainSettings.model, OutputSettings.model, Schema.Distinct,
    Schema.DistinctEach]

/-- **What has the types of the models is the content of sound settings.** -/
theorem has_iff {c : Content} : model.Has c ↔ ∃ s : Settings, s.Sound ∧ c = s.content := by
  simp only [model, Schema.has_model_iff, Schema.hasEach_cons_iff, Schema.hasEach_nil_iff,
    Schema.has_field_iff, FieldType.has_switch_iff, Policy.has_iff, ToolchainSettings.has_iff,
    OutputSettings.has_iff]
  constructor
  · rintro ⟨_, rfl, _, _, rfl, ⟨policy, hpolicy, rfl⟩, _, _, rfl, ⟨toolchain, htoolchain, rfl⟩, _,
      _, rfl, ⟨output, rfl⟩, _, _, rfl, ⟨_, rfl, raised, rfl⟩, rfl⟩
    exact ⟨⟨policy, toolchain, output, raised⟩, ⟨hpolicy, htoolchain⟩, rfl⟩
  · rintro ⟨s, hs, rfl⟩
    exact ⟨_, rfl, _, _, rfl, ⟨_, hs.policy, rfl⟩, _, _, rfl, ⟨_, hs.toolchain, rfl⟩, _, _, rfl,
      ⟨_, rfl⟩, _, _, rfl, ⟨_, rfl, _, rfl⟩, rfl⟩

end Settings

/-! ### Values of documents -/

namespace Check

/-- What has passed. -/
def value? {α : Type} : Check α → Option α
  | .passed x => some x
  | .failed _ => none

variable {α β : Type}

@[simp] theorem value?_passed (x : α) : (passed x).value? = some x := rfl

@[simp] theorem value?_fault (defect : Defect) : (fault defect : Check α).value? = none := rfl

@[simp] theorem value?_map (f : α → β) (c : Check α) : (c.map f).value? = c.value?.map f := by
  cases c <;> rfl

@[simp] theorem value?_ap (c : Check (α → β)) (d : Check α) :
    (c.ap d).value? = c.value?.bind fun f => d.value?.map f := by
  cases c <;> cases d <;> rfl

theorem value?_eq_some_iff {c : Check α} {x : α} : c.value? = some x ↔ c = .passed x := by
  cases c <;> simp [value?]

@[simp] theorem value?_within (step : Step) (c : Check α) : (c.within step).value? = c.value? := by
  cases c <;> rfl

end Check

/-- What a value of a document passes as for a type. -/
def FieldType.pass : FieldType → Value → Option Datum
  | .text least, v => (v.toText.value?.filter (least ≤ ·.length)).map .text
  | .texts least, v => (v.toTexts.value?.filter (least ≤ ·.length)).map .texts
  | .triggers, v => v.toTriggers.value?.map .triggers
  | .path, v => v.toPath.value?.map .path
  | .switch, v => v.toSwitch.value?.map .switch
  | .oneOf words, v => (v.toText.value?.filter words.contains).map .text

namespace Value

mutual

/-- What a value of a document passes as in a place of a schema. -/
def pass : Schema → Value → Option Content
  | .field type _ _, v => (type.pass v).map .datum
  | .model _ fields, .table entries => (passEach fields entries).map .record
  | .model .., _ => none

/-- What the entries of a table pass as for some fields. -/
def passEach : List (Text × Schema) → Entries → Option (List (Text × Content))
  | [], _ => some []
  | (name, s) :: rest, entries =>
    (match entries.find? name with
      | some v => pass s v
      | none => some s.default).bind fun c => (passEach rest entries).map ((name, c) :: ·)

end

/-- A datum in a document. -/
def ofDatum : Datum → Value
  | .text s => .text s
  | .texts items => .list (items.map .text)
  | .triggers items => .table (items.map ofTrigger)
  | .path p => .text p.text
  | .switch b => .bool b

mutual

/-- Content in a document. -/
def ofContent : Content → Value
  | .datum d => ofDatum d
  | .record entries => .table (ofEach entries)

/-- The entries of an instance in a document. -/
def ofEach : List (Text × Content) → Entries
  | [] => []
  | (name, c) :: rest => (name, ofContent c) :: ofEach rest

end

/-- What checks the values of a document. There are no instances among them. -/
def validator : Validator Value where
  validate := pass
  instance? _ _ := none
  entries?
    | .table entries => some fun name => Entries.find? name entries
    | _ => none
  assign s c name v :=
    match (s.field? name).bind (pass · v) with
    | some new => (true, c.put name new)
    | none => (false, c)
  dump := ofContent

/-- What passes for a type has the type. -/
theorem has_of_pass {type : FieldType} {v : Value} {d : Datum} (h : type.pass v = some d) :
    type.Has d := by
  cases type with
  | path =>
    obtain ⟨p, hp, rfl⟩ := Option.map_eq_some_iff.1 h
    exact exists_of_toPath (Check.value?_eq_some_iff.1 hp)
  | triggers =>
    obtain ⟨items, -, rfl⟩ := Option.map_eq_some_iff.1 h
    trivial
  | switch =>
    obtain ⟨b, -, rfl⟩ := Option.map_eq_some_iff.1 h
    trivial
  | _ =>
    obtain ⟨x, hx, rfl⟩ := Option.map_eq_some_iff.1 h
    simpa [FieldType.Has] using (Option.filter_eq_some_iff.1 hx).2

/-- A datum passes for its type unchanged. -/
theorem pass_ofDatum {type : FieldType} {d : Datum} (h : type.Has d) :
    type.pass (ofDatum d) = some d := by
  cases type with
  | text least =>
    obtain ⟨s, rfl, hs⟩ := FieldType.has_text_iff.1 h
    simp [FieldType.pass, ofDatum, toText, Option.filter, hs]
  | texts least =>
    obtain ⟨items, rfl, hitems⟩ := FieldType.has_texts_iff.1 h
    simp [FieldType.pass, ofDatum, Option.filter, hitems]
  | triggers =>
    obtain ⟨items, rfl⟩ := FieldType.has_triggers_iff.1 h
    simp [FieldType.pass, ofDatum]
  | path =>
    obtain ⟨s, rfl⟩ := FieldType.has_path_iff.1 h
    simp [FieldType.pass, ofDatum, toPath_write]
  | switch =>
    obtain ⟨b, rfl⟩ := FieldType.has_switch_iff.1 h
    rfl
  | oneOf words =>
    obtain ⟨s, hs, rfl⟩ := FieldType.has_oneOf_iff.1 h
    simp [FieldType.pass, ofDatum, toText, Option.filter, hs]

theorem find?_ofEach (name : Text) (entries : List (Text × Content)) :
    (ofEach entries).find? name = (entries.lookup name).map ofContent := by
  induction entries with
  | nil => rfl
  | cons e rest ih =>
    obtain ⟨key, c⟩ := e
    rw [ofEach, Entries.find?, List.lookup_cons, ih]
    by_cases hkey : key = name
    · simp [hkey]
    · have hne : (name == key) = false := beq_eq_false_iff_ne.2 (Ne.symm hkey)
      rw [if_neg hkey, hne]

theorem passEach_eq_some_iff {fields : List (Text × Schema)} {entries : Entries}
    {contents : List (Text × Content)} : passEach fields entries = some contents ↔
      validator.PassesEach (fun name => entries.find? name) fields contents := by
  induction fields generalizing contents with
  | nil => cases contents <;> simp [passEach, Validator.PassesEach]
  | cons f rest ih =>
    obtain ⟨name, s⟩ := f
    rcases contents with _ | ⟨⟨name', c⟩, others⟩
    · simp [passEach, Validator.PassesEach, Option.bind_eq_some_iff]
    · simp only [passEach, Validator.PassesEach, Option.bind_eq_some_iff, Option.map_eq_some_iff,
        ih]
      cases entries.find? name <;> simp [validator, eq_comm, and_comm, and_left_comm]

/-- **The checks of a document are what is known of validators.** -/
theorem lax_validator : validator.Lax where
  validate_field h := by
    obtain ⟨d, hd, rfl⟩ := Option.map_eq_some_iff.1 h
    exact ⟨d, rfl, has_of_pass hd⟩
  validate_datum h := congrArg (Option.map Content.datum) (pass_ofDatum h)
  validate_model {name fields v c} := by
    cases v with
    | table entries =>
      have hpass : validator.validate (.model name fields) (.table entries)
          = (passEach fields entries).map .record := rfl
      rw [hpass, Option.map_eq_some_iff]
      constructor
      · rintro ⟨contents, heach, rfl⟩
        exact .inr ⟨rfl, _, contents, rfl, rfl, passEach_eq_some_iff.1 heach⟩
      · rintro (h | ⟨-, look, contents, hlook, rfl, heach⟩)
        · cases h
        · obtain rfl := Option.some.inj hlook
          exact ⟨contents, passEach_eq_some_iff.2 heach, rfl⟩
    | _ => simp [validator, pass]
  entries?_dump entries := congrArg some (funext fun name => find?_ofEach name entries)
  instance?_dump _ _ := rfl
  assign_eq {_ c name _} h v := congrArg (fun found : Option Schema =>
    match found.bind (pass · v) with
    | some new => (true, c.put name new)
    | none => (false, c)) h

theorem checked_validator : validator.Checked :=
  fun _ _ _ h => nomatch h


/-! ### The checks of sections -/

/-- A check is that of a place in a schema: it passes what passes there and has the same
default. -/
structure Checks {α : Type} (s : Schema) (check : Value → Check α) (default : α)
    (content : α → Content) : Prop where
  pass_iff : ∀ v c, pass s v = some c ↔ ∃ x, check v = .passed x ∧ c = content x
  default_eq : s.default = content default

section

variable {α : Type} {s : Schema} {check : Value → Check α} {default : α} {content : α → Content}
  {name : Text} {rest : List (Text × Schema)} {entries : Entries}
  {contents : List (Text × Content)}

theorem passEach_nil_iff : passEach [] entries = some contents ↔ contents = [] := by
  simp [passEach, eq_comm]

theorem Checks.passEach_cons_iff (h : Checks s check default content) :
    passEach ((name, s) :: rest) entries = some contents ↔
      ∃ x others, entries.field name check default = .passed x ∧
        passEach rest entries = some others ∧ contents = (name, content x) :: others := by
  rw [passEach, Entries.field]
  cases entries.find? name with
  | none =>
    simp only [h.default_eq, Option.bind_some, Option.map_eq_some_iff, Check.passed.injEq]
    constructor
    · rintro ⟨others, hothers, rfl⟩
      exact ⟨_, others, rfl, hothers, rfl⟩
    · rintro ⟨x, others, rfl, hothers, rfl⟩
      exact ⟨others, hothers, rfl⟩
  | some v =>
    simp only [Option.bind_eq_some_iff, Option.map_eq_some_iff, h.pass_iff,
      Check.within_eq_passed_iff]
    constructor
    · rintro ⟨_, ⟨x, hx, rfl⟩, others, hothers, rfl⟩
      exact ⟨x, others, hx, hothers, rfl⟩
    · rintro ⟨x, others, hx, hothers, rfl⟩
      exact ⟨_, ⟨x, hx, rfl⟩, others, hothers, rfl⟩

theorem Checks.of_value? {type : FieldType} {d : Datum} {h : type.Has d} {wrap : α → Datum}
    (hpass : ∀ v, type.pass v = (check v).value?.map wrap) (hdefault : d = wrap default) :
    Checks (.field type d h) check default (.datum ∘ wrap) where
  pass_iff v c := by
    simp only [pass, hpass, Option.map_eq_some_iff, Check.value?_eq_some_iff]
    constructor
    · rintro ⟨_, ⟨x, hx, rfl⟩, rfl⟩
      exact ⟨x, hx, rfl⟩
    · rintro ⟨x, hx, rfl⟩
      exact ⟨_, ⟨x, hx, rfl⟩, rfl⟩
  default_eq := congrArg Content.datum hdefault

end

theorem checks_text {s : Text} {h} :
    Checks (.field (.text 0) (.text s) h) toText s (.datum ∘ .text) :=
  .of_value? (fun v => by cases v <;> simp [FieldType.pass, toText, Option.filter]) rfl

theorem checks_keyword {s : Text} {h} :
    Checks (.field (.text 1) (.text s) h) toKeyword s (.datum ∘ .text) := by
  refine .of_value? (fun v => ?_) rfl
  cases v with
  | text s => cases s <;> simp [FieldType.pass, toText, toKeyword, Option.filter]
  | _ => rfl

theorem checks_texts {items : List Text} {h} :
    Checks (.field (.texts 0) (.texts items) h) toTexts items (.datum ∘ .texts) := by
  refine .of_value? (fun v => ?_) rfl
  cases hv : v.toTexts <;> simp [FieldType.pass, hv, Option.filter, Check.value?]

theorem checks_markers {items : List Text} {h} :
    Checks (.field (.texts 1) (.texts items) h) toMarkers items (.datum ∘ .texts) := by
  refine .of_value? (fun v => ?_) rfl
  rw [toMarkers]
  cases hv : v.toTexts with
  | passed items => cases items <;> simp [FieldType.pass, hv, Option.filter]
  | failed faults => simp [FieldType.pass, hv, Check.value?]

theorem checks_triggers {items : List Trigger} {h} :
    Checks (.field .triggers (.triggers items) h) toTriggers items (.datum ∘ .triggers) :=
  .of_value? (fun _ => rfl) rfl

theorem checks_path {p : Path} {h} : Checks (.field .path (.path p) h) toPath p (.datum ∘ .path) :=
  .of_value? (fun _ => rfl) rfl

theorem checks_switch {b : Bool} {h} :
    Checks (.field .switch (.switch b) h) toSwitch b (.datum ∘ .switch) :=
  .of_value? (fun _ => rfl) rfl

theorem checks_colorChoice {choice : ColorChoice} {h} :
    Checks (.field (.oneOf ["auto", "always", "never"]) (.text choice.word) h) toColorChoice choice
      (.datum ∘ fun choice => .text choice.word) := by
  refine .of_value? (fun v => ?_) rfl
  cases v with
  | text s =>
    by_cases hs : s ∈ ["auto".toList, "always".toList, "never".toList]
    · obtain ⟨other, rfl⟩ := OutputSettings.exists_word_iff.1 hs
      cases other <;> rfl
    · have hnone : toColorChoice (.text s) = .fault .unknownChoice := by
        rw [toColorChoice, List.find?_eq_none.2]
        intro other _ heq
        exact hs (OutputSettings.exists_word_iff.2 ⟨other, (beq_iff_eq.1 heq).symm⟩)
      rw [hnone]
      simpa [FieldType.pass, toText, Option.filter] using hs
  | _ => rfl

end Value

/-! ### The checks of sections -/

open Value

theorem Policy.checks_model : Checks model ofValue default content where
  pass_iff v c := by
    cases v with
    | table entries =>
      simp only [model, Value.pass, Option.map_eq_some_iff, checks_markers.passEach_cons_iff,
        checks_triggers.passEach_cons_iff, checks_keyword.passEach_cons_iff,
        checks_texts.passEach_cons_iff, checks_switch.passEach_cons_iff,
        checks_text.passEach_cons_iff, passEach_nil_iff, ofValue, inSection,
        ofEntries_eq_passed_iff]
      constructor
      · rintro ⟨_, ⟨markers, _, hmarkers, ⟨triggers, _, htriggers, ⟨keyword, _, hkeyword,
          ⟨comments, _, hcomments, ⟨imports, _, himports, ⟨through, _, hthrough,
          ⟨indent, _, hindent, rfl, rfl⟩, rfl⟩, rfl⟩, rfl⟩, rfl⟩, rfl⟩, rfl⟩, rfl⟩
        exact ⟨⟨markers, triggers, keyword, comments, imports, through, indent⟩,
          ⟨hmarkers, htriggers, hkeyword, hcomments, himports, hthrough, hindent⟩, rfl⟩
      · rintro ⟨p, ⟨hmarkers, htriggers, hkeyword, hcomments, himports, hthrough, hindent⟩, rfl⟩
        exact ⟨_, ⟨_, _, hmarkers, ⟨_, _, htriggers, ⟨_, _, hkeyword, ⟨_, _, hcomments,
          ⟨_, _, himports, ⟨_, _, hthrough, ⟨_, _, hindent, rfl, rfl⟩, rfl⟩, rfl⟩, rfl⟩, rfl⟩,
          rfl⟩, rfl⟩, rfl⟩
    | _ => simp [model, Value.pass, ofValue, inSection, Check.fault]
  default_eq := rfl

theorem ToolchainSettings.checks_model : Checks model ofValue default content where
  pass_iff v c := by
    cases v with
    | table entries =>
      simp only [model, Value.pass, Option.map_eq_some_iff, checks_text.passEach_cons_iff,
        checks_path.passEach_cons_iff, checks_texts.passEach_cons_iff, passEach_nil_iff, ofValue,
        inSection, ofEntries_eq_passed_iff]
      constructor
      · rintro ⟨_, ⟨compiler, _, hcompiler, ⟨dir, _, hdir, ⟨flags, _, hflags, rfl, rfl⟩, rfl⟩, rfl⟩,
          rfl⟩
        exact ⟨⟨compiler, dir, flags⟩, ⟨hcompiler, hdir, hflags⟩, rfl⟩
      · rintro ⟨t, ⟨hcompiler, hdir, hflags⟩, rfl⟩
        exact ⟨_, ⟨_, _, hcompiler, ⟨_, _, hdir, ⟨_, _, hflags, rfl, rfl⟩, rfl⟩, rfl⟩, rfl⟩
    | _ => simp [model, Value.pass, ofValue, inSection, Check.fault]
  default_eq := rfl

theorem OutputSettings.checks_model : Checks model ofValue default content where
  pass_iff v c := by
    cases v with
    | table entries =>
      simp only [model, Value.pass, Option.map_eq_some_iff, checks_switch.passEach_cons_iff,
        checks_colorChoice.passEach_cons_iff, passEach_nil_iff, ofValue, inSection,
        ofEntries_eq_passed_iff]
      constructor
      · rintro ⟨_, ⟨verbose, _, hverbose, ⟨emoji, _, hemoji, ⟨color, _, hcolor,
          ⟨choice, _, hchoice, ⟨expanded, _, hexpanded, rfl, rfl⟩, rfl⟩, rfl⟩, rfl⟩, rfl⟩, rfl⟩
        exact ⟨⟨verbose, emoji, color, choice, expanded⟩,
          ⟨hverbose, hemoji, hcolor, hchoice, hexpanded⟩, rfl⟩
      · rintro ⟨o, ⟨hverbose, hemoji, hcolor, hchoice, hexpanded⟩, rfl⟩
        exact ⟨_, ⟨_, _, hverbose, ⟨_, _, hemoji, ⟨_, _, hcolor, ⟨_, _, hchoice,
          ⟨_, _, hexpanded, rfl, rfl⟩, rfl⟩, rfl⟩, rfl⟩, rfl⟩, rfl⟩
    | _ => simp [model, Value.pass, ofValue, inSection, Check.fault]
  default_eq := rfl

/-- **A document passes as the settings that its check passes.** -/
theorem Settings.checks_model : Checks model ofValue default content where
  pass_iff v c := by
    cases v with
    | table entries =>
      simp only [model, Value.pass, Option.map_eq_some_iff, Policy.checks_model.passEach_cons_iff,
        ToolchainSettings.checks_model.passEach_cons_iff,
        OutputSettings.checks_model.passEach_cons_iff, checks_switch.passEach_cons_iff,
        passEach_nil_iff, ofValue, inSection, ofEntries_eq_passed_iff]
      constructor
      · rintro ⟨_, ⟨policy, _, hpolicy, ⟨toolchain, _, htoolchain, ⟨output, _, houtput,
          ⟨raised, _, hraised, rfl, rfl⟩, rfl⟩, rfl⟩, rfl⟩, rfl⟩
        exact ⟨⟨policy, toolchain, output, raised⟩, ⟨hpolicy, htoolchain, houtput, hraised⟩, rfl⟩
      · rintro ⟨s, ⟨hpolicy, htoolchain, houtput, hraised⟩, rfl⟩
        exact ⟨_, ⟨_, _, hpolicy, ⟨_, _, htoolchain, ⟨_, _, houtput,
          ⟨_, _, hraised, rfl, rfl⟩, rfl⟩, rfl⟩, rfl⟩, rfl⟩
    | _ => simp [model, Value.pass, ofValue, inSection, Check.fault]
  default_eq := rfl

end Oneshot
