import Oneshot.Proofs.CommandLine.Kinds
import Oneshot.Proofs.Settings.Passing

/-!
# How Loading Settings Ends

A file of settings is tested, read, decoded and parsed, and the document of both layers is checked.
A file that the system refuses to read, a document that cannot be parsed and a value that does not
pass are errors of the configuration. The environment alone fails in no other way.

Some replies about the file escape, since nothing expects them: a test that is refused for another
cause than that no file is there, a name that reaches no system call, and a content that is no UTF-8
or holds a whole number with more digits than are read (`FileEscapes`).

* `Settings.runs_fileLayer_iff`: how a file is read.
* `Settings.runs_fileLayer_ok_iff`, `Settings.runs_fileLayer_escaped_iff`: when it makes a layer,
  and when something escapes.
* `Settings.load_ends`: how loading ends.
-/

namespace Oneshot

open Action (runs_bind runs_ask_bind)

namespace Settings

variable {file : Path} {cacheRoot : Option Path} {vars : Variables} {bytes : Bytes}
  {entries : Entries} {t : Trace} {e : Escape}

/-! ### The content of the file -/

/-- The layer that the content of a file makes. -/
def contentLayer (file : Path) (bytes : Bytes) : Action Entries :=
  match Utf8.decode bytes with
  | .error fault => Action.escape (.undecodable fault)
  | .ok source =>
    match Toml.read source with
    | .ok entries => pure entries
    | .error ⟨.tooManyDigits count, _⟩ => Action.escape (.numeral (.tooManyDigits count))
    | .error fault => Action.fail (.unreadableSettings file (.malformed source fault))

theorem fileLayer_eq (file : Path) : fileLayer file = (do
    if ← Action.orEscape (Files.isFile file) then
      let bytes ← Action.reporting (fun e => .unreadableSettings file (.os e))
        (← Action.ask (.read file.text))
      contentLayer file bytes
    else return []) :=
  rfl

/-- The content is a document with these entries. -/
def ContentHolds (bytes : Bytes) (entries : Entries) : Prop :=
  ∃ source, Utf8.decode bytes = .ok source ∧ Toml.read source = .ok entries

/-- The content is no document, and not because of its syntax. -/
inductive ContentEscapes (bytes : Bytes) : Escape → Prop
  | undecodable {fault : Utf8.Fault} (h : Utf8.decode bytes = .error fault) :
      ContentEscapes bytes (.undecodable fault)
  | numeral {source : Text} {count remaining : Nat} (hdecode : Utf8.decode bytes = .ok source)
      (hread : Toml.read source = .error ⟨.tooManyDigits count, remaining⟩) :
      ContentEscapes bytes (.numeral (.tooManyDigits count))

theorem runs_contentLayer_ok_iff :
    (contentLayer file bytes).run.Runs t (.ok entries) ↔ t = [] ∧ ContentHolds bytes entries := by
  constructor
  · intro h
    rw [contentLayer] at h
    split at h
    · simp at h
    · next source hdecode =>
      split at h
      · next entries' hread =>
        obtain ⟨rfl, hx⟩ := h
        obtain rfl := Except.ok.inj hx
        exact ⟨rfl, source, hdecode, hread⟩
      · simp at h
      · simp at h
  · rintro ⟨rfl, source, hdecode, hread⟩
    simp [contentLayer, hdecode, hread]

theorem runs_contentLayer_escaped_iff :
    (contentLayer file bytes).run.Runs t (.error (.escaped e)) ↔
      t = [] ∧ ContentEscapes bytes e := by
  constructor
  · intro h
    rw [contentLayer] at h
    split at h
    · next fault hdecode =>
      obtain ⟨rfl, hx⟩ := h
      obtain rfl := Failure.escaped.inj (Except.error.inj hx)
      exact ⟨rfl, .undecodable hdecode⟩
    · next source hdecode =>
      split at h
      · simp at h
      · next count remaining hread =>
        obtain ⟨rfl, hx⟩ := h
        obtain rfl := Failure.escaped.inj (Except.error.inj hx)
        exact ⟨rfl, .numeral hdecode hread⟩
      · simp at h
  · rintro ⟨rfl, h⟩
    cases h with
    | undecodable hdecode => simp [contentLayer, hdecode]
    | numeral hdecode hread => simp [contentLayer, hdecode, hread]

/-! ### The file -/

/-- Along a trace, the file makes a layer; where there is none, it is empty. -/
inductive FileHolds (file : Path) : Trace → Entries → Prop
  | missing {reply : Except Refusal FileKind} (h : TestResult .file reply (.ok false)) :
      FileHolds file [⟨.kind file.text, reply⟩] []
  | document {bytes : Bytes} {entries : Entries} (h : ContentHolds bytes entries) :
      FileHolds file [⟨.kind file.text, .ok .file⟩, ⟨.read file.text, .ok bytes⟩] entries

/-- Along a trace, something about the file escapes. -/
inductive FileEscapes (file : Path) : Trace → Escape → Prop
  /-- The test is refused, and not because no file is there. -/
  | untested {e : OsError} (h : Files.isAbsence e.cause = false) :
      FileEscapes file [⟨.kind file.text, .error (.os e)⟩] (.os e)
  /-- The name of what the test has found reaches no system call. -/
  | barred {refusal : Refusal} {e : Escape} (h : refusal.escape? = some e) :
      FileEscapes file [⟨.kind file.text, .ok .file⟩, ⟨.read file.text, .error refusal⟩] e
  | content {bytes : Bytes} {e : Escape} (h : ContentEscapes bytes e) :
      FileEscapes file [⟨.kind file.text, .ok .file⟩, ⟨.read file.text, .ok bytes⟩] e

/-- A file that is there is read. -/
theorem runs_fileLayer_iff {x : Except Failure Entries} :
    (fileLayer file).run.Runs t x ↔
      (∃ reply, t = [⟨.kind file.text, reply⟩] ∧
        (TestResult .file reply (.ok false) ∧ x = .ok [] ∨
          ∃ failure, TestResult .file reply (.error failure) ∧ x = .error failure)) ∨
        ∃ reply rest, t = ⟨.kind file.text, .ok .file⟩ :: ⟨.read file.text, reply⟩ :: rest ∧
          (Action.reporting (fun e => .unreadableSettings file (.os e)) reply >>=
            contentLayer file).run.Runs rest x := by
  rw [fileLayer_eq]
  constructor
  · intro h
    obtain ⟨reply, rest, rfl, ⟨found, hresult, hrest⟩ | ⟨failure, hresult, rfl, rfl⟩⟩ :=
      Action.runs_test_bind.1 h
    · cases found with
      | false =>
        obtain ⟨rfl, rfl⟩ := hrest
        exact .inl ⟨reply, rfl, .inl ⟨hresult, rfl⟩⟩
      | true =>
        obtain rfl := hresult.found_iff.1 rfl
        obtain ⟨reply, rest, rfl, hread⟩ := runs_ask_bind.1 hrest
        exact .inr ⟨reply, rest, rfl, hread⟩
    · exact .inl ⟨reply, rfl, .inr ⟨failure, hresult, rfl⟩⟩
  · rintro (⟨reply, rfl, ⟨hresult, rfl⟩ | ⟨failure, hresult, rfl⟩⟩ | ⟨reply, rest, rfl, hread⟩)
    · exact Action.runs_test_bind.2 ⟨reply, [], rfl, .inl ⟨false, hresult, rfl, rfl⟩⟩
    · exact Action.runs_test_bind.2 ⟨reply, [], rfl, .inr ⟨failure, hresult, rfl, rfl⟩⟩
    · exact Action.runs_test_bind.2 ⟨_, _, rfl, .inl ⟨true, .there .file,
        runs_ask_bind.2 ⟨reply, rest, rfl, hread⟩⟩⟩

/-- **When a file makes a layer.** -/
theorem runs_fileLayer_ok_iff :
    (fileLayer file).run.Runs t (.ok entries) ↔ FileHolds file t entries := by
  constructor
  · intro h
    obtain ⟨reply, rfl, ⟨hresult, hx⟩ | ⟨failure, -, hx⟩⟩ | ⟨reply, rest, rfl, hread⟩ :=
      runs_fileLayer_iff.1 h
    · obtain rfl := Except.ok.inj hx
      exact .missing hresult
    · simp at hx
    · rcases reply with (os | _ | _) | bytes
      case ok =>
        obtain ⟨rfl, hcontent⟩ := runs_contentLayer_ok_iff.1 hread
        exact .document hcontent
      all_goals exact absurd hread.2 (by simp)
  · intro h
    cases h with
    | missing hresult => exact runs_fileLayer_iff.2 (.inl ⟨_, rfl, .inl ⟨hresult, rfl⟩⟩)
    | document hcontent =>
      obtain ⟨source, hdecode, hread⟩ := hcontent
      exact runs_fileLayer hdecode hread

/-- **What escapes from a file.** -/
theorem runs_fileLayer_escaped_iff :
    (fileLayer file).run.Runs t (.error (.escaped e)) ↔ FileEscapes file t e := by
  constructor
  · intro h
    obtain ⟨reply, rfl, ⟨-, hx⟩ | ⟨failure, hresult, hx⟩⟩ | ⟨reply, rest, rfl, hread⟩ :=
      runs_fileLayer_iff.1 h
    · simp at hx
    · obtain rfl := Except.error.inj hx
      cases hresult with
      | refused hcause => exact .untested hcause
    · rcases reply with (os | _ | _) | bytes
      case ok =>
        obtain ⟨rfl, hcontent⟩ := runs_contentLayer_escaped_iff.1 hread
        exact .content hcontent
      case error.os => exact absurd hread.2 (by simp)
      all_goals
        obtain ⟨rfl, hx⟩ := hread
        obtain rfl := Failure.escaped.inj (Except.error.inj hx)
        exact .barred rfl
  · intro h
    cases h with
    | untested hcause =>
      exact runs_fileLayer_iff.2 (.inl ⟨_, rfl, .inr ⟨_, .refused hcause, rfl⟩⟩)
    | @barred refusal e hrefusal =>
      refine runs_fileLayer_iff.2 (.inr ⟨_, [], rfl, ?_⟩)
      cases refusal with
      | os e => simp [Refusal.escape?] at hrefusal
      | _ =>
        obtain rfl := Option.some.inj hrefusal
        exact ⟨rfl, rfl⟩
    | content hcontent =>
      exact runs_fileLayer_iff.2 (.inr ⟨_, [], rfl, runs_contentLayer_escaped_iff.2
        ⟨rfl, hcontent⟩⟩)

/-! ### Loading -/

/-- Along a trace, there is a lower layer. -/
def LayerHolds (cacheRoot : Option Path) (t : Trace) (entries : Entries) : Prop :=
  match cacheRoot with
  | none => t = [] ∧ entries = []
  | some root => FileHolds (root.child fileName) t entries

theorem runs_lowerLayer_ok_iff :
    (lowerLayer cacheRoot).run.Runs t (.ok entries) ↔ LayerHolds cacheRoot t entries := by
  cases cacheRoot with
  | none => simp [lowerLayer, LayerHolds]
  | some root => exact runs_fileLayer_ok_iff

/-- Nothing but what is about the file of the cache directory escapes from loading. -/
theorem runs_load_escaped_iff :
    (load cacheRoot vars).run.Runs t (.error (.escaped e)) ↔
      ∃ root, cacheRoot = some root ∧ FileEscapes (root.child fileName) t e := by
  have hchecked : ∀ (file : Entries) (t : Trace),
      ¬ (checked vars file).run.Runs t (.error (.escaped e)) := by
    intro file t
    unfold checked
    split
    · simp
    · intro h
      obtain ⟨text, rest, -, hfail⟩ := runs_ask_bind.1 h
      simp at hfail
  cases cacheRoot with
  | none =>
    rw [load_none]
    simpa using hchecked [] t
  | some root =>
    rw [load_some, runs_bind]
    constructor
    · rintro (⟨t₁, t₂, file, -, -, hrest⟩ | ⟨failure, hfile, hx⟩)
      · exact absurd hrest (hchecked file t₂)
      · obtain rfl := Except.error.inj hx
        exact ⟨root, rfl, runs_fileLayer_escaped_iff.1 hfile⟩
    · rintro ⟨_, hroot, hfile⟩
      obtain rfl := Option.some.inj hroot
      exact .inr ⟨_, runs_fileLayer_escaped_iff.2 hfile, rfl⟩

/-- **How loading ends**, whatever there is in the cache directory and in the environment. It ends
with settings exactly if there is a lower layer and the document of both layers passes; something
escapes exactly if it is about the file; anything else is reported, as an error of the
configuration. -/
theorem load_ends {x : Except Failure Settings} (h : (load cacheRoot vars).run.Runs t x) :
    (∀ settings, x = .ok settings ↔ ∃ entries, LayerHolds cacheRoot t entries ∧
      ofEntries ((Entries.merge [] entries).merge (environmentLayer vars)) = .passed settings) ∧
    (∀ e, x = .error (.reported e) → e.kind = .config) ∧
    ∀ e, x = .error (.escaped e) ↔
      ∃ root, cacheRoot = some root ∧ FileEscapes (root.child fileName) t e := by
  refine ⟨fun settings => ?_, ?_, fun e => ?_⟩
  · rw [← h.iff_eq, runs_load_iff]
    simp only [runs_lowerLayer_ok_iff]
  · have hreports : (load cacheRoot vars).Reports (Eq .config) := reports_load rfl cacheRoot vars
    rintro e rfl
    exact (hreports t e h).symm
  · rw [← h.iff_eq, runs_load_escaped_iff]

/-- A file that is there but may not be read: an error of the configuration. -/
theorem load_ends_refused :
    let root : Path := ⟨['/'], ["cache"]⟩
    let file := root.child fileName
    let denied : OsError := { cause := .accessDenied, subject := some file.text }
    let t : Trace := [⟨.kind file.text, .ok .file⟩, ⟨.read file.text, .error (.os denied)⟩]
    ∃ e, (load (some root) []).run.Runs t (.error (.reported e)) ∧ e.kind = .config ∧
      ∀ e, ¬ FileEscapes file t e := by
  intro root file denied t
  have hruns : (load (some root) []).run.Runs t
      (.error (.reported (.unreadableSettings file (.os denied)))) := by
    rw [load_some]
    exact runs_bind.2 (.inr ⟨_, runs_fileLayer_iff.2 (.inr ⟨_, [], rfl, rfl, rfl⟩), rfl⟩)
  obtain ⟨-, hreported, hescaped⟩ := load_ends hruns
  refine ⟨_, hruns, hreported _ rfl, fun e he => ?_⟩
  have hx := (hescaped e).2 ⟨root, rfl, he⟩
  simp at hx

/-- A file whose only byte is no UTF-8 ends loading neither with settings nor with an error of the
configuration. -/
theorem undecodable_settings_escape :
    ¬ ∀ (cacheRoot : Option Path) (vars : Variables) (t : Trace) (x : Except Failure Settings),
      (load cacheRoot vars).run.Runs t x →
        (∃ settings, x = .ok settings) ∨ ∃ e, x = .error (.reported e) ∧ e.kind = .config := by
  intro h
  let root : Path := ⟨['/'], ["cache"]⟩
  let file := root.child fileName
  have hfile : FileEscapes file
      [⟨.kind file.text, .ok .file⟩, ⟨.read file.text, .ok [0xff]⟩]
      (.undecodable ⟨0xff, 0, 1, .invalidStart⟩) := .content (.undecodable rfl)
  have hends := h (some root) [] _ _ (runs_load_escaped_iff.2 ⟨root, rfl, hfile⟩)
  simp at hends

end Settings

end Oneshot
