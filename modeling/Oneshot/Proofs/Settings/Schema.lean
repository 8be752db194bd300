import Oneshot.Proofs.Settings.Passing

/-!
# Schemas and Assignments

Settings are instances of models: each model declares its fields, and each field has a type with a
default, or a model of its own. What checks the values is not part of this development. It is taken
as it comes (`Validator`), as far as it keeps to what is known of it (`Validator.Lax`): what passes
for a type has the type, and a value of the type passes unchanged; for a model, a mapping passes
field by field, with the default where it has no entry, and an instance of the model is taken as it
is; and an instance that is assigned to takes what passes for the field, or stays as it is.

Nothing is known of the values themselves, so that any value can be assigned. An instance that is
handed in is not checked again (`Validator.assign_of_instance?`), so that instances have to have
come from a check themselves (`Validator.Checked`).

* `Schema.Has`: the content of an instance has the types that are declared.
* `Validator.has_of_validate`, `Validator.validate_dump`: what passes has the types, and what has
  the types passes as it is.
* `Validator.assignAt`: an assignment to a field, or to a field of a field.
* `Validator.assignAt_eq`: what an assignment comes to.
* `Validator.has_behind`: what holds behind every history of assignments.
-/

namespace Oneshot

/-! ### Schemas -/

/-- The type of a field. Texts and lists can have a least length. -/
inductive FieldType where
  | text (least : ℕ)
  | texts (least : ℕ)
  | triggers
  | path
  | switch
  | oneOf (words : List Text)
deriving DecidableEq, Repr

/-- What a field holds. -/
inductive Datum where
  | text (s : Text)
  | texts (items : List Text)
  | triggers (items : List Trigger)
  | path (p : Path)
  | switch (b : Bool)
deriving DecidableEq, Repr

/-- A datum has a type. A path is one that has been read. -/
def FieldType.Has : FieldType → Datum → Prop
  | .text least, .text s => least ≤ s.length
  | .texts least, .texts items => least ≤ items.length
  | .triggers, .triggers _ => True
  | .path, .path p => ∃ s, p = Path.ofText s
  | .switch, .switch _ => True
  | .oneOf words, .text s => s ∈ words
  | _, _ => False

namespace FieldType

variable {least : ℕ} {words items : List Text} {s : Text} {d : Datum}

theorem has_text (h : least ≤ s.length) : (text least).Has (.text s) := h

theorem has_texts (h : least ≤ items.length) : (texts least).Has (.texts items) := h

theorem has_triggers (items : List Trigger) : triggers.Has (.triggers items) := trivial

theorem has_path {p : Path} (h : ∃ s, p = Path.ofText s) : path.Has (.path p) := h

theorem has_switch (b : Bool) : switch.Has (.switch b) := trivial

theorem has_oneOf (h : s ∈ words) : (oneOf words).Has (.text s) := h

@[simp] theorem has_text_iff : (text least).Has d ↔ ∃ s, d = .text s ∧ least ≤ s.length := by
  cases d <;> simp [Has]

@[simp] theorem has_texts_iff :
    (texts least).Has d ↔ ∃ items, d = .texts items ∧ least ≤ items.length := by
  cases d <;> simp [Has]

@[simp] theorem has_triggers_iff : triggers.Has d ↔ ∃ items, d = .triggers items := by
  cases d <;> simp [Has]

@[simp] theorem has_path_iff : path.Has d ↔ ∃ s, d = .path (Path.ofText s) := by
  cases d <;> simp [Has]

@[simp] theorem has_switch_iff : switch.Has d ↔ ∃ b, d = .switch b := by
  cases d <;> simp [Has]

@[simp] theorem has_oneOf_iff : (oneOf words).Has d ↔ ∃ s ∈ words, d = .text s := by
  cases d <;> simp [Has]

end FieldType

/-- What is declared in a place: a field with its type and its default, or a model with its name and
its fields. -/
inductive Schema where
  | field (type : FieldType) (default : Datum) (hdefault : type.Has default)
  | model (name : Text) (fields : List (Text × Schema))

/-- What stands in a place: a datum, or an instance with its entries. -/
inductive Content where
  | datum (d : Datum)
  | record (entries : List (Text × Content))

namespace Schema

/-- What holds of all schemas: of fields, and of a model whose fields it holds of. -/
theorem induct {motive : Schema → Prop}
    (hfield : ∀ type default hdefault, motive (.field type default hdefault))
    (hmodel : ∀ name fields, (∀ f ∈ fields, motive f.2) → motive (.model name fields)) :
    ∀ s, motive s
  | .field type default hdefault => hfield type default hdefault
  | .model name fields => hmodel name fields fun f hf =>
      have : sizeOf f.2 < 1 + sizeOf name + sizeOf fields := by
        have hlist := List.sizeOf_lt_of_mem hf
        have hpair : sizeOf f = 1 + sizeOf f.1 + sizeOf f.2 := rfl
        omega
      induct hfield hmodel f.2
  termination_by s => sizeOf s

mutual

/-- What stands in a place by default. -/
def default : Schema → Content
  | .field _ d _ => .datum d
  | .model _ fields => .record (defaults fields)

/-- What stands in some fields by default. -/
def defaults : List (Text × Schema) → List (Text × Content)
  | [] => []
  | (name, s) :: rest => (name, s.default) :: defaults rest

end

mutual

/-- The content is as it is declared: a datum has its type, and an instance has the declared fields
in their order. -/
def Has : Schema → Content → Prop
  | .field type _ _, .datum d => type.Has d
  | .model _ fields, .record entries => HasEach fields entries
  | _, _ => False

/-- The entries are as the fields are declared. -/
def HasEach : List (Text × Schema) → List (Text × Content) → Prop
  | [], [] => True
  | (name, s) :: fields, (name', c) :: entries => name = name' ∧ s.Has c ∧ HasEach fields entries
  | _, _ => False

end

mutual

/-- No model declares two fields of one name. -/
def Distinct : Schema → Prop
  | .field .. => True
  | .model _ fields => (fields.map Prod.fst).Nodup ∧ DistinctEach fields

/-- No model among some fields declares two fields of one name. -/
def DistinctEach : List (Text × Schema) → Prop
  | [] => True
  | (_, s) :: rest => s.Distinct ∧ DistinctEach rest

end

/-- What is declared under a name. -/
def field? : Schema → Text → Option Schema
  | .model _ fields, name => fields.lookup name
  | .field .., _ => none

/-- What is declared at a path of names. -/
def at? : Schema → List Text → Option Schema
  | s, [] => some s
  | s, name :: rest => (s.field? name).bind (at? · rest)

/-- The path is that of a field. -/
def IsField (s : Schema) (path : List Text) : Prop :=
  path ≠ [] ∧ (s.at? path).isSome = true

instance (s : Schema) (path : List Text) : Decidable (s.IsField path) :=
  inferInstanceAs (Decidable (_ ∧ _))

end Schema

namespace Content

/-- What stands under a name. -/
def field? : Content → Text → Option Content
  | .record entries, name => entries.lookup name
  | .datum _, _ => none

/-- Some entries with a new content for one of them. -/
def putEntry (name : Text) (new : Content) : List (Text × Content) → List (Text × Content)
  | [] => []
  | (key, c) :: rest =>
    if key = name then (key, new) :: rest else (key, c) :: putEntry name new rest

/-- The content with a new one for one of its fields. -/
def put : Content → Text → Content → Content
  | .record entries, name, new => .record (putEntry name new entries)
  | .datum d, _, _ => .datum d

/-- What stands at a path of names. -/
def reach? : Content → List Text → Option Content
  | c, [] => some c
  | c, name :: rest => (c.field? name).bind (reach? · rest)

/-- The content with a new one at a path of names, if it goes that far. -/
def putAt : Content → List Text → Content → Content
  | _, [], new => new
  | c, name :: rest, new =>
    match c.field? name with
    | some inner => c.put name (inner.putAt rest new)
    | none => c

variable {c new : Content} {name other : Text} {entries : List (Text × Content)}

theorem lookup_putEntry : (putEntry name new entries).lookup other
    = if other = name then (entries.lookup other).map fun _ => new else entries.lookup other := by
  induction entries with
  | nil => simp [putEntry]
  | cons e rest ih =>
    obtain ⟨key, c⟩ := e
    rw [putEntry]
    by_cases hother : other = key
    · subst hother
      by_cases hname : other = name <;> simp [hname]
    · have hne : (other == key) = false := beq_eq_false_iff_ne.2 hother
      by_cases hkey : key = name
      · subst hkey
        simp [List.lookup_cons, hne, hother]
      · simp [List.lookup_cons, hne, hkey, ih]

theorem field?_put : (c.put name new).field? other
    = if other = name then (c.field? other).map fun _ => new else c.field? other := by
  cases c with
  | datum d => simp [put, field?]
  | record entries => exact lookup_putEntry

/-- Nothing changes if what stands under a name is put there. -/
theorem put_of_field? (h : c.field? name = some new) : c.put name new = c := by
  cases c with
  | datum d => rfl
  | record entries =>
    refine congrArg Content.record ?_
    induction entries with
    | nil => rfl
    | cons e rest ih =>
      obtain ⟨key, c⟩ := e
      by_cases hkey : key = name
      · subst hkey
        simp_all [putEntry, field?]
      · have hne : (name == key) = false := beq_eq_false_iff_ne.2 (Ne.symm hkey)
        rw [putEntry, if_neg hkey, ih (by simpa [field?, List.lookup_cons, hne] using h)]

/-- What is put at a path stands there. -/
theorem reach?_putAt_self {path : List Text} (h : (c.reach? path).isSome) :
    (c.putAt path new).reach? path = some new := by
  induction path generalizing c with
  | nil => rfl
  | cons name rest ih =>
    rw [reach?] at h
    cases hfield : c.field? name with
    | none => simp [hfield] at h
    | some inner =>
      rw [hfield] at h
      rw [putAt, hfield, reach?, field?_put, if_pos rfl, hfield]
      exact ih h

/-- Another path, which neither leads to the new content nor through it, leads to what it has led
to. -/
theorem reach?_putAt {path other : List Text} (h : ¬ other <+: path) (h' : ¬ path <+: other) :
    (c.putAt path new).reach? other = c.reach? other := by
  induction path generalizing c other with
  | nil => exact absurd List.nil_prefix h'
  | cons name rest ih =>
    rcases other with _ | ⟨key, others⟩
    · exact absurd List.nil_prefix h
    cases hfield : c.field? name with
    | none => rw [putAt, hfield]
    | some inner =>
      rw [putAt, hfield, reach?, reach?, field?_put]
      by_cases hkey : key = name
      · subst hkey
        rw [if_pos rfl, hfield]
        simp only [List.cons_prefix_cons, true_and] at h h'
        exact ih h h'
      · rw [if_neg hkey]

end Content

namespace Schema

variable {s s' : Schema} {c new : Content} {name : Text} {fields : List (Text × Schema)}
  {entries : List (Text × Content)}

/-- Every default has the declared types. -/
theorem has_default (s : Schema) : s.Has s.default := by
  induction s using Schema.induct with
  | hfield type default hdefault => exact hdefault
  | hmodel name fields ih =>
    change HasEach fields (defaults fields)
    induction fields with
    | nil => trivial
    | cons f rest ihrest =>
      exact ⟨rfl, ih f List.mem_cons_self, ihrest fun g hg => ih g (List.mem_cons_of_mem f hg)⟩

theorem has_field_iff {type : FieldType} {d : Datum} {hdefault : type.Has d} :
    (field type d hdefault).Has c ↔ ∃ d, c = .datum d ∧ type.Has d := by
  cases c <;> simp [Has]

theorem hasEach_nil_iff : HasEach [] entries ↔ entries = [] := by
  cases entries <;> simp [HasEach]

theorem hasEach_cons_iff : HasEach ((name, s) :: fields) entries ↔
    ∃ c rest, entries = (name, c) :: rest ∧ s.Has c ∧ HasEach fields rest := by
  cases entries with
  | nil => simp [HasEach]
  | cons e rest => simp [HasEach, Prod.ext_iff, and_assoc, eq_comm]

theorem has_model_iff :
    (model name fields).Has c ↔ ∃ entries, c = .record entries ∧ HasEach fields entries := by
  cases c <;> simp [Has]

/-- What is declared under a name stands there. -/
theorem exists_lookup_of_hasEach (h : HasEach fields entries)
    (hname : fields.lookup name = some s) : ∃ c, entries.lookup name = some c ∧ s.Has c := by
  induction fields generalizing entries with
  | nil => simp at hname
  | cons f rest ih =>
    obtain ⟨key, s'⟩ := f
    cases entries with
    | nil => exact h.elim
    | cons e others =>
      obtain ⟨key', c⟩ := e
      obtain ⟨rfl, hhead, hrest⟩ := h
      rw [List.lookup_cons] at hname ⊢
      cases hkey : name == key with
      | true =>
        rw [hkey] at hname
        exact ⟨c, rfl, Option.some.inj hname ▸ hhead⟩
      | false =>
        rw [hkey] at hname
        exact ih hrest hname

theorem exists_of_field? (h : s.Has c) (hname : s.field? name = some s') :
    ∃ c', c.field? name = some c' ∧ s'.Has c' := by
  cases s with
  | field type default hdefault => simp [field?] at hname
  | model model fields =>
    obtain ⟨entries, rfl, heach⟩ := has_model_iff.1 h
    exact exists_lookup_of_hasEach heach hname

theorem exists_of_at? {path : List Text} (h : s.Has c) (hpath : s.at? path = some s') :
    ∃ c', c.reach? path = some c' ∧ s'.Has c' := by
  induction path generalizing s c with
  | nil => exact ⟨c, rfl, Option.some.inj hpath ▸ h⟩
  | cons name rest ih =>
    obtain ⟨inner, hfield, hrest⟩ := Option.bind_eq_some_iff.1 hpath
    obtain ⟨c', hc', hhas⟩ := exists_of_field? h hfield
    rw [Content.reach?, hc', Option.bind_some]
    exact ih hhas hrest

/-- An entry can be replaced by one that is as it is declared. -/
theorem hasEach_putEntry (h : HasEach fields entries)
    (hnew : ∀ s, fields.lookup name = some s → s.Has new) :
    HasEach fields (Content.putEntry name new entries) := by
  induction fields generalizing entries with
  | nil =>
    cases entries with
    | nil => trivial
    | cons e others => exact h.elim
  | cons f rest ih =>
    obtain ⟨key, s⟩ := f
    cases entries with
    | nil => exact h.elim
    | cons e others =>
      obtain ⟨key', c⟩ := e
      obtain ⟨rfl, hhead, hrest⟩ := h
      rw [Content.putEntry]
      by_cases hkey : key = name
      · rw [if_pos hkey]
        exact ⟨rfl, hnew s (by simp [hkey]), hrest⟩
      · have hne : (name == key) = false := beq_eq_false_iff_ne.2 (Ne.symm hkey)
        rw [if_neg hkey]
        exact ⟨rfl, hhead, ih hrest fun s hs => hnew s (by simpa [List.lookup_cons, hne] using hs)⟩

theorem has_put (h : s.Has c) (hnew : ∀ s', s.field? name = some s' → s'.Has new) :
    s.Has (c.put name new) := by
  cases s with
  | field type default hdefault =>
    cases c with
    | datum d => exact h
    | record entries => exact h.elim
  | model model fields =>
    obtain ⟨entries, rfl, heach⟩ := has_model_iff.1 h
    exact hasEach_putEntry heach hnew

theorem has_putAt {path : List Text} (h : s.Has c) (hpath : s.at? path = some s')
    (hnew : s'.Has new) : s.Has (c.putAt path new) := by
  induction path generalizing s c with
  | nil => exact Option.some.inj hpath ▸ hnew
  | cons name rest ih =>
    obtain ⟨inner, hfield, hrest⟩ := Option.bind_eq_some_iff.1 hpath
    obtain ⟨c', hc', hhas⟩ := exists_of_field? h hfield
    rw [Content.putAt, hc']
    refine has_put h fun s'' hs'' => ?_
    obtain rfl := Option.some.inj (hfield.symm.trans hs'')
    exact ih hhas hrest

end Schema

/-! ### Checks from outside -/

/-- What checks the values of a type, and assigns them. -/
structure Validator (V : Type) where
  /-- What a value passes as in a place of a schema, if it passes there. -/
  validate : Schema → V → Option Content
  /-- The content of a value that is an instance of a model already. -/
  instance? : Schema → V → Option Content
  /-- The entries of a value that is a mapping. -/
  entries? : V → Option (Text → Option V)
  /-- An instance of a model is assigned a value under the name of a field: whether it is accepted,
  and the content behind that. -/
  assign : Schema → Content → Text → V → Bool × Content
  /-- Content as a value: an instance is a mapping then. -/
  dump : Content → V

namespace Validator

variable {V : Type} (P : Validator V)

/-- A mapping passes as an instance: each entry of a declared name passes in its field, and a field
without an entry is left with its default. -/
def PassesEach (look : Text → Option V) :
    List (Text × Schema) → List (Text × Content) → Prop
  | [], [] => True
  | (name, s) :: fields, (name', c) :: entries => name = name' ∧
      (match look name with
        | some v => P.validate s v = some c
        | none => c = s.default) ∧ PassesEach look fields entries
  | _, _ => False

/-- What is known of a lax validator that checks each assignment. -/
structure Lax : Prop where
  /-- What passes for a type has the type. -/
  validate_field : ∀ {type default hdefault v c},
    P.validate (.field type default hdefault) v = some c → ∃ d, c = .datum d ∧ type.Has d
  /-- What has a type passes for the type unchanged. -/
  validate_datum : ∀ {type default hdefault d}, type.Has d →
    P.validate (.field type default hdefault) (P.dump (.datum d)) = some (.datum d)
  /-- An instance of the model passes as it is, and a mapping entry by entry. -/
  validate_model : ∀ {name fields v c}, P.validate (.model name fields) v = some c ↔
    P.instance? (.model name fields) v = some c ∨ P.instance? (.model name fields) v = none ∧
      ∃ look entries, P.entries? v = some look ∧ c = .record entries ∧
        P.PassesEach look fields entries
  /-- An instance is written as a mapping with an entry for each field. -/
  entries?_dump : ∀ entries, P.entries? (P.dump (.record entries))
    = some fun name => (entries.lookup name).map P.dump
  instance?_dump : ∀ s c, P.instance? s (P.dump c) = none
  /-- A value that is assigned is checked. What passes is what the field holds then; otherwise the
  value is rejected, and the instance is left as it is. -/
  assign_eq : ∀ {s c name field}, s.field? name = some field → ∀ v,
    P.assign s c name v = match P.validate field v with
      | some new => (true, c.put name new)
      | none => (false, c)

/-- Every instance that is handed in has been checked. -/
def Checked : Prop :=
  ∀ s v c, P.instance? s v = some c → s.Has c

variable {P}

/-- An instance that is assigned is taken as it is, whatever it holds. -/
theorem assign_of_instance? (hP : P.Lax) {s : Schema} {c new : Content} {name model : Text}
    {fields : List (Text × Schema)} (hfield : s.field? name = some (.model model fields)) {v : V}
    (h : P.instance? (.model model fields) v = some new) :
    P.assign s c name v = (true, c.put name new) := by
  rw [hP.assign_eq hfield, hP.validate_model.2 (.inl h)]

theorem hasEach_of_passesEach {look : Text → Option V} {fields : List (Text × Schema)}
    {entries : List (Text × Content)}
    (ih : ∀ f ∈ fields, ∀ v c, P.validate f.2 v = some c → f.2.Has c)
    (h : P.PassesEach look fields entries) : Schema.HasEach fields entries := by
  induction fields generalizing entries with
  | nil =>
    cases entries with
    | nil => trivial
    | cons e others => exact h.elim
  | cons f rest ihrest =>
    obtain ⟨key, s⟩ := f
    cases entries with
    | nil => exact h.elim
    | cons e others =>
      obtain ⟨key', c⟩ := e
      obtain ⟨rfl, hhead, hrest⟩ := h
      refine ⟨rfl, ?_, ihrest (fun g hg => ih g (List.mem_cons_of_mem _ hg)) hrest⟩
      cases hlook : look key with
      | none =>
        rw [hlook] at hhead
        exact hhead ▸ s.has_default
      | some v =>
        rw [hlook] at hhead
        exact ih (key, s) List.mem_cons_self v c hhead

/-- **What passes has the types that are declared.** -/
theorem has_of_validate (hP : P.Lax) (hchecked : P.Checked) {s : Schema} {v : V} {c : Content}
    (h : P.validate s v = some c) : s.Has c := by
  induction s using Schema.induct generalizing v c with
  | hfield type default hdefault =>
    obtain ⟨d, rfl, hd⟩ := hP.validate_field h
    exact hd
  | hmodel name fields ih =>
    obtain hinstance | ⟨-, look, entries, -, rfl, heach⟩ := hP.validate_model.1 h
    · exact hchecked _ v c hinstance
    · exact hasEach_of_passesEach (fun f hf v c => ih f hf) heach

/-- The entries of an instance pass one by one. -/
theorem passesEach_dump {fields : List (Text × Schema)}
    (ih : ∀ f ∈ fields, ∀ c, f.2.Distinct → f.2.Has c → P.validate f.2 (P.dump c) = some c)
    {entries all : List (Text × Content)} (hnodup : (fields.map Prod.fst).Nodup)
    (hdistinct : Schema.DistinctEach fields) (h : Schema.HasEach fields entries)
    (hall : ∀ name ∈ fields.map Prod.fst, all.lookup name = entries.lookup name) :
    P.PassesEach (fun name => (all.lookup name).map P.dump) fields entries := by
  induction fields generalizing entries with
  | nil =>
    cases entries with
    | nil => trivial
    | cons e others => exact h.elim
  | cons f rest ihrest =>
    obtain ⟨key, s⟩ := f
    cases entries with
    | nil => exact h.elim
    | cons e others =>
      obtain ⟨key', c⟩ := e
      obtain ⟨rfl, hhead, hrest⟩ := h
      obtain ⟨hs, hothers⟩ := hdistinct
      rw [List.map_cons, List.nodup_cons] at hnodup
      have hkey : all.lookup key = some c := by
        rw [hall key (by simp), List.lookup_cons]
        simp
      refine ⟨rfl, ?_, ihrest (fun g hg => ih g (List.mem_cons_of_mem _ hg)) hnodup.2 hothers hrest
        fun name hname => ?_⟩
      · simp only [hkey, Option.map_some]
        exact ih (key, s) List.mem_cons_self c hs hhead
      · have hne : (name == key) = false := beq_eq_false_iff_ne.2 fun heq => hnodup.1 (heq ▸ hname)
        rw [hall name (by simp [hname]), List.lookup_cons, hne]

/-- **What has the types that are declared is read back** from the value that it is written as. -/
theorem validate_dump (hP : P.Lax) {s : Schema} {c : Content} (hdistinct : s.Distinct)
    (h : s.Has c) : P.validate s (P.dump c) = some c := by
  induction s using Schema.induct generalizing c with
  | hfield type default hdefault =>
    cases c with
    | datum d => exact hP.validate_datum h
    | record entries => exact h.elim
  | hmodel name fields ih =>
    obtain ⟨entries, rfl, heach⟩ := Schema.has_model_iff.1 h
    refine hP.validate_model.2 (.inr ⟨hP.instance?_dump _ _, _, entries, hP.entries?_dump entries,
      rfl, ?_⟩)
    exact passesEach_dump (fun f hf c hs hc => ih f hf hs hc) hdistinct.1 hdistinct.2 heach
      fun name _ => rfl

/-! ### Assignments -/

/-- A value is assigned at a path of names: the last name is that of the field, and the others lead
to the instance that is assigned to. -/
def assignAt (P : Validator V) : Schema → Content → List Text → V → Bool × Content
  | _, c, [], _ => (false, c)
  | s, c, [name], v => P.assign s c name v
  | s, c, name :: rest, v =>
    match s.field? name, c.field? name with
    | some s', some c' =>
      let (accepted, inner) := P.assignAt s' c' rest v
      (accepted, c.put name inner)
    | _, _ => (false, c)

/-- An assignment further on is made to what stands under the first name. -/
theorem assignAt_cons {s s' : Schema} {c c' : Content} {name next : Text} {rest : List Text} {v : V}
    (hfield : s.field? name = some s') (hc : c.field? name = some c') :
    P.assignAt s c (name :: next :: rest) v = ((P.assignAt s' c' (next :: rest) v).1,
      c.put name (P.assignAt s' c' (next :: rest) v).2) := by
  simp only [assignAt, hfield, hc]

/-- **What an assignment comes to.** It is accepted if the value passes where it is assigned, and
then what it passes as stands there, and nothing else has changed. Otherwise nothing has
changed. -/
theorem assignAt_eq (hP : P.Lax) {s field : Schema} {c : Content} {path : List Text}
    (hc : s.Has c) (hpath : s.at? path = some field) (hne : path ≠ []) (v : V) :
    P.assignAt s c path v = match P.validate field v with
      | some new => (true, c.putAt path new)
      | none => (false, c) := by
  induction path generalizing s c with
  | nil => exact absurd rfl hne
  | cons name rest ih =>
    obtain ⟨inner, hfield, hrest⟩ := Option.bind_eq_some_iff.1 hpath
    obtain ⟨c', hc', hhas⟩ := Schema.exists_of_field? hc hfield
    rcases rest with _ | ⟨next, others⟩
    · obtain rfl := Option.some.inj hrest
      rw [assignAt, hP.assign_eq hfield v]
      cases P.validate inner v with
      | none => rfl
      | some new => simp only [Content.putAt, hc']
    · rw [assignAt_cons hfield hc', ih hhas hrest (by simp)]
      cases P.validate field v with
      | none => simp only [Content.put_of_field? hc']
      | some new => simp only [Content.putAt, hc']

/-- A value that is assigned at a path. -/
structure Assignment (V : Type) where
  path : List Text
  value : V

/-- The content behind a history of assignments to the defaults of a schema. -/
def behind (P : Validator V) (s : Schema) (history : List (Assignment V)) : Content :=
  history.foldl (fun c a => (P.assignAt s c a.path a.value).2) s.default

theorem behind_append (P : Validator V) (s : Schema) (history : List (Assignment V))
    (a : Assignment V) : P.behind s (history ++ [a])
      = (P.assignAt s (P.behind s history) a.path a.value).2 := by
  simp [behind]

theorem has_assignAt (hP : P.Lax) (hchecked : P.Checked) {s : Schema} {c : Content}
    (hc : s.Has c) {path : List Text} (hpath : s.IsField path) (v : V) :
    s.Has (P.assignAt s c path v).2 := by
  obtain ⟨field, hfield⟩ := Option.isSome_iff_exists.1 hpath.2
  rw [assignAt_eq hP hc hfield hpath.1]
  cases hv : P.validate field v with
  | none => exact hc
  | some new => exact Schema.has_putAt hc hfield (has_of_validate hP hchecked hv)

/-- **Behind every history of assignments**, the content has the types that are declared. -/
theorem has_behind (hP : P.Lax) (hchecked : P.Checked) {s : Schema}
    {history : List (Assignment V)} (h : ∀ a ∈ history, s.IsField a.path) :
    s.Has (P.behind s history) := by
  induction history using List.reverseRecOn with
  | nil => exact s.has_default
  | append_singleton history a ih =>
    rw [behind_append]
    exact has_assignAt hP hchecked (ih fun b hb => h b (List.mem_append_left _ hb))
      (h a (by simp)) a.value

end Validator

end Oneshot
