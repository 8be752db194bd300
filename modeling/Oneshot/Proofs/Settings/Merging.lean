import Oneshot.Settings.Layer

/-!
# Merging Path by Path

Two layers of settings are merged entry by entry, and where both have a table under a key, these are
merged in turn. What results is described by the paths of keys, without regard to how it is made
(`Entries.Overrides`): a value of the upper layer stands, a table of the upper layer stands where
the lower one has none, what the upper layer does not have is as it is in the lower one, and where
both have a table, the new keys come behind those of the lower one. This leaves no choice, so that
whatever fits the description is what merging makes, with the order of its keys.

The order matters: that of the triggers is the order in which imports are emitted.

* `Entries.keys_merge`: the keys of a merged table.
* `Entries.overrides_merge`: merging overrides path by path.
* `Entries.Overrides.unique`: nothing else does.
* `Entries.merge_pathwise`: both, and that empty layers and layers which are there already change
  nothing.
-/

namespace Oneshot

/-! ### Paths of keys -/

/-- The value to which a path of keys leads. -/
def Value.reach? : Value → List Text → Option Value
  | v, [] => some v
  | .table entries, key :: rest => (Entries.find? key entries).bind (·.reach? rest)
  | _, _ :: _ => none

namespace Entries

variable {lower upper merged merged' entries below inner : Entries} {key : Text} {v : Value}
  {path rest : List Text}

/-- The value to which a path of keys leads; the empty path leads to the whole table. -/
def reach? (entries : Entries) (path : List Text) : Option Value :=
  (Value.table entries).reach? path

@[simp] theorem reach?_nil (entries : Entries) : entries.reach? [] = some (.table entries) := rfl

theorem reach?_cons (entries : Entries) (key : Text) (rest : List Text) :
    entries.reach? (key :: rest) = (entries.find? key).bind (·.reach? rest) := rfl

/-- A path of one key leads to what stands under the key. -/
@[simp] theorem reach?_singleton (entries : Entries) (key : Text) :
    entries.reach? [key] = entries.find? key := by
  rw [reach?_cons]
  cases entries.find? key with
  | none => rfl
  | some v => cases v <;> rfl

/-- What is a table is one table only. -/
theorem table_unique {found : Option Value} (h : found = some (.table below))
    (h' : found = some (.table inner)) : below = inner :=
  Value.table.inj (Option.some.inj (h.symm.trans h'))

/-- Only from a table, paths lead to a table. -/
theorem exists_table_of_reach? (h : v.reach? path = some (.table inner)) :
    ∃ entries, v = .table entries := by
  cases v with
  | table entries => exact ⟨entries, rfl⟩
  | _ => cases path <;> simp [Value.reach?] at h

/-- A path whose first part leads to a table goes on in that table. -/
theorem reach?_append (h : entries.reach? path = some (.table inner)) :
    entries.reach? (path ++ rest) = inner.reach? rest := by
  induction path generalizing entries with
  | nil =>
    obtain rfl := table_unique (reach?_nil entries) h
    rfl
  | cons key path ih =>
    rw [reach?_cons] at h
    obtain ⟨v, hfind, hv⟩ := Option.bind_eq_some_iff.1 h
    obtain ⟨entries, rfl⟩ := exists_table_of_reach? hv
    rw [List.cons_append, reach?_cons, hfind, Option.bind_some]
    exact ih hv

/-- In an empty table there is no table but itself. -/
theorem eq_nil_of_reach? (h : reach? [] path = some (.table inner)) : inner = [] := by
  cases path with
  | nil => exact table_unique h (reach?_nil [])
  | cons key path => simp [reach?_cons, find?] at h

/-! ### Tables with one entry to a key -/

@[simp] theorem keys_cons (key : Text) (v : Value) (entries : Entries) :
    keys ((key, v) :: entries) = key :: keys entries := rfl

/-- There is one entry to a key, in the table and in all tables below it. -/
inductive Keyed : Entries → Prop
  | intro {entries : Entries} (nodup : (keys entries).Nodup)
    (inner : ∀ key inner, (key, Value.table inner) ∈ entries → Keyed inner) : Keyed entries

theorem Keyed.nodup (h : Keyed entries) : (keys entries).Nodup := by
  cases h with
  | intro nodup => exact nodup

theorem mem_of_find? (h : entries.find? key = some v) : (key, v) ∈ entries := by
  induction entries with
  | nil => simp [find?] at h
  | cons e entries ih =>
    obtain ⟨k, v'⟩ := e
    rw [find?] at h
    split at h
    · next hk =>
      obtain rfl := Option.some.inj h
      simp [hk]
    · exact List.mem_cons_of_mem _ (ih h)

theorem find?_eq_none_iff : entries.find? key = none ↔ key ∉ keys entries := by
  induction entries with
  | nil => simp [find?, keys]
  | cons e entries ih =>
    obtain ⟨k, v⟩ := e
    by_cases hk : k = key
    · simp [find?, keys, hk]
    · simpa [find?, keys, hk, Ne.symm hk] using ih

/-- In a table with one entry to a key, an entry is found. -/
theorem find?_of_mem (hnodup : (keys entries).Nodup) (h : (key, v) ∈ entries) :
    entries.find? key = some v := by
  induction entries with
  | nil => simp at h
  | cons e entries ih =>
    obtain ⟨k, v'⟩ := e
    simp only [keys, List.map_cons, List.nodup_cons] at hnodup
    rcases List.mem_cons.1 h with heq | hmem
    · obtain ⟨rfl, rfl⟩ := Prod.mk.inj heq
      simp [find?]
    · have hk : k ≠ key := by
        rintro rfl
        exact hnodup.1 (List.mem_map_of_mem hmem)
      rw [find?, if_neg hk]
      exact ih hnodup.2 hmem

theorem Keyed.of_find? (h : Keyed entries) (hfind : entries.find? key = some (.table inner)) :
    Keyed inner := by
  cases h with
  | intro _ hinner => exact hinner key inner (mem_of_find? hfind)

/-- Every table to which a path leads has one entry to a key. -/
theorem Keyed.of_reach? (h : Keyed entries) (hreach : entries.reach? path = some (.table inner)) :
    Keyed inner := by
  induction path generalizing entries with
  | nil =>
    obtain rfl := table_unique (reach?_nil entries) hreach
    exact h
  | cons key path ih =>
    rw [reach?_cons] at hreach
    obtain ⟨v, hfind, hv⟩ := Option.bind_eq_some_iff.1 hreach
    obtain ⟨entries, rfl⟩ := exists_table_of_reach? hv
    exact ih (h.of_find? hfind) hv

theorem keyed_nil : Keyed [] :=
  .intro List.nodup_nil fun _ _ h => by simp at h

/-- One more entry, under a new key. -/
theorem Keyed.cons (h : Keyed entries) (hnew : key ∉ keys entries)
    (hv : ∀ inner, v = .table inner → Keyed inner) : Keyed ((key, v) :: entries) := by
  refine .intro (List.nodup_cons.2 ⟨hnew, h.nodup⟩) fun key' inner hmem => ?_
  rcases List.mem_cons.1 hmem with heq | hmem
  · exact hv inner (Prod.mk.inj heq).2.symm
  · cases h with
    | intro _ hinner => exact hinner key' inner hmem

theorem Keyed.cons_value (h : Keyed entries) (hnew : key ∉ keys entries)
    (hv : ∀ inner, v ≠ .table inner) : Keyed ((key, v) :: entries) :=
  h.cons hnew fun inner heq => absurd heq (hv inner)

theorem Keyed.cons_table (h : Keyed entries) (hnew : key ∉ keys entries) (hinner : Keyed inner) :
    Keyed ((key, .table inner) :: entries) :=
  h.cons hnew fun _ heq => Value.table.inj heq ▸ hinner

/-- A table is told by the order of its keys and by what stands under each. -/
theorem eq_of_find? {entries' : Entries} (hnodup : (keys entries).Nodup)
    (hkeys : keys entries = keys entries')
    (hfind : ∀ key, entries.find? key = entries'.find? key) : entries = entries' := by
  induction entries generalizing entries' with
  | nil =>
    rw [keys, List.map_nil, eq_comm, keys, List.map_eq_nil_iff] at hkeys
    exact hkeys.symm
  | cons e entries ih =>
    obtain ⟨k, v⟩ := e
    rcases entries' with _ | ⟨⟨k', v'⟩, entries'⟩
    · simp [keys] at hkeys
    obtain ⟨rfl, hrest⟩ : k = k' ∧ keys entries = keys entries' := by
      simpa [keys] using hkeys
    obtain ⟨hnot, hnodup⟩ : k ∉ keys entries ∧ (keys entries).Nodup := by
      simpa [keys] using hnodup
    obtain rfl : v = v' := by simpa [find?] using hfind k
    congr 1
    refine ih hnodup hrest fun key => ?_
    by_cases hk : k = key
    · subst hk
      rw [find?_eq_none_iff.2 hnot, find?_eq_none_iff.2 (hrest ▸ hnot)]
    · simpa [find?, hk] using hfind key

end Entries

/-! ### One level -/

/-- Where both values are tables, these are merged. -/
theorem Value.laidOver_table (lower upper : Entries) :
    laidOver (some (.table lower)) (.table upper) = .table (lower.merge upper) := by
  simp [laidOver, Entries.merge]

/-- Anywhere else the upper value stands. -/
theorem Value.laidOver_eq_right {current : Option Value} {value : Value}
    (h : ∀ lower upper, current = some (.table lower) → value ≠ .table upper) :
    laidOver current value = value := by
  cases value with
  | table upper =>
    cases current with
    | none => simp [laidOver]
    | some v =>
      cases v with
      | table lower => exact absurd rfl (h lower upper rfl)
      | _ => simp [laidOver]
  | _ => simp [laidOver]

namespace Entries

variable {lower upper merged merged' below inner : Entries} {key : Text} {value : Value}
  {path rest : List Text}

/-- Under a key of the upper table, its value lies over that of the lower one. -/
theorem find?_merge_of_some (hupper : (keys upper).Nodup) (h : upper.find? key = some value) :
    (lower.merge upper).find? key = some (Value.laidOver (lower.find? key) value) := by
  rw [find?_merge _ _ hupper, h]

/-- Under any other key, the lower table is as it is. -/
theorem find?_merge_of_none (hupper : (keys upper).Nodup) (h : upper.find? key = none) :
    (lower.merge upper).find? key = lower.find? key := by
  rw [find?_merge _ _ hupper, h]

/-- **The keys of a merged table**: those of the lower one, and behind them the new ones. -/
theorem keys_merge (lower : Entries) (hupper : (keys upper).Nodup) :
    keys (lower.merge upper) = keys lower ++ (keys upper).filter (· ∉ keys lower) := by
  induction upper generalizing lower with
  | nil => simp [keys]
  | cons e upper ih =>
    obtain ⟨k, v⟩ := e
    rw [keys_cons, List.nodup_cons] at hupper
    rw [merge_cons, ih _ hupper.2, keys_cons]
    by_cases hk : k ∈ keys lower
    · rw [keys_put hk, List.filter_cons_of_neg (by simpa using hk)]
    · have hkeys : keys (lower ++ [(k, Value.laidOver (lower.find? k) v)]) = keys lower ++ [k] := by
        simp [keys]
      have hnew : (keys upper).filter (· ∉ keys lower ++ [k])
          = (keys upper).filter (· ∉ keys lower) := by
        refine List.filter_congr fun k' hk' => ?_
        have hne : k' ≠ k := by
          rintro rfl
          exact hupper.1 hk'
        simp [hne]
      rw [put_eq_append hk, hkeys, hnew, List.filter_cons_of_pos (by simpa using hk),
        List.append_assoc, List.singleton_append]

/-! ### All levels -/

/-- **Overriding path by path**: what it means that `merged` results where `upper` lies over
`lower`. -/
structure Overrides (lower upper merged : Entries) : Prop where
  /-- A value of the upper layer that is no table stands. -/
  value : ∀ path value, upper.reach? path = some value → (∀ inner, value ≠ .table inner) →
    merged.reach? path = some value
  /-- A table of the upper layer stands as it is where the lower one has none. -/
  table : ∀ path inner, upper.reach? path = some (.table inner) →
    (∀ below, lower.reach? path ≠ some (.table below)) →
    merged.reach? path = some (.table inner)
  /-- Where both have a table and the upper one lacks a key, everything behind that key is as it is
  in the lower layer. -/
  lacking : ∀ (path : List Text) (below inner : Entries) (key : Text) (rest : List Text),
    lower.reach? path = some (.table below) → upper.reach? path = some (.table inner) →
    inner.find? key = none →
    merged.reach? (path ++ key :: rest) = lower.reach? (path ++ key :: rest)
  /-- Where both have a table there is one, with the keys of the lower one in their order and the
  new keys of the upper one, in their order, behind them. -/
  order : ∀ (path : List Text) (below inner : Entries),
    lower.reach? path = some (.table below) → upper.reach? path = some (.table inner) →
    ∃ table : Entries, merged.reach? path = some (.table table) ∧
      table.keys = below.keys ++ inner.keys.filter (· ∉ below.keys)

/-- Where both layers have a table, the merged one has these two merged. -/
theorem reach?_merge_table (hupper : Keyed upper) (hbelow : lower.reach? path = some (.table below))
    (hinner : upper.reach? path = some (.table inner)) :
    (lower.merge upper).reach? path = some (.table (below.merge inner)) := by
  induction path generalizing lower upper with
  | nil =>
    obtain rfl := table_unique (reach?_nil lower) hbelow
    obtain rfl := table_unique (reach?_nil upper) hinner
    rfl
  | cons key path ih =>
    rw [reach?_cons] at hbelow hinner ⊢
    obtain ⟨v, hv, hbelow⟩ := Option.bind_eq_some_iff.1 hbelow
    obtain ⟨w, hw, hinner⟩ := Option.bind_eq_some_iff.1 hinner
    obtain ⟨lower', rfl⟩ := exists_table_of_reach? hbelow
    obtain ⟨upper', rfl⟩ := exists_table_of_reach? hinner
    rw [find?_merge_of_some hupper.nodup hw, hv, Value.laidOver_table, Option.bind_some]
    exact ih (hupper.of_find? hw) hbelow hinner

/-- Where not both layers have a table, what the upper one has stands. -/
theorem reach?_merge_of_upper (hupper : Keyed upper) (h : upper.reach? path = some value)
    (hnot : ∀ below inner, lower.reach? path = some (.table below) → value ≠ .table inner) :
    (lower.merge upper).reach? path = some value := by
  induction path generalizing lower upper with
  | nil => exact absurd (Option.some.inj h).symm (hnot lower upper rfl)
  | cons key path ih =>
    rw [reach?_cons] at h ⊢
    obtain ⟨w, hw, h⟩ := Option.bind_eq_some_iff.1 h
    rw [find?_merge_of_some hupper.nodup hw, Option.bind_some]
    by_cases hboth : ∃ lower' upper', lower.find? key = some (.table lower') ∧ w = .table upper'
    · obtain ⟨lower', upper', hv, rfl⟩ := hboth
      rw [hv, Value.laidOver_table]
      refine ih (hupper.of_find? hw) h fun below inner hbelow => hnot below inner ?_
      rw [reach?_cons, hv]
      exact hbelow
    · rw [Value.laidOver_eq_right fun lower' upper' hv hw => hboth ⟨lower', upper', hv, hw⟩]
      exact h

/-- **Merging overrides path by path.** -/
theorem overrides_merge (lower : Entries) (hupper : Keyed upper) :
    Overrides lower upper (lower.merge upper) where
  value path value h hnot := reach?_merge_of_upper hupper h fun _ inner _ => hnot inner
  table path inner h hnot := reach?_merge_of_upper hupper h fun below _ hbelow =>
    absurd hbelow (hnot below)
  lacking path below inner key rest hbelow hinner hnone := by
    rw [reach?_append (reach?_merge_table hupper hbelow hinner), reach?_append hbelow, reach?_cons,
      reach?_cons, find?_merge_of_none (hupper.of_reach? hinner).nodup hnone]
  order path below inner hbelow hinner :=
    ⟨_, reach?_merge_table hupper hbelow hinner, keys_merge below (hupper.of_reach? hinner).nodup⟩

namespace Overrides

/-- Below a key under which both layers have a table, the one overrides the other. -/
theorem exists_inner (h : Overrides lower upper merged)
    (hbelow : lower.find? key = some (.table below))
    (hinner : upper.find? key = some (.table inner)) :
    ∃ table, merged.find? key = some (.table table) ∧ Overrides below inner table := by
  have hreach : ∀ {entries table : Entries}, entries.find? key = some (.table table) →
      ∀ path, entries.reach? (key :: path) = table.reach? path := by
    intro entries table hfind path
    rw [reach?_cons, hfind]
    rfl
  obtain ⟨table, hmerged, -⟩ := h.order [key] below inner (by simpa using hbelow)
    (by simpa using hinner)
  rw [reach?_singleton] at hmerged
  refine ⟨table, hmerged, ?_, ?_, ?_, ?_⟩
  · intro path value hvalue hnot
    rw [← hreach hmerged]
    exact h.value _ value ((hreach hinner path).trans hvalue) hnot
  · intro path inner' htable hnot
    rw [← hreach hmerged]
    refine h.table _ inner' ((hreach hinner path).trans htable) fun below' hbelow' => ?_
    exact hnot below' ((hreach hbelow path).symm.trans hbelow')
  · intro path below' inner' key' rest hbelow' hinner' hnone
    rw [← hreach hmerged, ← hreach hbelow]
    exact h.lacking (key :: path) below' inner' key' rest ((hreach hbelow path).trans hbelow')
      ((hreach hinner path).trans hinner') hnone
  · intro path below' inner' hbelow' hinner'
    rw [← hreach hmerged]
    exact h.order _ below' inner' ((hreach hbelow path).trans hbelow')
      ((hreach hinner path).trans hinner')

/-- The keys of what results. -/
theorem keys_eq (h : Overrides lower upper merged) :
    keys merged = keys lower ++ (keys upper).filter (· ∉ keys lower) := by
  obtain ⟨table, htable, hkeys⟩ := h.order [] lower upper rfl rfl
  obtain rfl := table_unique (reach?_nil merged) htable
  exact hkeys

theorem nodup (h : Overrides lower upper merged) (hlower : (keys lower).Nodup)
    (hupper : (keys upper).Nodup) : (keys merged).Nodup := by
  rw [h.keys_eq, List.nodup_append]
  refine ⟨hlower, hupper.filter _, ?_⟩
  rintro key hkey _ hnew rfl
  simp only [List.mem_filter, decide_eq_true_eq] at hnew
  exact hnew.2 hkey

/-- **Nothing else overrides path by path**: the description leaves no choice. -/
theorem unique (hlower : Keyed lower) (hupper : Keyed upper) (h : Overrides lower upper merged)
    (h' : Overrides lower upper merged') : merged = merged' := by
  induction hupper generalizing lower merged merged' with
  | @intro upper hnodup hinner ih =>
    refine eq_of_find? (h.nodup hlower.nodup hnodup) (h.keys_eq.trans h'.keys_eq.symm) fun key => ?_
    rw [← reach?_singleton, ← reach?_singleton]
    cases hkey : upper.find? key with
    | none =>
      exact (h.lacking [] lower upper key [] rfl rfl hkey).trans
        (h'.lacking [] lower upper key [] rfl rfl hkey).symm
    | some v =>
      rw [← reach?_singleton] at hkey
      by_cases hv : ∃ inner, v = .table inner
      · obtain ⟨inner, rfl⟩ := hv
        by_cases hbelow : ∃ below, lower.reach? [key] = some (.table below)
        · -- both layers have a table here, and one level further down nothing is left open
          obtain ⟨below, hbelow⟩ := hbelow
          rw [reach?_singleton] at hbelow hkey
          obtain ⟨table, htable, hover⟩ := h.exists_inner hbelow hkey
          obtain ⟨table', htable', hover'⟩ := h'.exists_inner hbelow hkey
          rw [reach?_singleton, reach?_singleton, htable, htable',
            ih key inner (mem_of_find? hkey) (hlower.of_find? hbelow) hover hover']
        · have hnot : ∀ below, lower.reach? [key] ≠ some (.table below) := fun below hb =>
            hbelow ⟨below, hb⟩
          rw [h.table [key] inner hkey hnot, h'.table [key] inner hkey hnot]
      · have hnot : ∀ inner, v ≠ .table inner := fun inner hinner => hv ⟨inner, hinner⟩
        rw [h.value [key] v hkey hnot, h'.value [key] v hkey hnot]

/-- Once overridden, always overridden: what results has all that the upper layer has. -/
theorem again (h : Overrides lower upper merged) : Overrides merged upper merged where
  value := h.value
  table path inner htable hnot := by
    by_cases hbelow : ∃ below, lower.reach? path = some (.table below)
    · obtain ⟨below, hbelow⟩ := hbelow
      obtain ⟨table, hmerged, -⟩ := h.order path below inner hbelow htable
      exact absurd hmerged (hnot table)
    · exact h.table path inner htable fun below hb => hbelow ⟨below, hb⟩
  lacking _ _ _ _ _ _ _ _ := rfl
  order path table inner hmerged hinner := by
    have hall : ∀ key ∈ inner.keys, key ∈ table.keys := by
      by_cases hbelow : ∃ below, lower.reach? path = some (.table below)
      · obtain ⟨below, hbelow⟩ := hbelow
        obtain ⟨table', htable', hkeys⟩ := h.order path below inner hbelow hinner
        obtain rfl := table_unique hmerged htable'
        intro key hkey
        rw [hkeys, List.mem_append, List.mem_filter]
        by_cases hold : key ∈ keys below
        · exact .inl hold
        · exact .inr ⟨hkey, by simpa using hold⟩
      · have htable := h.table path inner hinner fun below hb => hbelow ⟨below, hb⟩
        obtain rfl := table_unique hmerged htable
        exact fun _ hkey => hkey
    refine ⟨table, hmerged, ?_⟩
    rw [List.filter_eq_nil_iff.2 fun key hkey => by simpa using hall key hkey, List.append_nil]

/-- An empty table is overridden by the whole of the upper layer. -/
theorem of_nil_left (entries : Entries) : Overrides [] entries entries where
  value _ _ h _ := h
  table _ _ h _ := h
  lacking path below inner key rest hbelow hinner hnone := by
    rw [reach?_append hinner, reach?_append hbelow, reach?_cons, reach?_cons, hnone]
    obtain rfl := eq_nil_of_reach? hbelow
    rfl
  order path below inner hbelow hinner := by
    obtain rfl := eq_nil_of_reach? hbelow
    refine ⟨inner, hinner, (List.filter_eq_self.2 fun key _ => ?_).symm⟩
    simp [Entries.keys]

/-- A layer under itself stays as it is. -/
theorem of_self (entries : Entries) : Overrides entries entries entries :=
  (of_nil_left entries).again

end Overrides

/-- A merged table has one entry to a key too. -/
theorem Keyed.merge (hlower : Keyed lower) (hupper : Keyed upper) : Keyed (lower.merge upper) := by
  induction hupper generalizing lower with
  | @intro upper hnodup hinner ih =>
    have hmerged := (overrides_merge lower (.intro hnodup hinner)).nodup hlower.nodup hnodup
    refine .intro hmerged fun key table hmem => ?_
    have hfind := find?_of_mem hmerged hmem
    cases hkey : upper.find? key with
    | none =>
      rw [find?_merge_of_none hnodup hkey] at hfind
      exact hlower.of_find? hfind
    | some v =>
      rw [find?_merge_of_some hnodup hkey] at hfind
      by_cases hboth : ∃ below inner, lower.find? key = some (.table below) ∧ v = .table inner
      · obtain ⟨below, inner, hbelow, rfl⟩ := hboth
        rw [hbelow, Value.laidOver_table] at hfind
        obtain rfl := Value.table.inj (Option.some.inj hfind)
        exact ih key inner (mem_of_find? hkey) (hlower.of_find? hbelow)
      · rw [Value.laidOver_eq_right fun below inner hb hv => hboth ⟨below, inner, hb, hv⟩] at hfind
        obtain rfl := Option.some.inj hfind
        exact hinner key table (mem_of_find? hkey)

/-- **Merging is overriding path by path, and it is determined by that.** Therefore an empty layer
changes nothing, on either side, and neither does a layer that is there already, be it alone or
within what has been merged; the order of the keys included. -/
theorem merge_pathwise (hlower : Keyed lower) (hupper : Keyed upper) :
    Overrides lower upper (lower.merge upper) ∧
      (∀ merged, Overrides lower upper merged → merged = lower.merge upper) ∧
      merge [] lower = lower ∧ lower.merge [] = lower ∧ lower.merge lower = lower ∧
      (lower.merge upper).merge upper = lower.merge upper := by
  have hover := overrides_merge lower hupper
  have hmerged : Keyed (lower.merge upper) := hlower.merge hupper
  refine ⟨hover, fun merged h => h.unique hlower hupper hover, ?_, merge_nil lower, ?_, ?_⟩
  · exact (overrides_merge [] hlower).unique keyed_nil hlower (.of_nil_left lower)
  · exact (overrides_merge lower hlower).unique hlower hlower (.of_self lower)
  · exact (overrides_merge _ hupper).unique hmerged hupper hover.again

/-- Layers whose shapes differ: a table against a value and against nothing, a value against a
table, and tables with keys in another order. -/
theorem merge_pathwise_shapes :
    let lower : Entries := [("a", .int 1),
      ("t", .table [("x", .int 1), ("y", .table [("z", .null)])]),
      ("s", .table [("k", .bool true)])]
    let upper : Entries := [("n", .table [("b", .int 2)]), ("s", .list []),
      ("t", .table [("y", .table [("w", .null), ("z", .int 3)]), ("x", .table [])])]
    let merged : Entries := [("a", .int 1),
      ("t", .table [("x", .table []), ("y", .table [("z", .int 3), ("w", .null)])]),
      ("s", .list []), ("n", .table [("b", .int 2)])]
    Keyed lower ∧ Keyed upper ∧ Overrides lower upper merged ∧ merged.merge upper = merged := by
  intro lower upper merged
  have hlower : Keyed lower := by
    refine ((keyed_nil.cons_table (by decide) ?_).cons_table (by decide) ?_).cons_value (by decide)
      (by simp)
    · exact keyed_nil.cons_value (by decide) (by simp)
    · refine (keyed_nil.cons_table (by decide) ?_).cons_value (by decide) (by simp)
      exact keyed_nil.cons_value (by decide) (by simp)
  have hupper : Keyed upper := by
    refine ((keyed_nil.cons_table (by decide) ?_).cons_value (by decide) (by simp)).cons_table
      (by decide) ?_
    · refine (keyed_nil.cons_table (by decide) keyed_nil).cons_table (by decide) ?_
      exact (keyed_nil.cons_value (by decide) (by simp)).cons_value (by decide) (by simp)
    · exact keyed_nil.cons_value (by decide) (by simp)
  have hmerged : lower.merge upper = merged := rfl
  obtain ⟨hover, -, -, -, -, hagain⟩ := merge_pathwise hlower hupper
  rw [hmerged] at hover hagain
  exact ⟨hlower, hupper, hover, hagain⟩

end Entries

end Oneshot
