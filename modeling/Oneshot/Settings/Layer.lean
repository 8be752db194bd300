import Oneshot.Settings.Value

/-!
# Layers of settings

Settings come in layers, and a later layer overrides an earlier one path by path: where both hold a
table, the tables are merged; anywhere else the later value stands.

- `find?_merge`: what the merged table holds under a key.
-/

namespace Oneshot

namespace Value

mutual

/-- The value in force where `value` lies over what is there already. -/
def laidOver (current : Option Value) (value : Value) : Value :=
  match value with
  | .table upper =>
    match current with
    | some (.table lower) => .table (mergeEntries lower upper)
    | _ => .table upper
  | other => other
termination_by structural value

/-- The entries of `lower` overridden by those of `upper`, one after the other. -/
def mergeEntries (lower : Entries) (upper : List (Text × Value)) : Entries :=
  match upper with
  | [] => lower
  | entry :: rest =>
    mergeEntries (lower.put entry.1 (overEntry (lower.find? entry.1) entry)) rest
termination_by structural upper

/-- The value in force where an entry of the upper layer lies over what is there already. -/
def overEntry (current : Option Value) (entry : Text × Value) : Value :=
  match entry with
  | (_, value) => laidOver current value
termination_by structural entry

end

end Value

namespace Entries

/-- The table that results when `upper` overrides `lower`. -/
def merge (lower upper : Entries) : Entries :=
  Value.mergeEntries lower upper

@[simp] theorem merge_nil (lower : Entries) : merge lower [] = lower := by
  simp [merge, Value.mergeEntries]

theorem merge_cons (lower : Entries) (key : Text) (value : Value) (rest : Entries) :
    merge lower ((key, value) :: rest)
      = merge (lower.put key (Value.laidOver (lower.find? key) value)) rest := by
  simp [merge, Value.mergeEntries, Value.overEntry]

/-- Under a key the merged table holds the upper value over the lower one. -/
theorem find?_merge (lower upper : Entries) (hk : (keys upper).Nodup) (key : Text) :
    find? key (merge lower upper)
      = match find? key upper with
        | some value => some (Value.laidOver (find? key lower) value)
        | none => find? key lower := by
  induction upper generalizing lower with
  | nil => simp [find?]
  | cons e rest ih =>
    obtain ⟨k, v⟩ := e
    simp only [keys, List.map_cons, List.nodup_cons] at hk
    rw [merge_cons, ih _ hk.2]
    by_cases h : k = key
    · subst h
      have hn : find? k rest = none := by
        have hmem := hk.1
        clear ih hk
        induction rest with
        | nil => rfl
        | cons e rest ihr =>
          obtain ⟨k', v'⟩ := e
          simp only [List.map_cons, List.mem_cons, not_or] at hmem
          have : k' ≠ k := fun h => hmem.1 h.symm
          simp [find?, this, ihr hmem.2]
      simp [hn, find?, find?_put]
    · simp [find?, h, find?_put]

end Entries

end Oneshot
