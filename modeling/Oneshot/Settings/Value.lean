import Oneshot.Text.Basic

/-!
# Values

The values of a settings document before they are checked: a document is a table, its sections are
tables of values. Tables keep the order of their keys, because the order of the trigger table is
the order in which imports are emitted.

- `put_eq_append` and `keys_put`: a new key goes to the end, a known one keeps its place.
- `find?_put`: what a table holds after an entry has been put.
-/

namespace Oneshot

/-- A binary floating-point number, as far as a switch looks at it. -/
inductive Real where
  /-- The number is a whole one. -/
  | whole (n : Int)
  /-- The number is finite and not whole. -/
  | fraction
  /-- An infinity, or no number. -/
  | notFinite
deriving DecidableEq, Repr

namespace Real

/-- The whole number nearest to `num / den`; a tie goes to the even neighbour. -/
def roundDiv (num den : Nat) : Nat :=
  let q := num / den
  let r := num % den
  if 2 * r < den then q else if den < 2 * r then q + 1 else q + q % 2

/-- The exponent of two of the last place that a double keeps of `num / den`: 53 bits, or fewer
where the number is smaller than the normal ones. -/
def lastPlace (num den : Nat) : Int :=
  let guess : Int := (Nat.log2 num : Int) - Nat.log2 den - 52
  let scaled := num * Nat.pow 2 (-guess).toNat / (den * Nat.pow 2 guess.toNat)
  let place := if Nat.pow 2 52 ≤ scaled then guess else guess - 1
  if place < -1074 then -1074 else place

/-- The double nearest to the positive number `num / den`. -/
def ofRatio (num den : Nat) : Real :=
  let place := lastPlace num den
  let up := Nat.pow 2 place.toNat
  let down := Nat.pow 2 (-place).toNat
  let units := roundDiv (num * down) (den * up)
  if 0 ≤ place then if units * up < Nat.pow 2 1024 then .whole (units * up : Nat) else .notFinite
  else if units % down = 0 then .whole (units / down : Nat)
  else .fraction

/-- The double nearest to `mantissa * 10 ^ exponent`, with its sign. Numbers far outside the range
of doubles are told by their number of digits. -/
def ofDecimal (negative : Bool) (mantissa : Nat) (exponent : Int) : Real :=
  let magnitude : Int := (toString mantissa).length + exponent
  let size :=
    if mantissa = 0 ∨ magnitude < -330 then .whole 0
    else if 310 < magnitude then .notFinite
    else if 0 ≤ exponent then ofRatio (mantissa * Nat.pow 10 exponent.toNat) 1
    else ofRatio mantissa (Nat.pow 10 (-exponent).toNat)
  match size with
  | .whole n => .whole (if negative then -n else n)
  | other => other

end Real

/-- A value of a document. -/
inductive Value where
  | null
  | bool (b : Bool)
  | int (n : Int)
  | real (x : Real)
  | text (s : Text)
  /-- A date, a time or both. Nothing in the settings takes one. -/
  | moment
  | list (items : List Value)
  | table (entries : List (Text × Value))
deriving Repr, Inhabited

/-- The entries of a table, in order, with one entry to a key. -/
abbrev Entries := List (Text × Value)

namespace Entries

/-- The value under a key. -/
def find? (key : Text) : Entries → Option Value
  | [] => none
  | (k, v) :: rest => if k = key then some v else find? key rest

/-- The entries with `value` under `key`: in the place of the key if it is there, else at the end.
-/
def put (key : Text) (value : Value) : Entries → Entries
  | [] => [(key, value)]
  | (k, v) :: rest => if k = key then (k, value) :: rest else (k, v) :: put key value rest

/-- The keys in order. -/
def keys (entries : Entries) : List Text :=
  entries.map Prod.fst

theorem find?_put (key other : Text) (value : Value) (entries : Entries) :
    find? other (put key value entries)
      = if key = other then some value else find? other entries := by
  induction entries with
  | nil => simp [put, find?]
  | cons e rest ih =>
    obtain ⟨k, v⟩ := e
    by_cases hk : k = key
    · subst hk
      by_cases ho : k = other <;> simp [put, find?, ho]
    · by_cases ho : k = other
      · subst ho
        have : key ≠ k := fun h => hk h.symm
        simp [put, find?, hk, this]
      · simp [put, find?, hk, ho, ih]

/-- A known key keeps its place. -/
theorem keys_put {key : Text} {entries : Entries} (h : key ∈ keys entries) (value : Value) :
    keys (put key value entries) = keys entries := by
  induction entries with
  | nil => simp [keys] at h
  | cons e rest ih =>
    obtain ⟨k, v⟩ := e
    by_cases hk : k = key
    · simp [put, hk, keys]
    · have hr : key ∈ keys rest := by
        simp only [keys, List.map_cons, List.mem_cons] at h
        exact h.resolve_left fun e => hk e.symm
      simpa [put, hk, keys] using ih hr

/-- A new key goes to the end. -/
theorem put_eq_append {key : Text} {entries : Entries} (h : key ∉ keys entries) (value : Value) :
    put key value entries = entries ++ [(key, value)] := by
  induction entries with
  | nil => rfl
  | cons e rest ih =>
    obtain ⟨k, v⟩ := e
    simp only [keys, List.map_cons, List.mem_cons, not_or] at h
    have hk : k ≠ key := fun e => h.1 e.symm
    simp [put, hk, ih h.2]

end Entries

end Oneshot
