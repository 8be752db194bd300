import Mathlib.Data.List.TakeWhile
import Mathlib.Order.Bounds.Basic
import Mathlib.Order.Nat
import Oneshot.Proofs.Program.Unwrap

/-!
# The Wrapper in an Arbitrary Program

`unwrap` takes any text. It may hold the header and the footer many times, in any order, or not at
all. What is read out of it can be said without a search, by places among its lines: the wrapper
opens at the first place of the header, and it closes at the last place of the footer, if that one
stands behind the header.

The search for the footer goes through the lines behind the first header only. Its places there are
those in the whole program, counted from behind the header (`mem_places_drop`), and the last of them
is the last one in the program (`isGreatest_places_drop`). So a footer in front of the header plays
no part.

* `places`, `WrapperAt`, `HoldsWrapper`: the places of some lines in a program, the two at which its
  wrapper stands, and whether there is a wrapper.
* `beforeLast?_eq_some_of_isGreatest`, `exists_isGreatest_of_mem_places`: the search for the footer
  stops at its last place, and it stops if there is a place.
* `unwrap_eq_some_iff_wrapperAt`: what is read are the lines between the two places.
* `unwrap_between_places`: the same, and that it is read from exactly the programs that hold a
  wrapper.
-/

namespace Oneshot

namespace Program

variable {policy : Policy} {program line : Text} {part final lines before body : List Text}
  {i n opening closing : ℕ}

/-! ### Places -/

/-- The places at which `part` stands among the lines, line after line. -/
def places (part lines : List Text) : Set ℕ :=
  {i | part <+: lines.drop i}

theorem mem_places : i ∈ places part lines ↔ part <+: lines.drop i :=
  Iff.rfl

theorem mem_places_singleton : i ∈ places [line] lines ↔ lines[i]? = some line := by
  rw [mem_places, ← List.head?_drop]
  cases lines.drop i with
  | nil => simp
  | cons first rest => simp [List.cons_prefix_cons, eq_comm]

/-- Behind some lines the places are those behind them in the whole. -/
theorem mem_places_drop : i ∈ places part (lines.drop n) ↔ n + i ∈ places part lines := by
  rw [mem_places, mem_places, List.drop_drop]

/-- The last place behind some lines is the last place in the whole. -/
theorem isGreatest_places_drop :
    IsGreatest (places part (lines.drop n)) i ↔ IsGreatest (places part lines) (n + i) := by
  constructor
  · rintro ⟨hmem, hlast⟩
    refine ⟨mem_places_drop.1 hmem, fun j hj => ?_⟩
    obtain hlt | ⟨k, rfl⟩ := (Nat.lt_or_ge j n).imp_right Nat.exists_eq_add_of_le
    · omega
    · have := hlast (mem_places_drop.2 hj)
      omega
  · rintro ⟨hmem, hlast⟩
    refine ⟨mem_places_drop.2 hmem, fun j hj => ?_⟩
    have := hlast (mem_places_drop.1 hj)
    omega

/-! ### The last place -/

/-- Where nothing is found, there is no place. -/
theorem notMem_places_of_beforeLast?_eq_none (hfinal : final ≠ [])
    (h : beforeLast? final lines = none) : i ∉ places final lines := by
  induction lines generalizing i with
  | nil => simpa [mem_places] using hfinal
  | cons line lines ih =>
    rw [beforeLast?] at h
    split at h
    · simp at h
    · next hrest =>
      cases i with
      | zero => simpa [mem_places] using h
      | succ i => exact ih hrest

/-- No place is behind the one that is found. -/
theorem le_length_of_beforeLast? (hfinal : final ≠ []) (h : beforeLast? final lines = some before)
    (hi : i ∈ places final lines) : i ≤ before.length := by
  induction lines generalizing i before with
  | nil => exact absurd hi (by simpa [mem_places] using hfinal)
  | cons line lines ih =>
    rw [beforeLast?] at h
    split at h
    · next before' hrest =>
      obtain rfl := Option.some.inj h
      cases i with
      | zero => exact Nat.zero_le _
      | succ i => exact Nat.succ_le_succ (ih hrest hi)
    · next hrest =>
      -- nothing is found further behind, so a place can only be the first one
      cases i with
      | zero => exact Nat.zero_le _
      | succ i =>
        have hnot : i ∉ places final lines := notMem_places_of_beforeLast?_eq_none hfinal hrest
        exact absurd hi hnot

/-- What is found stands at the last place. -/
theorem isGreatest_of_beforeLast? (hfinal : final ≠ [])
    (h : beforeLast? final lines = some before) :
    IsGreatest (places final lines) before.length := by
  refine ⟨?_, fun i hi => le_length_of_beforeLast? hfinal h hi⟩
  obtain ⟨after, hlines⟩ := eq_append_of_beforeLast? h
  rw [mem_places, hlines, List.drop_left]
  exact List.prefix_append _ _

/-- If there is a place, then there is a last one. -/
theorem exists_isGreatest_of_mem_places (hfinal : final ≠ []) (hi : i ∈ places final lines) :
    ∃ j, IsGreatest (places final lines) j := by
  cases hfound : beforeLast? final lines with
  | none => exact absurd hi (notMem_places_of_beforeLast?_eq_none hfinal hfound)
  | some before => exact ⟨before.length, isGreatest_of_beforeLast? hfinal hfound⟩

/-- The search stops at the last place. -/
theorem beforeLast?_eq_some_of_isGreatest (hfinal : final ≠ [])
    (h : IsGreatest (places final lines) i) : beforeLast? final lines = some (lines.take i) := by
  cases hfound : beforeLast? final lines with
  | none => exact absurd h.1 (notMem_places_of_beforeLast?_eq_none hfinal hfound)
  | some before =>
    obtain ⟨after, hlines⟩ := eq_append_of_beforeLast? hfound
    rw [h.unique (isGreatest_of_beforeLast? hfinal hfound), hlines, List.take_left]

/-! ### The first header -/

theorem indentedFooter_ne_nil (policy : Policy) : indentedFooter policy ≠ [] := by
  simp [indentedFooter, footer]

/-- A program with a header has a first one. -/
theorem exists_isLeast_of_mem_lines (h : header ∈ lines) :
    ∃ opening, IsLeast (places [header] lines) opening := by
  classical
  obtain ⟨i, hi⟩ := List.mem_iff_getElem?.1 h
  have hplace : ∃ i, i ∈ places [header] lines := ⟨i, mem_places_singleton.2 hi⟩
  exact ⟨_, Nat.isLeast_find hplace⟩

/-- The body stands behind the first header, up to the last footer there. -/
theorem unwrap_of_isLeast (h : IsLeast (places [header] (Text.lines program)) opening) :
    unwrap policy program
      = (beforeLast? (indentedFooter policy) ((Text.lines program).drop (opening + 1))).map
          (·.map (Text.dropStart policy.indent)) := by
  obtain ⟨hlt, hheader⟩ := List.getElem?_eq_some_iff.1 (mem_places_singleton.1 h.1)
  have hfront : header ∉ (Text.lines program).take opening := by
    intro hmem
    obtain ⟨i, hi, hi'⟩ := List.mem_take_iff_getElem.1 hmem
    have hle : opening ≤ i :=
      h.2 (mem_places_singleton.2 (List.getElem?_eq_some_iff.2 ⟨by omega, hi'⟩))
    omega
  refine unwrap_of_lines hfront ?_
  rw [← hheader, ← List.drop_eq_getElem_cons hlt, List.take_append_drop]

/-- Nothing is read from a program without a header. -/
theorem unwrap_eq_none_of_notMem (h : header ∉ Text.lines program) :
    unwrap policy program = none := by
  have hdrop : (Text.lines program).dropWhile (· != header) = [] :=
    List.dropWhile_eq_nil_iff.2 fun line hline => by
      simpa using fun e : line = header => h (e ▸ hline)
  rw [unwrap, hdrop]

/-! ### The wrapper -/

/-- The wrapper stands between two places: that of the first header, and that of the last footer,
which is behind it. -/
structure WrapperAt (policy : Policy) (lines : List Text) (opening closing : ℕ) : Prop where
  opens : IsLeast (places [header] lines) opening
  closes : IsGreatest (places (indentedFooter policy) lines) closing
  behind : opening < closing

/-- There is a first header, and a footer at some place behind it. -/
def HoldsWrapper (policy : Policy) (lines : List Text) : Prop :=
  ∃ opening, IsLeast (places [header] lines) opening ∧
    ∃ i ∈ places (indentedFooter policy) lines, opening < i

/-- Of the footers behind the first header one is the last. -/
theorem exists_wrapperAt_iff :
    (∃ opening closing, WrapperAt policy lines opening closing) ↔ HoldsWrapper policy lines := by
  constructor
  · rintro ⟨opening, closing, h⟩
    exact ⟨opening, h.opens, closing, h.closes.1, h.behind⟩
  · rintro ⟨opening, hopens, i, hi, hlt⟩
    obtain ⟨closing, hcloses⟩ := exists_isGreatest_of_mem_places (indentedFooter_ne_nil policy) hi
    exact ⟨opening, closing, hopens, hcloses, Nat.lt_of_lt_of_le hlt (hcloses.2 hi)⟩

/-- The lines between the two places are read, each without one indent. -/
theorem WrapperAt.unwrap_eq (h : WrapperAt policy (Text.lines program) opening closing) :
    unwrap policy program = some ((((Text.lines program).take closing).drop (opening + 1)).map
      (Text.dropStart policy.indent)) := by
  obtain ⟨i, rfl⟩ := Nat.exists_eq_add_of_le (Nat.succ_le_of_lt h.behind)
  rw [unwrap_of_isLeast h.opens, beforeLast?_eq_some_of_isGreatest (indentedFooter_ne_nil policy)
    (isGreatest_places_drop.2 h.closes), Option.map_some, List.take_drop]

/-- What is read comes from a wrapper. -/
theorem exists_wrapperAt_of_unwrap_eq_some (h : unwrap policy program = some body) :
    ∃ opening closing, WrapperAt policy (Text.lines program) opening closing := by
  have hheader : header ∈ Text.lines program := by
    by_contra hnot
    simp [unwrap_eq_none_of_notMem hnot] at h
  obtain ⟨opening, hopens⟩ := exists_isLeast_of_mem_lines hheader
  rw [unwrap_of_isLeast hopens] at h
  obtain ⟨before, hbefore, -⟩ := Option.map_eq_some_iff.1 h
  have hcloses := isGreatest_of_beforeLast? (indentedFooter_ne_nil policy) hbefore
  exact ⟨opening, opening + 1 + before.length, hopens, isGreatest_places_drop.1 hcloses, by omega⟩

/-- What is read are the lines between the first header and the last footer, which is behind it. -/
theorem unwrap_eq_some_iff_wrapperAt :
    unwrap policy program = some body ↔
      ∃ opening closing, WrapperAt policy (Text.lines program) opening closing ∧
        body = (((Text.lines program).take closing).drop (opening + 1)).map
          (Text.dropStart policy.indent) := by
  constructor
  · intro h
    obtain ⟨opening, closing, hat⟩ := exists_wrapperAt_of_unwrap_eq_some h
    exact ⟨opening, closing, hat, Option.some.inj (h.symm.trans hat.unwrap_eq)⟩
  · rintro ⟨opening, closing, hat, rfl⟩
    exact hat.unwrap_eq

/-- Something is read from exactly the programs that hold a wrapper. -/
theorem exists_unwrap_eq_some_iff :
    (∃ body, unwrap policy program = some body) ↔ HoldsWrapper policy (Text.lines program) := by
  rw [← exists_wrapperAt_iff]
  constructor
  · rintro ⟨body, h⟩
    exact exists_wrapperAt_of_unwrap_eq_some h
  · rintro ⟨opening, closing, hat⟩
    exact ⟨_, hat.unwrap_eq⟩

/-- **A body is read from exactly the programs with a footer behind the first header**: the lines
between that header and the last footer, each without one indent. From any other program nothing is
read. -/
theorem unwrap_between_places (policy : Policy) (program : Text) :
    ((∃ body, unwrap policy program = some body) ↔ HoldsWrapper policy (Text.lines program)) ∧
    (∀ body, unwrap policy program = some body ↔
      ∃ opening closing, WrapperAt policy (Text.lines program) opening closing ∧
        body = (((Text.lines program).take closing).drop (opening + 1)).map
          (Text.dropStart policy.indent)) ∧
    (unwrap policy program = none ↔ ¬ HoldsWrapper policy (Text.lines program)) := by
  refine ⟨exists_unwrap_eq_some_iff, fun body => unwrap_eq_some_iff_wrapperAt, ?_⟩
  rw [← exists_unwrap_eq_some_iff, Option.eq_none_iff_forall_ne_some, not_exists]

/-- A footer and a header within the body are lines of it like any other. -/
example :
    unwrap Policy.default
        (Text.ended [header, "        a();", "    ;", "    Ok(())", header, "    ;", "    Ok(())"])
      = some (["    a();", ";", "Ok(())", header] : List Text) := by
  decide

end Program

end Oneshot
