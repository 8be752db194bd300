import Mathlib.Data.List.Basic
import Mathlib.Order.Nat
import Oneshot.Host.Files
import Oneshot.Proofs.Text.Spacing

/-!
# The Order of Paths

A path is ordered below another one if its parts come first in it. What is above a path is on the
way to it, so that statements about whole ways are statements about all paths above the last one.

* `Path.below`: the path of a name in a directory.
* `Path.le_parent`: what is above a path is the path itself or above its parent.
* `Path.Proper`: the paths that reading yields, which are read back from their texts.
* `Path.mem_text`: the characters of the text of a path.
-/

namespace Oneshot

namespace Path

/-! ### Order -/

/-- The path of a name right below a path. -/
def below (p : Path) (name : Text) : Path :=
  ⟨p.anchor, p.parts ++ [name]⟩

/-- `q` is `p` or lies below it. -/
instance : LE Path :=
  ⟨fun p q => p.anchor = q.anchor ∧ p.parts <+: q.parts⟩

instance (p q : Path) : Decidable (p ≤ q) :=
  inferInstanceAs (Decidable (p.anchor = q.anchor ∧ p.parts <+: q.parts))

instance : PartialOrder Path where
  le_refl p := ⟨rfl, List.prefix_refl _⟩
  le_trans p q r hpq hqr := ⟨hpq.1.trans hqr.1, hpq.2.trans hqr.2⟩
  le_antisymm p q hpq hqp := by
    obtain ⟨anchor, parts⟩ := p
    obtain ⟨anchor', parts'⟩ := q
    obtain rfl : anchor = anchor' := hpq.1
    obtain rfl : parts = parts' := hpq.2.eq_of_length (hpq.2.length_le.antisymm hqp.2.length_le)
    rfl

@[simp] theorem name_below (p : Path) (name : Text) : (p.below name).name = name := by
  simp [below, Path.name]

theorem le_below (p : Path) (name : Text) : p ≤ p.below name :=
  ⟨rfl, List.prefix_append _ _⟩

@[simp] theorem parent_below (p : Path) (name : Text) : (p.below name).parent = p := by
  simp [below, parent]

theorem not_below_le (p : Path) (name : Text) : ¬ p.below name ≤ p := fun hle => by
  have hlength := hle.2.length_le
  rw [below, List.length_append, List.length_singleton] at hlength
  omega

theorem parts_below_ne_nil (p : Path) (name : Text) : (p.below name).parts ≠ [] := by
  simp [below]

theorem below_parent_name {p : Path} (h : p.parts ≠ []) : p.parent.below p.name = p := by
  obtain ⟨anchor, parts⟩ := p
  simp only [below, parent, name] at h ⊢
  rw [List.getLast?_eq_getLast_of_ne_nil h, Option.getD_some, List.dropLast_append_getLast]

theorem parent_le (p : Path) : p.parent ≤ p :=
  ⟨rfl, List.dropLast_prefix _⟩

/-- What is above a path and not the path itself is above its parent. -/
theorem le_parent {p q : Path} (h : p ≤ q) (hne : p ≠ q) : p ≤ q.parent := by
  obtain ⟨anchor, parts⟩ := p
  obtain ⟨anchor', parts'⟩ := q
  obtain rfl : anchor = anchor' := h.1
  obtain ⟨rest, hrest⟩ := h.2
  simp only at hrest
  subst hrest
  have hrest : rest ≠ [] := by
    rintro rfl
    simp at hne
  exact ⟨rfl, by
    simp only [parent]
    rw [List.dropLast_append_of_ne_nil hrest]
    exact List.prefix_append _ _⟩

theorem length_le {p q : Path} (h : p ≤ q) : p.parts.length ≤ q.parts.length :=
  h.2.length_le

/-- A path that reading yields: it is read back from its text. -/
structure Proper (p : Path) : Prop where
  anchor : IsAnchor p.anchor
  parts : ∀ part ∈ p.parts, IsName part

theorem Proper.ofText_text {p : Path} (h : p.Proper) : ofText p.text = p :=
  Path.ofText_text h.anchor h.parts

theorem Proper.of_le {p q : Path} (h : q.Proper) (hle : p ≤ q) : p.Proper :=
  ⟨hle.1 ▸ h.anchor, fun part hpart => h.parts part (hle.2.subset hpart)⟩

theorem Proper.parent {p : Path} (h : p.Proper) : p.parent.Proper :=
  h.of_le p.parent_le

theorem Proper.below {p : Path} (h : p.Proper) {name : Text} (hname : IsName name) :
    (p.below name).Proper := by
  refine ⟨h.anchor, fun part hpart => ?_⟩
  rcases List.mem_append.1 hpart with hpart | hpart
  · exact h.parts part hpart
  · rwa [List.mem_singleton.1 hpart]

/-- A path that has parts is one name below its parent. -/
theorem Proper.exists_below {p : Path} (h : p.Proper) (hparts : p.parts ≠ []) :
    ∃ parent name, p = Path.below parent name ∧ name ≠ ['.'] := by
  refine ⟨p.parent, p.name, (below_parent_name hparts).symm, fun hdot => ?_⟩
  have hmem : p.name ∈ p.parts := by
    rw [name, List.getLast?_eq_getLast_of_ne_nil hparts]
    exact List.getLast_mem hparts
  exact absurd (h.parts _ hmem).1 (by simp [hdot, isKept])

/-- What is joined to a path is read back as well. -/
theorem Proper.join {p q : Path} (hp : p.Proper) (hq : q.Proper) : (p.join q).Proper := by
  have hnames : ∀ part ∈ q.parts.filter isKept, IsName part := fun part hpart =>
    hq.parts part (List.mem_filter.1 hpart).1
  rw [Path.join]
  split
  · exact ⟨hq.anchor, hnames⟩
  · refine ⟨hp.anchor, fun part hpart => ?_⟩
    rcases List.mem_append.1 hpart with hpart | hpart
    · exact hp.parts part hpart
    · exact hnames part hpart

theorem child_eq_below (p : Path) {name : Text} (hname : IsName name) :
    p.child name = p.below name := by
  have hread : ofText name = ⟨[], [name]⟩ := by
    have htext : (⟨[], [name]⟩ : Path).text = name := by simp [text, Text.join]
    have hproper : (⟨[], [name]⟩ : Path).Proper := ⟨.inl rfl, by simpa using hname⟩
    rw [← htext, hproper.ofText_text, htext]
  simp [child, hread, join, isAbsolute, below, hname.1]

/-! ### Texts -/

/-- A character of the text of a path is one of its parts', or one that the text adds. -/
theorem mem_text {c : Char} {p : Path} (hdot : c ≠ '.') (hslash : c ≠ '/') :
    c ∈ p.text ↔ c ∈ p.anchor ∨ ∃ part ∈ p.parts, c ∈ part := by
  have hjoin : ∀ parts : List Text, c ∈ Text.join ['/'] parts ↔ ∃ part ∈ parts, c ∈ part := by
    intro parts
    induction parts with
    | nil => simp [Text.join]
    | cons part rest ih =>
      cases rest with
      | nil => simp [Text.join]
      | cons next rest =>
        rw [Text.join, List.mem_append, List.mem_append, ih]
        simp [hslash]
  rw [text]
  split
  · next h =>
    simp only [Bool.and_eq_true, List.isEmpty_iff] at h
    simp [h.1, h.2, hdot]
  · rw [List.mem_append, hjoin]

/-- What is read from a text is read back from its own text. -/
theorem proper_ofText (s : Text) : (ofText s).Proper := by
  constructor
  · simp only [IsAnchor, ofText, anchorOf]
    split
    · exact .inl rfl
    split
    · exact .inr (.inr rfl)
    · exact .inr (.inl rfl)
  · intro part hpart
    obtain ⟨hmem, hkept⟩ := List.mem_filter.1 hpart
    exact ⟨hkept, Text.not_mem_of_mem_splitAt hmem⟩

theorem nul_mem_text_of_le {p q : Path} (h : p ≤ q) (hnul : '\x00' ∈ p.text) :
    '\x00' ∈ q.text := by
  rw [mem_text (by decide) (by decide)] at hnul ⊢
  rcases hnul with hnul | ⟨part, hpart, hnul⟩
  · exact .inl (h.1 ▸ hnul)
  · exact .inr ⟨part, h.2.subset hpart, hnul⟩

theorem nul_mem_text_below {p : Path} {name : Text} :
    '\x00' ∈ (p.below name).text ↔ '\x00' ∈ p.text ∨ '\x00' ∈ name := by
  rw [mem_text (by decide) (by decide), mem_text (by decide) (by decide)]
  simp [below, or_assoc, or_and_right, exists_or]

theorem nul_not_mem_text_below {p : Path} {name : Text} (hp : '\x00' ∉ p.text)
    (hname : '\x00' ∉ name) : '\x00' ∉ (p.below name).text :=
  nul_mem_text_below.not.2 (not_or.2 ⟨hp, hname⟩)

theorem nul_mem_of_nul_mem_text {p : Path} (h : '\x00' ∈ p.text) :
    '\x00' ∈ p.parent.text ∨ '\x00' ∈ p.name := by
  obtain ⟨anchor, parts⟩ := p
  rcases parts with _ | ⟨part, rest⟩
  · exact .inl h
  · have hparts : (⟨anchor, part :: rest⟩ : Path).parts ≠ [] := List.cons_ne_nil part rest
    rw [← below_parent_name hparts] at h
    exact nul_mem_text_below.1 h

/-- The text of a path begins with those of the paths above it, but for that of the working
directory. -/
theorem text_prefix {p q : Path} (h : p ≤ q) (hne : ¬ (p.anchor = [] ∧ p.parts = [])) :
    p.text <+: q.text := by
  have hjoin : ∀ parts rest : List Text,
      Text.join ['/'] parts <+: Text.join ['/'] (parts ++ rest) := by
    intro parts rest
    induction parts with
    | nil => exact List.nil_prefix
    | cons part parts ih =>
      cases parts with
      | nil =>
        cases rest with
        | nil => exact List.prefix_refl _
        | cons next rest =>
          simp only [List.cons_append, List.nil_append, Text.join, List.append_assoc]
          exact List.prefix_append _ _
      | cons next parts =>
        simp only [List.cons_append, Text.join]
        exact (List.prefix_append_right_inj _).2 ih
  obtain ⟨anchor, parts⟩ := p
  obtain ⟨anchor', parts'⟩ := q
  obtain rfl : anchor = anchor' := h.1
  obtain ⟨rest, rfl⟩ := h.2
  have hne' : ¬ (anchor = [] ∧ parts ++ rest = []) := fun hnil =>
    hne ⟨hnil.1, (List.append_eq_nil_iff.1 hnil.2).1⟩
  rw [text, text, if_neg (by simpa using hne), if_neg (by simpa using hne')]
  exact (List.prefix_append_right_inj _).2 (hjoin parts rest)

end Path

end Oneshot
