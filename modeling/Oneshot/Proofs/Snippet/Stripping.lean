import Oneshot.Proofs.Snippet.UseGroup

/-!
# Stripping in Parts

A use line can lose items more than once: what is left of it is a line again, which is read anew.
Nothing comes from the detour. A line that loses items either is dropped or becomes the rendering of
a group, and a group is read back as it is, so the second step sees the items that the first step
left and no others. Two steps amount to one with the paths of both, whatever their order.

* `ofLine?_of_without`: what is left of a line is read as the items that are left.
* `bind_without`: two steps in a row are one step.
* `without_union`: stripping by parts, by the same paths again, and in any order.
-/

namespace Oneshot

namespace UseLine

variable {imported first second both : List Text} {line : Text} {u : UseLine}

/-! ### Items that are left -/

theorem remaining_eq (imported : List Text) (u : UseLine) :
    u.remaining imported
      = ⟨u.pathPrefix, u.items.filter fun item => pathOfItem u.pathPrefix item ∉ imported⟩ := by
  simp [remaining]

/-- Items that are lost in two steps can be lost in one. -/
theorem remaining_remaining (hboth : ∀ path, path ∈ both ↔ path ∈ first ∨ path ∈ second)
    (u : UseLine) : (u.remaining first).remaining second = u.remaining both := by
  simp only [remaining_eq, List.filter_filter, hboth, not_or, Bool.decide_and, Bool.and_comm]

theorem remaining_eq_self_iff :
    u.remaining imported = u ↔ (u.remaining imported).items.length = u.items.length := by
  have hsub : (u.remaining imported).items.Sublist u.items := List.filter_sublist
  exact ⟨fun hu => congrArg (fun v => v.items.length) hu,
    fun hlength => congrArg (UseLine.mk u.pathPrefix) (hsub.eq_of_length hlength)⟩

/-- A use line that loses nothing in two steps loses nothing in the first. -/
theorem remaining_eq_self_of_both (hboth : ∀ path, path ∈ both ↔ path ∈ first ∨ path ∈ second)
    (h : u.remaining both = u) : u.remaining first = u := by
  have hfirst : (u.remaining first).items.Sublist u.items := List.filter_sublist
  have hsecond : ((u.remaining first).remaining second).items.Sublist (u.remaining first).items :=
    List.filter_sublist
  rw [remaining_remaining hboth, h] at hsecond
  exact remaining_eq_self_iff.2 (Nat.le_antisymm hfirst.length_le hsecond.length_le)

/-! ### Lines that are left -/

/-- The line of a use line that has lost items, if any are left. -/
def leftLine? (u : UseLine) : Option Text :=
  if u.items = [] then none else some u.render

theorem without_eq_ite (imported : List Text) (h : ofLine? line = some u) :
    without imported line
      = if u.remaining imported = u then some line else (u.remaining imported).leftLine? := by
  simp only [without_of_some imported h, remaining_eq_self_iff, leftLine?, List.isEmpty_iff]

/-- What has lost items is empty or a group, even if what it comes from is none. -/
theorem isGroup_remaining (h : ofLine? line = some u) (hne : u.remaining imported ≠ u) :
    (u.remaining imported).items = [] ∨ (u.remaining imported).IsGroup := by
  rcases without_cases imported h with ⟨hu, -⟩ | ⟨-, ⟨hnil, -⟩ | ⟨hgroup, -⟩⟩
  · exact absurd hu hne
  · exact .inl hnil
  · exact .inr hgroup

/-- A group that loses items by way of its line is left with the line of the others. -/
theorem bind_leftLine? (h : u.items = [] ∨ u.IsGroup) :
    u.leftLine?.bind (without imported) = (u.remaining imported).leftLine? := by
  by_cases hnil : u.items = []
  · have hnil' : (u.remaining imported).items = [] := by simp [remaining, hnil]
    rw [leftLine?, if_pos hnil, leftLine?, if_pos hnil']
    rfl
  · have hread : ofLine? (render u) = some u := ofLine?_render (h.resolve_left hnil)
    rw [leftLine?, if_neg hnil, Option.bind_some, without_eq_ite imported hread]
    split
    · next hu => rw [hu, leftLine?, if_neg hnil]
    · rfl

/-- **What is left of a line is read as the items that are left.** -/
theorem ofLine?_of_without {left : Text} (h : ofLine? line = some u)
    (hleft : without imported line = some left) : ofLine? left = some (u.remaining imported) := by
  rcases without_cases imported h with ⟨hu, hw⟩ | ⟨-, ⟨-, hw⟩ | ⟨hgroup, hw⟩⟩
  · obtain rfl : line = left := Option.some.inj (hw.symm.trans hleft)
    rw [h, hu]
  · simp [hw] at hleft
  · obtain rfl : render (u.remaining imported) = left := Option.some.inj (hw.symm.trans hleft)
    exact ofLine?_render hgroup

/-- **Two steps in a row are one step** with the paths of both. -/
theorem bind_without (hboth : ∀ path, path ∈ both ↔ path ∈ first ∨ path ∈ second) (line : Text) :
    (without first line).bind (without second) = without both line := by
  cases h : ofLine? line with
  | none =>
    have hkept : ∀ imported, without imported line = some line := fun imported => by
      rw [without, h]
    rw [hkept first, Option.bind_some, hkept second, hkept both]
  | some u =>
    by_cases hu : u.remaining first = u
    · -- the first step keeps the line, so that the second step has to do everything
      have hsecond : u.remaining second = u.remaining both := by
        rw [← remaining_remaining hboth, hu]
      rw [without_eq_ite first h, if_pos hu, Option.bind_some, without_eq_ite second h,
        without_eq_ite both h, hsecond]
    · have hboth' : u.remaining both ≠ u := fun h => hu (remaining_eq_self_of_both hboth h)
      rw [without_eq_ite first h, if_neg hu, without_eq_ite both h, if_neg hboth',
        bind_leftLine? (isGroup_remaining h hu), remaining_remaining hboth]

/-- **A line can be stripped in parts**: by all paths at once or by some first and by the others of
what is left. So a second time changes nothing, and the order of the parts is of no account. What is
left at any time is read as the items whose paths have not been met, with the prefix of the line and
in its order. -/
theorem without_union (hboth : ∀ path, path ∈ both ↔ path ∈ first ∨ path ∈ second) (line : Text) :
    without both line = (without first line).bind (without second) ∧
      (without first line).bind (without first) = without first line ∧
      (without first line).bind (without second) = (without second line).bind (without first) ∧
      ∀ u left, ofLine? line = some u → without first line = some left →
        ofLine? left = some ⟨u.pathPrefix,
          u.items.filter fun item => pathOfItem u.pathPrefix item ∉ first⟩ := by
  refine ⟨(bind_without hboth line).symm, bind_without (fun path => (or_self_iff).symm) line, ?_,
    fun u left h hleft => ?_⟩
  · rw [bind_without hboth line, bind_without (fun path => (hboth path).trans or_comm) line]
  · rw [← remaining_eq]
    exact ofLine?_of_without h hleft

/-- The group `use a::{ self , B as C,B,B };` loses its prefix first and two equal items then. -/
theorem without_union_group :
    let line := "  use a::\x7b self , B  as C,B,B \x7d;".toList
    let first := ["a".toList]
    let second := ["a::B".toList]
    let both := ["a::B".toList, "a".toList]
    (∀ path, path ∈ both ↔ path ∈ first ∨ path ∈ second) ∧
      ofLine? line = some ⟨"a::".toList,
        ["self".toList, "B as C".toList, "B".toList, "B".toList]⟩ ∧
      without first line = some "use a::\x7bB as C, B, B\x7d;".toList ∧
      without both line = some "use a::\x7bB as C\x7d;".toList ∧
      (without first line).bind (without second) = some "use a::\x7bB as C\x7d;".toList ∧
      (without first line).bind (without first) = some "use a::\x7bB as C, B, B\x7d;".toList ∧
      (without second line).bind (without first) = some "use a::\x7bB as C\x7d;".toList ∧
      ofLine? "use a::\x7bB as C, B, B\x7d;".toList = some ⟨"a::".toList,
        ["B as C".toList, "B".toList, "B".toList]⟩ := by
  intro line first second both
  have hboth : ∀ path, path ∈ both ↔ path ∈ first ∨ path ∈ second := by
    simp [both, first, second, or_comm]
  have hread : ofLine? line = some ⟨"a::".toList,
      ["self".toList, "B as C".toList, "B".toList, "B".toList]⟩ := by decide +kernel
  have hfirst : without first line = some "use a::\x7bB as C, B, B\x7d;".toList := by
    decide +kernel
  have hall : without both line = some "use a::\x7bB as C\x7d;".toList := by decide +kernel
  obtain ⟨hparts, hagain, horder, hleft⟩ := without_union hboth line
  refine ⟨hboth, hread, hfirst, hall, hparts ▸ hall, hagain.trans hfirst,
    horder ▸ hparts ▸ hall, (hleft _ _ hread hfirst).trans ?_⟩
  decide +kernel

end UseLine

end Oneshot
