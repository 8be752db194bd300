import Oneshot.Proofs.Snippet.Declaration
import Oneshot.Proofs.Text.Lines

/-!
# Declarations Part by Part

A program is put together from lines, and a group of a use line from items. Each of these parts is
written with a character behind it that belongs to no word and to no keyword, so that the crates of
the whole can be read part by part, provided that every part can be read on its own
(`DeclaresEach`). Parts that are read on their own can then be left out, replaced by others or put
in another place, and what the whole declares changes accordingly.

* `DeclaresEach.standalone`: lines that are read on their own are read as they stand in front of
  any text.
* `DeclaresEach.of_join`, `DeclaresEach.join`: joined parts are read one by one.
* `DeclaresEach.filterMap`: parts can be replaced, and left out if they declare nothing.
-/

namespace Oneshot

namespace Snippet

variable {keyword : Text} {sep : Char}

/-- The character that ends a part can be exchanged. -/
theorem Declares.exchange (hk : keyword ≠ []) (hsep : Separates keyword sep) {sep' : Char}
    (hsep' : Separates keyword sep') {inWord : Bool} {s : Text} {crates : List Text}
    (h : Declares keyword inWord (s ++ [sep]) crates) :
    Declares keyword inWord (s ++ [sep']) crates := by
  simpa using h.append hk hsep hsep' (.done false)

/-- A text in which a character of the keyword does not occur declares nothing. -/
theorem declares_nil_of_not_mem {s : Text} {c : Char} (hc : c ∈ keyword) (hs : c ∉ s)
    (inWord : Bool) : Declares keyword inWord s [] := by
  induction s generalizing inWord with
  | nil => exact .done inWord
  | cons d s ih =>
    refine .pass (.inr fun hp => hs (hp.subset hc)) (ih (fun h => hs (List.mem_cons_of_mem d h)) _)

/-! ### Texts that are read on their own -/

/-- A text in front of any other one is read on its own. -/
def Standalone (keyword s : Text) (crates : List Text) : Prop :=
  ∀ t all, Declares keyword false (s ++ t) all ↔
    ∃ rest, all = crates ++ rest ∧ Declares keyword false t rest

theorem Standalone.nil : Standalone keyword [] [] := by
  intro t all
  simp

theorem Standalone.append {s t : Text} {first second : List Text}
    (hs : Standalone keyword s first) (ht : Standalone keyword t second) :
    Standalone keyword (s ++ t) (first ++ second) := by
  intro u all
  rw [List.append_assoc, hs]
  constructor
  · rintro ⟨rest, rfl, h⟩
    obtain ⟨rest, rfl, hu⟩ := (ht u rest).1 h
    exact ⟨rest, by rw [List.append_assoc], hu⟩
  · rintro ⟨rest, rfl, h⟩
    exact ⟨second ++ rest, by rw [List.append_assoc], (ht u _).2 ⟨rest, rfl, h⟩⟩

theorem Standalone.declares {s : Text} {crates : List Text} (h : Standalone keyword s crates) :
    Declares keyword false s crates := by
  simpa using (h [] crates).2 ⟨[], by simp, .done false⟩

/-- A text that can be read and ends with a separator is read on its own. -/
theorem Declares.standalone (hk : keyword ≠ []) (hsep : Separates keyword sep) {s : Text}
    {crates : List Text} (h : Declares keyword false (s ++ [sep]) crates) :
    Standalone keyword (s ++ [sep]) crates := by
  intro t all
  rw [List.append_assoc, List.singleton_append]
  exact h.append_iff hk hsep

/-! ### Parts -/

/-- The parts declare the crates, each of them read on its own with the separator behind it. -/
inductive DeclaresEach (keyword : Text) (sep : Char) : (parts : List Text) → List Text → Prop
  | nil : DeclaresEach keyword sep [] []
  | cons {part : Text} {parts first second : List Text}
      (part_declares : Declares keyword false (part ++ [sep]) first)
      (rest : DeclaresEach keyword sep parts second) :
      DeclaresEach keyword sep (part :: parts) (first ++ second)

namespace DeclaresEach

variable {parts parts' crates crates' : List Text}

theorem append (h : DeclaresEach keyword sep parts crates)
    (h' : DeclaresEach keyword sep parts' crates') :
    DeclaresEach keyword sep (parts ++ parts') (crates ++ crates') := by
  induction h with
  | nil => exact h'
  | cons part_declares rest ih =>
    rw [List.append_assoc]
    exact .cons part_declares ih

/-- Parts that declare nothing. -/
theorem of_forall (h : ∀ part ∈ parts, Declares keyword false (part ++ [sep]) []) :
    DeclaresEach keyword sep parts [] := by
  induction parts with
  | nil => exact .nil
  | cons part parts ih =>
    exact .cons (h part (by simp)) (ih fun other ho => h other (List.mem_cons_of_mem part ho))

/-- Parts that can be read one by one declare something together. -/
theorem exists_of_forall
    (h : ∀ part ∈ parts, ∃ names, Declares keyword false (part ++ [sep]) names) :
    ∃ crates, DeclaresEach keyword sep parts crates := by
  induction parts with
  | nil => exact ⟨[], .nil⟩
  | cons part parts ih =>
    obtain ⟨first, hfirst⟩ := h part (by simp)
    obtain ⟨second, hsecond⟩ := ih fun other ho => h other (List.mem_cons_of_mem part ho)
    exact ⟨first ++ second, .cons hfirst hsecond⟩

/-- **Parts can be replaced by others that declare the same, and left out if they declare
nothing.** -/
theorem filterMap {f : Text → Option Text} (h : DeclaresEach keyword sep parts crates)
    (hnone : ∀ part ∈ parts, ∀ names, Declares keyword false (part ++ [sep]) names →
      f part = none → names = [])
    (hsome : ∀ part ∈ parts, ∀ names, Declares keyword false (part ++ [sep]) names →
      ∀ part', f part = some part' → Declares keyword false (part' ++ [sep]) names) :
    DeclaresEach keyword sep (parts.filterMap f) crates := by
  induction h with
  | nil => exact .nil
  | @cons part parts first second part_declares rest ih =>
    have hrest := ih (fun other ho => hnone other (List.mem_cons_of_mem part ho))
      (fun other ho => hsome other (List.mem_cons_of_mem part ho))
    rw [List.filterMap_cons]
    cases hf : f part with
    | none =>
      rw [hnone part (by simp) first part_declares hf]
      exact hrest
    | some part' => exact .cons (hsome part (by simp) first part_declares part' hf) hrest

/-- **Lines that can be read one by one are read on their own**, whatever follows them. -/
theorem standalone (hk : keyword ≠ []) (hsep : Separates keyword '\n')
    (h : DeclaresEach keyword '\n' parts crates) :
    Standalone keyword (Text.ended parts) crates := by
  induction h with
  | nil => exact .nil
  | @cons part parts first second part_declares rest ih =>
    have hpart := (part_declares.standalone hk hsep).append ih
    rwa [List.append_assoc, List.singleton_append, ← Text.ended_cons] at hpart

/-- Parts that are joined with commas are read one by one. -/
theorem of_join (hk : keyword ≠ []) (hcomma : Separates keyword ',') (hsep : Separates keyword sep)
    (hne : parts ≠ []) (h : Declares keyword false (Text.join [','] parts ++ [sep]) crates) :
    DeclaresEach keyword sep parts crates := by
  induction parts generalizing crates with
  | nil => exact absurd rfl hne
  | cons part parts ih =>
    cases parts with
    | nil =>
      have hpart : DeclaresEach keyword sep [part] (crates ++ []) := .cons h .nil
      simpa using hpart
    | cons next rest =>
      rw [Text.join, List.append_assoc, List.append_assoc, List.singleton_append] at h
      obtain ⟨first, second, rfl, hfirst, hsecond⟩ := h.split hk hcomma (by decide)
      exact .cons (hfirst.exchange hk hcomma hsep) (ih (by simp) hsecond)

/-- Parts that are read one by one can be joined with commas and spaces. -/
theorem join (hk : keyword ≠ []) (hcomma : Separates keyword ',') (hsep : Separates keyword sep)
    (hspace : keyword.head? ≠ some ' ') (h : DeclaresEach keyword sep parts crates) :
    Declares keyword false (Text.join [',', ' '] parts ++ [sep]) crates := by
  induction h with
  | nil => exact (declares_separator_iff hk hsep).2 (.done false)
  | @cons part parts first second part_declares rest ih =>
    cases rest with
    | nil => simpa [Text.join] using part_declares
    | @cons next parts third fourth next_declares rest =>
      have hbegin : ¬ keyword <+: ' ' :: (Text.join [',', ' '] (next :: parts) ++ [sep]) := by
        intro hp
        obtain ⟨c, cs, rfl⟩ := List.exists_cons_of_ne_nil hk
        obtain ⟨rfl, -⟩ := List.cons_prefix_cons.1 hp
        exact hspace rfl
      have hnext : Declares keyword false (' ' :: (Text.join [',', ' '] (next :: parts) ++ [sep]))
          (third ++ fourth) := (declares_cons_iff (by decide) hbegin).2 ih
      have hjoin := part_declares.append hk hsep hcomma hnext
      simpa [Text.join] using hjoin

end DeclaresEach

end Snippet

end Oneshot
