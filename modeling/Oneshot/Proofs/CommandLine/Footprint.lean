import Oneshot.Proofs.Cache.History
import Oneshot.Proofs.CommandLine.Stages
import Oneshot.Proofs.Host.Play

/-!
# What `expand` Leaves Behind

`expand` arranges the cache; everything else that it does is looking and printing. What is new
behind it therefore lies in the cache, or it is one of the directories above the cache. This holds
however the command ends.

* `CommandLine.proper_of_cacheRoot`: the place of the cache is a path that is read back.
* `Volume.after_quiet`: a routine without loud requests leaves a volume alone.
* `Volume.after_expandFrom`: what `expand` leaves behind.
-/

namespace Oneshot

namespace Path

theorem Proper.child {p : Path} (hp : p.Proper) (name : Text) : (p.child name).Proper :=
  hp.join (proper_ofText name)

theorem proper_of_expandHome {p q : Path} {t : Trace} (hp : p.Proper)
    (h : p.expandHome.run.Runs t (.ok q)) : q.Proper := by
  rw [expandHome] at h
  split at h
  · next first rest hanchor hparts =>
    have hrest : (⟨[], rest⟩ : Path).Proper :=
      ⟨.inl rfl, fun part hpart => hp.parts part (hparts ▸ List.mem_cons_of_mem first hpart)⟩
    split at h
    · obtain ⟨t₁, t₂, home, -, -, h⟩ := Action.runs_bind_ok.1 h
      split at h
      · simp only at h
        split at h
        all_goals
          split at h
          · simp at h
          · obtain ⟨-, rfl⟩ := Action.runs_pure_ok.1 h
            exact (proper_ofText _).join hrest
      · simp at h
    · obtain ⟨-, rfl⟩ := Action.runs_pure_ok.1 h
      exact hp
  · obtain ⟨-, rfl⟩ := Action.runs_pure_ok.1 h
    exact hp

end Path

namespace CommandLine

/-- The directory of a cache is a path that is read back. -/
theorem proper_of_cacheRoot {asked : Option Path} (hasked : ∀ root ∈ asked, root.Proper)
    {t : Trace} {root : Path} (h : (cacheRoot asked).run.Runs t (.ok root)) : root.Proper := by
  cases asked with
  | some given =>
    obtain ⟨-, rfl⟩ := Action.runs_pure_ok.1 h
    exact hasked root rfl
  | none =>
    rw [cacheRoot] at h
    obtain ⟨vars, t₁, rfl, hroot⟩ := Action.runs_ask_bind.1 h
    rw [Cache.defaultRoot] at hroot
    obtain ⟨t₂, t₃, base, rfl, hbase, hroot⟩ := Action.runs_bind_ok.1 hroot
    obtain ⟨-, rfl⟩ := Action.runs_pure_ok.1 hroot
    refine Path.Proper.child ?_ _
    rw [Cache.baseDir] at hbase
    split at hbase
    · exact Path.proper_of_expandHome (Path.proper_ofText _) hbase
    · obtain ⟨t₄, t₅, home, rfl, hhome, hbase⟩ := Action.runs_bind_ok.1 hbase
      obtain ⟨-, rfl⟩ := Action.runs_pure_ok.1 hbase
      exact (Path.proper_of_expandHome (Path.proper_ofText _) hhome).child _

end CommandLine

namespace Volume

variable {v v' : Volume} {root : Path} {α β : Type} {topics : List Topic}

/-- What is new lies in the cache, or is one of the directories above it. -/
def Confines (root : Path) (v v' : Volume) : Prop :=
  ∀ place, v.entry place = none → v'.entry place ≠ none →
    (∃ q ≤ root.parent, v'.find q = some place) ∨
      ∃ top, v'.find root = some top ∧ top <+: place

theorem Confines.refl (root : Path) (v : Volume) : Confines root v v :=
  fun _ hnone hentry => absurd hnone hentry

theorem Added.confined {place : Virtual.Place} (h : Added root v v' place) :
    (∃ q ≤ root.parent, v'.find q = some place) ∨
      ∃ top, v'.find root = some top ∧ top <+: place := by
  cases h with
  | above hle hfind => exact .inl ⟨_, hle, hfind⟩
  | cache hfind _ _ hle => exact .inr ⟨_, hfind, hle⟩
  | artifacts hfind hplace => exact .inr ⟨_, hfind, hplace ▸ List.prefix_append _ _⟩

theorem Keeps.confines (h : Keeps root v v') : Confines root v v' := by
  intro place hnone hentry
  obtain honly | hdisplaces := h.frame
  · exact (honly.added place hnone hentry).confined
  · obtain ⟨top, -, -, -, hfind, -, helsewhere⟩ := hdisplaces.displaced
    by_cases hle : top <+: place
    · exact .inr ⟨top, hfind, hle⟩
    · obtain hsame | ⟨-, hadded⟩ := helsewhere place hle
      · exact absurd (hsame.trans hnone) hentry
      · exact hadded.confined

/-- A routine without loud requests leaves a volume alone. -/
theorem after_quiet {r : Routine α} (hr : r.Within Topic.quiet) (v : Volume) :
    After (fun _ v' => v' = v) r v := by
  induction r with
  | done x => rfl
  | ask request next ih =>
    intro reply v' hanswers
    obtain rfl : v' = v := by
      have hquiet := hr.1
      cases request with
      | kind | read => exact hanswers.1
      | isExecutable | isReadable | workDir | environment | accountHome | isTerminal
      | validatorText | print | announce =>
        exact hanswers
      | launch command =>
        rw [Request.topic] at hquiet
        split at hquiet <;> simp [Topic.quiet] at hquiet
      | _ => simp [Topic.quiet] at hquiet
    exact ih reply (hr.2 reply)

/-- What holds of the volume still holds after an action without loud requests. -/
theorem afterAction_quiet {P : Volume → Prop} {a : Action α} (ha : a.Within topics)
    (hquiet : topics ⊆ Topic.quiet) (hv : P v) :
    AfterAction (fun _ => P) (fun _ => P) a v := by
  refine (after_quiet (ha.mono hquiet) v).imp ?_
  rintro (failure | x) v' rfl
  · exact hv
  · exact hv

open CommandLine

/-- What an action leaves behind is left behind if its errors are shown, too. -/
theorem afterAction_reportingTo {P : Volume → Prop} {opening : Action Logger}
    (hopening : opening.Within [.surroundings, .print]) (raised : RunError → Bool) {a : Action α}
    (ha : AfterAction (fun _ => P) (fun _ => P) a v) :
    AfterAction (fun _ => P) (fun _ => P) (reportingTo opening raised a) v := by
  rw [reportingTo_eq]
  refine afterAction_tryCatch (afterAction_bind ha fun x v' hv => afterAction_pure hv) ?_
  intro failure v' hv
  exact afterAction_quiet (within_showing hopening (by decide) (by decide) failure) (by decide) hv

theorem afterAction_expandLoaded (hroot : root.Proper) (logger : Logger)
    (loaded : Except Int (Path × Settings)) :
    AfterAction (fun _ => Confines root v) (fun _ => Confines root v)
      (expandLoaded root logger loaded) v := by
  rcases loaded with code | ⟨script, settings⟩
  · exact afterAction_pure (.refl root v)
  refine afterAction_bind (afterAction_reportingTo Action.every_pure _ ?_) fun prepared v' hv =>
    afterAction_quiet (within_showProgram settings prepared) (by decide) hv
  refine afterAction_bind ?_ fun cache v' hv =>
    afterAction_quiet (within_mutedPrepare ..) (by decide) hv
  refine afterAction_bind ((afterAction_ensure hroot).imp (fun _ _ hready => hready.2.confines)
    fun _ _ hkeeps => hkeeps.confines) fun cache v' hv => ?_
  have hnote := Action.every_lift (logger.within_note
    ("cache: root=".toList ++ cache.root.text ++ " artifacts=".toList ++ cache.artifactsDir.text))
  exact afterAction_bind (afterAction_quiet hnote (by decide) hv) fun _ _ hv => afterAction_pure hv

/-- **What `expand` leaves behind**, once it knows where the cache lies. -/
theorem after_expandFrom (hroot : root.Proper) (script : Option Path) (v : Volume) :
    After (fun _ => Confines root v)
      (do
        let logger ← Logger.plain
        reportingTo (pure logger) (fun _ => false) (loading script root)
          >>= expandLoaded root logger : Action Int).run v := by
  suffices h : AfterAction (fun _ => Confines root v) (fun _ => Confines root v) _ v by
    refine After.imp h ?_
    rintro (failure | code) v' hv <;> exact hv
  have hsame : ∀ {α : Type} {a : Action α}, a.Within Topic.quiet →
      AfterAction (fun _ v' => v' = v) (fun _ => Confines root v) a v := fun ha =>
    (afterAction_quiet (P := (· = v)) ha (List.Subset.refl _) rfl).imp (fun _ _ h => h)
      fun _ _ h => h ▸ .refl root v
  refine afterAction_bind (hsame ((Logger.within_opened ..).mono (by decide))) ?_
  rintro logger v' rfl
  refine afterAction_bind (hsame (within_reportingTo Action.every_pure
    ((within_loading ..).mono (by decide)) (by decide) (by decide))) ?_
  rintro loaded v' rfl
  exact afterAction_expandLoaded hroot logger loaded

end Volume

end Oneshot
