import Oneshot.Proofs.Host.Idle

/-!
# What a Host Raises

A stage reports the refusals that it expects. Some replies are expected nowhere: a test that is
refused for another cause than that nothing is there, a text with a NUL, a working directory that is
gone, and a child whose collected output is no text. Such a reply raises an escape, and the run ends
with it (`Exchange.raised?`).

An action is guarded if it fails in no other way: wherever it fails, it either reports an error of a
known kind or has come to a reply that raises what escapes; and what a launch raises always escapes
(`Action.Guarded`). Guarded actions are composed of guarded actions, so that one lemma for each
function is enough.

* `Action.guarded_bind`: composition.
* `Files.guarded_makeDirs`, `Files.guarded_readText`, `Files.guarded_isFile`: the files.
-/

namespace Oneshot

open Action (runs_bind runs_lift_bind runs_ask_bind)

/-- The escape of a refusal that does not come from the system. -/
def Refusal.escape? : Refusal → Option Escape
  | .os _ => none
  | .nulByte => some .nulByte
  | .illegalVariable => some .illegalVariable

/-- What a child has collected that is no text, standard output first. -/
def Finished.fault? (finished : Finished) : Option Utf8.Fault :=
  match Utf8.decode finished.output, Utf8.decode finished.errors with
  | .error fault, _ => some fault
  | .ok _, .error fault => some fault
  | .ok _, .ok _ => none

/-- What the reply of an exchange raises, if no error is reported for it. -/
def Exchange.raised? : Exchange → Option Escape
  | ⟨.kind _, .error (.os e)⟩ => if Files.isAbsence e.cause then none else some (.os e)
  | ⟨.makeDir _, .error refusal⟩ => refusal.escape?
  | ⟨.read _, .error refusal⟩ => refusal.escape?
  | ⟨.write _ _, .error refusal⟩ => refusal.escape?
  | ⟨.workDir, .error (.os e)⟩ => some (.os e)
  | ⟨.workDir, .error _⟩ => some .nulByte
  | ⟨.launch _, .error refusal⟩ => refusal.escape?
  | ⟨.launch command, .ok finished⟩ =>
    if command.captured then finished.fault?.map .undecodable else none
  | _ => none

/-- An action fails behind a trace: with a reported error of one of the kinds, or with what the last
exchange raises. -/
inductive FailsWith (kinds : ErrorKind → Prop) (t : Trace) : Failure → Prop
  | reported {e : RunError} (h : kinds e.kind) : FailsWith kinds t (.reported e)
  | raised {before : Trace} {last : Exchange} {e : Escape} (ht : t = before ++ [last])
      (h : last.raised? = some e) : FailsWith kinds t (.escaped e)

variable {kinds : ErrorKind → Prop}

theorem FailsWith.append_left {t : Trace} {failure : Failure} (h : FailsWith kinds t failure)
    (before : Trace) : FailsWith kinds (before ++ t) failure := by
  cases h with
  | reported h => exact .reported h
  | @raised before' last e ht h => exact .raised (by rw [ht, List.append_assoc]) h

namespace Action

variable {α β : Type}

/-- An action has ended behind a trace as it may: it fails only with an error of one of the kinds or
with what its last exchange raises, and it does so if a launch raises something. -/
structure EndsGuarded (kinds : ErrorKind → Prop) (t : Trace) (x : Except Failure α) : Prop where
  fails : ∀ failure, x = .error failure → FailsWith kinds t failure
  launches : ∀ command reply e, ⟨.launch command, reply⟩ ∈ t →
    Exchange.raised? ⟨.launch command, reply⟩ = some e → x = .error (.escaped e)

/-- The action always ends as it may. -/
def Guarded (kinds : ErrorKind → Prop) (a : Action α) : Prop :=
  ∀ t x, a.run.Runs t x → EndsGuarded kinds t x

/-- In an idle action, nothing is raised by a launch. -/
theorem guarded_of_idle {a : Action α} (ha : a.Idle)
    (hfails : ∀ t failure, a.run.Runs t (.error failure) → FailsWith kinds t failure) :
    a.Guarded kinds := by
  intro t x h
  constructor
  · rintro failure rfl
    exact hfails t failure h
  · intro command reply e hmem
    exact (h.every ha _ hmem).elim

theorem guarded_pure (x : α) : (pure x : Action α).Guarded kinds :=
  guarded_of_idle every_pure fun t failure h => by simp at h

theorem guarded_fail {e : RunError} (he : kinds e.kind) : (fail e : Action α).Guarded kinds := by
  refine guarded_of_idle every_fail fun t failure h => ?_
  obtain ⟨rfl, hfailure⟩ := runs_fail.1 h
  obtain rfl := Except.error.inj hfailure
  exact .reported he

theorem guarded_ask {request : Request} (h : request.Idle) : (ask request).Guarded kinds := by
  refine guarded_of_idle (every_ask h) fun t failure h => ?_
  obtain ⟨reply, -, hx⟩ := runs_ask.1 h
  simp at hx

/-- Guarded actions are composed of guarded actions. -/
theorem guarded_bind {a : Action α} {f : α → Action β} (ha : a.Guarded kinds)
    (hf : ∀ x, (f x).Guarded kinds) : (a >>= f).Guarded kinds := by
  intro t y h
  obtain ⟨t₁, t₂, x, rfl, hx, hy⟩ | ⟨failure, hfailure, rfl⟩ := runs_bind.1 h
  · constructor
    · intro failure hfailure
      exact ((hf x t₂ y hy).fails failure hfailure).append_left t₁
    · intro command reply e hmem hraised
      rcases List.mem_append.1 hmem with hmem | hmem
      · have hok := (ha t₁ _ hx).launches command reply e hmem hraised
        simp at hok
      · exact (hf x t₂ y hy).launches command reply e hmem hraised
  · constructor
    · intro failure' hfailure'
      obtain rfl := Except.error.inj hfailure'
      exact (ha t _ hfailure).fails failure rfl
    · intro command reply e hmem hraised
      obtain rfl := Except.error.inj ((ha t _ hfailure).launches command reply e hmem hraised)
      rfl

/-- A test in front of an action that reports an error if it does not hold. -/
theorem guarded_unless {found : Bool} {e : RunError} {f : Unit → Action α} (he : kinds e.kind)
    (hf : ∀ x, (f x).Guarded kinds) :
    (if (!found) = true then fail e >>= f else f ()).Guarded kinds := by
  split
  · exact guarded_bind (guarded_fail he) hf
  · exact hf ()

end Action

open Action (guarded_pure guarded_fail guarded_ask guarded_bind guarded_unless guarded_of_idle)

namespace Files

/-- A test reports nothing: it fails at a refusal that does not say that nothing is there. -/
theorem guarded_isFile (path : Path) : (Action.orEscape (isFile path)).Guarded kinds := by
  refine guarded_of_idle (Action.every_orEscape (idle_hasKind .file path)) fun t failure h => ?_
  obtain ⟨reply, rfl, hresult⟩ := Action.runs_test h
  cases hresult with
  | refused hcause =>
    exact .raised (List.nil_append _).symm (by simp [Exchange.raised?, hcause])

theorem runs_makeDirHere {path : Path} {t : Trace} {refusal : Refusal} {e : Escape}
    (h : (makeDirHere path).Runs t (.error refusal)) (he : refusal.escape? = some e) :
    ∃ before last, t = before ++ [last] ∧ last.raised? = some e := by
  rw [makeDirHere] at h
  obtain ⟨t₁, t₂, reply, rfl, hask, hrest⟩ := Routine.runs_bind.1 h
  obtain rfl := Routine.runs_request.1 hask
  rcases reply with (os | _ | _) | _
  · simp only at hrest
    split at hrest
    · obtain ⟨rfl, hrefusal⟩ := hrest
      obtain rfl := Except.error.inj hrefusal
      simp [Refusal.escape?] at he
    · obtain ⟨t₃, t₄, found, rfl, -, hfound⟩ := Routine.runs_bind.1 hrest
      -- whatever the test finds, the refusal of the system stays what it is
      rcases found with os' | _ | _
      · obtain ⟨rfl, hrefusal⟩ := hfound
        obtain rfl := Except.error.inj hrefusal
        simp [Refusal.escape?] at he
      · obtain ⟨rfl, hrefusal⟩ := hfound
        obtain rfl := Except.error.inj hrefusal
        simp [Refusal.escape?] at he
      · simp at hfound
  · obtain ⟨rfl, hrefusal⟩ := hrest
    obtain rfl := Except.error.inj hrefusal
    exact ⟨[], _, rfl, he⟩
  · obtain ⟨rfl, hrefusal⟩ := hrest
    obtain rfl := Except.error.inj hrefusal
    exact ⟨[], _, rfl, he⟩
  · simp at hrest

theorem runs_makeDirsWithin {fuel : Nat} {path : Path} {t : Trace} {refusal : Refusal} {e : Escape}
    (h : (makeDirsWithin fuel path).Runs t (.error refusal)) (he : refusal.escape? = some e) :
    ∃ before last, t = before ++ [last] ∧ last.raised? = some e := by
  induction fuel generalizing path t with
  | zero => exact runs_makeDirHere h he
  | succ fuel ih =>
    obtain ⟨t₁, t₂, made, rfl, hmade, hrest⟩ := Routine.runs_bind.1 h
    rcases made with (os | _ | _) | _
    · simp only at hrest
      split at hrest
      · obtain ⟨t₃, t₄, parent, rfl, hparent, hretry⟩ := Routine.runs_bind.1 hrest
        rcases parent with other | _
        · obtain ⟨rfl, hrefusal⟩ := hretry
          obtain rfl := Except.error.inj hrefusal
          obtain ⟨before, last, rfl, hraises⟩ := ih hparent
          exact ⟨t₁ ++ before, last, by simp, hraises⟩
        · obtain ⟨before, last, rfl, hraises⟩ := runs_makeDirHere hretry he
          exact ⟨t₁ ++ (t₃ ++ before), last, by simp, hraises⟩
      · obtain ⟨rfl, hrefusal⟩ := hrest
        obtain rfl := Except.error.inj hrefusal
        simp [Refusal.escape?] at he
    · obtain ⟨rfl, hrefusal⟩ := hrest
      obtain rfl := Except.error.inj hrefusal
      simpa using runs_makeDirHere hmade he
    · obtain ⟨rfl, hrefusal⟩ := hrest
      obtain rfl := Except.error.inj hrefusal
      simpa using runs_makeDirHere hmade he
    · simp at hrest

/-- A refusal is reported, or the last exchange raises it. -/
theorem failsWith_reporting {α : Type} {wrap : OsError → RunError}
    (hwrap : ∀ e, kinds (wrap e).kind)
    {reply : Except Refusal α} {t before : Trace} {failure : Failure}
    (h : (Action.reporting wrap reply).run.Runs t (.error failure))
    (hreply : ∀ refusal e, reply = .error refusal → refusal.escape? = some e →
      ∃ start last, before = start ++ [last] ∧ last.raised? = some e) :
    FailsWith kinds (before ++ t) failure := by
  rcases reply with (e | _ | _) | x
  · obtain ⟨rfl, h⟩ := h
    obtain rfl := Except.error.inj h
    exact .reported (hwrap e)
  · obtain ⟨rfl, h⟩ := h
    obtain rfl := Except.error.inj h
    obtain ⟨start, last, rfl, hraises⟩ := hreply _ _ rfl rfl
    exact .raised (List.append_nil _) hraises
  · obtain ⟨rfl, h⟩ := h
    obtain rfl := Except.error.inj h
    obtain ⟨start, last, rfl, hraises⟩ := hreply _ _ rfl rfl
    exact .raised (List.append_nil _) hraises
  · obtain ⟨-, h⟩ := h
    simp at h

theorem guarded_makeDirs {wrap : OsError → RunError} (hwrap : ∀ e, kinds (wrap e).kind)
    (path : Path) : (do
      Action.reporting wrap (← ExceptT.lift (makeDirs path)) : Action Unit).Guarded kinds := by
  refine guarded_of_idle (Action.every_bind (Action.every_lift (idle_makeDirs path)) fun made =>
    Action.every_reporting made) fun t failure h => ?_
  obtain ⟨t₁, t₂, made, rfl, hmade, hrest⟩ := runs_lift_bind.1 h
  refine failsWith_reporting hwrap hrest fun refusal e hrefusal he => ?_
  subst hrefusal
  exact runs_makeDirsWithin hmade he

theorem guarded_write {wrap : OsError → RunError} (hwrap : ∀ e, kinds (wrap e).kind)
    (path : Text) (content : Bytes) : (do
      Action.reporting wrap (← Action.ask (.write path content)) : Action Unit).Guarded kinds := by
  refine guarded_of_idle (Action.every_bind (Action.every_ask trivial) fun reply =>
    Action.every_reporting reply) fun t failure h => ?_
  obtain ⟨reply, rest, rfl, hrest⟩ := runs_ask_bind.1 h
  rw [← List.singleton_append]
  refine failsWith_reporting hwrap hrest fun refusal e hrefusal he => ?_
  subst hrefusal
  exact ⟨[], _, rfl, he⟩

theorem guarded_readText {path : Path} {wrap : ReadFault → RunError}
    (hwrap : ∀ fault, kinds (wrap fault).kind) : (readText path wrap).Guarded kinds := by
  refine guarded_of_idle (idle_readText path wrap) fun t failure h => ?_
  obtain ⟨reply, rest, rfl, hrest⟩ := runs_ask_bind.1 h
  obtain ⟨t₁, t₂, bytes, rfl, -, hdecode⟩ | ⟨failure', hfailure, hx⟩ := runs_bind.1 hrest
  · have hends : Action.EndsGuarded kinds t₂ (.error failure : Except Failure Text) := by
      cases htext : Utf8.decode bytes with
      | ok text =>
        rw [htext] at hdecode
        exact guarded_pure _ t₂ _ hdecode
      | error fault =>
        rw [htext] at hdecode
        exact guarded_fail (hwrap _) t₂ _ hdecode
    exact (hends.fails failure rfl).append_left (⟨.read path.text, reply⟩ :: t₁)
  · obtain rfl := Except.error.inj hx
    rw [← List.singleton_append]
    refine failsWith_reporting (fun e => hwrap (.os e)) hfailure fun refusal e hrefusal he => ?_
    subst hrefusal
    exact ⟨[], _, rfl, he⟩

end Files

end Oneshot
