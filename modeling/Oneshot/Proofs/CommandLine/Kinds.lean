import Oneshot.Proofs.CommandLine.ExitStatus
import Oneshot.Proofs.CommandLine.Stages
import Oneshot.Proofs.Host.Raises

/-!
# The Kinds of Errors

Each stage reports errors of its own kinds. What comes before the settings reports errors of usage
and of the configuration; the cache reports errors of the file system, and so does the pipeline,
besides those of the parser, of the compiler and of a launch. So the kind of an error tells whether
the settings are known where it is reported.

* `Action.Reports`: the errors of an action are of some kinds.
* `Cache.reports_ensure`, `Settings.reports_load`: the cache and the settings.
-/

namespace Oneshot

open Action (runs_bind)

variable {kinds : ErrorKind → Prop}

namespace Action

variable {α β : Type}

/-- The errors that an action reports are of the given kinds. -/
def Reports (kinds : ErrorKind → Prop) (a : Action α) : Prop :=
  ∀ t e, a.run.Runs t (.error (.reported e)) → kinds e.kind

theorem Guarded.reports {a : Action α} (h : a.Guarded kinds) : a.Reports kinds := by
  intro t e hruns
  cases (h t _ hruns).fails _ rfl with
  | reported hkind => exact hkind

theorem Unreported.reports {a : Action α} (h : a.Unreported) : a.Reports kinds :=
  fun _ e hruns => absurd rfl (hruns.returns h e)

theorem reports_pure (x : α) : (pure x : Action α).Reports kinds :=
  (unreported_pure x).reports

theorem reports_fail {e : RunError} (h : kinds e.kind) : (fail e : Action α).Reports kinds :=
  (guarded_fail h).reports

theorem reports_escape (e : Escape) : (escape e : Action α).Reports kinds :=
  (unreported_escape e).reports

theorem reports_ask (request : Request) : (ask request).Reports kinds :=
  (unreported_ask request).reports

theorem reports_lift (r : Routine α) : Reports kinds (ExceptT.lift r : Action α) := by
  intro t e hruns
  obtain ⟨x, -, hx⟩ := runs_lift.1 hruns
  simp at hx

theorem reports_bind {a : Action α} {f : α → Action β} (ha : a.Reports kinds)
    (hf : ∀ x, (f x).Reports kinds) : (a >>= f).Reports kinds := by
  intro t e hruns
  obtain ⟨t₁, t₂, x, rfl, -, hrest⟩ | ⟨failure, hfailure, hx⟩ := runs_bind.1 hruns
  · exact hf x t₂ e hrest
  · obtain rfl := Except.error.inj hx
    exact ha t e hfailure

theorem reports_orEscape (test : Routine (Except OsError α)) :
    (orEscape test).Reports kinds := by
  refine reports_bind (reports_lift test) fun result => ?_
  cases result with
  | ok x => exact reports_pure x
  | error e => exact reports_escape _

theorem reports_reporting {wrap : OsError → RunError} (h : ∀ e, kinds (wrap e).kind)
    (reply : Except Refusal α) : (reporting wrap reply).Reports kinds := by
  rcases reply with (e | _ | _) | x
  · exact reports_fail (h e)
  · exact reports_escape _
  · exact reports_escape _
  · exact reports_pure x

/-- Only what comes out of an action, or of its handler, is reported. -/
theorem reports_tryCatch {a : Action α} {handler : Failure → Action α} (ha : a.Reports kinds)
    (hhandler : ∀ failure, (∀ e, failure = .reported e → kinds e.kind) →
      (handler failure).Reports kinds) : (tryCatch a handler).Reports kinds := by
  intro t e hruns
  obtain ⟨x, -, hx⟩ | ⟨t₁, t₂, failure, rfl, hfailure, hrest⟩ := runs_tryCatch.1 hruns
  · simp at hx
  · refine hhandler failure (fun e' he' => ?_) t₂ e hrest
    subst he'
    exact ha t₁ e' hfailure

end Action

open Action (reports_pure reports_fail reports_escape reports_ask reports_lift reports_bind
  reports_orEscape reports_reporting reports_tryCatch)

/-! ### The cache -/

namespace Cache

variable (hfilesystem : kinds .filesystem)

include hfilesystem

theorem reports_makePart (path : Path) : (makePart path).Reports kinds :=
  reports_bind (reports_lift _) fun made => reports_reporting (fun _ => hfilesystem) made

theorem reports_publishFrom (staging root : Path) : (publishFrom staging root).Reports kinds := by
  refine reports_bind (reports_ask _) fun reply => ?_
  refine reports_bind (reports_reporting (fun _ => hfilesystem) reply) fun _ => ?_
  exact reports_bind (reports_makePart hfilesystem _) fun _ => reports_ask _

theorem reports_publish (root : Path) : (publish root).Reports kinds := by
  refine reports_bind (reports_makePart hfilesystem _) fun _ => ?_
  refine reports_bind (reports_ask _) fun reply => ?_
  refine reports_bind (reports_reporting (fun _ => hfilesystem) reply) fun staging => ?_
  refine reports_bind (reports_tryCatch (reports_publishFrom hfilesystem _ root)
    fun failure hfailure => ?_) fun renamed => ?_
  · have hthrow : (throw failure : Action (Except Refusal Unit)).Reports kinds := by
      intro t e hruns
      obtain ⟨-, hx⟩ := Action.runs_throw.1 hruns
      exact hfailure e (Except.error.inj hx).symm
    cases failure with
    | reported e => exact reports_bind (reports_ask _) fun _ => hthrow
    | escaped e => exact reports_bind (reports_pure ()) fun _ => hthrow
  · rcases renamed with (e | _ | _) | _
    · refine reports_bind (reports_ask _) fun _ => reports_bind (reports_orEscape _) fun found => ?_
      cases found with
      | true => exact reports_pure ()
      | false => exact reports_fail hfilesystem
    · exact reports_escape _
    · exact reports_escape _
    · exact reports_pure ()

theorem reports_complete (root : Path) : (complete root).Reports kinds := by
  refine reports_bind (reports_makePart hfilesystem _) fun _ => ?_
  refine reports_bind (reports_bind (Files.guarded_readText fun _ => hfilesystem).reports
    fun text => ?_) fun _ => reports_pure _
  split
  · exact reports_fail hfilesystem
  · exact reports_pure text

/-- **The cache** reports errors of the file system. -/
theorem reports_ensure (root : Path) : (ensure root).Reports kinds := by
  have hcomplete := reports_complete hfilesystem root
  rw [ensure_eq]
  refine reports_bind (reports_orEscape _) fun found => ?_
  cases found with
  | true => exact hcomplete
  | false => exact reports_bind (reports_publish hfilesystem root) fun _ => hcomplete

end Cache

/-! ### The settings -/

/-- **The settings** report errors of the configuration. -/
theorem Settings.reports_load (hconfig : kinds .config) (cacheRoot : Option Path)
    (vars : Variables) : (load cacheRoot vars).Reports kinds := by
  have hfile : ∀ file, (fileLayer file).Reports kinds := by
    intro file
    refine reports_bind (reports_orEscape _) fun found => ?_
    cases found with
    | false => exact reports_pure _
    | true =>
      refine reports_bind (reports_ask _) fun reply => ?_
      refine reports_bind (reports_reporting (fun _ => hconfig) reply) fun bytes => ?_
      split
      · exact reports_escape _
      · split
        · exact reports_pure _
        · exact reports_escape _
        · exact reports_fail hconfig
  have hchecked : ∀ file, (checked vars file).Reports kinds := by
    intro file
    unfold checked
    split
    · exact reports_pure _
    · exact reports_bind (reports_ask _) fun _ => reports_fail hconfig
  cases cacheRoot with
  | none =>
    rw [load_none]
    exact hchecked []
  | some root =>
    rw [load_some]
    exact reports_bind (hfile _) hchecked

namespace CommandLine

/-- What comes before the settings reports errors of usage and of the configuration. -/
theorem reports_loading (husage : kinds .usage) (hconfig : kinds .config) (script : Option Path)
    (root : Path) : (loading script root).Reports kinds := by
  have hscript : (requireScript script).Reports kinds := by
    unfold requireScript
    split
    · exact reports_fail husage
    · split
      · exact reports_pure _
      · next e he =>
        refine reports_fail ?_
        rw [checkScript] at he
        split at he
        · simp at he
        · obtain rfl := Except.error.inj he
          exact husage
  refine reports_bind hscript fun script => reports_bind (reports_ask _) fun vars => ?_
  exact reports_bind (Settings.reports_load hconfig _ vars) fun _ => reports_pure _

end CommandLine

end Oneshot
