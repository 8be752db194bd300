import Oneshot.Proofs.Cache.History
import Oneshot.Proofs.CommandLine.Kinds

/-!
# How Making a Cache Fails

A call that asks for the cache ends with a cache, with an error of the file system, or with what
nothing expects. The requests that make something and the one that reads the prelude are guarded:
whatever the system refuses there is an error of the file system. The two tests whether the cache is
there are not guarded, nor is a path with a NUL, which no system call takes.

What escapes is described by the exchanges that lead to it, stage by stage (`PublishEscapes`,
`EnsureEscapes`). Behind the tests, nothing escapes for a path without NUL.

Where a directory stands, a call takes it for the cache: it makes the directory for libraries, if
that is missing, and then reads the prelude. The order of these two steps decides what a call leaves
behind that fails. If the directory for libraries cannot be made, nothing has happened. If the
prelude cannot be used, the new directory for libraries stays, in a directory that is no cache.

* `Volume.contained_complete`: nothing escapes behind the tests.
* `Volume.publish_escapes`, `Volume.ensure_escapes`: what escapes at all.
* `Volume.ensure_ends`: how a call ends.
* `Volume.rejects_of_calls`: how a call on a directory fails.
* `Volume.rejected_unchanged_iff`: when it leaves everything as it was, and what it leaves behind
  otherwise.
-/

namespace Oneshot

open Virtual (Place)
open Action (runs_bind runs_lift_bind runs_ask_bind runs_tryCatch)

variable {root : Path} {t : Trace} {e : Escape}

namespace Cache

/-- What the name of a staging directory begins with. -/
def stagingLabel (root : Path) : Text :=
  ['.'] ++ root.name ++ ['-']

/-- Fills a staging directory and renames it; if that fails, the directory is discarded. -/
def attempt (staging root : Path) : Action (Except Refusal Unit) :=
  tryCatch (publishFrom staging root) fun failure => do
    match failure with
    | .reported _ => Action.ask (.discard staging.text)
    | .escaped _ => pure ()
    throw failure

/-- What becomes of the reply to the rename: if it is refused, the staging directory is discarded,
and another run may have been faster. -/
def settle (staging root : Path) (renamed : Except Refusal Unit) : Action Unit := do
  match renamed with
  | .ok () => return ()
  | .error (.os e) =>
    Action.ask (.discard staging.text)
    if ← Action.orEscape (Files.isDir root) then return ()
    else Action.fail (.cacheNotCreated root e)
  | .error _ => Action.escape .nulByte

theorem publish_eq (root : Path) : publish root = (do
    makePart root.parent
    let staging ← Action.reporting (.cacheNotCreated root)
      (← Action.ask (.makeStaging root.parent.text (stagingLabel root)))
    let renamed ← attempt (Path.ofText staging) root
    settle (Path.ofText staging) root renamed) :=
  rfl

/-- Along a trace, publishing a cache is ended by what nothing expects. -/
inductive PublishEscapes (root : Path) : Trace → Escape → Prop
  /-- The path of the directory above holds a NUL. -/
  | unplaced (hnul : '\x00' ∈ root.parent.text) :
      PublishEscapes root [⟨.makeDir root.parent.text, .error .nulByte⟩] .nulByte
  /-- The name of the cache holds a NUL. -/
  | unstaged {made : Trace} (hnul : '\x00' ∈ root.name)
      (hmade : (makePart root.parent).run.Runs made (.ok ())) :
      PublishEscapes root
        (made ++ [⟨.makeStaging root.parent.text (stagingLabel root), .error .nulByte⟩]) .nulByte
  /-- The rename is refused, and so is the test whether another run has been faster. -/
  | untold {made filled : Trace} {staging : Text} {refusal e : OsError}
      (hmade : (makePart root.parent).run.Runs made (.ok ()))
      (hfilled : (publishFrom (Path.ofText staging) root).run.Runs filled
        (.ok (.error (.os refusal))))
      (hcause : Files.isAbsence e.cause = false) :
      PublishEscapes root
        (made ++ ⟨.makeStaging root.parent.text (stagingLabel root), .ok staging⟩ :: filled ++
          [⟨.discard (Path.ofText staging).text, ()⟩, ⟨.kind root.text, .error (.os e)⟩]) (.os e)

/-- Along a trace, a call is ended by what nothing expects. -/
inductive EnsureEscapes (root : Path) : Trace → Escape → Prop
  /-- The test is refused, and not because nothing is there. -/
  | untested {e : OsError} (hcause : Files.isAbsence e.cause = false) :
      EnsureEscapes root [⟨.kind root.text, .error (.os e)⟩] (.os e)
  | unpublished {reply : Except Refusal FileKind} {t : Trace} {e : Escape}
      (htest : TestResult .directory reply (.ok false)) (h : PublishEscapes root t e) :
      EnsureEscapes root (⟨.kind root.text, reply⟩ :: t) e

end Cache

open Cache (PublishEscapes EnsureEscapes)

namespace Volume

variable {α β : Type} {v v' v₁ : Volume} {p : Path}

/-! ### Guarded requests -/

/-- However its requests are answered, nothing escapes from the action. -/
def Contained (a : Action α) (v : Volume) : Prop :=
  AfterAction (fun _ _ => True) (fun failure _ => ∃ e, failure = .reported e) a v

theorem Contained.not_escaped {a : Action α} (h : Contained a v)
    (hruns : a.run.Runs t (.error (.escaped e))) (halong : v.Along t v') : False := by
  obtain ⟨reported, heq⟩ := After.of_runs h hruns halong
  simp at heq

theorem Contained.bind {a : Action α} {f : α → Action β} (ha : Contained a v)
    (hf : ∀ x v', Contained (f x) v') : Contained (a >>= f) v :=
  afterAction_bind ha fun x v' _ => hf x v'

/-- A directory whose path holds no NUL is made, or an error is reported. -/
theorem contained_makePart (hp : p.Proper) (hnul : '\x00' ∉ p.text) :
    Contained (Cache.makePart p) v := by
  refine (afterAction_makePart (E := fun failure _ => ∃ e, failure = .reported e)
    (after_makeDirs hp) ?_).imp (fun _ _ _ => trivial) fun _ _ h => h
  intro refusal v' hmade failure hreported
  obtain ⟨os, rfl⟩ := hmade.refused refusal rfl hnul
  exact ⟨_, hreported os rfl⟩

theorem contained_loadPrelude (hnul : '\x00' ∉ p.text) : Contained (Cache.loadPrelude p) v :=
  (afterAction_loadPrelude_fails hnul).imp (fun _ _ h => h) fun _ _ ⟨e, he, _⟩ => ⟨e, he⟩

/-- **Nothing escapes behind the tests**, unless the path holds a NUL. -/
theorem contained_complete (hroot : root.Proper) (hnul : '\x00' ∉ root.text) :
    Contained (Cache.complete root) v := by
  rw [Cache.complete, Path.child_eq_below _ Path.isName_artifacts,
    Path.child_eq_below _ Path.isName_prelude]
  refine (contained_makePart (hroot.below Path.isName_artifacts)
    (Path.nul_not_mem_text_below hnul (by decide))).bind fun _ _ => ?_
  refine (contained_loadPrelude (Path.nul_not_mem_text_below hnul (by decide))).bind fun _ _ => ?_
  exact afterAction_pure trivial

/-! ### Paths with a NUL -/

theorem answers_makeDir_nul {text : Text} {reply : Except Refusal Unit} (hnul : '\x00' ∈ text)
    (h : v.Answers (.makeDir text) reply v') : reply = .error .nulByte := by
  have hfits : ¬ Fits text := fun hfits => hfits.2 hnul
  have hslot : v.slot text = none := if_neg hfits
  have hfree : ¬ v.Taken text := by
    rintro (h | ⟨place, hplace, -⟩)
    · exact h (if_neg hfits)
    · simp [hslot] at hplace
  obtain ⟨-, hrefused⟩ | ⟨place, searchable, hplace, -⟩ := h.2 hfree
  · rwa [Refused, if_pos hnul] at hrefused
  · simp [hslot] at hplace

theorem runs_makeDirHere_nul (hnul : '\x00' ∈ p.text) {x : Except Refusal Unit}
    (hruns : (Files.makeDirHere p).Runs t x) (halong : v.Along t v') :
    t = [⟨.makeDir p.text, .error .nulByte⟩] ∧ x = .error .nulByte := by
  obtain ⟨t₁, t₂, reply, rfl, hask, hrest⟩ := Routine.runs_bind.1 hruns
  obtain rfl := Routine.runs_request.1 hask
  obtain ⟨v₁, hanswers, -⟩ := halong
  obtain rfl := answers_makeDir_nul hnul hanswers
  obtain ⟨rfl, rfl⟩ := hrest
  exact ⟨rfl, rfl⟩

/-- No directory is made for a path with a NUL, nor any above it. -/
theorem runs_makeDirs_nul (hnul : '\x00' ∈ p.text) {x : Except Refusal Unit}
    (hruns : (Files.makeDirs p).Runs t x) (halong : v.Along t v') :
    t = [⟨.makeDir p.text, .error .nulByte⟩] ∧ x = .error .nulByte := by
  rw [Files.makeDirs] at hruns
  cases hfuel : p.parts.length with
  | zero =>
    rw [hfuel] at hruns
    exact runs_makeDirHere_nul hnul hruns halong
  | succ fuel =>
    rw [hfuel] at hruns
    obtain ⟨t₁, t₂, made, rfl, hmade, hrest⟩ := Routine.runs_bind.1 hruns
    obtain ⟨v₁, halong₁, -⟩ := along_append.1 halong
    obtain ⟨rfl, rfl⟩ := runs_makeDirHere_nul hnul hmade halong₁
    obtain ⟨rfl, rfl⟩ := hrest
    exact ⟨rfl, rfl⟩

/-- What escapes where a directory is to be made: a NUL in its path. -/
theorem runs_makePart_escaped (hp : p.Proper)
    (hruns : (Cache.makePart p).run.Runs t (.error (.escaped e))) (halong : v.Along t v') :
    '\x00' ∈ p.text ∧ t = [⟨.makeDir p.text, .error .nulByte⟩] ∧ e = .nulByte := by
  by_cases hnul : '\x00' ∈ p.text
  swap
  · exact ((contained_makePart hp hnul).not_escaped hruns halong).elim
  obtain ⟨t₁, t₂, made, rfl, hmade, hrest⟩ := runs_lift_bind.1 hruns
  obtain ⟨v₁, halong₁, -⟩ := along_append.1 halong
  obtain ⟨rfl, rfl⟩ := runs_makeDirs_nul hnul hmade halong₁
  obtain ⟨rfl, hx⟩ := hrest
  exact ⟨hnul, rfl, Failure.escaped.inj (Except.error.inj hx)⟩

/-! ### Publishing -/

/-- What fails in a staging directory is reported. -/
theorem runs_attempt {staging : Path} {place : Place} {x : Except Failure (Except Refusal Unit)}
    (h : AfterAction (PublishedFrom v staging root place) (StillStaged v staging place)
      (Cache.publishFrom staging root) v₁)
    (hruns : (Cache.attempt staging root).run.Runs t x) (halong : v₁.Along t v') :
    (∃ e, x = .error (.reported e)) ∨ ∃ renamed, x = .ok renamed ∧
      (renamed = .ok () ∨ ∃ e, renamed = .error (.os e)) ∧
      (Cache.publishFrom staging root).run.Runs t (.ok renamed) := by
  obtain ⟨renamed, hfrom, rfl⟩ | ⟨t₁, t₂, failure, rfl, hfrom, hhandler⟩ := runs_tryCatch.1 hruns
  · refine .inr ⟨renamed, rfl, ?_, hfrom⟩
    rcases h.of_runs_ok hfrom halong with ⟨rfl, -⟩ | ⟨hrefused, -⟩
    · exact .inl rfl
    · exact .inr hrefused
  · obtain ⟨v₂, halong₂, -⟩ := along_append.1 halong
    obtain ⟨⟨e, rfl⟩, -⟩ := h.of_runs_error hfrom halong₂
    obtain ⟨_, rest, rfl, -, rfl⟩ := runs_ask_bind.1 hhandler
    exact .inl ⟨e, rfl⟩

/-- Behind the rename, nothing escapes but what the second test is refused with. -/
theorem runs_settle_escaped {staging : Path} {renamed : Except Refusal Unit}
    (h : renamed = .ok () ∨ ∃ e, renamed = .error (.os e))
    (hruns : (Cache.settle staging root renamed).run.Runs t (.error (.escaped e))) :
    ∃ refusal os, renamed = .error (.os refusal) ∧ Files.isAbsence os.cause = false ∧
      t = [⟨.discard staging.text, ()⟩, ⟨.kind root.text, .error (.os os)⟩] ∧ e = .os os := by
  rcases h with rfl | ⟨refusal, rfl⟩
  · simp [Cache.settle] at hruns
  obtain ⟨_, rest, rfl, htest⟩ := runs_ask_bind.1 hruns
  obtain ⟨reply, rest, rfl, ⟨found, -, hrest⟩ | ⟨failure, hresult, rfl, hx⟩⟩ :=
    Action.runs_test_bind.1 htest
  · cases found <;> simp at hrest
  · obtain rfl := Except.error.inj hx
    cases hresult with
    | @refused os hcause => exact ⟨refusal, os, rfl, hcause, rfl, rfl⟩

/-- What escapes behind a staging directory: the rename is refused, and so is the test whether
another cache has come first. -/
theorem runs_settling_escaped {staging : Path} {place : Place}
    (h : AfterAction (PublishedFrom v staging root place) (StillStaged v staging place)
      (Cache.publishFrom staging root) v₁)
    (hruns : (Cache.attempt staging root >>= Cache.settle staging root).run.Runs t
      (.error (.escaped e))) (halong : v₁.Along t v') :
    ∃ filled refusal os, (Cache.publishFrom staging root).run.Runs filled
        (.ok (.error (.os refusal))) ∧ Files.isAbsence os.cause = false ∧
      t = filled ++ [⟨.discard staging.text, ()⟩, ⟨.kind root.text, .error (.os os)⟩] ∧
      e = .os os := by
  obtain ⟨t₁, t₂, renamed, rfl, hattempt, hsettle⟩ | ⟨failure, hattempt, hx⟩ := runs_bind.1 hruns
  · obtain ⟨v₂, halong₂, -⟩ := along_append.1 halong
    obtain ⟨_, hx⟩ | ⟨_, hx, hrenamed, hfilled⟩ := runs_attempt h hattempt halong₂
    · simp at hx
    · obtain rfl := Except.ok.inj hx
      obtain ⟨refusal, os, rfl, hcause, rfl, rfl⟩ := runs_settle_escaped hrenamed hsettle
      exact ⟨t₁, refusal, os, hfilled, hcause, rfl, rfl⟩
  · obtain rfl := Except.error.inj hx
    obtain ⟨e', he'⟩ | ⟨_, hx, -⟩ := runs_attempt h hattempt halong
    · simp at he'
    · simp at hx

/-- **What escapes from publishing a cache.** -/
theorem publish_escapes (hroot : root.Proper)
    (hruns : (Cache.publish root).run.Runs t (.error (.escaped e))) (halong : v.Along t v') :
    PublishEscapes root t e := by
  have hparent := hroot.parent
  rw [Cache.publish_eq] at hruns
  obtain ⟨made, rest, _, rfl, hmade, hstage⟩ | ⟨failure, hmade, hx⟩ := runs_bind.1 hruns
  swap
  · obtain rfl := Except.error.inj hx
    obtain ⟨hnul, rfl, rfl⟩ := runs_makePart_escaped hparent hmade halong
    exact .unplaced hnul
  obtain ⟨v₁, halong₁, hrest⟩ := along_append.1 halong
  have hafter : AfterAction (fun _ v' => Made v root.parent (.ok ()) v') (fun _ _ => True)
      (Cache.makePart root.parent) v :=
    afterAction_makePart (after_makeDirs hparent) fun _ _ _ _ _ => trivial
  have hplace : '\x00' ∉ root.parent.text :=
    ((hafter.of_runs_ok hmade halong₁).directory rfl).1.2
  obtain ⟨reply, rest, rfl, hfilling⟩ := runs_ask_bind.1 hstage
  obtain ⟨v₂, hanswers, hrest⟩ := hrest
  obtain ⟨rfl, hrefused⟩ | ⟨staging, dir, name, rfl, hdir, hlabel, hstaged⟩ :=
    staged_of_answers hparent hanswers
  · by_cases hnul : '\x00' ∈ root.name
    · rw [Refused, if_pos (by simp [Cache.stagingLabel, hnul])] at hrefused
      obtain rfl := hrefused
      obtain ⟨rfl, hx⟩ : rest = [] ∧ _ := hfilling
      obtain rfl := Failure.escaped.inj (Except.error.inj hx)
      exact .unstaged hnul hmade
    · obtain ⟨os, rfl⟩ := hrefused.os (by simp [Cache.stagingLabel, hplace, hnul])
      obtain ⟨-, hx⟩ : rest = [] ∧ _ := hfilling
      simp at hx
  have hnul : '\x00' ∉ root.text := fun hnul => by
    rcases Path.nul_mem_of_nul_mem_text hnul with hnul | hnul
    · exact hplace hnul
    · exact hlabel (by simp [Cache.stagingLabel, hnul])
  have hpublish := afterAction_publishFrom (Path.proper_ofText staging) hroot hnul hdir hstaged
  obtain ⟨filled, refusal, os, hfilled, hcause, rfl, rfl⟩ :=
    runs_settling_escaped hpublish hfilling hrest
  rw [← List.cons_append, ← List.append_assoc]
  exact .untold hmade hfilled hcause

theorem runs_publish_of_escapes (h : PublishEscapes root t e) :
    (Cache.publish root).run.Runs t (.error (.escaped e)) := by
  rw [Cache.publish_eq]
  cases h with
  | unplaced =>
    have hdirs : (Files.makeDirs root.parent).Runs [⟨.makeDir root.parent.text, .error .nulByte⟩]
        (.error .nulByte) := by
      rw [Files.makeDirs]
      cases root.parent.parts.length <;> exact ⟨_, _, rfl, rfl, rfl⟩
    exact runs_bind.2 (.inr ⟨_, runs_lift_bind.2 ⟨_, [], _, rfl, hdirs, rfl, rfl⟩, rfl⟩)
  | unstaged _ hmade =>
    exact runs_bind.2 (.inl ⟨_, _, (), rfl, hmade, runs_ask_bind.2 ⟨_, [], rfl, rfl, rfl⟩⟩)
  | @untold made filled staging refusal e hmade hfilled hcause =>
    rw [List.append_assoc, List.cons_append]
    refine runs_bind.2 (.inl ⟨_, _, (), rfl, hmade, runs_ask_bind.2 ⟨_, _, rfl, ?_⟩⟩)
    refine runs_bind.2 (.inl ⟨[], _, staging, rfl, ⟨rfl, rfl⟩, ?_⟩)
    refine runs_bind.2 (.inl ⟨_, _, _, rfl, runs_tryCatch.2 (.inl ⟨_, hfilled, rfl⟩), ?_⟩)
    refine runs_ask_bind.2 ⟨(), _, rfl, ?_⟩
    exact Action.runs_test_bind.2 ⟨_, [], rfl, .inr ⟨_, .refused hcause, rfl, rfl⟩⟩

/-! ### Calls -/

/-- **What escapes from a call.** -/
theorem ensure_escapes (hroot : root.Proper)
    (hruns : (Cache.ensure root).run.Runs t (.error (.escaped e))) (halong : v.Along t v') :
    EnsureEscapes root t e := by
  have hcomplete : ∀ {v₁ : Volume} {t : Trace}, v₁.IsDirectory root → v₁.Along t v' →
      ¬ (Cache.complete root).run.Runs t (.error (.escaped e)) := fun hdirectory halong hruns =>
    (contained_complete hroot hdirectory.1.2).not_escaped hruns halong
  rw [Cache.ensure_eq] at hruns
  obtain ⟨t₁, t₂, found, rfl, htest, hrest⟩ | ⟨failure, htest, hx⟩ := runs_bind.1 hruns
  swap
  · obtain rfl := Except.error.inj hx
    obtain ⟨reply, rfl, hresult⟩ := Action.runs_test htest
    cases hresult with
    | refused hcause => exact .untested hcause
  obtain ⟨v₁, halong₁, halong₂⟩ := along_append.1 halong
  obtain ⟨rfl, hfound⟩ := (afterAction_isDir hroot).of_runs_ok htest halong₁
  cases found with
  | true => exact absurd hrest (hcomplete (hfound.1 rfl) halong₂)
  | false =>
    obtain ⟨reply, rfl, hresult⟩ := Action.runs_test htest
    obtain ⟨t₃, t₄, _, rfl, hpublish, hrest⟩ | ⟨failure, hpublish, hx⟩ := runs_bind.1 hrest
    · obtain ⟨v₂, halong₃, halong₄⟩ := along_append.1 halong₂
      obtain ⟨v₃, -, ⟨rfl, hdirectory⟩ | ⟨top, hpublished⟩⟩ :=
        (afterAction_publish hroot).of_runs_ok hpublish halong₃
      · exact absurd hrest (hcomplete hdirectory halong₄)
      · exact absurd hrest (hcomplete (hpublished.isDirectory hroot) halong₄)
    · obtain rfl := Except.error.inj hx
      exact .unpublished hresult (publish_escapes hroot hpublish halong₂)

theorem runs_ensure_of_escapes (h : EnsureEscapes root t e) :
    (Cache.ensure root).run.Runs t (.error (.escaped e)) := by
  cases h with
  | untested hcause =>
    exact Action.runs_test_bind.2 ⟨_, [], rfl, .inr ⟨_, .refused hcause, rfl, rfl⟩⟩
  | unpublished htest h =>
    refine Action.runs_test_bind.2 ⟨_, _, rfl, .inl ⟨false, htest, ?_⟩⟩
    exact runs_bind.2 (.inr ⟨_, runs_publish_of_escapes h, rfl⟩)

/-- **How a call ends**, in whatever state the volume is. It may end with a cache, which is then
complete and readable; something escapes exactly if it is about the tests or about a NUL; anything
else is reported, as an error of the file system. -/
theorem ensure_ends (hroot : root.Proper) {x : Except Failure Cache}
    (hruns : (Cache.ensure root).run.Runs t x) (halong : v.Along t v') :
    (∀ cache, x = .ok cache → Ready root cache v') ∧
    (∀ e, x = .error (.reported e) → e.kind = .filesystem) ∧
    ∀ e, x = .error (.escaped e) ↔ EnsureEscapes root t e := by
  refine ⟨?_, ?_, fun e => ⟨?_, fun he => hruns.iff_eq.1 (runs_ensure_of_escapes he)⟩⟩
  · rintro cache rfl
    exact ((afterAction_ensure hroot).of_runs_ok hruns halong).1
  · have hreports : (Cache.ensure root).Reports (Eq .filesystem) := Cache.reports_ensure rfl root
    rintro e rfl
    exact (hreports t e hruns).symm
  · rintro rfl
    exact ensure_escapes hroot hruns halong

/-- A name with a NUL, in an empty directory: the staging directory cannot be named. -/
theorem ensure_ends_nul :
    let root : Path := ⟨[], ["a\x00"]⟩
    ∃ t x, root.Proper ∧ (Cache.ensure root).run.Runs t x ∧ bare.Along t bare ∧
      EnsureEscapes root t .nulByte ∧ x = .error (.escaped .nulByte) := by
  intro root
  let there : Refusal := .os ⟨.alreadyThere, none, none⟩
  let made : Trace := [⟨.makeDir root.parent.text, .error there⟩,
    ⟨.kind root.parent.text, .ok .directory⟩]
  have hproper : root.Proper := ⟨.inl rfl, by simp [root, Path.IsName, Path.isKept]⟩
  have hmade : (Cache.makePart root.parent).run.Runs made (.ok ()) :=
    runs_lift_bind.2 ⟨made, [], .ok (), rfl, ⟨_, _, rfl, _, _, rfl, rfl, rfl⟩, rfl, rfl⟩
  have hescapes := EnsureEscapes.unpublished .nulByte (PublishEscapes.unstaged (by decide) hmade)
  have hruns := runs_ensure_of_escapes hescapes
  have halong : bare.Along (⟨.kind root.text, .error .nulByte⟩ :: (made ++
      [⟨.makeStaging root.parent.text (Cache.stagingLabel root), .error .nulByte⟩])) bare := by
    refine ⟨bare, ⟨rfl, ?_⟩, bare, answers_makeDir_there (by decide) rfl, bare, ⟨rfl, ?_⟩, bare,
      .inl ⟨rfl, ?_⟩, rfl⟩
    · have hlook : bare.lookUp root.text = none := by decide +kernel
      rw [hlook, Refused, if_pos (by decide)]
    · have hlook : bare.lookUp root.parent.text = some (.directory true) := by decide +kernel
      rw [hlook]
    · rw [Refused, if_pos (by decide)]
  obtain ⟨-, -, hescaped⟩ := ensure_ends hproper hruns halong
  exact ⟨_, _, hproper, hruns, halong, hescapes, (hescaped _).2 hescapes⟩

/-- A name that is longer than the system takes ends a call neither with a cache nor with an error
of the file system. -/
theorem long_name_escapes :
    ¬ ∀ (root : Path) (v v' : Volume) (t : Trace) (x : Except Failure Cache), root.Proper →
      (Cache.ensure root).run.Runs t x → v.Along t v' →
        (∃ cache, x = .ok cache) ∨ ∃ e, x = .error (.reported e) ∧ e.kind = .filesystem := by
  intro h
  let root : Path := ⟨[], [List.replicate 300 'x']⟩
  have hname : Path.IsName (List.replicate 300 'x') := ⟨by decide +kernel, by decide +kernel⟩
  have hproper : root.Proper := ⟨.inl rfl, fun part hpart => List.mem_singleton.1 hpart ▸ hname⟩
  have hescapes : EnsureEscapes root
      [⟨.kind root.text, .error (.os ⟨.nameTooLong, some root.text, none⟩)⟩]
      (.os ⟨.nameTooLong, some root.text, none⟩) := .untested rfl
  have halong : bare.Along [⟨.kind root.text, .error (.os ⟨.nameTooLong, some root.text, none⟩)⟩]
      bare := by
    refine ⟨bare, ⟨rfl, ?_⟩, rfl⟩
    have hlook : bare.lookUp root.text = none := by decide +kernel
    rw [hlook, Refused, if_neg (by decide +kernel)]
    exact ⟨_, rfl⟩
  have hends := h root bare bare _ _ hproper (runs_ensure_of_escapes hescapes) halong
  simp at hends

end Volume

namespace Volume

variable {v v' : Volume} {failure : Failure}

/-! ### Directories that are rejected -/

/-- **How a call on a directory fails.** -/
theorem rejects_of_calls (hroot : root.Proper) (hdirectory : v.IsDirectory root)
    (h : Calls root v (.error failure) v') : ∃ e, failure = .reported e ∧ Rejects root v e v' := by
  obtain ⟨t, hruns, halong⟩ := h
  have hafter : AfterAction (fun _ _ => True) (fun failure v' => ∃ e, failure = .reported e ∧
      Rejects root v e v') (Cache.ensure root) v := by
    rw [Cache.ensure_eq]
    refine afterAction_bind ((afterAction_isDir hroot).imp (fun _ _ h => h) ?_) ?_
    · rintro _ v₁ ⟨-, hnot⟩
      exact absurd hdirectory hnot
    rintro found v₁ ⟨rfl, hfound⟩
    obtain rfl := hfound.2 hdirectory
    exact (afterAction_complete hroot hdirectory).imp (fun _ _ _ => trivial) fun _ _ h => h
  exact hafter.of_runs_error hruns halong

/-- What has been added where a directory for libraries has been made. -/
theorem exists_of_slot_artifacts (hroot : root.Proper) {place : Place}
    (hslot : v.slot (root.below "dy-cache").text = some place) :
    ∃ top, v.find root = some top ∧ place = top ++ ["dy-cache".toList] := by
  obtain ⟨top, htop, -, -, hplace⟩ :=
    (spot_below root (by decide)).1 (slot_text (hroot.below Path.isName_artifacts) hslot).2
  exact ⟨top, htop, hplace⟩

/-! ### An empty directory -/

theorem entry_emptyDirectory :
    ∃ searchable, emptyDirectory.entry ["b"] = some (.directory searchable) :=
  ⟨true, rfl⟩

theorem artifacts_emptyDirectory : emptyDirectory.entry (["b"] ++ ["dy-cache"]) = none :=
  rfl

/-- The empty directory with a new directory for libraries in it. -/
def emptyRejected : Volume :=
  emptyDirectory.put ["b"] "dy-cache" (.directory true) entry_emptyDirectory
    artifacts_emptyDirectory

/-- An empty directory is rejected, and is not empty any more. -/
theorem calls_emptyDirectory :
    let root : Path := ⟨[], ["b"]⟩
    Calls root emptyDirectory (.error (.reported (.preludeNotRead (root.child "prelude")
      (.os ⟨.noEntry, none, none⟩)))) emptyRejected := by
  intro root
  refine ⟨[⟨.kind root.text, .ok .directory⟩, ⟨.makeDir (root.child "dy-cache").text, .ok ()⟩,
    ⟨.read (root.child "prelude").text, .error (.os ⟨.noEntry, none, none⟩)⟩], ?_, ?_⟩
  · exact ⟨_, _, rfl, _, _, rfl, _, _, rfl, rfl, rfl⟩
  · refine ⟨emptyDirectory, ⟨rfl, ?_⟩, emptyRejected, ?_, emptyRejected, ⟨rfl, ?_⟩, rfl⟩
    · have hlook : emptyDirectory.lookUp root.text = some (.directory true) := by decide +kernel
      rw [hlook]
    · exact answers_makeDir_new entry_emptyDirectory artifacts_emptyDirectory (by decide +kernel)
        (by decide +kernel)
    · have hlook : emptyRejected.lookUp (root.child "prelude").text = none := by decide +kernel
      rw [hlook]
      exact ⟨_, rfl⟩

theorem proper_emptyDirectory : (⟨[], ["b"]⟩ : Path).Proper :=
  ⟨.inl rfl, by simp [Path.IsName, Path.isKept]⟩

theorem isDirectory_emptyDirectory : emptyDirectory.IsDirectory ⟨[], ["b"]⟩ :=
  ⟨by decide +kernel, ["b"], true, by decide +kernel, rfl⟩

theorem emptyRejected_ne : emptyRejected ≠ emptyDirectory :=
  Adds.ne ⟨rfl, rfl⟩ artifacts_emptyDirectory

/-! ### What is left behind -/

/-- **A directory that is rejected is left as it was** exactly if it has a directory for libraries
or none can be made. Otherwise that directory is what is left behind, beside a prelude that cannot
be used. -/
theorem rejected_unchanged_iff (hroot : root.Proper) (hdirectory : v.IsDirectory root)
    (h : Calls root v (.error failure) v') :
    ∃ e, failure = .reported e ∧ e.kind = .filesystem ∧
      (v' = v ↔ v.IsDirectory (root.below "dy-cache") ∨
        ∃ os, e = .cacheNotCreated (root.below "dy-cache") os) ∧
      (v' ≠ v → (∀ prelude, ¬ v'.PreludeAt (root.below "prelude") prelude) ∧
        ∃ top searchable, v.find root = some top ∧ v.entry (top ++ ["dy-cache".toList]) = none ∧
          v.Adds (top ++ ["dy-cache".toList]) (.directory searchable) v') := by
  obtain ⟨e, rfl, hrejects⟩ := rejects_of_calls hroot hdirectory h
  obtain ⟨t, hruns, -⟩ := h
  have hreports : (Cache.ensure root).Reports (Eq .filesystem) := Cache.reports_ensure rfl root
  refine ⟨e, rfl, (hreports t e hruns).symm, ?_⟩
  cases hrejects with
  | @artifacts os hnot => exact ⟨iff_of_true rfl (.inr ⟨os, rfl⟩), fun hne => absurd rfl hne⟩
  | prelude hmade hpath hunusable =>
    cases hmade with
    | there hthere => exact ⟨iff_of_true rfl (.inl hthere), fun hne => absurd rfl hne⟩
    | @added place searchable _ hnot hslot habsent hadds =>
      have hne : v' ≠ v := hadds.ne habsent
      have hother : ¬ ∃ os, e = .cacheNotCreated (root.below "dy-cache") os := by
        rintro ⟨os, rfl⟩
        have hsame : root.below "dy-cache" = root.below "prelude" := Option.some.inj hpath
        simp [Path.below] at hsame
      obtain ⟨top, htop, rfl⟩ := exists_of_slot_artifacts hroot hslot
      exact ⟨iff_of_false hne (not_or.2 ⟨hnot, hother⟩), fun _ =>
        ⟨hunusable, top, searchable, htop, habsent, hadds⟩⟩

/-- What is left behind in an empty directory. -/
theorem rejected_unchanged_iff_empty :
    let root : Path := ⟨[], ["b"]⟩
    root.Proper ∧ emptyDirectory.IsDirectory root ∧ ∃ failure v',
      Calls root emptyDirectory (.error failure) v' ∧ v' ≠ emptyDirectory ∧
      ¬ emptyDirectory.IsDirectory (root.below "dy-cache") ∧
      ∃ top searchable, emptyDirectory.find root = some top ∧
        emptyDirectory.Adds (top ++ ["dy-cache".toList]) (.directory searchable) v' := by
  intro root
  obtain ⟨e, -, -, hiff, hleft⟩ :=
    rejected_unchanged_iff proper_emptyDirectory isDirectory_emptyDirectory calls_emptyDirectory
  obtain ⟨-, top, searchable, hfind, -, hadds⟩ := hleft emptyRejected_ne
  exact ⟨proper_emptyDirectory, isDirectory_emptyDirectory, _, _, calls_emptyDirectory,
    emptyRejected_ne, fun hthere => emptyRejected_ne (hiff.2 (.inl hthere)), top, searchable,
    hfind, hadds⟩

/-- A directory that is rejected is not always as it was. -/
theorem rejected_changes :
    ¬ ∀ (root : Path) (v v' : Volume) (failure : Failure), root.Proper → v.IsDirectory root →
      Calls root v (.error failure) v' → v' = v := by
  intro h
  exact emptyRejected_ne
    (h _ _ _ _ proper_emptyDirectory isDirectory_emptyDirectory calls_emptyDirectory)

end Volume

end Oneshot
