import Oneshot.Proofs.Host.Topics

/-!
# Two Routines before One Host

A statement about all traces of one routine needs no host. To compare two routines that begin in the
same state, the host has to be the same for both: its replies depend on the request and on its
state, and nothing else. Such a host determines the whole trace of a routine (`Host.play`).

Only what is arranged, written or launched changes the state. Looking, printing, announcing and
questions about the surroundings leave it alone, so that one routine may do more of these than the
other without a difference to what follows (`Host.state_play`).

* `Routine.runs_play`: what is played is a run of the routine.
* `Host.play_bind_ok`, `Host.play_bind_error`: an action followed by another one.
* `Host.play_tryCatch_ok`, `Host.play_tryCatch_error`: a handled action.
* `Host.exists_play_remark`: a quiet remark on what an action has come to.
* `Host.trace_play_reportingTo_bind`: actions whose errors are shown.
-/

namespace Oneshot

/-- The topics that leave the state of a host alone. -/
def Topic.quiet : List Topic :=
  [.look, .find, .surroundings, .print, .announce]

/-- A host: its replies, and its state behind each. -/
structure Host where
  State : Type
  answer : (request : Request) → State → request.Reply × State
  quiet : ∀ request s, request.topic ∈ Topic.quiet → (answer request s).2 = s

/-- What has been played: the trace, the value of the routine, and the state of the host behind
it. -/
@[ext] structure Played (σ α : Type) where
  trace : Trace
  value : α
  state : σ

namespace Played

variable {σ α : Type}

/-- What has been played behind an earlier trace. -/
def behind (t : Trace) (p : Played σ α) : Played σ α :=
  { p with trace := t ++ p.trace }

@[simp] theorem trace_behind (t : Trace) (p : Played σ α) : (p.behind t).trace = t ++ p.trace := rfl

@[simp] theorem value_behind (t : Trace) (p : Played σ α) : (p.behind t).value = p.value := rfl

@[simp] theorem state_behind (t : Trace) (p : Played σ α) : (p.behind t).state = p.state := rfl

@[simp] theorem behind_nil (p : Played σ α) : p.behind [] = p := rfl

@[simp] theorem behind_behind (t t' : Trace) (p : Played σ α) :
    (p.behind t').behind t = p.behind (t ++ t') := by
  simp [behind]

end Played

namespace Host

variable {h : Host} {s s' : h.State} {t : Trace} {α β : Type}

/-- Plays a routine. -/
def play (h : Host) : Routine α → h.State → Played h.State α
  | .done x, s => ⟨[], x, s⟩
  | .ask request next, s =>
    let reply := (h.answer request s).1
    (h.play (next reply) (h.answer request s).2).behind [⟨request, reply⟩]

/-- What is played is a run. -/
theorem runs_play (h : Host) (r : Routine α) (s : h.State) :
    r.Runs (h.play r s).trace (h.play r s).value := by
  induction r generalizing s with
  | done x => exact ⟨rfl, rfl⟩
  | ask request next ih => exact ⟨_, _, rfl, ih _ _⟩

/-- A routine without loud requests leaves the state alone. -/
theorem state_play {r : Routine α} (hr : r.Within Topic.quiet) (s : h.State) :
    (h.play r s).state = s := by
  induction r generalizing s with
  | done x => rfl
  | ask request next ih =>
    rw [play, Played.state_behind, ih _ (hr.2 _), h.quiet request s hr.1]

/-- A routine followed by another one. -/
theorem play_bind (r : Routine α) (f : α → Routine β) (s : h.State) :
    h.play (r >>= f) s
      = (h.play (f (h.play r s).value) (h.play r s).state).behind (h.play r s).trace := by
  induction r generalizing s with
  | done x => rfl
  | ask request next ih =>
    rw [Routine.bind_ask, play, ih, play]
    simp

/-! ### Actions -/

variable {a : Action α} {f : α → Action β} {x : α} {failure : Failure}

/-- An action that has a value is followed by another one. -/
theorem play_bind_ok (ha : h.play a.run s = ⟨t, .ok x, s'⟩) :
    h.play (a >>= f).run s = (h.play (f x).run s').behind t := by
  rw [Action.run_bind, play_bind, ha]

/-- An action that fails ends the whole. -/
theorem play_bind_error (ha : h.play a.run s = ⟨t, .error failure, s'⟩) :
    h.play (a >>= f).run s = ⟨t, .error failure, s'⟩ := by
  rw [Action.run_bind, play_bind, ha]
  simp [play, Played.behind]

theorem play_tryCatch_ok {handler : Failure → Action α} (ha : h.play a.run s = ⟨t, .ok x, s'⟩) :
    h.play (tryCatch a handler).run s = ⟨t, .ok x, s'⟩ := by
  rw [Action.run_tryCatch, play_bind, ha]
  simp [play, Played.behind]

theorem play_tryCatch_error {handler : Failure → Action α}
    (ha : h.play a.run s = ⟨t, .error failure, s'⟩) :
    h.play (tryCatch a handler).run s = (h.play (handler failure).run s').behind t := by
  rw [Action.run_tryCatch, play_bind, ha]

/-- A lifted routine always has a value. -/
theorem play_lift (r : Routine α) (s : h.State) :
    h.play (ExceptT.lift r : Action α).run s
      = ⟨(h.play r s).trace, .ok (h.play r s).value, (h.play r s).state⟩ := by
  rw [Action.run_lift, play_bind]
  simp [play, Played.behind]

/-- The requests of what has been played are about the topics of the action. -/
theorem topic_mem {topics : List Topic} {x : Except Failure α}
    (ha : a.Within topics) (hplay : h.play a.run s = ⟨t, x, s'⟩) :
    ∀ e ∈ t, e.request.topic ∈ topics := by
  have hruns := h.runs_play a.run s
  rw [hplay] at hruns
  exact hruns.topic_mem ha

variable {topics : List Topic}

/-- What a quiet action has played. -/
theorem exists_play (ha : a.Within topics) (hquiet : topics ⊆ Topic.quiet) (s : h.State) :
    ∃ t x, h.play a.run s = ⟨t, x, s⟩ ∧ ∀ e ∈ t, e.request.topic ∈ topics := by
  have hplay : h.play a.run s = ⟨_, _, s⟩ := Played.ext rfl rfl (state_play (ha.mono hquiet) s)
  exact ⟨_, _, hplay, topic_mem ha hplay⟩

/-- What a quiet routine has played. -/
theorem exists_play_lift {r : Routine α} (hr : r.Within topics) (hquiet : topics ⊆ Topic.quiet)
    (s : h.State) : ∃ t x, h.play (ExceptT.lift r : Action α).run s = ⟨t, .ok x, s⟩ ∧
      ∀ e ∈ t, e.request.topic ∈ topics := by
  have hplay := play_lift r s
  rw [state_play (hr.mono hquiet)] at hplay
  exact ⟨_, _, hplay, topic_mem (Action.every_lift hr) hplay⟩

/-- A quiet remark on the value of an action takes nothing away from it. -/
theorem exists_play_remark {remark : α → Routine Unit} (hremark : ∀ x, (remark x).Within topics)
    (hquiet : topics ⊆ Topic.quiet) (ha : h.play a.run s = ⟨t, .ok x, s'⟩) :
    ∃ t', h.play (a >>= fun x => ExceptT.lift (remark x) >>= fun _ => pure x).run s
        = ⟨t ++ t', .ok x, s'⟩ ∧ ∀ e ∈ t', e.request.topic ∈ topics := by
  obtain ⟨t', _, hplay, hmem⟩ := exists_play_lift (hremark x) hquiet s'
  refine ⟨t', ?_, hmem⟩
  rw [play_bind_ok ha, play_bind_ok hplay]
  exact Played.ext (by simp [play]) rfl rfl

/-! ### Actions whose errors are shown -/

section Reporting

open CommandLine (reportingTo showing reportingTo_eq within_showing)

variable {opening : Action Logger} {f : Except Int α → Action β}

/-- An action with a value has no errors to be shown. -/
theorem play_reportingTo_ok (opening : Action Logger) (raised : RunError → Bool) {x : α}
    (ha : h.play a.run s = ⟨t, .ok x, s'⟩) :
    h.play (reportingTo opening raised a).run s = ⟨t, .ok (.ok x), s'⟩ := by
  rw [reportingTo_eq]
  refine play_tryCatch_ok ?_
  rw [play_bind_ok ha]
  exact Played.ext (List.append_nil t) rfl rfl

/-- A failure is shown or raised. -/
theorem play_reportingTo_error (opening : Action Logger) (raised : RunError → Bool)
    {failure : Failure} (ha : h.play a.run s = ⟨t, .error failure, s'⟩) :
    h.play (reportingTo opening raised a).run s
      = (h.play (showing opening raised failure).run s').behind t := by
  rw [reportingTo_eq]
  exact play_tryCatch_error (play_bind_error ha)

/-- **What follows an action whose errors are shown** is about what the rest is about. -/
theorem trace_play_reportingTo_bind (raised : RunError → Bool) (a : Action α) (s : h.State)
    (hopening : opening.Within topics)
    (hsurroundings : .surroundings ∈ topics) (hprint : .print ∈ topics)
    (hf : ∀ ended, (f ended).Within topics) :
    ∃ rest, (h.play (reportingTo opening raised a >>= f).run s).trace
        = (h.play a.run s).trace ++ rest ∧ ∀ e ∈ rest, e.request.topic ∈ topics := by
  rcases ha : h.play a.run s with ⟨t, failure | x, s'⟩
  · rcases hshown : h.play (showing opening raised failure : Action (Except Int α)).run s' with
      ⟨t', failure' | ended, s''⟩
    all_goals
      have hreporting := play_reportingTo_error opening raised ha
      rw [hshown] at hreporting
      have hmem := topic_mem (within_showing hopening hsurroundings hprint failure) hshown
    · rw [play_bind_error hreporting]
      exact ⟨t', rfl, hmem⟩
    · rw [play_bind_ok hreporting]
      refine ⟨t' ++ (h.play (f ended).run s'').trace, by simp, fun e he => ?_⟩
      rcases List.mem_append.1 he with he | he
      · exact hmem e he
      · exact topic_mem (hf ended) rfl e he
  · rw [play_bind_ok (play_reportingTo_ok opening raised ha)]
    exact ⟨_, rfl, topic_mem (hf _) rfl⟩

end Reporting

end Host

end Oneshot
