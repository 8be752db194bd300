import Oneshot.Host.Files

/-!
# Traces

A routine asks, and the host answers as it likes. A trace is what has passed between the two: the
requests with their replies, in order. What a routine does under every host is therefore what it
does along every trace (`Routine.Runs`).

Traces compose as routines do: a routine followed by another one runs along a trace of the first
and then along one of the second (`Routine.runs_bind`). For an action there is one more case, since
a failure of the first ends the whole (`Action.runs_bind`).

* `Routine.runs_bind`, `Action.runs_bind`, `Action.runs_tryCatch`: the traces of composed routines.
* `Routine.Every`: all requests that a routine can make, whatever the replies.
* `Action.Absorbs.bind`: what may stand in front of a trace without any effect on what is said of
  it.
* `Routine.Runs.determined`: a trace leaves a routine no choice.
* `Routine.runs_follow`: the trace of a host whose replies depend on the requests alone.
* `Action.runs_test`, `Action.runs_test_bind`: the exchange of a test whether something stands at a
  path, and what follows a test.
-/

namespace Oneshot

/-- A request and the reply that the host has given. -/
structure Exchange where
  request : Request
  reply : request.Reply

/-- What has passed between a routine and its host. -/
abbrev Trace := List Exchange

namespace Routine

variable {α β : Type}

/-- With the replies of the trace, the routine makes its requests and ends with the value. -/
def Runs : Routine α → Trace → α → Prop
  | .done x, t, y => t = [] ∧ y = x
  | .ask request next, t, y =>
    ∃ reply rest, t = ⟨request, reply⟩ :: rest ∧ (next reply).Runs rest y

@[simp] theorem runs_done {x y : α} {t : Trace} : (Routine.done x).Runs t y ↔ t = [] ∧ y = x :=
  Iff.rfl

@[simp] theorem runs_ask {request : Request} {next : request.Reply → Routine α} {t : Trace}
    {y : α} :
    (Routine.ask request next).Runs t y ↔
      ∃ reply rest, t = ⟨request, reply⟩ :: rest ∧ (next reply).Runs rest y :=
  Iff.rfl

@[simp] theorem runs_request {request : Request} {t : Trace} {reply : request.Reply} :
    (Routine.request request).Runs t reply ↔ t = [⟨request, reply⟩] := by
  simp only [Routine.request, runs_ask, runs_done]
  constructor
  · rintro ⟨_, _, rfl, rfl, rfl⟩
    rfl
  · rintro rfl
    exact ⟨reply, [], rfl, rfl, rfl⟩

/-- **A routine followed by another one** runs along a trace of the first and then along one of the
second. -/
theorem runs_bind {r : Routine α} {f : α → Routine β} {t : Trace} {y : β} :
    (r >>= f).Runs t y ↔ ∃ t₁ t₂ x, t = t₁ ++ t₂ ∧ r.Runs t₁ x ∧ (f x).Runs t₂ y := by
  induction r generalizing t with
  | done x =>
    rw [bind_done]
    constructor
    · exact fun h => ⟨[], t, x, rfl, ⟨rfl, rfl⟩, h⟩
    · rintro ⟨t₁, t₂, x, rfl, ⟨rfl, rfl⟩, h⟩
      exact h
  | ask request next ih =>
    rw [bind_ask, runs_ask]
    constructor
    · rintro ⟨reply, rest, rfl, h⟩
      obtain ⟨t₁, t₂, x, rfl, hx, hy⟩ := (ih reply).1 h
      exact ⟨⟨request, reply⟩ :: t₁, t₂, x, rfl, ⟨reply, t₁, rfl, hx⟩, hy⟩
    · rintro ⟨t₁, t₂, x, rfl, ⟨reply, rest, rfl, hx⟩, hy⟩
      exact ⟨reply, rest ++ t₂, rfl, (ih reply).2 ⟨rest, t₂, x, rfl, hx, hy⟩⟩

/-! ### All requests of a routine -/

/-- Every request that the routine can make has the property. -/
def Every (P : Request → Prop) : Routine α → Prop
  | .done _ => True
  | .ask request next => P request ∧ ∀ reply, (next reply).Every P

variable {P : Request → Prop}

@[simp] theorem every_done {x : α} : (Routine.done x).Every P := trivial

theorem every_request {request : Request} (h : P request) : (Routine.request request).Every P :=
  ⟨h, fun _ => trivial⟩

theorem every_bind {r : Routine α} {f : α → Routine β} (hr : r.Every P)
    (hf : ∀ x, (f x).Every P) : (r >>= f).Every P := by
  induction r with
  | done x => exact hf x
  | ask request next ih => exact ⟨hr.1, fun reply => ih reply (hr.2 reply)⟩

/-- What a routine has asked is among what it can ask. -/
theorem Runs.every {r : Routine α} {t : Trace} {x : α} (h : r.Runs t x) (hr : r.Every P) :
    ∀ e ∈ t, P e.request := by
  induction r generalizing t with
  | done y =>
    obtain ⟨rfl, -⟩ := h
    simp
  | ask request next ih =>
    obtain ⟨reply, rest, rfl, hrest⟩ := h
    intro e he
    rcases List.mem_cons.1 he with rfl | he
    · exact hr.1
    · exact ih reply hrest (hr.2 reply) e he

/-! ### All results of a routine -/

/-- Whatever the replies, the routine ends with a value that has the property. -/
def Returns (Q : α → Prop) : Routine α → Prop
  | .done x => Q x
  | .ask _ next => ∀ reply, (next reply).Returns Q

theorem returns_bind {r : Routine α} {f : α → Routine β} {Q : α → Prop} {Q' : β → Prop}
    (hr : r.Returns Q) (hf : ∀ x, Q x → (f x).Returns Q') : (r >>= f).Returns Q' := by
  induction r with
  | done x => exact hf x hr
  | ask request next ih => exact fun reply => ih reply (hr reply)

theorem Runs.returns {r : Routine α} {t : Trace} {x : α} (h : r.Runs t x) {Q : α → Prop}
    (hr : r.Returns Q) : Q x := by
  induction r generalizing t with
  | done y =>
    obtain ⟨rfl, rfl⟩ := h
    exact hr
  | ask request next ih =>
    obtain ⟨reply, rest, rfl, hrest⟩ := h
    exact ih reply hrest (hr reply)

/-! ### Runs along one trace -/

/-- Along a trace, a routine runs in one way at most. -/
theorem Runs.determined {r : Routine α} {t t' whole : Trace} {x x' : α} (h : r.Runs t x)
    (h' : r.Runs t' x') (ht : t <+: whole) (ht' : t' <+: whole) : t = t' ∧ x = x' := by
  induction r generalizing t t' whole with
  | done y =>
    obtain ⟨rfl, rfl⟩ := h
    obtain ⟨rfl, rfl⟩ := h'
    exact ⟨rfl, rfl⟩
  | ask request next ih =>
    obtain ⟨reply, rest, rfl, hrest⟩ := h
    obtain ⟨reply', rest', rfl, hrest'⟩ := h'
    obtain ⟨after, rfl⟩ := ht
    obtain ⟨heq, hstart⟩ := List.cons_prefix_cons.1 ht'
    obtain rfl : reply' = reply := by simpa using heq
    obtain ⟨rfl, rfl⟩ := ih reply' hrest hrest' (List.prefix_append rest after) hstart
    exact ⟨rfl, rfl⟩

/-- With one result known, another one is the same. -/
theorem Runs.iff_eq {r : Routine α} {t : Trace} {x y : α} (h : r.Runs t x) :
    r.Runs t y ↔ x = y := by
  constructor
  · intro h'
    exact (h.determined h' List.prefix_rfl List.prefix_rfl).2
  · rintro rfl
    exact h

/-! ### Following a host -/

/-- The trace and the value of a routine whose host replies to a request always in the same way. -/
def follow (host : (request : Request) → request.Reply) : Routine α → Trace × α
  | .done x => ⟨[], x⟩
  | .ask request next =>
    let rest := (next (host request)).follow host
    ⟨⟨request, host request⟩ :: rest.1, rest.2⟩

theorem runs_follow (host : (request : Request) → request.Reply) (r : Routine α) :
    r.Runs (r.follow host).1 (r.follow host).2 := by
  induction r with
  | done x => exact ⟨rfl, rfl⟩
  | ask request next ih => exact ⟨host request, _, rfl, ih (host request)⟩

theorem reply_of_mem_follow {host : (request : Request) → request.Reply} {r : Routine α}
    {e : Exchange} (h : e ∈ (r.follow host).1) : e.reply = host e.request := by
  induction r with
  | done x => simp [follow] at h
  | ask request next ih =>
    rcases List.mem_cons.1 h with rfl | h
    · rfl
    · exact ih _ h

/-- Along a trace of a host, a routine runs as the host has it. -/
theorem Runs.eq_follow {host : (request : Request) → request.Reply} {r : Routine α} {t : Trace}
    {x : α} (h : r.Runs t x) (hhost : ∀ e ∈ t, e.reply = host e.request) :
    x = (r.follow host).2 := by
  induction r generalizing t with
  | done y => exact h.2
  | ask request next ih =>
    obtain ⟨reply, rest, rfl, hrest⟩ := h
    obtain rfl : reply = host request := hhost _ List.mem_cons_self
    exact ih _ hrest fun e he => hhost e (List.mem_cons_of_mem _ he)

end Routine

namespace Action

open Routine

variable {α β : Type} {t : Trace}

/-! ### Traces of actions -/

@[simp] theorem runs_pure {x : α} {y : Except Failure α} :
    (pure x : Action α).run.Runs t y ↔ t = [] ∧ y = .ok x :=
  Iff.rfl

theorem runs_pure_ok {x y : α} : (pure x : Action α).run.Runs t (.ok y) ↔ t = [] ∧ y = x := by
  simp

@[simp] theorem runs_throw {failure : Failure} {y : Except Failure α} :
    (throw failure : Action α).run.Runs t y ↔ t = [] ∧ y = .error failure :=
  Iff.rfl

@[simp] theorem runs_fail {e : RunError} {y : Except Failure α} :
    (Action.fail e : Action α).run.Runs t y ↔ t = [] ∧ y = .error (.reported e) :=
  Iff.rfl

@[simp] theorem runs_escape {e : Escape} {y : Except Failure α} :
    (Action.escape e : Action α).run.Runs t y ↔ t = [] ∧ y = .error (.escaped e) :=
  Iff.rfl

theorem run_bind (a : Action α) (f : α → Action β) :
    (a >>= f).run = a.run >>= fun
      | .ok x => (f x).run
      | .error failure => pure (.error failure) := by
  refine congrArg (a.run >>= ·) (funext fun result => ?_)
  cases result <;> rfl

/-- **An action followed by another one**: a failure of the first ends the whole. -/
theorem runs_bind {a : Action α} {f : α → Action β} {y : Except Failure β} :
    (a >>= f).run.Runs t y ↔
      (∃ t₁ t₂ x, t = t₁ ++ t₂ ∧ a.run.Runs t₁ (.ok x) ∧ (f x).run.Runs t₂ y) ∨
        ∃ failure, a.run.Runs t (.error failure) ∧ y = .error failure := by
  rw [run_bind, Routine.runs_bind]
  constructor
  · rintro ⟨t₁, t₂, x | x, rfl, hx, hy⟩
    · obtain ⟨rfl, rfl⟩ := hy
      exact .inr ⟨x, by simpa using hx, rfl⟩
    · exact .inl ⟨t₁, t₂, x, rfl, hx, hy⟩
  · rintro (⟨t₁, t₂, x, rfl, hx, hy⟩ | ⟨failure, hx, rfl⟩)
    · exact ⟨t₁, t₂, .ok x, rfl, hx, hy⟩
    · exact ⟨t, [], .error failure, by simp, hx, rfl, rfl⟩

/-- An action that has come to an end has brought its first part to an end. -/
theorem runs_bind_ok {a : Action α} {f : α → Action β} {y : β} :
    (a >>= f).run.Runs t (.ok y) ↔
      ∃ t₁ t₂ x, t = t₁ ++ t₂ ∧ a.run.Runs t₁ (.ok x) ∧ (f x).run.Runs t₂ (.ok y) := by
  rw [runs_bind]
  constructor
  · rintro (h | ⟨failure, -, hx⟩)
    · exact h
    · simp at hx
  · exact .inl

/-- What follows a reported error is left out. -/
@[simp] theorem runs_fail_bind {e : RunError} {f : α → Action β} {y : Except Failure β} :
    (Action.fail e >>= f).run.Runs t y ↔ t = [] ∧ y = .error (.reported e) :=
  Iff.rfl

theorem run_lift (r : Routine α) :
    (ExceptT.lift r : Action α).run = r >>= fun x => pure (.ok x) :=
  rfl

@[simp] theorem runs_lift {r : Routine α} {y : Except Failure α} :
    (ExceptT.lift r : Action α).run.Runs t y ↔ ∃ x, r.Runs t x ∧ y = .ok x := by
  rw [run_lift, Routine.runs_bind]
  constructor
  · rintro ⟨t₁, t₂, x, rfl, hx, rfl, rfl⟩
    exact ⟨x, by simpa using hx, rfl⟩
  · rintro ⟨x, hx, rfl⟩
    exact ⟨t, [], x, by simp, hx, rfl, rfl⟩

@[simp] theorem runs_ask {request : Request} {y : Except Failure request.Reply} :
    (Action.ask request).run.Runs t y ↔ ∃ reply, t = [⟨request, reply⟩] ∧ y = .ok reply := by
  rw [Action.ask, runs_lift]
  exact exists_congr fun reply => and_congr_left fun _ => runs_request

/-- A lifted routine does not fail. -/
theorem runs_lift_bind {r : Routine α} {f : α → Action β} {y : Except Failure β} :
    (ExceptT.lift r >>= f : Action β).run.Runs t y ↔
      ∃ t₁ t₂ x, t = t₁ ++ t₂ ∧ r.Runs t₁ x ∧ (f x).run.Runs t₂ y := by
  rw [runs_bind]
  constructor
  · rintro (⟨t₁, t₂, x, rfl, hx, hy⟩ | ⟨failure, hx, rfl⟩)
    · obtain ⟨x, hx, h⟩ := runs_lift.1 hx
      obtain rfl := Except.ok.inj h
      exact ⟨t₁, t₂, x, rfl, hx, hy⟩
    · obtain ⟨x, -, h⟩ := runs_lift.1 hx
      simp at h
  · rintro ⟨t₁, t₂, x, rfl, hx, hy⟩
    exact .inl ⟨t₁, t₂, x, rfl, runs_lift.2 ⟨x, hx, rfl⟩, hy⟩

/-- A request does not fail. -/
theorem runs_ask_bind {request : Request} {f : request.Reply → Action β} {y : Except Failure β} :
    (Action.ask request >>= f).run.Runs t y ↔
      ∃ reply rest, t = ⟨request, reply⟩ :: rest ∧ (f reply).run.Runs rest y := by
  rw [Action.ask, runs_lift_bind]
  constructor
  · rintro ⟨t₁, t₂, reply, rfl, hask, hy⟩
    obtain rfl := runs_request.1 hask
    exact ⟨reply, t₂, rfl, hy⟩
  · rintro ⟨reply, rest, rfl, hy⟩
    exact ⟨[⟨request, reply⟩], rest, reply, rfl, runs_request.2 rfl, hy⟩

theorem run_tryCatch (a : Action α) (handler : Failure → Action α) :
    (tryCatch a handler).run = a.run >>= fun
      | .ok x => pure (.ok x)
      | .error failure => (handler failure).run := by
  refine congrArg (a.run >>= ·) (funext fun result => ?_)
  cases result <;> rfl

/-- **A handled action**: only a failure leads on. -/
theorem runs_tryCatch {a : Action α} {handler : Failure → Action α} {y : Except Failure α} :
    (tryCatch a handler).run.Runs t y ↔
      (∃ x, a.run.Runs t (.ok x) ∧ y = .ok x) ∨
        ∃ t₁ t₂ failure, t = t₁ ++ t₂ ∧ a.run.Runs t₁ (.error failure) ∧
          (handler failure).run.Runs t₂ y := by
  rw [run_tryCatch, Routine.runs_bind]
  constructor
  · rintro ⟨t₁, t₂, x | x, rfl, hx, hy⟩
    · exact .inr ⟨t₁, t₂, x, rfl, hx, hy⟩
    · obtain ⟨rfl, rfl⟩ := hy
      exact .inl ⟨x, by simpa using hx, rfl⟩
  · rintro (⟨x, hx, rfl⟩ | ⟨t₁, t₂, failure, rfl, hx, hy⟩)
    · exact ⟨t, [], .ok x, by simp, hx, rfl, rfl⟩
    · exact ⟨t₁, t₂, .error failure, rfl, hx, hy⟩

/-- An attempt at an action: its value is wrapped up, and its failure is handled. -/
theorem runs_attempt {a : Action α} {f : α → β} {handler : Failure → Action β}
    {y : Except Failure β} :
    (tryCatch (a >>= fun x => pure (f x)) handler).run.Runs t y ↔
      (∃ x, a.run.Runs t (.ok x) ∧ y = .ok (f x)) ∨
        ∃ t₁ t₂ failure, t = t₁ ++ t₂ ∧ a.run.Runs t₁ (.error failure) ∧
          (handler failure).run.Runs t₂ y := by
  rw [runs_tryCatch]
  constructor
  · rintro (⟨z, hz, rfl⟩ | ⟨t₁, t₂, failure, rfl, hfailure, hy⟩)
    · obtain ⟨t₁, t₂, x, rfl, hx, hz⟩ := runs_bind_ok.1 hz
      obtain ⟨rfl, rfl⟩ := runs_pure_ok.1 hz
      exact .inl ⟨x, by simpa using hx, rfl⟩
    · obtain ⟨t₃, t₄, x, -, -, -, h⟩ | ⟨failure', hfailure', h⟩ := runs_bind.1 hfailure
      · simp at h
      · obtain rfl := Except.error.inj h
        exact .inr ⟨t₁, t₂, failure, rfl, hfailure', hy⟩
  · rintro (⟨x, hx, rfl⟩ | ⟨t₁, t₂, failure, rfl, hfailure, hy⟩)
    · exact .inl ⟨f x, runs_bind.2 (.inl ⟨t, [], x, by simp, hx, rfl, rfl⟩), rfl⟩
    · exact .inr ⟨t₁, t₂, failure, rfl, runs_bind.2 (.inr ⟨failure, hfailure, rfl⟩), hy⟩

/-! ### Parts of a trace that do not matter -/

/-- What is said of a trace and of its end does not depend on parts in front that `S` holds of: it
is true of a failure behind such a part, and it stays true with such a part in front. -/
structure Absorbs (S : Trace → Prop) (Q : Trace → Except Failure α → Prop) : Prop where
  of_error : ∀ {t : Trace} {failure : Failure}, S t → Q t (.error failure)
  append_left : ∀ {before t : Trace} {x : Except Failure α}, S before → Q t x → Q (before ++ t) x

/-- Such a first part of an action can be left out. -/
theorem Absorbs.bind {S : Trace → Prop} {Q : Trace → Except Failure β → Prop} (hQ : Absorbs S Q)
    {a : Action α} {f : α → Action β} {y : Except Failure β} (h : (a >>= f).run.Runs t y)
    (hfirst : ∀ {t : Trace} {x : Except Failure α}, a.run.Runs t x → S t)
    (hnext : ∀ {x : α} {t₁ t₂ : Trace}, a.run.Runs t₁ (.ok x) → (f x).run.Runs t₂ y → Q t₂ y) :
    Q t y := by
  obtain ⟨t₁, t₂, x, rfl, hx, hy⟩ | ⟨failure, hfailure, rfl⟩ := runs_bind.1 h
  · exact hQ.append_left (hfirst hx) (hnext hx hy)
  · exact hQ.of_error (hfirst hfailure)

/-! ### All requests of an action -/

variable {P : Request → Prop}

theorem every_pure {x : α} : (pure x : Action α).run.Every P := trivial

theorem every_fail {e : RunError} : (Action.fail e : Action α).run.Every P := trivial

theorem every_bind {a : Action α} {f : α → Action β} (ha : a.run.Every P)
    (hf : ∀ x, (f x).run.Every P) : (a >>= f).run.Every P := by
  rw [run_bind]
  refine Routine.every_bind ha fun result => ?_
  cases result with
  | ok x => exact hf x
  | error failure => trivial

theorem every_lift {r : Routine α} (hr : r.Every P) : (ExceptT.lift r : Action α).run.Every P :=
  Routine.every_bind hr fun _ => trivial

theorem every_ask {request : Request} (h : P request) : (Action.ask request).run.Every P :=
  every_lift (every_request h)

theorem every_tryCatch {a : Action α} {handler : Failure → Action α} (ha : a.run.Every P)
    (hhandler : ∀ failure, (handler failure).run.Every P) : (tryCatch a handler).run.Every P := by
  rw [run_tryCatch]
  refine Routine.every_bind ha fun result => ?_
  cases result with
  | ok x => trivial
  | error failure => exact hhandler failure

theorem every_reporting {wrap : OsError → RunError} (reply : Except Refusal α) :
    (Action.reporting wrap reply).run.Every P := by
  rcases reply with (e | _ | _) | x <;> trivial

theorem every_orEscape {test : Routine (Except OsError α)} (h : test.Every P) :
    (Action.orEscape test).run.Every P := by
  refine every_bind (every_lift h) fun result => ?_
  rcases result with e | x <;> trivial

end Action

/-! ### Tests -/

/-- What a test makes of the reply of the host. -/
inductive TestResult (wanted : FileKind) :
    Except Refusal FileKind → Except Failure Bool → Prop
  | there (kind : FileKind) : TestResult wanted (.ok kind) (.ok (kind == wanted))
  | absent {e : OsError} (h : Files.isAbsence e.cause = true) :
      TestResult wanted (.error (.os e)) (.ok false)
  | refused {e : OsError} (h : Files.isAbsence e.cause = false) :
      TestResult wanted (.error (.os e)) (.error (.escaped (.os e)))
  | nulByte : TestResult wanted (.error .nulByte) (.ok false)
  | illegalVariable : TestResult wanted (.error .illegalVariable) (.ok false)

/-- A test that comes to an end has found what is wanted exactly if the host has said so. -/
theorem TestResult.found_iff {wanted : FileKind} {reply : Except Refusal FileKind} {found : Bool}
    (h : TestResult wanted reply (.ok found)) : found = true ↔ reply = .ok wanted := by
  generalize hx : Except.ok found = x at h
  cases h with
  | there kind =>
    obtain rfl := Except.ok.inj hx
    simp
  | refused => simp at hx
  | absent | nulByte | illegalVariable =>
    obtain rfl := Except.ok.inj hx
    simp

/-- A test is one exchange. -/
theorem Action.runs_test {wanted : FileKind} {path : Path} {t : Trace} {x : Except Failure Bool}
    (h : (Action.orEscape (Files.hasKind wanted path)).run.Runs t x) :
    ∃ reply, t = [⟨.kind path.text, reply⟩] ∧ TestResult wanted reply x := by
  rw [Action.orEscape] at h
  obtain ⟨t₁, t₂, found, rfl, htest, hrest⟩ := runs_lift_bind.1 h
  rw [Files.hasKind] at htest
  obtain ⟨t₁, t₃, reply, rfl, hask, hfound⟩ := Routine.runs_bind.1 htest
  obtain rfl := Routine.runs_request.1 hask
  refine ⟨reply, ?_⟩
  rcases reply with (e | _ | _) | kind
  · obtain ⟨rfl, rfl⟩ := hfound
    cases habsence : Files.isAbsence e.cause with
    | true =>
      simp only [habsence] at hrest
      obtain ⟨rfl, rfl⟩ := hrest
      exact ⟨rfl, .absent habsence⟩
    | false =>
      simp only [habsence] at hrest
      obtain ⟨rfl, rfl⟩ := hrest
      exact ⟨rfl, .refused habsence⟩
  · obtain ⟨rfl, rfl⟩ := hfound
    obtain ⟨rfl, rfl⟩ := hrest
    exact ⟨rfl, .nulByte⟩
  · obtain ⟨rfl, rfl⟩ := hfound
    obtain ⟨rfl, rfl⟩ := hrest
    exact ⟨rfl, .illegalVariable⟩
  · obtain ⟨rfl, rfl⟩ := hfound
    obtain ⟨rfl, rfl⟩ := hrest
    exact ⟨rfl, .there kind⟩

/-- Whatever a test makes of a reply, it makes of it in one exchange. -/
theorem Action.runs_of_testResult {wanted : FileKind} {path : Path}
    {reply : Except Refusal FileKind} {x : Except Failure Bool} (h : TestResult wanted reply x) :
    (Action.orEscape (Files.hasKind wanted path)).run.Runs [⟨.kind path.text, reply⟩] x := by
  refine runs_lift_bind.2 ⟨[⟨.kind path.text, reply⟩], [], ?_⟩
  cases h with
  | there kind => exact ⟨_, rfl, ⟨_, _, rfl, rfl, rfl⟩, rfl, rfl⟩
  | absent h => exact ⟨.ok false, rfl, ⟨_, _, rfl, rfl, (if_pos h).symm⟩, rfl, rfl⟩
  | refused h =>
    exact ⟨.error _, rfl, ⟨_, _, rfl, rfl, (if_neg (by simp [h])).symm⟩, rfl, rfl⟩
  | nulByte => exact ⟨_, rfl, ⟨_, _, rfl, rfl, rfl⟩, rfl, rfl⟩
  | illegalVariable => exact ⟨_, rfl, ⟨_, _, rfl, rfl, rfl⟩, rfl, rfl⟩

/-- A test that is followed by something: what it makes of the reply decides how to go on. -/
theorem Action.runs_test_bind {β : Type} {wanted : FileKind} {path : Path} {f : Bool → Action β}
    {t : Trace} {x : Except Failure β} :
    (Action.orEscape (Files.hasKind wanted path) >>= f).run.Runs t x ↔
      ∃ reply rest, t = ⟨.kind path.text, reply⟩ :: rest ∧
        ((∃ found, TestResult wanted reply (.ok found) ∧ (f found).run.Runs rest x) ∨
          ∃ failure, TestResult wanted reply (.error failure) ∧ rest = [] ∧
            x = .error failure) := by
  rw [runs_bind]
  constructor
  · rintro (⟨t₁, t₂, found, rfl, htest, hrest⟩ | ⟨failure, htest, rfl⟩)
    · obtain ⟨reply, rfl, hresult⟩ := runs_test htest
      exact ⟨reply, t₂, rfl, .inl ⟨found, hresult, hrest⟩⟩
    · obtain ⟨reply, rfl, hresult⟩ := runs_test htest
      exact ⟨reply, [], rfl, .inr ⟨failure, hresult, rfl, rfl⟩⟩
  · rintro ⟨reply, rest, rfl, ⟨found, hresult, hrest⟩ | ⟨failure, hresult, rfl, rfl⟩⟩
    · exact .inl ⟨_, rest, found, rfl, runs_of_testResult hresult, hrest⟩
    · exact .inr ⟨failure, runs_of_testResult hresult, rfl⟩

end Oneshot
