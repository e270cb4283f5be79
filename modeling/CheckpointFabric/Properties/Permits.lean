import CheckpointFabric.Server

/-!
# The permits of a server

Every permit is free, or held by the accept loop, or by a connection thread, or it was lost when the
handler of a connection panicked. So the capacity of a server is what it was at the start iff no
handler has panicked, and every panic takes away one connection for good.

## Main definitions

* `State.Conserved` — the free permits and those that are held are all there are
* `panics` — how many handlers have panicked

## Main results

* `State.permits_step` — the account of one event
* `State.permits_run` — the account of a run
* `conserved_iff_no_panic` — the capacity of a server is kept iff no handler panics
-/

set_option autoImplicit false

namespace CheckpointFabric.Server

/-- The handler of a connection panics. -/
def Event.isPanic : Event → Bool
  | .worker _ event => event = .panicked
  | _ => false

/-- How many handlers have panicked. -/
def panics (es : List Event) : ℕ := es.countP Event.isPanic

@[simp] theorem panics_nil : panics [] = 0 := rfl

theorem panics_cons (e : Event) (es : List Event) :
    panics (e :: es) = (if e.isPanic then 1 else 0) + panics es := by
  rw [panics, List.countP_cons, panics, Nat.add_comm]

theorem panics_eq_zero_iff {es : List Event} : panics es = 0 ↔ ∀ e ∈ es, ¬ e.isPanic :=
  List.countP_eq_zero

namespace CountSemaphore

variable {sem sem' : CountSemaphore}

theorem available_of_tryAcquire (h : sem.tryAcquire = some sem') :
    sem'.available + 1 = sem.available := by
  simp only [tryAcquire, Option.ite_none_right_eq_some, Option.some.injEq] at h
  obtain ⟨hpos, rfl⟩ := h
  exact Nat.sub_add_cancel hpos

@[simp] theorem available_release : sem.release.available = sem.available + 1 := rfl

end CountSemaphore

namespace Worker

variable {running : Bool} {w : Worker} {event : WorkerEvent}

/-- A thread goes when it has given its permit back, or when its handler panics. -/
theorem released_or_panicked_of_step (h : w.step running event = some none) :
    event = .released ∨ event = .panicked := by
  cases w <;> cases event <;> simp_all [step]

theorem ne_panicked_of_step {w' : Worker} (h : w.step running event = some (some w')) :
    event ≠ .panicked := by
  cases w <;> cases event <;> simp_all [step]

end Worker

namespace State

variable {s s' : State} {e : Event} {es : List Event}

/-- The permits that are free, and those of the connection threads and of the accept loop. -/
def permits (s : State) : ℕ := s.semaphore.available + s.workers.length + s.loop.permits

/-- The capacity of the server is what it was at the start. -/
def Conserved (maxConnections : ℕ) (s : State) : Prop := s.permits = maxConnections

@[simp] theorem permits_initial (maxConnections : ℕ) : (initial maxConnections).permits =
    maxConnections := rfl

/-- A thread that goes on keeps its permit, and one that ends gives it back unless it panics. -/
theorem permits_stepWorker {i : ℕ} {event : WorkerEvent} (h : s.stepWorker i event = some s') :
    s'.permits + (if event = .panicked then 1 else 0) = s.permits := by
  rw [stepWorker] at h
  cases hw : s.workers[i]? with
  | none => simp [hw] at h
  | some w =>
    have hi : i < s.workers.length := (List.getElem?_eq_some_iff.1 hw).1
    have hlen : (s.workers.eraseIdx i).length + 1 = s.workers.length := by
      rw [List.length_eraseIdx_of_lt hi]
      omega
    simp only [hw] at h
    -- The event is out of turn, ends the thread, or leaves it where it goes on.
    rcases hstep : w.step s.running event with _ | _ | w'
    · simp [hstep] at h
    · simp only [hstep, Option.some.injEq] at h
      subst h
      rcases Worker.released_or_panicked_of_step hstep with rfl | rfl
      · simp only [permits, reduceIte, CountSemaphore.available_release]
        simp
        omega
      · simp [permits]
        omega
    · simp only [hstep, Option.some.injEq] at h
      subst h
      simp [permits, Worker.ne_panicked_of_step hstep]

/-- An event moves permits about, and a panic of a handler loses one. -/
theorem permits_step (h : s.step e = some s') :
    s'.permits + (if e.isPanic then 1 else 0) = s.permits := by
  cases e with
  | stop =>
    cases h
    rfl
  | checked =>
    simp only [step, Option.ite_none_right_eq_some, Option.some.injEq] at h
    obtain ⟨hloop, rfl⟩ := h
    cases s.running <;> simp [permits, hloop, AcceptLoop.permits, Event.isPanic]
  | tried =>
    simp only [step, Option.ite_none_right_eq_some] at h
    obtain ⟨hloop, h⟩ := h
    cases htry : s.semaphore.tryAcquire with
    | none =>
      obtain rfl : { s with loop := .checking } = s' := by simpa [htry] using h
      simp [permits, hloop, AcceptLoop.permits, Event.isPanic]
    | some semaphore =>
      obtain rfl : { s with semaphore, loop := .accepting } = s' := by simpa [htry] using h
      have htaken := CountSemaphore.available_of_tryAcquire htry
      simp [permits, hloop, AcceptLoop.permits, Event.isPanic]
      omega
  | acceptFailed =>
    simp only [step, Option.ite_none_right_eq_some, Option.some.injEq] at h
    obtain ⟨hloop, rfl⟩ := h
    simp [permits, hloop, AcceptLoop.permits, Event.isPanic]
    omega
  | accepted =>
    simp only [step, Option.ite_none_right_eq_some, Option.some.injEq] at h
    obtain ⟨hloop, rfl⟩ := h
    simp [permits, hloop, AcceptLoop.permits, Event.isPanic]
  | spawned =>
    simp only [step, Option.ite_none_right_eq_some] at h
    obtain ⟨hloop, h⟩ := h
    split at h <;> cases h <;> simp [permits, hloop, AcceptLoop.permits, Event.isPanic] <;> omega
  | worker i event => simpa [Event.isPanic] using permits_stepWorker h

theorem permits_run (h : s.run es = some s') : s'.permits + panics es = s.permits := by
  induction es generalizing s with
  | nil =>
    obtain rfl : s = s' := by simpa [run] using h
    simp
  | cons e es ih =>
    obtain ⟨mid, hstep, hrun⟩ := Option.bind_eq_some_iff.1 h
    have hfirst := permits_step hstep
    have hrest := ih hrun
    rw [panics_cons]
    omega

end State

/-- A run keeps the capacity of its server iff no handler panics in it, and every panic takes one
connection away: of what the server started with, that many permits are neither free nor held. -/
theorem conserved_iff_no_panic {maxConnections : ℕ} {es : List Event} {s : State}
    (h : (State.initial maxConnections).run es = some s) :
    (s.Conserved maxConnections ↔ ∀ e ∈ es, ¬ e.isPanic) ∧
      s.permits + panics es = maxConnections := by
  have haccount : s.permits + panics es = maxConnections := by
    simpa using State.permits_run h
  refine ⟨?_, haccount⟩
  rw [State.Conserved, ← panics_eq_zero_iff]
  omega

/-- A ping that the server answers, after which the client hangs up. -/
def servedPing : List Event :=
  [.checked, .tried, .accepted, .spawned, .worker 0 .checked,
    .worker 0 (.received ⟨.ping, 0, 1, []⟩), .worker 0 (.handled []), .worker 0 .wrote,
    .worker 0 .checked, .worker 0 .readFailed, .worker 0 .released]

/-- The handler of the only connection panics. -/
def panickedPing : List Event :=
  [.checked, .tried, .accepted, .spawned, .worker 0 .checked,
    .worker 0 (.received ⟨.ping, 0, 1, []⟩), .worker 0 .panicked]

theorem conserved_servedPing :
    (State.initial 1).run servedPing = some ⟨true, .checking, ⟨1⟩, []⟩ ∧
      (State.Conserved 1 ⟨true, .checking, ⟨1⟩, []⟩ ↔ ∀ e ∈ servedPing, ¬ e.isPanic) :=
  have h : (State.initial 1).run servedPing = some ⟨true, .checking, ⟨1⟩, []⟩ := by decide
  ⟨h, (conserved_iff_no_panic h).1⟩

/-- A server of one connection, after a panic: it has no thread, and no permit either. -/
theorem not_conserved_panickedPing :
    (State.initial 1).run panickedPing = some ⟨true, .checking, ⟨0⟩, []⟩ ∧
      ¬ State.Conserved 1 ⟨true, .checking, ⟨0⟩, []⟩ := by
  refine ⟨by decide, ?_⟩
  simp [State.Conserved, State.permits, AcceptLoop.permits]

end CheckpointFabric.Server
