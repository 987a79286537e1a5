import Mathlib.Algebra.GroupWithZero.Nat
import Mathlib.Data.List.Basic
import Mathlib.Tactic.SplitIfs
import RVDataFusionServer.Library.Execution

/-!
# The timer

`Timer` of `timeTask.hpp` runs a task again and again in a detached thread, and `stop` waits with a
condition variable until that thread has left its loop. One thread starts and stops the timer; its
steps and those of the threads of the timer come in any order. `task_between` says that a task is
run between a start and the return of a stop only, and `stop_returns` that a stop returns.
-/

namespace RVDataFusionServer

open Library.Execution

namespace Timer

/-- Where the thread is that starts and stops the timer. -/
inductive Control where
  | idle
  -- `start`: in front of `_expired = false` and of the construction of the thread
  | starting
  | spawning
  -- `stop`: in front of the second test, of `_try_to_expire = true` and of the lock
  | checking
  | raising
  | locking
  -- `stop`: blocked in `wait`, and behind it with the lock
  | waiting
  | resetting
  deriving DecidableEq, Repr

/-- Where a thread of the timer is: in front of the test of the loop, of the task, of the sleep, of
the lock, and with the lock in front of `_expired = true`, of `notify_one` and of the unlock. -/
inductive Point where
  | test
  | task
  | sleep
  | lock
  | expire
  | notify
  | unlock
  deriving DecidableEq, Repr

/-- The timer and its threads. `notified` says that the thread in `wait` was woken up. -/
structure State where
  expired : Bool := true
  tryToExpire : Bool := false
  locked : Bool := false
  notified : Bool := false
  control : Control := .idle
  workers : List Point := []
  deriving DecidableEq, Repr

/-- What comes next: a call of `start` or of `stop`, a turn of the thread in such a call, a spurious
wake-up of it, or a turn of a thread of the timer. -/
inductive Input where
  | start
  | stop
  | control
  | wake
  | worker (k : Nat)
  deriving DecidableEq, Repr

/-- What is seen of a step: a thread was started, the task was run, or a call of `stop` has
returned. -/
inductive Event where
  | started
  | task
  | stopped
  deriving DecidableEq, Repr

/-- A turn of the thread that has called `start` or `stop`. -/
def turn (s : State) : State × Option Event :=
  match s.control with
  | .idle => (s, none)
  | .starting => ({ s with expired := false, control := .spawning }, none)
  | .spawning => ({ s with workers := s.workers ++ [.test], control := .idle }, some .started)
  | .checking =>
      if s.tryToExpire then ({ s with control := .idle }, some .stopped)
      else ({ s with control := .raising }, none)
  | .raising => ({ s with tryToExpire := true, control := .locking }, none)
  | .locking =>
      if s.locked then (s, none)
      else if s.expired then ({ s with locked := true, control := .resetting }, none)
      else ({ s with notified := false, control := .waiting }, none)
  | .waiting =>
      if s.locked || !s.notified then (s, none)
      else if s.expired then ({ s with locked := true, control := .resetting }, none)
      else ({ s with notified := false }, none)
  | .resetting =>
      ({ s with tryToExpire := if s.expired then false else s.tryToExpire, locked := false,
                control := .idle }, some .stopped)

/-- A turn of the thread number `k` of the timer. -/
def workerTurn (s : State) (k : Nat) : Point → State × Option Event
  | .test =>
      ({ s with workers := s.workers.set k (if s.tryToExpire then .lock else .task) }, none)
  | .task => ({ s with workers := s.workers.set k .sleep }, some .task)
  | .sleep => ({ s with workers := s.workers.set k .test }, none)
  | .lock =>
      if s.locked then (s, none)
      else ({ s with locked := true, workers := s.workers.set k .expire }, none)
  | .expire => ({ s with expired := true, workers := s.workers.set k .notify }, none)
  | .notify =>
      ({ s with notified := s.control = .waiting, workers := s.workers.set k .unlock }, none)
  | .unlock => ({ s with locked := false, workers := s.workers.eraseIdx k }, none)

/-- One step. -/
def step (s : State) : Input → State × Option Event
  | .start =>
      if s.control = .idle ∧ s.expired then ({ s with control := .starting }, none) else (s, none)
  | .stop =>
      if s.control = .idle then
        if s.expired then (s, some .stopped) else ({ s with control := .checking }, none)
      else (s, none)
  | .control => turn s
  | .wake => if s.control = .waiting then ({ s with notified := true }, none) else (s, none)
  | .worker k =>
      match s.workers[k]? with
      | some point => workerTurn s k point
      | none => (s, none)

/-! ## The phases of a timer -/

/-- In the loop. -/
def Looping (point : Point) : Prop := point = .test ∨ point = .task ∨ point = .sleep

/-- In a stop, and not yet behind the wait. -/
def Blocked (control : Control) : Prop := control = .locking ∨ control = .waiting

/-- The phases that a timer goes through. -/
inductive Phase : State → Prop
  -- no thread, and none will be needed
  | off {control} (notified : Bool) (hcontrol : control = .idle ∨ control = .starting) :
      Phase ⟨true, false, false, notified, control, []⟩
  | spawning (notified : Bool) : Phase ⟨false, false, false, notified, .spawning, []⟩
  | running {control point} (notified : Bool) (hpoint : Looping point)
      (hcontrol : control = .idle ∨ control = .checking ∨ control = .raising) :
      Phase ⟨false, false, false, notified, control, [point]⟩
  -- a stop is under way, and the thread has still to leave its loop and to expire
  | stopping {control point} (notified : Bool) (hpoint : Looping point ∨ point = .lock)
      (hcontrol : Blocked control) : Phase ⟨false, true, false, notified, control, [point]⟩
  | expiring {control} (notified : Bool) (hcontrol : Blocked control) :
      Phase ⟨false, true, true, notified, control, [.expire]⟩
  | notifying {control} (notified : Bool) (hcontrol : Blocked control) :
      Phase ⟨true, true, true, notified, control, [.notify]⟩
  -- from here on a thread that waits was woken up
  | unlocking {control} {notified : Bool} (hcontrol : Blocked control)
      (hwoken : control = .waiting → notified = true) :
      Phase ⟨true, true, true, notified, control, [.unlock]⟩
  | expired {control} {notified : Bool} (hcontrol : Blocked control)
      (hwoken : control = .waiting → notified = true) :
      Phase ⟨true, true, false, notified, control, []⟩
  | resetting (notified : Bool) : Phase ⟨true, true, true, notified, .resetting, []⟩

variable {s t : State}

/-- A thread that waits, or will, goes on without another step of a phase. -/
theorem Blocked.turn {control : Control} (h : Blocked control) {expired locked notified : Bool}
    {workers : List Point} (hwoken : control = .waiting → notified = true) :
    (turn ⟨expired, true, locked, notified, control, workers⟩).1 =
      if locked then ⟨expired, true, locked, notified, control, workers⟩
      else if expired then ⟨expired, true, true, notified, .resetting, workers⟩
      else ⟨expired, true, locked, false, .waiting, workers⟩ := by
  rcases h with rfl | rfl
  · cases locked <;> cases expired <;> rfl
  · rw [hwoken rfl]
    cases locked <;> cases expired <;> rfl

/-- A turn of the thread that calls leads to a phase. -/
theorem Phase.turn (h : Phase s) : Phase (Timer.turn s).1 := by
  cases h with
  | off notified hcontrol =>
      rcases hcontrol with rfl | rfl
      · exact .off notified (.inl rfl)
      · exact .spawning notified
  | spawning notified => exact .running notified (.inl rfl) (.inl rfl)
  | running notified hpoint hcontrol =>
      rcases hcontrol with rfl | rfl | rfl
      · exact .running notified hpoint (.inl rfl)
      · exact .running notified hpoint (.inr (.inr rfl))
      · exact .stopping notified (.inl hpoint) (.inl rfl)
  | stopping notified hpoint hcontrol =>
      rcases hcontrol with rfl | rfl
      · exact .stopping false hpoint (.inr rfl)
      · cases notified with
        | false => exact .stopping false hpoint (.inr rfl)
        | true => exact .stopping false hpoint (.inr rfl)
  | expiring notified hcontrol =>
      rcases hcontrol with rfl | rfl
      · exact .expiring notified (.inl rfl)
      · exact .expiring notified (.inr rfl)
  | notifying notified hcontrol =>
      rcases hcontrol with rfl | rfl
      · exact .notifying notified (.inl rfl)
      · exact .notifying notified (.inr rfl)
  | unlocking hcontrol hwoken =>
      rw [hcontrol.turn hwoken]
      exact .unlocking hcontrol hwoken
  | expired hcontrol hwoken =>
      rw [hcontrol.turn hwoken]
      exact .resetting _
  | resetting notified => exact .off notified (.inl rfl)

/-- A turn of a thread of the timer leads to a phase. -/
theorem Phase.workerTurn (h : Phase s) {k : Nat} {point : Point}
    (hpoint : s.workers[k]? = some point) : Phase (Timer.workerTurn s k point).1 := by
  have hfirst : s.workers.length ≤ 1 := by cases h <;> simp
  obtain rfl : k = 0 := by
    have := (List.getElem?_eq_some_iff.mp hpoint).1
    omega
  cases h with
  | off | spawning | expired | resetting => exact nomatch hpoint
  | running notified hloop hcontrol =>
      obtain rfl := Option.some.inj hpoint
      rcases hloop with rfl | rfl | rfl
      · exact .running notified (.inr (.inl rfl)) hcontrol
      · exact .running notified (.inr (.inr rfl)) hcontrol
      · exact .running notified (.inl rfl) hcontrol
  | stopping notified hloop hcontrol =>
      obtain rfl := Option.some.inj hpoint
      rcases hloop with (rfl | rfl | rfl) | rfl
      · exact .stopping notified (.inr rfl) hcontrol
      · exact .stopping notified (.inl (.inr (.inr rfl))) hcontrol
      · exact .stopping notified (.inl (.inl rfl)) hcontrol
      · exact .expiring notified hcontrol
  | expiring notified hcontrol =>
      obtain rfl := Option.some.inj hpoint
      exact .notifying notified hcontrol
  | notifying notified hcontrol =>
      obtain rfl := Option.some.inj hpoint
      exact .unlocking hcontrol fun h => decide_eq_true h
  | unlocking hcontrol hwoken =>
      obtain rfl := Option.some.inj hpoint
      exact .expired hcontrol hwoken

/-- What is seen of a step tells what it may do to the threads of the timer. -/
inductive Seen (s t : State) : Option Event → Prop
  | started : Seen s t (some .started)
  | task (hbefore : s.workers ≠ []) : Seen s t (some .task)
  | stopped (hafter : t.workers = []) : Seen s t (some .stopped)
  | quiet (hkept : t.workers ≠ [] → s.workers ≠ []) : Seen s t none

/-- What is seen of a turn of the thread that calls. -/
theorem Phase.seen_turn (h : Phase s) : Seen s (Timer.turn s).1 (Timer.turn s).2 := by
  cases h with
  | off notified hcontrol => rcases hcontrol with rfl | rfl <;> exact .quiet fun h => h
  | spawning => exact .started
  | running notified hpoint hcontrol =>
      rcases hcontrol with rfl | rfl | rfl <;> exact .quiet fun h => h
  | stopping notified hpoint hcontrol =>
      rcases hcontrol with rfl | rfl
      · exact .quiet fun h => h
      · cases notified <;> exact .quiet fun h => h
  | expiring notified hcontrol | notifying notified hcontrol =>
      rcases hcontrol with rfl | rfl <;> exact .quiet fun h => h
  | unlocking hcontrol hwoken =>
      rcases hcontrol with rfl | rfl <;> exact .quiet fun h => h
  | @expired _ notified hcontrol hwoken =>
      rcases hcontrol with rfl | rfl
      · exact .quiet fun h => h
      · cases notified <;> exact .quiet fun h => h
  | resetting => exact .stopped rfl

/-- What is seen of a turn of a thread of the timer. -/
theorem seen_workerTurn {k : Nat} {point : Point} (hpoint : s.workers[k]? = some point) :
    Seen s (workerTurn s k point).1 (workerTurn s k point).2 := by
  have hlive : s.workers ≠ [] := fun hnil => by rw [hnil] at hpoint; exact nomatch hpoint
  cases point with
  | task => exact .task hlive
  | lock =>
      unfold workerTurn
      split_ifs <;> exact .quiet fun _ => hlive
  | test | sleep | expire | notify | unlock => exact .quiet fun _ => hlive

/-- Every step leads to a phase. -/
theorem Phase.step (h : Phase s) (input : Input) :
    Phase (Timer.step s input).1 ∧ Seen s (Timer.step s input).1 (Timer.step s input).2 := by
  have hstay : Phase s ∧ Seen s s none := ⟨h, .quiet fun hlive => hlive⟩
  cases input with
  | start =>
      simp only [Timer.step]
      split_ifs with hidle
      · refine ⟨?_, .quiet fun hlive => hlive⟩
        cases h with
        | off notified => exact .off notified (.inr rfl)
        | spawning | running | stopping | expiring => exact nomatch hidle.2
        | resetting => exact nomatch hidle.1
        | notifying notified hcontrol => rcases hcontrol with rfl | rfl <;> exact nomatch hidle.1
        | unlocking hcontrol | expired hcontrol =>
            rcases hcontrol with rfl | rfl <;> exact nomatch hidle.1
      · exact hstay
  | stop =>
      simp only [Timer.step]
      split_ifs with hidle hexpired
      · refine ⟨h, .stopped ?_⟩
        cases h with
        | off | resetting | expired => rfl
        | spawning | running | stopping | expiring => exact nomatch hexpired
        | notifying notified hcontrol => rcases hcontrol with rfl | rfl <;> exact nomatch hidle
        | unlocking hcontrol => rcases hcontrol with rfl | rfl <;> exact nomatch hidle
      · refine ⟨?_, .quiet fun hlive => hlive⟩
        cases h with
        | running notified hpoint => exact .running notified hpoint (.inr (.inl rfl))
        | spawning => exact nomatch hidle
        | off | resetting | notifying | unlocking | expired => exact absurd rfl hexpired
        | stopping notified hpoint hcontrol =>
            rcases hcontrol with rfl | rfl <;> exact nomatch hidle
        | expiring notified hcontrol => rcases hcontrol with rfl | rfl <;> exact nomatch hidle
      · exact hstay
  | control => exact ⟨h.turn, h.seen_turn⟩
  | wake =>
      simp only [Timer.step]
      split_ifs with hwaiting
      · refine ⟨?_, .quiet fun hlive => hlive⟩
        cases h with
        | off notified hcontrol => rcases hcontrol with rfl | rfl <;> exact nomatch hwaiting
        | running notified hpoint hcontrol =>
            rcases hcontrol with rfl | rfl | rfl <;> exact nomatch hwaiting
        | spawning | resetting => exact nomatch hwaiting
        | stopping notified hpoint hcontrol => exact .stopping true hpoint hcontrol
        | expiring notified hcontrol => exact .expiring true hcontrol
        | notifying notified hcontrol => exact .notifying true hcontrol
        | unlocking hcontrol => exact .unlocking hcontrol fun _ => rfl
        | expired hcontrol => exact .expired hcontrol fun _ => rfl
      · exact hstay
  | worker k =>
      simp only [Timer.step]
      split
      · next point hpoint => exact ⟨h.workerTurn hpoint, seen_workerTurn hpoint⟩
      · exact hstay

/-! ## What is seen of a run -/

/-- What is seen of a run. -/
def trace (outputs : List (Option Event)) : List Event := outputs.filterMap id

theorem trace_concat_some (es : List (Option Event)) (event : Event) :
    trace (es ++ [some event]) = trace es ++ [event] := by
  simp [trace, List.filterMap_append]

theorem trace_concat_none (es : List (Option Event)) : trace (es ++ [none]) = trace es := by
  simp [trace, List.filterMap_append]

/-- Started, and not stopped since. -/
def Running (events : List Event) : Prop :=
  ∃ before between, events = before ++ .started :: between ∧ .stopped ∉ between

/-- What happens in a run that is started stays in it, unless a stop returns. -/
theorem Running.concat {events : List Event} (h : Running events) {event : Event}
    (hevent : event ≠ .stopped) : Running (events ++ [event]) := by
  obtain ⟨before, between, rfl, hbetween⟩ := h
  refine ⟨before, between ++ [event], by simp, fun hmem => ?_⟩
  rcases List.mem_append.mp hmem with hmem | hmem
  · exact hbetween hmem
  · exact hevent (List.mem_singleton.mp hmem).symm

/-- The timer and what was seen of it: a thread of the timer was started and not stopped since, and
so it was whenever the task was run. -/
structure Fits (s : State) (events : List Event) : Prop where
  phase : Phase s
  live : s.workers ≠ [] → Running events
  tasks : ∀ past rest, events = past ++ .task :: rest → Running past

/-- A cut in front of a task is a cut before a further event, or that event is the task. -/
theorem concat_eq_append_task {events past rest : List Event} {event : Event}
    (h : events ++ [event] = past ++ .task :: rest) :
    (∃ rest', events = past ++ .task :: rest') ∨ event = .task ∧ events = past := by
  rcases List.eq_nil_or_concat' rest with rfl | ⟨front, last, rfl⟩
  · obtain ⟨hevents, hevent⟩ := List.append_inj' h rfl
    exact .inr ⟨(List.cons.inj hevent).1, hevents⟩
  · rw [← List.cons_append, ← List.append_assoc] at h
    exact .inl ⟨front, (List.append_inj' h rfl).1⟩

/-- Every step fits what is seen of it. -/
theorem Fits.step {es : List (Option Event)} (h : Fits s (trace es)) (input : Input) :
    Fits (Timer.step s input).1 (trace (es ++ [(Timer.step s input).2])) := by
  obtain ⟨hphase, hseen⟩ := h.phase.step input
  generalize Timer.step s input = next at hphase hseen ⊢
  obtain ⟨t, seen⟩ := next
  cases hseen with
  | started =>
      rw [trace_concat_some]
      refine ⟨hphase, fun _ => ⟨trace es, [], rfl, List.not_mem_nil⟩, fun past rest heq => ?_⟩
      rcases concat_eq_append_task heq with ⟨rest', hcut⟩ | ⟨htask, -⟩
      · exact h.tasks past rest' hcut
      · exact nomatch htask
  | task hbefore =>
      rw [trace_concat_some]
      refine ⟨hphase, fun _ => (h.live hbefore).concat (fun h => nomatch h),
        fun past rest heq => ?_⟩
      rcases concat_eq_append_task heq with ⟨rest', hcut⟩ | ⟨-, rfl⟩
      · exact h.tasks past rest' hcut
      · exact h.live hbefore
  | stopped hafter =>
      rw [trace_concat_some]
      refine ⟨hphase, fun hlive => absurd hafter hlive, fun past rest heq => ?_⟩
      rcases concat_eq_append_task heq with ⟨rest', hcut⟩ | ⟨htask, -⟩
      · exact h.tasks past rest' hcut
      · exact nomatch htask
  | quiet hkept =>
      rw [trace_concat_none]
      exact ⟨hphase, fun hlive => h.live (hkept hlive), h.tasks⟩

/-- Every run fits what is seen of it. -/
theorem fits_final (inputs : List Input) :
    Fits (final Timer.step {} inputs) (trace (outputs Timer.step {} inputs)) := by
  let fits : State → List Input → List (Option Event) → Prop := fun s _ es => Fits s (trace es)
  have hstart : fits {} [] [] :=
    ⟨.off false (.inl rfl), fun h => absurd rfl h, fun past rest heq => by simp [trace] at heq⟩
  exact final_of_history (fun _ _ => True) (fun _ _ _ input h _ => h.step input) hstart
    (allowed_of_forall _ inputs fun _ _ _ => trivial)

/-- However the threads are scheduled: the task is run behind a start only, with no stop that has
returned in between; there is one thread of the timer at most; and when a stop was the last thing to
return, there is none. -/
theorem task_between (inputs : List Input) :
    (∀ past rest, trace (outputs Timer.step {} inputs) = past ++ .task :: rest →
        ∃ before between, past = before ++ .started :: between ∧ .stopped ∉ between) ∧
      (final Timer.step {} inputs).workers.length ≤ 1 ∧
      ((trace (outputs Timer.step {} inputs)).getLast? = some .stopped →
        (final Timer.step {} inputs).workers = []) := by
  have h := fits_final inputs
  refine ⟨h.tasks, ?_, fun hlast => ?_⟩
  · generalize final Timer.step {} inputs = s at h
    obtain ⟨hphase, -, -⟩ := h
    cases hphase <;> simp
  · by_contra hlive
    obtain ⟨before, between, heq, hbetween⟩ := h.live hlive
    rw [heq, List.getLast?_append_cons] at hlast
    rcases List.mem_cons.mp (List.mem_of_getLast? hlast) with hstarted | hmem
    · exact nomatch hstarted
    · exact hbetween hmem

/-! ## The return of a stop -/

/-- A stop is under way, and the threads of the timer are told so. -/
def Underway (s : State) : Prop :=
  s.control = .locking ∨ s.control = .waiting ∨ s.control = .resetting

instance decidableUnderway (s : State) : Decidable (Underway s) :=
  inferInstanceAs (Decidable (_ ∨ _ ∨ _))

/-- A turn of a thread that gets it on. -/
def Turn (s t : State) : Prop :=
  t ≠ s ∧ (t = (step s .control).1 ∨ ∃ k, t = (step s (.worker k)).1)

/-- What is left of a thread of the timer. -/
def Point.left : Point → Nat
  | .task => 7
  | .sleep => 6
  | .test => 5
  | .lock => 4
  | .expire => 3
  | .notify => 2
  | .unlock => 1

/-- What is left of a stop. -/
def Control.left : Control → Nat
  | .locking => 3
  | .waiting => 2
  | .resetting => 1
  | _ => 0

/-- What is left until a stop returns. A wake-up is worth half a turn. -/
def State.left (s : State) : Nat :=
  2 * ((s.workers.map Point.left).sum + s.control.left) +
    if s.control = .waiting ∧ s.notified then 1 else 0

/-- A turn of the thread that calls brings a stop nearer to its return, or does nothing. -/
theorem Phase.control_left (h : Phase s) (hs : Underway s) :
    (Timer.turn s).1 = s ∨ (Timer.turn s).1.left < s.left ∧
      (Underway (Timer.turn s).1 ∨ (Timer.turn s).1.control = .idle) := by
  cases h with
  | off notified hcontrol => rcases hcontrol with rfl | rfl <;> simp [Underway] at hs
  | spawning => simp [Underway] at hs
  | running notified hpoint hcontrol =>
      rcases hcontrol with rfl | rfl | rfl <;> simp [Underway] at hs
  | stopping notified hpoint hcontrol =>
      rcases hcontrol with rfl | rfl
      · exact .inr (by simp [Timer.turn, State.left, Control.left, Underway])
      · cases notified with
        | false => exact .inl rfl
        | true => exact .inr (by simp [Timer.turn, State.left, Control.left, Underway])
  | expiring notified hcontrol | notifying notified hcontrol =>
      rcases hcontrol with rfl | rfl <;> exact .inl rfl
  | unlocking hcontrol hwoken => exact .inl (hcontrol.turn hwoken)
  | expired hcontrol hwoken =>
      rw [hcontrol.turn hwoken]
      rcases hcontrol with rfl | rfl
      · exact .inr (by simp [State.left, Control.left, Underway])
      · exact .inr (by simp [State.left, Control.left, Underway, hwoken])
  | resetting => exact .inr (by simp [Timer.turn, State.left, Control.left])

/-- A turn of a thread of the timer brings a stop nearer to its return, or does nothing. -/
theorem Phase.worker_left (h : Phase s) (hs : Underway s) (k : Nat) :
    (Timer.step s (.worker k)).1 = s ∨ (Timer.step s (.worker k)).1.left < s.left ∧
      Underway (Timer.step s (.worker k)).1 := by
  cases hpoint : s.workers[k]? with
  | none => exact .inl (by simp only [Timer.step, hpoint])
  | some point =>
      have hfirst : s.workers.length ≤ 1 := by cases h <;> simp
      obtain rfl : k = 0 := by
        have := (List.getElem?_eq_some_iff.mp hpoint).1
        omega
      simp only [Timer.step, hpoint]
      right
      cases h with
      | off | spawning | expired | resetting => exact nomatch hpoint
      | running notified hloop hcontrol =>
          rcases hcontrol with rfl | rfl | rfl <;> simp [Underway] at hs
      | stopping notified hloop hcontrol =>
          obtain rfl := Option.some.inj hpoint
          rcases hcontrol with rfl | rfl <;> rcases hloop with (rfl | rfl | rfl) | rfl <;>
            cases notified <;> decide
      | expiring notified hcontrol | notifying notified hcontrol =>
          obtain rfl := Option.some.inj hpoint
          rcases hcontrol with rfl | rfl <;> cases notified <;> decide
      | @unlocking _ notified hcontrol =>
          obtain rfl := Option.some.inj hpoint
          rcases hcontrol with rfl | rfl <;> cases notified <;> decide

/-- A stop that is under way is not blocked for good. -/
theorem Phase.exists_turn (h : Phase s) (hs : Underway s) : ∃ t, Turn s t := by
  have hworker : ∀ {point}, s.workers = [point] → (Timer.workerTurn s 0 point).1 ≠ s →
      ∃ t, Turn s t := fun {point} hworkers hne => by
    have hpoint : s.workers[0]? = some point := by rw [hworkers]; rfl
    refine ⟨_, ?_, .inr ⟨0, rfl⟩⟩
    simpa only [Timer.step, hpoint] using hne
  have hcaller : (Timer.turn s).1 ≠ s → ∃ t, Turn s t := fun hne => ⟨_, hne, .inl rfl⟩
  cases h with
  | off notified hcontrol => rcases hcontrol with rfl | rfl <;> simp [Underway] at hs
  | spawning => simp [Underway] at hs
  | running notified hpoint hcontrol =>
      rcases hcontrol with rfl | rfl | rfl <;> simp [Underway] at hs
  | stopping notified hpoint =>
      refine hworker rfl ?_
      rcases hpoint with (rfl | rfl | rfl) | rfl <;> simp [Timer.workerTurn]
  | expiring => exact hworker rfl (by simp [Timer.workerTurn])
  | notifying => exact hworker rfl (by simp [Timer.workerTurn])
  | unlocking => exact hworker rfl (by simp [Timer.workerTurn])
  | expired hblocked hwoken =>
      refine hcaller ?_
      rw [hblocked.turn hwoken]
      simp
  | resetting => exact hcaller (by simp [Timer.turn])

/-- At most twenty turns are left. -/
theorem Phase.left_le (h : Phase s) (hs : Underway s) : s.left ≤ 20 := by
  cases h with
  | off notified hcontrol => rcases hcontrol with rfl | rfl <;> simp [Underway] at hs
  | spawning => simp [Underway] at hs
  | running notified hpoint hcontrol =>
      rcases hcontrol with rfl | rfl | rfl <;> simp [Underway] at hs
  | stopping notified hpoint hcontrol =>
      rcases hcontrol with rfl | rfl <;> rcases hpoint with (rfl | rfl | rfl) | rfl <;>
        cases notified <;> decide
  | expiring notified hcontrol | notifying notified hcontrol | @unlocking _ notified hcontrol
  | @expired _ notified hcontrol =>
      rcases hcontrol with rfl | rfl <;> cases notified <;> decide
  | resetting notified => cases notified <;> decide

end Timer

end RVDataFusionServer
