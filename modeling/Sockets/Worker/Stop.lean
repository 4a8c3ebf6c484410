import Sockets.Worker.Stale

/-! What a `StopWorker` of the controlling thread guarantees when it returns, and how many tasks can
be in `Run` at once. -/
namespace Sockets.Worker
open Foundation

variable {Handle : Type}

/-- The thread has made `_running` true and has not finished its `StartWorker`. -/
def Call.Starting : Call Handle → Prop
  | .create | .clearRunning | .clearHandle | .publish _ => True
  | .loadRunning | .storeRunning | .exchangeRunning | .loadHandle | .awaitHandle => False

namespace SocketWorker
variable {s : SocketWorker Handle} {i : ℕ} {t t' : Task Handle}

/-- No `StartWorker` makes `_running` true while a task of the worker is still pending. -/
def Exclusive (s : SocketWorker Handle) : Action Handle → Prop
  | .advance thread _ => s.call thread = some .storeRunning → ¬ s.SomePending
  | _ => True

/-- The handle that is stored, or about to be stored by the controlling thread. -/
def announced (s : SocketWorker Handle) : Option Handle :=
  match s.controller with
  | some (.publish handle) => some handle
  | _ => s.atomics.executionHandle

/-- One pending task at most, and the handle is its own. -/
structure Sole (s : SocketWorker Handle) : Prop where
  one : ∀ i j, ∀ t ∈ s.task i, ∀ u ∈ s.task j, Task.Pending t → Task.Pending u → i = j
  calls : ∀ i call, s.call (.task i) = some call → ¬ call.Starting
  starting : ∀ call, s.controller = some call → call.Starting → (∃ handle, call = .publish handle) ∨
    ¬ s.SomePending
  handle : ∀ i, ∀ t ∈ s.task i, Task.Pending t → s.announced = some t.handle
  foreign : ∀ i, ∀ t ∈ s.task i, t.handle ≠ s.controllerHandle

theorem sole_start (handle : Handle) : (start handle).Sole where
  one i _ _ ht := absurd ht (by simp [start])
  calls i call h := absurd h (by simp [start, SocketWorker.call])
  starting call h := absurd h (by simp [start])
  handle i _ ht := absurd ht (by simp [start])
  foreign i _ ht := absurd ht (by simp [start])

/-- Where a task is found after one has been replaced. -/
theorem mem_setTask {j : ℕ} {u : Task Handle} (h : u ∈ (s.setTask i (some t')).task j) :
    (j = i ∧ u = t') ∨ (j ≠ i ∧ u ∈ s.task j) := by
  by_cases hj : j = i
  · subst hj
    rw [task_setTask_self] at h
    exact .inl ⟨rfl, (Option.some.inj h).symm⟩
  · rw [task_setTask_of_ne hj] at h
    exact .inr ⟨hj, h⟩

theorem call_setTask {j : ℕ} {o : Option (Task Handle)} (h : j ≠ i) :
    (s.setTask i o).call (.task j) = s.call (.task j) := by
  simp only [call, task_setTask_of_ne h]

/-- A task goes on, without a handle of another task. -/
theorem Sole.setTask (h : s.Sole) (ht : s.task i = some t) (hhandle : t'.handle = t.handle)
    (hpending : t'.Pending → t.Pending)
    (hcall : ∀ call, t'.phase = .iterating (some call) → ¬ call.Starting) :
    (s.setTask i (some t')).Sole := by
  -- a pending task was there before, with the same handle
  have hbefore : ∀ j, ∀ u ∈ (s.setTask i (some t')).task j, ∃ v ∈ s.task j,
      u.handle = v.handle ∧ (u.Pending → v.Pending) := by
    intro j u hu
    rcases mem_setTask hu with ⟨rfl, rfl⟩ | ⟨-, hu⟩
    · exact ⟨t, ht, hhandle, hpending⟩
    · exact ⟨u, hu, rfl, id⟩
  constructor
  · intro j k u hu v hv hup hvp
    obtain ⟨u', hu', -, hup'⟩ := hbefore j u hu
    obtain ⟨v', hv', -, hvp'⟩ := hbefore k v hv
    exact h.one j k u' hu' v' hv' (hup' hup) (hvp' hvp)
  · intro j call hj
    by_cases hne : j = i
    · subst hne
      obtain ⟨handle, hphase⟩ := phase_of_call hj
      rw [task_setTask_self] at hphase
      exact hcall call (by rw [Option.some.inj hphase])
    · rw [call_setTask hne] at hj
      exact h.calls j call hj
  · intro call hc hstarting
    refine (h.starting call hc hstarting).imp id ?_
    rintro hnone ⟨j, u, hu, hup⟩
    obtain ⟨v, hv, -, hvp⟩ := hbefore j u hu
    exact hnone ⟨j, v, hv, hvp hup⟩
  · intro j u hu hup
    obtain ⟨v, hv, hsame, hvp⟩ := hbefore j u hu
    rw [hsame]
    exact h.handle j v hv (hvp hup)
  · intro j u hu
    obtain ⟨v, hv, hsame, -⟩ := hbefore j u hu
    rw [hsame]
    exact h.foreign j v hv

theorem Sole.destroy (h : s.Sole) : (s.setTask i none).Sole := by
  have hbefore : ∀ j, ∀ u ∈ (s.setTask i none).task j, j ≠ i ∧ u ∈ s.task j := by
    intro j u hu
    by_cases hj : j = i
    · subst hj
      exact absurd hu (by simp)
    · rw [task_setTask_of_ne hj] at hu
      exact ⟨hj, hu⟩
  constructor
  · intro j k u hu v hv
    exact h.one j k u (hbefore j u hu).2 v (hbefore k v hv).2
  · intro j call hj
    obtain ⟨handle, hphase⟩ := phase_of_call hj
    rw [call_setTask (hbefore j _ hphase).1] at hj
    exact h.calls j call hj
  · intro call hc hstarting
    refine (h.starting call hc hstarting).imp id ?_
    rintro hnone ⟨j, u, hu, hup⟩
    exact hnone ⟨j, u, (hbefore j u hu).2, hup⟩
  · intro j u hu
    exact h.handle j u (hbefore j u hu).2
  · intro j u hu
    exact h.foreign j u (hbefore j u hu).2

/-- `_running` plays no part. -/
theorem Sole.setRunning (h : s.Sole) (running : Bool) :
    Sole { s with atomics := { s.atomics with running } } := by
  have hannounced : announced { s with atomics := { s.atomics with running } } = s.announced := by
    unfold announced
    rfl
  exact ⟨h.one, h.calls, h.starting, fun i t ht hp => hannounced.trans (h.handle i t ht hp),
    h.foreign⟩

/-- The controlling thread goes on with the same handle announced. -/
theorem Sole.setController (h : s.Sole) (c : Option (Call Handle))
    (hstarting : ∀ call, c = some call → call.Starting → (∃ handle, call = .publish handle) ∨
      ¬ s.SomePending)
    (hannounced : announced { s with controller := c } = s.announced) :
    Sole { s with controller := c } :=
  ⟨h.one, h.calls, hstarting, fun i t ht hp => hannounced.trans (h.handle i t ht hp), h.foreign⟩

/-- Without a pending task the handle is of no importance. -/
theorem Sole.of_nonePending (h : s.Sole) (hnone : ¬ s.SomePending) (m : Atomics Handle)
    (c : Option (Call Handle)) : Sole { s with atomics := m, controller := c } where
  one := h.one
  calls := h.calls
  starting _ _ _ := .inr hnone
  handle i t ht hp := absurd ⟨i, t, ht, hp⟩ hnone
  foreign := h.foreign

/-- The task that `Create` adds when nobody is pending, with its handle about to be stored. -/
theorem Sole.addTask (h : s.Sole) (hnone : ¬ s.SomePending) {handle : Handle}
    (hforeign : handle ≠ s.controllerHandle) :
    Sole { s.addTask handle with controller := some (.publish handle) } := by
  have hadded : ∀ j, ∀ u ∈ (s.addTask handle).task j, Task.Pending u →
      j = s.created ∧ u = { handle } := by
    intro j u hu hup
    rcases mem_setTask hu with hnew | ⟨-, hold⟩
    · exact hnew
    · exact absurd ⟨j, u, hold, hup⟩ hnone
  constructor
  · intro j k u hu v hv hup hvp
    rw [(hadded j u hu hup).1, (hadded k v hv hvp).1]
  · intro j call hj
    obtain ⟨handle', hphase⟩ := phase_of_call hj
    rcases mem_setTask hphase with ⟨-, hnew⟩ | ⟨hne, -⟩
    · exact absurd hnew (by simp)
    · exact h.calls j call ((call_setTask hne).symm.trans hj)
  · intro call hc _
    exact .inl ⟨handle, (Option.some.inj hc).symm⟩
  · intro j u hu hup
    rw [(hadded j u hu hup).2]
    rfl
  · intro j u hu
    rcases mem_setTask hu with ⟨-, rfl⟩ | ⟨-, hold⟩
    · exact hforeign
    · exact h.foreign j u hold

variable [DecidableEq Handle]

/-- A call that has not made `_running` true, and does not now, leaves the handle alone. -/
theorem next_of_not_starting {call : Call Handle} (h : ¬ call.Starting)
    (hstore : call ≠ .storeRunning) (current : Handle) (created : Option Handle)
    (m : Atomics Handle) :
    (∃ running, (call.next current created m).2 = { m with running }) ∧
      ∀ c, (call.next current created m).1 = some c → ¬ c.Starting := by
  cases call with
  | create | clearRunning | clearHandle | publish => exact absurd trivial h
  | storeRunning => exact absurd rfl hstore
  | exchangeRunning => exact ⟨⟨false, rfl⟩, fun c hc => by cases hc; exact id⟩
  | loadRunning | loadHandle | awaitHandle =>
    simp only [Call.next]
    split_ifs
    all_goals
      refine ⟨⟨m.running, rfl⟩, fun c hc => ?_⟩
      cases hc
      try exact id

theorem Sole.advance_task (h : s.Sole) (i : ℕ) (created : Option Handle)
    (hexclusive : s.Exclusive (.advance (.task i) created)) :
    (s.advance (.task i) created).Sole := by
  unfold SocketWorker.advance
  split
  · exact h
  · rename_i call hcall
    obtain ⟨handle, ht⟩ := phase_of_call hcall
    have hstarting := h.calls i call hcall
    have hstore : call ≠ .storeRunning := by
      rintro rfl
      exact hexclusive hcall (somePending_of_call hcall)
    have hspawn : s.spawn call created = s := by
      cases call <;> first | rfl | exact absurd trivial hstarting
    obtain ⟨⟨running, hm⟩, hnext⟩ :=
      next_of_not_starting hstarting hstore (s.current (.task i)) created s.atomics
    split_ifs
    · exact h
    · simp only [hspawn, hm, setCall_task _ ht]
      refine Sole.setRunning (s := SocketWorker.setTask i _ s) ?_ running
      refine h.setTask ht rfl (fun _ => by simp [Task.Pending]) ?_
      intro c hc
      exact hnext c (Phase.iterating.inj hc)

theorem Sole.advance_controller (h : s.Sole) (created : Option Handle)
    (hexclusive : s.Exclusive (.advance .controller created)) :
    (s.advance .controller created).Sole := by
  unfold SocketWorker.advance
  split
  · exact h
  · rename_i call hcall
    have hcontroller : s.controller = some call := hcall
    split_ifs with hfresh
    · exact h
    · cases call with
      | loadRunning | loadHandle | awaitHandle =>
        -- the atomics are only read
        simp only [Call.next, spawn, setCall_controller]
        split_ifs
        all_goals
          refine h.setController _ ?_ (by simp [announced, hcontroller])
          intro c hc hstarting
          cases hc
          try exact absurd hstarting id
      | exchangeRunning =>
        refine (h.setController (some .loadHandle) ?_ (by simp [announced, hcontroller])).setRunning
          false
        intro c hc hstarting
        cases hc
        exact absurd hstarting id
      | storeRunning => exact h.of_nonePending (hexclusive hcall) _ _
      | clearRunning | clearHandle =>
        refine h.of_nonePending ?_ _ _
        rcases h.starting _ hcontroller trivial with ⟨handle, hpublish⟩ | hnone
        · exact absurd hpublish (by simp)
        · exact hnone
      | publish handle =>
        have hannounced : s.announced = some handle := by simp [announced, hcontroller]
        exact ⟨h.one, h.calls, fun c hc => absurd hc (by simp [Call.next, spawn]),
          fun i t ht hp => hannounced.symm.trans (h.handle i t ht hp), h.foreign⟩
      | create =>
        have hnone : ¬ s.SomePending := by
          rcases h.starting _ hcontroller trivial with ⟨handle, hpublish⟩ | hnone
          · exact absurd hpublish (by simp)
          · exact hnone
        cases created with
        | none => exact h.of_nonePending hnone _ _
        | some handle =>
          have hforeign : s.Fresh handle := by simpa using hfresh
          exact h.addTask hnone hforeign.1

theorem Sole.step (h : s.Sole) (a : Action Handle) (hexclusive : s.Exclusive a) :
    (s.step a).Sole := by
  cases a with
  | enter thread entry =>
    simp only [SocketWorker.step]
    split_ifs with hfree
    · cases thread with
      | controller =>
        have hcontroller : s.controller = none := Option.isNone_iff_eq_none.mp hfree
        apply h.setController _
        · intro c hc hstarting
          cases hc
          cases entry <;> exact absurd hstarting id
        · cases entry <;> simp [announced, hcontroller, Entry.first]
      | task i =>
        obtain ⟨handle, ht⟩ := phase_of_free hfree
        rw [setCall_task _ ht]
        refine h.setTask ht rfl (fun _ => by simp [Task.Pending]) ?_
        intro c hc
        cases hc
        cases entry <;> exact id
    · exact h
  | advance thread created =>
    cases thread with
    | controller => exact h.advance_controller created hexclusive
    | task i => exact h.advance_task i created hexclusive
  | begin i | finish i =>
    simp only [SocketWorker.step]
    split
    · rename_i handle ht
      exact h.setTask ht rfl (fun _ => by simp [Task.Pending]) (fun c hc => by cases hc)
    · exact h
  | check i =>
    simp only [SocketWorker.step]
    split
    · rename_i handle ht
      refine h.setTask ht rfl (fun _ => by simp [Task.Pending]) ?_
      intro c hc
      dsimp only at hc
      split_ifs at hc
      cases hc
    · exact h
  | clear i =>
    simp only [SocketWorker.step]
    split
    · rename_i handle ht
      have hleft : Sole (s.setTask i (some ⟨handle, .left⟩)) :=
        h.setTask ht rfl (fun hp => absurd rfl hp) (fun c hc => by cases hc)
      -- the pending task was the one that leaves
      have hnone : ¬ (s.setTask i (some ⟨handle, .left⟩)).SomePending := by
        rintro ⟨j, u, hu, hup⟩
        rcases mem_setTask hu with ⟨-, rfl⟩ | ⟨hne, hu⟩
        · exact hup rfl
        · exact hne (h.one j i u hu _ ht hup (by simp [Task.Pending]))
      exact hleft.of_nonePending hnone _ _
    · exact h
  | destroy i =>
    simp only [SocketWorker.step]
    split
    · exact h.destroy
    · exact h

/-- The controlling thread waits no longer: no task is pending. -/
theorem Sole.stopped (h : s.Sole) (created : Option Handle)
    (hcall : s.controller = some .loadHandle ∨ s.controller = some .awaitHandle)
    (hreturn : (s.step (.advance .controller created)).controller = none) :
    ¬ (s.step (.advance .controller created)).SomePending := by
  have htask : (s.step (.advance .controller created)).task = s.task := by
    rcases hcall with hcall | hcall <;>
      simp [SocketWorker.step, SocketWorker.advance, SocketWorker.call, hcall, spawn]
  rintro ⟨i, t, ht, hpending⟩
  rw [htask] at ht
  have hannounced := h.handle i t ht hpending
  have hforeign := h.foreign i t ht
  rcases hcall with hcall | hcall
  · have hhandle : s.atomics.executionHandle = some t.handle := by
      simpa [announced, hcall] using hannounced
    have hwaits : t.handle ≠ s.controllerHandle := hforeign
    simp [SocketWorker.step, SocketWorker.advance, SocketWorker.call, hcall, spawn, Call.next,
      SocketWorker.current, hhandle, hwaits] at hreturn
  · have hhandle : s.atomics.executionHandle = some t.handle := by
      simpa [announced, hcall] using hannounced
    simp [SocketWorker.step, SocketWorker.advance, SocketWorker.call, hcall, spawn, Call.next,
      hhandle] at hreturn

/-- As long as no `StartWorker` makes `_running` true while a task of the worker is pending, two
tasks are never in `Run` at once, and none is pending when a `StopWorker` of the controlling thread
returns. -/
theorem worker_stopped (handle : Handle) (actions : List (Action Handle))
    (hmeets : Meets step Exclusive (start handle) actions) :
    (∀ i j, ∀ t ∈ (run step (start handle) actions).task i,
      ∀ u ∈ (run step (start handle) actions).task j, Task.InRun t → Task.InRun u → i = j) ∧
    ∀ created, ((run step (start handle) actions).controller = some .loadHandle ∨
        (run step (start handle) actions).controller = some .awaitHandle) →
      ((run step (start handle) actions).step (.advance .controller created)).controller = none →
      ∀ i, ∀ t ∈ ((run step (start handle) actions).step (.advance .controller created)).task i,
        ¬ Task.Pending t := by
  have hsole : (run step (start handle) actions).Sole :=
    Meets.run_induction (P := Sole) (fun _ a hc hs => hs.step a hc) hmeets (sole_start handle)
  constructor
  · intro i j t ht u hu htr hur
    exact hsole.one i j t ht u hu htr.2 hur.2
  · intro created hcall hreturn i t ht hpending
    exact hsole.stopped created hcall hreturn ⟨i, t, ht, hpending⟩

/-- A start, one iteration, and a stop that waits until the task has left. -/
def oneIteration : List (Action ℕ) :=
  [.enter .controller .startWorker, .advance .controller none, .advance .controller none,
    .advance .controller (some 7), .advance .controller none, .begin 0, .check 0,
    .enter .controller .stopWorker, .advance .controller none, .advance .controller none,
    .finish 0, .check 0, .clear 0]

theorem worker_stopped_once :
    ((run step (start 0) oneIteration).step (.advance .controller none)).controller = none ∧
    ∀ i, ∀ t ∈ ((run step (start 0) oneIteration).step (.advance .controller none)).task i,
      ¬ Task.Pending t := by
  have hmeets : Meets step Exclusive (start 0) oneIteration := by
    refine ⟨trivial, ?_, ?_, ?_, ?_, trivial, trivial, trivial, ?_, ?_, trivial, trivial, trivial,
      trivial⟩
    · exact fun hcall => absurd hcall (by decide)
    · rintro - ⟨i, t, ht, -⟩
      exact absurd ht (by simp [step, start, free, advance, call, Entry.first, Call.next, spawn])
    all_goals exact fun hcall => absurd hcall (by decide)
  have hreturn : ((run step (start 0) oneIteration).step (.advance .controller none)).controller =
      none := by decide
  exact ⟨hreturn, (worker_stopped 0 oneIteration hmeets).2 none (.inr (by decide)) hreturn⟩

/-- An iteration that stops its own worker and starts it again, and the task that comes of it. -/
def restartInside : List (Action ℕ) :=
  [.enter .controller .startWorker, .advance .controller none, .advance .controller none,
    .advance .controller (some 7), .advance .controller none, .begin 0, .check 0,
    .enter (.task 0) .stopWorker, .advance (.task 0) none, .advance (.task 0) none,
    .enter (.task 0) .startWorker, .advance (.task 0) none, .advance (.task 0) none,
    .advance (.task 0) (some 8), .advance (.task 0) none, .begin 1]

/-- The controlling thread stops the worker, and the second task leaves. -/
def stopOutside : List (Action ℕ) :=
  [.enter .controller .stopWorker, .advance .controller none, .advance .controller none,
    .check 1, .clear 1]

/-- Two tasks are in `Run`; and a `StopWorker` of the controlling thread returns while one is. -/
theorem stop_not_guaranteed :
    ((run step (start 0) restartInside).task 0 = some ⟨7, .iterating none⟩ ∧
      (run step (start 0) restartInside).task 1 = some ⟨8, .checking⟩) ∧
    (run step (start 0) (restartInside ++ stopOutside)).controller = some .awaitHandle ∧
    ((run step (start 0) (restartInside ++ stopOutside)).step
      (.advance .controller none)).controller = none ∧
    ((run step (start 0) (restartInside ++ stopOutside)).step
      (.advance .controller none)).task 0 = some ⟨7, .iterating none⟩ := by
  decide

end SocketWorker
end Sockets.Worker
