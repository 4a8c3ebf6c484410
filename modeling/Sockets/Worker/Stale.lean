import Sockets.Worker.Tasks

/-! Whether `_executionHandle` can outlive the tasks: the creator stores it when the task it stands
for may be over. -/
namespace Sockets.Worker
open Foundation

variable {Handle : Type}

namespace SocketWorker

/-- Some task has the last step of `Run`, which clears the handle, still before it. -/
def SomePending (s : SocketWorker Handle) : Prop := ∃ i, ∃ t ∈ s.task i, Task.Pending t

/-- The task with this handle has that step before it. -/
def PendingFor (handle : Handle) (s : SocketWorker Handle) : Prop :=
  ∃ i, ∃ t ∈ s.task i, Task.Pending t ∧ t.handle = handle

/-- A handle is there only as long as its own task will clear it. -/
def NoStale (s : SocketWorker Handle) : Prop :=
  ∀ handle, s.atomics.executionHandle = some handle → s.PendingFor handle

/-- A handle is not published when its task has left. -/
def Owned (s : SocketWorker Handle) : Action Handle → Prop
  | .advance thread _ => ∀ handle, s.call thread = some (.publish handle) → s.PendingFor handle
  | _ => True

/-- There are only the tasks that have been created. -/
def Vacant (s : SocketWorker Handle) : Prop := ∀ i, s.created ≤ i → s.task i = none

variable {s : SocketWorker Handle} {i : ℕ} {t t' : Task Handle} {handle : Handle}

@[simp] theorem task_setTask_self (t : Option (Task Handle)) : (s.setTask i t).task i = t := by
  simp [setTask]

theorem task_setTask_of_ne {j : ℕ} (h : j ≠ i) (t : Option (Task Handle)) :
    (s.setTask i t).task j = s.task j := by
  simp [setTask, h]

@[simp] theorem setCall_controller (call : Option (Call Handle)) :
    s.setCall .controller call = { s with controller := call } := rfl

theorem setCall_task (call : Option (Call Handle)) (h : s.task i = some t) :
    s.setCall (.task i) call = s.setTask i (some { t with phase := .iterating call }) := by
  simp [setCall, h]

/-- A task that is in a call is in an iteration. -/
theorem phase_of_call {call : Call Handle} (h : s.call (.task i) = some call) :
    ∃ handle, s.task i = some ⟨handle, .iterating (some call)⟩ := by
  simp only [SocketWorker.call] at h
  split at h
  · rename_i handle call' ht
    exact ⟨handle, by rw [ht, h]⟩
  · exact absurd h (by simp)

theorem somePending_of_call {call : Call Handle} (h : s.call (.task i) = some call) :
    s.SomePending := by
  obtain ⟨handle, ht⟩ := phase_of_call h
  exact ⟨i, _, ht, by simp [Task.Pending]⟩

theorem phase_of_free (h : s.free (.task i) = true) :
    ∃ handle, s.task i = some ⟨handle, .iterating none⟩ := by
  simp only [free] at h
  split at h
  · rename_i handle ht
    exact ⟨handle, ht⟩
  · exact absurd h (by simp)

/-- The task goes on, under its handle. -/
theorem PendingFor.setTask (h : s.PendingFor handle) (ht : s.task i = some t)
    (hhandle : t'.handle = t.handle) (hpending : t'.Pending) :
    (s.setTask i (some t')).PendingFor handle := by
  obtain ⟨j, u, hu, hup, hsame⟩ := h
  by_cases hj : j = i
  · subst hj
    obtain rfl := Option.some.inj (ht.symm.trans hu)
    exact ⟨j, t', task_setTask_self _, hpending, hhandle.trans hsame⟩
  · exact ⟨j, u, by rw [task_setTask_of_ne hj]; exact hu, hup, hsame⟩

/-- Another task is replaced or goes. -/
theorem PendingFor.setTask_other (h : s.PendingFor handle) (o : Option (Task Handle))
    (hother : ∀ t ∈ s.task i, Task.Pending t → t.handle ≠ handle) :
    (s.setTask i o).PendingFor handle := by
  obtain ⟨j, u, hu, hup, hsame⟩ := h
  have hj : j ≠ i := by
    rintro rfl
    exact hother u hu hup hsame
  exact ⟨j, u, by rw [task_setTask_of_ne hj]; exact hu, hup, hsame⟩

theorem PendingFor.setCall (h : s.PendingFor handle) (thread : Thread)
    (call : Option (Call Handle)) : (s.setCall thread call).PendingFor handle := by
  cases thread with
  | controller => exact h
  | task i =>
    cases hi : s.task i with
    | none =>
      rw [SocketWorker.setCall]
      exact h.setTask_other _ (by simp [hi])
    | some t =>
      rw [setCall_task call hi]
      exact h.setTask hi rfl (by simp [Task.Pending])

/-- A task that is in a call is pending with it and without it. -/
theorem pendingFor_of_setCall {thread : Thread} {call : Call Handle}
    (hcall : s.call thread = some call) {next : Option (Call Handle)}
    (h : (s.setCall thread next).PendingFor handle) : s.PendingFor handle := by
  cases thread with
  | controller => exact h
  | task i =>
    obtain ⟨own, ht⟩ := phase_of_call hcall
    have hback : (s.setCall (.task i) next).setTask i (s.task i) = s := by
      unfold SocketWorker.setCall SocketWorker.setTask
      simp
    rw [← hback, ht]
    exact h.setTask (t := ⟨own, .iterating next⟩) (by simp [setCall_task next ht]) rfl
      (by simp [Task.Pending])

theorem PendingFor.spawn (h : s.PendingFor handle) (hvacant : s.Vacant) (call : Call Handle)
    (created : Option Handle) : (s.spawn call created).PendingFor handle := by
  unfold SocketWorker.spawn
  split
  · exact h.setTask_other _ (by simp [hvacant s.created le_rfl])
  · exact h

theorem Vacant.setTask (h : s.Vacant) (ht : s.task i = some t) (o : Option (Task Handle)) :
    (s.setTask i o).Vacant := by
  intro j hj
  have hne : j ≠ i := by
    rintro rfl
    exact Option.some_ne_none t (ht.symm.trans (h j hj))
  rw [task_setTask_of_ne hne]
  exact h j hj

theorem Vacant.setCall (h : s.Vacant) (thread : Thread) (call : Option (Call Handle)) :
    (s.setCall thread call).Vacant := by
  cases thread with
  | controller => exact h
  | task i =>
    cases hi : s.task i with
    | none =>
      have hsame : s.setTask i none = s := by
        unfold SocketWorker.setTask
        rw [← hi, Function.update_eq_self]
      rw [SocketWorker.setCall, hi, Option.map_none, hsame]
      exact h
    | some t =>
      rw [setCall_task call hi]
      exact h.setTask hi _

theorem Vacant.spawn (h : s.Vacant) (call : Call Handle) (created : Option Handle) :
    (s.spawn call created).Vacant := by
  unfold SocketWorker.spawn
  split
  · intro j hj
    have hlt : s.created < j := hj
    change (s.setTask s.created _).task j = none
    rw [task_setTask_of_ne hlt.ne']
    exact h j hlt.le
  · exact h

theorem vacant_start (handle : Handle) : (start handle).Vacant := fun _ _ => rfl

variable [DecidableEq Handle]

theorem Vacant.step (h : s.Vacant) (a : Action Handle) : (s.step a).Vacant := by
  cases a with
  | enter thread entry =>
    simp only [SocketWorker.step]
    split_ifs
    · exact h.setCall thread _
    · exact h
  | advance thread created =>
    simp only [SocketWorker.step, SocketWorker.advance]
    split
    · exact h
    · split_ifs
      · exact h
      · exact (h.spawn _ created).setCall thread _
  | begin i | check i | finish i | clear i | destroy i =>
    simp only [SocketWorker.step]
    split
    · rename_i ht
      exact h.setTask ht _
    · exact h

/-- What a step of a call does to the handle. -/
theorem executionHandle_next (current : Handle) (created : Option Handle) (m : Atomics Handle)
    (call : Call Handle) :
    (call.next current created m).2.executionHandle = m.executionHandle ∨
    (call.next current created m).2.executionHandle = none ∨
    ∃ handle, call = .publish handle ∧
      (call.next current created m).2.executionHandle = some handle := by
  cases call with
  | clearHandle => exact .inr (.inl rfl)
  | publish handle => exact .inr (.inr ⟨handle, rfl, rfl⟩)
  | loadRunning | loadHandle | awaitHandle =>
    left
    simp only [Call.next]
    split_ifs <;> rfl
  | create =>
    left
    cases created <;> rfl
  | storeRunning | clearRunning | exchangeRunning => exact .inl rfl

theorem NoStale.advance (h : s.NoStale) (hvacant : s.Vacant) (thread : Thread)
    (created : Option Handle) (howned : s.Owned (.advance thread created)) :
    (s.advance thread created).NoStale := by
  unfold SocketWorker.advance
  split
  · exact h
  · rename_i call hcall
    split_ifs
    · exact h
    · intro handle hhandle
      have hpending : s.PendingFor handle := by
        rcases executionHandle_next (s.current thread) created s.atomics call with hkept | hnone |
          ⟨published, hpublish, hstored⟩
        · exact h handle (hkept.symm.trans hhandle)
        · exact absurd (hhandle.symm.trans hnone) (Option.some_ne_none handle)
        · obtain rfl := Option.some.inj (hstored.symm.trans hhandle)
          exact howned published (hcall.trans (congrArg some hpublish))
      exact (hpending.spawn hvacant call created).setCall thread _

theorem NoStale.step (h : s.NoStale) (hvacant : s.Vacant) (a : Action Handle)
    (howned : s.Owned a) : (s.step a).NoStale := by
  cases a with
  | enter thread entry =>
    simp only [SocketWorker.step]
    split_ifs
    · intro handle hhandle
      refine (h handle ?_).setCall thread _
      cases thread <;> exact hhandle
    · exact h
  | advance thread created => exact h.advance hvacant thread created howned
  | begin i | finish i =>
    simp only [SocketWorker.step]
    split
    · rename_i ht
      exact fun handle hhandle => (h handle hhandle).setTask ht rfl (by simp [Task.Pending])
    · exact h
  | check i =>
    simp only [SocketWorker.step]
    split
    · rename_i ht
      refine fun handle hhandle => (h handle hhandle).setTask ht rfl ?_
      unfold Task.Pending
      split_ifs <;> simp
    · exact h
  | clear i =>
    simp only [SocketWorker.step]
    split
    · intro handle hhandle
      exact absurd hhandle.symm (Option.some_ne_none handle)
    · exact h
  | destroy i =>
    simp only [SocketWorker.step]
    split
    · rename_i ht
      intro handle hhandle
      refine (h handle hhandle).setTask_other none fun t ht' hpending => ?_
      obtain rfl := Option.some.inj (ht.symm.trans ht')
      exact absurd rfl hpending
    · exact h

/-- A handle published when its task has left is stale. -/
theorem stale_of_not_owned {a : Action Handle} (h : ¬ s.Owned a) : ¬ (s.step a).NoStale := by
  cases a with
  | advance thread created =>
    simp only [Owned, not_forall] at h
    obtain ⟨handle, hcall, hpending⟩ := h
    have hstep : s.step (.advance thread created) =
        { s.setCall thread none with
          atomics := { s.atomics with executionHandle := some handle } } := by
      simp [SocketWorker.step, SocketWorker.advance, hcall, Call.next, SocketWorker.spawn]
    intro hstale
    rw [hstep] at hstale
    exact hpending (pendingFor_of_setCall hcall (hstale handle rfl))
  | enter | begin | check | finish | clear | destroy => exact absurd trivial h

/-- No handle is stale in any state of a run exactly when every publication has its task. -/
theorem noStale_run (h : s.NoStale) (hvacant : s.Vacant) (actions : List (Action Handle)) :
    (∀ before after, before ++ after = actions → (run step s before).NoStale) ↔
      Meets step Owned s actions := by
  induction actions generalizing s with
  | nil =>
    refine iff_of_true ?_ trivial
    intro before after happend
    rw [(List.append_eq_nil_iff.mp happend).1]
    exact h
  | cons a actions ih =>
    constructor
    · intro hall
      have hfirst := hall [a] actions rfl
      have howned : s.Owned a := by
        by_contra hnot
        exact stale_of_not_owned hnot hfirst
      refine ⟨howned, (ih (h.step hvacant a howned) (hvacant.step a)).mp ?_⟩
      intro before after happend
      exact hall (a :: before) after (by rw [List.cons_append, happend])
    · rintro ⟨howned, hrest⟩ before after happend
      cases before with
      | nil => exact h
      | cons b before =>
        simp only [List.cons_append, List.cons.injEq] at happend
        obtain ⟨rfl, happend⟩ := happend
        exact (ih (h.step hvacant b howned) (hvacant.step b)).mpr hrest before after happend

omit [DecidableEq Handle] in
theorem noStale_start (handle : Handle) : (start handle).NoStale :=
  fun own hown => absurd hown.symm (Option.some_ne_none own)

/-- No handle is left over, and a `StopWorker` that waits for a handle waits for a task that has
not left. -/
structure Attended (s : SocketWorker Handle) : Prop where
  gone : (∀ i, s.task i = none) → (∀ thread call, s.call thread = some call → ¬ call.Starts) →
    s.atomics.executionHandle = none
  awaited : ∀ thread, s.call thread = some .awaitHandle → ∀ handle,
    s.atomics.executionHandle = some handle →
    ∃ i, ∃ t ∈ s.task i, Task.Pending t ∧ t.handle = handle

omit [DecidableEq Handle] in
theorem NoStale.attended (h : s.NoStale) : s.Attended where
  gone hgone _ := by
    by_contra hhandle
    obtain ⟨handle, hhandle⟩ := Option.ne_none_iff_exists'.mp hhandle
    obtain ⟨i, t, ht, -⟩ := h handle hhandle
    exact absurd ht (by simp [hgone i])
  awaited _ _ handle hhandle := h handle hhandle

/-- A run leaves no handle stale in any of its states exactly when every publication finds the task
of the handle with the last step of `Run` before it; and then every `StopWorker` that waits is
waiting for such a task. -/
theorem no_stale_handle (handle : Handle) (actions : List (Action Handle)) :
    ((∀ before after, before ++ after = actions → (run step (start handle) before).NoStale) ↔
      Meets step Owned (start handle) actions) ∧
    (Meets step Owned (start handle) actions → ∀ before after, before ++ after = actions →
      (run step (start handle) before).Attended) := by
  have hrun := noStale_run (noStale_start handle) (vacant_start handle) actions
  refine ⟨hrun, ?_⟩
  intro hmeets before after happend
  exact (hrun.mpr hmeets before after happend).attended

/-- A `StopWorker` waiting for a stale handle stops everything. -/
theorem step_stuck (hcall : s.controller = some .awaitHandle)
    (hhandle : s.atomics.executionHandle ≠ none) (hgone : ∀ i, s.task i = none)
    (a : Action Handle) : s.step a = s := by
  cases a with
  | enter thread entry =>
    cases thread with
    | controller => simp [step, free, hcall]
    | task i => simp [step, free, hgone i]
  | advance thread created =>
    cases thread with
    | controller =>
      obtain ⟨controllerHandle, atomics, controller, task, n⟩ := s
      obtain rfl : controller = some .awaitHandle := hcall
      simp [step, advance, call, Call.next, spawn, setCall, hhandle]
    | task i => simp [step, advance, call, hgone i]
  | begin i | check i | finish i | clear i | destroy i => simp [step, hgone i]

theorem run_stuck (hcall : s.controller = some .awaitHandle)
    (hhandle : s.atomics.executionHandle ≠ none) (hgone : ∀ i, s.task i = none)
    (actions : List (Action Handle)) : run step s actions = s := by
  refine run_induction (P := fun s' => s' = s) ?_ rfl actions
  rintro _ a rfl
  exact step_stuck hcall hhandle hgone a

/-- A task that stops its worker in its first iteration and is over before the thread that created
it stores the handle. -/
def quickTask : List (Action ℕ) :=
  [.enter .controller .startWorker, .advance .controller none, .advance .controller none,
    .advance .controller (some 7), .begin 0, .check 0, .enter (.task 0) .stopWorker,
    .advance (.task 0) none, .advance (.task 0) none, .finish 0, .check 0, .clear 0, .destroy 0,
    .advance .controller none]

/-- The first steps of a `StopWorker`. -/
def stopping : List (Action ℕ) :=
  [.enter .controller .stopWorker, .advance .controller none, .advance .controller none]

theorem quickTask_gone : ∀ i, (run step (start 0) quickTask).task i = none
  | 0 => rfl
  | _ + 1 => rfl

/-- Every task is gone, no call is in progress, the handle is there, and a `StopWorker` would wait
for it whatever happened. -/
theorem handle_stale :
    ((∀ i, (run step (start 0) quickTask).task i = none) ∧
      (∀ thread, (run step (start 0) quickTask).call thread = none) ∧
      (run step (start 0) quickTask).atomics.executionHandle = some 7) ∧
    ∀ actions, (run step (start 0) (quickTask ++ stopping ++ actions)).controller =
      some .awaitHandle := by
  refine ⟨⟨quickTask_gone, ?_, rfl⟩, ?_⟩
  · intro thread
    cases thread with
    | controller => rfl
    | task i => simp [call, quickTask_gone i]
  · intro actions
    have hgone : ∀ i, (run step (start 0) (quickTask ++ stopping)).task i = none := by
      intro i
      rw [run_append]
      exact quickTask_gone i
    rw [run_append, run_stuck rfl (by decide) hgone]
    rfl

end SocketWorker
end Sockets.Worker
