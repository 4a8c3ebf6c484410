import Sockets.Worker.Orderly

/-! What the observers of a `SocketWorker` are told, and what is true of the worker when they are.
A notification is a step of its own, after the last step of the call on the two atomics. -/
namespace Sockets.Worker
open Foundation

variable {Handle : Type}

inductive WorkerNotification where
  | started
  | startFailed
  | stopped
  deriving DecidableEq

/-- What a call that returns from this step has yet to tell the observers. -/
def Call.notification (wasRunning : Bool) : Call Handle → Option WorkerNotification
  | .publish _ => some .started
  | .clearHandle => some .startFailed
  | .loadHandle | .awaitHandle => if wasRunning then some .stopped else none
  | .loadRunning | .storeRunning | .create | .clearRunning | .exchangeRunning => none

/-- The thread that takes the step. -/
def Action.thread : Action Handle → Thread
  | .enter thread _ | .advance thread _ => thread
  | .begin i | .check i | .finish i | .clear i | .destroy i => .task i

/-- `wasRunning` is the variable of a thread's last `StopWorker`, and `due` what the thread is about
to tell the observers. -/
structure ObservedWorker (Handle : Type) where
  worker : SocketWorker Handle
  wasRunning : Thread → Bool := fun _ => false
  due : Thread → Option WorkerNotification := fun _ => none
  notified : List WorkerNotification := []

/-- What an observer makes of a notification, who knows whether the worker is running; it has not
been told anything that does not follow. -/
def heard : Bool → WorkerNotification → Option Bool
  | false, .started => some true
  | false, .startFailed => some false
  | true, .stopped => some false
  | true, .started | true, .startFailed | false, .stopped => none

namespace ObservedWorker

inductive Action (Handle : Type) where
  | act (action : Worker.Action Handle)
  | notify (thread : Thread)

/-- No iteration calls `StartWorker` or `StopWorker`. -/
def Action.Outside : Action Handle → Prop
  | .act a => a.Outside
  | .notify _ => True

def start (handle : Handle) : ObservedWorker Handle := { worker := .start handle }

section
variable [DecidableEq Handle]

def advance (thread : Thread) (created : Option Handle) (v : ObservedWorker Handle) :
    ObservedWorker Handle :=
  match v.worker.call thread with
  | none => v
  | some call =>
    let worker := v.worker.advance thread created
    { v with
      worker
      wasRunning :=
        if call = .exchangeRunning then
          Function.update v.wasRunning thread v.worker.atomics.running
        else v.wasRunning
      due :=
        if worker.call thread = none then
          Function.update v.due thread (call.notification (v.wasRunning thread))
        else v.due }

/-- A thread that has something to tell does that first. -/
def step (v : ObservedWorker Handle) : Action Handle → ObservedWorker Handle
  | .act a =>
    if (v.due a.thread).isSome then v
    else
      match a with
      | .advance thread created => v.advance thread created
      | a => { v with worker := v.worker.step a }
  | .notify thread =>
    match v.due thread with
    | none => v
    | some n =>
      { v with due := Function.update v.due thread none, notified := v.notified ++ [n] }

end

/-- What the observers are to think, by where the controlling thread stands. -/
def up (v : ObservedWorker Handle) : Bool :=
  match v.due .controller with
  | some n => n = .stopped
  | none =>
    match v.worker.controller with
    | none | some .loadRunning | some .exchangeRunning => v.worker.atomics.running
    | some .loadHandle | some .awaitHandle => v.wasRunning .controller
    | some .storeRunning | some .create | some .clearRunning | some .clearHandle
    | some (.publish _) => false

/-- Between the steps of a run whose iterations call neither function. -/
structure Told (v : ObservedWorker Handle) : Prop where
  orderly : v.worker.Orderly
  silent : ∀ i, v.due (.task i) = none
  notified : v.notified.foldlM heard false = some v.up
  due : ∀ n, v.due .controller = some n → v.worker.controller = none ∧
    v.worker.atomics.running = decide (n = .started) ∧ (n = .started → v.worker.SomeLooping)
  low : ∀ call, v.worker.controller = some call → call = .storeRunning ∨ call = .clearHandle ∨
    call = .loadHandle ∨ call = .awaitHandle → v.worker.atomics.running = false

section Told
variable {v : ObservedWorker Handle}

theorem told_start (handle : Handle) : (start handle).Told where
  orderly := SocketWorker.orderly_start handle
  silent _ := rfl
  notified := rfl
  due n h := absurd h.symm (Option.some_ne_none n)
  low call h := absurd h.symm (Option.some_ne_none call)

variable [DecidableEq Handle]

/-- A step of the controlling thread inside `call`, which has nothing to tell beforehand. -/
structure Advanced (v : ObservedWorker Handle) (call : Call Handle) (created : Option Handle)
    (v' : ObservedWorker Handle) : Prop where
  orderly : v'.worker.Orderly
  controller : v'.worker.controller =
    (call.next v.worker.controllerHandle created v.worker.atomics).1
  atomics : v'.worker.atomics = (call.next v.worker.controllerHandle created v.worker.atomics).2
  task : v'.worker.task = (v.worker.spawn call created).task
  notified : v'.notified = v.notified
  silent : ∀ i, v'.due (.task i) = v.due (.task i)
  due : v'.due .controller =
    if v'.worker.controller = none then call.notification (v.wasRunning .controller) else none
  wasRunning : v'.wasRunning .controller =
    if call = .exchangeRunning then v.worker.atomics.running else v.wasRunning .controller

/-- `Create` returns no handle that is in use. -/
theorem advance_controller (horderly : v.worker.Orderly) (hquiet : v.due .controller = none)
    {call : Call Handle} (hcall : v.worker.controller = some call) (created : Option Handle) :
    v.advance .controller created = v ∨
      Advanced v call created (v.advance .controller created) := by
  have hlater := horderly.advance_controller created
  simp only [ObservedWorker.advance, SocketWorker.call, hcall]
  by_cases hrefused : call = .create ∧ ∃ handle ∈ created, ¬ v.worker.Fresh handle
  · left
    have hsame : v.worker.advance .controller created = v.worker := by
      simp only [SocketWorker.advance, SocketWorker.call, hcall]
      exact if_pos hrefused
    simp [hsame, hcall, hrefused.1]
  · right
    have hnext : v.worker.advance .controller created =
        { v.worker.spawn call created with
          controller := (call.next v.worker.controllerHandle created v.worker.atomics).1
          atomics := (call.next v.worker.controllerHandle created v.worker.atomics).2 } := by
      simp only [SocketWorker.advance, SocketWorker.call, hcall]
      exact if_neg hrefused
    refine ⟨hlater, by rw [hnext], by rw [hnext], by rw [hnext], rfl, ?_, ?_, ?_⟩
    · intro i
      by_cases hreturn : (v.worker.advance .controller created).controller = none
      · simp [hreturn]
      · simp [hreturn]
    · by_cases hreturn : (v.worker.advance .controller created).controller = none
      · simp [hreturn]
      · simp [hreturn, hquiet]
    · by_cases hexchange : call = .exchangeRunning
      · simp [hexchange]
      · simp [hexchange]

section Advanced
variable {v' : ObservedWorker Handle} {call : Call Handle} {created : Option Handle}

/-- The observers are told nothing. -/
theorem Advanced.told (ha : Advanced v call created v') (h : v.Told)
    (hdue : v'.due .controller = none) (hup : v'.up = v.up)
    (hlow : ∀ call, v'.worker.controller = some call → call = .storeRunning ∨
      call = .clearHandle ∨ call = .loadHandle ∨ call = .awaitHandle →
      v'.worker.atomics.running = false) : v'.Told := by
  refine ⟨ha.orderly, fun i => (ha.silent i).trans (h.silent i), ?_, ?_, hlow⟩
  · rw [ha.notified, h.notified, hup]
  · intro n hn
    exact absurd (hn.symm.trans hdue) (Option.some_ne_none n)

/-- The call has returned, but for this. -/
theorem Advanced.told_due (ha : Advanced v call created v') (h : v.Told)
    (hreturn : v'.worker.controller = none) {n : WorkerNotification}
    (hn : call.notification (v.wasRunning .controller) = some n)
    (hup : v.up = decide (n = .stopped))
    (hrunning : v'.worker.atomics.running = decide (n = .started))
    (hlooping : n = .started → v'.worker.SomeLooping) : v'.Told := by
  have hdue : v'.due .controller = some n := by rw [ha.due, if_pos hreturn, hn]
  refine ⟨ha.orderly, fun i => (ha.silent i).trans (h.silent i), ?_, ?_, ?_⟩
  · rw [ha.notified, h.notified, hup, up, hdue]
  · intro m hm
    obtain rfl := Option.some.inj (hdue.symm.trans hm)
    exact ⟨hreturn, hrunning, hlooping⟩
  · intro call' hcall'
    exact absurd (hcall'.symm.trans hreturn) (Option.some_ne_none call')

/-- A `StopWorker` that waits, or returns, tells the observers only when it has found the worker
running. -/
theorem Advanced.told_stop (ha : Advanced v call created v') (h : v.Told)
    (hquiet : v.due .controller = none) (hcall : v.worker.controller = some call)
    (hstop : call = .loadHandle ∨ call = .awaitHandle) : v'.Told := by
  have hoff : v'.worker.atomics.running = false := by
    have hlow := h.low call hcall (.inr (.inr hstop))
    rw [ha.atomics]
    rcases hstop with rfl | rfl
    all_goals
      unfold Call.next
      split_ifs <;> exact hlow
  have hgoes : v'.worker.controller = none ∨ v'.worker.controller = some .awaitHandle := by
    rw [ha.controller]
    rcases hstop with rfl | rfl
    all_goals
      unfold Call.next
      split_ifs <;> simp
  have hwas : v'.wasRunning .controller = v.wasRunning .controller := by
    rw [ha.wasRunning]
    rcases hstop with rfl | rfl <;> exact if_neg (by simp)
  have hup : v.up = v.wasRunning .controller := by
    rcases hstop with rfl | rfl <;> simp [up, hquiet, hcall]
  have hnotification : call.notification (v.wasRunning .controller) =
      if v.wasRunning .controller then some .stopped else none := by
    rcases hstop with rfl | rfl <;> rfl
  rcases hgoes with hreturn | hwait
  · cases hstopped : v.wasRunning .controller with
    | true =>
      have hn : call.notification (v.wasRunning .controller) = some .stopped := by
        rw [hnotification, hstopped]
        rfl
      refine ha.told_due h hreturn hn ?_ hoff (fun hn => by cases hn)
      rw [hup, hstopped]
      rfl
    | false =>
      have hdue : v'.due .controller = none := by
        rw [ha.due, if_pos hreturn, hnotification, hstopped]
        rfl
      refine ha.told h hdue ?_ ?_
      · rw [hup, hstopped, up, hdue, hreturn]
        exact hoff
      · simp [hreturn]
  · have hdue : v'.due .controller = none := by rw [ha.due, hwait, if_neg (by simp)]
    refine ha.told h hdue ?_ (fun _ _ _ => hoff)
    rw [hup, ← hwas, up, hdue, hwait]

end Advanced

theorem Told.advance_controller (h : v.Told) (hquiet : v.due .controller = none)
    (created : Option Handle) : (v.advance .controller created).Told := by
  cases hcall : v.worker.controller with
  | none => simpa [ObservedWorker.advance, SocketWorker.call, hcall] using h
  | some call =>
    have hlow := h.low call hcall
    rcases ObservedWorker.advance_controller h.orderly hquiet hcall created with hsame | ha
    · rw [hsame]
      exact h
    generalize v.advance .controller created = v' at ha
    have hcontroller := ha.controller
    have hatomics := ha.atomics
    have hdue := ha.due
    rw [hcontroller] at hdue
    cases call with
    | loadRunning =>
      cases hrunning : v.worker.atomics.running with
      | true =>
        simp only [Call.next, hrunning, if_true] at hcontroller hatomics hdue
        refine ha.told h hdue ?_ ?_
        · simp [up, hquiet, hcall, hcontroller, hatomics, hdue, Call.notification]
        · simp [hcontroller]
      | false =>
        simp only [Call.next, hrunning, Bool.false_eq_true, if_false] at hcontroller hatomics hdue
        refine ha.told h hdue ?_ ?_
        · simp [up, hquiet, hcall, hcontroller, hdue, hrunning]
        · simp [hatomics, hrunning]
    | storeRunning =>
      refine ha.told h hdue ?_ ?_
      · simp [up, hquiet, hcall, hcontroller, hdue, Call.next]
      · simp [hcontroller, Call.next]
    | create =>
      have hgoes : v'.worker.controller = some .clearRunning ∨
          ∃ handle, v'.worker.controller = some (.publish handle) := by
        cases created with
        | none => exact .inl hcontroller
        | some handle => exact .inr ⟨handle, hcontroller⟩
      have hdue : v'.due .controller = none := by
        rw [ha.due]
        rcases hgoes with hgoes | ⟨handle, hgoes⟩ <;> simp [hgoes]
      refine ha.told h hdue ?_ ?_
      · rcases hgoes with hgoes | ⟨handle, hgoes⟩ <;> simp [up, hquiet, hcall, hgoes, hdue]
      · rcases hgoes with hgoes | ⟨handle, hgoes⟩ <;> simp [hgoes]
    | clearRunning =>
      refine ha.told h hdue ?_ ?_
      · simp [up, hquiet, hcall, hcontroller, hdue, Call.next]
      · simp [hatomics, Call.next]
    | clearHandle =>
      have hoff := hlow (.inr (.inl rfl))
      refine ha.told_due h hcontroller rfl ?_ ?_ (fun hn => by cases hn)
      · simp [up, hquiet, hcall]
      · simp [hatomics, Call.next, hoff]
    | publish handle =>
      obtain ⟨hrunning, hlooping⟩ := h.orderly.publishing handle hcall
      have hkept : v'.worker.SomeLooping := by
        unfold SocketWorker.SomeLooping
        rw [ha.task]
        exact hlooping
      refine ha.told_due h hcontroller rfl ?_ ?_ (fun _ => hkept)
      · simp [up, hquiet, hcall]
      · simp [hatomics, Call.next, hrunning]
    | exchangeRunning =>
      have hwas := ha.wasRunning
      rw [if_pos rfl] at hwas
      refine ha.told h hdue ?_ ?_
      · simp [up, hquiet, hcall, hcontroller, hdue, hwas, Call.next]
      · simp [hatomics, Call.next]
    | loadHandle => exact ha.told_stop h hquiet hcall (.inl rfl)
    | awaitHandle => exact ha.told_stop h hquiet hcall (.inr rfl)

/-- While `_running` is true, a step of a task leaves a task that will go on. -/
theorem someLooping_step {s : SocketWorker Handle} (hl : s.SomeLooping)
    (hrunning : s.atomics.running = true) (houtside : ∀ i, s.call (.task i) = none)
    {a : Worker.Action Handle} {i : ℕ} (hthread : a.thread = .task i) (ha : a.Outside) :
    (s.step a).SomeLooping := by
  cases a with
  | enter thread entry =>
    obtain rfl : thread = .task i := hthread
    exact absurd ha id
  | advance thread created =>
    obtain rfl : thread = .task i := hthread
    simpa [SocketWorker.step, SocketWorker.advance, houtside i] using hl
  | begin j | finish j =>
    simp only [SocketWorker.step]
    split
    · rename_i handle ht
      exact hl.setTask ht fun _ => ⟨_, rfl, by simp [Task.Looping]⟩
    · exact hl
  | check j =>
    simp only [SocketWorker.step]
    split
    · rename_i handle ht
      exact hl.setTask ht fun _ => ⟨_, rfl, by simp [Task.Looping, hrunning]⟩
    · exact hl
  | clear j =>
    simp only [SocketWorker.step]
    split
    · rename_i handle ht
      exact hl.setTask ht fun hlooping => absurd rfl hlooping.1
    · exact hl
  | destroy j =>
    simp only [SocketWorker.step]
    split
    · rename_i handle ht
      exact hl.setTask ht fun hlooping => absurd rfl hlooping.2
    · exact hl

/-- A step of a task leaves `_running` and the controlling thread alone. -/
theorem task_step_frame {s : SocketWorker Handle} (houtside : ∀ i, s.call (.task i) = none)
    {a : Worker.Action Handle} {i : ℕ} (hthread : a.thread = .task i) (ha : a.Outside) :
    (s.step a).controller = s.controller ∧ (s.step a).atomics.running = s.atomics.running := by
  cases a with
  | enter thread entry =>
    obtain rfl : thread = .task i := hthread
    exact absurd ha id
  | advance thread created =>
    obtain rfl : thread = .task i := hthread
    simp [SocketWorker.step, SocketWorker.advance, houtside i]
  | begin j | finish j | check j | clear j | destroy j =>
    simp only [SocketWorker.step]
    split <;> exact ⟨rfl, rfl⟩

theorem Told.task_step (h : v.Told) {a : Worker.Action Handle} {i : ℕ}
    (hthread : a.thread = .task i) (ha : a.Outside) :
    ({ v with worker := v.worker.step a } : ObservedWorker Handle).Told := by
  obtain ⟨hcontroller, hrunning⟩ := task_step_frame h.orderly.outside hthread ha
  refine ⟨h.orderly.step a ha, h.silent, ?_, ?_, ?_⟩
  · have hup : ({ v with worker := v.worker.step a } : ObservedWorker Handle).up = v.up := by
      unfold up
      dsimp only
      rw [hcontroller, hrunning]
    rw [hup]
    exact h.notified
  · intro n hn
    obtain ⟨hreturned, hn', hlooping⟩ := h.due n hn
    refine ⟨hcontroller.trans hreturned, hrunning.trans hn', ?_⟩
    rintro rfl
    exact someLooping_step (hlooping rfl) (by simpa using hn') h.orderly.outside hthread ha
  · intro call hcall hlow
    exact hrunning.trans (h.low call (hcontroller.symm.trans hcall) hlow)

/-- The controlling thread calls. -/
theorem Told.enter (h : v.Told) (hquiet : v.due .controller = none) (entry : Entry) :
    ({ v with worker := v.worker.step (.enter .controller entry) } :
      ObservedWorker Handle).Told := by
  have horderly := h.orderly.step (.enter .controller entry) trivial
  by_cases hfree : v.worker.free .controller = true
  · have hcontroller : v.worker.controller = none := Option.isNone_iff_eq_none.mp hfree
    have hstep : v.worker.step (.enter .controller entry) =
        { v.worker with controller := some entry.first } := if_pos hfree
    rw [hstep] at horderly ⊢
    refine ⟨horderly, h.silent, ?_, ?_, ?_⟩
    · rw [h.notified]
      cases entry <;> simp [up, hquiet, hcontroller, Entry.first]
    · intro n hn
      exact absurd (hn.symm.trans hquiet) (Option.some_ne_none n)
    · cases entry <;> simp [Entry.first]
  · have hstep : v.worker.step (.enter .controller entry) = v.worker := if_neg hfree
    rw [hstep]
    exact h

theorem Told.notify (h : v.Told) (thread : Thread) : (v.step (.notify thread)).Told := by
  cases thread with
  | task i => simpa [ObservedWorker.step, h.silent i] using h
  | controller =>
    cases hdue : v.due .controller with
    | none => simpa [ObservedWorker.step, hdue] using h
    | some n =>
      obtain ⟨hcontroller, hrunning, -⟩ := h.due n hdue
      have hup : v.up = decide (n = .stopped) := by simp [up, hdue]
      simp only [ObservedWorker.step, hdue]
      refine ⟨h.orderly, ?_, ?_, ?_, h.low⟩
      · intro i
        simpa using h.silent i
      · rw [List.foldlM_append, h.notified, hup]
        cases n <;> simp [up, hcontroller, hrunning, heard]
      · intro m hm
        simp at hm

theorem Told.step (h : v.Told) (a : Action Handle) (ha : a.Outside) : (v.step a).Told := by
  cases a with
  | notify thread => exact h.notify thread
  | act a =>
    cases hthread : a.thread with
    | task i =>
      have hstep : v.step (.act a) = { v with worker := v.worker.step a } := by
        cases a with
        | advance thread created =>
          obtain rfl : thread = .task i := hthread
          simp [ObservedWorker.step, Action.thread, h.silent i, ObservedWorker.advance,
            SocketWorker.step, SocketWorker.advance, h.orderly.outside i]
        | enter | begin | check | finish | clear | destroy =>
          simp only [ObservedWorker.step, hthread, h.silent i]
          rfl
      rw [hstep]
      exact h.task_step hthread ha
    | controller =>
      cases hdue : v.due .controller with
      | some n => simpa [ObservedWorker.step, hthread, hdue] using h
      | none =>
        cases a with
        | enter thread entry =>
          obtain rfl : thread = .controller := hthread
          simpa [ObservedWorker.step, Worker.Action.thread, hdue] using h.enter hdue entry
        | advance thread created =>
          obtain rfl : thread = .controller := hthread
          simpa [ObservedWorker.step, Worker.Action.thread, hdue] using
            h.advance_controller hdue created
        | begin j | finish j | check j | clear j | destroy j => cases hthread

theorem told_run (handle : Handle) (actions : List (Action Handle))
    (houtside : ∀ a ∈ actions, a.Outside) : (run step (start handle) actions).Told := by
  have hall (v : ObservedWorker Handle) (h : v.Told) : (run step v actions).Told := by
    induction actions generalizing v with
    | nil => exact h
    | cons a actions ih =>
      exact ih (fun b hb => houtside b (List.mem_cons_of_mem _ hb)) _
        (h.step a (houtside a List.mem_cons_self))
  exact hall _ (told_start handle)

end Told

section Worker
variable [DecidableEq Handle]

theorem worker_step (v : ObservedWorker Handle) (a : Action Handle) :
    (v.step a).worker = v.worker ∨ ∃ b, a = .act b ∧ (v.step a).worker = v.worker.step b := by
  cases a with
  | notify thread =>
    left
    simp only [ObservedWorker.step]
    split <;> rfl
  | act b =>
    simp only [ObservedWorker.step]
    split_ifs
    · exact .inl rfl
    · right
      refine ⟨b, rfl, ?_⟩
      cases b with
      | advance thread created =>
        simp only [ObservedWorker.advance]
        split
        · rename_i hcall
          simp [SocketWorker.step, SocketWorker.advance, hcall]
        · rfl
      | enter | begin | check | finish | clear | destroy => rfl

/-- To the worker itself, a run with observers is one without. -/
theorem worker_run (v : ObservedWorker Handle) (actions : List (Action Handle)) :
    ∃ bare, (run step v actions).worker = run SocketWorker.step v.worker bare ∧
      ∀ b ∈ bare, Action.act b ∈ actions := by
  induction actions generalizing v with
  | nil => exact ⟨[], rfl, by simp⟩
  | cons a actions ih =>
    obtain ⟨bare, hrun, hbare⟩ := ih (v.step a)
    rcases worker_step v a with hsame | ⟨b, rfl, hstep⟩
    · refine ⟨bare, ?_, fun b hb => List.mem_cons_of_mem _ (hbare b hb)⟩
      rw [← hsame]
      exact hrun
    · refine ⟨b :: bare, ?_, ?_⟩
      · change _ = run SocketWorker.step (v.worker.step b) bare
        rw [← hstep]
        exact hrun
      · intro c hc
        rcases List.mem_cons.mp hc with rfl | hc
        · exact List.mem_cons_self
        · exact List.mem_cons_of_mem _ (hbare c hc)

/-- In a run whose iterations call neither function, `Started` and `Stopped` take turns and
`StartFailed` comes between, and the last of them says what `_running` is when the controlling
thread is outside a call. `Started` comes while a task goes on looping, and the other two when no
task is pending. -/
theorem notifications_follow (handle : Handle) (actions : List (Action Handle))
    (houtside : ∀ a ∈ actions, a.Outside) :
    let v := run step (start handle) actions
    (∃ running, v.notified.foldlM heard false = some running ∧
      (v.worker.controller = none → v.due .controller = none →
        v.worker.atomics.running = running)) ∧
    (∀ i, v.due (.task i) = none) ∧
    (v.due .controller = some .started →
      v.worker.atomics.running = true ∧ v.worker.SomeLooping) ∧
    ∀ n, v.due .controller = some n → n ≠ .started →
      v.worker.atomics.running = false ∧ ¬ v.worker.SomePending := by
  intro v
  have htold : v.Told := told_run handle actions houtside
  refine ⟨⟨v.up, htold.notified, ?_⟩, htold.silent, ?_, ?_⟩
  · intro hcontroller hdue
    simp [up, hcontroller, hdue]
  · intro hdue
    obtain ⟨-, hrunning, hlooping⟩ := htold.due _ hdue
    exact ⟨by simpa using hrunning, hlooping rfl⟩
  · intro n hdue hn
    obtain ⟨hcontroller, hrunning, -⟩ := htold.due n hdue
    have hoff : v.worker.atomics.running = false := by simpa [hn] using hrunning
    refine ⟨hoff, htold.orderly.idle (fun call hcall => ?_) hoff⟩
    rw [hcontroller] at hcall
    exact absurd hcall.symm (Option.some_ne_none call)

/-- The observers of a start, one iteration and a stop. -/
def observedIteration : List (Action ℕ) :=
  [.act (.enter .controller .startWorker), .act (.advance .controller none),
    .act (.advance .controller none), .act (.advance .controller (some 7)),
    .act (.advance .controller none), .notify .controller, .act (.begin 0), .act (.check 0),
    .act (.enter .controller .stopWorker), .act (.advance .controller none),
    .act (.advance .controller none), .act (.finish 0), .act (.check 0), .act (.clear 0),
    .act (.advance .controller none)]

theorem notifications_follow_once :
    let v := run step (start 0) observedIteration
    v.notified = [.started] ∧ v.due .controller = some .stopped ∧
      v.worker.atomics.running = false ∧ ¬ v.worker.SomePending := by
  intro v
  have houtside : ∀ a ∈ observedIteration, a.Outside := by
    simp [observedIteration, Action.Outside, Worker.Action.Outside]
  obtain ⟨-, -, -, hstopped⟩ := notifications_follow 0 observedIteration houtside
  have hdue : v.due .controller = some .stopped := by decide
  exact ⟨by decide, hdue, hstopped .stopped hdue (by decide)⟩

end Worker
end ObservedWorker
end Sockets.Worker
