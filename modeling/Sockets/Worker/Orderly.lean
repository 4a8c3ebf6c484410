import Sockets.Worker.Stop

/-! A worker whose iterations call neither `StartWorker` nor `StopWorker`: its stops and its handle
are in order in every run. -/
namespace Sockets.Worker
open Foundation

variable {Handle : Type}

/-- The task goes on iterating as long as `_running` is true. -/
def Task.Looping (t : Task Handle) : Prop := t.phase ≠ .leaving ∧ t.phase ≠ .left

/-- The action is not a call out of an iteration. -/
def Action.Outside : Action Handle → Prop
  | .enter (.task _) _ => False
  | _ => True

namespace SocketWorker
variable {s s' : SocketWorker Handle} {i : ℕ} {t t' : Task Handle}

def SomeLooping (s : SocketWorker Handle) : Prop := ∃ i, ∃ t ∈ s.task i, Task.Looping t

/-- Where the controlling thread stands says what the tasks may be doing. -/
structure Orderly (s : SocketWorker Handle) : Prop where
  sole : s.Sole
  outside : ∀ i, s.call (.task i) = none
  idle : (∀ call ∈ s.controller, call = .loadRunning ∨ call = .exchangeRunning) →
    s.atomics.running = false → ¬ s.SomePending
  storing : s.controller = some .storeRunning → ¬ s.SomePending
  creating : s.controller = some .create → s.atomics.running = true
  publishing : ∀ handle, s.controller = some (.publish handle) →
    s.atomics.running = true ∧ s.SomeLooping

theorem orderly_start (handle : Handle) : (start handle).Orderly where
  sole := sole_start handle
  outside _ := rfl
  idle _ _ := by
    rintro ⟨i, t, ht, -⟩
    exact absurd ht (by simp [start])
  storing h := absurd h (by simp [start])
  creating h := absurd h (by simp [start])
  publishing _ h := absurd h (by simp [start])

/-- A step of a task keeps the order when none becomes pending, and none stops looping before
`_running` is false. -/
theorem Orderly.of_task_step (h : s.Orderly) (hsole : s'.Sole)
    (houtside : ∀ i, s'.call (.task i) = none) (hcontroller : s'.controller = s.controller)
    (hrunning : s'.atomics.running = s.atomics.running)
    (hpending : s'.SomePending → s.SomePending)
    (hlooping : s.atomics.running = true → s.SomeLooping → s'.SomeLooping) : s'.Orderly where
  sole := hsole
  outside := houtside
  idle hc hr hp := h.idle (hcontroller ▸ hc) (hrunning ▸ hr) (hpending hp)
  storing hc hp := h.storing (hcontroller ▸ hc) (hpending hp)
  creating hc := hrunning.trans (h.creating (hcontroller ▸ hc))
  publishing handle hc := by
    obtain ⟨hr, hl⟩ := h.publishing handle (hcontroller ▸ hc)
    exact ⟨hrunning.trans hr, hlooping hr hl⟩

theorem outside_setTask (h : ∀ j, s.call (.task j) = none) {o : Option (Task Handle)}
    (ho : ∀ t ∈ o, ∀ call, t.phase ≠ .iterating (some call)) (j : ℕ) :
    (s.setTask i o).call (.task j) = none := by
  by_contra hne
  obtain ⟨call, hcall⟩ := Option.ne_none_iff_exists'.mp hne
  by_cases hj : j = i
  · subst hj
    obtain ⟨handle, hphase⟩ := phase_of_call hcall
    rw [task_setTask_self] at hphase
    exact ho _ hphase call rfl
  · rw [call_setTask hj, h j] at hcall
    exact absurd hcall (by simp)

/-- Replacing a task that is there. -/
theorem somePending_of_setTask (ht : s.task i = some t) (hpending : t'.Pending → t.Pending)
    (h : (s.setTask i (some t')).SomePending) : s.SomePending := by
  obtain ⟨j, u, hu, hup⟩ := h
  rcases mem_setTask hu with ⟨rfl, rfl⟩ | ⟨-, hu⟩
  · exact ⟨j, t, ht, hpending hup⟩
  · exact ⟨j, u, hu, hup⟩

theorem SomeLooping.setTask (h : s.SomeLooping) (ht : s.task i = some t) {o : Option (Task Handle)}
    (hlooping : t.Looping → ∃ t' ∈ o, Task.Looping t') : (s.setTask i o).SomeLooping := by
  obtain ⟨j, u, hu, hul⟩ := h
  by_cases hj : j = i
  · subst hj
    rw [ht] at hu
    obtain rfl := Option.some.inj hu
    obtain ⟨t', rfl, hl⟩ := hlooping hul
    exact ⟨j, t', task_setTask_self _, hl⟩
  · exact ⟨j, u, by rw [task_setTask_of_ne hj]; exact hu, hul⟩

/-- The conditions of an undisturbed life hold at every step. -/
theorem Orderly.exclusive (h : s.Orderly) (a : Action Handle) : s.Exclusive a := by
  cases a with
  | advance thread created =>
    intro hcall
    cases thread with
    | controller => exact h.storing hcall
    | task i => exact absurd hcall (by simp [h.outside i])
  | enter | begin | check | finish | clear | destroy => trivial

theorem Orderly.owned (h : s.Orderly) (a : Action Handle) : s.Owned a := by
  cases a with
  | advance thread created =>
    intro handle hcall
    cases thread with
    | controller =>
      obtain ⟨-, i, t, ht, hlooping⟩ := h.publishing handle hcall
      have hannounced : s.announced = some handle := by
        unfold announced
        rw [show s.controller = some (.publish handle) from hcall]
      have hown := h.sole.handle i t ht hlooping.2
      exact ⟨i, t, ht, hlooping.2, Option.some.inj (hown.symm.trans hannounced)⟩
    | task i => exact absurd hcall (by simp [h.outside i])
  | enter | begin | check | finish | clear | destroy => trivial

theorem Orderly.of_idle (hsole : s.Sole) (houtside : ∀ i, s.call (.task i) = none)
    (hcontroller : s.controller = none)
    (hidle : s.atomics.running = false → ¬ s.SomePending) : s.Orderly where
  sole := hsole
  outside := houtside
  idle _ := hidle
  storing h := absurd h (by simp [hcontroller])
  creating h := absurd h (by simp [hcontroller])
  publishing _ h := absurd h (by simp [hcontroller])

/-- Inside `StopWorker`, or in a `StartWorker` that has failed, there is nothing to keep. -/
theorem Orderly.of_passing (hsole : s.Sole) (houtside : ∀ i, s.call (.task i) = none)
    {call : Call Handle} (hcontroller : s.controller = some call)
    (hcall : call = .clearRunning ∨ call = .clearHandle ∨ call = .loadHandle ∨
      call = .awaitHandle) : s.Orderly where
  sole := hsole
  outside := houtside
  idle h := by
    rcases h call hcontroller with rfl | rfl <;> simp at hcall
  storing h := by
    obtain rfl := Option.some.inj (hcontroller.symm.trans h)
    simp at hcall
  creating h := by
    obtain rfl := Option.some.inj (hcontroller.symm.trans h)
    simp at hcall
  publishing handle h := by
    obtain rfl := Option.some.inj (hcontroller.symm.trans h)
    simp at hcall

variable [DecidableEq Handle]

/-- A step of the controlling thread inside a call. -/
theorem Orderly.advance_controller (h : s.Orderly) (created : Option Handle) :
    (s.advance .controller created).Orderly := by
  have hsole : (s.advance .controller created).Sole :=
    h.sole.advance_controller created (h.exclusive (.advance .controller created))
  cases hcontroller : s.controller with
  | none => simpa [SocketWorker.advance, SocketWorker.call, hcontroller] using h
  | some call =>
    by_cases hrefused : call = .create ∧ ∃ handle ∈ created, ¬ s.Fresh handle
    · have hsame : s.advance .controller created = s := by
        simp only [SocketWorker.advance, SocketWorker.call, hcontroller]
        exact if_pos hrefused
      exact hsame.symm ▸ h
    · have hnext : s.advance .controller created =
          { s.spawn call created with
            controller := (call.next s.controllerHandle created s.atomics).1
            atomics := (call.next s.controllerHandle created s.atomics).2 } := by
        simp only [SocketWorker.advance, SocketWorker.call, hcontroller]
        exact if_neg hrefused
      have hreturn (hcall : s.controller = some .loadHandle ∨ s.controller = some .awaitHandle) :=
        h.sole.stopped created hcall
      simp only [SocketWorker.step] at hreturn
      rw [hnext] at hsole hreturn ⊢
      cases call with
      | loadRunning =>
        by_cases hrunning : s.atomics.running = true
        · simp only [Call.next, hrunning, spawn, if_true] at hsole ⊢
          exact .of_idle hsole h.outside rfl (fun hr => absurd hrunning (by simp_all))
        · have hnone := h.idle (fun c hc => .inl (by simpa [hcontroller] using hc.symm))
            (by simpa using hrunning)
          simp only [Call.next, hrunning, spawn, Bool.false_eq_true, if_false] at hsole ⊢
          exact ⟨hsole, h.outside, fun hc => absurd (hc _ rfl) (by simp), fun _ => hnone,
            fun hc => absurd hc (by simp), fun _ hc => absurd hc (by simp)⟩
      | storeRunning =>
        exact ⟨hsole, h.outside, fun hc => absurd (hc _ rfl) (by simp),
          fun hc => absurd hc (by simp [Call.next]), fun _ => rfl,
          fun _ hc => absurd hc (by simp [Call.next])⟩
      | create =>
        cases created with
        | none => exact .of_passing hsole h.outside rfl (.inl rfl)
        | some handle =>
          refine ⟨hsole, ?_, fun hc => absurd (hc _ rfl) (by simp),
            fun hc => absurd hc (by simp [Call.next]),
            fun hc => absurd hc (by simp [Call.next]), ?_⟩
          · intro j
            exact outside_setTask h.outside (by simp) j
          · intro _ _
            exact ⟨h.creating hcontroller, s.created, { handle }, task_setTask_self _,
              by simp [Task.Looping]⟩
      | clearRunning => exact .of_passing hsole h.outside rfl (.inr (.inl rfl))
      | clearHandle =>
        refine .of_idle hsole h.outside rfl (fun _ => ?_)
        rcases h.sole.starting _ hcontroller trivial with ⟨handle, hpublish⟩ | hnone
        · exact absurd hpublish (by simp)
        · exact hnone
      | publish handle =>
        have hrunning := (h.publishing handle hcontroller).1
        exact .of_idle hsole h.outside rfl (fun hr => absurd hrunning (by simp_all [Call.next]))
      | exchangeRunning => exact .of_passing hsole h.outside rfl (.inr (.inr (.inl rfl)))
      | loadHandle | awaitHandle =>
        have hstopped := hreturn (by simp [hcontroller])
        simp only [Call.next, spawn] at hsole hstopped ⊢
        split_ifs at hsole hstopped ⊢
        · exact .of_idle hsole h.outside rfl (fun _ => hstopped rfl)
        · exact .of_passing hsole h.outside rfl (by simp)

theorem Orderly.step (h : s.Orderly) (a : Action Handle) (houtside : a.Outside) :
    (s.step a).Orderly := by
  have hsole := h.sole.step a (h.exclusive a)
  cases a with
  | enter thread entry =>
    cases thread with
    | task i => exact absurd houtside id
    | controller =>
      simp only [SocketWorker.step] at hsole ⊢
      split_ifs at hsole ⊢ with hfree
      · have hcontroller : s.controller = none := Option.isNone_iff_eq_none.mp hfree
        have hidle := h.idle (fun c hc => absurd hc (by simp [hcontroller]))
        refine ⟨hsole, h.outside, fun _ => hidle, ?_, ?_, ?_⟩ <;>
          cases entry <;> simp [Entry.first]
      · exact h
  | advance thread created =>
    cases thread with
    | controller => exact h.advance_controller created
    | task i => simpa [SocketWorker.step, SocketWorker.advance, h.outside i] using h
  | begin i | finish i =>
    simp only [SocketWorker.step] at hsole ⊢
    split at hsole
    · rename_i handle ht
      refine h.of_task_step hsole (outside_setTask h.outside (by simp)) rfl rfl
        (somePending_of_setTask ht (fun _ => by simp [Task.Pending])) ?_
      intro _ hl
      exact hl.setTask ht (fun _ => ⟨_, rfl, by simp [Task.Looping]⟩)
    · exact h
  | check i =>
    simp only [SocketWorker.step] at hsole ⊢
    split at hsole
    · rename_i handle ht
      refine h.of_task_step hsole (outside_setTask h.outside ?_) rfl rfl
        (somePending_of_setTask ht (fun _ => by simp [Task.Pending])) ?_
      · rintro _ ⟨⟩ call hphase
        dsimp only at hphase
        split_ifs at hphase
        cases hphase
      · intro hrunning hl
        exact hl.setTask ht (fun _ => ⟨_, rfl, by simp [Task.Looping, hrunning]⟩)
    · exact h
  | clear i =>
    simp only [SocketWorker.step] at hsole ⊢
    split at hsole
    · rename_i handle ht
      refine h.of_task_step hsole (outside_setTask h.outside (by simp)) rfl rfl
        (somePending_of_setTask ht (fun hp => absurd rfl hp)) ?_
      intro _ hl
      exact hl.setTask ht (fun ht' => absurd rfl ht'.1)
    · exact h
  | destroy i =>
    simp only [SocketWorker.step] at hsole ⊢
    split at hsole
    · rename_i handle ht
      refine h.of_task_step hsole (outside_setTask h.outside (by simp)) rfl rfl ?_ ?_
      · rintro ⟨j, u, hu, hup⟩
        by_cases hj : j = i
        · subst hj
          exact absurd hu (by simp)
        · exact ⟨j, u, by rwa [task_setTask_of_ne hj] at hu, hup⟩
      · intro _ hl
        exact hl.setTask ht (fun ht' => absurd rfl ht'.2)
    · exact h

/-- When only the controlling thread calls, every step of every run meets both conditions. -/
theorem orderly_run (handle : Handle) (actions : List (Action Handle))
    (houtside : ∀ a ∈ actions, a.Outside) :
    Meets step (fun s a => s.Exclusive a ∧ s.Owned a) (start handle) actions := by
  have hall (s : SocketWorker Handle) (h : s.Orderly) :
      Meets step (fun s a => s.Exclusive a ∧ s.Owned a) s actions := by
    induction actions generalizing s with
    | nil => trivial
    | cons a actions ih =>
      refine ⟨⟨h.exclusive a, h.owned a⟩, ?_⟩
      exact ih (fun b hb => houtside b (List.mem_cons_of_mem _ hb)) _
        (h.step a (houtside a List.mem_cons_self))
  exact hall _ (orderly_start handle)

end SocketWorker
end Sockets.Worker
