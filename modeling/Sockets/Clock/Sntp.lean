import Sockets.Clock.Protocol
import Sockets.Foundation.Run

/-! `SNTPClockSyncProvider`: the instances of it, of which one at a time runs the SNTP service of
the platform. One thread starts and stops them; the service calls back from threads of its own, and
a callback takes its steps between whatever else happens. -/
namespace Sockets.Clock
open Foundation

/-- `Mode` is the adjustment mode of ESPressio Timing, of which the default is left out. -/
structure SNTPClockSyncProviderConfig (Mode : Type) where
  server : String := "pool.ntp.org"
  updateIntervalMilliseconds : UInt32 := 3600000
  adjustmentMode : Mode
  deriving DecidableEq

/-- The constructor never leaves `_target` null. -/
structure SNTPClockSyncProvider (Target Mode : Type) where
  target : Target
  config : SNTPClockSyncProviderConfig Mode
  initialized : Bool := false

structure Timeval where
  seconds : ℤ
  microseconds : ℤ
  deriving DecidableEq

/-- `tv_sec` and `tv_usec` are cast before they are multiplied. -/
def Timeval.nanoseconds (tv : Timeval) : UInt64 :=
  UInt64.ofInt tv.seconds * 1000000000 + UInt64.ofInt tv.microseconds * 1000

/-- The Unix time in nanoseconds, modulo the width of the counter. -/
theorem Timeval.toNat_nanoseconds (tv : Timeval) : (tv.nanoseconds.toNat : ℤ) =
    (tv.seconds * 1000000000 + tv.microseconds * 1000) % 2 ^ 64 := by
  have hcast : tv.nanoseconds =
      UInt64.ofInt (tv.seconds * 1000000000 + tv.microseconds * 1000) := by
    rw [UInt64.ofInt_add, UInt64.ofInt_mul, UInt64.ofInt_mul]
    rfl
  have hlt : (tv.seconds * 1000000000 + tv.microseconds * 1000) % 2 ^ 64 < 2 ^ 64 :=
    Int.emod_lt_of_pos _ (by decide)
  have hnonneg : 0 ≤ (tv.seconds * 1000000000 + tv.microseconds * 1000) % 2 ^ 64 :=
    Int.emod_nonneg _ (by decide)
  rw [hcast, UInt64.ofInt, UInt64.toNat_ofNat', Nat.mod_eq_of_lt (by omega),
    Int.toNat_of_nonneg hnonneg]

/-- What the SNTP service has been told, and whether it runs. -/
structure SNTPService where
  server : String := ""
  syncInterval : UInt32 := 0
  notification : Bool := false
  running : Bool := false
  deriving DecidableEq

/-- Where a `TimeSyncCallback` stands: the next thing it does is to read `_activeInstance`, to look
at the provider under its lock, to ask the target for the local time, or to submit the sample. -/
inductive SNTPCallback (Provider Target Mode : Type) where
  | called (time : Option Timeval)
  | found (provider : Provider) (time : Timeval)
  | checked (provider : Provider) (time : Timeval) (target : Target) (mode : Mode)
  | stamped (provider : Provider) (time : Timeval) (target : Target) (mode : Mode)
      (localTime : UInt64)

/-- What a target was given, by which callback on behalf of which provider. -/
structure SNTPSubmission (Provider Target Mode : Type) where
  callback : ℕ
  provider : Provider
  target : Target
  mode : Mode
  sample : Sample

/-- The providers, and what they share; `calls` counts the callbacks. -/
structure SNTPClockSyncProviders (Provider Target Mode : Type) where
  provider : Provider → SNTPClockSyncProvider Target Mode
  activeInstance : Option Provider := none
  service : SNTPService := {}
  callback : ℕ → Option (SNTPCallback Provider Target Mode) := fun _ => none
  calls : ℕ := 0
  submitted : List (SNTPSubmission Provider Target Mode) := []

namespace SNTPClockSyncProviders
variable {Provider Target Mode : Type} [DecidableEq Provider]

def setProvider (i : Provider) (p : SNTPClockSyncProvider Target Mode)
    (v : SNTPClockSyncProviders Provider Target Mode) :
    SNTPClockSyncProviders Provider Target Mode :=
  { v with provider := Function.update v.provider i p }

def setCallback (k : ℕ) (c : Option (SNTPCallback Provider Target Mode))
    (v : SNTPClockSyncProviders Provider Target Mode) :
    SNTPClockSyncProviders Provider Target Mode :=
  { v with callback := Function.update v.callback k c }

/-- `Initialize` of a provider. -/
def initializeWith (i : Provider) (config : SNTPClockSyncProviderConfig Mode)
    (v : SNTPClockSyncProviders Provider Target Mode) :
    Bool × SNTPClockSyncProviders Provider Target Mode :=
  if (v.provider i).initialized then (true, v)
  else if config.server.length = 0 ∨ config.updateIntervalMilliseconds = 0 ∨
      (v.activeInstance ≠ none ∧ v.activeInstance ≠ some i) then (false, v)
  else
    (true, { v.setProvider i { v.provider i with config, initialized := true } with
      activeInstance := some i
      service :=
        { server := config.server, syncInterval := config.updateIntervalMilliseconds
          notification := true, running := true } })

def shutdown (i : Provider) (v : SNTPClockSyncProviders Provider Target Mode) :
    SNTPClockSyncProviders Provider Target Mode :=
  if !(v.provider i).initialized then v
  else
    let v' := if v.activeInstance = some i then
      { v with activeInstance := none
               service := { v.service with notification := false, running := false } } else v
    v'.setProvider i { v.provider i with initialized := false }

/-- The service calls what has been registered, with a time or with a null pointer. -/
def notify (time : Option Timeval) (v : SNTPClockSyncProviders Provider Target Mode) :
    SNTPClockSyncProviders Provider Target Mode :=
  if !v.service.notification then v
  else { v.setCallback v.calls (some (.called time)) with calls := v.calls + 1 }

/-- The sample of `HandleSynchronizedTime`: an observation that takes no time. -/
def sampleOf (time : Timeval) (localTime : UInt64) : Sample where
  localRequestTransmitTime := localTime
  localResponseReceiveTime := localTime
  remoteRequestReceiveTime := time.nanoseconds
  remoteResponseTransmitTime := time.nanoseconds

/-- The next step of a callback; `now` is what the target answers. -/
def advance (k : ℕ) (now : UInt64) (v : SNTPClockSyncProviders Provider Target Mode) :
    SNTPClockSyncProviders Provider Target Mode :=
  match v.callback k with
  | none => v
  | some (.called time) =>
    v.setCallback k (v.activeInstance.bind fun i => time.map fun time => .found i time)
  | some (.found i time) =>
    if !(v.provider i).initialized then v.setCallback k none
    else
      v.setCallback k
        (some (.checked i time (v.provider i).target (v.provider i).config.adjustmentMode))
  | some (.checked i time target mode) =>
    v.setCallback k (some (.stamped i time target mode now))
  | some (.stamped i time target mode localTime) =>
    { v.setCallback k none with
      submitted := v.submitted ++ [⟨k, i, target, mode, sampleOf time localTime⟩] }

inductive Action (Provider Mode : Type) where
  | initializeWith (provider : Provider) (config : SNTPClockSyncProviderConfig Mode)
  | shutdown (provider : Provider)
  | notify (time : Option Timeval)
  | advance (callback : ℕ) (now : UInt64)

def step (v : SNTPClockSyncProviders Provider Target Mode) :
    Action Provider Mode → SNTPClockSyncProviders Provider Target Mode
  | .initializeWith i config => (v.initializeWith i config).2
  | .shutdown i => v.shutdown i
  | .notify time => v.notify time
  | .advance k now => v.advance k now

/-- The providers as they are constructed. -/
def start (target : Provider → Target) (config : Provider → SNTPClockSyncProviderConfig Mode) :
    SNTPClockSyncProviders Provider Target Mode where
  provider i := { target := target i, config := config i }

/-- One provider at most is initialised, and the service is as it wants it. -/
structure Sole (v : SNTPClockSyncProviders Provider Target Mode) : Prop where
  active : ∀ i, (v.provider i).initialized = true ↔ v.activeInstance = some i
  notification : v.service.notification = v.activeInstance.isSome
  running : v.service.running = v.activeInstance.isSome
  server : ∀ i, v.activeInstance = some i →
    v.service.server = (v.provider i).config.server ∧ v.service.server.length ≠ 0
  syncInterval : ∀ i, v.activeInstance = some i →
    v.service.syncInterval = (v.provider i).config.updateIntervalMilliseconds ∧
      v.service.syncInterval ≠ 0

section Sole
variable {v : SNTPClockSyncProviders Provider Target Mode}

omit [DecidableEq Provider] in
theorem sole_start (target : Provider → Target)
    (config : Provider → SNTPClockSyncProviderConfig Mode) : Sole (start target config) where
  active i := ⟨fun h => absurd h Bool.false_ne_true, fun h => absurd h.symm (Option.some_ne_none i)⟩
  notification := rfl
  running := rfl
  server i h := absurd h.symm (Option.some_ne_none i)
  syncInterval i h := absurd h.symm (Option.some_ne_none i)

omit [DecidableEq Provider] in
/-- Callbacks have no part in it. -/
theorem Sole.of_eq {v' : SNTPClockSyncProviders Provider Target Mode} (h : Sole v)
    (hprovider : v'.provider = v.provider) (hactive : v'.activeInstance = v.activeInstance)
    (hservice : v'.service = v.service) : Sole v' := by
  obtain ⟨hon, hnotification, hrunning, hserver, hinterval⟩ := h
  constructor
  · rw [hprovider, hactive]
    exact hon
  · rw [hservice, hactive]
    exact hnotification
  · rw [hservice, hactive]
    exact hrunning
  · rw [hprovider, hservice, hactive]
    exact hserver
  · rw [hprovider, hservice, hactive]
    exact hinterval

theorem Sole.initializeWith (h : Sole v) (i : Provider)
    (config : SNTPClockSyncProviderConfig Mode) : Sole (v.initializeWith i config).2 := by
  unfold SNTPClockSyncProviders.initializeWith
  split_ifs with hinitialized hrefused
  · exact h
  · exact h
  · have hfree : v.activeInstance = none := by
      by_contra hne
      have hmine : v.activeInstance ≠ some i := fun hi => hinitialized ((h.active i).mpr hi)
      exact hrefused (.inr (.inr ⟨hne, hmine⟩))
    constructor
    · intro j
      by_cases hj : j = i
      · subst hj
        simp [setProvider]
      · have hoff : (v.provider j).initialized = true ↔ some i = some j := by
          rw [h.active, hfree]
          simpa using Ne.symm hj
        simpa [setProvider, hj] using hoff
    · rfl
    · rfl
    · intro j hj
      obtain rfl := Option.some.inj hj
      refine ⟨?_, fun hempty => hrefused (.inl hempty)⟩
      simp [setProvider]
    · intro j hj
      obtain rfl := Option.some.inj hj
      refine ⟨?_, fun hzero => hrefused (.inr (.inl hzero))⟩
      simp [setProvider]

theorem Sole.shutdown (h : Sole v) (i : Provider) : Sole (v.shutdown i) := by
  unfold SNTPClockSyncProviders.shutdown
  cases hinitialized : (v.provider i).initialized with
  | false => exact h
  | true =>
    have hactive := (h.active i).mp hinitialized
    simp only [Bool.not_true, Bool.false_eq_true, if_false, hactive, if_true]
    constructor
    · intro j
      by_cases hj : j = i
      · subst hj
        simp [setProvider]
      · have hoff : (v.provider j).initialized = true ↔ (none : Option Provider) = some j := by
          rw [h.active, hactive]
          simpa using Ne.symm hj
        simpa [setProvider, hj] using hoff
    · rfl
    · rfl
    · intro j hj
      exact absurd hj.symm (Option.some_ne_none j)
    · intro j hj
      exact absurd hj.symm (Option.some_ne_none j)

omit [DecidableEq Provider] in
theorem advance_frame (k : ℕ) (now : UInt64)
    (v : SNTPClockSyncProviders Provider Target Mode) :
    (v.advance k now).provider = v.provider ∧
      (v.advance k now).activeInstance = v.activeInstance ∧
      (v.advance k now).service = v.service ∧ (v.advance k now).calls = v.calls := by
  unfold advance
  split
  · exact ⟨rfl, rfl, rfl, rfl⟩
  · exact ⟨rfl, rfl, rfl, rfl⟩
  · split_ifs <;> exact ⟨rfl, rfl, rfl, rfl⟩
  · exact ⟨rfl, rfl, rfl, rfl⟩
  · exact ⟨rfl, rfl, rfl, rfl⟩

theorem Sole.step (h : Sole v) (a : Action Provider Mode) : Sole (v.step a) := by
  cases a with
  | initializeWith i config => exact h.initializeWith i config
  | shutdown i => exact h.shutdown i
  | notify time =>
    apply h.of_eq
    all_goals
      unfold SNTPClockSyncProviders.step notify
      dsimp only
      split_ifs <;> rfl
  | advance k now =>
    obtain ⟨hprovider, hactive, hservice, -⟩ := advance_frame k now v
    exact h.of_eq hprovider hactive hservice

theorem sole_run (target : Provider → Target)
    (config : Provider → SNTPClockSyncProviderConfig Mode)
    (actions : List (Action Provider Mode)) : Sole (run step (start target config) actions) :=
  run_induction (P := Sole) (fun _ a h => h.step a) (sole_start target config) actions

end Sole

section Traced
variable (v₀ : SNTPClockSyncProviders Provider Target Mode) (past : List (Action Provider Mode))

/-- The service has been running, and has made this call with this time. -/
def Notified (k : ℕ) (time : Timeval) : Prop :=
  Sometime step (fun w a => a = .notify (some time) ∧ w.calls = k ∧ w.service.running = true)
    v₀ past

/-- The callback has found this provider running the service, in this mode. -/
def Checked (k : ℕ) (i : Provider) (time : Timeval) (mode : Mode) : Prop :=
  Sometime step (fun w a => (∃ now, a = .advance k now) ∧ w.callback k = some (.found i time) ∧
    w.activeInstance = some i ∧ (w.provider i).config.adjustmentMode = mode) v₀ past

/-- And it has then asked the target for the time. -/
def Stamped (k : ℕ) (i : Provider) (time : Timeval) (target : Target) (mode : Mode)
    (localTime : UInt64) : Prop :=
  Sometime step (fun w a => a = .advance k localTime ∧
    w.callback k = some (.checked i time target mode)) v₀ past

/-- What has gone before, of a callback that stands here. -/
def Reached (k : ℕ) : SNTPCallback Provider Target Mode → Prop
  | .called none => True
  | .called (some time) => Notified v₀ past k time
  | .found _ time => Notified v₀ past k time
  | .checked i time target mode =>
    Notified v₀ past k time ∧ Checked v₀ past k i time mode ∧ target = (v₀.provider i).target
  | .stamped i time target mode localTime =>
    Notified v₀ past k time ∧ Checked v₀ past k i time mode ∧
      target = (v₀.provider i).target ∧ Stamped v₀ past k i time target mode localTime

/-- Everything that a callback does has its origin, and a callback that has submitted is over. -/
structure Traced (v : SNTPClockSyncProviders Provider Target Mode) : Prop where
  target : ∀ i, (v.provider i).target = (v₀.provider i).target
  callback : ∀ k c, v.callback k = some c → k < v.calls ∧ Reached v₀ past k c
  finished : ∀ m ∈ v.submitted, m.callback < v.calls ∧ v.callback m.callback = none
  once : (v.submitted.map (·.callback)).Nodup
  submitted : ∀ m ∈ v.submitted, ∃ time localTime, m.sample = sampleOf time localTime ∧
    Reached v₀ past m.callback (.stamped m.provider time m.target m.mode localTime)

variable {v₀ past} {v : SNTPClockSyncProviders Provider Target Mode}

theorem Reached.append {k : ℕ} {c : SNTPCallback Provider Target Mode}
    (h : Reached v₀ past k c) (later : List (Action Provider Mode)) :
    Reached v₀ (past ++ later) k c := by
  cases c with
  | called time =>
    cases time with
    | none => trivial
    | some time => exact (show Notified v₀ past k time from h).append later
  | found i time => exact (show Notified v₀ past k time from h).append later
  | checked i time target mode =>
    obtain ⟨hnotified, hchecked, htarget⟩ := h
    exact ⟨hnotified.append later, hchecked.append later, htarget⟩
  | stamped i time target mode localTime =>
    obtain ⟨hnotified, hchecked, htarget, hstamped⟩ := h
    exact ⟨hnotified.append later, hchecked.append later, htarget, hstamped.append later⟩

theorem Traced.append (h : Traced v₀ past v) (later : List (Action Provider Mode)) :
    Traced v₀ (past ++ later) v := by
  refine ⟨h.target, ?_, h.finished, h.once, ?_⟩
  · intro k c hk
    obtain ⟨hlt, hreached⟩ := h.callback k c hk
    exact ⟨hlt, hreached.append later⟩
  · intro m hm
    obtain ⟨time, localTime, hsample, hreached⟩ := h.submitted m hm
    exact ⟨time, localTime, hsample, hreached.append later⟩

/-- To start and to stop providers is no part of it. -/
theorem Traced.of_eq {v' : SNTPClockSyncProviders Provider Target Mode} (h : Traced v₀ past v)
    (htarget : ∀ i, (v'.provider i).target = (v.provider i).target)
    (hcallback : v'.callback = v.callback) (hcalls : v'.calls = v.calls)
    (hsubmitted : v'.submitted = v.submitted) : Traced v₀ past v' := by
  obtain ⟨hkept, hreached, hfinished, honce, htraced⟩ := h
  constructor
  · exact fun i => (htarget i).trans (hkept i)
  · rw [hcallback, hcalls]
    exact hreached
  · rw [hsubmitted, hcallback, hcalls]
    exact hfinished
  · rw [hsubmitted]
    exact honce
  · rw [hsubmitted]
    exact htraced

/-- A callback that is not over goes on. -/
theorem Traced.setCallback (h : Traced v₀ past v) {k : ℕ} {c : SNTPCallback Provider Target Mode}
    (hk : v.callback k = some c) (next : Option (SNTPCallback Provider Target Mode))
    (hnext : ∀ c', next = some c' → Reached v₀ past k c') :
    Traced v₀ past (v.setCallback k next) := by
  refine ⟨h.target, ?_, ?_, h.once, h.submitted⟩
  · intro j c' hj
    change Function.update v.callback k next j = some c' at hj
    by_cases hjk : j = k
    · subst hjk
      rw [Function.update_self] at hj
      exact ⟨(h.callback _ c hk).1, hnext c' hj⟩
    · rw [Function.update_of_ne hjk] at hj
      exact h.callback j c' hj
  · intro m hm
    obtain ⟨hlt, hnone⟩ := h.finished m hm
    refine ⟨hlt, ?_⟩
    change Function.update v.callback k next m.callback = none
    have hne : m.callback ≠ k := by
      intro heq
      rw [heq, hk] at hnone
      exact Option.some_ne_none c hnone
    rw [Function.update_of_ne hne]
    exact hnone

theorem Traced.notify (h : Traced v₀ past v) (hsole : Sole v) (hv : v = run step v₀ past)
    (time : Option Timeval) : Traced v₀ (past ++ [.notify time]) (v.notify time) := by
  unfold SNTPClockSyncProviders.notify
  cases hon : v.service.notification with
  | false => exact h.append _
  | true =>
    have hrunning : v.service.running = true := by rw [hsole.running, ← hsole.notification, hon]
    have hlater := h.append [.notify time]
    refine ⟨h.target, ?_, ?_, h.once, hlater.submitted⟩
    · intro k c hk
      change Function.update v.callback v.calls (some (.called time)) k = some c at hk
      by_cases hkc : k = v.calls
      · subst hkc
        rw [Function.update_self] at hk
        obtain rfl := Option.some.inj hk
        refine ⟨Nat.lt_succ_self _, ?_⟩
        cases time with
        | none => trivial
        | some time =>
          change Notified v₀ (past ++ [.notify (some time)]) v.calls time
          apply Sometime.last
          rw [← hv]
          exact ⟨rfl, rfl, hrunning⟩
      · rw [Function.update_of_ne hkc] at hk
        obtain ⟨hlt, hreached⟩ := hlater.callback k c hk
        exact ⟨Nat.lt_succ_of_lt hlt, hreached⟩
    · intro m hm
      obtain ⟨hlt, hnone⟩ := h.finished m hm
      refine ⟨Nat.lt_succ_of_lt hlt, ?_⟩
      change Function.update v.callback v.calls (some (.called time)) m.callback = none
      rw [Function.update_of_ne hlt.ne]
      exact hnone

/-- The sample of a callback that is over at once. -/
theorem Traced.submit (h : Traced v₀ past v) {k : ℕ} {i : Provider} {time : Timeval}
    {target : Target} {mode : Mode} {localTime : UInt64}
    (hk : v.callback k = some (.stamped i time target mode localTime)) :
    Traced v₀ past { v.setCallback k none with
      submitted := v.submitted ++ [⟨k, i, target, mode, sampleOf time localTime⟩] } := by
  obtain ⟨hlt, hreached⟩ := h.callback k _ hk
  have hover := h.setCallback hk none fun c' hc' => absurd hc'.symm (Option.some_ne_none c')
  have hfresh : k ∉ v.submitted.map (·.callback) := by
    intro hmem
    obtain ⟨m, hm, rfl⟩ := List.mem_map.mp hmem
    have hnone := (h.finished m hm).2
    rw [hk] at hnone
    exact Option.some_ne_none _ hnone
  refine ⟨hover.target, hover.callback, ?_, ?_, ?_⟩
  · intro m hm
    rcases List.mem_append.mp hm with hm | hm
    · exact hover.finished m hm
    · rw [List.mem_singleton.mp hm]
      refine ⟨hlt, ?_⟩
      change Function.update v.callback k none k = none
      rw [Function.update_self]
  · rw [List.map_append, List.nodup_append']
    refine ⟨h.once, List.nodup_singleton k, ?_⟩
    exact List.disjoint_singleton.mpr hfresh
  · intro m hm
    rcases List.mem_append.mp hm with hm | hm
    · exact h.submitted m hm
    · rw [List.mem_singleton.mp hm]
      exact ⟨time, localTime, rfl, hreached⟩

theorem Traced.advance (h : Traced v₀ past v) (hsole : Sole v) (hv : v = run step v₀ past)
    (k : ℕ) (now : UInt64) : Traced v₀ (past ++ [.advance k now]) (v.advance k now) := by
  have hlater := h.append [.advance k now]
  unfold SNTPClockSyncProviders.advance
  split
  · exact hlater
  case h_2 time hk =>
    refine hlater.setCallback hk _ fun c' hc' => ?_
    obtain ⟨i, -, hc'⟩ := Option.bind_eq_some_iff.mp hc'
    obtain ⟨time, rfl, rfl⟩ := Option.map_eq_some_iff.mp hc'
    exact (hlater.callback k _ hk).2
  case h_3 i time hk =>
    split_ifs with hoff
    · exact hlater.setCallback hk none fun c' hc' => absurd hc'.symm (Option.some_ne_none c')
    · refine hlater.setCallback hk _ fun c' hc' => ?_
      obtain rfl := Option.some.inj hc'
      have hactive : v.activeInstance = some i := (hsole.active i).mp (by simpa using hoff)
      refine ⟨(hlater.callback k _ hk).2, ?_, h.target i⟩
      apply Sometime.last
      rw [← hv]
      exact ⟨⟨now, rfl⟩, hk, hactive, rfl⟩
  case h_4 i time target mode hk =>
    refine hlater.setCallback hk _ fun c' hc' => ?_
    obtain rfl := Option.some.inj hc'
    obtain ⟨-, hnotified, hchecked, htarget⟩ := hlater.callback k _ hk
    refine ⟨hnotified, hchecked, htarget, ?_⟩
    apply Sometime.last
    rw [← hv]
    exact ⟨rfl, hk⟩
  case h_5 i time target mode localTime hk => exact hlater.submit hk

theorem target_setProvider {i : Provider} {p : SNTPClockSyncProvider Target Mode}
    (hp : p.target = (v.provider i).target) (j : Provider) :
    ((v.setProvider i p).provider j).target = (v.provider j).target := by
  change (Function.update v.provider i p j).target = _
  by_cases hj : j = i
  · subst hj
    rw [Function.update_self, hp]
  · rw [Function.update_of_ne hj]

theorem Traced.step (h : Traced v₀ past v) (hsole : Sole v) (hv : v = run step v₀ past)
    (a : Action Provider Mode) : Traced v₀ (past ++ [a]) (v.step a) := by
  cases a with
  | initializeWith i config =>
    refine (h.append _).of_eq ?_ ?_ ?_ ?_
    all_goals
      unfold SNTPClockSyncProviders.step SNTPClockSyncProviders.initializeWith
      dsimp only
      split_ifs
    all_goals first
      | rfl
      | exact fun _ => rfl
      | exact target_setProvider rfl
  | shutdown i =>
    refine (h.append _).of_eq ?_ ?_ ?_ ?_
    all_goals
      unfold SNTPClockSyncProviders.step SNTPClockSyncProviders.shutdown
      dsimp only
      split_ifs
    all_goals first
      | rfl
      | exact fun _ => rfl
      | exact target_setProvider rfl
  | notify time => exact h.notify hsole hv time
  | advance k now => exact h.advance hsole hv k now

theorem traced_run (target : Provider → Target)
    (config : Provider → SNTPClockSyncProviderConfig Mode)
    (actions : List (Action Provider Mode)) :
    Traced (start target config) actions (run step (start target config) actions) := by
  refine run_snoc_induction (P := Traced (start target config)) ?_ ?_ actions
  · constructor
    · exact fun _ => rfl
    · exact fun k c hk => absurd hk.symm (Option.some_ne_none c)
    · intro m hm
      cases hm
    · exact List.nodup_nil
    · intro m hm
      cases hm
  · exact fun past a h => h.step (sole_run target config past) rfl a

end Traced

/-- Over any run: one provider at most is initialised, the service runs for it and as it has asked,
and a target is given a sample only by the provider that it belongs to, at most one for a call of
the service, with the time that the service has given in this call. The provider has been active
after the call, though it may have been shut down before the target is given the sample. -/
theorem synchronized_by_active (target : Provider → Target)
    (config : Provider → SNTPClockSyncProviderConfig Mode)
    (actions : List (Action Provider Mode)) :
    let v₀ := start target config
    let v := run step v₀ actions
    Sole v ∧ (v.submitted.map (·.callback)).Nodup ∧
      ∀ m ∈ v.submitted, m.target = target m.provider ∧
        m.sample.localResponseReceiveTime = m.sample.localRequestTransmitTime ∧
        m.sample.remoteResponseTransmitTime = m.sample.remoteRequestReceiveTime ∧
        ∃ time, (m.sample.remoteRequestReceiveTime.toNat : ℤ) =
            (time.seconds * 1000000000 + time.microseconds * 1000) % 2 ^ 64 ∧
          Notified v₀ actions m.callback time ∧
          Checked v₀ actions m.callback m.provider time m.mode ∧
          Stamped v₀ actions m.callback m.provider time m.target m.mode
            m.sample.localRequestTransmitTime := by
  intro v₀ v
  have htraced : Traced v₀ actions v := traced_run target config actions
  refine ⟨sole_run target config actions, htraced.once, ?_⟩
  intro m hm
  obtain ⟨time, localTime, hsample, hnotified, hchecked, htarget, hstamped⟩ :=
    htraced.submitted m hm
  rw [hsample]
  exact ⟨htarget, rfl, rfl, time, time.toNat_nanoseconds, hnotified, hchecked, hstamped⟩

/-- A sample of a provider that has been shut down in the meantime. -/
example :
    let v := run step (start (fun _ : Unit => ()) fun _ => { adjustmentMode := () })
      [.initializeWith () { adjustmentMode := () }, .notify (some ⟨1, 0⟩), .advance 0 0,
        .advance 0 0, .advance 0 5, .shutdown (), .advance 0 0]
    (v.provider ()).initialized = false ∧
      v.submitted.map (·.sample) = [⟨5, 1000000000, 1000000000, 5⟩] := by
  decide +kernel

end SNTPClockSyncProviders
end Sockets.Clock
