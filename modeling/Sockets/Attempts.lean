import Sockets.Clock.Tcp
import Sockets.State.Client
import Sockets.State.Laws

/-! How often the two TCP clients that connect again on their own call `connect`. -/
namespace Sockets
open Foundation

namespace Clock
open Sockets.Frame

/-- What an action meets when it makes sure of the connection. -/
def TCPClockSynchronizationClient.Action.connection? :
    TCPClockSynchronizationClient.Action → Option Connection
  | .poll c _ => some c
  | .requestDue _ c => some c.connection
  | .requestSynchronization c => some c.connection
  | _ => none

namespace TCPClockSynchronizationClient

/-- The sections under the mutex follow one another: each reads the clock after the one before it
has connected. -/
def Chronological : ℕ → List Action → Prop
  | _, [] => True
  | time, a :: actions =>
    (∀ c ∈ a.connection?, time ≤ c.attempted ∧ c.attempted ≤ c.called) ∧
      Chronological ((a.connection?.map Connection.called).getD time) actions

instance decidableChronological : ∀ time actions, Decidable (Chronological time actions)
  | _, [] => isTrue trivial
  | time, a :: actions =>
    have : Decidable (Chronological ((a.connection?.map Connection.called).getD time) actions) :=
      decidableChronological _ _
    inferInstanceAs (Decidable ((∀ c ∈ a.connection?, _) ∧ Chronological _ actions))

/-- Nothing of the connection before is left when a new one is made. -/
def ConnectCall.Clean (call : ConnectCall) : Prop :=
  call.buffered = [] ∧ call.pendingSequence = 0

def attempts (s : TCPClockSynchronizationClient) : List Attempt :=
  s.connectCalls.map ConnectCall.toAttempt

structure Inv (clock : ℕ) (s : TCPClockSynchronizationClient) : Prop where
  recorded : Recorded s.lastConnectAttempt clock s.attempts
  limited : RateLimited s.attempts
  clean : ∀ call ∈ s.connectCalls, ConnectCall.Clean call

/-- The calls of `connect` and their stamp are as they were. -/
def SameCalls (s s' : TCPClockSynchronizationClient) : Prop :=
  s'.connectCalls = s.connectCalls ∧ s'.lastConnectAttempt = s.lastConnectAttempt

theorem Inv.congr {clock : ℕ} {s s' : TCPClockSynchronizationClient} (h : Inv clock s)
    (hsame : SameCalls s s') : Inv clock s' := by
  obtain ⟨hcalls, hstamp⟩ := hsame
  have hattempts : s'.attempts = s.attempts := by rw [attempts, attempts, hcalls]
  refine ⟨?_, ?_, ?_⟩
  · rw [hattempts, hstamp]
    exact h.recorded
  · rw [hattempts]
    exact h.limited
  · rw [hcalls]
    exact h.clean

theorem Inv.ensureConnectedLocked {clock : ℕ} {s : TCPClockSynchronizationClient}
    (h : Inv clock s) {c : Connection} (hclock : clock ≤ c.attempted)
    (hcalled : c.attempted ≤ c.called) : Inv c.called (s.ensureConnectedLocked c).2 := by
  have hlater : Inv c.called s := ⟨h.recorded.mono (hclock.trans hcalled), h.limited, h.clean⟩
  unfold TCPClockSynchronizationClient.ensureConnectedLocked
  split_ifs with hconnected hearly
  · exact hlater
  · exact hlater
  · refine ⟨?_, ?_, ?_⟩
    · exact Recorded.attempt
        ⟨c.attempted, c.called, s.config.reconnectIntervalMilliseconds⟩ rfl hcalled
    · exact h.limited.attempt (a := ⟨c.attempted, c.called, s.config.reconnectIntervalMilliseconds⟩)
        h.recorded hclock hcalled hearly
    · intro call hcall
      rcases List.mem_cons.mp hcall with rfl | hcall
      · exact ⟨rfl, rfl⟩
      · exact h.clean call hcall

theorem sameCalls_readAvailable (chunks : List Bytes) (s : TCPClockSynchronizationClient) :
    SameCalls s (s.readAvailable chunks) := by
  induction chunks generalizing s with
  | nil => exact ⟨rfl, rfl⟩
  | cons chunk chunks ih =>
    unfold readAvailable
    dsimp only
    split_ifs
    · exact ⟨rfl, rfl⟩
    · exact ih _
    · exact ⟨rfl, rfl⟩

theorem sameCalls_processMessage (message : Bytes) (received : ℕ) (receiveTime : UInt64)
    (s : TCPClockSynchronizationClient) :
    SameCalls s (s.processMessage message received receiveTime) := by
  unfold processMessage
  dsimp only
  split_ifs <;> exact ⟨rfl, rfl⟩

theorem sameCalls_processCompleted (received : ℕ) (receiveTime : UInt64)
    (s : TCPClockSynchronizationClient) :
    SameCalls s (s.processCompleted received receiveTime) := by
  unfold processCompleted
  split
  · exact ⟨rfl, rfl⟩
  · exact sameCalls_processMessage _ received receiveTime { s with completed := _ }

/-- Behind its connection a request calls nothing of the client that connects. -/
theorem Inv.requestSynchronization {clock : ℕ} {s : TCPClockSynchronizationClient}
    (h : Inv clock s) {c : RequestCall} (hclock : clock ≤ c.connection.attempted)
    (hcalled : c.connection.attempted ≤ c.connection.called) :
    Inv c.connection.called (s.requestSynchronization c).2 := by
  have hensured := h.ensureConnectedLocked hclock hcalled
  have hlater : Inv c.connection.called s :=
    ⟨h.recorded.mono (hclock.trans hcalled), h.limited, h.clean⟩
  unfold TCPClockSynchronizationClient.requestSynchronization
  split_ifs
  · exact hlater
  · dsimp only
    split_ifs
    · exact hensured
    · split
      · exact hensured.congr ⟨rfl, rfl⟩
      · split_ifs <;> exact hensured.congr ⟨rfl, rfl⟩

theorem Inv.step {clock : ℕ} {s : TCPClockSynchronizationClient} (h : Inv clock s) {a : Action}
    (ha : ∀ c ∈ a.connection?, clock ≤ c.attempted ∧ c.attempted ≤ c.called) :
    Inv ((a.connection?.map Connection.called).getD clock) (s.step a) := by
  have hlater : ∀ c ∈ a.connection?, Inv c.called s := fun c hc =>
    ⟨h.recorded.mono ((ha c hc).1.trans (ha c hc).2), h.limited, h.clean⟩
  cases a with
  | initializeWith config started =>
    refine h.congr ?_
    unfold TCPClockSynchronizationClient.step TCPClockSynchronizationClient.initializeWith
    dsimp only
    split_ifs <;> exact ⟨rfl, rfl⟩
  | shutdown =>
    refine h.congr ?_
    unfold TCPClockSynchronizationClient.step TCPClockSynchronizationClient.shutdown
    dsimp only
    split_ifs <;> exact ⟨rfl, rfl⟩
  | poll c chunks =>
    obtain ⟨hclock, hcalled⟩ := ha c rfl
    have hensured := h.ensureConnectedLocked hclock hcalled
    unfold TCPClockSynchronizationClient.step TCPClockSynchronizationClient.poll
    dsimp only
    split_ifs
    · exact hensured
    · exact hensured.congr (sameCalls_readAvailable chunks _)
    · exact hlater c rfl
  | processCompleted received receiveTime =>
    refine h.congr ?_
    unfold TCPClockSynchronizationClient.step
    dsimp only
    split_ifs
    · exact sameCalls_processCompleted received receiveTime s
    · exact ⟨rfl, rfl⟩
  | requestDue now c =>
    obtain ⟨hclock, hcalled⟩ := ha c.connection rfl
    unfold TCPClockSynchronizationClient.step
    dsimp only
    split_ifs
    · exact h.requestSynchronization hclock hcalled
    · exact hlater c.connection rfl
  | requestSynchronization c =>
    obtain ⟨hclock, hcalled⟩ := ha c.connection rfl
    exact h.requestSynchronization hclock hcalled

theorem Inv.run {clock : ℕ} {s : TCPClockSynchronizationClient} (h : Inv clock s)
    {actions : List Action} (hactions : Chronological clock actions) :
    ∃ later, Inv later (Foundation.run TCPClockSynchronizationClient.step s actions) := by
  induction actions generalizing clock s with
  | nil => exact ⟨clock, h⟩
  | cons a actions ih => exact ih (h.step hactions.1) hactions.2

theorem inv_start (clock : ℕ) : Inv clock {} where
  recorded := by intro last hlast; cases hlast
  limited := List.isChain_nil
  clean := by intro call hcall; cases hcall

end TCPClockSynchronizationClient
end Clock

namespace State
open Transport

/-- What a client meets between two calls of `Shutdown`: it makes sure of its connection, at a true
time, or does anything else. -/
inductive TimedAction (L : StateLibrary) [SizeWidth] where
  | ensureConnected (attempted called : ℕ) (connects observed : Bool)
  | other (a : TCPStateClient.Action L)

variable {L : StateLibrary} {N : Network} [SizeWidth]

namespace TCPStateClient

/-- What lets `EnsureConnectedLocked` go on to `connect`. -/
def connectDue (now : UInt32) (v : TCPStateClient L N) : Bool :=
  let q := v.queryClient
  !(q.1 && q.2.session.initialized) && q.2.attached &&
    !(now - q.2.lastConnectAttempt < q.2.config.reconnectIntervalMilliseconds)

theorem ensureConnectedLocked_of_due {now : UInt32} {v : TCPStateClient L N}
    (h : v.connectDue now = true) (connects observed : Bool) :
    v.ensureConnectedLocked now connects observed =
      let v := { v.queryClient.2 with lastConnectAttempt := now }.disconnectLocked
      if !connects then (false, v)
      else
        let r := v.startSession observed
        if !r.1 then (false, { r.2 with clients := r.2.clients.stop 0 }) else r := by
  simp only [connectDue, Bool.and_eq_true, Bool.not_eq_true', decide_eq_false_iff_not] at h
  obtain ⟨⟨hlost, hattached⟩, hpassed⟩ := h
  unfold ensureConnectedLocked
  dsimp only
  rw [hlost, hattached, if_neg hpassed]
  rfl

/-- Where no connection is due, nothing but the query of the old one happens. -/
theorem ensureConnectedLocked_of_not_due {now : UInt32} {v : TCPStateClient L N}
    (h : v.connectDue now = false) (connects observed : Bool) :
    v.ensureConnectedLocked now connects observed =
      (v.queryClient.1 && v.queryClient.2.session.initialized, v.queryClient.2) := by
  unfold ensureConnectedLocked
  dsimp only
  split_ifs with hup hdetached hearly
  · rw [hup]
  · rw [Bool.eq_false_of_not_eq_true hup]
  · rw [Bool.eq_false_of_not_eq_true hup]
  all_goals
    exfalso
    simp_all [connectDue]

end TCPStateClient

/-- A client with the calls of `connect` that it made, the latest first. -/
structure TimedClient (L : StateLibrary) (N : Network) [SizeWidth] where
  client : TCPStateClient L N
  attempts : List Attempt := []

/-- The call neither ends the run nor makes sure of the connection. -/
def TCPStateClient.Action.Continues : TCPStateClient.Action L → Prop
  | .shutdown => False
  | .ensureConnected _ _ _ => False
  | _ => True

/-- When the move has made sure of the connection. -/
def TimedAction.until (time : ℕ) : TimedAction L → ℕ
  | .ensureConnected _ called _ _ => called
  | .other _ => time

/-- The move comes at or after the time. -/
def TimedAction.Follows (time : ℕ) : TimedAction L → Prop
  | .ensureConnected attempted called _ _ => time ≤ attempted ∧ attempted ≤ called
  | .other a => a.Continues

namespace TimedClient

/-- A run between two calls of `Shutdown`, in which time does not go back. -/
def Chronological : ℕ → List (TimedAction L) → Prop
  | _, [] => True
  | time, m :: moves => m.Follows time ∧ Chronological (m.until time) moves

def step (x : TimedClient L N) : TimedAction L → TimedClient L N
  | .ensureConnected attempted called connects observed =>
    { client := x.client.step (.ensureConnected (millis attempted) connects observed)
      attempts := if x.client.connectDue (millis attempted) then
          ⟨attempted, called, x.client.config.reconnectIntervalMilliseconds⟩ :: x.attempts
        else x.attempts }
  | .other a => { x with client := x.client.step a }

/-- The stamp is that of the last attempt, and a client that has made one is initialised. -/
structure Inv (clock : ℕ) (x : TimedClient L N) : Prop where
  recorded : Recorded x.client.lastConnectAttempt clock x.attempts
  limited : RateLimited x.attempts
  attached : x.attempts ≠ [] → x.client.attached = true

theorem inv_start (clock : ℕ) (v : TCPStateClient L N) : Inv clock { client := v } where
  recorded := by intro last hlast; cases hlast
  limited := List.isChain_nil
  attached h := absurd rfl h

/-- Once it is initialised, a client keeps its stamp but for attempts. -/
theorem keeps_stamp {v : TCPStateClient L N} (hattached : v.attached = true)
    {a : TCPStateClient.Action L} (ha : a.Continues) :
    (v.step a).attached = true ∧ (v.step a).lastConnectAttempt = v.lastConnectAttempt := by
  cases a with
  | startClient config started =>
    have hon : (v.attached || config.host = [] || config.port = 0 ||
        config.session.maximumProtocolMessageBytes.val = 0) = true := by
      simp [hattached]
    have hkept : v.step (.startClient config started) = v := if_pos hon
    rw [hkept]
    exact ⟨hattached, rfl⟩
  | shutdown => exact ha.elim
  | ensureConnected now connects observed => exact ha.elim
  | read chunk =>
    unfold TCPStateClient.step TCPStateClient.readClient
    dsimp only
    split_ifs <;> exact ⟨hattached, rfl⟩
  | inspect =>
    unfold TCPStateClient.step TCPStateClient.inspectClient
    dsimp only
    split_ifs <;> exact ⟨hattached, rfl⟩
  | requestResynchronization typeId => exact ⟨hattached, rfl⟩
  | changed publisher subscriptions => exact ⟨hattached, rfl⟩
  | published typeId update =>
    unfold TCPStateClient.step
    dsimp only
    split_ifs <;> exact ⟨hattached, rfl⟩
  | subscribed d =>
    unfold TCPStateClient.step
    dsimp only
    split_ifs <;> exact ⟨hattached, rfl⟩
  | unsubscribed d =>
    unfold TCPStateClient.step
    dsimp only
    split_ifs <;> exact ⟨hattached, rfl⟩

/-- What making sure of the connection does to the stamp. -/
theorem stamp_ensureConnectedLocked (v : TCPStateClient L N) (now : UInt32)
    (connects observed : Bool) :
    (v.ensureConnectedLocked now connects observed).2.attached = v.attached ∧
      (v.ensureConnectedLocked now connects observed).2.lastConnectAttempt =
        if v.connectDue now then now else v.lastConnectAttempt := by
  by_cases hdue : v.connectDue now = true
  · rw [TCPStateClient.ensureConnectedLocked_of_due hdue, if_pos hdue]
    dsimp only
    split_ifs <;> exact ⟨rfl, rfl⟩
  · rw [TCPStateClient.ensureConnectedLocked_of_not_due (Bool.eq_false_of_not_eq_true hdue),
      if_neg hdue]
    exact ⟨rfl, rfl⟩

theorem Inv.step {clock : ℕ} {x : TimedClient L N} (h : Inv clock x) {m : TimedAction L}
    (hm : m.Follows clock) : Inv (m.until clock) (x.step m) := by
  cases m with
  | ensureConnected attempted called connects observed =>
    obtain ⟨hclock, hcalled⟩ := hm
    obtain ⟨hattached, hstamp⟩ :=
      stamp_ensureConnectedLocked x.client (millis attempted) connects observed
    by_cases hdue : x.client.connectDue (millis attempted) = true
    · have hon : x.client.attached = true ∧ ¬ millis attempted - x.client.lastConnectAttempt <
          x.client.config.reconnectIntervalMilliseconds := by
        simp only [TCPStateClient.connectDue, Bool.and_eq_true, Bool.not_eq_true',
          decide_eq_false_iff_not] at hdue
        exact ⟨hdue.1.2, hdue.2⟩
      rw [if_pos hdue] at hstamp
      have hattempts : (x.step (.ensureConnected attempted called connects observed)).attempts =
          ⟨attempted, called, x.client.config.reconnectIntervalMilliseconds⟩ :: x.attempts :=
        if_pos hdue
      refine ⟨?_, ?_, fun _ => hattached.trans hon.1⟩
      · rw [hattempts]
        exact Recorded.attempt _ hstamp hcalled
      · rw [hattempts]
        exact h.limited.attempt
          (a := ⟨attempted, called, x.client.config.reconnectIntervalMilliseconds⟩)
          h.recorded hclock hcalled hon.2
    · rw [if_neg hdue] at hstamp
      have hattempts : (x.step (.ensureConnected attempted called connects observed)).attempts =
          x.attempts := if_neg hdue
      refine ⟨?_, ?_, ?_⟩
      · rw [hattempts]
        exact hstamp ▸ h.recorded.mono (hclock.trans hcalled)
      · rw [hattempts]
        exact h.limited
      · rw [hattempts]
        exact fun hne => hattached.trans (h.attached hne)
  | other a =>
    have hkept (hne : x.attempts ≠ []) := keeps_stamp (h.attached hne) hm
    refine ⟨?_, h.limited, fun hne => (hkept hne).1⟩
    intro last hlast
    have hne : x.attempts ≠ [] := by
      intro hnil
      rw [show (x.step (.other a)).attempts = [] from hnil] at hlast
      cases hlast
    obtain ⟨hstamp, hclock⟩ := h.recorded last hlast
    exact ⟨(hkept hne).2.trans hstamp, hclock⟩

theorem Inv.run {clock : ℕ} {x : TimedClient L N} (h : Inv clock x) {moves : List (TimedAction L)}
    (hmoves : Chronological clock moves) :
    ∃ later, Inv later (Foundation.run TimedClient.step x moves) := by
  induction moves generalizing clock x with
  | nil => exact ⟨clock, h⟩
  | cons m moves ih => exact ih (h.step hmoves.1) hmoves.2

end TimedClient
end State

/-- In every run of a TCP clock client, and in every run of a State client between two calls of
`Shutdown`, no `connect` is called within the reconnect interval after the reading of the clock that
let the one before it through; the clock client connects with nothing buffered or pending. -/
theorem reconnects_limited [SizeWidth] {L : State.StateLibrary} {N : Transport.Network}
    {actions : List Clock.TCPClockSynchronizationClient.Action}
    (hactions : Clock.TCPClockSynchronizationClient.Chronological 0 actions)
    (v : State.TCPStateClient L N) {moves : List (State.TimedAction L)}
    (hmoves : State.TimedClient.Chronological 0 moves) :
    let s := run Clock.TCPClockSynchronizationClient.step {} actions
    (RateLimited s.attempts ∧
      ∀ call ∈ s.connectCalls, Clock.TCPClockSynchronizationClient.ConnectCall.Clean call) ∧
    RateLimited (run State.TimedClient.step { client := v } moves).attempts := by
  obtain ⟨_, hclock⟩ := (Clock.TCPClockSynchronizationClient.inv_start 0).run hactions
  obtain ⟨_, hstate⟩ := (State.TimedClient.inv_start 0 v).run hmoves
  exact ⟨⟨hclock.limited, hclock.clean⟩, hstate.limited⟩

section Table
open Clock Clock.TCPClockSynchronizationClient State
attribute [local instance] SizeWidth.host

/-- A network on which no connection comes up. -/
@[reducible] def deadNetwork : Transport.Network where
  World := Unit
  connected _ w := (false, w)
  write _ _ w := (0, w)
  write_le _ _ _ := Nat.zero_le _
  stop _ w := w

/-- A client that spends 300 ms on stopping its old connection before it calls `connect`, in vain,
and tries again two seconds after the first reading. -/
def slowStop : List TCPClockSynchronizationClient.Action :=
  [.initializeWith { host := [0x68] } true,
    .poll ⟨false, 5000, 5300, false⟩ [],
    .requestSynchronization ⟨⟨false, 6000, 6000, true⟩, 6000, 0, true, 6000⟩,
    .poll ⟨false, 7000, 7000, true⟩ []]

def slowMoves : List (TimedAction tableLibrary) :=
  [.other (.startClient { host := [104], port := 2333 } true),
    .ensureConnected 5000 5300 false false, .other .inspect, .ensureConnected 7000 7000 false false]

def deadClient : TCPStateClient tableLibrary deadNetwork :=
  { clients := { world := () }, store := plainStore 1 none }

theorem reconnects_limited_slow :
    let s := run TCPClockSynchronizationClient.step {} slowStop
    (RateLimited s.attempts ∧ ∀ call ∈ s.connectCalls, ConnectCall.Clean call) ∧
    RateLimited (run TimedClient.step { client := deadClient } slowMoves).attempts := by
  have hmoves : TimedClient.Chronological 0 slowMoves :=
    ⟨trivial, ⟨by decide, by decide⟩, trivial, ⟨by decide, by decide⟩, trivial⟩
  exact reconnects_limited (by decide) deadClient hmoves

/-- Two calls of `connect` 1700 ms apart, where the interval is 2000 ms. -/
theorem connects_too_close :
    let s := run TCPClockSynchronizationClient.step {} slowStop
    Chronological 0 slowStop ∧ s.config.reconnectIntervalMilliseconds = 2000 ∧
      ¬ Spaced 2000 (s.connectCalls.map fun call => call.called) := by
  intro s
  have hcalls : s.connectCalls.map (fun call => call.called) = [7000, 5300] := by decide
  refine ⟨by decide, by decide, ?_⟩
  intro hspaced
  rw [hcalls, spaced_cons] at hspaced
  have happart : 5300 + 2000 ≤ 7000 := hspaced.1 5300 rfl
  exact absurd happart (by decide)

end Table
end Sockets
