import Sockets.Clock.Answer
import Sockets.Clock.Pacing
import Sockets.Clock.Tcp

/-! How old a request may be when its response is used. The pending request is the last one built. -/
namespace Sockets.Clock
open Foundation

/-- Every response was used within the timeout after its request was built. -/
def Timely (timeout : ℕ) (answers : List Answer) : Prop :=
  ∀ a ∈ answers, a.received ≤ a.built + timeout

theorem timely_append {timeout : ℕ} {answers : List Answer} {a : Answer} :
    Timely timeout (answers ++ [a]) ↔ Timely timeout answers ∧ a.received ≤ a.built + timeout := by
  simp [Timely, or_imp, forall_and]

namespace SocketClockSynchronizationProtocol

/-- A client takes this for the response to its pending request. -/
def Awaits (p : SocketClockSynchronizationProtocol) (data : Bytes) : Prop :=
  p.isClientMode = true ∧ p.pendingSequence ≠ 0 ∧ Bears p.pendingSequence data

instance (p : SocketClockSynchronizationProtocol) (data : Bytes) : Decidable (p.Awaits data) :=
  inferInstanceAs (Decidable (_ ∧ _))

theorem isSome_processResponse (p : SocketClockSynchronizationProtocol) (data : Bytes)
    (localReceiveTime : UInt64) :
    (p.processResponse data localReceiveTime).1.isSome = true ↔ p.Awaits data := by
  by_cases hmode : p.isClientMode = true
  · rw [processResponse_client hmode, Awaits, and_iff_right hmode]
    split_ifs with h <;> simp [h]
  · have hrefused : p.processResponse data localReceiveTime = (none, p) := by
      unfold processResponse
      rw [Bool.eq_false_of_not_eq_true hmode]
      rfl
    rw [hrefused, Awaits]
    simp [hmode]

/-- The header of what is awaited passes the checks made before `ProcessResponse`. -/
theorem Awaits.header {p : SocketClockSynchronizationProtocol} {data : Bytes} (h : p.Awaits data) :
    data.length = responseSize ∧ (MessageHeader.decode data).magic = headerMagic ∧
      (MessageHeader.decode data).version = 1 ∧
      (MessageHeader.decode data).type = MessageType.response.code :=
  ⟨h.2.2.1, h.2.2.2.1⟩

end SocketClockSynchronizationProtocol

namespace UDPClockSynchronizer

/-- An action and its true time in milliseconds. -/
structure TimedAction where
  action : Action
  time : ℕ
  deriving DecidableEq

/-- A synchronizer with the time at which its last request was built, and the responses it used. -/
structure Timed where
  synchronizer : UDPClockSynchronizer := {}
  requestBuilt : ℕ := 0
  answers : List Answer := []
  deriving DecidableEq

/-- The action gets as far as building a request. -/
def builds (s : UDPClockSynchronizer) : Action → Bool
  | .requestSynchronization _ _ _ => decide s.Requesting
  | .sendDue t => s.working && s.requestDue t.now && decide s.Requesting
  | _ => false

/-- The action submits a sample that it makes of a response. -/
def uses (s : UDPClockSynchronizer) : Action → Bool
  | .receivePacket a =>
    (MessageHeader.decode (Arrival.data a)).type = MessageType.response.code &&
      s.submitted.length < (s.step (.receivePacket a)).submitted.length
  | _ => false

namespace Timed

def step (x : Timed) (m : TimedAction) : Timed where
  synchronizer := x.synchronizer.step m.action
  requestBuilt := if x.synchronizer.builds m.action then m.time else x.requestBuilt
  answers := if x.synchronizer.uses m.action then x.answers ++ [⟨x.requestBuilt, m.time⟩]
    else x.answers

/-- The datagram comes from the reference, if one is named, and is the awaited response. -/
def Awaited (a : Arrival) (s : UDPClockSynchronizer) : Prop :=
  (s.config.referenceAddress ≠ 0 → a.source = s.config.referenceAddress) ∧
    s.protocol.Awaits (Arrival.data a)

instance (a : Arrival) (s : UDPClockSynchronizer) : Decidable (Awaited a s) :=
  inferInstanceAs (Decidable (_ ∧ _))

/-- No awaited response is received later than the timeout after the last request was built. -/
def OnTime (timeout : ℕ) (x : Timed) (m : TimedAction) : Prop :=
  match m.action with
  | .receivePacket a =>
    x.synchronizer.working = true → Arrival.Read a → Awaited a x.synchronizer →
      m.time ≤ x.requestBuilt + timeout
  | _ => True

theorem length_submit (source : IPAddress) (sample : Option Sample) (s : UDPClockSynchronizer) :
    s.submitted.length < (s.submit source sample).submitted.length ↔ sample.isSome = true := by
  cases sample <;> simp [submit]

/-- Which reception uses a response. -/
theorem uses_receivePacket (a : Arrival) (s : UDPClockSynchronizer) :
    s.uses (.receivePacket a) = true ↔
      s.working = true ∧ Arrival.Read a ∧ Awaited a s := by
  unfold uses
  rw [Bool.and_eq_true, decide_eq_true_eq, decide_eq_true_eq]
  unfold UDPClockSynchronizer.step receivePacket
  dsimp only
  split_ifs with hworking hread
  · have haddress : ¬ (s.config.referenceAddress ≠ 0 ∧ a.source ≠ s.config.referenceAddress) ↔
        (s.config.referenceAddress ≠ 0 → a.source = s.config.referenceAddress) := by tauto
    rw [and_iff_right hworking, and_iff_right hread]
    unfold handlePacket Awaited
    dsimp only
    split_ifs with hshort hheader hrequest hresponse hstray hbroadcast
    · refine iff_of_false (fun h => lt_irrefl _ h.2) fun h => ?_
      have hlength := h.2.header.1
      unfold headerSize at hshort
      unfold responseSize at hlength
      omega
    · refine iff_of_false (fun h => lt_irrefl _ h.2) fun h => ?_
      obtain ⟨-, hmagic, hversion, -⟩ := h.2.header
      exact hheader.elim (fun hne => hne hmagic) fun hne => hne hversion
    · have hother : MessageType.request.code ≠ MessageType.response.code := by decide
      rw [hrequest]
      exact iff_of_false (fun h => hother h.1) fun h => hother (hrequest ▸ h.2.header.2.2.2)
    · exact iff_of_false (fun h => lt_irrefl _ h.2) fun h => haddress.mpr h.1 hstray
    · rw [and_iff_right hresponse, and_iff_right (haddress.mp hstray)]
      exact (length_submit a.source _ { s with protocol := _ }).trans
        (SocketClockSynchronizationProtocol.isSome_processResponse _ _ _)
    · exact iff_of_false (fun h => hresponse h.1) fun h => hresponse h.2.header.2.2.2
    · exact iff_of_false (fun h => hresponse h.1) fun h => hresponse h.2.header.2.2.2
  · exact iff_of_false (fun h => lt_irrefl _ h.2) fun h => hread h.2.1
  · exact iff_of_false (fun h => lt_irrefl _ h.2) fun h => hworking h.1

theorem timely_step (timeout : ℕ) (x : Timed) (m : TimedAction) :
    Timely timeout (x.step m).answers ↔ Timely timeout x.answers ∧ x.OnTime timeout m := by
  obtain ⟨action, time⟩ := m
  cases action with
  | receivePacket a =>
    have huses := uses_receivePacket a x.synchronizer
    unfold step OnTime
    dsimp only
    split_ifs with hused
    · obtain ⟨hworking, hread, hawaited⟩ := huses.mp hused
      rw [timely_append]
      exact and_congr_right fun _ => ⟨fun h _ _ _ => h, fun h => h hworking hread hawaited⟩
    · refine (and_iff_left fun hworking hread hawaited => ?_).symm
      exact absurd (huses.mpr ⟨hworking, hread, hawaited⟩) hused
  | initializeWith config begun started => exact (and_iff_left trivial).symm
  | shutdown => exact (and_iff_left trivial).symm
  | requestSynchronization t1 now accepted => exact (and_iff_left trivial).symm
  | broadcastTime time now broadcast multicast => exact (and_iff_left trivial).symm
  | sendDue t => exact (and_iff_left trivial).symm

theorem timely_run (timeout : ℕ) (x : Timed) (moves : List TimedAction) :
    Timely timeout (run step x moves).answers ↔
      Timely timeout x.answers ∧ Meets step (OnTime timeout) x moves := by
  induction moves generalizing x with
  | nil => exact (and_iff_left trivial).symm
  | cons m moves ih => rw [run_cons, ih, timely_step, Meets, and_assoc]

end Timed
end UDPClockSynchronizer

namespace TCPClockSynchronizationClient

/-- No awaited response is handled later than the timeout after the last request was built. -/
def OnTime (timeout : ℕ) (s : TCPClockSynchronizationClient) : Action → Prop
  | .processCompleted received _ =>
    s.working = true → ∀ message ∈ s.completed.head?, s.protocol.Awaits message →
      received ≤ s.requestBuilt + timeout
  | _ => True

theorem answers_ensureConnectedLocked (c : Connection) (s : TCPClockSynchronizationClient) :
    (s.ensureConnectedLocked c).2.answers = s.answers := by
  unfold ensureConnectedLocked
  split_ifs <;> rfl

theorem answers_readAvailable (chunks : List Bytes) (s : TCPClockSynchronizationClient) :
    (s.readAvailable chunks).answers = s.answers := by
  induction chunks generalizing s with
  | nil => rfl
  | cons chunk chunks ih =>
    unfold readAvailable
    dsimp only
    split_ifs
    · rfl
    · exact ih _
    · rfl

theorem answers_requestSynchronization (c : RequestCall) (s : TCPClockSynchronizationClient) :
    (s.requestSynchronization c).2.answers = s.answers := by
  have hensured := answers_ensureConnectedLocked c.connection s
  unfold requestSynchronization
  split_ifs
  · rfl
  · dsimp only
    split_ifs
    · exact hensured
    · split
      · exact hensured
      · split_ifs <;> exact hensured

/-- A message is used as a response exactly if it is awaited. -/
theorem answers_processMessage (message : Bytes) (received : ℕ) (receiveTime : UInt64)
    (s : TCPClockSynchronizationClient) :
    (s.processMessage message received receiveTime).answers =
      if s.protocol.Awaits message then s.answers ++ [⟨s.requestBuilt, received⟩]
      else s.answers := by
  unfold processMessage
  dsimp only
  by_cases hawaits : s.protocol.Awaits message
  · obtain ⟨hlength, hmagic, hversion, htype⟩ := hawaits.header
    have hlong : ¬ message.length < headerSize := by
      rw [hlength]
      decide
    have hchecked : ¬ ((MessageHeader.decode message).magic ≠ headerMagic ∨
        (MessageHeader.decode message).version ≠ 1) := by
      rw [hmagic, hversion]
      decide
    have hsome := (SocketClockSynchronizationProtocol.isSome_processResponse s.protocol message
      receiveTime).mpr hawaits
    obtain ⟨sample, hsample⟩ := Option.isSome_iff_exists.mp hsome
    rw [if_neg hlong, if_neg hchecked, if_pos htype, if_pos hawaits, hsample]
    rfl
  · have hnone := mt (SocketClockSynchronizationProtocol.isSome_processResponse s.protocol message
      receiveTime).mp hawaits
    rw [Option.not_isSome_iff_eq_none] at hnone
    rw [if_neg hawaits, hnone]
    split_ifs
    · rfl
    · rfl
    · exact List.append_nil _
    · rfl
    · rfl

theorem timely_step (timeout : ℕ) (s : TCPClockSynchronizationClient) (a : Action) :
    Timely timeout (s.step a).answers ↔ Timely timeout s.answers ∧ s.OnTime timeout a := by
  have hkept {s' : TCPClockSynchronizationClient} (h : s'.answers = s.answers) :
      Timely timeout s'.answers ↔ Timely timeout s.answers ∧ True := by
    rw [h, and_true]
  cases a with
  | initializeWith config started =>
    refine hkept ?_
    unfold step initializeWith
    dsimp only
    split_ifs <;> rfl
  | shutdown =>
    refine hkept ?_
    unfold step shutdown
    dsimp only
    split_ifs <;> rfl
  | poll c chunks =>
    refine hkept ?_
    have hensured := answers_ensureConnectedLocked c s
    unfold step poll
    dsimp only
    split_ifs
    · exact hensured
    · exact (answers_readAvailable chunks _).trans hensured
    · rfl
  | requestDue now c =>
    refine hkept ?_
    unfold step
    dsimp only
    split_ifs
    · exact answers_requestSynchronization c s
    · rfl
  | requestSynchronization c => exact hkept (answers_requestSynchronization c s)
  | processCompleted received receiveTime =>
    unfold step OnTime processCompleted
    dsimp only
    split_ifs with hworking
    · split
      · rename_i hempty
        rw [hempty]
        exact (and_iff_left fun _ _ h => by cases h).symm
      · rename_i message completed hnext
        rw [answers_processMessage, hnext]
        split_ifs with hawaits
        · rw [timely_append]
          exact and_congr_right fun _ =>
            ⟨fun h _ _ hm _ => by cases hm; exact h, fun h => h hworking message rfl hawaits⟩
        · refine (and_iff_left fun _ m hm h => ?_).symm
          cases hm
          exact absurd h hawaits
    · exact (and_iff_left fun h => absurd h hworking).symm

theorem timely_run (timeout : ℕ) (s : TCPClockSynchronizationClient) (actions : List Action) :
    Timely timeout (run step s actions).answers ↔
      Timely timeout s.answers ∧ Meets step (OnTime timeout) s actions := by
  induction actions generalizing s with
  | nil => exact (and_iff_left trivial).symm
  | cons a actions ih => rw [run_cons, ih, timely_step, Meets, and_assoc]

end TCPClockSynchronizationClient

/-- Over UDP and over TCP, no response is used later than a timeout after its request was built if
and only if none that is still awaited arrives later than that. -/
theorem late_unused_iff (timeout : ℕ) (moves : List UDPClockSynchronizer.TimedAction)
    (actions : List TCPClockSynchronizationClient.Action) :
    (Timely timeout (run UDPClockSynchronizer.Timed.step {} moves).answers ↔
      Meets UDPClockSynchronizer.Timed.step (UDPClockSynchronizer.Timed.OnTime timeout) {} moves) ∧
    (Timely timeout (run TCPClockSynchronizationClient.step {} actions).answers ↔
      Meets TCPClockSynchronizationClient.step (TCPClockSynchronizationClient.OnTime timeout) {}
        actions) := by
  have hnone : Timely timeout [] := fun a ha => by cases ha
  constructor
  · rw [UDPClockSynchronizer.Timed.timely_run]
    exact and_iff_right hnone
  · rw [TCPClockSynchronizationClient.timely_run]
    exact and_iff_right hnone

/-- A client of the reference 192.168.1.50 requests at 100 ms, and hears the answer at 3100 ms. -/
def lateRun : List UDPClockSynchronizer.TimedAction :=
  [⟨.initializeWith { referenceAddress := ipAddress 192 168 1 50 } true true, 0⟩,
    ⟨.sendDue ⟨100, 7, 101, true, 0, 0, false, false⟩, 100⟩,
    ⟨.receivePacket ⟨36, ipAddress 192 168 1 50, 45100, ResponseMessage.encode
      { header := { type := MessageType.response.code, sequence := 1 }
        t1 := 7, t2 := 90, t3 := 91 }, 3007, 0, false⟩, 3100⟩]

/-- A response 3000 ms after its request is submitted, where the timeout is 1500 ms. -/
theorem late_used :
    ({} : TCPClockSynchronizationClientConfig).requestTimeoutMilliseconds = 1500 ∧
    (run UDPClockSynchronizer.Timed.step {} lateRun).synchronizer.submitted.map
      (fun m => m.sample) = [⟨7, 90, 91, 3007⟩] ∧
    (run UDPClockSynchronizer.Timed.step {} lateRun).answers = [⟨100, 3100⟩] ∧
    ¬ Timely 1500 (run UDPClockSynchronizer.Timed.step {} lateRun).answers := by
  have hanswers : (run UDPClockSynchronizer.Timed.step {} lateRun).answers = [⟨100, 3100⟩] := by
    decide +kernel
  refine ⟨rfl, by decide +kernel, hanswers, ?_⟩
  intro h
  rw [hanswers] at h
  have hlate : 3100 ≤ 100 + 1500 := h _ (List.mem_singleton_self _)
  exact absurd hlate (by decide)

end Sockets.Clock
