import Sockets.Frame.Reentrant

/-! The Event decoder when a callback pushes into it again. Its callbacks run while their frame is
still at the front of the buffer, and the frame is erased after they return, by the size it had. -/
namespace Sockets.Frame
open Foundation

/-- The bytes of a stream of Event frames. -/
def eventWire (frames : List (ValidFrame maxEventPacketSize)) : Bytes :=
  (frames.map fun f => f.bytes eventMagic).flatten

/-- The position in the stream at which each of these frames starts. -/
def positionsFrom : ℕ → List (ValidFrame maxEventPacketSize) → List ℕ
  | _, [] => []
  | n, f :: frames => n :: positionsFrom (n + (f.bytes eventMagic).length) frames

/-- `calls` holds the size of the frame of every callback that is running, the innermost first.
`front` is the position in the stream of the first buffered byte, and `positions` says where the
frames started for which callbacks were run. A `fault` is an erase beyond the buffer, after which
nothing is defined. -/
structure EventDelivery where
  decoder : SocketEventFrameDecoder := {}
  calls : List ℕ := []
  log : List PushEvent := []
  front : ℕ := 0
  positions : List ℕ := []
  fault : Bool := false

@[simp] theorem eventWire_append (done rest : List (ValidFrame maxEventPacketSize)) :
    eventWire (done ++ rest) = eventWire done ++ eventWire rest := by
  simp [eventWire]

theorem eventMagic_lt : eventMagic < 2 ^ 32 := by norm_num [eventMagic]

theorem length_bytes_pos (f : ValidFrame maxEventPacketSize) : 0 < (f.bytes eventMagic).length := by
  rw [ValidFrame.length_bytes, headerSize]
  omega

theorem positionsFrom_append (n : ℕ) (done rest : List (ValidFrame maxEventPacketSize)) :
    positionsFrom n (done ++ rest) =
      positionsFrom n done ++ positionsFrom (n + (eventWire done).length) rest := by
  induction done generalizing n with
  | nil => rfl
  | cons f done ih =>
    have hwire : (eventWire (f :: done)).length =
        (f.bytes eventMagic).length + (eventWire done).length := by simp [eventWire]
    simp only [List.cons_append, positionsFrom, ih, hwire, Nat.add_assoc]

/-- No two frames of a stream start at the same position. -/
theorem positionsFrom_nodup (n : ℕ) (frames : List (ValidFrame maxEventPacketSize)) :
    (positionsFrom n frames).Nodup ∧ ∀ m ∈ positionsFrom n frames, n ≤ m := by
  induction frames generalizing n with
  | nil => simp [positionsFrom]
  | cons f frames ih =>
    obtain ⟨hnodup, hle⟩ := ih (n + (f.bytes eventMagic).length)
    have hpos := length_bytes_pos f
    refine ⟨List.nodup_cons.mpr ⟨fun hmem => ?_, hnodup⟩, ?_⟩
    · have := hle n hmem
      omega
    · intro m hm
      rcases List.mem_cons.mp hm with rfl | hm
      · exact le_rfl
      · have := hle m hm
        omega

namespace EventDelivery

def record (e : PushEvent) (v : EventDelivery) : EventDelivery := { v with log := v.log ++ [e] }

/-- `_buffer.clear()`. -/
def clear (v : EventDelivery) : EventDelivery :=
  { v with decoder := v.decoder.reset, front := (pushed v.log).length }

/-- One turn of the loop of `Push`: it returns, or starts the callback of a frame. -/
def turn (v : EventDelivery) : EventDelivery :=
  match cutFrame eventMagic maxEventPacketSize v.decoder.buffer with
  | .more => v.record .returned
  | .fail _ => v.clear.record .failed
  | .frame payload _ =>
    { v with calls := (headerSize + payload.length) :: v.calls
             positions := v.positions ++ [v.front] }.record (.started payload)

def push (chunk : Bytes) (v : EventDelivery) : EventDelivery :=
  let v := v.record (.began chunk)
  if chunk = [] then v.record .returned
  else if !SocketEventFrameDecoder.fits v.decoder.buffer.length chunk.length then
    v.clear.record .refused
  else { v with decoder := ⟨v.decoder.buffer ++ chunk⟩ }.turn

/-- The innermost callback returns, and the loop that called it erases its frame and goes on. -/
def finish (v : EventDelivery) : EventDelivery :=
  match v.calls with
  | [] => v
  | frameSize :: calls =>
    if v.decoder.buffer.length < frameSize then { v with fault := true }
    else { v with decoder := ⟨v.decoder.buffer.drop frameSize⟩, calls
                  front := v.front + frameSize }.turn

def step (v : EventDelivery) (a : DeliveryAction) : EventDelivery :=
  if v.fault then v
  else
    match a with
    | .push chunk => v.push chunk
    | .finish => v.finish

/-- Every callback was run for a frame of the stream, in order and once for each, nothing was erased
that was not there, and when no callback is running every whole frame has had its callback. -/
def DeliversOnce (frames : List (ValidFrame maxEventPacketSize)) (v : EventDelivery) : Prop :=
  v.fault = false ∧ .failed ∉ v.log ∧ ∃ done rest part, frames = done ++ rest ∧
    started v.log = done.map ValidFrame.payload ∧ v.positions = positionsFrom 0 done ∧
    pushed v.log = eventWire done ++ part ∧
    (v.calls = [] → ∀ f ∈ rest.head?, part.length < (f.bytes eventMagic).length)

/-- No bytes are pushed while a callback is running. -/
def Unnested (v : EventDelivery) : DeliveryAction → Prop
  | .push chunk => chunk = [] ∨ v.calls = []
  | .finish => True

instance (v : EventDelivery) : ∀ a, Decidable (v.Unnested a)
  | .push _ => inferInstanceAs (Decidable (_ ∨ _))
  | .finish => isTrue trivial

/-- At most one callback is running, and the frame it was given is at the front of the buffer. -/
structure Orderly (frames : List (ValidFrame maxEventPacketSize)) (v : EventDelivery)
    (done held rest : List (ValidFrame maxEventPacketSize)) : Prop where
  fault : v.fault = false
  failed : .failed ∉ v.log
  split : frames = done ++ held ++ rest
  single : held.length ≤ 1
  started : started v.log = (done ++ held).map ValidFrame.payload
  positions : v.positions = positionsFrom 0 (done ++ held)
  pushed : pushed v.log = eventWire done ++ v.decoder.buffer
  front : v.front = (eventWire done).length
  calls : v.calls = held.map fun f => (f.bytes eventMagic).length
  first : eventWire held <+: v.decoder.buffer
  quiet : held = [] → ∀ f ∈ rest.head?, v.decoder.buffer.length < (f.bytes eventMagic).length

section Orderly
variable {frames done held rest : List (ValidFrame maxEventPacketSize)} {v : EventDelivery}

theorem Orderly.deliversOnce (h : Orderly frames v done held rest) : DeliversOnce frames v := by
  obtain ⟨part, hpart⟩ := h.first
  refine ⟨h.fault, h.failed, done ++ held, rest, part, h.split, h.started, h.positions, ?_, ?_⟩
  · rw [h.pushed, eventWire_append, List.append_assoc, hpart]
  · intro hcalls f hf
    have hnone : held = [] := by simpa [h.calls] using hcalls
    have hquiet := h.quiet hnone f hf
    rw [← hpart, List.length_append] at hquiet
    omega

/-- An event that is no start of a callback. -/
theorem Orderly.record (h : Orderly frames v done held rest) (e : PushEvent)
    (hstarted : Frame.started [e] = []) (hpushed : Frame.pushed [e] = []) (hfailed : e ≠ .failed) :
    Orderly frames (v.record e) done held rest where
  fault := h.fault
  failed := by simpa [EventDelivery.record, h.failed] using hfailed.symm
  split := h.split
  single := h.single
  started := by
    rw [EventDelivery.record, started_append, hstarted, List.append_nil, h.started]
  positions := h.positions
  pushed := by rw [EventDelivery.record, pushed_append, hpushed, List.append_nil, h.pushed]
  front := h.front
  calls := h.calls
  first := h.first
  quiet := h.quiet

/-- What the loop finds between two frames. -/
structure Between (frames : List (ValidFrame maxEventPacketSize)) (v : EventDelivery)
    (done rest : List (ValidFrame maxEventPacketSize)) : Prop where
  fault : v.fault = false
  failed : .failed ∉ v.log
  split : frames = done ++ rest
  started : Frame.started v.log = done.map ValidFrame.payload
  positions : v.positions = positionsFrom 0 done
  pushed : Frame.pushed v.log = eventWire done ++ v.decoder.buffer
  front : v.front = (eventWire done).length
  calls : v.calls = []

theorem Between.turn (h : Between frames v done rest)
    (hpushed : Frame.pushed v.log <+: eventWire frames) :
    ∃ held rest, Orderly frames v.turn done held rest := by
  have hbuffer : v.decoder.buffer <+: eventWire rest := by
    rw [h.pushed, h.split, eventWire_append] at hpushed
    exact (List.prefix_append_right_inj _).mp hpushed
  rcases cut_frames eventMagic_lt hbuffer with
    ⟨hcut, hpart⟩ | ⟨f, rest, buffer, rfl, hsplit, -, hcut⟩
  · have hturn : v.turn = v.record .returned := by
      unfold EventDelivery.turn
      rw [hcut]
    rw [hturn]
    have horderly : Orderly frames v done [] rest :=
      { fault := h.fault, failed := h.failed, split := by simpa using h.split, single := by simp
        started := by simpa using h.started, positions := by simpa using h.positions
        pushed := h.pushed, front := h.front, calls := h.calls, first := List.nil_prefix
        quiet := fun _ => hpart }
    exact ⟨[], rest, horderly.record .returned rfl rfl (by simp)⟩
  · have hturn : v.turn = { v with calls := (headerSize + f.payload.length) :: v.calls
                                   positions := v.positions ++ [v.front] }.record
        (.started f.payload) := by
      unfold EventDelivery.turn
      rw [hcut]
    rw [hturn]
    refine ⟨[f], rest, h.fault, ?_, by simp [h.split], by simp, ?_, ?_, ?_, h.front, ?_, ?_, ?_⟩
    · simp [EventDelivery.record, h.failed]
    · simp [EventDelivery.record, started_append, h.started, Frame.started]
    · simp [EventDelivery.record, positionsFrom_append, h.positions, h.front, positionsFrom]
    · simp [EventDelivery.record, pushed_append, h.pushed, Frame.pushed]
    · simp [EventDelivery.record, h.calls, ValidFrame.length_bytes]
    · exact ⟨buffer, by simp [EventDelivery.record, eventWire, hsplit]⟩
    · simp

/-- Outside of callbacks an orderly state is one between two frames. -/
theorem Orderly.between (h : Orderly frames v done [] rest) : Between frames v done rest :=
  { fault := h.fault, failed := h.failed, split := by simpa using h.split
    started := by simpa using h.started, positions := by simpa using h.positions
    pushed := h.pushed, front := h.front, calls := h.calls }

theorem Orderly.push (h : Orderly frames v done held rest) {chunk : Bytes}
    (hnested : v.Unnested (.push chunk)) (hrefused : .refused ∉ (v.push chunk).log)
    (hpushed : Frame.pushed (v.push chunk).log <+: eventWire frames) :
    ∃ done held rest, Orderly frames (v.push chunk) done held rest := by
  unfold EventDelivery.push at hrefused hpushed ⊢
  dsimp only at hrefused hpushed ⊢
  split_ifs at hrefused hpushed ⊢ with hempty hsize
  · have hbegan : Orderly frames (v.record (.began chunk)) done held rest :=
      h.record (.began chunk) rfl (by simp [Frame.pushed, hempty]) (by simp)
    exact ⟨done, held, rest, hbegan.record .returned rfl rfl (by simp)⟩
  · exact absurd (by simp [EventDelivery.record]) hrefused
  · have hquiet : v.calls = [] := hnested.resolve_left hempty
    have hheld : held = [] := by simpa [h.calls] using hquiet
    subst hheld
    have hbegan : Between frames { v.record (.began chunk) with
        decoder := ⟨v.decoder.buffer ++ chunk⟩ } done rest :=
      { h.between with
        failed := by simp [EventDelivery.record, h.failed]
        started := by
          simpa [EventDelivery.record, started_append, Frame.started] using h.between.started
        pushed := by
          simp [EventDelivery.record, pushed_append, h.pushed, Frame.pushed] }
    obtain ⟨held, rest, horderly⟩ := hbegan.turn (by
      obtain ⟨log, hlog⟩ : ∃ log, (EventDelivery.turn { v.record (.began chunk) with
          decoder := ⟨v.decoder.buffer ++ chunk⟩ }).log = (v.record (.began chunk)).log ++ log := by
        unfold EventDelivery.turn
        split <;> exact ⟨_, rfl⟩
      change Frame.pushed (EventDelivery.turn { v.record (.began chunk) with
          decoder := ⟨v.decoder.buffer ++ chunk⟩ }).log <+: _ at hpushed
      rw [hlog, pushed_append] at hpushed
      exact (List.prefix_append _ _).trans hpushed)
    exact ⟨done, held, rest, horderly⟩

theorem Orderly.finish (h : Orderly frames v done held rest)
    (hpushed : Frame.pushed v.log <+: eventWire frames) :
    ∃ done held rest, Orderly frames v.finish done held rest := by
  unfold EventDelivery.finish
  match held, h with
  | [], h =>
    have hcalls : v.calls = [] := h.calls
    rw [hcalls]
    exact ⟨done, [], rest, h⟩
  | [f], h =>
    obtain ⟨more, hmore⟩ := h.first
    have hfirst : v.decoder.buffer = f.bytes eventMagic ++ more := by
      simpa [eventWire] using hmore.symm
    have hcalls : v.calls = [(f.bytes eventMagic).length] := h.calls
    have hsize : ¬ v.decoder.buffer.length < (f.bytes eventMagic).length := by
      rw [hfirst, List.length_append]
      omega
    have hdone : Between frames { v with
        decoder := ⟨v.decoder.buffer.drop (f.bytes eventMagic).length⟩, calls := []
        front := v.front + (f.bytes eventMagic).length } (done ++ [f]) rest :=
      { fault := h.fault, failed := h.failed, split := h.split, started := h.started
        positions := h.positions
        pushed := by rw [h.pushed, hfirst, List.drop_left]; simp [eventWire]
        front := by simp [h.front, eventWire]
        calls := rfl }
    rw [hcalls]
    dsimp only
    rw [if_neg hsize]
    obtain ⟨held, rest, horderly⟩ := hdone.turn hpushed
    exact ⟨_, held, rest, horderly⟩
  | _ :: _ :: _, h => exact absurd h.single (by simp)

/-- Bytes pushed from a callback: its frame is still there, and gets another callback. -/
theorem Orderly.nested (h : Orderly frames v done held rest) {chunk : Bytes}
    (hnested : ¬ v.Unnested (.push chunk)) (hrefused : .refused ∉ (v.push chunk).log) :
    ¬ (v.push chunk).positions.Nodup := by
  obtain ⟨hempty, hcalls⟩ := not_or.mp hnested
  match held, h with
  | [], h => exact absurd h.calls hcalls
  | [f], h =>
    obtain ⟨more, hmore⟩ := h.first
    have hcut : cutFrame eventMagic maxEventPacketSize (v.decoder.buffer ++ chunk) =
        .frame f.payload (more ++ chunk) := by
      rw [← hmore, List.append_assoc]
      simpa [eventWire] using f.cut_bytes eventMagic_lt (more ++ chunk)
    unfold EventDelivery.push at hrefused ⊢
    dsimp only at hrefused ⊢
    rw [if_neg hempty] at hrefused ⊢
    split_ifs at hrefused ⊢ with hsize
    · exact absurd (by simp [EventDelivery.record]) hrefused
    · have hpositions : (EventDelivery.turn { v.record (.began chunk) with
          decoder := ⟨v.decoder.buffer ++ chunk⟩ }).positions = v.positions ++ [v.front] := by
        unfold EventDelivery.turn
        dsimp only
        rw [hcut]
        rfl
      change ¬ (EventDelivery.turn { v.record (.began chunk) with
          decoder := ⟨v.decoder.buffer ++ chunk⟩ }).positions.Nodup
      rw [hpositions, h.positions, h.front, positionsFrom_append]
      simp [positionsFrom, List.nodup_append]
  | _ :: _ :: _, h => exact absurd h.single (by simp)

end Orderly

theorem log_turn (v : EventDelivery) :
    v.log <+: v.turn.log ∧ v.positions <+: v.turn.positions := by
  unfold turn
  split
  · exact ⟨⟨_, rfl⟩, List.prefix_rfl⟩
  · exact ⟨⟨_, rfl⟩, List.prefix_rfl⟩
  · exact ⟨⟨_, rfl⟩, ⟨_, rfl⟩⟩

/-- Nothing is taken back that was logged. -/
theorem log_step (v : EventDelivery) (a : DeliveryAction) :
    v.log <+: (v.step a).log ∧ v.positions <+: (v.step a).positions := by
  have hbegan (chunk : Bytes) : v.log <+: (v.record (.began chunk)).log := ⟨_, rfl⟩
  unfold step
  split_ifs
  · exact ⟨List.prefix_rfl, List.prefix_rfl⟩
  · cases a with
    | push chunk =>
      simp only [push]
      split_ifs
      · exact ⟨(hbegan chunk).trans ⟨_, rfl⟩, List.prefix_rfl⟩
      · exact ⟨(hbegan chunk).trans ⟨_, rfl⟩, List.prefix_rfl⟩
      · obtain ⟨hlog, hpositions⟩ := log_turn { v.record (.began chunk) with
          decoder := ⟨v.decoder.buffer ++ chunk⟩ }
        exact ⟨(hbegan chunk).trans hlog, hpositions⟩
    | finish =>
      simp only [finish]
      split
      · exact ⟨List.prefix_rfl, List.prefix_rfl⟩
      · rename_i frameSize calls _
        split_ifs
        · exact ⟨List.prefix_rfl, List.prefix_rfl⟩
        · exact log_turn { v with decoder := ⟨v.decoder.buffer.drop frameSize⟩, calls
                                  front := v.front + frameSize }

theorem log_run (v : EventDelivery) (actions : List DeliveryAction) :
    v.log <+: (run step v actions).log ∧ v.positions <+: (run step v actions).positions := by
  induction actions generalizing v with
  | nil => exact ⟨List.prefix_rfl, List.prefix_rfl⟩
  | cons a actions ih =>
    exact ⟨(log_step v a).1.trans (ih _).1, (log_step v a).2.trans (ih _).2⟩

theorem pushed_mono {log log' : List PushEvent} (h : log <+: log') : pushed log <+: pushed log' := by
  obtain ⟨tail, rfl⟩ := h
  rw [pushed_append]
  exact List.prefix_append _ _

theorem step_push {v : EventDelivery} (h : v.fault = false) (chunk : Bytes) :
    v.step (.push chunk) = v.push chunk := by
  simp [step, h]

theorem step_finish {v : EventDelivery} (h : v.fault = false) : v.step .finish = v.finish := by
  simp [step, h]

/-- From an orderly state on, by whether bytes are pushed from a callback. -/
theorem outcome {frames done held rest : List (ValidFrame maxEventPacketSize)} {v : EventDelivery}
    (h : Orderly frames v done held rest) {actions : List DeliveryAction}
    (hrefused : .refused ∉ (run step v actions).log)
    (hpushed : pushed (run step v actions).log <+: eventWire frames) :
    (Meets step Unnested v actions → DeliversOnce frames (run step v actions)) ∧
      (¬ Meets step Unnested v actions → ¬ (run step v actions).positions.Nodup) := by
  induction actions generalizing v done held rest with
  | nil => exact ⟨fun _ => h.deliversOnce, fun hnot => absurd trivial hnot⟩
  | cons a actions ih =>
    obtain ⟨hlog, hpositions⟩ := log_run (step v a) actions
    have hrefused' : .refused ∉ (step v a).log := fun hmem => hrefused (hlog.subset hmem)
    have hpushed' : pushed (step v a).log <+: eventWire frames := (pushed_mono hlog).trans hpushed
    have hbefore : pushed v.log <+: eventWire frames :=
      (pushed_mono (log_step v a).1).trans hpushed'
    by_cases hunnested : v.Unnested a
    · have horderly : ∃ done held rest, Orderly frames (step v a) done held rest := by
        cases a with
        | push chunk =>
          rw [step_push h.fault] at hrefused' hpushed' ⊢
          exact h.push hunnested hrefused' hpushed'
        | finish =>
          rw [step_finish h.fault]
          exact h.finish hbefore
      obtain ⟨done, held, rest, horderly⟩ := horderly
      obtain ⟨hmeets, hnot⟩ := ih horderly hrefused hpushed
      exact ⟨fun hm => hmeets hm.2, fun hm => hnot fun hrest => hm ⟨hunnested, hrest⟩⟩
    · refine ⟨fun hm => absurd hm.1 hunnested, fun _ hnodup => ?_⟩
      have hstepNodup : (step v a).positions.Nodup := hnodup.sublist hpositions.sublist
      cases a with
      | push chunk =>
        rw [step_push h.fault] at hrefused' hstepNodup
        exact h.nested hunnested hrefused' hstepNodup
      | finish => exact hunnested trivial

/-- What is erased when a callback has returned is the frame it was run for. -/
theorem cutFrame_rest {magic maximum : ℕ} {buffer payload rest : Bytes}
    (h : cutFrame magic maximum buffer = .frame payload rest) :
    rest = buffer.drop (headerSize + payload.length) ∧
      headerSize + payload.length ≤ buffer.length := by
  unfold cutFrame at h
  dsimp only at h
  split_ifs at h with h1 h2 h3
  cases h
  have hlength : ((buffer.drop headerSize).take (FrameHeader.decode buffer).payloadLength).length =
      (FrameHeader.decode buffer).payloadLength := by
    rw [List.length_take, List.length_drop]
    omega
  rw [hlength]
  exact ⟨rfl, not_lt.mp h3⟩

/-- What a drain of the buffer leaves in it. -/
def settled (buffer : Bytes) : SocketEventFrameDecoder :=
  match (frameFramer eventMagic maxEventPacketSize).leftover buffer with
  | .ok rest => ⟨rest⟩
  | .error _ => ⟨[]⟩

/-- The loop, with callbacks that push nothing: every frame in the buffer is handed over. -/
theorem run_finish (v : EventDelivery) (hcalls : v.calls = []) (hfault : v.fault = false) :
    ∃ n, (run step v.turn (List.replicate n .finish)).calls = [] ∧
      (run step v.turn (List.replicate n .finish)).decoder = settled v.decoder.buffer ∧
      started (run step v.turn (List.replicate n .finish)).log = started v.log ++
        (frameFramer eventMagic maxEventPacketSize).frames v.decoder.buffer := by
  induction hn : v.decoder.buffer.length using Nat.strong_induction_on generalizing v with
  | _ n ih =>
    cases hcut : (frameFramer eventMagic maxEventPacketSize).cut v.decoder.buffer with
    | more =>
      have hturn : v.turn = v.record .returned := by
        unfold turn
        rw [← frameFramer_cut, hcut]
      have hleft : (frameFramer eventMagic maxEventPacketSize).leftover v.decoder.buffer =
          .ok v.decoder.buffer := by
        rw [Framer.leftover, Framer.drain_more _ hcut]
      refine ⟨0, ?_⟩
      rw [(Framer.drain_of_more hcut).2, hturn, settled, hleft]
      simp [record, hcalls, started_append, started]
    | fail e =>
      have hturn : v.turn = v.clear.record .failed := by
        unfold turn
        rw [← frameFramer_cut, hcut]
      have hleft : (frameFramer eventMagic maxEventPacketSize).leftover v.decoder.buffer =
          .error e := by
        rw [Framer.leftover, Framer.drain_fail _ hcut]
      refine ⟨0, ?_⟩
      rw [(Framer.drain_of_fail hcut).2, hturn, settled, hleft]
      simp [record, clear, SocketEventFrameDecoder.reset, hcalls, started_append, started]
    | frame payload rest =>
      have hturn : v.turn = { v with calls := (headerSize + payload.length) :: v.calls
                                     positions := v.positions ++ [v.front] }.record
          (.started payload) := by
        unfold turn
        rw [← frameFramer_cut, hcut]
      obtain ⟨hrest, hsize⟩ := cutFrame_rest hcut
      have hshorter : rest.length < n := hn ▸ (frameFramer eventMagic _).shrinks hcut
      obtain ⟨m, hcalls', hdecoder, hstarted⟩ := ih rest.length hshorter
        { v with decoder := ⟨rest⟩, log := v.log ++ [.started payload]
                 front := v.front + (headerSize + payload.length)
                 positions := v.positions ++ [v.front] } hcalls hfault rfl
      have hfinish : v.turn.step .finish = turn
          { v with decoder := ⟨rest⟩, log := v.log ++ [.started payload]
                   front := v.front + (headerSize + payload.length)
                   positions := v.positions ++ [v.front] } := by
        have hturnFault : v.turn.fault = false := by
          rw [hturn]
          exact hfault
        rw [step_finish hturnFault, hturn]
        simp only [finish, record, if_neg (not_lt.mpr hsize), ← hrest]
      refine ⟨m + 1, ?_⟩
      rw [List.replicate_succ, run_cons, (Framer.drain_of_frame hcut).2, hfinish]
      refine ⟨hcalls', ?_, ?_⟩
      · rw [hdecoder, settled, settled, Framer.leftover_of_frame hcut]
      · rw [hstarted]
        simp [started_append, started]

/-- A `Push` into which no callback pushes does what the decoder's own `push` does. -/
theorem plain_delivery (d : SocketEventFrameDecoder) (chunk : Bytes) (log : List PushEvent) :
    ∃ n, let v := run step { decoder := d, log } (.push chunk :: List.replicate n .finish)
      v.calls = [] ∧ v.decoder = (d.push (fun p ps => ps ++ [p]) chunk []).2.1 ∧
        started v.log = started log ++ (d.push (fun p ps => ps ++ [p]) chunk []).2.2 := by
  by_cases hempty : chunk = []
  · refine ⟨0, ?_⟩
    simp [step, push, record, hempty, SocketEventFrameDecoder.push, started_append, started]
  · by_cases hfits : SocketEventFrameDecoder.fits d.buffer.length chunk.length = true
    · obtain ⟨n, hcalls, hdecoder, hstarted⟩ := run_finish
        { decoder := ⟨d.buffer ++ chunk⟩, log := log ++ [.began chunk] } rfl rfl
      have hpush : step { decoder := d, log } (.push chunk) = turn
          { decoder := ⟨d.buffer ++ chunk⟩, log := log ++ [.began chunk] } := by
        simp [step, push, record, hempty, hfits]
      refine ⟨n, ?_⟩
      dsimp only
      rw [run_cons, hpush]
      refine ⟨hcalls, ?_, ?_⟩
      · rw [hdecoder, settled]
        simp only [SocketEventFrameDecoder.push, hempty, if_false, Framer.feed_eq_report hfits,
          Framer.drain_leftover]
        cases Framer.leftover _ (d.buffer ++ chunk) <;> rfl
      · rw [hstarted]
        simp only [SocketEventFrameDecoder.push, hempty, if_false, Framer.feed_eq_report hfits,
          Framer.report_state, started_append]
        simp [started, Framer.frames]
    · refine ⟨0, ?_⟩
      simp [step, push, record, clear, hempty, hfits, SocketEventFrameDecoder.push, Framer.feed,
        started_append, started, SocketEventFrameDecoder.reset]

/-- As long as no `Push` is refused for its size and what is pushed begins a stream of valid frames,
every frame is delivered once and in order exactly when no callback pushes any bytes. -/
theorem event_delivery_iff (actions : List DeliveryAction)
    (frames : List (ValidFrame maxEventPacketSize))
    (hrefused : .refused ∉ (run step {} actions).log)
    (hpushed : pushed (run step {} actions).log <+: eventWire frames) :
    DeliversOnce frames (run step {} actions) ↔ Meets step Unnested {} actions := by
  have hstart : Orderly frames {} [] [] frames :=
    { fault := rfl, failed := by simp, split := rfl, single := by simp, started := rfl
      positions := rfl, pushed := rfl, front := rfl, calls := rfl, first := List.nil_prefix
      quiet := fun _ f _ => length_bytes_pos f }
  obtain ⟨hmeets, hnot⟩ := outcome hstart hrefused hpushed
  refine ⟨fun hdelivers => ?_, hmeets⟩
  by_contra hm
  obtain ⟨-, -, done, rest, part, -, -, hpositions, -⟩ := hdelivers
  exact hnot hm (hpositions ▸ (positionsFrom_nodup 0 done).1)

theorem length_reservedBytes : ([0, 0, 0] : Bytes).length = 3 := rfl

theorem fits_byte (b : UInt8) : Fits maxEventPacketSize [b] :=
  ⟨by simp, by simp [maxEventPacketSize], by simp⟩

def eventFrame (b : UInt8) : ValidFrame maxEventPacketSize where
  reserved := [0, 0, 0]
  payload := [b]
  length_reserved := length_reservedBytes
  fits := fits_byte b

/-- A frame, and from its callback the first byte of the next one. -/
def nestedByte : List DeliveryAction :=
  [.push (eventWire [eventFrame 0x11]), .push ((eventWire [eventFrame 0x22]).take 1)]

/-- Two whole frames in one `Push`, and the callbacks return. -/
theorem event_delivery_plain :
    let v := run step {} [.push (eventWire [eventFrame 0x11, eventFrame 0x22]), .finish, .finish]
    started v.log = [[0x11], [0x22]] ∧ DeliversOnce [eventFrame 0x11, eventFrame 0x22] v := by
  refine ⟨by decide, (event_delivery_iff _ _ (by decide) ?_).mpr (by decide)⟩
  rw [← List.isPrefixOf_iff_prefix]
  decide

/-- The frame whose callback pushes one byte more gets a second callback; when both have returned,
more is erased than is buffered. -/
theorem nested_frame_repeated :
    let v := run step {} nestedByte
    .refused ∉ v.log ∧ pushed v.log <+: eventWire [eventFrame 0x11, eventFrame 0x22] ∧
      started v.log = [[0x11], [0x11]] ∧ ¬ DeliversOnce [eventFrame 0x11, eventFrame 0x22] v ∧
      (run step v [.finish, .finish]).fault = true := by
  refine ⟨by decide, ?_, by decide, fun hdelivers => ?_, by decide⟩
  · rw [← List.isPrefixOf_iff_prefix]
    decide
  · obtain ⟨-, -, done, rest, part, -, -, hpositions, -⟩ := hdelivers
    have hnodup : (run step {} nestedByte).positions.Nodup :=
      hpositions ▸ (positionsFrom_nodup 0 done).1
    exact absurd hnodup (by decide)

end EventDelivery
end Sockets.Frame
