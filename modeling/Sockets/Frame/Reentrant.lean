import Sockets.Foundation.Run
import Sockets.Frame.Reference

/-! The State decoder when a callback pushes into it again. Every `Push` call that has not returned,
save the innermost, is inside a callback, and the payload it handed over lies in a vector of the
call's own. -/
namespace Sockets.Frame
open Foundation

inductive PushEvent where
  | began (chunk : Bytes)
  | refused
  | failed
  | returned
  | started (payload : Bytes)
  | finished (payload : Bytes)
  deriving DecidableEq

/-- `calls` holds the payload of every callback that is running, the innermost first; a `finished`
shows what the callback's payload is when it ends. -/
structure Delivery [SizeWidth] where
  decoder : SocketStateFrameDecoder
  calls : List Bytes := []
  log : List PushEvent := []

/-- What whoever is in control does next: another `Push`, or the end of the innermost callback. -/
inductive DeliveryAction where
  | push (chunk : Bytes)
  | finish
  deriving DecidableEq

/-- The chunks of the `Push` calls in the order in which they began. -/
def pushed : List PushEvent → Bytes
  | [] => []
  | .began chunk :: log => chunk ++ pushed log
  | _ :: log => pushed log

/-- The payloads of the callbacks in the order in which they started. -/
def started : List PushEvent → List Bytes
  | [] => []
  | .started payload :: log => payload :: started log
  | _ :: log => started log

/-- The callbacks that have not finished, if each that has had the payload it started with. -/
def openCalls : List Bytes → List PushEvent → Option (List Bytes)
  | calls, [] => some calls
  | calls, .started payload :: log => openCalls (payload :: calls) log
  | payload :: calls, .finished payload' :: log =>
    if payload' = payload then openCalls calls log else none
  | [], .finished _ :: _ => none
  | calls, _ :: log => openCalls calls log

theorem pushed_append (log log' : List PushEvent) :
    pushed (log ++ log') = pushed log ++ pushed log' := by
  induction log with
  | nil => rfl
  | cons e log ih => cases e <;> simp [pushed, ih]

theorem started_append (log log' : List PushEvent) :
    started (log ++ log') = started log ++ started log' := by
  induction log with
  | nil => rfl
  | cons e log ih => cases e <;> simp [started, ih]

theorem openCalls_append {calls calls' : List Bytes} {log : List PushEvent}
    (h : openCalls calls log = some calls') (log' : List PushEvent) :
    openCalls calls (log ++ log') = openCalls calls' log' := by
  induction log generalizing calls with
  | nil =>
    obtain rfl := Option.some.inj h
    rfl
  | cons e log ih =>
    cases e with
    | started payload => exact ih h
    | finished payload =>
      cases calls with
      | nil => cases h
      | cons first calls =>
        simp only [openCalls] at h
        split_ifs at h with hsame
        simp only [List.cons_append, openCalls, hsame, if_true]
        exact ih h
    | began | refused | failed | returned =>
      simp only [List.cons_append, openCalls] at h ⊢
      exact ih h

/-- The bytes of a stream of frames. -/
def wire {maximum : ℕ} (frames : List (ValidFrame maximum)) : Bytes :=
  (frames.map fun f => f.bytes stateMagic).flatten

theorem wire_append {maximum : ℕ} (done rest : List (ValidFrame maximum)) :
    wire (done ++ rest) = wire done ++ wire rest := by
  simp [wire]

/-- Bytes that begin a stream of frames hold a part of the first, or the whole of it. -/
theorem cut_frames {magic maximum : ℕ} (hm : magic < 2 ^ 32) {frames : List (ValidFrame maximum)}
    {buffer : Bytes} (h : buffer <+: (frames.map fun f => f.bytes magic).flatten) :
    cutFrame magic maximum buffer = .more ∧
        (∀ f ∈ frames.head?, buffer.length < (f.bytes magic).length) ∨
    ∃ f rest buffer', frames = f :: rest ∧ buffer = f.bytes magic ++ buffer' ∧
      buffer' <+: (rest.map fun f => f.bytes magic).flatten ∧
      cutFrame magic maximum buffer = .frame f.payload buffer' := by
  cases frames with
  | nil =>
    have hnil : buffer = [] := List.prefix_nil.mp h
    exact .inl ⟨by rw [hnil]; rfl, by simp⟩
  | cons f rest =>
    rw [List.map_cons, List.flatten_cons] at h
    by_cases hlt : buffer.length < (f.bytes magic).length
    · obtain ⟨tail, htail⟩ := List.prefix_of_prefix_length_le h (List.prefix_append _ _) hlt.le
      have hne : tail ≠ [] := by
        rintro rfl
        rw [← htail, List.append_nil] at hlt
        exact lt_irrefl _ hlt
      have hwhole := f.cut_bytes hm []
      rw [List.append_nil, ← htail] at hwhole
      refine .inl ⟨Framer.cut_part (F := frameFramer magic maximum) hne hwhole, ?_⟩
      intro g hg
      obtain rfl := Option.some.inj hg
      exact hlt
    · obtain ⟨buffer', rfl⟩ :=
        List.prefix_of_prefix_length_le (List.prefix_append _ _) h (not_lt.mp hlt)
      refine .inr ⟨f, rest, buffer', rfl, rfl, ?_, f.cut_bytes hm buffer'⟩
      exact (List.prefix_append_right_inj _).mp h

theorem cut_wire {maximum : ℕ} {frames : List (ValidFrame maximum)} {buffer : Bytes}
    (h : buffer <+: wire frames) :
    cutFrame stateMagic maximum buffer = .more ∧
        (∀ f ∈ frames.head?, buffer.length < (f.bytes stateMagic).length) ∨
    ∃ f rest buffer', frames = f :: rest ∧ buffer = f.bytes stateMagic ++ buffer' ∧
      buffer' <+: wire rest ∧ cutFrame stateMagic maximum buffer = .frame f.payload buffer' :=
  cut_frames (by norm_num [stateMagic]) h

namespace Delivery
variable [SizeWidth]

def record (e : PushEvent) (v : Delivery) : Delivery := { v with log := v.log ++ [e] }

/-- One turn of the loop of `Push`: it returns, or erases a frame and starts the callback. -/
def turn (v : Delivery) : Delivery :=
  match cutFrame stateMagic v.decoder.maximumPayloadBytes.val v.decoder.buffer with
  | .more => v.record .returned
  | .fail _ => { v with decoder := v.decoder.reset }.record .failed
  | .frame payload rest =>
    { v with decoder := { v.decoder with buffer := rest }, calls := payload :: v.calls }.record
      (.started payload)

def push (chunk : Bytes) (v : Delivery) : Delivery :=
  let v := v.record (.began chunk)
  if chunk = [] then v.record .returned
  else if !SocketStateFrameDecoder.fits v.decoder.maximumPayloadBytes v.decoder.buffer.length
      chunk.length then
    { v with decoder := v.decoder.reset }.record .refused
  else { v with decoder := { v.decoder with buffer := v.decoder.buffer ++ chunk } }.turn

/-- The innermost callback returns, and the loop that called it goes on. -/
def finish (v : Delivery) : Delivery :=
  match v.calls with
  | [] => v
  | payload :: calls => ({ v with calls }.record (.finished payload)).turn

def step (v : Delivery) : DeliveryAction → Delivery
  | .push chunk => v.push chunk
  | .finish => v.finish

def start (maximum : SizeT) : Delivery where
  decoder := { maximumPayloadBytes := maximum }

/-- Every byte that was pushed is in a frame that was handed over, or in the buffer. -/
structure Accounted {maximum : ℕ} (frames : List (ValidFrame maximum)) (v : Delivery)
    (done rest : List (ValidFrame maximum)) : Prop where
  maximum : v.decoder.maximumPayloadBytes.val = maximum
  split : frames = done ++ rest
  started : started v.log = done.map ValidFrame.payload
  pushed : pushed v.log = wire done ++ v.decoder.buffer
  failed : .failed ∉ v.log
  calls : openCalls [] v.log = some v.calls

/-- The buffer begins what is left of the stream. -/
theorem Accounted.buffer {maximum : ℕ} {frames done rest : List (ValidFrame maximum)} {v : Delivery}
    (h : Accounted frames v done rest) (hpushed : Frame.pushed v.log <+: wire frames) :
    v.decoder.buffer <+: wire rest := by
  rw [h.pushed, h.split, wire_append] at hpushed
  exact (List.prefix_append_right_inj _).mp hpushed

/-- An event that is neither the start nor the end of a callback. -/
theorem Accounted.record {maximum : ℕ} {frames done rest : List (ValidFrame maximum)} {v : Delivery}
    (h : Accounted frames v done rest) (e : PushEvent) (hstarted : Frame.started [e] = [])
    (hpushed : Frame.pushed [e] = []) (hfailed : e ≠ .failed)
    (hcalls : openCalls v.calls [e] = some v.calls) : Accounted frames (v.record e) done rest where
  maximum := h.maximum
  split := h.split
  started := by rw [Delivery.record, started_append, hstarted, List.append_nil, h.started]
  pushed := by rw [Delivery.record, pushed_append, hpushed, List.append_nil, h.pushed]
  failed := by simpa [Delivery.record, h.failed] using hfailed.symm
  calls := by rw [Delivery.record, openCalls_append h.calls, hcalls]

/-- A turn of the loop hands over the next frame when the buffer has it whole. -/
theorem Accounted.turn {maximum : ℕ} {frames done rest : List (ValidFrame maximum)} {v : Delivery}
    (h : Accounted frames v done rest) (hpushed : Frame.pushed v.log <+: wire frames) :
    ∃ done rest, Accounted frames v.turn done rest ∧ (v.turn.calls = [] →
      ∀ f ∈ rest.head?, v.turn.decoder.buffer.length < (f.bytes stateMagic).length) := by
  rcases cut_wire (h.buffer hpushed) with ⟨hcut, hpart⟩ | ⟨f, rest, buffer, rfl, hbuffer, -, hcut⟩
  · have hturn : v.turn = v.record .returned := by
      unfold Delivery.turn
      rw [h.maximum, hcut]
    rw [hturn]
    exact ⟨done, rest, h.record .returned rfl rfl (by simp) rfl, fun _ => hpart⟩
  · have hturn : v.turn = { v with decoder := { v.decoder with buffer }
                                   calls := f.payload :: v.calls }.record (.started f.payload) := by
      unfold Delivery.turn
      rw [h.maximum, hcut]
    rw [hturn]
    refine ⟨done ++ [f], rest, ⟨h.maximum, by simp [h.split], ?_, ?_, ?_, ?_⟩, ?_⟩
    · simp [Delivery.record, started_append, h.started, Frame.started]
    · simp [Delivery.record, pushed_append, h.pushed, Frame.pushed, hbuffer, wire]
    · simp [Delivery.record, h.failed]
    · rw [Delivery.record, openCalls_append h.calls]
      rfl
    · intro hcalls
      exact absurd hcalls (by simp [Delivery.record])

/-- What is accounted for, provided no `Push` was refused and nothing but frames has come. -/
def Sound {maximum : ℕ} (frames : List (ValidFrame maximum)) (v : Delivery) : Prop :=
  .refused ∉ v.log → Frame.pushed v.log <+: wire frames →
    ∃ done rest, Accounted frames v done rest ∧ (v.calls = [] →
      ∀ f ∈ rest.head?, v.decoder.buffer.length < (f.bytes stateMagic).length)

theorem log_turn (v : Delivery) : ∃ e, v.turn.log = v.log ++ [e] := by
  unfold Delivery.turn
  split <;> exact ⟨_, rfl⟩

theorem log_step (v : Delivery) (a : DeliveryAction) : ∃ log, (v.step a).log = v.log ++ log := by
  cases a with
  | push chunk =>
    simp only [step, push]
    split_ifs
    · exact ⟨[.began chunk, .returned], by simp [record]⟩
    · exact ⟨[.began chunk, .refused], by simp [record]⟩
    · obtain ⟨e, he⟩ := log_turn { v.record (.began chunk) with
        decoder := { v.decoder with buffer := v.decoder.buffer ++ chunk } }
      exact ⟨[.began chunk, e], he.trans (by simp [record])⟩
  | finish =>
    simp only [step, finish]
    split
    · exact ⟨[], by simp⟩
    · rename_i payload calls _
      obtain ⟨e, he⟩ := log_turn ({ v with calls }.record (.finished payload))
      exact ⟨[.finished payload, e], he.trans (by simp [record])⟩

theorem Accounted.push {maximum : ℕ} {frames done rest : List (ValidFrame maximum)} {v : Delivery}
    (h : Accounted frames v done rest) (chunk : Bytes) (hrefused : .refused ∉ (v.push chunk).log)
    (hpushed : Frame.pushed (v.push chunk).log <+: wire frames)
    (hquiet : v.calls = [] →
      ∀ f ∈ rest.head?, v.decoder.buffer.length < (f.bytes stateMagic).length) :
    ∃ done rest, Accounted frames (v.push chunk) done rest ∧ ((v.push chunk).calls = [] →
      ∀ f ∈ rest.head?, (v.push chunk).decoder.buffer.length < (f.bytes stateMagic).length) := by
  unfold Delivery.push at hrefused hpushed ⊢
  dsimp only at hrefused hpushed ⊢
  split_ifs at hrefused hpushed ⊢ with hempty hsize
  · have hbegan : Accounted frames (v.record (.began chunk)) done rest :=
      h.record (.began chunk) rfl (by simp [Frame.pushed, hempty]) (by simp) rfl
    exact ⟨done, rest, hbegan.record .returned rfl rfl (by simp) rfl, hquiet⟩
  · exact absurd (by simp [Delivery.record]) hrefused
  · -- the chunk joins the buffer before the first turn of the loop
    have hbegan : Accounted frames { v.record (.began chunk) with
        decoder := { v.decoder with buffer := v.decoder.buffer ++ chunk } } done rest := by
      refine ⟨h.maximum, h.split, ?_, ?_, ?_, ?_⟩
      · simp [Delivery.record, started_append, h.started, Frame.started]
      · simp [Delivery.record, pushed_append, h.pushed, Frame.pushed]
      · simp [Delivery.record, h.failed]
      · rw [Delivery.record, openCalls_append h.calls]
        cases v.calls <;> rfl
    apply hbegan.turn
    obtain ⟨e, he⟩ := log_turn { v.record (.began chunk) with
      decoder := { v.decoder with buffer := v.decoder.buffer ++ chunk } }
    refine List.IsPrefix.trans ?_ hpushed
    change _ <+: Frame.pushed (Delivery.turn { v.record (.began chunk) with
      decoder := { v.decoder with buffer := v.decoder.buffer ++ chunk } }).log
    rw [he, pushed_append]
    exact List.prefix_append _ _

theorem Accounted.finish {maximum : ℕ} {frames done rest : List (ValidFrame maximum)} {v : Delivery}
    (h : Accounted frames v done rest) (hpushed : Frame.pushed v.log <+: wire frames)
    (hquiet : v.calls = [] →
      ∀ f ∈ rest.head?, v.decoder.buffer.length < (f.bytes stateMagic).length) :
    ∃ done rest, Accounted frames v.finish done rest ∧ (v.finish.calls = [] →
      ∀ f ∈ rest.head?, v.finish.decoder.buffer.length < (f.bytes stateMagic).length) := by
  unfold Delivery.finish
  split
  · exact ⟨done, rest, h, hquiet⟩
  · rename_i payload calls hcalls
    have hfinished : Accounted frames ({ v with calls }.record (.finished payload)) done rest := by
      refine ⟨h.maximum, h.split, ?_, ?_, ?_, ?_⟩
      · simp [Delivery.record, started_append, h.started, Frame.started]
      · simp [Delivery.record, pushed_append, h.pushed, Frame.pushed]
      · simp [Delivery.record, h.failed]
      · simp [Delivery.record, openCalls_append h.calls, hcalls, openCalls]
    apply hfinished.turn
    simpa [Delivery.record, pushed_append, Frame.pushed] using hpushed

theorem Sound.step {maximum : ℕ} {frames : List (ValidFrame maximum)} {v : Delivery}
    (h : Sound frames v) (a : DeliveryAction) : Sound frames (v.step a) := by
  intro hrefused hpushed
  obtain ⟨log, hlog⟩ := log_step v a
  have hrefused' : .refused ∉ v.log := by
    rw [hlog] at hrefused
    exact fun hm => hrefused (List.mem_append_left _ hm)
  have hpushed' : Frame.pushed v.log <+: wire frames := by
    rw [hlog, pushed_append] at hpushed
    exact (List.prefix_append _ _).trans hpushed
  obtain ⟨done, rest, haccounted, hquiet⟩ := h hrefused' hpushed'
  cases a with
  | push chunk => exact haccounted.push chunk hrefused hpushed hquiet
  | finish => exact haccounted.finish hpushed' hquiet

theorem sound_start (maximum : SizeT) (frames : List (ValidFrame maximum.val)) :
    Sound frames (start maximum) := by
  intro _ _
  refine ⟨[], frames, ⟨rfl, rfl, rfl, rfl, by simp [start], rfl⟩, ?_⟩
  intro _ f _
  rw [ValidFrame.length_bytes]
  simp [start, headerSize]

/-- Whatever the callbacks push, and however deep: as long as no `Push` is refused for its size and
what is pushed begins a stream of valid frames, callbacks start with the frames of the stream in
order, once each and never with anything else; every callback ends with the payload it started
with; and when no callback is running, every frame that has come whole has been handed over. -/
theorem reentrant_delivery (maximum : SizeT) (actions : List DeliveryAction)
    (frames : List (ValidFrame maximum.val))
    (hrefused : .refused ∉ (run step (start maximum) actions).log)
    (hpushed : pushed (run step (start maximum) actions).log <+: wire frames) :
    let v := run step (start maximum) actions
    openCalls [] v.log = some v.calls ∧ .failed ∉ v.log ∧
    ∃ done rest part, frames = done ++ rest ∧ started v.log = done.map ValidFrame.payload ∧
      pushed v.log = wire done ++ part ∧
      (v.calls = [] → ∀ f ∈ rest.head?, part.length < (f.bytes stateMagic).length) := by
  have hsound := run_induction (P := Sound frames) (fun _ a h => h.step a)
    (sound_start maximum frames) actions
  obtain ⟨done, rest, h, hquiet⟩ := hsound hrefused hpushed
  exact ⟨h.calls, h.failed, done, rest, _, h.split, h.started, h.pushed, hquiet⟩

/-- What a drain of the buffer leaves in it. -/
def settled (d : SocketStateFrameDecoder) : SocketStateFrameDecoder :=
  match (frameFramer stateMagic d.maximumPayloadBytes.val).leftover d.buffer with
  | .ok rest => { d with buffer := rest }
  | .error _ => d.reset

/-- The loop, with callbacks that end at once: every frame in the buffer is handed over. -/
theorem run_finish (v : Delivery) (hcalls : v.calls = []) :
    ∃ n, (run step v.turn (List.replicate n .finish)).calls = [] ∧
      (run step v.turn (List.replicate n .finish)).decoder = settled v.decoder ∧
      started (run step v.turn (List.replicate n .finish)).log = started v.log ++
        (frameFramer stateMagic v.decoder.maximumPayloadBytes.val).frames v.decoder.buffer := by
  induction hn : v.decoder.buffer.length using Nat.strong_induction_on generalizing v with
  | _ n ih =>
    cases hcut :
      (frameFramer stateMagic v.decoder.maximumPayloadBytes.val).cut v.decoder.buffer with
    | more =>
      have hturn : v.turn = v.record .returned := by
        unfold turn
        rw [← frameFramer_cut, hcut]
      have hleft : (frameFramer stateMagic v.decoder.maximumPayloadBytes.val).leftover
          v.decoder.buffer = .ok v.decoder.buffer := by
        rw [Framer.leftover, Framer.drain_more _ hcut]
      refine ⟨0, ?_⟩
      rw [(Framer.drain_of_more hcut).2, hturn, settled, hleft]
      simp [record, hcalls, started_append, started]
    | fail e =>
      have hturn : v.turn = { v with decoder := v.decoder.reset }.record .failed := by
        unfold turn
        rw [← frameFramer_cut, hcut]
      have hleft : (frameFramer stateMagic v.decoder.maximumPayloadBytes.val).leftover
          v.decoder.buffer = .error e := by
        rw [Framer.leftover, Framer.drain_fail _ hcut]
      refine ⟨0, ?_⟩
      rw [(Framer.drain_of_fail hcut).2, hturn, settled, hleft]
      simp [record, hcalls, started_append, started]
    | frame payload rest =>
      have hturn : v.turn = { v with decoder := { v.decoder with buffer := rest }
                                     calls := payload :: v.calls }.record (.started payload) := by
        unfold turn
        rw [← frameFramer_cut, hcut]
      have hshorter : rest.length < n := hn ▸ (frameFramer stateMagic _).shrinks hcut
      obtain ⟨m, hcalls', hdecoder, hstarted⟩ := ih rest.length hshorter
        { decoder := { v.decoder with buffer := rest }, calls := []
          log := v.log ++ [.started payload, .finished payload] } rfl rfl
      have hfinish : v.turn.finish = turn
          { decoder := { v.decoder with buffer := rest }, calls := []
            log := v.log ++ [.started payload, .finished payload] } := by
        rw [hturn]
        simp [finish, record, hcalls]
      refine ⟨m + 1, ?_⟩
      rw [List.replicate_succ, run_cons, (Framer.drain_of_frame hcut).2]
      change (run step v.turn.finish _).calls = [] ∧ (run step v.turn.finish _).decoder = _ ∧
        started (run step v.turn.finish _).log = _
      rw [hfinish]
      refine ⟨hcalls', ?_, ?_⟩
      · rw [hdecoder, settled, settled, Framer.leftover_of_frame hcut]
        rfl
      · rw [hstarted]
        simp [started_append, started]

/-- A `Push` into which no callback pushes does what the decoder's own `push` does. -/
theorem plain_delivery (d : SocketStateFrameDecoder) (chunk : Bytes) (log : List PushEvent) :
    ∃ n, let v := run step ⟨d, [], log⟩ (.push chunk :: List.replicate n .finish)
      v.calls = [] ∧ v.decoder = (d.push (fun p ps => ps ++ [p]) chunk []).2.1 ∧
        started v.log = started log ++ d.payloads chunk := by
  by_cases hempty : chunk = []
  · refine ⟨0, ?_⟩
    simp [step, push, record, hempty, SocketStateFrameDecoder.payloads,
      SocketStateFrameDecoder.push, started_append, started]
  · by_cases hfits : SocketStateFrameDecoder.fits d.maximumPayloadBytes d.buffer.length
        chunk.length = true
    · obtain ⟨n, hcalls, hdecoder, hstarted⟩ := run_finish
        { decoder := { d with buffer := d.buffer ++ chunk }, log := log ++ [.began chunk] } rfl
      have hpush : step ⟨d, [], log⟩ (.push chunk) = turn
          { decoder := { d with buffer := d.buffer ++ chunk }, log := log ++ [.began chunk] } := by
        simp [step, push, record, hempty, hfits]
      refine ⟨n, ?_⟩
      dsimp only
      rw [run_cons, hpush]
      refine ⟨hcalls, ?_, ?_⟩
      · rw [hdecoder, settled]
        simp only [SocketStateFrameDecoder.push, hempty, if_false, Framer.feed_eq_report hfits,
          Framer.drain_leftover]
        cases Framer.leftover _ (d.buffer ++ chunk) <;> rfl
      · rw [hstarted, SocketStateFrameDecoder.payloads]
        simp only [SocketStateFrameDecoder.push, hempty, if_false, Framer.feed_eq_report hfits,
          Framer.report_state, started_append]
        simp [started, Framer.frames]
    · refine ⟨0, ?_⟩
      simp [step, push, record, hempty, hfits, SocketStateFrameDecoder.payloads,
        SocketStateFrameDecoder.push, Framer.feed, started_append, started,
        SocketStateFrameDecoder.reset]

end Delivery

namespace Delivery

def oneByteFrame (b : UInt8) : ValidFrame 64 where
  reserved := [0, 0, 0]
  payload := [b]
  length_reserved := rfl
  fits := ⟨by simp, by simp, by simp⟩

/-- The first frame and half of the second; then, from the callback of the first, the other half
and the third. -/
def nestedPush : List DeliveryAction :=
  [.push (wire [oneByteFrame 0x11] ++ (wire [oneByteFrame 0x22]).take 7),
    .push ((wire [oneByteFrame 0x22]).drop 7 ++ wire [oneByteFrame 0x33]),
    .finish, .finish, .finish]

theorem reentrant_delivery_nested :
    letI := SizeWidth.esp32
    let v := run step (start 64) nestedPush
    (started v.log = [[0x11], [0x22], [0x33]] ∧ v.calls = []) ∧ openCalls [] v.log = some v.calls ∧
      ∃ done rest part, [oneByteFrame 0x11, oneByteFrame 0x22, oneByteFrame 0x33] = done ++ rest ∧
        started v.log = done.map ValidFrame.payload ∧ pushed v.log = wire done ++ part ∧
        (v.calls = [] → ∀ f ∈ rest.head?, part.length < (f.bytes stateMagic).length) := by
  let _ := SizeWidth.esp32
  have hrefused : .refused ∉ (run step (start 64) nestedPush).log := by decide
  have hpushed : pushed (run step (start 64) nestedPush).log <+:
      wire [oneByteFrame 0x11, oneByteFrame 0x22, oneByteFrame 0x33] := by
    rw [← List.isPrefixOf_iff_prefix]
    decide
  have hdelivery := reentrant_delivery 64 nestedPush
    [oneByteFrame 0x11, oneByteFrame 0x22, oneByteFrame 0x33] hrefused hpushed
  exact ⟨by decide, hdelivery.1, hdelivery.2.2⟩

end Delivery
end Sockets.Frame
