import Sockets.Foundation.Reentrant
import Sockets.Security.Latch

/-! `Feed` and `Reset` when the callbacks and observers of a session call them again. -/
namespace Sockets.Security
open Foundation

variable (H : SecurityHost)

/-- The calls a session makes while it is fed or reset. -/
inductive SecurityQuery where
  | unprotect (frame : UInt8 × Bytes)
  | receive (opened : H.UnprotectedPayload)
  | failure (result : H.SecurityResult)
  | faulted (result : H.SecurityResult)
  | wasReset

@[reducible] def SecurityQuery.Answer : SecurityQuery H → Type
  | .unprotect _ => H.SecurityResult × H.UnprotectedPayload
  | _ => Unit

inductive SecurityEntry where
  | feed (data : Bytes)
  | reset

/-- Where `Feed` goes on: the top of its loop. -/
inductive FeedLabel where
  | loop

/-- The bytes that were appended to the buffer between two times it was cleared, and the frames that
were passed to `Unprotect` in that time. -/
structure Stretch where
  stream : Bytes := []
  opened : List (UInt8 × Bytes) := []

/-- A session and what happened to it: `processing` holds the frames whose `ProcessEnvelope` has not
returned, the innermost first, and `erased`, for each erase after it, the bytes of the frame and the
bytes that were removed. -/
structure FeedState [SizeWidth] where
  session : SocketSecuritySession
  past : List Stretch := []
  current : Stretch := {}
  processing : List (UInt8 × Bytes) := []
  erased : List (Bytes × Bytes) := []

/-- The bytes of these frames. -/
def envelopes (frames : List (UInt8 × Bytes)) : Bytes := (frames.map encodeEnvelope).flatten

/-- The frames that were passed on are those at the beginning of the stream. -/
def Stretch.Begun (a : Stretch) : Prop := ∃ part, a.stream = envelopes a.opened ++ part

variable [SizeWidth]

/-- The frames that were passed on are all the complete frames of the stream, in order and once
each. -/
def Stretch.Whole (maximum : ℕ) (a : Stretch) : Prop :=
  ∃ part, a.stream = envelopes a.opened ++ part ∧
    ∀ frame rest, cutEnvelope maximum part ≠ .frame frame rest

namespace FeedState

def maximum (s : FeedState) : ℕ := s.session.maximumProtectedFrameBytes.val

/-- The buffer begins with an accepted length that takes `5 + length` past `std::size_t`. -/
def overruns (s : FeedState) : Bool :=
  match cutEnvelope s.maximum s.session.buffer with
  | .fail .outOfBounds => true
  | _ => false

/-- `_buffer.insert(_buffer.end(), data, data + size)`. -/
def append (data : Bytes) (s : FeedState) : FeedState :=
  { s with session := { s.session with buffer := s.session.buffer ++ data }
           current := { s.current with stream := s.current.stream ++ data } }

/-- `_buffer.clear()`, with what `_discarding` becomes. -/
def clear (discarding : Bool) (s : FeedState) : FeedState :=
  { s with session := { s.session with buffer := [], discarding }
           past := s.past ++ [s.current], current := {} }

/-- A frame goes to `ProcessEnvelope`. -/
def start (frame : UInt8 × Bytes) (s : FeedState) : FeedState :=
  { s with current := { s.current with opened := s.current.opened ++ [frame] }
           processing := frame :: s.processing }

/-- `_buffer.erase(_buffer.begin(), _buffer.begin() + 5 + length)`. -/
def erase (frame : UInt8 × Bytes) (s : FeedState) : FeedState :=
  let frameSize := prefixSize + frame.2.length
  { s with session := { s.session with buffer := s.session.buffer.drop frameSize }
           processing := s.processing.tail
           erased := s.erased ++ [(encodeEnvelope frame, s.session.buffer.take frameSize)] }

end FeedState

abbrev SecurityCode (R : Type) := Code FeedState (SecurityQuery H) (SecurityQuery.Answer H) R

variable {H}

/-- A callback that may be empty, or the observers. -/
def notify (present : Bool) (q : SecurityQuery H) : SecurityCode H PUnit :=
  if present then Code.ask q >>= fun _ => pure ⟨⟩ else pure ⟨⟩

def publishFailureCode (failure : H.SecurityResult) : SecurityCode H PUnit := do
  let s ← Code.get
  notify s.session.failure (.failure failure)
  notify true (.faulted failure)

def processEnvelopeCode (frame : UInt8 × Bytes) : SecurityCode H PUnit := do
  Code.modify (FeedState.start frame)
  let r : H.SecurityResult × H.UnprotectedPayload ← Code.ask (SecurityQuery.unprotect frame)
  if !H.success r.1 then publishFailureCode r.1
  else
    let s ← Code.get
    notify s.session.receive (.receive r.2)

/-- `Feed` up to its loop. -/
def feedCode (data : Bytes) : SecurityCode H (Exit FeedLabel Bool) := do
  let s ← Code.get
  if s.session.discarding then pure (.ret false)
  else
    Code.set (s.append data)
    pure (.goto .loop)

/-- One turn of the loop of `Feed`. -/
def feedLoop : SecurityCode H (Exit FeedLabel Bool) := do
  let s ← Code.get
  match cutEnvelope s.maximum s.session.buffer with
  | .more => pure (.ret true)
  | .fail .invalidLength =>
    Code.set (s.clear true)
    publishFailureCode (H.fail .bufferLimitExceeded invalidLength)
    pure (.ret false)
  | .fail .outOfBounds => Code.fault
  | .frame frame _ =>
    processEnvelopeCode frame
    let s ← Code.get
    -- an erase beyond the buffer is undefined
    if s.session.buffer.length < prefixSize + frame.2.length then Code.fault
    else
      Code.set (s.erase frame)
      pure (.goto .loop)

def resetCode : SecurityCode H (Exit FeedLabel Bool) := do
  Code.modify (FeedState.clear false)
  notify true .wasReset
  pure (.ret true)

variable (H) in
def feedProgram : Program FeedState (SecurityQuery H) (SecurityQuery.Answer H) FeedLabel Bool
    SecurityEntry where
  entry
    | .feed data => feedCode data
    | .reset => resetCode
  body
    | .loop => feedLoop

/-- A complete frame at the front is the encoding of what is cut. -/
theorem cutEnvelope_eq {maximum : ℕ} {bs : Bytes} {frame : UInt8 × Bytes} {rest : Bytes}
    (h : cutEnvelope maximum bs = .frame frame rest) : bs = encodeEnvelope frame ++ rest := by
  have hcut := h
  unfold cutEnvelope at h
  rw [← lengthField] at h
  dsimp only at h
  split_ifs at h with h1 h2 h3 h4
  obtain ⟨hpos, hmax⟩ := not_or.mp h2
  have hwhole : prefixSize + lengthField bs ≤ bs.length := by omega
  obtain ⟨frame', rest', hbs, hframe, hlength⟩ :=
    exists_acceptable (not_lt.mp h1) hpos (not_lt.mp hmax) hwhole
  have hlt : sizeAdd prefixSize (lengthField bs) < 2 ^ SizeWidth.bits :=
    Nat.mod_lt _ (Nat.two_pow_pos _)
  have hsum : prefixSize + frame'.2.length < 2 ^ SizeWidth.bits := by omega
  have hcut' := cut_encodeEnvelope hframe.nonempty hframe.le_maximum hframe.lt_uint32 hsum rest'
  rw [← hbs, hcut] at hcut'
  obtain ⟨rfl, rfl⟩ : frame = frame' ∧ rest = rest' := by simpa using hcut'
  exact hbs

/-- No complete frame is at the front of the buffer. -/
def NoFrame (maximum : ℕ) (bs : Bytes) : Prop :=
  ∀ frame rest, cutEnvelope maximum bs ≠ .frame frame rest

namespace FeedState

/-- Every frame went to `Unprotect` once and in order, as far as it has come, and every erase removed
the bytes of its frame. -/
structure Accounted (s : FeedState) : Prop where
  past : ∀ a ∈ s.past, a.Whole s.maximum
  current : s.current.Begun
  erased : ∀ e ∈ s.erased, e.1 = e.2

/-- The frames passed on since the buffer was cleared, and the buffer, are the stream. -/
structure Level (s : FeedState) : Prop extends Accounted s where
  stream : s.current.stream = envelopes s.current.opened ++ s.session.buffer
  processing : s.processing = []

/-- A session that can be fed or reset. -/
structure Idle (s : FeedState) : Prop extends Level s where
  buffer : NoFrame s.maximum s.session.buffer

end FeedState

/-- Callbacks may call when no frame is being processed; a frame that is being processed finds the
session as it left it. -/
def feedTerms : Discipline FeedState FeedLabel SecurityEntry where
  permits _ s := s.processing = []
  admits _ s := s.overruns = false
  always := FeedState.Accounted
  rest s := s.Accounted ∧ (s.processing = [] → s.Idle)
  rely s s' := s'.processing = s.processing ∧ (s.processing ≠ [] → s' = s)
  loop _ s₀ s := s₀.processing = [] ∧ s.Level

theorem feed_trans {s s' s'' : FeedState} (h : feedTerms.rely s s') (h' : feedTerms.rely s' s'') :
    feedTerms.rely s s'' := by
  refine ⟨h'.1.trans h.1, fun hbusy => ?_⟩
  obtain rfl := h.2 hbusy
  exact h'.2 hbusy

section Keeps
open Discipline
variable {s : FeedState}

/-- A notification leaves what its caller relies on. -/
theorem notify_keeps (h : feedTerms.rest s) (present : Bool) (q : SecurityQuery H) :
    feedTerms.Keeps (fun _ s' => feedTerms.rest s' ∧ feedTerms.rely s s') (notify present q) s := by
  unfold notify
  split_ifs
  · rw [keeps_ask]
    exact ⟨h, fun _ s' hrely hrest => ⟨hrest, hrely⟩⟩
  · exact ⟨h, rfl, fun _ => rfl⟩

theorem publishFailure_keeps (h : feedTerms.rest s) (failure : H.SecurityResult) :
    feedTerms.Keeps (fun _ s' => feedTerms.rest s' ∧ feedTerms.rely s s')
      (publishFailureCode failure) s := by
  unfold publishFailureCode
  rw [keeps_get]
  apply Keeps.bind
  refine (notify_keeps h _ _).mono fun _ s' hs' => ?_
  refine (notify_keeps hs'.1 true _).mono fun _ s'' hs'' => ⟨hs''.1, ?_⟩
  exact feed_trans hs'.2 hs''.2

/-- While a frame is being processed nothing changes. -/
theorem processEnvelope_keeps {frame : UInt8 × Bytes}
    (h : (s.start frame).Accounted) :
    feedTerms.Keeps (fun _ s' => s' = s.start frame) (processEnvelopeCode (H := H) frame) s := by
  have hbusy : (s.start frame).processing ≠ [] := List.cons_ne_nil _ _
  have hrest : feedTerms.rest (s.start frame) := ⟨h, fun hnone => absurd hnone hbusy⟩
  unfold processEnvelopeCode
  rw [keeps_modify]
  refine ⟨h, ?_⟩
  rw [keeps_ask]
  refine ⟨hrest, fun r s' hrely _ => ?_⟩
  obtain rfl := hrely.2 hbusy
  split_ifs
  · exact (publishFailure_keeps hrest r.1).mono fun _ s'' hs'' => hs''.2.2 hbusy
  · rw [keeps_get]
    exact (notify_keeps hrest _ _).mono fun _ s'' hs'' => hs''.2.2 hbusy

theorem feed_keeps (h : feedTerms.rest s) (hpermits : s.processing = []) (data : Bytes) :
    feedTerms.Keeps (feedTerms.Ends s) (feedCode (H := H) data) s := by
  have hidle := h.2 hpermits
  unfold feedCode
  rw [keeps_get]
  split_ifs
  · exact ⟨h, rfl, fun _ => rfl⟩
  · have hlevel : (s.append data).Level :=
      { past := hidle.past
        current := ⟨s.session.buffer ++ data, by
          simp only [FeedState.append, hidle.stream, List.append_assoc]⟩
        erased := hidle.erased
        stream := by simp only [FeedState.append, hidle.stream, List.append_assoc]
        processing := hidle.processing }
    exact ⟨hlevel.toAccounted, hpermits, hlevel⟩

/-- The buffer is cleared where it holds no complete frame. -/
theorem clear_idle (h : s.Idle) (discarding : Bool) : (s.clear discarding).Idle where
  past a ha := by
    rcases List.mem_append.mp ha with ha | ha
    · exact h.past a ha
    · rw [List.mem_singleton.mp ha]
      exact ⟨s.session.buffer, h.stream, h.buffer⟩
  current := ⟨[], rfl⟩
  erased := h.erased
  stream := rfl
  processing := h.processing
  buffer := fun frame rest => by simp [FeedState.clear, cutEnvelope, prefixSize]

theorem reset_keeps (h : feedTerms.rest s) (hpermits : s.processing = []) :
    feedTerms.Keeps (feedTerms.Ends s) (resetCode (H := H)) s := by
  have hidle := clear_idle (h.2 hpermits) false
  unfold resetCode
  rw [keeps_modify]
  refine ⟨hidle.toAccounted, ?_⟩
  apply Keeps.bind
  refine (notify_keeps ⟨hidle.toAccounted, fun _ => hidle⟩ true .wasReset).mono fun _ s' hs' => ?_
  exact ⟨hs'.1, hs'.2.1, fun hbusy => absurd hpermits hbusy⟩

theorem loop_keeps {s₀ : FeedState} (hs₀ : s₀.processing = []) (hsafe : s.overruns = false)
    (h : s.Level) :
    feedTerms.Keeps (feedTerms.Ends s₀) (feedLoop (H := H)) s := by
  have hrely {s' : FeedState} (hs' : s'.processing = []) : feedTerms.rely s₀ s' :=
    ⟨hs'.trans hs₀.symm, fun hbusy => absurd hs₀ hbusy⟩
  unfold feedLoop
  rw [keeps_get]
  cases hcut : cutEnvelope s.maximum s.session.buffer with
  | more =>
    have hidle : s.Idle := { h with buffer := fun frame rest => by rw [hcut]; simp }
    exact ⟨⟨h.toAccounted, fun _ => hidle⟩, hrely h.processing⟩
  | fail e =>
    cases e with
    | outOfBounds =>
      have hoverruns : s.overruns = true := by rw [FeedState.overruns, hcut]
      exact absurd (hoverruns.symm.trans hsafe) (by decide)
    | invalidLength =>
      have hidle : s.Idle := { h with buffer := fun frame rest => by rw [hcut]; simp }
      have hcleared := clear_idle hidle true
      dsimp only
      rw [keeps_set]
      refine ⟨hcleared.toAccounted, ?_⟩
      apply Keeps.bind
      refine (publishFailure_keeps ⟨hcleared.toAccounted, fun _ => hcleared⟩ _).mono
        fun _ s' hs' => ?_
      exact ⟨hs'.1, hrely (hs'.2.1.trans hcleared.processing)⟩
  | frame frame rest =>
    have hbuffer := cutEnvelope_eq hcut
    have hstarted : (s.start frame).Accounted :=
      { past := h.past
        current := ⟨rest, by simp [FeedState.start, h.stream, hbuffer, envelopes]⟩
        erased := h.erased }
    apply Keeps.bind
    refine (processEnvelope_keeps hstarted).mono fun _ s' hs' => ?_
    subst hs'
    rw [keeps_get]
    have hsize : (encodeEnvelope frame).length = prefixSize + frame.2.length :=
      length_encodeEnvelope frame
    have henough : ¬ (s.start frame).session.buffer.length < prefixSize + frame.2.length := by
      change ¬ s.session.buffer.length < _
      rw [hbuffer, List.length_append, hsize]
      omega
    rw [if_neg henough]
    have hlevel : ((s.start frame).erase frame).Level :=
      { past := h.past
        current := hstarted.current
        erased := by
          intro e he
          rcases List.mem_append.mp he with he | he
          · exact h.erased e he
          · rw [List.mem_singleton.mp he]
            change encodeEnvelope frame = s.session.buffer.take _
            rw [hbuffer, ← hsize, List.take_left]
        stream := by
          change s.current.stream = envelopes (s.current.opened ++ [frame]) ++
            s.session.buffer.drop _
          rw [h.stream, hbuffer, ← hsize, List.drop_left]
          simp [envelopes]
        processing := by
          change (frame :: s.processing).tail = []
          rw [h.processing]
          rfl }
    exact ⟨hlevel.toAccounted, hs₀, hlevel⟩

end Keeps

variable (H) in
theorem feed_sound : feedTerms.Sound (feedProgram H) where
  refl _ := ⟨rfl, fun _ => rfl⟩
  trans := feed_trans
  entry e s hpermits hrest := by
    cases e with
    | feed data => exact feed_keeps hrest hpermits data
    | reset => exact reset_keeps hrest hpermits
  body l s₀ s hsafe h := loop_keeps h.1 hsafe h.2

section Returns
variable {H : SecurityHost}

/-- What the host makes of the calls of a session. -/
def hostAnswer : (q : SecurityQuery H) → Exterior H → q.Answer × Exterior H
  | .unprotect frame, x =>
    let r := H.unprotect frame.1 frame.2 x.world
    (r.1, { world := r.2, log := x.log ++ [.unprotected frame.1 frame.2 r.1.1 r.1.2] })
  | .receive opened, x =>
    ((), { world := H.receive opened x.world, log := x.log ++ [.received opened] })
  | .failure result, x =>
    ((), { world := H.failure result x.world, log := x.log ++ [.failed result] })
  | .faulted result, x =>
    ((), { world := H.faulted result x.world, log := x.log ++ [.faulted result] })
  | .wasReset, x => ((), { x with log := x.log ++ [.wasReset] })

theorem notify_eval (present : Bool) (q : SecurityQuery H) (s : FeedState) (x : Exterior H) :
    (notify present q).eval hostAnswer s x =
      some (⟨⟩, s, if present then (hostAnswer q x).2 else x) := by
  cases present <;> rfl

theorem publishFailure_eval (failure : H.SecurityResult) (s : FeedState) (x : Exterior H) :
    (publishFailureCode failure).eval hostAnswer s x =
      some (⟨⟩, s, publishFailure s.session failure x) := by
  unfold publishFailureCode publishFailure
  rw [Code.eval_get, Code.eval_bind, notify_eval, Option.bind_some, notify_eval]
  cases s.session.failure <;> rfl

theorem processEnvelope_eval (frame : UInt8 × Bytes) (s : FeedState) (x : Exterior H) :
    (processEnvelopeCode frame).eval hostAnswer s x =
      some (⟨⟩, s.start frame, processEnvelope s.session frame x) := by
  unfold processEnvelopeCode processEnvelope
  rw [Code.eval_modify, Code.eval_ask]
  by_cases hsuccess : H.success (H.unprotect frame.1 frame.2 x.world).1.1 = true
  · simp only [hostAnswer, hsuccess, Bool.not_true, Bool.false_eq_true, if_false, if_true,
      Code.eval_get, notify_eval]
    cases hreceive : s.session.receive <;> simp [FeedState.start, hreceive]
  · simp only [hostAnswer, hsuccess, Bool.not_false, Bool.false_eq_true, if_false, if_true]
    exact publishFailure_eval _ _ _

/-- The loop of `Feed` comes to what a drain of the buffer came to. -/
def LoopReturns (session : SocketSecuritySession) (s : FeedState) (x : Exterior H) :
    Except FeedError Bytes × Exterior H → Prop
  | (.ok rest, y) => ∃ s', s'.session = { session with buffer := rest } ∧
      Returns (feedProgram H) hostAnswer feedLoop s x true s' y
  | (.error .invalidLength, y) =>
      ∃ s', s'.session = { session with buffer := [], discarding := true } ∧
        Returns (feedProgram H) hostAnswer feedLoop s x false s'
          (publishFailure session (H.fail .bufferLimitExceeded invalidLength) y)
  | (.error .outOfBounds, _) => True

/-- A turn of the loop in front of the rest of it. -/
theorem LoopReturns.cons {session : SocketSecuritySession} {s s' : FeedState} {x x' : Exterior H}
    (heval : (feedLoop (H := H)).eval hostAnswer s x = some (.goto .loop, s', x'))
    {r : Except FeedError Bytes × Exterior H} (h : LoopReturns session s' x' r) :
    LoopReturns session s x r := by
  match r, h with
  | (.ok rest, y), ⟨t, ht, hreturns⟩ => exact ⟨t, ht, .goto heval hreturns⟩
  | (.error .invalidLength, y), ⟨t, ht, hreturns⟩ => exact ⟨t, ht, .goto heval hreturns⟩
  | (.error .outOfBounds, y), _ => trivial

theorem loop_returns (s : FeedState) (x : Exterior H) :
    LoopReturns s.session s x
      ((envelopeFramer s.maximum).drain (processEnvelope s.session) s.session.buffer x) := by
  induction hn : s.session.buffer.length using Nat.strong_induction_on generalizing s x with
  | _ n ih =>
  cases hcut : (envelopeFramer s.maximum).cut s.session.buffer with
  | more =>
    rw [Framer.drain_more _ hcut]
    refine ⟨s, rfl, .ret ?_⟩
    rw [envelopeFramer_cut] at hcut
    rw [feedLoop, Code.eval_get, hcut]
    rfl
  | fail e =>
    rw [Framer.drain_fail _ hcut]
    cases e with
    | outOfBounds => trivial
    | invalidLength =>
      refine ⟨s.clear true, rfl, .ret ?_⟩
      rw [envelopeFramer_cut] at hcut
      rw [feedLoop, Code.eval_get, hcut]
      dsimp only
      rw [Code.eval_set, Code.eval_bind, publishFailure_eval]
      rfl
  | frame frame rest =>
    rw [Framer.drain_frame _ hcut]
    have hbuffer := cutEnvelope_eq hcut
    have hsize : (encodeEnvelope frame).length = prefixSize + frame.2.length :=
      length_encodeEnvelope frame
    have henough : ¬ (s.start frame).session.buffer.length < prefixSize + frame.2.length := by
      change ¬ s.session.buffer.length < _
      rw [hbuffer, List.length_append, hsize]
      omega
    have hrest : s.session.buffer.drop (prefixSize + frame.2.length) = rest := by
      rw [hbuffer, ← hsize, List.drop_left]
    have heval : (feedLoop (H := H)).eval hostAnswer s x =
        some (.goto .loop, (s.start frame).erase frame, processEnvelope s.session frame x) := by
      rw [envelopeFramer_cut] at hcut
      rw [feedLoop, Code.eval_get, hcut]
      dsimp only
      rw [Code.eval_bind, processEnvelope_eval, Option.bind_some, Code.eval_get, if_neg henough]
      rfl
    have hshorter : rest.length < n := hn ▸ (envelopeFramer s.maximum).shrinks hcut
    have hloop := ih rest.length hshorter ((s.start frame).erase frame)
      (processEnvelope s.session frame x) (congrArg List.length hrest)
    have hsession : ((s.start frame).erase frame).session = { s.session with buffer := rest } := by
      rw [← hrest]
      rfl
    rw [hsession] at hloop
    exact LoopReturns.cons heval hloop

/-- A `Feed` that is not entered again does what `feed` does. -/
theorem feed_returns (data : Bytes) (s : FeedState) (x y : Exterior H) {accepted : Bool}
    {session : SocketSecuritySession} (h : feed data s.session x = (some accepted, session, y)) :
    ∃ s', s'.session = session ∧
      Returns (feedProgram H) hostAnswer (feedCode data) s x accepted s' y := by
  unfold feed at h
  by_cases hdiscarding : s.session.discarding = true
  · rw [if_pos hdiscarding] at h
    obtain ⟨rfl, rfl, rfl⟩ : false = accepted ∧ s.session = session ∧ x = y := by
      simpa using h
    exact ⟨s, rfl, .ret (by rw [feedCode, Code.eval_get, if_pos hdiscarding]; rfl)⟩
  · rw [if_neg hdiscarding] at h
    have heval : (feedCode (H := H) data).eval hostAnswer s x =
        some (.goto .loop, s.append data, x) := by
      rw [feedCode, Code.eval_get, if_neg hdiscarding]
      rfl
    have hloop : LoopReturns s.session (s.append data) x
        ((envelopeFramer s.maximum).drain (processEnvelope s.session) (s.session.buffer ++ data)
          x) := loop_returns (s.append data) x
    match hdrain : (envelopeFramer s.maximum).drain (processEnvelope s.session)
        (s.session.buffer ++ data) x, hloop with
    | (.ok rest, z), ⟨s', hs', hreturns⟩ =>
      rw [← FeedState.maximum, hdrain] at h
      obtain ⟨rfl, rfl, rfl⟩ : true = accepted ∧ _ = session ∧ z = y := by simpa using h
      exact ⟨s', hs', .goto heval hreturns⟩
    | (.error .invalidLength, z), ⟨s', hs', hreturns⟩ =>
      rw [← FeedState.maximum, hdrain] at h
      obtain ⟨rfl, rfl, rfl⟩ : false = accepted ∧ _ = session ∧ _ = y := by simpa using h
      exact ⟨s', hs', .goto heval hreturns⟩
    | (.error .outOfBounds, z), _ =>
      rw [← FeedState.maximum, hdrain] at h
      simp at h

end Returns

section Runs
variable {H : SecurityHost}

/-- A session, the routines of it that have not returned, and what happened to it. -/
abbrev FeedMachine (H : SecurityHost) :=
  Machine FeedState (SecurityQuery H) (SecurityQuery.Answer H) FeedLabel Bool

abbrev FeedTurn (H : SecurityHost) := Turn SecurityEntry (SecurityQuery.Answer H)

/-- `Feed` and `Reset` are called while no frame is being processed, and the loop of `Feed` finds no
length that is accepted and takes `5 + length` past `std::size_t`. -/
def Harmless (m : FeedMachine H) : FeedTurn H → Prop
  | .enter _ => m.waits = true → m.state.processing = []
  | .answer _ => True
  | .proceed => ∀ l ∈ m.label, m.state.overruns = false

instance (m : FeedMachine H) : ∀ t, Decidable (Harmless m t)
  | .enter _ => inferInstanceAs (Decidable (_ → _))
  | .answer _ => isTrue trivial
  | .proceed => inferInstanceAs (Decidable (∀ _ ∈ _, _))

/-- Complete frames go to `Unprotect` once and in order, and what is erased for a frame is the frame,
which is there. -/
structure FramesOnce (m : FeedMachine H) : Prop where
  fault : m.fault = false
  past : ∀ a ∈ m.state.past, a.Whole m.state.maximum
  current : m.state.current.Begun
  quiet : m.stack = [] → m.state.current.Whole m.state.maximum
  erased : ∀ e ∈ m.state.erased, e.1 = e.2

theorem framesOnce_of_settled {base : FeedState} (hbase : base.processing = [])
    {m : FeedMachine H} (h : feedTerms.Settled base m) : FramesOnce m where
  fault := h.fault
  past := h.always.past
  current := h.always.current
  quiet hstack := by
    have hrest := h.stack
    rw [hstack] at hrest
    have hidle := hrest.1.2 (hrest.2.1.trans hbase)
    exact ⟨_, hidle.stream, hidle.buffer⟩
  erased := h.always.erased

/-- Whatever the callbacks and observers do: as long as none of them calls `Feed` or `Reset` while a
frame is being processed, every complete frame goes to `Unprotect` once, and is what is erased. -/
theorem feed_reentrant (s : SocketSecuritySession) (turns : List (FeedTurn H))
    (h : Meets (Machine.step (feedProgram H)) Harmless { state := { session := fresh s } } turns) :
    FramesOnce (run (Machine.step (feedProgram H)) { state := { session := fresh s } } turns) := by
  have hidle : FeedState.Idle { session := fresh s } :=
    { past := by simp
      current := ⟨[], rfl⟩
      erased := by simp
      stream := rfl
      processing := rfl
      buffer := fun frame rest => by simp [fresh, cutEnvelope, prefixSize] }
  have hstart : feedTerms.Settled { session := fresh s }
      ({ state := { session := fresh s } } : FeedMachine H) :=
    Discipline.settled_start (feed_sound H) hidle.toAccounted ⟨hidle.toAccounted, fun _ => hidle⟩
  have hturns : Meets (Machine.step (feedProgram H)) feedTerms.Allows
      { state := { session := fresh s } } turns := by
    refine h.mono fun m t ht => ?_
    cases t <;> exact ht
  exact framesOnce_of_settled rfl (hstart.run (feed_sound H) hturns)

end Runs

section Examples

/-- Every call is answered, `Unprotect` in this way. -/
def reply (success : Bool) : (q : SecurityQuery plainHost) → q.Answer
  | .unprotect frame => (success, frame)
  | .receive _ | .failure _ | .faulted _ | .wasReset => ()

/-- The routines go on until the next call, which is answered. -/
def onward (success : Bool) : List (FeedTurn plainHost) :=
  List.replicate 7 .proceed ++ [.answer (reply success)]

/-- The observers of a `Reset` feed two frames. -/
def feedFromReset : List (FeedTurn plainHost) :=
  .enter .reset :: (List.replicate 2 .proceed ++
    .enter (.feed (envelopes [(7, [1]), (8, [2])])) :: (List.replicate 5 (onward true)).flatten)

omit [SizeWidth] in
theorem feed_reentrant_reset :
    letI := SizeWidth.esp32
    let s : SocketSecuritySession :=
      { writer := true, receive := true, failure := true, maximumProtectedFrameBytes := 64 }
    let m := run (Machine.step (feedProgram plainHost)) { state := { session := fresh s } }
      feedFromReset
    FramesOnce m ∧ m.state.current.opened = [(7, [1]), (8, [2])] := by
  exact ⟨@feed_reentrant SizeWidth.esp32 plainHost _ feedFromReset (by decide +kernel),
    by decide +kernel⟩

omit [SizeWidth] in
/-- The receive callback feeds nothing: its frame goes to `Unprotect` again. The failure callback
resets the session: more is erased than is left in the buffer. -/
theorem feed_reentered :
    letI := SizeWidth.esp32
    let s : SocketSecuritySession :=
      { writer := true, receive := true, failure := true, maximumProtectedFrameBytes := 64 }
    let m : FeedMachine plainHost := { state := { session := fresh s } }
    let fed := run (Machine.step (feedProgram plainHost)) m
      (.enter (.feed (encodeEnvelope (7, [1]))) :: onward true ++
        (.proceed :: .enter (.feed []) :: List.replicate 7 .proceed))
    let wasReset := run (Machine.step (feedProgram plainHost)) m
      (.enter (.feed (encodeEnvelope (7, [1]))) :: onward false ++
        (.proceed :: .enter .reset :: (List.replicate 4 (onward false)).flatten))
    (fed.state.current.opened = [(7, [1]), (7, [1])] ∧ ¬ FramesOnce fed) ∧
      wasReset.fault = true ∧ ¬ FramesOnce wasReset := by
  let := SizeWidth.esp32
  refine ⟨⟨by decide +kernel, fun h => ?_⟩, by decide +kernel, fun h => ?_⟩
  · obtain ⟨part, hpart⟩ := h.current
    have hlength := congrArg List.length hpart
    rw [List.length_append] at hlength
    have hstream : 6 = 12 + part.length := hlength
    omega
  · exact absurd h.fault (by decide +kernel)

end Examples
end Sockets.Security
