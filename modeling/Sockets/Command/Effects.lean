import Sockets.Command.Session

/-! What a session does to the world outside it: it calls its handlers, and what it writes are
responses. -/
namespace Sockets.Command
open Foundation

variable {Value : Type} [CommandLibrary Value] {H : CommandHost Value}

/-- A response line, or the frame of a response. -/
def IsResponse (bytes : Bytes) : Prop :=
  (∃ result, bytes = lineResponse result) ∨
    ∃ response, bytes = responseFrame response ∧ bytes ≠ []

/-- What every call of a session keeps. -/
structure Preserves (H : CommandHost Value) (P : H.World → Prop) : Prop where
  policy : ∀ policy context w, P w → P (H.policy policy context w).2
  invoke : ∀ registry invocation w, P w → P (H.invoke registry invocation w).2
  invokeLine : ∀ registry line w, P w → P (H.invokeLine registry line w).2
  observe : ∀ observer context result w, P w → P (H.observe observer context result w)
  write : ∀ writer bytes w, IsResponse bytes → P w → P (H.write writer bytes w).2

variable {P : H.World → Prop}

namespace Exterior

@[simp] theorem record_world (x : Exterior H) (e : CommandEvent H) :
    (x.record e).world = x.world := rfl

theorem observe_preserves (hP : Preserves H P) {x : Exterior H} (hx : P x.world)
    (observer : Option H.Observer) (context : SocketCommandInvocationContext Value)
    (result : CommandResult) : P (x.observe observer context result).world := by
  cases observer with
  | none => exact hx
  | some observer => exact hP.observe observer context result x.world hx

theorem write_preserves (hP : Preserves H P) {x : Exterior H} (hx : P x.world)
    (writer : Option H.Writer) {bytes : Bytes} (hb : IsResponse bytes) :
    P (x.write writer bytes).2.world := by
  cases writer with
  | none => exact hx
  | some writer => exact hP.write writer bytes x.world hb hx

end Exterior

namespace SocketCommandSession
open Exterior
variable [SizeWidth]

theorem writeLineResult_preserves (hP : Preserves H P) (s : SocketCommandSession H)
    (result : CommandResult) {x : Exterior H} (hx : P x.world) :
    P (s.writeLineResult result x).2.world :=
  write_preserves hP hx s.writer (.inl ⟨result, rfl⟩)

theorem writeResponse_preserves (hP : Preserves H P) (s : SocketCommandSession H)
    (response : SocketCommandResponse) {x : Exterior H} (hx : P x.world) :
    P (s.writeResponse response x).2.world := by
  unfold writeResponse
  dsimp only
  split_ifs with h
  · exact hx
  · exact write_preserves hP hx s.writer (.inr ⟨response, rfl, h⟩)

theorem execute_preserves (hP : Preserves H P) (context : SocketCommandInvocationContext Value)
    (s : SocketCommandSession H) {x : Exterior H} (hx : P x.world) :
    P (s.execute context x).2.world := by
  unfold execute
  split
  · exact hx
  · rename_i registry _
    have hrun {y : Exterior H} (hy : P y.world) : P ((y.invoke registry context.invocation).2.observe
        s.observer context (y.invoke registry context.invocation).1).world :=
      observe_preserves hP (hP.invoke _ _ _ hy) _ _ _
    split
    · exact hrun hx
    · rename_i policy _
      have hverdict : P (x.callPolicy policy context).2.world := hP.policy _ _ _ hx
      dsimp only
      split_ifs
      · exact observe_preserves hP hverdict _ _ _
      · exact hrun hverdict

theorem handleStructuredFrame_preserves (hP : Preserves H P) (data : Bytes)
    (s : SocketCommandSession H) {x : Exterior H} (hx : P x.world) :
    P (s.handleStructuredFrame data x).2.2.world := by
  unfold handleStructuredFrame
  split
  · exact writeResponse_preserves hP s _ hx
  · exact writeResponse_preserves hP s _ (execute_preserves hP _ s hx)

theorem handleLine_preserves (hP : Preserves H P) (line : Bytes) (s : SocketCommandSession H)
    {x : Exterior H} (hx : P x.world) : P (s.handleLine line x).2.2.world := by
  unfold handleLine
  dsimp only
  split_ifs
  · exact hx
  · exact writeLineResult_preserves hP s _ hx
  · split
    · exact writeLineResult_preserves hP s _ hx
    · rename_i command _ _
      have hrun {y : Exterior H} (hy : P y.world)
          (context : SocketCommandInvocationContext Value) (registry : H.Registry) :
          P (s.writeLineResult (y.invokeLine registry (trim line)).1
            ((y.invokeLine registry (trim line)).2.observe s.observer context
              (y.invokeLine registry (trim line)).1)).2.world :=
        writeLineResult_preserves hP s _ (observe_preserves hP (hP.invokeLine _ _ _ hy) _ _ _)
      split
      · split
        · exact hx
        · exact hrun hx _ _
      · rename_i policy _
        have hverdict (context : SocketCommandInvocationContext Value) :
            P (x.callPolicy policy context).2.world := hP.policy _ _ _ hx
        split_ifs
        · exact writeLineResult_preserves hP s _ (observe_preserves hP (hverdict _) _ _ _)
        · split
          · exact hverdict _
          · exact hrun (hverdict _) _ _

theorem feedLine_preserves (hP : Preserves H P) (data : Bytes) (success : Bool)
    (s : SocketCommandSession H) {x : Exterior H} (hx : P x.world) :
    P (feedLine data success s x).2.2.world := by
  induction data generalizing success s x with
  | nil => exact hx
  | cons c data ih =>
    unfold feedLine
    dsimp only
    split_ifs
    · exact ih _ _ hx
    · exact writeLineResult_preserves hP _ _ hx
    · exact ih _ _ (writeLineResult_preserves hP _ _ hx)
    · exact ih _ _ (handleLine_preserves hP _ _ hx)
    · exact ih _ _ hx
    · exact ih _ _ hx
    · exact ih _ _ hx

theorem structuredLoop_preserves (hP : Preserves H P) (success : Bool)
    (s : SocketCommandSession H) {x : Exterior H} (hx : P x.world) :
    P (structuredLoop success s x).2.2.world := by
  have hsettle (success : Bool) (s : SocketCommandSession H) {x : Exterior H} (hx : P x.world) :
      P (settle success s x).2.2.world := by
    unfold settle
    split_ifs <;> exact hx
  induction success, s, x using structuredLoop.induct with
  | case1 success s x h =>
    rw [structuredLoop_wait h]
    exact hsettle success s hx
  | case2 success s x h =>
    rw [structuredLoop_invalid h]
    exact writeResponse_preserves hP _ _ hx
  | case3 success s x s' h hlen =>
    rw [structuredLoop_ready h, if_pos hlen]
    exact hsettle success s' hx
  | case4 success s x s' h hlen data r ih =>
    rw [structuredLoop_ready h, if_neg hlen]
    exact ih (handleStructuredFrame_preserves hP data s' hx)

theorem feed_preserves (hP : Preserves H P) (data : Bytes) (s : SocketCommandSession H)
    {x : Exterior H} (hx : P x.world) : P (s.feed data x).2.2.world := by
  unfold feed
  split_ifs
  · exact hx
  · split
    · exact feedLine_preserves hP data true s hx
    · unfold feedStructured
      split_ifs
      · exact hx
      · exact structuredLoop_preserves hP true _ hx

end SocketCommandSession
end Sockets.Command
