import Sockets.Transport.Client

/-! What a peer receives: whole frames, and at most one that was cut short. -/
namespace Sockets.Transport
open Foundation

/-- The bytes a connection took. -/
def bytesOn (connection : ℕ) (wire : List WireEvent) : Bytes :=
  wire.flatMap fun
    | .sent c frame accepted => if c = connection then frame.take accepted else []
    | .connected _ _ => []

/-- A frame of which the connection took a part only. -/
def CutShort (connection : ℕ) (e : WireEvent) : Prop :=
  ∃ frame accepted, e = .sent connection frame accepted ∧ 0 < accepted ∧ accepted < frame.length

/-- Only frames are sent, each right after the client answered that it is connected. -/
def Guarded (IsFrame : Bytes → Prop) (wire : List WireEvent) : Prop :=
  Throughout (fun before e _ => ∀ c frame accepted, e = .sent c frame accepted →
    accepted ≤ frame.length ∧ IsFrame frame ∧ before.getLast? = some (.connected c true)) wire

/-- A client that cut a frame short never answers again that it is connected. -/
def Drops (wire : List WireEvent) : Prop :=
  Throughout (fun _ e after => ∀ c, CutShort c e → .connected c true ∉ after) wire

/-- Whole frames, then at most the beginning of one more. -/
def FramesAndPart (IsFrame : Bytes → Prop) (bytes : Bytes) : Prop :=
  ∃ (frames : List Bytes) (part : Bytes), bytes = frames.flatten ++ part ∧
    (∀ frame ∈ frames, IsFrame frame) ∧
    (part = [] ∨ ∃ frame, IsFrame frame ∧ part <+: frame ∧ part ≠ frame)

/-- At all times a connection has taken whole frames and at most one truncated frame, and no byte
behind that one. -/
structure WholeFrames (IsFrame : Bytes → Prop) (connection : ℕ) (wire : List WireEvent) : Prop where
  framed : ∀ taken, taken <+: bytesOn connection wire → FramesAndPart IsFrame taken
  silent : ∀ before e after, wire = before ++ e :: after → CutShort connection e →
    bytesOn connection after = []

theorem bytesOn_append (connection : ℕ) (older newer : List WireEvent) :
    bytesOn connection (older ++ newer) = bytesOn connection older ++ bytesOn connection newer :=
  List.flatMap_append

theorem bytesOn_eq_nil {connection : ℕ} {wire : List WireEvent}
    (h : ∀ frame accepted, .sent connection frame accepted ∉ wire) :
    bytesOn connection wire = [] := by
  rw [bytesOn, List.flatMap_eq_nil_iff]
  rintro (⟨c, answer⟩ | ⟨c, frame, accepted⟩) he
  · rfl
  · by_cases hc : c = connection
    · exact absurd (hc ▸ he) (h frame accepted)
    · simp [hc]

/-- Behind a frame that was cut short nothing is sent at all. -/
theorem not_sent_after {IsFrame : Bytes → Prop} {wire : List WireEvent} (hg : Guarded IsFrame wire)
    (hd : Drops wire) {connection : ℕ} {before after : List WireEvent} {e : WireEvent}
    (hw : wire = before ++ e :: after) (hcut : CutShort connection e) (frame : Bytes)
    (accepted : ℕ) : .sent connection frame accepted ∉ after := by
  intro hsent
  obtain ⟨gap, rest, rfl⟩ := List.append_of_mem hsent
  have hlast := (hg (before ++ e :: gap) _ rest (by simp [hw]) connection frame accepted rfl).2.2
  have hconnected : .connected connection true ∈ gap := by
    rw [List.getLast?_append, List.getLast?_cons] at hlast
    cases hgap : gap.getLast? with
    | none =>
      rw [hgap] at hlast
      obtain ⟨f, k, rfl, -⟩ := hcut
      simp at hlast
    | some b =>
      rw [hgap] at hlast
      have hb : b = .connected connection true := by simpa using hlast
      exact hb ▸ List.mem_of_getLast? hgap
  exact hd before e (gap ++ .sent connection frame accepted :: rest) hw connection hcut
    (by simp [hconnected])

/-- A part of the first frame, or that frame and something of what follows. -/
private theorem framesAndPart_cons {IsFrame : Bytes → Prop} {frame taken bytes : Bytes}
    (hf : IsFrame frame) (hp : taken <+: frame ++ bytes)
    (hrest : ∀ taken, taken <+: bytes → FramesAndPart IsFrame taken) :
    FramesAndPart IsFrame taken := by
  by_cases hlt : taken.length < frame.length
  · have hpre := List.prefix_of_prefix_length_le hp (List.prefix_append frame bytes) hlt.le
    refine ⟨[], taken, rfl, by simp, .inr ⟨frame, hf, hpre, ?_⟩⟩
    rintro rfl
    exact lt_irrefl _ hlt
  · obtain ⟨more, rfl⟩ :=
      List.prefix_of_prefix_length_le (List.prefix_append frame bytes) hp (not_lt.mp hlt)
    obtain ⟨frames, part, rfl, hframes, hpart⟩ :=
      hrest more ((List.prefix_append_right_inj frame).mp hp)
    refine ⟨frame :: frames, part, by simp, ?_, hpart⟩
    intro f hmem
    rcases List.mem_cons.mp hmem with rfl | hmem
    · exact hf
    · exact hframes f hmem

/-- A run in which the clients drop what they cut short leaves whole frames on every
connection. -/
theorem wholeFrames_of_drops {IsFrame : Bytes → Prop} {wire : List WireEvent}
    (hg : Guarded IsFrame wire) (hd : Drops wire) (connection : ℕ) :
    WholeFrames IsFrame connection wire := by
  have hsilent : ∀ before e after, wire = before ++ e :: after → CutShort connection e →
      bytesOn connection after = [] := fun before e after hw hcut =>
    bytesOn_eq_nil fun frame accepted => not_sent_after hg hd hw hcut frame accepted
  refine ⟨?_, hsilent⟩
  have hsent : ∀ frame accepted, .sent connection frame accepted ∈ wire →
      accepted ≤ frame.length ∧ IsFrame frame := by
    intro frame accepted hmem
    obtain ⟨before, after, hw⟩ := List.append_of_mem hmem
    exact ⟨(hg before _ after hw connection frame accepted rfl).1,
      (hg before _ after hw connection frame accepted rfl).2.1⟩
  clear hg hd
  induction wire with
  | nil =>
    intro taken hp
    exact ⟨[], [], by simpa [bytesOn] using hp, by simp, .inl rfl⟩
  | cons e wire ih =>
    have htail := ih (fun before e' after hw => hsilent (e :: before) e' after (by rw [hw]; rfl))
      fun frame accepted hmem => hsent frame accepted (List.mem_cons_of_mem _ hmem)
    intro taken hp
    rw [← List.singleton_append, bytesOn_append] at hp
    by_cases hmine : ∃ frame accepted, e = .sent connection frame accepted
    · obtain ⟨frame, accepted, rfl⟩ := hmine
      obtain ⟨hle, hf⟩ := hsent frame accepted List.mem_cons_self
      have hbytes : bytesOn connection [.sent connection frame accepted] = frame.take accepted := by
        simp [bytesOn]
      rw [hbytes] at hp
      rcases Nat.eq_or_lt_of_le hle with rfl | hlt
      · rw [List.take_length] at hp
        exact framesAndPart_cons hf hp htail
      · rcases Nat.eq_zero_or_pos accepted with rfl | hpos
        · exact htail taken (by simpa using hp)
        · rw [hsilent [] _ wire rfl ⟨frame, accepted, rfl, hpos, hlt⟩, List.append_nil] at hp
          have hlen := hp.length_le
          rw [List.length_take_of_le hle] at hlen
          refine ⟨[], taken, rfl, by simp,
            .inr ⟨frame, hf, hp.trans (List.take_prefix _ _), ?_⟩⟩
          rintro rfl
          omega
    · have hbytes : bytesOn connection [e] = [] := by
        refine bytesOn_eq_nil fun frame accepted hmem => hmine ⟨frame, accepted, ?_⟩
        exact (List.mem_singleton.mp hmem).symm
      exact htail taken (by simpa [hbytes] using hp)

variable {N : Network}

theorem Guarded.connected {IsFrame : Bytes → Prop} {x : Clients N} (h : Guarded IsFrame x.wire)
    (slot : ℕ) : Guarded IsFrame (x.connected slot).2.wire :=
  Throughout.append h (Throughout.singleton (by simp)) fun h => h

/-- The send handlers keep what is on the wire in order. -/
theorem Guarded.sendWhole {IsFrame : Bytes → Prop} {x : Clients N} (h : Guarded IsFrame x.wire)
    (slot : ℕ) {data : Bytes} (hdata : IsFrame data) :
    Guarded IsFrame (x.sendWhole slot data).2.wire := by
  have hq := h.connected slot
  unfold Clients.sendWhole
  dsimp only
  split_ifs with hanswer
  · exact hq
  · refine Throughout.append hq (Throughout.singleton ?_) fun h => h
    rintro c frame accepted he
    cases he
    refine ⟨writeAll_le _ _ _, hdata, ?_⟩
    simpa [Clients.connected] using hanswer

end Sockets.Transport
