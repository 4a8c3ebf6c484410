import Sockets.Foundation.Spelling
import Sockets.Command.RoundTrip

/-! The byte strings that `DecodeRequest` and `DecodeResponse` accept: exactly those that spell a
message of protocol version 1, and what is known of the message from the decoded one. -/
namespace Sockets.Command
open Foundation

theorem spells_U8 : Spells readU8 fun value bytes => bytes = appendU8 value := by
  refine ((Spells.beNat 1).map UInt8.ofNat).mono ?_
  rintro value bytes ⟨n, ⟨hn, rfl⟩, rfl⟩
  rw [appendU8, UInt8.toNat_ofNat', Nat.mod_eq_of_lt (by omega)]

theorem spells_U16 : Spells readU16 fun value bytes =>
    value ≤ 0xFFFF ∧ bytes = appendU16 value := by
  refine (Spells.beNat 2).mono ?_
  rintro value bytes ⟨hn, rfl⟩
  exact ⟨by omega, rfl⟩

theorem spells_U32 : Spells readU32 fun value bytes => bytes = appendU32 value.toNat := by
  refine ((Spells.beNat 4).map UInt32.ofNat).mono ?_
  rintro value bytes ⟨n, ⟨hn, rfl⟩, rfl⟩
  rw [appendU32, UInt32.toNat_ofNat', Nat.mod_eq_of_lt (by omega)]

theorem spells_U64 : Spells readU64 fun value bytes => bytes = appendU64 value := by
  refine ((Spells.beNat 8).map UInt64.ofNat).mono ?_
  rintro value bytes ⟨n, ⟨hn, rfl⟩, rfl⟩
  rw [appendU64, UInt64.toNat_ofNat', Nat.mod_eq_of_lt (by omega)]

theorem spells_I32 : Spells readI32 fun value bytes => bytes = appendI32 value := by
  refine (spells_U32.map fun raw => (⟨raw⟩ : Int32)).mono ?_
  rintro value bytes ⟨raw, rfl, rfl⟩
  rfl

theorem spells_String16 : Spells readString16 fun value bytes =>
    value.length ≤ 0xFFFF ∧ bytes = encodedString16 value := by
  refine (spells_U16.bind fun length => Spells.take length).mono ?_
  rintro value bytes ⟨length, xs, ys, ⟨hlength, rfl⟩, ⟨rfl, rfl⟩, rfl⟩
  exact ⟨hlength, rfl⟩

theorem spells_String32 : Spells readString32 fun value bytes =>
    value.length ≤ 0xFFFFFFFF ∧ bytes = appendU32 value.length ++ value := by
  refine (spells_U32.bind fun length => Spells.take length.toNat).mono ?_
  rintro value bytes ⟨length, xs, ys, rfl, ⟨rfl, hlength⟩, rfl⟩
  have hlt := length.toNat_lt
  exact ⟨by omega, by rw [hlength]⟩

/-- What a request says on the wire; the named arguments stand in the order in which they were
written. -/
structure RequestFields where
  requestID : UInt64
  path : List Bytes
  positional : List Bytes
  named : List (Bytes × Bytes)
  raw : Bytes
  deriving DecidableEq

/-- An argument on the wire, its name first. -/
def encodedPair (item : Bytes × Bytes) : Bytes := encodedString16 item.1 ++ encodedString16 item.2

namespace RequestFields

def bytes (f : RequestFields) : Bytes :=
  appendU32 requestMagic.toNat ++ (appendU8 version ++ (appendU64 f.requestID ++
    (appendU16 f.path.length ++ ((f.path.map encodedString16).flatten ++
      (appendU16 f.positional.length ++ ((f.positional.map encodedString16).flatten ++
        (appendU16 f.named.length ++ ((f.named.map encodedPair).flatten ++
          (appendU32 f.raw.length ++ f.raw)))))))))

/-- Every count and every length fits its field. -/
structure Short (f : RequestFields) : Prop where
  path_count : f.path.length ≤ 0xFFFF
  positional_count : f.positional.length ≤ 0xFFFF
  named_count : f.named.length ≤ 0xFFFF
  path : ∀ item ∈ f.path, item.length ≤ 0xFFFF
  positional : ∀ item ∈ f.positional, item.length ≤ 0xFFFF
  named : ∀ item ∈ f.named, item.1.length ≤ 0xFFFF ∧ item.2.length ≤ 0xFFFF
  raw : f.raw.length ≤ 0xFFFFFFFF

end RequestFields

/-- A request of protocol version 1. -/
structure WireRequest extends RequestFields where
  short : toRequestFields.Short
  path_ne_nil : path ≠ []

/-- The part of `DecodeRequest` before it looks whether the message ends. -/
def readFields : Read RequestFields := do
  let magic ← readU32
  guard (magic = requestMagic)
  let v ← readU8
  guard (v = version)
  let requestID ← readU64
  let pathCount ← readU16
  let path ← Cursor.many readString16 pathCount
  let positionalCount ← readU16
  let positional ← Cursor.many readString16 positionalCount
  let namedCount ← readU16
  let named ← Cursor.many (Prod.mk <$> readString16 <*> readString16) namedCount
  let raw ← readString32
  return { requestID, path, positional, named, raw }

theorem reads_strings {items : List Bytes} (h : ∀ item ∈ items, item.length ≤ 0xFFFF) :
    Reads (Cursor.many readString16 items.length) (items.map encodedString16).flatten items := by
  have hread := Reads.many fun item hi => (reads_String16 (h item hi) : Reads _ _ (id item))
  rwa [List.map_id] at hread

theorem reads_pairs {items : List (Bytes × Bytes)}
    (h : ∀ item ∈ items, item.1.length ≤ 0xFFFF ∧ item.2.length ≤ 0xFFFF) :
    Reads (Cursor.many (Prod.mk <$> readString16 <*> readString16) items.length)
      (items.map encodedPair).flatten items := by
  have hpair (item : Bytes × Bytes) (hi : item ∈ items) :
      Reads (Prod.mk <$> readString16 <*> readString16) (encodedPair item) (id item) :=
    ((reads_String16 (h item hi).1).map Prod.mk).bind ((reads_String16 (h item hi).2).map _)
  have hread := Reads.many hpair
  rwa [List.map_id] at hread

theorem reads_fields {f : RequestFields} (h : f.Short) : Reads readFields f.bytes f := by
  refine (reads_U32 requestMagic).bind (.checked rfl ?_)
  refine (reads_U8 version).bind (.checked rfl ?_)
  refine (reads_U64 _).bind ?_
  refine (reads_U16 h.path_count).bind ((reads_strings h.path).bind ?_)
  refine (reads_U16 h.positional_count).bind ((reads_strings h.positional).bind ?_)
  refine (reads_U16 h.named_count).bind ((reads_pairs h.named).bind ?_)
  rw [← List.append_nil (appendU32 _ ++ _)]
  exact (reads_String32 h.raw).bind (Reads.pure _)

theorem spells_pair : Spells (Prod.mk <$> readString16 <*> readString16) fun item bytes =>
    (item.1.length ≤ 0xFFFF ∧ item.2.length ≤ 0xFFFF) ∧ bytes = encodedPair item := by
  refine ((spells_String16.map Prod.mk).bind fun f => spells_String16.map f).mono ?_
  rintro item bytes ⟨f, xs, ys, ⟨name, ⟨hname, rfl⟩, rfl⟩, ⟨value, ⟨hvalue, rfl⟩, rfl⟩, rfl⟩
  exact ⟨⟨hname, hvalue⟩, rfl⟩

theorem spells_fields : Spells readFields fun f bytes => f.Short ∧ bytes = f.bytes := by
  intro before rest f c h
  unfold readFields at h
  obtain ⟨magic, _, r1, rfl, rfl, h⟩ := spells_U32.peel h
  obtain ⟨rfl, h⟩ := guard_bind_eq_some.mp h
  obtain ⟨v, _, r2, rfl, rfl, h⟩ := spells_U8.peel h
  obtain ⟨rfl, h⟩ := guard_bind_eq_some.mp h
  obtain ⟨requestID, _, r3, rfl, rfl, h⟩ := spells_U64.peel h
  obtain ⟨pathCount, _, r4, rfl, ⟨hpathCount, rfl⟩, h⟩ := spells_U16.peel h
  obtain ⟨path, _, r5, rfl, ⟨rfl, hpath, rfl⟩, h⟩ := (spells_String16.many pathCount).peel h
  obtain ⟨positionalCount, _, r6, rfl, ⟨hpositionalCount, rfl⟩, h⟩ := spells_U16.peel h
  obtain ⟨positional, _, r7, rfl, ⟨rfl, hpositional, rfl⟩, h⟩ :=
    (spells_String16.many positionalCount).peel h
  obtain ⟨namedCount, _, r8, rfl, ⟨hnamedCount, rfl⟩, h⟩ := spells_U16.peel h
  obtain ⟨named, _, r9, rfl, ⟨rfl, hnamed, rfl⟩, h⟩ := (spells_pair.many namedCount).peel h
  obtain ⟨raw, _, after, rfl, ⟨hraw, rfl⟩, h⟩ := spells_String32.peel h
  obtain ⟨rfl, rfl⟩ := Prod.mk.inj (Option.some.inj h)
  refine ⟨_, after, ?_, ⟨⟨hpathCount, hpositionalCount, hnamedCount, hpath, hpositional, hnamed,
    hraw⟩, rfl⟩, ?_⟩
  · simp [RequestFields.bytes]
  · simp [RequestFields.bytes]

theorem readFinished_bind {α : Type} (q : Bool → Read α) (before after : Bytes) :
    (readFinished >>= q) ⟨before ++ after, before.length⟩ =
      q (decide (after = [])) ⟨before ++ after, before.length⟩ := by
  have hfinished : Cursor.finished ⟨before ++ after, before.length⟩ = decide (after = []) := by
    simp [Cursor.finished]
  rw [← hfinished]
  rfl

/-- The same read of every part may be adjusted at the end. -/
theorem many_map {α β : Type} (f : α → β) (p : Read α) (n : ℕ) :
    Cursor.many (f <$> p) n = List.map f <$> Cursor.many p n := by
  induction n with
  | zero => rfl
  | succ n ih => simp [Cursor.many, ih]

section
variable {Value : Type} [CommandLibrary Value]

/-- The context that `DecodeRequest` makes of a request. -/
def RequestFields.context (target : SocketCommandInvocationContext Value) (f : RequestFields) :
    SocketCommandInvocationContext Value where
  invocation :=
    { path := f.path
      positional := f.positional.map CommandLibrary.ofString
      named := f.named.foldl (fun m e => m.emplace e.1 (CommandLibrary.ofString e.2)) .empty
      raw := f.raw }
  metadata := { target.metadata with requestID := f.requestID }

/-- The end of `DecodeRequest`. -/
def finishRequest (target : SocketCommandInvocationContext Value) (f : RequestFields) :
    Read (SocketCommandInvocationContext Value) := do
  let finished ← readFinished
  guard (finished ∧ f.path ≠ [])
  return f.context target

theorem readRequest_eq (target : SocketCommandInvocationContext Value) :
    readRequest target = readFields >>= finishRequest target := by
  simp only [readRequest, readFields, finishRequest, many_map, bind_assoc, pure_bind, bind_map_left]
  rfl

theorem finishRequest_eq_some {target decoded : SocketCommandInvocationContext Value}
    {f : RequestFields} {before after : Bytes} {c : Cursor} :
    finishRequest target f ⟨before ++ after, before.length⟩ = some (decoded, c) ↔
      after = [] ∧ f.path ≠ [] ∧ decoded = f.context target ∧
        c = ⟨before ++ after, before.length⟩ := by
  rw [finishRequest, readFinished_bind, guard_bind_eq_some, decide_eq_true_iff, and_assoc]
  refine and_congr_right fun _ => and_congr_right fun _ => ?_
  constructor
  · intro h
    obtain ⟨rfl, rfl⟩ := Prod.mk.inj (Option.some.inj h)
    exact ⟨rfl, rfl⟩
  · rintro ⟨rfl, rfl⟩
    rfl

/-- The byte strings that are accepted are those of requests. -/
theorem decodeRequest_eq_some {data : Bytes} {target decoded : SocketCommandInvocationContext Value} :
    decodeRequest data target = some decoded ↔
      ∃ w : WireRequest, data = w.bytes ∧ decoded = w.context target := by
  rw [decodeRequest, readRequest_eq, Option.map_eq_some_iff]
  constructor
  · rintro ⟨⟨_, c⟩, h, rfl⟩
    have hread : (readFields >>= finishRequest target) ⟨[] ++ data, ([] : Bytes).length⟩ = _ := h
    obtain ⟨f, _, after, rfl, ⟨hshort, rfl⟩, hread⟩ := spells_fields.peel hread
    obtain ⟨rfl, hpath, rfl, -⟩ := finishRequest_eq_some.mp hread
    exact ⟨⟨f, hshort, hpath⟩, List.append_nil _, rfl⟩
  · rintro ⟨w, rfl, rfl⟩
    have hfields := reads_fields w.short [] []
    rw [List.append_nil, List.nil_append] at hfields
    have hend : finishRequest target w.toRequestFields ⟨w.bytes ++ [], w.bytes.length⟩ =
        some (w.context target, ⟨w.bytes ++ [], w.bytes.length⟩) :=
      finishRequest_eq_some.mpr ⟨rfl, w.path_ne_nil, rfl, rfl⟩
    rw [List.append_nil] at hend
    refine ⟨(w.context target, ⟨w.bytes, w.bytes.length⟩), ?_, rfl⟩
    simp only [Bind.bind, StateT.bind]
    exact Option.bind_eq_some_iff.mpr ⟨_, hfields, by simpa using hend⟩

end

/-- The byte strings that `DecodeResponse` accepts are those that `EncodeResponse` writes. -/
theorem decodeResponse_eq_some {data : Bytes} {response : SocketCommandResponse} :
    decodeResponse data = some response ↔ encodeResponse response = some data := by
  refine ⟨fun h => ?_, response_round_trip⟩
  rw [decodeResponse, Option.map_eq_some_iff] at h
  obtain ⟨⟨_, c⟩, h, rfl⟩ := h
  have hread : readResponse ⟨[] ++ data, ([] : Bytes).length⟩ = _ := h
  unfold readResponse at hread
  obtain ⟨magic, _, r1, rfl, rfl, hread⟩ := spells_U32.peel hread
  obtain ⟨rfl, hread⟩ := guard_bind_eq_some.mp hread
  obtain ⟨v, _, r2, rfl, rfl, hread⟩ := spells_U8.peel hread
  obtain ⟨rfl, hread⟩ := guard_bind_eq_some.mp hread
  obtain ⟨requestID, _, r3, rfl, rfl, hread⟩ := spells_U64.peel hread
  obtain ⟨success, _, r4, rfl, rfl, hread⟩ := spells_U8.peel hread
  obtain ⟨hsuccess, hread⟩ := guard_bind_eq_some.mp hread
  obtain ⟨code, _, r5, rfl, rfl, hread⟩ := spells_I32.peel hread
  obtain ⟨message, _, after, rfl, ⟨hmessage, rfl⟩, hread⟩ := spells_String32.peel hread
  rw [readFinished_bind, guard_bind_eq_some, decide_eq_true_iff] at hread
  obtain ⟨rfl, hread⟩ := hread
  obtain ⟨rfl, rfl⟩ := Prod.mk.inj (Option.some.inj hread)
  clear hread h
  have hflag : success = 0 ∨ success = 1 := by
    have hle := UInt8.le_iff_toNat_le.mp hsuccess
    have hone : success.toNat ≤ 1 := hle
    rcases Nat.le_one_iff_eq_zero_or_eq_one.mp hone with hzero | hone
    · exact .inl (UInt8.toNat_inj.mp hzero)
    · exact .inr (UInt8.toNat_inj.mp hone)
  rcases hflag with rfl | rfl <;>
    simp [encodeResponse, appendString32, not_lt.mpr hmessage]

/-- Behind the fixed fields a response ends with its message, whose length it states. -/
theorem reads_message {response : SocketCommandResponse} {data : Bytes}
    (h : encodeResponse response = some data) :
    Reads (Cursor.take 18 >>= fun _ => readString32) data response.result.message := by
  unfold encodeResponse appendString32 at h
  by_cases hlong : 0xFFFFFFFF < response.result.message.length
  · rw [if_pos hlong] at h
    cases h
  · rw [if_neg hlong] at h
    cases h
    have hfixed : (appendU32 responseMagic.toNat ++ (appendU8 version ++
        (appendU64 response.requestID ++ (appendU8 (if response.result.success then 1 else 0) ++
          appendI32 response.result.code)))).length = 18 := by
      simp [appendU32, appendU8, appendU64, appendI32]
    have hread := (Reads.take hfixed).bind (q := fun _ => readString32)
      (reads_String32 (not_lt.mp hlong))
    simpa only [List.append_assoc] using hread

theorem decodeRequest_isSome {Value : Type} [CommandLibrary Value] {data : Bytes}
    {target : SocketCommandInvocationContext Value} (h : (decodeRequest data target).isSome) :
    ∃ w : WireRequest, data = w.bytes := by
  obtain ⟨decoded, hdecoded⟩ := Option.isSome_iff_exists.mp h
  obtain ⟨w, hdata, -⟩ := decodeRequest_eq_some.mp hdecoded
  exact ⟨w, hdata⟩

/-- No request that is accepted begins another one, no response does, and nothing is accepted as
both. -/
theorem messages_prefix_free {Value : Type} [CommandLibrary Value] :
    (∀ (data data' : Bytes) (target target' : SocketCommandInvocationContext Value),
      (decodeRequest data target).isSome → (decodeRequest data' target').isSome →
        data <+: data' → data = data') ∧
    (∀ data data', (decodeResponse data).isSome → (decodeResponse data').isSome →
      data <+: data' → data = data') ∧
    ∀ data (target : SocketCommandInvocationContext Value),
      (decodeRequest data target).isSome → decodeResponse data = none := by
  refine ⟨?_, ?_, ?_⟩
  · rintro data data' target target' h h' ⟨tail, htail⟩
    obtain ⟨w, rfl⟩ := decodeRequest_isSome h
    obtain ⟨w', rfl⟩ := decodeRequest_isSome h'
    have hsame : w.bytes ++ tail = w'.bytes ++ [] := by rw [htail, List.append_nil]
    exact ((reads_fields w.short).unique (reads_fields w'.short) hsame).2
  · rintro data data' h h' ⟨tail, htail⟩
    obtain ⟨response, hresponse⟩ := Option.isSome_iff_exists.mp h
    obtain ⟨response', hresponse'⟩ := Option.isSome_iff_exists.mp h'
    have hread := reads_message (decodeResponse_eq_some.mp hresponse)
    have hread' := reads_message (decodeResponse_eq_some.mp hresponse')
    have hsame : data ++ tail = data' ++ [] := by rw [htail, List.append_nil]
    exact (hread.unique hread' hsame).2
  · intro data target h
    obtain ⟨w, rfl⟩ := decodeRequest_isSome h
    cases hboth : decodeResponse w.bytes with
    | none => rfl
    | some response =>
      exfalso
      have hencode := decodeResponse_eq_some.mp hboth
      unfold encodeResponse at hencode
      obtain ⟨message, -, hbytes⟩ := Option.bind_eq_some_iff.mp hencode
      have hmagic := ((reads_U32 requestMagic).unique (reads_U32 responseMagic)
        (Option.some.inj hbytes).symm).1
      exact absurd hmagic (by decide)

/-- The smallest request: one word. -/
def oneWord : WireRequest where
  requestID := 1
  path := [text "x"]
  positional := []
  named := []
  raw := []
  short := ⟨by decide, by decide, by decide, by decide, by decide, by decide, by decide⟩
  path_ne_nil := by decide

theorem messages_prefix_free_one :
    letI := scalarLibrary
    decodeRequest (oneWord.bytes ++ [0]) {} = none ∧ decodeResponse oneWord.bytes = none := by
  let _ := scalarLibrary
  have haccepted : (decodeRequest oneWord.bytes
      ({} : SocketCommandInvocationContext ScalarValue)).isSome :=
    Option.isSome_iff_exists.mpr ⟨_, decodeRequest_eq_some.mpr ⟨oneWord, rfl, rfl⟩⟩
  obtain ⟨hrequests, -, hboth⟩ := @messages_prefix_free ScalarValue _
  refine ⟨?_, hboth _ _ haccepted⟩
  by_contra hlonger
  have hsame := hrequests _ _ {} {} haccepted (Option.isSome_iff_ne_none.mpr hlonger)
    (List.prefix_append _ _)
  exact absurd (congrArg List.length hsame) (by simp)

end Sockets.Command
