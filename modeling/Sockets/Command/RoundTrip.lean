import Sockets.Command.Protocol

/-! What `EncodeRequest` writes, `DecodeRequest` reads back, with every value as its string; and
responses. -/
namespace Sockets.Command
open Foundation

variable {Value : Type} [CommandLibrary Value]

/-- The string-backed value with the same text. -/
def stringValue (value : Value) : Value := CommandLibrary.ofString (CommandLibrary.toString value)

def stringEntry (item : Bytes × Value) : Bytes × Value := (item.1, stringValue item.2)

/-- A value that protocol version 1 can carry. -/
structure FitsValue (value : Value) : Prop where
  notNull : CommandLibrary.isNull value = false
  short : (CommandLibrary.toString value).length ≤ 0xFFFF

instance (value : Value) : Decidable (FitsValue value) :=
  decidable_of_iff (CommandLibrary.isNull value = false ∧
    (CommandLibrary.toString value).length ≤ 0xFFFF) ⟨fun h => ⟨h.1, h.2⟩, fun h => ⟨h.1, h.2⟩⟩

/-- A request that protocol version 1 can carry. -/
structure FitsRequest (i : CommandInvocation Value) : Prop where
  path_ne_nil : i.path ≠ []
  path_count : i.path.length ≤ 0xFFFF
  positional_count : i.positional.length ≤ 0xFFFF
  named_count : i.named.entries.length ≤ 0xFFFF
  path_items : ∀ item ∈ i.path, item.length ≤ 0xFFFF
  positional_values : ∀ value ∈ i.positional, FitsValue value
  names : ∀ item ∈ i.named.entries, item.1.length ≤ 0xFFFF
  named_values : ∀ item ∈ i.named.entries, FitsValue item.2
  raw_length : i.raw.length < 2 ^ 32

/-- The limits of protocol version 1 alone; they do not ask for a path. -/
structure WithinLimits (i : CommandInvocation Value) : Prop where
  path_count : i.path.length ≤ 0xFFFF
  positional_count : i.positional.length ≤ 0xFFFF
  named_count : i.named.entries.length ≤ 0xFFFF
  path_items : ∀ item ∈ i.path, item.length ≤ 0xFFFF
  positional_values : ∀ value ∈ i.positional, FitsValue value
  names : ∀ item ∈ i.named.entries, item.1.length ≤ 0xFFFF
  named_values : ∀ item ∈ i.named.entries, FitsValue item.2
  raw_length : i.raw.length < 2 ^ 32

theorem fitsRequest_iff (i : CommandInvocation Value) :
    FitsRequest i ↔ i.path ≠ [] ∧ WithinLimits i :=
  ⟨fun h => ⟨h.path_ne_nil, h.path_count, h.positional_count, h.named_count, h.path_items,
      h.positional_values, h.names, h.named_values, h.raw_length⟩,
    fun ⟨hpath, h⟩ => ⟨hpath, h.path_count, h.positional_count, h.named_count, h.path_items,
      h.positional_values, h.names, h.named_values, h.raw_length⟩⟩

/-- A string of the wire behind its 16-bit length. -/
def encodedString16 (value : Bytes) : Bytes := appendU16 value.length ++ value

def encodedValue (value : Value) : Bytes := encodedString16 (CommandLibrary.toString value)

def encodedNamed (item : Bytes × Value) : Bytes := encodedString16 item.1 ++ encodedValue item.2

/-- The bytes of a request that fits. -/
def encodedRequest (context : SocketCommandInvocationContext Value) : Bytes :=
  let i := context.invocation
  appendU32 requestMagic.toNat ++ (appendU8 version ++ (appendU64 context.metadata.requestID ++
    (appendU16 i.path.length ++ ((i.path.map encodedString16).flatten ++
      (appendU16 i.positional.length ++ ((i.positional.map encodedValue).flatten ++
        (appendU16 i.named.entries.length ++ ((i.named.entries.map encodedNamed).flatten ++
          (appendU32 i.raw.length ++ i.raw)))))))))

theorem appendString16_eq {value : Bytes} (h : value.length ≤ 0xFFFF) :
    appendString16 value = some (encodedString16 value) := by
  simp [appendString16, encodedString16, not_lt.mpr h]

theorem appendCommandValue16_eq {value : Value} (h : FitsValue value) :
    appendCommandValue16 value = some (encodedValue value) := by
  simp [appendCommandValue16, encodedValue, h.notNull, appendString16_eq h.short]

theorem appendNamed_eq {item : Bytes × Value} (hname : item.1.length ≤ 0xFFFF)
    (hvalue : FitsValue item.2) : appendNamed item = some (encodedNamed item) := by
  simp [appendNamed, encodedNamed, appendString16_eq hname, appendCommandValue16_eq hvalue]

theorem encodeRequest_within {context : SocketCommandInvocationContext Value}
    (h : WithinLimits context.invocation) :
    encodeRequest context = some (encodedRequest context) := by
  have hpath := appendAll_eq_some fun item hi => appendString16_eq (h.path_items item hi)
  have hpositional := appendAll_eq_some fun value hv =>
    appendCommandValue16_eq (h.positional_values value hv)
  have hnamed := appendAll_eq_some fun item hi =>
    appendNamed_eq (h.names item hi) (h.named_values item hi)
  have hraw : ¬ 0xFFFFFFFF < context.invocation.raw.length := by
    have := h.raw_length
    omega
  have hcounts : ¬ (0xFFFF < context.invocation.path.length ∨
      0xFFFF < context.invocation.positional.length ∨
      0xFFFF < context.invocation.named.entries.length) := by
    have := h.path_count
    have := h.positional_count
    have := h.named_count
    omega
  simp [encodeRequest, encodedRequest, hcounts, hpath, hpositional, hnamed, appendString32, hraw]

theorem encodeRequest_eq {context : SocketCommandInvocationContext Value}
    (h : FitsRequest context.invocation) :
    encodeRequest context = some (encodedRequest context) :=
  encodeRequest_within ((fitsRequest_iff _).mp h).2

/-- What the loop over the named values emplaces. -/
theorem foldl_emplace_strings (m : Named Value) :
    ((m.entries.map fun item => (item.1, CommandLibrary.toString item.2)).foldl
      (fun m e => m.emplace e.1 (CommandLibrary.ofString e.2)) (.empty : Named Value)).entries =
        m.entries.map stringEntry := by
  have hsorted : (m.entries.map stringEntry).Pairwise EntryLess :=
    List.pairwise_map.mpr (m.sorted.imp fun h => h)
  have hbuilt := foldl_emplace_entries (m := (.empty : Named Value))
    (show (([] : List (Bytes × Value)) ++ m.entries.map stringEntry).Pairwise EntryLess from hsorted)
  rw [List.foldl_map] at hbuilt ⊢
  exact hbuilt.trans (List.nil_append _)

private theorem reads_path {items : List Bytes} (h : ∀ item ∈ items, item.length ≤ 0xFFFF) :
    Reads (Cursor.many readString16 items.length) (items.map encodedString16).flatten items := by
  have hread := Reads.many fun item hi => (reads_String16 (h item hi) : Reads _ _ (id item))
  rwa [List.map_id] at hread

private theorem reads_positional {values : List Value} (h : ∀ value ∈ values, FitsValue value) :
    Reads (Cursor.many (CommandLibrary.ofString <$> readString16) values.length)
      (values.map encodedValue).flatten (values.map stringValue) :=
  Reads.many fun value hv => (reads_String16 (h value hv).short).map _

private theorem reads_named {items : List (Bytes × Value)}
    (hnames : ∀ item ∈ items, item.1.length ≤ 0xFFFF)
    (hvalues : ∀ item ∈ items, FitsValue item.2) :
    Reads (Cursor.many (Prod.mk <$> readString16 <*> readString16) items.length)
      (items.map encodedNamed).flatten
      (items.map fun item => (item.1, CommandLibrary.toString item.2)) :=
  Reads.many fun item hi =>
    (((reads_String16 (hnames item hi)).map _).bind
      ((reads_String16 (hvalues item hi).short).map _))

/-- The context `DecodeRequest` reads where a request was written. -/
def decodedRequest (source target : SocketCommandInvocationContext Value) :
    SocketCommandInvocationContext Value where
  invocation :=
    { path := source.invocation.path
      positional := source.invocation.positional.map stringValue
      named := (source.invocation.named.entries.map fun item =>
        (item.1, CommandLibrary.toString item.2)).foldl
          (fun m e => m.emplace e.1 (CommandLibrary.ofString e.2)) .empty
      raw := source.invocation.raw }
  metadata := { target.metadata with requestID := source.metadata.requestID }

theorem readsLast_request {source : SocketCommandInvocationContext Value}
    (target : SocketCommandInvocationContext Value) (h : FitsRequest source.invocation) :
    ReadsLast (readRequest target) (encodedRequest source) (decodedRequest source target) := by
  refine (reads_U32 requestMagic).bindLast (.checked rfl ?_)
  refine (reads_U8 version).bindLast (.checked rfl ?_)
  refine (reads_U64 _).bindLast ?_
  refine (reads_U16 h.path_count).bindLast ((reads_path h.path_items).bindLast ?_)
  refine (reads_U16 h.positional_count).bindLast
    ((reads_positional h.positional_values).bindLast ?_)
  refine (reads_U16 h.named_count).bindLast ((reads_named h.names h.named_values).bindLast ?_)
  have hraw : source.invocation.raw.length ≤ 0xFFFFFFFF := by
    have := h.raw_length
    omega
  rw [← List.append_nil (appendU32 _ ++ _)]
  refine (reads_String32 hraw).bindLast fun before => ?_
  simp [readFinished, Cursor.finished, Bind.bind, StateT.bind, guard, h.path_ne_nil, decodedRequest]
  rfl

section
variable [LawfulCommandLibrary Value]

theorem fitsValue_stringValue {value : Value} (h : FitsValue value) :
    FitsValue (stringValue value) where
  notNull := LawfulCommandLibrary.isNull_ofString _
  short := by simpa [stringValue] using h.short

theorem encodedValue_stringValue (value : Value) :
    encodedValue (stringValue value) = encodedValue value := by
  simp [encodedValue, stringValue]

theorem fitsRequest_decoded {source : SocketCommandInvocationContext Value}
    (target : SocketCommandInvocationContext Value) (h : FitsRequest source.invocation) :
    FitsRequest (decodedRequest source target).invocation := by
  have hentries : (decodedRequest source target).invocation.named.entries =
      source.invocation.named.entries.map stringEntry := foldl_emplace_strings _
  refine ⟨h.path_ne_nil, h.path_count, ?_, ?_, h.path_items, ?_, ?_, ?_, h.raw_length⟩
  · simpa [decodedRequest] using h.positional_count
  · simpa [hentries] using h.named_count
  · intro value hv
    obtain ⟨original, ho, rfl⟩ := List.mem_map.mp hv
    exact fitsValue_stringValue (h.positional_values original ho)
  · intro item hi
    rw [hentries] at hi
    obtain ⟨original, ho, rfl⟩ := List.mem_map.mp hi
    exact h.names original ho
  · intro item hi
    rw [hentries] at hi
    obtain ⟨original, ho, rfl⟩ := List.mem_map.mp hi
    exact fitsValue_stringValue (h.named_values original ho)

theorem encodedRequest_decoded (source target : SocketCommandInvocationContext Value) :
    encodedRequest (decodedRequest source target) = encodedRequest source := by
  have hentries : (decodedRequest source target).invocation.named.entries =
      source.invocation.named.entries.map stringEntry := foldl_emplace_strings _
  have hnamed : (encodedNamed ∘ stringEntry : Bytes × Value → Bytes) = encodedNamed := by
    funext item
    simp [encodedNamed, stringEntry, encodedValue_stringValue]
  have hpositional : (encodedValue ∘ stringValue : Value → Bytes) = encodedValue := by
    funext value
    exact encodedValue_stringValue value
  simp only [encodedRequest, hentries]
  simp [decodedRequest, hnamed, hpositional]

/-- Encoding and decoding a request that fits gives it back with string-backed values, leaves the
other metadata of the target alone, and encodes again to the same bytes. -/
theorem request_round_trip (source target : SocketCommandInvocationContext Value)
    (h : FitsRequest source.invocation) :
    ∃ bytes decoded, encodeRequest source = some bytes ∧
      decodeRequest bytes target = some decoded ∧
      decoded.metadata = { target.metadata with requestID := source.metadata.requestID } ∧
      decoded.invocation.path = source.invocation.path ∧
      decoded.invocation.positional = source.invocation.positional.map stringValue ∧
      decoded.invocation.named.entries = source.invocation.named.entries.map stringEntry ∧
      decoded.invocation.raw = source.invocation.raw ∧
      encodeRequest decoded = some bytes := by
  refine ⟨encodedRequest source, decodedRequest source target, encodeRequest_eq h, ?_, rfl, rfl,
    rfl, foldl_emplace_strings _, rfl, ?_⟩
  · rw [decodeRequest, (readsLast_request target h).run]
    rfl
  · rw [encodeRequest_eq (fitsRequest_decoded target h), encodedRequest_decoded]

end

theorem readsLast_response {response : SocketCommandResponse}
    (h : response.result.message.length ≤ 0xFFFFFFFF) :
    ReadsLast readResponse (appendU32 responseMagic.toNat ++ (appendU8 version ++
      (appendU64 response.requestID ++ (appendU8 (if response.result.success then 1 else 0) ++
        (appendI32 response.result.code ++ (appendU32 response.result.message.length ++
          response.result.message)))))) response := by
  refine (reads_U32 responseMagic).bindLast (.checked rfl ?_)
  refine (reads_U8 version).bindLast (.checked rfl ?_)
  refine (reads_U64 _).bindLast ((reads_U8 _).bindLast (.checked ?_ ?_))
  · cases response.result.success <;> decide
  refine (reads_I32 _).bindLast ?_
  rw [← List.append_nil (appendU32 _ ++ _)]
  refine (reads_String32 h).bindLast fun before => ?_
  obtain ⟨requestID, success, code, message⟩ := response
  cases success <;>
    simp [readFinished, Cursor.finished, Bind.bind, StateT.bind, guard] <;> rfl

/-- What `EncodeResponse` writes, `DecodeResponse` reads back. -/
theorem response_round_trip {response : SocketCommandResponse} {payload : Bytes}
    (h : encodeResponse response = some payload) : decodeResponse payload = some response := by
  unfold encodeResponse appendString32 at h
  by_cases hlong : 0xFFFFFFFF < response.result.message.length
  · rw [if_pos hlong] at h
    cases h
  · rw [if_neg hlong] at h
    cases h
    rw [decodeResponse, (readsLast_response (not_lt.mp hlong)).run]
    rfl

/-- Values that are null, numbers or strings. -/
inductive ScalarValue where
  | null
  | number (n : ℕ)
  | string (s : Bytes)
  deriving DecidableEq

def ScalarValue.text : ScalarValue → Bytes
  | .null => []
  | .number n => Sockets.text (toString n)
  | .string s => s

/-- Names in the order of `std::map`. -/
@[reducible] def bytewise : KeyOrder where
  less a b := decide (a < b)
  irrefl a := by simp
  trans {a b c} h h' := by
    simp only [decide_eq_true_eq] at *
    exact List.lt_trans h h'
  total {a b} h h' := by
    simp only [decide_eq_false_iff_not] at *
    exact List.le_antisymm (List.not_lt.mp h') (List.not_lt.mp h)

@[reducible] def scalarLibrary : CommandLibrary ScalarValue where
  toKeyOrder := bytewise
  isNull v := v = .null
  toString := ScalarValue.text
  ofString := .string
  error message := { success := false, code := 1, message }

/-- `math add 20 22`, with a named argument. -/
def mathRequest : @SocketCommandInvocationContext ScalarValue bytewise :=
  letI := scalarLibrary
  { invocation :=
      { path := [text "math", text "add"]
        positional := [.number 20, .number 22]
        named := Named.emplace (text "unused") (.string (text "true")) .empty
        raw := text "machine request" }
    metadata := { requestID := 42 } }

theorem request_round_trip_math :
    letI := scalarLibrary
    ∃ bytes decoded, encodeRequest mathRequest = some bytes ∧
      decodeRequest bytes {} = some decoded ∧ decoded.metadata.requestID = 42 ∧
      decoded.invocation.positional = [.string (text "20"), .string (text "22")] := by
  let _ := scalarLibrary
  have : LawfulCommandLibrary ScalarValue := ⟨fun _ => rfl, fun _ => rfl⟩
  have hfits : FitsRequest mathRequest.invocation :=
    ⟨by decide, by decide, by decide, by decide, by decide, by decide, by decide, by decide,
      by decide⟩
  obtain ⟨bytes, decoded, hencode, hdecode, hmetadata, -, hpositional, -⟩ :=
    request_round_trip mathRequest {} hfits
  exact ⟨bytes, decoded, hencode, hdecode, by rw [hmetadata]; rfl, hpositional⟩

end Sockets.Command
