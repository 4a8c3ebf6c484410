import Sockets.Foundation.Pairs
import Sockets.Command.Wire

/-! The named arguments of a request are pairs on the wire and a map in the session, and a request
without a path can be written but not read: where encoder and decoder agree, and where not. -/
namespace Sockets.Command
open Foundation

section
variable [KeyOrder] {Value : Type}

/-- A pair goes into a map when its name is new. -/
theorem insertEntry_perm (key : Bytes) (value : Value) {es : List (Bytes × Value)}
    (hs : es.Pairwise EntryLess) :
    (insertEntry key value es).Perm
      (if key ∈ es.map Prod.fst then es else (key, value) :: es) := by
  have hne {a b : Bytes} (h : KeyOrder.less a b = true) : a ≠ b := by
    rintro rfl
    rw [KeyOrder.irrefl] at h
    cases h
  induction es with
  | nil => simp [insertEntry]
  | cons e es ih =>
    obtain ⟨he, hs⟩ := List.pairwise_cons.mp hs
    unfold insertEntry
    split_ifs with hbefore hmem hbehind hmem hmem
    · obtain ⟨e', he', hsame⟩ := List.mem_map.mp hmem
      exfalso
      rcases List.mem_cons.mp he' with rfl | he'
      · exact hne hbefore hsame.symm
      · exact hne (KeyOrder.trans hbefore (he e' he')) hsame.symm
    · rfl
    · have hin : key ∈ es.map Prod.fst :=
        (List.mem_cons.mp hmem).resolve_left fun hsame => hne hbehind hsame.symm
      exact ((ih hs).trans (by rw [if_pos hin])).cons e
    · have hout : key ∉ es.map Prod.fst := fun hin => hmem (List.mem_cons_of_mem _ hin)
      refine (((ih hs).trans (by rw [if_neg hout])).cons e).trans (List.Perm.swap _ _ _)
    · rfl
    · exfalso
      have hsame := KeyOrder.total (Bool.eq_false_iff.mpr hbefore) (Bool.eq_false_iff.mpr hbehind)
      exact hmem (List.mem_cons.mpr (.inl hsame))

theorem emplace_perm (key : Bytes) (value : Value) (m : Named Value) :
    (m.emplace key value).entries.Perm
      (if key ∈ m.entries.map Prod.fst then m.entries else (key, value) :: m.entries) :=
  insertEntry_perm key value m.sorted

/-- A map made of pairs has the first one of each name that was not in it before. -/
theorem foldl_emplace_perm (pairs : List (Bytes × Value)) (m : Named Value) :
    (pairs.foldl (fun m e => m.emplace e.1 e.2) m).entries.Perm
      (m.entries ++ (firsts pairs).filter (·.1 ∉ m.entries.map Prod.fst)) := by
  induction pairs generalizing m with
  | nil => simp [firsts]
  | cons item pairs ih =>
    have hinsert := emplace_perm item.1 item.2 m
    have hkeys (name : Bytes) : name ∈ (m.emplace item.1 item.2).entries.map Prod.fst ↔
        name = item.1 ∨ name ∈ m.entries.map Prod.fst := by
      rw [(hinsert.map Prod.fst).mem_iff]
      split_ifs with hmem
      · exact ⟨.inr, fun h => h.elim (fun h => h ▸ hmem) id⟩
      · exact List.mem_cons
    refine (ih (m.emplace item.1 item.2)).trans ?_
    have hfilter : (firsts pairs).filter
        (·.1 ∉ (m.emplace item.1 item.2).entries.map Prod.fst) =
          ((firsts pairs).filter (·.1 ≠ item.1)).filter (·.1 ∉ m.entries.map Prod.fst) := by
      rw [List.filter_filter]
      refine List.filter_congr fun other _ => ?_
      rw [Bool.eq_iff_iff]
      simp only [decide_eq_true_eq, Bool.and_eq_true, hkeys, not_or, ne_eq]
      exact and_comm
    rw [hfilter, firsts]
    by_cases hmem : item.1 ∈ m.entries.map Prod.fst
    · rw [List.filter_cons_of_neg (by simpa using hmem)]
      rw [if_pos hmem] at hinsert
      exact hinsert.append_right _
    · rw [List.filter_cons_of_pos (by simpa using hmem)]
      rw [if_neg hmem] at hinsert
      exact (hinsert.append_right _).trans List.perm_middle.symm

end

section
variable {Value : Type} [CommandLibrary Value]

/-- The pairs that are written for the named arguments. -/
def writtenPairs (i : CommandInvocation Value) : List (Bytes × Bytes) :=
  i.named.entries.map (Prod.map id CommandLibrary.toString)

/-- Fewer pairs, or others in their order, are no longer. -/
theorem RequestFields.Short.of_subperm {f : RequestFields} (h : f.Short)
    {named : List (Bytes × Bytes)} (hnamed : named.Subperm f.named) :
    RequestFields.Short { f with named } where
  path_count := h.path_count
  positional_count := h.positional_count
  named_count := hnamed.length_le.trans h.named_count
  path := h.path
  positional := h.positional
  named item hi := h.named item (hnamed.subset hi)
  raw := h.raw

/-- What `EncodeRequest` says of a context. -/
def fieldsOf (context : SocketCommandInvocationContext Value) : RequestFields where
  requestID := context.metadata.requestID
  path := context.invocation.path
  positional := context.invocation.positional.map CommandLibrary.toString
  named := writtenPairs context.invocation
  raw := context.invocation.raw

theorem encodedRequest_eq (context : SocketCommandInvocationContext Value) :
    encodedRequest context = (fieldsOf context).bytes := by
  simp only [encodedRequest, RequestFields.bytes, fieldsOf, writtenPairs, List.map_map,
    List.length_map]
  rfl

/-- The entries that `DecodeRequest` makes of the pairs it reads. -/
theorem entries_perm (target : SocketCommandInvocationContext Value) (f : RequestFields) :
    (f.context target).invocation.named.entries.Perm
      ((firsts f.named).map (Prod.map id CommandLibrary.ofString)) := by
  have hperm := foldl_emplace_perm
    (f.named.map (Prod.map id (CommandLibrary.ofString : Bytes → Value))) .empty
  rw [List.foldl_map, firsts_map] at hperm
  simp only [Named.empty, List.map_nil, List.not_mem_nil, not_false_eq_true, decide_true,
    List.filter_true, List.nil_append] at hperm
  exact hperm

variable [LawfulCommandLibrary Value]

/-- The first pair of each name is written again. -/
theorem writtenPairs_perm (target : SocketCommandInvocationContext Value) (f : RequestFields) :
    (writtenPairs (f.context target).invocation).Perm (firsts f.named) := by
  have hperm := (entries_perm target f).map (Prod.map id CommandLibrary.toString)
  have hback : Prod.map id CommandLibrary.toString ∘
      Prod.map id (CommandLibrary.ofString : Bytes → Value) = (id : Bytes × Bytes → _) := by
    funext item
    exact Prod.ext rfl (LawfulCommandLibrary.toString_ofString item.2)
  rw [List.map_map, hback, List.map_id] at hperm
  exact hperm

theorem fieldsOf_context (target : SocketCommandInvocationContext Value) (f : RequestFields) :
    fieldsOf (f.context target) =
      { f with named := writtenPairs (f.context target).invocation } := by
  have hback : CommandLibrary.toString ∘ (CommandLibrary.ofString : Bytes → Value) = id := by
    funext s
    simp
  simp [fieldsOf, RequestFields.context, hback]

/-- What was decoded can be encoded again. -/
theorem withinLimits_context (target : SocketCommandInvocationContext Value) {f : RequestFields}
    (h : f.Short) : WithinLimits (f.context target).invocation := by
  have hperm := entries_perm target f
  have hitem : ∀ item ∈ (f.context target).invocation.named.entries, ∃ pair ∈ f.named,
      item = (pair.1, CommandLibrary.ofString pair.2) := by
    intro item hi
    obtain ⟨pair, hpair, rfl⟩ := List.mem_map.mp (hperm.mem_iff.mp hi)
    exact ⟨pair, (firsts_sublist _).mem hpair, rfl⟩
  refine ⟨h.path_count, ?_, ?_, h.path, ?_, ?_, ?_, ?_⟩
  · simpa [RequestFields.context] using h.positional_count
  · rw [hperm.length_eq, List.length_map]
    exact (firsts_sublist _).length_le.trans h.named_count
  · intro value hv
    obtain ⟨string, hstring, rfl⟩ := List.mem_map.mp hv
    exact ⟨LawfulCommandLibrary.isNull_ofString _, by simpa using h.positional string hstring⟩
  · intro item hi
    obtain ⟨pair, hpair, rfl⟩ := hitem item hi
    exact (h.named pair hpair).1
  · intro item hi
    obtain ⟨pair, hpair, rfl⟩ := hitem item hi
    exact ⟨LawfulCommandLibrary.isNull_ofString _, by simpa using (h.named pair hpair).2⟩
  · have hraw := h.raw
    change f.raw.length < 2 ^ 32
    omega

theorem encodeRequest_context (w : WireRequest) (target : SocketCommandInvocationContext Value) :
    encodeRequest (w.context target) = some
      { w.toRequestFields with named := writtenPairs (w.context target).invocation }.bytes := by
  rw [encodeRequest_within (withinLimits_context target w.short), encodedRequest_eq,
    fieldsOf_context]

/-- The pairs all come back when their names differ, and only then. -/
theorem reencodes_iff (w : WireRequest) (target : SocketCommandInvocationContext Value) :
    (∃ named, named.Perm w.named ∧
      encodeRequest (w.context target) = some { w.toRequestFields with named }.bytes) ↔
        (w.named.map Prod.fst).Nodup := by
  have hkept := writtenPairs_perm target w.toRequestFields
  have hencode := encodeRequest_context w target
  constructor
  · rintro ⟨named, hnamed, hsame⟩
    have hshort := w.short.of_subperm hnamed.subperm
    have hshort' := w.short.of_subperm (hkept.subperm.trans (firsts_sublist _).subperm)
    have hbytes := congrArg (· ++ []) (Option.some.inj (hsame.symm.trans hencode))
    have hfields := ((reads_fields hshort).unique (reads_fields hshort') hbytes).1
    have hnames : named = writtenPairs (w.context target).invocation :=
      congrArg RequestFields.named hfields
    rw [hnames] at hnamed
    exact (firsts_perm_iff _).mp (hkept.symm.trans hnamed)
  · intro hnodup
    exact ⟨_, hkept.trans ((firsts_perm_iff _).mpr hnodup), hencode⟩

/-- A request that is read and written again is the one that was read, with the first pair of each
name; so it is the same up to the order of the pairs when their names differ, and only then. -/
theorem decoded_reencodes {data : Bytes} {target decoded : SocketCommandInvocationContext Value}
    (h : decodeRequest data target = some decoded) :
    ∃ (w : WireRequest) (kept : List (Bytes × Bytes)), data = w.bytes ∧
      kept.Perm (firsts w.named) ∧ decoded.invocation.named.entries.length = kept.length ∧
      encodeRequest decoded = some { w.toRequestFields with named := kept }.bytes ∧
      ((∃ named, named.Perm w.named ∧
        encodeRequest decoded = some { w.toRequestFields with named }.bytes) ↔
          (w.named.map Prod.fst).Nodup) ∧
      (decoded.invocation.named.entries.length = w.named.length ↔
        (w.named.map Prod.fst).Nodup) := by
  obtain ⟨w, rfl, rfl⟩ := decodeRequest_eq_some.mp h
  have hkept := writtenPairs_perm target w.toRequestFields
  have hlength : (w.context target).invocation.named.entries.length =
      (writtenPairs (w.context target).invocation).length := (List.length_map _).symm
  refine ⟨w, _, rfl, hkept, hlength, encodeRequest_context w target, reencodes_iff w target, ?_⟩
  rw [hlength, hkept.length_eq, length_firsts_eq_iff]

end

def twiceNamedFields : RequestFields where
  requestID := 1
  path := [text "x"]
  positional := []
  named := [(text "pin", text "1"), (text "pin", text "2")]
  raw := []

theorem twiceNamed_short : twiceNamedFields.Short :=
  ⟨by decide, by decide, by decide, by decide, by decide, by decide, by decide⟩

theorem twiceNamed_path_ne_nil : twiceNamedFields.path ≠ [] := List.cons_ne_nil _ _

/-- `x`, with two values for one name. -/
def twiceNamed : WireRequest where
  toRequestFields := twiceNamedFields
  short := twiceNamed_short
  path_ne_nil := twiceNamed_path_ne_nil

theorem decoded_reencodes_twice :
    letI := scalarLibrary
    ∃ kept : List (Bytes × Bytes), kept.Perm [(text "pin", text "1")] ∧
      encodeRequest (twiceNamed.context ({} : SocketCommandInvocationContext ScalarValue)) =
        some { twiceNamed.toRequestFields with named := kept }.bytes := by
  let _ := scalarLibrary
  have : LawfulCommandLibrary ScalarValue := ⟨fun _ => rfl, fun _ => rfl⟩
  have haccepted : decodeRequest twiceNamed.bytes ({} : SocketCommandInvocationContext ScalarValue) =
      some (twiceNamed.context {}) := decodeRequest_eq_some.mpr ⟨twiceNamed, rfl, rfl⟩
  obtain ⟨w, kept, hbytes, hkept, -, hencode, -⟩ := decoded_reencodes haccepted
  have hsame : twiceNamed.toRequestFields = w.toRequestFields :=
    ((reads_fields twiceNamed.short).unique (reads_fields w.short)
      (congrArg (· ++ []) hbytes)).1
  rw [← hsame] at hkept hencode
  exact ⟨kept, hkept, hencode⟩

/-- Two values for a name are announced and accepted, and one is left. -/
theorem second_value_lost :
    letI := scalarLibrary
    ∃ decoded : SocketCommandInvocationContext ScalarValue,
      decodeRequest twiceNamed.bytes {} = some decoded ∧ twiceNamed.named.length = 2 ∧
      decoded.invocation.named.entries.length = 1 ∧
      ¬ ∃ named, named.Perm twiceNamed.named ∧
        encodeRequest decoded = some { twiceNamed.toRequestFields with named }.bytes := by
  let _ := scalarLibrary
  have : LawfulCommandLibrary ScalarValue := ⟨fun _ => rfl, fun _ => rfl⟩
  refine ⟨twiceNamed.context {}, decodeRequest_eq_some.mpr ⟨twiceNamed, rfl, rfl⟩, rfl,
    by decide, ?_⟩
  rw [reencodes_iff]
  decide

section
variable {Value : Type} [CommandLibrary Value]

/-- The context with every value as its text; null has none. -/
def stringNormalised (context : SocketCommandInvocationContext Value) :
    Option (SocketCommandInvocationContext Value) :=
  let i := context.invocation
  if i.positional.any CommandLibrary.isNull ||
      i.named.entries.any (fun item => CommandLibrary.isNull item.2) then none
  else some
    { invocation :=
        { path := i.path
          positional := i.positional.map stringValue
          named := ⟨i.named.entries.map stringEntry,
            List.pairwise_map.mpr (i.named.sorted.imp fun h => h)⟩
          raw := i.raw }
      metadata := context.metadata }

/-- Some byte string is decoded to the string-normalised form of the context. -/
def Representable (context : SocketCommandInvocationContext Value) : Prop :=
  ∃ normalised, stringNormalised context = some normalised ∧
    ∃ bytes target, decodeRequest bytes target = some normalised

theorem appendString16_isSome_iff (value : Bytes) :
    (appendString16 value).isSome ↔ value.length ≤ 0xFFFF := by
  unfold appendString16
  split_ifs with h
  · simpa using h
  · simpa using h

theorem appendCommandValue16_isSome_iff (value : Value) :
    (appendCommandValue16 value).isSome ↔ FitsValue value := by
  unfold appendCommandValue16
  split_ifs with h
  · refine iff_of_false (by simp) fun hfits => ?_
    rw [hfits.notNull] at h
    cases h
  · rw [appendString16_isSome_iff]
    exact ⟨fun hshort => ⟨by simpa using h, hshort⟩, FitsValue.short⟩

theorem appendNamed_isSome_iff (item : Bytes × Value) :
    (appendNamed item).isSome ↔ item.1.length ≤ 0xFFFF ∧ FitsValue item.2 := by
  rw [← appendString16_isSome_iff, ← appendCommandValue16_isSome_iff, appendNamed]
  cases appendString16 item.1 <;> cases appendCommandValue16 item.2 <;> simp

theorem appendAll_isSome {α : Type} {append : α → Option Bytes} {xs : List α}
    (h : (appendAll append xs).isSome) : ∀ x ∈ xs, (append x).isSome := by
  induction xs with
  | nil => simp
  | cons x xs ih =>
    intro y hy
    cases hx : append x with
    | none => simp [appendAll, hx] at h
    | some item =>
      cases hxs : appendAll append xs with
      | none => simp [appendAll, hx, hxs] at h
      | some items =>
        rcases List.mem_cons.mp hy with rfl | hy
        · simp [hx]
        · exact ih (by simp [hxs]) y hy

/-- `EncodeRequest` asks for the limits, and not for a path. -/
theorem encodeRequest_isSome_iff (context : SocketCommandInvocationContext Value) :
    (encodeRequest context).isSome ↔ WithinLimits context.invocation := by
  constructor
  · intro h
    obtain ⟨bytes, hbytes⟩ := Option.isSome_iff_exists.mp h
    by_cases hcounts : 0xFFFF < context.invocation.path.length ∨
        0xFFFF < context.invocation.positional.length ∨
        0xFFFF < context.invocation.named.entries.length
    · simp [encodeRequest, hcounts] at hbytes
    · simp only [encodeRequest, hcounts, if_false, Option.bind_eq_bind,
        Option.bind_eq_some_iff] at hbytes
      obtain ⟨path, hpath, positional, hpositional, named, hnamed, raw, hraw, -⟩ := hbytes
      have hitems := appendAll_isSome (Option.isSome_iff_exists.mpr ⟨_, hpath⟩)
      have hvalues := appendAll_isSome (Option.isSome_iff_exists.mpr ⟨_, hpositional⟩)
      have hpairs := appendAll_isSome (Option.isSome_iff_exists.mpr ⟨_, hnamed⟩)
      have hlong : ¬ 0xFFFFFFFF < context.invocation.raw.length := by
        intro hlong
        rw [appendString32, if_pos hlong] at hraw
        cases hraw
      refine ⟨by omega, by omega, by omega, fun item hi => ?_, fun value hv => ?_,
        fun item hi => ?_, fun item hi => ?_, by omega⟩
      · exact (appendString16_isSome_iff item).mp (hitems item hi)
      · exact (appendCommandValue16_isSome_iff value).mp (hvalues value hv)
      · exact ((appendNamed_isSome_iff item).mp (hpairs item hi)).1
      · exact ((appendNamed_isSome_iff item).mp (hpairs item hi)).2
  · intro h
    rw [encodeRequest_within h]
    rfl

theorem short_fieldsOf {context : SocketCommandInvocationContext Value}
    (h : WithinLimits context.invocation) : (fieldsOf context).Short where
  path_count := h.path_count
  positional_count := by simpa [fieldsOf] using h.positional_count
  named_count := by simpa [fieldsOf, writtenPairs] using h.named_count
  path := h.path_items
  positional item hi := by
    obtain ⟨value, hv, rfl⟩ := List.mem_map.mp hi
    exact (h.positional_values value hv).short
  named item hi := by
    obtain ⟨entry, he, rfl⟩ := List.mem_map.mp hi
    exact ⟨h.names entry he, (h.named_values entry he).short⟩
  raw := Nat.le_of_lt_succ h.raw_length

/-- What is written of a request that has a path is read as its string-normalised form. -/
theorem decodeRequest_written {context : SocketCommandInvocationContext Value}
    (hpath : context.invocation.path ≠ []) (h : WithinLimits context.invocation)
    (target : SocketCommandInvocationContext Value) :
    decodeRequest (fieldsOf context).bytes target = some ((fieldsOf context).context target) :=
  decodeRequest_eq_some.mpr ⟨⟨fieldsOf context, short_fieldsOf h, hpath⟩, rfl, rfl⟩

theorem Named.ext_entries {m m' : Named Value} (h : m.entries = m'.entries) : m = m' := by
  cases m
  cases m'
  congr

theorem stringNormalised_eq {context : SocketCommandInvocationContext Value}
    (h : WithinLimits context.invocation) :
    stringNormalised context = some ((fieldsOf context).context context) := by
  have hnamed : (writtenPairs context.invocation).foldl
      (fun m e => m.emplace e.1 (CommandLibrary.ofString e.2)) (.empty : Named Value) =
        ⟨context.invocation.named.entries.map stringEntry,
          List.pairwise_map.mpr (context.invocation.named.sorted.imp fun h => h)⟩ :=
    Named.ext_entries (foldl_emplace_strings _)
  have hvalues : ∀ value ∈ context.invocation.positional,
      CommandLibrary.isNull value = false := fun value hv => (h.positional_values value hv).notNull
  have hentries : ∀ item ∈ context.invocation.named.entries,
      CommandLibrary.isNull item.2 = false := fun item hi => (h.named_values item hi).notNull
  have hnull : (context.invocation.positional.any CommandLibrary.isNull ||
      context.invocation.named.entries.any fun item => CommandLibrary.isNull item.2) = false := by
    rw [Bool.or_eq_false_iff, List.any_eq_false, List.any_eq_false]
    exact ⟨fun value hv => by simp [hvalues value hv], fun item hi => by simp [hentries item hi]⟩
  rw [stringNormalised, hnull, if_neg Bool.false_ne_true]
  simp only [RequestFields.context, fieldsOf, hnamed, List.map_map]
  rfl

/-- A context has a string-normalised form when no value in it is null. -/
theorem notNull_of_normalised {context normalised : SocketCommandInvocationContext Value}
    (h : stringNormalised context = some normalised) :
    (∀ value ∈ context.invocation.positional, CommandLibrary.isNull value = false) ∧
      ∀ item ∈ context.invocation.named.entries, CommandLibrary.isNull item.2 = false := by
  unfold stringNormalised at h
  dsimp only at h
  split_ifs at h with hnull
  simpa [not_or] using hnull

theorem withinLimits_of_short {context normalised : SocketCommandInvocationContext Value}
    (h : (fieldsOf context).Short) (hnormalised : stringNormalised context = some normalised) :
    WithinLimits context.invocation := by
  obtain ⟨hvalues, hentries⟩ := notNull_of_normalised hnormalised
  refine ⟨h.path_count, ?_, ?_, h.path, fun value hv => ⟨hvalues value hv, ?_⟩, fun item hi => ?_,
    fun item hi => ⟨hentries item hi, ?_⟩, Nat.lt_succ_of_le h.raw⟩
  · simpa [fieldsOf] using h.positional_count
  · simpa [fieldsOf, writtenPairs] using h.named_count
  · exact h.positional _ (List.mem_map_of_mem hv)
  · exact (h.named _ (List.mem_map_of_mem hi)).1
  · exact (h.named _ (List.mem_map_of_mem hi)).2

variable [LawfulCommandLibrary Value]

/-- It says the same on the wire. -/
theorem fieldsOf_normalised {context normalised : SocketCommandInvocationContext Value}
    (h : stringNormalised context = some normalised) :
    fieldsOf normalised = fieldsOf context := by
  unfold stringNormalised at h
  dsimp only at h
  split_ifs at h
  obtain rfl := Option.some.inj h
  simp [fieldsOf, writtenPairs, stringValue, stringEntry, Function.comp_def]

theorem representable_iff (context : SocketCommandInvocationContext Value) :
    Representable context ↔ FitsRequest context.invocation := by
  rw [fitsRequest_iff]
  constructor
  · rintro ⟨normalised, hnormalised, bytes, target, hdecode⟩
    obtain ⟨w, -, rfl⟩ := decodeRequest_eq_some.mp hdecode
    have hfields := fieldsOf_normalised hnormalised
    rw [fieldsOf_context] at hfields
    have hshort : (fieldsOf context).Short := by
      rw [← hfields]
      exact w.short.of_subperm
        ((writtenPairs_perm target _).subperm.trans (firsts_sublist _).subperm)
    have hpath : w.path = context.invocation.path := congrArg RequestFields.path hfields
    exact ⟨hpath ▸ w.path_ne_nil, withinLimits_of_short hshort hnormalised⟩
  · rintro ⟨hpath, hlimits⟩
    exact ⟨_, stringNormalised_eq hlimits, _, _, decodeRequest_written hpath hlimits context⟩

/-- Encoder and decoder have the same domain but for the requests without a path that are within
all limits: those are written, and cannot be read. -/
theorem encode_decode_agree_iff (context : SocketCommandInvocationContext Value) :
    (((encodeRequest context).isSome ↔ Representable context) ∧
      ∀ bytes (target : SocketCommandInvocationContext Value),
        encodeRequest context = some bytes → (decodeRequest bytes target).isSome) ↔
      context.invocation.path ≠ [] ∨ ¬ WithinLimits context.invocation := by
  rw [encodeRequest_isSome_iff, representable_iff, fitsRequest_iff]
  constructor
  · rintro ⟨hsame, -⟩
    by_cases hlimits : WithinLimits context.invocation
    · exact .inl (hsame.mp hlimits).1
    · exact .inr hlimits
  · rintro (hpath | hlimits)
    · refine ⟨⟨fun h => ⟨hpath, h⟩, fun h => h.2⟩, fun bytes target hencode => ?_⟩
      have hlimits := (encodeRequest_isSome_iff context).mp (Option.isSome_iff_exists.mpr ⟨_, hencode⟩)
      rw [encodeRequest_within hlimits, encodedRequest_eq] at hencode
      rw [← Option.some.inj hencode, decodeRequest_written hpath hlimits]
      rfl
    · refine ⟨iff_of_false hlimits fun h => hlimits h.2, fun bytes target hencode => ?_⟩
      exact absurd ((encodeRequest_isSome_iff context).mp
        (Option.isSome_iff_exists.mpr ⟨_, hencode⟩)) hlimits

end

theorem encode_decode_agree_math :
    letI := scalarLibrary
    ((encodeRequest mathRequest).isSome ↔ Representable mathRequest) ∧
      ∀ bytes (target : SocketCommandInvocationContext ScalarValue),
        encodeRequest mathRequest = some bytes → (decodeRequest bytes target).isSome := by
  let _ := scalarLibrary
  have : LawfulCommandLibrary ScalarValue := ⟨fun _ => rfl, fun _ => rfl⟩
  have hpath : mathRequest.invocation.path ≠ [] := by decide
  exact (encode_decode_agree_iff mathRequest).mpr (.inl hpath)

/-- A request without a path is written, and its bytes are not read. -/
theorem pathless_request_written :
    letI := scalarLibrary
    ∃ bytes, encodeRequest ({} : SocketCommandInvocationContext ScalarValue) = some bytes ∧
      (∀ target : SocketCommandInvocationContext ScalarValue, decodeRequest bytes target = none) ∧
      ¬ Representable ({} : SocketCommandInvocationContext ScalarValue) := by
  let _ := scalarLibrary
  have : LawfulCommandLibrary ScalarValue := ⟨fun _ => rfl, fun _ => rfl⟩
  have hlimits : WithinLimits ({} : SocketCommandInvocationContext ScalarValue).invocation :=
    ⟨by decide, by decide, by decide, by decide, by decide, by decide, by decide, by decide⟩
  refine ⟨_, encodeRequest_within hlimits, fun target => ?_, ?_⟩
  · by_contra hread
    obtain ⟨w, hbytes⟩ := decodeRequest_isSome (Option.isSome_iff_ne_none.mpr hread)
    rw [encodedRequest_eq] at hbytes
    have hfields := ((reads_fields (short_fieldsOf hlimits)).unique (reads_fields w.short)
      (congrArg (· ++ []) hbytes)).1
    exact w.path_ne_nil (congrArg RequestFields.path hfields).symm
  · rw [representable_iff]
    exact fun h => h.path_ne_nil rfl

end Sockets.Command
