import Mathlib.Data.Prod.Lex
import Sockets.Foundation.Endian
import Sockets.State.Messages

/-! What is assumed of ESPressio State, one group of assumptions at a time, and a small library of
which all of it is true. -/
namespace Sockets.State
open Foundation

/-- The messages about subscriptions. -/
def MessageType.IsRequest : MessageType → Prop
  | .subscribe | .subscribeAcknowledgement | .unsubscribe | .unsubscribeAcknowledgement
  | .resynchronize => True
  | _ => False

/-- The messages about subscriptions, and the leave-taking. -/
def MessageType.IsControl (type : MessageType) : Prop := type.IsRequest ∨ type = .disconnect

theorem MessageType.isControl_subscribe : IsControl .subscribe := .inl trivial

/-- Epoch first, then revision. -/
def stamp (epoch revision : ℕ) : ℕ ×ₗ ℕ := toLex (epoch, revision)

def StateUpdateHeader.stamp {Device : Type} (h : StateUpdateHeader Device) : ℕ ×ₗ ℕ :=
  State.stamp h.epoch h.revision

variable (L : StateLibrary)

/-- Whoever reads an update finds the value in it and can acknowledge it. -/
structure Readable (parsed : ParsedUpdate L.Device) : Prop where
  decodes : parsed.header.typeId ∈ L.definitions →
    (L.decodeValue parsed.header.typeId parsed).isSome
  acknowledges : (L.encodeAcknowledgement ⟨parsed.header.origin, parsed.header.typeId,
    parsed.header.epoch, parsed.header.revision⟩).isSome

/-- What is encoded is decoded again, and fills the sizes the protocol promises. -/
structure LawfulProtocol : Prop where
  controlSize_lt : L.controlSize < 2 ^ 32
  acknowledgementSize_lt : L.acknowledgementSize < 2 ^ 32
  control : ∀ c : ControlMessage L.Device, c.type.IsRequest → c.device ≠ L.zero →
    ∃ payload, L.encodeControl c = some payload ∧ payload ≠ [] ∧
      payload.length ≤ L.controlSize ∧ parse L payload = some (.control c)
  acknowledgement : ∀ a payload, L.encodeAcknowledgement a = some payload → payload ≠ [] ∧
    payload.length ≤ L.acknowledgementSize ∧ parse L payload = some (.acknowledgement a)
  update : ∀ u limit payload, L.encodeUpdate u limit = some payload → payload ≠ [] ∧
    payload.length ≤ limit ∧ ∃ parsed, parse L payload = some (.update parsed) ∧
      parsed.header = u.header ∧ Readable L parsed

/-- What is encoded is decoded as the same message, if it is decoded at all. -/
structure FaithfulProtocol : Prop where
  control : ∀ c payload m, c.type.IsControl → L.encodeControl c = some payload →
    parse L payload = some m → m = .control c
  acknowledgement : ∀ a payload m, L.encodeAcknowledgement a = some payload →
    parse L payload = some m → m = .acknowledgement a
  update : ∀ u limit payload m, L.encodeUpdate u limit = some payload →
    parse L payload = some m → ∃ parsed, m = .update parsed ∧ parsed.header = u.header

/-- A registry is a set of descriptors. -/
structure LawfulSubscriptions : Prop where
  isSubscribed_iff : ∀ d t s, L.isSubscribed d t s = true ↔
    ∃ e ∈ L.descriptors s, e.typeId = t ∧ (e.scope = .anyDevice ∨ e.device = d)
  subscribe : ∀ d s, (L.subscribe d s).1 = true →
    ∀ e, e ∈ L.descriptors (L.subscribe d s).2 ↔ e = d ∨ e ∈ L.descriptors s
  subscribe_refused : ∀ d s, (L.subscribe d s).1 = false →
    ∀ e, e ∈ L.descriptors (L.subscribe d s).2 ↔ e ∈ L.descriptors s
  unsubscribe : ∀ d s, (L.unsubscribe d s).1 = true → d ∈ L.descriptors s ∧
    ∀ e, e ∈ L.descriptors (L.unsubscribe d s).2 ↔ e ≠ d ∧ e ∈ L.descriptors s
  unsubscribe_refused : ∀ d s, (L.unsubscribe d s).1 = false →
    ∀ e, e ∈ L.descriptors (L.unsubscribe d s).2 ↔ e ∈ L.descriptors s

/-- The subscribers of a session are a set, with room for the types of the contract as long as one
device asks for them. -/
structure LawfulSubscribers : Prop where
  empty : ∀ d t, L.hasSubscriber d t L.noSubscribers = false
  room : ∀ d t r, t ∈ L.definitions → d ≠ L.zero →
    (∀ d' t', L.hasSubscriber d' t' r = true → d' = d) → (L.addSubscriber d t r).1 = true
  add : ∀ d t r, (L.addSubscriber d t r).1 = true → ∀ d' t',
    L.hasSubscriber d' t' (L.addSubscriber d t r).2 = true ↔
      (d' = d ∧ t' = t) ∨ L.hasSubscriber d' t' r = true
  add_refused : ∀ d t r, (L.addSubscriber d t r).1 = false → ∀ d' t',
    L.hasSubscriber d' t' (L.addSubscriber d t r).2 = L.hasSubscriber d' t' r
  remove : ∀ d t r d' t', L.hasSubscriber d' t' (L.removeSubscriber d t r) = true ↔
    ¬(d' = d ∧ t' = t) ∧ L.hasSubscriber d' t' r = true

/-- The subscribers are a set of devices and types of the contract. -/
structure SubscriberSet : Prop extends LawfulSubscribers L where
  contract : ∀ d t r, (L.addSubscriber d t r).1 = true → t ∈ L.definitions
  removeDevice : ∀ d r d' t', L.hasSubscriber d' t' (L.removeDevice d r) = true ↔
    d' ≠ d ∧ L.hasSubscriber d' t' r = true
  subscribedTypes : ∀ d r t, t ∈ L.subscribedTypes d r ↔ L.hasSubscriber d t r = true

/-- A publisher keeps its identity and signs its updates with it. -/
structure LawfulPublisher : Prop where
  origin_snapshot : ∀ t p, L.origin (L.snapshot t p).2 = L.origin p
  origin_publish : ∀ t p, L.origin (L.publish t p).2 = L.origin p
  snapshot : ∀ t p, ∀ u ∈ (L.snapshot t p).1, u.header.origin = L.origin p ∧ u.header.typeId = t
  publish : ∀ t p, ∀ u ∈ (L.publish t p).1, u.header.origin = L.origin p ∧ u.header.typeId = t

/-- Publications carry ever newer revisions; `latest` is the newest one of each type, which is also
the one a snapshot shows. -/
structure IncreasingRevisions (latest : StateTypeId → L.Publisher → ℕ ×ₗ ℕ) : Prop where
  snapshot_le : ∀ t t' p, latest t' p ≤ latest t' (L.snapshot t p).2
  publish_le : ∀ t t' p, latest t' p ≤ latest t' (L.publish t p).2
  snapshot : ∀ t p, ∀ u ∈ (L.snapshot t p).1, u.header.stamp = latest t (L.snapshot t p).2
  publish : ∀ t p, ∀ u ∈ (L.publish t p).1, latest t p < u.header.stamp ∧
    u.header.stamp = latest t (L.publish t p).2

/-- The stamp of the value held for a device, if there is one. -/
def heldStamp (t : StateTypeId) (d : L.Device) (m : L.RemoteManager) : WithBot (ℕ ×ₗ ℕ) :=
  match L.read t d m with
  | none => ⊥
  | some current => if current.hasValue then ↑(stamp current.epoch current.revision) else ⊥

/-- A remote manager takes whatever is strictly newer than what it holds for a device it has room
for. -/
structure LawfulRemote (room : L.Device → L.RemoteManager → Prop) : Prop where
  held_setAvailability : ∀ t d d' a m,
    heldStamp L t d (L.setAvailability d' a m) = heldStamp L t d m
  room_setAvailability : ∀ d d' a m, room d m → room d (L.setAvailability d' a m)
  apply : ∀ t d e r v m, room d m → heldStamp L t d m < stamp e r →
    (L.apply t d e r v m).1 = true ∧ heldStamp L t d (L.apply t d e r v m).2 = stamp e r ∧
      room d (L.apply t d e r v m).2 ∧
      ∀ t', t' ≠ t → heldStamp L t' d (L.apply t d e r v m).2 = heldStamp L t' d m

section Table

/-- One byte for the kind of a message. -/
def tag : MessageType → UInt8
  | .update => 1
  | .acknowledgement => 2
  | .subscribe => 3
  | .subscribeAcknowledgement => 4
  | .unsubscribe => 5
  | .unsubscribeAcknowledgement => 6
  | .resynchronize => 7
  | .disconnect => 8
  | .other code => code

def typeOfTag (b : UInt8) : MessageType :=
  if b = 1 then .update
  else if b = 2 then .acknowledgement
  else if b = 3 then .subscribe
  else if b = 4 then .subscribeAcknowledgement
  else if b = 5 then .unsubscribe
  else if b = 6 then .unsubscribeAcknowledgement
  else if b = 7 then .resynchronize
  else if b = 8 then .disconnect
  else .other b

/-- What every message starts with: its kind, a device and a type. -/
def preamble (type : MessageType) (device : UInt8) (t : StateTypeId) : Bytes :=
  tag type :: device :: leBytes 8 t.toNat

def readTypeId (payload : Bytes) : StateTypeId := UInt64.ofNat (leNat ((payload.drop 2).take 8))

/-- The header of an update, and its acknowledgement. -/
def headerBytes (type : MessageType) (h : StateUpdateHeader UInt8) : Bytes :=
  preamble type h.origin h.typeId ++ leBytes 4 h.epoch ++ leBytes 4 h.revision

def readHeader (payload : Bytes) : Option (StateUpdateHeader UInt8) :=
  (payload.drop 1).head?.map fun origin =>
    { origin, typeId := readTypeId payload, epoch := leNat ((payload.drop 10).take 4)
      revision := leNat ((payload.drop 14).take 4) }

/-- A publisher of one type; it has a source for the type or not. -/
structure TablePublisher where
  device : UInt8
  source : Option UInt8
  revision : ℕ := 0

def TablePublisher.update (p : TablePublisher) (t : StateTypeId) (value : UInt8) :
    StateUpdate UInt8 UInt8 :=
  { header := { origin := p.device, typeId := t, epoch := 0, revision := p.revision }, value }

structure TableRemote where
  available : UInt8 → Option RemoteDeviceAvailability := fun _ => none
  held : StateTypeId → UInt8 → Option (ℕ × ℕ × UInt8) := fun _ _ => none

/-- One contract with the type 1, one-byte values and devices, and registries that are lists. -/
@[reducible] def tableLibrary : StateLibrary where
  Device := UInt8
  deviceEq := inferInstance
  zero := 0
  Value := UInt8
  definitions := [1]
  controlSize := 10
  acknowledgementSize := 18
  getMessageType payload := payload.head?.map typeOfTag
  encodeControl c := some (preamble c.type c.device c.typeId)
  decodeControl payload := (payload.drop 1).head?.map fun device =>
    { type := typeOfTag (payload.headD 0), device, typeId := readTypeId payload }
  encodeAcknowledgement a :=
    if a.epoch < 2 ^ 32 ∧ a.revision < 2 ^ 32 then
      some (headerBytes .acknowledgement ⟨a.origin, a.typeId, a.epoch, a.revision⟩)
    else none
  decodeAcknowledgement payload :=
    (readHeader payload).map fun h => ⟨h.origin, h.typeId, h.epoch, h.revision⟩
  encodeUpdate u limit :=
    if u.header.epoch < 2 ^ 32 ∧ u.header.revision < 2 ^ 32 ∧ 19 ≤ limit then
      some (headerBytes .update u.header ++ [u.value])
    else none
  decodeUpdate payload := (readHeader payload).map fun h => ⟨h, payload.drop 18⟩
  decodeValue _ parsed := parsed.value.head?
  Publisher := TablePublisher
  origin p := p.device
  publish t p :=
    match p.source with
    | none => (none, p)
    | some value =>
      let p := { p with revision := p.revision + 1 }
      (some (p.update t value), p)
  snapshot t p :=
    match p.source with
    | none => (none, p)
    | some value => (some (p.update t value), p)
  RemoteManager := TableRemote
  setAvailability d a m := { m with available := Function.update m.available d (some a) }
  read t d m := (m.held t d).map fun e => ⟨true, e.1, e.2.1⟩
  apply t d e r v m :=
    if (m.held t d).any fun h => e < h.1 || e = h.1 && r ≤ h.2.1 then (false, m)
    else
      (true, { m with
        held := fun t' d' => if t' = t ∧ d' = d then some (e, r, v) else m.held t' d' })
  Subscriptions := List (Descriptor UInt8)
  descriptors s := s
  isSubscribed d t s := s.any fun e => e.typeId = t && (e.scope = .anyDevice || e.device = d)
  subscribe d s := if d ∈ s then (false, s) else (true, s ++ [d])
  unsubscribe d s := if d ∈ s then (true, s.filter (· ≠ d)) else (false, s)
  Subscribers := List (UInt8 × StateTypeId)
  noSubscribers := []
  addSubscriber d t r :=
    if t ∈ [(1 : StateTypeId)] ∧ d ≠ 0 ∧ r.all fun e => e.1 = d then (true, (d, t) :: r) else (false, r)
  removeSubscriber d t r := r.filter (· ≠ (d, t))
  removeDevice d r := r.filter fun e => e.1 ≠ d
  hasSubscriber d t r := decide ((d, t) ∈ r)
  subscribedTypes d r := (r.filter fun e => e.1 = d).map Prod.snd

/-- A device with or without a source for the type, and without subscriptions. -/
def plainStore (device : UInt8) (source : Option UInt8) : Store tableLibrary where
  publisher := { device, source }
  remote := ({} : TableRemote)
  subscriptions := ([] : List (Descriptor UInt8))

private theorem typeOfTag_tag {type : MessageType} (h : type.IsControl) :
    typeOfTag (tag type) = type := by
  cases type <;> first | rfl | simp [MessageType.IsControl, MessageType.IsRequest] at h

private theorem readTypeId_preamble (type : MessageType) (device : UInt8) (t : StateTypeId)
    (rest : Bytes) : readTypeId (preamble type device t ++ rest) = t := by
  have hdrop : (preamble type device t ++ rest).drop 2 = leBytes 8 t.toNat ++ rest := rfl
  rw [readTypeId, hdrop, List.take_left' (length_leBytes 8 _), leNat_leBytes 8 _ t.toNat_lt]
  exact UInt64.ofNat_toNat

private theorem readHeader_headerBytes (type : MessageType) {h : StateUpdateHeader UInt8}
    (he : h.epoch < 2 ^ 32) (hr : h.revision < 2 ^ 32) (rest : Bytes) :
    readHeader (headerBytes type h ++ rest) = some h := by
  have hepoch : (headerBytes type h ++ rest).drop 10 =
      leBytes 4 h.epoch ++ (leBytes 4 h.revision ++ rest) := by
    rw [headerBytes, List.append_assoc, List.append_assoc]
    exact List.drop_left' (by simp [preamble])
  have hrevision : (headerBytes type h ++ rest).drop 14 = leBytes 4 h.revision ++ rest := by
    rw [headerBytes, List.append_assoc]
    exact List.drop_left' (by simp [preamble])
  have htype : readTypeId (headerBytes type h ++ rest) = h.typeId := by
    rw [headerBytes, List.append_assoc, List.append_assoc, readTypeId_preamble]
  have hhead : (headerBytes type h ++ rest).drop 1 = h.origin ::
    ((headerBytes type h ++ rest).drop 2) := rfl
  rw [readHeader, hepoch, hrevision, htype, hhead, List.take_left' (length_leBytes 4 _),
    List.take_left' (length_leBytes 4 _), leNat_leBytes 4 _ he, leNat_leBytes 4 _ hr]
  rfl

private theorem length_headerBytes (type : MessageType) (h : StateUpdateHeader UInt8) :
    (headerBytes type h).length = 18 := by
  simp [headerBytes, preamble]

private theorem parse_preamble {c : ControlMessage UInt8} (hc : c.type.IsControl) :
    parse tableLibrary (preamble c.type c.device c.typeId) = some (.control c) := by
  have htype := typeOfTag_tag hc
  have hread : readTypeId (preamble c.type c.device c.typeId) = c.typeId := by
    simpa using readTypeId_preamble c.type c.device c.typeId []
  have hdecode : tableLibrary.decodeControl (preamble c.type c.device c.typeId) = some c := by
    simp [tableLibrary, hread]
    simp [preamble, htype]
  have hget : tableLibrary.getMessageType (preamble c.type c.device c.typeId) = some c.type := by
    simp [preamble, htype]
  unfold parse
  rw [hget]
  cases htyp : c.type <;> simp_all [MessageType.IsControl, MessageType.IsRequest]

theorem lawfulProtocol_table : LawfulProtocol tableLibrary where
  controlSize_lt := by norm_num
  acknowledgementSize_lt := by norm_num
  control c hc _ :=
    ⟨_, rfl, by simp [preamble], by simp [preamble], parse_preamble (.inl hc)⟩
  acknowledgement a payload h := by
    obtain ⟨⟨he, hr⟩, rfl⟩ : (a.epoch < 2 ^ 32 ∧ a.revision < 2 ^ 32) ∧ _ = payload := by
      simpa [tableLibrary] using h
    refine ⟨by simp [headerBytes, preamble], by simp [length_headerBytes], ?_⟩
    have hread := readHeader_headerBytes .acknowledgement
      (h := ⟨a.origin, a.typeId, a.epoch, a.revision⟩) he hr []
    rw [List.append_nil] at hread
    simp [parse, hread, tableLibrary]
    simp [headerBytes, preamble, tag, typeOfTag]
  update u limit payload h := by
    obtain ⟨⟨he, hr, hlimit⟩, rfl⟩ :
      (u.header.epoch < 2 ^ 32 ∧ u.header.revision < 2 ^ 32 ∧ 19 ≤ limit) ∧ _ = payload := by
      simpa [tableLibrary] using h
    have hread := readHeader_headerBytes .update he hr [u.value]
    have hvalue : (headerBytes .update u.header ++ [u.value]).drop 18 = [u.value] :=
      List.drop_left' (length_headerBytes _ _)
    refine ⟨by simp, by simp [length_headerBytes, hlimit], ⟨u.header, [u.value]⟩, ?_, rfl, ?_⟩
    · simp [parse, hread, hvalue, tableLibrary]
      simp [headerBytes, preamble, tag, typeOfTag]
    · exact ⟨fun _ => rfl, by
        change (if u.header.epoch < 2 ^ 32 ∧ u.header.revision < 2 ^ 32 then some _ else none).isSome
        rw [if_pos ⟨he, hr⟩]
        rfl⟩

theorem faithfulProtocol_table : FaithfulProtocol tableLibrary where
  control c payload m hc h hparse := by
    obtain rfl : preamble c.type c.device c.typeId = payload := Option.some.inj h
    rw [parse_preamble hc] at hparse
    exact (Option.some.inj hparse).symm
  acknowledgement a payload m h hparse := by
    rw [(lawfulProtocol_table.acknowledgement a payload h).2.2] at hparse
    exact (Option.some.inj hparse).symm
  update u limit payload m h hparse := by
    obtain ⟨-, -, parsed, hparsed, hheader, -⟩ := lawfulProtocol_table.update u limit payload h
    rw [hparsed] at hparse
    exact ⟨parsed, (Option.some.inj hparse).symm, hheader⟩

theorem lawfulSubscriptions_table : LawfulSubscriptions tableLibrary where
  isSubscribed_iff d t s := by simp
  subscribe d s h e := by
    by_cases hd : d ∈ s <;> simp_all [tableLibrary, or_comm]
  subscribe_refused d s h e := by
    by_cases hd : d ∈ s <;> simp_all [tableLibrary]
  unsubscribe d s h := by
    by_cases hd : d ∈ s <;> simp_all [tableLibrary, and_comm]
  unsubscribe_refused d s h e := by
    by_cases hd : d ∈ s <;> simp_all [tableLibrary]

theorem lawfulSubscribers_table : LawfulSubscribers tableLibrary where
  empty d t := by simp
  room d t r ht hd hroom := by
    have hd' : ∀ e ∈ r, e.1 = d := fun e he => hroom e.1 e.2 (by simpa using he)
    exact congrArg Prod.fst (if_pos ⟨ht, hd, by simpa using hd'⟩)
  add d t r h d' t' := by
    simp only [tableLibrary] at h ⊢
    split_ifs at h ⊢
    simp_all
  add_refused d t r h d' t' := by
    simp only [tableLibrary] at h ⊢
    split_ifs at h ⊢
    simp_all
  remove d t r d' t' := by
    simp [imp_iff_not_or, and_comm]

theorem subscriberSet_table : SubscriberSet tableLibrary where
  toLawfulSubscribers := lawfulSubscribers_table
  contract d t r h := by
    simp only [tableLibrary] at h ⊢
    split_ifs at h
    simp_all
  removeDevice d r d' t' := by
    simp [and_comm]
  subscribedTypes d r t := by
    simp

theorem lawfulPublisher_table : LawfulPublisher tableLibrary where
  origin_snapshot t p := by
    cases hs : p.source <;> simp [tableLibrary, hs]
  origin_publish t p := by
    cases hs : p.source <;> simp [tableLibrary, hs]
  snapshot t p u hu := by
    cases hs : p.source <;> simp_all [tableLibrary, TablePublisher.update]
    exact hu ▸ ⟨rfl, rfl⟩
  publish t p u hu := by
    cases hs : p.source <;> simp_all [tableLibrary, TablePublisher.update]
    exact hu ▸ ⟨rfl, rfl⟩

theorem increasingRevisions_table :
    IncreasingRevisions tableLibrary fun _ p => stamp 0 p.revision where
  snapshot_le t _ p := by
    cases hs : p.source <;> simp [hs]
  publish_le t _ p := by
    cases hs : p.source <;> simp [hs, stamp, Prod.Lex.le_iff]
  snapshot t p u hu := by
    cases hs : p.source <;> simp_all [TablePublisher.update]
    exact hu ▸ rfl
  publish t p u hu := by
    cases hs : p.source <;> simp_all [TablePublisher.update]
    exact hu ▸ ⟨by simp [StateUpdateHeader.stamp, stamp, Prod.Lex.lt_iff], rfl⟩

theorem heldStamp_table (t : StateTypeId) (d : UInt8) (m : TableRemote) :
    heldStamp tableLibrary t d m = (m.held t d).elim ⊥ fun e => ↑(stamp e.1 e.2.1) := by
  simp only [heldStamp]
  cases m.held t d <;> rfl

theorem lawfulRemote_table : LawfulRemote tableLibrary fun _ _ => True where
  held_setAvailability t d d' a m := rfl
  room_setAvailability _ _ _ _ h := h
  apply t d e r v m _ h := by
    rw [heldStamp_table] at h
    have hnew : ¬ (m.held t d).any (fun h => e < h.1 || e = h.1 && r ≤ h.2.1) := by
      cases hheld : m.held t d with
      | none => simp
      | some c =>
        rw [hheld, Option.elim_some, WithBot.coe_lt_coe, stamp, stamp, Prod.Lex.lt_iff] at h
        simp only [Option.any_some, Bool.or_eq_true, Bool.and_eq_true, decide_eq_true_eq, ofLex_toLex]
          at h ⊢
        omega
    have happly : tableLibrary.apply t d e r v m = (true, { m with
        held := fun t' d' => if t' = t ∧ d' = d then some (e, r, v) else m.held t' d' }) :=
      if_neg hnew
    refine ⟨by rw [happly], by rw [happly, heldStamp_table]; simp, trivial, fun t' ht' => ?_⟩
    rw [happly, heldStamp_table, heldStamp_table]
    simp [ht']

end Table
end Sockets.State
