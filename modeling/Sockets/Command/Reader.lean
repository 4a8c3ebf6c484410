import Sockets.Foundation.Fallible
import Sockets.Command.RoundTrip

/-! What `Detail::Reader` touches when `DecodeRequest` and `DecodeResponse` run on any bytes: the
reader with an account of the offsets it subtracts, the bytes it reads and the loops it runs. -/
namespace Sockets.Command
open Foundation

/-- `std::size_t` subtraction. -/
def sizeSub [SizeWidth] (a b : ℕ) : ℕ := (a + (2 ^ SizeWidth.bits - b)) % 2 ^ SizeWidth.bits

theorem sizeSub_eq [SizeWidth] {a b : ℕ} (h : b ≤ a) (ha : a < 2 ^ SizeWidth.bits) :
    sizeSub a b = a - b := by
  have hsum : a + (2 ^ SizeWidth.bits - b) = a - b + 2 ^ SizeWidth.bits := by omega
  rw [sizeSub, hsum, Nat.add_mod_right, Nat.mod_eq_of_lt (by omega)]

/-- One call of an operation of the reader. -/
structure ReaderCall where
  start : ℕ
  /-- How many bytes hold the length that the operation reads first, 0 for a number. -/
  lengthField : ℕ
  /-- The values `offset_` had in `size_ - offset_`. -/
  tested : List ℕ
  reads : List ℕ
  stop : ℕ
  succeeded : Bool
  deriving DecidableEq

/-- `data_` with its size, `offset_`, and the account. -/
structure Reader where
  data : Bytes
  offset : ℕ := 0
  /-- What the call under way has tested and read. -/
  tested : List ℕ := []
  reads : List ℕ := []
  calls : List ReaderCall := []
  /-- Iterations begun, in all loops. -/
  turns : ℕ := 0
  /-- Where each iteration that came to its end began and ended. -/
  advances : List (ℕ × ℕ) := []
  deriving DecidableEq

namespace Reader
open Fallible
variable {α β : Type}

/-- The reader as it is made. -/
def ofData (data : Bytes) : Reader := { data }

def finished (r : Reader) : Bool := r.offset = r.data.length

/-- One iteration of a decoding loop. -/
def turn (p : Fallible Reader α) : Fallible Reader α := fun r =>
  match p { r with turns := r.turns + 1 } with
  | (none, t) => (none, t)
  | (some a, t) => (some a, { t with advances := t.advances ++ [(r.offset, t.offset)] })

section
variable [SizeWidth]

def remaining (r : Reader) : ℕ := sizeSub r.data.length r.offset

def need (count : ℕ) : Fallible Reader Unit := fun r =>
  (if count ≤ r.remaining then some () else none, { r with tested := r.tested ++ [r.offset] })

/-- `data_[offset_]` to `data_[offset_ + count - 1]`. A byte outside the data would read as 0. -/
def bytes (count : ℕ) : Fallible Reader Bytes := fun r =>
  let indices := (List.range count).map (sizeAdd r.offset)
  (some (indices.map fun i => r.data.getD i 0),
    { r with offset := sizeAdd r.offset count, reads := r.reads ++ indices })

def take (count : ℕ) : Fallible Reader Bytes := do
  need count
  bytes count

/-- A call enters the account when it returns. -/
def call (lengthField : ℕ) (p : Fallible Reader α) : Fallible Reader α := fun r =>
  let result := p { r with tested := [], reads := [] }
  let t := result.2
  (result.1, { t with calls := t.calls ++
    [⟨r.offset, lengthField, t.tested, t.reads, t.offset, result.1.isSome⟩] })

def u8 : Fallible Reader UInt8 := call 0 (UInt8.ofNat <$> (beNat <$> take 1))
def u16 : Fallible Reader ℕ := call 0 (beNat <$> take 2)
def u32 : Fallible Reader UInt32 := call 0 (UInt32.ofNat <$> (beNat <$> take 4))
def u64 : Fallible Reader UInt64 := call 0 (UInt64.ofNat <$> (beNat <$> take 8))
def i32 : Fallible Reader Int32 := (fun raw => ⟨raw⟩) <$> u32

/-- The length, which the source reads with `U16`, is part of this call. -/
def string16 : Fallible Reader Bytes := call 2 do
  let length ← beNat <$> take 2
  take length

def string32 : Fallible Reader Bytes := call 4 do
  let length ← UInt32.ofNat <$> (beNat <$> take 4)
  take length.toNat

def decodeRequest {Value : Type} [CommandLibrary Value]
    (context : SocketCommandInvocationContext Value) :
    Fallible Reader (SocketCommandInvocationContext Value) := do
  let magic ← u32
  require (magic = requestMagic)
  let v ← u8
  require (v = version)
  let requestID ← u64
  let pathCount ← u16
  let path ← many (turn string16) pathCount
  let positionalCount ← u16
  let positional ← many (turn (CommandLibrary.ofString <$> string16)) positionalCount
  let namedCount ← u16
  let pairs ← many (turn (Prod.mk <$> string16 <*> string16)) namedCount
  let named := pairs.foldl (fun m e => m.emplace e.1 (CommandLibrary.ofString e.2)) .empty
  let raw ← string32
  let finished ← query finished
  require (finished ∧ path ≠ [])
  return { invocation := { path, positional, named, raw }
           metadata := { context.metadata with requestID } }

def decodeResponse : Fallible Reader SocketCommandResponse := do
  let magic ← u32
  require (magic = responseMagic)
  let v ← u8
  require (v = version)
  let requestID ← u64
  let success ← u8
  require (success ≤ 1)
  let code ← i32
  let message ← string32
  let finished ← query finished
  require (finished = true)
  return { requestID, result := { success := success ≠ 0, code, message } }

end

/-! ### One call -/

/-- The reader stands inside its data, whose size fits `std::size_t`. -/
structure Fits [SizeWidth] (r : Reader) : Prop where
  offset : r.offset ≤ r.data.length
  size : r.data.length < 2 ^ SizeWidth.bits

/-- What a part of a call does: it moves on inside the data, and what it reads it has passed. -/
structure Within (r t : Reader) : Prop where
  data : t.data = r.data
  calls : t.calls = r.calls
  turns : t.turns = r.turns
  advances : t.advances = r.advances
  forward : r.offset ≤ t.offset
  offset : t.offset ≤ r.data.length
  tested : ∀ o ∈ t.tested, o ∈ r.tested ∨ o ≤ r.data.length
  reads : ∀ i ∈ t.reads, i ∈ r.reads ∨ r.offset ≤ i ∧ i < t.offset

theorem Within.trans {r t u : Reader} (h : Within r t) (h' : Within t u) : Within r u where
  data := h'.data.trans h.data
  calls := h'.calls.trans h.calls
  turns := h'.turns.trans h.turns
  advances := h'.advances.trans h.advances
  forward := h.forward.trans h'.forward
  offset := h.data ▸ h'.offset
  tested := by
    intro o ho
    rcases h'.tested o ho with ho | ho
    · exact h.tested o ho
    · exact .inr (h.data ▸ ho)
  reads := by
    intro i hi
    have hforward := h.forward
    have hforward' := h'.forward
    rcases h'.reads i hi with hi | hi
    · exact (h.reads i hi).imp_right fun hi => ⟨hi.1, by omega⟩
    · exact .inr ⟨by omega, hi.2⟩

/-- The bytes between two offsets, one by one. -/
theorem map_range_getD (data : Bytes) {offset count : ℕ} (h : offset + count ≤ data.length) :
    (List.range count).map (fun i => data.getD (offset + i) 0) =
      (data.drop offset).take count := by
  apply List.ext_getElem
  · simp only [List.length_map, List.length_range, List.length_take, List.length_drop]
    omega
  · intro i hi _
    have hlt : i < count := by simpa using hi
    have hin : offset + i < data.length := by omega
    simp [List.getD_eq_getElem?_getD, List.getElem?_eq_getElem hin]

variable [SizeWidth]

theorem Within.fits {r t : Reader} (h : Within r t) (hr : r.Fits) : t.Fits where
  offset := h.data ▸ h.offset
  size := h.data ▸ hr.size

/-- What `Need` and the bytes behind it do, when nothing underflows. -/
theorem take_eq {r : Reader} (hr : r.Fits) (count : ℕ) :
    take count r =
      if r.offset + count ≤ r.data.length then
        (some ((r.data.drop r.offset).take count),
          { r with offset := r.offset + count, tested := r.tested ++ [r.offset]
                   reads := r.reads ++ (List.range count).map (r.offset + ·) })
      else (none, { r with tested := r.tested ++ [r.offset] }) := by
  have hoff := hr.offset
  have hsize := hr.size
  have hremaining : r.remaining = r.data.length - r.offset := sizeSub_eq hoff hsize
  by_cases hcount : r.offset + count ≤ r.data.length
  · have hneed : need count r = (some (), { r with tested := r.tested ++ [r.offset] }) := by
      rw [need, if_pos (by omega)]
    have hindices : (List.range count).map (sizeAdd r.offset) =
        (List.range count).map (r.offset + ·) := by
      apply List.map_congr_left
      intro i hi
      have hi := List.mem_range.mp hi
      exact sizeAdd_eq (by omega)
    have hstop : sizeAdd r.offset count = r.offset + count := sizeAdd_eq (by omega)
    rw [if_pos hcount, take, bind_some hneed, bytes, hindices, hstop, List.map_map,
      ← map_range_getD r.data hcount]
    rfl
  · have hneed : need count r = (none, { r with tested := r.tested ++ [r.offset] }) := by
      rw [need, if_neg (by omega)]
    rw [if_neg hcount, take, bind_none hneed]

/-- The body of a call: a number moves by at least `w` where it succeeds, and where it fails it has
not moved past the `k` bytes of its length. -/
structure Body (k w : ℕ) (p : Fallible Reader α) : Prop where
  within : ∀ {r}, r.Fits → Within r (p r).2
  success : ∀ {r a t}, r.Fits → p r = (some a, t) → r.offset + w ≤ t.offset
  failure : ∀ {r t}, r.Fits → p r = (none, t) → t.offset ≤ r.offset + k

theorem take_some {r t : Reader} {count : ℕ} {bs : Bytes} (hr : r.Fits)
    (h : take count r = (some bs, t)) : t.offset = r.offset + count := by
  rw [take_eq hr] at h
  split_ifs at h
  · cases h
    rfl
  · cases h

theorem take_body (count : ℕ) : Body 0 count (take count) where
  within := by
    intro r hr
    have hoff := hr.offset
    rw [take_eq hr]
    split_ifs with hcount
    · refine ⟨rfl, rfl, rfl, rfl, Nat.le_add_right _ _, hcount, ?_, ?_⟩
      · intro o ho
        rcases List.mem_append.mp ho with ho | ho
        · exact .inl ho
        · exact .inr (List.mem_singleton.mp ho ▸ hoff)
      · intro i hi
        rcases List.mem_append.mp hi with hi | hi
        · exact .inl hi
        · obtain ⟨j, hj, rfl⟩ := List.mem_map.mp hi
          have hj := List.mem_range.mp hj
          exact .inr ⟨Nat.le_add_right _ _, Nat.add_lt_add_left hj _⟩
    · refine ⟨rfl, rfl, rfl, rfl, le_rfl, hoff, ?_, fun i hi => .inl hi⟩
      intro o ho
      rcases List.mem_append.mp ho with ho | ho
      · exact .inl ho
      · exact .inr (List.mem_singleton.mp ho ▸ hoff)
  success hr h := (take_some hr h).ge
  failure := by
    intro r t hr h
    rw [take_eq hr] at h
    split_ifs at h
    · cases h
    · cases h
      exact Nat.le_add_right _ _

theorem Body.map {k w : ℕ} {p : Fallible Reader α} (f : α → β) (hp : Body k w p) :
    Body k w (f <$> p) where
  within hr := by
    rw [map_eq]
    exact hp.within hr
  success := by
    intro r b t hr h
    rw [map_eq] at h
    rcases hp' : p r with ⟨_ | a, u⟩
    · rw [hp'] at h
      cases h
    · rw [hp'] at h
      cases h
      exact hp.success hr hp'
  failure := by
    intro r t hr h
    rw [map_eq] at h
    rcases hp' : p r with ⟨_ | a, u⟩
    · rw [hp'] at h
      cases h
      exact hp.failure hr hp'
    · rw [hp'] at h
      cases h

/-- A length and as many bytes as it says: where the bytes are missing the length was consumed. -/
theorem prefixed_body (w : ℕ) (length : Bytes → ℕ) :
    Body w w (take w >>= fun bs => take (length bs)) where
  within := by
    intro r hr
    rcases hfirst : take w r with ⟨_ | bs, t⟩
    · rw [bind_none hfirst]
      exact hfirst ▸ (take_body w).within hr
    · have hrt : Within r t := by simpa [hfirst] using (take_body w).within hr
      rw [bind_some hfirst]
      exact hrt.trans ((take_body _).within (hrt.fits hr))
  success := by
    intro r bs t hr h
    rcases hfirst : take w r with ⟨_ | prefixBytes, u⟩
    · rw [bind_none hfirst] at h
      cases h
    · have hru : Within r u := by simpa [hfirst] using (take_body w).within hr
      rw [bind_some hfirst] at h
      have hu := take_some hr hfirst
      have ht := take_some (hru.fits hr) h
      omega
  failure := by
    intro r t hr h
    rcases hfirst : take w r with ⟨_ | prefixBytes, u⟩
    · rw [bind_none hfirst] at h
      cases h
      exact ((take_body w).failure hr hfirst).trans (Nat.le_add_right _ _)
    · have hru : Within r u := by simpa [hfirst] using (take_body w).within hr
      rw [bind_some hfirst] at h
      have hu := take_some hr hfirst
      have ht := (take_body _).failure (hru.fits hr) h
      omega

/-! ### The account -/

/-- A call that stays in bounds: it starts and ends inside the data, subtracts no more than the size
and reads only bytes of the data; where it fails, only bytes of its own length. -/
structure InBounds (size : ℕ) (c : ReaderCall) : Prop where
  start : c.start ≤ size
  stop : c.stop ≤ size
  tested : ∀ o ∈ c.tested, o ≤ size ∧ sizeSub size o = size - o
  reads : ∀ i ∈ c.reads, i < size
  failed : c.succeeded = false → ∀ i ∈ c.reads, c.start ≤ i ∧ i < c.start + c.lengthField

/-- The account of a reader over `data`: every call stays in bounds, an iteration that came to its
end consumed two bytes at least, and so no more iterations began than half the size. -/
structure Sound (data : Bytes) (r : Reader) : Prop where
  same : r.data = data
  offset : r.offset ≤ data.length
  calls : ∀ c ∈ r.calls, InBounds data.length c
  turns : r.turns ≤ data.length / 2
  advances : ∀ a ∈ r.advances, a.1 + 2 ≤ a.2

theorem ofData_sound (data : Bytes) : Sound data (ofData data) ∧ (ofData data).turns = 0 := by
  refine ⟨⟨rfl, Nat.zero_le _, ?_, Nat.zero_le _, ?_⟩, rfl⟩
  · intro c hc
    cases hc
  · intro a ha
    cases ha

/-- An operation keeps the account sound, and where it succeeds it moves by at least `w`. -/
structure Consumes (data : Bytes) (w : ℕ) (p : Fallible Reader α) : Prop where
  sound : ∀ {r}, Sound data r → Sound data (p r).2
  turns : ∀ {r}, Sound data r → (p r).2.turns = r.turns
  forward : ∀ {r a t}, Sound data r → p r = (some a, t) → r.offset + w ≤ t.offset

section
variable {data : Bytes} {k v w : ℕ} {p : Fallible Reader α}

/-- A call enters the account as one that stays in bounds. -/
theorem call_consumes (hsize : data.length < 2 ^ SizeWidth.bits) (hp : Body k w p) :
    Consumes data w (call k p) where
  sound := by
    intro r hr
    have hfits : Fits { r with tested := [], reads := [] } :=
      ⟨hr.same ▸ hr.offset, hr.same ▸ hsize⟩
    have hwithin := hp.within hfits
    have hstop : (p { r with tested := [], reads := [] }).2.offset ≤ data.length :=
      hr.same ▸ hwithin.offset
    refine ⟨hwithin.data.trans hr.same, hstop, ?_, ?_, ?_⟩
    · intro c hc
      rcases List.mem_append.mp hc with hc | hc
      · exact hr.calls c (hwithin.calls ▸ hc)
      · rw [List.mem_singleton.mp hc]
        refine ⟨hr.offset, hstop, ?_, ?_, ?_⟩
        · intro o ho
          have hle : o ≤ data.length := by
            rcases hwithin.tested o ho with hnone | hle
            · cases hnone
            · exact hr.same ▸ hle
          exact ⟨hle, sizeSub_eq hle hsize⟩
        · intro i hi
          rcases hwithin.reads i hi with hnone | hin
          · cases hnone
          · exact hin.2.trans_le hstop
        · intro hfailed i hi
          rcases hwithin.reads i hi with hnone | hin
          · cases hnone
          · rcases hrun : p { r with tested := [], reads := [] } with ⟨_ | a, t⟩
            · have hfailure := hp.failure hfits hrun
              have hpassed := hin.2
              rw [hrun] at hpassed
              exact ⟨hin.1, hpassed.trans_le hfailure⟩
            · simp [hrun] at hfailed
    · exact hwithin.turns ▸ hr.turns
    · exact hwithin.advances ▸ hr.advances
  turns hr := (hp.within ⟨hr.same ▸ hr.offset, hr.same ▸ hsize⟩).turns
  forward := by
    intro r a t hr h
    have hfits : Fits { r with tested := [], reads := [] } :=
      ⟨hr.same ▸ hr.offset, hr.same ▸ hsize⟩
    rcases hrun : p { r with tested := [], reads := [] } with ⟨b, u⟩
    simp only [call, hrun, Prod.mk.injEq] at h
    obtain ⟨rfl, rfl⟩ := h
    have hsuccess := hp.success hfits hrun
    exact hsuccess

theorem Consumes.map (f : α → β) (hp : Consumes data w p) : Consumes data w (f <$> p) where
  sound hr := by
    rw [map_eq]
    exact hp.sound hr
  turns hr := by
    rw [map_eq]
    exact hp.turns hr
  forward := by
    intro r b t hr h
    rcases hrun : p r with ⟨_ | a, u⟩
    · rw [map_eq, hrun] at h
      cases h
    · rw [map_eq, hrun] at h
      cases h
      exact hp.forward hr hrun

theorem Consumes.bind {q : α → Fallible Reader β} (hp : Consumes data v p)
    (hq : ∀ a, Consumes data w (q a)) : Consumes data (v + w) (p >>= q) where
  sound := by
    intro r hr
    rcases hrun : p r with ⟨_ | a, t⟩
    · rw [bind_none hrun]
      simpa [hrun] using hp.sound hr
    · have ht : Sound data t := by simpa [hrun] using hp.sound hr
      rw [bind_some hrun]
      exact (hq a).sound ht
  turns := by
    intro r hr
    rcases hrun : p r with ⟨_ | a, t⟩
    · rw [bind_none hrun]
      simpa [hrun] using hp.turns hr
    · have ht : Sound data t := by simpa [hrun] using hp.sound hr
      have hturns : t.turns = r.turns := by simpa [hrun] using hp.turns hr
      rw [bind_some hrun, (hq a).turns ht, hturns]
  forward := by
    intro r b u hr h
    rcases hrun : p r with ⟨_ | a, t⟩
    · rw [bind_none hrun] at h
      cases h
    · have ht : Sound data t := by simpa [hrun] using hp.sound hr
      rw [bind_some hrun] at h
      have hfirst := hp.forward hr hrun
      have hsecond := (hq a).forward ht h
      omega

theorem Consumes.mono (hp : Consumes data w p) (h : v ≤ w) : Consumes data v p where
  sound := hp.sound
  turns := hp.turns
  forward hr hrun := by
    have hforward := hp.forward hr hrun
    omega

/-- Two bytes are behind the reader for every iteration begun, and two for the next one. -/
structure Ready (data : Bytes) (r : Reader) : Prop where
  sound : Sound data r
  behind : 2 * r.turns + 2 ≤ r.offset

/-- The first two bytes make the reader ready. -/
theorem Consumes.first (hp : Consumes data 2 p) :
    Holds (fun r => Sound data r ∧ r.turns = 0) p (Ready data) (Sound data) := by
  rintro r ⟨hr, hzero⟩
  constructor
  · intro a t h
    have hsound : Sound data t := by simpa [h] using hp.sound hr
    have hturns : t.turns = r.turns := by simpa [h] using hp.turns hr
    have hforward := hp.forward hr h
    exact ⟨hsound, by omega⟩
  · intro t h
    simpa [h] using hp.sound hr

theorem Consumes.ready (hp : Consumes data w p) :
    Holds (Ready data) p (Ready data) (Sound data) := by
  rintro r ⟨hr, hbehind⟩
  constructor
  · intro a t h
    have hsound : Sound data t := by simpa [h] using hp.sound hr
    have hturns : t.turns = r.turns := by simpa [h] using hp.turns hr
    have hforward := hp.forward hr h
    exact ⟨hsound, by omega⟩
  · intro t h
    simpa [h] using hp.sound hr

/-- An iteration pays for itself: it may begin, and where it ends another one may. -/
theorem turn_ready (hp : Consumes data 2 p) :
    Holds (Ready data) (turn p) (Ready data) (Sound data) := by
  rintro r ⟨hr, hbehind⟩
  have hbegun : Sound data { r with turns := r.turns + 1 } := by
    refine ⟨hr.same, hr.offset, hr.calls, ?_, hr.advances⟩
    have hoff := hr.offset
    show r.turns + 1 ≤ data.length / 2
    omega
  have hsound := hp.sound hbegun
  have hturns := hp.turns hbegun
  rcases hrun : p { r with turns := r.turns + 1 } with ⟨_ | a, t⟩
  · have hturn : turn p r = (none, t) := by simp only [turn, hrun]
    rw [hrun] at hsound
    rw [hturn]
    constructor
    · intro b u h
      cases h
    · intro u h
      cases h
      exact hsound
  · have hturn : turn p r = (some a, { t with advances := t.advances ++ [(r.offset, t.offset)] }) :=
      by simp only [turn, hrun]
    have hmoved := hp.forward hbegun hrun
    have hforward : r.offset + 2 ≤ t.offset := hmoved
    rw [hrun] at hsound hturns
    have hcount : t.turns = r.turns + 1 := hturns
    rw [hturn]
    constructor
    · intro b u h
      cases h
      refine ⟨⟨hsound.same, hsound.offset, hsound.calls, hsound.turns, ?_⟩, ?_⟩
      · intro a ha
        rcases List.mem_append.mp ha with ha | ha
        · exact hsound.advances a ha
        · rw [List.mem_singleton.mp ha]
          exact hforward
      · show 2 * t.turns + 2 ≤ t.offset
        omega
    · intro u h
      cases h

/-- A check between two reads changes nothing. -/
theorem require_ready (P : Prop) [Decidable P] :
    Holds (Ready data) (require P) (Ready data) (Sound data) :=
  Holds.require P fun _ hr => hr.sound

/-! ### The decoders -/

variable (hsize : data.length < 2 ^ SizeWidth.bits)
include hsize

theorem u8_consumes : Consumes data 1 u8 :=
  call_consumes hsize (((take_body 1).map beNat).map UInt8.ofNat)

theorem u16_consumes : Consumes data 2 u16 :=
  call_consumes hsize ((take_body 2).map beNat)

theorem u32_consumes : Consumes data 4 u32 :=
  call_consumes hsize (((take_body 4).map beNat).map UInt32.ofNat)

theorem u64_consumes : Consumes data 8 u64 :=
  call_consumes hsize (((take_body 8).map beNat).map UInt64.ofNat)

theorem i32_consumes : Consumes data 4 i32 :=
  (u32_consumes hsize).map fun raw => (⟨raw⟩ : Int32)

theorem string16_consumes : Consumes data 2 string16 := by
  have hbody : Body 2 2 (beNat <$> take 2 >>= take) := by
    rw [map_bind]
    exact prefixed_body 2 beNat
  exact call_consumes hsize hbody

theorem string32_consumes : Consumes data 4 string32 := by
  have hbody : Body 4 4 (UInt32.ofNat <$> (beNat <$> take 4) >>= fun l => take l.toNat) := by
    rw [map_bind, map_bind]
    exact prefixed_body 4 fun bs => (UInt32.ofNat (beNat bs)).toNat
  exact call_consumes hsize hbody

theorem pair_consumes : Consumes data 2 (Prod.mk <$> string16 <*> string16) := by
  have hstring := string16_consumes hsize
  have hpair := (hstring.map Prod.mk).bind fun key => hstring.map key
  exact hpair.mono (by norm_num)

/-- The four bytes of the magic number make the reader ready, and every later step keeps it so. -/
theorem decodeRequest_sound {Value : Type} [CommandLibrary Value]
    (context : SocketCommandInvocationContext Value) :
    Sound data (decodeRequest context (ofData data)).2 := by
  have hstring := string16_consumes hsize
  have hvalue : Consumes data 2 ((CommandLibrary.ofString : Bytes → Value) <$> string16) :=
    hstring.map CommandLibrary.ofString
  have hruns : Holds (fun r => Sound data r ∧ r.turns = 0) (decodeRequest context) (Ready data)
      (Sound data) := by
    unfold decodeRequest
    refine ((u32_consumes hsize).mono (by norm_num)).first.bind fun magic => ?_
    refine (require_ready _).bind fun _ => ?_
    refine (u8_consumes hsize).ready.bind fun v => ?_
    refine (require_ready _).bind fun _ => ?_
    refine (u64_consumes hsize).ready.bind fun requestID => ?_
    refine (u16_consumes hsize).ready.bind fun pathCount => ?_
    refine ((turn_ready hstring).many _).bind fun path => ?_
    refine (u16_consumes hsize).ready.bind fun positionalCount => ?_
    refine ((turn_ready hvalue).many _).bind fun positional => ?_
    refine (u16_consumes hsize).ready.bind fun namedCount => ?_
    refine ((turn_ready (pair_consumes hsize)).many _).bind fun pairs => ?_
    refine (string32_consumes hsize).ready.bind fun raw => ?_
    refine (Holds.query _).bind fun finished => ?_
    exact (require_ready _).bind fun _ => Holds.pure _
  exact hruns.ends (fun r hr => hr.sound) (ofData_sound data)

theorem decodeResponse_sound : Sound data (decodeResponse (ofData data)).2 := by
  have hruns : Holds (fun r => Sound data r ∧ r.turns = 0) decodeResponse (Ready data)
      (Sound data) := by
    unfold decodeResponse
    refine ((u32_consumes hsize).mono (by norm_num)).first.bind fun magic => ?_
    refine (require_ready _).bind fun _ => ?_
    refine (u8_consumes hsize).ready.bind fun v => ?_
    refine (require_ready _).bind fun _ => ?_
    refine (u64_consumes hsize).ready.bind fun requestID => ?_
    refine (u8_consumes hsize).ready.bind fun success => ?_
    refine (require_ready _).bind fun _ => ?_
    refine (i32_consumes hsize).ready.bind fun code => ?_
    refine (string32_consumes hsize).ready.bind fun message => ?_
    refine (Holds.query _).bind fun finished => ?_
    exact (require_ready _).bind fun _ => Holds.pure _
  exact hruns.ends (fun r hr => hr.sound) (ofData_sound data)

end

/-! ### The same decoders without the account -/

def cursor (r : Reader) : Cursor := ⟨r.data, r.offset⟩

theorem take_follows (count : ℕ) : Follows cursor Fits (take count) (Cursor.take count) := by
  intro r hr
  have hoff := hr.offset
  rw [take_eq hr]
  split_ifs with hcount
  · have hneed : Cursor.need count (cursor r) = true := by
      apply decide_eq_true
      show count ≤ r.data.length - r.offset
      omega
    constructor
    · intro bs t h
      cases h
      exact ⟨by rw [Cursor.take, if_pos hneed]; rfl, hcount, hr.size⟩
    · intro t h
      cases h
  · have hneed : ¬ Cursor.need count (cursor r) = true := by
      intro hneed
      have hle : count ≤ r.data.length - r.offset := of_decide_eq_true hneed
      omega
    constructor
    · intro bs t h
      cases h
    · intro t _
      rw [Cursor.take, if_neg hneed]

section
variable {p : Fallible Reader α} {q : Read α}

theorem call_follows (k : ℕ) (hp : Follows cursor Fits p q) : Follows cursor Fits (call k p) q := by
  apply hp.around (fun r => { r with tested := [], reads := [] })
  · intro r hr
    exact ⟨⟨hr.offset, hr.size⟩, rfl⟩
  · intro r
    rfl
  · intro r hr
    exact ⟨⟨hr.offset, hr.size⟩, rfl⟩

theorem turn_follows (hp : Follows cursor Fits p q) : Follows cursor Fits (turn p) q := by
  apply hp.around (fun r => { r with turns := r.turns + 1 })
  · intro r hr
    exact ⟨⟨hr.offset, hr.size⟩, rfl⟩
  · intro r
    unfold turn
    rcases p { r with turns := r.turns + 1 } with ⟨_ | a, t⟩
    · rfl
    · rfl
  · intro r hr
    unfold turn
    rcases hrun : p { r with turns := r.turns + 1 } with ⟨_ | a, t⟩
    · rw [hrun] at hr
      exact ⟨hr, rfl⟩
    · rw [hrun] at hr
      exact ⟨⟨hr.offset, hr.size⟩, rfl⟩

end

theorem u8_follows : Follows cursor Fits u8 readU8 :=
  call_follows 0 (((take_follows 1).map beNat).map UInt8.ofNat)

theorem u16_follows : Follows cursor Fits u16 readU16 :=
  call_follows 0 ((take_follows 2).map beNat)

theorem u32_follows : Follows cursor Fits u32 readU32 :=
  call_follows 0 (((take_follows 4).map beNat).map UInt32.ofNat)

theorem u64_follows : Follows cursor Fits u64 readU64 :=
  call_follows 0 (((take_follows 8).map beNat).map UInt64.ofNat)

theorem i32_follows : Follows cursor Fits i32 readI32 :=
  u32_follows.map fun raw => (⟨raw⟩ : Int32)

theorem string16_follows : Follows cursor Fits string16 readString16 :=
  call_follows 2 (((take_follows 2).map beNat).bind fun length => take_follows length)

theorem string32_follows : Follows cursor Fits string32 readString32 :=
  call_follows 4 ((((take_follows 4).map beNat).map UInt32.ofNat).bind fun length =>
    take_follows length.toNat)

theorem finished_follows : Follows cursor Fits (query finished) readFinished := by
  intro r hr
  constructor
  · intro b t h
    cases h
    exact ⟨rfl, hr⟩
  · intro t h
    cases h

theorem ofData_fits {data : Bytes} (hsize : data.length < 2 ^ SizeWidth.bits) :
    (ofData data).Fits := ⟨Nat.zero_le _, hsize⟩

/-- With the account or without it, `DecodeRequest` finds the same. -/
theorem decodeRequest_value {Value : Type} [CommandLibrary Value] {data : Bytes}
    (hsize : data.length < 2 ^ SizeWidth.bits) (context : SocketCommandInvocationContext Value) :
    (decodeRequest context (ofData data)).1 = Command.decodeRequest data context := by
  have hfollows : Follows cursor Fits (decodeRequest context) (readRequest context) := by
    unfold decodeRequest readRequest
    refine u32_follows.bind fun magic => (Follows.require _).bind fun _ => ?_
    refine u8_follows.bind fun v => (Follows.require _).bind fun _ => ?_
    refine u64_follows.bind fun requestID => ?_
    refine u16_follows.bind fun pathCount => ?_
    refine ((turn_follows string16_follows).many _).bind fun path => ?_
    refine u16_follows.bind fun positionalCount => ?_
    refine ((turn_follows (string16_follows.map _)).many _).bind fun positional => ?_
    refine u16_follows.bind fun namedCount => ?_
    have hpair := (string16_follows.map Prod.mk).seq string16_follows
    refine ((turn_follows hpair).many _).bind fun pairs => ?_
    refine string32_follows.bind fun raw => finished_follows.bind fun finished => ?_
    exact (Follows.require _).bind fun _ => Follows.pure _
  exact hfollows.value (ofData_fits hsize)

theorem decodeResponse_value {data : Bytes} (hsize : data.length < 2 ^ SizeWidth.bits) :
    (decodeResponse (ofData data)).1 = Command.decodeResponse data := by
  have hfollows : Follows cursor Fits decodeResponse readResponse := by
    unfold decodeResponse readResponse
    refine u32_follows.bind fun magic => (Follows.require _).bind fun _ => ?_
    refine u8_follows.bind fun v => (Follows.require _).bind fun _ => ?_
    refine u64_follows.bind fun requestID => ?_
    refine u8_follows.bind fun success => (Follows.require _).bind fun _ => ?_
    refine i32_follows.bind fun code => string32_follows.bind fun message => ?_
    refine finished_follows.bind fun finished => ?_
    exact (Follows.require _).bind fun _ => Follows.pure _
  exact hfollows.value (ofData_fits hsize)

/-- Whatever bytes they are given, both decoders stay inside them. -/
theorem decoders_in_bounds {Value : Type} [CommandLibrary Value] {data : Bytes}
    (hsize : data.length < 2 ^ SizeWidth.bits) (context : SocketCommandInvocationContext Value) :
    ((decodeRequest context (ofData data)).1 = Command.decodeRequest data context ∧
      Sound data (decodeRequest context (ofData data)).2) ∧
    (decodeResponse (ofData data)).1 = Command.decodeResponse data ∧
      Sound data (decodeResponse (ofData data)).2 :=
  ⟨⟨decodeRequest_value hsize context, decodeRequest_sound hsize context⟩,
    decodeResponse_value hsize, decodeResponse_sound hsize⟩

/-- 65535 path components are declared, and five bytes of the first; two are there. -/
def truncatedRequest : Bytes :=
  appendU32 requestMagic.toNat ++ appendU8 version ++ appendU64 7 ++ appendU16 0xFFFF ++
    appendU16 5 ++ text "ab"

omit [SizeWidth] in
theorem decoders_in_bounds_truncated :
    letI := SizeWidth.esp32
    letI := scalarLibrary
    Sound truncatedRequest (decodeRequest ({} : SocketCommandInvocationContext ScalarValue)
      (ofData truncatedRequest)).2 ∧
    (decodeRequest ({} : SocketCommandInvocationContext ScalarValue)
      (ofData truncatedRequest)).2.calls.getLast? =
        some ⟨15, 2, [15, 17], [15, 16], 17, false⟩ := by
  let _ := SizeWidth.esp32
  let _ := scalarLibrary
  have hsize : truncatedRequest.length < 2 ^ SizeWidth.bits := by decide
  exact ⟨(decoders_in_bounds hsize {}).1.2, by decide +kernel⟩

end Reader
end Sockets.Command
