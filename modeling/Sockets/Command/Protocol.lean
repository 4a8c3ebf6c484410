import Sockets.Foundation.Cursor
import Sockets.Command.Types

/-! `SocketCommandProtocol`: structured requests and responses as big-endian length-prefixed
messages. Encoders give the bytes they append; where one gives `none` the source returns false and
its callers drop the partial output. -/
namespace Sockets.Command
open Foundation

/-- "ESCQ" and "ESCR" on the wire. -/
def requestMagic : UInt32 := 0x45534351
def responseMagic : UInt32 := 0x45534352
def version : UInt8 := 1

def appendU8 (value : UInt8) : Bytes := beBytes 1 value.toNat
def appendU16 (value : ℕ) : Bytes := beBytes 2 value
def appendU32 (value : ℕ) : Bytes := beBytes 4 value
def appendU64 (value : UInt64) : Bytes := beBytes 8 value.toNat
def appendI32 (value : Int32) : Bytes := appendU32 value.toUInt32.toNat

def appendString16 (value : Bytes) : Option Bytes :=
  if 0xFFFF < value.length then none else some (appendU16 value.length ++ value)

def appendString32 (value : Bytes) : Option Bytes :=
  if 0xFFFFFFFF < value.length then none else some (appendU32 value.length ++ value)

/-- A loop that appends item after item and gives up at the first one it cannot append. -/
def appendAll {α : Type} (append : α → Option Bytes) : List α → Option Bytes
  | [] => some []
  | x :: xs => do
    let item ← append x
    let items ← appendAll append xs
    return item ++ items

/-! `Detail::Reader`. -/

def readU8 : Read UInt8 := UInt8.ofNat <$> (beNat <$> Cursor.take 1)
def readU16 : Read ℕ := beNat <$> Cursor.take 2
def readU32 : Read UInt32 := UInt32.ofNat <$> (beNat <$> Cursor.take 4)
def readU64 : Read UInt64 := UInt64.ofNat <$> (beNat <$> Cursor.take 8)
def readI32 : Read Int32 := (fun raw => ⟨raw⟩) <$> readU32

def readString16 : Read Bytes := do
  let length ← readU16
  Cursor.take length

def readString32 : Read Bytes := do
  let length ← readU32
  Cursor.take length.toNat

def readFinished : Read Bool := fun c => some (c.finished, c)

section
variable {Value : Type} [CommandLibrary Value]

def appendCommandValue16 (value : Value) : Option Bytes :=
  if CommandLibrary.isNull value then none else appendString16 (CommandLibrary.toString value)

def appendNamed (item : Bytes × Value) : Option Bytes := do
  let key ← appendString16 item.1
  let value ← appendCommandValue16 item.2
  return key ++ value

def encodeRequest (context : SocketCommandInvocationContext Value) : Option Bytes := do
  let i := context.invocation
  if 0xFFFF < i.path.length ∨ 0xFFFF < i.positional.length ∨ 0xFFFF < i.named.entries.length then
    none
  let path ← appendAll appendString16 i.path
  let positional ← appendAll appendCommandValue16 i.positional
  let named ← appendAll appendNamed i.named.entries
  let raw ← appendString32 i.raw
  return appendU32 requestMagic.toNat ++ (appendU8 version ++ (appendU64 context.metadata.requestID ++
    (appendU16 i.path.length ++ (path ++ (appendU16 i.positional.length ++ (positional ++
      (appendU16 i.named.entries.length ++ (named ++ raw))))))))

/-- The body of `DecodeRequest`, which starts from an empty invocation. -/
def readRequest (context : SocketCommandInvocationContext Value) :
    Read (SocketCommandInvocationContext Value) := do
  let magic ← readU32
  guard (magic = requestMagic)
  let v ← readU8
  guard (v = version)
  let requestID ← readU64
  let pathCount ← readU16
  let path ← Cursor.many readString16 pathCount
  let positionalCount ← readU16
  let positional ← Cursor.many (CommandLibrary.ofString <$> readString16) positionalCount
  let namedCount ← readU16
  let pairs ← Cursor.many (Prod.mk <$> readString16 <*> readString16) namedCount
  let named := pairs.foldl (fun m e => m.emplace e.1 (CommandLibrary.ofString e.2)) .empty
  let raw ← readString32
  let finished ← readFinished
  guard (finished ∧ path ≠ [])
  return { invocation := { path, positional, named, raw }
           metadata := { context.metadata with requestID } }

/-- `DecodeRequest` into `context`; after a failure the callers drop the context. -/
def decodeRequest (data : Bytes) (context : SocketCommandInvocationContext Value) :
    Option (SocketCommandInvocationContext Value) :=
  ((readRequest context) ⟨data, 0⟩).map Prod.fst

/-- Decoding a request leaves everything but its number in the metadata. -/
theorem decodeRequest_metadata {data : Bytes}
    {context decoded : SocketCommandInvocationContext Value}
    (h : decodeRequest data context = some decoded) :
    decoded.metadata = { context.metadata with requestID := decoded.metadata.requestID } := by
  have hyields : Yields (readRequest context) fun decoded => decoded.metadata =
      { context.metadata with requestID := decoded.metadata.requestID } :=
    .bind fun _ => .bind fun _ => .bind fun _ => .bind fun _ => .bind fun _ => .bind fun _ =>
      .bind fun _ => .bind fun _ => .bind fun _ => .bind fun _ => .bind fun _ => .bind fun _ =>
        .bind fun _ => .bind fun _ => .pure rfl
  obtain ⟨⟨_, c⟩, hread, rfl⟩ := Option.map_eq_some_iff.mp h
  exact hyields _ _ c hread

end

def encodeResponse (response : SocketCommandResponse) : Option Bytes := do
  let message ← appendString32 response.result.message
  return appendU32 responseMagic.toNat ++ (appendU8 version ++ (appendU64 response.requestID ++
    (appendU8 (if response.result.success then 1 else 0) ++ (appendI32 response.result.code ++
      message))))

def readResponse : Read SocketCommandResponse := do
  let magic ← readU32
  guard (magic = responseMagic)
  let v ← readU8
  guard (v = version)
  let requestID ← readU64
  let success ← readU8
  guard (success ≤ 1)
  let code ← readI32
  let message ← readString32
  let finished ← readFinished
  guard (finished = true)
  return { requestID, result := { success := success ≠ 0, code, message } }

/-- `DecodeResponse`; after a failure the callers drop the response. -/
def decodeResponse (data : Bytes) : Option SocketCommandResponse :=
  (readResponse ⟨data, 0⟩).map Prod.fst

/-- The empty vector stands for a payload that is too long. -/
def frameStructuredPayload (payload : Bytes) : Bytes :=
  if 0xFFFFFFFF < payload.length then [] else appendU32 payload.length ++ payload

theorem appendAll_eq_some {α : Type} {append : α → Option Bytes} {encode : α → Bytes}
    {xs : List α} (h : ∀ x ∈ xs, append x = some (encode x)) :
    appendAll append xs = some (xs.map encode).flatten := by
  induction xs with
  | nil => rfl
  | cons x xs ih =>
    simp [appendAll, h x List.mem_cons_self, ih fun y hy => h y (List.mem_cons_of_mem _ hy)]

theorem reads_U8 (value : UInt8) : Reads readU8 (appendU8 value) value := by
  have hread := (Reads.beNat (w := 1) (n := value.toNat) value.toNat_lt).map UInt8.ofNat
  rwa [UInt8.ofNat_toNat] at hread

theorem reads_U16 {value : ℕ} (h : value ≤ 0xFFFF) : Reads readU16 (appendU16 value) value :=
  Reads.beNat (by omega)

theorem reads_U32 (value : UInt32) : Reads readU32 (appendU32 value.toNat) value := by
  have hread := (Reads.beNat (w := 4) (n := value.toNat) value.toNat_lt).map UInt32.ofNat
  rwa [UInt32.ofNat_toNat] at hread

theorem reads_U64 (value : UInt64) : Reads readU64 (appendU64 value) value := by
  have hread := (Reads.beNat (w := 8) (n := value.toNat) value.toNat_lt).map UInt64.ofNat
  rwa [UInt64.ofNat_toNat] at hread

theorem reads_I32 (value : Int32) : Reads readI32 (appendI32 value) value :=
  (reads_U32 value.toUInt32).map fun raw => (⟨raw⟩ : Int32)

theorem reads_String16 {value : Bytes} (h : value.length ≤ 0xFFFF) :
    Reads readString16 (appendU16 value.length ++ value) value :=
  (reads_U16 h).bind (Reads.take rfl)

theorem reads_String32 {value : Bytes} (h : value.length ≤ 0xFFFFFFFF) :
    Reads readString32 (appendU32 value.length ++ value) value := by
  have hlen : (UInt32.ofNat value.length).toNat = value.length := by
    rw [UInt32.toNat_ofNat']
    omega
  have hread := reads_U32 (UInt32.ofNat value.length)
  rw [hlen] at hread
  exact hread.bind (Reads.take hlen.symm)

end Sockets.Command
