import Sockets.Platform

/-! The types ESPressio Command and the Socket Command integration share. -/
namespace Sockets.Command
open Foundation

/-- The fixed order in which a map of named values is iterated. -/
class KeyOrder where
  less : Bytes → Bytes → Bool
  irrefl : ∀ a, less a a = false
  trans : ∀ {a b c}, less a b = true → less b c = true → less a c = true
  total : ∀ {a b}, less a b = false → less b a = false → a = b

structure CommandResult where
  success : Bool := true
  code : Int32 := 0
  message : Bytes := []
  deriving DecidableEq

/-- ESPressio Command's values, and its results for errors. -/
class CommandLibrary (Value : Type) extends KeyOrder where
  isNull : Value → Bool
  toString : Value → Bytes
  ofString : Bytes → Value
  error : Bytes → CommandResult

/-- What is assumed of values made from strings. -/
class LawfulCommandLibrary (Value : Type) [CommandLibrary Value] : Prop where
  isNull_ofString : ∀ s, CommandLibrary.isNull (CommandLibrary.ofString s : Value) = false
  toString_ofString : ∀ s, CommandLibrary.toString (CommandLibrary.ofString s : Value) = s

/-- What is assumed of `CommandResult::Error`: it fails, with the message it is given. -/
class LawfulErrors (Value : Type) [CommandLibrary Value] : Prop where
  success_error : ∀ m, (CommandLibrary.error Value m).success = false
  message_error : ∀ m, (CommandLibrary.error Value m).message = m

attribute [simp] LawfulErrors.success_error LawfulErrors.message_error
attribute [simp] LawfulCommandLibrary.isNull_ofString LawfulCommandLibrary.toString_ofString

section
variable [KeyOrder] {Value : Type}

/-- The order on the entries of a map. -/
def EntryLess (a b : Bytes × Value) : Prop := KeyOrder.less a.1 b.1 = true

/-- A finite map, iterated in the order of its keys. -/
structure Named (Value : Type) where
  entries : List (Bytes × Value)
  sorted : entries.Pairwise EntryLess

def Named.empty : Named Value := ⟨[], .nil⟩

def insertEntry (key : Bytes) (value : Value) : List (Bytes × Value) → List (Bytes × Value)
  | [] => [(key, value)]
  | e :: es =>
    if KeyOrder.less key e.1 then (key, value) :: e :: es
    else if KeyOrder.less e.1 key then e :: insertEntry key value es
    else e :: es

theorem less_asymm {a b : Bytes} (h : KeyOrder.less a b = true) : KeyOrder.less b a = false := by
  cases hb : KeyOrder.less b a with
  | false => rfl
  | true => exact absurd (KeyOrder.trans h hb) (by simp [KeyOrder.irrefl])

theorem mem_insertEntry {key : Bytes} {value : Value} {e : Bytes × Value}
    {es : List (Bytes × Value)} (h : e ∈ insertEntry key value es) :
    e = (key, value) ∨ e ∈ es := by
  induction es with
  | nil => simpa [insertEntry] using h
  | cons e' es ih =>
    unfold insertEntry at h
    split_ifs at h with h1 h2
    · simpa using h
    · rcases List.mem_cons.mp h with rfl | h
      · simp
      · exact (ih h).imp_right (List.mem_cons_of_mem _)
    · exact .inr h

theorem insertEntry_sorted (key : Bytes) (value : Value) {es : List (Bytes × Value)}
    (hs : es.Pairwise EntryLess) : (insertEntry key value es).Pairwise EntryLess := by
  induction es with
  | nil => simp [insertEntry]
  | cons e es ih =>
    obtain ⟨he, hs⟩ := List.pairwise_cons.mp hs
    unfold insertEntry
    split_ifs with h1 h2
    · refine List.pairwise_cons.mpr ⟨?_, List.pairwise_cons.mpr ⟨he, hs⟩⟩
      intro e' he'
      rcases List.mem_cons.mp he' with rfl | he'
      · exact h1
      · exact KeyOrder.trans h1 (he e' he')
    · refine List.pairwise_cons.mpr ⟨?_, ih hs⟩
      intro e' he'
      rcases mem_insertEntry he' with rfl | he'
      · exact h2
      · exact he e' he'
    · exact List.pairwise_cons.mpr ⟨he, hs⟩

/-- `emplace`: a key that is present keeps its value. -/
def Named.emplace (key : Bytes) (value : Value) (m : Named Value) : Named Value :=
  ⟨insertEntry key value m.entries, insertEntry_sorted key value m.sorted⟩

/-- A key behind all others is added at the end. -/
theorem insertEntry_last {key : Bytes} {value : Value} {es : List (Bytes × Value)}
    (h : ∀ e ∈ es, EntryLess e (key, value)) :
    insertEntry key value es = es ++ [(key, value)] := by
  induction es with
  | nil => rfl
  | cons e es ih =>
    have he : KeyOrder.less e.1 key = true := h e List.mem_cons_self
    simp [insertEntry, less_asymm he, he, ih fun e' he' => h e' (List.mem_cons_of_mem _ he')]

/-- Emplacing pairs in the order of their keys builds the map of exactly these pairs. -/
theorem foldl_emplace_entries {pairs : List (Bytes × Value)} {m : Named Value}
    (h : (m.entries ++ pairs).Pairwise EntryLess) :
    (pairs.foldl (fun m e => m.emplace e.1 e.2) m).entries = m.entries ++ pairs := by
  induction pairs generalizing m with
  | nil => simp
  | cons e pairs ih =>
    have hlast : (m.emplace e.1 e.2).entries = m.entries ++ [e] :=
      insertEntry_last fun e' he' => (List.pairwise_append.mp h).2.2 e' he' e List.mem_cons_self
    rw [List.foldl_cons, ih (by rw [hlast]; simpa using h), hlast]
    simp

structure CommandInvocation (Value : Type) where
  path : List Bytes := []
  positional : List Value := []
  named : Named Value := .empty
  raw : Bytes := []

end

inductive SocketCommandMode where
  | line
  | structuredBinary
  deriving DecidableEq

structure SocketCommandMetadata where
  transport : Bytes := text "socket"
  remoteAddress : Bytes := []
  remotePort : UInt16 := 0
  sessionID : UInt64 := 0
  requestID : UInt64 := 0
  deriving DecidableEq

structure SocketCommandInvocationContext (Value : Type) [KeyOrder] where
  invocation : CommandInvocation Value := {}
  metadata : SocketCommandMetadata := {}

structure SocketCommandSessionConfig [SizeWidth] where
  mode : SocketCommandMode := .line
  maximumRequestBytes : SizeT := sizeConstant 1024
  disconnectOnProtocolError : Bool := false
  ignoreEmptyLines : Bool := true

structure SocketCommandResponse where
  requestID : UInt64 := 0
  result : CommandResult := {}
  deriving DecidableEq

end Sockets.Command
