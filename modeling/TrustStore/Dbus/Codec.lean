import TrustStore.Core.Store

/-!
# Values on the bus

Models `src/core/trust/dbus/codec.h` over the messages of dbus-cpp, which are queues of typed
values: what is pushed is popped again in the same order, by its type.
-/

namespace TrustStore.Dbus

open TrustStore.Base

/-- An object path of the bus. -/
structure ObjectPath where
  value : String
  deriving DecidableEq, Repr

/-- The values that are pushed to messages. -/
inductive Value where
  | string (s : String)
  | uint64 (u : UInt64)
  | int64 (i : Int64)
  | byte (b : Int8)
  | objectPath (path : ObjectPath)
  deriving DecidableEq, Repr

/-- The contents of a message. -/
abbrev Message := List Value

/-- Reading takes values off the front of a message. -/
abbrev Reader := Action Message

namespace Reader

/-- Pop a value of a given type. -/
def pop {α : Type} (typed : Value → Option α) : Reader α :=
  Fallible.ofFn fun message =>
    match message with
    | [] => (.error (.runtimeError "Unexpected end of message"), message)
    | value :: rest =>
      match typed value with
      | some a => (.ok a, rest)
      | none => (.error (.runtimeError "Type mismatch"), message)

/-- `Message::Reader::pop_string` -/
def popString : Reader String := pop fun
  | .string s => some s
  | _ => none

/-- `Message::Reader::pop_uint64` -/
def popUint64 : Reader UInt64 := pop fun
  | .uint64 u => some u
  | _ => none

/-- `Message::Reader::pop_int64` -/
def popInt64 : Reader Int64 := pop fun
  | .int64 i => some i
  | _ => none

/-- `Message::Reader::pop_byte` -/
def popByte : Reader Int8 := pop fun
  | .byte b => some b
  | _ => none

/-- `Message::Reader::pop_object_path` -/
def popObjectPath : Reader ObjectPath := pop fun
  | .objectPath path => some path
  | _ => none

end Reader

/-- `core::dbus::Codec` -/
class Codec (α : Type) where
  encode : α → Message
  decode : Reader α

/-- What was encoded is decoded to itself, and nothing else of the message is consumed. -/
class LawfulCodec (α : Type) [Codec α] : Prop where
  decode_encode : ∀ (a : α) (rest : Message),
    (Codec.decode : Reader α).exec (Codec.encode a ++ rest) = (.ok a, rest)

/-- A message with one value is consumed. -/
theorem decode_encode {α : Type} [Codec α] [LawfulCodec α] (a : α) :
    (Codec.decode : Reader α).exec (Codec.encode a) = (.ok a, []) := by
  rw [← List.append_nil (Codec.encode a)]
  exact LawfulCodec.decode_encode a []

instance : Codec String where
  encode s := [.string s]
  decode := Reader.popString

instance : LawfulCodec String := ⟨fun _ _ => rfl⟩

instance : Codec ObjectPath where
  encode path := [.objectPath path]
  decode := Reader.popObjectPath

instance : LawfulCodec ObjectPath := ⟨fun _ _ => rfl⟩

/-- The tuple of the start and the end of an interval. -/
instance : Codec (Int64 × Int64) where
  encode interval := [.int64 interval.1, .int64 interval.2]
  decode := do return (← Reader.popInt64, ← Reader.popInt64)

instance : LawfulCodec (Int64 × Int64) := ⟨fun _ _ => rfl⟩

/-- The cast of an answer to `std::int8_t`. -/
def answerToByte : Answer → Int8
  | .denied => 0
  | .granted => 1

/-- The cast back to an answer. -/
def answerOfByte (b : Int8) : Answer := if b = 1 then .granted else .denied

/-- `Codec<Request::Answer>`; `src/core/trust/dbus/codec.h:35–47`. -/
instance : Codec Answer where
  encode answer := [.byte (answerToByte answer)]
  decode := do return answerOfByte (← Reader.popByte)

instance : LawfulCodec Answer where
  decode_encode answer rest := by
    cases answer <;> rfl

/-- The cast of a status to `std::int8_t`. -/
def statusToByte : Status → Int8
  | .armed => 0
  | .hasMoreResults => 1
  | .eor => 2
  | .error => 3

/-- The cast back to a status. -/
def statusOfByte (b : Int8) : Status :=
  if b = 0 then .armed else if b = 1 then .hasMoreResults else if b = 2 then .eor else .error

/-- `Codec<Store::Query::Status>`; `src/core/trust/dbus/codec.h:49–61`. -/
instance : Codec Status where
  encode status := [.byte (statusToByte status)]
  decode := do return statusOfByte (← Reader.popByte)

instance : LawfulCodec Status where
  decode_encode status rest := by
    cases status <;> rfl

/-- The integers behind tags, with their conversions from and to `std::uint64_t`. -/
class Integral (ι : Type) where
  toUInt64 : ι → UInt64
  ofUInt64 : UInt64 → ι
  ofUInt64_toUInt64 : ∀ i, ofUInt64 (toUInt64 i) = i

instance : Integral UInt64 := ⟨id, id, fun _ => rfl⟩

/-- `uid_t` and `gid_t` are extended by zeros, and truncated again. -/
instance : Integral UInt32 := ⟨UInt32.toUInt64, UInt64.toUInt32, UInt32.toUInt32_toUInt64⟩

/-- `pid_t` is extended by its sign, and truncated again. -/
instance : Integral Int32 where
  toUInt64 i := i.toInt64.toUInt64
  ofUInt64 u := u.toInt64.toInt32
  ofUInt64_toUInt64 i := by rw [Int64.toInt64_toUInt64, Int32.toInt32_toInt64]

/-- `Codec<TaggedInteger<Tag, Integer>>`; `src/core/trust/dbus/codec.h:63–75`. -/
instance {tag : Tag} {ι : Type} [Integral ι] : Codec (TaggedInteger tag ι) where
  encode arg := [.uint64 (Integral.toUInt64 arg.value)]
  decode := do return ⟨Integral.ofUInt64 (← Reader.popUint64)⟩

instance {tag : Tag} {ι : Type} [Integral ι] : LawfulCodec (TaggedInteger tag ι) where
  decode_encode arg rest := by
    have h : (Codec.decode : Reader (TaggedInteger tag ι)).exec (Codec.encode arg ++ rest) =
        (.ok ⟨Integral.ofUInt64 (Integral.toUInt64 arg.value)⟩, rest) := rfl
    rw [h, Integral.ofUInt64_toUInt64]

/-- `Codec<Request>`; `src/core/trust/dbus/codec.h:77–95`. -/
instance : Codec Request where
  encode request :=
    [.string request.origin, .uint64 request.feature.value, .uint64 request.when.toUInt64] ++
      Codec.encode request.answer
  decode := do
    let origin ← Reader.popString
    let feature ← Reader.popUint64
    let when ← Reader.popUint64
    let answer ← Codec.decode
    return ⟨origin, ⟨feature⟩, when.toInt64, answer⟩

instance : LawfulCodec Request where
  decode_encode request rest := by
    obtain ⟨origin, feature, when, answer⟩ := request
    have h : (Codec.decode : Reader Request).exec
        (Codec.encode (⟨origin, feature, when, answer⟩ : Request) ++ rest) =
          (.ok ⟨origin, feature, when.toUInt64.toInt64, answer⟩, rest) := by
      cases answer <;> rfl
    rw [h, Int64.toInt64_toUInt64]

/-- `Codec<Agent::RequestParameters>`; `src/core/trust/dbus/codec.h:97–117`. -/
instance : Codec RequestParameters where
  encode arg :=
    Codec.encode arg.application.uid ++ Codec.encode arg.application.pid ++
      Codec.encode arg.application.id ++ Codec.encode arg.feature ++ Codec.encode arg.description
  decode := do
    let uid ← Codec.decode
    let pid ← Codec.decode
    let id ← Codec.decode
    let feature ← Codec.decode
    let description ← Codec.decode
    return ⟨⟨uid, pid, id⟩, feature, description⟩

/-- A value is taken off the front, and the rest is left to what follows. -/
private theorem exec_decode_bind {α β : Type} [Codec α] [LawfulCodec α] (a : α)
    (f : α → Reader β) (rest : Message) :
    ((Codec.decode : Reader α) >>= f).exec (Codec.encode a ++ rest) = (f a).exec rest :=
  Fallible.exec_bind_ok (LawfulCodec.decode_encode a rest)

instance : LawfulCodec RequestParameters where
  decode_encode arg rest := by
    obtain ⟨⟨uid, pid, id⟩, feature, description⟩ := arg
    have hencode :
        Codec.encode (⟨⟨uid, pid, id⟩, feature, description⟩ : RequestParameters) ++ rest =
          Codec.encode uid ++ (Codec.encode pid ++ (Codec.encode id ++ (Codec.encode feature ++
            (Codec.encode description ++ rest)))) := rfl
    have hdecode : (Codec.decode : Reader RequestParameters) = (do
        let uid ← Codec.decode
        let pid ← Codec.decode
        let id ← Codec.decode
        let feature ← Codec.decode
        let description ← Codec.decode
        return ⟨⟨uid, pid, id⟩, feature, description⟩) := rfl
    rw [hencode, hdecode, exec_decode_bind, exec_decode_bind, exec_decode_bind, exec_decode_bind,
      exec_decode_bind, Fallible.exec_pure]

end TrustStore.Dbus
