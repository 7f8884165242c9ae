import TrustStore.Dbus.Codec

/-!
# Sequences of values on the bus

The types of the trust store with a codec of its own, `src/core/trust/dbus/codec.h`, and
messages that hold any sequence of their values. Decoding takes exactly one value off the
front of a message, so that a sequence is decoded to itself.
-/

namespace TrustStore.Dbus

open TrustStore.Base

/-- The types with a codec; `src/core/trust/dbus/codec.h:35–117`. -/
inductive Kind where
  | answer
  | status
  | uid
  | pid
  | gid
  | feature
  | request
  | requestParameters
  deriving DecidableEq, Repr

namespace Kind

/-- The values of a kind. -/
abbrev Carrier : Kind → Type
  | answer => Answer
  | status => Status
  | uid => Uid
  | pid => Pid
  | gid => Gid
  | feature => Feature
  | request => Request
  | requestParameters => RequestParameters

instance : (kind : Kind) → Codec kind.Carrier
  | answer => inferInstanceAs (Codec Answer)
  | status => inferInstanceAs (Codec Status)
  | uid => inferInstanceAs (Codec Uid)
  | pid => inferInstanceAs (Codec Pid)
  | gid => inferInstanceAs (Codec Gid)
  | feature => inferInstanceAs (Codec Feature)
  | request => inferInstanceAs (Codec Request)
  | requestParameters => inferInstanceAs (Codec RequestParameters)

instance : (kind : Kind) → LawfulCodec kind.Carrier
  | answer => inferInstanceAs (LawfulCodec Answer)
  | status => inferInstanceAs (LawfulCodec Status)
  | uid => inferInstanceAs (LawfulCodec Uid)
  | pid => inferInstanceAs (LawfulCodec Pid)
  | gid => inferInstanceAs (LawfulCodec Gid)
  | feature => inferInstanceAs (LawfulCodec Feature)
  | request => inferInstanceAs (LawfulCodec Request)
  | requestParameters => inferInstanceAs (LawfulCodec RequestParameters)

end Kind

/-- A value with its kind. -/
structure Sent where
  kind : Kind
  value : kind.Carrier

/-- `writer << a << b << …` -/
def encodeAll : List Sent → Message
  | [] => []
  | x :: xs => Codec.encode x.value ++ encodeAll xs

/-- `reader >> a >> b >> …`, for variables of the given kinds. -/
def decodeAll : List Kind → Reader (List Sent)
  | [] => return []
  | kind :: kinds => do
    let value : kind.Carrier ← Codec.decode
    return ⟨kind, value⟩ :: (← decodeAll kinds)

private theorem decodeAll_encodeAll (xs : List Sent) (rest : Message) :
    (decodeAll (xs.map Sent.kind)).exec (encodeAll xs ++ rest) = (.ok xs, rest) := by
  induction xs with
  | nil => rfl
  | cons x xs ih =>
    rw [encodeAll, List.append_assoc, List.map_cons, decodeAll,
      Fallible.exec_bind_ok (LawfulCodec.decode_encode x.value _), Fallible.exec_bind_ok ih]
    rfl

/-- Every value of every kind is decoded to itself and leaves the rest of the message unread, and
so is every sequence of such values. -/
theorem decode_encode_append :
    (∀ (x : Sent) (rest : Message),
      (Codec.decode : Reader x.kind.Carrier).exec (Codec.encode x.value ++ rest) =
        (.ok x.value, rest)) ∧
    ∀ (xs : List Sent) (rest : Message),
      (decodeAll (xs.map Sent.kind)).exec (encodeAll xs ++ rest) = (.ok xs, rest) :=
  ⟨fun x rest => LawfulCodec.decode_encode x.value rest, decodeAll_encodeAll⟩

/-- A process id of -1 travels as 2^64 - 1, between a time before the epoch and a denial. -/
example : (decodeAll [.request, .pid, .answer]).exec
    [.string "app", .uint64 7, .uint64 18446744073709551615, .byte 1,
      .uint64 18446744073709551615, .byte 0] =
    (.ok [⟨.request, ⟨"app", ⟨7⟩, -1, .granted⟩⟩, ⟨.pid, ⟨-1⟩⟩, ⟨.answer, .denied⟩], []) := rfl

end TrustStore.Dbus
