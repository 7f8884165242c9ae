import TrustStore.Sqlite.Query
import Mathlib.Algebra.Group.Nat.Defs
import Mathlib.Algebra.Ring.Int.Defs
import Mathlib.Data.List.TakeWhile

/-!
# Requests in the table

How `sqlite::Store::add` writes a request to a row and how `Query::current` reads one back,
`src/core/trust/impl/sqlite3/store.cpp:658–673,786–790`. Writing narrows a feature to 32
bits and reading widens it again, so only some requests come back as they were.
-/

namespace TrustStore

/-- The features that survive a conversion to `std::int32_t` and back. -/
def Storable (feature : Feature) : Prop :=
  feature.value.toNat < 2 ^ 31 ∨ 2 ^ 64 - 2 ^ 31 ≤ feature.value.toNat

instance (feature : Feature) : Decidable (Storable feature) :=
  inferInstanceAs (Decidable (_ ∨ _))

namespace Sqlite

/-- A 64-bit integer that fits into 32 bits is narrowed and widened to itself. -/
private theorem narrow_eq_iff (i : Int64) :
    i.toInt32.toInt64 = i ↔ -2 ^ 31 ≤ i.toInt ∧ i.toInt < 2 ^ 31 := by
  rw [← Int64.toInt_inj, Int32.toInt_toInt64, Int64.toInt_toInt32]
  constructor
  · intro h
    have := @Int.le_bmod i.toInt (2 ^ 32) (by decide)
    have := @Int.bmod_lt i.toInt (2 ^ 32) (by decide)
    omega
  · rintro ⟨hlow, hhigh⟩
    exact Int.bmod_eq_of_le (by omega) (by omega)

private theorem toInt_toInt64 (u : UInt64) :
    u.toInt64.toInt = (u.toNat : Int).bmod (2 ^ 64) :=
  BitVec.toInt_eq_toNat_bmod u.toBitVec

/-- The value that a feature is written as. -/
def featureColumn (feature : Feature) : Int64 := feature.value.toInt64.toInt32.toInt64

/-- The storable features are those written as they are. -/
theorem featureColumn_eq_iff (feature : Feature) :
    featureColumn feature = feature.value.toInt64 ↔ Storable feature := by
  have hlt := feature.value.toNat_lt
  rw [featureColumn, narrow_eq_iff, toInt_toInt64, Storable, Int.bmod_def]
  omega

/-- Different features converted to a signed integer remain different. -/
theorem feature_inj {f g : Feature} (h : f.value.toInt64 = g.value.toInt64) : f = g := by
  apply TaggedInteger.ext
  rw [← UInt64.toUInt64_toInt64 f.value, h, UInt64.toUInt64_toInt64]

/-- The row that `add` appends for a request with an application id. -/
def Row.ofRequest (id : Int64) (request : Request) : Row where
  id := id
  applicationId := .text request.origin
  feature := .integer (featureColumn request.feature)
  timestamp := .integer request.when
  answer := .integer request.answer.toInt32.toInt64

/-- The fields of a row are those of a request. -/
structure Row.Holds (row : Row) (request : Request) : Prop where
  applicationId : row.applicationId = .text request.origin
  feature : row.feature = .integer request.feature.value.toInt64
  timestamp : row.timestamp = .integer request.when
  answer : row.answer = .integer request.answer.toInt32.toInt64

/-- Some request, without a NUL character in its application id, was written to the row. -/
def Row.Written (row : Row) : Prop :=
  ∃ request : Request, '\x00' ∉ request.origin.toList ∧ row = Row.ofRequest row.id request

/-- A text without NUL characters is the C string it is read as. -/
theorem Statement.cString_eq {s : String} (h : '\x00' ∉ s.toList) :
    Statement.cString s = s := by
  have hall : s.toList.takeWhile (fun c => c != '\x00') = s.toList := by
    rw [List.takeWhile_eq_self_iff]
    intro c hc
    have : c ≠ '\x00' := fun he => h (he ▸ hc)
    simp [this]
  rw [Statement.cString, hall, String.ofList_toList]

variable {stmt : Statement .select} {row : Row}

/-- What `current` reads from a row that `add` has written: the request, with the feature
that was written. -/
theorem request_ofRequest {id : Int64} {request : Request}
    (hnul : '\x00' ∉ request.origin.toList)
    (hpos : stmt.cursor.position = some (Row.ofRequest id request)) :
    Query.request stmt = { request with
      feature := ⟨(featureColumn request.feature).toUInt64⟩ } := by
  simp [Query.request, Statement.columnText, Statement.columnInt, Statement.columnInt64,
    Statement.column, hpos, Row.column, Row.ofRequest, Statement.cString_eq hnul, featureColumn]

/-- `current` reads the fields of every row that was written. -/
theorem holds_request (hw : row.Written) (hpos : stmt.cursor.position = some row) :
    row.Holds (Query.request stmt) := by
  obtain ⟨request, hnul, hrow⟩ := hw
  rw [hrow] at hpos
  rw [request_ofRequest hnul hpos, hrow]
  exact ⟨rfl, rfl, rfl, rfl⟩

/-- `current` reads back exactly the requests with a storable feature. -/
theorem request_eq_iff {id : Int64} {request : Request}
    (hnul : '\x00' ∉ request.origin.toList)
    (hpos : stmt.cursor.position = some (Row.ofRequest id request)) :
    Query.request stmt = request ↔ Storable request.feature := by
  rw [request_ofRequest hnul hpos, ← featureColumn_eq_iff]
  constructor
  · intro h
    have hf := congrArg (fun r => r.feature.value.toInt64) h
    simpa using hf
  · intro h
    rw [h, UInt64.toUInt64_toInt64]

end Sqlite
end TrustStore
