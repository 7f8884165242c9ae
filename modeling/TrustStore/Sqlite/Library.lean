import TrustStore.Core.Store
import Mathlib.Logic.Function.Basic
import Mathlib.Data.List.Sort

/-!
# SQLite, as far as the store relies on it

The requests table, the five statements of `src/core/trust/impl/sqlite3/store.cpp:445–551`
and the C interface that the store calls. What SQL leaves open (the order of rows with equal
timestamps, the id of a new row, the texts of errors) belongs to an `Engine`, and every call
may fail for a reason of its own: a connection carries the failures that are still to come.
The table is scanned in the order in which its rows were inserted.
-/

namespace TrustStore.Sqlite

/-! ### Values and rows -/

/-- A dynamically typed SQL value. -/
inductive Value where
  | null
  | integer (i : Int64)
  | text (s : String)
  deriving DecidableEq, Repr, Inhabited

namespace Value

/-- The order of `ORDER BY`: `NULL`, then integers, then texts. -/
def le : Value → Value → Bool
  | null, _ => true
  | integer _, null => false
  | integer i, integer j => decide (i ≤ j)
  | integer _, text _ => true
  | text _, null => false
  | text _, integer _ => false
  | text s, text t => decide (s ≤ t)

/-- `IFNULL(a, b)`. -/
def ifNull : Value → Value → Value
  | null, b => b
  | a, _ => a

/-- Whether `a = b` selects a row: a comparison with `NULL` does not. -/
def equals (a b : Value) : Bool := decide (a ≠ null ∧ a = b)

/-- Whether `a BETWEEN low AND high` selects a row. -/
def between (a low high : Value) : Bool :=
  decide (a ≠ null ∧ low ≠ null ∧ high ≠ null) && (le low a && le a high)

/-- A missing parameter compares the column with itself. -/
theorem equals_ifNull_null (a : Value) : equals a (ifNull null a) = decide (a ≠ null) := by
  simp [equals, ifNull]

/-- A bound parameter is compared with the column. -/
theorem equals_ifNull {a b : Value} (hb : b ≠ null) :
    equals a (ifNull b a) = decide (a = b) := by
  cases b with
  | null => exact absurd rfl hb
  | integer i => cases a <;> simp [equals, ifNull]
  | text s => cases a <;> simp [equals, ifNull]

/-- Missing bounds select every row with a value. -/
theorem between_ifNull_null (a : Value) :
    between a (ifNull null a) (ifNull null a) = decide (a ≠ null) := by
  cases a <;> simp [between, ifNull, le]

end Value

/-- A row of the requests table; `src/core/trust/impl/sqlite3/store.cpp:375–379`. Only
`ApplicationId` is `NOT NULL`. -/
structure Row where
  id : Int64
  applicationId : Value
  feature : Value
  timestamp : Value
  answer : Value
  deriving DecidableEq, Repr

namespace Row

/-- The columns of `SELECT *` by index; `src/core/trust/impl/sqlite3/store.cpp:381–438`. -/
def column (r : Row) : Nat → Value
  | 0 => .integer r.id
  | 1 => r.applicationId
  | 2 => r.feature
  | 3 => r.timestamp
  | 4 => r.answer
  | _ => .null

/-- The columns of a row other than its id. -/
def content (r : Row) : Value × Value × Value × Value :=
  (r.applicationId, r.feature, r.timestamp, r.answer)

end Row

/-! ### What SQL leaves open -/

/-- The choices of an SQLite library: how `ORDER BY Timestamp DESC` breaks ties, the id of a
new row, and the texts of its errors. Ties are broken by the position of the rows in the
scan, so the result does not depend on their ids. -/
structure Engine where
  sort : List Row → List Row
  sort_perm : ∀ rows, (sort rows).Perm rows
  sort_sorted : ∀ rows, (sort rows).Pairwise fun a b => b.timestamp.le a.timestamp
  sort_content : ∀ rows others, rows.map Row.content = others.map Row.content →
    (sort rows).map Row.content = (sort others).map Row.content
  rowid : List Row → Int64
  errorText : Nat → String

/-- Signed 64-bit order is decided by the integer values. -/
private theorem int64_le_total (i j : Int64) : i ≤ j ∨ j ≤ i := by
  simp only [Int64.le_iff_toInt_le]
  omega

private theorem value_le_total (a b : Value) : a.le b ∨ b.le a := by
  cases a <;> cases b <;> simp only [Value.le, decide_eq_true_eq] <;>
    first
    | simp
    | exact int64_le_total _ _
    | exact String.le_total _ _

private theorem value_le_trans {a b c : Value} (hab : a.le b) (hbc : b.le c) : a.le c := by
  cases a <;> cases b <;> cases c <;> simp_all only [Value.le, decide_eq_true_eq] <;>
    first
    | exact Int64.le_trans hab hbc
    | exact String.le_trans hab hbc
    | simp_all

/-- The order of `ORDER BY Timestamp DESC`. -/
def newestFirst (a b : Row) : Prop := b.timestamp.le a.timestamp

instance : DecidableRel newestFirst := fun a b =>
  inferInstanceAs (Decidable (b.timestamp.le a.timestamp = true))

/-- The library's own sorter: a stable sort of the scan, numbering rows upwards. -/
def Engine.stable : Engine where
  sort := List.insertionSort newestFirst
  sort_perm rows := List.perm_insertionSort _ rows
  sort_sorted rows := by
    have : Std.Total newestFirst := ⟨fun a b => value_le_total _ _⟩
    have : IsTrans Row newestFirst := ⟨fun a b c hab hbc => value_le_trans hbc hab⟩
    exact List.pairwise_insertionSort newestFirst rows
  sort_content rows others h := by
    let newest (a b : Value × Value × Value × Value) : Prop := b.2.2.1.le a.2.2.1 = true
    have hmap (l : List Row) : (l.insertionSort newestFirst).map Row.content =
        (l.map Row.content).insertionSort newest :=
      List.map_insertionSort newestFirst newest Row.content l fun _ _ _ _ => Iff.rfl
    rw [hmap, hmap, h]
  rowid rows := (rows.map Row.id).foldl max 0 + 1
  errorText code := "SQLite error " ++ toString code

end TrustStore.Sqlite
