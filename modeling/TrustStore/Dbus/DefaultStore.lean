import TrustStore.Sqlite.Store
import TrustStore.Dbus.Simulation

/-!
# The SQLite store on the bus

`create_default_store` makes an SQLite store, and this one raises `NoCurrentResult` out of
`current` only. Clients that reach it over the bus see what they would see at the store itself
until the counter of the queries has come around.
-/

namespace TrustStore.Sqlite

open TrustStore.Base
open TrustStore.Base.Fallible (Throws)

/-- Something else than a missing current result. -/
private abbrev Other (e : Exception) : Prop := e ≠ .noCurrentResult

namespace PreparedStatement

variable {sql : Sql}

private theorem check_throws
    (call : PreparedStatement sql → ResultCode × PreparedStatement sql) :
    Throws Other (check call) := by
  intro p e q h
  rw [check, Fallible.exec_ofFn] at h
  cases hcall : call p with
  | mk result r =>
    rw [hcall] at h
    cases result <;> cases h
    exact Exception.noConfusion

private theorem bindText_throws (index : Nat) (s : String) :
    Throws Other (bindText index s : Action (PreparedStatement sql) Unit) := by
  unfold bindText
  split
  · exact Throws.pure _
  · exact Throws.bind (check_throws _) fun _ => Throws.pure _

private theorem bindInt64_throws (index : Nat) (i : Int64) :
    Throws Other (bindInt64 index i : Action (PreparedStatement sql) Unit) :=
  Throws.bind (check_throws _) fun _ => Throws.pure _

private theorem bindInt_throws (index : Nat) (i : Int32) :
    Throws Other (bindInt index i : Action (PreparedStatement sql) Unit) :=
  Throws.bind (check_throws _) fun _ => Throws.pure _

private theorem reset_throws : Throws Other (reset : Action (PreparedStatement sql) Unit) :=
  Throws.bind (check_throws _) fun _ => Throws.pure _

end PreparedStatement

namespace Query

open PreparedStatement

private theorem onSelect_throws {α : Type} {m : Action (PreparedStatement .select) α}
    (h : Throws Other m) : Throws Other (onSelect m) := Throws.zoom h

private theorem onDelete_throws {α : Type} {m : Action (PreparedStatement .deleteById) α}
    (h : Throws Other m) : Throws Other (onDelete m) := Throws.zoom h

private theorem next_throws : Throws Other next := by
  refine Throws.bind (onSelect_throws (check_throws _)) fun code => ?_
  cases code
  · exact Throws.pure _
  · exact Throws.modifyGet _
  · exact Throws.modifyGet _
  · exact Throws.pure _

private theorem all_throws : Throws Other all :=
  Throws.bind (onSelect_throws reset_throws) fun _ =>
    onSelect_throws (Throws.bind (check_throws _) fun _ => Throws.pure _)

private theorem execute_throws : Throws Other execute :=
  Throws.bind (onSelect_throws reset_throws) fun _ => next_throws

private theorem forApplicationId_throws (id : String) : Throws Other (forApplicationId id) :=
  onSelect_throws (bindText_throws _ _)

private theorem forFeature_throws (feature : Feature) : Throws Other (forFeature feature) :=
  onSelect_throws (bindInt64_throws _ _)

private theorem forAnswer_throws (answer : Answer) : Throws Other (forAnswer answer) :=
  onSelect_throws (bindInt_throws _ _)

private theorem forInterval_throws (first last : Timestamp) :
    Throws Other (forInterval first last) :=
  Throws.bind (onSelect_throws (bindInt64_throws _ _)) fun _ =>
    onSelect_throws (bindInt64_throws _ _)

private theorem erase_throws : Throws Other erase := by
  refine Throws.bind Throws.get fun s => ?_
  have hrest : Throws Other (do
      onDelete PreparedStatement.reset
      onDelete (bindInt 1 (s.1.selectStatement.columnInt 0))
      let _ ← onDelete PreparedStatement.step
      next) := by
    refine Throws.bind (onDelete_throws reset_throws) fun _ => ?_
    refine Throws.bind (onDelete_throws (bindInt_throws _ _)) fun _ => ?_
    exact Throws.bind (onDelete_throws (check_throws _)) fun _ => next_throws
  by_cases h : s.1.status = .eor
  · simp only [h, if_true]
    exact Throws.throw Exception.noConfusion
  · simp only [h, if_false]
    exact hrest

private theorem prepare_throws (sql : Sql) : Throws Other (prepare sql) := by
  intro db e db' h
  rw [prepare, Fallible.exec_ofFn] at h
  split at h <;> cases h
  exact Exception.noConfusion

private theorem create_throws : Throws Other create := by
  refine Throws.bind (prepare_throws _) fun _ => Throws.bind (prepare_throws _) fun _ => ?_
  intro db e db' h
  rw [Fallible.exec_ofFn] at h
  cases hall : all.exec (⟨.armed, _, _⟩, db) with
  | mk result s =>
    rw [hall] at h
    cases result with
    | error e' =>
      cases h
      exact all_throws _ _ _ hall
    | ok => cases h

end Query

namespace Store

open PreparedStatement

private theorem reset_throws' : Throws Other reset := by
  refine Throws.tryCatch fun e => ?_
  split
  · exact Throws.throw Exception.noConfusion
  next he =>
    refine Throws.throw ?_
    rintro rfl
    exact he rfl

private theorem add_throws (request : Request) : Throws Other (add request) := by
  refine Throws.bind (Throws.zoom reset_throws) fun _ => ?_
  refine Throws.bind (Throws.zoom (bindText_throws _ _)) fun _ => ?_
  refine Throws.bind (Throws.zoom (bindInt_throws _ _)) fun _ => ?_
  refine Throws.bind (Throws.zoom (bindInt64_throws _ _)) fun _ => ?_
  refine Throws.bind (Throws.zoom (bindInt_throws _ _)) fun _ => ?_
  exact Throws.bind (Throws.zoom (check_throws _)) fun _ => Throws.pure _

private theorem removeApplication_throws (id : String) : Throws Other (removeApplication id) := by
  refine Throws.bind (Throws.zoom reset_throws) fun _ => ?_
  refine Throws.bind (Throws.zoom (bindText_throws _ _)) fun _ => ?_
  exact Throws.bind (Throws.zoom (check_throws _)) fun _ => Throws.pure _

private theorem query_throws : Throws Other query := by
  intro s e t h
  rw [query, Fallible.exec_ofFn] at h
  cases hcreate : Query.create.exec s.db with
  | mk result db =>
    rw [hcreate] at h
    cases result with
    | error e' =>
      cases h
      exact Query.create_throws _ _ _ hcreate
    | ok => cases h

private theorem onQuery_throws {α : Type} {q : QueryId} {m : Query.Method α}
    (h : Throws Other m) : Throws Other (onQuery q m) := Throws.zoom h

/-- Only `current` raises `NoCurrentResult`. -/
theorem raisesInCurrent : interface.RaisesInCurrent where
  add := add_throws
  removeApplication := removeApplication_throws
  reset := reset_throws'
  query := query_throws
  onQuery q operation hne := by
    cases operation with
    | all => exact Throws.bind (onQuery_throws Query.all_throws) fun _ => Throws.pure _
    | forApplicationId id =>
      exact Throws.bind (onQuery_throws (Query.forApplicationId_throws id)) fun _ => Throws.pure _
    | forFeature feature =>
      exact Throws.bind (onQuery_throws (Query.forFeature_throws feature)) fun _ => Throws.pure _
    | forInterval first last =>
      exact Throws.bind (onQuery_throws (Query.forInterval_throws first last)) fun _ =>
        Throws.pure _
    | forAnswer answer =>
      exact Throws.bind (onQuery_throws (Query.forAnswer_throws answer)) fun _ => Throws.pure _
    | execute => exact Throws.bind (onQuery_throws Query.execute_throws) fun _ => Throws.pure _
    | next => exact Throws.bind (onQuery_throws Query.next_throws) fun _ => Throws.pure _
    | erase => exact Throws.bind (onQuery_throws Query.erase_throws) fun _ => Throws.pure _
    | current => exact absurd rfl hne
    | status =>
      exact Throws.bind (Throws.bind Throws.get fun _ => Throws.pure _) fun _ => Throws.pure _

/-- Clients of the exposed SQLite store see what they would see at the store itself, in every run
in which it raises nothing but `NoCurrentResult` and the counter does not come around. -/
theorem refines {bus : Dbus.Bus} {t : Dbus.Token Store QueryId} {operations : List Operation}
    (hempty : ∀ p, t.queryStore p = none)
    (hraises : Transition.Meets (Clients.step interface)
      (fun c operation => Dbus.Resolve.RaisesNoCurrentResult interface c operation ∧
        (operation = .query → c.queries.length < UInt64.size))
      (Clients.start t.store) operations) : Dbus.Resolve.Refines bus interface t operations :=
  Dbus.Resolve.refines_of_raisesInCurrent raisesInCurrent hempty hraises

end Store
end TrustStore.Sqlite
