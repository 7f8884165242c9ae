import TrustStore.Core.Clients
import TrustStore.Sqlite.Lookup

/-!
# Opening the database of a service

Models `Store::Store` and `create_for_service`, `src/core/trust/impl/sqlite3/store.cpp:47–59,
259–331, 735–766, 808–814`, for any number of processes that open the same database, use it and go
away again at any point. The constructor goes on from one call of the operating system or of SQLite
to the next, and throws as soon as one of them fails. SQLite makes each statement that writes
atomic, and does not run a statement that `sqlite3_prepare` made for another schema.
-/

namespace TrustStore.Sqlite.Opening

open TrustStore.Base

/-- The part of the disk that a service owns: whether its directory exists, and the file in it
with the schema version and the requests table, once there is one. SQLite takes a missing file for
an empty one. -/
structure Disk where
  directory : Bool
  version : Int32
  requests : Option (List Row)
  deriving DecidableEq

/-- The SQLite library, and the paths of the file. -/
structure Setting where
  engine : Engine
  /-- `sqlite3_errstr` -/
  errstr : Nat → String
  dataHome : String
  serviceName : String

/-- The name of the file; `src/core/trust/impl/sqlite3/store.cpp:735–736`. -/
def Setting.fileName (setting : Setting) : String :=
  setting.dataHome ++ "/" ++ setting.serviceName ++ "/trust.db"

/-- `EEXIST`. -/
def eexist : Nat := 17

/-- `Store::version`; `src/core/trust/impl/sqlite3/store.cpp:353`. -/
def storeVersion : Int32 := 1

/-- A database that was upgraded differs from a new one. -/
theorem storeVersion_ne_zero : storeVersion ≠ 0 := by decide

/-- A process in the constructor of its store, by the call that comes next, with its store open,
or with the exception that the constructor threw. The create table statement is for a schema in
which the table is known or not. -/
inductive Process where
  /-- `ensure_dir_or_throw` -/
  | ensureDir
  /-- `Database::Database` -/
  | openDatabase
  /-- the create table statement is prepared -/
  | prepareCreateTable
  /-- `Database::get_version` -/
  | getVersion (known : Bool)
  /-- `Store::create_data_table_if_not_exists` -/
  | createDataTableIfNotExists (known : Bool)
  /-- `Database::set_version` -/
  | setVersion
  | prepareDelete
  | prepareInsert
  | prepareRemoveApplication
  | opened (clients : Clients Store QueryId)
  | thrown (e : Exception)

/-- `create_for_service`; `src/core/trust/impl/sqlite3/store.cpp:808–814`. -/
def createForService (setting : Setting) : Process :=
  if setting.serviceName = "" then .thrown (.runtimeError "Service name must not be empty")
  else .ensureDir

/-- A call of the constructor that fails with a code; `src/core/trust/impl/sqlite3/store.cpp:47–59,
261–272, 296–312, 314–331`. Only the directory may exist already. -/
def Process.fail (setting : Setting) (code : Nat) : Process → Option Process
  | .ensureDir => some (if code = eexist then .openDatabase else .thrown (.systemError code))
  | .openDatabase => some (.thrown (.runtimeError
      ("Problem opening database file " ++ setting.fileName ++ ": " ++ setting.errstr code)))
  | .prepareCreateTable | .getVersion _ | .createDataTableIfNotExists _ | .setVersion
  | .prepareDelete | .prepareInsert | .prepareRemoveApplication =>
    some (.thrown (.runtimeError (setting.engine.errorText code)))
  | .opened _ | .thrown _ => none

/-- A statement on the requests table can be prepared if there is one. -/
def Disk.prepare (disk : Disk) (next : Process) : Option (Process × Disk) :=
  disk.requests.map fun _ => (next, disk)

/-- A call of the constructor that succeeds; `src/core/trust/impl/sqlite3/store.cpp:735–766`. A
create table statement from before another process created the table can only fail. -/
def Process.succeed (setting : Setting) (disk : Disk) : Process → Option (Process × Disk)
  | .ensureDir => some (.openDatabase, { disk with directory := true })
  | .openDatabase => if disk.directory then some (.prepareCreateTable, disk) else none
  | .prepareCreateTable => some (.getVersion disk.requests.isSome, disk)
  | .getVersion known =>
    some (if disk.version = 0 then .createDataTableIfNotExists known else .prepareDelete, disk)
  | .createDataTableIfNotExists known =>
    if disk.requests.isSome = known then
      some (.setVersion, { disk with requests := some (disk.requests.getD []) })
    else none
  | .setVersion => some (.prepareDelete, { disk with version := storeVersion })
  | .prepareDelete => disk.prepare .prepareInsert
  | .prepareInsert => disk.prepare .prepareRemoveApplication
  | .prepareRemoveApplication =>
    disk.prepare (.opened (Clients.start (Store.onConnection
      ⟨setting.engine, disk.requests.getD [], []⟩)))
  | .opened _ | .thrown _ => none

/-- The disk and the processes by their numbers. -/
structure System where
  disk : Disk
  processes : Nat → Option Process

/-- What may happen: a process starts, its constructor makes its next call, which may fail with a
code, a client in it uses the store, with the failures that the calls to SQLite meet, or it goes
away, wherever it stands. -/
inductive Label where
  | start (pid : Nat)
  | call (pid : Nat) (failure : Option Nat)
  | use (pid : Nat) (faults : List (Option Nat)) (operation : Operation)
  | exit (pid : Nat)
  deriving DecidableEq

/-- The system with another state of a process. -/
def System.set (s : System) (pid : Nat) (process : Option Process) : System :=
  { s with processes := Function.update s.processes pid process }

/-- The clients of a process work on the table as it is on the disk. -/
def load (setting : Setting) (rows : List Row) (faults : List (Option Nat))
    (clients : Clients Store QueryId) : Clients Store QueryId :=
  { clients with state := { clients.state with db := ⟨setting.engine, rows, faults⟩ } }

/-- The constructor of a process makes its next call. -/
def System.call (setting : Setting) (s : System) (pid : Nat) (process : Process) :
    Option Nat → Option System
  | some code => (process.fail setting code).map fun next => s.set pid (some next)
  | none => (process.succeed setting s.disk).map fun (next, disk) =>
    { s with disk }.set pid (some next)

/-- A client in a process whose store is open uses it. -/
def System.use (setting : Setting) (s : System) (pid : Nat) (faults : List (Option Nat))
    (operation : Operation) : Process → Option System
  | .opened clients =>
    s.disk.requests.bind fun rows =>
      (Clients.step Store.interface (load setting rows faults clients) operation).map fun clients =>
        { s with disk := { s.disk with requests := some clients.state.db.requests } }.set pid
          (some (.opened clients))
  | _ => none

/-- One step of one process. -/
def step (setting : Setting) (s : System) : Label → Option System
  | .start pid =>
    match s.processes pid with
    | none => some (s.set pid (some (createForService setting)))
    | some _ => none
  | .call pid failure =>
    (s.processes pid).bind fun process => s.call setting pid process failure
  | .use pid faults operation =>
    (s.processes pid).bind fun process => s.use setting pid faults operation process
  | .exit pid => (s.processes pid).map fun _ => s.set pid none

/-- Nobody has opened the database. -/
def start (disk : Disk) : System := ⟨disk, fun _ => none⟩

/-! ### Operations that remove nothing -/

/-- The operations that may remove rows. -/
def Removes : Operation → Prop
  | .reset | .removeApplication _ | .onQuery _ .erase => True
  | _ => False

instance (operation : Operation) : Decidable (Removes operation) :=
  match operation with
  | .reset | .removeApplication _ | .onQuery _ .erase => isTrue trivial
  | .add _ | .query | .destroy _ | .onQuery _ .all | .onQuery _ (.forApplicationId _)
  | .onQuery _ (.forFeature _) | .onQuery _ (.forInterval ..) | .onQuery _ (.forAnswer _)
  | .onQuery _ .execute | .onQuery _ .next | .onQuery _ .current | .onQuery _ .status =>
    isFalse id

/-- The table is as it was. -/
private def SameTable (s t : Query × Connection) : Prop := t.2.requests = s.2.requests

private theorem sameTable_bind {α β : Type} {m : Query.Method α} {f : α → Query.Method β}
    (hm : Fallible.Keeps SameTable m) (hf : ∀ a, Fallible.Keeps SameTable (f a)) :
    Fallible.Keeps SameTable (m >>= f) :=
  Fallible.Keeps.bind (R := SameTable) (fun h h' => h'.trans h) hm hf

private theorem sameTable_bindText (index : Nat) (text : String) :
    Fallible.Keeps SameTable (Query.onSelect (PreparedStatement.bindText index text)) := by
  intro s
  rcases (Query.selecting s).bindText_cases index text with ⟨_, h⟩ | ⟨_, _, h⟩ | ⟨_, _, e, h⟩ <;>
  · rw [Query.onSelect_exec h]
    rfl

private theorem sameTable_bindInt64 (index : Nat) (i : Int64) :
    Fallible.Keeps SameTable (Query.onSelect (PreparedStatement.bindInt64 index i)) := by
  intro s
  rcases (Query.selecting s).bindInt64_cases index i with ⟨_, h⟩ | ⟨_, e, h⟩ <;>
  · rw [Query.onSelect_exec h]
    rfl

private theorem sameTable_all : Fallible.Keeps SameTable Query.all := by
  apply sameTable_bind
  · intro s
    rcases (Query.selecting s).reset_cases with ⟨_, h⟩ | ⟨_, e, h⟩ <;>
    · rw [Query.onSelect_exec h]
      rfl
  · intro _ s
    rcases (Query.selecting s).clearBindings_cases with ⟨_, h⟩ | ⟨_, e, h⟩ <;>
    · rw [Query.onSelect_exec h]
      rfl

private theorem sameTable_execute : Fallible.Keeps SameTable Query.execute := by
  intro s
  rcases Query.execute_cases s with ⟨-, h⟩ | ⟨-, e, cursor, db, h, -, hrequests, -⟩
  · rw [h]
    rfl
  · rw [h]
    exact hrequests

private theorem sameTable_next : Fallible.Keeps SameTable Query.next := by
  intro s
  rcases Query.next_cases s with ⟨-, h⟩ | ⟨code, -, e, h⟩ <;>
  · rw [h]
    rfl

private theorem sameTable_current : Fallible.Keeps SameTable Query.current := by
  intro s
  rw [Query.current, Fallible.exec_bind_ok (Fallible.exec_get s)]
  cases s.1.status <;> rfl

/-- An operation on a query other than erasing leaves the table alone. -/
private theorem onQuery_requests {operation : QueryOperation} (h : operation ≠ .erase)
    (q : QueryId) (s : Store) :
    ((Store.interface.onQuery q operation).exec s).2.db.requests = s.db.requests := by
  have hkeeps : ∀ {α : Type} {m : Query.Method α} {f : α → Returned}, Fallible.Keeps SameTable m →
      ((Store.onQuery q m >>= fun a => pure (f a)).exec s).2.db.requests = s.db.requests := by
    intro α m f hm
    rw [Fallible.exec_bind_pure_snd]
    exact hm (s.queries q, s.db)
  cases operation with
  | all => exact hkeeps sameTable_all
  | forApplicationId id => exact hkeeps (sameTable_bindText 1 id)
  | forFeature feature => exact hkeeps (sameTable_bindInt64 2 _)
  | forInterval first last =>
    exact hkeeps (sameTable_bind (sameTable_bindInt64 3 first) fun _ => sameTable_bindInt64 4 last)
  | forAnswer answer => exact hkeeps (sameTable_bindInt64 5 _)
  | execute => exact hkeeps sameTable_execute
  | next => exact hkeeps sameTable_next
  | erase => exact absurd rfl h
  | current => exact hkeeps sameTable_current
  | status => rfl

/-- An operation that removes nothing keeps all rows in their places. -/
private theorem step_prefix {c c' : Clients Store QueryId} {operation : Operation}
    (h : c.step Store.interface operation = some c') (hkeeps : ¬ Removes operation) :
    c.state.db.requests <+: c'.state.db.requests := by
  have hsame {rows : List Row} (hrows : rows = c.state.db.requests) :
      c.state.db.requests <+: rows := hrows ▸ List.prefix_rfl
  cases operation with
  | add request =>
    cases h
    rw [Clients.take, Fallible.exec_bind_pure_snd]
    change _ <+: ((Store.add request).exec c.state).2.db.requests
    rcases c.state.add_cases request with ⟨-, t, hexec, -, -, hreq⟩ | ⟨e, t, hexec, -, hreq, -⟩
    · rw [hexec, hreq]
      exact List.prefix_append _ _
    · rw [hexec]
      exact hsame hreq
  | removeApplication id => exact absurd trivial hkeeps
  | reset => exact absurd trivial hkeeps
  | query =>
    cases h
    rcases c.state.query_cases with ⟨q, t, hexec, hreads, -⟩ | ⟨e, t, hexec, hreads, -⟩ <;>
    · rw [hexec]
      exact hsame hreads.requests
  | destroy n =>
    obtain ⟨q, -, rfl⟩ := Option.map_eq_some_iff.mp h
    exact List.prefix_rfl
  | onQuery n operation =>
    obtain ⟨q, -, rfl⟩ := Option.map_eq_some_iff.mp h
    have herase : operation ≠ .erase := by
      rintro rfl
      exact hkeeps trivial
    exact hsame (onQuery_requests herase q c.state)

/-! ### What every step keeps -/

/-- The constructor is about to create the table, or to note that it did. -/
def Process.Upgrades : Process → Prop
  | .createDataTableIfNotExists _ | .setVersion => True
  | _ => False

/-- The constructor is past the upgrade. -/
def Process.Upgraded : Process → Prop
  | .prepareDelete | .prepareInsert | .prepareRemoveApplication | .opened _ => True
  | _ => False

/-- The schema version tells that there is a table. -/
def Disk.Sound (disk : Disk) : Prop := disk.version ≠ 0 → disk.requests.isSome

/-- The disk is sound, and every process may rely on what it has done or seen. The version is the
one at the beginning, or the one that the upgrade sets. -/
structure Safe (disk : Disk) (s : System) : Prop where
  sound : s.disk.Sound
  version : s.disk.version = disk.version ∨ disk.version = 0 ∧ s.disk.version = storeVersion
  created : ∀ pid, s.processes pid = some .setVersion → s.disk.requests.isSome
  upgrades : ∀ pid process, s.processes pid = some process → process.Upgrades → disk.version = 0
  upgraded : ∀ pid process, s.processes pid = some process → process.Upgraded →
    s.disk.version ≠ 0

/-- A process that starts on a sound disk is safe. -/
private theorem safe_start {disk : Disk} (hdisk : disk.Sound) : Safe disk (start disk) where
  sound := hdisk
  version := .inl rfl
  created _ h := by cases h
  upgrades _ _ h := by cases h
  upgraded _ _ h := by cases h

/-- What has to be shown where one process goes on and the disk gains a table or a version. -/
private theorem Safe.set {disk d : Disk} {s : System} {pid : Nat} {process : Option Process}
    (hs : Safe disk s) (hsound : d.Sound)
    (hversion : d.version = s.disk.version ∨ disk.version = 0 ∧ d.version = storeVersion)
    (hrequests : s.disk.requests.isSome → d.requests.isSome)
    (hcreated : process = some .setVersion → d.requests.isSome)
    (hupgrades : ∀ p ∈ process, p.Upgrades → disk.version = 0)
    (hupgraded : ∀ p ∈ process, p.Upgraded → d.version ≠ 0) :
    Safe disk ({ s with disk := d }.set pid process) where
  sound := hsound
  version := by
    rcases hversion with heq | hset
    · change d.version = _ ∨ _ ∧ d.version = _
      rw [heq]
      exact hs.version
    · exact .inr hset
  created other h := by
    by_cases hother : other = pid
    · subst hother
      exact hcreated (by simpa [System.set] using h)
    · exact hrequests (hs.created other (by simpa [System.set, hother] using h))
  upgrades other p h := by
    by_cases hother : other = pid
    · subst hother
      exact hupgrades p (by simpa [System.set] using h)
    · exact hs.upgrades other p (by simpa [System.set, hother] using h)
  upgraded other p h hp := by
    by_cases hother : other = pid
    · subst hother
      exact hupgraded p (by simpa [System.set] using h) hp
    · have hne := hs.upgraded other p (by simpa [System.set, hother] using h) hp
      rcases hversion with heq | ⟨-, hset⟩
      · change d.version ≠ 0
        rwa [heq]
      · change d.version ≠ 0
        rw [hset]
        exact storeVersion_ne_zero

/-- A process that goes on without touching the disk has to be at a stage that is safe. -/
private theorem Safe.go {disk : Disk} {s : System} {pid : Nat} {process : Option Process}
    (hs : Safe disk s) (hcreated : process = some .setVersion → s.disk.requests.isSome)
    (hupgrades : ∀ p ∈ process, p.Upgrades → disk.version = 0)
    (hupgraded : ∀ p ∈ process, p.Upgraded → s.disk.version ≠ 0) :
    Safe disk (s.set pid process) :=
  hs.set hs.sound (.inl rfl) id hcreated hupgrades hupgraded

/-- A call that does not fail keeps the system safe. -/
private theorem Safe.succeed {setting : Setting} {disk d : Disk} {s : System} {pid : Nat}
    {process next : Process} (hs : Safe disk s) (hprocess : s.processes pid = some process)
    (h : process.succeed setting s.disk = some (next, d)) :
    Safe disk ({ s with disk := d }.set pid (some next)) := by
  cases process with
  | ensureDir =>
    cases h
    exact hs.set hs.sound (.inl rfl) id nofun (by simp [Process.Upgrades])
      (by simp [Process.Upgraded])
  | openDatabase =>
    rw [Process.succeed] at h
    split at h
    · cases h
      exact hs.go nofun (by simp [Process.Upgrades]) (by simp [Process.Upgraded])
    · cases h
  | prepareCreateTable =>
    cases h
    exact hs.go nofun (by simp [Process.Upgrades]) (by simp [Process.Upgraded])
  | getVersion =>
    cases h
    by_cases hzero : s.disk.version = 0
    · rw [if_pos hzero]
      refine hs.go nofun (fun _ _ _ => ?_) (by simp [Process.Upgraded])
      rcases hs.version with heq | ⟨hdisk, -⟩
      · exact heq.symm.trans hzero
      · exact hdisk
    · rw [if_neg hzero]
      exact hs.go nofun (by simp [Process.Upgrades]) fun _ _ _ => hzero
  | createDataTableIfNotExists known =>
    rw [Process.succeed] at h
    split at h
    · cases h
      exact hs.set (fun _ => rfl) (.inl rfl) (fun _ => rfl) (fun _ => rfl)
        (fun _ _ _ => hs.upgrades pid _ hprocess trivial) (by simp [Process.Upgraded])
    · cases h
  | setVersion =>
    cases h
    exact hs.set (fun _ => hs.created pid hprocess)
      (.inr ⟨hs.upgrades pid _ hprocess trivial, rfl⟩) id nofun (by simp [Process.Upgrades])
      fun _ _ _ => storeVersion_ne_zero
  | prepareDelete | prepareInsert | prepareRemoveApplication =>
    obtain ⟨rows, hrows, hnext⟩ := Option.map_eq_some_iff.mp h
    cases hnext
    exact hs.go nofun (by simp [Process.Upgrades])
      fun _ _ _ => hs.upgraded pid _ hprocess trivial
  | opened clients => cases h
  | thrown e => cases h

/-- So does a call that fails. -/
private theorem Safe.fail {setting : Setting} {disk : Disk} {s : System} {pid code : Nat}
    {process next : Process} (hs : Safe disk s)
    (h : process.fail setting code = some next) : Safe disk (s.set pid (some next)) := by
  cases process with
  | ensureDir =>
    cases h
    split <;>
      exact hs.go nofun (by simp [Process.Upgrades]) (by simp [Process.Upgraded])
  | opened clients => cases h
  | thrown e => cases h
  | _ =>
    cases h
    exact hs.go nofun (by simp [Process.Upgrades]) (by simp [Process.Upgraded])

/-- Every step keeps the system safe. -/
private theorem safe_step {setting : Setting} {disk : Disk} {s t : System} {label : Label}
    (hs : Safe disk s) (h : step setting s label = some t) : Safe disk t := by
  cases label with
  | start pid =>
    rw [step] at h
    split at h
    · cases h
      rw [createForService]
      split <;>
        exact hs.go nofun (by simp [Process.Upgrades]) (by simp [Process.Upgraded])
    · cases h
  | call pid failure =>
    obtain ⟨process, hprocess, hcall⟩ := Option.bind_eq_some_iff.mp h
    cases failure with
    | none =>
      obtain ⟨⟨next, d⟩, hnext, rfl⟩ := Option.map_eq_some_iff.mp hcall
      exact hs.succeed hprocess hnext
    | some code =>
      obtain ⟨next, hnext, rfl⟩ := Option.map_eq_some_iff.mp hcall
      exact hs.fail hnext
  | use pid faults operation =>
    obtain ⟨process, hprocess, huse⟩ := Option.bind_eq_some_iff.mp h
    cases process with
    | opened clients =>
      obtain ⟨rows, hrows, hoperation⟩ := Option.bind_eq_some_iff.mp huse
      obtain ⟨clients', -, rfl⟩ := Option.map_eq_some_iff.mp hoperation
      exact hs.set (fun _ => rfl) (.inl rfl) (fun _ => rfl) nofun (by simp [Process.Upgrades])
        fun _ _ _ => hs.upgraded pid _ hprocess trivial
    | _ => cases huse
  | exit pid =>
    obtain ⟨process, hprocess, rfl⟩ := Option.map_eq_some_iff.mp h
    exact hs.go nofun (by simp) (by simp)

/-- What every run from a sound disk keeps. -/
private theorem safe_run {setting : Setting} {disk : Disk} {labels : List Label} {s : System}
    (hdisk : disk.Sound) (hrun : Transition.run (step setting) (start disk) labels = some s) :
    Safe disk s :=
  Transition.invariant_run (fun _ _ _ hs _ hstep => safe_step hs hstep) (safe_start hdisk)
    (Transition.meets_true _ labels) hrun

/-! ### Rows -/

/-- The rows of the table, none as long as there is no table. -/
def Disk.rows (disk : Disk) : List Row := disk.requests.getD []

/-- A client removes rows. -/
def Label.Removes : Label → Prop
  | .use _ _ operation => Opening.Removes operation
  | _ => False

private theorem rows_succeed {setting : Setting} {disk d : Disk} {process next : Process}
    (h : process.succeed setting disk = some (next, d)) : d.rows = disk.rows := by
  cases process with
  | openDatabase | createDataTableIfNotExists =>
    rw [Process.succeed] at h
    split at h
    · cases h
      rfl
    · cases h
  | prepareDelete | prepareInsert | prepareRemoveApplication =>
    obtain ⟨rows, -, hnext⟩ := Option.map_eq_some_iff.mp h
    cases hnext
    rfl
  | opened clients => cases h
  | thrown e => cases h
  | _ =>
    cases h
    rfl

/-- A step in which no client removes rows keeps all of them in their places. -/
private theorem rows_step {setting : Setting} {s t : System} {label : Label}
    (hkeeps : ¬ label.Removes) (h : step setting s label = some t) :
    s.disk.rows <+: t.disk.rows := by
  cases label with
  | start pid =>
    rw [step] at h
    split at h
    · cases h
      exact List.prefix_rfl
    · cases h
  | call pid failure =>
    obtain ⟨process, hprocess, hcall⟩ := Option.bind_eq_some_iff.mp h
    cases failure with
    | none =>
      obtain ⟨⟨next, d⟩, hnext, rfl⟩ := Option.map_eq_some_iff.mp hcall
      exact (rows_succeed hnext).symm ▸ List.prefix_rfl
    | some code =>
      obtain ⟨next, -, rfl⟩ := Option.map_eq_some_iff.mp hcall
      exact List.prefix_rfl
  | use pid faults operation =>
    obtain ⟨process, hprocess, huse⟩ := Option.bind_eq_some_iff.mp h
    cases process with
    | opened clients =>
      obtain ⟨rows, hrows, hoperation⟩ := Option.bind_eq_some_iff.mp huse
      obtain ⟨clients', hstep, rfl⟩ := Option.map_eq_some_iff.mp hoperation
      have hprefix : (load setting rows faults clients).state.db.requests <+: _ :=
        step_prefix hstep hkeeps
      rw [Disk.rows, hrows]
      exact hprefix
    | _ => cases huse
  | exit pid =>
    obtain ⟨process, -, rfl⟩ := Option.map_eq_some_iff.mp h
    exact List.prefix_rfl

private theorem rows_run {setting : Setting} {s t : System} {labels : List Label}
    (hkeeps : ∀ label ∈ labels, ¬ label.Removes)
    (hrun : Transition.run (step setting) s labels = some t) : s.disk.rows <+: t.disk.rows := by
  induction labels generalizing s with
  | nil =>
    cases hrun
    exact List.prefix_rfl
  | cons label labels ih =>
    obtain ⟨r, hr, ht⟩ := Transition.run_cons_some.mp hrun
    exact (rows_step (hkeeps label (List.mem_cons_self ..)) hr).trans
      (ih (fun other hother => hkeeps other (List.mem_cons_of_mem label hother)) ht)

/-- However many processes open, use and leave a database, with whatever failures: a version other
than 0 goes with a table, and so does a store that is open. The version stays as it was, or it is
upgraded once. No row goes or moves unless a client of a store removes it. -/
theorem opened_run {setting : Setting} {disk : Disk} {labels : List Label} {s : System}
    (hdisk : disk.Sound) (hrun : Transition.run (step setting) (start disk) labels = some s) :
    s.disk.Sound ∧
    (∀ pid clients, s.processes pid = some (.opened clients) → s.disk.requests.isSome) ∧
    (s.disk.version = disk.version ∨ disk.version = 0 ∧ s.disk.version = storeVersion) ∧
    ((∀ label ∈ labels, ¬ label.Removes) → disk.rows <+: s.disk.rows) := by
  have hs := safe_run hdisk hrun
  refine ⟨hs.sound, fun pid clients hopened => ?_, hs.version, fun hkeeps => rows_run hkeeps hrun⟩
  exact hs.sound (hs.upgraded pid _ hopened trivial)

/-- The database of the camera service of a user. -/
def camera : Setting where
  engine := Engine.stable
  errstr _ := "unknown error"
  dataHome := "/home/phablet/.local/share"
  serviceName := "camera"

/-- A user whom no service has any data about. -/
def blank : Disk := ⟨false, 0, none⟩

/-- One process creates the table and goes away before it sets the version. The next one is about to
read the version. -/
def abandoned : List Label :=
  [.start 0, .call 0 none, .call 0 none, .call 0 none, .call 0 none, .call 0 none, .exit 0,
    .start 1, .call 1 (some eexist), .call 1 none, .call 1 none]

/-- It sets up the database and adds an answer. -/
def answered : List Label :=
  abandoned ++ List.replicate 6 (.call 1 none) ++
    [.use 1 [] (.add ⟨"app", ⟨1⟩, 5, .granted⟩), .start 2, .call 2 (some eexist), .exit 1]

/-- The answer is still there when it has gone away. -/
theorem opened_run_answered : ∃ s, Transition.run (step camera) (start blank) answered = some s ∧
    s.disk.Sound ∧ s.disk.version = storeVersion ∧
    s.disk.rows = [Row.ofRequest 1 ⟨"app", ⟨1⟩, 5, .granted⟩] := by
  have hrun : Transition.run (step camera) (start blank) answered = some _ := rfl
  obtain ⟨hsound, -, -, -⟩ := opened_run (fun h => absurd rfl h) hrun
  exact ⟨_, hrun, hsound, rfl, rfl⟩

/-! ### Recovery -/

/-- How many calls a constructor still has to make at most. -/
def Process.remaining : Process → Nat
  | .ensureDir => 9
  | .openDatabase => 8
  | .prepareCreateTable => 7
  | .getVersion _ => 6
  | .createDataTableIfNotExists _ => 5
  | .setVersion => 4
  | .prepareDelete => 3
  | .prepareInsert => 2
  | .prepareRemoveApplication => 1
  | .opened _ | .thrown _ => 0

/-- The constructor comes to run a create table statement from before another process created the
table. -/
def Process.Stale (disk : Disk) : Process → Prop
  | .getVersion known => disk.version = 0 ∧ disk.requests.isSome ≠ known
  | .createDataTableIfNotExists known => disk.requests.isSome ≠ known
  | _ => False

/-- The store that a constructor arrives at, on the rows of a disk. -/
def opened (setting : Setting) (disk : Disk) : Process :=
  .opened (Clients.start (Store.onConnection ⟨setting.engine, disk.rows, []⟩))

/-- A statement on the table can be prepared past the upgrade. -/
private theorem Safe.prepare {disk : Disk} {s : System} {pid : Nat} {process : Process}
    (hs : Safe disk s) (hprocess : s.processes pid = some process) (h : process.Upgraded)
    (next : Process) : s.disk.prepare next = some (next, s.disk) := by
  obtain ⟨rows, hrows⟩ := Option.isSome_iff_exists.mp
    (hs.sound (hs.upgraded pid process hprocess h))
  rw [Disk.prepare, hrows, Option.map_some]

/-- The call that comes next succeeds, and brings the constructor closer to its end. -/
private theorem Safe.next {setting : Setting} {disk : Disk} {s : System} {pid : Nat}
    {process : Process} (hs : Safe disk s) (hprocess : s.processes pid = some process)
    (hdirectory : process = .ensureDir ∨ s.disk.directory = true)
    (hfresh : ¬ process.Stale s.disk) (hremaining : process.remaining ≠ 0) :
    ∃ next d, process.succeed setting s.disk = some (next, d) ∧ d.directory = true ∧
      ¬ next.Stale d ∧ next.remaining < process.remaining ∧
      (next.remaining = 0 → next = opened setting s.disk) := by
  cases process with
  | ensureDir => exact ⟨_, _, rfl, rfl, id, by decide, nofun⟩
  | openDatabase =>
    have hd : s.disk.directory = true := hdirectory.resolve_left nofun
    exact ⟨_, _, if_pos hd, hd, id, by decide, nofun⟩
  | prepareCreateTable =>
    exact ⟨_, _, rfl, hdirectory.resolve_left nofun, fun hstale => hstale.2 rfl,
      by simp [Process.remaining], nofun⟩
  | getVersion known =>
    refine ⟨_, _, rfl, hdirectory.resolve_left nofun, ?_⟩
    split
    next hzero =>
      exact ⟨fun hstale => hfresh ⟨hzero, hstale⟩, by simp [Process.remaining], nofun⟩
    next => exact ⟨id, by simp [Process.remaining], nofun⟩
  | createDataTableIfNotExists known =>
    have hknown : s.disk.requests.isSome = known := not_not.mp hfresh
    exact ⟨_, _, if_pos hknown, hdirectory.resolve_left nofun, id, by simp [Process.remaining],
      nofun⟩
  | setVersion => exact ⟨_, _, rfl, hdirectory.resolve_left nofun, id, by decide, nofun⟩
  | prepareDelete | prepareInsert =>
    exact ⟨_, _, hs.prepare hprocess trivial _, hdirectory.resolve_left nofun, id, by decide, nofun⟩
  | prepareRemoveApplication =>
    exact ⟨_, _, hs.prepare hprocess trivial _, hdirectory.resolve_left nofun, id, Nat.zero_lt_one,
      fun _ => rfl⟩
  | opened clients => exact absurd rfl hremaining
  | thrown e => exact absurd rfl hremaining

/-- A constructor whose calls succeed comes to its end. -/
private theorem Safe.completes {setting : Setting} {disk : Disk} {n : Nat} {s : System}
    {pid : Nat} {process : Process} (hs : Safe disk s)
    (hprocess : s.processes pid = some process)
    (hdirectory : process = .ensureDir ∨ s.disk.directory = true)
    (hfresh : ¬ process.Stale s.disk) (hremaining : process.remaining ≠ 0)
    (hn : process.remaining ≤ n) :
    ∃ k ≤ n, ∃ t, Transition.run (step setting) s (List.replicate k (.call pid none)) = some t ∧
      t.processes pid = some (opened setting s.disk) ∧ t.disk.rows = s.disk.rows ∧
      Safe disk t ∧ ∀ other, other ≠ pid → t.processes other = s.processes other := by
  induction n generalizing s process with
  | zero => exact absurd (Nat.le_zero.mp hn) hremaining
  | succ n ih =>
    obtain ⟨next, d, hnext, hd, hfresh', hless, hlast⟩ :=
      hs.next hprocess hdirectory hfresh hremaining
    have hcall : step setting s (.call pid none) =
        some ({ s with disk := d }.set pid (some next)) := by
      rw [step, hprocess, Option.bind_some, System.call, hnext, Option.map_some]
    have hsafe := hs.succeed hprocess hnext
    have hself : ({ s with disk := d }.set pid (some next)).processes pid = some next := by
      simp [System.set]
    have hothers : ∀ other, other ≠ pid →
        ({ s with disk := d }.set pid (some next)).processes other = s.processes other := by
      intro other hother
      simp [System.set, hother]
    have hrows := rows_succeed hnext
    by_cases hend : next.remaining = 0
    · refine ⟨1, Nat.succ_le_succ (Nat.zero_le n), _, ?_, hself.trans ?_, hrows, hsafe, hothers⟩
      · exact Transition.run_cons_some.mpr ⟨_, hcall, rfl⟩
      · rw [hlast hend]
    · obtain ⟨k, hk, t, hrun, hopened, hrows', ht, hothers'⟩ :=
        ih hsafe hself (.inr hd) hfresh' hend (by omega)
      refine ⟨k + 1, Nat.succ_le_succ hk, t, ?_, ?_, hrows'.trans hrows, ht,
        fun other hother => (hothers' other hother).trans (hothers other hother)⟩
      · exact Transition.run_cons_some.mpr ⟨_, hcall, hrun⟩
      · rw [hopened, opened, opened]
        exact congrArg (fun rows => some (Process.opened (Clients.start (Store.onConnection
          ⟨setting.engine, rows, []⟩)))) hrows

/-- Whatever came before, a process that is still in its constructor, in a directory that exists or
with the call that makes it to come, has its store open after at most nine more calls, if none of
them fails and it has not prepared its create table statement before another process created the
table. The store has all rows, the database is upgraded, and other processes are left alone. -/
theorem completes_run {setting : Setting} {disk : Disk} {labels : List Label} {s : System}
    {pid : Nat} {process : Process} (hdisk : disk.Sound)
    (hrun : Transition.run (step setting) (start disk) labels = some s)
    (hprocess : s.processes pid = some process)
    (hdirectory : process = .ensureDir ∨ s.disk.directory = true)
    (hfresh : ¬ process.Stale s.disk) (hremaining : process.remaining ≠ 0) :
    ∃ n ≤ 9, ∃ t, Transition.run (step setting) s (List.replicate n (.call pid none)) = some t ∧
      t.processes pid = some (opened setting s.disk) ∧
      t.disk.requests = some s.disk.rows ∧ t.disk.version ≠ 0 ∧
      ∀ other, other ≠ pid → t.processes other = s.processes other := by
  have hbound : process.remaining ≤ 9 := by
    cases process <;> simp [Process.remaining]
  obtain ⟨n, hn, t, ht, hopened, hrows, hsafe, hothers⟩ :=
    @Safe.completes setting disk 9 s pid process (safe_run hdisk hrun) hprocess hdirectory
      hfresh hremaining hbound
  have hversion := hsafe.upgraded pid _ hopened trivial
  obtain ⟨rows, hrequests⟩ := Option.isSome_iff_exists.mp (hsafe.sound hversion)
  refine ⟨n, hn, t, ht, hopened, ?_, hversion, hothers⟩
  rw [← hrows, Disk.rows, hrequests, Option.getD_some]

/-- The table that was created but not noted is no obstacle. -/
theorem completes_run_abandoned : ∃ s,
    Transition.run (step camera) (start blank) abandoned = some s ∧
    ∃ n ≤ 9, ∃ t, Transition.run (step camera) s (List.replicate n (.call 1 none)) = some t ∧
      t.processes 1 = some (opened camera s.disk) ∧ t.disk.requests = some [] := by
  obtain ⟨s, hrun, hprocess, hdirectory, hrows, hknown⟩ : ∃ s,
      Transition.run (step camera) (start blank) abandoned = some s ∧
      s.processes 1 = some (.getVersion true) ∧ s.disk.directory = true ∧ s.disk.rows = [] ∧
      s.disk.requests.isSome = true := ⟨_, rfl, rfl, rfl, rfl, rfl⟩
  obtain ⟨n, hn, t, ht, hopened, hrequests, -, -⟩ := completes_run (fun h => absurd rfl h) hrun
    hprocess (.inr hdirectory) (fun hstale => hstale.2 hknown) (by simp [Process.remaining])
  rw [hrows] at hrequests
  exact ⟨s, hrun, n, hn, t, ht, hopened, hrequests⟩

end TrustStore.Sqlite.Opening
