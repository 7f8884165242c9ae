import TrustStore.Mir.Agent
import Mathlib.Data.List.Perm.Basic
import Mathlib.Data.List.TakeWhile

/-!
# Desktop entries of applications

Models `ClickDesktopEntryAppInfoResolver`,
`src/core/trust/mir/click_desktop_entry_app_info_resolver.cpp`, which looks for the desktop entry of
an application in three stages. The second of them takes the first file whose name begins with the
id of the application, in the order in which the directory comes. It throws if anything on the way
cannot be looked at.
-/

namespace TrustStore.Mir

open TrustStore.Base

/-- A `boost::filesystem::path`, relative to the applications of a data directory. -/
structure Path where
  directory : String
  relative : String
  deriving DecidableEq, Repr

/-- The name of the file: what follows the last slash. -/
def Path.filename (path : Path) : String :=
  String.ofList (path.relative.toList.reverse.takeWhile (· ≠ '/')).reverse

/-- `operator/` of paths, for a name behind a directory. -/
def slash (directory name : String) : String :=
  if directory = "" then name
  else if directory.toList.getLast? = some '/' then directory ++ name
  else directory ++ "/" ++ name

/-- The directory `applications` of a data directory. `names` are the names of its files and
directories that come until its end or an error, if it can be opened, and relative paths may lead
elsewhere. Errors are the values of the `error_code`. -/
structure Applications where
  /-- `boost::filesystem::is_regular_file`, which throws but for a file that is missing -/
  isRegularFile : String → Except Int Bool
  openError : Option Int
  names : List String
  readError : Option Int
  plain : ∀ name ∈ names, '/' ∉ name.toList
  complete : openError = none → readError = none →
    ∀ name, '/' ∉ name.toList → isRegularFile name = .ok true → name ∈ names

/-! ### XDG data directories -/

/-- `xdg::data()`, with the environment of the process and what is below the data directories. -/
structure Data where
  getenv : String → Option String
  /-- `boost::filesystem::path::has_root_directory` -/
  hasRootDirectory : String → Bool
  applications : String → Applications

namespace Data

/-- `throw_if_not_absolute`; `3rd_party/xdg/xdg.cpp:28–34`. -/
def throwIfNotAbsolute (data : Data) (p : String) : Except Exception String :=
  if data.hasRootDirectory p then .ok p
  else .error (.runtimeError "Directores MUST be absolute.")

/-- `env::get_or_throw`; `3rd_party/xdg/xdg.cpp:45–53`. -/
def getOrThrow (data : Data) (key : String) : Except Exception String :=
  match data.getenv key with
  | some value => .ok value
  | none => .error (.runtimeError (key ++ " not set in environment"))

/-- `xdg::Data::home`; `3rd_party/xdg/xdg.cpp:107–114`. -/
def home (data : Data) : Except Exception String := do
  let v := (data.getenv "XDG_DATA_HOME").getD ""
  if v = "" then
    data.throwIfNotAbsolute (slash (slash (← data.getOrThrow "HOME") ".local") "share")
  else data.throwIfNotAbsolute v

/-- The components of `XDG_DATA_DIRS`, where there are none without it. -/
def tokens (data : Data) : List String :=
  let v := (data.getenv "XDG_DATA_DIRS").getD ""
  if v = "" then [] else (v.toList.splitOn ':').map String.ofList

/-- The directories without `XDG_DATA_DIRS`; `3rd_party/xdg/xdg.cpp:118–120`. -/
def defaultDirs : List String := ["/usr/local/share", "/usr/share"]

/-- `xdg::Data::dirs`, which throws for any component that is relative or empty;
`3rd_party/xdg/xdg.cpp:116–130`. -/
def dirs (data : Data) : Except Exception (List String) :=
  if data.tokens = [] then .ok defaultDirs else data.tokens.mapM data.throwIfNotAbsolute

/-- The system data directories, whatever else is in `XDG_DATA_DIRS`. -/
def systemDirs (data : Data) : List String :=
  if data.tokens = [] then defaultDirs else data.tokens.filter data.hasRootDirectory

end Data

/-! ### The lookup -/

/-- The name of the desktop entry of an application, without a version. -/
def desktopEntry (appId : String) : String := appId ++ ".desktop"

/-- `is_regular_file(p)` where an error is thrown as a `filesystem_error`. -/
def Applications.check (applications : Applications) (name : String) : Except Exception Bool :=
  match applications.isRegularFile name with
  | .ok regular => .ok regular
  | .error code => .error (.systemError code)

/-- The first name that begins with the id, where the files come in some order;
`src/core/trust/mir/click_desktop_entry_app_info_resolver.cpp:48–55`. -/
def Applications.iterate (applications : Applications) (order : List String) (appId : String) :
    Except Exception (Option String) :=
  match applications.openError with
  | some code => .error (.systemError code)
  | none =>
    match order.find? fun name => appId.toList.isPrefixOf name.toList with
    | some name => .ok (some name)
    | none =>
      match applications.readError with
      | some code => .error (.systemError code)
      | none => .ok none

/-- The first of the system data directories with the entry;
`src/core/trust/mir/click_desktop_entry_app_info_resolver.cpp:57–64`. -/
def Data.findInDirs (data : Data) (appId : String) : List String → Except Exception Path
  | [] => .error (.runtimeError ("Could not resolve desktop entry for " ++ appId))
  | dir :: dirs => do
    if ← (data.applications dir).check (desktopEntry appId) then
      return ⟨slash dir "applications", desktopEntry appId⟩
    else data.findInDirs appId dirs

/-- `resolve_desktop_entry_or_throw`, where the files in data home come in some order;
`src/core/trust/mir/click_desktop_entry_app_info_resolver.cpp:42–65`. -/
def resolveDesktopEntryOrThrow (data : Data) (order : List String) (appId : String) :
    Except Exception Path := do
  let home ← data.home
  let applications := data.applications home
  if ← applications.check (desktopEntry appId) then
    return ⟨slash home "applications", desktopEntry appId⟩
  else
    match ← applications.iterate order appId with
    | some name => return ⟨slash home "applications", name⟩
    | none => data.findInDirs appId (← data.dirs)

/-- The parts of GLib and of the file system that read a desktop entry, for the locale of the
process. Errors are the texts of a `GError`. -/
structure Reader where
  KeyFile : Type
  loadFromFile : Path → Except String KeyFile
  getLocaleString : KeyFile → String → Except String String
  /-- `boost::filesystem::path::is_absolute` -/
  isAbsolute : String → Bool
  /-- `boost::filesystem::is_regular_file`, with the value of the error that `status` throws -/
  isRegularFile : String → Except Int Bool

/-- `name_from_desktop_entry_or_throw`;
`src/core/trust/mir/click_desktop_entry_app_info_resolver.cpp:77–95`. -/
def nameFromDesktopEntryOrThrow (reader : Reader) (path : Path) : Except Exception String :=
  match reader.loadFromFile path with
  | .error text => .error (.runtimeError ("Failed to load desktop entry [" ++ text ++ "]"))
  | .ok keyFile =>
    match reader.getLocaleString keyFile "Name" with
    | .error text => .error (.runtimeError ("Failed to query localized name [" ++ text ++ "]"))
    | .ok name => .ok name

/-- `icon_from_desktop_entry_or_throw`;
`src/core/trust/mir/click_desktop_entry_app_info_resolver.cpp:97–123`. -/
def iconFromDesktopEntryOrThrow (reader : Reader) (path : Path) : Except Exception String :=
  match reader.loadFromFile path with
  | .error text => .error (.runtimeError ("Failed to load desktop entry [" ++ text ++ "]"))
  | .ok keyFile =>
    match reader.getLocaleString keyFile "Icon" with
    | .error text => .error (.runtimeError ("Failed to query icon [" ++ text ++ "]"))
    | .ok icon =>
      match if reader.isAbsolute icon then reader.isRegularFile icon else .ok false with
      | .error code => .error (.systemError code)
      | .ok true => .ok icon
      | .ok false => .error (.runtimeError
          ("Icon path is either not absolute or not pointing to a regular file [" ++ icon ++ "]"))

/-- `ClickDesktopEntryAppInfoResolver::resolve`;
`src/core/trust/mir/click_desktop_entry_app_info_resolver.cpp:130–139`. -/
def resolve (reader : Reader) (data : Data) (order : List String) (appId : String) :
    Except Exception AppInfo := do
  let entry ← resolveDesktopEntryOrThrow data order appId
  let icon ← iconFromDesktopEntryOrThrow reader entry
  let name ← nameFromDesktopEntryOrThrow reader entry
  return ⟨icon, name, appId⟩

section

variable (IsVersion : String → Prop) (data : Data) (appId : String)

/-- The name of a desktop entry of the application, whatever counts as a version. -/
def NamesEntry (name : String) : Prop :=
  name = desktopEntry appId ∨ ∃ version, IsVersion version ∧
    name = desktopEntry (appId ++ "_" ++ version)

/-- The application has an entry: a regular file in data home, or one with the exact name in a
system data directory. -/
def HasEntry : Prop :=
  (∃ home name, data.home = .ok home ∧ '/' ∉ name.toList ∧ NamesEntry IsVersion appId name ∧
      (data.applications home).isRegularFile name = .ok true) ∨
    ∃ dir ∈ data.systemDirs, '/' ∉ appId.toList ∧
      (data.applications dir).isRegularFile (desktopEntry appId) = .ok true

/-- The files in data home come in an order. -/
def InOrder (order : List String) : Prop :=
  ∀ home, data.home = .ok home → order.Perm (data.applications home).names

/-- In whatever order data home comes, the entry that is found is one of the application, its icon
and name are what is shown, and an entry is found if there is one. -/
structure NamesApplication : Prop where
  named : ∀ order, InOrder data order → ∀ path,
    resolveDesktopEntryOrThrow data order appId = .ok path →
      NamesEntry IsVersion appId path.filename
  shown : ∀ (reader : Reader) (order : List String), InOrder data order → ∀ info,
    resolve reader data order appId = .ok info →
      ∃ path, NamesEntry IsVersion appId path.filename ∧ info.id = appId ∧
        iconFromDesktopEntryOrThrow reader path = .ok info.icon ∧
        nameFromDesktopEntryOrThrow reader path = .ok info.name
  found : HasEntry IsVersion data appId → ∀ order, InOrder data order →
    ∃ path, resolveDesktopEntryOrThrow data order appId = .ok path

/-- All components of `XDG_DATA_DIRS` are absolute, one of the system data directories has the entry
without a version, and those before it can be looked at. -/
def InDirs : Prop :=
  ∃ before dir after, data.dirs = .ok (before ++ dir :: after) ∧
    (∀ other ∈ before,
      (data.applications other).isRegularFile (desktopEntry appId) = .ok false) ∧
    (data.applications dir).isRegularFile (desktopEntry appId) = .ok true

/-- Data home, in which there is no entry without a version, is unambiguous: every name that begins
with the id is that of an entry of the application. If there is none, the directory comes to its end
and an entry is in the system data directories, if there is one at all. If data home cannot be
opened, there is none. -/
def Applications.Unambiguous (applications : Applications) : Prop :=
  if applications.openError = none then
    (∀ name ∈ applications.names, appId.toList <+: name.toList →
      NamesEntry IsVersion appId name) ∧
    ((∀ name ∈ applications.names, ¬ appId.toList <+: name.toList) →
      (applications.readError = none ∧ InDirs data appId → '/' ∉ appId.toList) ∧
      (HasEntry IsVersion data appId → applications.readError = none ∧ InDirs data appId))
  else ¬ HasEntry IsVersion data appId

/-- Data home has the entry without a version, or it does not and is unambiguous. If data home is
not known or the entry in it cannot be looked at, there is no entry to be found. -/
def Unambiguous : Prop :=
  match data.home with
  | .error _ => ¬ HasEntry IsVersion data appId
  | .ok home =>
    match (data.applications home).isRegularFile (desktopEntry appId) with
    | .ok true => '/' ∉ appId.toList
    | .ok false => (data.applications home).Unambiguous IsVersion data appId
    | .error _ => ¬ HasEntry IsVersion data appId

end

variable {IsVersion : String → Prop} {data : Data} {appId name home : String} {order : List String}

/-! ### File names -/

private theorem plain_filename (path : Path) : '/' ∉ path.filename.toList := by
  intro h
  rw [Path.filename, String.toList_ofList, List.mem_reverse] at h
  simpa using List.mem_takeWhile_imp h

private theorem filename_of_plain (path : Path) (h : '/' ∉ path.relative.toList) :
    path.filename = path.relative := by
  have hall : path.relative.toList.reverse.takeWhile (· ≠ '/') = path.relative.toList.reverse := by
    rw [List.takeWhile_eq_self_iff]
    intro c hc
    simp only [ne_eq, decide_not, Bool.not_eq_true', decide_eq_false_iff_not]
    rintro rfl
    exact h (List.mem_reverse.mp hc)
  rw [Path.filename, hall, List.reverse_reverse, String.ofList_toList]

private theorem plain_desktopEntry (h : '/' ∉ appId.toList) :
    '/' ∉ (desktopEntry appId).toList := by
  rw [desktopEntry, String.toList_append, List.mem_append, not_or]
  exact ⟨h, by decide⟩

/-- The names of the entries of an application begin with its id. -/
theorem prefix_of_namesEntry (h : NamesEntry IsVersion appId name) :
    appId.toList <+: name.toList := by
  rcases h with rfl | ⟨version, -, rfl⟩
  · rw [desktopEntry, String.toList_append]
    exact List.prefix_append ..
  · rw [desktopEntry, String.toList_append, String.toList_append, String.toList_append,
      List.append_assoc, List.append_assoc]
    exact List.prefix_append ..

/-- An id with a slash is not the beginning of a file name. -/
private theorem plain_of_namesEntry {path : Path}
    (h : NamesEntry IsVersion appId path.filename) : '/' ∉ appId.toList :=
  fun hslash => plain_filename path ((prefix_of_namesEntry h).subset hslash)

/-! ### The three stages -/

private theorem resolve_homeless {e : Exception} (hhome : data.home = .error e) :
    resolveDesktopEntryOrThrow data order appId = .error e := by
  rw [resolveDesktopEntryOrThrow, hhome]
  rfl

private theorem resolve_unchecked {code : Int} (hhome : data.home = .ok home)
    (hregular : (data.applications home).isRegularFile (desktopEntry appId) = .error code) :
    resolveDesktopEntryOrThrow data order appId = .error (.systemError code) := by
  simp [resolveDesktopEntryOrThrow, hhome, Applications.check, hregular, bind, Except.bind]

private theorem resolve_regular (hhome : data.home = .ok home)
    (hregular : (data.applications home).isRegularFile (desktopEntry appId) = .ok true) :
    resolveDesktopEntryOrThrow data order appId =
      .ok ⟨slash home "applications", desktopEntry appId⟩ := by
  simp [resolveDesktopEntryOrThrow, hhome, Applications.check, hregular, bind, Except.bind, pure,
    Except.pure]

private theorem resolve_unopened {code : Int} (hhome : data.home = .ok home)
    (hregular : (data.applications home).isRegularFile (desktopEntry appId) = .ok false)
    (hopen : (data.applications home).openError = some code) :
    resolveDesktopEntryOrThrow data order appId = .error (.systemError code) := by
  simp [resolveDesktopEntryOrThrow, hhome, Applications.check, hregular, Applications.iterate,
    hopen, bind, Except.bind]

/-- In a directory that can be opened the first name that begins with the id is taken. -/
private theorem resolve_matching (hhome : data.home = .ok home)
    (hregular : (data.applications home).isRegularFile (desktopEntry appId) = .ok false)
    (hopen : (data.applications home).openError = none)
    (hfind : (order.find? fun name => appId.toList.isPrefixOf name.toList) = some name) :
    resolveDesktopEntryOrThrow data order appId = .ok ⟨slash home "applications", name⟩ := by
  simp [resolveDesktopEntryOrThrow, hhome, Applications.check, hregular, Applications.iterate,
    hopen, hfind, bind, Except.bind, pure, Except.pure]

/-- If no name begins with the id, the directory has to come to its end. -/
private theorem resolve_unread {code : Int} (hhome : data.home = .ok home)
    (hregular : (data.applications home).isRegularFile (desktopEntry appId) = .ok false)
    (hopen : (data.applications home).openError = none)
    (hfind : (order.find? fun name => appId.toList.isPrefixOf name.toList) = none)
    (hread : (data.applications home).readError = some code) :
    resolveDesktopEntryOrThrow data order appId = .error (.systemError code) := by
  simp [resolveDesktopEntryOrThrow, hhome, Applications.check, hregular, Applications.iterate,
    hopen, hfind, hread, bind, Except.bind]

/-- Then the system data directories decide. -/
private theorem resolve_dirs (hhome : data.home = .ok home)
    (hregular : (data.applications home).isRegularFile (desktopEntry appId) = .ok false)
    (hopen : (data.applications home).openError = none)
    (hfind : (order.find? fun name => appId.toList.isPrefixOf name.toList) = none)
    (hread : (data.applications home).readError = none) :
    resolveDesktopEntryOrThrow data order appId =
      data.dirs >>= fun dirs => data.findInDirs appId dirs := by
  simp [resolveDesktopEntryOrThrow, hhome, Applications.check, hregular, Applications.iterate,
    hopen, hfind, hread, bind, Except.bind]

/-- The entry in the first directory that has it is found, if those before it can be looked at. -/
private theorem findInDirs_found {before after : List String} {dir : String}
    (hbefore : ∀ other ∈ before,
      (data.applications other).isRegularFile (desktopEntry appId) = .ok false)
    (hdir : (data.applications dir).isRegularFile (desktopEntry appId) = .ok true) :
    data.findInDirs appId (before ++ dir :: after) =
      .ok ⟨slash dir "applications", desktopEntry appId⟩ := by
  induction before with
  | nil =>
    simp [Data.findInDirs, Applications.check, hdir, bind, Except.bind, pure, Except.pure]
  | cons other before ih =>
    have hother := hbefore other List.mem_cons_self
    rw [List.cons_append, Data.findInDirs]
    simp only [Applications.check, hother, bind, Except.bind, Bool.false_eq_true, if_false]
    exact ih fun o ho => hbefore o (List.mem_cons_of_mem other ho)

/-- Nothing else is found in the directories. -/
private theorem findInDirs_eq_ok {dirs : List String} {path : Path}
    (h : data.findInDirs appId dirs = .ok path) :
    path.relative = desktopEntry appId ∧ ∃ before dir after, dirs = before ++ dir :: after ∧
      (∀ other ∈ before,
        (data.applications other).isRegularFile (desktopEntry appId) = .ok false) ∧
      (data.applications dir).isRegularFile (desktopEntry appId) = .ok true := by
  induction dirs with
  | nil => cases h
  | cons dir dirs ih =>
    rw [Data.findInDirs] at h
    obtain ⟨regular, hcheck, h⟩ := bind_eq_ok h
    rw [Applications.check] at hcheck
    cases hregular : (data.applications dir).isRegularFile (desktopEntry appId) with
    | error code => simp [hregular] at hcheck
    | ok regular' =>
      rw [hregular] at hcheck
      cases hcheck
      cases regular with
      | true =>
        cases h
        exact ⟨rfl, [], dir, dirs, rfl, by simp, hregular⟩
      | false =>
        obtain ⟨hname, before, found, after, rfl, hbefore, hfound⟩ := ih h
        refine ⟨hname, dir :: before, found, after, rfl, ?_, hfound⟩
        intro other hother
        rcases List.mem_cons.mp hother with rfl | hother
        · exact hregular
        · exact hbefore other hother

/-- What the last stage finds has the exact name. -/
private theorem inDirs_of_resolve (hhome : data.home = .ok home)
    (hregular : (data.applications home).isRegularFile (desktopEntry appId) = .ok false)
    (hopen : (data.applications home).openError = none)
    (hfind : (order.find? fun name => appId.toList.isPrefixOf name.toList) = none) {path : Path}
    (hpath : resolveDesktopEntryOrThrow data order appId = .ok path) :
    (data.applications home).readError = none ∧ InDirs data appId ∧
      path.relative = desktopEntry appId := by
  cases hread : (data.applications home).readError with
  | some code => cases (resolve_unread hhome hregular hopen hfind hread).symm.trans hpath
  | none =>
    rw [resolve_dirs hhome hregular hopen hfind hread] at hpath
    obtain ⟨dirs, hdirs, hpath⟩ := bind_eq_ok hpath
    obtain ⟨hname, before, dir, after, rfl, hfound⟩ := findInDirs_eq_ok hpath
    exact ⟨rfl, ⟨before, dir, after, hdirs, hfound⟩, hname⟩

/-- The last stage finds an entry that is there to be found. -/
private theorem resolve_inDirs (hhome : data.home = .ok home)
    (hregular : (data.applications home).isRegularFile (desktopEntry appId) = .ok false)
    (hopen : (data.applications home).openError = none)
    (hfind : (order.find? fun name => appId.toList.isPrefixOf name.toList) = none)
    (hread : (data.applications home).readError = none) (h : InDirs data appId) :
    ∃ dir, resolveDesktopEntryOrThrow data order appId =
      .ok ⟨slash dir "applications", desktopEntry appId⟩ := by
  obtain ⟨before, dir, after, hdirs, hbefore, hdir⟩ := h
  refine ⟨dir, ?_⟩
  rw [resolve_dirs hhome hregular hopen hfind hread, hdirs]
  exact findInDirs_found hbefore hdir

private theorem find_eq_none (h : ∀ name ∈ order, ¬ appId.toList <+: name.toList) :
    (order.find? fun name => appId.toList.isPrefixOf name.toList) = none := by
  rw [List.find?_eq_none]
  simpa [List.isPrefixOf_iff_prefix] using h

/-- What is shown is read from the entry that was found. -/
theorem resolve_eq_ok {reader : Reader} {info : AppInfo}
    (h : resolve reader data order appId = .ok info) :
    ∃ path, resolveDesktopEntryOrThrow data order appId = .ok path ∧ info.id = appId ∧
      iconFromDesktopEntryOrThrow reader path = .ok info.icon ∧
      nameFromDesktopEntryOrThrow reader path = .ok info.name := by
  obtain ⟨path, hpath, h⟩ := bind_eq_ok h
  obtain ⟨icon, hicon, h⟩ := bind_eq_ok h
  obtain ⟨name, hname, h⟩ := bind_eq_ok h
  cases h
  exact ⟨path, hpath, rfl, hicon, hname⟩

/-! ### Ambiguous names -/

private theorem inOrder_of_perm (hhome : data.home = .ok home)
    (h : order.Perm (data.applications home).names) : InOrder data order := by
  intro home' hhome'
  cases hhome.symm.trans hhome'
  exact h

/-- The files in data home come in some order, if it is known at all. -/
private theorem exists_inOrder (data : Data) : ∃ order, InOrder data order := by
  cases hhome : data.home with
  | error e =>
    refine ⟨[], fun home hhome' => ?_⟩
    cases hhome.symm.trans hhome'
  | ok home => exact ⟨_, inOrder_of_perm hhome (.refl _)⟩

/-- Where the lookup throws in any order, there has to be no entry. -/
private theorem namesApplication_throws {e : Exception}
    (hthrows : ∀ order, resolveDesktopEntryOrThrow data order appId = .error e) :
    NamesApplication IsVersion data appId ↔ ¬ HasEntry IsVersion data appId := by
  constructor
  · intro h hentry
    obtain ⟨order, horder⟩ := exists_inOrder data
    obtain ⟨path, hpath⟩ := h.found hentry order horder
    cases (hthrows order).symm.trans hpath
  · intro hnone
    refine ⟨fun order _ path hpath => ?_, fun reader order _ info hinfo => ?_,
      fun hentry => absurd hentry hnone⟩
    · cases (hthrows order).symm.trans hpath
    · obtain ⟨path, hpath, -⟩ := resolve_eq_ok hinfo
      cases (hthrows order).symm.trans hpath

/-- The icon and the name that are shown are those of the entry, so it is enough to look at that. -/
private theorem NamesApplication.mk_of_named
    (hnamed : ∀ order, InOrder data order → ∀ path,
      resolveDesktopEntryOrThrow data order appId = .ok path →
        NamesEntry IsVersion appId path.filename)
    (hfound : HasEntry IsVersion data appId → ∀ order, InOrder data order →
      ∃ path, resolveDesktopEntryOrThrow data order appId = .ok path) :
    NamesApplication IsVersion data appId := by
  refine ⟨hnamed, fun reader order horder info hinfo => ?_, hfound⟩
  obtain ⟨path, hpath, hid, hicon, hname⟩ := resolve_eq_ok hinfo
  exact ⟨path, hnamed order horder path hpath, hid, hicon, hname⟩

private theorem namesEntry_exact (directory : String) (hslash : '/' ∉ appId.toList) :
    NamesEntry IsVersion appId (Path.filename ⟨directory, desktopEntry appId⟩) :=
  .inl (filename_of_plain _ (plain_desktopEntry hslash))

/-- The entry without a version in data home is taken in any order. -/
private theorem namesApplication_regular (hhome : data.home = .ok home)
    (hregular : (data.applications home).isRegularFile (desktopEntry appId) = .ok true) :
    NamesApplication IsVersion data appId ↔ '/' ∉ appId.toList := by
  constructor
  · intro h
    exact plain_of_namesEntry (h.named _ (inOrder_of_perm hhome (.refl _)) _
      (resolve_regular hhome hregular))
  · intro hslash
    refine .mk_of_named (fun order _ path hpath => ?_) fun _ order _ =>
      ⟨_, resolve_regular hhome hregular⟩
    cases (resolve_regular hhome hregular).symm.trans hpath
    exact namesEntry_exact _ hslash

section Opened

variable (hhome : data.home = .ok home)
  (hregular : (data.applications home).isRegularFile (desktopEntry appId) = .ok false)
  (hopen : (data.applications home).openError = none)
include hhome hregular hopen

/-- Whatever begins with the id may come first in some order. -/
private theorem namesEntry_of_named (h : NamesApplication IsVersion data appId)
    (hname : name ∈ (data.applications home).names) (hbegins : appId.toList <+: name.toList) :
    NamesEntry IsVersion appId name := by
  have horder : (name :: (data.applications home).names.erase name).Perm
      (data.applications home).names := (List.perm_cons_erase hname).symm
  have hfind : ((name :: (data.applications home).names.erase name).find? fun name =>
      appId.toList.isPrefixOf name.toList) = some name :=
    List.find?_cons_of_pos (List.isPrefixOf_iff_prefix.mpr hbegins)
  have hnamed := h.named _ (inOrder_of_perm hhome horder) _
    (resolve_matching hhome hregular hopen hfind)
  rwa [filename_of_plain ⟨slash home "applications", name⟩
    ((data.applications home).plain name hname)] at hnamed

/-- If no name begins with the id, the last stage tells. -/
private theorem inDirs_of_named (h : NamesApplication IsVersion data appId)
    (hnone : ∀ name ∈ (data.applications home).names, ¬ appId.toList <+: name.toList) :
    ((data.applications home).readError = none ∧ InDirs data appId → '/' ∉ appId.toList) ∧
      (HasEntry IsVersion data appId →
        (data.applications home).readError = none ∧ InDirs data appId) := by
  have horder := inOrder_of_perm hhome (.refl (data.applications home).names)
  constructor
  · rintro ⟨hread, hdirs⟩
    obtain ⟨dir, hpath⟩ :=
      resolve_inDirs hhome hregular hopen (find_eq_none hnone) hread hdirs
    exact plain_of_namesEntry (h.named _ horder _ hpath)
  · intro hentry
    obtain ⟨path, hpath⟩ := h.found hentry _ horder
    obtain ⟨hread, hdirs, -⟩ :=
      inDirs_of_resolve hhome hregular hopen (find_eq_none hnone) hpath
    exact ⟨hread, hdirs⟩

/-- The entry that is found is one of the application's, and one is found if there is one. -/
private theorem named_of_unambiguous
    (hnames : ∀ name ∈ (data.applications home).names, appId.toList <+: name.toList →
      NamesEntry IsVersion appId name)
    (hlast : (∀ name ∈ (data.applications home).names, ¬ appId.toList <+: name.toList) →
      ((data.applications home).readError = none ∧ InDirs data appId → '/' ∉ appId.toList) ∧
      (HasEntry IsVersion data appId →
        (data.applications home).readError = none ∧ InDirs data appId)) :
    NamesApplication IsVersion data appId := by
  have hnone : ∀ {order : List String}, InOrder data order →
      (order.find? fun name => appId.toList.isPrefixOf name.toList) = none →
      ∀ name ∈ (data.applications home).names, ¬ appId.toList <+: name.toList := by
    intro order horder hfind name hname hbegins
    have habsent := List.find?_eq_none.mp hfind name ((horder home hhome).mem_iff.mpr hname)
    exact habsent (List.isPrefixOf_iff_prefix.mpr hbegins)
  refine .mk_of_named (fun order horder path hpath => ?_) fun hentry order horder => ?_
  · cases hfind : order.find? fun name => appId.toList.isPrefixOf name.toList with
    | some name =>
      cases (resolve_matching hhome hregular hopen hfind).symm.trans hpath
      have hname := (horder home hhome).mem_iff.mp (List.mem_of_find?_eq_some hfind)
      have hbegins : appId.toList.isPrefixOf name.toList = true :=
        List.find?_some (p := fun name : String => appId.toList.isPrefixOf name.toList) hfind
      rw [filename_of_plain ⟨slash home "applications", name⟩
        ((data.applications home).plain name hname)]
      exact hnames name hname (List.isPrefixOf_iff_prefix.mp hbegins)
    | none =>
      obtain ⟨hread, hdirs, hrelative⟩ := inDirs_of_resolve hhome hregular hopen hfind hpath
      have hslash := (hlast (hnone horder hfind)).1 ⟨hread, hdirs⟩
      obtain ⟨directory, relative⟩ := path
      cases hrelative
      exact namesEntry_exact directory hslash
  · cases hfind : order.find? fun name => appId.toList.isPrefixOf name.toList with
    | some name => exact ⟨_, resolve_matching hhome hregular hopen hfind⟩
    | none =>
      obtain ⟨hread, hdirs⟩ := (hlast (hnone horder hfind)).2 hentry
      obtain ⟨dir, hpath⟩ := resolve_inDirs hhome hregular hopen hfind hread hdirs
      exact ⟨_, hpath⟩

end Opened

/-- The prompt names the right application in every order of data home if and only if the names in
it are not ambiguous and nothing throws on the way to an entry. -/
theorem namesApplication_iff :
    NamesApplication IsVersion data appId ↔ Unambiguous IsVersion data appId := by
  rw [Unambiguous]
  split
  next e hhome => exact namesApplication_throws fun _ => resolve_homeless hhome
  next home hhome =>
    split
    next hregular => exact namesApplication_regular hhome hregular
    next hregular =>
      rw [Applications.Unambiguous]
      cases hopen : (data.applications home).openError with
      | some code =>
        rw [if_neg (by simp)]
        exact namesApplication_throws fun _ => resolve_unopened hhome hregular hopen
      | none =>
        rw [if_pos rfl]
        constructor
        · intro h
          exact ⟨fun name => namesEntry_of_named hhome hregular hopen h,
            inDirs_of_named hhome hregular hopen h⟩
        · rintro ⟨hnames, hlast⟩
          exact named_of_unambiguous hhome hregular hopen hnames hlast
    next code hregular => exact namesApplication_throws fun _ => resolve_unchecked hhome hregular

/-- A directory without files. -/
def emptyDirectory : Applications where
  isRegularFile _ := .ok false
  openError := none
  names := []
  readError := none
  plain := by simp
  complete := by simp

/-- A data home with an entry of one application. -/
def oneEntry : Data where
  getenv key := if key = "HOME" then some "/home/phablet" else none
  hasRootDirectory p := p.toList.head? = some '/'
  applications dir :=
    if dir = "/home/phablet/.local/share" then
      { isRegularFile := fun name => .ok (name = "package_app2.desktop")
        openError := none
        names := ["package_app2.desktop"]
        readError := none
        plain := by decide
        complete := by simp }
    else emptyDirectory

/-- The entry of another application is taken if its name begins with the id, whatever counts as a
version. -/
theorem not_namesApplication_oneEntry : ¬ ∃ IsVersion : String → Prop,
    ∀ (data : Data) (package app : String), package ≠ "" → '_' ∉ package.toList →
      app ≠ "" → '_' ∉ app.toList → NamesApplication IsVersion data (package ++ "_" ++ app) := by
  rintro ⟨IsVersion, h⟩
  have hhome : oneEntry.home = .ok "/home/phablet/.local/share" := by decide
  have hpath : resolveDesktopEntryOrThrow oneEntry ["package_app2.desktop"]
      ("package" ++ "_" ++ "app") =
      .ok ⟨"/home/phablet/.local/share/applications", "package_app2.desktop"⟩ := by decide
  have hnamed := (h oneEntry "package" "app" (by decide) (by decide) (by decide) (by decide)).named
    _ (inOrder_of_perm hhome (.refl _)) _ hpath
  have hfilename : Path.filename
      ⟨"/home/phablet/.local/share/applications", "package_app2.desktop"⟩ =
      "package_app2.desktop" := filename_of_plain _ (by decide)
  rcases hnamed with hexact | ⟨version, -, hversion⟩
  · exact absurd (hfilename.symm.trans hexact) (by decide)
  · have hname : "package_app2.desktop" = "package_app_" ++ (version ++ ".desktop") :=
      (hfilename.symm.trans hversion).trans (by simp [desktopEntry, String.append_assoc])
    have hbegins : "package_app_".toList <+: "package_app2.desktop".toList :=
      ⟨(version ++ ".desktop").toList,
        (String.toList_append ..).symm.trans (congrArg String.toList hname.symm)⟩
    exact absurd hbegins (by decide)

end TrustStore.Mir
