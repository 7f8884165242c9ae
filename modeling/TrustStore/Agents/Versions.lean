import TrustStore.Agents.Decorators

/-!
# Application ids without their versions

`AppIdFormattingTrustAgent` passes on a request under the id of the application without its
version, so that an answer stays valid when the application is updated. Here it is written down
for every id what is passed on, and that no two applications come to share an id.
-/

namespace TrustStore.AppIdFormattingTrustAgent

open TrustStore.Base

/-- The parameters with another application id. -/
def withId (params : RequestParameters) (id : String) : RequestParameters :=
  { params with application := { params.application with id } }

/-- An id with at least two underscores and no line terminator loses what follows the last
underscore, and the underscore; every other id is kept. -/
def Strips (id forwarded : String) : Prop :=
  if 2 ≤ id.toList.count '_' ∧ Regex.Plain id.toList then
    ∃ version, id.toList = forwarded.toList ++ '_' :: version ∧ '_' ∉ version
  else forwarded = id

/-- A package, an app or a version: a text without underscores and line terminators. -/
structure Part where
  text : String
  noUnderscore : '_' ∉ text.toList
  plain : Regex.Plain text.toList

/-- The parts of an application id with a version. -/
structure ClickId where
  package : Part
  app : Part
  version : Part

namespace ClickId

/-- `package_app` -/
def unversioned (id : ClickId) : String := id.package.text ++ "_" ++ id.app.text

/-- `package_app_version` -/
def text (id : ClickId) : String := id.unversioned ++ "_" ++ id.version.text

end ClickId

private theorem Part.ext {a b : Part} (h : a.text = b.text) : a = b := by
  cases a
  cases b
  cases h
  rfl

/-- A versioned id has its underscores before the version. -/
private theorem versioned_of_count {id : String} (hcount : 2 ≤ id.toList.count '_')
    (hplain : Regex.Plain id.toList) :
    ∃ unversioned version, Versioned id unversioned version := by
  obtain ⟨unversioned, version, hid, hversion⟩ :=
    split_last (List.count_pos_iff.mp (Nat.lt_of_lt_of_le Nat.zero_lt_two hcount))
  refine ⟨unversioned, version, hid, hplain, ?_, hversion⟩
  rw [hid, List.count_append, List.count_cons_self, List.count_eq_zero.mpr hversion] at hcount
  exact List.count_pos_iff.mp (by omega)

/-- Every id is stripped of its version. -/
theorem strips_format (id : String) : Strips id (format id) := by
  rw [Strips]
  split
  next h =>
    obtain ⟨unversioned, version, hversioned⟩ := versioned_of_count h.1 h.2
    refine ⟨version, ?_, hversioned.last⟩
    rw [format_of_versioned hversioned, String.toList_ofList]
    exact hversioned.split
  next h =>
    refine format_of_not_versioned fun unversioned version hversioned => h ⟨?_, hversioned.plain⟩
    have hcount := List.count_pos_iff.mpr hversioned.qualified
    rw [hversioned.split, List.count_append, List.count_cons_self]
    omega

private theorem toList_unversioned (id : ClickId) :
    id.unversioned.toList = id.package.text.toList ++ '_' :: id.app.text.toList := by
  simp [ClickId.unversioned]

/-- The id of an application with a version loses the version. -/
theorem format_text (id : ClickId) : format id.text = id.unversioned := by
  have htext : id.text.toList = id.unversioned.toList ++ '_' :: id.version.text.toList := by
    simp [ClickId.text]
  have hunderscore : Regex.isLineTerminator '_' = false := by decide
  have hversioned : Versioned id.text id.unversioned.toList id.version.text.toList := by
    refine ⟨htext, ?_, ?_, id.version.noUnderscore⟩
    · rw [htext, toList_unversioned, Regex.plain_append, Regex.plain_append, Regex.plain_cons,
        Regex.plain_cons]
      exact ⟨⟨id.package.plain, hunderscore, id.app.plain⟩, hunderscore, id.version.plain⟩
    · rw [toList_unversioned]
      simp
  rw [format_of_versioned hversioned, String.ofList_toList]

/-- An id without a version is kept. -/
theorem format_unversioned (id : ClickId) : format id.unversioned = id.unversioned := by
  have hstrips := strips_format id.unversioned
  rw [Strips, if_neg] at hstrips
  · exact hstrips
  · rw [toList_unversioned, List.count_append, List.count_cons_self,
      List.count_eq_zero.mpr id.package.noUnderscore, List.count_eq_zero.mpr id.app.noUnderscore]
    omega

/-- Ids without versions are equal exactly for the same package and app. -/
theorem unversioned_eq_iff (a b : ClickId) :
    a.unversioned = b.unversioned ↔ a.package = b.package ∧ a.app = b.app := by
  rw [← String.toList_inj, toList_unversioned, toList_unversioned,
    List.append_cons_inj_of_notMem a.package.noUnderscore a.app.noUnderscore]
  constructor
  · rintro ⟨hpackage, -, happ⟩
    exact ⟨Part.ext (String.toList_inj.mp hpackage), Part.ext (String.toList_inj.mp happ)⟩
  · rintro ⟨hpackage, happ⟩
    exact ⟨by rw [hpackage], rfl, by rw [happ]⟩

/-- The agent passes on every request with its id stripped of the version and otherwise unchanged.
Of two ids with versions the same is passed on exactly if they have the same package and app, and it
is kept by a second agent. -/
theorem strips_version :
    (∀ (σ : Type) (impl : Agent σ) (params : RequestParameters),
      authenticateRequestWithParameters impl params =
        impl (withId params (format params.application.id))) ∧
    (∀ id, Strips id (format id)) ∧
    (∀ a b : ClickId, format a.text = format b.text ↔ a.package = b.package ∧ a.app = b.app) ∧
    (∀ a : ClickId, format (format a.text) = format a.text) := by
  refine ⟨fun _ _ _ => rfl, strips_format, fun a b => ?_, fun a => ?_⟩
  · rw [format_text, format_text, unversioned_eq_iff]
  · rw [format_text, format_unversioned]

end TrustStore.AppIdFormattingTrustAgent
