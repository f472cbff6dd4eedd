import IssueTracker.Proofs.Outcome
import IssueTracker.Settings.Basic

/-!
# What settings are read from

A settings file is decoded, its text is read as a JSON value, and the settings are read from the members of
that.  What each of these steps needs to give settings is said once: of a file
(`Settings.load_content_eq_ok`), of a text (`Settings.ofText_eq_ok_iff`) and of members
(`Settings.ofJson_object_eq_ok`).
-/

namespace IssueTracker.Settings

variable {members : List (AnyText × Json)} {text : List Char} {content : Bytes} {s : Settings}

/-- Each part of the settings is read from its member, or has its default; the limit is not negative. -/
theorem ofJson_object_eq_ok : ofJson (.object members) = .ok s ↔
    savedOf ((Json.member? "saved_searches" members).getD .null) = .ok s.savedSearches ∧
      limitOf ((Json.member? "default_limit" members).getD
        (.integer ({} : Settings).defaultLimit)) = .ok (s.defaultLimit : Int) ∧
      (Json.member? "name" members).getD ({} : Settings).name = s.name ∧
      ((Json.member? "colors" members).map Json.isTruthy).getD ({} : Settings).colors = s.colors := by
  constructor
  · intro reads
    obtain ⟨saved, savedReads, reads⟩ := bind_eq_ok.mp reads
    obtain ⟨limit, limitReads, reads⟩ := bind_eq_ok.mp reads
    obtain ⟨notNegative, reads⟩ := ite_error_eq_ok.mp reads
    cases reads
    refine ⟨savedReads, ?_, rfl, rfl⟩
    rw [limitReads]
    exact congrArg Except.ok (Int.toNat_of_nonneg (Int.not_lt.mp notNegative)).symm
  · obtain ⟨name, limit, colors, saved⟩ := s
    rintro ⟨savedReads, limitReads, rfl, rfl⟩
    refine bind_eq_ok.mpr ⟨saved, savedReads, bind_eq_ok.mpr ⟨limit, limitReads, ?_⟩⟩
    exact ite_error_eq_ok.mpr ⟨by omega, rfl⟩

/-- A text gives settings when it is an object that does. -/
theorem ofText_eq_ok_iff [Json.Nesting] : ofText text = .ok s ↔
    ∃ members, Json.read text = .ok (.object members) ∧ ofJson (.object members) = .ok s := by
  rw [ofText]
  constructor
  · intro reads
    cases isValue : Json.read text with
    | error e =>
      rw [isValue] at reads
      cases e <;> cases reads
    | ok value =>
      rw [isValue] at reads
      cases value with
      | object members => exact ⟨members, rfl, reads⟩
      | null | bool | integer | float | string | array => cases reads
  · rintro ⟨members, isObject, reads⟩
    rw [isObject]
    exact reads

theorem load_content [Json.Nesting] {chars : List Char} (decodes : Text.decodeUtf8 content = .ok chars) :
    load (.content content) = ofText (Text.unifyLineEnds chars) := by
  rw [load, readText, decodes]
  rfl

/-- A file gives settings when it can be decoded and its text does. -/
theorem load_content_eq_ok [Json.Nesting] : load (.content content) = .ok s ↔
    ∃ chars, Text.decodeUtf8 content = .ok chars ∧ ofText (Text.unifyLineEnds chars) = .ok s := by
  cases decodes : Text.decodeUtf8 content with
  | ok chars => simp [load_content decodes]
  | error fault => simp [load, readText, decodes, Except.map]

end IssueTracker.Settings
