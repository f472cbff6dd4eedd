import IssueTracker.Proofs.Json.Stopping
import IssueTracker.Proofs.Settings.Reading
import IssueTracker.Proofs.Text.Digits
import IssueTracker.Proofs.Text.Utf8

/-!
# Settings files that are damaged

What is wrong with a settings file is a fault that commands report, with three exceptions: a whole
number of more digits than a numeral may have, containers too far inside one another, and a limit without
end (`Settings.isReported_ofText_iff`).
-/

namespace IssueTracker

namespace Settings

/-- The settings are read, or what is wrong with the file is reported. -/
def IsReported (outcome : Except SettingsError Settings) : Prop :=
  (∃ s, outcome = .ok s) ∨ ∃ fault, outcome = .error (.fault fault)

instance (outcome : Except SettingsError Settings) : Decidable (IsReported outcome) :=
  match outcome with
  | .ok s => isTrue (Or.inl ⟨s, rfl⟩)
  | .error (.fault fault) => isTrue (Or.inr ⟨fault, rfl⟩)
  | .error .isDirectory => isFalse (by simp [IsReported])
  | .error (.undecodable fault) => isFalse (by simp [IsReported])
  | .error (.longNumber numeral) => isFalse (by simp [IsReported])
  | .error (.tooDeep overflow) => isFalse (by simp [IsReported])
  | .error .infiniteLimit => isFalse (by simp [IsReported])

/-- The members of an object have saved searches that can be read: an object, or a value that counts
    as false. -/
def HasSaved (members : List (AnyText × Json)) : Prop :=
  ((Json.member? "saved_searches" members).getD .null).isTruthy = false ∨
    ∃ saved, Json.member? "saved_searches" members = some (.object saved)

/-- A text that writes settings with a limit without end. -/
def HasInfiniteLimit [Json.Nesting] (text : List Char) : Prop :=
  ∃ members negative, Json.read text = .ok (.object members) ∧ HasSaved members ∧
    Json.member? "default_limit" members = some (.float (.infinity negative))

section
variable {members : List (AnyText × Json)} {value : Json} {text : List Char}

/-- Saved searches that cannot be read are reported. -/
theorem savedOf_cases (members : List (AnyText × Json)) :
    (HasSaved members ∧
      ∃ saved, savedOf ((Json.member? "saved_searches" members).getD .null) = .ok saved) ∨
    ¬ HasSaved members ∧
      savedOf ((Json.member? "saved_searches" members).getD .null) = .error (.fault .savedNotAnObject) := by
  unfold savedOf HasSaved
  cases Json.member? "saved_searches" members with
  | none => exact Or.inl ⟨Or.inl rfl, [], rfl⟩
  | some value =>
    rw [Option.getD_some]
    by_cases truthy : value.isTruthy = true
    · cases value with
      | object saved => exact Or.inl ⟨Or.inr ⟨saved, rfl⟩, _, if_neg (by simp [truthy])⟩
      | null | bool | integer | float | string | array =>
        exact Or.inr ⟨by simp [truthy], if_neg (by simp [truthy])⟩
    · exact Or.inl ⟨Or.inl (by simpa using truthy), [], if_pos (by simpa using truthy)⟩

/-- A value that stands for no limit is reported, unless it is a number without end. -/
theorem limitOf_cases (value : Json) :
    (∃ limit, limitOf value = .ok limit) ∨ limitOf value = .error (.fault .limitNotInteger) ∨
      ∃ negative, value = .float (.infinity negative) := by
  cases value with
  | integer n => exact Or.inl ⟨n, rfl⟩
  | bool b => exact Or.inl ⟨_, rfl⟩
  | float x =>
    cases x with
    | finite negative mantissa exponent => exact Or.inl ⟨_, rfl⟩
    | infinity negative => exact Or.inr (Or.inr ⟨negative, rfl⟩)
    | nan => exact Or.inr (Or.inl rfl)
  | string written =>
    rw [limitOf]
    cases written.plain?.bind fun text => Text.wholeNumber? text.toList with
    | none => exact Or.inr (Or.inl rfl)
    | some n => exact Or.inl ⟨n, rfl⟩
  | null | array | object => exact Or.inr (Or.inl rfl)

/-- An object is read as settings or reported, unless it has a limit without end. -/
theorem isReported_ofJson_object : IsReported (ofJson (.object members)) ↔
    ¬ (HasSaved members ∧
      ∃ negative, Json.member? "default_limit" members = some (.float (.infinity negative))) := by
  rcases savedOf_cases members with ⟨has, saved, reads⟩ | ⟨hasNone, fails⟩
  · generalize isLimit : (Json.member? "default_limit" members).getD
      (.integer ({} : Settings).defaultLimit) = value
    rw [ofJson, reads]
    dsimp only
    rw [isLimit]
    have same : (∃ negative, Json.member? "default_limit" members = some (.float (.infinity negative))) ↔
        ∃ negative, value = .float (.infinity negative) := by
      rw [← isLimit]
      cases Json.member? "default_limit" members <;> simp
    rw [same]
    rcases limitOf_cases value with ⟨limit, stands⟩ | fails | ⟨negative, rfl⟩
    · rw [stands]
      refine ⟨?_, fun _ => ?_⟩
      · rintro _ ⟨_, _, rfl⟩
        cases stands
      · by_cases below : limit < 0
        · exact Or.inr ⟨.limitNegative, if_pos below⟩
        · exact Or.inl ⟨_, if_neg below⟩
    · rw [fails]
      refine ⟨?_, fun _ => Or.inr ⟨.limitNotInteger, rfl⟩⟩
      rintro _ ⟨_, _, rfl⟩
      cases fails
    · refine ⟨?_, fun holds => absurd ⟨has, negative, rfl⟩ holds⟩
      rintro (⟨s, absurd⟩ | ⟨fault, absurd⟩)
      · cases absurd
      · cases absurd
  · have reported : ofJson (.object members) = .error (.fault .savedNotAnObject) := by
      rw [ofJson, fails]
      rfl
    exact ⟨fun _ both => hasNone both.1, fun _ => Or.inr ⟨_, reported⟩⟩

theorem isReported_ofText_iff [Json.Nesting] : IsReported (ofText text) ↔
    (∀ numeral, Json.read text ≠ .error (.longNumber numeral)) ∧
      (∀ overflow, Json.read text ≠ .error (.tooDeep overflow)) ∧ ¬ HasInfiniteLimit text := by
  rw [ofText, HasInfiniteLimit]
  cases reads : Json.read text with
  | error e =>
    cases e with
    | syntaxError problem place => simp [IsReported]
    | longNumber numeral => simp [IsReported]
    | tooDeep overflow => simp [IsReported]
  | ok value =>
    cases value with
    | object members => simp [isReported_ofJson_object]
    | null | bool | integer | float | string | array => simp [ofJson, IsReported]

/-- The settings that a text writes: the limit is the whole number that its value stands for. -/
theorem ofText_eq_ok [Json.Nesting] {s : Settings} (reads : ofText text = .ok s) :
    ∃ members, Json.read text = .ok (.object members) ∧
      savedOf ((Json.member? "saved_searches" members).getD .null) = .ok s.savedSearches ∧
      limitOf ((Json.member? "default_limit" members).getD
        (.integer ({} : Settings).defaultLimit)) = .ok (s.defaultLimit : Int) := by
  obtain ⟨members, isObject, reads⟩ := ofText_eq_ok_iff.mp reads
  obtain ⟨saved, limit, _⟩ := ofJson_object_eq_ok.mp reads
  exact ⟨members, isObject, saved, limit⟩

end

end Settings

/-! ## Messages -/

private theorem notMem_append {c : Char} {a b : String} (first : c ∉ a.toList) (second : c ∉ b.toList) :
    c ∉ (a ++ b).toList := by
  rw [String.toList_append]
  exact List.not_mem_append first second

theorem Json.opening_notMem_syntaxMessage (problem : Json.Problem) (place : Json.Place) :
    '[' ∉ (Json.syntaxMessage problem place).toList := by
  have digits (n : Nat) : '[' ∉ (toString n).toList := by
    rw [Nat.toString_eq_repr, Nat.repr_eq_ofList_toDigits, String.toList_ofList]
    intro member
    obtain ⟨k, single, same⟩ := Text.exists_digit_of_mem_toDigits member
    have all : ∀ k < 10, '[' ≠ Nat.digitChar k := by decide
    exact all k single same
  have reason : '[' ∉ problem.reason.toList := by
    cases problem <;> decide
  refine notMem_append reason ?_
  refine notMem_append (notMem_append (notMem_append (notMem_append (notMem_append
    (notMem_append ?_ (digits _)) ?_) (digits _)) ?_) (digits _)) ?_
  all_goals decide

/-- Only the path can bring an opening bracket into the message of a fault. -/
theorem SettingsFault.opening_notMem_message (fault : SettingsFault) {path : String}
    (plain : '[' ∉ path.toList) : '[' ∉ (fault.message path).toList := by
  cases fault with
  | syntaxError problem place =>
    exact notMem_append (notMem_append (notMem_append (by decide) plain) (by decide))
      (Json.opening_notMem_syntaxMessage problem place)
  | notAnObject => exact notMem_append (notMem_append (by decide) plain) (by decide)
  | savedNotAnObject => exact notMem_append (notMem_append (by decide) plain) (by decide)
  | limitNotInteger => exact notMem_append (notMem_append (by decide) plain) (by decide)
  | limitNegative => exact notMem_append (notMem_append (by decide) plain) (by decide)

end IssueTracker
