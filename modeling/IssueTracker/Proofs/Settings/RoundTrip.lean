import IssueTracker.Proofs.Json.Writing
import IssueTracker.Proofs.Settings.Reading
import IssueTracker.Proofs.Text.Utf8

/-!
# Settings that are kept

Settings that were loaded can be saved and loaded again (`isStorable_of_load`, `load_save`) if their
texts consist of characters: the limit, the colours and the saved searches stay, in their order.  The
name is read back as any value is, so that nothing changes where it is a text (`load_save_of_text`).
All other settings cannot be written as a whole, and what is left of them is no JSON
(`load_save_broken`).
-/

namespace IssueTracker.Settings

/-- Settings that can be kept in a file if they can be encoded. -/
structure IsStorable [Json.Nesting] (s : Settings) : Prop where
  /-- The name is inside one container, that of the file. -/
  name : s.name.IsStorable (Json.Nesting.limit - 1)
  limit : s.defaultLimit < 10 ^ Text.numeralLimit
  /-- Each search has a name of its own. -/
  saved : (s.savedSearches.map Prod.fst).Nodup

/-! ## Loading -/

theorem small_lt_pow_numeralLimit {n : Nat} (small : n < 100) : n < 10 ^ Text.numeralLimit := by
  have least : 10 ^ 2 ≤ 10 ^ Text.numeralLimit := Nat.pow_le_pow_right (by decide) (by decide)
  omega

theorem isStorable_default [Json.Nesting] : IsStorable {} where
  name := .string applicationName
  limit := small_lt_pow_numeralLimit (by decide)
  saved := List.nodup_nil

theorem isStorable_member? {name : String} {members : List (AnyText × Json)} {value default : Json} {room : Nat}
    (each : ∀ member ∈ members, member.2.IsStorable room) (storable : default.IsStorable room)
    (is : (Json.member? name members).getD default = value) : value.IsStorable room := by
  subst is
  cases found : Json.member? name members with
  | none => exact storable
  | some value =>
    obtain ⟨member, inside, rfl⟩ := Option.map_eq_some_iff.mp found
    exact each member (List.mem_of_find?_eq_some inside)

/-- A limit has no more digits than a numeral may have. -/
theorem limitOf_lt {value : Json} {room : Nat} (storable : value.IsStorable room) {limit : Int}
    (is : limitOf value = .ok limit) : limit.natAbs < 10 ^ Text.numeralLimit := by
  cases storable with
  | integer short =>
    cases is
    exact short
  | bool value =>
    cases is
    exact small_lt_pow_numeralLimit (by cases value <;> decide)
  | @float _ value short =>
    cases value with
    | infinity negative => cases is
    | nan => cases is
    | finite negative mantissa exponent =>
      cases whole : (Binary64.finite negative mantissa exponent).truncate? with
      | none => simp [limitOf, whole] at is
      | some n =>
        simp only [limitOf, whole, Option.map_some, Option.getD_some, Except.ok.injEq] at is
        exact is ▸ short n whole
  | string text =>
    cases number : text.plain?.bind fun text => Text.wholeNumber? text.toList with
    | none => simp [limitOf, number] at is
    | some n =>
      simp only [limitOf, number, Option.map_some, Option.getD_some, Except.ok.injEq] at is
      subst is
      obtain ⟨written, _, number⟩ := Option.bind_eq_some_iff.mp number
      exact Text.natAbs_wholeNumber? number
  | null => cases is
  | array each => cases is
  | object distinct each => cases is

theorem nodup_savedOf {value : Json} {room : Nat} (storable : value.IsStorable room)
    {saved : List (AnyText × AnyText)}
    (is : savedOf value = .ok saved) : (saved.map Prod.fst).Nodup := by
  rw [savedOf.eq_def] at is
  split at is
  · cases is
    exact List.nodup_nil
  · split at is
    · cases storable with
      | object distinct each =>
        cases is
        rw [List.map_map]
        exact distinct
    · cases is

/-- Settings that were loaded can be kept. -/
theorem isStorable_of_load [Json.Nesting] {file : SettingsFile} {s : Settings} (loads : load file = .ok s) :
    s.IsStorable := by
  cases file with
  | missing =>
    cases loads
    exact isStorable_default
  | directory => cases loads
  | content content =>
    obtain ⟨chars, _, loads⟩ := load_content_eq_ok.mp loads
    obtain ⟨members, isObject, loads⟩ := ofText_eq_ok_iff.mp loads
    obtain ⟨saved, limit, name, _⟩ := ofJson_object_eq_ok.mp loads
    have each : ∀ member ∈ members, member.2.IsStorable (Json.Nesting.limit - 1) := by
      have storable := Json.isStorable_of_read isObject
      obtain ⟨room, isLimit⟩ := Json.exists_limit
      rw [isLimit] at storable ⊢
      cases storable with
      | object _ each => exact each
    have default : (Json.integer ({} : Settings).defaultLimit).IsStorable (Json.Nesting.limit - 1) :=
      .integer (small_lt_pow_numeralLimit (by decide))
    have short := limitOf_lt (isStorable_member? each default rfl) limit
    exact {
      name := isStorable_member? each (.string _) name
      limit := by simpa using short
      saved := nodup_savedOf (isStorable_member? each .null rfl) saved }

/-! ## Saving -/

/-- Settings whose texts consist of characters. -/
structure IsPlain (s : Settings) : Prop where
  name : s.name.IsPlain
  saved : ∀ pair ∈ s.savedSearches, pair.1.IsPlain ∧ pair.2.IsPlain

theorem isPlain_default : IsPlain {} where
  name := .string (AnyText.isPlain_plain _)
  saved _ member := absurd member List.not_mem_nil

/-- Texts of characters are strings. -/
theorem exists_strings {pairs : List (AnyText × AnyText)}
    (plain : ∀ pair ∈ pairs, pair.1.IsPlain ∧ pair.2.IsPlain) :
    ∃ strings : List (String × String), pairs = strings.map (Prod.map .plain .plain) := by
  induction pairs with
  | nil => exact ⟨[], rfl⟩
  | cons pair pairs ih =>
    obtain ⟨_, _⟩ := pair
    obtain ⟨⟨⟨name, rfl⟩, ⟨query, rfl⟩⟩, others⟩ := List.forall_mem_cons.mp plain
    obtain ⟨strings, rfl⟩ := ih others
    exact ⟨(name, query) :: strings, rfl⟩

/-- The saved searches as members of an object. -/
def savedMembers (s : Settings) : List (AnyText × Json) :=
  s.savedSearches.map fun (name, query) => (name, .string query)

section
variable [Json.Nesting] {s : Settings} (storable : s.IsStorable)
include storable

theorem nodup_savedMembers :
    (s.savedMembers.map Prod.fst).Nodup := by
  rw [savedMembers, List.map_map]
  exact storable.saved

/-- The saved searches are read back as they are. -/
theorem isReadAs_savedMembers (plain : s.IsPlain)
    {room : Nat} :
    Json.IsReadAs (room + 1) (.object s.savedMembers) (.object s.savedMembers) :=
  Json.isReadAs_texts storable.saved plain.saved

theorem toJson_eq :
    s.toJson = .object [("name", s.name), ("default_limit", .integer s.defaultLimit),
      ("colors", .bool s.colors), ("saved_searches", .object s.savedMembers)] := by
  rw [toJson, document, ← savedMembers, Json.lastValues_eq_self (nodup_savedMembers storable)]

theorem isStorable_toJson :
    s.toJson.IsStorable Json.Nesting.limit := by
  obtain ⟨room, isLimit⟩ := Json.exists_limit
  have name := storable.name
  rw [isLimit] at name ⊢
  have saved : (Json.object s.savedMembers).IsStorable (room + 3) := by
    refine .object (nodup_savedMembers storable) fun member inside => ?_
    obtain ⟨pair, _, rfl⟩ := List.mem_map.mp inside
    exact .string pair.2
  rw [toJson_eq storable]
  refine .object (by simp) ?_
  simp only [List.forall_mem_cons, List.not_mem_nil, false_implies, implies_true, and_true]
  exact ⟨name, .integer (by simpa using storable.limit), .bool s.colors, saved⟩

/-- The texts of settings are those of the value that is written. -/
theorem isPlain_toJson : s.toJson.IsPlain ↔ s.IsPlain := by
  rw [toJson_eq storable]
  constructor
  · intro plain
    cases plain with
    | object _ each =>
      simp only [List.forall_mem_cons] at each
      obtain ⟨name, _, _, saved, _⟩ := each
      exact ⟨name, Json.isPlain_texts.mp saved⟩
  · intro plain
    refine .object ?_ ?_
    · simp [AnyText.isPlain_plain]
    · simp only [List.forall_mem_cons, List.not_mem_nil, false_implies, implies_true, and_true]
      exact ⟨plain.name, .integer _, .bool _, Json.isPlain_texts.mpr plain.saved⟩

/-- Settings are written as a whole just when their texts consist of characters. -/
theorem fault_save : s.save.fault = none ↔ s.IsPlain := by
  rw [save, write, Written.fault_ofPieces, Json.isPlain_pieces, isPlain_toJson storable]

/-- The value that the file of settings is read as. -/
theorem isReadAs_toJson (plain : s.IsPlain) {name : Json}
    (is : Json.IsReadAs (Json.Nesting.limit - 1) s.name name) : Json.IsReadAs Json.Nesting.limit s.toJson
      (.object [("name", name), ("default_limit", .integer s.defaultLimit),
        ("colors", .bool s.colors), ("saved_searches", .object s.savedMembers)]) := by
  obtain ⟨room, isLimit⟩ := Json.exists_limit
  rw [isLimit] at is ⊢
  have isMember (name : String) {v w : Json} (is : Json.IsReadAs (room + 3) v w) :
      Json.IsMemberReadAs (room + 3) (name, v) (name, w) :=
    ⟨AnyText.isPlain_plain name, rfl, is⟩
  have limit : Json.IsReadAs (room + 3) (.integer s.defaultLimit) (.integer s.defaultLimit) :=
    Json.isReadAs_integer (by simpa using storable.limit)
  rw [toJson_eq storable]
  exact Json.isReadAs_object (.cons (isMember "name" is) (.cons (isMember "default_limit" limit)
    (.cons (isMember "colors" (Json.isReadAs_bool s.colors))
      (.cons (isMember "saved_searches" (isReadAs_savedMembers storable plain)) .nil))))

end

/-- The saved searches are those that their members write. -/
theorem savedOf_savedMembers (s : Settings) : savedOf (.object s.savedMembers) = .ok s.savedSearches := by
  have back : s.savedMembers.map (fun member => (member.1, member.2.asText)) = s.savedSearches := by
    rw [savedMembers, List.map_map]
    exact List.map_id _
  rw [savedOf.eq_def]
  split
  · rename_i empty
    have none : s.savedSearches = [] := by
      simpa [Json.isTruthy, savedMembers] using empty
    rw [none]
  · exact congrArg Except.ok back

theorem ofJson_members (s : Settings) (name : Json) :
    ofJson (.object [("name", name), ("default_limit", .integer s.defaultLimit),
      ("colors", .bool s.colors), ("saved_searches", .object s.savedMembers)]) = .ok { s with name } := by
  have saved := savedOf_savedMembers s
  exact ofJson_object_eq_ok.mpr ⟨saved, rfl, rfl, rfl⟩

/-- What was written of a value is loaded from the file. -/
theorem load_write [Json.Nesting] (value : Json) :
    load (.ofWritten (write value)) = ofText (Json.cut 0 value) := by
  rw [SettingsFile.ofWritten, load_content (Text.decodeUtf8_encodeUtf8 _), write,
    Text.unifyLineEnds_eq_self (Json.carriage_notMem_cut value 0)]

/-- Settings that were saved are loaded again. -/
theorem load_save [Json.Nesting] {s : Settings} (storable : s.IsStorable) (plain : s.IsPlain) {name : Json}
    (is : Json.IsReadAs (Json.Nesting.limit - 1) s.name name) :
    load (.ofWritten s.save) = .ok { s with name } := by
  have reads := Json.read_chars (isReadAs_toJson storable plain is)
  rw [save, load_write, Json.cut_of_isPlain ((isPlain_toJson storable).mpr plain)]
  exact ofText_eq_ok_iff.mpr ⟨_, reads, ofJson_members s name⟩

/-- The error of a file that is no JSON, also where there is no room in its containers to report it. -/
inductive IsSyntaxError : SettingsError → Prop
  | reported (problem : Json.Problem) (place : Json.Place) :
    IsSyntaxError (.fault (.syntaxError problem place))
  | unreported (overflow : Json.Overflow) : IsSyntaxError (.tooDeep overflow)

/-- Settings with other texts are cut off where they are saved, and the rest is no JSON. -/
theorem load_save_broken [Json.Nesting] {s : Settings} (storable : s.IsStorable) (broken : ¬ s.IsPlain) :
    ∃ e, IsSyntaxError e ∧ load (.ofWritten s.save) = .error e := by
  rcases Json.read_cut (isStorable_toJson storable) ((isPlain_toJson storable).not.mpr broken) with
    ⟨problem, place, fails⟩ | ⟨overflow, fails⟩
  · exact ⟨_, .reported problem place, by rw [save, load_write, ofText, fails]⟩
  · exact ⟨_, .unreported overflow, by rw [save, load_write, ofText, fails]⟩

/-- Settings with a text for their name are written as a whole and loaded as they were saved, character
    for character and each search in its place. -/
theorem load_save_of_text [Json.Nesting] {name : String} {limit : Nat} (short : limit < 10 ^ Text.numeralLimit)
    (colors : Bool) {searches : List (String × String)} (distinct : (searches.map Prod.fst).Nodup) :
    let s : Settings := ⟨.string name, limit, colors, searches.map (Prod.map .plain .plain)⟩
    s.save.fault = none ∧ load (.ofWritten s.save) = .ok s := by
  intro s
  have injective : Function.Injective AnyText.plain := fun _ _ => AnyText.plain.inj
  have names : s.savedSearches.map Prod.fst = (searches.map Prod.fst).map AnyText.plain := by
    simp [s, Function.comp_def]
  have storable : s.IsStorable := {
    name := .string name
    limit := short
    saved := names ▸ distinct.map injective }
  have plain : s.IsPlain := {
    name := .string (AnyText.isPlain_plain name)
    saved := by
      intro pair member
      obtain ⟨texts, _, rfl⟩ := List.mem_map.mp member
      exact ⟨AnyText.isPlain_plain texts.1, AnyText.isPlain_plain texts.2⟩ }
  exact ⟨(fault_save storable).mpr plain, load_save storable plain (Json.isReadAs_string name)⟩

/-- Texts of characters that have to be escaped, beyond the basic plane, or of none at all, and a limit of
    as many digits as there may be. -/
theorem load_save_of_text_escapes :
    10 ^ (Text.numeralLimit - 1) < 10 ^ Text.numeralLimit ∧
      ([("", "\x00\r\n"), ("\"\\", "😀"), ("é", "")].map Prod.fst).Nodup ∧
      load (.ofWritten (save ⟨.string "\x7F\t\"\\/", 10 ^ (Text.numeralLimit - 1), false,
        [("", "\x00\r\n"), ("\"\\", "😀"), ("é", "")]⟩)) =
          .ok ⟨.string "\x7F\t\"\\/", 10 ^ (Text.numeralLimit - 1), false,
            [("", "\x00\r\n"), ("\"\\", "😀"), ("é", "")]⟩ := by
  have short : 10 ^ (Text.numeralLimit - 1) < 10 ^ Text.numeralLimit :=
    Nat.pow_lt_pow_right (by decide) (by decide)
  have distinct : ([("", "\x00\r\n"), ("\"\\", "😀"), ("é", "")].map Prod.fst).Nodup := by decide
  exact ⟨short, distinct, (load_save_of_text short false distinct).2⟩

end IssueTracker.Settings
