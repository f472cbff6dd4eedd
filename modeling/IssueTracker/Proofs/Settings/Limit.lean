import IssueTracker.Proofs.Json.RoundTrip
import IssueTracker.Proofs.Number.Truncation
import IssueTracker.Proofs.Outcome
import IssueTracker.Proofs.Settings.Fault
import IssueTracker.Proofs.Text.Numeral

/-!
# The limit of a settings file

Which values of a settings file stand for a limit, and for which one (`Settings.StandsFor`): besides whole
numbers these are truth values, fractions and texts.  So a file that is an object is read, or refused, by what
its limit stands for (`Settings.load_limit`).
-/

namespace IssueTracker

namespace Settings
variable {value : Json} {members : List (AnyText × Json)} {n : Int} {content : Bytes} {chars : List Char}

/-- A value stands for a whole number. -/
inductive StandsFor : Json → Int → Prop
  | integer (n : Int) : StandsFor (.integer n) n
  | truth (isTrue : Bool) : StandsFor (.bool isTrue) (if isTrue then 1 else 0)
  /-- A fraction is rounded toward zero. -/
  | fraction (negative : Bool) (mantissa : Nat) (exponent : Int) :
    StandsFor (.float (.finite negative mantissa exponent)) (towardZero (Binary64.value negative mantissa exponent))
  | text {written : String} {n : Int} (writes : Text.Writes written.toList n) : StandsFor (.string written) n

theorem limitOf_eq_ok_iff : limitOf value = .ok n ↔ StandsFor value n := by
  constructor
  · intro stands
    cases value with
    | integer m =>
      cases stands
      exact .integer n
    | bool isTrue =>
      cases stands
      exact .truth isTrue
    | float x =>
      cases x with
      | finite negative mantissa exponent =>
        rw [limitOf, Binary64.truncate?_finite] at stands
        · cases stands
          exact .fraction negative mantissa exponent
        · intro _ isInfinite
          cases isInfinite
      | infinity negative => cases stands
      | nan => cases stands
    | string written =>
      cases written with
      | broken before half after => cases stands
      | plain written =>
        rw [limitOf, AnyText.plain?, Option.bind_some] at stands
        cases reads : Text.wholeNumber? written.toList with
        | none =>
          rw [reads] at stands
          cases stands
        | some m =>
          rw [reads] at stands
          cases stands
          exact .text (Text.wholeNumber?_eq_some_iff.mp reads)
    | null | array | object => cases stands
  · intro stands
    cases stands with
    | integer n => rfl
    | truth isTrue => rfl
    | fraction negative mantissa exponent =>
      rw [limitOf, Binary64.truncate?_finite]
      · rfl
      · intro _ isInfinite
        cases isInfinite
    | text writes =>
      rw [limitOf, AnyText.plain?, Option.bind_some, Text.wholeNumber?_eq_some_iff.mpr writes]
      rfl

/-- The limit that the members of an object give; without one it is the default. -/
inductive GivesLimit (members : List (AnyText × Json)) : Int → Prop
  | absent (none : Json.member? "default_limit" members = none) : GivesLimit members 50
  | given {value : Json} {n : Int} (given : Json.member? "default_limit" members = some value)
      (stands : StandsFor value n) : GivesLimit members n

/-- The members of an object give a limit without end. -/
def GivesInfinity (members : List (AnyText × Json)) : Prop :=
  ∃ negative, Json.member? "default_limit" members = some (.float (.infinity negative))

/-- The limit that is read from the members of an object. -/
def readLimit (members : List (AnyText × Json)) : Except SettingsError Int :=
  limitOf ((Json.member? "default_limit" members).getD (.integer ({} : Settings).defaultLimit))

theorem readLimit_eq_ok_iff : readLimit members = .ok n ↔ GivesLimit members n := by
  rw [readLimit, limitOf_eq_ok_iff]
  constructor
  · intro stands
    cases given : Json.member? "default_limit" members with
    | none =>
      rw [given] at stands
      cases stands
      exact .absent given
    | some value =>
      rw [given] at stands
      exact .given given stands
  · intro gives
    cases gives with
    | absent none =>
      rw [none]
      exact .integer 50
    | given given stands =>
      rw [given]
      exact stands

/-- Without a limit that can be read there is a fault, or a limit without end. -/
theorem readLimit_cases (members : List (AnyText × Json)) :
    (∃ n, readLimit members = .ok n ∧ GivesLimit members n) ∨
    readLimit members = .error .infiniteLimit ∧ GivesInfinity members ∨
    readLimit members = .error (.fault .limitNotInteger) ∧ (∀ n, ¬ GivesLimit members n) ∧
      ¬ GivesInfinity members := by
  rcases limitOf_cases ((Json.member? "default_limit" members).getD (.integer ({} : Settings).defaultLimit)) with
    ⟨limit, reads⟩ | fails | ⟨negative, infinite⟩
  · exact Or.inl ⟨limit, reads, readLimit_eq_ok_iff.mp reads⟩
  · refine Or.inr (Or.inr ⟨fails, ?_, ?_⟩)
    · intro n gives
      have reads := readLimit_eq_ok_iff.mpr gives
      rw [readLimit, fails] at reads
      cases reads
    · rintro ⟨negative, infinite⟩
      rw [infinite] at fails
      cases fails
  · refine Or.inr (Or.inl ⟨by rw [readLimit, infinite]; rfl, negative, ?_⟩)
    cases given : Json.member? "default_limit" members with
    | none =>
      rw [given] at infinite
      cases infinite
    | some value =>
      rw [given] at infinite
      exact congrArg some infinite

/-- No two limits are given. -/
theorem GivesLimit.unique {m : Int} (first : GivesLimit members n) (second : GivesLimit members m) : n = m := by
  have same := (readLimit_eq_ok_iff.mpr first).symm.trans (readLimit_eq_ok_iff.mpr second)
  exact Except.ok.inj same

/-! ## Reading an object -/

theorem ofJson_noSaved (hasNone : ¬ HasSaved members) :
    ofJson (.object members) = .error (.fault .savedNotAnObject) := by
  rcases savedOf_cases members with ⟨has, _⟩ | ⟨_, fails⟩
  · exact absurd has hasNone
  · rw [ofJson, fails]
    rfl

/-- With saved searches that can be read, the limit decides. -/
theorem ofJson_saved (has : HasSaved members) : ∃ saved, ofJson (.object members) =
    (readLimit members).bind fun limit =>
      if limit < 0 then .error (.fault .limitNegative)
      else .ok {
        name := (Json.member? "name" members).getD ({} : Settings).name
        defaultLimit := limit.toNat
        colors := ((Json.member? "colors" members).map Json.isTruthy).getD ({} : Settings).colors
        savedSearches := saved } := by
  rcases savedOf_cases members with ⟨_, saved, reads⟩ | ⟨hasNone, _⟩
  · refine ⟨saved, ?_⟩
    rw [ofJson, reads]
    rfl
  · exact absurd has hasNone

theorem ofJson_limitFails {e : SettingsError} (has : HasSaved members) (fails : readLimit members = .error e) :
    ofJson (.object members) = .error e := by
  obtain ⟨saved, is⟩ := ofJson_saved has
  rw [is, fails]
  rfl

theorem ofJson_negative (has : HasSaved members) (gives : GivesLimit members n) (below : n < 0) :
    ofJson (.object members) = .error (.fault .limitNegative) := by
  obtain ⟨saved, is⟩ := ofJson_saved has
  rw [is, readLimit_eq_ok_iff.mpr gives]
  exact if_pos below

theorem ofJson_limit {limit : Nat} (has : HasSaved members) (gives : GivesLimit members limit) :
    ∃ s, ofJson (.object members) = .ok s ∧ s.defaultLimit = limit := by
  obtain ⟨saved, is⟩ := ofJson_saved has
  have notBelow : ¬ (limit : Int) < 0 := by omega
  rw [is, readLimit_eq_ok_iff.mpr gives, Except.bind, if_neg notBelow]
  exact ⟨_, rfl, Int.toNat_natCast limit⟩

/-- Settings are read from an object with saved searches that can be read and a limit that is not negative. -/
theorem ofJson_eq_ok {s : Settings} (reads : ofJson (.object members) = .ok s) :
    HasSaved members ∧ GivesLimit members s.defaultLimit := by
  obtain ⟨saved, limit, _⟩ := ofJson_object_eq_ok.mp reads
  refine ⟨?_, readLimit_eq_ok_iff.mp limit⟩
  rcases savedOf_cases members with ⟨has, _⟩ | ⟨_, fails⟩
  · exact has
  · cases saved.symm.trans fails

/-- A fraction is a limit if it is above minus one. -/
theorem exists_givesLimit_fraction {negative : Bool} {mantissa : Nat} {exponent : Int}
    (given : Json.member? "default_limit" members = some (.float (.finite negative mantissa exponent))) :
    (∃ limit : Nat, GivesLimit members limit) ↔ -1 < Binary64.value negative mantissa exponent := by
  have gives : GivesLimit members (towardZero (Binary64.value negative mantissa exponent)) :=
    .given given (.fraction negative mantissa exponent)
  rw [← towardZero_nonneg_iff]
  constructor
  · rintro ⟨limit, isLimit⟩
    rw [gives.unique isLimit]
    exact Int.natCast_nonneg limit
  · intro above
    obtain ⟨limit, is⟩ := Int.eq_ofNat_of_zero_le above
    exact ⟨limit, is ▸ gives⟩

/-! ## Reading a file -/

/-- The limit of a file that is an object: it is read when the saved searches can be and the limit stands for a
    whole number that is not negative, and then is that number.  Otherwise it is reported what is wrong, but for
    a limit without end.  So a fraction is read as a limit just when it is above minus one. -/
theorem load_limit [Json.Nesting] (decodes : Text.decodeUtf8 content = .ok chars)
    (isObject : Json.read (Text.unifyLineEnds chars) = .ok (.object members)) :
    (∀ limit : Nat, (∃ s, load (.content content) = .ok s ∧ s.defaultLimit = limit) ↔
      HasSaved members ∧ GivesLimit members limit) ∧
    (¬ HasSaved members → load (.content content) = .error (.fault .savedNotAnObject)) ∧
    (HasSaved members →
      (∀ n < 0, GivesLimit members n → load (.content content) = .error (.fault .limitNegative)) ∧
      (GivesInfinity members → load (.content content) = .error .infiniteLimit) ∧
      ((∀ n, ¬ GivesLimit members n) → ¬ GivesInfinity members →
        load (.content content) = .error (.fault .limitNotInteger))) ∧
    ∀ negative mantissa exponent,
      Json.member? "default_limit" members = some (.float (.finite negative mantissa exponent)) →
      ((∃ s, load (.content content) = .ok s) ↔
        HasSaved members ∧ -1 < Binary64.value negative mantissa exponent) := by
  have loads : load (.content content) = ofJson (.object members) := by
    rw [load_content decodes, ofText, isObject]
  rw [loads]
  refine ⟨?_, ofJson_noSaved, ?_, ?_⟩
  · intro limit
    constructor
    · rintro ⟨s, reads, rfl⟩
      exact ofJson_eq_ok reads
    · rintro ⟨has, gives⟩
      exact ofJson_limit has gives
  · intro has
    refine ⟨fun n below gives => ofJson_negative has gives below, ?_, ?_⟩
    · intro infinite
      rcases readLimit_cases members with ⟨n, reads, _⟩ | ⟨fails, _⟩ | ⟨_, _, notInfinite⟩
      · obtain ⟨negative, given⟩ := infinite
        rw [readLimit, given] at reads
        cases reads
      · exact ofJson_limitFails has fails
      · exact absurd infinite notInfinite
    · intro none notInfinite
      rcases readLimit_cases members with ⟨n, _, gives⟩ | ⟨_, infinite⟩ | ⟨fails, _⟩
      · exact absurd gives (none n)
      · exact absurd infinite notInfinite
      · exact ofJson_limitFails has fails
  · intro negative mantissa exponent given
    rw [← exists_givesLimit_fraction given]
    constructor
    · rintro ⟨s, reads⟩
      obtain ⟨has, gives⟩ := ofJson_eq_ok reads
      exact ⟨has, s.defaultLimit, gives⟩
    · rintro ⟨has, limit, gives⟩
      obtain ⟨s, reads, _⟩ := ofJson_limit has gives
      exact ⟨s, reads⟩

/-- A text that writes a whole number, with blanks and an underscore, is read as that number. -/
theorem load_limit_text : ∃ s,
    load (.content (Text.encodeUtf8 ((Json.texts [("default_limit", " 1_2 ")]).chars 0))) = .ok s ∧
      s.defaultLimit = 12 := by
  have plain : ∀ pair ∈ [(("default_limit", " 1_2 ") : AnyText × AnyText)], pair.1.IsPlain ∧ pair.2.IsPlain :=
    List.forall_mem_singleton.mpr ⟨AnyText.isPlain_plain _, AnyText.isPlain_plain _⟩
  have readAs : Json.IsReadAs Json.Nesting.limit (.texts [("default_limit", " 1_2 ")])
      (.texts [("default_limit", " 1_2 ")]) := Json.isReadAs_texts (by decide) plain
  have decodes := Text.decodeUtf8_encodeUtf8 ((Json.texts [("default_limit", " 1_2 ")]).chars 0)
  have isObject : Json.read (Text.unifyLineEnds ((Json.texts [("default_limit", " 1_2 ")]).chars 0)) =
      .ok (.object [("default_limit", .string " 1_2 ")]) := by
    rw [Text.unifyLineEnds_eq_self (by decide +kernel)]
    exact Json.read_chars readAs
  apply ((load_limit decodes isObject).1 12).mpr
  refine ⟨Or.inl rfl, .given rfl (.text ?_)⟩
  exact Text.wholeNumber?_eq_some_iff.mp (by decide +kernel)

/-- The fraction that is the limit of an object in a text, if it is one. -/
private def fractionOf? (text : List Char) : Option Binary64 :=
  match Json.read text with
  | .ok (.object members) =>
    match Json.member? "default_limit" members with
    | some (.float x) => some x
    | _ => none
  | _ => none

private theorem of_fractionOf? {text : List Char} {x : Binary64} (is : fractionOf? text = some x) :
    ∃ members, Json.read text = .ok (.object members) ∧ Json.member? "default_limit" members = some (.float x) := by
  rw [fractionOf?] at is
  split at is
  · rename_i members isObject
    split at is
    · rename_i y given
      cases is
      exact ⟨members, isObject, given⟩
    · cases is
  · cases is

/-- Not all limits that are read are whole numbers in the file: a fraction just below zero is one, too. -/
theorem not_isInteger_limit : ¬ ∀ (content : Bytes) (chars : List Char) (members : List (AnyText × Json)),
    Text.decodeUtf8 content = .ok chars → Json.read (Text.unifyLineEnds chars) = .ok (.object members) →
    ∀ s, load (.content content) = .ok s → Json.member? "default_limit" members = none ∧ s.defaultLimit = 50 ∨
      Json.member? "default_limit" members = some (.integer s.defaultLimit) := by
  intro claim
  have decodes := Text.decodeUtf8_encodeUtf8 "\x7b\"default_limit\": -0.5\x7d".toList
  have isHalf : fractionOf? (Text.unifyLineEnds "\x7b\"default_limit\": -0.5\x7d".toList) =
      some (.finite true (2 ^ 52) (-53)) := by
    decide +kernel
  have isRead : (ofText (Text.unifyLineEnds "\x7b\"default_limit\": -0.5\x7d".toList)).toOption.isSome := by
    decide +kernel
  obtain ⟨members, isObject, given⟩ := of_fractionOf? isHalf
  obtain ⟨s, reads⟩ := Option.isSome_iff_exists.mp isRead
  have loads := (load_content decodes).trans (toOption_eq_some.mp reads)
  rcases claim _ _ members decodes isObject s loads with ⟨none, _⟩ | integer
  · rw [given] at none
    cases none
  · rw [given] at integer
    cases integer

end Settings

end IssueTracker
