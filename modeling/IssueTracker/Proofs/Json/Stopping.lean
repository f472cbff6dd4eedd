import Mathlib.Data.List.TakeWhile
import IssueTracker.Json.Reader
import IssueTracker.Proofs.Outcome

/-!
# Where reading stops

Every part of the reader goes on behind what it has read (`Json.Advances`).  So reading stops at a
number of too many digits only in a text that has a run of so many digits (`Json.hasLongRun_of_read`),
and too far inside containers only in a text that opens so many (`Json.isDeep_of_read`).
-/

namespace IssueTracker.Json

/-- A text with a run of more digits than a numeral may have. -/
def HasLongRun (cs : List Char) : Prop :=
  ∃ digits, digits <:+: cs ∧ Text.numeralLimit < digits.length ∧ ∀ c ∈ digits, isDigit c = true

/-- A character that opens a container. -/
def isOpening (c : Char) : Bool := c == '[' || c == '{'

/-- A text that opens more containers than are read inside one another, or so many that in them there is
    no room for the three calls that report a problem. -/
def IsDeep [Nesting] (cs : List Char) : Prop := Nesting.limit < cs.countP isOpening + 3

/-- A step that ends behind what it has read, stops at a long number only if there is one, and lacks room
    only behind as many containers that it opens. -/
structure Advances {α : Type} (room : Nat) (cs : List Char) (step : Step α) : Prop where
  suffix : ∀ a rest, step = .ok (a, rest) → rest <:+ cs
  longRun : ∀ numeral, step = .error (.longNumber numeral) → HasLongRun cs
  deep : ∀ overflow, step = .error (.tooDeep overflow) → room < cs.countP isOpening + 3

/-- Only a long number stops at it from inside a container. -/
theorem Stop.eq_longNumber_of_inside (stop : Stop) {room : Nat} {numeral : Text.LongNumeral}
    (same : stop.inside room = .longNumber numeral) : stop = .longNumber numeral := by
  unfold Stop.inside at same
  split at same
  · cases same
  · split at same <;> cases same
  · exact same

/-- There is no room in a container for what there was none for before, or for a report. -/
theorem Stop.inside_eq_tooDeep (stop : Stop) {room : Nat} {overflow : Overflow}
    (same : stop.inside room = .tooDeep overflow) : stop = .tooDeep overflow ∨ room < 3 := by
  unfold Stop.inside at same
  split at same
  · cases same
  · split at same
    · exact Or.inr (by decide)
    · exact Or.inr (by decide)
    · exact Or.inr (by decide)
    · cases same
  · exact Or.inl same

namespace Advances
variable {α β : Type} {room : Nat} {cs cs' rest : List Char} {step : Step α}

theorem ok (a : α) (behind : rest <:+ cs) : Advances room cs (.ok (a, rest) : Step α) := by
  constructor
  · rintro _ _ ⟨⟩
    exact behind
  · rintro _ ⟨⟩
  · rintro _ ⟨⟩

theorem problem (p : Problem) (rest : List Char) :
    Advances room cs (.error (.problem p rest) : Step α) := by
  constructor
  · rintro _ _ ⟨⟩
  · rintro _ ⟨⟩
  · rintro _ ⟨⟩

/-- A step further on in a text is a step in it. -/
theorem later (behind : cs' <:+ cs) (advances : Advances room cs' step) : Advances room cs step := by
  constructor
  · intro a rest run
    exact (advances.suffix a rest run).trans behind
  · intro numeral stops
    obtain ⟨digits, inside, long, all⟩ := advances.longRun numeral stops
    exact ⟨digits, inside.trans behind.isInfix, long, all⟩
  · intro overflow stops
    have fewer := behind.sublist.countP_le (p := isOpening)
    exact Nat.lt_of_lt_of_le (advances.deep overflow stops) (Nat.add_le_add_right fewer 3)

theorem map (advances : Advances room cs step) (f : α → β) :
    Advances room cs (step.map fun (a, rest) => (f a, rest)) := by
  constructor
  · intro b rest run
    obtain ⟨⟨a, rest'⟩, run, same⟩ := map_eq_ok.mp run
    cases same
    exact advances.suffix a rest run
  · intro numeral stops
    exact advances.longRun numeral (map_eq_error.mp stops)
  · intro overflow stops
    exact advances.deep overflow (map_eq_error.mp stops)

/-- A step after another one. -/
theorem error (advances : Advances room cs step) {stop : Stop} (stops : step = .error stop) :
    Advances room cs (.error stop : Step β) := by
  constructor
  · rintro _ _ ⟨⟩
  · rintro numeral ⟨⟩
    exact advances.longRun numeral stops
  · rintro overflow ⟨⟩
    exact advances.deep overflow stops

/-- What is read in a container advances behind the character that opens it. -/
theorem enter {c : Char} (opens : isOpening c = true) (container : Container) {inside : Nat → Step Json}
    (advances : ∀ less, Advances less cs (inside less)) :
    Advances room (c :: cs) (Json.enter container room inside) := by
  cases room with
  | zero =>
    constructor
    · rintro _ _ ⟨⟩
    · rintro _ ⟨⟩
    · intro _ _
      exact Nat.succ_pos _
  | succ less =>
    obtain ⟨suffix, longRun, _⟩ := (advances less).later (List.suffix_cons c cs)
    constructor
    · intro a rest run
      exact suffix a rest (mapError_eq_ok.mp run)
    · intro numeral stops
      obtain ⟨stop, stops, same⟩ := mapError_eq_error.mp stops
      exact longRun numeral (stop.eq_longNumber_of_inside same ▸ stops)
    · intro overflow stops
      obtain ⟨stop, stops, same⟩ := mapError_eq_error.mp stops
      rw [List.countP_cons_of_pos opens]
      -- Either there was no room further inside, or there is none to report what was met there.
      rcases stop.inside_eq_tooDeep same with rfl | few
      · have inner := (advances less).deep overflow stops
        omega
      · omega

end Advances

theorem skipSpace_suffix (cs : List Char) : skipSpace cs <:+ cs := List.dropWhile_suffix _

/-! ## Strings -/

theorem suffix_of_hexUnit? {cs rest : List Char} {n : Nat} (reads : hexUnit? cs = some (n, rest)) :
    rest <:+ cs := by
  unfold hexUnit? at reads
  split at reads
  · simp only [Option.bind_eq_bind, Option.bind_eq_some_iff] at reads
    obtain ⟨_, _, _, _, _, _, _, _, same⟩ := reads
    cases same
    exact ⟨[_, _, _, _], rfl⟩
  · cases reads

theorem advances_unicodeEscape (room : Nat) (digits rest : List Char) :
    Advances room digits (unicodeEscape digits rest) := by
  unfold unicodeEscape
  split
  · exact .problem _ _
  · rename_i high after reads
    have behind := suffix_of_hexUnit? reads
    split
    · split
      · exact .ok _ behind
      · split
        · exact .problem _ _
        · rename_i low later reads'
          split
          · exact .ok _ ((suffix_of_hexUnit? reads').trans ((List.suffix_append [_, _] _).trans behind))
          · exact .ok _ behind
    · exact .ok _ behind

theorem advances_readString (room : Nat) (start : List Char) (fuel : Nat) (acc : List CodePoint)
    (cs : List Char) : Advances room cs (readString start fuel acc cs) := by
  induction fuel generalizing acc cs with
  | zero => exact .problem _ _
  | succ fuel ih =>
    cases cs with
    | nil => exact .problem _ _
    | cons c rest =>
      have behind : rest <:+ c :: rest := List.suffix_cons c rest
      unfold readString
      split_ifs with quote backslash control
      · exact .ok _ behind
      · split
        · exact .problem _ _
        · rename_i digits
          have escape := (advances_unicodeEscape room digits ('u' :: digits)).later
            ((List.suffix_cons _ _).trans behind)
          split
          · rename_i stop stops
            exact escape.error stops
          · rename_i character after reads
            exact (ih _ _).later (escape.suffix _ _ reads)
        · split
          · exact .problem _ _
          · exact (ih _ _).later ((List.suffix_cons _ _).trans behind)
      · exact .problem _ _
      · exact (ih _ _).later behind

theorem advances_stringFrom (room : Nat) (cs : List Char) : Advances room cs (stringFrom cs) :=
  (advances_readString room cs cs.length [] cs.tail).later (List.tail_suffix cs)

/-! ## Numbers -/

theorem of_wholePart? {cs whole rest : List Char} (reads : wholePart? cs = some (whole, rest)) :
    whole ++ rest = cs ∧ ∀ c ∈ whole, isDigit c = true := by
  unfold wholePart? at reads
  split at reads
  · cases reads
  · cases reads
    exact ⟨rfl, by simp [isDigit]⟩
  · rename_i c more _
    split at reads
    · rename_i digit
      cases reads
      refine ⟨by simp, fun d member => ?_⟩
      rcases List.mem_cons.mp member with rfl | later
      · exact digit
      · exact List.mem_takeWhile_imp later
    · cases reads

theorem fractionPart_suffix (cs : List Char) : (fractionPart cs).2 <:+ cs := by
  unfold fractionPart
  split
  · split
    · exact (List.dropWhile_suffix _).trans (List.suffix_append ['.', _] _)
    · exact List.suffix_refl _
  · exact List.suffix_refl _

theorem exponentPart_suffix (cs : List Char) : (exponentPart cs).2 <:+ cs := by
  cases cs with
  | nil => exact List.suffix_refl _
  | cons mark rest =>
    have behind : rest <:+ mark :: rest := List.suffix_cons mark rest
    unfold exponentPart
    dsimp only
    split_ifs
    · refine (List.dropWhile_suffix _).trans (List.IsSuffix.trans ?_ behind)
      split
      · exact List.suffix_cons _ _
      · exact List.suffix_cons _ _
      · exact List.suffix_refl _
    · exact List.suffix_refl _
    · exact List.suffix_refl _

theorem advances_readNumber (room : Nat) (cs : List Char) : Advances room cs (readNumber cs) := by
  simp only [readNumber]
  have unsigned : (if cs.head? = some '-' then cs.tail else cs) <:+ cs := by
    split
    · exact List.tail_suffix cs
    · exact List.suffix_refl cs
  split
  · exact .problem _ _
  · rename_i whole rest reads
    obtain ⟨split, digits⟩ := of_wholePart? reads
    have behind : (exponentPart (fractionPart rest).2).2 <:+ cs :=
      (exponentPart_suffix _).trans ((fractionPart_suffix _).trans
        ((split ▸ List.suffix_append whole rest).trans unsigned))
    split
    · split
      · rename_i numeral long
        refine ⟨by rintro _ _ ⟨⟩, fun _ _ => ⟨whole, ?_, ?_, digits⟩, by rintro _ ⟨⟩⟩
        · exact (split ▸ (List.prefix_append whole rest).isInfix : whole <:+: _).trans unsigned.isInfix
        · rw [Text.readNumeral] at long
          split at long
          · assumption
          · cases long
      · exact .ok _ behind
    · exact .ok _ behind

/-! ## Values -/

theorem suffix_of_word? {cs rest : List Char} {value : Json} (is : word? cs = some (value, rest)) :
    rest <:+ cs := by
  obtain ⟨_, _, same⟩ := Option.map_eq_some_iff.mp is
  cases same
  exact List.drop_suffix _ _

/-- All parts of the reader advance with so much fuel. -/
private structure ReaderAdvances (fuel : Nat) : Prop where
  value : ∀ room cs, Advances room cs (readValue fuel room cs)
  elements : ∀ room cs, Advances room cs (readElements fuel room cs)
  members : ∀ room cs, Advances room cs (readMembers fuel room cs)

section
variable {fuel : Nat}

private theorem ReaderAdvances.value_succ (ih : ReaderAdvances fuel) (room : Nat)
    (cs : List Char) : Advances room cs (readValue (fuel + 1) room cs) := by
  unfold readValue
  split
  · exact (advances_stringFrom room _).map _
  · rename_i rest
    refine .enter (by decide) .object fun less => ?_
    have behind := skipSpace_suffix rest
    split
    · rename_i after same
      exact .ok _ ((same ▸ List.suffix_cons '}' after).trans behind)
    · exact ((ih.members less _).later behind).map fun members => object (lastValues members)
  · rename_i rest
    refine .enter (by decide) .array fun less => ?_
    have behind := skipSpace_suffix rest
    split
    · rename_i after same
      exact .ok _ ((same ▸ List.suffix_cons ']' after).trans behind)
    · exact ((ih.elements less _).later behind).map _
  · split
    · rename_i is
      exact .ok _ (suffix_of_word? is)
    · exact advances_readNumber room _

private theorem ReaderAdvances.elements_succ (ih : ReaderAdvances fuel) (room : Nat)
    (cs : List Char) : Advances room cs (readElements (fuel + 1) room cs) := by
  unfold readElements
  split
  · rename_i stop stops
    exact (ih.value room cs).error stops
  · rename_i element rest reads
    have behind : skipSpace rest <:+ cs :=
      (skipSpace_suffix rest).trans ((ih.value room cs).suffix _ _ reads)
    split
    · rename_i after same
      exact .ok _ ((same ▸ List.suffix_cons ']' after).trans behind)
    · rename_i after same
      have next : skipSpace after <:+ cs :=
        (skipSpace_suffix after).trans ((same ▸ List.suffix_cons ',' after).trans behind)
      exact ((ih.elements room _).later next).map _
    · exact .problem _ _

private theorem ReaderAdvances.members_succ (ih : ReaderAdvances fuel) (room : Nat)
    (cs : List Char) : Advances room cs (readMembers (fuel + 1) room cs) := by
  unfold readMembers
  split
  · rename_i quoted
    split
    · rename_i stop stops
      exact (advances_stringFrom room _).error stops
    · rename_i name rest reads
      have behind := (skipSpace_suffix rest).trans ((advances_stringFrom room _).suffix _ _ reads)
      split
      · rename_i after same
        have inner := (skipSpace_suffix after).trans ((same ▸ List.suffix_cons ':' after).trans behind)
        split
        · rename_i stop stops
          exact ((ih.value room _).later inner).error stops
        · rename_i value rest' reads'
          have behind' := (skipSpace_suffix rest').trans (((ih.value room _).later inner).suffix _ _ reads')
          split
          · rename_i last same'
            exact .ok _ ((same' ▸ List.suffix_cons '}' last).trans behind')
          · rename_i last same'
            have next := (skipSpace_suffix last).trans ((same' ▸ List.suffix_cons ',' last).trans behind')
            exact ((ih.members room _).later next).map _
          · exact .problem _ _
      · exact .problem _ _
  · exact .problem _ _

end

private theorem readerAdvances (fuel : Nat) : ReaderAdvances fuel := by
  induction fuel with
  | zero =>
    refine ⟨fun room cs => ?_, fun room cs => ?_, fun room cs => ?_⟩
    · exact readValue.eq_1 room cs ▸ .problem _ _
    · exact readElements.eq_1 room cs ▸ .problem _ _
    · exact readMembers.eq_1 room cs ▸ .problem _ _
  | succ fuel ih => exact ⟨ih.value_succ, ih.elements_succ, ih.members_succ⟩

/-- A text of right syntax that is not read is one whose value is not. -/
private theorem stop_of_read [Nesting] {text : List Char} {e : ReadError} (stops : read text = .error e) :
    (∃ problem place, e = .syntaxError problem place) ∨
    (∃ numeral, e = .longNumber numeral ∧
      readValue (2 * text.length + 1) Nesting.limit (skipSpace text) = .error (.longNumber numeral)) ∨
    ∃ overflow, e = .tooDeep overflow ∧
      readValue (2 * text.length + 1) Nesting.limit (skipSpace text) = .error (.tooDeep overflow) := by
  simp only [read] at stops
  split at stops
  · cases stops
    exact Or.inl ⟨_, _, rfl⟩
  · split at stops
    · rename_i stop inner
      cases stops
      cases stop with
      | problem p rest => exact Or.inl ⟨_, _, rfl⟩
      | longNumber numeral => exact Or.inr (Or.inl ⟨numeral, rfl, inner⟩)
      | tooDeep overflow => exact Or.inr (Or.inr ⟨overflow, rfl, inner⟩)
    · split at stops
      · cases stops
      · cases stops
        exact Or.inl ⟨_, _, rfl⟩

private theorem advances_text [Nesting] (text : List Char) :
    Advances Nesting.limit text (readValue (2 * text.length + 1) Nesting.limit (skipSpace text)) :=
  ((readerAdvances _).value _ _).later (skipSpace_suffix text)

/-- Reading stops at a number of too many digits only where there is a run of so many. -/
theorem hasLongRun_of_read [Nesting] {text : List Char} {numeral : Text.LongNumeral}
    (stops : read text = .error (.longNumber numeral)) : HasLongRun text := by
  rcases stop_of_read stops with ⟨_, _, same⟩ | ⟨_, _, inner⟩ | ⟨_, same, _⟩
  · cases same
  · exact (advances_text text).longRun _ inner
  · cases same

/-- Reading stops too far inside containers only where as many are opened. -/
theorem isDeep_of_read [Nesting] {text : List Char} {overflow : Overflow}
    (stops : read text = .error (.tooDeep overflow)) : IsDeep text := by
  rcases stop_of_read stops with ⟨_, _, same⟩ | ⟨_, same, _⟩ | ⟨_, _, inner⟩
  · cases same
  · cases same
  · exact (advances_text text).deep _ inner

/-- One bracket more than there is room for is too deep, whatever is behind it. -/
theorem readValue_nested (room : Nat) {fuel : Nat} (enough : 2 * room < fuel) (rest : List Char) :
    readValue fuel room (List.replicate (room + 1) '[' ++ rest) =
      .error (.tooDeep (.container .array)) := by
  induction room generalizing fuel with
  | zero =>
    obtain ⟨fuel, rfl⟩ := Nat.exists_eq_add_one_of_ne_zero (Nat.ne_zero_of_lt enough)
    rfl
  | succ room ih =>
    -- The bracket is passed, and then that of its first element is met.
    obtain ⟨fuel, rfl⟩ : ∃ less, fuel = less + 2 := ⟨fuel - 2, by omega⟩
    have inner := @ih fuel (by omega)
    rw [List.replicate_succ, List.cons_append] at inner ⊢
    have opens : skipSpace (List.replicate (room + 1) '[' ++ rest) =
        '[' :: (List.replicate room '[' ++ rest) := rfl
    have elements : readElements (fuel + 1) room ('[' :: (List.replicate room '[' ++ rest)) =
        .error (.tooDeep (.container .array)) := by
      rw [readElements, inner]
    rw [readValue.eq_def]
    simp only [enter, opens]
    exact congrArg (fun inside => (Except.map _ inside).mapError (Stop.inside room)) elements

/-- A text that begins with one bracket more than are read inside one another is not read. -/
theorem read_nested [Nesting] (rest : List Char) :
    read (List.replicate (Nesting.limit + 1) '[' ++ rest) = .error (.tooDeep (.container .array)) := by
  have noMark : (List.replicate (Nesting.limit + 1) '[' ++ rest).head? ≠ some '\uFEFF' := by
    rw [List.replicate_succ, List.cons_append, List.head?_cons]
    decide
  have skipped : skipSpace (List.replicate (Nesting.limit + 1) '[' ++ rest) =
      List.replicate (Nesting.limit + 1) '[' ++ rest := rfl
  have enough : 2 * Nesting.limit < 2 * (List.replicate (Nesting.limit + 1) '[' ++ rest).length + 1 := by
    simp only [List.length_append, List.length_replicate]
    omega
  simp only [read, if_neg noMark, skipped, readValue_nested Nesting.limit enough rest]

end IssueTracker.Json
