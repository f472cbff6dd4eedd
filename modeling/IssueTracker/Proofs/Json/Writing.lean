import IssueTracker.Proofs.Json.RoundTrip

/-!
# What is written of a value

A value whose texts consist of characters is written as a whole (`ofPieces_pieces`).  Of any other one
only the part before the first half is written, and that part is no JSON: reading it ends at a syntax
error, or too far inside containers to report one (`read_cut`).
-/

namespace IssueTracker.Json

variable {room : Nat}

/-- What holds of a value if it holds of all that is in it holds of every value. -/
theorem inductionOn {P : Json → Prop} (null : P .null) (bool : ∀ value, P (.bool value))
    (integer : ∀ value, P (.integer value)) (float : ∀ value, P (.float value))
    (string : ∀ value, P (.string value))
    (array : ∀ elements, (∀ element ∈ elements, P element) → P (.array elements))
    (object : ∀ members, (∀ member ∈ members, P member.2) → P (.object members)) (v : Json) : P v :=
  @Json.rec P (fun elements => ∀ element ∈ elements, P element)
    (fun members => ∀ member ∈ members, P member.2) (fun member => P member.2)
    null bool integer float string array object
    (fun _ member => absurd member List.not_mem_nil)
    (fun _ _ first others => List.forall_mem_cons.mpr ⟨first, others⟩)
    (fun _ member => absurd member List.not_mem_nil)
    (fun _ _ first others => List.forall_mem_cons.mpr ⟨first, others⟩)
    (fun _ _ value => value) v

/-! ## Pieces -/

theorem quotedText_plain (s : String) : quotedText s = .ofChars (quoted s) := by
  rw [quotedText, AnyText.points, quoted_plain, ← AnyText.ofPoints_map_char]
  simp [List.flatMap_map, List.map_flatMap, keepPoint]

theorem quotedText_broken (before : List Char) (half : Half) (after : List CodePoint) :
    quotedText (.broken before half after) = .broken ('"' :: before.flatMap escapeChar) half
      (after.flatMap keepPoint ++ [.char '"']) := by
  rw [quotedText, AnyText.points, ← AnyText.ofPoints_half]
  simp [List.flatMap_map, List.map_flatMap, keepPoint]

theorem isPlain_quotedText {t : AnyText} : (quotedText t).IsPlain ↔ t.IsPlain := by
  cases t with
  | plain s =>
    rw [quotedText_plain]
    exact ⟨fun _ => AnyText.isPlain_plain s, fun _ => AnyText.isPlain_ofChars _⟩
  | broken before half after =>
    rw [quotedText_broken]
    exact ⟨fun plain => absurd plain (AnyText.not_isPlain_broken _ _ _),
      fun plain => absurd plain (AnyText.not_isPlain_broken _ _ _)⟩

/-- The pieces of an element are encoded behind a separator just when they are alone. -/
theorem isPlain_separated {separator : List Char} {e : Json} {level : Nat} :
    (∀ piece ∈ separated separator e (e.pieces level), piece.IsPlain) ↔
      ∀ piece ∈ e.pieces level, piece.IsPlain := by
  cases e with
  | string value => simp [separated, pieces, AnyText.isPlain_behind]
  | null | bool | integer | float | array | object =>
    simp [separated, AnyText.isPlain_ofChars]

theorem isPlain_elementPieces {elements : List Json} {level : Nat}
    (each : ∀ e ∈ elements, (∀ piece ∈ e.pieces level, piece.IsPlain) ↔ e.IsPlain) :
    (∀ piece ∈ elementPieces level elements, piece.IsPlain) ↔ ∀ e ∈ elements, e.IsPlain := by
  induction elements with
  | nil => simp [elementPieces]
  | cons e elements ih =>
    obtain ⟨first, others⟩ := List.forall_mem_cons.mp each
    rw [elementPieces, List.forall_mem_append, isPlain_separated, first, ih others,
      List.forall_mem_cons]

theorem isPlain_memberPieces {members : List (AnyText × Json)} {level : Nat}
    (each : ∀ m ∈ members, (∀ piece ∈ m.2.pieces level, piece.IsPlain) ↔ m.2.IsPlain) :
    (∀ piece ∈ memberPieces level members, piece.IsPlain) ↔
      (∀ m ∈ members, m.1.IsPlain) ∧ ∀ m ∈ members, m.2.IsPlain := by
  induction members with
  | nil => simp [memberPieces]
  | cons m members ih =>
    obtain ⟨name, value⟩ := m
    obtain ⟨first, others⟩ := List.forall_mem_cons.mp each
    simp only [memberPieces, List.cons_append, List.forall_mem_cons, List.forall_mem_append,
      AnyText.isPlain_ofChars, isPlain_quotedText, first, ih others, true_and]
    tauto

/-- The pieces of a value can be encoded just when its texts consist of characters. -/
theorem isPlain_pieces (v : Json) (level : Nat) :
    (∀ piece ∈ v.pieces level, piece.IsPlain) ↔ v.IsPlain := by
  induction v using inductionOn generalizing level with
  | null => simp [pieces, AnyText.isPlain_ofChars, IsPlain.null]
  | bool value => simp [pieces, AnyText.isPlain_ofChars, IsPlain.bool]
  | integer value => simp [pieces, AnyText.isPlain_ofChars, IsPlain.integer]
  | float value => simp [pieces, AnyText.isPlain_ofChars, IsPlain.float]
  | string value =>
    rw [pieces, List.forall_mem_singleton, isPlain_quotedText]
    refine ⟨.string, fun plain => ?_⟩
    cases plain with
    | string plain => exact plain
  | array elements ih =>
    have all : (∀ piece ∈ (array elements).pieces level, piece.IsPlain) ↔ ∀ e ∈ elements, e.IsPlain := by
      cases elements with
      | nil => simp [pieces, AnyText.isPlain_ofChars]
      | cons e elements =>
        obtain ⟨first, others⟩ := List.forall_mem_cons.mp ih
        simp only [pieces, List.forall_mem_append, List.forall_mem_cons, isPlain_separated,
          first, isPlain_elementPieces fun e member => others e member (level + 1),
          AnyText.isPlain_ofChars, List.not_mem_nil, false_implies, implies_true, and_true]
    rw [all]
    refine ⟨.array, fun plain => ?_⟩
    cases plain with
    | array each => exact each
  | object members ih =>
    have all : (∀ piece ∈ (object members).pieces level, piece.IsPlain) ↔
        (∀ m ∈ members, m.1.IsPlain) ∧ ∀ m ∈ members, m.2.IsPlain := by
      cases members with
      | nil => simp [pieces, AnyText.isPlain_ofChars]
      | cons m members =>
        obtain ⟨name, value⟩ := m
        obtain ⟨first, others⟩ := List.forall_mem_cons.mp ih
        simp only [pieces, List.cons_append, List.forall_mem_append, List.forall_mem_cons,
          isPlain_quotedText, first, isPlain_memberPieces fun m member => others m member (level + 1),
          AnyText.isPlain_ofChars, List.not_mem_nil, false_implies, implies_true, true_and, and_true]
        tauto
    rw [all]
    refine ⟨fun plain => .object plain.1 plain.2, fun plain => ?_⟩
    cases plain with
    | object names each => exact ⟨names, each⟩

/-! ## Values that are written as a whole -/

/-- What is written of a value at a level. -/
abbrev cut (level : Nat) (v : Json) : List Char := (Written.ofPieces (v.pieces level)).chars

theorem ofPieces_separated {e : Json} {level : Nat} (plain : e.IsPlain) (whole : cut level e = e.chars level)
    (separator : List Char) (later : List AnyText) :
    (Written.ofPieces (separated separator e (e.pieces level) ++ later)).chars =
      separator ++ (e.chars level ++ (Written.ofPieces later).chars) := by
  have pieces_plain := (isPlain_pieces e level).mpr plain
  rw [Written.ofPieces_append (isPlain_separated.mpr pieces_plain), ← List.append_assoc, ← whole]
  cases e with
  | string value =>
    cases plain with
    | string plain =>
      obtain ⟨s, rfl⟩ := plain
      have behind : (AnyText.ofChars (quoted s)).behind separator = .ofChars (separator ++ quoted s) := by
        rw [AnyText.ofChars, AnyText.behind, String.toList_ofList]
      simp [separated, cut, pieces, quotedText_plain, behind, Written.ofPieces_ofChars,
        Written.ofPieces_nil]
  | null | bool | integer | float | array | object =>
    simp [separated, Written.ofPieces_ofChars]

/-- What is written of the elements after the first. -/
theorem ofPieces_elementPieces {elements : List Json} {level : Nat} (plain : ∀ e ∈ elements, e.IsPlain)
    (whole : ∀ e ∈ elements, cut level e = e.chars level) (later : List AnyText) :
    (Written.ofPieces (elementPieces level elements ++ later)).chars =
      moreElements level elements ++ (Written.ofPieces later).chars := by
  induction elements with
  | nil => rfl
  | cons e elements ih =>
    obtain ⟨first, others⟩ := List.forall_mem_cons.mp plain
    obtain ⟨firstWhole, othersWhole⟩ := List.forall_mem_cons.mp whole
    rw [elementPieces, List.append_assoc, ofPieces_separated first firstWhole, ih others othersWhole,
      moreElements]
    simp

/-- What is written of a member. -/
theorem ofPieces_member {name : String} {value : Json} {level : Nat} (plain : value.IsPlain)
    (whole : cut level value = value.chars level) (later : List AnyText) :
    (Written.ofPieces (quotedText name :: .ofChars [':', ' '] :: (value.pieces level ++ later))).chars =
      quoted name ++ ':' :: ' ' :: (value.chars level ++ (Written.ofPieces later).chars) := by
  rw [quotedText_plain, Written.ofPieces_ofChars, Written.ofPieces_ofChars,
    Written.ofPieces_append ((isPlain_pieces value level).mpr plain), ← whole]
  simp

/-- What is written of the members after the first. -/
theorem ofPieces_memberPieces {members : List (AnyText × Json)} {level : Nat}
    (names : ∀ m ∈ members, m.1.IsPlain) (plain : ∀ m ∈ members, m.2.IsPlain)
    (whole : ∀ m ∈ members, cut level m.2 = m.2.chars level) (later : List AnyText) :
    (Written.ofPieces (memberPieces level members ++ later)).chars =
      moreMembers level members ++ (Written.ofPieces later).chars := by
  induction members with
  | nil => rfl
  | cons m members ih =>
    obtain ⟨_, value⟩ := m
    obtain ⟨⟨name, rfl⟩, otherNames⟩ := List.forall_mem_cons.mp names
    obtain ⟨first, others⟩ := List.forall_mem_cons.mp plain
    obtain ⟨firstWhole, othersWhole⟩ := List.forall_mem_cons.mp whole
    simp only [memberPieces, List.cons_append, List.append_assoc, moreMembers]
    rw [Written.ofPieces_ofChars, ofPieces_member first firstWhole, ih otherNames others othersWhole]
    simp

/-- A value whose texts consist of characters is written as its text. -/
theorem cut_of_isPlain {v : Json} (plain : v.IsPlain) (level : Nat) : cut level v = v.chars level := by
  induction plain generalizing level with
  | null | bool | integer | float => simp [cut, pieces, Written.ofPieces_ofChars, Written.ofPieces_nil]
  | string plain =>
    obtain ⟨s, rfl⟩ := plain
    simp [cut, pieces, quotedText_plain, Written.ofPieces_ofChars, Written.ofPieces_nil, chars]
  | @array elements plain ih =>
    cases elements with
    | nil => simp [cut, pieces, Written.ofPieces_ofChars, Written.ofPieces_nil]
    | cons e elements =>
      obtain ⟨first, others⟩ := List.forall_mem_cons.mp plain
      obtain ⟨firstWhole, othersWhole⟩ := List.forall_mem_cons.mp ih
      rw [cut, pieces, List.append_assoc, ofPieces_separated first (firstWhole (level + 1)),
        ofPieces_elementPieces others fun e member => othersWhole e member (level + 1), chars]
      simp [Written.ofPieces_ofChars, Written.ofPieces_nil]
  | @object members names plain ih =>
    cases members with
    | nil => simp [cut, pieces, Written.ofPieces_ofChars, Written.ofPieces_nil]
    | cons m members =>
      obtain ⟨_, value⟩ := m
      obtain ⟨⟨name, rfl⟩, otherNames⟩ := List.forall_mem_cons.mp names
      obtain ⟨first, others⟩ := List.forall_mem_cons.mp plain
      obtain ⟨firstWhole, othersWhole⟩ := List.forall_mem_cons.mp ih
      simp only [cut, pieces, List.cons_append, List.append_assoc, chars]
      rw [Written.ofPieces_ofChars, Written.ofPieces_ofChars, ofPieces_member first (firstWhole (level + 1)),
        ofPieces_memberPieces otherNames others fun m member => othersWhole m member (level + 1)]
      simp [Written.ofPieces_ofChars, Written.ofPieces_nil]

/-- Such a value is written without a fault. -/
theorem ofPieces_pieces {v : Json} (plain : v.IsPlain) (level : Nat) :
    Written.ofPieces (v.pieces level) = { chars := v.chars level } := by
  have none := Written.fault_ofPieces.mpr ((isPlain_pieces v level).mpr plain)
  have whole := cut_of_isPlain plain level
  rw [cut] at whole
  rw [← whole, ← none]

/-- Named texts consist of characters when all do. -/
theorem isPlain_texts {pairs : List (AnyText × AnyText)} :
    (Json.texts pairs).IsPlain ↔ ∀ pair ∈ pairs, pair.1.IsPlain ∧ pair.2.IsPlain := by
  constructor
  · intro plain pair member
    cases plain with
    | object names each =>
      refine ⟨names _ (List.mem_map_of_mem member), ?_⟩
      cases each _ (List.mem_map_of_mem member) with
      | string text => exact text
  · intro each
    refine .object ?_ ?_
    · intro named inside
      obtain ⟨pair, member, rfl⟩ := List.mem_map.mp inside
      exact (each pair member).1
    · intro named inside
      obtain ⟨pair, member, rfl⟩ := List.mem_map.mp inside
      exact .string (each pair member).2

/-! ## Values that are cut off -/

/-- Of an element that cannot be encoded a part is written behind what separates it, unless it is a
    text: then not even that. -/
theorem ofPieces_separated_broken {e : Json} (broken : ¬ e.IsPlain) (separator : List Char) (level : Nat)
    (later : List AnyText) :
    let written := (Written.ofPieces (separated separator e (e.pieces level) ++ later)).chars
    written = [] ∨ written = separator ++ cut level e := by
  have piecesBroken := (isPlain_pieces e level).not.mpr broken
  rw [Written.ofPieces_append_of_broken (isPlain_separated.not.mpr piecesBroken)]
  cases e with
  | string value =>
    have pieceBroken : ¬ ((quotedText value).behind separator).IsPlain := by
      rw [AnyText.isPlain_behind, isPlain_quotedText]
      exact fun plain => broken (.string plain)
    refine Or.inl ?_
    have only : separated separator (string value) ((string value).pieces level) =
        [(quotedText value).behind separator] := by
      rw [pieces, separated]
    rw [only, Written.ofPieces_broken pieceBroken]
  | null | bool | integer | float | array | object =>
    exact Or.inr (by simp [separated, Written.ofPieces_ofChars])

/-- Of a member that cannot be encoded the part before its value is written if its name can be. -/
theorem ofPieces_member_broken {name : AnyText} {value : Json} (broken : ¬ (name.IsPlain ∧ value.IsPlain))
    (level : Nat) (later : List AnyText) :
    let written :=
      (Written.ofPieces (quotedText name :: .ofChars [':', ' '] :: (value.pieces level ++ later))).chars
    written = [] ∨ ∃ s : String, ¬ value.IsPlain ∧ written = quoted s ++ ':' :: ' ' :: cut level value := by
  by_cases namePlain : name.IsPlain
  · have valueBroken : ¬ value.IsPlain := fun plain => broken ⟨namePlain, plain⟩
    obtain ⟨s, rfl⟩ := namePlain
    refine Or.inr ⟨s, valueBroken, ?_⟩
    rw [quotedText_plain, Written.ofPieces_ofChars, Written.ofPieces_ofChars,
      Written.ofPieces_append_of_broken ((isPlain_pieces value level).not.mpr valueBroken)]
    simp
  · refine Or.inl ?_
    rw [Written.ofPieces_broken (isPlain_quotedText.not.mpr namePlain)]

/-- What is written of a value is empty or starts like a value. -/
theorem mayStart_cut (v : Json) (level : Nat) : MayStart (cut level v) := by
  have opening {c : Char} (start : isStart c = true) (more : List Char) : MayStart (c :: more) :=
    StartsValue.mayStart ⟨c, more, rfl, start⟩
  by_cases plain : v.IsPlain
  · rw [cut_of_isPlain plain]
    exact (startsValue_chars v level).mayStart
  · cases v with
    | null => exact absurd .null plain
    | bool value => exact absurd (.bool value) plain
    | integer value => exact absurd (.integer value) plain
    | float value => exact absurd (.float value) plain
    | string value =>
      rw [cut, pieces, Written.ofPieces_broken fun quotedPlain =>
        plain (.string (isPlain_quotedText.mp quotedPlain))]
      exact mayStart_nil
    | array elements =>
      cases elements with
      | nil => exact absurd (.array (by simp)) plain
      | cons e elements =>
        rw [cut, pieces, List.append_assoc]
        by_cases first : e.IsPlain
        · rw [ofPieces_separated first (cut_of_isPlain first _)]
          exact opening (by decide) _
        · rcases ofPieces_separated_broken first ('[' :: newLine (level + 1)) (level + 1)
            (elementPieces (level + 1) elements ++ [.ofChars (newLine level), .ofChars [']']]) with is | is
          · rw [is]
            exact mayStart_nil
          · rw [is]
            exact opening (by decide) _
    | object members =>
      cases members with
      | nil => exact absurd (.object (by simp) (by simp)) plain
      | cons m members =>
        obtain ⟨name, value⟩ := m
        simp only [cut, pieces, List.cons_append]
        rw [Written.ofPieces_ofChars]
        exact opening (by decide) _

theorem length_newLine (level : Nat) : (newLine level).length = 2 * level + 1 := by
  simp [newLine]

/-- A stop at a problem, or where there is no room to report it. -/
def Stop.IsProblem : Stop → Prop
  | longNumber _ => False
  | problem .. | tooDeep _ => True

theorem Stop.IsProblem.inside {stop : Stop} (is : stop.IsProblem) (room : Nat) :
    (stop.inside room).IsProblem := by
  unfold Stop.inside
  split
  · trivial
  · split <;> trivial
  · exact is

/-- A step that ends at a problem. -/
def EndsAtProblem {α : Type} (step : Step α) : Prop := ∃ stop : Stop, stop.IsProblem ∧ step = .error stop

namespace EndsAtProblem
variable {α β : Type} {step : Step α}

theorem problem (p : Problem) (rest : List Char) : EndsAtProblem (.error (.problem p rest) : Step α) :=
  ⟨.problem p rest, trivial, rfl⟩

theorem map (fails : EndsAtProblem step) (f : α × List Char → β × List Char) :
    EndsAtProblem (step.map f) := by
  obtain ⟨stop, is, rfl⟩ := fails
  exact ⟨stop, is, rfl⟩

theorem inside (fails : EndsAtProblem step) (room : Nat) :
    EndsAtProblem (step.mapError (Stop.inside room)) := by
  obtain ⟨stop, is, rfl⟩ := fails
  exact ⟨_, is.inside room, rfl⟩

end EndsAtProblem

/-- Reading a text as a value ends at a problem. -/
def IsRejected (room : Nat) (cs : List Char) : Prop :=
  ∀ fuel, cs.length ≤ fuel → EndsAtProblem (readValue fuel room cs)

theorem isRejected_nil : IsRejected room [] := by
  intro fuel _
  cases fuel <;> exact .problem _ _

/-- A value that is rejected among the elements of an array ends the reading of all. -/
theorem IsRejected.readElements {cs : List Char} (rejected : IsRejected room cs) {fuel : Nat}
    (enough : cs.length < fuel) : EndsAtProblem (readElements fuel room cs) := by
  obtain ⟨fuel, rfl⟩ := Nat.exists_eq_add_one_of_ne_zero (Nat.ne_zero_of_lt enough)
  obtain ⟨stop, is, fails⟩ := rejected fuel (Nat.le_of_lt_succ enough)
  exact ⟨stop, is, by rw [Json.readElements, fails]⟩

/-- A value that is rejected behind a name ends the reading of all members. -/
theorem IsRejected.readMembers {cs : List Char} (rejected : IsRejected room cs) (starts : MayStart cs)
    (name : String) {fuel : Nat} (enough : cs.length < fuel) :
    EndsAtProblem (readMembers fuel room (quoted name ++ ':' :: ' ' :: cs)) := by
  obtain ⟨fuel, rfl⟩ := Nat.exists_eq_add_one_of_ne_zero (Nat.ne_zero_of_lt enough)
  obtain ⟨stop, is, fails⟩ := rejected fuel (Nat.le_of_lt_succ enough)
  exact ⟨stop, is, by rw [readMembers_name name starts, fails]⟩

theorem quoted_head?_ne (name : String) (rest : List Char) : (quoted name ++ rest).head? ≠ some '\x7d' := by
  simp [quoted]

theorem skipSpace_comma (rest : List Char) : skipSpace (',' :: rest) = ',' :: rest := rfl

/-- Behind an element that is read, reading ends in the others where they are cut off. -/
theorem readElements_cut {elements : List Json} (storable : ∀ e ∈ elements, e.IsStorable room)
    (rejected : ∀ e ∈ elements, ¬ e.IsPlain → ∀ level, IsRejected room (cut level e))
    (broken : ¬ ∀ e ∈ elements, e.IsPlain) {v w : Json} (first : IsReadAs room v w) (level fuel : Nat)
    (later : List AnyText)
    (enough : (v.chars level ++
      (Written.ofPieces (elementPieces level elements ++ later)).chars).length < fuel) :
    EndsAtProblem (readElements fuel room
      (v.chars level ++ (Written.ofPieces (elementPieces level elements ++ later)).chars)) := by
  induction elements generalizing v w fuel with
  | nil => exact absurd (fun _ member => absurd member List.not_mem_nil) broken
  | cons e elements ih =>
    obtain ⟨fuel, rfl⟩ := Nat.exists_eq_add_one_of_ne_zero (Nat.ne_zero_of_lt enough)
    obtain ⟨eStorable, otherStorable⟩ := List.forall_mem_cons.mp storable
    obtain ⟨eRejected, otherRejected⟩ := List.forall_mem_cons.mp rejected
    rw [elementPieces, List.append_assoc] at enough ⊢
    have short : (v.chars level).length ≤ fuel := by
      simp only [List.length_append] at enough
      omega
    have reads (more : List Char) := first.back level fuel (Nat.le_refl room) (endsNumber_comma more) short
    by_cases plain : e.IsPlain
    · -- The next element is read as well, and the others are cut off.
      have othersBroken : ¬ ∀ e ∈ elements, e.IsPlain := fun all =>
        broken (List.forall_mem_cons.mpr ⟨plain, all⟩)
      obtain ⟨w', _, next⟩ := eStorable.exists_isReadAs plain
      rw [ofPieces_separated plain (cut_of_isPlain plain level)] at enough ⊢
      simp only [List.cons_append, List.length_append, List.length_cons, length_newLine] at enough
      have fails := ih otherStorable otherRejected othersBroken next fuel
        (by simp only [List.length_append]; omega)
      have starts := (startsValue_chars e level).append
        (Written.ofPieces (elementPieces level elements ++ later)).chars
      rw [List.cons_append, readElements_next (reads _) (skipSpace_comma _), skipSpace_newLine,
        starts.mayStart.skipSpace]
      exact fails.map _
    · rcases ofPieces_separated_broken plain (',' :: newLine level) level
        (elementPieces level elements ++ later) with is | is
      · -- Nothing stands behind the first element, not even a comma.
        rw [is]
        have alone := first.back level fuel (Nat.le_refl room) .of_nil short
        rw [Json.readElements, alone]
        exact .problem _ _
      · rw [is] at enough ⊢
        simp only [List.cons_append, List.length_append, List.length_cons, length_newLine] at enough
        have inside : (cut level e).length < fuel := by omega
        rw [List.cons_append, readElements_next (reads _) (skipSpace_comma _), skipSpace_newLine,
          (mayStart_cut e level).skipSpace]
        exact ((eRejected plain level).readElements inside).map _

/-- Behind a member that is read, reading ends in the others where they are cut off. -/
theorem readMembers_cut {members : List (AnyText × Json)} (storable : ∀ m ∈ members, m.2.IsStorable room)
    (rejected : ∀ m ∈ members, ¬ m.2.IsPlain → ∀ level, IsRejected room (cut level m.2))
    (broken : ¬ ∀ m ∈ members, m.1.IsPlain ∧ m.2.IsPlain) (name : String) {v w : Json}
    (first : IsReadAs room v w) (level fuel : Nat) (later : List AnyText)
    (enough : (v.chars level ++
      (Written.ofPieces (memberPieces level members ++ later)).chars).length < fuel) :
    EndsAtProblem (readMembers fuel room (quoted name ++ ':' :: ' ' :: (v.chars level ++
      (Written.ofPieces (memberPieces level members ++ later)).chars))) := by
  induction members generalizing name v w fuel with
  | nil => exact absurd (fun _ member => absurd member List.not_mem_nil) broken
  | cons m members ih =>
    obtain ⟨other, value⟩ := m
    obtain ⟨fuel, rfl⟩ := Nat.exists_eq_add_one_of_ne_zero (Nat.ne_zero_of_lt enough)
    obtain ⟨valueStorable, otherStorable⟩ := List.forall_mem_cons.mp storable
    obtain ⟨valueRejected, otherRejected⟩ := List.forall_mem_cons.mp rejected
    have starts (more : List Char) := ((startsValue_chars v level).append more).mayStart
    simp only [memberPieces, List.cons_append, List.append_assoc, Written.ofPieces_ofChars] at enough ⊢
    simp only [List.length_append, List.length_cons, length_newLine] at enough
    have reads (more : List Char) := first.back level fuel (Nat.le_refl room) (endsNumber_comma more)
      (by omega)
    by_cases plain : other.IsPlain ∧ value.IsPlain
    · have othersBroken : ¬ ∀ m ∈ members, m.1.IsPlain ∧ m.2.IsPlain := fun all =>
        broken (List.forall_mem_cons.mpr ⟨plain, all⟩)
      obtain ⟨⟨other, rfl⟩, plain⟩ := plain
      obtain ⟨w', _, next⟩ := valueStorable.exists_isReadAs plain
      rw [ofPieces_member plain (cut_of_isPlain plain level)] at enough ⊢
      simp only [List.length_append, List.length_cons] at enough
      have fails := ih otherStorable otherRejected othersBroken other next fuel
        (by simp only [List.length_append]; omega)
      rw [readMembers_next (starts _) (reads _) (skipSpace_comma _), skipSpace_newLine, startsQuoted]
      exact fails.map _
    · rcases ofPieces_member_broken plain level (memberPieces level members ++ later) with
        is | ⟨other, valueBroken, is⟩
      · -- The name is cut off: nothing stands behind the comma.
        rw [is] at enough ⊢
        rw [readMembers_next (starts _) (reads _) (skipSpace_comma _), skipSpace_newLine]
        cases fuel <;> exact .problem _ _
      · rw [is] at enough ⊢
        simp only [List.length_append, List.length_cons] at enough
        have inside : (cut level value).length < fuel := by omega
        have fails := (valueRejected valueBroken level).readMembers (mayStart_cut value level) other inside
        rw [readMembers_next (starts _) (reads _) (skipSpace_comma _), skipSpace_newLine, startsQuoted]
        exact fails.map _

/-- What is written of an array of which an element is cut off is no value. -/
theorem isRejected_array {elements : List Json} (storable : ∀ e ∈ elements, e.IsStorable room)
    (rejected : ∀ e ∈ elements, ¬ e.IsPlain → ∀ level, IsRejected room (cut level e))
    (broken : ¬ ∀ e ∈ elements, e.IsPlain) (level : Nat) :
    IsRejected (room + 1) (cut level (array elements)) := by
  cases elements with
  | nil => exact absurd (fun _ member => absurd member List.not_mem_nil) broken
  | cons e elements =>
    obtain ⟨eStorable, otherStorable⟩ := List.forall_mem_cons.mp storable
    obtain ⟨eRejected, otherRejected⟩ := List.forall_mem_cons.mp rejected
    rw [cut, pieces, List.append_assoc]
    by_cases plain : e.IsPlain
    · have othersBroken : ¬ ∀ e ∈ elements, e.IsPlain := fun all =>
        broken (List.forall_mem_cons.mpr ⟨plain, all⟩)
      obtain ⟨w, _, first⟩ := eStorable.exists_isReadAs plain
      rw [ofPieces_separated plain (cut_of_isPlain plain _)]
      intro fuel enough
      simp only [List.length_append, List.length_cons, length_newLine] at enough
      obtain ⟨fuel, rfl⟩ := Nat.exists_eq_add_one_of_ne_zero (n := fuel) (by omega)
      have fails := readElements_cut otherStorable otherRejected othersBroken first
        (level + 1) fuel [.ofChars (newLine level), .ofChars [']']]
        (by simp only [List.length_append]; omega)
      have starts := ((startsValue_chars e (level + 1)).append (Written.ofPieces
        (elementPieces (level + 1) elements ++ [.ofChars (newLine level), .ofChars [']']])).chars).mayStart
      rw [List.cons_append, readValue_opening starts]
      exact (fails.map _).inside _
    · rcases ofPieces_separated_broken plain ('[' :: newLine (level + 1)) (level + 1)
        (elementPieces (level + 1) elements ++ [.ofChars (newLine level), .ofChars [']']]) with is | is
      · -- Not even the bracket is written before a text.
        rw [is]
        exact isRejected_nil
      · rw [is]
        intro fuel enough
        simp only [List.cons_append, List.length_append, List.length_cons, length_newLine] at enough
        obtain ⟨fuel, rfl⟩ := Nat.exists_eq_add_one_of_ne_zero (n := fuel) (by omega)
        have inside : (cut (level + 1) e).length < fuel := by omega
        rw [List.cons_append, readValue_opening (mayStart_cut e _)]
        exact (((eRejected plain (level + 1)).readElements inside).map _).inside _

/-- What is written of an object of which a member is cut off is no value. -/
theorem isRejected_object {members : List (AnyText × Json)} (storable : ∀ m ∈ members, m.2.IsStorable room)
    (rejected : ∀ m ∈ members, ¬ m.2.IsPlain → ∀ level, IsRejected room (cut level m.2))
    (broken : ¬ ∀ m ∈ members, m.1.IsPlain ∧ m.2.IsPlain) (level : Nat) :
    IsRejected (room + 1) (cut level (object members)) := by
  cases members with
  | nil => exact absurd (fun _ member => absurd member List.not_mem_nil) broken
  | cons m members =>
    obtain ⟨name, value⟩ := m
    obtain ⟨valueStorable, otherStorable⟩ := List.forall_mem_cons.mp storable
    obtain ⟨valueRejected, otherRejected⟩ := List.forall_mem_cons.mp rejected
    simp only [cut, pieces, List.cons_append, List.nil_append, List.append_assoc, Written.ofPieces_ofChars]
    intro fuel enough
    by_cases plain : name.IsPlain ∧ value.IsPlain
    · have othersBroken : ¬ ∀ m ∈ members, m.1.IsPlain ∧ m.2.IsPlain := fun all =>
        broken (List.forall_mem_cons.mpr ⟨plain, all⟩)
      obtain ⟨⟨name, rfl⟩, plain⟩ := plain
      obtain ⟨w, _, first⟩ := valueStorable.exists_isReadAs plain
      rw [ofPieces_member plain (cut_of_isPlain plain _)] at enough ⊢
      simp only [List.length_append, List.length_cons, length_newLine] at enough
      obtain ⟨fuel, rfl⟩ := Nat.exists_eq_add_one_of_ne_zero (n := fuel) (by omega)
      have fails := readMembers_cut otherStorable otherRejected othersBroken name first
        (level + 1) fuel [.ofChars (newLine level), .ofChars ['\x7d']]
        (by simp only [List.length_append]; omega)
      rw [readValue_openingBrace (startsQuoted name _) (quoted_head?_ne name _)]
      exact (fails.map _).inside _
    · rcases ofPieces_member_broken plain (level + 1) (memberPieces (level + 1) members ++
        [.ofChars (newLine level), .ofChars ['\x7d']]) with is | ⟨name, valueBroken, is⟩
      · -- The name is cut off: nothing stands behind the brace.
        rw [is] at enough ⊢
        simp only [List.length_append, List.length_cons, length_newLine] at enough
        obtain ⟨fuel, rfl⟩ := Nat.exists_eq_add_one_of_ne_zero (n := fuel) (by omega)
        have fails : EndsAtProblem (readMembers fuel room []) := by
          cases fuel <;> exact .problem _ _
        rw [readValue_openingBrace rfl (by simp)]
        exact (fails.map _).inside _
      · rw [is] at enough ⊢
        simp only [List.length_append, List.length_cons, length_newLine] at enough
        obtain ⟨fuel, rfl⟩ := Nat.exists_eq_add_one_of_ne_zero (n := fuel) (by omega)
        have inside : (cut (level + 1) value).length < fuel := by omega
        have fails := (valueRejected valueBroken (level + 1)).readMembers (mayStart_cut value _) name inside
        rw [readValue_openingBrace (startsQuoted name _) (quoted_head?_ne name _)]
        exact (fails.map _).inside _

/-- What is written of a value with texts of other parts is no value. -/
theorem isRejected_cut {v : Json} (storable : v.IsStorable room) (broken : ¬ v.IsPlain) (level : Nat) :
    IsRejected room (cut level v) := by
  induction storable generalizing level with
  | null => exact absurd .null broken
  | bool value => exact absurd (.bool value) broken
  | integer => exact absurd (.integer _) broken
  | float => exact absurd (.float _) broken
  | string value =>
    rw [cut, pieces, Written.ofPieces_broken fun plain => broken (.string (isPlain_quotedText.mp plain))]
    exact isRejected_nil
  | array storable ih => exact isRejected_array storable ih (fun all => broken (.array all)) level
  | object distinct storable ih =>
    refine isRejected_object storable ih (fun all => broken ?_) level
    exact .object (fun m member => (all m member).1) fun m member => (all m member).2

/-- Reading what is written of such a value ends at a syntax error, or too far inside containers to report
    one. -/
theorem read_cut [Nesting] {v : Json} (storable : v.IsStorable Nesting.limit) (broken : ¬ v.IsPlain) :
    (∃ p place, read (cut 0 v) = .error (.syntaxError p place)) ∨
      ∃ overflow, read (cut 0 v) = .error (.tooDeep overflow) := by
  have starts := mayStart_cut v 0
  obtain ⟨stop, is, fails⟩ := isRejected_cut storable broken 0 (2 * (cut 0 v).length + 1) (by omega)
  simp only [read, if_neg (starts.head?_ne (c := '\uFEFF') (by decide)), starts.skipSpace, fails]
  cases stop with
  | problem p rest => exact Or.inl ⟨_, _, rfl⟩
  | longNumber => exact is.elim
  | tooDeep overflow => exact Or.inr ⟨_, rfl⟩

/-! ## Carriage returns -/

theorem carriage_notMem_hexDigits (width n : Nat) : '\r' ∉ Text.hexDigits width n := by
  induction width generalizing n with
  | zero => simp [Text.hexDigits]
  | succ width ih =>
    have all : ∀ d < 16, '\r' ≠ Char.ofNat (if d < 10 then 48 + d else 87 + d) := by decide
    have last := all (n % 16) (Nat.mod_lt n (by decide))
    rw [Text.hexDigits, List.mem_append, List.mem_singleton, not_or]
    exact ⟨ih (n / 16), last⟩

theorem carriage_notMem_escapeChar (c : Char) : '\r' ∉ escapeChar c := by
  by_cases carriage : c = '\r'
  · subst carriage
    decide
  · rw [escapeChar]
    repeat' split
    all_goals simp [carriage_notMem_hexDigits, Ne.symm carriage]

/-- A text without a carriage return. -/
def HasNoCarriage (t : AnyText) : Prop := .char '\r' ∉ t.points

theorem hasNoCarriage_ofChars {cs : List Char} (none : '\r' ∉ cs) : HasNoCarriage (.ofChars cs) := by
  simpa [HasNoCarriage, AnyText.points_ofChars] using none

theorem carriage_notMem_newLine (level : Nat) : '\r' ∉ newLine level := by
  simp [newLine, List.mem_replicate]

theorem hasNoCarriage_quotedText (t : AnyText) : HasNoCarriage (quotedText t) := by
  have kept (p : CodePoint) : .char '\r' ∉ keepPoint p := by
    cases p with
    | char c => simp [keepPoint, carriage_notMem_escapeChar]
    | half h => simp [keepPoint]
  simp [HasNoCarriage, quotedText, AnyText.points_ofPoints, kept]

theorem hasNoCarriage_separated {separator : List Char} (none : '\r' ∉ separator) {e : Json} {level : Nat}
    (each : ∀ piece ∈ e.pieces level, HasNoCarriage piece) :
    ∀ piece ∈ separated separator e (e.pieces level), HasNoCarriage piece := by
  cases e with
  | string value =>
    intro piece member
    rw [pieces, separated, List.mem_singleton] at member
    subst member
    have text := hasNoCarriage_quotedText value
    rw [HasNoCarriage] at text ⊢
    rw [AnyText.points_behind]
    simpa [none] using text
  | null | bool | integer | float | array | object =>
    exact List.forall_mem_cons.mpr ⟨hasNoCarriage_ofChars none, each⟩

theorem hasNoCarriage_elementPieces {elements : List Json} {level : Nat}
    (each : ∀ e ∈ elements, ∀ piece ∈ e.pieces level, HasNoCarriage piece) :
    ∀ piece ∈ elementPieces level elements, HasNoCarriage piece := by
  induction elements with
  | nil => simp [elementPieces]
  | cons e elements ih =>
    obtain ⟨first, others⟩ := List.forall_mem_cons.mp each
    rw [elementPieces, List.forall_mem_append]
    exact ⟨hasNoCarriage_separated (by simp [carriage_notMem_newLine]) first, ih others⟩

theorem hasNoCarriage_memberPieces {members : List (AnyText × Json)} {level : Nat}
    (each : ∀ m ∈ members, ∀ piece ∈ m.2.pieces level, HasNoCarriage piece) :
    ∀ piece ∈ memberPieces level members, HasNoCarriage piece := by
  induction members with
  | nil => simp [memberPieces]
  | cons m members ih =>
    obtain ⟨name, value⟩ := m
    obtain ⟨first, others⟩ := List.forall_mem_cons.mp each
    simp only [memberPieces, List.cons_append, List.forall_mem_cons, List.forall_mem_append]
    exact ⟨hasNoCarriage_ofChars (by simp [carriage_notMem_newLine]), hasNoCarriage_quotedText name,
      hasNoCarriage_ofChars (by decide), first, ih others⟩

/-- No piece of a value has a carriage return: those of its texts are escaped. -/
theorem hasNoCarriage_pieces (v : Json) (level : Nat) : ∀ piece ∈ v.pieces level, HasNoCarriage piece := by
  induction v using inductionOn generalizing level with
  | null => exact List.forall_mem_singleton.mpr (hasNoCarriage_ofChars (by simp [chars]))
  | bool value =>
    exact List.forall_mem_singleton.mpr (hasNoCarriage_ofChars (by cases value <;> simp [chars]))
  | integer n => exact List.forall_mem_singleton.mpr (hasNoCarriage_ofChars (carriage_notMem_integer n))
  | float value =>
    refine List.forall_mem_singleton.mpr (hasNoCarriage_ofChars ?_)
    cases value with
    | finite negative mantissa exponent => exact carriage_notMem_finiteText negative mantissa exponent
    | infinity negative => cases negative <;> simp [chars, floatText, specialNames]
    | nan => simp [chars, floatText, specialNames]
  | string value => exact List.forall_mem_singleton.mpr (hasNoCarriage_quotedText value)
  | array elements ih =>
    cases elements with
    | nil => exact List.forall_mem_singleton.mpr (hasNoCarriage_ofChars (by simp [chars]))
    | cons e elements =>
      obtain ⟨first, others⟩ := List.forall_mem_cons.mp ih
      simp only [pieces, List.forall_mem_append, List.forall_mem_cons]
      exact ⟨⟨hasNoCarriage_separated (by simp [carriage_notMem_newLine]) (first _),
          hasNoCarriage_elementPieces fun e member => others e member _⟩,
        hasNoCarriage_ofChars (carriage_notMem_newLine level), hasNoCarriage_ofChars (by decide), by simp⟩
  | object members ih =>
    cases members with
    | nil => exact List.forall_mem_singleton.mpr (hasNoCarriage_ofChars (by simp [chars]))
    | cons m members =>
      obtain ⟨name, value⟩ := m
      obtain ⟨first, others⟩ := List.forall_mem_cons.mp ih
      simp only [pieces, List.cons_append, List.forall_mem_append, List.forall_mem_cons]
      exact ⟨hasNoCarriage_ofChars (by decide), hasNoCarriage_ofChars (carriage_notMem_newLine _),
        hasNoCarriage_quotedText name, hasNoCarriage_ofChars (by decide),
        ⟨first _, hasNoCarriage_memberPieces fun m member => others m member _⟩,
        hasNoCarriage_ofChars (carriage_notMem_newLine level), hasNoCarriage_ofChars (by decide), by simp⟩

/-- So there is none in what is written. -/
theorem carriage_notMem_cut (v : Json) (level : Nat) : '\r' ∉ cut level v := by
  intro member
  obtain ⟨piece, inside, part⟩ := Written.exists_of_mem_ofPieces member
  exact hasNoCarriage_pieces v level piece inside part

end IssueTracker.Json
