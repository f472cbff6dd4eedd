import Mathlib.Data.List.DropRight
import IssueTracker.Proofs.Text.Trim
import IssueTracker.Text.AnyText

/-!
# Texts of characters, and what is written of others

Texts that are written one after another are written as a whole if all consist of characters
(`Written.ofPieces_append`), and otherwise up to the first that does not
(`Written.ofPieces_append_of_broken`).
-/

namespace IssueTracker

namespace AnyText

/-- A text that consists of characters. -/
def IsPlain (t : AnyText) : Prop := ∃ text : String, t = text

theorem isPlain_plain (text : String) : IsPlain text := ⟨text, rfl⟩

theorem isPlain_ofChars (cs : List Char) : (ofChars cs).IsPlain := ⟨_, rfl⟩

theorem not_isPlain_broken (before : List Char) (half : Half) (after : List CodePoint) :
    ¬ (broken before half after).IsPlain := by
  rintro ⟨text, same⟩
  cases same

/-! ## Texts from their parts -/

theorem ofPointsBehind_map_char (before cs : List Char) :
    ofPointsBehind before (cs.map .char) = ofChars (before.reverse ++ cs) := by
  induction cs generalizing before with
  | nil => simp [ofPointsBehind]
  | cons c cs ih => simp [ofPointsBehind, ih]

theorem ofPoints_map_char (cs : List Char) : ofPoints (cs.map .char) = ofChars cs :=
  ofPointsBehind_map_char [] cs

/-- The first half of a text breaks it. -/
theorem ofPoints_half (cs : List Char) (half : Half) (after : List CodePoint) :
    ofPoints (cs.map .char ++ .half half :: after) = broken cs half after := by
  have behind (before : List Char) : ofPointsBehind before (cs.map .char ++ .half half :: after) =
      broken (before.reverse ++ cs) half after := by
    induction cs generalizing before with
    | nil => simp [ofPointsBehind]
    | cons c cs ih => simp [ofPointsBehind, ih]
  exact behind []

theorem points_ofChars (cs : List Char) : (ofChars cs).points = cs.map .char := by
  rw [ofChars, points, String.toList_ofList]

theorem points_behind (cs : List Char) (t : AnyText) :
    (t.behind cs).points = cs.map .char ++ t.points := by
  cases t with
  | plain text => rw [behind, points_ofChars, points, List.map_append]
  | broken before half after => simp [behind, points]

/-- A text has the parts that it is made of. -/
theorem points_ofPoints (parts : List CodePoint) : (ofPoints parts).points = parts := by
  have behind (before : List Char) :
      (ofPointsBehind before parts).points = before.reverse.map .char ++ parts := by
    induction parts generalizing before with
    | nil => simp [ofPointsBehind, points_ofChars]
    | cons part parts ih =>
      cases part with
      | char c => simp [ofPointsBehind, ih]
      | half h => simp [ofPointsBehind, points]
  exact behind []

theorem isPlain_behind {cs : List Char} {t : AnyText} : (t.behind cs).IsPlain ↔ t.IsPlain := by
  cases t with
  | plain text => exact ⟨fun _ => isPlain_plain text, fun _ => isPlain_ofChars _⟩
  | broken before half after =>
    exact ⟨fun plain => absurd plain (not_isPlain_broken _ _ _),
      fun plain => absurd plain (not_isPlain_broken _ _ _)⟩

/-- The string that a text is, or that there is none. -/
theorem asString_cases (t : AnyText) :
    (∃ text : String, t = text ∧ t.asString = .ok text) ∨ ¬ t.IsPlain ∧ t.asString = .error t := by
  cases t with
  | plain text => exact Or.inl ⟨text, rfl, rfl⟩
  | broken before half after => exact Or.inr ⟨not_isPlain_broken _ _ _, rfl⟩

@[simp] theorem strip_strip (t : AnyText) : t.strip.strip = t.strip := by
  cases t with
  | plain text => rw [strip, strip, Text.strip_strip]
  | broken before half after =>
    simp only [strip, Text.trimStart, List.reverse_reverse, List.dropWhile_idempotent]

theorem isPlain_strip {t : AnyText} : t.strip.IsPlain ↔ t.IsPlain := by
  cases t with
  | plain text => exact ⟨fun _ => isPlain_plain text, fun _ => isPlain_plain _⟩
  | broken before half after =>
    exact ⟨fun plain => absurd plain (not_isPlain_broken _ _ _),
      fun plain => absurd plain (not_isPlain_broken _ _ _)⟩

end AnyText

namespace Written
variable {pieces first : List AnyText}

theorem ofPieces_nil : ofPieces [] = { chars := [] } := rfl

theorem ofPieces_plain (text : String) (pieces : List AnyText) : ofPieces (.plain text :: pieces) =
    { chars := text.toList ++ (ofPieces pieces).chars, fault := (ofPieces pieces).fault } := rfl

theorem ofPieces_ofChars (cs : List Char) (pieces : List AnyText) :
    ofPieces (.ofChars cs :: pieces) =
      { chars := cs ++ (ofPieces pieces).chars, fault := (ofPieces pieces).fault } := by
  rw [AnyText.ofChars, ofPieces_plain, String.toList_ofList]

/-- Nothing is written from a piece on that cannot be encoded. -/
theorem ofPieces_broken {piece : AnyText} (broken : ¬ piece.IsPlain) (pieces : List AnyText) :
    ofPieces (piece :: pieces) = { chars := [], fault := piece.fault? } := by
  cases piece with
  | plain text => exact absurd (AnyText.isPlain_plain text) broken
  | broken before half after => rfl

/-- Pieces are written as a whole just when all consist of characters. -/
theorem fault_ofPieces : (ofPieces pieces).fault = none ↔ ∀ piece ∈ pieces, piece.IsPlain := by
  induction pieces with
  | nil => simp [ofPieces]
  | cons piece pieces ih =>
    rw [List.forall_mem_cons]
    cases piece with
    | plain text =>
      rw [ofPieces_plain, ih]
      exact ⟨fun plain => ⟨AnyText.isPlain_plain text, plain⟩, And.right⟩
    | broken before half after =>
      have broken := AnyText.not_isPlain_broken before half after
      rw [ofPieces_broken broken]
      constructor
      · intro none
        cases none
      · intro plain
        exact absurd plain.1 broken

/-- What stands behind pieces of characters is written behind them. -/
theorem ofPieces_append (plain : ∀ piece ∈ first, piece.IsPlain) (later : List AnyText) :
    ofPieces (first ++ later) =
      { chars := (ofPieces first).chars ++ (ofPieces later).chars, fault := (ofPieces later).fault } := by
  induction first with
  | nil => rfl
  | cons piece first ih =>
    obtain ⟨⟨text, rfl⟩, others⟩ := List.forall_mem_cons.mp plain
    rw [List.cons_append, ofPieces_plain, ofPieces_plain, ih others, List.append_assoc]

/-- What stands behind a piece that cannot be encoded is not written. -/
theorem ofPieces_append_of_broken (broken : ¬ ∀ piece ∈ first, piece.IsPlain) (later : List AnyText) :
    ofPieces (first ++ later) = ofPieces first := by
  induction first with
  | nil => exact absurd (fun _ member => absurd member List.not_mem_nil) broken
  | cons piece first ih =>
    rw [List.forall_mem_cons] at broken
    by_cases plain : piece.IsPlain
    · obtain ⟨text, rfl⟩ := plain
      rw [List.cons_append, ofPieces_plain, ofPieces_plain,
        ih fun all => broken ⟨AnyText.isPlain_plain text, all⟩]
    · rw [List.cons_append, ofPieces_broken plain, ofPieces_broken plain]

/-- What is written is a part of some piece. -/
theorem exists_of_mem_ofPieces {c : Char} (member : c ∈ (ofPieces pieces).chars) :
    ∃ piece ∈ pieces, .char c ∈ piece.points := by
  induction pieces with
  | nil => cases member
  | cons piece pieces ih =>
    cases piece with
    | plain text =>
      rw [ofPieces_plain, List.mem_append] at member
      rcases member with member | member
      · exact ⟨_, List.mem_cons_self, List.mem_map_of_mem member⟩
      · obtain ⟨piece, inside, part⟩ := ih member
        exact ⟨piece, List.mem_cons_of_mem _ inside, part⟩
    | broken before half after => cases member

end Written

end IssueTracker
