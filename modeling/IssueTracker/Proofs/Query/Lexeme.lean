import IssueTracker.Query.Token
import IssueTracker.Proofs.Text.Trim

/-!
# What lexemes hold

The fields of lexemes are those of the query language, their values have no quotes, and free text
is trimmed (`Lexeme.proper_ofToken`).
-/

namespace IssueTracker

theorem quote_notMem_unquote (cs : List Char) : '"' ∉ unquote cs := by simp [unquote]

theorem unquote_eq_self {cs : List Char} (plain : '"' ∉ cs) : unquote cs = cs := by
  rw [unquote, List.filter_eq_self]
  intro c member
  have other : c ≠ '"' := fun same => plain (same ▸ member)
  simp [other]

theorem unquote_append (cs ds : List Char) : unquote (cs ++ ds) = unquote cs ++ unquote ds :=
  List.filter_append cs ds

theorem unquote_unquote (cs : List Char) : unquote (unquote cs) = unquote cs :=
  unquote_eq_self (quote_notMem_unquote cs)

theorem unquote_eq_nil {cs : List Char} (none : unquote cs = []) : ∀ c ∈ cs, c = '"' := by
  simpa [unquote] using none

namespace Lexeme

/-- What holds of every lexeme that a token stands for. -/
def Proper : Lexeme → Prop
  | not => True
  | connective _ => True
  | filter field value => field ∈ FilterField.all ∧ '"' ∉ value
  | date field value => field ∈ DateField.all ∧ '"' ∉ value
  | sort value => '"' ∉ value
  | limit value => '"' ∉ value
  | unknown _ => True
  | text value => '"' ∉ value ∧ Text.IsTrimmed value

theorem proper_fieldLexeme (name value : List Char) : (fieldLexeme name value).Proper := by
  simp only [fieldLexeme]
  generalize (if String.ofList (name.map Char.toLower) = "label" then "labels"
    else String.ofList (name.map Char.toLower)) = key
  split
  · exact quote_notMem_unquote value
  · split
    · exact quote_notMem_unquote value
    · split
      · rename_i field found
        exact ⟨List.mem_of_find?_eq_some found, quote_notMem_unquote value⟩
      · split
        · rename_i field found
          exact ⟨List.mem_of_find?_eq_some found, quote_notMem_unquote value⟩
        · trivial

theorem proper_ofToken (token : Token) : (ofToken token).Proper := by
  have free : (text (Text.trim (unquote token))).Proper :=
    ⟨fun member => quote_notMem_unquote token (Text.mem_of_mem_trim member),
      Text.isTrimmed_trim _⟩
  simp only [ofToken]
  split
  · trivial
  · split
    · trivial
    · split
      · trivial
      · split
        · exact free
        · split
          · exact proper_fieldLexeme _ _
          · exact free

end Lexeme

end IssueTracker
