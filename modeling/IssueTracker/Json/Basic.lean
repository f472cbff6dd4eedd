import IssueTracker.Number.Shortest
import IssueTracker.Text.AnyText

/-!
# JSON values

Numbers without a fraction or exponent are whole numbers of any size; all others are floating-point
numbers, among them the infinities and the number that is none.
-/

namespace IssueTracker

/-- A JSON value.  An object lists its members in order. -/
inductive Json
  | null
  | bool (value : Bool)
  | integer (value : Int)
  | float (value : Binary64)
  | string (value : AnyText)
  | array (elements : List Json)
  | object (members : List (AnyText × Json))

namespace Json

/-! ## Making and taking apart -/

/-- A text, or null when it is missing. -/
def text? (s : Option String) : Json := (s.map fun (text : String) => string text).getD null

/-- A whole number, or null when it is missing. -/
def integer? (n : Option Int) : Json := (n.map integer).getD null

/-- A list of texts. -/
def strings (xs : List String) : Json := array (xs.map fun (x : String) => string x)

/-- Named texts. -/
def texts (pairs : List (AnyText × AnyText)) : Json :=
  object (pairs.map fun (name, value) => (name, string value))

/-- The text that a value is, if it is one of characters. -/
def asString? : Json → Option String
  | string value => value.plain?
  | _ => none

/-- The whole number that a value is, if it is one. -/
def asInteger? : Json → Option Int
  | integer value => some value
  | _ => none

/-- The natural number that a value is, if it is one. -/
def asNat? : Json → Option Nat
  | integer (.ofNat value) => some value
  | _ => none

/-- The text that a value is, or the absence of one that null stands for. -/
def asOptionalString? : Json → Option (Option String)
  | null => some none
  | value => value.asString?.map some

/-- What the elements of an array are read as, if the value is an array and all can be read. -/
def asList? {α : Type} (read : Json → Option α) : Json → Option (List α)
  | array elements => elements.mapM read
  | _ => none

/-- Reading back each member of a list reads back the list. -/
theorem asList?_map {α : Type} {write : α → Json} {read : Json → Option α}
    (back : ∀ x, read (write x) = some x) (xs : List α) :
    asList? read (.array (xs.map write)) = some xs := by
  induction xs with
  | nil => rfl
  | cons x xs ih =>
    simp only [asList?] at ih
    simp [asList?, back, ih]

/-! ## Members -/

/-- The value of the first member with a name. -/
def member? (name : String) (members : List (AnyText × Json)) : Option Json :=
  (members.find? (·.1 == .plain name)).map Prod.snd

variable {ν α : Type} [DecidableEq ν]

/-- The members with one set: in its place when there is one of the name, else at the end. -/
def setMember (name : ν) (value : α) : List (ν × α) → List (ν × α)
  | [] => [(name, value)]
  | (other, old) :: members =>
    if other = name then (name, value) :: members
    else (other, old) :: setMember name value members

/-- The members in the order of their first mention, each with the value it has last. -/
def lastValues (members : List (ν × α)) : List (ν × α) :=
  members.foldl (fun acc member => setMember member.1 member.2 acc) []

/-! ## Values as texts -/

/-- A value that counts as true: neither null, false, zero nor empty. -/
def isTruthy : Json → Bool
  | null => false
  | bool value => value
  | integer value => value != 0
  | float value => !value.isZero
  | string value => value != .plain ""
  | array elements => !elements.isEmpty
  | object members => !members.isEmpty

/-- The names of the numbers that are not finite. -/
structure SpecialNames where
  infinity : String
  nan : String

/-- A floating-point number in text. -/
def floatText (names : SpecialNames) : Binary64 → String
  | .finite negative mantissa exponent => Binary64.finiteText negative mantissa exponent
  | .infinity negative => (if negative then "-" else "") ++ names.infinity
  | .nan => names.nan

mutual

/-- A value as a literal: texts are quoted. -/
def literal : Json → String
  | null => "None"
  | bool value => if value then "True" else "False"
  | integer value => toString value
  | float value => floatText ⟨"inf", "nan"⟩ value
  | string value => value.literal
  | array elements => "[" ++ ", ".intercalate (literals elements) ++ "]"
  | object members => "\x7b" ++ ", ".intercalate (memberLiterals members) ++ "\x7d"

/-- The elements of an array as literals. -/
def literals : List Json → List String
  | [] => []
  | element :: elements => element.literal :: literals elements

/-- The members of an object as literals. -/
def memberLiterals : List (AnyText × Json) → List String
  | [] => []
  | (name, value) :: members =>
    (name.literal ++ ": " ++ value.literal) :: memberLiterals members

end

/-- A value as a text: a string is itself, anything else its literal. -/
def asText : Json → AnyText
  | string value => value
  | value => value.literal

end Json

end IssueTracker
