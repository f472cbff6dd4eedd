/-!
# Arguments

The arguments of a command are options, with or without a value, and positional arguments.  An
option is written in full after two hyphens, with its value as the next argument or behind an
equals sign; or by its letter after one hyphen, where letters of options without a value may be
joined and a value may follow its letter at once.  `--` ends the options.
-/

namespace IssueTracker

/-- An option that a command takes. -/
structure CommandOption where
  /-- How it is written in full. -/
  long : String
  short : Option Char := none
  takesValue : Bool := true
deriving Repr, DecidableEq

/-- An option as it was given. -/
structure GivenOption where
  /-- How it is written in full. -/
  long : String
  value : Option String := none
deriving Repr, DecidableEq

/-- Arguments sorted into options and positional ones. -/
structure Arguments where
  options : List GivenOption := []
  positional : List String := []
deriving Repr, DecidableEq

/-- What an argument with hyphens gives: options that are complete, and perhaps one that takes its
    value from the next argument. -/
structure OptionWord where
  complete : List GivenOption := []
  open? : Option String := none
deriving Repr, DecidableEq

namespace OptionWord

/-- What letters after one hyphen give. -/
def ofLetters? (known : List CommandOption) : List Char → Option OptionWord
  | [] => some {}
  | letter :: rest =>
    match known.find? (·.short == some letter) with
    | none => none
    | some o =>
      if !o.takesValue then
        (ofLetters? known rest).map fun word =>
          { word with complete := ⟨o.long, none⟩ :: word.complete }
      else if rest.isEmpty then some { open? := some o.long }
      else some { complete := [⟨o.long, some (String.ofList rest)⟩] }

/-- What an argument that starts with a hyphen gives. -/
def ofChars? (known : List CommandOption) (word : List Char) : Option OptionWord :=
  let name := String.ofList (word.takeWhile (· != '='))
  let attached : Option String :=
    if word.contains '=' then some (String.ofList ((word.dropWhile (· != '=')).drop 1)) else none
  match known.find? (·.long == name) with
  | some o =>
    match o.takesValue, attached with
    | true, none => some { open? := some o.long }
    | true, some value => some { complete := [⟨o.long, some value⟩] }
    | false, none => some { complete := [⟨o.long, none⟩] }
    | false, some _ => none
  | none =>
    match word with
    | '-' :: '-' :: _ => none
    | _ :: letters => ofLetters? known letters
    | [] => none

end OptionWord

namespace Arguments

/-- Arguments with options in front of them. -/
def withOptions (given : List GivenOption) (a : Arguments) : Arguments :=
  { a with options := given ++ a.options }

/-- Arguments with a positional one in front of them. -/
def withPositional (argument : String) (a : Arguments) : Arguments :=
  { a with positional := argument :: a.positional }

/-- Whether an argument gives options. -/
def givesOptions (argument : String) : Bool :=
  match argument.toList with
  | '-' :: _ :: _ => true
  | _ => false

/-- Sorts arguments.  Options stand anywhere if they are `mixed` with positional arguments, or else
    before the first of those.  There is no answer to an option that is not known, or that lacks its
    value or has one it does not take. -/
def read? (known : List CommandOption) (mixed : Bool) : List String → Option Arguments
  | [] => some {}
  | argument :: rest =>
    if argument = "--" then some { positional := rest }
    else if givesOptions argument then
      match OptionWord.ofChars? known argument.toList with
      | none => none
      | some ⟨complete, none⟩ => (read? known mixed rest).map (withOptions complete)
      | some ⟨complete, some long⟩ =>
        match rest with
        | [] => none
        | value :: others =>
          (read? known mixed others).map (withOptions (complete ++ [⟨long, some value⟩]))
    else if mixed then (read? known mixed rest).map (withPositional argument)
    else some { positional := argument :: rest }

/-- Whether an option was given. -/
def has (a : Arguments) (long : String) : Bool := a.options.any (·.long == long)

/-- The value that an option was given last. -/
def value? (a : Arguments) (long : String) : Option String :=
  (a.options.reverse.find? (·.long == long)).bind GivenOption.value

end Arguments

end IssueTracker
