import IssueTracker.Literal.Refusal

/-!
# The grammar of expressions

Literals are expressions, and a text that is an expression but no literal is refused otherwise than
one that is none.  So the whole grammar of expressions is here, along with the forms that are
refused with a message of their own.
-/

namespace IssueTracker.Literal

/-- The rules of the grammar. -/
inductive Rule
  | start | field | expressions | expression | plainExpression
  | yielded | targetExpressions | targetExpression | listed | listedOne
  | assignment | named | disjunction | conjunction | inversion | comparison
  | bitOr | bitXor | bitAnd | shift | sum | term | factor | power | awaited | primary | atom
  | group | tuple | generator | dictionary | entries | entry | keyAndValue | set
  | setComprehension | dictionaryComprehension | clauses | clause
  | arguments | positional | positionalOne | keywords | starred | keywordOrStarred
  | keywordOrUnpacked | targets | target | targetAtom | targetPrimary | targetName
  | function | parameters | parameter | plain | withDefault | maybeDefault | starParameters
  | keywordParameters | slashPlain | slashDefault | default
  | refusedExpression | refusedStatement | refusedAssignment | refusedGroup
  | refusedComprehension | refusedDictionaryComprehension | refusedEntries | refusedEntry
  | refusedTarget | refusedArguments | refusedKeyword | refusedParameters | refusedStar
  | refusedKeywordParameters | refusedDefault | defaultThenPlain
deriving Repr, DecidableEq

namespace Rule

/-- The rules whose results are remembered. -/
def isRemembered : Rule → Bool
  | expression | targetExpression | disjunction | conjunction | inversion | bitOr | bitXor | bitAnd
  | shift | sum | term | factor | awaited | primary | arguments | target | targetAtom
  | targetPrimary | refusedAssignment => true
  | _ => false

open Form Refusal in
/-- The form of a rule. -/
def form : Rule → Form Rule
  | start => all [rule expressions, many lineEnd, finish]
  | field => rule targetExpressions
  | expressions => any [
      node .tuple (all [rule expression, several (both (mark ",") (rule expression)),
        optional (mark ",")]),
      node .tuple (both (rule expression) (mark ",")),
      rule expression]
  | expression => any [
      diagnosis (rule refusedExpression),
      diagnosis (rule refusedStatement),
      node .conditional (all [rule disjunction, word "if", rule disjunction, word "else",
        rule expression]),
      rule disjunction,
      rule function]
  | plainExpression => plainly (any [
      node .conditional (all [rule disjunction, word "if", rule disjunction, word "else",
        rule expression]),
      rule disjunction,
      rule function])
  | yielded => node .yielded (any [
      all [word "yield", word "from", rule expression],
      both (word "yield") (optional (rule targetExpressions))])
  | targetExpressions => any [
      node .tuple (all [rule targetExpression, several (both (mark ",") (rule targetExpression)),
        optional (mark ",")]),
      node .tuple (both (rule targetExpression) (mark ",")),
      rule targetExpression]
  | targetExpression => any [node .starred (both (mark "*") (rule bitOr)), rule expression]
  | listed => both (separated "," (rule listedOne)) (optional (mark ","))
  | listedOne => any [node .starred (both (mark "*") (rule bitOr)), rule named]
  | assignment => node .assignment (all [name, mark ":=", surely (rule expression)])
  | named => any [
      rule assignment,
      diagnosis (rule refusedAssignment),
      both (rule expression) (notAhead (mark ":="))]

  -- Operations, from those that bind least to those that bind most.
  | disjunction => joined .operation
      (both (rule conjunction) (many (both (word "or") (rule conjunction))))
  | conjunction => joined .operation
      (both (rule inversion) (many (both (word "and") (rule inversion))))
  | inversion => any [node .operation (both (word "not") (rule inversion)), rule comparison]
  | comparison => joined .comparison (both (rule bitOr) (many (both
      (any [mark "==", mark "!=", mark "<=", mark "<", mark ">=", mark ">",
        all [word "not", word "in"], constant "in", all [word "is", word "not"], word "is"])
      (rule bitOr))))
  | bitOr => joined .operation (both (rule bitXor) (many (both (mark "|") (rule bitXor))))
  | bitXor => joined .operation (both (rule bitAnd) (many (both (mark "^") (rule bitAnd))))
  | bitAnd => joined .operation (both (rule shift) (many (both (mark "&") (rule shift))))
  | shift => joined .operation
      (both (rule sum) (many (both (any [mark "<<", mark ">>"]) (rule sum))))
  | sum => joined .sum (both (rule term) (many (both (any [sign "+", sign "-"]) (rule term))))
  | term => joined .operation (both (rule factor) (many (both
      (any [mark "*", mark "/", mark "//", mark "%", mark "@"]) (rule factor))))
  | factor => any [
      node .signed (both (any [sign "+", sign "-"]) (rule factor)),
      node .operation (both (mark "~") (rule factor)),
      rule power]
  | power => joined .operation
      (both (rule awaited) (optional (both (mark "**") (rule factor))))
  | awaited => any [node .awaited (both (word "await") (rule primary)), rule primary]
  | primary => joined .primary (both (rule atom) (many (any [
      node .attribute (both (mark ".") name),
      node .call (rule generator),
      node .call (all [mark "(", optional (rule arguments), mark ")"])])))
  | atom => any [
      name, constant "True", constant "False", constant "None",
      both (ahead string) strings,
      number,
      both (ahead (mark "(")) (any [rule tuple, rule group, rule generator]),
      both (ahead (mark "\x7b")) (any [rule dictionary, rule set, rule dictionaryComprehension,
        rule setComprehension]),
      sign "..."]

  -- Brackets.
  | group => any [
      all [mark "(", any [rule yielded, rule named], mark ")"],
      diagnosis (rule refusedGroup)]
  | tuple => node .tuple (all [mark "(",
      optional (all [rule listedOne, mark ",", optional (rule listed)]), mark ")"])
  | generator => any [
      node .generator (all [mark "(",
        any [rule assignment, both (rule expression) (notAhead (mark ":="))],
        rule clauses, mark ")"]),
      diagnosis (rule refusedComprehension)]
  | dictionary => any [
      node .dictionary (all [mark "\x7b", optional (rule entries), mark "\x7d"]),
      all [mark "\x7b", rule refusedEntries, mark "\x7d"]]
  | entries => both (separated "," (rule entry)) (optional (mark ","))
  | entry => any [node .unpacked (both (mark "**") (rule bitOr)), rule keyAndValue]
  | keyAndValue => node .entry (all [rule expression, mark ":", rule expression])
  | set => node .set (all [mark "\x7b", rule listed, mark "\x7d"])
  | setComprehension => any [
      node .setComprehension (all [mark "\x7b", rule named, rule clauses, mark "\x7d"]),
      diagnosis (rule refusedComprehension)]
  | dictionaryComprehension => any [
      node .dictionaryComprehension
        (all [mark "\x7b", rule keyAndValue, rule clauses, mark "\x7d"]),
      diagnosis (rule refusedDictionaryComprehension)]
  | clauses => several (rule clause)
  | clause => any [
      all [word "async", word "for", rule targets, word "in",
        surely (both (rule disjunction) (many (both (word "if") (rule disjunction))))],
      all [word "for", rule targets, word "in",
        surely (both (rule disjunction) (many (both (word "if") (rule disjunction))))],
      diagnosis (rule refusedTarget)]

  -- Arguments of calls.
  | arguments => any [
      all [rule positional, optional (mark ","), ahead (mark ")")],
      diagnosis (rule refusedArguments)]
  | positional => any [
      both
        (separated "," (rule positionalOne))
        (optional (both (mark ",") (rule keywords))),
      rule keywords]
  | positionalOne => any [
      rule starred,
      both (any [rule assignment, both (rule expression) (notAhead (mark ":="))])
        (notAhead (mark "="))]
  | keywords => any [
      all [separated "," (rule keywordOrStarred), mark ",",
        separated "," (rule keywordOrUnpacked)],
      separated "," (rule keywordOrStarred),
      separated "," (rule keywordOrUnpacked)]
  | starred => any [
      node .starred (both (mark "*") (rule expression)),
      refused (saying "Invalid star expression") (mark "*")]
  | keywordOrStarred => any [
      diagnosis (rule refusedKeyword),
      node .keyword (all [name, mark "=", rule expression]),
      rule starred]
  | keywordOrUnpacked => any [
      diagnosis (rule refusedKeyword),
      node .keyword (all [name, mark "=", rule expression]),
      node .keywords (both (mark "**") (rule expression))]

  -- Targets of assignments.
  | targets => any [
      both (rule target) (notAhead (mark ",")),
      node .tuple (both (separated "," (rule target)) (optional (mark ",")))]
  | target => any [
      node .starred (all [mark "*", notAhead (mark "*"), rule target]),
      rule targetAtom]
  | targetAtom => any [
      all [rule targetPrimary, mark ".", name,
        notAhead (any [mark "(", mark "."])],
      rule targetName]
  | targetPrimary => both (both (rule atom) (ahead (any [mark "(", mark "."])))
      (many (both
        (any [both (mark ".") name, rule generator,
          all [mark "(", optional (rule arguments), mark ")"]])
        (ahead (any [mark "(", mark "."]))))
  | targetName => any [
      name,
      all [mark "(", rule targetAtom, mark ")"],
      node .tuple (all [mark "(",
        optional (any [
          both (rule target) (both (several (both (mark ",") (rule target))) (optional (mark ","))),
          both (rule target) (mark ",")]),
        mark ")"])]

  -- Functions without a name.
  | function => node .function
      (all [word "lambda", optional (rule parameters), mark ":", rule expression])
  | parameters => any [
      diagnosis (rule refusedParameters),
      all [rule slashPlain, many (rule plain), many (rule withDefault),
        optional (rule starParameters)],
      all [rule slashDefault, many (rule withDefault), optional (rule starParameters)],
      all [several (rule plain), many (rule withDefault), optional (rule starParameters)],
      both (several (rule withDefault)) (optional (rule starParameters)),
      rule starParameters]
  | slashPlain => any [
      all [several (rule plain), mark "/", mark ","],
      all [several (rule plain), mark "/", ahead (mark ":")]]
  | slashDefault => any [
      all [many (rule plain), several (rule withDefault), mark "/", mark ","],
      all [many (rule plain), several (rule withDefault), mark "/", ahead (mark ":")]]
  | starParameters => any [
      diagnosis (rule refusedStar),
      all [mark "*", rule plain, many (rule maybeDefault), optional (rule keywordParameters)],
      all [mark "*", mark ",", several (rule maybeDefault), optional (rule keywordParameters)],
      rule keywordParameters]
  | keywordParameters => any [
      diagnosis (rule refusedKeywordParameters),
      both (mark "**") (rule plain)]
  | parameter => name
  | plain => any [both (rule parameter) (mark ","), both (rule parameter) (ahead (mark ":"))]
  | withDefault => any [
      all [rule parameter, rule default, mark ","],
      all [rule parameter, rule default, ahead (mark ":")]]
  | maybeDefault => any [
      all [rule parameter, optional (rule default), mark ","],
      all [rule parameter, optional (rule default), ahead (mark ":")]]
  | default => any [both (mark "=") (rule expression), diagnosis (rule refusedDefault)]

  -- Forms that are refused.
  | refusedExpression => any [
      refused missingComma (all [notAhead (any [both name string, softWord]), rule disjunction,
        rule plainExpression]),
      refused (saying "expected 'else' after 'if' expression")
        (all [rule disjunction, word "if", rule disjunction,
          notAhead (any [word "else", mark ":"])])]
  | refusedStatement =>
      refused missingBrackets (all [name, notAhead (mark "("), rule targetExpressions])
  | refusedAssignment => any [
      refused (about "cannot use assignment expressions with " "")
        (all [rule expression, mark ":=", rule expression]),
      refused meantComparison
        (all [name, mark "=", rule bitOr, notAhead (any [mark "=", mark ":="])]),
      refused (about "cannot assign to " " here. Maybe you meant '==' instead of '='?")
        (all [notAhead (any [rule tuple, rule generator, constant "True", constant "None",
          constant "False"]), rule bitOr, mark "=", rule bitOr,
          notAhead (any [mark "=", mark ":="])])]
  | refusedGroup => any [
      refused (saying "cannot use starred expression here")
        (all [mark "(", rule starred, mark ")"]),
      refused (saying "cannot use double starred expression here")
        (all [mark "(", mark "**", rule expression, mark ")"])]
  | refusedComprehension => any [
      refused (saying "iterable unpacking cannot be used in comprehension")
        (all [any [mark "(", mark "\x7b"], rule starred, rule clauses]),
      refused (saying "did you forget parentheses around the comprehension target?")
        (all [mark "\x7b", rule listedOne, mark ",", rule listed, rule clauses]),
      refused (saying "did you forget parentheses around the comprehension target?")
        (all [mark "\x7b", rule listedOne, mark ",", rule clauses])]
  | refusedDictionaryComprehension =>
      refused (saying "dict unpacking cannot be used in dict comprehension")
        (all [mark "\x7b", mark "**", rule bitOr, rule clauses, mark "\x7d"])
  | refusedEntries => any [
      all [separated "," (rule entry), mark ",", rule refusedEntry],
      refused (saying "cannot use a starred expression in a dictionary value")
        (all [rule expression, mark ":", mark "*", rule bitOr]),
      refused (saying "expression expected after dictionary key and ':'")
        (all [rule expression, mark ":", ahead (any [mark "\x7d", mark ","])])]
  | refusedEntry => any [
      refused (saying "':' expected after dictionary key")
        (both (rule expression) (notAhead (mark ":"))),
      refused (saying "cannot use a starred expression in a dictionary value")
        (all [rule expression, mark ":", mark "*", rule bitOr]),
      refused (saying "expression expected after dictionary key and ':'")
        (all [rule expression, mark ":", ahead (any [mark "\x7d", mark ","])])]
  | refusedTarget =>
      refused wrongTarget (all [optional (word "async"), word "for", rule targetExpressions])
  | refusedArguments => any [
      refused (saying "iterable argument unpacking follows keyword argument unpacking")
        (all [
          any [
            all [separated "," (rule positionalOne), mark ",", rule keywords],
            rule keywords],
          mark ",", separated "," (both (rule starred) (notAhead (mark "=")))]),
      refused (saying bareGenerator)
        (all [rule expression, rule clauses, mark ",",
          optional (any [rule positional, both (rule expression) (rule clauses)])]),
      refused meantComparison (all [name, mark "=", rule expression, rule clauses]),
      refused generatorAfter (both (node .call (rule positional)) (rule clauses)),
      refused (saying bareGenerator)
        (all [rule positional, mark ",", rule expression, rule clauses]),
      refused positionalAfter
        (all [node .call (rule positional), mark ",", rule positional])]
  | refusedKeyword => any [
      refused (about "cannot assign to " "")
        (both (any [constant "True", constant "False", constant "None"]) (mark "=")),
      refused meantComparison (all [name, mark "=", rule expression, rule clauses]),
      refused (saying "expression cannot contain assignment, perhaps you meant \"==\"?")
        (all [notAhead (both name (mark "=")), rule expression, mark "="])]
  | defaultThenPlain => any [
      both (rule slashDefault) (rule plain),
      both (several (rule withDefault)) (rule plain)]
  | refusedParameters => any [
      refused (saying "non-default argument follows default argument")
        (both (many (rule plain)) (rule defaultThenPlain)),
      refused (saying "Lambda expression parameters cannot be parenthesized")
        (all [many (rule plain), mark "(", separated "," (rule parameter),
          optional (mark ","), mark ")"]),
      refused (saying "at least one argument must precede /") (both (mark "/") (mark ",")),
      refused (saying "/ may appear only once")
        (all [any [rule slashPlain, rule slashDefault], many (rule maybeDefault), mark "/"]),
      refused (saying "/ must be ahead of *")
        (all [optional (any [rule slashPlain, rule slashDefault]), many (rule maybeDefault),
          mark "*", any [mark ",", rule plain], many (rule maybeDefault), mark "/"]),
      refused (saying "expected comma between / and *")
        (all [several (rule maybeDefault), mark "/", mark "*"])]
  | refusedStar => any [
      refused (saying "named arguments must follow bare *")
        (both (mark "*") (any [mark ":", both (mark ",") (any [mark ":", mark "**"])])),
      refused (saying "var-positional argument cannot have default value")
        (all [mark "*", rule parameter, mark "="]),
      refused (saying "* argument may appear only once")
        (all [mark "*", any [rule plain, mark ","], many (rule maybeDefault), mark "*",
          any [rule plain, mark ","]])]
  | refusedKeywordParameters => any [
      refused (saying "var-keyword argument cannot have default value")
        (all [mark "**", rule parameter, mark "="]),
      refused (saying "arguments cannot follow var-keyword argument")
        (all [mark "**", rule parameter, mark ",", rule parameter]),
      refused (saying "arguments cannot follow var-keyword argument")
        (all [mark "**", rule parameter, mark ",", any [mark "*", mark "**", mark "/"]])]
  | refusedDefault =>
      refused (saying "expected default value expression")
        (both (mark "=") (ahead (any [mark ")", mark ","])))

end Rule

/-- The grammar of expressions. -/
def grammar : Grammar Rule := { form := Rule.form, isRemembered := Rule.isRemembered }

/-- The message for the expression of a field in which something is wrong: a fault in a token has
    the same as anywhere, and one in a field within it the same as there. -/
def fieldMessage : FormFault → String
  | .token fault => fault.message
  | .strings (.field (.expression message)) => message
  | fault => "f-string: " ++ fault.message

/-- The expression that a text writes by a rule, in which strings with fields may be nested so
    deep. -/
def expressionBy : Nat → Rule → List Char → Except FormFault Tree
  | 0, rule, cs => grammar.read (fun _ => none) (tokensOf cs) rule
  | depth + 1, rule, cs =>
    let fault? (cs : List Char) : Option String :=
      match expressionBy depth .field cs with
      | .ok _ => none
      | .error fault => some (fieldMessage fault)
    grammar.read fault? (tokensOf cs) rule

/-- The expression that a text writes. -/
def expressionOf (cs : List Char) : Except FormFault Tree := expressionBy cs.length .start cs

end IssueTracker.Literal
