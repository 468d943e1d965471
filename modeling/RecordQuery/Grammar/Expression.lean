import RecordQuery.Grammar.Token

/-!
# The grammar of expressions

Operators bind, from the loosest to the tightest: `or`, `and`, comparisons, `add` and `sub`, `mul`
and `div` and `mod`, then `not` and the minus sign. Operators of one level group to the left. A
minus sign before a digit belongs to a number.

An expression inside parentheses, in an argument or in the body of a quantifier takes at least one
character more than itself, so the length of the text bounds the nesting.

## Main definitions

* `Grammar.expression`: expressions, with fuel for the nesting.
* `Grammar.filterText`, `Grammar.orderByText`: whole texts.
* `Grammar.recognize`: the value of a whole text, or where it goes wrong.
-/

namespace RecordQuery.Grammar

open Recognizer

/-! ## Operators -/

/-- One of some binary operators, with its position. -/
def binaryOperator (ops : List BinaryOperator) : Recognizer (Nat × BinaryOperator) :=
  firstOf (ops.map fun op => do
    let position ← word op.text
    return (position, op))

/-- A minus sign that is not the sign of a number. -/
def minus : Recognizer Nat := token do
  let start ← position
  exactly ['-']
  notBefore Char.isDigit
  return start

/-- A unary operator with its position. -/
def unaryOperator : Recognizer (Nat × UnaryOperator) :=
  firstOf
    [do return (← word "not", .not),
     do return (← minus, .negate)]

/-- Operands with binary operators of one level between them. -/
def level (ops : List BinaryOperator) (operand : Recognizer Term) : Recognizer Term := do
  let first ← operand
  let more ← many do
    let (position, op) ← binaryOperator ops
    let right ← operand
    return (position, op, right)
  return more.foldl (fun left (position, op, right) => .binary position op left right) first

/-- An operand after any number of unary operators. -/
def unary (operand : Recognizer Term) : Recognizer Term := do
  let ops ← many unaryOperator
  let innermost ← operand
  return ops.foldr (fun (position, op) operand => .unary position op operand) innermost

/-! ## Operands -/

/-- An expression in parentheses. -/
def group (nested : Recognizer Term) : Recognizer Term := rule do
  let start ← position
  mark "("
  let inner ← nested
  mark ")"
  return .group start inner

/-- Something, and more of it after commas. -/
def separated {α : Type} (p : Recognizer α) : Recognizer (List α) := do
  let first ← p
  let more ← many do
    mark ","
    p
  return first :: more

/-- A call of a function. -/
def call (nested : Recognizer Term) : Recognizer Term := rule do
  let (start, function) ← identifier
  mark "("
  let args ← attempt (separated nested)
  mark ")"
  return .call start function (args.getD [])

/-- The start of a quantifier, which is no segment of a path. -/
def lambdaStart : Recognizer Unit := do
  blanks
  Recognizer.orElse (exactly "any".toList) (exactly "all".toList)
  mark "("

/-- One segment of a path. -/
def segment : Recognizer Segment := do
  absent lambdaStart
  Recognizer.orElse
    (do let (position, type) ← qualifiedName; return .cast position type)
    (do let (position, name) ← identifier; return .member position name)

/-- The word of a quantifier. -/
def quantifier : Recognizer Quantifier :=
  Recognizer.orElse
    (do token (exactly "any".toList); return .any)
    (do token (exactly "all".toList); return .all)

/-- A quantifier with its position, and the range variable and the body if it has them. -/
def lambda (nested : Recognizer Term) :
    Recognizer (Nat × Quantifier × Option (Nat × List Char × Term)) := rule do
  let start ← position
  let q ← quantifier
  mark "("
  let bound ← attempt do
    let (boundAt, name) ← identifier
    mark ":"
    let body ← nested
    return (boundAt, name, body)
  mark ")"
  return (start, q, bound)

/-- A path, which a quantifier may end. -/
def path (nested : Recognizer Term) : Recognizer Term := rule do
  let first ← segment
  let rest ← many do
    mark "/"
    segment
  let ending ← attempt do
    mark "/"
    lambda nested
  match ending with
  | none => return .path first rest
  | some (position, q, none) => return .quantified first rest q position
  | some (position, q, some (boundAt, bound, body)) =>
    return .lambda first rest q position boundAt bound body

/-- An operand of the tightest operators. -/
def primary (nested : Recognizer Term) : Recognizer Term :=
  firstOf [group nested, literal, call nested, path nested]

/-! ## Expressions -/

/-- An expression whose nested expressions are read by `nested`. -/
def expressionOver (nested : Recognizer Term) : Recognizer Term :=
  level [.or] <| level [.and] <| level [.eq, .ne, .ge, .gt, .le, .lt] <| level [.add, .sub] <|
    level [.mul, .div, .mod] <| unary <| primary nested

/-- An expression with a bound on its nesting. -/
def expression : Nat → Recognizer Term
  | 0 => fail
  | fuel + 1 => expressionOver (expression fuel)

/-- A term to order by: an expression and perhaps a direction. -/
def orderTerm (nested : Recognizer Term) : Recognizer OrderTerm := rule do
  let term ← nested
  let direction ← attempt <|
    Recognizer.orElse
      (do let _ ← word "asc"; return OrderDirection.ascending)
      (do let _ ← word "desc"; return OrderDirection.descending)
  return ⟨term, direction.getD .ascending⟩

/-- A whole filter text. -/
def filterText (fuel : Nat) : Recognizer Term := do
  let term ← expression fuel
  endOfText
  return term

/-- A whole text to order by. -/
def orderByText (fuel : Nat) : Recognizer (List OrderTerm) := do
  let terms ← separated (orderTerm (expression fuel))
  endOfText
  return terms

/-- What a recognizer finds in a whole text, with fuel for the length of the text, or the furthest
position at which it failed. -/
def recognize {α : Type} (p : Nat → Recognizer α) (text : List Char) : Except Nat α :=
  let reply := p (text.length + 1) (Cursor.start text)
  match reply.outcome with
  | some (a, _) => .ok a
  | none => .error reply.furthest

end RecordQuery.Grammar
