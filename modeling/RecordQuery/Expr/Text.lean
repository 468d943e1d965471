import RecordQuery.Expr.Basic
import RecordQuery.Value.Text

/-!
# Expressions as text

Binary operations stand in parentheses, the element of the query is left out at the start of a path,
and conversions are not shown.

## Main definitions

* `Expr.text`: the text of an expression.
-/

namespace RecordQuery.Expr

/-- Whether an expression is the range variable of the element. -/
def isElementVariable : Expr → Bool
  | range _ name => name == elementName
  | _ => false

mutual

/-- The text of an expression. -/
def text : Expr → String
  | constant _ v => v.literal
  | range _ name => name
  | property _ source p => if source.isElementVariable then p.name else text source ++ "/" ++ p.name
  | cast _ source target =>
    if source.isElementVariable then target else text source ++ "/" ++ target
  | binary _ op left right => "(" ++ text left ++ " " ++ op.text ++ " " ++ text right ++ ")"
  | unary _ .not operand => "not " ++ text operand
  | unary _ .negate operand => "-" ++ text operand
  | call _ f args => f.text ++ "(" ++ argsText args ++ ")"
  | convert _ operand => text operand
  | any _ source (some v) (some body) => text source ++ "/any(" ++ v ++ ": " ++ text body ++ ")"
  | any _ source _ _ => text source ++ "/any()"
  | all _ source v body => text source ++ "/all(" ++ v ++ ": " ++ text body ++ ")"

/-- The texts of arguments with commas between them. -/
def argsText : List Expr → String
  | [] => ""
  | [arg] => text arg
  | arg :: rest => text arg ++ ", " ++ argsText rest

end

end RecordQuery.Expr
