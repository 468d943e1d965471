import RecordQuery.Expr.Text
import RecordQuery.Proofs.Expr.Part
import RecordQuery.Proofs.Grammar.Operands

/-!
# The term that an expression is displayed as

The text of an expression is the text of a term: conversions and types are gone, binary operations
stand in parentheses, and the element is left out in front of the segments of a path.

## Main definitions

* `Expr.chars`: the characters of the text of an expression.
* `Expr.route`: the segments of the path that an expression is displayed as.
* `Expr.shown`: the term that an expression is displayed as.

## Main statements

* `Expr.shown_withType`: types are not displayed.
-/

namespace RecordQuery

open Grammar (Segment Term)

/-- The constant that a value is displayed as. -/
def Value.shown : Value → Term
  | .bool b => .bool 0 b
  | .string s => .string 0 (doubleQuotes s.toList)
  | .guid g => .guid 0 g.toText.toList
  | .dateTime d => .dateTime 0 d.toText.toList
  | .null | .collection _ | .complex _ => .null 0
  | v => .number 0 v.literal.toList

namespace Expr

/-- The segments of the path that an expression is displayed as: the first one, and those behind it.
In front of other segments the element is left out. -/
def route : Expr → Segment × List Segment
  | range _ name => (.member 0 name.toList, [])
  | property _ source p =>
    if source.isElementVariable then (.member 0 p.name.toList, [])
    else ((route source).1, (route source).2 ++ [.member 0 p.name.toList])
  | cast _ source target =>
    if source.isElementVariable then (.cast 0 target.toList, [])
    else ((route source).1, (route source).2 ++ [.cast 0 target.toList])
  | _ => (.member 0 [], [])

mutual

/-- The term that an expression is displayed as, without positions. -/
def shown : Expr → Term
  | constant _ v => v.shown
  | range t name => .path (route (range t name)).1 (route (range t name)).2
  | property t source p => .path (route (property t source p)).1 (route (property t source p)).2
  | cast t source target => .path (route (cast t source target)).1 (route (cast t source target)).2
  | binary _ op left right => .group 0 (.binary 0 op (shown left) (shown right))
  | unary _ op operand => .unary 0 op (shown operand)
  | call _ f args => .call 0 f.text.toList (shownAll args)
  | convert _ operand => shown operand
  | any _ source (some v) (some body) =>
    Grammar.quantifiedPath source.route.1 source.route.2 (.any, some (v.toList, shown body))
  | any _ source _ _ => Grammar.quantifiedPath source.route.1 source.route.2 (.any, none)
  | all _ source v body =>
    Grammar.quantifiedPath source.route.1 source.route.2 (.all, some (v.toList, shown body))

/-- The terms that some expressions are displayed as. -/
def shownAll : List Expr → List Term
  | [] => []
  | e :: rest => shown e :: shownAll rest

end

theorem shownAll_eq_map (es : List Expr) : shownAll es = es.map shown := by
  induction es with
  | nil => rfl
  | cons e rest ih => rw [shownAll, ih, List.map_cons]

/-! ## Characters -/

/-- The characters of the text of an expression. -/
def chars (e : Expr) : List Char := e.text.toList

variable (t : TypeRef) (op : BinaryOperator) (left right operand source body : Expr)

theorem chars_binary : (binary t op left right).chars =
    '(' :: (left.chars ++ (Grammar.operatorText op ++ (right.chars ++ [')']))) := by
  change ("(" ++ left.text ++ " " ++ op.text ++ " " ++ right.text ++ ")").toList = _
  simp [chars, String.toList_append, Grammar.operatorText]

theorem chars_not : (unary t .not operand).chars = "not".toList ++ ' ' :: operand.chars := by
  change ("not " ++ operand.text).toList = _
  simp [chars, String.toList_append]

theorem chars_negate : (unary t .negate operand).chars = '-' :: operand.chars := by
  change ("-" ++ operand.text).toList = _
  simp [chars, String.toList_append]

/-- The characters of further arguments, each behind a comma. -/
def furtherChars (args : List Expr) : List Char := args.flatMap fun arg => ',' :: ' ' :: arg.chars

theorem toList_argsText (arg : Expr) (args : List Expr) :
    (argsText (arg :: args)).toList = arg.chars ++ furtherChars args := by
  induction args generalizing arg with
  | nil => simp [argsText, chars, furtherChars]
  | cons next args ih =>
    rw [argsText, String.toList_append, String.toList_append, ih next]
    · simp [chars, furtherChars]
    · exact List.cons_ne_nil next args

theorem chars_call (f : Builtin) (arg : Expr) (args : List Expr) :
    (call t f (arg :: args)).chars =
      f.text.toList ++ '(' :: (arg.chars ++ (furtherChars args ++ [')'])) := by
  change (f.text ++ "(" ++ argsText (arg :: args) ++ ")").toList = _
  simp [chars, String.toList_append, toList_argsText]

theorem chars_quantified : (any t source none none).chars =
    source.chars ++ '/' :: (Grammar.quantifierText .any ++ '(' :: [')']) := by
  change (source.text ++ "/any()").toList = _
  simp [chars, String.toList_append, Grammar.quantifierText]

theorem chars_any (v : String) : (any t source (some v) (some body)).chars =
    source.chars ++ '/' :: (Grammar.quantifierText .any ++
      '(' :: (v.toList ++ ':' :: ' ' :: (body.chars ++ [')']))) := by
  change (source.text ++ "/any(" ++ v ++ ": " ++ body.text ++ ")").toList = _
  simp [chars, String.toList_append, Grammar.quantifierText]

theorem chars_all (v : String) : (all t source v body).chars =
    source.chars ++ '/' :: (Grammar.quantifierText .all ++
      '(' :: (v.toList ++ ':' :: ' ' :: (body.chars ++ [')']))) := by
  change (source.text ++ "/all(" ++ v ++ ": " ++ body.text ++ ")").toList = _
  simp [chars, String.toList_append, Grammar.quantifierText]

/-! ## Types -/

@[simp] theorem shown_withType (e : Expr) : (e.withType t).shown = e.shown := by
  cases e with
  | any _ source bound body => cases bound <;> cases body <;> simp only [withType, shown]
  | _ => simp only [withType, shown, route]

end Expr

end RecordQuery
