import RecordQuery.Expr.Builtin
import RecordQuery.Expr.Operator

/-!
# Policy tags

What a policy can allow or forbid: operators, functions and kinds of query options. The tags of one
kind form a list, and the place of a tag in it gives the bit that stands for the tag.

## Main definitions

* `PolicyTag`: kinds of tags.
* `ArithmeticOperator`, `LogicalOperator`, `OptionKind`: tags, next to `Builtin`.
* `PolicyTag.bit`: the bit of a tag.
* `PagingKind`: the options with a bound.
* `BinaryOperator.tag`, `UnaryOperator.tag`: the tag that gates an operator.
-/

namespace RecordQuery

/-! ## Kinds of tags -/

/-- A kind of tags: what it is called, its tags, and the text and the title of each. -/
class PolicyTag (τ : Type) extends BEq τ, LawfulBEq τ where
  kind : String
  tags : List τ
  text : τ → String
  title : τ → String

namespace PolicyTag

variable {τ : Type} [PolicyTag τ]

/-- The bit that stands for a tag. -/
def bit (tag : τ) : UInt64 := 1 <<< UInt64.ofNat ((tags : List τ).idxOf tag)

/-- The bits of some tags. -/
def bitsOf (list : List τ) : UInt64 := list.foldl (fun bits tag => bits ||| bit tag) 0

/-- The bits of all tags of a kind. -/
def allBits (τ : Type) [PolicyTag τ] : UInt64 := bitsOf (tags : List τ)

/-- The tag with a text. -/
def ofText? (text : String) : Option τ := tags.find? (PolicyTag.text · == text)

end PolicyTag

/-! ## Operators and options -/

inductive ArithmeticOperator where
  | add
  | sub
  | mul
  | div
  | mod
  | negate
  deriving DecidableEq, Repr, Inhabited

inductive LogicalOperator where
  | or
  | and
  | not
  | eq
  | ne
  | gt
  | ge
  | lt
  | le
  deriving DecidableEq, Repr, Inhabited

/-- The query options. -/
inductive OptionKind where
  | filter
  | orderBy
  | skip
  | top
  deriving DecidableEq, Repr, Inhabited

def ArithmeticOperator.title : ArithmeticOperator → String
  | add => "Add"
  | sub => "Sub"
  | mul => "Mul"
  | div => "Div"
  | mod => "Mod"
  | negate => "Negate"

def ArithmeticOperator.text : ArithmeticOperator → String
  | add => "add"
  | sub => "sub"
  | mul => "mul"
  | div => "div"
  | mod => "mod"
  | negate => "negate"

def LogicalOperator.title : LogicalOperator → String
  | or => "Or"
  | and => "And"
  | not => "Not"
  | eq => "Eq"
  | ne => "Ne"
  | gt => "Gt"
  | ge => "Ge"
  | lt => "Lt"
  | le => "Le"

def LogicalOperator.text : LogicalOperator → String
  | or => "or"
  | and => "and"
  | not => "not"
  | eq => "eq"
  | ne => "ne"
  | gt => "gt"
  | ge => "ge"
  | lt => "lt"
  | le => "le"

def Builtin.title : Builtin → String
  | substringOf => "SubstringOf"
  | endsWith => "EndsWith"
  | startsWith => "StartsWith"
  | length => "Length"
  | indexOf => "IndexOf"
  | replace => "Replace"
  | substring => "Substring"
  | toLower => "ToLower"
  | toUpper => "ToUpper"
  | trim => "Trim"
  | concat => "Concat"
  | year => "Year"
  | month => "Month"
  | day => "Day"
  | hour => "Hour"
  | minute => "Minute"
  | second => "Second"
  | round => "Round"
  | floor => "Floor"
  | ceiling => "Ceiling"
  | any => "Any"
  | all => "All"

def OptionKind.title : OptionKind → String
  | filter => "Filter"
  | orderBy => "OrderBy"
  | skip => "Skip"
  | top => "Top"

def OptionKind.text : OptionKind → String
  | filter => "$filter"
  | orderBy => "$orderby"
  | skip => "$skip"
  | top => "$top"

instance : PolicyTag ArithmeticOperator where
  kind := "arithmetic operator"
  tags := [.add, .sub, .mul, .div, .mod, .negate]
  text := ArithmeticOperator.text
  title := ArithmeticOperator.title

instance : PolicyTag LogicalOperator where
  kind := "logical operator"
  tags := [.or, .and, .not, .eq, .ne, .gt, .ge, .lt, .le]
  text := LogicalOperator.text
  title := LogicalOperator.title

instance : PolicyTag Builtin where
  kind := "function"
  tags := Builtin.list
  text := Builtin.text
  title := Builtin.title

instance : PolicyTag OptionKind where
  kind := "query option"
  tags := [.filter, .orderBy, .skip, .top]
  text := OptionKind.text
  title := OptionKind.title

/-! ## Paging -/

/-- The options that cut a list of records. -/
inductive PagingKind where
  | skip
  | top
  deriving DecidableEq, Repr, Inhabited

def PagingKind.option : PagingKind → OptionKind
  | skip => .skip
  | top => .top

/-- The name of the bound that a policy can set on an option. -/
def PagingKind.boundName : PagingKind → String
  | skip => "max_skip"
  | top => "max_top"

/-! ## Tags of operators -/

/-- The tag that gates an operator: of the one kind or the other. -/
inductive OperatorTag where
  | arithmetic (op : ArithmeticOperator)
  | logical (op : LogicalOperator)
  deriving DecidableEq, Repr

/-- The tag that gates a binary operator. -/
def BinaryOperator.tag : BinaryOperator → OperatorTag
  | add => .arithmetic .add
  | sub => .arithmetic .sub
  | mul => .arithmetic .mul
  | div => .arithmetic .div
  | mod => .arithmetic .mod
  | or => .logical .or
  | and => .logical .and
  | eq => .logical .eq
  | ne => .logical .ne
  | gt => .logical .gt
  | ge => .logical .ge
  | lt => .logical .lt
  | le => .logical .le

/-- The tag that gates a unary operator. -/
def UnaryOperator.tag : UnaryOperator → OperatorTag
  | not => .logical .not
  | negate => .arithmetic .negate

def OperatorTag.arithmetic? : OperatorTag → Option ArithmeticOperator
  | arithmetic op => some op
  | logical _ => none

def OperatorTag.logical? : OperatorTag → Option LogicalOperator
  | logical op => some op
  | arithmetic _ => none

end RecordQuery
