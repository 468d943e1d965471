import RecordQuery.Expr.Text
import RecordQuery.QueryError

/-!
# Hooks

Validation calls hooks as it goes through a query: one on entering an option or a node, and further
ones for the kind of the node. A hook sees what is entered, keeps a state of its own, and can refuse
it. The stock hooks do nothing.

## Main definitions

* `Entry`: what is entered, with the name and the detail of its hook.
* `Hooks`: hooks with a state.
* `Walk`: a validation that calls hooks.
-/

namespace RecordQuery

/-- What validation enters. -/
inductive Entry where
  | filterOption
  | orderByOption
  | orderByProperty (name : String)
  | node (e : Expr)
  | binary (op : BinaryOperator)
  | logical (op : BinaryOperator)
  | arithmetic (op : BinaryOperator)
  | unary (op : UnaryOperator)
  | call (f : Builtin)
  | single (property : String)
  | collection (property : String)
  | constant (v : Value)
  | range (name : String)
  | any (bound : Option String)
  | all (bound : String)
  | convert (target : PrimitiveType)
  | cast (target : String)
  deriving Inhabited

namespace Entry

/-- The name of the hook for an entry. -/
def hook : Entry → String
  | filterOption => "validate"
  | orderByOption => "orderby"
  | orderByProperty _ => "property"
  | node _ => "node"
  | binary _ => "binary"
  | logical _ => "logical"
  | arithmetic _ => "arithmetic"
  | unary _ => "unary"
  | call _ => "call"
  | single _ => "single"
  | collection _ => "collection"
  | constant _ => "constant"
  | range _ => "range"
  | any _ => "any"
  | all _ => "all"
  | convert _ => "convert"
  | cast _ => "cast"

/-- What tells an entry from others of its hook. -/
def detail : Entry → String
  | filterOption | orderByOption | node _ => ""
  | binary op | logical op | arithmetic op => op.text
  | unary op => op.text
  | call f => f.text
  | constant v => v.literal
  | any bound => bound.getD ""
  | convert target => target.edmName
  | orderByProperty name | single name | collection name | range name | all name | cast name => name

/-- The name of the hook, and the detail if there is one. -/
def text (entry : Entry) : String :=
  if entry.detail.isEmpty then entry.hook else entry.hook ++ " " ++ entry.detail

/-- Whether an entry belongs to the order clause rather than to an expression in it. -/
def ofClause : Entry → Bool
  | orderByOption | orderByProperty _ => true
  | _ => false

end Entry

/-- A validation with hooks of a state: it may refuse a query, and the state is kept. -/
abbrev Walk (σ : Type) := ExceptT ValidationError (StateM σ)

/-- Hooks with a state. -/
structure Hooks (σ : Type) where
  enter : Entry → Walk σ Unit

namespace Hooks

/-- The hooks that do nothing. -/
def stock : Hooks Unit := ⟨fun _ => pure ()⟩

/-- The same hooks for expressions, and none for order clauses. -/
def forNodes {σ : Type} (h : Hooks σ) : Hooks σ :=
  ⟨fun entry => if entry.ofClause then pure () else h.enter entry⟩

end Hooks

end RecordQuery
