import RecordQuery.Policy.AllowedSet

/-!
# Policies

A policy says what a query may contain: the allowed operators, functions and options, the properties
that records may be ordered by, and bounds on paging. The default policy allows everything and sets
no bounds.

## Main definitions

* `Policy`: the policies.
* `Policy.permissive`: the default.
* `Policy.setMaxSkip`, `Policy.setMaxTop`, `Policy.allowOrderBy`: changes to a policy.
-/

namespace RecordQuery

/-- What a query may contain. An empty list of properties to order by admits any property. The
list is in the order of the names. -/
structure Policy where
  arithmetic : AllowedSet ArithmeticOperator
  logical : AllowedSet LogicalOperator
  functions : AllowedSet Builtin
  options : AllowedSet OptionKind
  orderByProperties : List String
  maxSkip : Option Nat
  maxTop : Option Nat
  deriving DecidableEq, Repr

namespace Policy

/-- The policy that allows everything. -/
def permissive : Policy := ⟨.all, .all, .all, .all, [], none, none⟩

instance : Inhabited Policy := ⟨permissive⟩

/-- A bound that is no negative number. -/
def checkBound (kind : PagingKind) : Option Int → Except ConfigError (Option Nat)
  | none => .ok none
  | some n => if n < 0 then .error (.negativeBound kind n) else .ok (some n.toNat)

/-- The policy with another bound on a paging option. -/
def withBound (p : Policy) (max : Option Nat) : PagingKind → Policy
  | .skip => { p with maxSkip := max }
  | .top => { p with maxTop := max }

/-- Check a bound and then set it: the answer, and the policy that there is afterwards. -/
def setBound (kind : PagingKind) (p : Policy) (max : Option Int) :
    Except ConfigError Unit × Policy :=
  match checkBound kind max with
  | .ok max => (.ok (), p.withBound max kind)
  | .error e => (.error e, p)

def setMaxSkip : Policy → Option Int → Except ConfigError Unit × Policy := setBound .skip

def setMaxTop : Policy → Option Int → Except ConfigError Unit × Policy := setBound .top

/-- Insert a name into names in order, unless it is there already. -/
def insertName (name : String) : List String → List String
  | [] => [name]
  | other :: rest =>
    if name = other then other :: rest
    else if name < other then name :: other :: rest
    else other :: insertName name rest

/-- Allow ordering by a property. -/
def allowOrderBy (p : Policy) (name : String) : Policy :=
  { p with orderByProperties := insertName name p.orderByProperties }

/-- Whether records may be ordered by a property. -/
def allowsOrderBy (p : Policy) (name : String) : Bool :=
  p.orderByProperties.isEmpty || p.orderByProperties.contains name

/-- The bound on a paging option. -/
def bound (p : Policy) : PagingKind → Option Nat
  | .skip => p.maxSkip
  | .top => p.maxTop

/-- Whether an operator is allowed. -/
def allowsOperator (p : Policy) : OperatorTag → Bool
  | .arithmetic op => p.arithmetic.contains op
  | .logical op => p.logical.contains op

end Policy

end RecordQuery
