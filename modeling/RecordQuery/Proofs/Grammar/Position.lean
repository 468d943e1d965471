import RecordQuery.Grammar.Term

/-!
# Terms without positions

Terms that differ in their positions only stand for the same text at other places.

## Main definitions

* `Segment.erase`, `Term.erase`: a segment and a term with every position set to zero.
-/

namespace RecordQuery.Grammar

/-- A segment without its position. -/
def Segment.erase : Segment → Segment
  | member _ name => member 0 name
  | cast _ type => cast 0 type

@[simp] theorem Segment.text_erase (s : Segment) : s.erase.text = s.text := by
  cases s <;> rfl

namespace Term

mutual

/-- A term without its positions. -/
def erase : Term → Term
  | null _ => null 0
  | bool _ value => bool 0 value
  | string _ body => string 0 body
  | guid _ body => guid 0 body
  | dateTime _ body => dateTime 0 body
  | number _ text => number 0 text
  | path first rest => path first.erase (rest.map Segment.erase)
  | quantified first rest q _ => quantified first.erase (rest.map Segment.erase) q 0
  | lambda first rest q _ _ bound body =>
    lambda first.erase (rest.map Segment.erase) q 0 0 bound (erase body)
  | call _ function args => call 0 function (eraseAll args)
  | unary _ op operand => unary 0 op (erase operand)
  | binary _ op left right => binary 0 op (erase left) (erase right)
  | group _ inner => group 0 (erase inner)

/-- Terms without their positions. -/
def eraseAll : List Term → List Term
  | [] => []
  | t :: rest => erase t :: eraseAll rest

end

theorem eraseAll_eq_map (ts : List Term) : eraseAll ts = ts.map erase := by
  induction ts with
  | nil => rfl
  | cons t rest ih => rw [eraseAll, ih, List.map_cons]

end Term

/-- A term to order by, without its positions. -/
def OrderTerm.erase (t : OrderTerm) : OrderTerm := ⟨t.term.erase, t.direction⟩

end RecordQuery.Grammar
