import Mathlib.Data.List.Forall2
import RecordQuery.Options.Basic
import RecordQuery.Proofs.Options.Parameters

/-!
# What options keep

An option stands for a text and keeps what it found in it. What it keeps is what reading the text
again would give, so an option answers like a new one for its text. No use of an option changes its
text or makes it keep anything else.

## Main definitions

* `FilterOption.IsFor`, `OrderByOption.IsFor`: whether an option stands for a text.
* `QueryOptions.AreFor`: whether options stand for some parameters.

## Main statements

* `FilterOption.IsFor.expr_eq`, `OrderByOption.IsFor.sortProperties_eq`: what an option answers.
* `QueryOptions.AreFor.validate`: options that have been validated stand for the same parameters.
-/

namespace RecordQuery

variable {context : QueryContext} {text : String}

/-! ## Filters -/

/-- Whether an option stands for a text, and what it keeps is what the text gives. -/
structure FilterOption.IsFor (o : FilterOption) (text : String) (context : QueryContext) :
    Prop where
  raw : o.raw = text
  place : o.context = context
  keeps : ∀ e, o.parsed = some e → parseFilter text context = .ok e

namespace FilterOption

variable {o : FilterOption}

theorem isFor_ofText : (ofText text context).IsFor text context := ⟨rfl, rfl, nofun⟩

namespace IsFor

theorem expr_eq (h : o.IsFor text context) : o.expr.1 = parseFilter text context := by
  unfold expr
  split
  case h_1 e kept => exact (h.keeps e kept).symm
  case h_2 => rw [h.raw, h.place]; split <;> simp [*]

theorem expr (h : o.IsFor text context) : o.expr.2.IsFor text context := by
  unfold FilterOption.expr
  split
  case h_1 => exact h
  case h_2 =>
    split
    case h_1 e parsed =>
      rw [h.raw, h.place] at parsed
      exact ⟨h.raw, h.place, fun e' kept => Option.some.inj kept ▸ parsed⟩
    case h_2 => exact h

theorem validate (h : o.IsFor text context) {σ : Type} (hooks : Hooks σ) (p : Policy) (s : σ) :
    (o.validateWith hooks p s).2.1.IsFor text context := by
  have kept := h.expr
  unfold validateWith validateExpr
  split
  · exact h
  · split
    · split
      case h_1 heq => rwa [heq] at kept
      case h_2 heq =>
        rw [heq] at kept
        split <;> exact kept
    · exact h

end IsFor

end FilterOption

/-! ## Orders -/

/-- Whether an option stands for a text, and what it keeps is what the text gives. -/
structure OrderByOption.IsFor (o : OrderByOption) (text : String) (context : QueryContext) :
    Prop where
  raw : o.raw = text
  place : o.context = context
  keeps : ∀ clause, o.parsed = some clause → parseOrderBy text context = .ok clause
  keepsProperties : ∀ properties, o.found = some properties →
    ∃ clause, parseOrderBy text context = .ok clause ∧ clause.sortProperties = .ok properties

namespace OrderByOption

/-- The sort properties that a text stands for. -/
def propertiesOf (text : String) (context : QueryContext) :
    Except QueryError (List SortProperty) :=
  (parseOrderBy text context).mapError .parse >>= fun clause =>
    clause.sortProperties.mapError .orderBy

variable {o : OrderByOption}

theorem isFor_ofText : (ofText text context).IsFor text context := ⟨rfl, rfl, nofun, nofun⟩

namespace IsFor

theorem clause_eq (h : o.IsFor text context) : o.clause.1 = parseOrderBy text context := by
  unfold clause
  split
  case h_1 c kept => exact (h.keeps c kept).symm
  case h_2 => rw [h.raw, h.place]; split <;> simp [*]

theorem clause (h : o.IsFor text context) : o.clause.2.IsFor text context := by
  unfold OrderByOption.clause
  split
  case h_1 => exact h
  case h_2 =>
    split
    case h_1 c parsed =>
      rw [h.raw, h.place] at parsed
      exact ⟨h.raw, h.place, fun c' kept => Option.some.inj kept ▸ parsed, h.keepsProperties⟩
    case h_2 => exact h

theorem sortProperties_eq (h : o.IsFor text context) :
    o.sortProperties.1 = propertiesOf text context := by
  have answer := h.clause_eq
  unfold sortProperties propertiesOf
  split
  case h_1 properties kept =>
    obtain ⟨c, parsed, found⟩ := h.keepsProperties properties kept
    rw [parsed]
    change _ = c.sortProperties.mapError QueryError.orderBy
    rw [found]
    rfl
  case h_2 =>
    split
    case h_1 heq =>
      rw [heq] at answer
      rw [← answer]
      rfl
    case h_2 c o' heq =>
      rw [heq] at answer
      rw [← answer]
      change _ = c.sortProperties.mapError QueryError.orderBy
      split <;> simp [*]

theorem sortProperties (h : o.IsFor text context) :
    o.sortProperties.2.IsFor text context := by
  have answer := h.clause_eq
  have kept := h.clause
  unfold OrderByOption.sortProperties
  split
  case h_1 => exact h
  case h_2 =>
    split
    case h_1 heq => rwa [heq] at kept
    case h_2 c o' heq =>
      rw [heq] at kept answer
      split
      case h_1 properties found =>
        exact ⟨kept.raw, kept.place, kept.keeps,
          fun properties' kept' => ⟨c, answer.symm, Option.some.inj kept' ▸ found⟩⟩
      case h_2 => exact kept

theorem validate (h : o.IsFor text context) {σ : Type} (hooks : Hooks σ) (p : Policy) (s : σ) :
    (o.validateWith hooks p s).2.1.IsFor text context := by
  have kept := h.clause
  have keptMore := h.clause.sortProperties
  unfold validateWith validateClause
  split
  · exact h
  · split
    · split
      case h_1 heq => rwa [heq] at kept
      case h_2 heq =>
        rw [heq] at keptMore
        dsimp only at keptMore
        split
        case h_1 heq => rwa [heq] at keptMore
        case h_2 heq =>
          rw [heq] at keptMore
          split <;> exact keptMore
    · exact h

end IsFor

end OrderByOption

/-! ## Requests -/

namespace QueryOptions

/-- Whether options stand for the texts that parameters give. -/
structure AreFor (o : QueryOptions) (context : QueryContext) (params : List (String × String)) :
    Prop where
  filter : Option.Rel (fun f text => f.IsFor text context) o.filter (params.lookup "$filter")
  orderBy : Option.Rel (fun f text => f.IsFor text context) o.orderBy (params.lookup "$orderby")
  skip : o.skip = (params.lookup "$skip").bind (PagingOption.ofText? .skip)
  top : o.top = (params.lookup "$top").bind (PagingOption.ofText? .top)

variable {params : List (String × String)} {o : QueryOptions}

theorem areFor_requested : (requested context params).AreFor context params where
  filter := by
    unfold requested
    cases params.lookup "$filter" with
    | none => exact .none
    | some => exact .some FilterOption.isFor_ofText
  orderBy := by
    unfold requested
    cases params.lookup "$orderby" with
    | none => exact .none
    | some => exact .some OrderByOption.isFor_ofText
  skip := rfl
  top := rfl

namespace AreFor

/-- A filter may change to one that stands for the same text. -/
theorem setFilter (h : o.AreFor context params) {f f' : FilterOption} (given : o.filter = some f)
    (same : ∀ text, f.IsFor text context → f'.IsFor text context) :
    AreFor { o with filter := some f' } context params := by
  have stands := h.filter
  rw [given] at stands
  refine ⟨?_, h.orderBy, h.skip, h.top⟩
  cases lookup : params.lookup "$filter" with
  | none =>
    rw [lookup] at stands
    cases stands
  | some text =>
    rw [lookup] at stands
    cases stands with
    | some stands => exact .some (same text stands)

/-- An order may change to one that stands for the same text. -/
theorem setOrderBy (h : o.AreFor context params) {f f' : OrderByOption}
    (given : o.orderBy = some f) (same : ∀ text, f.IsFor text context → f'.IsFor text context) :
    AreFor { o with orderBy := some f' } context params := by
  have stands := h.orderBy
  rw [given] at stands
  refine ⟨h.filter, ?_, h.skip, h.top⟩
  cases lookup : params.lookup "$orderby" with
  | none =>
    rw [lookup] at stands
    cases stands
  | some text =>
    rw [lookup] at stands
    cases stands with
    | some stands => exact .some (same text stands)

variable {σ : Type} {hooks : Hooks σ} {p : Policy} {s : σ}

theorem validateFilter (h : o.AreFor context params) :
    (o.validateFilter hooks p s).2.1.AreFor context params := by
  unfold QueryOptions.validateFilter
  split
  case h_1 => exact h
  case h_2 f given => exact h.setFilter given fun text stands => stands.validate hooks p s

theorem validateOrderBy (h : o.AreFor context params) :
    (o.validateOrderBy hooks p s).2.1.AreFor context params := by
  unfold QueryOptions.validateOrderBy
  split
  case h_1 => exact h
  case h_2 f given => exact h.setOrderBy given fun text stands => stands.validate hooks p s

theorem validateWith (h : o.AreFor context params) (filterHooks orderHooks : Hooks σ)
    (p : Policy) (s : σ) :
    (o.validateWith filterHooks orderHooks p s).2.1.AreFor context params := by
  have filtered : (o.validateFilter filterHooks p s).2.1.AreFor context params := h.validateFilter
  unfold QueryOptions.validateWith
  split
  case h_1 heq => rwa [heq] at filtered
  case h_2 o' s' heq =>
    rw [heq] at filtered
    have ordered : (o'.validateOrderBy orderHooks p s').2.1.AreFor context params :=
      filtered.validateOrderBy
    split
    case h_1 heq => rwa [heq] at ordered
    case h_2 heq =>
      rw [heq] at ordered
      split <;> exact ordered

theorem validate (h : o.AreFor context params) (p : Policy) :
    (o.validate p).2.AreFor context params := h.validateWith Hooks.stock Hooks.stock p ()

end AreFor

end QueryOptions

end RecordQuery
