import RecordQuery.Proofs.Binding.Conversion
import RecordQuery.Proofs.Grammar.Lexical

/-!
# Binding gives lexical expressions

The names in an expression are those that stand in its term: a property and a type are found under
the name that is looked up. So where the names of a term are names of the grammar, those of its
expression are, and so are the segments of the paths that it is displayed as.

## Main statements

* `Binding.Binds.lexical`: bound terms are lexical.
-/

namespace RecordQuery

open Binding (Scope)
open Grammar (LexicalPath Segment Term)

/-- A path is displayed as its route. -/
theorem Expr.shown_of_isPath {e : Expr} (h : e.isPath = true) :
    e.shown = .path e.route.1 e.route.2 := by
  cases e with
  | range | property | cast => rw [shown]
  | _ => cases h

namespace Binding

open RecordQuery.Expr (Throughout)

variable {context : QueryContext} {limit : Bounds} {scope : Scope} {m : Model}

/-! ## Paths -/

theorem isLexical_erase {segment : Segment} : segment.erase.IsLexical ↔ segment.IsLexical := by
  cases segment <;> exact Iff.rfl

theorem addSegment_lexical {path : PathState} {segment : Segment} {e : Expr}
    (h : addSegment m path segment = .ok e) (name : segment.IsLexical)
    (names : path.expr.Throughout (fun _ => Expr.IsLexical) scope) :
    e.Throughout (fun _ => Expr.IsLexical) scope := by
  rw [← isLexical_erase] at name
  obtain ⟨_, p, rfl, same⟩ | ⟨_, target, rfl, same⟩ := addSegment_cases h <;> rw [same] at name
  · exact Expr.throughout_property.2 ⟨name, names⟩
  · exact Expr.throughout_cast.2 ⟨name, names⟩

theorem addSegments_lexical (segments : List Segment) {path result : PathState}
    (h : addSegments m limit path segments = .ok result)
    (all : ∀ segment ∈ segments, segment.IsLexical)
    (names : path.expr.Throughout (fun _ => Expr.IsLexical) scope) :
    result.expr.Throughout (fun _ => Expr.IsLexical) scope := by
  induction segments generalizing path with
  | nil =>
    cases h
    exact names
  | cons segment rest ih =>
    obtain ⟨first, others⟩ := List.forall_mem_cons.1 all
    obtain ⟨next, step, h⟩ := addSegments_cons h
    exact ih h others (addSegment_lexical step first names)

theorem path_lexical {first : Segment} {rest : List Segment} {result : PathState}
    (names : LexicalPath first rest) (h : path context limit scope first rest = .ok result) :
    result.expr.Throughout (fun _ => Expr.IsLexical) scope := by
  unfold path at h
  obtain ⟨t, name, -, same, start⟩ | start := pathStart_cases context scope first rest <;>
    rw [start] at h
  · have starts := isLexical_erase.2 names.starts
    have word : first.erase.word = first.word := by rw [Segment.word, Segment.text_erase]; rfl
    have free := word ▸ names.free
    rw [same] at starts free
    rw [Segment.word_member starts] at free
    exact addSegments_lexical _ h names.others (Expr.throughout_range.2 ⟨starts, free⟩)
  · refine addSegments_lexical _ h (List.forall_mem_cons.2 ⟨names.starts, names.others⟩) ?_
    exact Expr.throughout_range.2 ⟨.inl rfl, by decide⟩

/-! ## Terms -/

theorem quantify_lexical (q : Grammar.Quantifier) (source body : Expr) {bound : List Char}
    (name : Grammar.IsIdentifier bound) : (quantify q source (String.ofList bound) body).IsLexical := by
  cases q <;> simpa [quantify, Expr.IsLexical] using name

/-- A bound term is lexical if the names in the term are names of the grammar. -/
theorem Binds.lexical {t : Term} {e : Expr} (h : Binds context limit scope t e)
    (names : t.IsLexical) : e.Throughout (fun _ => Expr.IsLexical) scope := by
  induction h with
  | null | bool | string | guid | dateTime => exact Expr.throughout_constant.2 nofun
  | number value =>
    obtain ⟨p, kind, long⟩ := primitiveType?_of_numberValue? value
    refine Expr.throughout_constant.2 ?_
    rw [Expr.IsLexical, kind]
    exact fun short => long (Option.some.inj short)
  | path spine => exact path_lexical names spine
  | anyItem spine => exact Expr.throughout_anyItem.2 ⟨True.intro, path_lexical names spine⟩
  | @lambda _ _ _ q _ _ _ _ source _ _ fitted spine items _ _ fits _ ih =>
    obtain ⟨source_names, bound_name, body_names⟩ := names
    exact (Expr.throughout_quantify (itemType_eq items)).2
      ⟨quantify_lexical q source.expr fitted bound_name, path_lexical source_names spine,
        (expectBoolean_cases fits).fitted.lexical.2 (ih body_names)⟩
  | call _ fitted _ _ ih =>
    refine Expr.throughout_call.2 ⟨True.intro, fun e mem => ?_⟩
    obtain ⟨arg, mem, e', param, bound, fits⟩ := exists_of_mem_arguments fitted e mem
    exact (coerce_fitted fits).lexical.2 (ih arg mem e' bound (Term.allLexical_iff.1 names arg mem))
  | unary inside made _ ih =>
    obtain ⟨t, fitted, rfl, retyped⟩ := unary_cases made
    exact Expr.throughout_unary.2 ⟨retyped.plain inside.plain, retyped.fitted.lexical.2 (ih names)⟩
  | binary _ _ made _ ihl ihr =>
    obtain ⟨t, l, r, rfl, fitted_left, fitted_right⟩ := binary_fitted made
    exact Expr.throughout_binary.2
      ⟨True.intro, fitted_left.lexical.2 (ihl names.1), fitted_right.lexical.2 (ihr names.2)⟩
  | group _ ih => exact ih names

end Binding

end RecordQuery
