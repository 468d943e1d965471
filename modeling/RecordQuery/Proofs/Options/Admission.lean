import RecordQuery.Proofs.Options.Answer
import RecordQuery.Proofs.Options.Memo
import RecordQuery.Proofs.Options.SortProperties
import RecordQuery.Proofs.Validate.Gate

/-!
# Which requests a policy admits

A policy admits a request if it admits each of its options. The options are asked in a fixed order,
whatever the order of the parameters, and the first one that is not admitted gives the error. An
option of a kind that is not allowed is refused before its text is looked at.

The terms of an order clause are visited like the nodes of a filter, but a term that has a sort
property consists of a property access, casts and the element, and no policy refuses such a node.

## Main definitions

* `Policy.Admits`: whether a policy admits the text of an option.
* `Policy.RefusesOption`: the error for the text of an option that it does not admit.

## Main statements

* `QueryOptions.validate_first_fault`: validation admits what the policy admits, and otherwise
  gives the error of the first option that it does not.
-/

namespace RecordQuery

/-! ## Options -/

/-- The kinds of options in the order of their validation. -/
def OptionKind.inOrder : List OptionKind := [.filter, .orderBy, .skip, .top]

namespace Policy

/-- Whether a policy lets records be ordered by a property of a name. An empty list of names lets
them be ordered by any. -/
def OrdersBy (p : Policy) (name : String) : Prop :=
  p.orderByProperties ≠ [] → name ∈ p.orderByProperties

/-- Whether a policy admits the text of an option. -/
def Admits (p : Policy) (context : QueryContext) (kind : OptionKind) (text : String) : Prop :=
  p.options.contains kind ∧ match kind with
    | .filter => ∃ e, parseFilter text context = .ok e ∧ ∀ n, n.Part e → p.Permits n
    | .orderBy => ∃ clause, parseOrderBy text context = .ok clause ∧
        ∀ t ∈ clause.terms, ∃ q, t.expr.SortsBy q ∧ p.OrdersBy q.name
    | .skip => ∃ n, PagingOption.count? text.toList = some n ∧ ∀ max, p.maxSkip = some max → n ≤ max
    | .top => ∃ n, PagingOption.count? text.toList = some n ∧ ∀ max, p.maxTop = some max → n ≤ max

/-- The error for the text of an option that a policy does not admit. Of a filter or a clause, the
first node or term that is at fault counts. -/
inductive RefusesOption (p : Policy) (context : QueryContext) :
    OptionKind → String → QueryError → Prop
  | kind {kind text} (forbidden : ¬ p.options.contains kind) :
      RefusesOption p context kind text (.validation (.optionNotAllowed kind))
  | filterText {text error} (allowed : p.options.contains .filter)
      (faulty : parseFilter text context = .error error) :
      RefusesOption p context .filter text (.parse error)
  | filterNode {text e before n after error} (allowed : p.options.contains .filter)
      (parsed : parseFilter text context = .ok e) (visit : e.preorder = before ++ n :: after)
      (refuses : p.Refuses n error) (permits : ∀ m ∈ before, p.Permits m) :
      RefusesOption p context .filter text (.validation error)
  | orderText {text error} (allowed : p.options.contains .orderBy)
      (faulty : parseOrderBy text context = .error error) :
      RefusesOption p context .orderBy text (.parse error)
  | orderTerm {text clause before t after} (allowed : p.options.contains .orderBy)
      (parsed : parseOrderBy text context = .ok clause)
      (split : clause.terms = before ++ t :: after)
      (given : ∀ s ∈ before, ∃ q, s.expr.SortsBy q) (missing : ¬ ∃ q, t.expr.SortsBy q) :
      RefusesOption p context .orderBy text
        (.orderBy (.notAProperty before.length t.expr.text))
  | orderName {text clause before t after q} (allowed : p.options.contains .orderBy)
      (parsed : parseOrderBy text context = .ok clause)
      (properties : ∀ s ∈ clause.terms, ∃ r, s.expr.SortsBy r)
      (split : clause.terms = before ++ t :: after)
      (listed : ∀ s ∈ before, ∀ r, s.expr.SortsBy r → p.OrdersBy r.name)
      (sorts : t.expr.SortsBy q) (unlisted : ¬ p.OrdersBy q.name) :
      RefusesOption p context .orderBy text (.validation (.orderByPropertyNotAllowed q.name))
  | paging {text n max} (kind : PagingKind) (allowed : p.options.contains kind.option)
      (number : PagingOption.count? text.toList = some n) (bound : p.bound kind = some max)
      (tooLarge : max < n) :
      RefusesOption p context kind.option text (.validation (.pagingTooLarge kind n max))

theorem allowsOrderBy_iff (p : Policy) (name : String) :
    p.allowsOrderBy name ↔ p.OrdersBy name := by
  cases h : p.orderByProperties <;> simp [allowsOrderBy, OrdersBy, h]

end Policy

variable {context : QueryContext} {p : Policy} {text : String}

/-! ## Verdicts on options -/

theorem Walk.run_eq {α : Type} (w : Walk Unit α) : w.run.run () = (w.result, ()) := rfl

/-- Validation under the stock hooks is a verdict on the expression, if the policy allows filters. -/
theorem FilterOption.validate_eq (o : FilterOption) (p : Policy) : o.validate p =
    if p.options.contains .filter then
      (o.expr.1.mapError .parse >>= fun e => (e.validate p).mapError .validation, o.expr.2)
    else (.error (.validation (.optionNotAllowed .filter)), o) := by
  unfold FilterOption.validate validateWith
  simp only [Walk.run_eq, Walk.result_enter]
  by_cases allowed : p.options.contains .filter
  · rw [if_pos allowed, if_pos allowed, validateExpr]
    rcases o.expr with ⟨_ | e, o'⟩
    · rfl
    · dsimp only
      rw [Walk.run_eq, Expr.validate_eq_result, Except.mapError_ok, Except.ok_bind]
      cases e.validate p <;> rfl
  · rw [if_neg allowed, if_neg allowed]

/-- The verdict on a filter that has not been parsed. -/
theorem FilterOption.validate_ofText : ((ofText text context).validate p).1 =
    if p.options.contains .filter then
      match parseFilter text context with
      | .error error => .error (.parse error)
      | .ok e => (e.validate p).mapError .validation
    else .error (.validation (.optionNotAllowed .filter)) := by
  rw [validate_eq, isFor_ofText.expr_eq]
  split
  · cases parseFilter text context <;> rfl
  · rfl

theorem FilterOption.validate_eq_ok :
    ((ofText text context).validate p).1 = .ok () ↔ p.Admits context .filter text := by
  rw [validate_ofText, Policy.Admits]
  by_cases allowed : p.options.contains .filter
  · rw [if_pos allowed, and_iff_right allowed]
    cases parseFilter text context with
    | error => simp
    | ok e => simp [Except.mapError_eq_ok, Expr.validate_eq_ok_iff]
  · simp [allowed]

theorem FilterOption.validate_eq_error {error : QueryError} :
    ((ofText text context).validate p).1 = .error error ↔
      p.RefusesOption context .filter text error := by
  rw [validate_ofText]
  constructor
  · intro h
    split at h
    case isFalse forbidden =>
      cases h
      exact .kind forbidden
    case isTrue allowed =>
      split at h
      case h_1 faulty =>
        cases h
        exact .filterText allowed faulty
      case h_2 e parsed =>
        obtain ⟨fault, refused, rfl⟩ := Except.mapError_eq_error.1 h
        obtain ⟨before, n, after, visit, refuses, permits⟩ := Expr.validate_eq_error_iff.1 refused
        exact .filterNode allowed parsed visit refuses permits
  · intro h
    generalize kind : OptionKind.filter = k at h
    cases h with
    | kind forbidden =>
      subst kind
      exact if_neg forbidden
    | filterText allowed faulty =>
      rw [if_pos allowed, faulty]
    | filterNode allowed parsed visit refuses permits =>
      rw [if_pos allowed, parsed]
      exact Except.mapError_eq_error.2
        ⟨_, Expr.validate_eq_error_iff.2 ⟨_, _, _, visit, refuses, permits⟩, rfl⟩
    | orderText | orderTerm | orderName => cases kind
    | paging paging => cases paging <;> cases kind

/-! ### Order clauses -/

/-- No policy refuses a node of a term with a sort property. -/
theorem Expr.SortsBy.validate {e : Expr} {q : Property} (h : e.SortsBy q) (p : Policy) :
    e.validate p = .ok () := by
  obtain ⟨type, source, prim, rfl, -, element⟩ := h
  refine Expr.validate_eq_ok_iff.2 fun n part => ?_
  cases part with
  | self => trivial
  | child mem part =>
    cases List.mem_singleton.1 mem
    clear mem
    induction element with
    | element type =>
      cases part with
      | self => trivial
      | child mem _ => cases mem
    | cast type target inner ih =>
      cases part with
      | self => trivial
      | child mem part =>
        cases List.mem_singleton.1 mem
        exact ih part

/-- The verdict on the name of the sort property of a term. -/
def Policy.termVerdict (p : Policy) (t : OrderByTerm) : Except ValidationError Unit :=
  match t.expr.sortProperty? with
  | some q => if p.allowsOrderBy q.name then .ok () else .error (.orderByPropertyNotAllowed q.name)
  | none => .ok ()

theorem Policy.termVerdict_of_sortsBy {t : OrderByTerm} {q : Property} (h : t.expr.SortsBy q) :
    p.termVerdict t = if p.allowsOrderBy q.name then .ok ()
      else .error (.orderByPropertyNotAllowed q.name) := by
  rw [termVerdict, Expr.sortProperty?_eq_some_iff.2 h]

theorem Policy.termVerdict_eq_ok {t : OrderByTerm} :
    p.termVerdict t = .ok () ↔ ∀ q, t.expr.SortsBy q → p.OrdersBy q.name := by
  by_cases h : ∃ q, t.expr.SortsBy q
  · obtain ⟨q, sorts⟩ := h
    have only : (∀ r, t.expr.SortsBy r → p.OrdersBy r.name) ↔ p.OrdersBy q.name :=
      ⟨fun h => h q sorts, fun h r sorts' => sorts.unique sorts' ▸ h⟩
    rw [termVerdict_of_sortsBy sorts, only, ← allowsOrderBy_iff]
    cases p.allowsOrderBy q.name <;> simp
  · rw [termVerdict, Expr.sortProperty?_eq_none_iff.2 h]
    exact iff_of_true rfl fun q sorts => (h ⟨q, sorts⟩).elim

theorem Policy.termVerdict_eq_error {t : OrderByTerm} {error : ValidationError} :
    p.termVerdict t = .error error ↔
      ∃ q, t.expr.SortsBy q ∧ ¬ p.OrdersBy q.name ∧ error = .orderByPropertyNotAllowed q.name := by
  constructor
  · intro h
    unfold termVerdict at h
    split at h
    case h_1 q found =>
      split at h <;> cases h
      exact ⟨q, Expr.sortProperty?_eq_some_iff.1 found, mt (allowsOrderBy_iff p _).2 ‹_›, rfl⟩
    case h_2 => cases h
  · rintro ⟨q, sorts, unlisted, rfl⟩
    rw [termVerdict_of_sortsBy sorts, if_neg (mt (allowsOrderBy_iff p _).1 unlisted)]

/-- The visit of the terms asks about the names of the sort properties only. -/
theorem OrderByOption.result_validateTerms {terms : List OrderByTerm}
    {properties : List SortProperty} (h : List.Forall₂ OrderByTerm.Gives terms properties) :
    (validateTerms Hooks.stock p (terms.zip properties)).result = terms.forM p.termVerdict := by
  induction h with
  | nil => rfl
  | @cons t s terms properties gives rest ih =>
    rw [List.zip_cons_cons, validateTerms, Except.forM_cons, ← ih,
      Policy.termVerdict_of_sortsBy gives.1]
    simp only [Walk.result_bind, Walk.result_enter, Walk.result_allow, Expr.validate_eq_result,
      gives.1.validate p, Except.ok_bind]

/-- Where the clause cannot be parsed, asking for the sort properties changes nothing. -/
theorem OrderByOption.sortProperties_of_clause {o o' : OrderByOption} {error : ParseError}
    (failed : o.clause = (.error error, o')) : o'.sortProperties.2 = o' := by
  have same : o' = o := by
    unfold OrderByOption.clause at failed
    split at failed
    · cases failed
    · split at failed <;> cases failed
      rfl
  subst same
  unfold OrderByOption.sortProperties
  rw [failed]
  split <;> rfl

/-- Validation under the stock hooks is a verdict on the clause and its sort properties, if the policy
allows to order. -/
theorem OrderByOption.validate_eq (o : OrderByOption) (p : Policy) : o.validate p =
    if p.options.contains .orderBy then
      (o.clause.1.mapError .parse >>= fun c =>
        o.clause.2.sortProperties.1 >>= fun properties =>
          (validateTerms Hooks.stock p (c.terms.zip properties)).result.mapError .validation,
        o.clause.2.sortProperties.2)
    else (.error (.validation (.optionNotAllowed .orderBy)), o) := by
  unfold OrderByOption.validate validateWith
  simp only [Walk.run_eq, Walk.result_enter]
  by_cases allowed : p.options.contains .orderBy
  · rw [if_pos allowed, if_pos allowed, validateClause]
    rcases found : o.clause with ⟨error | c, o'⟩
    · rw [sortProperties_of_clause found]
      rfl
    · dsimp only
      rcases o'.sortProperties with ⟨_ | properties, o''⟩
      · rfl
      · dsimp only
        rw [Walk.run_eq, Except.mapError_ok, Except.ok_bind, Except.ok_bind]
        cases (validateTerms Hooks.stock p (c.terms.zip properties)).result <;> rfl
  · rw [if_neg allowed, if_neg allowed]

/-- The verdict on a clause that has not been parsed. -/
theorem OrderByOption.validate_ofText : ((ofText text context).validate p).1 =
    if p.options.contains .orderBy then
      match parseOrderBy text context with
      | .error error => .error (.parse error)
      | .ok clause =>
        match sortPropertiesFrom 0 clause.terms with
        | .error error => .error (.orderBy error)
        | .ok _ => (clause.terms.forM p.termVerdict).mapError .validation
    else .error (.validation (.optionNotAllowed .orderBy)) := by
  rw [validate_eq, isFor_ofText.clause_eq, isFor_ofText.clause.sortProperties_eq, propertiesOf]
  split
  · cases parsed : parseOrderBy text context with
    | error => rfl
    | ok clause =>
      rw [Except.mapError_ok, Except.ok_bind, Except.ok_bind, sortProperties_of_parseOrderBy parsed]
      dsimp only
      cases found : sortPropertiesFrom 0 clause.terms with
      | error => rfl
      | ok properties =>
        rw [Except.mapError_ok, Except.ok_bind,
          result_validateTerms (sortPropertiesFrom_eq_ok_iff.1 found)]
  · rfl

theorem OrderByOption.validate_eq_ok :
    ((ofText text context).validate p).1 = .ok () ↔ p.Admits context .orderBy text := by
  rw [validate_ofText, Policy.Admits]
  by_cases allowed : p.options.contains .orderBy
  · rw [if_pos allowed, and_iff_right allowed]
    cases parseOrderBy text context with
    | error => simp
    | ok clause =>
      dsimp only
      cases found : sortPropertiesFrom 0 clause.terms with
      | error error =>
        obtain ⟨before, t, after, split, -, missing, -⟩ := sortPropertiesFrom_eq_error_iff.1 found
        refine iff_of_false nofun ?_
        rintro ⟨_, same, admitted⟩
        cases same
        obtain ⟨q, sorts, -⟩ := admitted t (by simp [split])
        exact missing ⟨q, sorts⟩
      | ok properties =>
        have sorts := exists_sortsBy_of_gives (sortPropertiesFrom_eq_ok_iff.1 found)
        simp only [Except.mapError_eq_ok, Except.forM_eq_ok, Policy.termVerdict_eq_ok,
          Except.ok.injEq, exists_eq_left']
        refine forall₂_congr fun t mem => ?_
        obtain ⟨q, hq⟩ := sorts t mem
        exact ⟨fun h => ⟨q, hq, h q hq⟩, fun ⟨r, hr, listed⟩ r' hr' => hr.unique hr' ▸ listed⟩
  · simp [allowed]

theorem OrderByOption.validate_eq_error {error : QueryError} :
    ((ofText text context).validate p).1 = .error error ↔
      p.RefusesOption context .orderBy text error := by
  rw [validate_ofText]
  constructor
  · intro h
    split at h
    case isFalse forbidden =>
      cases h
      exact .kind forbidden
    case isTrue allowed =>
      split at h
      case h_1 faulty =>
        cases h
        exact .orderText allowed faulty
      case h_2 clause parsed =>
        split at h
        case h_1 fault found =>
          cases h
          obtain ⟨before, t, after, split, given, missing, rfl⟩ :=
            sortPropertiesFrom_eq_error_iff.1 found
          rw [Nat.zero_add]
          exact .orderTerm allowed parsed split given missing
        case h_2 properties found =>
          obtain ⟨fault, refused, rfl⟩ := Except.mapError_eq_error.1 h
          obtain ⟨before, t, after, split, refused, passed⟩ := Except.forM_eq_error.1 refused
          obtain ⟨q, sorts, unlisted, rfl⟩ := Policy.termVerdict_eq_error.1 refused
          have sorted := exists_sortsBy_of_gives (sortPropertiesFrom_eq_ok_iff.1 found)
          exact .orderName allowed parsed sorted split
            (fun s mem => Policy.termVerdict_eq_ok.1 (passed s mem)) sorts unlisted
  · intro h
    generalize kind : OptionKind.orderBy = k at h
    cases h with
    | kind forbidden =>
      subst kind
      exact if_neg forbidden
    | orderText allowed faulty =>
      rw [if_pos allowed, faulty]
    | @orderTerm text clause before t after allowed parsed split given missing =>
      have found : sortPropertiesFrom 0 clause.terms =
          .error (.notAProperty (0 + before.length) t.expr.text) :=
        sortPropertiesFrom_eq_error_iff.2 ⟨before, t, after, split, given, missing, rfl⟩
      simp only [if_pos allowed, parsed, found, Nat.zero_add]
    | @orderName text clause before t after q allowed parsed sorted split listed sorts unlisted =>
      obtain ⟨columns, gives⟩ := exists_gives_of_sortsBy sorted
      have found : sortPropertiesFrom 0 clause.terms = .ok columns :=
        sortPropertiesFrom_eq_ok_iff.2 gives
      simp only [if_pos allowed, parsed, found]
      refine Except.mapError_eq_error.2 ⟨_, Except.forM_eq_error.2 ?_, rfl⟩
      exact ⟨_, _, _, split, Policy.termVerdict_eq_error.2 ⟨_, sorts, unlisted, rfl⟩,
        fun s mem => Policy.termVerdict_eq_ok.2 (listed s mem)⟩
    | filterText | filterNode => cases kind
    | paging paging => cases paging <;> cases kind

/-! ### Paging -/

theorem PagingKind.option_inj {kind other : PagingKind} :
    kind.option = other.option ↔ kind = other := by
  cases kind <;> cases other <;> decide

theorem Policy.admits_paging (kind : PagingKind) : p.Admits context kind.option text ↔
    p.options.contains kind.option ∧
      ∃ n, PagingOption.count? text.toList = some n ∧ ∀ max, p.bound kind = some max → n ≤ max := by
  cases kind <;> rfl

theorem Policy.refuses_paging (kind : PagingKind) {error : QueryError} :
    p.RefusesOption context kind.option text error ↔
      (¬ p.options.contains kind.option ∧ error = .validation (.optionNotAllowed kind.option)) ∨
      (p.options.contains kind.option ∧ ∃ n max, PagingOption.count? text.toList = some n ∧
        p.bound kind = some max ∧ max < n ∧ error = .validation (.pagingTooLarge kind n max)) := by
  constructor
  · intro h
    generalize same : kind.option = k at h
    cases h with
    | kind forbidden => exact .inl ⟨forbidden, rfl⟩
    | paging other allowed number bound tooLarge =>
      obtain rfl := PagingKind.option_inj.1 same
      exact .inr ⟨allowed, _, _, number, bound, tooLarge, rfl⟩
    | filterText | filterNode | orderText | orderTerm | orderName => cases kind <;> cases same
  · rintro (⟨forbidden, rfl⟩ | ⟨allowed, n, max, number, bound, tooLarge, rfl⟩)
    · exact .kind forbidden
    · exact .paging kind allowed number bound tooLarge

namespace PagingOption

variable {o : PagingOption}

theorem validate_eq_ok : o.validate p = .ok () ↔
    p.options.contains o.kind.option ∧ ∀ max, p.bound o.kind = some max → o.value ≤ max := by
  unfold validate
  by_cases allowed : p.options.contains o.kind.option
  · rw [if_pos allowed, and_iff_right allowed]
    cases bound : p.bound o.kind with
    | none => simp
    | some max =>
      by_cases tooLarge : max < o.value
      · simp [tooLarge]
      · simp [tooLarge, Nat.le_of_not_lt tooLarge]
  · simp [allowed]

theorem validate_eq_error {error : ValidationError} : o.validate p = .error error ↔
    (¬ p.options.contains o.kind.option ∧ error = .optionNotAllowed o.kind.option) ∨
    (p.options.contains o.kind.option ∧ ∃ max, p.bound o.kind = some max ∧ max < o.value ∧
      error = .pagingTooLarge o.kind o.value max) := by
  unfold validate
  by_cases allowed : p.options.contains o.kind.option
  · cases bound : p.bound o.kind with
    | none => simp [allowed]
    | some max => by_cases tooLarge : max < o.value <;> simp [allowed, tooLarge, eq_comm]
  · simp [allowed, eq_comm]

end PagingOption

/-- The verdict on a paging option. -/
theorem QueryOptions.validatePaging_some (o : PagingOption) :
    validatePaging p (some o) = (o.validate p).mapError .validation := by
  dsimp only [validatePaging]
  cases o.validate p <;> rfl

namespace Policy

/-- The verdict on the text of a paging option. -/
def pagingVerdict (p : Policy) (kind : PagingKind) (text : String) : Except QueryError Unit :=
  QueryOptions.validatePaging p (PagingOption.ofText? kind text)

theorem exists_ofText? {kind : PagingKind} (reads : kind.option.Reads text) :
    ∃ o, PagingOption.ofText? kind text = some o ∧ o.kind = kind ∧
      PagingOption.count? text.toList = some o.value := by
  have paging : kind.option = .skip ∨ kind.option = .top := by cases kind <;> decide
  obtain ⟨n, number⟩ := Option.isSome_iff_exists.1 (reads.2 paging)
  exact ⟨⟨kind, text, n⟩, by rw [PagingOption.ofText?, number]; rfl, rfl, number⟩

theorem pagingVerdict_eq_ok {kind : PagingKind} (reads : kind.option.Reads text) :
    p.pagingVerdict kind text = .ok () ↔ p.Admits context kind.option text := by
  obtain ⟨o, read, rfl, number⟩ := exists_ofText? reads
  rw [pagingVerdict, read, QueryOptions.validatePaging_some, Except.mapError_eq_ok,
    PagingOption.validate_eq_ok, admits_paging]
  simp [number]

theorem pagingVerdict_eq_error {kind : PagingKind} {error : QueryError}
    (reads : kind.option.Reads text) : p.pagingVerdict kind text = .error error ↔
      p.RefusesOption context kind.option text error := by
  obtain ⟨o, read, rfl, number⟩ := exists_ofText? reads
  rw [pagingVerdict, read, QueryOptions.validatePaging_some, Except.mapError_eq_error,
    refuses_paging]
  simp only [PagingOption.validate_eq_error, number, Option.some.injEq, exists_and_left,
    exists_eq_left']
  constructor
  · rintro ⟨fault, ⟨forbidden, rfl⟩ | ⟨allowed, max, bound, tooLarge, rfl⟩, rfl⟩
    · exact .inl ⟨forbidden, rfl⟩
    · exact .inr ⟨allowed, max, bound, tooLarge, rfl⟩
  · rintro (⟨forbidden, rfl⟩ | ⟨allowed, max, bound, tooLarge, rfl⟩)
    · exact ⟨_, .inl ⟨forbidden, rfl⟩, rfl⟩
    · exact ⟨_, .inr ⟨allowed, max, bound, tooLarge, rfl⟩, rfl⟩

/-! ## Verdicts on requests -/

/-- The verdict on the text of an option. -/
def optionVerdict (p : Policy) (context : QueryContext) (text : String) :
    OptionKind → Except QueryError Unit
  | .filter => ((FilterOption.ofText text context).validate p).1
  | .orderBy => ((OrderByOption.ofText text context).validate p).1
  | .skip => p.pagingVerdict .skip text
  | .top => p.pagingVerdict .top text

theorem optionVerdict_eq_ok {kind : OptionKind} (reads : kind.Reads text) :
    p.optionVerdict context text kind = .ok () ↔ p.Admits context kind text := by
  cases kind with
  | filter => exact FilterOption.validate_eq_ok
  | orderBy => exact OrderByOption.validate_eq_ok
  | skip => exact pagingVerdict_eq_ok reads
  | top => exact pagingVerdict_eq_ok reads

theorem optionVerdict_eq_error {kind : OptionKind} {error : QueryError}
    (reads : kind.Reads text) : p.optionVerdict context text kind = .error error ↔
      p.RefusesOption context kind text error := by
  cases kind with
  | filter => exact FilterOption.validate_eq_error
  | orderBy => exact OrderByOption.validate_eq_error
  | skip => exact pagingVerdict_eq_error reads
  | top => exact pagingVerdict_eq_error reads

/-- The verdict on an option that parameters may give. -/
def givenVerdict (p : Policy) (context : QueryContext) (params : List (String × String))
    (kind : OptionKind) : Except QueryError Unit :=
  match params.lookup kind.text with
  | none => .ok ()
  | some text => p.optionVerdict context text kind

variable {params : List (String × String)} {kind : OptionKind}

theorem givenVerdict_eq_ok (wellFormed : WellFormedParams params) :
    p.givenVerdict context params kind = .ok () ↔
      ∀ text, params.lookup kind.text = some text → p.Admits context kind text := by
  unfold givenVerdict
  cases given : params.lookup kind.text with
  | none => simp
  | some text => simp [optionVerdict_eq_ok (wellFormed.reads_of_lookup kind given)]

theorem givenVerdict_eq_error {error : QueryError} (wellFormed : WellFormedParams params) :
    p.givenVerdict context params kind = .error error ↔
      ∃ text, params.lookup kind.text = some text ∧ p.RefusesOption context kind text error := by
  unfold givenVerdict
  cases given : params.lookup kind.text with
  | none => simp
  | some text => simp [optionVerdict_eq_error (wellFormed.reads_of_lookup kind given)]

end Policy

namespace QueryOptions

variable {params : List (String × String)} {o : QueryOptions}

theorem exists_validateFilter_eq (o : QueryOptions) (p : Policy) :
    ∃ result f, o.validateFilter Hooks.stock p () = (result, { o with filter := f }, ()) := by
  unfold validateFilter
  split
  · exact ⟨_, o.filter, rfl⟩
  · exact ⟨_, _, rfl⟩

theorem exists_validateOrderBy_eq (o : QueryOptions) (p : Policy) :
    ∃ result, ∀ f, ∃ g, validateOrderBy Hooks.stock p { o with filter := f } () =
      (result, { o with filter := f, orderBy := g }, ()) := by
  unfold validateOrderBy
  dsimp only
  split
  · exact ⟨_, fun f => ⟨o.orderBy, rfl⟩⟩
  · exact ⟨_, fun f => ⟨_, rfl⟩⟩

/-- Validation goes from one option to the next while they are admitted. -/
theorem validate_eq_bind (o : QueryOptions) (p : Policy) : (o.validate p).1 =
    (o.validateFilter Hooks.stock p ()).1 >>= fun _ => (o.validateOrderBy Hooks.stock p ()).1 >>=
      fun _ => validatePaging p o.skip >>= fun _ => validatePaging p o.top := by
  obtain ⟨filterResult, f, filterStep⟩ := o.exists_validateFilter_eq p
  obtain ⟨orderResult, orderSteps⟩ := o.exists_validateOrderBy_eq p
  obtain ⟨_, orderAlone⟩ := orderSteps o.filter
  obtain ⟨g, orderStep⟩ := orderSteps f
  unfold validate validateWith
  rw [filterStep, orderAlone]
  cases filterResult with
  | error => rfl
  | ok =>
    dsimp only
    rw [orderStep]
    cases orderResult with
    | error => rfl
    | ok =>
      dsimp only
      cases validatePaging p o.skip <;> rfl

/-- Validation asks for the verdicts on the options in order. -/
theorem validate_requested (p : Policy) : ((requested context params).validate p).1 =
    OptionKind.inOrder.forM (p.givenVerdict context params) := by
  have filter : ((requested context params).validateFilter Hooks.stock p ()).1 =
      p.givenVerdict context params .filter := by
    unfold validateFilter Policy.givenVerdict requested OptionKind.text
    cases params.lookup "$filter" <;> rfl
  have orderBy : ((requested context params).validateOrderBy Hooks.stock p ()).1 =
      p.givenVerdict context params .orderBy := by
    unfold validateOrderBy Policy.givenVerdict requested OptionKind.text
    cases params.lookup "$orderby" <;> rfl
  have skip : validatePaging p (requested context params).skip =
      p.givenVerdict context params .skip := by
    unfold Policy.givenVerdict requested OptionKind.text
    cases params.lookup "$skip" <;> rfl
  have top : validatePaging p (requested context params).top =
      p.givenVerdict context params .top := by
    unfold Policy.givenVerdict requested OptionKind.text
    cases params.lookup "$top" <;> rfl
  have last : [OptionKind.top].forM (p.givenVerdict context params) =
      p.givenVerdict context params .top := Except.bind_unit _
  rw [validate_eq_bind, filter, orderBy, skip, top, OptionKind.inOrder, Except.forM_cons,
    Except.forM_cons, Except.forM_cons, last]

theorem validate_eq_ok_iff (accepted : ofParams context params = .ok o) :
    (o.validate p).1 = .ok () ↔
      ∀ kind text, params.lookup kind.text = some text → p.Admits context kind text := by
  obtain ⟨wellFormed, rfl⟩ := ofParams_eq_ok_iff.1 accepted
  have all : ∀ kind, kind ∈ OptionKind.inOrder := by
    intro kind
    cases kind <;> decide
  rw [validate_requested, Except.forM_eq_ok]
  simp only [Policy.givenVerdict_eq_ok wellFormed, all, forall_const]

theorem validate_eq_error_iff (accepted : ofParams context params = .ok o) {error : QueryError} :
    (o.validate p).1 = .error error ↔
      ∃ before kind after text, OptionKind.inOrder = before ++ kind :: after ∧
        params.lookup kind.text = some text ∧ p.RefusesOption context kind text error ∧
        ∀ earlier ∈ before, ∀ text, params.lookup earlier.text = some text →
          p.Admits context earlier text := by
  obtain ⟨wellFormed, rfl⟩ := ofParams_eq_ok_iff.1 accepted
  rw [validate_requested, Except.forM_eq_error]
  simp only [Policy.givenVerdict_eq_ok wellFormed, Policy.givenVerdict_eq_error wellFormed]
  constructor
  · rintro ⟨before, kind, after, split, ⟨text, given, refuses⟩, admitted⟩
    exact ⟨before, kind, after, text, split, given, refuses, admitted⟩
  · rintro ⟨before, kind, after, text, split, given, refuses, admitted⟩
    exact ⟨before, kind, after, split, ⟨text, given, refuses⟩, admitted⟩

/-- Validation admits a request if the policy admits each of its options, and otherwise gives the
error of the first option in order that the policy does not admit. The order of the parameters does
not matter. -/
theorem validate_first_fault (accepted : ofParams context params = .ok o) (p : Policy) :
    ((o.validate p).1 = .ok () ↔
      ∀ kind text, params.lookup kind.text = some text → p.Admits context kind text) ∧
    (∀ error, (o.validate p).1 = .error error ↔
      ∃ before kind after text, OptionKind.inOrder = before ++ kind :: after ∧
        params.lookup kind.text = some text ∧ p.RefusesOption context kind text error ∧
        ∀ earlier ∈ before, ∀ text, params.lookup earlier.text = some text →
          p.Admits context earlier text) ∧
    ∀ permuted, permuted.Perm params → ofParams context permuted = .ok o :=
  ⟨validate_eq_ok_iff accepted, fun _ => validate_eq_error_iff accepted,
    fun _ perm => ofParams_perm perm accepted⟩

end QueryOptions

/-- A policy that lets lines be ordered by their notes only, one line a page. -/
def onlyNotes : Policy := { Policy.permissive with orderByProperties := ["Note"], maxTop := some 1 }

/-- The page is too large, and the property to order by is not listed: the order comes first. -/
theorem QueryOptions.validate_first_fault_page : ∃ o, ofParams lineContext pageParams = .ok o ∧
    (o.validate onlyNotes).1 = .error (.validation (.orderByPropertyNotAllowed "Quantity")) ∧
    ∃ before kind after text, OptionKind.inOrder = before ++ kind :: after ∧
      pageParams.lookup kind.text = some text ∧
      onlyNotes.RefusesOption lineContext kind text
        (.validation (.orderByPropertyNotAllowed "Quantity")) ∧
      ∀ earlier ∈ before, ∀ text, pageParams.lookup earlier.text = some text →
        onlyNotes.Admits lineContext earlier text := by
  have known : (ofParams lineContext pageParams).toOption.map (fun o => (o.validate onlyNotes).1) =
      some (.error (.validation (.orderByPropertyNotAllowed "Quantity"))) := by decide +kernel
  obtain ⟨o, accepted, refused⟩ := Option.map_eq_some_iff.1 known
  have accepted := Except.toOption_eq_some.1 accepted
  exact ⟨o, accepted, refused, ((validate_first_fault accepted onlyNotes).2.1 _).1 refused⟩

end RecordQuery
