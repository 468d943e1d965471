import RecordQuery.Json.Basic
import RecordQuery.Policy.Basic
import RecordQuery.Power

/-!
# Policies as JSON

A policy is stored as an object with one member for each of its seven fields, in which sets are
lists of the texts of their tags. A configuration may leave out fields, which then have their
default; it may also list the fields in order without their names. The members of an object are read
in the order of their names, and the bounds are checked at the end.

## Main definitions

* `Policy.toJson`, `Policy.ofJson`: writing and reading.
* `PolicyError`: why a configuration is no policy.
-/

namespace RecordQuery

/-- Why a configuration is no policy. -/
inductive PolicyError where
  | malformed
  | unknownTag (kind name : String)
  | config (e : ConfigError)
  deriving DecidableEq, Repr

/-- The wording, if the configuration has the right shape. -/
def PolicyError.message? : PolicyError → Option String
  | malformed => none
  | unknownTag kind name => some ("unknown " ++ kind ++ " '" ++ name ++ "'")
  | config e => some e.message

/-- The fields of a configuration as far as they have been read. -/
structure PolicyFields where
  policy : Policy
  maxSkip : Option Int
  maxTop : Option Int

namespace Policy

/-! ## Writing -/

/-- The texts of the tags of a set. -/
def tagsToJson {τ : Type} [PolicyTag τ] (s : AllowedSet τ) : Json :=
  Json.strings (s.toList.map PolicyTag.text)

def boundToJson : Option Nat → Json
  | some n => .int n
  | none => .null

/-- The stored form of a policy. -/
def toJson (p : Policy) : Json :=
  .object
    [("allowed_arithmetic_operators", tagsToJson p.arithmetic),
     ("allowed_logical_operators", tagsToJson p.logical),
     ("allowed_functions", tagsToJson p.functions),
     ("allowed_query_options", tagsToJson p.options),
     ("allowed_order_by_properties", Json.strings p.orderByProperties),
     ("max_skip", boundToJson p.maxSkip),
     ("max_top", boundToJson p.maxTop)]

/-! ## Reading -/

/-- The tags with some texts. -/
def tagsOfTexts {τ : Type} [PolicyTag τ] : List String → Except PolicyError (List τ)
  | [] => .ok []
  | text :: rest =>
    match PolicyTag.ofText? text with
    | none => .error (.unknownTag (PolicyTag.kind τ) text)
    | some tag => do
      let more ← tagsOfTexts rest
      return tag :: more

/-- The set of the tags whose texts are listed. -/
def setOfJson {τ : Type} [PolicyTag τ] (j : Json) : Except PolicyError (AllowedSet τ) :=
  match j.toStrings? with
  | none => .error .malformed
  | some texts => do
    let tags ← tagsOfTexts texts
    return .only tags

/-- A bound, which is null or a 64-bit integer. -/
def boundOfJson : Json → Except PolicyError (Option Int)
  | .null => .ok none
  | .int n => if -(2 ^ 63) ≤ n ∧ n < 2 ^ 63 then .ok (some n) else .error .malformed
  | _ => .error .malformed

/-- The names of the fields, in the order in which they may be listed without them. -/
def fieldNames : List String :=
  ["allowed_arithmetic_operators", "allowed_logical_operators", "allowed_functions",
   "allowed_query_options", "allowed_order_by_properties", "max_skip", "max_top"]

/-- Read one field. -/
def readField (fields : PolicyFields) (name : String) (j : Json) :
    Except PolicyError PolicyFields :=
  let p := fields.policy
  match name with
  | "allowed_arithmetic_operators" => do
    let s ← setOfJson j
    return { fields with policy := { p with arithmetic := s } }
  | "allowed_logical_operators" => do
    let s ← setOfJson j
    return { fields with policy := { p with logical := s } }
  | "allowed_functions" => do
    let s ← setOfJson j
    return { fields with policy := { p with functions := s } }
  | "allowed_query_options" => do
    let s ← setOfJson j
    return { fields with policy := { p with options := s } }
  | "allowed_order_by_properties" =>
    match j.toStrings? with
    | none => .error .malformed
    | some names =>
      .ok { fields with
        policy := { p with orderByProperties := names.foldl (fun l n => insertName n l) [] } }
  | "max_skip" => do
    let n ← boundOfJson j
    return { fields with maxSkip := n }
  | "max_top" => do
    let n ← boundOfJson j
    return { fields with maxTop := n }
  | _ => .error .malformed

/-- Read some fields in turn. -/
def readFields (fields : PolicyFields) :
    List (String × Json) → Except PolicyError PolicyFields
  | [] => .ok fields
  | (name, j) :: rest => do
    let fields ← readField fields name j
    readFields fields rest

/-- Check a bound of a configuration. -/
def boundOfField (kind : PagingKind) (n : Option Int) : Except PolicyError (Option Nat) :=
  match checkBound kind n with
  | .ok n => .ok n
  | .error e => .error (.config e)

/-- Check the bounds of fields that have been read. -/
def ofFields (fields : PolicyFields) : Except PolicyError Policy := do
  let skip ← boundOfField .skip fields.maxSkip
  let top ← boundOfField .top fields.maxTop
  return { fields.policy with maxSkip := skip, maxTop := top }

/-- The policy of a configuration. -/
def ofJson (j : Json) : Except PolicyError Policy :=
  let start : PolicyFields := ⟨permissive, none, none⟩
  match j with
  | .object members => do
    let sorted := members.mergeSort fun a b => decide (a.1 ≤ b.1)
    let fields ← readFields start sorted
    ofFields fields
  | .array items => do
    let fields ← readFields start (fieldNames.zip items)
    if fieldNames.length < items.length then .error .malformed else ofFields fields
  | _ => .error .malformed

end Policy

end RecordQuery
