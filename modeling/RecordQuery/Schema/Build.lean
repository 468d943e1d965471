import RecordQuery.Schema.Model

/-!
# Building a model

A model is built from a list of declarations. The names of the types must differ; then every type,
in the order of the names, is checked along its chain of base types: the chain must end, no property
may occur twice on it, and the types of its properties and its base types must be declared.

## Main definitions

* `TypeDeclaration`: a declared type.
* `SchemaError`: why declarations make no model.
* `Model.build`: the model of some declarations.
* `QueryContext`: a model and the type that queries are about.
-/

namespace RecordQuery

/-- A declared type with the names and types of its properties. -/
structure TypeDeclaration where
  name : String
  kind : TypeKind
  base : Option String
  properties : List (String × TypeRef)
  deriving DecidableEq, Repr, Inhabited

/-- Why declarations make no model. -/
inductive SchemaError where
  | duplicateType (name : String)
  | unknownType (name : String)
  | unknownBaseType (derived base : String)
  | unknownPropertyType (owner property type : String)
  | duplicateProperty (owner property : String)
  | inheritanceCycle (name : String)
  deriving DecidableEq, Repr

def SchemaError.message : SchemaError → String
  | duplicateType name => "type '" ++ name ++ "' is declared twice"
  | unknownType name => "type '" ++ name ++ "' is not declared"
  | unknownBaseType derived base =>
    "base type '" ++ base ++ "' of '" ++ derived ++ "' is not declared"
  | unknownPropertyType owner property type =>
    "property '" ++ property ++ "' of '" ++ owner ++ "' refers to undeclared type '" ++ type ++ "'"
  | duplicateProperty owner property =>
    "property '" ++ property ++ "' is declared twice in the hierarchy of '" ++ owner ++ "'"
  | inheritanceCycle name => "inheritance cycle through '" ++ name ++ "'"

/-- The type that a declaration describes. -/
def TypeDeclaration.toType (d : TypeDeclaration) : StructuredType where
  name := d.name
  kind := d.kind
  base := d.base
  properties := d.properties.map fun (name, type) => ⟨d.name, name, type⟩

/-- The first item of a list that is among `seen` or the items before it. -/
def firstRepeat? {α : Type} [BEq α] (seen : List α) : List α → Option α
  | [] => none
  | a :: rest => if seen.contains a then some a else firstRepeat? (a :: seen) rest

namespace Model

/-- Check properties of the type `holder` on the chain of the type `owner`, given the names seen
before on the chain. Returns all names seen. -/
def checkProperties (m : Model) (owner holder : String) (seen : List String) :
    List Property → Except SchemaError (List String)
  | [] => .ok seen
  | p :: rest =>
    if seen.contains p.name then .error (.duplicateProperty owner p.name)
    else match p.type.structuredName? with
      | some type =>
        if (m.find? type).isSome then m.checkProperties owner holder (p.name :: seen) rest
        else .error (.unknownPropertyType holder p.name type)
      | none => m.checkProperties owner holder (p.name :: seen) rest

/-- Check the chain of the type `owner` from one of its types on, given the types and the property
names seen before. A chain with more types than the model has comes back to one of them. -/
def checkChain (m : Model) (owner : String) :
    Nat → List String → List String → StructuredType → Except SchemaError Unit
  | 0, _, _, _ => .error (.inheritanceCycle owner)
  | fuel + 1, seenTypes, seenProperties, t =>
    if seenTypes.contains t.name then .error (.inheritanceCycle owner)
    else do
      let seenProperties ← m.checkProperties owner t.name seenProperties t.properties
      match t.base with
      | none => .ok ()
      | some base =>
        match m.find? base with
        | none => .error (.unknownBaseType t.name base)
        | some next => m.checkChain owner fuel (t.name :: seenTypes) seenProperties next

/-- Check a type along its chain. -/
def checkType (m : Model) (t : StructuredType) : Except SchemaError Unit :=
  m.checkChain t.name (m.types.length + 1) [] [] t

/-- The model of some declarations, unchecked but for the order of the names. -/
def ofDeclarations (declarations : List TypeDeclaration) : Model :=
  ⟨(declarations.map TypeDeclaration.toType).mergeSort fun a b => decide (a.name ≤ b.name)⟩

/-- The model of some declarations. -/
def build (declarations : List TypeDeclaration) : Except SchemaError Model :=
  match firstRepeat? [] (declarations.map (·.name)) with
  | some name => .error (.duplicateType name)
  | none => do
    let m := ofDeclarations declarations
    m.types.forM m.checkType
    return m

end Model

/-- A model and the type that queries are about. -/
structure QueryContext where
  model : Model
  element : StructuredType
  deriving DecidableEq, Repr, Inhabited

/-- The context for queries about a type of a model. -/
def Model.context (m : Model) (element : String) : Except SchemaError QueryContext :=
  match m.find? element with
  | some t => .ok ⟨m, t⟩
  | none => .error (.unknownType element)

end RecordQuery
