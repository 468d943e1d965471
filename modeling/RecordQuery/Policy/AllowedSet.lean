import RecordQuery.Policy.Tag
import RecordQuery.Text.Hex

/-!
# Sets of tags

The allowed tags of one kind, one bit for each.

## Main definitions

* `AllowedSet`: the sets, with `all`, `none`, `only`, `except` and `ofBits`.
* `AllowedSet.contains`, `AllowedSet.insert`, `AllowedSet.remove`, `AllowedSet.toList`.
* `ConfigError`: why a configuration is not accepted.
-/

namespace RecordQuery

/-- Why a configuration is not accepted. -/
inductive ConfigError where
  | unknownFlags (kind : String) (bits : UInt64)
  | negativeBound (kind : PagingKind) (value : Int)
  deriving DecidableEq, Repr

def ConfigError.message : ConfigError → String
  | unknownFlags kind bits =>
    "bits 0x" ++ String.ofList (Text.hexDigits bits.toNat) ++ " are not valid " ++ kind ++ " flags"
  | negativeBound kind value =>
    kind.boundName ++ " must not be negative, got " ++ toString value

/-- A set of tags of one kind. -/
structure AllowedSet (τ : Type) where
  bits : UInt64
  deriving DecidableEq, Repr

namespace AllowedSet

/-- The empty set. -/
def none {τ : Type} : AllowedSet τ := ⟨0⟩

def isEmpty {τ : Type} (s : AllowedSet τ) : Bool := s.bits == 0

variable {τ : Type} [PolicyTag τ]

/-! ## Members -/

def contains (s : AllowedSet τ) (tag : τ) : Bool := s.bits &&& PolicyTag.bit tag != 0

def insert (s : AllowedSet τ) (tag : τ) : AllowedSet τ := ⟨s.bits ||| PolicyTag.bit tag⟩

def remove (s : AllowedSet τ) (tag : τ) : AllowedSet τ := ⟨s.bits &&& ~~~(PolicyTag.bit tag)⟩

/-- The members in the order of their kind. -/
def toList (s : AllowedSet τ) : List τ := PolicyTag.tags.filter s.contains

/-! ## Construction -/

/-- The set of all tags. -/
def all : AllowedSet τ := ⟨PolicyTag.allBits τ⟩

instance : Inhabited (AllowedSet τ) := ⟨all⟩

/-- The set of some tags. -/
def only (tags : List τ) : AllowedSet τ := tags.foldl insert none

/-- The set of all tags but some. -/
def except (tags : List τ) : AllowedSet τ := tags.foldl remove all

/-- The bits that belong to no tag. -/
def foreignBits (τ : Type) [PolicyTag τ] (bits : UInt64) : UInt64 :=
  bits &&& ~~~(PolicyTag.allBits τ)

/-- The set with some bits, each of which must belong to a tag. -/
def ofBits (bits : UInt64) : Except ConfigError (AllowedSet τ) :=
  if foreignBits τ bits = 0 then .ok ⟨bits⟩
  else .error (.unknownFlags (PolicyTag.kind τ) (foreignBits τ bits))

/-- The titles of the members in braces. -/
def titles (s : AllowedSet τ) : String :=
  "\x7b" ++ ", ".intercalate (s.toList.map PolicyTag.title) ++ "\x7d"

end AllowedSet

end RecordQuery
