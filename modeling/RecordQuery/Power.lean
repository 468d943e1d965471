/-!
# Powers of numbers

The powers in this library are those of the core library, also where the theory of monoids has
powers of its own in scope. They compute, and they are the same in every module.
-/

namespace RecordQuery

@[default_instance 20000]
scoped instance (priority := 20000) natPow : Pow Nat Nat := instPowNat

@[default_instance 20000]
scoped instance (priority := 20000) intPow : Pow Int Nat := instPowNat

end RecordQuery
