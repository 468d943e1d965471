/-!
# Nesting of parentheses

Parentheses are counted on the characters of a text, before its grammar is looked at. Those between
quotes do not count.

## Main definitions

* `Grammar.nestingOverflow?`: where the parentheses of a text nest too deep.
-/

namespace RecordQuery.Grammar

/-- The first byte position at which more than `limit` parentheses are open, from a position of a
text on, given how many are open there and whether it stands between quotes. -/
def nestingOverflowFrom? (limit : Nat) (depth : Nat) (quoted : Bool) (offset : Nat) :
    List Char → Option Nat
  | [] => none
  | c :: rest =>
    let next := offset + c.utf8Size
    if c == '\'' then nestingOverflowFrom? limit depth (!quoted) next rest
    else if c == '(' && !quoted then
      if limit < depth + 1 then some offset
      else nestingOverflowFrom? limit (depth + 1) quoted next rest
    else if c == ')' && !quoted then nestingOverflowFrom? limit (depth - 1) quoted next rest
    else nestingOverflowFrom? limit depth quoted next rest

/-- The first byte position of a text at which more than `limit` parentheses are open. -/
def nestingOverflow? (limit : Nat) (text : List Char) : Option Nat :=
  nestingOverflowFrom? limit 0 false 0 text

end RecordQuery.Grammar
