import RecordQuery.Text.Path

/-!
# Recognizers

A recognizer reads a text from a cursor on. It succeeds with a value and the cursor behind what it
read, or it fails. Choices are ordered and repetitions are greedy; neither is taken back later.

Next to its outcome a recognizer reports the furthest byte position at which a token or a rule
failed, including those of choices that were given up. For a text that is no expression this is the
position of the syntax error. Failures inside a token do not count, nor do those of punctuation.

## Main definitions

* `Cursor`, `Reply`, `Recognizer`: positions, results and recognizers.
* `Recognizer.token`, `Recognizer.rule`: recognizers whose failures are reported.
* `Recognizer.orElse`, `Recognizer.attempt`, `Recognizer.many`: choice, option and repetition.
-/

namespace RecordQuery.Grammar

/-- A byte position in a text and the characters from there on. -/
structure Cursor where
  offset : Nat
  rest : List Char
  deriving DecidableEq, Repr, Inhabited

/-- The start of a text. -/
def Cursor.start (text : List Char) : Cursor := ⟨0, text⟩

/-- A blank between tokens. -/
def isSpace (c : Char) : Bool := c == ' ' || c == '\t' || c == '\r' || c == '\n'

/-- The cursor behind some characters of its text. -/
def Cursor.after (c : Cursor) (read : List Char) : Cursor :=
  ⟨c.offset + Text.byteLength read, c.rest.drop read.length⟩

/-- The cursor behind the blanks. -/
def Cursor.skip (c : Cursor) : Cursor := c.after (c.rest.takeWhile isSpace)

/-- What a recognizer found, and the furthest position at which a token or a rule failed. -/
structure Reply (α : Type) where
  furthest : Nat
  outcome : Option (α × Cursor)

/-- A reader of a text. -/
def Recognizer (α : Type) := Cursor → Reply α

namespace Recognizer

variable {α β : Type}

/-! ## Sequences -/

protected def pure (a : α) : Recognizer α := fun c => ⟨0, some (a, c)⟩

protected def bind (p : Recognizer α) (next : α → Recognizer β) : Recognizer β := fun c =>
  let first := p c
  match first.outcome with
  | none => ⟨first.furthest, none⟩
  | some (a, c) =>
    let second := next a c
    ⟨max first.furthest second.furthest, second.outcome⟩

instance : Monad Recognizer where
  pure := Recognizer.pure
  bind := Recognizer.bind

/-- A recognizer that never succeeds. -/
def fail : Recognizer α := fun _ => ⟨0, none⟩

/-- The byte position of the cursor. -/
def position : Recognizer Nat := fun c => ⟨0, some (c.offset, c)⟩

/-! ## Choice and repetition -/

/-- Try another recognizer at the same place if the first one fails. -/
protected def orElse (p q : Recognizer α) : Recognizer α := fun c =>
  let first := p c
  match first.outcome with
  | some _ => first
  | none =>
    let second := q c
    ⟨max first.furthest second.furthest, second.outcome⟩

/-- Try some recognizers in turn. -/
def firstOf : List (Recognizer α) → Recognizer α
  | [] => fail
  | p :: rest => p.orElse (firstOf rest)

/-- Read something if it is there, and nothing otherwise. -/
def attempt (p : Recognizer α) : Recognizer (Option α) :=
  Recognizer.orElse (Recognizer.bind p fun a => Recognizer.pure (some a)) (Recognizer.pure none)

/-- Read something as often as it is there, with a number of tries. -/
def manyUpTo (p : Recognizer α) : Nat → Recognizer (List α)
  | 0 => Recognizer.pure []
  | n + 1 =>
    Recognizer.bind (attempt p) fun
      | none => Recognizer.pure []
      | some a => Recognizer.bind (manyUpTo p n) fun more => Recognizer.pure (a :: more)

/-- Read something as often as it is there. Each time takes at least one character, so there is at
most one try for each character and one that fails at the end. -/
def many (p : Recognizer α) : Recognizer (List α) := fun c => manyUpTo p (c.rest.length + 1) c

/-! ## Characters -/

/-- Read the characters of a class, as many as there are. -/
def run (belongs : Char → Bool) : Recognizer (List Char) := fun c =>
  let read := c.rest.takeWhile belongs
  ⟨0, some (read, c.after read)⟩

/-- Read the characters of a class, at least one. -/
def run1 (belongs : Char → Bool) : Recognizer (List Char) := fun c =>
  let read := c.rest.takeWhile belongs
  if read.isEmpty then ⟨0, none⟩ else ⟨0, some (read, c.after read)⟩

/-- Read one character of a class. -/
def one (belongs : Char → Bool) : Recognizer Char := fun c =>
  match c.rest with
  | [] => ⟨0, none⟩
  | d :: rest => if belongs d then ⟨0, some (d, ⟨c.offset + d.utf8Size, rest⟩)⟩ else ⟨0, none⟩

/-- Read a fixed text. -/
def exactly (text : List Char) : Recognizer Unit := fun c =>
  if text.isPrefixOf c.rest then ⟨0, some ((), c.after text)⟩ else ⟨0, none⟩

/-- Succeed if the next character is not one of a class. -/
def notBefore (belongs : Char → Bool) : Recognizer Unit := fun c =>
  match c.rest with
  | [] => ⟨0, some ((), c)⟩
  | d :: _ => if belongs d then ⟨0, none⟩ else ⟨0, some ((), c)⟩

/-- Succeed if something does not follow. -/
def absent (p : Recognizer α) : Recognizer Unit := fun c =>
  match (p c).outcome with
  | some _ => ⟨0, none⟩
  | none => ⟨0, some ((), c)⟩

/-! ## Tokens and rules -/

/-- Skip the blanks. -/
def blanks : Recognizer Unit := fun c => ⟨0, some ((), c.skip)⟩

/-- Punctuation after blanks. -/
def mark (text : String) : Recognizer Unit :=
  Recognizer.bind blanks fun _ => exactly text.toList

/-- Report a failure at the place where a recognizer started, and none inside it. -/
def whole (p : Recognizer α) : Recognizer α := fun c =>
  match (p c).outcome with
  | some found => ⟨0, some found⟩
  | none => ⟨c.offset, none⟩

/-- Report a failure at the place where a recognizer started, next to those inside it. -/
def reported (p : Recognizer α) : Recognizer α := fun c =>
  let reply := p c
  match reply.outcome with
  | some found => ⟨reply.furthest, some found⟩
  | none => ⟨max reply.furthest c.offset, none⟩

/-- A token: after blanks, and reported as a whole. -/
def token (p : Recognizer α) : Recognizer α := Recognizer.bind blanks fun _ => whole p

/-- A rule: after blanks, and reported with what it is made of. -/
def rule (p : Recognizer α) : Recognizer α := Recognizer.bind blanks fun _ => reported p

/-- The end of the text, after blanks. -/
def endOfText : Recognizer Unit := token fun c =>
  if c.rest.isEmpty then ⟨0, some ((), c)⟩ else ⟨0, none⟩

/-! ## Results -/

/-- The value that a recognizer finds at a cursor. -/
def value? (p : Recognizer α) (c : Cursor) : Option α := (p c).outcome.map (·.1)

@[simp] theorem outcome_pure (a : α) (c : Cursor) :
    ((pure a : Recognizer α) c).outcome = some (a, c) := rfl

theorem outcome_bind (p : Recognizer α) (next : α → Recognizer β) (c : Cursor) :
    ((p >>= next) c).outcome = (p c).outcome.bind fun (a, c) => (next a c).outcome := by
  show (Recognizer.bind p next c).outcome = _
  unfold Recognizer.bind
  cases h : (p c).outcome <;> simp [h]

theorem outcome_orElse (p q : Recognizer α) (c : Cursor) :
    (p.orElse q c).outcome = (p c).outcome.or (q c).outcome := by
  unfold Recognizer.orElse
  cases h : (p c).outcome <;> simp [h]

@[simp] theorem outcome_reported (p : Recognizer α) (c : Cursor) :
    (reported p c).outcome = (p c).outcome := by
  unfold reported
  cases h : (p c).outcome <;> simp [h]

@[simp] theorem outcome_whole (p : Recognizer α) (c : Cursor) :
    (whole p c).outcome = (p c).outcome := by
  unfold whole
  cases (p c).outcome <;> rfl

theorem outcome_attempt (p : Recognizer α) (c : Cursor) : (attempt p c).outcome =
    some (match (p c).outcome with
      | none => (none, c)
      | some (a, d) => (some a, d)) := by
  unfold attempt
  rw [outcome_orElse]
  show ((p >>= fun a => (pure (some a) : Recognizer (Option α))) c).outcome.or _ = _
  rw [outcome_bind]
  cases (p c).outcome <;> rfl

theorem outcome_manyUpTo_succ (p : Recognizer α) (n : Nat) (c : Cursor) :
    (manyUpTo p (n + 1) c).outcome = match (p c).outcome with
      | none => some ([], c)
      | some (a, d) => (manyUpTo p n d).outcome.map fun (more, e) => (a :: more, e) := by
  show ((attempt p >>= _) c).outcome = _
  rw [outcome_bind, outcome_attempt]
  cases (p c).outcome with
  | none => rfl
  | some ad =>
    obtain ⟨a, d⟩ := ad
    show ((manyUpTo p n >>= fun more => (pure (a :: more) : Recognizer (List α))) d).outcome = _
    rw [outcome_bind]
    dsimp only
    cases (manyUpTo p n d).outcome <;> rfl

end Recognizer

end RecordQuery.Grammar
