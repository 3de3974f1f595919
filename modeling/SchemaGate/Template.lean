import SchemaGate.Awaited
import SchemaGate.Text.Blank
import SchemaGate.Text.NameMap

/-!
# Templates

An expression is text with placeholders, names in braces, that are filled in from the attributes of a
request or a message.  It is cut into pieces first, without looking at the attributes, so whether an
expression is well formed depends on the expression alone and a value that is filled in is never read
as a part of it.
-/

namespace SchemaGate

/-- What a well-formed expression consists of. -/
inductive Piece where
  | literal (char : Char)
  | value (name : String)
deriving DecidableEq, Repr

/-- What is wrong with an expression; `start` counts the bytes before the opening brace. -/
inductive TemplateFault where
  | emptyPlaceholder
  | unterminated (start : Nat)
deriving DecidableEq, Repr

def TemplateFault.reason : TemplateFault → String
  | .emptyPlaceholder => "empty placeholder"
  | .unterminated start => "unterminated placeholder at byte " ++ toString start

inductive TemplateError where
  | invalidExpression (expression : String) (fault : TemplateFault)
  | evaluation (reason : String)
deriving DecidableEq, Repr

def TemplateError.message : TemplateError → String
  | .invalidExpression expression fault =>
    "invalid expression '" ++ expression ++ "': " ++ fault.reason
  | .evaluation reason => "expression evaluation failed: " ++ reason

/-- How the host gives an expression its value, if it has one. -/
abbrev Evaluator := String → Except TemplateError (Option String)

/-- The engine that evaluates expressions for an event, which may take its time over each of them.  One
that is never done with an expression is polled until the event is cancelled. -/
structure Engine where
  evaluate : Evaluator
  polls : String → Polls := fun _ => {}

namespace Template

def openBrace : Char := '\x7b'

def closeBrace : Char := '\x7d'

/-- A placeholder whose end has not been reached: where it starts and its name so far, the last
character first. -/
structure Unclosed where
  start : Nat
  name : List Char
deriving DecidableEq, Repr

/-- Cuts the characters that follow `offset` bytes into pieces. -/
def piecesFrom (offset : Nat) : Option Unclosed → List Char → Except TemplateFault (List Piece)
  | none, [] => .ok []
  | some p, [] => .error (.unterminated p.start)
  | none, c :: rest =>
    if c = openBrace then piecesFrom (offset + c.utf8Size) (some ⟨offset, []⟩) rest
    else do
      let pieces ← piecesFrom (offset + c.utf8Size) none rest
      .ok (.literal c :: pieces)
  | some p, c :: rest =>
    if c = closeBrace then
      match trimChars p.name.reverse with
      | [] => .error .emptyPlaceholder
      | name => do
        let pieces ← piecesFrom (offset + c.utf8Size) none rest
        .ok (.value (String.ofList name) :: pieces)
    else piecesFrom (offset + c.utf8Size) (some { p with name := c :: p.name }) rest

def pieces (expression : String) : Except TemplateFault (List Piece) :=
  piecesFrom 0 none expression.toList

/-- The characters of a piece; a name without a value has none. -/
def fill (value? : String → Option String) : Piece → List Char
  | .literal c => [c]
  | .value name => ((value? name).getD "").toList

theorem flatMap_fill_congr {value? other? : String → Option String} {pieces : List Piece}
    (h : ∀ name, .value name ∈ pieces → value? name = other? name) :
    pieces.flatMap (fill value?) = pieces.flatMap (fill other?) := by
  induction pieces with
  | nil => rfl
  | cons piece rest ih =>
    rw [List.flatMap_cons, List.flatMap_cons, ih fun name member => h name (by simp [member])]
    cases piece with
    | literal c => rfl
    | value name => rw [fill, fill, h name (by simp)]

def render (value? : String → Option String) (expression : String) : Except TemplateError String :=
  match pieces expression with
  | .ok pieces => .ok (String.ofList (pieces.flatMap (fill value?)))
  | .error fault => .error (.invalidExpression expression fault)

/-- Only the names that stand in an expression matter for it. -/
theorem render_congr {value? other? : String → Option String} {expression : String}
    (h : ∀ list, pieces expression = .ok list → ∀ name, .value name ∈ list →
      value? name = other? name) :
    render value? expression = render other? expression := by
  unfold render
  cases cut : pieces expression with
  | error fault => rfl
  | ok list => simp only [flatMap_fill_congr (h list cut)]

/-- An expression that comes out empty has no value. -/
def evaluate (value? : String → Option String) : Evaluator := fun expression => do
  let text ← render value? expression
  .ok (if text.isEmpty then none else some text)

end Template

/-- The attributes of a request or a message. -/
abbrev Attributes := NameMap String

namespace Attributes

def render (attributes : Attributes) (expression : String) : Except TemplateError String :=
  Template.render attributes.get? expression

def evaluator (attributes : Attributes) : Evaluator :=
  Template.evaluate attributes.get?

end Attributes

end SchemaGate
