/-
From a text to its expression.

The grammar has three levels; operators of one level group to the left:

    sum     := product (('+' | '-') product)*
    product := factor (('*' | '/') factor)*
    factor  := ('+' | '-') factor | number | '(' sum ')'

A `Parser` reads one token after another.  It either needs an operand or has one and may go on
with an operator.  What is unfinished is kept in one `OpenGroup` for each open parenthesis, and one
for what is outside of all: a sum, a product, and the signs in front of the next factor.  A node
is made as soon as its last operand is complete, so nodes are in the order of their evaluation.

* `remaining_lt_of_step`: each step takes in a token.
-/
import Reckon.Event
import Reckon.Token.Cursor

namespace Reckon

/-- A left operand and the operator after it.  An operand is a node of the arena, or whatever else
stands for an expression. -/
structure Pending (ι : Type) where
  left : ι
  op : BinaryOp
  span : Span
  deriving DecidableEq

/-- What is open inside one pair of parentheses, or outside of all. -/
structure OpenGroup (ι : Type) where
  /-- The part of a sum before the current product. -/
  sum : Option (Pending ι)
  /-- The part of a product before the current factor. -/
  product : Option (Pending ι)
  /-- The signs before the current factor, the last one first. -/
  signs : List (UnaryOp × Span)
  deriving DecidableEq

namespace OpenGroup

/-- A group of which nothing has been read. -/
def empty {ι : Type} : OpenGroup ι := ⟨none, none, []⟩

end OpenGroup

/-- The state of reading an expression. -/
structure Parser where
  cursor : Cursor
  arena : Arena
  /-- The operand that was read last; none where one is needed. -/
  operand : Option NodeId
  /-- The innermost open group. -/
  group : OpenGroup NodeId
  /-- The groups around it, the innermost first. -/
  outer : List (OpenGroup NodeId)
  events : Array Event

namespace Parser

/-- The parser at the first token of a text. -/
def start (source : String) : Except LexError Parser :=
  (Cursor.start source).map fun cursor => ⟨cursor, .empty, none, .empty, [], #[]⟩

/-! ### Making nodes -/

/-- Applies signs to an operand, the first of the list first. -/
def applySigns : List (UnaryOp × Span) → NodeId → Arena → NodeId × Arena
  | [], operand, arena => (operand, arena)
  | (op, span) :: signs, operand, arena =>
    let (id, arena) := arena.alloc ⟨.unary op operand, span⟩
    applySigns signs id arena

/-- Completes what waits for a right operand, if anything does. -/
def applyPending (pending : Option (Pending NodeId)) (right : NodeId) (arena : Arena) :
    NodeId × Arena :=
  match pending with
  | none => (right, arena)
  | some ⟨left, op, span⟩ => arena.alloc ⟨.binary op left right, span⟩

/-- A factor has been read, but for the signs before it: applies them and completes the product
so far. -/
def completeFactor (p : Parser) (id : NodeId) : Parser :=
  let (factor, arena) := applySigns p.group.signs id p.arena
  let (product, arena) := applyPending p.group.product factor arena
  { p with arena, operand := some product, group := ⟨p.group.sum, none, []⟩ }

/-- A number has been read. -/
def completeNumber (p : Parser) (value : Binary64) (span : Span) : Parser :=
  let (id, arena) := p.arena.alloc ⟨.literal value, span⟩
  { p with arena }.completeFactor id

/-! ### Steps -/

/-- The outcome of one step. -/
inductive Step where
  | next (parser : Parser)
  | done (result : Except ParseError Expression) (events : Array Event)

/-- Gives up. -/
def fail (p : Parser) (error : ParseError) : Step := .done (.error error) p.events

/-- The current token does not fit. -/
def reject (p : Parser) : Step := p.fail p.cursor.unexpected

/-- Takes in the current token and goes on with `p`, changed by `change`. -/
@[inline] def take (p : Parser) (change : Parser → Parser) : Step :=
  match p.cursor.advance with
  | .error error => p.fail (.lex error)
  | .ok cursor =>
    .next (change { p with cursor, events := p.events.push (.advanced p.cursor.current) })

/-- Takes in a number. -/
def takeNumber (p : Parser) (value : Binary64) : Step :=
  let span := p.cursor.current.span
  p.take fun q => q.completeNumber value span

/-- Takes in a sign before a factor. -/
def takeSign (p : Parser) (op : UnaryOp) : Step :=
  let span := p.cursor.current.span
  p.take fun q => { q with group := { q.group with signs := (op, span) :: q.group.signs } }

/-- Takes in an operator of a product. -/
def takeFactorOp (p : Parser) (left : NodeId) (op : BinaryOp) : Step :=
  let span := p.cursor.current.span
  p.take fun q =>
    { q with operand := none, group := { q.group with product := some ⟨left, op, span⟩ } }

/-- Takes in an operator of a sum, after completing the sum before it. -/
def takeTermOp (p : Parser) (operand : NodeId) (op : BinaryOp) : Step :=
  let span := p.cursor.current.span
  let (left, arena) := applyPending p.group.sum operand p.arena
  { p with arena }.take fun q =>
    { q with operand := none, group := { q.group with sum := some ⟨left, op, span⟩ } }

/-- Takes in an opening parenthesis. -/
def takeOpen (p : Parser) : Step :=
  { p with events := p.events.push (.groupOpened p.cursor.current.span.start) }.take fun q =>
    { q with group := .empty, outer := q.group :: q.outer }

/-- Takes in a closing parenthesis, whose group then is a factor of the group around it. -/
def takeClose (p : Parser) (operand : NodeId) : Step :=
  match p.outer with
  | [] => p.reject
  | group :: outer =>
    let (id, arena) := applyPending p.group.sum operand p.arena
    { p with arena }.take fun q => { q with group, outer }.completeFactor id

/-- The text ends here. -/
def finish (p : Parser) (operand : NodeId) : Step :=
  match p.outer with
  | [] =>
    let (root, arena) := applyPending p.group.sum operand p.arena
    let expression : Expression := ⟨arena, root⟩
    .done (.ok expression) (p.events.push (.parsed expression))
  | _ :: _ => p.reject

/-- Reads one token. -/
def step (p : Parser) : Step :=
  match p.operand, p.cursor.current.kind with
  | none, .number value => p.takeNumber value
  | none, .symbol .minus => p.takeSign .neg
  | none, .symbol .plus => p.takeSign .plus
  | none, .symbol .openParen => p.takeOpen
  | none, _ => p.reject
  | some operand, .symbol .star => p.takeFactorOp operand .mul
  | some operand, .symbol .slash => p.takeFactorOp operand .div
  | some operand, .symbol .plus => p.takeTermOp operand .add
  | some operand, .symbol .minus => p.takeTermOp operand .sub
  | some operand, .symbol .closeParen => p.takeClose operand
  | some operand, .endOfInput => p.finish operand
  | some _, _ => p.reject

/-! ### Runs -/

/-- What is still to be read. -/
def remaining (p : Parser) : Nat := p.cursor.remaining

theorem remaining_lt_of_take {p q : Parser} {change : Parser → Parser}
    (h : p.take change = .next q) (hchange : ∀ r, (change r).cursor = r.cursor)
    (hopen : p.cursor.current.kind ≠ .endOfInput) : q.remaining < p.remaining := by
  unfold take at h
  split at h
  · exact absurd h (by simp [fail])
  · rename_i cursor hadvance
    obtain rfl := Step.next.inj h
    rw [remaining, hchange]
    exact Cursor.remaining_lt_of_advance hopen hadvance

theorem remaining_lt_of_step {p q : Parser} (h : p.step = .next q) :
    q.remaining < p.remaining := by
  unfold step at h
  split at h
  all_goals rename_i hkind
  · unfold takeNumber at h
    exact remaining_lt_of_take h (fun _ => rfl) (by simp [hkind])
  · unfold takeSign at h
    exact remaining_lt_of_take h (fun _ => rfl) (by simp [hkind])
  · unfold takeSign at h
    exact remaining_lt_of_take h (fun _ => rfl) (by simp [hkind])
  · unfold takeOpen at h
    have hlt := remaining_lt_of_take h (fun _ => rfl) (by simp [hkind])
    exact hlt
  · exact absurd h (by simp [reject, fail])
  · unfold takeFactorOp at h
    exact remaining_lt_of_take h (fun _ => rfl) (by simp [hkind])
  · unfold takeFactorOp at h
    exact remaining_lt_of_take h (fun _ => rfl) (by simp [hkind])
  · unfold takeTermOp at h
    have hlt := remaining_lt_of_take h (fun _ => rfl) (by simp [hkind])
    exact hlt
  · unfold takeTermOp at h
    have hlt := remaining_lt_of_take h (fun _ => rfl) (by simp [hkind])
    exact hlt
  · unfold takeClose at h
    split at h
    · exact absurd h (by simp [reject, fail])
    · have hlt := remaining_lt_of_take h (fun _ => rfl) (by simp [hkind])
      exact hlt
  · unfold finish at h
    split at h
    · exact absurd h (by simp)
    · exact absurd h (by simp [reject, fail])
  · exact absurd h (by simp [reject, fail])

/-- Reads up to the end of the text or the first error. -/
def run (p : Parser) : Except ParseError Expression × Array Event :=
  match h : p.step with
  | .next q =>
    have := remaining_lt_of_step h
    q.run
  | .done result events => (result, events)
termination_by p.remaining

end Parser

/-- The expression that a text stands for, and the events of reading it. -/
def parse (source : String) : Except ParseError Expression × Array Event :=
  match Parser.start source with
  | .ok p => p.run
  | .error error => (.error (.lex error), #[])

end Reckon
