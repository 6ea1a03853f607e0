/-
Reading an expression by recursive descent.

There is a reading for each rank of the grammar: a factor calls for a factor behind a sign and for a
sum behind a parenthesis, and a chain calls for its operands.  A parser does the same with open
groups in the place of calls.  A `Descent` also keeps what it has done: the tokens that it took in,
the lexers that it asked for an item, and the points that it passed.

Each reading has a budget, for the depth of calls and for the rounds of a chain; without one left it
has no outcome.

* `Reading.readsFactor_factor`: a factor is read as a parser reads it, whatever is open around it;
* `course_eq_parse`: a course that has an outcome has that of the parser, and the same reports.
-/
import Reckon.Proofs.ParserTrees

namespace Reckon

/-- The operator that a token of this kind is in the chains of the rank. -/
def Rank.op? : Rank → TokenKind → Option BinaryOp
  | .sum, .symbol .plus => some .add
  | .sum, .symbol .minus => some .sub
  | .product, .symbol .star => some .mul
  | .product, .symbol .slash => some .div
  | _, _ => none

theorem Rank.eq_of_op?_eq_some {rank : Rank} {kind : TokenKind} {op : BinaryOp}
    (h : rank.op? kind = some op) : op.rank = rank ∧ kind = .symbol op.sign := by
  unfold op? at h
  split at h <;> first
    | (obtain rfl := Option.some.inj h; exact ⟨rfl, rfl⟩)
    | exact absurd h (by simp)

theorem exists_of_map_eq_ok {ε α β : Type} {x : Except ε α} {f : α → β} {b : β}
    (h : x.map f = .ok b) : ∃ a, x = .ok a ∧ b = f a := by
  cases x with
  | error error => exact absurd h (by simp [Except.map])
  | ok a => exact ⟨a, rfl, (Except.ok.inj h).symm⟩

/-! ### What a descent keeps -/

/-- What is done at a point of a descent. -/
inductive Act where
  /-- A factor is begun. -/
  | factor
  /-- Another round of a chain is begun, with its operator. -/
  | round (op : BinaryOp)
  /-- The current token is taken in. -/
  | advance
  /-- A node is stored. -/
  | alloc (node : Node)
  /-- The current token does not fit. -/
  | reject
  /-- The sum is complete, and nothing may come behind it. -/
  | finish

/-- A point of a descent: what is done there, and how things stand before that. -/
structure Moment where
  act : Act
  cursor : Cursor
  arena : Arena
  /-- The tokens taken in so far. -/
  taken : List Token

/-- How things stand, and what was done so far. -/
structure Descent where
  cursor : Cursor
  arena : Arena
  events : Array Event
  /-- The tokens taken in. -/
  taken : List Token
  /-- The lexers that were asked for an item, the last one first. -/
  asked : List Lexer
  /-- The points passed, the last one first. -/
  past : List Moment

namespace Descent

/-- The descent at the first token of a text. -/
def start (source : String) : Except LexError Descent :=
  (Cursor.start source).map fun cursor => ⟨cursor, .empty, #[], [], [.start source], []⟩

def mark (d : Descent) (act : Act) : Descent :=
  { d with past := ⟨act, d.cursor, d.arena, d.taken⟩ :: d.past }

def report (d : Descent) (event : Event) : Descent := { d with events := d.events.push event }

/-- The lexer is asked for the item behind the current token. -/
def askLexer (d : Descent) : Descent := { d with asked := d.cursor.lexer :: d.asked }

/-- The lexer is asked, but not behind the end. -/
def ask (d : Descent) : Descent :=
  if d.cursor.current.kind = .endOfInput then d else d.askLexer

/-- The current token is taken in, and `cursor` is at the one behind it. -/
def goTo (d : Descent) (cursor : Cursor) : Descent :=
  { d with
    cursor
    events := d.events.push (.advanced d.cursor.current)
    taken := d.taken ++ [d.cursor.current] }

def store (d : Descent) (node : Node) : Descent :=
  { d.mark (.alloc node) with arena := (d.arena.alloc node).2 }

theorem exists_of_start {source : String} {d : Descent} (h : start source = .ok d) :
    ∃ cursor, Cursor.start source = .ok cursor ∧
      d = ⟨cursor, .empty, #[], [], [.start source], []⟩ := exists_of_map_eq_ok h

theorem ask_of_ne {d : Descent} {act : Act} (h : d.cursor.current.kind ≠ .endOfInput) :
    (d.mark act).ask = (d.mark act).askLexer := if_neg h

theorem events_ask (d : Descent) : d.ask.events = d.events := by
  rw [ask]
  split <;> rfl

end Descent

/-! ### Readings -/

/-- What reads a part of an expression: it succeeds or fails; or it runs out of its budget, and has
no outcome. -/
structure Reading (α : Type) where
  run : Descent → Option (Except ParseError α × Descent)

namespace Reading

instance : Monad Reading where
  pure a := ⟨fun d => some (.ok a, d)⟩
  bind m f := ⟨fun d =>
    match m.run d with
    | some (.ok a, d) => (f a).run d
    | some (.error error, d) => some (.error error, d)
    | none => none⟩

/-- The budget is spent. -/
def spent {α : Type} : Reading α := ⟨fun _ => none⟩

def mark (act : Act) : Reading Unit := ⟨fun d => some (.ok (), d.mark act)⟩

def report (event : Event) : Reading Unit := ⟨fun d => some (.ok (), d.report event)⟩

/-- The token that is looked at. -/
def current : Reading Token := ⟨fun d => some (.ok d.cursor.current, d)⟩

/-- Takes in the current token. -/
def advance : Reading Token := ⟨fun d =>
  match d.cursor.advance with
  | .error error => some (.error (.lex error), (d.mark .advance).ask)
  | .ok cursor => some (.ok d.cursor.current, (d.mark .advance).ask.goTo cursor)⟩

/-- Stores a node. -/
def alloc (node : Node) : Reading NodeId :=
  ⟨fun d => some (.ok (d.arena.alloc node).1, d.store node)⟩

/-- The current token does not fit. -/
def reject {α : Type} : Reading α :=
  ⟨fun d => some (.error d.cursor.unexpected, d.mark .reject)⟩

/-- Takes in the sign, which has to be the current token. -/
def expect (sign : Symbol) : Reading Token := do
  if (← current).kind = .symbol sign then advance else reject

/-- An operator behind `left`, and its right operand. -/
def round (op : BinaryOp) (operand : Reading NodeId) (left : NodeId) : Reading NodeId := do
  mark (.round op)
  let token ← advance
  let right ← operand
  alloc ⟨.binary op left right, token.span⟩

/-- The rest of a chain behind `left`, with the given reading of operands. -/
def rest (rank : Rank) (operand : Reading NodeId) : Nat → NodeId → Reading NodeId
  | 0, _ => spent
  | budget + 1, left => do
    match rank.op? (← current).kind with
    | none => pure left
    | some op => rest rank operand budget (← round op operand left)

/-- A chain of operands. -/
def chain (rank : Rank) (operand : Reading NodeId) (budget : Nat) : Reading NodeId := do
  let left ← operand
  rest rank operand budget left

/-- What is read on a rank, with the given reading of factors. -/
def onRank (factor : Reading NodeId) (budget : Nat) : Rank → Reading NodeId
  | .factor => factor
  | .product => chain .product factor budget
  | .sum => chain .sum (chain .product factor budget) budget

/-- A number. -/
def number (value : Binary64) : Reading NodeId := do
  let token ← advance
  alloc ⟨.literal value, token.span⟩

/-- A factor behind a sign. -/
def prefixed (op : UnaryOp) (factor : Reading NodeId) : Reading NodeId := do
  let token ← advance
  let operand ← factor
  alloc ⟨.unary op operand, token.span⟩

/-- A sum in parentheses. -/
def group (sum : Reading NodeId) : Reading NodeId := do
  report (.groupOpened (← current).span.start)
  let _ ← advance
  let inner ← sum
  let _ ← expect .closeParen
  pure inner

/-- A factor that begins with a token of the kind. -/
def factorFrom (kind : TokenKind) (factor sum : Reading NodeId) : Reading NodeId :=
  match kind with
  | .number value => number value
  | .symbol .minus => prefixed .neg factor
  | .symbol .plus => prefixed .plus factor
  | .symbol .openParen => group sum
  | _ => reject

/-- A factor.  There is no way back into a sum but through here. -/
def factor : Nat → Reading NodeId
  | 0 => spent
  | budget + 1 => do
    mark .factor
    factorFrom (← current).kind (factor budget) (onRank (factor budget) budget .sum)

/-- What is read on a rank. -/
def read (budget : Nat) (rank : Rank) : Reading NodeId := onRank (factor budget) budget rank

/-- The expression with the root, which is reported. -/
def complete (root : NodeId) : Reading Expression :=
  ⟨fun d => some (.ok ⟨d.arena, root⟩, d.report (.parsed ⟨d.arena, root⟩))⟩

/-- The end of an expression: nothing may come behind the sum. -/
def finish (root : NodeId) : Reading Expression := do
  mark .finish
  if (← current).kind = .endOfInput then complete root else reject

/-- A whole expression. -/
def expression (budget : Nat) : Reading Expression := read budget .sum >>= finish

end Reading

namespace Reading

variable {α β : Type}

theorem run_bind (m : Reading α) (f : α → Reading β) (d : Descent) :
    (m >>= f).run d = match m.run d with
      | some (.ok a, d) => (f a).run d
      | some (.error error, d) => some (.error error, d)
      | none => none := rfl

theorem exists_of_run_bind {m : Reading α} {f : α → Reading β} {d d' : Descent} {b : β}
    (h : (m >>= f).run d = some (.ok b, d')) :
    ∃ a d₁, m.run d = some (.ok a, d₁) ∧ (f a).run d₁ = some (.ok b, d') := by
  rw [run_bind] at h
  rcases hm : m.run d with _ | ⟨_ | a, d₁⟩
  · simp [hm] at h
  · simp [hm] at h
  · rw [hm] at h
    exact ⟨a, d₁, rfl, h⟩

theorem run_rest_of_none {rank : Rank} {operand : Reading NodeId} {left : NodeId} {d : Descent}
    (budget : Nat) (h : rank.op? d.cursor.current.kind = none) :
    (rest rank operand (budget + 1) left).run d = some (.ok left, d) := by
  show (match rank.op? d.cursor.current.kind with
    | none => pure left
    | some op => round op operand left >>= rest rank operand budget : Reading NodeId).run d = _
  rw [h]
  rfl

theorem run_rest_of_some {rank : Rank} {operand : Reading NodeId} {left : NodeId} {d : Descent}
    {op : BinaryOp} (budget : Nat) (h : rank.op? d.cursor.current.kind = some op) :
    (rest rank operand (budget + 1) left).run d =
      (round op operand left >>= rest rank operand budget).run d := by
  show (match rank.op? d.cursor.current.kind with
    | none => pure left
    | some op => round op operand left >>= rest rank operand budget : Reading NodeId).run d = _
  rw [h]

theorem run_expect (sign : Symbol) (d : Descent) :
    (expect sign).run d =
      if d.cursor.current.kind = .symbol sign then advance.run d else reject.run d := by
  show (if d.cursor.current.kind = _ then _ else _ : Reading Token).run d = _
  split <;> rfl

theorem run_finish (root : NodeId) (d : Descent) :
    (finish root).run d =
      if d.cursor.current.kind = .endOfInput then (complete root).run (d.mark .finish)
      else reject.run (d.mark .finish) := by
  show (if d.cursor.current.kind = _ then _ else _ : Reading Expression).run (d.mark .finish) = _
  split <;> rfl

theorem run_advance_of_ok {d : Descent} {cursor : Cursor} (h : d.cursor.advance = .ok cursor) :
    advance.run d = some (.ok d.cursor.current, (d.mark .advance).ask.goTo cursor) := by
  simp only [advance, h]

theorem run_advance_of_error {d : Descent} {error : LexError}
    (h : d.cursor.advance = .error error) :
    advance.run d = some (.error (.lex error), (d.mark .advance).ask) := by
  simp only [advance, h]

end Reading

/-- What came of a text, and all that was done on the way, in its order. -/
structure Course where
  result : Except ParseError Expression
  events : Array Event
  asked : List Lexer
  past : List Moment

/-- The course of reading a text. -/
def course (budget : Nat) (source : String) : Option Course :=
  match Descent.start source with
  | .error error => some ⟨.error (.lex error), #[], [.start source], []⟩
  | .ok d =>
    ((Reading.expression budget).run d).map fun out =>
      ⟨out.1, out.2.events, out.2.asked.reverse, out.2.past.reverse⟩

/-! ### The parser of a descent -/

/-- The parser where a descent stands, with open groups in the place of the calls. -/
def Descent.parser (d : Descent) (operand : Option NodeId) (group : OpenGroup NodeId)
    (outer : List (OpenGroup NodeId)) : Parser :=
  ⟨d.cursor, d.arena, operand, group, outer, d.events⟩

namespace Parser

/-- A parser does what a reading does, and then goes on from the parser `next`. -/
def Follows {α : Type} (p : Parser) (next : α → Descent → Parser) (m : Reading α) (d : Descent) :
    Prop :=
  match m.run d with
  | some (.ok a, d') => p.run = (next a d').run
  | some (.error error, d') => p.run = (.error error, d'.events)
  | none => True

variable {α β : Type} {p q : Parser} {d : Descent} {operand : Option NodeId}
  {group : OpenGroup NodeId} {outer : List (OpenGroup NodeId)}

theorem Follows.bind {m : Reading α} {f : α → Reading β} {middle : α → Descent → Parser}
    {next : β → Descent → Parser} (hm : p.Follows middle m d)
    (hf : ∀ a d', m.run d = some (.ok a, d') → (middle a d').Follows next (f a) d') :
    p.Follows next (m >>= f) d := by
  rw [Follows] at hm
  rw [Follows, Reading.run_bind]
  rcases hd : m.run d with _ | ⟨_ | a, d'⟩
  · trivial
  · rwa [hd] at hm
  · rw [hd] at hm
    dsimp only at hm ⊢
    rw [hm]
    exact hf a d' hd

theorem Follows.congr {m m' : Reading α} {next : α → Descent → Parser} (h : m.run d = m'.run d)
    (hm : p.Follows next m' d) : p.Follows next m d := by
  rw [Follows] at hm ⊢
  rwa [h]

theorem Follows.mark {act : Act} {f : Unit → Reading α} {next : α → Descent → Parser}
    (h : p.Follows next (f ()) (d.mark act)) : p.Follows next (Reading.mark act >>= f) d := h

theorem Follows.report {event : Event} {f : Unit → Reading α} {next : α → Descent → Parser}
    (h : p.Follows next (f ()) (d.report event)) : p.Follows next (Reading.report event >>= f) d :=
  h

theorem Follows.current {f : Token → Reading α} {next : α → Descent → Parser}
    (h : p.Follows next (f d.cursor.current) d) : p.Follows next (Reading.current >>= f) d := h

/-- Taking in a token follows the reading of it, and goes on as what is read behind it does. -/
theorem Follows.take {f : Token → Reading α} {next : α → Descent → Parser}
    {change : Parser → Parser} (hstep : p.step = (d.parser operand group outer).take change)
    (h : ∀ d', (change (d'.parser operand group outer)).Follows next (f d.cursor.current) d') :
    p.Follows next (Reading.advance >>= f) d := by
  rw [Parser.take] at hstep
  cases hadvance : d.cursor.advance with
  | error error =>
    have hcursor : (d.parser operand group outer).cursor.advance = .error error := hadvance
    rw [hcursor] at hstep
    have hread : (Reading.advance >>= f).run d =
        some (.error (.lex error), (d.mark .advance).ask) := by
      rw [Reading.run_bind, Reading.run_advance_of_error hadvance]
    rw [Follows, hread]
    exact (run_of_done hstep).trans (congrArg (Prod.mk _) (d.mark .advance).events_ask.symm)
  | ok cursor =>
    have hcursor : (d.parser operand group outer).cursor.advance = .ok cursor := hadvance
    rw [hcursor] at hstep
    have hread : (Reading.advance >>= f).run d =
        (f d.cursor.current).run ((d.mark .advance).ask.goTo cursor) := by
      rw [Reading.run_bind, Reading.run_advance_of_ok hadvance]
    have hrun : p.run =
        (change (((d.mark .advance).ask.goTo cursor).parser operand group outer)).run := by
      refine (run_of_next hstep).trans ?_
      rw [Descent.ask]
      split <;> rfl
    have hnext := h ((d.mark .advance).ask.goTo cursor)
    rw [Follows] at hnext ⊢
    rwa [hread, hrun]

theorem Follows.reject {next : α → Descent → Parser}
    (h : p.step = (d.parser operand group outer).reject) :
    p.Follows next Reading.reject d := run_of_done h

theorem Follows.expect {sign : Symbol} {f : Token → Reading α} {next : α → Descent → Parser}
    {change : Parser → Parser}
    (htake : d.cursor.current.kind = .symbol sign →
      p.step = (d.parser operand group outer).take change)
    (hreject : d.cursor.current.kind ≠ .symbol sign →
      p.step = (d.parser operand group outer).reject)
    (h : ∀ d', (change (d'.parser operand group outer)).Follows next (f d.cursor.current) d') :
    p.Follows next (Reading.expect sign >>= f) d := by
  by_cases hkind : d.cursor.current.kind = .symbol sign
  · refine .congr ?_ (.take (htake hkind) h)
    rw [Reading.run_bind, Reading.run_bind, Reading.run_expect, if_pos hkind]
  · refine .congr ?_ (.reject (hreject hkind))
    rw [Reading.run_bind, Reading.run_expect, if_neg hkind]
    rfl

theorem run_congr (h : p.step = q.step) : p.run = q.run := by
  cases hstep : q.step with
  | next r => rw [run_of_next hstep, run_of_next (h.trans hstep)]
  | done result events => rw [run_of_done hstep, run_of_done (h.trans hstep)]

/-- A parser completes a sum at the operator behind it, or at what closes the sum; a descent does
it before.  It comes to the same if no operator of a product comes behind. -/
theorem run_joined (d : Descent) (outer : List (OpenGroup NodeId)) (left right : NodeId)
    (op : BinaryOp) (span : Span) (h : Rank.product.op? d.cursor.current.kind = none) :
    (d.parser (some right) ⟨some ⟨left, op, span⟩, none, []⟩ outer).run =
      ((d.store ⟨.binary op left right, span⟩).parser (some (d.arena.alloc
        ⟨.binary op left right, span⟩).1) .empty outer).run := by
  refine run_congr ?_
  -- Any other token completes the sum in its step, or is rejected whatever waits.
  obtain ⟨⟨lexer, kind, place⟩, arena, events, taken, asked, past⟩ := d
  cases kind with
  | number value => rfl
  | endOfInput => cases outer <;> rfl
  | symbol sign =>
    cases sign with
    | star | slash => simp [Rank.op?] at h
    | closeParen => cases outer <;> rfl
    | plus | minus | openParen => rfl

end Parser

namespace Reading

/-! ### What is read, and what the parser does -/

/-- A factor, as a parser reads it. -/
def ReadsFactor (m : Reading NodeId) : Prop :=
  ∀ (d : Descent) group outer, (d.parser none group outer).Follows
    (fun id d' => (d'.parser none group outer).completeFactor id) m d

/-- A product, as a parser reads it: no operator of a product comes behind it. -/
structure ReadsProduct (m : Reading NodeId) : Prop where
  follows : ∀ (d : Descent) sum outer, (d.parser none ⟨sum, none, []⟩ outer).Follows
    (fun id d' => d'.parser (some id) ⟨sum, none, []⟩ outer) m d
  op?_eq_none : ∀ d id d', m.run d = some (.ok id, d') →
    Rank.product.op? d'.cursor.current.kind = none

/-- A sum, as a parser reads it: no operator comes behind it. -/
structure ReadsSum (m : Reading NodeId) : Prop where
  follows : ∀ (d : Descent) outer, (d.parser none .empty outer).Follows
    (fun id d' => d'.parser (some id) .empty outer) m d
  op?_eq_none : ∀ d id d', m.run d = some (.ok id, d') →
    ∀ rank : Rank, rank.op? d'.cursor.current.kind = none

section
variable {d : Descent} {group : OpenGroup NodeId} {outer : List (OpenGroup NodeId)}

theorem follows_number {value : Binary64} (h : d.cursor.current.kind = .number value) :
    (d.parser none group outer).Follows
      (fun id d' => (d'.parser none group outer).completeFactor id) (number value) d := by
  have hstep : (d.parser none group outer).step = (d.parser none group outer).take
      fun q => q.completeNumber value d.cursor.current.span := by
    obtain ⟨⟨lexer, kind, span⟩, arena, events, taken, asked, past⟩ := d
    obtain rfl : kind = .number value := h
    rfl
  exact .take hstep fun d' => rfl

theorem follows_prefixed (op : UnaryOp) {m : Reading NodeId} (hm : ReadsFactor m)
    (h : d.cursor.current.kind = .symbol op.sign) :
    (d.parser none group outer).Follows
      (fun id d' => (d'.parser none group outer).completeFactor id) (prefixed op m) d := by
  have hstep : (d.parser none group outer).step = (d.parser none group outer).take fun q =>
      { q with group := { q.group with
          signs := (op, d.cursor.current.span) :: q.group.signs } } := by
    obtain ⟨⟨lexer, kind, span⟩, arena, events, taken, asked, past⟩ := d
    obtain rfl : kind = .symbol op.sign := h
    cases op <;> rfl
  refine .take hstep fun d' => ?_
  exact .bind (hm d' _ outer) fun id d'' _ => rfl

theorem follows_group {m : Reading NodeId} (hm : ReadsSum m)
    (h : d.cursor.current.kind = .symbol .openParen) :
    (d.parser none group outer).Follows
      (fun id d' => (d'.parser none group outer).completeFactor id) (Reading.group m) d := by
  have hstep : (d.parser none group outer).step =
      ((d.report (.groupOpened d.cursor.current.span.start)).parser none group outer).take
        fun q => { q with group := .empty, outer := q.group :: q.outer } := by
    obtain ⟨⟨lexer, kind, span⟩, arena, events, taken, asked, past⟩ := d
    obtain rfl : kind = .symbol .openParen := h
    rfl
  refine .current (.report (.take hstep fun d' => ?_))
  -- What is open outside waits while the sum inside is read, and no operator comes behind that.
  refine .bind (hm.follows d' (group :: outer)) fun id d'' hsum => ?_
  have htake (hkind : d''.cursor.current.kind = .symbol .closeParen) :
      (d''.parser (some id) .empty (group :: outer)).step =
        (d''.parser (some id) .empty (group :: outer)).take
          fun q => { q with group, outer }.completeFactor id := by
    obtain ⟨⟨lexer, kind, span⟩, arena, events, taken, asked, past⟩ := d''
    obtain rfl : kind = .symbol .closeParen := hkind
    rfl
  have hreject (hkind : d''.cursor.current.kind ≠ .symbol .closeParen) :
      (d''.parser (some id) .empty (group :: outer)).step =
        (d''.parser (some id) .empty (group :: outer)).reject := by
    have hnone := hm.op?_eq_none d' id d'' hsum
    obtain ⟨⟨lexer, kind, span⟩, arena, events, taken, asked, past⟩ := d''
    cases kind with
    | number value => rfl
    | endOfInput => rfl
    | symbol sign =>
      cases sign with
      | star | slash => exact absurd (hnone .product) (by simp [Rank.op?])
      | plus | minus => exact absurd (hnone .sum) (by simp [Rank.op?])
      | closeParen => exact absurd rfl hkind
      | openParen => rfl
  exact .expect htake hreject fun _ => rfl

end

/-- A chain ends where none of its operators comes. -/
theorem op?_eq_none_of_rest {rank : Rank} {m : Reading NodeId} {budget : Nat} {left id : NodeId}
    {d d' : Descent} (h : (rest rank m budget left).run d = some (.ok id, d')) :
    rank.op? d'.cursor.current.kind = none := by
  induction budget generalizing left d with
  | zero => exact absurd h (by simp [rest, spent])
  | succ budget ih =>
    cases hop : rank.op? d.cursor.current.kind with
    | none =>
      rw [run_rest_of_none budget hop] at h
      obtain ⟨-, rfl⟩ := Prod.mk.inj (Option.some.inj h)
      exact hop
    | some op =>
      rw [run_rest_of_some budget hop] at h
      obtain ⟨left', d₁, -, hrest⟩ := exists_of_run_bind h
      exact ih hrest

theorem follows_rest_product {m : Reading NodeId} (hm : ReadsFactor m) (budget : Nat)
    (left : NodeId) (d : Descent) (sum : Option (Pending NodeId))
    (outer : List (OpenGroup NodeId)) :
    (d.parser (some left) ⟨sum, none, []⟩ outer).Follows
      (fun id d' => d'.parser (some id) ⟨sum, none, []⟩ outer) (rest .product m budget left) d := by
  -- By the rounds: at the beginning of each the operand stands for all of the product so far.
  induction budget generalizing left d with
  | zero => trivial
  | succ budget ih =>
    cases hop : Rank.product.op? d.cursor.current.kind with
    | none => rw [Parser.Follows, run_rest_of_none budget hop]
    | some op =>
      have hstep : (d.parser (some left) ⟨sum, none, []⟩ outer).step =
          ((d.mark (.round op)).parser (some left) ⟨sum, none, []⟩ outer).take fun q =>
            { q with
              operand := none
              group := { q.group with product := some ⟨left, op, d.cursor.current.span⟩ } } := by
        obtain ⟨hrank, hkind⟩ := Rank.eq_of_op?_eq_some hop
        obtain ⟨⟨lexer, kind, span⟩, arena, events, taken, asked, past⟩ := d
        obtain rfl : kind = .symbol op.sign := hkind
        cases op <;> simp only [BinaryOp.rank, reduceCtorEq] at hrank <;> rfl
      have hround : (d.parser (some left) ⟨sum, none, []⟩ outer).Follows
          (fun id d' => d'.parser (some id) ⟨sum, none, []⟩ outer) (round op m left) d :=
        .mark (.take hstep fun d' => .bind (hm d' _ outer) fun right d'' _ => rfl)
      exact .congr (run_rest_of_some budget hop) (.bind hround fun id d' _ => ih id d')

theorem ReadsFactor.product {m : Reading NodeId} (hm : ReadsFactor m) (budget : Nat) :
    ReadsProduct (chain .product m budget) where
  follows d sum outer := .bind (hm d ⟨sum, none, []⟩ outer) fun left d' _ =>
    follows_rest_product hm budget left d' sum outer
  op?_eq_none d id d' h := by
    obtain ⟨left, d₁, -, hrest⟩ := exists_of_run_bind h
    exact op?_eq_none_of_rest hrest

theorem op?_eq_none_of_round {m : Reading NodeId} (hm : ReadsProduct m) {op : BinaryOp}
    {left id : NodeId} {d d' : Descent} (h : (round op m left).run d = some (.ok id, d')) :
    Rank.product.op? d'.cursor.current.kind = none := by
  obtain ⟨-, d₁, -, h⟩ := exists_of_run_bind h
  obtain ⟨token, d₂, -, h⟩ := exists_of_run_bind h
  obtain ⟨right, d₃, hright, h⟩ := exists_of_run_bind h
  have hnone := hm.op?_eq_none _ _ _ hright
  obtain ⟨-, rfl⟩ := Prod.mk.inj (Option.some.inj h)
  exact hnone

/-- In the rest of a sum no operator of a product comes behind an operand. -/
theorem product_op?_eq_none_of_rest {m : Reading NodeId} (hm : ReadsProduct m) {budget : Nat}
    {left id : NodeId} {d d' : Descent} (h : (rest .sum m budget left).run d = some (.ok id, d'))
    (hleft : Rank.product.op? d.cursor.current.kind = none) :
    Rank.product.op? d'.cursor.current.kind = none := by
  induction budget generalizing left d with
  | zero => exact absurd h (by simp [rest, spent])
  | succ budget ih =>
    cases hop : Rank.sum.op? d.cursor.current.kind with
    | none =>
      rw [run_rest_of_none budget hop] at h
      obtain ⟨-, rfl⟩ := Prod.mk.inj (Option.some.inj h)
      exact hleft
    | some op =>
      rw [run_rest_of_some budget hop] at h
      obtain ⟨left', d₁, hround, hrest⟩ := exists_of_run_bind h
      exact ih hrest (op?_eq_none_of_round hm hround)

theorem follows_rest_sum {m : Reading NodeId} (hm : ReadsProduct m) (budget : Nat)
    (left : NodeId) (d : Descent) (outer : List (OpenGroup NodeId))
    (h : Rank.product.op? d.cursor.current.kind = none) :
    (d.parser (some left) .empty outer).Follows (fun id d' => d'.parser (some id) .empty outer)
      (rest .sum m budget left) d := by
  -- The same with the sum so far.  The parser completes it later than the descent, at the operator.
  induction budget generalizing left d with
  | zero => trivial
  | succ budget ih =>
    cases hop : Rank.sum.op? d.cursor.current.kind with
    | none => rw [Parser.Follows, run_rest_of_none budget hop]
    | some op =>
      have hstep : (d.parser (some left) .empty outer).step =
          ((d.mark (.round op)).parser (some left) .empty outer).take fun q =>
            { q with
              operand := none
              group := { q.group with sum := some ⟨left, op, d.cursor.current.span⟩ } } := by
        obtain ⟨hrank, hkind⟩ := Rank.eq_of_op?_eq_some hop
        obtain ⟨⟨lexer, kind, span⟩, arena, events, taken, asked, past⟩ := d
        obtain rfl : kind = .symbol op.sign := hkind
        cases op <;> simp only [BinaryOp.rank, reduceCtorEq] at hrank <;> rfl
      have hround : (d.parser (some left) .empty outer).Follows
          (fun id d' => d'.parser (some id) .empty outer) (round op m left) d :=
        .mark (.take hstep fun d' => .bind (hm.follows d' _ outer) fun right d'' hright =>
          Parser.run_joined d'' outer left right op _ (hm.op?_eq_none _ _ _ hright))
      exact .congr (run_rest_of_some budget hop) (.bind hround fun id d' hid =>
        ih id d' (op?_eq_none_of_round hm hid))

theorem ReadsProduct.sum {m : Reading NodeId} (hm : ReadsProduct m) (budget : Nat) :
    ReadsSum (chain .sum m budget) where
  follows d outer := .bind (hm.follows d none outer) fun left d' hleft =>
    follows_rest_sum hm budget left d' outer (hm.op?_eq_none _ _ _ hleft)
  op?_eq_none d id d' h rank := by
    obtain ⟨left, d₁, hleft, hrest⟩ := exists_of_run_bind h
    cases rank with
    | sum => exact op?_eq_none_of_rest hrest
    | product => exact product_op?_eq_none_of_rest hm hrest (hm.op?_eq_none _ _ _ hleft)
    | factor => rfl

theorem follows_factorFrom {m sum : Reading NodeId} (hm : ReadsFactor m) (hsum : ReadsSum sum)
    (d : Descent) (group : OpenGroup NodeId) (outer : List (OpenGroup NodeId)) :
    (d.parser none group outer).Follows
      (fun id d' => (d'.parser none group outer).completeFactor id)
      (factorFrom d.cursor.current.kind m sum) d := by
  have hreject (hstep : (d.parser none group outer).step = (d.parser none group outer).reject) :
      (d.parser none group outer).Follows
        (fun id d' => (d'.parser none group outer).completeFactor id) reject d := .reject hstep
  cases hkind : d.cursor.current.kind with
  | number value => exact follows_number hkind
  | symbol sign =>
    cases sign with
    | minus => exact follows_prefixed .neg hm hkind
    | plus => exact follows_prefixed .plus hm hkind
    | openParen => exact follows_group hsum hkind
    | star | slash | closeParen =>
      refine hreject ?_
      simp [Parser.step, Descent.parser, hkind]
  | endOfInput =>
    refine hreject ?_
    simp [Parser.step, Descent.parser, hkind]

/-- Whatever is open around it, a factor is read as a parser reads it. -/
theorem readsFactor_factor (budget : Nat) : ReadsFactor (factor budget) := by
  -- By the depth that is left for calls; each call adds to what is open around it.
  induction budget with
  | zero => exact fun d group outer => trivial
  | succ budget ih =>
    intro d group outer
    exact .mark (.current (follows_factorFrom ih ((ih.product budget).sum budget)
      (d.mark .factor) group outer))

theorem readsSum_read (budget : Nat) : ReadsSum (read budget .sum) :=
  ((readsFactor_factor budget).product budget).sum budget

/-- Behind a sum a parser ends as an expression does. -/
theorem follows_finish {root : NodeId} {d d' : Descent} {result : Except ParseError Expression}
    (hsum : ∀ rank : Rank, rank.op? d.cursor.current.kind = none)
    (h : (finish root).run d = some (result, d')) :
    (d.parser (some root) .empty []).run = (result, d'.events) := by
  by_cases hkind : d.cursor.current.kind = .endOfInput
  · rw [run_finish, if_pos hkind] at h
    obtain ⟨rfl, rfl⟩ := Prod.mk.inj (Option.some.inj h)
    obtain ⟨⟨lexer, kind, span⟩, arena, events, taken, asked, past⟩ := d
    obtain rfl : kind = .endOfInput := hkind
    exact Parser.run_of_done rfl
  · rw [run_finish, if_neg hkind] at h
    obtain ⟨rfl, rfl⟩ := Prod.mk.inj (Option.some.inj h)
    refine Parser.run_of_done ?_
    obtain ⟨⟨lexer, kind, span⟩, arena, events, taken, asked, past⟩ := d
    cases kind with
    | number value => rfl
    | endOfInput => exact absurd rfl hkind
    | symbol sign =>
      cases sign with
      | star | slash => exact absurd (hsum .product) (by simp [Rank.op?])
      | plus | minus => exact absurd (hsum .sum) (by simp [Rank.op?])
      | closeParen | openParen => rfl

/-- At the end of a whole expression there is the verdict of the parser. -/
theorem run_expression {budget : Nat} {d d' : Descent} {result : Except ParseError Expression}
    (h : (expression budget).run d = some (result, d')) :
    (d.parser none .empty []).run = (result, d'.events) := by
  have hsum := readsSum_read budget
  have hfollows := hsum.follows d []
  rw [expression, run_bind] at h
  rw [Parser.Follows] at hfollows
  rcases hread : (read budget .sum).run d with _ | ⟨error | root, d₁⟩
  · simp [hread] at h
  · rw [hread] at h hfollows
    obtain ⟨rfl, rfl⟩ := Prod.mk.inj (Option.some.inj h)
    exact hfollows
  · rw [hread] at h hfollows
    exact hfollows.trans (follows_finish (hsum.op?_eq_none d root d₁ hread) h)

end Reading

/-- A course with an outcome has that of the parser, and the same reports. -/
theorem course_eq_parse {budget : Nat} {source : String} {c : Course}
    (h : course budget source = some c) : (c.result, c.events) = parse source := by
  rw [course, Descent.start] at h
  rw [parse, Parser.start]
  cases hstart : Cursor.start source with
  | error error =>
    rw [hstart] at h
    obtain rfl := Option.some.inj h
    rfl
  | ok cursor =>
    rw [hstart] at h
    obtain ⟨⟨result, d⟩, hrun, rfl⟩ := Option.map_eq_some_iff.1 h
    exact (Reading.run_expression hrun).symm

end Reckon
