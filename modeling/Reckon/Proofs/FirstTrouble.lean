/-
The first trouble on the way through an unfolding.

Evaluating nodes and writing them go the same way: depth first, the left operand before the right
one.  An evaluation ends at the first id that no node has or at the first operation that fails,
whichever comes first; a text ends at missing ids only.

* `Unfolding.trail`: all that happens on that way;
* `Arena.endsWith_valueAt`, `Arena.writtenAfter_fold`: evaluation and text end at the first trouble
  of it, or else have the value and the text of the unfolding;
* `Unfolding.trouble?_eq_refused_or`: so they end at the same missing id, unless an operation fails
  before.
-/
import Reckon.Expr.Sexpr
import Reckon.Proofs.Alike
import Reckon.Proofs.Unfoldings

namespace Reckon

/-- What happens on the way through an unfolding. -/
inductive Visit where
  /-- An id is come to that no node has. -/
  | missing (id : NodeId)
  /-- A node is come to. -/
  | entered (id : NodeId)
  /-- A binary node is left, with the values of its operands if they have any. -/
  | left (id : NodeId) (op : BinaryOp) (span : Span) (x? y? : Option Binary64)

/-- The id that no node has. -/
def Visit.missing? : Visit → Option NodeId
  | missing id => some id
  | _ => none

/-- What ends an evaluation, where there are `size` nodes. -/
def Visit.trouble? (size : Nat) : Visit → Option (Interrupt EvalError)
  | missing id => some (.fault (.dangling id size))
  | left _ op span (some x) (some y) =>
    match op.apply x y span with
    | .ok _ => none
    | .error error => some (.refused error)
  | _ => none

namespace Unfolding

/-- The value of a node, by the values of its operands. -/
def value? : Unfolding → Option Binary64
  | missing _ => none
  | literal _ value => some value
  | unary _ op t => t.value?.map op.apply
  | binary _ op span t u => do
    let x ← t.value?
    let y ← u.value?
    (op.apply x y span).toOption

/-- The text of a node, by the texts of its operands. -/
def text? : Unfolding → Option String
  | missing _ => none
  | literal _ value => some (value.text .plain)
  | unary _ op t => t.text?.map fun s => "(" ++ op.symbol ++ " " ++ s ++ ")"
  | binary _ op _ t u => do
    let s ← t.text?
    let s' ← u.text?
    return "(" ++ op.symbol ++ " " ++ s ++ " " ++ s' ++ ")"

/-- All that happens, depth first and from left to right. -/
def trail : Unfolding → List Visit
  | missing id => [.missing id]
  | literal id _ => [.entered id]
  | unary id _ t => .entered id :: t.trail
  | binary id op span t u =>
    .entered id :: (t.trail ++ (u.trail ++ [.left id op span t.value? u.value?]))

/-- The first id that no node has. -/
def missing? (t : Unfolding) : Option NodeId := t.trail.findSome? Visit.missing?

/-- The first trouble of an evaluation. -/
def trouble? (size : Nat) (t : Unfolding) : Option (Interrupt EvalError) :=
  t.trail.findSome? (Visit.trouble? size)

/-- An evaluation ends with the first trouble, and has the value if there is none. -/
inductive EndsWith (size : Nat) (t : Unfolding) : Except (Interrupt EvalError) Binary64 → Prop where
  | trouble {interrupt : Interrupt EvalError} (h : t.trouble? size = some interrupt) :
      EndsWith size t (.error interrupt)
  | value {value : Binary64} (h : t.trouble? size = none) (hvalue : t.value? = some value) :
      EndsWith size t (.ok value)

/-- A text ends with the first missing id, and is that of the unfolding if there is none. -/
inductive IsWritten (size : Nat) (t : Unfolding) : Except Fault String → Prop where
  | missing {id : NodeId} (h : t.missing? = some id) : IsWritten size t (.error (.dangling id size))
  | text {text : String} (h : t.missing? = none) (htext : t.text? = some text) :
      IsWritten size t (.ok text)

/-- The same, behind the text `front`. -/
inductive WrittenAfter (size : Nat) (t : Unfolding) (front : String) :
    Except (Interrupt Empty) Unit × String → Prop where
  | missing {id : NodeId} {text : String} (h : t.missing? = some id) :
      WrittenAfter size t front (.error (.fault (.dangling id size)), text)
  | text {text : String} (h : t.missing? = none) (htext : t.text? = some text) :
      WrittenAfter size t front (.ok (), front ++ text)

variable {size : Nat} {id : NodeId} {t u : Unfolding}

/-! ### Trails -/

theorem findSome?_trail_binary {α : Type} {f : Visit → Option α} (hentered : f (.entered id) = none)
    (op : BinaryOp) (span : Span) :
    (binary id op span t u).trail.findSome? f =
      (t.trail.findSome? f).or
        ((u.trail.findSome? f).or (f (.left id op span t.value? u.value?))) := by
  rw [trail, List.findSome?_cons, hentered, List.findSome?_append, List.findSome?_append]
  simp only [List.findSome?_cons, List.findSome?_nil]
  cases f (.left id op span t.value? u.value?) <;> rfl

theorem missing?_binary (op : BinaryOp) (span : Span) :
    (binary id op span t u).missing? = t.missing?.or u.missing? := by
  rw [missing?, findSome?_trail_binary rfl]
  exact congrArg _ (Option.or_none)

theorem trouble?_binary (op : BinaryOp) (span : Span) :
    (binary id op span t u).trouble? size =
      (t.trouble? size).or ((u.trouble? size).or
        (Visit.trouble? size (.left id op span t.value? u.value?))) :=
  findSome?_trail_binary rfl op span

/-- A binary node is left with a trouble if its operands have values and the operation fails. -/
theorem trouble?_left_eq_some_iff {op : BinaryOp} {span : Span} {x? y? : Option Binary64}
    {interrupt : Interrupt EvalError} :
    Visit.trouble? size (.left id op span x? y?) = some interrupt ↔
      ∃ x y error, x? = some x ∧ y? = some y ∧ op.apply x y span = .error error ∧
        interrupt = .refused error := by
  cases x? with
  | none => simp [Visit.trouble?]
  | some x =>
    cases y? with
    | none => simp [Visit.trouble?]
    | some y =>
      cases happly : op.apply x y span with
      | ok value => simp [Visit.trouble?, happly]
      | error error => simp [Visit.trouble?, happly, eq_comm]

/-- On any way an evaluation ends where a text does, unless an operation fails before. -/
theorem findSome?_trouble?_eq_or (size : Nat) (visits : List Visit) :
    (∃ error, visits.findSome? (Visit.trouble? size) = some (.refused error)) ∨
      visits.findSome? (Visit.trouble? size) =
        (visits.findSome? Visit.missing?).map fun id => .fault (.dangling id size) := by
  induction visits with
  | nil => exact .inr rfl
  | cons visit visits ih =>
    rw [List.findSome?_cons, List.findSome?_cons]
    cases visit with
    | missing id => exact .inr rfl
    | entered id => exact ih
    | left id op span x? y? =>
      cases htrouble : Visit.trouble? size (.left id op span x? y?) with
      | none => exact ih
      | some interrupt =>
        obtain ⟨x, y, error, -, -, -, rfl⟩ := trouble?_left_eq_some_iff.1 htrouble
        exact .inl ⟨error, rfl⟩

theorem trouble?_eq_refused_or (size : Nat) (t : Unfolding) :
    (∃ error, t.trouble? size = some (.refused error)) ∨
      t.trouble? size = t.missing?.map fun id => .fault (.dangling id size) :=
  findSome?_trouble?_eq_or size t.trail

/-! ### Evaluations -/

theorem EndsWith.unary {result : Except (Interrupt EvalError) Binary64}
    (ht : t.EndsWith size result) (id : NodeId) (op : UnaryOp) :
    (Unfolding.unary id op t).EndsWith size (result.map op.apply) := by
  cases ht with
  | trouble h => exact .trouble h
  | value h hvalue => exact .value h (congrArg (Option.map op.apply) hvalue)

/-- The left operand comes first, then the right one, and the operation is last. -/
theorem EndsWith.binary {result result' : Except (Interrupt EvalError) Binary64}
    (ht : t.EndsWith size result) (hu : u.EndsWith size result') (id : NodeId) (op : BinaryOp)
    (span : Span) :
    (Unfolding.binary id op span t u).EndsWith size (do
      let x ← result
      let y ← result'
      (op.apply x y span).mapError .refused) := by
  cases ht with
  | trouble h =>
    refine .trouble ?_
    rw [trouble?_binary, h, Option.some_or]
  | @value x h hx =>
    cases hu with
    | trouble h' =>
      refine .trouble ?_
      rw [trouble?_binary, h, h', Option.none_or, Option.some_or]
    | @value y h' hy =>
      have htrouble : (Unfolding.binary id op span t u).trouble? size =
          Visit.trouble? size (.left id op span (some x) (some y)) := by
        rw [trouble?_binary, h, h', hx, hy, Option.none_or, Option.none_or]
      have hvalue : (Unfolding.binary id op span t u).value? = (op.apply x y span).toOption := by
        rw [value?, hx, hy]
        rfl
      show EndsWith size _ ((op.apply x y span).mapError .refused)
      cases happly : op.apply x y span with
      | ok value =>
        rw [happly] at hvalue
        refine .value ?_ hvalue
        rw [htrouble, Visit.trouble?, happly]
      | error error =>
        refine .trouble ?_
        rw [htrouble, Visit.trouble?, happly]

/-! ### Texts -/

theorem WrittenAfter.unary {front text : String} (h : t.missing? = none)
    (htext : t.text? = some text) (id : NodeId) (op : UnaryOp) :
    (Unfolding.unary id op t).WrittenAfter size front
      (.ok (), front ++ "(" ++ op.symbol ++ " " ++ text ++ ")") := by
  have hwritten : front ++ "(" ++ op.symbol ++ " " ++ text ++ ")" =
      front ++ ("(" ++ op.symbol ++ " " ++ text ++ ")") := by
    simp only [String.append_assoc]
  rw [hwritten]
  refine .text h ?_
  rw [text?, htext]
  rfl

theorem WrittenAfter.binary {front text text' : String} (h : t.missing? = none)
    (htext : t.text? = some text) (h' : u.missing? = none) (htext' : u.text? = some text')
    (id : NodeId) (op : BinaryOp) (span : Span) :
    (Unfolding.binary id op span t u).WrittenAfter size front
      (.ok (), front ++ "(" ++ op.symbol ++ " " ++ text ++ " " ++ text' ++ ")") := by
  have hwritten : front ++ "(" ++ op.symbol ++ " " ++ text ++ " " ++ text' ++ ")" =
      front ++ ("(" ++ op.symbol ++ " " ++ text ++ " " ++ text' ++ ")") := by
    simp only [String.append_assoc]
  rw [hwritten]
  refine .text ?_ ?_
  · rw [missing?_binary, h, h', Option.none_or]
  · rw [text?, htext, htext']
    rfl

/-- A text fails where an id is missing. -/
theorem IsWritten.exists_error_iff {answer : Except Fault String} (h : t.IsWritten size answer) :
    (∃ fault, answer = .error fault) ↔ ∃ below, t.missing? = some below := by
  cases h with
  | missing h => simp [h]
  | text h => simp [h]

/-! ### Both together -/

/-- Of one unfolding the evaluation and the text end at the same missing id, or both end well,
unless an operation fails. -/
theorem EndsWith.refused_or {result : Except (Interrupt EvalError) Binary64}
    {answer : Except Fault String} (hends : t.EndsWith size result)
    (hwritten : t.IsWritten size answer) :
    (∃ error, result = .error (.refused error)) ∨
      (∃ fault, result = .error (.fault fault) ∧ answer = .error fault) ∨
      ∃ value text, result = .ok value ∧ answer = .ok text := by
  rcases t.trouble?_eq_refused_or size with ⟨error, hrefused⟩ | hsame
  · left
    cases hends with
    | trouble h =>
      obtain rfl := Option.some.inj (h.symm.trans hrefused)
      exact ⟨error, rfl⟩
    | value h => simp [h] at hrefused
  · right
    cases hwritten with
    | @missing id hmissing =>
      rw [hmissing, Option.map_some] at hsame
      cases hends with
      | trouble h =>
        obtain rfl := Option.some.inj (h.symm.trans hsame)
        exact .inl ⟨_, rfl, rfl⟩
      | value h => simp [h] at hsame
    | @text text hmissing =>
      rw [hmissing, Option.map_none] at hsame
      cases hends with
      | trouble h => simp [h] at hsame
      | @value value => exact .inr ⟨value, text, rfl, rfl⟩

end Unfolding

namespace Arena

variable {arena : Arena} {id : NodeId} {t : Unfolding} {depth : Nat}

/-- With depth enough, the evaluation of an id ends with the first trouble of its unfolding. -/
theorem endsWith_valueAt (h : arena.UnfoldsInto id t) (hdepth : t.height ≤ depth) :
    t.EndsWith arena.size (arena.valueAt depth id) := by
  induction h generalizing depth with
  | missing h =>
    rw [valueAt.eq_def, get, h]
    exact .trouble rfl
  | literal h =>
    obtain ⟨depth, rfl⟩ := Nat.exists_eq_add_of_le' hdepth
    rw [valueAt.eq_def, get, h]
    exact .value rfl rfl
  | @unary id operand op span t h ht ih =>
    rw [Unfolding.height] at hdepth
    obtain ⟨depth, rfl⟩ := Nat.exists_eq_add_of_le' (Nat.le_of_add_left_le hdepth)
    rw [valueAt.eq_def, get, h]
    exact (ih (by omega)).unary id op
  | @binary id left right op span t u h ht hu iht ihu =>
    rw [Unfolding.height] at hdepth
    obtain ⟨depth, rfl⟩ := Nat.exists_eq_add_of_le' (Nat.le_of_add_left_le hdepth)
    rw [valueAt.eq_def, get, h]
    exact (iht (by omega)).binary (ihu (by omega)) id op span

theorem endsWith_evaluate (h : arena.UnfoldsInto id t) (hdepth : t.height ≤ arena.size)
    (events : Array Event) : t.EndsWith arena.size (arena.evaluate id events).1 := by
  rw [evaluate_fst]
  exact endsWith_valueAt h hdepth

/-- With depth enough, the text of an id ends at the first missing id of its unfolding. -/
theorem writtenAfter_fold (h : arena.UnfoldsInto id t) (hdepth : t.height ≤ depth)
    (front : String) :
    t.WrittenAfter arena.size front (arena.fold Sexpr.writer depth id front) := by
  induction h generalizing depth front with
  | missing h =>
    rw [Arena.fold.eq_def, get, h]
    exact .missing rfl
  | literal h =>
    obtain ⟨depth, rfl⟩ := Nat.exists_eq_add_of_le' hdepth
    rw [Arena.fold.eq_def, get, h]
    exact .text rfl rfl
  | @unary id operand op span t h ht ih =>
    rw [Unfolding.height] at hdepth
    obtain ⟨depth, rfl⟩ := Nat.exists_eq_add_of_le' (Nat.le_of_add_left_le hdepth)
    rw [Arena.fold.eq_def, get, h]
    have hoperand := ih (Nat.le_of_add_le_add_right hdepth) (Sexpr.writer.enterUnary op front)
    dsimp only
    generalize arena.fold Sexpr.writer depth operand _ = result at hoperand ⊢
    cases hoperand with
    | missing h => exact .missing h
    | text h htext => exact .unary h htext id op
  | @binary id left right op span t u h ht hu iht ihu =>
    rw [Unfolding.height] at hdepth
    obtain ⟨depth, rfl⟩ := Nat.exists_eq_add_of_le' (Nat.le_of_add_left_le hdepth)
    rw [Arena.fold.eq_def, get, h]
    have hmax := Nat.le_of_add_le_add_right hdepth
    have hleft := iht (le_of_max_le_left hmax) (Sexpr.writer.enterBinary op front)
    dsimp only
    generalize arena.fold Sexpr.writer depth left _ = result at hleft ⊢
    cases hleft with
    | missing h =>
      refine .missing ?_
      rw [Unfolding.missing?_binary, h, Option.some_or]
    | @text text h htext =>
      have hright := ihu (le_of_max_le_right hmax)
        (Sexpr.writer.between op (Sexpr.writer.enterBinary op front ++ text))
      dsimp only
      generalize arena.fold Sexpr.writer depth right _ = result at hright ⊢
      cases hright with
      | missing h' =>
        refine .missing ?_
        rw [Unfolding.missing?_binary, h, h', Option.none_or]
      | text h' htext' => exact .binary h htext h' htext' id op span

theorem isWritten_sexpr (h : arena.UnfoldsInto id t) (hdepth : t.height ≤ arena.size) :
    t.IsWritten arena.size (arena.sexpr id) := by
  have hfold := writtenAfter_fold h hdepth ""
  rw [sexpr, walk_eq_fold]
  generalize arena.fold Sexpr.writer arena.size id "" = result at hfold ⊢
  cases hfold with
  | missing h => exact .missing h
  | text h htext => exact .text h (htext.trans (congrArg some String.empty_append.symm))

/-! ### Where troubles are -/

/-- What is on the way through the unfolding of `top` is below it. -/
inductive Passes (arena : Arena) (top : NodeId) : Visit → Prop where
  | missing {id : NodeId} (hbelow : arena.Reaches top id) (h : arena.get? id = none) :
      Passes arena top (.missing id)
  | entered {id : NodeId} {node : Node} (hbelow : arena.Reaches top id)
      (h : arena.get? id = some node) : Passes arena top (.entered id)
  | left {id left right : NodeId} {op : BinaryOp} {span : Span} {x? y? : Option Binary64}
      (hbelow : arena.Reaches top id) (h : arena.get? id = some ⟨.binary op left right, span⟩) :
      Passes arena top (.left id op span x? y?)

theorem Passes.above {top : NodeId} {visit : Visit} (htop : arena.Reaches top id)
    (h : arena.Passes id visit) : arena.Passes top visit := by
  cases h with
  | missing hbelow h => exact .missing (htop.trans hbelow) h
  | entered hbelow h => exact .entered (htop.trans hbelow) h
  | left hbelow h => exact .left (htop.trans hbelow) h

theorem UnfoldsInto.passes (h : arena.UnfoldsInto id t) {visit : Visit} (hvisit : visit ∈ t.trail) :
    arena.Passes id visit := by
  induction h with
  | missing h =>
    obtain rfl := List.mem_singleton.1 hvisit
    exact .missing (.self _) h
  | literal h =>
    obtain rfl := List.mem_singleton.1 hvisit
    exact .entered (.self _) h
  | unary h ht ih =>
    rcases List.mem_cons.1 hvisit with rfl | hvisit
    · exact .entered (.self _) h
    · exact (ih hvisit).above (.operand h (.self _))
  | binary h ht hu iht ihu =>
    rcases List.mem_cons.1 hvisit with rfl | hvisit
    · exact .entered (.self _) h
    rcases List.mem_append.1 hvisit with hvisit | hvisit
    · exact (iht hvisit).above (.left h (.self _))
    rcases List.mem_append.1 hvisit with hvisit | hvisit
    · exact (ihu hvisit).above (.right h (.self _))
    · obtain rfl := List.mem_singleton.1 hvisit
      exact .left (.self _) h

/-- Every missing id below is come to. -/
theorem UnfoldsInto.missing_mem_trail (h : arena.UnfoldsInto id t) {below : NodeId}
    (hbelow : arena.Reaches id below) (hmissing : arena.get? below = none) :
    .missing below ∈ t.trail := by
  -- The id is not that of a node with operands, so it is below one of them.
  have hoperand {id : NodeId} {node : Node} (hbelow : arena.Reaches id below)
      (hnode : arena.get? id = some node) :
      ∃ operand ∈ node.operands, arena.Reaches operand below := by
    rcases reaches_iff_eq_or.1 hbelow with rfl | ⟨node', hnode', operand, hmem, hbelow'⟩
    · exact absurd (hmissing.symm.trans hnode) (by simp)
    · obtain rfl := Option.some.inj (hnode.symm.trans hnode')
      exact ⟨operand, hmem, hbelow'⟩
  induction h with
  | @missing id h =>
    rcases reaches_iff_eq_or.1 hbelow with rfl | ⟨node, hnode, -⟩
    · exact List.mem_singleton_self _
    · exact absurd (h.symm.trans hnode) (by simp)
  | literal h =>
    obtain ⟨operand, hmem, -⟩ := hoperand hbelow h
    exact absurd hmem List.not_mem_nil
  | unary h _ ih =>
    obtain ⟨operand, hmem, hbelow'⟩ := hoperand hbelow h
    obtain rfl := List.mem_singleton.1 hmem
    exact List.mem_cons_of_mem _ (ih hbelow')
  | binary h _ _ iht ihu =>
    obtain ⟨operand, hmem, hbelow'⟩ := hoperand hbelow h
    refine List.mem_cons_of_mem _ ?_
    rcases List.mem_pair.1 hmem with rfl | rfl
    · exact List.mem_append_left _ (iht hbelow')
    · exact List.mem_append_right _ (List.mem_append_left _ (ihu hbelow'))

/-- Some id is missing on the way through the unfolding if one is missing below. -/
theorem UnfoldsInto.exists_missing?_iff (h : arena.UnfoldsInto id t) :
    (∃ below, t.missing? = some below) ↔
      ∃ below, arena.Reaches id below ∧ arena.get? below = none := by
  constructor
  · rintro ⟨below, hmissing⟩
    obtain ⟨visit, hvisit, hbelow⟩ := List.exists_of_findSome?_eq_some hmissing
    cases h.passes hvisit with
    | missing hreaches hnone =>
      obtain rfl := Option.some.inj hbelow
      exact ⟨_, hreaches, hnone⟩
    | _ => simp [Visit.missing?] at hbelow
  · rintro ⟨below, hbelow, hnone⟩
    refine Option.ne_none_iff_exists'.1 fun hmissing => ?_
    have hvisit := List.findSome?_eq_none_iff.1 hmissing _ (h.missing_mem_trail hbelow hnone)
    simp [Visit.missing?] at hvisit

/-- The operation that ends an evaluation is that of a node below, at its span. -/
theorem UnfoldsInto.exists_node_of_refused (h : arena.UnfoldsInto id t) {error : EvalError}
    (herror : t.trouble? arena.size = some (.refused error)) :
    ∃ below left right x y, arena.Reaches id below ∧
      arena.get? below = some ⟨.binary error.op left right, error.span⟩ ∧
      error.op.apply x y error.span = .error error := by
  obtain ⟨visit, hvisit, htrouble⟩ := List.exists_of_findSome?_eq_some herror
  cases h.passes hvisit with
  | missing => simp [Visit.trouble?] at htrouble
  | entered => simp [Visit.trouble?] at htrouble
  | @left below left right op span x? y? hbelow hnode =>
    obtain ⟨x, y, error', -, -, happly, herror⟩ := Unfolding.trouble?_left_eq_some_iff.1 htrouble
    obtain rfl := Interrupt.refused.inj herror
    obtain ⟨rfl, rfl⟩ := BinaryOp.op_and_span_of_apply happly
    exact ⟨below, left, right, x, y, hbelow, hnode, happly⟩

/-- **Evaluation and text stop at the first trouble on one way** through the nodes, which goes depth
first and from left to right.  Where no node below an id is below itself, the id has just one
unfolding.  Its evaluation ends with the first missing id or the first operation that fails,
whichever is come to first, and else has the value of the unfolding.  Its text ends with the first
missing id, which there is if an id below is missing.  An operation that fails is that of a node
below, with its operator and its span.  So if an evaluation ends with a missing id, the text does
with the same one; if there is a text, the evaluation does not end with a missing id; and if the
text ends with one, the evaluation does so too or has an operation that fails. -/
theorem stops_at_first_trouble {arena : Arena} {id : NodeId} (hacyclic : arena.Acyclic id) :
    (∃! t, arena.UnfoldsInto id t) ∧ ∀ t, arena.UnfoldsInto id t →
      t.IsWritten arena.size (arena.sexpr id) ∧
      ((∃ fault, arena.sexpr id = .error fault) ↔
        ∃ below, arena.Reaches id below ∧ arena.get? below = none) ∧
      ∀ events result, (arena.evaluate id events).1 = result →
        t.EndsWith arena.size result ∧
        (∀ error, result = .error (.refused error) → ∃ below left right x y,
          arena.Reaches id below ∧
          arena.get? below = some ⟨.binary error.op left right, error.span⟩ ∧
          error.op.apply x y error.span = .error error) ∧
        (∀ fault, result = .error (.fault fault) → arena.sexpr id = .error fault) ∧
        (∀ text, arena.sexpr id = .ok text → ∀ fault, result ≠ .error (.fault fault)) ∧
        ∀ fault, arena.sexpr id = .error fault →
          result = .error (.fault fault) ∨ ∃ error, result = .error (.refused error) := by
  obtain ⟨u, hu, hheight⟩ := hacyclic.exists_unfoldsInto
  refine ⟨⟨u, hu, fun t ht => ht.unique hu⟩, fun t ht => ?_⟩
  obtain rfl := ht.unique hu
  have hwritten := isWritten_sexpr hu hheight
  refine ⟨hwritten, ?_, ?_⟩
  · exact hwritten.exists_error_iff.trans hu.exists_missing?_iff
  · rintro events result rfl
    have hends := endsWith_evaluate hu hheight events
    refine ⟨hends, fun error herror => ?_, ?_⟩
    · rw [herror] at hends
      cases hends with
      | trouble h => exact hu.exists_node_of_refused h
    · rcases hends.refused_or hwritten with
        ⟨error, hresult⟩ | ⟨fault, hresult, hanswer⟩ | ⟨value, text, hresult, hanswer⟩
      · simp [hresult]
      · simp [hresult, hanswer]
      · simp [hresult, hanswer]

/-- Nodes that come before their operands and share them: a division by zero, and behind it a
product of what is not there. -/
def crossed : Arena :=
  ⟨#[⟨.binary .add ⟨1⟩ ⟨2⟩, ⟨2, 3⟩⟩, ⟨.binary .div ⟨3⟩ ⟨3⟩, ⟨1, 2⟩⟩, ⟨.binary .mul ⟨9⟩ ⟨9⟩, ⟨4, 5⟩⟩,
    ⟨.literal ⟨0⟩, ⟨0, 1⟩⟩]⟩

/-- The division fails before the missing id is come to, which the text ends at. -/
theorem stops_at_first_trouble_crossed :
    (∃! t, crossed.UnfoldsInto ⟨0⟩ t) ∧
    (crossed.evaluate ⟨0⟩ #[]).1 = .error (.refused (.divisionByZero ⟨1, 2⟩)) ∧
    crossed.sexpr ⟨0⟩ = .error (.dangling ⟨9⟩ 4) ∧
    (∃ below left right x y, crossed.Reaches ⟨0⟩ below ∧
      crossed.get? below = some ⟨.binary .div left right, ⟨1, 2⟩⟩ ∧
      BinaryOp.div.apply x y ⟨1, 2⟩ = .error (.divisionByZero ⟨1, 2⟩)) ∧
    (crossed.evaluate ⟨2⟩ #[]).1 = .error (.fault (.dangling ⟨9⟩ 4)) ∧
    crossed.sexpr ⟨2⟩ = .error (.dangling ⟨9⟩ 4) := by
  have hacyclic (id : NodeId) : crossed.Acyclic id :=
    acyclic_of_rank (fun i => 4 - i) (by decide) id
  have hevaluate : (crossed.evaluate ⟨0⟩ #[]).1 = .error (.refused (.divisionByZero ⟨1, 2⟩)) := by
    decide +kernel
  have hproduct : (crossed.evaluate ⟨2⟩ #[]).1 = .error (.fault (.dangling ⟨9⟩ 4)) := by
    decide +kernel
  obtain ⟨hunique, hstops⟩ := stops_at_first_trouble (hacyclic ⟨0⟩)
  have ⟨t, ht, _⟩ := hunique
  obtain ⟨-, -, hresults⟩ := hstops t ht
  obtain ⟨-, hrefused, -⟩ := hresults #[] _ hevaluate
  obtain ⟨⟨u, hu, -⟩, hstops'⟩ := stops_at_first_trouble (hacyclic ⟨2⟩)
  obtain ⟨-, -, hresults'⟩ := hstops' u hu
  obtain ⟨-, -, hfault, -⟩ := hresults' #[] _ hproduct
  exact ⟨hunique, hevaluate, by decide +kernel, hrefused _ rfl, hproduct, hfault _ rfl⟩

end Arena

end Reckon
