/-
What readings keep.

A descent does few things: it enters a factor or a round, takes in a token, stores a node, or gives
up.  What each of them keeps a whole reading keeps, however deep it goes.  Assertions may go by the
number of nodes that are due: each token taken in, but for parentheses, makes one more node due,
which is stored before the part of the expression that it belongs to is complete.

* `Reading.Ensures.bind`: what holds between two readings;
* `Kept.read`: what every thing that a descent does keeps, all readings keep.
-/
import Reckon.Proofs.Descent

namespace Reckon

/-- Whether something that may call for more is begun: a factor, or another round of a chain. -/
def Act.isEntry : Act → Bool
  | factor => true
  | round _ => true
  | _ => false

namespace Reading

variable {α β : Type} {m : Reading α} {f : α → Reading β} {P : Descent → Prop}
  {Q : α → Descent → Prop} {R : β → Descent → Prop} {E : Descent → Prop}

/-- Where `P` holds, a reading with an outcome succeeds with `Q` of what it gives, or fails with
`E`. -/
def Ensures (P : Descent → Prop) (m : Reading α) (Q : α → Descent → Prop) (E : Descent → Prop) :
    Prop :=
  ∀ d, P d → ∀ result d', m.run d = some (result, d') →
    match result with
    | .ok a => Q a d'
    | .error _ => E d'

/-- A reading of a node keeps the assertions, with any number of nodes due. -/
def Keeps (I : Nat → Descent → Prop) (E : Descent → Prop) (m : Reading NodeId) : Prop :=
  ∀ n, Ensures (I n) m (fun _ => I n) E

theorem Ensures.bind (hm : Ensures P m Q E) (hf : ∀ a, Ensures (Q a) (f a) R E) :
    Ensures P (m >>= f) R E := by
  intro d hd result d' hrun
  rw [run_bind] at hrun
  rcases hread : m.run d with _ | ⟨error | a, d₁⟩
  · simp [hread] at hrun
  · rw [hread] at hrun
    obtain ⟨rfl, rfl⟩ := Prod.mk.inj (Option.some.inj hrun)
    exact hm d hd _ _ hread
  · rw [hread] at hrun
    exact hf a d₁ (hm d hd _ _ hread) result d' hrun

theorem Ensures.imp {P' : Descent → Prop} (hm : Ensures P m Q E) (h : ∀ d, P' d → P d) :
    Ensures P' m Q E := fun d hd => hm d (h d hd)

theorem ensures_pure {a : α} (h : ∀ d, P d → Q a d) : Ensures P (pure a) Q E := by
  intro d hd result d' hrun
  obtain ⟨rfl, rfl⟩ := Prod.mk.inj (Option.some.inj hrun)
  exact h d hd

theorem ensures_spent : Ensures P (spent : Reading α) Q E := by
  intro d _ result d' hrun
  exact absurd hrun (by simp [spent])

theorem ensures_reject (h : ∀ d, P d → E (d.mark .reject)) :
    Ensures P (reject : Reading α) Q E := by
  intro d hd result d' hrun
  obtain ⟨rfl, rfl⟩ := Prod.mk.inj (Option.some.inj hrun)
  exact h d hd

theorem Ensures.mark {act : Act} {f : Unit → Reading α} {P' : Descent → Prop}
    (hf : Ensures P' (f ()) Q E) (h : ∀ d, P d → P' (d.mark act)) :
    Ensures P (Reading.mark act >>= f) Q E :=
  fun d hd result d' hrun => hf (d.mark act) (h d hd) result d' hrun

theorem Ensures.report {event : Event} {f : Unit → Reading α} {P' : Descent → Prop}
    (hf : Ensures P' (f ()) Q E) (h : ∀ d, P d → P' (d.report event)) :
    Ensures P (Reading.report event >>= f) Q E :=
  fun d hd result d' hrun => hf (d.report event) (h d hd) result d' hrun

theorem Ensures.current {f : Token → Reading α}
    (hf : ∀ token, Ensures (fun d => P d ∧ d.cursor.current = token) (f token) Q E) :
    Ensures P (Reading.current >>= f) Q E :=
  fun d hd result d' hrun => hf d.cursor.current d ⟨hd, rfl⟩ result d' hrun

end Reading

/-! ### Assertions that all readings keep -/

/-- Assertions that what a descent does keeps: `I n` where a reading may begin, `J n` where a factor
or a round is begun, with `n` nodes due; `E` where it has failed. -/
structure Kept (I J : Nat → Descent → Prop) (E : Descent → Prop) : Prop where
  enter : ∀ {n d act}, act.isEntry = true → I n d → J n (d.mark act)
  relax : ∀ {n d}, I n d → J n d
  report : ∀ {n d} (event : Event), J n d → J n (d.report event)
  take : ∀ {n d cursor}, d.cursor.current.kind ≠ .endOfInput → d.cursor.advance = .ok cursor →
    J n d → I (n + if d.cursor.current.isParen then 0 else 1)
      ((d.mark .advance).askLexer.goTo cursor)
  stick : ∀ {n d error}, d.cursor.current.kind ≠ .endOfInput → d.cursor.advance = .error error →
    J n d → E (d.mark .advance).askLexer
  reject : ∀ {n d}, J n d → E (d.mark .reject)
  store : ∀ {n d} (node : Node), I (n + 1) d → I n (d.store node)

namespace Kept

open Reading (Ensures)

variable {I J : Nat → Descent → Prop} {E : Descent → Prop}

/-- Taking in a token that is not the end. -/
theorem advance (hk : Kept I J E) {kind : TokenKind} (hend : kind ≠ .endOfInput) (n : Nat) :
    Ensures (fun d => J n d ∧ d.cursor.current.kind = kind) Reading.advance
      (fun token => I (n + if (⟨kind, token.span⟩ : Token).isParen then 0 else 1)) E := by
  rintro d ⟨hd, rfl⟩ result d' hrun
  cases hadvance : d.cursor.advance with
  | error error =>
    rw [Reading.run_advance_of_error hadvance, Descent.ask_of_ne hend] at hrun
    obtain ⟨rfl, rfl⟩ := Prod.mk.inj (Option.some.inj hrun)
    exact hk.stick hend hadvance hd
  | ok cursor =>
    rw [Reading.run_advance_of_ok hadvance, Descent.ask_of_ne hend] at hrun
    obtain ⟨rfl, rfl⟩ := Prod.mk.inj (Option.some.inj hrun)
    exact hk.take hend hadvance hd

theorem alloc (hk : Kept I J E) (node : Node) (n : Nat) :
    Ensures (I (n + 1)) (Reading.alloc node) (fun _ => I n) E := by
  intro d hd result d' hrun
  obtain ⟨rfl, rfl⟩ := Prod.mk.inj (Option.some.inj hrun)
  exact hk.store node hd

section
variable {m sum : Reading NodeId}

theorem number (hk : Kept I J E) (value : Binary64) (n : Nat) :
    Ensures (fun d => J n d ∧ d.cursor.current.kind = .number value) (Reading.number value)
      (fun _ => I n) E :=
  .bind (hk.advance (by simp) n) fun _ => hk.alloc _ n

theorem prefixed (hk : Kept I J E) (hm : m.Keeps I E) (op : UnaryOp) (n : Nat) :
    Ensures (fun d => J n d ∧ d.cursor.current.kind = .symbol op.sign) (Reading.prefixed op m)
      (fun _ => I n) E := by
  have hadvance : Ensures (fun d => J n d ∧ d.cursor.current.kind = .symbol op.sign)
      Reading.advance (fun _ => I (n + 1)) E := by
    cases op <;> exact hk.advance (by simp) n
  exact .bind hadvance fun _ => .bind (hm (n + 1)) fun _ => hk.alloc _ n

theorem expect (hk : Kept I J E) (n : Nat) :
    Ensures (I n) (Reading.expect .closeParen) (fun _ => I n) E := by
  intro d hd result d' hrun
  rw [Reading.run_expect] at hrun
  split at hrun
  · rename_i hkind
    exact hk.advance (by simp) n d ⟨hk.relax hd, hkind⟩ result d' hrun
  · exact Reading.ensures_reject (fun _ => hk.reject) d (hk.relax hd) result d' hrun

theorem group (hk : Kept I J E) (hsum : sum.Keeps I E) (n : Nat) :
    Ensures (fun d => J n d ∧ d.cursor.current.kind = .symbol .openParen) (Reading.group sum)
      (fun _ => I n) E := by
  have hinside : Ensures (fun d => J n d ∧ d.cursor.current.kind = .symbol .openParen)
      (do
        let _ ← Reading.advance
        let inner ← sum
        let _ ← Reading.expect .closeParen
        pure inner) (fun _ => I n) E :=
    .bind (hk.advance (by simp) n) fun _ => .bind (hsum n) fun _ =>
      .bind (hk.expect n) fun _ => Reading.ensures_pure fun _ => id
  exact .current fun token => hinside.report fun d hd => ⟨hk.report _ hd.1.1, hd.1.2⟩

theorem factorFrom (hk : Kept I J E) (hm : m.Keeps I E) (hsum : sum.Keeps I E)
    (kind : TokenKind) (n : Nat) :
    Ensures (fun d => J n d ∧ d.cursor.current.kind = kind) (Reading.factorFrom kind m sum)
      (fun _ => I n) E := by
  have hreject : Ensures (fun d => J n d ∧ d.cursor.current.kind = kind)
      (Reading.reject : Reading NodeId) (fun _ => I n) E :=
    Reading.ensures_reject fun _ hd => hk.reject hd.1
  cases kind with
  | number value => exact hk.number value n
  | symbol sign =>
    cases sign with
    | minus => exact hk.prefixed hm .neg n
    | plus => exact hk.prefixed hm .plus n
    | openParen => exact hk.group hsum n
    | star | slash | closeParen => exact hreject
  | endOfInput => exact hreject

theorem round (hk : Kept I J E) (hm : m.Keeps I E) (op : BinaryOp) (left : NodeId) (n : Nat) :
    Ensures (fun d => I n d ∧ d.cursor.current.kind = .symbol op.sign) (Reading.round op m left)
      (fun _ => I n) E := by
  have hadvance : Ensures (fun d => J n d ∧ d.cursor.current.kind = .symbol op.sign)
      Reading.advance (fun _ => I (n + 1)) E := by
    cases op <;> exact hk.advance (by simp) n
  refine .mark (.bind hadvance fun _ => .bind (hm (n + 1)) fun _ => hk.alloc _ n) ?_
  exact fun d hd => ⟨hk.enter rfl hd.1, hd.2⟩

theorem rest (hk : Kept I J E) (hm : m.Keeps I E) (rank : Rank) (budget : Nat) (left : NodeId) :
    (Reading.rest rank m budget left).Keeps I E := by
  intro n
  induction budget generalizing left with
  | zero => exact Reading.ensures_spent
  | succ budget ih =>
    intro d hd result d' hrun
    cases hop : rank.op? d.cursor.current.kind with
    | none =>
      rw [Reading.run_rest_of_none budget hop] at hrun
      obtain ⟨rfl, rfl⟩ := Prod.mk.inj (Option.some.inj hrun)
      exact hd
    | some op =>
      rw [Reading.run_rest_of_some budget hop] at hrun
      have hround := (hk.round hm op left n).bind ih
      exact hround d ⟨hd, (Rank.eq_of_op?_eq_some hop).2⟩ result d' hrun

theorem chain (hk : Kept I J E) (hm : m.Keeps I E) (rank : Rank) (budget : Nat) :
    (Reading.chain rank m budget).Keeps I E :=
  fun n => .bind (hm n) fun left => hk.rest hm rank budget left n

theorem onRank (hk : Kept I J E) (hm : m.Keeps I E) (budget : Nat) (rank : Rank) :
    (Reading.onRank m budget rank).Keeps I E := by
  cases rank with
  | factor => exact hm
  | product => exact hk.chain hm .product budget
  | sum => exact hk.chain (hk.chain hm .product budget) .sum budget

theorem factor (hk : Kept I J E) (budget : Nat) : (Reading.factor budget).Keeps I E := by
  -- By the depth that is left for calls.
  induction budget with
  | zero => exact fun n => Reading.ensures_spent
  | succ budget ih =>
    intro n
    have hfrom : Ensures (J n)
        (Reading.current >>= fun token => Reading.factorFrom token.kind (Reading.factor budget)
          (Reading.onRank (Reading.factor budget) budget .sum)) (fun _ => I n) E :=
      .current fun token => (hk.factorFrom ih (hk.onRank ih budget .sum) token.kind n).imp
        fun d hd => ⟨hd.1, congrArg Token.kind hd.2⟩
    exact hfrom.mark fun d hd => hk.enter rfl hd

/-- What every thing that a descent does keeps, all readings keep. -/
theorem read (hk : Kept I J E) (budget : Nat) (rank : Rank) :
    (Reading.read budget rank).Keeps I E :=
  hk.onRank (hk.factor budget) budget rank

end

/-- What holds at the end of a whole expression, whether it is one or not. -/
theorem expression (hk : Kept I J E) (hfinish : ∀ {d}, I 0 d → J 0 (d.mark .finish))
    (hdone : ∀ {d}, J 0 d → E d) (budget : Nat) :
    Ensures (I 0) (Reading.expression budget) (fun _ => E) E := by
  refine .bind (hk.read budget .sum 0) fun root d hd result d' hrun => ?_
  rw [Reading.run_finish] at hrun
  split at hrun
  · obtain ⟨rfl, rfl⟩ := Prod.mk.inj (Option.some.inj hrun)
    exact hdone (hk.report _ (hfinish hd))
  · obtain ⟨rfl, rfl⟩ := Prod.mk.inj (Option.some.inj hrun)
    exact hk.reject (hfinish hd)

end Kept

/-- Where there is no first token a course is over at once. -/
theorem course_of_error {budget : Nat} {source : String} {error : LexError} {c : Course}
    (hstart : Descent.start source = .error error) (h : course budget source = some c) :
    c.asked = [.start source] ∧ c.past = [] := by
  rw [course, hstart] at h
  obtain rfl := Option.some.inj h
  exact ⟨rfl, rfl⟩

/-- A course ends as its expression does. -/
theorem Kept.course {I J : Nat → Descent → Prop} {E : Descent → Prop} {budget : Nat}
    {source : String} {d : Descent} {c : Course} (hk : Kept I J E)
    (hfinish : ∀ {d}, I 0 d → J 0 (d.mark .finish)) (hdone : ∀ {d}, J 0 d → E d)
    (hstart : Descent.start source = .ok d) (hd : I 0 d) (h : course budget source = some c) :
    ∃ d', E d' ∧ c.asked = d'.asked.reverse ∧ c.past = d'.past.reverse := by
  rw [Reckon.course, hstart] at h
  obtain ⟨⟨result, d'⟩, hrun, rfl⟩ := Option.map_eq_some_iff.1 h
  have hend := hk.expression hfinish hdone budget d hd result d' hrun
  refine ⟨d', ?_, rfl, rfl⟩
  cases result with
  | error error => exact hend
  | ok e => exact hend

end Reckon
