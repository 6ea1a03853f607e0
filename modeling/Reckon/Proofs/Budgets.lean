/-
How much of a budget a descent needs.

Each call of a factor from inside another one comes behind a token that was taken in, and so does
each further round of a chain.  So the text that is left bounds both the depth of the calls and the
rounds, however the text goes on.

* `course_mono`: an outcome stays what it is with a larger budget;
* `Reading.halts_read`: a budget that is larger than what is left to read is enough;
* `exists_course`: so every text has a course, and its outcome is that of the parser.
-/
import Reckon.Proofs.Readings

namespace Reckon

/-! ### Larger budgets -/

namespace Reading

variable {α β : Type} {m m' : Reading α} {f f' : α → Reading β}

/-- Every outcome of one reading is that of the other. -/
def Le (m m' : Reading α) : Prop := ∀ d out, m.run d = some out → m'.run d = some out

theorem Le.refl (m : Reading α) : m.Le m := fun _ _ => id

theorem Le.bind (hm : m.Le m') (hf : ∀ a, (f a).Le (f' a)) : (m >>= f).Le (m' >>= f') := by
  intro d out h
  rw [run_bind] at h ⊢
  rcases hread : m.run d with _ | ⟨error | a, d₁⟩
  · simp [hread] at h
  · rw [hread] at h
    rw [hm d _ hread]
    exact h
  · rw [hread] at h
    rw [hm d _ hread]
    exact hf a d₁ out h

theorem le_spent (m : Reading α) : (spent : Reading α).Le m := by
  intro d out h
  exact absurd h (by simp [spent])

section
variable {m m' sum sum' : Reading NodeId} {budget budget' : Nat}

theorem round_le (hm : m.Le m') (op : BinaryOp) (left : NodeId) :
    (round op m left).Le (round op m' left) :=
  .bind (.refl _) fun _ => .bind (.refl _) fun _ => .bind hm fun _ => .refl _

theorem rest_le (hm : m.Le m') (rank : Rank) (h : budget ≤ budget') (left : NodeId) :
    (rest rank m budget left).Le (rest rank m' budget' left) := by
  induction budget generalizing budget' left with
  | zero => exact le_spent _
  | succ budget ih =>
    obtain ⟨budget', rfl⟩ := Nat.exists_eq_add_of_le' (Nat.le_of_add_left_le h)
    refine .bind (.refl _) fun token => ?_
    cases rank.op? token.kind with
    | none => exact .refl _
    | some op => exact .bind (round_le hm op left) fun id => ih (Nat.le_of_succ_le_succ h) id

theorem chain_le (hm : m.Le m') (rank : Rank) (h : budget ≤ budget') :
    (chain rank m budget).Le (chain rank m' budget') :=
  .bind hm fun left => rest_le hm rank h left

theorem onRank_le (hm : m.Le m') (h : budget ≤ budget') (rank : Rank) :
    (onRank m budget rank).Le (onRank m' budget' rank) := by
  cases rank with
  | factor => exact hm
  | product => exact chain_le hm .product h
  | sum => exact chain_le (chain_le hm .product h) .sum h

theorem factorFrom_le (hm : m.Le m') (hsum : sum.Le sum') (kind : TokenKind) :
    (factorFrom kind m sum).Le (factorFrom kind m' sum') := by
  have hprefixed (op : UnaryOp) : (prefixed op m).Le (prefixed op m') :=
    .bind (.refl _) fun _ => .bind hm fun _ => .refl _
  have hgroup : (group sum).Le (group sum') :=
    .bind (.refl _) fun _ => .bind (.refl _) fun _ => .bind (.refl _) fun _ =>
      .bind hsum fun _ => .refl _
  cases kind with
  | number value => exact .refl _
  | symbol sign =>
    cases sign with
    | minus => exact hprefixed .neg
    | plus => exact hprefixed .plus
    | openParen => exact hgroup
    | star | slash | closeParen => exact .refl _
  | endOfInput => exact .refl _

theorem factor_le (h : budget ≤ budget') : (factor budget).Le (factor budget') := by
  induction budget generalizing budget' with
  | zero => exact le_spent _
  | succ budget ih =>
    obtain ⟨budget', rfl⟩ := Nat.exists_eq_add_of_le' (Nat.le_of_add_left_le h)
    have hm := ih (Nat.le_of_succ_le_succ h)
    exact .bind (.refl _) fun _ => .bind (.refl _) fun token =>
      factorFrom_le hm (onRank_le hm (Nat.le_of_succ_le_succ h) .sum) token.kind

theorem read_le (h : budget ≤ budget') (rank : Rank) :
    (read budget rank).Le (read budget' rank) := onRank_le (factor_le h) h rank

end

end Reading

/-- A course with an outcome is the same with a larger budget. -/
theorem course_mono {budget budget' : Nat} {source : String} {c : Course}
    (h : budget ≤ budget') (hc : course budget source = some c) :
    course budget' source = some c := by
  rw [course] at hc ⊢
  cases hstart : Descent.start source with
  | error error =>
    rw [hstart] at hc
    exact hc
  | ok d =>
    rw [hstart] at hc
    obtain ⟨out, hrun, rfl⟩ := Option.map_eq_some_iff.1 hc
    have hle : (Reading.expression budget).Le (Reading.expression budget') :=
      (Reading.read_le h .sum).bind fun _ => .refl _
    exact Option.map_eq_some_iff.2 ⟨out, hle d out hrun, rfl⟩

/-! ### Budgets that are enough -/

/-- Less than `k` is left to read. -/
def Descent.Below (k : Nat) (d : Descent) : Prop := d.cursor.remaining < k

namespace Reading

variable {α β : Type} {m : Reading α} {f : α → Reading β} {P : Descent → Prop}
  {Q : α → Descent → Prop} {R : β → Descent → Prop}

/-- Where `P` holds, a reading has an outcome, with `Q` if it succeeds. -/
def Halts (P : Descent → Prop) (m : Reading α) (Q : α → Descent → Prop) : Prop :=
  ∀ d, P d → ∃ result d', m.run d = some (result, d') ∧ ∀ a, result = .ok a → Q a d'

theorem Halts.bind (hm : Halts P m Q) (hf : ∀ a, Halts (Q a) (f a) R) : Halts P (m >>= f) R := by
  intro d hd
  obtain ⟨result, d₁, hrun, hresult⟩ := hm d hd
  rw [run_bind, hrun]
  cases result with
  | error error => exact ⟨.error error, d₁, rfl, by simp⟩
  | ok a => exact hf a d₁ (hresult a rfl)

theorem halts_pure {a : α} (h : ∀ d, P d → Q a d) : Halts P (pure a) Q :=
  fun d hd => ⟨.ok a, d, rfl, fun _ ha => Except.ok.inj ha ▸ h d hd⟩

theorem halts_reject : Halts P (reject : Reading α) Q :=
  fun d _ => ⟨.error d.cursor.unexpected, d.mark .reject, rfl, by simp⟩

theorem Halts.of_le {m' : Reading α} (hm : Halts P m Q) (h : m.Le m') : Halts P m' Q := by
  intro d hd
  obtain ⟨result, d', hrun, hresult⟩ := hm d hd
  exact ⟨result, d', h d _ hrun, hresult⟩

/-- Where less than `k` is left, a reading of a node has an outcome, and no more is left. -/
def HaltsBelow (k : Nat) (m : Reading NodeId) : Prop :=
  Halts (Descent.Below k) m fun _ => Descent.Below k

section
variable {m sum : Reading NodeId} {k budget : Nat}

theorem halts_alloc (node : Node) : HaltsBelow k (alloc node) :=
  fun d hd => ⟨.ok (d.arena.alloc node).1, d.store node, rfl, fun _ _ => hd⟩

/-- Behind a token that is not the end there is less to read. -/
theorem halts_advance {kind : TokenKind} (hend : kind ≠ .endOfInput) :
    Halts (fun d => d.Below (k + 1) ∧ d.cursor.current.kind = kind) advance
      fun _ => Descent.Below k := by
  rintro d ⟨hd, rfl⟩
  cases hadvance : d.cursor.advance with
  | error error => exact ⟨_, _, run_advance_of_error hadvance, by simp⟩
  | ok cursor =>
    refine ⟨_, _, run_advance_of_ok hadvance, fun _ _ => ?_⟩
    exact Nat.lt_of_lt_of_le (Cursor.remaining_lt_of_advance hend hadvance) (Nat.le_of_lt_succ hd)

theorem halts_expect : Halts (Descent.Below k) (expect .closeParen) fun _ => Descent.Below k := by
  intro d hd
  rw [run_expect]
  split
  · rename_i hkind
    exact halts_advance (by simp) d ⟨Nat.lt_succ_of_lt hd, hkind⟩
  · exact halts_reject d hd

theorem HaltsBelow.prefixed (hm : HaltsBelow k m) (op : UnaryOp) :
    Halts (fun d => d.Below (k + 1) ∧ d.cursor.current.kind = .symbol op.sign) (prefixed op m)
      fun _ => Descent.Below k :=
  .bind (halts_advance (by simp)) fun _ => .bind hm fun _ => halts_alloc _

theorem HaltsBelow.group (hsum : HaltsBelow k sum) :
    Halts (fun d => d.Below (k + 1) ∧ d.cursor.current.kind = .symbol .openParen) (group sum)
      fun _ => Descent.Below k := by
  have hinside : Halts (fun d => d.Below (k + 1) ∧ d.cursor.current.kind = .symbol .openParen)
      (do
        let _ ← advance
        let inner ← sum
        let _ ← expect .closeParen
        pure inner) fun _ => Descent.Below k :=
    .bind (halts_advance (by simp)) fun _ => .bind hsum fun _ => .bind halts_expect fun _ =>
      halts_pure fun _ => id
  exact fun d hd => hinside (d.report (.groupOpened d.cursor.current.span.start)) hd

theorem HaltsBelow.factorFrom (hm : HaltsBelow k m) (hsum : HaltsBelow k sum) (kind : TokenKind) :
    Halts (fun d => d.Below (k + 1) ∧ d.cursor.current.kind = kind) (factorFrom kind m sum)
      fun _ => Descent.Below k := by
  cases kind with
  | number value => exact .bind (halts_advance (by simp)) fun _ => halts_alloc _
  | symbol sign =>
    cases sign with
    | minus => exact hm.prefixed .neg
    | plus => exact hm.prefixed .plus
    | openParen => exact hsum.group
    | star | slash | closeParen => exact halts_reject
  | endOfInput => exact halts_reject

theorem HaltsBelow.round (hm : HaltsBelow k m) (op : BinaryOp) (left : NodeId) :
    Halts (fun d => d.Below (k + 1) ∧ d.cursor.current.kind = .symbol op.sign) (round op m left)
      fun _ => Descent.Below k := by
  have hround : Halts (fun d => d.Below (k + 1) ∧ d.cursor.current.kind = .symbol op.sign)
      (do
        let token ← advance
        let right ← m
        alloc ⟨.binary op left right, token.span⟩) fun _ => Descent.Below k :=
    .bind (halts_advance (by simp)) fun _ => .bind hm fun _ => halts_alloc _
  exact fun d hd => hround (d.mark (.round op)) hd

/-- Each round of a chain takes in its operator. -/
theorem halts_rest (hm : ∀ j ≤ k, HaltsBelow j m) (rank : Rank) (left : NodeId) :
    HaltsBelow k (rest rank m k left) := by
  -- By what is left to read, which is at the same time the number of rounds.
  induction k generalizing left with
  | zero => exact fun d hd => absurd hd (Nat.not_lt_zero _)
  | succ k ih =>
    intro d hd
    cases hop : rank.op? d.cursor.current.kind with
    | none => exact ⟨.ok left, d, run_rest_of_none k hop, fun _ _ => hd⟩
    | some op =>
      have hround := ((hm k (Nat.le_succ k)).round op left).bind
        (ih fun j hj => hm j (Nat.le_succ_of_le hj))
      obtain ⟨result, d', hrun, hresult⟩ := hround d ⟨hd, (Rank.eq_of_op?_eq_some hop).2⟩
      exact ⟨result, d', (run_rest_of_some k hop).trans hrun, fun a ha =>
        Nat.lt_succ_of_lt (hresult a ha)⟩

theorem halts_chain (hm : ∀ k ≤ budget, HaltsBelow k m) (rank : Rank) :
    ∀ k ≤ budget, HaltsBelow k (chain rank m budget) := by
  intro k hk
  refine .bind (hm k hk) fun left => ?_
  have hrest := halts_rest (fun j hj => hm j (Nat.le_trans hj hk)) rank left
  exact hrest.of_le (rest_le (.refl m) rank hk left)

theorem halts_onRank (hm : ∀ k ≤ budget, HaltsBelow k m) (rank : Rank) :
    ∀ k ≤ budget, HaltsBelow k (onRank m budget rank) := by
  cases rank with
  | factor => exact hm
  | product => exact halts_chain hm .product
  | sum => exact halts_chain (halts_chain hm .product) .sum

end

/-- A factor that is called from inside another one has a token less to read. -/
theorem halts_factor (budget : Nat) : ∀ k ≤ budget, HaltsBelow k (factor budget) := by
  -- By the depth that is left for calls.  Behind the first token one less is enough of each.
  induction budget with
  | zero => exact fun k hk d hd => absurd (Nat.lt_of_lt_of_le hd hk) (Nat.not_lt_zero _)
  | succ budget ih =>
    intro k hk d hd
    cases k with
    | zero => exact absurd hd (Nat.not_lt_zero _)
    | succ k =>
      have hk := Nat.le_of_succ_le_succ hk
      have hfrom := (ih k hk).factorFrom (halts_onRank ih .sum k hk) d.cursor.current.kind
      obtain ⟨result, d', hrun, hresult⟩ := hfrom (d.mark .factor) ⟨hd, rfl⟩
      exact ⟨result, d', hrun, fun a ha => Nat.lt_succ_of_lt (hresult a ha)⟩

/-- The budget is enough if it is larger than what is left to read. -/
theorem halts_read (budget : Nat) (rank : Rank) : HaltsBelow budget (read budget rank) :=
  halts_onRank (halts_factor budget) rank budget (Nat.le_refl _)

end Reading

/-! ### Every text has a course -/

theorem Cursor.remaining_le_of_pull {l : Lexer} {c : Cursor} (h : pull l = .ok c) :
    c.remaining ≤ l.remaining := by
  rw [pull] at h
  split at h
  · rename_i token lexer hnext
    obtain rfl := Except.ok.inj h
    have hlt := Lexer.remaining_lt_of_next hnext
    rw [remaining]
    dsimp only
    split <;> omega
  · exact absurd h (by simp)
  · obtain rfl := Except.ok.inj h
    simp [remaining]

/-- At the first token there is no more to read than the bytes of the text, and its end. -/
theorem Cursor.remaining_start_le {source : String} {c : Cursor} (h : start source = .ok c) :
    c.remaining ≤ source.utf8ByteSize + 1 := by
  have hlength := Text.length_le_byteLength source.toList
  rw [Text.byteLength_toList] at hlength
  exact Nat.le_trans (remaining_le_of_pull h) (Nat.succ_le_succ hlength)

/-- No budget above the length of a text is used up, and the outcome is that of the parser. -/
theorem exists_course (source : String) :
    ∃ c, (∀ budget, source.utf8ByteSize + 2 ≤ budget → course budget source = some c) ∧
      (c.result, c.events) = parse source := by
  have hcourse : ∃ c, course (source.utf8ByteSize + 2) source = some c := by
    rw [course]
    cases hstart : Descent.start source with
    | error error => exact ⟨_, rfl⟩
    | ok d =>
      have hbelow : d.Below (source.utf8ByteSize + 2) := by
        obtain ⟨cursor, hcursor, rfl⟩ := Descent.exists_of_start hstart
        exact Nat.lt_succ_of_le (Cursor.remaining_start_le hcursor)
      have hfinish (root : NodeId) :
          Reading.Halts (Descent.Below (source.utf8ByteSize + 2)) (Reading.finish root)
            fun _ _ => True := by
        intro d _
        rw [Reading.run_finish]
        split
        · exact ⟨_, _, rfl, fun _ _ => trivial⟩
        · exact ⟨_, _, rfl, fun _ _ => trivial⟩
      obtain ⟨result, d', hrun, -⟩ :=
        (Reading.halts_read (source.utf8ByteSize + 2) .sum).bind hfinish d hbelow
      exact ⟨_, Option.map_eq_some_iff.2 ⟨(result, d'), hrun, rfl⟩⟩
  obtain ⟨c, hc⟩ := hcourse
  exact ⟨c, fun budget hbudget => course_mono hbudget hc, course_eq_parse hc⟩

end Reckon
