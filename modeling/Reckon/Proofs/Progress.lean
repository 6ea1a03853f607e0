/-
A descent gets on.

A factor begins with a token that is taken in or does not fit, and so does each further round of a
chain.  So between one of these entries and the next one there is a token, however deep the second
one is inside the first, and the text that is left bounds their number.

* `Reading.gaining_read`: where a reading succeeds it has taken in a token and stored a node;
* `Descent.kept_enters`: between any two entries there is a token;
* `descent_progresses`: so a descent comes to an end, on every text and from every point.
-/
import Reckon.Proofs.Budgets
import Reckon.Proofs.Words

namespace Reckon

/-! ### Further on -/

namespace Descent

/-- One descent comes from another: nothing that it had is lost. -/
structure Leads (d d' : Descent) : Prop where
  taken : d.taken.length ≤ d'.taken.length
  size : d.arena.size ≤ d'.arena.size
  remaining : d'.cursor.remaining ≤ d.cursor.remaining

/-- Besides, a token is taken in. -/
structure Moves (d d' : Descent) : Prop where
  taken : d.taken.length < d'.taken.length
  size : d.arena.size ≤ d'.arena.size
  remaining : d'.cursor.remaining < d.cursor.remaining

/-- And a node is stored. -/
structure Gains (d d' : Descent) : Prop where
  taken : d.taken.length < d'.taken.length
  size : d.arena.size < d'.arena.size
  remaining : d'.cursor.remaining < d.cursor.remaining

variable {d d₁ d₂ : Descent}

theorem Leads.refl (d : Descent) : d.Leads d := ⟨Nat.le_refl _, Nat.le_refl _, Nat.le_refl _⟩

theorem Moves.leads (h : d.Moves d₁) (h' : d₁.Leads d₂) : d.Moves d₂ :=
  ⟨Nat.lt_of_lt_of_le h.taken h'.taken, Nat.le_trans h.size h'.size,
    Nat.lt_of_le_of_lt h'.remaining h.remaining⟩

theorem Moves.gains (h : d.Moves d₁) (h' : d₁.Gains d₂) : d.Gains d₂ :=
  ⟨Nat.lt_trans h.taken h'.taken, Nat.lt_of_le_of_lt h.size h'.size,
    Nat.lt_trans h'.remaining h.remaining⟩

theorem Moves.store (h : d.Moves d₁) (node : Node) : d.Gains (d₁.store node) := by
  have hsize : (d₁.store node).arena.size = d₁.arena.size + 1 := Arena.size_push d₁.arena node
  exact ⟨h.taken, hsize ▸ Nat.lt_succ_of_le h.size, h.remaining⟩

theorem Gains.leads (h : d.Gains d₁) (h' : d₁.Leads d₂) : d.Gains d₂ :=
  ⟨Nat.lt_of_lt_of_le h.taken h'.taken, Nat.lt_of_lt_of_le h.size h'.size,
    Nat.lt_of_le_of_lt h'.remaining h.remaining⟩

/-- Taking in a token that is not the end. -/
theorem moves_goTo {cursor : Cursor} (hend : d.cursor.current.kind ≠ .endOfInput)
    (hadvance : d.cursor.advance = .ok cursor) :
    d.Moves ((d.mark .advance).askLexer.goTo cursor) := by
  refine ⟨?_, Nat.le_refl _, Cursor.remaining_lt_of_advance hend hadvance⟩
  show d.taken.length < (d.taken ++ [d.cursor.current]).length
  rw [List.length_append]
  exact Nat.lt_succ_self _

/-- Nothing is lost by what a descent does. -/
theorem kept_leads (d₀ : Descent) :
    Kept (fun _ => d₀.Leads) (fun _ => d₀.Leads) d₀.Leads where
  enter _ h := ⟨h.taken, h.size, h.remaining⟩
  relax h := h
  report _ h := ⟨h.taken, h.size, h.remaining⟩
  take hend hadvance h := by
    have hmoves := moves_goTo hend hadvance
    exact ⟨Nat.le_trans h.taken (Nat.le_of_lt hmoves.taken), Nat.le_trans h.size hmoves.size,
      Nat.le_trans (Nat.le_of_lt hmoves.remaining) h.remaining⟩
  stick _ _ h := ⟨h.taken, h.size, h.remaining⟩
  reject h := ⟨h.taken, h.size, h.remaining⟩
  store node h := ⟨h.taken, Nat.le_trans h.size (Arena.size_push _ node ▸ Nat.le_succ _),
    h.remaining⟩

end Descent

namespace Reading

open Descent (kept_leads)

/-- A reading loses nothing. -/
def Leading (m : Reading NodeId) : Prop := ∀ d : Descent, m.Keeps (fun _ => d.Leads) d.Leads

/-- Where a reading succeeds, it has taken in a token and stored a node. -/
def Gaining (m : Reading NodeId) : Prop :=
  ∀ d id d', m.run d = some (.ok id, d') → d.Gains d'

theorem leading_read (budget : Nat) (rank : Rank) : Leading (read budget rank) :=
  fun d => (kept_leads d).read budget rank

theorem Leading.leads {m : Reading NodeId} (hm : m.Leading) {d d' : Descent} {id : NodeId}
    (h : m.run d = some (.ok id, d')) : d.Leads d' := hm d 0 d (.refl d) (.ok id) d' h

theorem moves_of_advance {d d' : Descent} {token : Token}
    (hend : d.cursor.current.kind ≠ .endOfInput) (h : advance.run d = some (.ok token, d')) :
    d.Moves d' := by
  cases hadvance : d.cursor.advance with
  | error error =>
    rw [run_advance_of_error hadvance] at h
    exact absurd h (by simp)
  | ok cursor =>
    rw [run_advance_of_ok hadvance, Descent.ask_of_ne hend] at h
    obtain ⟨-, rfl⟩ := Prod.mk.inj (Option.some.inj h)
    exact Descent.moves_goTo hend hadvance

section
variable {m sum : Reading NodeId} {d d' : Descent} {id : NodeId}

theorem gains_number {value : Binary64} (hkind : d.cursor.current.kind = .number value)
    (h : (number value).run d = some (.ok id, d')) : d.Gains d' := by
  obtain ⟨token, d₁, hadvance, h⟩ := exists_of_run_bind h
  obtain ⟨-, rfl⟩ := Prod.mk.inj (Option.some.inj h)
  exact (moves_of_advance (by simp [hkind]) hadvance).store _

theorem gains_prefixed (hm : m.Leading) (op : UnaryOp)
    (hkind : d.cursor.current.kind = .symbol op.sign)
    (h : (prefixed op m).run d = some (.ok id, d')) : d.Gains d' := by
  obtain ⟨token, d₁, hadvance, h⟩ := exists_of_run_bind h
  obtain ⟨operand, d₂, hoperand, h⟩ := exists_of_run_bind h
  obtain ⟨-, rfl⟩ := Prod.mk.inj (Option.some.inj h)
  exact ((moves_of_advance (by simp [hkind]) hadvance).leads (hm.leads hoperand)).store _

/-- A group has no node of its own: the one is stored inside. -/
theorem gains_group (hsum : sum.Gaining) (hkind : d.cursor.current.kind = .symbol .openParen)
    (h : (group sum).run d = some (.ok id, d')) : d.Gains d' := by
  obtain ⟨opening, d₁, hd₁, h⟩ := exists_of_run_bind h
  obtain ⟨-, rfl⟩ := Prod.mk.inj (Option.some.inj hd₁)
  obtain ⟨_, d₂, hd₂, h⟩ := exists_of_run_bind h
  obtain ⟨-, rfl⟩ := Prod.mk.inj (Option.some.inj hd₂)
  obtain ⟨token, d₃, hadvance, h⟩ := exists_of_run_bind h
  obtain ⟨inner, d₄, hinner, h⟩ := exists_of_run_bind h
  obtain ⟨closing, d₅, hclosing, h⟩ := exists_of_run_bind h
  obtain ⟨-, rfl⟩ := Prod.mk.inj (Option.some.inj h)
  have hmoves : d.Moves d₃ := by
    have := moves_of_advance (by simp [Descent.report, hkind]) hadvance
    exact ⟨this.taken, this.size, this.remaining⟩
  have hleads : d₄.Leads d₅ := (kept_leads d₄).expect 0 d₄ (.refl d₄) _ _ hclosing
  exact (hmoves.gains (hsum d₃ inner d₄ hinner)).leads hleads

theorem gains_factorFrom (hm : m.Leading) (hsum : sum.Gaining)
    (h : (factorFrom d.cursor.current.kind m sum).run d = some (.ok id, d')) : d.Gains d' := by
  have hreject : (reject : Reading NodeId).run d ≠ some (.ok id, d') := by simp [reject]
  cases hkind : d.cursor.current.kind with
  | number value =>
    rw [hkind] at h
    exact gains_number hkind h
  | symbol sign =>
    rw [hkind] at h
    cases sign with
    | minus => exact gains_prefixed hm .neg hkind h
    | plus => exact gains_prefixed hm .plus hkind h
    | openParen => exact gains_group hsum hkind h
    | star | slash | closeParen => exact absurd h hreject
  | endOfInput =>
    rw [hkind] at h
    exact absurd h hreject

theorem Gaining.chain (hm : m.Gaining) (hleads : m.Leading) (rank : Rank) (budget : Nat) :
    Gaining (chain rank m budget) := by
  intro d id d' h
  obtain ⟨left, d₁, hleft, hrest⟩ := exists_of_run_bind h
  have hleads : d₁.Leads d' :=
    (kept_leads d₁).rest (hleads d₁) rank budget left 0 d₁ (.refl d₁) _ _ hrest
  exact (hm d left d₁ hleft).leads hleads

end

theorem Gaining.onRank {m : Reading NodeId} (hm : m.Gaining) (hleads : m.Leading) (budget : Nat)
    (rank : Rank) : Gaining (onRank m budget rank) := by
  have hproduct := hm.chain hleads .product budget
  cases rank with
  | factor => exact hm
  | product => exact hproduct
  | sum =>
    exact hproduct.chain (fun d => (kept_leads d).chain (hleads d) .product budget) .sum budget

theorem gaining_factor (budget : Nat) : Gaining (factor budget) := by
  induction budget with
  | zero => exact fun d id d' h => absurd h (by simp [factor, spent])
  | succ budget ih =>
    intro d id d' h
    have hleads := leading_read budget .factor
    have hgains : (d.mark .factor).Gains d' :=
      gains_factorFrom hleads (ih.onRank hleads budget .sum) h
    exact ⟨hgains.taken, hgains.size, hgains.remaining⟩

theorem gaining_read (budget : Nat) (rank : Rank) : Gaining (read budget rank) :=
  (gaining_factor budget).onRank (leading_read budget .factor) budget rank

end Reading

/-! ### One entry after another -/

/-- Whether a factor or a further round of a chain is begun. -/
def Moment.isEntry (m : Moment) : Bool := m.act.isEntry

/-- Between two points a token is taken in, and so there is less to read at the second one. -/
structure Moment.Before (m m' : Moment) : Prop where
  taken : m.taken.length < m'.taken.length
  remaining : m'.cursor.remaining < m.cursor.remaining

namespace Descent

/-- The points that were passed between two descents, the last one first.  Between any two entries
there is a token, and there are no more entries than there was to read. -/
structure Passes (d₀ d : Descent) (made : List Moment) : Prop where
  past : d.past = made ++ d₀.past
  before : (made.filter Moment.isEntry).Pairwise fun m' m => m.Before m'
  length_le : (made.filter Moment.isEntry).length ≤ d₀.cursor.remaining + 1

/-- The same where the reading goes on, and there is room for further entries.  With no slack a
token has been taken in behind the last one. -/
structure Enters (slack : Nat) (d₀ d : Descent) (made : List Moment) : Prop where
  past : d.past = made ++ d₀.past
  before : (made.filter Moment.isEntry).Pairwise fun m' m => m.Before m'
  behind : ∀ m ∈ made.filter Moment.isEntry, m.taken.length < d.taken.length + slack ∧
    d.cursor.remaining < m.cursor.remaining + slack
  room : (made.filter Moment.isEntry).length + d.cursor.remaining ≤ d₀.cursor.remaining + slack

variable {d₀ d d' : Descent} {made : List Moment}

theorem enters_refl (d : Descent) : d.Enters 0 d [] :=
  ⟨rfl, .nil, fun _ h => absurd h List.not_mem_nil, Nat.le_of_eq (Nat.zero_add _)⟩

theorem Enters.passes (h : d₀.Enters 1 d made) : d₀.Passes d made :=
  ⟨h.past, h.before, Nat.le_trans (Nat.le_add_right _ _) h.room⟩

theorem Enters.relax (h : d₀.Enters 0 d made) : d₀.Enters 1 d made where
  past := h.past
  before := h.before
  behind m hm := ⟨Nat.lt_succ_of_lt (h.behind m hm).1, Nat.lt_succ_of_lt (h.behind m hm).2⟩
  room := Nat.le_succ_of_le h.room

/-- Another point is passed. -/
theorem Enters.mark {slack : Nat} (h : d₀.Enters slack d made) (act : Act)
    (hact : act.isEntry = false) :
    d₀.Enters slack (d.mark act) (⟨act, d.cursor, d.arena, d.taken⟩ :: made) := by
  have hfilter : (⟨act, d.cursor, d.arena, d.taken⟩ :: made).filter Moment.isEntry =
      made.filter Moment.isEntry := List.filter_cons_of_neg (by simp [Moment.isEntry, hact])
  refine ⟨congrArg (List.cons _) h.past, ?_, ?_, ?_⟩
  · exact hfilter.symm ▸ h.before
  · exact hfilter.symm ▸ h.behind
  · exact hfilter.symm ▸ h.room

/-- An entry is passed. -/
theorem Enters.enter {act : Act} (h : d₀.Enters 0 d made) (hact : act.isEntry = true) :
    d₀.Enters 1 (d.mark act) (⟨act, d.cursor, d.arena, d.taken⟩ :: made) := by
  have hfilter : (⟨act, d.cursor, d.arena, d.taken⟩ :: made).filter Moment.isEntry =
      ⟨act, d.cursor, d.arena, d.taken⟩ :: made.filter Moment.isEntry :=
    List.filter_cons_of_pos hact
  refine ⟨congrArg (List.cons _) h.past, ?_, ?_, ?_⟩
  · rw [hfilter]
    exact List.pairwise_cons.2 ⟨fun m hm => ⟨(h.behind m hm).1, (h.behind m hm).2⟩, h.before⟩
  · rw [hfilter]
    exact List.forall_mem_cons.2 ⟨⟨Nat.lt_succ_self _, Nat.lt_succ_self _⟩, h.relax.behind⟩
  · rw [hfilter, List.length_cons, Nat.add_right_comm]
    exact Nat.succ_le_succ h.room

/-- A token is taken in. -/
theorem Enters.moves (h : d₀.Enters 1 d made) (hmoves : d.Moves d') (hpast : d'.past = d.past) :
    d₀.Enters 0 d' made where
  past := hpast.trans h.past
  before := h.before
  behind m hm := by
    have := h.behind m hm
    have := hmoves.taken
    have := hmoves.remaining
    omega
  room := by
    have := h.room
    have := hmoves.remaining
    omega

/-- Between any two entries of what a descent does there is a token. -/
theorem kept_enters (d₀ : Descent) :
    Kept (fun _ d => ∃ made, d₀.Enters 0 d made) (fun _ d => ∃ made, d₀.Enters 1 d made)
      (fun d => ∃ made, d₀.Passes d made) where
  enter hact h := h.imp' _ fun _ hmade => hmade.enter hact
  relax h := h.imp fun _ => Enters.relax
  report _ h := h.imp fun _ hmade => ⟨hmade.past, hmade.before, hmade.behind, hmade.room⟩
  take hend hadvance h := by
    obtain ⟨made, hmade⟩ := h
    have hmoves := moves_goTo hend hadvance
    have hmark := hmade.mark .advance rfl
    exact ⟨_, hmark.moves ⟨hmoves.taken, hmoves.size, hmoves.remaining⟩ rfl⟩
  stick _ _ h := by
    obtain ⟨made, hmade⟩ := h
    have hpasses := (hmade.mark .advance rfl).passes
    exact ⟨_, hpasses.past, hpasses.before, hpasses.length_le⟩
  reject h := h.imp' _ fun _ hmade => (hmade.mark .reject rfl).passes
  store node h := h.imp' _ fun _ hmade => by
    have hmark := hmade.mark (.alloc node) rfl
    exact ⟨hmark.past, hmark.before, hmark.behind, hmark.room⟩

end Descent

/-! ### From any point, and from the beginning of a text -/

/-- From any point each rank is read to an end: with success only if a token was taken in and a node
stored, and with no two entries without a token between them. -/
theorem exists_read (d : Descent) (rank : Rank) :
    ∃ result d' made,
      (∀ budget, d.cursor.remaining < budget →
        (Reading.read budget rank).run d = some (result, d')) ∧
      (∀ id, result = .ok id → d.Gains d') ∧ d.Passes d' made := by
  obtain ⟨result, d', hrun, -⟩ := Reading.halts_read (d.cursor.remaining + 1) rank d
    (Nat.lt_succ_self _)
  have hpasses : ∃ made, d.Passes d' made := by
    have hend := (Descent.kept_enters d).read (d.cursor.remaining + 1) rank 0 d
      ⟨[], d.enters_refl⟩ result d' hrun
    cases result with
    | error error => exact hend
    | ok id => exact hend.imp fun _ hmade => hmade.relax.passes
  obtain ⟨made, hmade⟩ := hpasses
  refine ⟨result, d', made, fun budget hbudget => Reading.read_le hbudget rank d _ hrun, ?_, hmade⟩
  rintro id rfl
  exact Reading.gaining_read _ rank d id d' hrun

theorem Cursor.remaining_le (c : Cursor) : c.remaining ≤ Text.byteLength c.lexer.rest + 2 := by
  have hlength := Text.length_le_byteLength c.lexer.rest
  rw [remaining, Lexer.remaining]
  split <;> split <;> omega

/-- In a course no two entries are without a token between them. -/
theorem entries_of_course {budget : Nat} {source : String} {c : Course}
    (h : course budget source = some c) :
    (c.past.filter Moment.isEntry).Pairwise Moment.Before ∧
      (c.past.filter Moment.isEntry).length ≤ source.utf8ByteSize + 2 := by
  cases hstart : Descent.start source with
  | error error =>
    rw [(course_of_error hstart h).2]
    exact ⟨.nil, Nat.zero_le _⟩
  | ok d =>
    obtain ⟨d', ⟨made, hmade⟩, -, hpast⟩ := (Descent.kept_enters d).course
      (fun h => h.imp' _ fun _ hmade => hmade.relax.mark .finish rfl)
      (fun h => h.imp fun _ => Descent.Enters.passes) hstart ⟨[], d.enters_refl⟩ h
    obtain ⟨cursor, hcursor, rfl⟩ := Descent.exists_of_start hstart
    have hmade_eq : c.past = made.reverse := by rw [hpast, hmade.past, List.append_nil]
    have hremaining := Cursor.remaining_start_le hcursor
    rw [hmade_eq, List.filter_reverse, List.pairwise_reverse, List.length_reverse]
    exact ⟨hmade.before, Nat.le_trans hmade.length_le (Nat.succ_le_succ hremaining)⟩

/-- The parser stands at a point of reading a text, with these tokens taken in. -/
inductive Parser.Reached (source : String) : List Token → Parser → Prop where
  | start {p : Parser} (h : Parser.start source = .ok p) : Reached source [] p
  | step {taken : List Token} {p q : Parser} (hp : Reached source taken p) (h : p.step = .next q) :
      Reached source (taken ++ [p.cursor.current]) q

theorem Parser.start_of_cursor {source : String} {cursor : Cursor}
    (h : Cursor.start source = .ok cursor) :
    start source = .ok ⟨cursor, .empty, none, .empty, [], #[]⟩ := by
  rw [start, h]
  rfl

theorem Parser.exists_of_start {source : String} {p : Parser} (h : start source = .ok p) :
    ∃ cursor, Cursor.start source = .ok cursor ∧ p = ⟨cursor, .empty, none, .empty, [], #[]⟩ :=
  exists_of_map_eq_ok h

/-- Each token that is taken in leaves less to read. -/
theorem Parser.Reached.length_add_remaining_le {source : String} {taken : List Token} {p : Parser}
    (h : Parser.Reached source taken p) : taken.length + p.remaining ≤ source.utf8ByteSize + 1 := by
  induction h with
  | start h =>
    obtain ⟨cursor, hcursor, rfl⟩ := exists_of_start h
    rw [List.length_nil, Nat.zero_add]
    exact Cursor.remaining_start_le hcursor
  | step hp h ih =>
    have hlt := remaining_lt_of_step h
    rw [List.length_append, List.length_singleton]
    omega

/-- **Reading gets on and comes to an end, on every text and from every point.**  A budget above the
length of a text is never used up, and the outcome is that of the parser, which takes in no more
tokens than there is text.  Each rank is read to an end with any budget above what is left, and to a
success only by taking in a token and storing a node.  Between any two entries, of a factor inside
or behind another one or of a round of a chain, a token is taken in, so what is left of the text
bounds their number.  Wherever a parser needs an operand, whatever is open around it, it does what
reading a factor does. -/
theorem descent_progresses :
    (∀ source, ∃ c, (∀ budget, source.utf8ByteSize + 2 ≤ budget → course budget source = some c) ∧
      (c.result, c.events) = parse source ∧
      (c.past.filter Moment.isEntry).Pairwise Moment.Before ∧
      (c.past.filter Moment.isEntry).length ≤ source.utf8ByteSize + 2) ∧
    (∀ (d : Descent) (rank : Rank), ∃ result d' made,
      (∀ budget, Text.byteLength d.cursor.lexer.rest + 3 ≤ budget →
        (Reading.read budget rank).run d = some (result, d')) ∧
      (∀ id, result = .ok id → d.Gains d') ∧
      d'.past = made ++ d.past ∧
      (made.filter Moment.isEntry).Pairwise (fun m' m => m.Before m') ∧
      (made.filter Moment.isEntry).length ≤ Text.byteLength d.cursor.lexer.rest + 3) ∧
    (∀ (budget : Nat) (d : Descent) (group : OpenGroup NodeId) (outer : List (OpenGroup NodeId)),
      (d.parser none group outer).Follows
        (fun id d' => (d'.parser none group outer).completeFactor id)
        (Reading.read budget .factor) d) ∧
    ∀ source taken p, Parser.Reached source taken p →
      taken.length + p.remaining ≤ source.utf8ByteSize + 1 := by
  refine ⟨fun source => ?_, fun d rank => ?_, Reading.readsFactor_factor,
    fun source taken p h => h.length_add_remaining_le⟩
  · obtain ⟨c, hc, hparse⟩ := exists_course source
    exact ⟨c, hc, hparse, entries_of_course (hc _ (Nat.le_refl _))⟩
  · have hle := d.cursor.remaining_le
    obtain ⟨result, d', made, hrun, hgains, hmade⟩ := exists_read d rank
    refine ⟨result, d', made, fun budget hbudget => hrun budget (by omega), hgains, hmade.past,
      hmade.before, ?_⟩
    exact Nat.le_trans hmade.length_le (Nat.succ_le_succ hle)

/-- The descent at the beginning of `-(1)`. -/
def atMinus : Descent :=
  ⟨⟨⟨"-(1)", ['(', '1', ')'], 1, false⟩, ⟨.symbol .minus, ⟨0, 1⟩⟩⟩, .empty, #[], [],
    [.start "-(1)"], []⟩

/-- Of the three factors in `-(1)` each is inside the one before it. -/
theorem descent_progresses_group :
    (∃ c, course 6 "-(1)" = some c ∧ (c.result, c.events) = parse "-(1)" ∧
      (c.past.filter Moment.isEntry).length = 3 ∧
      (c.past.filter Moment.isEntry).Pairwise Moment.Before) ∧
    (∃ d, (Reading.read 6 .factor).run atMinus = some (.ok ⟨1⟩, d) ∧ atMinus.Gains d) ∧
    ∃ p, Parser.Reached "-(1)" [] p ∧ p.remaining ≤ 5 := by
  have hentries : (course 6 "-(1)").map (fun c => (c.past.filter Moment.isEntry).length) =
      some 3 := by decide +kernel
  have hfactor : ((Reading.read 6 .factor).run atMinus).map (fun out => out.1.toOption) =
      some (some ⟨1⟩) := by decide +kernel
  have hcursor : Cursor.start "-(1)" = .ok atMinus.cursor := by decide +kernel
  obtain ⟨hcourses, hreads, -, hruns⟩ := descent_progresses
  refine ⟨?_, ?_, ?_⟩
  · obtain ⟨c, hc, hparse, hbefore, -⟩ := hcourses "-(1)"
    have hcourse := hc 6 (by decide +kernel)
    rw [hcourse] at hentries
    exact ⟨c, hcourse, hparse, Option.some.inj hentries, hbefore⟩
  · obtain ⟨result, d, -, hrun, hgains, -⟩ := hreads atMinus .factor
    have hsix := hrun 6 (by decide +kernel)
    rw [hsix] at hfactor
    cases result with
    | error error => exact absurd hfactor (by simp [Except.toOption])
    | ok id =>
      obtain rfl : id = ⟨1⟩ := Option.some.inj (Option.some.inj hfactor)
      exact ⟨d, hsix, hgains _ rfl⟩
  · have hstart := Parser.start_of_cursor hcursor
    exact ⟨_, .start hstart, hruns _ [] _ (.start hstart)⟩

end Reckon
