/-
As many ids as nodes.

Ids are words, and the id of a node is the number of nodes before it.  A node is stored for a token
that was taken in before and that no other node is stored for: its literal, its sign or its
operator.  Parentheses have no nodes.  So there are never more nodes than bytes in front of the
current token, and in a text whose places fit into words the ids do not run out.

* `Descent.kept_accounts`: a reading stores no node that is not due;
* `Reader.Holds.length_nodes_le`: what a parser has stored is in the tokens it has taken in;
* `ids_never_wrap`: so the id of a new node is its place in the arena.
-/
import Reckon.Proofs.Lookahead

namespace Reckon

/-! ### Tokens and bytes -/

namespace Cursor.StandsAfter

variable {source : String} {c : Cursor} {taken : List Token} {start : Nat}

theorem start_le (h : c.StandsAfter source taken start) : start ≤ source.utf8ByteSize := by
  cases h with
  | word h =>
    rw [← Text.byteLength_toList, h.text, writing_append, writing_cons]
    simp only [Text.byteLength_append]
    omega
  | endOfInput h hlexer => exact Nat.le_refl _

/-- Each token that was taken in has a byte of its own in front of the current one. -/
theorem length_le (h : c.StandsAfter source taken start) : taken.length ≤ start := by
  cases h with
  | word h =>
    rw [length_tokensAt]
    exact Nat.le_trans (length_le_byteLength_writing _) (Nat.le_add_right _ _)
  | endOfInput h hlexer =>
    rw [length_tokensAt, ← Text.byteLength_toList, h.text, Text.byteLength_append]
    exact Nat.le_trans (length_le_byteLength_writing _) (Nat.le_add_right _ _)

/-- The place of the current token is where it begins, if that fits. -/
theorem toNat_start (h : c.StandsAfter source taken start)
    (hsource : source.utf8ByteSize ≤ maxOffset) : c.current.span.start.toNat = start := by
  have hstart := Nat.le_trans h.start_le hsource
  cases h with
  | word h => exact Span.ofRange_start hstart
  | endOfInput h hlexer => exact Span.ofRange_start hstart

end Cursor.StandsAfter

/-! ### Nodes that are due -/

namespace Descent

/-- There are as many tokens besides parentheses as nodes, those that are due included. -/
structure Accounts (due : Nat) (d : Descent) : Prop where
  size_le : d.arena.size + due ≤ d.taken.countP fun token => !token.isParen
  past : ∀ m ∈ d.past, m.arena.size ≤ m.taken.countP fun token => !token.isParen

theorem Accounts.mark {due : Nat} {d : Descent} (h : d.Accounts due) (act : Act) :
    (d.mark act).Accounts due where
  size_le := h.size_le
  past := List.forall_mem_cons.2 ⟨Nat.le_trans (Nat.le_add_right _ _) h.size_le, h.past⟩

/-- A token that is taken in makes a node due, and what is stored was due. -/
theorem kept_accounts : Kept Accounts Accounts fun d =>
    ∀ m ∈ d.past, m.arena.size ≤ m.taken.countP fun token => !token.isParen where
  enter _ h := h.mark _
  relax h := h
  report _ h := ⟨h.size_le, h.past⟩
  take {n d cursor} _ _ h := by
    refine ⟨?_, (h.mark .advance).past⟩
    show d.arena.size + (n + if d.cursor.current.isParen then 0 else 1) ≤
      (d.taken ++ [d.cursor.current]).countP fun token => !token.isParen
    have hsize := h.size_le
    rw [List.countP_append, List.countP_singleton]
    cases d.cursor.current.isParen <;> simp <;> omega
  stick _ _ h := (h.mark .advance).past
  reject h := (h.mark .reject).past
  store {n d} node h := by
    refine ⟨?_, (h.mark (.alloc node)).past⟩
    have hsize : (d.store node).arena.size = d.arena.size + 1 := Arena.size_push d.arena node
    rw [hsize, Nat.add_assoc, Nat.add_comm 1]
    exact h.size_le

end Descent

theorem size_le_of_course {budget : Nat} {source : String} {c : Course}
    (h : course budget source = some c) :
    ∀ m ∈ c.past, m.arena.size ≤ m.taken.countP fun token => !token.isParen := by
  cases hstart : Descent.start source with
  | error error =>
    rw [(course_of_error hstart h).2]
    exact fun _ h => absurd h List.not_mem_nil
  | ok d =>
    have hd : d.Accounts 0 := by
      obtain ⟨cursor, -, rfl⟩ := Descent.exists_of_start hstart
      exact ⟨Nat.le_refl 0, fun _ h => absurd h List.not_mem_nil⟩
    obtain ⟨d', hpast', -, hpast⟩ := Descent.kept_accounts.course (fun h => h.mark .finish)
      (fun h => h.past) hstart hd h
    rw [hpast]
    exact fun m hm => hpast' m (List.mem_reverse.1 hm)

/-! ### Nodes of a run -/

theorem Rank.Reads.size_eq {rank : Rank} {tokens : List Token} {t : SpanTree}
    (h : rank.Reads tokens t) : t.size = tokens.countP fun token => !token.isParen := by
  rw [← SpanTree.length_inOrder, h.inOrder, List.countP_eq_length_filter]

namespace OpenGroup

theorem Reads.size_le {group : OpenGroup SpanTree} {tokens : List Token} (h : group.Reads tokens) :
    group.size ≤ tokens.countP fun token => !token.isParen := by
  induction h with
  | empty => exact Nat.le_refl 0
  | sum span hop h =>
    rw [List.countP_append, ← h.size_eq]
    exact Nat.le_add_right _ _
  | product span hop hgroup h ih =>
    rw [List.countP_append, List.countP_append, ← h.size_eq, ← Nat.add_assoc]
    exact Nat.le_trans (Nat.add_le_add_right ih _) (Nat.le_add_right _ _)
  | sign op span h ih =>
    rw [List.countP_append]
    exact Nat.le_trans ih (Nat.le_add_right _ _)

theorem Surround.totalSize_le {outer : List (OpenGroup SpanTree)} {tokens : List Token}
    (h : Surround outer tokens) :
    totalSize outer ≤ tokens.countP fun token => !token.isParen := by
  induction h with
  | none => exact Nat.le_refl 0
  | enter houter hgroup hopening ih =>
    rw [List.countP_append, List.countP_append, ← Nat.add_assoc]
    exact Nat.le_trans (Nat.add_le_add ih hgroup.size_le) (Nat.le_add_right _ _)

end OpenGroup

theorem Reader.Holds.length_nodes_le {r : Reader} {tokens : List Token} (h : r.Holds tokens) :
    r.nodes.length ≤ tokens.countP fun token => !token.isParen := by
  cases h with
  | needs houter hgroup =>
    rw [List.countP_append]
    simp only [nodes, OpenGroup.length_layoutAll, OpenGroup.totalSize]
    exact Nat.add_le_add houter.totalSize_le hgroup.size_le
  | has houter hgroup ht =>
    rw [List.countP_append, List.countP_append, ← ht.size_eq, ← Nat.add_assoc]
    simp only [nodes, List.length_append, OpenGroup.length_layoutAll, OpenGroup.totalSize,
      SpanTree.length_layout]
    exact Nat.add_le_add_right (Nat.add_le_add houter.totalSize_le hgroup.size_le) _

/-! ### Ids -/

/-- Where a cursor stands in a text behind the tokens `taken`, there are ids for the nodes: no more
nodes than tokens besides parentheses, and no more of those than bytes in front of the current
token.  In a text whose places fit into words the id of a new node is the number of nodes before it,
and the node is found under it. -/
structure IdsSuffice (source : String) (cursor : Cursor) (taken : List Token) (arena : Arena) :
    Prop where
  bounds : ∃ start, cursor.StandsAfter source taken start ∧
    arena.size ≤ (taken.countP fun token => !token.isParen) ∧
    (taken.countP fun token => !token.isParen) ≤ start ∧
    (source.utf8ByteSize ≤ maxOffset → cursor.current.span.start.toNat = start)
  alloc : source.utf8ByteSize ≤ maxOffset → ∀ node,
    (arena.alloc node).1.index.toNat = arena.size ∧
    (arena.alloc node).2.get (arena.alloc node).1 = .ok node

theorem Cursor.StandsAfter.idsSuffice {source : String} {cursor : Cursor} {taken : List Token}
    {start : Nat} {arena : Arena} (h : cursor.StandsAfter source taken start)
    (hsize : arena.size ≤ taken.countP fun token => !token.isParen) :
    IdsSuffice source cursor taken arena := by
  have hcount : (taken.countP fun token => !token.isParen) ≤ start :=
    Nat.le_trans List.countP_le_length h.length_le
  refine ⟨⟨start, h, hsize, hcount, h.toNat_start⟩, fun hsource node => ?_⟩
  have hlt : arena.size < idCount :=
    calc arena.size ≤ start := Nat.le_trans hsize hcount
      _ ≤ source.utf8ByteSize := h.start_le
      _ ≤ maxOffset := hsource
      _ < idCount := by decide
  refine ⟨Arena.toNat_nextId hlt, ?_⟩
  simp only [Arena.alloc, Arena.get, Arena.get?_push_nextId node hlt]

/-- **Node ids never wrap.**  At every point of a descent, and wherever a run of the parser stands,
whether it succeeds or fails, there are ids for the nodes. -/
theorem ids_never_wrap (source : String) :
    (∃ c, (∀ budget, source.utf8ByteSize + 2 ≤ budget → course budget source = some c) ∧
      (c.result, c.events) = parse source ∧
      ∀ m ∈ c.past, IdsSuffice source m.cursor m.taken m.arena) ∧
    ∀ taken p, Parser.Reached source taken p → IdsSuffice source p.cursor taken p.arena := by
  constructor
  · obtain ⟨c, hc, hparse⟩ := exists_course source
    have hcourse := hc _ (Nat.le_refl _)
    refine ⟨c, hc, hparse, fun m hm => ?_⟩
    obtain ⟨start, hstands⟩ := ((looked_of_course hcourse).2 m hm).stands
    exact hstands.idsSuffice (size_le_of_course hcourse m hm)
  · intro taken p hp
    obtain ⟨r, events, start, -, hholds, hparser, hstands⟩ := hp.exists_reader
    have hsize : p.arena.size = r.nodes.length := by rw [hparser]; rfl
    exact hstands.idsSuffice (hsize ▸ hholds.length_nodes_le)

/-- In `(1)+` the literal has a node, and is found under its id.  An operand is missing, so there is
none for the sum. -/
theorem ids_never_wrap_unfinished :
    (∃ c, course 6 "(1)+" = some c ∧
      c.past.map (fun m => m.arena.size) = [0, 0, 0, 0, 0, 1, 1, 1, 1, 1] ∧
      (∀ m ∈ c.past, m.arena.size ≤ m.cursor.current.span.start.toNat) ∧
      ∀ m ∈ c.past, ∀ node, m.act = .alloc node →
        (m.arena.alloc node).2.get (m.arena.alloc node).1 = .ok node) ∧
    ∃ p, Parser.Reached "(1)+" [] p ∧ IdsSuffice "(1)+" p.cursor [] p.arena := by
  have hsizes : (course 6 "(1)+").map (fun c => c.past.map fun m => m.arena.size) =
      some [0, 0, 0, 0, 0, 1, 1, 1, 1, 1] := by decide +kernel
  have hcursor : Cursor.start "(1)+" =
      .ok ⟨⟨"(1)+", ['1', ')', '+'], 1, false⟩, ⟨.symbol .openParen, ⟨0, 1⟩⟩⟩ := by decide +kernel
  have hsource : "(1)+".utf8ByteSize ≤ maxOffset := by decide +kernel
  obtain ⟨⟨c, hc, -, hpast⟩, hruns⟩ := ids_never_wrap "(1)+"
  have hcourse := hc 6 (by decide +kernel)
  rw [hcourse] at hsizes
  refine ⟨⟨c, hcourse, Option.some.inj hsizes, fun m hm => ?_, fun m hm node _ => ?_⟩, ?_⟩
  · obtain ⟨start, -, hsize, hcount, hplace⟩ := (hpast m hm).bounds
    exact hplace hsource ▸ Nat.le_trans hsize hcount
  · exact ((hpast m hm).alloc hsource node).2
  · have hstart := Parser.start_of_cursor hcursor
    exact ⟨_, .start hstart, hruns _ _ (.start hstart)⟩

end Reckon
