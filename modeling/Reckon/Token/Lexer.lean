/-
Tokens one at a time.

A `Lexer` stands at some point of a text.  `next` gives the next token, or the error that is
found instead, and a lexer that stands after it.  After the end of the text, or the first error,
there is nothing more.

* `remaining_lt_of_next`: each item brings the lexer nearer to its end;
* `items_eq`: the items still to come are the next one and those after it.
-/
import Reckon.Diagnostic
import Reckon.Text.Utf8
import Reckon.Token.Lexeme

namespace Reckon

/-- A point in a text, between two tokens. -/
structure Lexer where
  /-- The whole text. -/
  source : String
  /-- The text from this point on. -/
  rest : List Char
  /-- Bytes before this point. -/
  offset : Nat
  /-- Whether the end token or an error has been given. -/
  exhausted : Bool
  deriving DecidableEq

namespace Lexer

/-- The lexer at the beginning of a text. -/
def start (source : String) : Lexer := ⟨source, source.toList, 0, false⟩

/-- The lexer with nothing more to give. -/
def finish (l : Lexer) : Lexer := { l with exhausted := true }

/-- The token or error at byte `offset`, where the text `text` begins, with no blank in front. -/
def item (l : Lexer) (offset : Nat) (text : List Char) : Except LexError Token × Lexer :=
  match Lexeme.munch text with
  | some (lexeme, rest) =>
    let stop := offset + Text.byteLength lexeme.text
    match lexeme.kind? with
    | some kind => (.ok ⟨kind, .ofRange offset stop⟩, { l with rest, offset := stop })
    | none =>
      (.error (.numberOutOfRange (String.ofList lexeme.text) (saturate offset)), l.finish)
  | none =>
    match text with
    | [] => (.ok ⟨.endOfInput, .point l.source.utf8ByteSize⟩, l.finish)
    | c :: _ => (.error (.unexpectedChar c (saturate offset)), l.finish)

/-- The next token or error, and the lexer after it. -/
def next (l : Lexer) : Option (Except LexError Token × Lexer) :=
  if l.exhausted then none
  else
    some (l.item (l.offset + Text.byteLength (l.rest.takeWhile isBlank)) (l.rest.dropWhile isBlank))

/-! ### The items still to come -/

/-- Characters still to be read, and one for the end token. -/
def remaining (l : Lexer) : Nat := l.rest.length + if l.exhausted then 0 else 1

theorem remaining_lt_of_next {l l' : Lexer} {item : Except LexError Token}
    (h : l.next = some (item, l')) : l'.remaining < l.remaining := by
  rw [next] at h
  split at h
  · exact absurd h (by simp)
  · rename_i hopen
    have hdrop : (l.rest.dropWhile isBlank).length ≤ l.rest.length :=
      (List.dropWhile_sublist isBlank).length_le
    replace h := congrArg Prod.snd (Option.some.inj h)
    simp only [Lexer.item] at h
    split at h
    · rename_i hmunch
      have hlt := Lexeme.length_lt_of_munch hmunch
      split at h <;> subst h <;> simp [remaining, finish, hopen]
      omega
    · split at h <;> subst h <;> simp [remaining, finish, hopen]

/-- The items still to come, after those in `done`, which are in reverse. -/
def itemsOnto (done : List (Except LexError Token)) (l : Lexer) : List (Except LexError Token) :=
  match h : l.next with
  | none => done.reverse
  | some (item, l') =>
    have := remaining_lt_of_next h
    itemsOnto (item :: done) l'
termination_by l.remaining

/-- The items still to come: tokens up to the end token, or up to an error. -/
def items (l : Lexer) : List (Except LexError Token) := itemsOnto [] l

theorem itemsOnto_append (done front : List (Except LexError Token)) (l : Lexer) :
    itemsOnto (done ++ front) l = front.reverse ++ itemsOnto done l := by
  fun_induction itemsOnto done l with
  | case1 done l h =>
    rw [itemsOnto]
    split
    · simp
    · rename_i h'
      exact absurd (h.symm.trans h') (by simp)
  | case2 done l item l' h _ ih =>
    rw [itemsOnto]
    split
    · rename_i h'
      exact absurd (h.symm.trans h') (by simp)
    · rename_i h'
      obtain ⟨rfl, rfl⟩ := Prod.mk.inj (Option.some.inj (h.symm.trans h'))
      exact ih

theorem items_eq (l : Lexer) :
    l.items = match l.next with
      | none => []
      | some (item, l') => item :: l'.items := by
  rw [items, itemsOnto]
  split
  · rename_i h
    simp [h]
  · rename_i item l' h
    simpa [h, items] using itemsOnto_append [] [item] l'

/-- All items still to come, and the lexer after them. -/
def drain (l : Lexer) : List (Except LexError Token) × Lexer := (l.items, l.finish)

end Lexer

/-- All tokens of a text, the end token last. -/
def tokenize (source : String) : Except LexError (List Token) := (Lexer.start source).items.mapM id

end Reckon
