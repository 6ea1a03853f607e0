/-
Messages read back.

There are six forms of messages.  Each is words that are fixed, with something named in the middle
and a position behind it: a message begins like no other form, and from its end the position and
then what is named can be cut off, whatever that is.  With the escapes undone this gives the failure
again.  The one thing a message leaves out is where a span ends, but the span is as long as what is
named.

* `Form.ofMessage?_fill`, `Form.read?_fill`: the form of a message, and what it was filled with;
* `Text.unescape?_escape`: a character can be told from the way it is written inside quotes;
* `Failure.ofText?_render`: the failure of a text is read off its outcome.
-/
import Mathlib.Data.List.DropRight
import Reckon.Proofs.Printed

namespace Reckon

/-! ### Characters and digits -/

namespace Text

/-- The number that a hexadecimal digit stands for. -/
def hexDigit (c : Char) : Nat :=
  if c.isDigit then c.toNat - '0'.toNat else c.toNat - 'a'.toNat + 10

/-- The number that hexadecimal digits stand for. -/
def ofHexDigits (cs : List Char) : Nat := cs.foldl (fun n c => 16 * n + hexDigit c) 0

/-- The character that is written so inside quotes of both kinds. -/
def unescape? : List Char → Option Char
  | [c] => some c
  | ['\\', '0'] => some '\x00'
  | ['\\', 't'] => some '\t'
  | ['\\', 'r'] => some '\r'
  | ['\\', 'n'] => some '\n'
  | ['\\', c] => some c
  | '\\' :: 'u' :: '{' :: code => some (Char.ofNat (ofHexDigits code.dropLast))
  | _ => none

theorem hexDigit_digitChar {n : Nat} (h : n < 16) : hexDigit (Nat.digitChar n) = n := by
  have hrange : ∀ n < 16, hexDigit (Nat.digitChar n) = n := by decide
  exact hrange n h

theorem ofHexDigits_toDigits (n : Nat) : ofHexDigits (Nat.toDigits 16 n) = n := by
  induction n using Nat.strongRecOn with
  | ind n ih =>
    rw [Nat.toDigits_eq_if (by decide)]
    split
    · rename_i hn
      exact (Nat.zero_add _).trans (hexDigit_digitChar hn)
    · have hlt : n / 16 < n := Nat.div_lt_self (by omega) (by decide)
      have hdiv := ih (n / 16) hlt
      rw [ofHexDigits] at hdiv
      rw [ofHexDigits, List.foldl_append, hdiv, List.foldl_cons, List.foldl_nil,
        hexDigit_digitChar (Nat.mod_lt n (by decide)), Nat.div_add_mod]

theorem unescape?_escapeCode (c : Char) : unescape? (escapeCode c) = some c := by
  have hcode : (Nat.toDigits 16 c.toNat ++ ['}']).dropLast = Nat.toDigits 16 c.toNat :=
    List.dropLast_concat
  show some (Char.ofNat (ofHexDigits (Nat.toDigits 16 c.toNat ++ ['}']).dropLast)) = some c
  rw [hcode, ofHexDigits_toDigits, Char.ofNat_toNat]

/-- A character can be told from the way it is written inside quotes. -/
theorem unescape?_escape (c : Char) : unescape? (escape bothQuotes c) = some c := by
  by_cases hnamed : c = '\x00' ∨ c = '\t' ∨ c = '\r' ∨ c = '\n'
  · rcases hnamed with rfl | rfl | rfl | rfl <;> rfl
  · push Not at hnamed
    obtain ⟨hnul, htab, hreturn, hfeed⟩ := hnamed
    rw [escape, if_neg hnul, if_neg htab, if_neg hreturn, if_neg hfeed]
    by_cases hquote : c = '\\' ∨ c ∈ bothQuotes
    · rw [if_pos hquote]
      rcases hquote with rfl | hquote
      · rfl
      · rcases List.mem_pair.1 hquote with rfl | rfl <;> rfl
    · rw [if_neg hquote]
      split
      · rfl
      · exact unescape?_escapeCode c

/-- Digits behind a text are cut off from it, if it does not end in a digit itself. -/
theorem cut_digits {front ds : List Char} (hds : ∀ c ∈ ds, c.isDigit = true)
    (hfront : front.getLast?.any Char.isDigit = false) :
    (front ++ ds).rtakeWhile Char.isDigit = ds ∧ (front ++ ds).rdropWhile Char.isDigit = front := by
  have hreversed : ∀ c ∈ ds.reverse, c.isDigit = true := fun c hc => hds c (List.mem_reverse.1 hc)
  obtain ⟨htake, hdrop⟩ := takeWhile_append_of_head hreversed
    (show front.reverse.head?.any Char.isDigit = false by rw [List.head?_reverse, hfront])
  rw [List.rtakeWhile, List.rdropWhile, List.reverse_append, htake, hdrop, List.reverse_reverse,
    List.reverse_reverse]
  exact ⟨rfl, rfl⟩

end Text

/-! ### The forms of messages -/

/-- The forms of messages. -/
inductive Form where
  | unexpectedChar
  | numberOutOfRange
  | unexpectedToken
  | unexpectedEnd
  | divisionByZero
  | overflow
  deriving DecidableEq

namespace Form

def all : List Form :=
  [unexpectedChar, numberOutOfRange, unexpectedToken, unexpectedEnd, divisionByZero, overflow]

/-- The words in front of what is named. -/
def opening : Form → String
  | unexpectedChar => "unexpected character '"
  | numberOutOfRange => "number literal `"
  | unexpectedToken => "unexpected token `"
  | unexpectedEnd => "unexpected end of input"
  | divisionByZero => "division by zero"
  | overflow => "arithmetic overflow in `"

/-- The words between what is named and the position. -/
def joint : Form → String
  | unexpectedChar => "' at position "
  | numberOutOfRange | unexpectedToken | overflow => "` at position "
  | unexpectedEnd | divisionByZero => " at position "

/-- The words behind the position. -/
def ending : Form → String
  | numberOutOfRange => " is out of range"
  | _ => ""

/-- The message of the form that names a text and a position. -/
def fill (form : Form) (named : String) (pos : UInt32) : String :=
  form.opening ++ named ++ form.joint ++ pos.toNat.repr ++ form.ending

/-- The form of a message. -/
def ofMessage? (cs : List Char) : Option Form :=
  all.find? fun form => form.opening.toList.isPrefixOf cs

/-- What a message of the form names, and the position. -/
def read? (form : Form) (cs : List Char) : Option (List Char × UInt32) := do
  let behind ← form.opening.toList.isPrefixOf? cs
  let front ← form.ending.toList.isSuffixOf? behind
  let named ← form.joint.toList.isSuffixOf? (front.rdropWhile Char.isDigit)
  some (named, UInt32.ofNat (Nat.ofDigitChars 10 (front.rtakeWhile Char.isDigit) 0))

variable (form : Form) (named : String) (pos : UInt32)

theorem toList_fill :
    (form.fill named pos).toList =
      form.opening.toList ++
        (named.toList ++ form.joint.toList ++ Nat.toDigits 10 pos.toNat ++
          form.ending.toList) := by
  rw [fill, String.toList_append, String.toList_append, String.toList_append,
    String.toList_append, Nat.toList_repr]
  simp only [List.append_assoc]

/-- The beginning of a message tells its form. -/
theorem ofMessage?_fill : ofMessage? (form.fill named pos).toList = some form := by
  rw [toList_fill]
  cases form <;> rfl

theorem getLast?_joint : form.joint.toList.getLast? = some ' ' := by
  cases form <;> rfl

/-- What a form was filled with can be read off the message. -/
theorem read?_fill : form.read? (form.fill named pos).toList = some (named.toList, pos) := by
  have hdigits : ∀ c ∈ Nat.toDigits 10 pos.toNat, c.isDigit = true := fun c hc =>
    Nat.isDigit_of_mem_toDigits (by decide) (by decide) hc
  -- The words in front of the position end in a blank, so the digits are cut off there.
  have hblank : (named.toList ++ form.joint.toList).getLast?.any Char.isDigit = false := by
    rw [List.getLast?_append, getLast?_joint]
    rfl
  obtain ⟨htake, hdrop⟩ := Text.cut_digits hdigits hblank
  rw [read?, toList_fill, List.isPrefixOf?_eq_some_iff_append_eq.2 rfl, Option.bind_eq_bind,
    Option.bind_some, List.isSuffixOf?_eq_some_iff_append_eq.2 rfl, Option.bind_some, hdrop,
    List.isSuffixOf?_eq_some_iff_append_eq.2 rfl, Option.bind_some, htake,
    Nat.ofDigitChars_ten_toDigits, UInt32.ofNat_toNat]

end Form

/-! ### Failures and their messages -/

/-- The operator that is written so. -/
def BinaryOp.ofSymbol? : List Char → Option BinaryOp
  | ['+'] => some .add
  | ['-'] => some .sub
  | ['*'] => some .mul
  | ['/'] => some .div
  | _ => none

/-- The span that begins at a position and takes so many bytes. -/
def Span.ofLength (pos : UInt32) (length : Nat) : Span := ⟨pos, UInt32.ofNat (pos.toNat + length)⟩

theorem Span.ofLength_eq {span : Span} {length : Nat}
    (h : span.stop.toNat = span.start.toNat + length) : ofLength span.start length = span := by
  rw [ofLength, ← h, UInt32.ofNat_toNat]

namespace Failure

/-- The failure whose message is of the form, and names the text and the position. -/
def ofForm? (named : List Char) (pos : UInt32) : Form → Option Failure
  | .unexpectedChar =>
    (Text.unescape? named).map fun c => .parse (.lex (.unexpectedChar c pos))
  | .numberOutOfRange => some (.parse (.lex (.numberOutOfRange (.ofList named) pos)))
  | .unexpectedToken =>
    some (.parse (.unexpectedToken (.ofList named) (.ofLength pos (Text.byteLength named))))
  | .unexpectedEnd => some (.parse (.unexpectedEnd pos))
  | .divisionByZero => some (.eval (.divisionByZero (.ofLength pos 1)))
  | .overflow => (BinaryOp.ofSymbol? named).map fun op => .eval (.overflow op (.ofLength pos 1))

/-- The failure with a message. -/
def ofMessage? (cs : List Char) : Option Failure := do
  let form ← Form.ofMessage? cs
  let (named, pos) ← form.read? cs
  ofForm? named pos form

/-- The failure that the text of an outcome tells of; none if it is no text of a failure. -/
def ofText? (text : String) : Option Failure :=
  (Outcome.errorMark.toList.isPrefixOf? text.toList).bind ofMessage?

theorem ofMessage?_fill (form : Form) (named : String) (pos : UInt32) :
    ofMessage? (form.fill named pos).toList = ofForm? named.toList pos form := by
  rw [ofMessage?, Form.ofMessage?_fill, Option.bind_eq_bind, Option.bind_some, Form.read?_fill]
  rfl

/-- The failure says what it is in the form, naming the text and the position.  Its span, if it has
one, takes what is named, or the sign of an operator. -/
inductive Says : Failure → Form → String → UInt32 → Prop where
  | unexpectedChar (c : Char) (pos : UInt32) :
      Says (.parse (.lex (.unexpectedChar c pos))) .unexpectedChar
        (.ofList (Text.escape Text.bothQuotes c)) pos
  | numberOutOfRange (literal : String) (pos : UInt32) :
      Says (.parse (.lex (.numberOutOfRange literal pos))) .numberOutOfRange literal pos
  | unexpectedToken {found : String} {span : Span}
      (hspan : span.stop.toNat = span.start.toNat + found.utf8ByteSize) :
      Says (.parse (.unexpectedToken found span)) .unexpectedToken found span.start
  | unexpectedEnd (pos : UInt32) : Says (.parse (.unexpectedEnd pos)) .unexpectedEnd "" pos
  | divisionByZero {span : Span} (hspan : span.stop.toNat = span.start.toNat + 1) :
      Says (.eval (.divisionByZero span)) .divisionByZero "" span.start
  | overflow (op : BinaryOp) {span : Span} (hspan : span.stop.toNat = span.start.toNat + 1) :
      Says (.eval (.overflow op span)) .overflow op.symbol span.start

section
variable {failure : Failure} {form : Form} {named : String} {pos : UInt32}

theorem Says.message_eq (h : failure.Says form named pos) :
    failure.message = form.fill named pos := by
  cases h with
  | numberOutOfRange => rfl
  | unexpectedChar | unexpectedToken | overflow => exact String.append_empty.symm
  | unexpectedEnd =>
    have hwords : "unexpected end of input at position " =
      "unexpected end of input" ++ "" ++ " at position " := by decide
    exact (congrArg (· ++ pos.toNat.repr) hwords).trans String.append_empty.symm
  | @divisionByZero span =>
    have hwords : "division by zero at position " =
      "division by zero" ++ "" ++ " at position " := by decide
    exact (congrArg (· ++ span.start.toNat.repr) hwords).trans String.append_empty.symm

/-- The failure is the one that is said so. -/
theorem Says.ofForm?_eq (h : failure.Says form named pos) :
    ofForm? named.toList pos form = some failure := by
  cases h with
  | unexpectedChar c =>
    rw [ofForm?, String.toList_ofList, Text.unescape?_escape]
    rfl
  | numberOutOfRange literal => rw [ofForm?, String.ofList_toList]
  | unexpectedToken hspan =>
    rw [ofForm?, String.ofList_toList, Text.byteLength_toList, Span.ofLength_eq hspan]
  | unexpectedEnd => rfl
  | divisionByZero hspan => rw [ofForm?, Span.ofLength_eq hspan]
  | overflow op hspan =>
    have hop : BinaryOp.ofSymbol? op.symbol.toList = some op := by
      cases op <;> rfl
    rw [ofForm?, hop, Span.ofLength_eq hspan]
    rfl

/-- The failure is read off its message. -/
theorem Says.ofMessage?_eq (h : failure.Says form named pos) :
    ofMessage? failure.message.toList = some failure := by
  rw [h.message_eq, ofMessage?_fill, h.ofForm?_eq]

end

end Failure

/-! ### Outcomes and their texts -/

section
variable {source : String} (hsize : source.utf8ByteSize ≤ maxOffset)
include hsize

/-- A failure of a text says what it is: its span takes what its message names. -/
theorem Failure.exists_says {failure : Failure} (h : (evaluate source).1 = .error failure) :
    ∃ form named pos, failure.Says form named pos := by
  cases pointsInto_of_evaluate hsize h with
  | unexpectedChar => exact ⟨_, _, _, .unexpectedChar _ _⟩
  | numberOutOfRange => exact ⟨_, _, _, .numberOutOfRange _ _⟩
  | @unexpectedToken found span hne hfound hone =>
    -- The span is that of a token, which covers the lexeme exactly.
    obtain ⟨i, ⟨token, hitem, rfl⟩, -⟩ := hone
    have hcovers : ∃ cs, token.span.Covers source cs := by
      rcases covers_of_mem_items hsize (List.mem_of_getElem? hitem) with ⟨-, h⟩ | ⟨x, -, -, h⟩
      · exact ⟨_, h⟩
      · exact ⟨_, h⟩
    obtain ⟨cs, hcovers⟩ := hcovers
    obtain rfl := Option.some.inj (hcovers.slice?_eq.symm.trans hfound)
    refine ⟨_, _, _, .unexpectedToken ?_⟩
    rw [hcovers.stop_eq, Text.byteLength_toList]
  | unexpectedEnd => exact ⟨_, _, _, .unexpectedEnd _⟩
  | @eval error hspan =>
    cases error with
    | divisionByZero span => exact ⟨_, _, _, .divisionByZero hspan.length_eq⟩
    | overflow op span => exact ⟨_, _, _, .overflow op hspan.length_eq⟩

/-- The failure of a text is read off the text of its outcome. -/
theorem Failure.ofText?_render {failure : Failure} (h : (evaluate source).1 = .error failure) :
    ofText? (render source).1.text = some failure := by
  obtain ⟨form, named, pos, hsays⟩ := exists_says hsize h
  rw [render_of_size hsize, h, Outcome.ofResult, Outcome.failure, ofText?, String.toList_append,
    List.isPrefixOf?_eq_some_iff_append_eq.2 rfl, Option.bind_some, hsays.ofMessage?_eq]

end

example : Failure.ofText? "error: unexpected token `)` at position 3" =
    some (.parse (.unexpectedToken ")" ⟨3, 4⟩)) := by decide +kernel

/-- **The text of a failure identifies it.**  If a text comes to a failure, and another has an
outcome with the same text, then both come to the same failure, with the same status; and the
failure, with its span, can be read off that text. -/
theorem failure_of_text (source source' : String) (hsize : source.utf8ByteSize ≤ maxOffset)
    (hsize' : source'.utf8ByteSize ≤ maxOffset) (hfails : (render source).1.status ≠ .ok)
    (htext : (render source).1.text = (render source').1.text) :
    ∃ failure, (evaluate source).1 = .error failure ∧ (evaluate source').1 = .error failure ∧
      (render source).1.status = (render source').1.status ∧
      Failure.ofText? (render source).1.text = some failure := by
  -- Whether there is a failure shows in the text, so the other one comes to a failure as well.
  have hfails' : (render source').1.status ≠ .ok := by
    rw [Ne, (comesTo_render hsize').status_eq_ok_iff, ← htext,
      ← (comesTo_render hsize).status_eq_ok_iff]
    exact hfails
  have hfailure {s : String} (hs : s.utf8ByteSize ≤ maxOffset) (h : (render s).1.status ≠ .ok) :
      ∃ failure, (evaluate s).1 = .error failure := by
    cases hvalue : (evaluate s).1 with
    | error failure => exact ⟨failure, rfl⟩
    | ok value => exact absurd (render_status_eq_ok_iff.2 ⟨hs, value, hvalue⟩) h
  obtain ⟨failure, hfailure₁⟩ := hfailure hsize hfails
  obtain ⟨failure', hfailure₂⟩ := hfailure hsize' hfails'
  have hread := Failure.ofText?_render hsize hfailure₁
  have hread' := Failure.ofText?_render hsize' hfailure₂
  obtain rfl := Option.some.inj (hread.symm.trans (htext ▸ hread'))
  refine ⟨failure, hfailure₁, hfailure₂, ?_, hread⟩
  rw [render_of_size hsize, render_of_size hsize', hfailure₁, hfailure₂]

/-- A backslash is no token, whether a blank or a sign is in front of it. -/
theorem failure_of_text_backslash :
    ∃ failure, (evaluate "2 \\").1 = .error failure ∧ (evaluate "2+\\").1 = .error failure ∧
      (render "2 \\").1.status = (render "2+\\").1.status ∧
      Failure.ofText? (render "2 \\").1.text = some failure :=
  failure_of_text "2 \\" "2+\\" (by decide) (by decide) (by decide +kernel) (by decide +kernel)

end Reckon
