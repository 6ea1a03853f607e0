/-
Outcomes are one clean line.

Whatever the source is, its outcome consists of the plain characters from the space to the tilde,
but for one place at most: where no token begins with a character, and the character is printable
beyond ASCII, the message names it as it is.  Every other character of the source that is named has
been escaped, and what else is taken from the source are lexemes.

* `Text.allPlain_escape_or`: what is written for a character is plain, or the character itself;
* `oneLine_render`: the outcome of a source is one clean line;
* `Session.bytes?_answered_whole`: so nothing is taken out of it on the way to the caller.
-/
import Reckon.Proofs.Logged

namespace Reckon

/-! ### Characters that a line may show -/

/-- The character ends a line, in ASCII or beyond. -/
def Text.IsLineBreak (c : Char) : Prop :=
  0x0A ≤ c.toNat ∧ c.toNat ≤ 0x0D ∨ c.toNat = 0x85 ∨ c.toNat = 0x2028 ∨ c.toNat = 0x2029

/-- A text of plain characters, but for the one that the source is refused for, where that one is
beyond ASCII and is not escaped. -/
inductive OneLine (source : String) : List Char → Prop where
  | plain {cs : List Char} (hcs : ∀ c ∈ cs, Text.IsPlain c) : OneLine source cs
  | stray {front back : List Char} {c : Char} {pos : UInt32}
      (hparse : (parse source).1 = .error (.lex (.unexpectedChar c pos)))
      (hbeyond : 0x7F < c.toNat) (hescape : Text.escape Text.bothQuotes c = [c])
      (hfront : ∀ d ∈ front, Text.IsPlain d) (hback : ∀ d ∈ back, Text.IsPlain d) :
      OneLine source (front ++ c :: back)

namespace Text

/-- Plain characters are printable, and no other character of ASCII is. -/
theorem beyond_of_printable {c : Char} (hc : isPrintable c = true) (hplain : ¬ IsPlain c) :
    0x7F < c.toNat := by
  have hcontrol := not_isControl hc
  unfold IsControl at hcontrol
  unfold IsPlain at hplain
  omega

theorem not_isLineBreak {c : Char} (hc : isPrintable c = true) : ¬ IsLineBreak c := by
  have hcontrol := not_isControl hc
  unfold IsControl at hcontrol
  -- The two that are no controls are in the table.
  have hseparator : ∀ n : Nat, n = 0x2028 ∨ n = 0x2029 →
      (unprintableRanges.any fun range => decide (range.1 ≤ n) && decide (n ≤ range.2)) = true := by
    rintro n (rfl | rfl) <;> decide +kernel
  rintro (hascii | hnext | hbreak)
  · omega
  · omega
  · rw [isPrintable, if_neg (by omega), hseparator _ hbreak] at hc
    exact absurd hc (by simp)

/-- What is written for a character is plain, or it is the character itself, which is then beyond
ASCII. -/
theorem allPlain_escape_or (c : Char) :
    (∀ d ∈ escape bothQuotes c, IsPlain d) ∨
      escape bothQuotes c = [c] ∧ 0x7F < c.toNat := by
  have hquotes : ∀ q ∈ bothQuotes, IsPlain q :=
    List.forall_mem_cons.2 ⟨by decide, List.forall_mem_singleton.2 (by decide)⟩
  by_cases hplain : ∀ d ∈ escape bothQuotes c, IsPlain d
  · exact .inl hplain
  · right
    push Not at hplain
    obtain ⟨d, hd, hnot⟩ := hplain
    obtain hd | ⟨rfl, hprintable⟩ :=
      isPlain_or_of_mem_escape (fun q hq => (hquotes q hq).isPrintable) hd
    · exact absurd hd hnot
    · refine ⟨escape_of_printable hprintable ?_ ?_, beyond_of_printable hprintable hnot⟩
      · rintro rfl
        exact hnot (by decide)
      · intro hquote
        exact hnot (hquotes d hquote)

end Text

/-! ### Outcomes -/

section
variable {source : String}

theorem OneLine.of_allPlain {text : String} (h : AllPlain text) : OneLine source text.toList :=
  .plain h

/-- The outcome of a source that is refused for a character. -/
theorem oneLine_of_unexpectedChar {c : Char} {pos : UInt32}
    (hsize : source.utf8ByteSize ≤ maxOffset)
    (hparse : (parse source).1 = .error (.lex (.unexpectedChar c pos))) :
    OneLine source (render source).1.text.toList := by
  have hfront : AllPlain (Outcome.errorMark ++ "unexpected character '") := by decide
  have hback : AllPlain ("' at position " ++ pos.toNat.repr) :=
    allPlain_append.2 ⟨by decide, allPlain_repr _⟩
  have htext : (render source).1.text.toList =
      (Outcome.errorMark ++ "unexpected character '").toList ++
        (Text.escape Text.bothQuotes c ++ ("' at position " ++ pos.toNat.repr).toList) := by
    rw [render_of_parse_error hsize hparse]
    show (Outcome.errorMark ++ ("unexpected character '" ++
      String.ofList (Text.escape Text.bothQuotes c) ++ "' at position " ++
        pos.toNat.repr)).toList = _
    simp only [String.toList_append, String.toList_ofList, List.append_assoc]
  rw [htext]
  rcases Text.allPlain_escape_or c with hplain | ⟨hescape, hbeyond⟩
  · exact .plain (List.forall_mem_append.2 ⟨hfront, List.forall_mem_append.2 ⟨hplain, hback⟩⟩)
  · rw [hescape, List.singleton_append]
    exact .stray hparse hbeyond hescape hfront hback

/-- The outcome of a source is one clean line. -/
theorem oneLine_render (source : String) : OneLine source (render source).1.text.toList := by
  by_cases hsize : source.utf8ByteSize ≤ maxOffset
  · by_cases hstray : ∃ c pos, (parse source).1 = .error (.lex (.unexpectedChar c pos))
    · obtain ⟨c, pos, hparse⟩ := hstray
      exact oneLine_of_unexpectedChar hsize hparse
    · -- Of all outcomes only the message of that error is not plain.
      push Not at hstray
      refine .plain fun c hc => ?_
      obtain hplain | ⟨-, pos, hparse⟩ := plain_of_mem_render hc
      · exact hplain
      · exact absurd hparse (hstray c pos)
  · have hlong : AllPlain (Outcome.failure .invalidInput "input is too long").text := by decide
    rw [render, if_pos (Nat.lt_of_not_le hsize)]
    exact .of_allPlain hlong

/-- A clean line has no controls and no line breaks. -/
theorem OneLine.not_control_or_break {cs : List Char} (h : OneLine source cs) {c : Char}
    (hc : c ∈ cs) : ¬ Text.IsControl c ∧ ¬ Text.IsLineBreak c := by
  suffices hprintable : Text.isPrintable c = true from
    ⟨Text.not_isControl hprintable, Text.not_isLineBreak hprintable⟩
  cases h with
  | plain hcs => exact (hcs c hc).isPrintable
  | @stray front back stray pos hparse hbeyond hescape hfront hback =>
    rcases List.mem_append.1 hc with hc | hc
    · exact (hfront c hc).isPrintable
    rcases List.mem_cons.1 hc with rfl | hc
    · -- Only what is printable is written as it is.
      have hmem : c ∈ Text.escape Text.bothQuotes c := by
        rw [hescape]
        exact List.mem_singleton_self c
      refine Text.isPrintable_of_mem_escape ?_ hmem
      exact List.forall_mem_cons.2 ⟨by decide, List.forall_mem_singleton.2 (by decide)⟩
    · exact (hback c hc).isPrintable

end

/-! ### What callers get -/

/-- At the address of an answer there are the bytes of its text, all of them, and a NUL byte. -/
theorem Session.bytes?_answered_whole (s : Session) (argument : Option ByteArray) :
    (s.answered (outcomeFor argument)).bytes? (.buffer s.buffers.size) =
      some ((outcomeFor argument).1.text.toUTF8.push 0) := by
  rw [bytes?, buffers_answered, Array.getElem?_push_size]
  exact congrArg some (CString.terminate_eq (nul_not_mem_outcomeFor argument))

/-- **The output is one clean line, whatever the source is.**  Each character of the outcome is
plain, but for one place at most, where there may be the character beyond ASCII that the source is
refused for, if it is one that is not escaped.  There is no control and no line break.  So there is
no NUL byte in the text of any answer, nothing is taken out of it when it is put into a buffer, and
the caller reads the whole text. -/
theorem output_clean :
    (∀ source : String, OneLine source (render source).1.text.toList ∧
      (∀ c ∈ (render source).1.text.toList, ¬ Text.IsControl c ∧ ¬ Text.IsLineBreak c) ∧
      0 ∉ (render source).1.text.toUTF8.toList) ∧
    ∀ (argument : Option ByteArray), 0 ∉ (outcomeFor argument).1.text.toUTF8.toList ∧
      ∀ (s : Session) (status : Option Nat), ∃ address status' s',
        s.call (.calculateWithStatus argument status) = (.answer address status', s') ∧
          s.call (.calculate argument) = (.answer address none, s') ∧
          s'.bytes? address = some ((outcomeFor argument).1.text.toUTF8.push 0) ∧
          s'.read address = some (outcomeFor argument).1.text := by
  refine ⟨fun source => ⟨oneLine_render source, fun c hc => ?_, ?_⟩, fun argument => ⟨?_, ?_⟩⟩
  · exact (oneLine_render source).not_control_or_break hc
  · exact CString.zero_not_mem_toUTF8 nul_not_mem_render
  · exact CString.zero_not_mem_toUTF8 (nul_not_mem_outcomeFor argument)
  · intro s status
    exact ⟨_, _, _, s.call_calculateWithStatus argument status, s.call_calculate argument,
      s.bytes?_answered_whole argument, s.read_answered argument⟩

/-- A letter with an accent is named as it is, and a mark that turns the direction of the text
around by its code.  The caller reads that letter too. -/
theorem output_clean_accent :
    OneLine "(é" (render "(é").1.text.toList ∧ 'é' ∈ (render "(é").1.text.toList ∧
    ¬ Text.IsControl 'é' ∧ ¬ Text.IsLineBreak 'é' ∧
    (render "2\u202e").1.text = "error: unexpected character '\\u\x7b202e\x7d' at position 1" ∧
    OneLine "2\u202e" (render "2\u202e").1.text.toList ∧
    ∃ address s', Session.fresh.call (.calculate (some ⟨#[0x28, 0xC3, 0xA9, 0, 0x29]⟩)) =
        (.answer address none, s') ∧
      s'.read address = some "error: unexpected character 'é' at position 1" := by
  have hmem : 'é' ∈ (render "(é").1.text.toList := by decide +kernel
  obtain ⟨houtcomes, hanswers⟩ := output_clean
  obtain ⟨hline, hclean, -⟩ := houtcomes "(é"
  obtain ⟨hcontrol, hbreak⟩ := hclean 'é' hmem
  obtain ⟨hline', -, -⟩ := houtcomes "2\u202e"
  obtain ⟨address, -, s', -, hcall, -, hread⟩ :=
    (hanswers (some ⟨#[0x28, 0xC3, 0xA9, 0, 0x29]⟩)).2 Session.fresh none
  have htext : (outcomeFor (some ⟨#[0x28, 0xC3, 0xA9, 0, 0x29]⟩)).1.text =
      "error: unexpected character 'é' at position 1" := by decide +kernel
  rw [htext] at hread
  exact ⟨hline, hmem, hcontrol, hbreak, by decide +kernel, hline', address, s', hcall, hread⟩

end Reckon
