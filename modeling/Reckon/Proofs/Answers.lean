/-
The answers to a caller.

A caller hands over a byte string, or nothing.  The bytes before the first NUL byte are a text, and
then the answer is the outcome of that text; or they are not.  The text of the answer goes into a
new buffer, from which it is read back as it is.

* `answerTo_outcomeFor`, `AnswerTo.eq_outcomeFor`: there is one answer to each argument;
* `AnswerTo.status_ne_invalidInput_iff`: when there is a text to work on;
* `Session.call_calculateWithStatus`, `Session.read_answered`: what a call does, and what can be
  read at the address that it returns;
* `calls_answer`: both calls give the one answer.
-/
import Reckon.Proofs.CStrings
import Reckon.Proofs.Printed
import Reckon.Session.Basic

namespace Reckon

/-- What an argument is answered with, and what is reported on the way. -/
inductive AnswerTo : Option ByteArray → Outcome × Array Event → Prop where
  /-- There is no argument. -/
  | null : AnswerTo none (⟨.invalidInput, "error: null input pointer"⟩, #[])
  /-- Up to the first NUL byte the argument is a text. -/
  | text {bytes : ByteArray} {source : String} (h : UpToNul bytes source.toUTF8) :
      AnswerTo (some bytes) (render source)
  /-- It is not a text, and only its first bytes are. -/
  | malformed {bytes front : ByteArray} {n : Nat} (h : UpToNul bytes front)
      (hnot : ∀ source : String, source.toUTF8 ≠ front) (hn : IsValidUpTo front n) :
      AnswerTo (some bytes)
        (⟨.invalidInput, "error: input is not valid UTF-8"⟩, #[.rejected n])

/-! ### One answer to each argument -/

theorem IsValidUpTo.eq_validUpTo {bytes : ByteArray} {n : Nat} (h : IsValidUpTo bytes n) :
    n = Text.validUpTo bytes 0 := by
  have hvalid := Text.isValidUpTo_validUpTo bytes
  obtain ⟨front, hfront⟩ := h.exists_text
  obtain ⟨front', hfront'⟩ := hvalid.exists_text
  exact Nat.le_antisymm (hvalid.longest n front h.le_size hfront)
    (h.longest _ front' hvalid.le_size hfront')

theorem answerTo_outcomeFor (argument : Option ByteArray) :
    AnswerTo argument (outcomeFor argument) := by
  cases argument with
  | none => exact .null
  | some bytes =>
    rw [outcomeFor]
    cases hdecode : String.fromUTF8? (CString.untilNul bytes) with
    | some source => exact .text (upToNul_iff.2 (fromUTF8?_eq_some_iff.1 hdecode).symm)
    | none =>
      exact .malformed (upToNul_iff.2 rfl) (fromUTF8?_eq_none_iff.1 hdecode)
        (Text.isValidUpTo_validUpTo _)

/-- A text comes to nothing only if its positions do not fit into spans. -/
theorem render_status_ne_invalidInput_iff {source : String} :
    (render source).1.status ≠ .invalidInput ↔ source.utf8ByteSize ≤ maxOffset := by
  constructor
  · intro hstatus
    refine Nat.le_of_not_lt fun hlong => hstatus ?_
    rw [render, if_pos hlong]
    rfl
  · intro hsize
    have hcomes := comesTo_render hsize
    generalize (render source).1 = outcome at hcomes
    cases hcomes with
    | result | lex | parse | eval => simp [Outcome.failure]

namespace AnswerTo

variable {argument : Option ByteArray} {answer : Outcome × Array Event}

theorem eq_outcomeFor (h : AnswerTo argument answer) : answer = outcomeFor argument := by
  cases h with
  | null => rfl
  | text h => rw [outcomeFor, upToNul_iff.1 h, fromUTF8?_eq_some_iff.2 rfl]
  | malformed h hnot hn =>
    rw [outcomeFor, upToNul_iff.1 h, fromUTF8?_eq_none_iff.2 hnot, hn.eq_validUpTo]
    rfl

/-- There is a text to work on if what is before the first NUL byte is one, and its positions fit
into spans. -/
theorem status_ne_invalidInput_iff (h : AnswerTo argument answer) :
    answer.1.status ≠ .invalidInput ↔
      ∃ bytes, ∃ source : String, argument = some bytes ∧ UpToNul bytes source.toUTF8 ∧
        source.utf8ByteSize ≤ maxOffset := by
  cases h with
  | null => simp
  | @text bytes source h =>
    rw [render_status_ne_invalidInput_iff]
    constructor
    · intro hsize
      exact ⟨bytes, source, rfl, h, hsize⟩
    · rintro ⟨bytes', source', hbytes, h', hsize⟩
      obtain rfl := Option.some.inj hbytes
      have hsource := (upToNul_iff.1 h).symm.trans (upToNul_iff.1 h')
      rw [String.toUTF8_eq_toByteArray, String.toUTF8_eq_toByteArray] at hsource
      rwa [String.toByteArray_inj.1 hsource]
  | @malformed bytes front n h hnot hn =>
    refine ⟨fun hstatus => absurd rfl hstatus, ?_⟩
    rintro ⟨bytes', source, hbytes, h', -⟩
    obtain rfl := Option.some.inj hbytes
    exact absurd ((upToNul_iff.1 h').symm.trans (upToNul_iff.1 h)) (hnot source)

end AnswerTo

/-! ### Calls -/

namespace Session

variable (s : Session) (argument : Option ByteArray)

/-- The process after it has given an answer. -/
def answered (answer : Outcome × Array Event) : Session :=
  ((s.record answer.2).store answer.1.text).2

theorem buffers_record (events : Array Event) : (s.record events).buffers = s.buffers := by
  rw [record]
  split <;> rfl

theorem call_calculateWithStatus (status : Option Nat) :
    s.call (.calculateWithStatus argument status) =
      (.answer (.buffer s.buffers.size)
        (status.map fun _ => (outcomeFor argument).1.status.code),
        s.answered (outcomeFor argument)) := by
  rw [call, calculate, ← s.buffers_record (outcomeFor argument).2]
  rfl

theorem call_calculate :
    s.call (.calculate argument) =
      (.answer (.buffer s.buffers.size) none, s.answered (outcomeFor argument)) :=
  s.call_calculateWithStatus argument none

theorem buffers_answered (answer : Outcome × Array Event) :
    (s.answered answer).buffers = s.buffers.push (some (CString.terminate answer.1.text)) := by
  rw [answered, store, buffers_record]

theorem logger_answered (answer : Outcome × Array Event) :
    (s.answered answer).logger = s.logger := by
  rw [answered, store, record]
  split <;> rfl

theorem library_answered (answer : Outcome × Array Event) :
    (s.answered answer).library = s.library := by
  rw [answered, store, record]
  split <;> rfl

theorem log_answered (answer : Outcome × Array Event) :
    (s.answered answer).log = (s.record answer.2).log := rfl

/-- An answer can be read at the address that is returned. -/
theorem read_answered :
    (s.answered (outcomeFor argument)).read (.buffer s.buffers.size) =
      some (outcomeFor argument).1.text := by
  rw [read, bytes?, buffers_answered, Array.getElem?_push_size]
  exact CString.read_terminate (nul_not_mem_outcomeFor argument)

end Session

/-- **A call gives the outcome of the text that it is given.**  There is one answer to each
argument: the outcome of the text before the first NUL byte, or that there is no text.  A call with
a variable for the status and a call without one put the text of the answer into a buffer, where it
is read back; they write the status into the variable if there is one, and report what is reported
on the way to the answer.  If there is a text, and its positions fit into spans, then the answer is
not that there is nothing to work on. -/
theorem calls_answer (argument : Option ByteArray) :
    (∃! answer, AnswerTo argument answer) ∧
    ∀ answer, AnswerTo argument answer →
      (∀ (s : Session) (status : Option Nat), ∃ address s',
        s.call (.calculateWithStatus argument status) =
            (.answer address (status.map fun _ => answer.1.status.code), s') ∧
          s.call (.calculate argument) = (.answer address none, s') ∧
          s'.read address = some answer.1.text ∧ s'.log = (s.record answer.2).log) ∧
      (answer.1.status ≠ .invalidInput ↔
        ∃ bytes, ∃ source : String, argument = some bytes ∧ UpToNul bytes source.toUTF8 ∧
          source.utf8ByteSize ≤ maxOffset) := by
  refine ⟨⟨_, answerTo_outcomeFor argument, fun _ h => h.eq_outcomeFor⟩, fun answer h => ?_⟩
  refine ⟨fun s status => ?_, h.status_ne_invalidInput_iff⟩
  obtain rfl := h.eq_outcomeFor
  exact ⟨_, _, s.call_calculateWithStatus argument status, s.call_calculate argument,
    s.read_answered argument, s.log_answered _⟩

/-- A NUL byte ends the text in front of a parenthesis, and in the middle of a character. -/
theorem calls_answer_cut :
    (∃ address s',
      Session.fresh.call (.calculateWithStatus (some ⟨#[0x32, 0x2B, 0x32, 0, 0x29]⟩) (some 9)) =
          (.answer address (some 0), s') ∧
        s'.read address = some "4") ∧
    ∃ address s',
      Session.fresh.call (.calculateWithStatus (some ⟨#[0x31, 0xC3, 0, 0xA9]⟩) (some 9)) =
          (.answer address (some 4), s') ∧
        s'.read address = some "error: input is not valid UTF-8" := by
  have htext : AnswerTo (some ⟨#[0x32, 0x2B, 0x32, 0, 0x29]⟩) (render "2+2") :=
    .text (upToNul_iff.2 (by decide +kernel))
  have hnot (source : String) : source.toUTF8 ≠ ⟨#[0x31, 0xC3]⟩ :=
    fromUTF8?_eq_none_iff.1 (by decide +kernel) source
  have hvalid : IsValidUpTo ⟨#[0x31, 0xC3]⟩ 1 := by
    refine ⟨by decide, ⟨"1", by decide +kernel⟩, fun m front hm hfront => ?_⟩
    rcases Nat.lt_or_eq_of_le hm with hlt | rfl
    · exact Nat.le_of_lt_succ hlt
    · exact absurd hfront (hnot front)
  have hmalformed : AnswerTo (some ⟨#[0x31, 0xC3, 0, 0xA9]⟩)
      (⟨.invalidInput, "error: input is not valid UTF-8"⟩, #[.rejected 1]) :=
    .malformed (upToNul_iff.2 (by decide +kernel)) hnot hvalid
  have hrender : (render "2+2").1 = ⟨.ok, "4"⟩ := by decide +kernel
  obtain ⟨address, s, hcall, -, hread, -⟩ :=
    ((calls_answer _).2 _ htext).1 Session.fresh (some 9)
  obtain ⟨address', s', hcall', -, hread', -⟩ :=
    ((calls_answer _).2 _ hmalformed).1 Session.fresh (some 9)
  rw [hrender] at hcall hread
  exact ⟨⟨address, s, hcall, hread⟩, address', s', hcall', hread'⟩

end Reckon
