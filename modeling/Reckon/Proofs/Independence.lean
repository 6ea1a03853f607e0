/-
Calls do not depend on each other.

What a call is answered with depends neither on what was asked before nor on the logger.  The buffer
with the answer was not in use, and it can be read until it is given back, whatever else is asked
meanwhile.  Giving a buffer back makes no difference to those who do not read it.

* `Session.bytes?_call`: a call leaves a buffer as it is, unless it gives that buffer back;
* `Session.SameBut.call`, `Session.SameBut.run`: two processes that differ in one buffer only give
  the same replies as long as it is not read;
* `calls_independent`: the three statements, for calls in any order.
-/
import Reckon.Proofs.Answers

namespace Reckon

namespace Session

variable {s s' : Session} {address other : Address}

/-- The call is answered with the text, in a buffer, and leaves the number in the variable for the
status. -/
def Answers (s : Session) (c : Call) (text : String) (status : Option Nat) : Prop :=
  ∃ address s', s.call c = (.answer address status, s') ∧ s'.read address = some text

/-! ### What a call does to the buffers -/

theorem bytes?_congr (h : s.buffers = s'.buffers) (address : Address) :
    s.bytes? address = s'.bytes? address := by
  cases address with
  | version => rfl
  | buffer index => rw [bytes?, bytes?, h]

theorem buffers_install (s : Session) (filter : String) :
    (s.install filter).2.buffers = s.buffers := by
  rw [install]
  split <;> rfl

theorem buffers_installBytes (s : Session) (filter : Option ByteArray) :
    (s.installBytes filter).2.buffers = s.buffers := by
  rw [installBytes]
  split
  · rfl
  · exact s.buffers_install _

theorem bytes?_free (s : Session) (index : Nat) (address : Address) :
    (s.free (some (.buffer index))).bytes? address =
      if address = .buffer index then none else s.bytes? address := by
  cases address with
  | version => rfl
  | buffer index' =>
    rw [bytes?, bytes?, free, Array.set!_eq_setIfInBounds, Array.getElem?_setIfInBounds]
    by_cases h : index = index'
    · subst h
      rw [if_pos rfl, if_pos rfl]
      split <;> rfl
    · rw [if_neg h, if_neg fun heq => h (Address.buffer.inj heq).symm]

theorem bytes?_free_of_ne (s : Session) (h : other ≠ address) :
    (s.free (some address)).bytes? other = s.bytes? other := by
  cases address with
  | version => rfl
  | buffer index => rw [bytes?_free, if_neg h]

theorem size_buffers_free (s : Session) (index : Nat) :
    (s.free (some (.buffer index))).buffers.size = s.buffers.size := by
  rw [free, Array.set!_eq_setIfInBounds, Array.size_setIfInBounds]

/-- The address for the next answer is not in use. -/
theorem bytes?_next (s : Session) : s.bytes? (.buffer s.buffers.size) = none := by
  rw [bytes?, Array.getElem?_eq_none (Nat.le_refl _)]
  rfl

theorem bytes?_answered (s : Session) (answer : Outcome × Array Event) (address : Address) :
    (s.answered answer).bytes? address =
      if address = .buffer s.buffers.size then some (CString.terminate answer.1.text)
      else s.bytes? address := by
  cases address with
  | version => rfl
  | buffer index =>
    rw [bytes?, bytes?, buffers_answered, Array.getElem?_push]
    by_cases h : index = s.buffers.size
    · rw [if_pos h, if_pos (congrArg _ h)]
      rfl
    · rw [if_neg h, if_neg fun heq => h (Address.buffer.inj heq)]

/-- A call leaves a buffer as it is, unless it gives that buffer back. -/
theorem bytes?_call {c : Call} {bytes : ByteArray} (hc : c ≠ .free (some address))
    (h : s.bytes? address = some bytes) : (s.call c).2.bytes? address = some bytes := by
  have hanswered (answer : Outcome × Array Event) :
      (s.answered answer).bytes? address = some bytes := by
    rw [bytes?_answered, if_neg, h]
    rintro rfl
    rw [bytes?_next] at h
    exact absurd h (by simp)
  cases c with
  | calculate argument =>
    rw [call_calculate]
    exact hanswered _
  | calculateWithStatus argument status =>
    rw [call_calculateWithStatus]
    exact hanswered _
  | read => exact h
  | version => exact h
  | free freed =>
    cases freed with
    | none => exact h
    | some freed =>
      have hne : address ≠ freed := fun heq => hc (heq ▸ rfl)
      exact (s.bytes?_free_of_ne hne).trans h
  | installLogger filter =>
    exact (bytes?_congr (s.buffers_installBytes filter) address).trans h
  | installLoggerText filter =>
    exact (bytes?_congr (s.buffers_install filter) address).trans h

theorem bytes?_run {cs : List Call} {bytes : ByteArray} (hcs : .free (some address) ∉ cs)
    (h : s.bytes? address = some bytes) : (s.run cs).2.bytes? address = some bytes := by
  induction cs generalizing s with
  | nil => exact h
  | cons c cs ih =>
    have hc : c ≠ .free (some address) := (List.ne_of_not_mem_cons hcs).symm
    exact ih (List.not_mem_of_not_mem_cons hcs) (bytes?_call hc h)

/-- A text can be read until its buffer is given back. -/
theorem read_run {cs : List Call} {text : String} (hcs : .free (some address) ∉ cs)
    (h : s.read address = some text) : (s.run cs).2.read address = some text := by
  obtain ⟨bytes, hbytes, htext⟩ := Option.bind_eq_some_iff.1 h
  rw [read, bytes?_run hcs hbytes]
  exact htext

/-- An answer is in a buffer that was not in use. -/
theorem bytes?_of_call {c : Call} {status : Option Nat}
    (h : s.call c = (.answer address status, s')) :
    s.bytes? address = none ∧ ∃ text, s'.read address = some text := by
  cases c with
  | calculate argument =>
    rw [call_calculate] at h
    cases h
    exact ⟨s.bytes?_next, _, s.read_answered argument⟩
  | calculateWithStatus argument status =>
    rw [call_calculateWithStatus] at h
    cases h
    exact ⟨s.bytes?_next, _, s.read_answered argument⟩
  | read | free | version | installLogger | installLoggerText => exact absurd h (by simp [call])

/-! ### Processes that differ in one buffer -/

/-- The processes are the same, but for what is at the address. -/
structure SameBut (address : Address) (s s' : Session) : Prop where
  library_eq : s.library = s'.library
  size_eq : s.buffers.size = s'.buffers.size
  bytes?_eq : ∀ other, other ≠ address → s.bytes? other = s'.bytes? other
  logger_eq : s.logger = s'.logger
  log_eq : s.log = s'.log

/-- Giving a buffer back changes nothing but that buffer. -/
theorem sameBut_free (s : Session) (address : Address) :
    SameBut address (s.free (some address)) s := by
  cases address with
  | version => exact ⟨rfl, rfl, fun _ _ => rfl, rfl, rfl⟩
  | buffer index =>
    exact ⟨rfl, s.size_buffers_free index, fun other hother => s.bytes?_free_of_ne hother, rfl,
      rfl⟩

namespace SameBut

theorem answered (h : SameBut address s s') (answer : Outcome × Array Event) :
    SameBut address (s.answered answer) (s'.answered answer) := by
  refine ⟨?_, ?_, fun other hother => ?_, ?_, ?_⟩
  · rw [library_answered, library_answered, h.library_eq]
  · rw [buffers_answered, buffers_answered, Array.size_push, Array.size_push, h.size_eq]
  · rw [bytes?_answered, bytes?_answered, h.size_eq, h.bytes?_eq other hother]
  · rw [logger_answered, logger_answered, h.logger_eq]
  · rw [log_answered, log_answered, record, record, h.logger_eq, h.library_eq, h.log_eq]
    split
    · exact h.log_eq
    · rfl

theorem free (h : SameBut address s s') (freed : Option Address) :
    SameBut address (s.free freed) (s'.free freed) := by
  match freed with
  | none | some .version => exact h
  | some (.buffer index) =>
    refine ⟨h.library_eq, ?_, fun other hother => ?_, h.logger_eq, h.log_eq⟩
    · rw [size_buffers_free, size_buffers_free, h.size_eq]
    · rw [bytes?_free, bytes?_free, h.bytes?_eq other hother]

theorem install (h : SameBut address s s') (filter : String) :
    (s.install filter).1 = (s'.install filter).1 ∧
      SameBut address (s.install filter).2 (s'.install filter).2 := by
  rw [Session.install, Session.install, h.logger_eq, h.library_eq]
  split
  · exact ⟨rfl, h⟩
  · exact ⟨rfl, h⟩
  · exact ⟨rfl, rfl, h.size_eq, h.bytes?_eq, rfl, h.log_eq⟩

theorem installBytes (h : SameBut address s s') (filter : Option ByteArray) :
    (s.installBytes filter).1 = (s'.installBytes filter).1 ∧
      SameBut address (s.installBytes filter).2 (s'.installBytes filter).2 := by
  rw [Session.installBytes, Session.installBytes]
  cases filter.bind CString.read with
  | none => exact ⟨rfl, h⟩
  | some text => exact h.install text

/-- One call gets the same reply, and the processes stay the same. -/
theorem call {c : Call} (h : SameBut address s s') (hc : c ≠ .read address) :
    (s.call c).1 = (s'.call c).1 ∧ SameBut address (s.call c).2 (s'.call c).2 := by
  cases c with
  | calculate argument =>
    rw [call_calculate, call_calculate, h.size_eq]
    exact ⟨rfl, h.answered _⟩
  | calculateWithStatus argument status =>
    rw [call_calculateWithStatus, call_calculateWithStatus, h.size_eq]
    exact ⟨rfl, h.answered _⟩
  | read other =>
    have hother : other ≠ address := fun heq => hc (congrArg Call.read heq)
    refine ⟨congrArg Reply.text ?_, h⟩
    rw [Session.read, Session.read, h.bytes?_eq other hother]
  | free freed => exact ⟨rfl, h.free freed⟩
  | version => exact ⟨rfl, h⟩
  | installLogger filter =>
    obtain ⟨hresult, hsame⟩ := h.installBytes filter
    exact ⟨congrArg Reply.install hresult, hsame⟩
  | installLoggerText filter =>
    obtain ⟨hresult, hsame⟩ := h.install filter
    exact ⟨congrArg Reply.install hresult, hsame⟩

theorem run {cs : List Call} (h : SameBut address s s') (hcs : .read address ∉ cs) :
    (s.run cs).1 = (s'.run cs).1 ∧ SameBut address (s.run cs).2 (s'.run cs).2 := by
  induction cs generalizing s s' with
  | nil => exact ⟨rfl, h⟩
  | cons c cs ih =>
    obtain ⟨hreply, hsame⟩ := h.call (List.ne_of_not_mem_cons hcs).symm
    obtain ⟨hreplies, hsame⟩ := ih hsame (List.not_mem_of_not_mem_cons hcs)
    exact ⟨congrArg₂ List.cons hreply hreplies, hsame⟩

end SameBut

end Session

/-- **Calls do not depend on each other.**  Whatever has happened, and so also if nothing has, an
argument is answered with the same text and the same status.  The answer is in a buffer that was
not in use, and its text is read there until the buffer is given back, whatever calls come between.
From giving a buffer back on, all replies but those to reading it are the same as without, and so
are all other buffers, the logger and the log. -/
theorem calls_independent :
    (∀ argument, ∃ text code, ∀ s : Session,
      s.Answers (.calculate argument) text none ∧
        ∀ status : Option Nat,
          s.Answers (.calculateWithStatus argument status) text (status.map fun _ => code)) ∧
    (∀ (s s' : Session) c address status, s.call c = (.answer address status, s') →
      s.bytes? address = none ∧ ∃ text, s'.read address = some text ∧
        ∀ between, .free (some address) ∉ between →
          (s'.run between).2.read address = some text) ∧
    ∀ (s : Session) address after, .read address ∉ after →
      ((s.free (some address)).run after).1 = (s.run after).1 ∧
        Session.SameBut address ((s.free (some address)).run after).2 (s.run after).2 := by
  refine ⟨fun argument => ?_, fun s s' c address status hcall => ?_,
    fun s address after hafter => (s.sameBut_free address).run hafter⟩
  · refine ⟨(outcomeFor argument).1.text, (outcomeFor argument).1.status.code, fun s => ?_⟩
    exact ⟨⟨_, _, s.call_calculate argument, s.read_answered argument⟩, fun status =>
      ⟨_, _, s.call_calculateWithStatus argument status, s.read_answered argument⟩⟩
  · obtain ⟨hfree, text, htext⟩ := Session.bytes?_of_call hcall
    exact ⟨hfree, text, htext, fun between hbetween => Session.read_run hbetween htext⟩

/-- A logger and another buffer, which is given back, come between an answer and its release. -/
theorem calls_independent_run :
    ∃ s, Session.fresh.call (.calculate (some ⟨#[0x32, 0x2B, 0x32]⟩)) =
        (.answer (.buffer 0) none, s) ∧
      (s.run [.installLoggerText "info", .calculate none, .free (some (.buffer 1))]).2.read
        (.buffer 0) = some "4" ∧
      ((s.free (some (.buffer 0))).run [.calculate none, .read (.buffer 1)]).1 =
        (s.run [.calculate none, .read (.buffer 1)]).1 := by
  obtain ⟨-, hintact, hreleased⟩ := calls_independent
  have hcall : Session.fresh.call (.calculate (some ⟨#[0x32, 0x2B, 0x32]⟩)) =
      (.answer (.buffer 0) none, _) := Session.fresh.call_calculate _
  have hread := Session.fresh.read_answered (some ⟨#[0x32, 0x2B, 0x32]⟩)
  have htext : (outcomeFor (some ⟨#[0x32, 0x2B, 0x32]⟩)).1.text = "4" := by decide +kernel
  obtain ⟨-, text, hanswer, hbetween⟩ := hintact _ _ _ _ _ hcall
  obtain rfl : "4" = text := htext ▸ Option.some.inj (hread.symm.trans hanswer)
  exact ⟨_, hcall, hbetween _ (by simp), (hreleased _ _ _ (by simp)).1⟩

end Reckon
