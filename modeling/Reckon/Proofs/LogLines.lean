/-
The lines of a log.

A line shows an event with its fields.  What comes from a source gets there between quotes, with its
characters escaped; or as the outcome of the source, where it is at most one character, that is
printable.  All other parts of a line are plain.  So a line is one line, whatever the source is.

* `Visitor.Keeps.walk`: what each step of a walk keeps, the walk keeps;
* `Binary64.allPlain_text`, `Expression.allPlain_sexpr`, ..: what is written plainly;
* `Event.allPrintable_line`: a line is printable if the outcome in it is;
* `allPrintable_of_mem_outcomeFor`: of all events that an answer reports the lines are printable.
-/
import Reckon.Proofs.Answers
import Reckon.Proofs.Reports
import Reckon.Proofs.Walks

namespace Reckon

/-! ### What a walk keeps -/

section
variable {σ β ε : Type}

/-- Whatever the visitor does, the property is kept. -/
structure Visitor.Keeps (visitor : Visitor σ β ε) (P : σ → Prop) : Prop where
  literal : ∀ id value state, P state → P (visitor.literal id value state).2
  enterUnary : ∀ op state, P state → P (visitor.enterUnary op state)
  leaveUnary : ∀ id op x state, P state → P (visitor.leaveUnary id op x state).2
  enterBinary : ∀ op state, P state → P (visitor.enterBinary op state)
  between : ∀ op state, P state → P (visitor.between op state)
  leaveBinary : ∀ id op span x y state, P state → P (visitor.leaveBinary id op span x y state).2

variable {visitor : Visitor σ β ε} {P : σ → Prop} {state : σ}

theorem Visitor.Keeps.establishes (h : visitor.Keeps P) (arena : Arena) :
    visitor.Establishes arena P fun _ _ => True where
  literal id value _ state _ hstate := ⟨trivial, h.literal id value state hstate⟩
  enterUnary := h.enterUnary
  leaveUnary id op _ _ x state _ _ hstate := ⟨trivial, h.leaveUnary id op x state hstate⟩
  enterBinary := h.enterBinary
  between := h.between
  leaveBinary id op _ _ span x y state _ _ _ hstate :=
    ⟨fun _ _ => trivial, h.leaveBinary id op span x y state hstate⟩

/-- What each step of a walk keeps, the walk keeps, even if it ends early. -/
theorem Visitor.Keeps.walk (h : visitor.Keeps P) (arena : Arena) (id : NodeId)
    (hstate : P state) : P (arena.walk visitor id state).2 :=
  ((h.establishes arena).walk id hstate).2

end

/-! ### Numbers -/

theorem allPlain_ofList {cs : List Char} :
    AllPlain (String.ofList cs) ↔ ∀ c ∈ cs, Text.IsPlain c := by
  rw [AllPlain, String.toList_ofList]

theorem isPlain_of_mem_toDigits {n : Nat} {c : Char} (h : c ∈ Nat.toDigits 10 n) :
    Text.IsPlain c :=
  isPlain_of_isDigit (Nat.isDigit_of_mem_toDigits (by decide) (by decide) h)

namespace Decimal

theorem allPlain_signedText (n : Int) : AllPlain (signedText n) := by
  rw [signedText]
  split
  · exact allPlain_append.2 ⟨by decide, allPlain_repr _⟩
  · exact allPlain_repr _

theorem allPlain_scientificText (d : Decimal) : AllPlain d.scientificText := by
  have hdigits : ∀ c ∈ Nat.toDigits 10 d.coefficient, Text.IsPlain c := fun c =>
    isPlain_of_mem_toDigits
  rw [scientificText, allPlain_append, allPlain_append, allPlain_ofList]
  refine ⟨⟨?_, by decide⟩, allPlain_signedText _⟩
  split
  · rename_i first hfirst
    rwa [hfirst] at hdigits
  · rename_i first rest _ hrest
    rw [hrest, List.forall_mem_cons] at hdigits
    rw [List.forall_mem_cons, List.forall_mem_cons]
    exact ⟨hdigits.1, by decide, hdigits.2⟩
  · exact List.forall_mem_nil _

theorem allPlain_layOut {layout : Layout} (hlayout : AllPlain layout.wholeSuffix) (d : Decimal) :
    AllPlain (d.layOut layout) := by
  rw [layOut]
  split
  · rw [allPlain_append, allPlain_ofList]
    refine ⟨(isNumberText_iff.2 ⟨_, wellFormed_toNumeral d, rfl⟩).isPlain, ?_⟩
    split
    · exact hlayout
    · decide
  · exact d.allPlain_scientificText

end Decimal

theorem Binary64.allPlain_text {layout : Layout} (hlayout : AllPlain layout.wholeSuffix)
    (x : Binary64) : AllPlain (x.text layout) := by
  have hdigits : AllPlain
      (if x.isFinite then (Decimal.shortest x).layOut layout else "inf") := by
    split
    · exact Decimal.allPlain_layOut hlayout _
    · decide
  rw [Binary64.text]
  split
  · decide
  · dsimp only
    split
    · exact allPlain_append.2 ⟨by decide, hdigits⟩
    · exact hdigits

/-! ### Expressions and results -/

theorem allPlain_unarySymbol (op : UnaryOp) : AllPlain op.symbol := by
  cases op <;> decide

/-- All that is written of an expression is plain. -/
theorem Sexpr.keeps_writer : Sexpr.writer.Keeps AllPlain where
  literal _ value _ h := allPlain_append.2 ⟨h, value.allPlain_text (by decide)⟩
  enterUnary op _ h := by
    refine allPlain_append.2 ⟨allPlain_append.2 ⟨allPlain_append.2 ⟨h, by decide⟩, ?_⟩, by decide⟩
    exact allPlain_unarySymbol op
  leaveUnary _ _ _ _ h := allPlain_append.2 ⟨h, by decide⟩
  enterBinary op _ h := by
    refine allPlain_append.2 ⟨allPlain_append.2 ⟨allPlain_append.2 ⟨h, by decide⟩, ?_⟩, by decide⟩
    exact allPlain_symbol op
  between _ _ h := allPlain_append.2 ⟨h, by decide⟩
  leaveBinary _ _ _ _ _ _ h := allPlain_append.2 ⟨h, by decide⟩

theorem Expression.allPlain_sexpr {e : Expression} {text : String} (h : e.sexpr = .ok text) :
    AllPlain text := by
  have hwalk : AllPlain (e.arena.walk Sexpr.writer e.root "").2 :=
    Sexpr.keeps_writer.walk e.arena e.root (by decide)
  rw [Expression.sexpr, Arena.sexpr] at h
  rcases hresult : e.arena.walk Sexpr.writer e.root "" with ⟨(fault | error) | ⟨⟩, text'⟩
  · simp [hresult] at h
  · exact error.elim
  · rw [hresult] at h hwalk
    obtain rfl := Except.ok.inj h
    exact hwalk

theorem Span.allPlain_text (span : Span) : AllPlain span.text := by
  rw [Span.text, allPlain_append, allPlain_append]
  exact ⟨⟨allPlain_repr _, by decide⟩, allPlain_repr _⟩

theorem EvalError.allPlain_logText (error : EvalError) : AllPlain error.logText := by
  cases error with
  | divisionByZero span =>
    show AllPlain ("DivisionByZero \x7b span: " ++ span.text ++ " \x7d")
    rw [allPlain_append, allPlain_append]
    exact ⟨⟨by decide, span.allPlain_text⟩, by decide⟩
  | overflow op span =>
    have hop : AllPlain op.name := by
      cases op <;> decide
    show AllPlain ("Overflow \x7b op: " ++ op.name ++ ", span: " ++ span.text ++ " \x7d")
    rw [allPlain_append, allPlain_append, allPlain_append, allPlain_append]
    exact ⟨⟨⟨⟨by decide, hop⟩, by decide⟩, span.allPlain_text⟩, by decide⟩

theorem allPlain_resultLogText (result : Except EvalError Binary64) :
    AllPlain (resultLogText result) := by
  cases result with
  | ok value =>
    rw [resultLogText, allPlain_append, allPlain_append]
    exact ⟨⟨by decide, value.allPlain_text (by decide)⟩, by decide⟩
  | error error =>
    rw [resultLogText, allPlain_append, allPlain_append]
    exact ⟨⟨by decide, error.allPlain_logText⟩, by decide⟩

/-! ### Printable texts -/

/-- All characters of the text are printable. -/
def AllPrintable (text : String) : Prop := ∀ c ∈ text.toList, Text.isPrintable c = true

theorem AllPlain.allPrintable {text : String} (h : AllPlain text) : AllPrintable text :=
  fun c hc => (h c hc).isPrintable

theorem allPrintable_append {s t : String} :
    AllPrintable (s ++ t) ↔ AllPrintable s ∧ AllPrintable t := by
  rw [AllPrintable, String.toList_append, List.forall_mem_append]
  rfl

/-- A text between quotes is printable, whatever it is. -/
theorem allPrintable_quoted (text : String) : AllPrintable (Text.quoted text) := by
  have hquote : Text.isPrintable '"' = true := by decide
  rw [AllPrintable, Text.quoted, String.toList_ofList, List.cons_append, List.forall_mem_cons,
    List.forall_mem_append, List.forall_mem_singleton]
  refine ⟨hquote, fun c hc => ?_, hquote⟩
  obtain ⟨d, -, hd⟩ := List.mem_flatMap.1 hc
  exact Text.isPrintable_of_mem_escape (List.forall_mem_singleton.2 hquote) hd

/-- The outcome of a text is printable. -/
theorem allPrintable_render (source : String) : AllPrintable (render source).1.text := by
  intro c hc
  rcases plain_of_mem_render hc with h | ⟨h, -⟩
  · exact h.isPrintable
  · exact h

/-! ### Lines -/

theorem allPrintable_fieldsText {fields : List (String × FieldValue)}
    (h : ∀ field ∈ fields, AllPrintable field.1 ∧ AllPrintable field.2.logText) :
    AllPrintable (fieldsText fields) := by
  have hfold (text : String) (htext : AllPrintable text) : AllPrintable
      (fields.foldl (fun text field => text ++ " " ++ field.1 ++ "=" ++ field.2.logText) text) := by
    induction fields generalizing text with
    | nil => exact htext
    | cons field fields ih =>
      rw [List.forall_mem_cons] at h
      refine ih h.2 _ ?_
      rw [allPrintable_append, allPrintable_append, allPrintable_append, allPrintable_append]
      exact ⟨⟨⟨⟨htext, AllPlain.allPrintable (by decide)⟩, h.1.1⟩,
        AllPlain.allPrintable (by decide)⟩, h.1.2⟩
  exact hfold "" (AllPlain.allPrintable (by decide))

namespace Event

theorem allPlain_target (e : Event) : AllPlain e.target := by
  cases e <;> rw [target] <;> decide

theorem allPlain_message (e : Event) : AllPlain e.message := by
  cases e <;> rw [message] <;> decide

/-- What stands in front of the fields is plain. -/
theorem allPrintable_head (e : Event) :
    AllPrintable (inFiveColumns e.level.name ++ " " ++ e.target ++ ": " ++ e.message) := by
  have hlevel : AllPlain (inFiveColumns e.level.name) := by
    cases e.level <;> decide
  have hplain : AllPlain (inFiveColumns e.level.name ++ " " ++ e.target ++ ": " ++ e.message) := by
    rw [allPlain_append, allPlain_append, allPlain_append, allPlain_append]
    exact ⟨⟨⟨⟨hlevel, by decide⟩, e.allPlain_target⟩, by decide⟩, e.allPlain_message⟩
  exact hplain.allPrintable

/-- The fields are printable, if the outcome is that is among them. -/
theorem allPrintable_fields {e : Event}
    (h : ∀ source outcome, e = .rendered source outcome → AllPrintable outcome.text) :
    ∀ field ∈ e.fields, AllPrintable field.1 ∧ AllPrintable field.2.logText := by
  have hnatural (n : Nat) : AllPrintable (FieldValue.natural n).logText :=
    (allPlain_repr n).allPrintable
  have hfield {name : String} {value : FieldValue} (hname : AllPlain name)
      (hvalue : AllPrintable value.logText) :
      AllPrintable (name, value).1 ∧ AllPrintable (name, value).2.logText :=
    ⟨hname.allPrintable, hvalue⟩
  cases e with
  | advanced token =>
    rw [fields, List.forall_mem_cons, List.forall_mem_singleton]
    exact ⟨hfield (by decide) (allPrintable_quoted _), hfield (by decide) (hnatural _)⟩
  | groupOpened pos =>
    rw [fields, List.forall_mem_singleton]
    exact hfield (by decide) (hnatural _)
  | parsed e =>
    have htree : AllPlain (e.sexpr.toOption.getD "") := by
      cases htext : e.sexpr with
      | error fault => exact (by decide : AllPlain "")
      | ok text => exact e.allPlain_sexpr htext
    rw [fields, List.forall_mem_cons, List.forall_mem_singleton]
    exact ⟨hfield (by decide) (hnatural _), hfield (by decide) htree.allPrintable⟩
  | nodeEvaluated node value =>
    have hvalue : AllPlain (value.text .logged) := value.allPlain_text (by decide)
    rw [fields, List.forall_mem_cons, List.forall_mem_singleton]
    exact ⟨hfield (by decide) (hnatural _), hfield (by decide) hvalue.allPrintable⟩
  | evaluated result =>
    rw [fields, List.forall_mem_singleton]
    exact hfield (by decide) (allPlain_resultLogText result).allPrintable
  | rendered source outcome =>
    have hstatus : AllPlain outcome.status.name := by
      cases outcome.status <;> decide
    rw [fields, List.forall_mem_cons, List.forall_mem_cons, List.forall_mem_singleton]
    exact ⟨hfield (by decide) (allPrintable_quoted _), hfield (by decide) hstatus.allPrintable,
      hfield (by decide) (h source outcome rfl)⟩
  | rejected validUpTo =>
    rw [fields, List.forall_mem_singleton]
    exact hfield (by decide) (hnatural _)

/-- A line is printable, if the outcome is that it shows. -/
theorem allPrintable_line {e : Event}
    (h : ∀ source outcome, e = .rendered source outcome → AllPrintable outcome.text) :
    AllPrintable e.line :=
  allPrintable_append.2 ⟨e.allPrintable_head, allPrintable_fieldsText (allPrintable_fields h)⟩

end Event

/-! ### What is reported of outcomes -/

/-- None of the events is the report of an outcome. -/
def Unrendered (events : Array Event) : Prop :=
  ∀ e ∈ events, ∀ source outcome, e ≠ .rendered source outcome

theorem Unrendered.push {events : Array Event} {e : Event} (h : Unrendered events)
    (he : ∀ source outcome, e ≠ .rendered source outcome) : Unrendered (events.push e) := by
  intro e' he'
  rcases Array.mem_push.1 he' with hmem | rfl
  · exact h e' hmem
  · exact he

theorem unrendered_parse (source : String) : Unrendered (parse source).2 := by
  intro e he source outcome
  cases ofParser_of_mem_parse he <;> simp

theorem Eval.keeps_evaluator : Eval.evaluator.Keeps Unrendered where
  literal _ _ _ h := h.push (by simp)
  enterUnary _ _ h := h
  leaveUnary _ _ _ _ h := h.push (by simp)
  enterBinary _ _ h := h
  between _ _ h := h
  leaveBinary id op span x y events h := by
    rw [evaluator]
    dsimp only
    split
    · exact h.push (by simp)
    · exact h

theorem Expression.unrendered_evaluate (e : Expression) {events : Array Event}
    (h : Unrendered events) : Unrendered (e.evaluate events).2 := by
  have hwalk := Eval.keeps_evaluator.walk e.arena e.root h
  rw [Expression.evaluate, Arena.evaluate]
  rcases hresult : e.arena.walk Eval.evaluator e.root events with
    ⟨(fault | error) | value, events'⟩
  · rwa [hresult] at hwalk
  · rw [hresult] at hwalk
    exact hwalk.push (by simp)
  · rw [hresult] at hwalk
    exact hwalk.push (by simp)

theorem unrendered_evaluate (source : String) : Unrendered (evaluate source).2 := by
  have hparse := unrendered_parse source
  rw [evaluate]
  rcases h : parse source with ⟨error | e, events⟩
  · rwa [h] at hparse
  · rw [h] at hparse
    exact e.unrendered_evaluate hparse

/-- The outcome that is reported of a text is that of the text. -/
theorem eq_render_of_mem_render {source text : String} {outcome : Outcome}
    (h : .rendered text outcome ∈ (render source).2) : outcome = (render source).1 := by
  by_cases hsize : source.utf8ByteSize ≤ maxOffset
  · rw [render, if_neg (Nat.not_lt.2 hsize)] at h
    rcases Array.mem_push.1 h with h | h
    · exact absurd rfl (unrendered_evaluate source _ h text outcome)
    · rw [render_of_size hsize]
      exact (Event.rendered.inj h).2
  · rw [render, if_pos (Nat.lt_of_not_le hsize)] at h
    exact absurd h (by simp)

/-- Of all that is reported on the way to an answer the lines are printable. -/
theorem allPrintable_of_mem_outcomeFor {argument : Option ByteArray} {e : Event}
    (h : e ∈ (outcomeFor argument).2) : AllPrintable e.line := by
  refine Event.allPrintable_line fun text outcome he => ?_
  subst he
  have hanswer := answerTo_outcomeFor argument
  generalize outcomeFor argument = answer at h hanswer
  cases hanswer with
  | null => exact absurd h (by simp)
  | @text bytes source => exact eq_render_of_mem_render h ▸ allPrintable_render source
  | malformed => exact absurd h (by simp)

end Reckon
