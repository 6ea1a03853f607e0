/-
Which events a log shows.

A filter is a list of directives.  A directive is for all events or for those of a target, and
shows them up to a level; a target stands for every target that begins with it.  Among the
directives that fit an event the one with the longest target decides; an event that none fits is
not shown.

* `narrowest_eq_some_iff`: of several directives the one with the longest target is taken, and
  of those with equally long targets the last.
* `deciding?_eq_none_iff`: no directive decides exactly where none fits.
* `admits_iff`: an event is shown if and only if a directive decides on it whose threshold
  reaches the event's level.
-/
import Reckon.Event
import Reckon.Text.Utf8

namespace Reckon

/-- The last level that is shown; none where no event is. -/
abbrev Threshold := Option Level

namespace Threshold

/-- Whether events of a level are shown. -/
def admits (threshold : Threshold) (level : Level) : Bool :=
  match threshold with
  | none => false
  | some last => decide (level.detail ≤ last.detail)

end Threshold

/-- What is shown of the events whose target begins with `target`, or of all. -/
structure Directive where
  target : Option (List Char)
  threshold : Threshold
  deriving DecidableEq

namespace Directive

/-- Whether the directive says something about a target. -/
def fits (d : Directive) (target : List Char) : Bool :=
  match d.target with
  | none => true
  | some front => front.isPrefixOf target

/-- How much a directive is narrowed down: by nothing, or by so many bytes. -/
def specificity (d : Directive) : Nat :=
  match d.target with
  | none => 0
  | some front => Text.byteLength front + 1

/-- The directive that is narrowed down the most, and the last of those that are equally so. -/
def narrowest : List Directive → Option Directive
  | [] => none
  | d :: ds =>
    match narrowest ds with
    | none => some d
    | some best => if best.specificity < d.specificity then some d else some best

@[simp] theorem narrowest_eq_none_iff {ds : List Directive} : narrowest ds = none ↔ ds = [] := by
  cases ds with
  | nil => simp [narrowest]
  | cons d ds =>
    unfold narrowest
    split
    · simp
    · split <;> simp

theorem narrowest_eq_some_iff {ds : List Directive} {d : Directive} :
    narrowest ds = some d ↔
      ∃ before after, ds = before ++ d :: after ∧
        (∀ e ∈ before, e.specificity ≤ d.specificity) ∧
        ∀ e ∈ after, e.specificity < d.specificity := by
  induction ds generalizing d with
  | nil => simp [narrowest]
  | cons e es ih =>
    constructor
    · intro h
      unfold narrowest at h
      split at h
      · rename_i hnone
        obtain rfl := narrowest_eq_none_iff.mp hnone
        obtain rfl := Option.some.inj h
        exact ⟨[], [], rfl, by simp, by simp⟩
      · rename_i best hbest
        obtain ⟨before, after, rfl, hbefore, hafter⟩ := ih.mp hbest
        split at h
        · rename_i hlt
          obtain rfl := Option.some.inj h
          refine ⟨[], before ++ best :: after, rfl, by simp, fun x hx => ?_⟩
          rcases List.mem_append.mp hx with hx | hx
          · exact Nat.lt_of_le_of_lt (hbefore x hx) hlt
          · rcases List.mem_cons.mp hx with rfl | hx
            · exact hlt
            · exact Nat.lt_trans (hafter x hx) hlt
        · rename_i hle
          obtain rfl := Option.some.inj h
          refine ⟨e :: before, after, rfl, fun x hx => ?_, hafter⟩
          rcases List.mem_cons.mp hx with rfl | hx
          · exact Nat.le_of_not_lt hle
          · exact hbefore x hx
    · rintro ⟨before, after, hds, hbefore, hafter⟩
      unfold narrowest
      cases before with
      | nil =>
        obtain ⟨rfl, rfl⟩ := List.cons.inj hds
        split
        · rfl
        · rename_i best hbest
          obtain ⟨pre, post, rfl, -, -⟩ := ih.mp hbest
          exact if_pos (hafter best (by simp))
      | cons b bs =>
        rw [List.cons_append, List.cons.injEq] at hds
        obtain ⟨rfl, rfl⟩ := hds
        have hd : narrowest (bs ++ d :: after) = some d :=
          ih.mpr ⟨bs, after, rfl, fun x hx => hbefore x (List.mem_cons_of_mem _ hx), hafter⟩
        rw [hd]
        exact if_neg (Nat.not_lt.mpr (hbefore e List.mem_cons_self))

end Directive

/-- Directives; of two for the same target the later one counts. -/
structure Filter where
  directives : List Directive
  deriving DecidableEq

namespace Filter

/-- The directive that decides on events of a target. -/
def deciding? (f : Filter) (target : List Char) : Option Directive :=
  Directive.narrowest (f.directives.filter (·.fits target))

/-- Whether an event is shown. -/
def admits (f : Filter) (e : Event) : Bool :=
  match f.deciding? e.target.toList with
  | none => false
  | some d => d.threshold.admits e.level

theorem deciding?_eq_none_iff {f : Filter} {target : List Char} :
    f.deciding? target = none ↔ ∀ d ∈ f.directives, d.fits target = false := by
  simp [deciding?, List.filter_eq_nil_iff]

theorem admits_iff (f : Filter) (e : Event) :
    f.admits e = true ↔
      ∃ d, f.deciding? e.target.toList = some d ∧ d.threshold.admits e.level = true := by
  unfold admits
  split <;> simp_all

end Filter

end Reckon
