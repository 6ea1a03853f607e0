/-
The shortest decimal that reads back as a given number.

Among the decimals whose nearest double-precision number is `x`, `Decimal.shortest x` is one
with the fewest digits; of those it is the nearest to `x`, and of two equally near ones the larger.
It is found on grids of decimals, the multiples of `10 ^ g`, from the coarsest to finer ones:
if a grid has a decimal that reads back as `x`, so does one of the two neighbours of `x` on it.

* `readsBack_of_onGrid?`: what the search finds reads back as `x`.
-/
import Reckon.Decimal.Basic

namespace Reckon.Decimal

/-- The largest multiple of `10 ^ grid` that is not above `units` units of `2 ^ -1074`. -/
def below (units : Nat) (grid : Int) : Decimal :=
  ⟨units * Nat.pow 10 (-grid).toNat / (Binary64.unitsPerOne * Nat.pow 10 grid.toNat), grid⟩

/-- The next multiple of `10 ^ grid` after `below`. -/
def above (units : Nat) (grid : Int) : Decimal :=
  ⟨(below units grid).coefficient + 1, grid⟩

/-- Whether `units` is nearer to the neighbour below than to the one above. -/
def nearerBelow (units : Nat) (grid : Int) : Bool :=
  let unit := Binary64.unitsPerOne * Nat.pow 10 grid.toNat
  decide (2 * (units * Nat.pow 10 (-grid).toNat % unit) < unit)

/-- Whether reading the decimal gives the magnitude of `x`. -/
def readsBack (x : Binary64) (d : Decimal) : Bool :=
  d.toBinary64? == some (.ofMagnitude x.magnitude)

/-- The neighbour of `x` on the grid that reads back as `x`, the nearer one if both do. -/
def onGrid? (x : Binary64) (grid : Int) : Option Decimal :=
  let lower := below x.units grid
  let upper := above x.units grid
  if readsBack x lower && (nearerBelow x.units grid || !readsBack x upper) then some lower
  else if readsBack x upper then some upper
  else none

theorem readsBack_of_onGrid? {x : Binary64} {grid : Int} {d : Decimal}
    (h : onGrid? x grid = some d) : readsBack x d = true := by
  simp only [onGrid?] at h
  split at h
  · rename_i hlower
    obtain rfl := Option.some.inj h
    exact (Bool.and_eq_true_iff.1 hlower).1
  · split at h
    · rename_i hupper
      obtain rfl := Option.some.inj h
      exact hupper
    · exact absurd h (by simp)

/-- The least power of ten that is not below `x`, or one more: no coarser grid can have a hit. -/
def coarsestGrid (x : Binary64) : Int :=
  let whole := x.units / Binary64.unitsPerOne
  if whole = 0 then
    1 - ((Nat.toDigits 10 (Binary64.unitsPerOne / x.units)).length : Int)
  else (Nat.toDigits 10 whole).length

/-- The value of `x` with all its digits. -/
def exact (x : Binary64) : Decimal := ⟨x.units * Nat.pow 5 1074, -1074⟩

/-- The decimal with the fewest digits that reads back as the magnitude of `x`.  Seventeen
digits are always enough; the exact value stands in for a search that finds nothing. -/
def shortest (x : Binary64) : Decimal :=
  if x.isZero then ⟨0, 0⟩
  else
    let top := coarsestGrid x
    ((List.range 20).findSome? fun (step : Nat) => onGrid? x (top - step)).getD (exact x)

end Reckon.Decimal
