import OpenFsd.Library.Buffer
import Mathlib.Algebra.Order.Group.Int

namespace OpenFsd
namespace Access

/-!
# Accesses that may be out of range

An index or slice expression stops the program when it is out of range.  Here
such an access has no result, and a computation that makes one has none
either.  Where the bounds are kept, the access is the plain list function.
-/

universe u

variable {A : Type u}

/-- `buf[position]` -/
def item (buf : List A) (position : Int) : Option A :=
  if 0 ≤ position then buf[position.toNat]? else none

/-- `buf[low:high]` -/
def window (buf : List A) (low high : Int) : Option (List A) :=
  if 0 ≤ low ∧ low ≤ high ∧ high ≤ buf.length then
    some (Buffer.slice buf low.toNat high.toNat)
  else none

theorem item_zero (buf : List A) : item buf 0 = buf.head? := by
  unfold item
  rw [if_pos (le_refl 0), Int.toNat_zero, List.head?_eq_getElem?]

/-- `buf[:high]` -/
theorem window_zero {buf : List A} {high : Int} (lower : 0 ≤ high) (upper : high ≤ buf.length) :
    window buf 0 high = some (buf.take high.toNat) := by
  unfold window Buffer.slice
  rw [if_pos ⟨le_refl 0, lower, upper⟩, Int.toNat_zero, List.drop_zero]

/-- `buf[low:]` -/
theorem window_length {buf : List A} {low : Int} (lower : 0 ≤ low) (upper : low ≤ buf.length) :
    window buf low buf.length = some (buf.drop low.toNat) := by
  unfold window Buffer.slice
  rw [if_pos ⟨lower, upper, le_refl _⟩, Int.toNat_natCast, List.take_length]

end Access
end OpenFsd
