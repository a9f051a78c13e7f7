import Mathlib.Data.List.Basic

namespace OpenFsd
namespace Buffer

/-!
# Windows of a buffer

`slice` is the window between two positions, and `overwrite` replaces as many
items as it is given from a position on.  A window does not see a write
beside it, and a write that covers it exactly is all that it sees.
-/

universe u

variable {A : Type u}

/-- `buf[low:high]` -/
def slice (buf : List A) (low high : Nat) : List A :=
  (buf.take high).drop low

/-- `copy(buf[position:], items)`, where there is room. -/
def overwrite (buf : List A) (position : Nat) (items : List A) : List A :=
  buf.take position ++ items ++ buf.drop (position + items.length)

theorem length_slice {buf : List A} {high : Nat} (low : Nat) (within : high ≤ buf.length) :
    (slice buf low high).length = high - low := by
  unfold slice
  rw [List.length_drop, List.length_take, Nat.min_eq_left within]

theorem le_length_overwrite (buf : List A) (position : Nat) (items : List A) :
    buf.length ≤ (overwrite buf position items).length := by
  unfold overwrite
  simp only [List.length_append, List.length_take, List.length_drop]
  omega

theorem length_overwrite {buf : List A} {position : Nat} {items : List A}
    (room : position + items.length ≤ buf.length) :
    (overwrite buf position items).length = buf.length := by
  unfold overwrite
  simp only [List.length_append, List.length_take, List.length_drop]
  omega

/-! ## Single items -/

theorem getElem?_slice (buf : List A) (low high index : Nat) :
    (slice buf low high)[index]? = if low + index < high then buf[low + index]? else none := by
  unfold slice
  rw [List.getElem?_drop, List.getElem?_take]

theorem getElem?_overwrite {buf : List A} {position : Nat} (items : List A)
    (room : position ≤ buf.length) (index : Nat) :
    (overwrite buf position items)[index]? =
      if index < position then buf[index]?
      else if index < position + items.length then items[index - position]?
      else buf[index]? := by
  have length : (buf.take position).length = position := List.length_take_of_le room
  unfold overwrite
  by_cases before : index < position
  · rw [if_pos before, List.append_assoc, List.getElem?_append_left (by omega),
      List.getElem?_take_of_lt before]
  · rw [if_neg before, List.append_assoc, List.getElem?_append_right (by omega), length]
    by_cases inside : index < position + items.length
    · rw [if_pos inside, List.getElem?_append_left (by omega)]
    · rw [if_neg inside, List.getElem?_append_right (by omega), List.getElem?_drop]
      congr 1
      omega

/-! ## Windows -/

theorem slice_self (buf : List A) (position : Nat) : slice buf position position = [] :=
  List.drop_eq_nil_of_le (List.length_take_le position buf)

/-- Adjacent windows make up one. -/
theorem slice_append (buf : List A) {low middle high : Nat} (left : low ≤ middle)
    (right : middle ≤ high) (within : high ≤ buf.length) :
    slice buf low middle ++ slice buf middle high = slice buf low high := by
  have length := length_slice low (Nat.le_trans right within)
  apply List.ext_getElem?
  intro index
  by_cases first : index < middle - low
  · rw [List.getElem?_append_left (by omega), getElem?_slice, getElem?_slice, if_pos (by omega),
      if_pos (by omega)]
  · rw [List.getElem?_append_right (by omega), getElem?_slice, getElem?_slice, length]
    have position : middle + (index - (middle - low)) = low + index := by omega
    rw [position]

/-- A shorter window from the same position. -/
theorem slice_prefix (buf : List A) (low : Nat) {middle high : Nat} (right : middle ≤ high) :
    slice buf low middle = (slice buf low high).take (middle - low) := by
  apply List.ext_getElem?
  intro index
  rw [List.getElem?_take, getElem?_slice, getElem?_slice]
  by_cases inside : low + index < middle
  · rw [if_pos inside, if_pos (by omega), if_pos (by omega)]
  · rw [if_neg inside, if_neg (by omega)]

/-- A shorter window to the same position. -/
theorem slice_suffix (buf : List A) {low middle : Nat} (left : low ≤ middle) (high : Nat) :
    slice buf middle high = (slice buf low high).drop (middle - low) := by
  apply List.ext_getElem?
  intro index
  have position : low + (middle - low + index) = middle + index := by omega
  rw [List.getElem?_drop, getElem?_slice, getElem?_slice, position]

/-- A window sees exactly what is written over it. -/
theorem slice_overwrite {buf : List A} {position : Nat} (items : List A)
    (room : position ≤ buf.length) :
    slice (overwrite buf position items) position (position + items.length) = items := by
  apply List.ext_getElem?
  intro index
  rw [getElem?_slice, getElem?_overwrite items room]
  by_cases inside : index < items.length
  · rw [if_pos (by omega), if_neg (by omega), if_pos (by omega), Nat.add_sub_cancel_left]
  · rw [if_neg (by omega), List.getElem?_eq_none (by omega)]

/-- A window does not see what is written beside it. -/
theorem slice_overwrite_beside {buf : List A} {position low high : Nat} (items : List A)
    (room : position ≤ buf.length) (beside : high ≤ position ∨ position + items.length ≤ low) :
    slice (overwrite buf position items) low high = slice buf low high := by
  apply List.ext_getElem?
  intro index
  rw [getElem?_slice, getElem?_slice, getElem?_overwrite items room]
  by_cases inside : low + index < high
  · rw [if_pos inside, if_pos inside]
    by_cases before : low + index < position
    · rw [if_pos before]
    · rw [if_neg before, if_neg (by omega)]
  · rw [if_neg inside, if_neg inside]

end Buffer
end OpenFsd
