/-
# Laying bytes over a buffer

`overlay buffer start items` is the buffer with `items` in place of what was there from `start`
on.  Everything that is stored or copied goes through it: a write to the contents, bytes taken over
from the bus, a buffer filled on a read.

Items that would reach past the end are dropped.  So the buffer never changes its length
(`length_overlay`), whatever is laid over it and wherever, and no bound has to be shown before it is
used; what was dropped is for the caller to count.  Each place reads as the new item where there is
one and as the old one elsewhere (`getElem?_overlay`), which determines the buffer, so most of the
other lemmas follow from it place by place.

They say when the dropping does not show: items that would be dropped may be left out before
(`overlay_take`), items that fit are read back from where they were laid (`take_drop_overlay`), and
what is laid in two parts, one behind the other, is the same as what is laid in one
(`overlay_append`), also if the second part is cut or lies beyond the end altogether.
-/
namespace SerialEeprom

variable {α : Type}

/-- The buffer with `items` laid over it from `start` on, as far as they fit.  A start beyond the
end is no error: nothing fits there. -/
def overlay (buffer : List α) (start : Nat) (items : List α) : List α :=
  let kept := items.take (buffer.length - start)
  buffer.take start ++ kept ++ buffer.drop (start + kept.length)

@[simp] theorem length_overlay (buffer : List α) (start : Nat) (items : List α) :
    (overlay buffer start items).length = buffer.length := by
  simp only [overlay, List.length_append, List.length_take, List.length_drop]
  omega

@[simp] theorem overlay_nil (buffer : List α) (start : Nat) : overlay buffer start [] = buffer := by
  simp [overlay]

theorem getElem?_overlay (buffer : List α) (start : Nat) (items : List α) (i : Nat) :
    (overlay buffer start items)[i]? =
      if start ≤ i ∧ i < start + items.length ∧ i < buffer.length then items[i - start]?
      else buffer[i]? := by
  by_cases hb : i < buffer.length
  · by_cases hs : start ≤ i
    · by_cases hi : i < start + items.length
      · rw [if_pos ⟨hs, hi, hb⟩, overlay, List.append_assoc, List.getElem?_append_right,
          List.getElem?_append_left]
        · simp only [List.length_take, Nat.min_eq_left (Nat.le_of_lt (Nat.lt_of_le_of_lt hs hb))]
          rw [List.getElem?_take_of_lt (by omega)]
        · simp only [List.length_take]; omega
        · simp only [List.length_take]; omega
      · rw [if_neg (by omega), overlay, List.getElem?_append_right, List.getElem?_drop]
        · simp only [List.length_append, List.length_take]
          congr 1; omega
        · simp only [List.length_append, List.length_take]; omega
    · rw [if_neg (by omega), overlay, List.append_assoc, List.getElem?_append_left,
        List.getElem?_take_of_lt (by omega)]
      simp only [List.length_take]; omega
  · rw [if_neg (by omega), List.getElem?_eq_none (by rw [length_overlay]; omega),
      List.getElem?_eq_none (by omega)]

/-- Items that would be dropped may be left out before. -/
theorem overlay_take (buffer : List α) {start kept : Nat} (items : List α)
    (h : min kept items.length = min (buffer.length - start) items.length) :
    overlay buffer start (items.take kept) = overlay buffer start items := by
  have htake : items.take kept = items.take (buffer.length - start) := List.take_eq_take_iff.2 h
  simp only [overlay, htake, List.take_take, Nat.min_self]

/-- Items that all fit can be read back from where they were laid. -/
theorem take_drop_overlay {buffer items : List α} {start : Nat}
    (h : start + items.length ≤ buffer.length) :
    ((overlay buffer start items).drop start).take items.length = items := by
  have hkept : items.take (buffer.length - start) = items := List.take_of_length_le (by omega)
  have hstart : (buffer.take start).length = start := List.length_take_of_le (by omega)
  rw [overlay, hkept, List.append_assoc, List.drop_left' hstart]
  exact List.take_left ..

/-- Items laid behind the end are all dropped.  The first place behind the last one counts as behind
the end. -/
theorem overlay_of_le {buffer : List α} {start : Nat} (h : buffer.length ≤ start)
    (items : List α) : overlay buffer start items = buffer := by
  have hnone : buffer.length - start = 0 := Nat.sub_eq_zero_of_le h
  rw [overlay, hnone, List.take_zero, List.append_nil]
  exact List.take_append_drop start buffer

/-- Items may be laid in two parts, the second behind the first.  A write in pieces comes to the
same as one write, for this reason. -/
theorem overlay_append (buffer : List α) (start : Nat) (first second : List α) :
    overlay (overlay buffer start first) (start + first.length) second
      = overlay buffer start (first ++ second) := by
  apply List.ext_getElem?
  intro i
  simp only [getElem?_overlay, length_overlay, List.length_append]
  by_cases hsecond : start + first.length ≤ i
  · have hplace : i - (start + first.length) = i - start - first.length := by omega
    by_cases hin : i < start + first.length + second.length ∧ i < buffer.length
    · rw [if_pos ⟨hsecond, hin⟩, if_pos (by omega), List.getElem?_append_right (by omega), hplace]
    · rw [if_neg (by omega), if_neg (by omega), if_neg (by omega)]
  · rw [if_neg (by omega)]
    by_cases hin : start ≤ i ∧ i < buffer.length
    · rw [if_pos (by omega), if_pos (by omega), List.getElem?_append_left (by omega)]
    · rw [if_neg (by omega), if_neg (by omega)]

theorem take_overlay_zero {buffer items : List α} (h : items.length ≤ buffer.length) :
    (overlay buffer 0 items).take items.length = items := by
  have hfits : 0 + items.length ≤ buffer.length := by omega
  exact take_drop_overlay hfits

/-- Items that fill the whole buffer leave nothing of it. -/
theorem overlay_of_length_eq {buffer items : List α} (h : items.length = buffer.length) :
    overlay buffer 0 items = items := by
  have htake := take_overlay_zero (Nat.le_of_eq h)
  rwa [h, ← length_overlay buffer 0 items, List.take_length] at htake

end SerialEeprom
