import BufferedHttp.Proofs.Transfer.Chunks

/-!
# Drawing chunks one by one

A cursor is drawn from as often as one likes. Each draw gives the first of the chunks still to come
and leaves the others, so the count of those is right at every point, and at the end nothing comes
any more.
-/

namespace BufferedHttp.Chunks

/-- One draw: the next chunk and the cursor behind it. At the end the cursor stays. -/
def draw (c : Chunks) : Option Bytes × Chunks :=
  match c.next? with
  | some (chunk, behind) => (some chunk, behind)
  | none => (none, c)

/-- The cursor after so many draws. -/
def afterDraws (c : Chunks) : Nat → Chunks
  | 0 => c
  | k + 1 => c.draw.2.afterDraws k

theorem draw_of_lt {c : Chunks} (h : c.offset < c.buffer.length) :
    c.draw = (some c.slice, c.advance) := by
  rw [draw, next?, if_pos h]

theorem draw_of_le {c : Chunks} (h : c.buffer.length ≤ c.offset) : c.draw = (none, c) := by
  rw [draw, next?, if_neg (Nat.not_lt.mpr h)]

/-- What one draw gives and leaves of the chunks still to come. -/
theorem toList_draw (c : Chunks) : c.draw.1 = c.toList.head? ∧ c.draw.2.toList = c.toList.tail := by
  rcases Nat.lt_or_ge c.offset c.buffer.length with hOpen | hEnd
  · rw [draw_of_lt hOpen, toList_of_lt hOpen]
    exact ⟨rfl, rfl⟩
  · rw [draw_of_le hEnd, toList_of_le hEnd]
    exact ⟨rfl, rfl⟩

theorem toList_afterDraws (c : Chunks) (k : Nat) : (c.afterDraws k).toList = c.toList.drop k := by
  induction k generalizing c with
  | zero => rfl
  | succ k ih => rw [afterDraws, ih, (toList_draw c).2, List.drop_tail]

theorem draw_afterDraws (c : Chunks) (k : Nat) : (c.afterDraws k).draw.1 = c.toList[k]? := by
  rw [(toList_draw _).1, toList_afterDraws, List.head?_drop]

theorem sizeHint_afterDraws (c : Chunks) (k : Nat) :
    (c.afterDraws k).sizeHint = ((c.toList.drop k).length, some (c.toList.drop k).length) := by
  rw [sizeHint, ← length_toList, toList_afterDraws]

theorem toList_ofBytes_nil {size : Nat} (pos : 0 < size) : (ofBytes [] size pos).toList = [] :=
  toList_of_le (Nat.le_refl 0)

/-- The chunks of a buffer make it up, all full but the last, which is not empty. They are drawn in
order, the number of those to come is given exactly before and after every draw, and no draw
behind the end gives anything. -/
theorem drawn_exactly (buffer : Bytes) {size : Nat} (pos : 0 < size) :
    let start := ofBytes buffer size pos
    start.toList.flatten = buffer ∧
    (∀ chunk ∈ start.toList.dropLast, chunk.length = size) ∧
    (∀ chunk ∈ start.toList.getLast?, 1 ≤ chunk.length ∧ chunk.length ≤ size) ∧
    (buffer = [] → start.toList = []) ∧
    (∀ k, (start.afterDraws k).draw.1 = start.toList[k]?) ∧
    (∀ k, (start.afterDraws k).sizeHint =
      ((start.toList.drop k).length, some (start.toList.drop k).length)) ∧
    ∀ k, (start.afterDraws k).draw.1 = none →
      ∀ j, k ≤ j → (start.afterDraws j).draw.1 = none := by
  intro start
  refine ⟨flatten_toList start, length_of_mem_dropLast start, ?_, ?_, draw_afterDraws start,
    sizeHint_afterDraws start, ?_⟩
  · intro chunk hLast
    exact length_of_mem_toList start chunk (List.mem_of_getLast? hLast)
  · intro hEmpty
    simp only [start, hEmpty]
    exact toList_ofBytes_nil pos
  · intro k hNone j hLe
    rw [draw_afterDraws, List.getElem?_eq_none_iff] at hNone ⊢
    exact Nat.le_trans hNone hLe

/-- The last of three chunks is not full, and the fifth draw finds nothing like the fourth. -/
theorem five_bytes_drawn_in_twos :
    0 < 2 ∧ ((ofBytes [1, 2, 3, 4, 5] 2 (by decide)).afterDraws 2).draw.1 = some [5] ∧
      ((ofBytes [1, 2, 3, 4, 5] 2 (by decide)).afterDraws 2).sizeHint = (1, some 1) ∧
      ((ofBytes [1, 2, 3, 4, 5] 2 (by decide)).afterDraws 4).draw.1 = none := by
  have hList : (ofBytes [1, 2, 3, 4, 5] 2 (by decide)).toList = [[1, 2], [3, 4], [5]] := by
    decide +kernel
  obtain ⟨-, -, -, -, hDraws, hHints, hEnd⟩ := drawn_exactly [1, 2, 3, 4, 5] (by decide : 0 < 2)
  rw [hList] at hDraws hHints
  exact ⟨by decide, hDraws 2, hHints 2, hEnd 3 (hDraws 3) 4 (by decide)⟩

end BufferedHttp.Chunks
