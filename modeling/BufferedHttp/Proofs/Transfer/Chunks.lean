import BufferedHttp.Transfer.Fill

/-!
# Chunks make up their buffer

The chunks still to come are the buffer from the offset of the cursor on. Every one of them is
full but the last, which is not empty, so their number is a division that rounds up.
-/

namespace BufferedHttp

namespace Chunks

theorem toList_of_lt {c : Chunks} (h : c.offset < c.buffer.length) :
    c.toList = c.slice :: c.advance.toList := by
  rw [toList, dif_pos h]

theorem toList_of_le {c : Chunks} (h : c.buffer.length ≤ c.offset) : c.toList = [] := by
  rw [toList, dif_neg (Nat.not_lt.mpr h)]

theorem flatten_toList (c : Chunks) : c.toList.flatten = c.buffer.drop c.offset := by
  induction c using toList.induct with
  | case1 c hOpen hStop ih =>
    have hJoin : c.buffer.drop c.stop = (c.buffer.drop c.offset).drop (c.stop - c.offset) := by
      rw [List.drop_drop, Nat.add_sub_of_le (Nat.le_of_lt hStop)]
    rw [toList_of_lt hOpen, List.flatten_cons, ih]
    simp only [advance]
    rw [hJoin, slice, List.take_append_drop]
  | case2 c hClosed =>
    have hEnd := Nat.le_of_not_lt hClosed
    rw [toList_of_le hEnd, List.drop_eq_nil_of_le hEnd, List.flatten_nil]

theorem remaining_of_lt {c : Chunks} (h : c.offset < c.buffer.length) :
    c.remaining = c.advance.remaining + 1 := by
  have hSize := c.size_pos
  simp only [remaining, advance, stop]
  rcases Nat.lt_or_ge (c.offset + c.size) c.buffer.length with hMore | hLast
  · have hSplit : c.buffer.length - c.offset + (c.size - 1) =
        c.buffer.length - (c.offset + c.size) + (c.size - 1) + c.size := by omega
    rw [Nat.min_eq_left (Nat.le_of_lt hMore), hSplit, Nat.add_div_right _ hSize]
  · have hSplit : c.buffer.length - c.offset + (c.size - 1) =
        c.buffer.length - c.offset - 1 + c.size := by omega
    rw [Nat.min_eq_right hLast, hSplit, Nat.add_div_right _ hSize, Nat.sub_self, Nat.zero_add,
      Nat.div_eq_of_lt (by omega), Nat.div_eq_of_lt (by omega)]

theorem remaining_of_le {c : Chunks} (h : c.buffer.length ≤ c.offset) : c.remaining = 0 := by
  have hSize := c.size_pos
  rw [remaining, Nat.sub_eq_zero_of_le h, Nat.zero_add, Nat.div_eq_of_lt (by omega)]

theorem length_toList (c : Chunks) : c.toList.length = c.remaining := by
  induction c using toList.induct with
  | case1 c hOpen hStop ih => rw [toList_of_lt hOpen, List.length_cons, ih, remaining_of_lt hOpen]
  | case2 c hClosed =>
    have hEnd := Nat.le_of_not_lt hClosed
    rw [toList_of_le hEnd, remaining_of_le hEnd, List.length_nil]

theorem length_of_mem_toList (c : Chunks) :
    ∀ chunk ∈ c.toList, 0 < chunk.length ∧ chunk.length ≤ c.size := by
  induction c using toList.induct with
  | case1 c hOpen hStop ih =>
    have hSize := c.size_pos
    intro chunk hChunk
    rw [toList_of_lt hOpen, List.mem_cons] at hChunk
    rcases hChunk with rfl | hChunk
    · rw [length_slice hOpen]
      omega
    · exact ih chunk hChunk
  | case2 c hClosed =>
    intro chunk hChunk
    rw [toList_of_le (Nat.le_of_not_lt hClosed)] at hChunk
    cases hChunk

theorem length_of_mem_dropLast (c : Chunks) :
    ∀ chunk ∈ c.toList.dropLast, chunk.length = c.size := by
  induction c using toList.induct with
  | case1 c hOpen hStop ih =>
    intro chunk hChunk
    rw [toList_of_lt hOpen] at hChunk
    rcases Nat.lt_or_ge c.stop c.buffer.length with hMore | hLast
    · -- another chunk follows, so this one does not reach the end of the buffer
      have hFollows : c.advance.toList ≠ [] := by
        rw [toList_of_lt hMore]
        exact List.cons_ne_nil _ _
      rw [List.dropLast_cons_of_ne_nil hFollows, List.mem_cons] at hChunk
      rcases hChunk with rfl | hChunk
      · rw [length_slice hOpen]
        rw [stop] at hMore
        omega
      · exact ih chunk hChunk
    · rw [toList_of_le (c := c.advance) hLast] at hChunk
      cases hChunk
  | case2 c hClosed =>
    intro chunk hChunk
    rw [toList_of_le (Nat.le_of_not_lt hClosed)] at hChunk
    cases hChunk

end Chunks

/-- Chunks that make up the bytes, as few as their size allows. -/
structure Cuts (size : Nat) (bytes : Bytes) (chunks : List Bytes) : Prop where
  flatten : chunks.flatten = bytes
  length : chunks.length = (bytes.length + (size - 1)) / size
  full : ∀ chunk ∈ chunks.dropLast, chunk.length = size
  bounded : ∀ chunk ∈ chunks, 0 < chunk.length ∧ chunk.length ≤ size

theorem cuts_chunked {size : Nat} (pos : 0 < size) (bytes : Bytes) :
    Cuts size bytes (chunked pos bytes) where
  flatten := Chunks.flatten_toList _
  length := Chunks.length_toList _
  full := Chunks.length_of_mem_dropLast _
  bounded := Chunks.length_of_mem_toList _

namespace Cuts

variable {size k : Nat} {bytes : Bytes} {chunks : List Bytes}

/-- Chunks that another one follows are full. -/
theorem lengths_take (h : Cuts size bytes chunks) (hLt : k < chunks.length) :
    (chunks.take k).map List.length = List.replicate k size := by
  rw [List.eq_replicate_iff, List.length_map, List.length_take, Nat.min_eq_left (Nat.le_of_lt hLt)]
  refine ⟨rfl, ?_⟩
  intro n hn
  obtain ⟨chunk, hChunk, rfl⟩ := List.mem_map.mp hn
  apply h.full chunk
  rw [List.dropLast_eq_take]
  exact (List.take_prefix_take_left (by omega)).subset hChunk

theorem flatten_take (h : Cuts size bytes chunks) (hLt : k < chunks.length) :
    (chunks.take k).flatten = bytes.take (k * size) := by
  have hLength : (chunks.take k).flatten.length = k * size := by
    rw [List.length_flatten, h.lengths_take hLt, List.sum_replicate_nat]
  have hSplit : bytes = (chunks.take k).flatten ++ (chunks.drop k).flatten := by
    rw [← List.flatten_append, List.take_append_drop, h.flatten]
  rw [hSplit, List.take_left' hLength]

end Cuts

theorem flatten_chunked {size : Nat} (pos : 0 < size) (bytes : Bytes) :
    (chunked pos bytes).flatten = bytes := (cuts_chunked pos bytes).flatten

end BufferedHttp
