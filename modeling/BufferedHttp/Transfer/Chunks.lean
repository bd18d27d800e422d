import BufferedHttp.Text.Utf8

/-!
# A buffer in chunks of a fixed size

The cursor stands at an offset of its buffer. Every chunk has the fixed size, the last one what
remains; the number of chunks still to come is known at every point.
-/

namespace BufferedHttp

structure Chunks where
  buffer : Bytes
  size : Nat
  offset : Nat
  size_pos : 0 < size
  offset_le : offset ≤ buffer.length

namespace Chunks

def ofBytes (buffer : Bytes) (size : Nat) (pos : 0 < size) : Chunks :=
  ⟨buffer, size, 0, pos, Nat.zero_le _⟩

/-- The cursor at the start of a buffer; there is none for chunks of no bytes. -/
def ofBytes? (buffer : Bytes) (size : Nat) : Option Chunks :=
  if pos : 0 < size then some (ofBytes buffer size pos) else none

def stop (c : Chunks) : Nat := min (c.offset + c.size) c.buffer.length

def slice (c : Chunks) : Bytes := (c.buffer.drop c.offset).take (c.stop - c.offset)

def advance (c : Chunks) : Chunks :=
  { c with offset := c.stop, offset_le := Nat.min_le_right _ _ }

/-- The next chunk and the cursor behind it; `none` at the end, again and again. -/
def next? (c : Chunks) : Option (Bytes × Chunks) :=
  if c.offset < c.buffer.length then some (c.slice, c.advance) else none

/-- How many chunks are still to come. -/
def remaining (c : Chunks) : Nat := (c.buffer.length - c.offset + (c.size - 1)) / c.size

/-- The least and the greatest number of chunks still to come: both are exact. -/
def sizeHint (c : Chunks) : Nat × Option Nat := (c.remaining, some c.remaining)

theorem offset_lt_stop {c : Chunks} (h : c.offset < c.buffer.length) : c.offset < c.stop := by
  have := c.size_pos
  simp only [stop]
  omega

theorem length_slice {c : Chunks} (h : c.offset < c.buffer.length) :
    c.slice.length = min c.size (c.buffer.length - c.offset) := by
  simp only [slice, stop, List.length_take, List.length_drop]
  omega

def toList (c : Chunks) : List Bytes :=
  if h : c.offset < c.buffer.length then
    have := offset_lt_stop h
    c.slice :: c.advance.toList
  else
    []
  termination_by c.buffer.length - c.offset
  decreasing_by simp only [advance]; omega

end Chunks

end BufferedHttp
