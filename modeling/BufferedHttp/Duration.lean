/-!
# Durations

A duration is a number of seconds and of nanoseconds below one second. It is counted in
milliseconds, cut off below, or in nanoseconds; either count stops at the largest 64-bit word.
-/

namespace BufferedHttp

structure Duration where
  seconds : UInt64
  nanoseconds : Nat
  nanoseconds_lt : nanoseconds < 1000000000
  deriving DecidableEq

/-- The word of a count, or the largest word when the count is larger. -/
def saturated (n : Nat) : UInt64 :=
  if n < UInt64.size then UInt64.ofNat n else UInt64.ofNat (UInt64.size - 1)

theorem toNat_saturated (n : Nat) : (saturated n).toNat = min n (UInt64.size - 1) := by
  unfold saturated
  split <;> rw [UInt64.toNat_ofNat'] <;> simp only [UInt64.size] at * <;> omega

namespace Duration

def totalNanoseconds (d : Duration) : Nat := d.seconds.toNat * 1000000000 + d.nanoseconds

def ofMilliseconds (ms : UInt64) : Duration :=
  ⟨ms / 1000, ms.toNat % 1000 * 1000000, by omega⟩

/-- Whole milliseconds as a word. -/
def toMilliseconds (d : Duration) : UInt64 := saturated (d.totalNanoseconds / 1000000)

def toNanoseconds (d : Duration) : UInt64 := saturated d.totalNanoseconds

theorem totalNanoseconds_ofMilliseconds (ms : UInt64) :
    (ofMilliseconds ms).totalNanoseconds = ms.toNat * 1000000 := by
  simp only [ofMilliseconds, totalNanoseconds, UInt64.toNat_div, UInt64.reduceToNat]
  omega

end Duration

end BufferedHttp
