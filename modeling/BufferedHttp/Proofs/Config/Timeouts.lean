import BufferedHttp.Proofs.Component.Handing

/-!
# Timeouts on their way to the host

A timeout is kept as whole milliseconds and handed on as the duration of these; the component host
gets it in nanoseconds. Both counts are words that stop at the largest one. So what the host gets
is never longer than what was asked for, and shorter by less than a millisecond unless a count
stopped.
-/

namespace BufferedHttp

namespace Duration

/-- The duration that a host is given for a timeout. -/
def forwarded (d : Duration) : Duration := ofMilliseconds d.toMilliseconds

theorem toNat_toMilliseconds (d : Duration) :
    d.toMilliseconds.toNat = min (d.totalNanoseconds / 1000000) (UInt64.size - 1) :=
  toNat_saturated _

theorem toNat_toNanoseconds (d : Duration) :
    d.toNanoseconds.toNat = min d.totalNanoseconds (UInt64.size - 1) := toNat_saturated _

theorem totalNanoseconds_forwarded (d : Duration) :
    d.forwarded.totalNanoseconds =
      min (d.totalNanoseconds / 1000000) (UInt64.size - 1) * 1000000 := by
  rw [forwarded, totalNanoseconds_ofMilliseconds, toNat_toMilliseconds]

/-- A count of milliseconds that stopped is beyond the largest count of nanoseconds. -/
theorem toNat_toNanoseconds_forwarded (d : Duration) :
    d.forwarded.toNanoseconds.toNat =
      min (1000000 * (d.totalNanoseconds / 1000000)) (UInt64.size - 1) := by
  rw [toNat_toNanoseconds, totalNanoseconds_forwarded]
  omega

/-- Every number on the way from a duration to nanoseconds fits what holds it: the two counts have
128 bits before they are cut to a word, the nanoseconds below a second have 32. -/
structure Fits (d : Duration) : Prop where
  milliseconds : d.seconds.toNat * 1000 + d.nanoseconds / 1000000 < UInt64.size * UInt64.size
  milliseconds_eq :
    d.seconds.toNat * 1000 + d.nanoseconds / 1000000 = d.totalNanoseconds / 1000000
  subsecond : d.toMilliseconds.toNat % 1000 * 1000000 < UInt32.size
  nanoseconds : d.forwarded.totalNanoseconds < UInt64.size * UInt64.size

theorem fits (d : Duration) : d.Fits := by
  have hSeconds := d.seconds.toNat_lt
  have hNanoseconds := d.nanoseconds_lt
  constructor
  case milliseconds =>
    rw [UInt64.size]
    omega
  case milliseconds_eq =>
    rw [totalNanoseconds]
    omega
  case subsecond =>
    rw [UInt32.size]
    omega
  case nanoseconds =>
    rw [totalNanoseconds_forwarded, UInt64.size]
    omega

/-- What a host is given for a timeout, as a duration and in nanoseconds, against the timeout. -/
structure Survives (d : Duration) : Prop where
  forwarded_eq :
    d.forwarded.totalNanoseconds = min (d.totalNanoseconds / 1000000) (UInt64.size - 1) * 1000000
  nanoseconds_eq :
    d.forwarded.toNanoseconds.toNat =
      min (1000000 * (d.totalNanoseconds / 1000000)) (UInt64.size - 1)
  forwarded_le : d.forwarded.totalNanoseconds ≤ d.totalNanoseconds
  nanoseconds_le : d.forwarded.toNanoseconds.toNat ≤ d.totalNanoseconds
  forwarded_near : d.totalNanoseconds / 1000000 ≤ UInt64.size - 1 →
    d.totalNanoseconds < d.forwarded.totalNanoseconds + 1000000
  nanoseconds_near : 1000000 * (d.totalNanoseconds / 1000000) ≤ UInt64.size - 1 →
    d.totalNanoseconds < d.forwarded.toNanoseconds.toNat + 1000000

theorem survives (d : Duration) : d.Survives := by
  have hForwarded := totalNanoseconds_forwarded d
  have hNanoseconds := toNat_toNanoseconds_forwarded d
  constructor
  case forwarded_eq => exact hForwarded
  case nanoseconds_eq => exact hNanoseconds
  case forwarded_le => omega
  case nanoseconds_le => omega
  case forwarded_near =>
    intro hUnclipped
    omega
  case nanoseconds_near =>
    intro hUnclipped
    omega

theorem forwarded_mono {d e : Duration} (h : d.totalNanoseconds ≤ e.totalNanoseconds) :
    d.forwarded.totalNanoseconds ≤ e.forwarded.totalNanoseconds ∧
      d.forwarded.toNanoseconds.toNat ≤ e.forwarded.toNanoseconds.toNat := by
  rw [toNat_toNanoseconds, toNat_toNanoseconds, totalNanoseconds_forwarded,
    totalNanoseconds_forwarded]
  constructor <;> omega

end Duration

namespace Config

theorem requestOptions_withTimeouts (c : Config)
    (connect firstByte betweenBytes : Option Duration) :
    (c.withTimeouts connect firstByte betweenBytes).requestOptions =
      if connect = none ∧ firstByte = none ∧ betweenBytes = none then none
      else some ⟨connect.map Duration.forwarded, firstByte.map Duration.forwarded,
        betweenBytes.map Duration.forwarded⟩ := by
  cases connect <;> cases firstByte <;> cases betweenBytes <;> rfl

/-- Timeouts are handed on, each in its place, when there is one at all, even one of zero; and a
component host that takes a request gets them in nanoseconds. -/
theorem timeouts_survive (c : Config) (connect firstByte betweenBytes : Option Duration) :
    ((c.withTimeouts connect firstByte betweenBytes).requestOptions = none ↔
      connect = none ∧ firstByte = none ∧ betweenBytes = none) ∧
    (∀ options, (c.withTimeouts connect firstByte betweenBytes).requestOptions = some options →
      options = ⟨connect.map Duration.forwarded, firstByte.map Duration.forwarded,
        betweenBytes.map Duration.forwarded⟩ ∧
      ∀ (head : RequestHead) (w : Component.World),
        (w.asks head (some options)).findSome? Component.Ask.refusal = none →
        ((Component.handleRequest head (some options)).after w).sent =
          w.sent ++ [⟨.ofMessage head.method, some (.ofMessage head.scheme), some head.authority,
            some head.pathWithQuery, head.headers,
            some ⟨connect.map fun d => d.forwarded.toNanoseconds,
              firstByte.map fun d => d.forwarded.toNanoseconds,
              betweenBytes.map fun d => d.forwarded.toNanoseconds⟩⟩]) ∧
    (∀ d : Duration, d.Survives ∧ d.Fits) ∧
    ∀ d e : Duration, d.totalNanoseconds ≤ e.totalNanoseconds →
      d.forwarded.totalNanoseconds ≤ e.forwarded.totalNanoseconds ∧
        d.forwarded.toNanoseconds.toNat ≤ e.forwarded.toNanoseconds.toNat := by
  rw [requestOptions_withTimeouts]
  refine ⟨?_, ?_, fun d => ⟨d.survives, d.fits⟩, fun d e => Duration.forwarded_mono⟩
  · split <;> simp_all
  · intro options hOptions
    split at hOptions
    · cases hOptions
    · cases hOptions
      refine ⟨rfl, ?_⟩
      intro head w hAccepted
      rw [Component.sent_of_accepted hAccepted]
      simp only [Component.Sent.ofHead, Component.Timeouts.ofOptions, Option.map_some,
        Option.map_map, Function.comp_def]

/-- The longest timeout stops at the largest word in both counts; one of zero is handed on. -/
theorem longest_and_zero_timeouts_survive :
    let longest : Duration := ⟨0xFFFFFFFFFFFFFFFF, 999999999, by decide⟩
    let zero : Duration := ⟨0, 0, by decide⟩
    let options : RequestOptions := ⟨some (.ofMilliseconds 0xFFFFFFFFFFFFFFFF), some zero, none⟩
    (default.withTimeouts (some longest) (some zero) none).requestOptions = some options ∧
    ((Component.handleRequest ⟨.get, .http, "a", "/", []⟩ (some options)).after
        ⟨[], 0, [], [], [], [], 0, 0, [], [], []⟩).sent =
      [⟨.get, some .http, some "a", some "/", [],
        some ⟨some 0xFFFFFFFFFFFFFFFF, some 0, none⟩⟩] ∧
    zero.forwarded.toNanoseconds.toNat ≤ longest.forwarded.toNanoseconds.toNat := by
  intro longest zero options
  obtain ⟨-, hForwarded, -, hMono⟩ := timeouts_survive default (some longest) (some zero) none
  have hOptions :
      (default.withTimeouts (some longest) (some zero) none).requestOptions = some options := by
    decide +kernel
  obtain ⟨-, hSent⟩ := hForwarded options hOptions
  have hReached := hSent ⟨.get, .http, "a", "/", []⟩ ⟨[], 0, [], [], [], [], 0, 0, [], [], []⟩ rfl
  exact ⟨hOptions, hReached.trans (by decide +kernel), (hMono zero longest (by decide)).2⟩

end Config

end BufferedHttp
