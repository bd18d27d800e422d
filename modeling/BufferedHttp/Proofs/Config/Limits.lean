import BufferedHttp.Config

/-!
# Usable configurations

A configuration is valid when it has bounds to work with, and the bounds are its chunk sizes.
-/

namespace BufferedHttp.Config

variable {config : Config} {limits : Limits}

theorem validate_eq_ok_iff (config : Config) :
    config.validate = .ok () ↔ ∃ limits, config.limits = .ok limits := by
  rw [validate]
  cases config.limits <;> simp [Except.map]

theorem validate_eq_error_iff (config : Config) (fault : Fault) :
    config.validate = .error fault ↔ config.limits = .error fault := by
  rw [validate]
  cases config.limits <;> simp [Except.map]

theorem sizes_of_limits (h : config.limits = .ok limits) :
    limits.read = config.readChunkSize.toNat ∧ limits.write = config.writeChunkSize.toNat := by
  rw [Config.limits] at h
  split at h
  · split at h
    · cases h
      exact ⟨rfl, rfl⟩
    · cases h
  · cases h

theorem read_of_limits (h : config.limits = .ok limits) :
    limits.read = config.readChunkSize.toNat := (sizes_of_limits h).1

theorem write_of_limits (h : config.limits = .ok limits) :
    limits.write = config.writeChunkSize.toNat := (sizes_of_limits h).2

end BufferedHttp.Config
