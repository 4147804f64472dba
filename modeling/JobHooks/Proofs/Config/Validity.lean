import JobHooks.Config.Validate

/-!
# Valid configurations

Validation passes a configuration on unchanged exactly if its plugin section is `Sound`
(`Config.validate_eq_ok_iff`): the endpoint names a socket, and no time that must not be zero is.
What is logged, and how, does not matter to it, and neither does how long a time is.
-/

namespace JobHooks

set_option autoImplicit false

/-- What validation asks of the section on the plugin daemon. -/
structure PluginConfig.Sound (plugin : PluginConfig) : Prop where
  socket : ∃ path, plugin.socketPath = .ok path
  positive : ∀ time ∈ plugin.positiveTimes, time.2 ≠ 0

namespace PluginConfig

variable {plugin : PluginConfig}

theorem zeroTime?_eq_none_iff :
    plugin.zeroTime? = none ↔ ∀ time ∈ plugin.positiveTimes, time.2 ≠ 0 := by
  simp only [zeroTime?, Option.map_eq_none_iff, List.find?_eq_none, beq_iff_eq, ne_eq]

/-- The defaults pass. -/
theorem sound_default : ({} : PluginConfig).Sound :=
  ⟨⟨"/run/crane/cplugind.sock", rfl⟩, by decide⟩

/-- A limit on calls that is set is one of the times that must not be zero. -/
theorem mem_positiveTimes_of_rpcTimeout {time : UInt64} (set : plugin.rpcTimeoutMs = some time) :
    (.rpcTimeout, time) ∈ plugin.positiveTimes := by
  simp [positiveTimes, set]

namespace Sound

theorem rpcTimeout_ne_zero (sound : plugin.Sound) {time : UInt64}
    (set : plugin.rpcTimeoutMs = some time) : time ≠ 0 :=
  sound.positive _ (mem_positiveTimes_of_rpcTimeout set)

/-- **Any limit on calls but zero does** where the other settings do. -/
theorem withRpcTimeout (sound : plugin.Sound) {time : UInt64} (positive : time ≠ 0) :
    { plugin with rpcTimeoutMs := some time }.Sound := by
  refine ⟨sound.socket, fun other member => ?_⟩
  simp only [positiveTimes, Option.map_some, Option.toList_some, List.mem_append,
    List.mem_singleton] at member
  rcases member with early | rfl
  · exact sound.positive other (List.mem_append_left _ early)
  · exact positive

end Sound

end PluginConfig

namespace Config

variable {config other : Config}

theorem fault?_eq_none_iff : config.fault? = none ↔ config.plugin.Sound := by
  unfold fault?
  constructor
  · intro faultless
    split at faultless
    · cases faultless
    · next path named =>
      exact ⟨⟨path, named⟩,
        PluginConfig.zeroTime?_eq_none_iff.mp (Option.map_eq_none_iff.mp faultless)⟩
  · rintro ⟨⟨path, named⟩, positive⟩
    simp only [named, PluginConfig.zeroTime?_eq_none_iff.mpr positive, Option.map_none]

/-- **Validation passes on exactly the sound configurations**, and does not change them. -/
theorem validate_eq_ok_iff :
    config.validate = .ok other ↔ other = config ∧ config.plugin.Sound := by
  rw [← fault?_eq_none_iff, validate]
  cases config.fault? with
  | none => simp [eq_comm]
  | some fault => simp

theorem validate_of_sound (sound : config.plugin.Sound) : config.validate = .ok config :=
  validate_eq_ok_iff.mpr ⟨rfl, sound⟩

end Config

end JobHooks
