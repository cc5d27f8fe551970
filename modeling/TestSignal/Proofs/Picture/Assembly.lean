import TestSignal.Picture.Graph
import TestSignal.Proofs.Outcome
import TestSignal.Proofs.Picture.Wiring

namespace TestSignal

namespace Picture

/-!
# Assembling the picture

The picture is made of features in a fixed order, and each feature is a list of
steps of one kind: a stage on the line for each filter, or the stages of an
animation, or the overlay of a logo.  A feature that is not wanted has no steps.

The pads that a feature names are known from the configuration and the wired inputs
alone.  A whole picture is therefore described by its features and their pads, and
the wiring of its graph follows from that description, whatever the filters are.
-/

/-! ## Features -/

/-- The steps of one feature: they fit together, are of one kind and name known pads. -/
structure Feature (kind : String) (pads : List String) (steps : List Step) : Prop where
  threaded : Threaded false steps
  kinds : ∀ step ∈ steps, step.kind = kind
  own_pads : steps.flatMap Step.ownPads = pads

/-- A feature that is not wanted. -/
theorem Feature.none (kind : String) : Feature kind [] [] where
  threaded := .done
  kinds := by
    intro step member
    exact absurd member List.not_mem_nil
  own_pads := rfl

/-- A feature that draws each of some filters on the line. -/
theorem Feature.drawn (kind : String) (filters : List Filter) :
    Feature kind [] (filters.map fun filter => .onLine kind [filter]) where
  threaded := threaded_map_onLine kind filters
  kinds := by
    intro step member
    rcases List.mem_map.mp member with ⟨filter, _, rfl⟩
    rfl
  own_pads := by
    rw [List.flatMap_map]
    exact List.flatMap_eq_nil_iff.mpr fun filter _ => rfl

theorem Feature.single (kind : String) (filters : List Filter) :
    Feature kind [] [.onLine kind filters] where
  threaded := .along .done
  kinds := by
    intro step member
    rw [List.mem_singleton.mp member]
    rfl
  own_pads := rfl

/-- A feature that lays a wired picture over the line. -/
theorem Feature.overlay (kind pad : String) (filters : List Filter) :
    Feature kind [pad] [.onLine kind filters [.pad pad]] where
  threaded := .overlaid .done
  kinds := by
    intro step member
    rw [List.mem_singleton.mp member]
    rfl
  own_pads := rfl

/-- A feature that processes a wired picture beside the line and then lays it over it. -/
theorem Feature.beside (kind pad : String) (first second last : List Filter) :
    Feature kind [pad]
      [.beside kind [.pad pad] first, .beside kind [.latest] second,
        .onLine kind last [.latest]] where
  threaded := .aside (.further (.joined .done))
  kinds := by
    intro step member
    simp only [List.mem_cons, List.not_mem_nil, or_false] at member
    rcases member with rfl | rfl | rfl <;> rfl
  own_pads := rfl

/-! ## The pads of the features -/

/-- Whether a value names an animation. -/
def choosesAnimation (animation : Value) : Bool :=
  match animation with
  | .string id => (Animation.ofId? id).isSome
  | _ => false

/-- The wired pad of the animation, if one is chosen. -/
def animationPads (config : RawConfig) (inputs : Inputs) : List String :=
  if choosesAnimation config.animation then (wired inputs.animation).toList else []

/-- The wired pad of the logo, if it is shown. -/
def logoPads (config : RawConfig) (inputs : Inputs) : List String :=
  if config.showLogo.isOn then (wired inputs.logo).toList else []

/-- The pads of the selected inputs: the base, and those of the features asked for. -/
def selectedPads (config : RawConfig) (inputs : Inputs) : List String :=
  inputs.base :: (animationPads config inputs ++ logoPads config inputs)

/-- All pads that are wired to something. -/
def Inputs.wiredPads (inputs : Inputs) : List String :=
  inputs.base :: ((wired inputs.animation).toList ++ (wired inputs.logo).toList)

theorem selectedPads_sublist (config : RawConfig) (inputs : Inputs) :
    (selectedPads config inputs).Sublist inputs.wiredPads := by
  apply List.Sublist.cons_cons
  apply List.Sublist.append
  · unfold animationPads
    split
    · exact List.Sublist.refl _
    · exact List.nil_sublist _
  · unfold logoPads
    split
    · exact List.Sublist.refl _
    · exact List.nil_sublist _

/-! ## Each feature's steps -/

theorem feature_scaleSteps (format : Format) (background : Background) :
    Feature "base" [] (scaleSteps format background) := by
  unfold scaleSteps
  split
  · exact .none "base"
  · exact .single "base" _

theorem feature_textSteps {config : RawConfig} {fonts : Fonts} {host after : Host}
    {steps : List Step} (made : textSteps config fonts host = (.ok steps, after)) :
    Feature "txt" [] steps := by
  unfold textSteps at made
  split at made
  · rw [← (HostRun.pure_ok.mp made).1]
    exact .none "txt"
  · rcases HostRun.bind_ok.mp made with ⟨font, between, _, rest⟩
    rcases Outcome.bind_ok.mp (HostRun.ofExcept_ok.mp rest).1 with ⟨size, _, rest⟩
    rcases Outcome.bind_ok.mp rest with ⟨filters, _, rest⟩
    rw [← Outcome.pure_ok.mp rest]
    exact .drawn "txt" filters

theorem feature_squareSteps {format : Format} {pad : String} {steps : List Step}
    (made : squareSteps format pad = .ok steps) : Feature "anim" [pad] steps := by
  rcases Outcome.bind_ok.mp made with ⟨path, _, rest⟩
  rw [← Outcome.pure_ok.mp rest]
  exact .overlay "anim" pad _

theorem feature_staircasePulseSteps {format : Format} {pad : String} {steps : List Step}
    (made : staircasePulseSteps format pad = .ok steps) : Feature "anim" [pad] steps := by
  rcases Outcome.bind_ok.mp made with ⟨width, _, rest⟩
  rcases Outcome.bind_ok.mp rest with ⟨rounded, _, rest⟩
  rcases Outcome.bind_ok.mp rest with ⟨pulse, _, rest⟩
  rw [← Outcome.pure_ok.mp rest]
  exact .beside "anim" pad _ _ _

/-- The animation names its pad exactly when one is chosen and wired. -/
theorem feature_animationSteps {config : RawConfig} {format : Format} {inputs : Inputs}
    {steps : List Step}
    (made : animationSteps config.animation format inputs.animation = .ok steps) :
    Feature "anim" (animationPads config inputs) steps := by
  unfold animationSteps at made
  unfold animationPads choosesAnimation
  cases chosen : config.animation with
  | string id =>
      cases pad : wired inputs.animation with
      | none =>
          simp only [chosen, pad] at made
          rw [← Except.ok.inj made]
          simp only [Option.toList_none, ite_self]
          exact .none "anim"
      | some label =>
          simp only [chosen, pad] at made
          cases kind : Animation.ofId? id with
          | none =>
              simp only [kind] at made ⊢
              rw [← Except.ok.inj made]
              exact .none "anim"
          | some animation =>
              cases animation with
              | square =>
                  simp only [kind] at made ⊢
                  exact feature_squareSteps made
              | staircasePulse =>
                  simp only [kind] at made ⊢
                  exact feature_staircasePulseSteps made
  | null | bool _ | number _ | list _ | object _ =>
      simp only [chosen] at made
      rw [← Except.ok.inj made]
      exact .none "anim"

theorem feature_logoSteps (config : RawConfig) (inputs : Inputs) :
    Feature "logo" (logoPads config inputs) (logoSteps config inputs.logo) := by
  unfold logoSteps logoPads
  cases wired inputs.logo with
  | none =>
      simp only [Option.toList_none, ite_self]
      exact .none "logo"
  | some pad =>
      by_cases shown : config.showLogo.isOn = true
      · simp only [shown, if_true]
        exact .overlay "logo" pad _
      · simp only [shown]
        exact .none "logo"

theorem feature_clockSteps {config : RawConfig} {scene : Scene} {fonts : Fonts}
    {steps : List Step} (made : clockSteps config scene fonts = .ok steps) :
    Feature "clock" [] steps := by
  unfold clockSteps at made
  split at made
  · rw [← Outcome.pure_ok.mp made]
    exact .none "clock"
  · rcases Outcome.bind_ok.mp made with ⟨timing, _, rest⟩
    rcases Outcome.bind_ok.mp rest with ⟨filters, _, rest⟩
    rw [← Outcome.pure_ok.mp rest]
    exact .drawn "clock" filters

theorem feature_statusSteps {config : RawConfig} {scene : Scene} {fonts : Fonts}
    {steps : List Step} (made : statusSteps config scene fonts = .ok steps) :
    Feature "overlay" [] steps := by
  unfold statusSteps at made
  split at made
  · rw [← Outcome.pure_ok.mp made]
    exact .none "overlay"
  · rcases Outcome.bind_ok.mp made with ⟨lines, _, rest⟩
    rcases Outcome.bind_ok.mp rest with ⟨filters, _, rest⟩
    rw [← Outcome.pure_ok.mp rest]
    exact .drawn "overlay" filters

theorem feature_flashSteps {config : RawConfig} {scene : Scene} {fonts : Fonts}
    {steps : List Step} (made : flashSteps config scene fonts = .ok steps) :
    Feature "flash" [] steps := by
  unfold flashSteps at made
  split at made
  · rw [← Outcome.pure_ok.mp made]
    exact .none "flash"
  · rcases Outcome.bind_ok.mp made with ⟨filters, _, rest⟩
    rw [← Outcome.pure_ok.mp rest]
    exact .drawn "flash" filters

end Picture

end TestSignal
