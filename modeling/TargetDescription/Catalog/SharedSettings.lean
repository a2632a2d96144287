import TargetDescription.Catalog.Basic

/-!
# Shared settings

The settings that matter to every code generator; the groups of targets extend this group.

* `SharedSettings.declare` declares the group in a catalog.
-/

namespace TargetDescription.SharedSettings

/-- The name of the group. -/
def groupName : String := "shared"

/-- The settings of the group. -/
def declarations : List SettingDeclaration :=
  [⟨"opt_level",
      "Optimization level:\n\n- default: Very profitable optimizations enabled, none slow.\n"
        ++ "- best: Enable all optimizations\n"
        ++ "- fastest: Optimize for compile time by disabling most optimizations.",
      .enum ["default", "best", "fastest"]⟩,
    ⟨"is_64bit", "Enable 64-bit code generation", .bool false⟩,
    ⟨"enable_float", "Enable the use of floating-point instructions", .bool true⟩,
    ⟨"enable_simd", "Enable the use of SIMD instructions.", .bool true⟩,
    ⟨"enable_atomics", "Enable the use of atomic instructions", .bool true⟩]

/-- Declares the settings in order. -/
def declareAll (group : OpenSettingGroup) :
    List SettingDeclaration → Outcome OpenSettingGroup Unit
  | [] => .ok () group
  | declaration :: rest =>
    (group.declare declaration.name declaration.doc declaration.kind).andThen
      fun _ group => declareAll group rest

/-- Opens the group, declares its settings and closes it. -/
def declare (catalog : Catalog) (stamp : Stamp) : Outcome Catalog SettingGroup :=
  (catalog.openSettings stamp groupName none).andThen fun group catalog =>
    let declared := declareAll group declarations
    match declared.result with
    | .error error => .fail error catalog
    | .ok () => catalog.closeSettings declared.state

end TargetDescription.SharedSettings
