import TargetDescription.Setting.Group
import TargetDescription.Text.Padded

/-!
# The layout report

The text that shows the layout of a settings group: sizes, the place and default of every setting,
and the numbered predicates.

* `SettingGroup.report` is the text.
-/

namespace TargetDescription

/-- The line of a setting. -/
def Setting.reportLine (setting : Setting) : String :=
  let start := "  " ++ Text.padRight 16 setting.name ++ " byte " ++ toString setting.byteOffset
  let detail := match setting.kind, setting.bitOffset with
    | .bool default, some bit =>
      " bit " ++ toString bit.val ++ " (default " ++ (if default then "true" else "false") ++ ")"
    | .bool _, none => ""
    | .num default, _ => " (default " ++ toString default.toNat ++ ")"
    | .enum values, _ => " [" ++ ", ".intercalate values ++ "]"
  start ++ detail ++ "\n"

/-- The lines of predicates numbered from `number` on. -/
def predicateLines (number : Nat) : List Predicate → List String
  | [] => []
  | predicate :: rest =>
    ("  predicate " ++ toString number ++ ": " ++ predicate.display ++ "\n")
      :: predicateLines (number + 1) rest

namespace SettingGroup

/-- The layout of the group as text. -/
def report (group : SettingGroup) : String :=
  let parent := match group.path.parentName? with
    | some parent => "  parent: " ++ parent ++ "\n"
    | none => ""
  "Settings group: " ++ group.name ++ "\n" ++ parent
    ++ "  settings_size: " ++ toString group.settingsSize ++ " bytes\n"
    ++ "  boolean_offset: " ++ toString group.booleanOffset ++ "\n"
    ++ String.join (group.settings.map Setting.reportLine)
    ++ String.join (predicateLines 0 group.numbering.items)

end SettingGroup

end TargetDescription
