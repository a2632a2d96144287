import TargetDescription.Catalog.Basic
import TargetDescription.Catalog.SharedSettings
import TargetDescription.Catalog.Statistics
import TargetDescription.CommandLine
import TargetDescription.Encoding.Basic
import TargetDescription.Encoding.Target
import TargetDescription.Error
import TargetDescription.Format.Basic
import TargetDescription.Format.Registry
import TargetDescription.Instruction.Basic
import TargetDescription.Instruction.Binding
import TargetDescription.Instruction.Group
import TargetDescription.Instruction.Polymorphism
import TargetDescription.Main
import TargetDescription.Numbering
import TargetDescription.Operand.Basic
import TargetDescription.Operand.Kind
import TargetDescription.Outcome
import TargetDescription.Pattern.Basic
import TargetDescription.Pattern.Mention
import TargetDescription.Pattern.Symbols
import TargetDescription.Pattern.Transformation
import TargetDescription.Predicate.Basic
import TargetDescription.Predicate.Context
import TargetDescription.Proofs.Catalog.Account
import TargetDescription.Proofs.Catalog.OpenGroups
import TargetDescription.Proofs.Catalog.Recall
import TargetDescription.Proofs.Catalog.Refusals
import TargetDescription.Proofs.Catalog.Registries
import TargetDescription.Proofs.Catalog.Workbench
import TargetDescription.Proofs.Catalog.Workshop
import TargetDescription.Proofs.Encoding.FieldPredicate
import TargetDescription.Proofs.Encoding.Finish
import TargetDescription.Proofs.Encoding.FirstUse
import TargetDescription.Proofs.Encoding.FullTypes
import TargetDescription.Proofs.Format.Lookup
import TargetDescription.Proofs.Format.Members
import TargetDescription.Proofs.Format.Signatures
import TargetDescription.Proofs.Instruction.Binding
import TargetDescription.Proofs.Instruction.Control
import TargetDescription.Proofs.Instruction.Governs
import TargetDescription.Proofs.Instruction.Inference
import TargetDescription.Proofs.Instruction.Refusals
import TargetDescription.Proofs.Numbering
import TargetDescription.Proofs.Occurrence
import TargetDescription.Proofs.Operand.KindNames
import TargetDescription.Proofs.Pattern.History
import TargetDescription.Proofs.Pattern.Legalization
import TargetDescription.Proofs.Pattern.Order
import TargetDescription.Proofs.Pattern.Refusals
import TargetDescription.Proofs.Pattern.Resolution
import TargetDescription.Proofs.Pattern.Scope
import TargetDescription.Proofs.Pattern.SingleInstruction
import TargetDescription.Proofs.Predicate.Compatibility
import TargetDescription.Proofs.Predicate.Conjunction
import TargetDescription.Proofs.Setting.DefaultBytes
import TargetDescription.Proofs.Setting.Evaluation
import TargetDescription.Proofs.Setting.Growth
import TargetDescription.Proofs.Setting.Handles
import TargetDescription.Proofs.Setting.Layout
import TargetDescription.Proofs.Setting.Leaves
import TargetDescription.Proofs.Setting.Placement
import TargetDescription.Proofs.Setting.Requests
import TargetDescription.Proofs.Text.CamelCase
import TargetDescription.Proofs.ValueType.Numbers
import TargetDescription.Proofs.ValueType.OwnLanes
import TargetDescription.Proofs.ValueType.Requests
import TargetDescription.Setting.Basic
import TargetDescription.Setting.Group
import TargetDescription.Setting.Layout
import TargetDescription.Setting.Open
import TargetDescription.Setting.Path
import TargetDescription.Setting.Report
import TargetDescription.Stamp
import TargetDescription.Table
import TargetDescription.Text.Blank
import TargetDescription.Text.CamelCase
import TargetDescription.Text.Padded
import TargetDescription.TypeVar
import TargetDescription.ValueType.Basic
import TargetDescription.ValueType.Registry
