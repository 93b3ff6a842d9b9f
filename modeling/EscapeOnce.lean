import EscapeOnce.Main
import EscapeOnce.Operand.Holding
import EscapeOnce.OutputMode.Document
import EscapeOnce.Proofs.Command.NamedArguments
import EscapeOnce.Proofs.Command.TrustBoundary
import EscapeOnce.Proofs.Element.OpeningTag
import EscapeOnce.Proofs.Number.General
import EscapeOnce.Proofs.Number.Grouping
import EscapeOnce.Proofs.Operand.Paths
import EscapeOnce.Proofs.Page.Assembly
import EscapeOnce.Proofs.SafeText.Casing
import EscapeOnce.Proofs.SafeText.Probes
import EscapeOnce.Proofs.SafeText.Repetition
import EscapeOnce.Proofs.SafeText.Replacement
import EscapeOnce.Proofs.SafeText.Run
import EscapeOnce.Proofs.ScriptSource.EndTags
import EscapeOnce.Proofs.Specifier.IntegerLayout
import EscapeOnce.Proofs.Specifier.VisibleWidth
import EscapeOnce.Proofs.Substitution.Consumption
import EscapeOnce.Proofs.Substitution.Doubling
import EscapeOnce.Proofs.Substitution.ExactlyOnce
import EscapeOnce.Proofs.Substitution.KeyedAccess
import EscapeOnce.Proofs.Substitution.Numbering
import EscapeOnce.Proofs.Substitution.Styles
import EscapeOnce.Proofs.Substitution.WholeNumbers
import EscapeOnce.Proofs.Url.Query
import EscapeOnce.Proofs.Value.Equality
import EscapeOnce.Proofs.Value.Representation
import EscapeOnce.SafeText.Repetition
import EscapeOnce.ScriptSource
import EscapeOnce.Value.Description
