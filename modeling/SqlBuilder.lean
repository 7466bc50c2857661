import SqlBuilder.Join.Decode
import SqlBuilder.Main
import SqlBuilder.Proofs.FilterPresence
import SqlBuilder.Proofs.WellFormed
import SqlBuilder.Proofs.ValidationSwitch
import SqlBuilder.Statement.Decode
import SqlBuilder.Proofs.ValueContents
import SqlBuilder.Proofs.Brackets
import SqlBuilder.Proofs.FilterTruth
import SqlBuilder.Proofs.DeclaredColumns
import SqlBuilder.Proofs.InsertedRow
import SqlBuilder.Proofs.JoinEntries
import SqlBuilder.Proofs.JoinOrigin
import SqlBuilder.Proofs.InferredLink
import SqlBuilder.Proofs.AddedTable
import SqlBuilder.Proofs.Spellings
import SqlBuilder.Proofs.AssignmentPresence
import SqlBuilder.Proofs.PointShorthand
import SqlBuilder.Proofs.WrittenNames
import SqlBuilder.Proofs.SelectedFields
import SqlBuilder.Proofs.LiteralReader
import SqlBuilder.Proofs.Composition
import SqlBuilder.Proofs.JoinOrder
import SqlBuilder.Proofs.Comparisons
import SqlBuilder.Proofs.NormalJoin
import SqlBuilder.Proofs.CanonicalJoin
import SqlBuilder.Proofs.CalendarText
import SqlBuilder.Proofs.PointAgreement
import SqlBuilder.Proofs.ExactIntegers
import SqlBuilder.Proofs.EditDistance
import SqlBuilder.Proofs.Suggestions
import SqlBuilder.Proofs.LowerCase
import SqlBuilder.Proofs.DocumentText
import SqlBuilder.Proofs.SchemaReload
