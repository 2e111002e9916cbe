import MappedSql.Declaration.Outline
import MappedSql.Draft.Update
import MappedSql.Draft.Insert
import MappedSql.Json
import MappedSql.Sample
import MappedSql.Script
import MappedSql.Settings
import MappedSql.Value.Inspect
import MappedSql.Proofs.Lexer
import MappedSql.Proofs.LiteralTokens
import MappedSql.Proofs.FragmentTokens
import MappedSql.Proofs.Phrases
import MappedSql.Proofs.Cutting
import MappedSql.Proofs.Predicates
import MappedSql.Proofs.StatedConditions
import MappedSql.Proofs.DraftRuns
import MappedSql.Proofs.Where
import MappedSql.Proofs.Accumulation
import MappedSql.Proofs.Registration
import MappedSql.Proofs.StepEffects
import MappedSql.Proofs.Joins
import MappedSql.Proofs.JoinedSources
import MappedSql.Proofs.Passages
import MappedSql.Proofs.UpdateText
import MappedSql.Proofs.PinnedRows
import MappedSql.Proofs.SetTargets
import MappedSql.Proofs.RegistrationRuns
import MappedSql.Proofs.StableFragments
import MappedSql.Proofs.ItemLists
import MappedSql.Proofs.InsertText
import MappedSql.Proofs.MergeText
import MappedSql.Proofs.StoredComparisons
import MappedSql.Proofs.Refusals
import MappedSql.Proofs.OrdinaryFaults
import MappedSql.Proofs.KeptTargets
import MappedSql.Proofs.BlankTexts
import MappedSql.Proofs.GuardedRows
import MappedSql.Proofs.SingleRows
import MappedSql.Proofs.InjectedValues
import MappedSql.Proofs.IndependentSteps
import MappedSql.Proofs.AcceptedMappings
import MappedSql.Proofs.DistinctTargets
import MappedSql.Proofs.BracketedNames
import MappedSql.Proofs.WrittenComparisons
import MappedSql.Proofs.RefusedSteps
import MappedSql.Proofs.DeclaredSettings
import MappedSql.Proofs.MembershipTruth
import MappedSql.Proofs.GuardedUpdates
import MappedSql.Proofs.DescribedMembers
import MappedSql.Proofs.Projections
import MappedSql.Proofs.KeyTests
import MappedSql.Proofs.NullKeys
import MappedSql.Proofs.GeneratedKeys
import MappedSql.Proofs.ColumnTests
import MappedSql.Proofs.NamedConstants
import MappedSql.Proofs.Replacements
import MappedSql.Proofs.UnwritableValues
import MappedSql.Proofs.QueriedValues
import MappedSql.Proofs.UnsupportedConstructs
import MappedSql.Proofs.ConvertedColumns
import MappedSql.Proofs.WrittenNumbers
import MappedSql.Proofs.ScalarLiterals
import MappedSql.Proofs.DocumentTexts
import MappedSql.Proofs.DocumentLiterals
import MappedSql.Proofs.QualifiedNames
import MappedSql.Proofs.DayNumbers
import MappedSql.Proofs.Moments
import MappedSql.Proofs.UnsetMoments
import MappedSql.Proofs.UpdatedColumns
import MappedSql.Proofs.SplitAttributes
import MappedSql.Proofs.SelectedColumns
import MappedSql.Proofs.SelectorKeys
import MappedSql.Proofs.SortDirections
import MappedSql.Proofs.TableSpellings
import MappedSql.Proofs.RawJoins
import MappedSql.Proofs.StoredVariants
