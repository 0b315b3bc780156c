import DocFilter.Main
import DocFilter.Proofs.MergePaths
import DocFilter.Proofs.ValuePaths
import DocFilter.Proofs.MergeConflicts
import DocFilter.Proofs.CompileFragments
import DocFilter.Proofs.CompileGrouping
import DocFilter.Proofs.ValidateCompile
import DocFilter.Proofs.DottedPaths
import DocFilter.Proofs.PathGrammar
import DocFilter.Proofs.KeySpelling
import DocFilter.Proofs.WireNames
import DocFilter.Proofs.StoredShapes
import DocFilter.Proofs.Blending
import DocFilter.Proofs.Conjunction
import DocFilter.Proofs.SchemaGrowth
import DocFilter.Proofs.QueryNames
import DocFilter.Proofs.EntryLists
import DocFilter.Proofs.Trimming
import DocFilter.Proofs.WrittenNumerals
import DocFilter.Proofs.QuotedTexts
import DocFilter.Proofs.SortedValues
import DocFilter.Proofs.PrintedValues
import DocFilter.Proofs.FilterSources
import DocFilter.Proofs.SchemaNotation
import DocFilter.Proofs.StoredNames
import DocFilter.Proofs.CommandAgreement
import DocFilter.Proofs.CanonicalValues
import DocFilter.Proofs.CommandReads
import DocFilter.Proofs.FileWriting
import DocFilter.Proofs.RunEffects
import DocFilter.Proofs.CompileFailure
import DocFilter.Proofs.RejectedKeys
import DocFilter.Proofs.AmbiguousKeys
import DocFilter.Proofs.CanonicalKeys
import DocFilter.Proofs.ReplacedSeparators
import DocFilter.Proofs.PathJoins
import DocFilter.Proofs.InnerPaths
import DocFilter.Proofs.MergeLaws
import DocFilter.Proofs.LowerCasing
import DocFilter.Proofs.StoredForms
import DocFilter.Proofs.SignedDigits
import DocFilter.Proofs.InlineFilters
import DocFilter.Proofs.IntegerFields
import DocFilter.Proofs.NearestBinary64
import DocFilter.Proofs.ByteOrder
import DocFilter.Proofs.TypedDigits
import DocFilter.Proofs.SchemaAdditions
