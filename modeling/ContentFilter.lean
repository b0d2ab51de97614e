import ContentFilter.Engine.Basic
import ContentFilter.Field.Kept
import ContentFilter.FreshId
import ContentFilter.Query.OnStack
import ContentFilter.Settings.Sources
import ContentFilter.Store.Seed
import ContentFilter.Proofs.References
import ContentFilter.Proofs.Chains
import ContentFilter.Proofs.Loading
import ContentFilter.Proofs.Outcome
import ContentFilter.Proofs.StoreChanges
import ContentFilter.Proofs.StoreRuns
import ContentFilter.Proofs.Expansion
import ContentFilter.Proofs.Deciding
import ContentFilter.Proofs.EngineRuns
import ContentFilter.Proofs.PlainVerdict
import ContentFilter.Proofs.Formulas
import ContentFilter.Proofs.StoreMeaning
import ContentFilter.Proofs.Depth
import ContentFilter.Proofs.Loadable
import ContentFilter.Proofs.SearchMeaning
import ContentFilter.Proofs.Walks
import ContentFilter.Proofs.Agreement
import ContentFilter.Proofs.Impact
import ContentFilter.Proofs.LoadedAnswers
import ContentFilter.Proofs.DeleteGuards
import ContentFilter.Proofs.Trimming
import ContentFilter.Proofs.CaseForms
import ContentFilter.Proofs.ComparisonKey
import ContentFilter.Proofs.AlikeLiterals
import ContentFilter.Proofs.DecidingAlike
import ContentFilter.Proofs.Duplicates
import ContentFilter.Proofs.Atomicity
import ContentFilter.Proofs.Tightening
import ContentFilter.Proofs.Blocking
import ContentFilter.Proofs.KeptFields
import ContentFilter.Proofs.CatalogHistory
import ContentFilter.Proofs.Circles
import ContentFilter.Proofs.CircleReports
import ContentFilter.Proofs.StackWalks
import ContentFilter.Proofs.Expandable
import ContentFilter.Proofs.JsonText
import ContentFilter.Proofs.StoredForms
import ContentFilter.Proofs.PatternTexts
import ContentFilter.Proofs.Complements
import ContentFilter.Proofs.PatternVerdicts
import ContentFilter.Proofs.Comparisons
import ContentFilter.Proofs.PathValues
import ContentFilter.Proofs.Presence
import ContentFilter.Proofs.DocumentReads
import ContentFilter.Proofs.Suppliers
import ContentFilter.Proofs.QueryStrings
import ContentFilter.Proofs.NearestWhole
import ContentFilter.Proofs.WholeComparisons
import ContentFilter.Proofs.Orderings
import ContentFilter.Proofs.SimilarConditions
import ContentFilter.Proofs.ComputedFields
