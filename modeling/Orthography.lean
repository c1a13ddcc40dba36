import Orthography.Dictionary.Analysis
import Orthography.Dictionary.Edit
import Orthography.Proofs.Compound.Beginning
import Orthography.Proofs.Derivation.Completeness
import Orthography.Proofs.Dictionary.Analysis
import Orthography.Proofs.Dictionary.Budget
import Orthography.Proofs.Dictionary.Edit
import Orthography.Proofs.Dictionary.Joining
import Orthography.Proofs.Lexicon.FieldLine
import Orthography.Proofs.Lexicon.History
import Orthography.Proofs.Settings.AffixLetters
import Orthography.Proofs.Settings.RoleLines
import Orthography.Proofs.Settings.Tables
import Orthography.Proofs.Suggestion.Correct
import Orthography.Proofs.Suggestion.Edits
import Orthography.Suggestion.Basic
import Orthography.Text.Quoted
import Orthography.Proofs.Compound.Blocks
import Orthography.Proofs.Compound.Triple
import Orthography.Proofs.Derivation.Choice
import Orthography.Proofs.Affix.Scan
import Orthography.Proofs.Condition
import Orthography.Proofs.Replacement
import Orthography.Proofs.Flag.Set
import Orthography.Proofs.Flag.Writing
import Orthography.Proofs.Dictionary.Undoing
import Orthography.Proofs.Dictionary.Capitals
import Orthography.Proofs.Settings.MissingValues
import Orthography.Proofs.Dictionary.AnalysisTokens
import Orthography.Compound.Visit
import Orthography.Proofs.Derivation.Visit
import Orthography.Proofs.Compound.Visit
import Orthography.Proofs.Compound.RuleText
import Orthography.Proofs.Suggestion.Exchanges
