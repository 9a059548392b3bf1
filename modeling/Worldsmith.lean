import Worldsmith.Blueprint.Basic
import Worldsmith.Blueprint.Growth
import Worldsmith.Blueprint.Relations
import Worldsmith.CommandLine.Dialogue
import Worldsmith.CommandLine.Invocation
import Worldsmith.Decimal.Dyadic
import Worldsmith.Decimal.Natural
import Worldsmith.Decimal.Shortest
import Worldsmith.Error
import Worldsmith.Language.Inflection
import Worldsmith.Language.Lexicon
import Worldsmith.Language.Prose
import Worldsmith.Language.Scan
import Worldsmith.Language.Template
import Worldsmith.Language.Token
import Worldsmith.Logic.Constraint
import Worldsmith.Logic.Literal
import Worldsmith.Logic.NameTable
import Worldsmith.Logic.Problem
import Worldsmith.Logic.Solution
import Worldsmith.Logic.Variable
import Worldsmith.Main
import Worldsmith.Model.Basic
import Worldsmith.Model.Description
import Worldsmith.Proofs.Blueprint.Advance
import Worldsmith.Proofs.Blueprint.Agreement
import Worldsmith.Proofs.Blueprint.Beings
import Worldsmith.Proofs.Blueprint.Consequences
import Worldsmith.Proofs.Blueprint.Drawing
import Worldsmith.Proofs.Blueprint.Extension
import Worldsmith.Proofs.Blueprint.Forest
import Worldsmith.Proofs.Blueprint.Kinds
import Worldsmith.Proofs.Blueprint.Laws
import Worldsmith.Proofs.Blueprint.Naming
import Worldsmith.Proofs.Blueprint.Pairs
import Worldsmith.Proofs.Blueprint.Parts
import Worldsmith.Proofs.Blueprint.Quiet
import Worldsmith.Proofs.Blueprint.Relations
import Worldsmith.Proofs.Blueprint.Table
import Worldsmith.Proofs.Blueprint.Tasks
import Worldsmith.Proofs.Blueprint.Taxonomy
import Worldsmith.Proofs.Blueprint.Work
import Worldsmith.Proofs.Comparison.Basic
import Worldsmith.Proofs.Comparison.Beings
import Worldsmith.Proofs.Comparison.Conservation
import Worldsmith.Proofs.Comparison.Properties
import Worldsmith.Proofs.Comparison.Relations
import Worldsmith.Proofs.Comparison.Sayings
import Worldsmith.Proofs.Comparison.Transfer
import Worldsmith.Proofs.Language.Inflection
import Worldsmith.Proofs.Language.LetterCase
import Worldsmith.Proofs.Language.Lexicon
import Worldsmith.Proofs.Language.LongestName
import Worldsmith.Proofs.Language.Prose
import Worldsmith.Proofs.Language.Template
import Worldsmith.Proofs.Lists
import Worldsmith.Proofs.Logic.Building
import Worldsmith.Proofs.Logic.Completion
import Worldsmith.Proofs.Logic.Contents
import Worldsmith.Proofs.Logic.Echoes
import Worldsmith.Proofs.Logic.Meaning
import Worldsmith.Proofs.Logic.Satisfaction
import Worldsmith.Proofs.Model.Kinds
import Worldsmith.Proofs.Model.Labels
import Worldsmith.Proofs.Model.Membership
import Worldsmith.Proofs.Model.Possibilities
import Worldsmith.Proofs.Model.Presence
import Worldsmith.Proofs.Model.Relations
import Worldsmith.Proofs.Model.Relationships
import Worldsmith.Proofs.Model.Rendering
import Worldsmith.Proofs.Model.Taxonomy
import Worldsmith.Proofs.Model.Values
import Worldsmith.Proofs.Search.Budget
import Worldsmith.Proofs.Search.Confluence
import Worldsmith.Proofs.Search.Decisions
import Worldsmith.Proofs.Search.Descent
import Worldsmith.Proofs.Search.Guidance
import Worldsmith.Proofs.Search.Menus
import Worldsmith.Proofs.Search.Propagation
import Worldsmith.Proofs.Search.Record
import Worldsmith.Proofs.Search.Refutation
import Worldsmith.Proofs.Search.Restriction
import Worldsmith.Proofs.Search.Soundness
import Worldsmith.Proofs.Search.States
import Worldsmith.Proofs.Search.Trail
import Worldsmith.Proofs.Sentence.Attempts
import Worldsmith.Proofs.Sentence.Coinages
import Worldsmith.Proofs.Sentence.Coverage
import Worldsmith.Proofs.Sentence.Ends
import Worldsmith.Proofs.Sentence.Exhaustion
import Worldsmith.Proofs.Sentence.Filling
import Worldsmith.Proofs.Sentence.Gaps
import Worldsmith.Proofs.Sentence.Mentions
import Worldsmith.Proofs.Sentence.Progress
import Worldsmith.Proofs.Sentence.Recognition
import Worldsmith.Proofs.Sentence.Series
import Worldsmith.Proofs.Sentence.Subkinds
import Worldsmith.Proofs.Session.Execution
import Worldsmith.Proofs.Session.Files
import Worldsmith.Proofs.Session.History
import Worldsmith.Proofs.Session.Loading
import Worldsmith.Proofs.Session.Misuse
import Worldsmith.Proofs.Session.Nouns
import Worldsmith.Proofs.Session.Retelling
import Worldsmith.Proofs.Session.Saving
import Worldsmith.Proofs.Session.Storage
import Worldsmith.Proofs.Session.Telling
import Worldsmith.Proofs.Session.Turns
import Worldsmith.Proofs.Session.Wholeness
import Worldsmith.Proofs.Statement.Declarations
import Worldsmith.Proofs.Statement.Introduction
import Worldsmith.Proofs.Statement.Misuse
import Worldsmith.Proofs.Statement.Naming
import Worldsmith.Proofs.Statement.Registry
import Worldsmith.Proofs.Statement.Vocabulary
import Worldsmith.Proofs.Text.Classes
import Worldsmith.Proofs.Text.SmallLetters
import Worldsmith.Proofs.Trials.Imagining
import Worldsmith.Proofs.Trials.Inspection
import Worldsmith.Proofs.Trials.Survey
import Worldsmith.Proofs.World.Additions
import Worldsmith.Proofs.World.Change
import Worldsmith.Proofs.World.Closure
import Worldsmith.Proofs.World.Consistency
import Worldsmith.Proofs.World.Contents
import Worldsmith.Proofs.World.Distance
import Worldsmith.Proofs.World.Edits
import Worldsmith.Proofs.World.Growth
import Worldsmith.Proofs.World.Hierarchy
import Worldsmith.Proofs.World.Integrity
import Worldsmith.Proofs.World.Misuse
import Worldsmith.Proofs.World.Names
import Worldsmith.Proofs.World.Reachable
import Worldsmith.Proofs.World.References
import Worldsmith.Proofs.World.Registry
import Worldsmith.Proofs.World.Restatement
import Worldsmith.Proofs.World.Signatures
import Worldsmith.Proofs.World.Vocabulary
import Worldsmith.Proofs.World.Whole
import Worldsmith.Random.Draw
import Worldsmith.Random.Stream
import Worldsmith.Search.Descent
import Worldsmith.Search.Engine
import Worldsmith.Search.Propagation
import Worldsmith.Search.Trail
import Worldsmith.Sentence.Action
import Worldsmith.Sentence.Coining
import Worldsmith.Sentence.Count
import Worldsmith.Sentence.Filling
import Worldsmith.Sentence.Library
import Worldsmith.Sentence.Matching
import Worldsmith.Sentence.Pattern
import Worldsmith.Sentence.Phrase
import Worldsmith.Sentence.Reader
import Worldsmith.Sentence.Series
import Worldsmith.Sentence.Slot
import Worldsmith.Session.Basic
import Worldsmith.Session.Execution
import Worldsmith.Session.Knowledge
import Worldsmith.Session.Settings
import Worldsmith.Session.Storage
import Worldsmith.Session.Telling
import Worldsmith.Statement.Adjectives
import Worldsmith.Statement.Basic
import Worldsmith.Statement.Kinds
import Worldsmith.Statement.Performance
import Worldsmith.Statement.Properties
import Worldsmith.Statement.Verbs
import Worldsmith.Text.Alphabetic
import Worldsmith.Text.AsciiCase
import Worldsmith.Text.Blank
import Worldsmith.Text.Cased
import Worldsmith.Text.Lines
import Worldsmith.Text.LowerCase
import Worldsmith.Text.Quoted
import Worldsmith.Text.Ranges
import Worldsmith.Text.Uppercase
import Worldsmith.Text.Visible
import Worldsmith.Trials.Imagining
import Worldsmith.Trials.Inspection
import Worldsmith.Trials.Survey
import Worldsmith.World.Basic
import Worldsmith.World.Concept
import Worldsmith.World.Edit
import Worldsmith.World.Hierarchy
import Worldsmith.World.Id
import Worldsmith.World.Restatement
