import CharAtlas.Account.Identity
import CharAtlas.Account.Session
import CharAtlas.Account.SignIn
import CharAtlas.Catalog
import CharAtlas.Codepoint
import CharAtlas.Corpus.Character
import CharAtlas.Corpus.CombiningClass
import CharAtlas.Corpus.Decomposition
import CharAtlas.Corpus.Profile
import CharAtlas.Corpus.Table
import CharAtlas.Decimal
import CharAtlas.Error
import CharAtlas.Filter.Clause
import CharAtlas.Filter.Controls
import CharAtlas.Json
import CharAtlas.Json.Text
import CharAtlas.Numeral
import CharAtlas.OrderedSet
import CharAtlas.Proofs.Account.Sessions
import CharAtlas.Proofs.Account.SignIn
import CharAtlas.Proofs.Catalog
import CharAtlas.Proofs.Codepoint
import CharAtlas.Proofs.Comparison
import CharAtlas.Proofs.Corpus.Columns
import CharAtlas.Proofs.Corpus.Decomposition
import CharAtlas.Proofs.Corpus.Table
import CharAtlas.Proofs.Decimal
import CharAtlas.Proofs.Filter.Controls
import CharAtlas.Proofs.Filter.Grammar
import CharAtlas.Proofs.Filter.Joined
import CharAtlas.Proofs.Filter.NormalForm
import CharAtlas.Proofs.Filter.Restored
import CharAtlas.Proofs.Filter.RoundTrip
import CharAtlas.Proofs.Filter.Selections
import CharAtlas.Proofs.Json.Pretty
import CharAtlas.Proofs.Json.Text
import CharAtlas.Proofs.Numeral
import CharAtlas.Proofs.OrderedSet
import CharAtlas.Proofs.Query.Answer
import CharAtlas.Proofs.Query.Bounds
import CharAtlas.Proofs.Query.Codes
import CharAtlas.Proofs.Query.Confusables
import CharAtlas.Proofs.Query.Congruence
import CharAtlas.Proofs.Query.Conjunction
import CharAtlas.Proofs.Query.EmptySelection
import CharAtlas.Proofs.Query.Evaluation
import CharAtlas.Proofs.Query.Favorites
import CharAtlas.Proofs.Query.Found
import CharAtlas.Proofs.Query.KnownValues
import CharAtlas.Proofs.Query.Matches
import CharAtlas.Proofs.Query.Meaning
import CharAtlas.Proofs.Query.Names
import CharAtlas.Proofs.Query.Normalization
import CharAtlas.Proofs.Query.Order
import CharAtlas.Proofs.Query.Outcome
import CharAtlas.Proofs.Query.PageNumber
import CharAtlas.Proofs.Query.Pages
import CharAtlas.Proofs.Query.Pagination
import CharAtlas.Proofs.Query.Partition
import CharAtlas.Proofs.Query.Placeholders
import CharAtlas.Proofs.Query.Plan
import CharAtlas.Proofs.Query.Privacy
import CharAtlas.Proofs.Query.Records
import CharAtlas.Proofs.Query.Redundancy
import CharAtlas.Proofs.Query.Score
import CharAtlas.Proofs.Query.Shape
import CharAtlas.Proofs.Query.Similarity
import CharAtlas.Proofs.Query.Sorting
import CharAtlas.Proofs.Query.Tags
import CharAtlas.Proofs.Query.Taken
import CharAtlas.Proofs.Query.Texts
import CharAtlas.Proofs.Query.Words
import CharAtlas.Proofs.SearchTerm
import CharAtlas.Proofs.Service.Access
import CharAtlas.Proofs.Service.SignIns
import CharAtlas.Proofs.Settings
import CharAtlas.Proofs.Store.Accounts
import CharAtlas.Proofs.Store.Favorites
import CharAtlas.Proofs.Store.History
import CharAtlas.Proofs.Store.Lookup
import CharAtlas.Proofs.Store.Pairs
import CharAtlas.Proofs.Store.Statements
import CharAtlas.Proofs.Store.Transactions
import CharAtlas.Proofs.Store.Writing
import CharAtlas.Proofs.Text.Like
import CharAtlas.Proofs.Text.NaturalOrder
import CharAtlas.Proofs.Text.Pieces
import CharAtlas.Proofs.Text.Trim
import CharAtlas.Proofs.Text.Words
import CharAtlas.Proofs.Traversal
import CharAtlas.Proofs.Trigram
import CharAtlas.Proofs.Version
import CharAtlas.Property.Column
import CharAtlas.Property.Key
import CharAtlas.Query.Condition
import CharAtlas.Query.Expression
import CharAtlas.Query.Order
import CharAtlas.Query.Page
import CharAtlas.Query.Plan
import CharAtlas.Query.Similarity
import CharAtlas.Query.Statement
import CharAtlas.Query.Value
import CharAtlas.SearchTerm
import CharAtlas.Service.Arrival
import CharAtlas.Service.Handler
import CharAtlas.Service.Response
import CharAtlas.Settings.Basic
import CharAtlas.Settings.File
import CharAtlas.Store.Corpus
import CharAtlas.Store.Database
import CharAtlas.Store.Favorites
import CharAtlas.Text.Alphanumeric
import CharAtlas.Text.Blank
import CharAtlas.Text.Like
import CharAtlas.Text.Lowercase
import CharAtlas.Text.NaturalOrder
import CharAtlas.Text.PercentEncoding
import CharAtlas.Text.Pieces
import CharAtlas.Text.Stretch
import CharAtlas.Timestamp
import CharAtlas.Trigram
import CharAtlas.Version
