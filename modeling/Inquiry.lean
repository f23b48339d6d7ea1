import Inquiry.Text.Fold
import Inquiry.Text.Word
import Inquiry.Token.Lexer
import Inquiry.Literal.Number
import Inquiry.Literal.Date
import Inquiry.Literal.Pattern
import Inquiry.Catalogue
import Inquiry.Compiler
import Inquiry.Help
import Inquiry.Service
import Inquiry.Proofs.Places
import Inquiry.Proofs.Blanks
import Inquiry.Proofs.RowLimit
import Inquiry.Proofs.Group
import Inquiry.Proofs.Rendering
import Inquiry.Proofs.Statement
import Inquiry.Proofs.Marks
import Inquiry.Proofs.Binding
import Inquiry.Proofs.Reading
import Inquiry.Proofs.Precedence
import Inquiry.Proofs.Meaning
import Inquiry.Proofs.Outcome
import Inquiry.Proofs.TokenText
import Inquiry.Proofs.WellFormed
import Inquiry.Proofs.Values
import Inquiry.Proofs.Conditions
import Inquiry.Proofs.Recognition
import Inquiry.Proofs.Mentions
import Inquiry.Proofs.Renderable
import Inquiry.Proofs.Acceptance
import Inquiry.Proofs.PlaceCount
import Inquiry.Proofs.Semicolons
import Inquiry.Proofs.DangerousWords
import Inquiry.Proofs.Requests
import Inquiry.Proofs.Taxonomy
import Inquiry.Proofs.Confinement
import Inquiry.Proofs.Phrases
import Inquiry.Proofs.QuotedText
import Inquiry.Proofs.Commands
import Inquiry.Proofs.Gathering
import Inquiry.Proofs.QuotedValue
import Inquiry.Proofs.Numerals
import Inquiry.Proofs.TokenBoundary
import Inquiry.Proofs.DateText
import Inquiry.Proofs.Truth
import Inquiry.Proofs.Negation
import Inquiry.Proofs.Comparisons
import Inquiry.Proofs.Clauses
import Inquiry.Proofs.PlainPhrases
import Inquiry.Proofs.CatalogueKeywords
import Inquiry.Proofs.Exclusion
import Inquiry.Proofs.Markers
import Inquiry.Proofs.SortBlock
import Inquiry.Proofs.LimitBehindOrder
import Inquiry.Proofs.DateValue
import Inquiry.Proofs.Spelling
import Inquiry.Proofs.UnknownFields
import Inquiry.Proofs.LimitPlace
import Inquiry.Proofs.Selection
import Inquiry.Proofs.Dispatch
import Inquiry.Proofs.PlaceGuards
import Inquiry.Proofs.RowBound
import Inquiry.Proofs.LetterParts
import Inquiry.Proofs.NormalForm
import Inquiry.Proofs.Wordwise
import Inquiry.Proofs.Respelling
import Inquiry.Proofs.Equivalence
import Inquiry.Proofs.Alongside
import Inquiry.Proofs.QuotedContent
import Inquiry.Proofs.Requoting
import Inquiry.Proofs.LiteralForms
import Inquiry.Proofs.NumberNotation
import Inquiry.Proofs.Lookahead
import Inquiry.Proofs.AmountCap
import Inquiry.Proofs.SortLists
import Inquiry.Proofs.SelectList
import Inquiry.Proofs.GivenPlaces
import Inquiry.Proofs.PlainDigits
import Inquiry.Proofs.DayOrder
import Inquiry.Proofs.DateNotations
import Inquiry.Proofs.NumberForms
import Inquiry.Proofs.LongIntegers
import Inquiry.Proofs.BetweenBlanks
import Inquiry.Proofs.NumberTokens
import Inquiry.Proofs.Faults
import Inquiry.Proofs.Segmentation
import Inquiry.Proofs.WordCharacters
import Inquiry.Proofs.FieldLists
import Inquiry.Proofs.ValueLists
import Inquiry.Proofs.SetQuantifier
import Inquiry.Proofs.TextSearch
import Inquiry.Proofs.ArticlesInRequests
import Inquiry.Proofs.Traversals
import Inquiry.Proofs.Advance
import Inquiry.Proofs.LetterCase
import Inquiry.Proofs.FinalSigma
import Inquiry.Proofs.StrippedLetters
import Inquiry.Proofs.FoldedForm
