import ExprLexer.Library
import ExprLexer.Proofs.Concatenation
import ExprLexer.Proofs.Coordinates
import ExprLexer.Proofs.SharedStream
import ExprLexer.Proofs.TokenRecords
import ExprLexer.Session.Step
import ExprLexer.Proofs.Modes
import ExprLexer.Proofs.Deliveries
import ExprLexer.Proofs.Lookahead
import ExprLexer.Proofs.Excerpts
import ExprLexer.Proofs.Isolation
import ExprLexer.Proofs.Sentences
import ExprLexer.Proofs.OverflowBound
import ExprLexer.Proofs.Refusals
import ExprLexer.Proofs.ConfigStack
import ExprLexer.Proofs.GoldenTexts
import ExprLexer.Proofs.NestedContexts
import ExprLexer.Proofs.EndOfText
import ExprLexer.Proofs.GuardedLexer
import ExprLexer.Proofs.NearestMagnitude
import ExprLexer.Proofs.Preconditions
import ExprLexer.Proofs.RecordChecks
import ExprLexer.Proofs.ThreadIsolation
import ExprLexer.Proofs.FailureRecords
import ExprLexer.Proofs.NumberLiterals
import ExprLexer.Proofs.IntegerSpellings
import ExprLexer.Proofs.DigitScripts
import ExprLexer.Proofs.PlaceTexts
import ExprLexer.Proofs.Emissions
import ExprLexer.Proofs.QuotedText
import ExprLexer.Proofs.Diagnostics
