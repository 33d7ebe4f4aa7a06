import PageHarvest.Cli.Trial
import PageHarvest.Main
import PageHarvest.Sync.Rehearsal
import PageHarvest.Proofs.Extraction
import PageHarvest.Proofs.Paging
import PageHarvest.Proofs.Sync.Moves
import PageHarvest.Proofs.Sync.Pages
import PageHarvest.Proofs.Sync.Commitment
import PageHarvest.Proofs.Sync.CursorChain
import PageHarvest.Proofs.Sync.Source
import PageHarvest.Proofs.Sync.Resume
import PageHarvest.Proofs.Sync.Accounts
import PageHarvest.Proofs.Sync.World
import PageHarvest.Proofs.Sync.Bounds
import PageHarvest.Proofs.Sync.Cancellation
import PageHarvest.Proofs.Json.Strings
import PageHarvest.Proofs.Http.Variables
import PageHarvest.Proofs.Sync.RepeatedCursor
import PageHarvest.Proofs.Settings.Active
import PageHarvest.Proofs.Settings.Relevance
import PageHarvest.Proofs.Settings.Values
import PageHarvest.Proofs.Connector
import PageHarvest.Proofs.Sync.FirstPage
import PageHarvest.Proofs.Sync.Leniency
import PageHarvest.Proofs.Extraction.Collection
import PageHarvest.Proofs.Http.BasicCredentials
import PageHarvest.Proofs.Query.Tokens
import PageHarvest.Proofs.Query.WriteOperations
import PageHarvest.Proofs.Path.Selection
import PageHarvest.Proofs.Text.Base64
import PageHarvest.Proofs.Settings.Saved
import PageHarvest.Proofs.Secrets
import PageHarvest.Proofs.Text.Form
import PageHarvest.Proofs.Http.Operation
import PageHarvest.Proofs.Instant
import PageHarvest.Proofs.SyncRecord
import PageHarvest.Proofs.Files.Path
import PageHarvest.Proofs.Files.Tree
import PageHarvest.Proofs.Files.PlainFile
import PageHarvest.Proofs.Files.Faults
import PageHarvest.Proofs.Store
import PageHarvest.Proofs.Store.Histories
import PageHarvest.Proofs.Binary64
import PageHarvest.Proofs.Binary64.Scaling
import PageHarvest.Proofs.Json.Numbers
import PageHarvest.Proofs.Json.Numerals
import PageHarvest.Proofs.Json.Reals
import PageHarvest.Proofs.Json.Plain
import PageHarvest.Proofs.Json.RoundTrip
import PageHarvest.Proofs.Extraction.Lines
import PageHarvest.Proofs.Calendar
import PageHarvest.Proofs.Instant.Validity
import PageHarvest.Proofs.SyncRecord.RoundTrip
import PageHarvest.Proofs.Paging.Outcome
import PageHarvest.Proofs.Paging.Steps
import PageHarvest.Proofs.Path.Misses
import PageHarvest.Proofs.Retry
import PageHarvest.Proofs.Retry.Words
import PageHarvest.Proofs.Http.RetryAfter
import PageHarvest.Proofs.Sync.Attempts
import PageHarvest.Proofs.Path.Composition
import PageHarvest.Proofs.Extraction.Independence
import PageHarvest.Proofs.Settings.Activity
import PageHarvest.Proofs.Settings.Entered
import PageHarvest.Proofs.Text.ByteOrder
import PageHarvest.Proofs.IdMap.Calls
import PageHarvest.Proofs.IdMap.Spellings
import PageHarvest.Proofs.Http.HeaderLines
import PageHarvest.Proofs.Http.Authentication
import PageHarvest.Proofs.Http.Precedence
import PageHarvest.Proofs.Path.Canonical
import PageHarvest.Proofs.Query.Brackets
import PageHarvest.Proofs.Query.OperationNames
import PageHarvest.Proofs.Query.Contents
import PageHarvest.Proofs.Http.ErrorBody
