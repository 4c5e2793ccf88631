import Phrasebook.Request
import Phrasebook.Proofs.Interpolation
import Phrasebook.Proofs.Formatter
import Phrasebook.Proofs.Plural.Bars
import Phrasebook.Proofs.Plural.RoundTrip
import Phrasebook.Proofs.Plural.Runs
import Phrasebook.Proofs.Store.Events
import Phrasebook.Proofs.Store.History
import Phrasebook.Proofs.Catalogue.Merge
import Phrasebook.Proofs.Loading.Stages
import Phrasebook.Proofs.Loading.Directory
import Phrasebook.Proofs.Plural.Literal
import Phrasebook.Proofs.Store.Ownership
import Phrasebook.Proofs.Locale
import Phrasebook.Proofs.Store.Values
import Phrasebook.Proofs.Resolution.Chain
import Phrasebook.Proofs.Resolution.Views
import Phrasebook.Proofs.Members
import Phrasebook.Proofs.Catalogue.Views
import Phrasebook.Proofs.Store.Building
import Phrasebook.Proofs.Catalogue.FiniteMap
import Phrasebook.Proofs.Store.Isolation
import Phrasebook.Proofs.Store.Appending
import Phrasebook.Proofs.Service.Lifecycle
import Phrasebook.Proofs.Number.Difference
import Phrasebook.Proofs.Negotiation
import Phrasebook.Proofs.Loading.Parallel
import Phrasebook.Proofs.FileNames
import Phrasebook.Proofs.Loading.Index
import Phrasebook.Proofs.Service.Initialization
import Phrasebook.Proofs.Number.Integers
import Phrasebook.Proofs.Tags
import Phrasebook.Proofs.Settings.RoundTrip
import Phrasebook.Proofs.Service.Creation
import Phrasebook.Proofs.Settings.Checks
import Phrasebook.Proofs.Session.Basic
import Phrasebook.Proofs.Session.Requests
import Phrasebook.Proofs.Session.Logging
import Phrasebook.Proofs.Number.Rounding
import Phrasebook.Proofs.Plural.Counts
import Phrasebook.Proofs.Catalogue.Cloning
import Phrasebook.Proofs.Plural.Cuts
import Phrasebook.Proofs.Text.Case
import Phrasebook.Proofs.MessageNames
import Phrasebook.Proofs.MessageContents
import Phrasebook.Proofs.Settings.Acceptance
import Phrasebook.Proofs.Escaping
import Phrasebook.Proofs.LogLevels
import Phrasebook.Proofs.Spelling
import Phrasebook.Proofs.Catalogue.Records
import Phrasebook.Proofs.Ranking
import Phrasebook.Proofs.Resolution.Fallback
import Phrasebook.Proofs.Timer
import Phrasebook.Proofs.Settings.EnvFile
import Phrasebook.Proofs.Url.Basic
