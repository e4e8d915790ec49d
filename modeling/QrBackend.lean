import QrBackend.Table
import QrBackend.Chrono
import QrBackend.Timestamptz
import QrBackend.SortDedup
import QrBackend.Runs
import QrBackend.Model
import QrBackend.ErrorHandling
import QrBackend.Authentication
import QrBackend.Database
import QrBackend.SearchEngine
import QrBackend.App
import QrBackend.Refinement
import QrBackend.SearchProofs
import QrBackend.LendingProofs
import QrBackend.LendingRace
import QrBackend.IndexSync
import QrBackend.Access
import QrBackend.Validity
import QrBackend.RoundTrip
import QrBackend.ReturnByQr
import QrBackend.References
import QrBackend.PrimaryKeys
import QrBackend.Responses
import QrBackend.KeyedStore
import QrBackend.ReadAfterWrite
import QrBackend.TokenLifetime
import QrBackend.Retry
