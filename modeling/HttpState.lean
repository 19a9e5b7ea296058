import HttpState.Address
import HttpState.Barrier
import HttpState.Config
import HttpState.Cookie.Basic
import HttpState.Cookie.File
import HttpState.Cookie.Received
import HttpState.Cookie.Record
import HttpState.Cookie.Scope
import HttpState.Cookie.SetCookie
import HttpState.FilePolicy
import HttpState.Jar.Basic
import HttpState.Jar.Persistent
import HttpState.Jar.Request
import HttpState.Json.Reader
import HttpState.Json.Record
import HttpState.Json.Value
import HttpState.Manager.Application
import HttpState.Manager.Basic
import HttpState.PrivacyMode
import HttpState.Proofs.Address
import HttpState.Proofs.Address.Canonical
import HttpState.Proofs.Address.Form
import HttpState.Proofs.Address.Scheme
import HttpState.Proofs.Address.Spelling
import HttpState.Proofs.Barrier
import HttpState.Proofs.Cookie.Attributes
import HttpState.Proofs.Cookie.File
import HttpState.Proofs.Cookie.Lifetime
import HttpState.Proofs.Cookie.Received
import HttpState.Proofs.Cookie.Scope
import HttpState.Proofs.Cookie.Timestamps
import HttpState.Proofs.Jar.Bucket
import HttpState.Proofs.Jar.BucketOrder
import HttpState.Proofs.Jar.Calendar
import HttpState.Proofs.Jar.Contents
import HttpState.Proofs.Jar.DatabaseRestart
import HttpState.Proofs.Jar.Durability
import HttpState.Proofs.Jar.Enumeration
import HttpState.Proofs.Jar.Eviction
import HttpState.Proofs.Jar.Header
import HttpState.Proofs.Jar.Invariant
import HttpState.Proofs.Jar.Lifetime
import HttpState.Proofs.Jar.LoadOrder
import HttpState.Proofs.Jar.Loading
import HttpState.Proofs.Jar.Lookup
import HttpState.Proofs.Jar.Opening
import HttpState.Proofs.Jar.Part
import HttpState.Proofs.Jar.Provenance
import HttpState.Proofs.Jar.Readback
import HttpState.Proofs.Jar.Receipt
import HttpState.Proofs.Jar.Restart
import HttpState.Proofs.Jar.Retrieval
import HttpState.Proofs.Jar.Run
import HttpState.Proofs.Jar.Session
import HttpState.Proofs.Jar.Sites
import HttpState.Proofs.Jar.Snapshot
import HttpState.Proofs.Jar.Transparency
import HttpState.Proofs.Jar.Turnover
import HttpState.Proofs.Jar.Withdrawal
import HttpState.Proofs.Json.RoundTrip
import HttpState.Proofs.Json.Text
import HttpState.Proofs.List
import HttpState.Proofs.Manager.Acceptance
import HttpState.Proofs.Manager.Application
import HttpState.Proofs.Manager.Interference
import HttpState.Proofs.Manager.Isolation
import HttpState.Proofs.Manager.Jars
import HttpState.Proofs.Manager.Removals
import HttpState.Proofs.Manager.Run
import HttpState.Proofs.Manager.Shared
import HttpState.Proofs.Storage.CookieTable
import HttpState.Proofs.Storage.Database
import HttpState.Proofs.Storage.File
import HttpState.Proofs.Storage.Place
import HttpState.Proofs.Storage.Rows
import HttpState.Proofs.Storage.Settled
import HttpState.Proofs.Storage.Store
import HttpState.Proofs.Storage.Version
import HttpState.Proofs.Text.LetterCase
import HttpState.Proofs.Text.Scan
import HttpState.Proofs.Text.Trim
import HttpState.Proofs.Text.Utf8
import HttpState.Proofs.Time.Calendar
import HttpState.Proofs.Time.Rfc3339
import HttpState.Proofs.Unicode.CodePoints
import HttpState.Proofs.Unicode.Composition
import HttpState.Proofs.Unicode.Decomposition
import HttpState.Proofs.Unicode.HostMapping
import HttpState.Proofs.Unicode.Normalization
import HttpState.Proofs.Unicode.Tables
import HttpState.Proofs.Url.Characters
import HttpState.Proofs.Url.DomainName
import HttpState.Proofs.Url.Host
import HttpState.Proofs.Url.IpAddress
import HttpState.Proofs.Url.Parts
import HttpState.Proofs.Url.Path
import HttpState.Proofs.Url.Punycode
import HttpState.Proofs.Url.PunycodeRoundTrip
import HttpState.Proofs.Url.ResolvedPath
import HttpState.Proofs.Url.WrittenHost
import HttpState.Proofs.Url.WrittenUrl
import HttpState.Storage.Cell
import HttpState.Storage.CookieTable
import HttpState.Storage.Database
import HttpState.Storage.Decimal
import HttpState.Storage.Directory
import HttpState.Storage.Store
import HttpState.Text.Blank
import HttpState.Text.Scan
import HttpState.Time.Calendar
import HttpState.Time.HttpDate
import HttpState.Time.Rfc3339
import HttpState.Time.Timestamp
import HttpState.Unicode.BidiClass
import HttpState.Unicode.CombiningClass
import HttpState.Unicode.DecompositionTable
import HttpState.Unicode.HostMapping
import HttpState.Unicode.HostMappingTable
import HttpState.Unicode.JoiningType
import HttpState.Unicode.Mark
import HttpState.Unicode.Normalization
import HttpState.Unicode.Run
import HttpState.Url.Basic
import HttpState.Url.DomainName
import HttpState.Url.Error
import HttpState.Url.Host
import HttpState.Url.Ipv4
import HttpState.Url.Ipv6
import HttpState.Url.Path
import HttpState.Url.Punycode
