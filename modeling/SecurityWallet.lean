import SecurityWallet.Foundation.Json
import SecurityWallet.Foundation.Outcome
import SecurityWallet.Foundation.Effect
import SecurityWallet.Foundation.Hoare
import SecurityWallet.Foundation.Relational
import SecurityWallet.Foundation.StdMap
import SecurityWallet.Foundation.HashedMap
import SecurityWallet.Foundation.KeyedSet
import SecurityWallet.Foundation.BlockCipher
import SecurityWallet.Foundation.Aes
import SecurityWallet.Foundation.Sha256
import SecurityWallet.Foundation.Base64
import SecurityWallet.Foundation.SecondaryIndex
import SecurityWallet.Foundation.Machine
import SecurityWallet.Cxxtools
import SecurityWallet.Exception
import SecurityWallet.Helpers
import SecurityWallet.DocumentTypes
import SecurityWallet.Document
import SecurityWallet.Configuration
import SecurityWallet.Portfolio
import SecurityWallet.Wallet
import SecurityWallet.Server
import SecurityWallet.Client
import SecurityWallet.Subscription
import SecurityWallet.Registration
import SecurityWallet.Reference
import SecurityWallet.Cam.Exception
import SecurityWallet.Cam.Mapping
import SecurityWallet.Cam.Storage
import SecurityWallet.Cam.Server
import SecurityWallet.Cam.Accessor
import SecurityWallet.Proof.PortfolioIndex
import SecurityWallet.Proof.Encryption
import SecurityWallet.Proof.Decryption
import SecurityWallet.Proof.DocumentCodec
import SecurityWallet.Proof.DocumentDecoder
import SecurityWallet.Proof.Requests
import SecurityWallet.Proof.Ownership
import SecurityWallet.Proof.Outsiders
import SecurityWallet.Proof.Loading
import SecurityWallet.Proof.LoadedIndexes
import SecurityWallet.Proof.Reload
import SecurityWallet.Proof.Atomicity
import SecurityWallet.Proof.Redaction
import SecurityWallet.Proof.Noninterference
import SecurityWallet.Proof.Escalation
import SecurityWallet.Proof.ClientCalls
import SecurityWallet.Proof.DocumentMerge
import SecurityWallet.Proof.UpdateFlags
import SecurityWallet.Proof.Persistence
import SecurityWallet.Proof.PortfolioNames
import SecurityWallet.Proof.SecretReads
import SecurityWallet.Proof.UpdateMerge
import SecurityWallet.Proof.NotificationReplay
import SecurityWallet.Proof.Notices
import SecurityWallet.Proof.Registration
import SecurityWallet.Proof.Srr
import SecurityWallet.Proof.Startup
import SecurityWallet.Proof.Restore
import SecurityWallet.Foundation.NamedTable
import SecurityWallet.Foundation.Replication
import SecurityWallet.Vault
import SecurityWallet.Site
import SecurityWallet.Network
import SecurityWallet.Proof.Settled
import SecurityWallet.Proof.VaultDocuments
import SecurityWallet.Proof.VaultReads
import SecurityWallet.Proof.VaultWrites
import SecurityWallet.Proof.VaultSteps
import SecurityWallet.Proof.VaultRefinement
import SecurityWallet.Proof.VaultHistory
import SecurityWallet.Proof.Followers
import SecurityWallet.Proof.VaultRestore
import SecurityWallet.Proof.VaultSeen
import SecurityWallet.Proof.VaultSecrecy
import SecurityWallet.Proof.CamCodec
import SecurityWallet.Proof.CamRefinement
import SecurityWallet.Proof.CamRequests
import SecurityWallet.Proof.CamPersistence
import SecurityWallet.Proof.CamWellFormed
import SecurityWallet.Proof.CamErrors
import SecurityWallet.Proof.CamAccessor
import SecurityWallet.Proof.CamCounters
import SecurityWallet.Proof.CamLastWriter
import SecurityWallet.Cam.Catalogue
import SecurityWallet.Proof.CamCatalogue
import SecurityWallet.Proof.ErrorCodecs
