import BlockchainApi.Lib.Bytes
import BlockchainApi.Lib.Abi
import BlockchainApi.Lib.AbiBytes
import BlockchainApi.Lib.FastLz
import BlockchainApi.Lib.Outcome
import BlockchainApi.Lib.GatedPolicy
import BlockchainApi.Lib.SharedStore
import BlockchainApi.Lib.Transitions
import BlockchainApi.Lib.Table
import BlockchainApi.Lib.Decimals
import BlockchainApi.Lib.DecimalText
import BlockchainApi.Lib.FloatText
import BlockchainApi.Lib.Search
import BlockchainApi.Lib.Delimited
import BlockchainApi.Lib.Base64
import BlockchainApi.Lib.Crc16
import BlockchainApi.Lib.Hstore
import BlockchainApi.Lib.Multiplicity
import BlockchainApi.Lib.Upsert
import BlockchainApi.Lib.Accumulation
import BlockchainApi.Lib.Expiring
import BlockchainApi.Lib.CachedService
import BlockchainApi.Lib.Sampling
import BlockchainApi.Lib.ReadThrough
import BlockchainApi.Lib.Retry
import BlockchainApi.Primitives
import BlockchainApi.Error
import BlockchainApi.Utils.Caip
import BlockchainApi.Utils.Caip2
import BlockchainApi.Utils.HexAddress
import BlockchainApi.Utils.Caip10
import BlockchainApi.Utils.TonAddress
import BlockchainApi.Utils.Cors
import BlockchainApi.Project.CircuitBreaker
import BlockchainApi.Utils.Caip19
import BlockchainApi.Utils.Sessions
import BlockchainApi.Utils.UserOperation
import BlockchainApi.Utils.MessageSignature
import BlockchainApi.Utils.Permissions
import BlockchainApi.Utils.TokenAmount
import BlockchainApi.Sessions.PermissionChecks
import BlockchainApi.Sessions.Cosign
import BlockchainApi.Sessions.Store
import BlockchainApi.Wallet.UserOperation
import BlockchainApi.Wallet.SmartSession
import BlockchainApi.Wallet.PrepareCalls
import BlockchainApi.Wallet.SignerList
import BlockchainApi.Wallet.SignatureFormat
import BlockchainApi.Wallet.SendPreparedCalls
import BlockchainApi.Wallet.AccountSpelling
import BlockchainApi.Names.Database
import BlockchainApi.Names.Payload
import BlockchainApi.Names.Profile
import BlockchainApi.Names.Authorization
import BlockchainApi.Names.SignatureChecks
import BlockchainApi.Names.Resolution
import BlockchainApi.Names.IdentityCache
import BlockchainApi.Project.Access
import BlockchainApi.Names.Registration
import BlockchainApi.Names.Deletion
import BlockchainApi.Names.CoinTypes
import BlockchainApi.Names.AttributesStorage
import BlockchainApi.Names.NameGrammar
import BlockchainApi.Exchanges.Ledger
import BlockchainApi.Exchanges.Transactions
import BlockchainApi.Exchanges.Reconciliation
import BlockchainApi.Exchanges.PayUrl
import BlockchainApi.Exchanges.Settlement
import BlockchainApi.Exchanges.Claiming
import BlockchainApi.ChainAgnostic.Status
import BlockchainApi.ChainAgnostic.Assets
import BlockchainApi.ChainAgnostic.NonceManager
import BlockchainApi.ChainAgnostic.Route
import BlockchainApi.ChainAgnostic.Funding
import BlockchainApi.ChainAgnostic.Bundle
import BlockchainApi.ChainAgnostic.Crashes
import BlockchainApi.ChainAgnostic.ResponseV1
import BlockchainApi.ChainAgnostic.Simulation
import BlockchainApi.Balances.Handler
import BlockchainApi.Balances.TokenFormat
import BlockchainApi.Balances.Cache
import BlockchainApi.Balances.ForceUpdate
import BlockchainApi.Providers.SolScan
import BlockchainApi.Providers.BalanceItems
import BlockchainApi.Providers.TonHistory
import BlockchainApi.Wallet.GetAssets
import BlockchainApi.Wallet.AssetPasses
import BlockchainApi.Wallet.AssetListing
import BlockchainApi.Wallet.MissingChains
import BlockchainApi.Wallet.AssetFilters
import BlockchainApi.Lib.FloatRounding
import BlockchainApi.Wallet.AssetBalances
import BlockchainApi.Providers.Selection
import BlockchainApi.Providers.Weights
import BlockchainApi.Providers.BalanceSelection
import BlockchainApi.Providers.Proxy
import BlockchainApi.Lib.Memo
import BlockchainApi.Providers.MethodCache
import BlockchainApi.Pos.Types
import BlockchainApi.Pos.TransactionId
import BlockchainApi.Pos.SplTransfer
import BlockchainApi.Pos.Amounts
import BlockchainApi.Pos.TronBroadcast
import BlockchainApi.Lib.Watching
import BlockchainApi.Pos.Payments
import BlockchainApi.Pos.Checks
import BlockchainApi.Exchanges.Providers
import BlockchainApi.Exchanges.Purchases
import BlockchainApi.Exchanges.Orders
