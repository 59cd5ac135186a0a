/-
  The errors of the RPC handlers (`src/error.rs`) and of the database (`src/database/error.rs`), cut
  down to the variants that the modelled handlers return.

  Errors that wrap an error of another crate keep its text, as the source does when it prints them.
  Some texts are formatted from values; there the error carries the values (`PermissionDenied`,
  `RouteSolanaError`), so that a statement can speak of them.

  An error response differs from another one in its status.  `RpcError.status` is the table of
  `into_response`; a variant that the source does not list there is an internal error, whoever
  caused it.
-/
import BlockchainApi.Primitives

namespace BlockchainApi

/-- `CaipNamespaces`: the chain namespaces the API knows. -/
inductive CaipNamespaces where
  | eip155
  | solana
  | ton
  | rootstock
  deriving DecidableEq, Repr

/-- `CryptoUtilsError`, the variants of the CAIP parsers, of the calls to a chain and of the check
    of a signature. -/
inductive CryptoUtilsError where
  | wrongNamespace (text : String)
  | wrongChainIdFormat (text : String)
  | wrongAddressFormat (text : String)
  | wrongCaip10Format (text : String)
  | wrongCaip2Format (text : String)
  | wrongCaip19Format (text : String)
  | providerError (text : String)
  | contractCallError (text : String)
  | signatureFormat (text : String)
  | addressChecksum (text : String)
  deriving DecidableEq, Repr

/-- `Display for CryptoUtilsError`. -/
def CryptoUtilsError.display : CryptoUtilsError → String
  | .wrongNamespace text => "Namespace is not supported: " ++ text
  | .wrongChainIdFormat text => "Chain ID format is not supported: " ++ text
  | .wrongAddressFormat text => "Address format is not supported: " ++ text
  | .wrongCaip10Format text => "Wrong CAIP-10 format: " ++ text
  | .wrongCaip2Format text => "Wrong CAIP-2 format: " ++ text
  | .wrongCaip19Format text => "Wrong CAIP-19 format: " ++ text
  | .providerError text => "Provider call error: " ++ text
  | .contractCallError text => "Contract call error: " ++ text
  | .signatureFormat text => "Wrong signature format: " ++ text
  | .addressChecksum text => "Wrong address checksum: " ++ text

/-- `sqlx::Error`: no row, or what the database says, as a violated constraint. -/
inductive SqlxError where
  | rowNotFound
  | database (text : String)
  deriving DecidableEq

/-- `DatabaseError` (`src/database/error.rs`). -/
inductive DatabaseError where
  | sqlxError (e : SqlxError)
  | badArgument (text : String)
  | addressRequired (text : String)
  deriving DecidableEq

/-- Why the co-signer refuses a batch: the arguments of the texts it formats. -/
inductive PermissionDenied where
  /-- `Execution address {addr:?} is not in allowed contracts`. -/
  | addressNotAllowed (address : Address)
  /-- `Execution value is greater than the allowance. …`. -/
  | valueGreaterThanAllowance (sum allowance : U256)
  /-- `Execution value exceeds all configured allowances`. -/
  | valueExceedsAllAllowances
  deriving DecidableEq

/-- `RouteSolanaError`: what goes wrong on the way to a quote of the second bridge. -/
inductive RouteSolanaError where
  | internal (text : String)
  | request (text : String)
  deriving DecidableEq, Repr

/-- `RpcError`. -/
inductive RpcError where
  | cryptoUtils (e : CryptoUtilsError)
  | invalidConfiguration (text : String)
  | projectData (text : String)
  | storage (text : String)
  | serdeJson (text : String)
  | unsupportedChain (chainId : String)
  | invalidChainIdFormat (chainId : String)
  | invalidAddress
  | unsupportedNamespace (namespace_ : CaipNamespaces)
  | irnNotConfigured
  | wrongHexFormat (e : FromHexError)
  | keyFormatError (text : String)
  | signatureFormatError (text : String)
  | permissionNotFound (address pci : String)
  | permissionContextNotUpdated (pci : String)
  | revokedPermission (pci : String)
  | permissionExpired (pci : String)
  | coSignerEmptyPermissions
  | cosignerPermissionDenied (reason : PermissionDenied)
  | cosignerUnsupportedPermission (type : String)
  | abiDecodingError (text : String)
  | invalidParameter (text : String)
  | nameAlreadyRegistered (name : String)
  | nameNotRegistered (name : String)
  | nameRegistrationError (text : String)
  | nameByAddressNotFound
  | internalNameResolverError
  | invalidNameFormat (name : String)
  | invalidNameLength (name : String)
  | invalidNameZone (name : String)
  | unsupportedCoinType (coinType : UInt32)
  | unsupportedNameAttribute
  | expiredTimestamp (timestamp : UInt64)
  | signatureValidationError (text : String)
  | nameOwnerValidationError
  | chainTemporarilyUnavailable (chainId : String)
  | unsupportedProvider (provider : String)
  | weightedProvidersIndex (text : String)
  | balanceProviderError
  | balanceTemporarilyUnavailable (namespace_ : CaipNamespaces)
  | fungiblePriceProviderError (text : String)
  | transactionProviderError
  | transportError (text : String)
  | reqwest (text : String)
  | proxyTimeoutError
  | invalidValue (text : String)
  | joinError (text : String)
  | orchestrationIdNotFound (id : String)
  | bridgingFinalAmountLess
  | simulationProviderUnavailable
  | simulationFailed (text : String)
  | routeSolana (e : RouteSolanaError)
  deriving DecidableEq

/-- The status of `RpcError::into_response`; whatever it does not list is an internal error. The
    order is that of the source. -/
def RpcError.status : RpcError → Nat
  | cryptoUtils _ => 400
  | projectData _ => 401
  | serdeJson _ => 422
  | unsupportedChain _ => 400
  | invalidChainIdFormat _ => 400
  | invalidAddress => 400
  | unsupportedNamespace _ => 400
  | keyFormatError _ => 400
  | signatureFormatError _ => 400
  | permissionNotFound _ _ => 400
  | revokedPermission _ => 400
  | permissionExpired _ => 400
  | coSignerEmptyPermissions => 400
  | cosignerPermissionDenied _ => 401
  | cosignerUnsupportedPermission _ => 401
  | abiDecodingError _ => 400
  | invalidParameter _ => 400
  | nameAlreadyRegistered _ => 400
  | nameNotRegistered _ => 400
  | nameByAddressNotFound => 404
  | invalidNameFormat _ => 400
  | invalidNameLength _ => 400
  | invalidNameZone _ => 400
  | unsupportedCoinType _ => 400
  | unsupportedNameAttribute => 400
  | expiredTimestamp _ => 400
  | signatureValidationError _ => 401
  | nameOwnerValidationError => 401
  | chainTemporarilyUnavailable _ => 503
  | unsupportedProvider _ => 400
  | balanceProviderError => 503
  | balanceTemporarilyUnavailable _ => 503
  | fungiblePriceProviderError _ => 503
  | transactionProviderError => 503
  | transportError _ => 503
  | orchestrationIdNotFound _ => 400
  | simulationProviderUnavailable => 503
  | routeSolana (.request _) => 400
  | _ => 500

end BlockchainApi
