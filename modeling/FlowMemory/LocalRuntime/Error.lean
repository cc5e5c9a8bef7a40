import Mathlib.Data.Nat.Notation

/-! # Errors of the local runtime

The errors a transaction can be rejected with, and the text of each, which is stored in the
block receipt of a rejected transaction. -/

namespace FlowMemory

/-- Why a transaction was rejected.  The argument names the object concerned. -/
inductive LocalRuntimeError where
  | agentAlreadyExists (id : String)
  | agentMissing (id : String)
  | agentInactive (id : String)
  | localTestUnitBalanceAlreadyExists (id : String)
  | localTestUnitBalanceMissing (id : String)
  | localTestUnitBalanceOverflow (id : String)
  | localTestUnitBalanceInsufficient (id : String)
  | faucetRecordAlreadyExists (id : String)
  | faucetAmountMustBePositive (id : String)
  | balanceTransferAlreadyExists (id : String)
  | deterministicIdMismatch (kind expected actual : String)
  | tokenAlreadyExists (id : String)
  | tokenSymbolAlreadyExists (id : String)
  | tokenMissing (id : String)
  | tokenAmountMustBePositive (id : String)
  | tokenBalanceOverflow (id : String)
  | tokenBalanceInsufficient (id : String)
  | tokenMintAlreadyExists (id : String)
  | poolAlreadyExists (id : String)
  | poolMissing (id : String)
  | poolInvalidAsset (id : String)
  | poolReserveInsufficient (id : String)
  | poolReserveOverflow (id : String)
  | liquidityReceiptAlreadyExists (id : String)
  | liquidityBelowMinimum (id : String)
  | lpPositionMissing (id : String)
  | lpPositionInsufficient (id : String)
  | swapReceiptAlreadyExists (id : String)
  | swapSlippageExceeded (id : String)
  | bridgeAssetMappingAlreadyExists (id : String)
  | bridgeAssetMappingMissing (id : String)
  | bridgeAccountMappingAlreadyExists (id : String)
  | bridgeAccountMappingMissing (id : String)
  | bridgeCreditAlreadyExists (id : String)
  | bridgeCreditAmountMustBePositive (id : String)
  | bridgeCreditReplayAlreadyConsumed (id : String)
  | bridgeCreditEventReferenceAlreadyConsumed (id : String)
  | bridgeCreditInvalidRuntimeMode (id : String)
  | bridgeCreditWrongSourceChain (id : String)
  | bridgeCreditMissingConfirmationProof (id : String)
  | bridgeCreditConfirmationUnsatisfied (id : String)
  | bridgeCreditMissingPilotCapProof (id : String)
  | bridgeCreditUnsupportedAsset (id : String)
  | bridgeCreditAmountExceedsPilotCap (id : String)
  | modelPassportAlreadyExists (id : String)
  | modelPassportMissing (id : String)
  | memoryCellOwnershipMismatch (id : String)
  | challengeAlreadyExists (id : String)
  | challengeMissing (id : String)
  | challengeAlreadyResolved (id : String)
  | challengeUnresolved (id : String)
  | rootfieldAlreadyExists (id : String)
  | rootfieldMissing (id : String)
  | rootfieldInactive (id : String)
  | artifactAlreadyExists (id : String)
  | artifactMissing (id : String)
  | artifactRootfieldMismatch (id : String)
  | artifactAvailabilityAlreadyExists (id : String)
  | workReceiptAlreadyExists (id : String)
  | workReceiptMissing (id : String)
  | workReceiptRootfieldMismatch (id : String)
  | workReceiptNotAccepted (id : String)
  | workReceiptFailed (id : String)
  | workReceiptAlreadyFinalized (id : String)
  | invalidFinalityStatus (id : String)
  | verifierReportAlreadyExists (id : String)
  | verifierModuleAlreadyExists (id : String)
  | verifierModuleMissing (id : String)
  | verifierModuleInactive (id : String)
  | finalityReceiptAlreadyExists (id : String)
  | importedObservationAlreadyExists (id : String)
  | importedVerifierReportAlreadyExists (id : String)
  | anchorAlreadyExists (id : String)
  | invalidEventSignature (id : String)
  deriving DecidableEq, Repr

namespace LocalRuntimeError

/-- The text of an error. -/
def toString : LocalRuntimeError → String
  | agentAlreadyExists id => "agent already exists: " ++ id
  | agentMissing id => "agent does not exist: " ++ id
  | agentInactive id => "agent is inactive: " ++ id
  | localTestUnitBalanceAlreadyExists id => "local test-unit balance already exists: " ++ id
  | localTestUnitBalanceMissing id => "local test-unit balance does not exist: " ++ id
  | localTestUnitBalanceOverflow id => "local test-unit balance overflow: " ++ id
  | localTestUnitBalanceInsufficient id => "insufficient local test-unit balance: " ++ id
  | faucetRecordAlreadyExists id => "faucet record already exists: " ++ id
  | faucetAmountMustBePositive id => "faucet amount must be greater than zero: " ++ id
  | balanceTransferAlreadyExists id => "balance transfer already exists: " ++ id
  | deterministicIdMismatch kind expected actual =>
    "deterministic " ++ kind ++ " id mismatch: expected " ++ expected ++ ", got " ++ actual
  | tokenAlreadyExists id => "token already exists: " ++ id
  | tokenSymbolAlreadyExists id => "token symbol already exists: " ++ id
  | tokenMissing id => "token does not exist: " ++ id
  | tokenAmountMustBePositive id => "token amount must be greater than zero: " ++ id
  | tokenBalanceOverflow id => "token balance overflow: " ++ id
  | tokenBalanceInsufficient id => "insufficient token balance: " ++ id
  | tokenMintAlreadyExists id => "token mint already exists: " ++ id
  | poolAlreadyExists id => "pool already exists: " ++ id
  | poolMissing id => "pool does not exist: " ++ id
  | poolInvalidAsset id => "pool asset is invalid: " ++ id
  | poolReserveInsufficient id => "pool reserves are insufficient: " ++ id
  | poolReserveOverflow id => "pool reserve overflow: " ++ id
  | liquidityReceiptAlreadyExists id => "liquidity receipt already exists: " ++ id
  | liquidityBelowMinimum id => "liquidity amount is below minimum: " ++ id
  | lpPositionMissing id => "LP position does not exist: " ++ id
  | lpPositionInsufficient id => "insufficient LP position: " ++ id
  | swapReceiptAlreadyExists id => "swap receipt already exists: " ++ id
  | swapSlippageExceeded id => "swap output is below minimum: " ++ id
  | bridgeAssetMappingAlreadyExists id => "bridge asset mapping already exists: " ++ id
  | bridgeAssetMappingMissing id => "bridge asset mapping does not exist: " ++ id
  | bridgeAccountMappingAlreadyExists id => "bridge account mapping already exists: " ++ id
  | bridgeAccountMappingMissing id => "bridge account mapping does not exist: " ++ id
  | bridgeCreditAlreadyExists id => "bridge credit already exists: " ++ id
  | bridgeCreditAmountMustBePositive id => "bridge credit amount must be greater than zero: " ++ id
  | bridgeCreditReplayAlreadyConsumed id => "bridge replay key is already consumed: " ++ id
  | bridgeCreditEventReferenceAlreadyConsumed id =>
    "bridge event reference is already consumed: " ++ id
  | bridgeCreditInvalidRuntimeMode id => "bridge credit runtime mode is invalid: " ++ id
  | bridgeCreditWrongSourceChain id => "live bridge credit must be from Base chain 8453: " ++ id
  | bridgeCreditMissingConfirmationProof id =>
    "live bridge credit is missing confirmation proof metadata: " ++ id
  | bridgeCreditConfirmationUnsatisfied id =>
    "live bridge credit confirmation proof is not satisfied: " ++ id
  | bridgeCreditMissingPilotCapProof id =>
    "live bridge credit is missing pilot cap proof metadata: " ++ id
  | bridgeCreditUnsupportedAsset id => "live bridge credit source asset is unsupported: " ++ id
  | bridgeCreditAmountExceedsPilotCap id => "live bridge credit amount exceeds pilot cap: " ++ id
  | modelPassportAlreadyExists id => "model passport already exists: " ++ id
  | modelPassportMissing id => "model passport does not exist: " ++ id
  | memoryCellOwnershipMismatch id => "memory cell ownership mismatch: " ++ id
  | challengeAlreadyExists id => "challenge already exists: " ++ id
  | challengeMissing id => "challenge does not exist: " ++ id
  | challengeAlreadyResolved id => "challenge is already resolved: " ++ id
  | challengeUnresolved id => "receipt has unresolved challenge: " ++ id
  | rootfieldAlreadyExists id => "rootfield already exists: " ++ id
  | rootfieldMissing id => "rootfield does not exist: " ++ id
  | rootfieldInactive id => "rootfield is inactive: " ++ id
  | artifactAlreadyExists id => "artifact commitment already exists: " ++ id
  | artifactMissing id => "artifact commitment does not exist: " ++ id
  | artifactRootfieldMismatch id => "artifact commitment rootfield mismatch: " ++ id
  | artifactAvailabilityAlreadyExists id => "artifact availability proof already exists: " ++ id
  | workReceiptAlreadyExists id => "work receipt already exists: " ++ id
  | workReceiptMissing id => "work receipt does not exist: " ++ id
  | workReceiptRootfieldMismatch id => "work receipt belongs to a different rootfield: " ++ id
  | workReceiptNotAccepted id => "work receipt is not accepted: " ++ id
  | workReceiptFailed id => "work receipt has failed verifier status: " ++ id
  | workReceiptAlreadyFinalized id => "work receipt is already finalized: " ++ id
  | invalidFinalityStatus id => "invalid finality status: " ++ id
  | verifierReportAlreadyExists id => "verifier report already exists: " ++ id
  | verifierModuleAlreadyExists id => "verifier module already exists: " ++ id
  | verifierModuleMissing id => "verifier module does not exist: " ++ id
  | verifierModuleInactive id => "verifier module is inactive: " ++ id
  | finalityReceiptAlreadyExists id => "finality receipt already exists: " ++ id
  | importedObservationAlreadyExists id => "imported observation already exists: " ++ id
  | importedVerifierReportAlreadyExists id => "imported verifier report already exists: " ++ id
  | anchorAlreadyExists id => "base anchor already exists: " ++ id
  | invalidEventSignature id => "invalid event signature: " ++ id

end LocalRuntimeError

end FlowMemory
