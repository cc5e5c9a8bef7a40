import FlowMemory.Relayer.Cursor

/-! # One run of the relayer

A run reads the deposits, which may write the cursor file, checks the batch against the cap of the
pilot, makes the credits, applies them, which may write the runtime state file, and puts out the
**handoff**.  It may stop between the writes. -/

namespace FlowMemory.Relayer

open Check

variable [Keccak] {run : Run} {β : Type}

def uintRangeError : String := "uint does not fit in 256 bits"

/-- The total of the deposits that pass the policy, each event counted once. -/
def pilotTotal (options : CliOptions) : List BridgeDeposit → List String → ℕ → Except String ℕ
  | [], _, total => .ok total
  | deposit :: deposits, counted, total =>
    if pilotDepositRejectionReason deposit options ≠ none then
      pilotTotal options deposits counted total
    else do
      let replayKey ← okOr (bridgeReplayKey deposit) uintRangeError
      if replayKey ∈ counted then pilotTotal options deposits counted total
      else
        pilotTotal options deposits (replayKey :: counted) (total + decimalValue deposit.amount)

def enforcePilotDepositGuardrails (deposits : List BridgeDeposit) (options : CliOptions) :
    Except String Unit :=
  if isPilotMode options.mode then do
    let total ← pilotTotal options deposits [] 0
    rejectIf (total > options.totalCapAmount.getD 0)
      ("pilot deposit batch exceeds --total-cap-amount: " ++ decimalText total)
  else .ok ()

/-- The guardrails of the observation of a deposit. -/
def guardrailsOf (options : CliOptions) (deposit : BridgeDeposit) : BridgeGuardrailOptions where
  maxDepositAmount := options.maxDepositAmount
  supportedTokens := if options.supportedTokens = [] then none else some options.supportedTokens
  assetDecimals := some options.assetDecimals
  approvedContract :=
    if options.approvedLockboxAddresses = [] then none
    else some (listed options.approvedLockboxAddresses deposit.sourceContract)

def makeObservations (options : CliOptions) (deposits : List BridgeDeposit) :
    Option (List BridgeObservation) :=
  deposits.mapM fun deposit => makeObservation deposit options.mode (guardrailsOf options deposit)

/-- Apply the credits to the runtime state file, if the run has one. -/
def applyToRuntimeState (options : CliOptions) (credits : List BridgeCredit) :
    Txn World String (List CreditResult) := do
  let w ← Txn.get
  if options.runtimeStatePath.isSome then
    let applied := applyCreditsExactlyOnce credits w.runtime
    Txn.modify fun w => { w with runtime := applied.2 }
    pure applied.1
  else pure (applyCreditsExactlyOnce credits none).1

/-- The deposits of a run. -/
def readStage (run : Run) : Txn World String (List BridgeDeposit) :=
  if isMockMode run.options.mode then Txn.ofExcept (run.fixture.mapM validateDeposit)
  else do
    let (deposits, _) ← readBridgeDepositLogs run
    pure deposits

/-- A run after its read. -/
def creditStage (run : Run) (deposits : List BridgeDeposit) :
    Txn World String BridgeRuntimeHandoff := do
  let options := run.options
  run.stopAt .cursorSaved
  Txn.ofExcept (enforcePilotDepositGuardrails deposits options)
  Txn.rejectIf (options.mode = .baseMainnetCanary ∧ (options.applyCredit ∨ options.withdrawalIntent))
    ("Base mainnet canary is read-only; use base-mainnet-pilot only after explicit pilot " ++
      "approval")
  let observations ← Txn.okOr (makeObservations options deposits) uintRangeError
  let credits ← Txn.okOr (makeCredits observations options.applyCredit options) uintRangeError
  let results ← applyToRuntimeState options credits
  run.stopAt .creditsApplied
  let handoff := makeRuntimeHandoff options.mode observations results
  Txn.modify fun w => { w with handoffs := w.handoffs ++ [handoff] }
  pure handoff

def runBridgePipeline (run : Run) : Txn World String BridgeRuntimeHandoff := do
  let deposits ← readStage run
  creditStage run deposits

/-- A run takes the files from one state to the next, whether it completes or stops. -/
def RunStep (w : World) (run : Run) (w' : World) : Prop := (runBridgePipeline run w).2 = w'

/-- Execute one run. -/
def execRun (run : Run) (w : World) : Option World := some (runBridgePipeline run w).2

theorem runStep_of_exec {w w' : World} (h : execRun run w = some w') :
    RunStep w run w' :=
  Option.some.inj h

/-- The run stops with an error. -/
def Stops (run : Run) (w : World) : Prop := Txn.Fails (runBridgePipeline run) w

/-! ### What the stages keep -/

theorem applyToRuntimeState_keeps {π : World → β} {options : CliOptions}
    {credits : List BridgeCredit} (h : ∀ w runtime, π { w with runtime := runtime } = π w) :
    Txn.Keeps π (applyToRuntimeState options credits) := by
  refine .bind .get fun w => .ite (.bind (.modify ?_) fun _ => .pure) .pure
  intro w'
  exact h w' _

/-- After its read a run only writes the runtime state and the handoff. -/
theorem creditStage_keeps {π : World → β} {deposits : List BridgeDeposit}
    (hruntime : ∀ w runtime, π { w with runtime } = π w)
    (hhandoffs : ∀ w handoffs, π { w with handoffs } = π w) :
    Txn.Keeps π (creditStage run deposits) := by
  refine .bind .rejectIf fun _ => .bind .ofExcept fun _ => .bind .rejectIf fun _ => .bind .okOr
    fun observations => .bind .okOr fun credits => .bind (applyToRuntimeState_keeps hruntime)
    fun results => .bind .rejectIf fun _ => .bind (.modify ?_) fun _ => .pure
  intro w
  exact hhandoffs w _

end FlowMemory.Relayer
