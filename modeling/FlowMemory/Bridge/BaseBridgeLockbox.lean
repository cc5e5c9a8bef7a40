import FlowMemory.AgentBonds.Basic

/-! # The lockbox of the bridge

The lockbox keeps the tokens of the deposits.  A **deposit** has a record with its amount and with
what was **released** of it, and each token has a configuration with its totals.  The native token
has the address zero: a native deposit is paid with the call.

The identifiers of deposits and releases are hashes.  They are parameters, in which the chain and the
address of the lockbox are fixed. -/

namespace FlowMemory.Bridge

open Call AgentBonds ERC20SettlementToken Function

structure TokenConfig where
  allowed : Bool
  (perDepositCap totalCap totalLocked totalDeposited : ℕ)

structure DepositRecord where
  (sender token : Address)
  (amount released : ℕ)
  flowmemoryRecipient : Bytes32
  nonce : ℕ
  metadataHash : Bytes32
  exists_ : Bool

def DepositRecord.empty : DepositRecord := ⟨0, 0, 0, 0, 0, 0, 0, false⟩

inductive LockboxEvent where
  | bridgeDeposit (depositId : Bytes32) (sender token : Address) (amount : ℕ)
      (flowmemoryRecipient : Bytes32) (nonce : ℕ) (metadataHash : Bytes32)
  | bridgeRelease (releaseId depositId : Bytes32) (recipient token : Address) (amount : ℕ)
      (evidenceHash : Bytes32)

/-- The storage of the lockbox, and its log of deposits and releases, the newest first. -/
structure BaseBridgeLockbox where
  (owner releaseAuthority : Address)
  (paused emergencyStopped : Bool)
  nextNonce : ℕ
  tokenConfigs : Address → TokenConfig
  deposits : Bytes32 → Bool
  depositRecords : Bytes32 → DepositRecord
  releases : Bytes32 → Bool
  logs : List LockboxEvent

inductive LockboxError where
  | notOwner (caller : Address)
  | notReleaseAuthority (caller : Address)
  | paused
  | emergencyStopped
  | zeroOwner
  | zeroReleaseAuthority
  | zeroRecipient
  | placeholderRecipient
  | zeroToken
  | zeroAmount
  | zeroEvidenceHash
  | tokenNotAllowed (token : Address)
  | perDepositCapExceeded (token : Address) (amount cap : ℕ)
  | totalCapExceeded (token : Address) (nextTotal cap : ℕ)
  | transferFailed
  | depositAlreadyRecorded (depositId : Bytes32)
  | depositNotRecorded (depositId : Bytes32)
  | releaseTokenMismatch (depositId : Bytes32) (expectedToken actualToken : Address)
  | releaseAmountExceeded (depositId : Bytes32) (requested available : ℕ)
  | releaseAlreadyProcessed (releaseId : Bytes32)
  | panic

/-- The address of the lockbox and the hashes of deposits and releases. -/
structure LockboxDeployment where
  lockbox : Address
  depositId : (sender token : Address) → (amount : ℕ) → (flowmemoryRecipient : Bytes32) →
    (nonce : ℕ) → (metadataHash : Bytes32) → Bytes32
  releaseId : (depositId : Bytes32) → (recipient token : Address) → (amount : ℕ) →
    (evidenceHash : Bytes32) → Bytes32

namespace BaseBridgeLockbox

abbrev LockboxAction : Type → Type := Call BaseBridgeLockbox LockboxError

/-- The lockbox after its constructor, which refuses zero addresses. -/
def deployed (initialOwner initialReleaseAuthority : Address) : BaseBridgeLockbox where
  owner := initialOwner
  releaseAuthority := initialReleaseAuthority
  paused := false
  emergencyStopped := false
  nextNonce := 1
  tokenConfigs _ := ⟨false, 0, 0, 0, 0⟩
  deposits _ := false
  depositRecords _ := .empty
  releases _ := false
  logs := []

def nativeToken : Address := 0

def placeholderRecipient : Bytes32 :=
  0x5555555555555555555555555555555555555555555555555555555555555555

variable (D : LockboxDeployment) (sender : Address)

/-! ### Administration -/

def onlyOwner : LockboxAction Unit := do
  let b ← get
  revertIf (sender ≠ b.owner) (.notOwner sender)

def onlyReleaseAuthority : LockboxAction Unit := do
  let b ← get
  revertIf (sender ≠ b.releaseAuthority) (.notReleaseAuthority sender)

def whenNotPaused : LockboxAction Unit := do
  let b ← get
  revertIf (b.paused = true) .paused

def whenNotEmergencyStopped : LockboxAction Unit := do
  let b ← get
  revertIf (b.emergencyStopped = true) .emergencyStopped

def transferOwnership (newOwner : Address) : LockboxAction Unit := do
  onlyOwner sender
  revertIf (newOwner = 0) .zeroOwner
  modify fun b => { b with owner := newOwner }

def setReleaseAuthority (newAuthority : Address) : LockboxAction Unit := do
  onlyOwner sender
  revertIf (newAuthority = 0) .zeroReleaseAuthority
  modify fun b => { b with releaseAuthority := newAuthority }

def setPaused (value : Bool) : LockboxAction Unit := do
  onlyOwner sender
  modify fun b => { b with paused := value }

def setEmergencyStopped (value : Bool) : LockboxAction Unit := do
  onlyOwner sender
  modify fun b => { b with emergencyStopped := value }

def configureToken (token : Address) (allowed : Bool) (perDepositCap totalCap : ℕ) :
    LockboxAction Unit := do
  onlyOwner sender
  let b ← get
  let config := b.tokenConfigs token
  revertIf (allowed = true ∧ perDepositCap = 0) .zeroAmount
  revertIf (allowed = true ∧ totalCap ≠ 0 ∧ totalCap < config.totalDeposited)
    (.totalCapExceeded token config.totalDeposited totalCap)
  modify fun b => { b with
    tokenConfigs := update b.tokenConfigs token
      { config with allowed, perDepositCap, totalCap } }

/-! ### Deposits and releases -/

def lock (token : Address) (amount : ℕ) (flowmemoryRecipient metadataHash : Bytes32) :
    LockboxAction Unit := do
  revertIf (amount = 0) .zeroAmount
  revertIf (flowmemoryRecipient = 0) .zeroRecipient
  revertIf (flowmemoryRecipient = placeholderRecipient) .placeholderRecipient
  let b ← get
  let config := b.tokenConfigs token
  revertIf (config.allowed = false) (.tokenNotAllowed token)
  revertIf (amount > config.perDepositCap) (.perDepositCapExceeded token amount config.perDepositCap)
  let nextTotalLocked ← okOr (addChecked 256 config.totalLocked amount) .panic
  let nextTotalDeposited ← okOr (addChecked 256 config.totalDeposited amount) .panic
  revertIf (config.totalCap ≠ 0 ∧ nextTotalDeposited > config.totalCap)
    (.totalCapExceeded token nextTotalDeposited config.totalCap)
  let nonce := b.nextNonce
  let nextNonce ← okOr (addChecked 256 nonce 1) .panic
  let depositId := D.depositId sender token amount flowmemoryRecipient nonce metadataHash
  revertIf (b.deposits depositId = true) (.depositAlreadyRecorded depositId)
  modify fun b => { b with
    nextNonce
    deposits := update b.deposits depositId true
    depositRecords := update b.depositRecords depositId
      ⟨sender, token, amount, 0, flowmemoryRecipient, nonce, metadataHash, true⟩
    tokenConfigs := update b.tokenConfigs token
      { config with totalLocked := nextTotalLocked, totalDeposited := nextTotalDeposited }
    logs := .bridgeDeposit depositId sender token amount flowmemoryRecipient nonce metadataHash ::
      b.logs }

def recordRelease (depositId : Bytes32) (recipient token : Address) (amount : ℕ)
    (evidenceHash : Bytes32) : LockboxAction Unit := do
  revertIf (recipient = 0) .zeroRecipient
  revertIf (amount = 0) .zeroAmount
  revertIf (evidenceHash = 0) .zeroEvidenceHash
  let b ← get
  let record := b.depositRecords depositId
  revertIf (record.exists_ = false) (.depositNotRecorded depositId)
  revertIf (record.token ≠ token) (.releaseTokenMismatch depositId record.token token)
  let releaseId := D.releaseId depositId recipient token amount evidenceHash
  revertIf (b.releases releaseId = true) (.releaseAlreadyProcessed releaseId)
  let available ← okOr (subChecked record.amount record.released) .panic
  revertIf (amount > available) (.releaseAmountExceeded depositId amount available)
  let released ← okOr (addChecked 256 record.released amount) .panic
  let config := b.tokenConfigs token
  let totalLocked ← okOr (subChecked config.totalLocked amount) .panic
  modify fun b => { b with
    releases := update b.releases releaseId true
    depositRecords := update b.depositRecords depositId { record with released }
    tokenConfigs := update b.tokenConfigs token { config with totalLocked }
    logs := .bridgeRelease releaseId depositId recipient token amount evidenceHash :: b.logs }

end BaseBridgeLockbox

/-! ### The lockbox and the tokens -/

/-- The lockbox and the state of every token. -/
structure LockboxWorld (τ : Type) where
  lockbox : BaseBridgeLockbox
  tokens : Address → τ

namespace BaseBridgeLockbox

variable {τ : Type} [ERC20SettlementToken τ] (D : LockboxDeployment) (sender : Address)

abbrev BridgeAction (τ : Type) : Type → Type := Call (LockboxWorld τ) LockboxError

def inLockbox {α : Type} (m : LockboxAction α) : BridgeAction τ α :=
  within LockboxWorld.lockbox (fun w b => { w with lockbox := b }) (fun e => e) m

/-- A call of a token that returns its new state if it succeeds. -/
def callToken (token : Address) (f : τ → Option τ) : BridgeAction τ Unit := do
  let w ← get
  let moved ← okOr (f (w.tokens token)) .transferFailed
  modify fun w => { w with tokens := update w.tokens token moved }

/-- The value of the call is paid before the call runs. -/
def lockNative (value : ℕ) (flowmemoryRecipient metadataHash : Bytes32) : BridgeAction τ Unit := do
  callToken nativeToken (transfer sender D.lockbox value)
  inLockbox whenNotPaused
  inLockbox whenNotEmergencyStopped
  inLockbox (lock D sender nativeToken value flowmemoryRecipient metadataHash)

def lockERC20 (token : Address) (amount : ℕ) (flowmemoryRecipient metadataHash : Bytes32) :
    BridgeAction τ Unit := do
  inLockbox whenNotPaused
  inLockbox whenNotEmergencyStopped
  revertIf (token = nativeToken) .zeroToken
  inLockbox (lock D sender token amount flowmemoryRecipient metadataHash)
  callToken token (transferFrom D.lockbox sender D.lockbox amount)

def releaseNative (depositId : Bytes32) (recipient : Address) (amount : ℕ)
    (evidenceHash : Bytes32) : BridgeAction τ Unit := do
  inLockbox (onlyReleaseAuthority sender)
  inLockbox whenNotEmergencyStopped
  revertIf (recipient = 0) .zeroRecipient
  inLockbox (recordRelease D depositId recipient nativeToken amount evidenceHash)
  callToken nativeToken (transfer D.lockbox recipient amount)

def releaseERC20 (depositId : Bytes32) (recipient token : Address) (amount : ℕ)
    (evidenceHash : Bytes32) : BridgeAction τ Unit := do
  inLockbox (onlyReleaseAuthority sender)
  inLockbox whenNotEmergencyStopped
  revertIf (token = nativeToken) .zeroToken
  inLockbox (recordRelease D depositId recipient token amount evidenceHash)
  callToken token (transfer D.lockbox recipient amount)

/-- The calls of the lockbox, as messages. -/
inductive Msg where
  | transferOwnership (newOwner : Address)
  | setReleaseAuthority (newAuthority : Address)
  | setPaused (value : Bool)
  | setEmergencyStopped (value : Bool)
  | configureToken (token : Address) (allowed : Bool) (perDepositCap totalCap : Uint256)
  | lockNative (value : Uint256) (flowmemoryRecipient metadataHash : Bytes32)
  | lockERC20 (token : Address) (amount : Uint256) (flowmemoryRecipient metadataHash : Bytes32)
  | releaseNative (depositId : Bytes32) (recipient : Address) (amount : Uint256)
      (evidenceHash : Bytes32)
  | releaseERC20 (depositId : Bytes32) (recipient token : Address) (amount : Uint256)
      (evidenceHash : Bytes32)

def call : Msg → BridgeAction τ Unit
  | .transferOwnership newOwner => inLockbox (transferOwnership sender newOwner)
  | .setReleaseAuthority newAuthority => inLockbox (setReleaseAuthority sender newAuthority)
  | .setPaused value => inLockbox (setPaused sender value)
  | .setEmergencyStopped value => inLockbox (setEmergencyStopped sender value)
  | .configureToken token allowed perDepositCap totalCap =>
    inLockbox (configureToken sender token allowed perDepositCap totalCap)
  | .lockNative value recipient metadataHash => lockNative D sender value recipient metadataHash
  | .lockERC20 token amount recipient metadataHash =>
    lockERC20 D sender token amount recipient metadataHash
  | .releaseNative depositId recipient amount evidenceHash =>
    releaseNative D sender depositId recipient amount evidenceHash
  | .releaseERC20 depositId recipient token amount evidenceHash =>
    releaseERC20 D sender depositId recipient token amount evidenceHash

end BaseBridgeLockbox

open BaseBridgeLockbox

/-- One step of the system: a call of an account other than the lockbox, or a change of the tokens
that takes nothing from the lockbox. -/
inductive LockboxStep {τ : Type} [ERC20SettlementToken τ] (D : LockboxDeployment) :
    LockboxWorld τ → LockboxWorld τ → Prop
  | call {w w' : LockboxWorld τ} {sender : Address} {msg : BaseBridgeLockbox.Msg}
      (hsender : sender ≠ D.lockbox) (h : BaseBridgeLockbox.call D sender msg w = .ok ((), w')) :
      LockboxStep D w w'
  | token {w : LockboxWorld τ} {tokens : Address → τ}
      (h : ∀ t, balanceOf D.lockbox (w.tokens t) ≤ balanceOf D.lockbox (tokens t)) :
      LockboxStep D w { w with tokens }

/-! ### What a returning call did -/

namespace BaseBridgeLockbox

section accepted

variable {D : LockboxDeployment} {sender token recipient : Address} {b b' : BaseBridgeLockbox}
  {u : Unit} {amount : ℕ} {depositId evidenceHash : Bytes32}

attribute [simp] onlyOwner onlyReleaseAuthority whenNotPaused whenNotEmergencyStopped inLockbox callToken

/-- The deposit is allowed by the configuration of its token. -/
def Allows (config : TokenConfig) (amount : ℕ) : Prop :=
  config.allowed = true ∧ amount ≤ config.perDepositCap ∧
    config.totalLocked + amount < 2 ^ 256 ∧ config.totalDeposited + amount < 2 ^ 256 ∧
    (config.totalCap ≠ 0 → config.totalDeposited + amount ≤ config.totalCap)

/-- The lockbox after a deposit. -/
def afterLock (D : LockboxDeployment) (sender token : Address) (amount : ℕ)
    (flowmemoryRecipient metadataHash : Bytes32) (b : BaseBridgeLockbox) : BaseBridgeLockbox :=
  let depositId := D.depositId sender token amount flowmemoryRecipient b.nextNonce metadataHash
  { b with
    nextNonce := b.nextNonce + 1
    deposits := update b.deposits depositId true
    depositRecords := update b.depositRecords depositId
      ⟨sender, token, amount, 0, flowmemoryRecipient, b.nextNonce, metadataHash, true⟩
    tokenConfigs := update b.tokenConfigs token
      { b.tokenConfigs token with
        totalLocked := (b.tokenConfigs token).totalLocked + amount
        totalDeposited := (b.tokenConfigs token).totalDeposited + amount }
    logs := .bridgeDeposit depositId sender token amount flowmemoryRecipient b.nextNonce
      metadataHash :: b.logs }

theorem lock_ok {flowmemoryRecipient metadataHash : Bytes32}
    (h : lock D sender token amount flowmemoryRecipient metadataHash b = .ok (u, b')) :
    Allows (b.tokenConfigs token) amount ∧
      b.deposits (D.depositId sender token amount flowmemoryRecipient b.nextNonce metadataHash) =
        false ∧
      b' = afterLock D sender token amount flowmemoryRecipient metadataHash b := by
  simp [lock, -Nat.reducePow] at h
  obtain ⟨-, -, -, hallowed, hmax, hlocked, hfits, hcap, -, hnew, rfl⟩ := h
  exact ⟨⟨hallowed, hmax, hlocked, hfits, hcap⟩, hnew, rfl⟩

/-- The lockbox after a release. -/
def afterRelease (D : LockboxDeployment) (depositId : Bytes32) (recipient token : Address)
    (amount : ℕ) (evidenceHash : Bytes32) (b : BaseBridgeLockbox) : BaseBridgeLockbox :=
  let releaseId := D.releaseId depositId recipient token amount evidenceHash
  { b with
    releases := update b.releases releaseId true
    depositRecords := update b.depositRecords depositId
      { b.depositRecords depositId with
        released := (b.depositRecords depositId).released + amount }
    tokenConfigs := update b.tokenConfigs token
      { b.tokenConfigs token with totalLocked := (b.tokenConfigs token).totalLocked - amount }
    logs := .bridgeRelease releaseId depositId recipient token amount evidenceHash :: b.logs }

theorem recordRelease_ok
    (h : recordRelease D depositId recipient token amount evidenceHash b = .ok (u, b')) :
    (b.depositRecords depositId).exists_ = true ∧ (b.depositRecords depositId).token = token ∧
      b.releases (D.releaseId depositId recipient token amount evidenceHash) = false ∧
      (b.depositRecords depositId).released + amount ≤ (b.depositRecords depositId).amount ∧
      amount ≤ (b.tokenConfigs token).totalLocked ∧
      b' = afterRelease D depositId recipient token amount evidenceHash b := by
  simp [recordRelease] at h
  obtain ⟨-, -, -, hexists, htoken, hnew, hle, havailable, -, hlocked, rfl⟩ := h
  exact ⟨hexists, htoken, hnew, by omega, hlocked, rfl⟩

/-- A release panics only if a difference or a sum is out of range. -/
theorem recordRelease_panic
    (h : recordRelease D depositId recipient token amount evidenceHash b = .error .panic) :
    (b.depositRecords depositId).exists_ = true ∧ (b.depositRecords depositId).token = token ∧
      ((b.depositRecords depositId).amount < (b.depositRecords depositId).released ∨
      amount ≤ (b.depositRecords depositId).amount - (b.depositRecords depositId).released ∧
        (2 ^ 256 ≤ (b.depositRecords depositId).released + amount ∨
          (b.tokenConfigs token).totalLocked < amount)) := by
  simp [recordRelease, -Nat.reducePow] at h
  tauto

variable {τ : Type} [ERC20SettlementToken τ] {w w' : LockboxWorld τ}

/-- What a call does to the lockbox and to the tokens. -/
inductive LockboxEffect (D : LockboxDeployment) (w : LockboxWorld τ) : LockboxWorld τ → Prop
  | administered {owner releaseAuthority : Address} {paused emergencyStopped : Bool} :
      LockboxEffect D w { w with lockbox := { w.lockbox with
        owner, releaseAuthority, paused, emergencyStopped } }
  | configured {token : Address} {allowed : Bool} {perDepositCap totalCap : ℕ}
      (hcap : allowed = true → totalCap ≠ 0 →
        (w.lockbox.tokenConfigs token).totalDeposited ≤ totalCap) :
      LockboxEffect D w { w with lockbox := { w.lockbox with
        tokenConfigs := update w.lockbox.tokenConfigs token
          { w.lockbox.tokenConfigs token with
            allowed, perDepositCap, totalCap } } }
  | deposited {sender token : Address} {amount : ℕ} {flowmemoryRecipient metadataHash : Bytes32}
      {b : BaseBridgeLockbox} {moved : τ} (hsender : sender ≠ D.lockbox)
      (hlock : lock D sender token amount flowmemoryRecipient metadataHash w.lockbox = .ok ((), b))
      (hpaid : ExactTransfers τ → MovedExactly sender D.lockbox amount (w.tokens token) moved) :
      LockboxEffect D w ⟨b, update w.tokens token moved⟩
  | released {depositId : Bytes32} {recipient token : Address} {amount : ℕ}
      {evidenceHash : Bytes32} {b : BaseBridgeLockbox} {moved : τ}
      (hrelease : recordRelease D depositId recipient token amount evidenceHash w.lockbox =
        .ok ((), b))
      (hpaid : ExactTransfers τ → MovedExactly D.lockbox recipient amount (w.tokens token) moved) :
      LockboxEffect D w ⟨b, update w.tokens token moved⟩

theorem effect_of_call {msg : BaseBridgeLockbox.Msg} (hsender : sender ≠ D.lockbox)
    (h : call D sender msg w = .ok (u, w')) : LockboxEffect D w w' := by
  cases msg with
  | transferOwnership | setReleaseAuthority =>
    simp [call, transferOwnership, setReleaseAuthority] at h
    obtain ⟨-, -, rfl⟩ := h
    exact .administered
  | setPaused | setEmergencyStopped =>
    simp [call, setPaused, setEmergencyStopped] at h
    obtain ⟨-, rfl⟩ := h
    exact .administered
  | configureToken token allowed perDepositCap totalCap =>
    simp [call, configureToken] at h
    obtain ⟨⟨-, -, hcap⟩, rfl⟩ := h
    exact .configured fun hallowed hne => hcap hallowed (by simpa using hne)
  | lockNative value recipient metadataHash =>
    simp [call, lockNative] at h
    obtain ⟨moved, hpaid, -, -, b, hlock, rfl⟩ := h
    exact .deposited hsender hlock fun hexact => hexact.transfer_moved hpaid
  | lockERC20 token amount recipient metadataHash =>
    simp [call, lockERC20] at h
    obtain ⟨-, -, -, ⟨⟩, b, hlock, moved, hpaid, rfl⟩ := h
    exact .deposited hsender hlock fun hexact => hexact.transferFrom_moved hpaid
  | releaseNative | releaseERC20 =>
    simp [call, releaseNative, releaseERC20] at h
    obtain ⟨-, -, -, ⟨⟩, b, hrelease, moved, hpaid, rfl⟩ := h
    exact .released hrelease fun hexact => hexact.transfer_moved hpaid

end accepted

end BaseBridgeLockbox

end FlowMemory.Bridge
