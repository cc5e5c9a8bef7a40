import FlowMemory.AgentBonds.Basic
import FlowMemory.Lib.Trace

/-! # Contracts that use several tokens

The contracts of the agent network name the token of each payment.  `WithTokens` is a contract
together with the states of all tokens.  `CallRun` is a **run** of such a contract: its accepted
calls in the order of time, with anything happening to the tokens in between.  `WorldStep` are its
steps in any order of time. -/

namespace FlowMemory.AgentNetwork

open Call AgentBonds

structure WithTokens (σ τ : Type) where
  contract : σ
  tokens : Address → τ

section calls

variable {σ τ ε α : Type} {token : Address} {f : τ → Option τ}

/-- A call that uses no token. -/
def onContract (m : Call σ ε α) : Call (WithTokens σ τ) ε α :=
  within WithTokens.contract (fun w c => { w with contract := c }) (fun e => e) m

/-- A call of a token, which reverts with `e` if the token refuses. -/
def callToken (e : ε) (token : Address) (f : τ → Option τ) : Call (WithTokens σ τ) ε Unit := do
  let w ← get
  let moved ← okOr (f (w.tokens token)) e
  modify fun w => { w with tokens := Function.update w.tokens token moved }

variable {w w' : WithTokens σ τ} {a : α} {u : Unit}

@[simp] theorem onContract_ok {m : Call σ ε α} : onContract m w = .ok (a, w') ↔
    ∃ c, m w.contract = .ok (a, c) ∧ w' = { w with contract := c } := by
  simp [onContract]

@[simp] theorem callToken_ok {e : ε} :
    callToken e token f w = .ok (u, w') ↔ ∃ moved, f (w.tokens token) = some moved ∧
      w' = { w with tokens := Function.update w.tokens token moved } := by
  simp [callToken, and_assoc]

end calls

section runs

variable {σ τ ε μ : Type} {call : Env → μ → Call (WithTokens σ τ) ε Unit} {calls : List (Env × μ)}

/-- From the time `now` on the calls are accepted one after the other. -/
inductive CallRun (call : Env → μ → Call (WithTokens σ τ) ε Unit) :
    ℕ → WithTokens σ τ → List (Env × μ) → WithTokens σ τ → Prop
  | nil {now : ℕ} {w : WithTokens σ τ} : CallRun call now w [] w
  | call {now : ℕ} {env : Env} {msg : μ} {w w' w'' : WithTokens σ τ} {calls : List (Env × μ)}
      (hnow : now ≤ env.timestamp) (hcall : call env msg w = .ok ((), w'))
      (hrest : CallRun call env.timestamp w' calls w'') :
      CallRun call now w ((env, msg) :: calls) w''
  | others {now : ℕ} {w w' : WithTokens σ τ} {calls : List (Env × μ)} (tokens : Address → τ)
      (hrest : CallRun call now { w with tokens } calls w') : CallRun call now w calls w'

theorem CallRun.invariant {Inv : σ → Prop}
    (hstep : ∀ {env msg} {w w' : WithTokens σ τ}, call env msg w = .ok ((), w') →
      Inv w.contract → Inv w'.contract)
    {now : ℕ} {w w' : WithTokens σ τ} (hrun : CallRun call now w calls w')
    (hinv : Inv w.contract) : Inv w'.contract := by
  induction hrun with
  | nil => exact hinv
  | call _ hcall _ ih => exact ih (hstep hcall hinv)
  | others _ _ ih => exact ih hinv

/-- Execute the calls one after the other. -/
def runCalls (call : Env → μ → Call (WithTokens σ τ) ε Unit) :
    ℕ → List (Env × μ) → WithTokens σ τ → Option (WithTokens σ τ)
  | _, [], w => some w
  | now, (env, msg) :: calls, w =>
    if now ≤ env.timestamp then
      match call env msg w with
      | .ok (_, w') => runCalls call env.timestamp calls w'
      | .error _ => none
    else none

theorem callRun_of_runCalls {now : ℕ} {w w' : WithTokens σ τ}
    (h : runCalls call now calls w = some w') : CallRun call now w calls w' := by
  induction calls generalizing now w with
  | nil =>
    cases h
    exact .nil
  | cons c calls ih =>
    obtain ⟨env, msg⟩ := c
    simp only [runCalls] at h
    split at h
    case isFalse => cases h
    case isTrue hnow =>
      split at h
      case h_2 => cases h
      case h_1 w₁ hcall => exact .call hnow hcall (ih h)

/-- A call is accepted, or something happens to the tokens. -/
inductive WorldStep (call : Env → μ → Call (WithTokens σ τ) ε Unit) :
    WithTokens σ τ → Option (Env × μ) → WithTokens σ τ → Prop
  | call {env : Env} {msg : μ} {w w' : WithTokens σ τ} (hcall : call env msg w = .ok ((), w')) :
      WorldStep call w (some (env, msg)) w'
  | others {w : WithTokens σ τ} (tokens : Address → τ) :
      WorldStep call w none { w with tokens }

/-- Execute a call. -/
def execCall (call : Env → μ → Call (WithTokens σ τ) ε Unit) (c : Option (Env × μ))
    (w : WithTokens σ τ) : Option (WithTokens σ τ) :=
  match c with
  | some (env, msg) => after (call env msg) w
  | none => some w

theorem worldStep_of_execCall {c : Option (Env × μ)} {w w' : WithTokens σ τ}
    (h : execCall call c w = some w') : WorldStep call w c w' := by
  cases c with
  | none =>
    cases h
    exact .others w.tokens
  | some c =>
    exact .call (after_eq_some.mp h)

theorem execCall_of_ok {env : Env} {msg : μ} {w w' : WithTokens σ τ}
    (h : call env msg w = .ok ((), w')) : execCall call (some (env, msg)) w = some w' :=
  after_eq_some.mpr h

end runs

/-- The conversion of a timestamp to 64 bits, which drops the higher bits. -/
def uint64 (n : ℕ) : ℕ := n % 2 ^ 64

theorem uint64_le (n : ℕ) : uint64 n ≤ n := Nat.mod_le n _

theorem uint64_of_lt {n : ℕ} (h : n < 2 ^ 64) : uint64 n = n := Nat.mod_eq_of_lt h

end FlowMemory.AgentNetwork
