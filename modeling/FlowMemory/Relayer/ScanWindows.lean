import FlowMemory.Lib.Trace
import FlowMemory.Relayer.Pipeline

/-! # The block ranges of runs with a cursor file

A run with a cursor file asks for one range at most, and it writes the cursor unless it stops after
the request.  So the ranges of the written cursors tile the chain, and the range of a run that
stopped is asked for again. -/

namespace FlowMemory.Relayer

open Check

variable [Keccak]

/-! ### The range of a run -/

section range

variable {run : Run} {w w' : World} {chainId fromBlock latestBlock : ℕ}

/-- The range that a run asks for after the cursor. -/
structure ScanRange (run : Run) (w : World) (filter : LogFilter) (latestBlock : ℕ) : Prop where
  latest : readLatestBlockNumber run.node = .ok latestBlock
  address : filter.address = run.options.lockboxAddress
  start : filter.fromBlock = effectiveFromBlock run.options w.cursor
  nonempty : filter.fromBlock ≤ filter.toBlock
  width : filter.toBlock ≤ filter.fromBlock + maxBlockRange
  confirmed : filter.toBlock + run.options.confirmationDepth ≤ latestBlock
  bounded : ∀ upperBound ∈ run.options.toBlock, filter.toBlock ≤ upperBound

theorem loadBridgeCursorState_lastScannedBlock {file cursor : Option BridgeLockboxCursorState}
    (h : loadBridgeCursorState file run.options chainId = .ok cursor) :
    effectiveFromBlock run.options cursor = effectiveFromBlock run.options file := by
  cases file with
  | none =>
    cases h
    rfl
  | some parsed =>
    simp only [loadBridgeCursorState, bind_ok, pure_ok] at h
    obtain ⟨_, -, _, -, lockboxAddress, -, _, -, stateId, -, _, -, rfl⟩ := h
    rfl

omit [Keccak] in
theorem effectiveToBlock_le
    (h : (fromBlock : ℤ) ≤ effectiveToBlock run.options fromBlock latestBlock) :
    let toBlock := (effectiveToBlock run.options fromBlock latestBlock).toNat
    fromBlock ≤ toBlock ∧ toBlock ≤ fromBlock + maxBlockRange ∧
      toBlock + run.options.confirmationDepth ≤ latestBlock ∧
      ∀ upperBound ∈ run.options.toBlock, toBlock ≤ upperBound := by
  unfold effectiveToBlock requiredConfirmedBlock at *
  cases hto : run.options.toBlock <;> simp only [hto] at h ⊢ <;> split_ifs at h ⊢ <;>
    refine ⟨by omega, by omega, by omega, ?_⟩ <;> rintro _ ⟨⟩ <;> omega

/-- The range after the cursor. -/
def scanFilter (options : CliOptions) (cursor : Option BridgeLockboxCursorState) (latestBlock : ℕ) :
    LogFilter where
  address := options.lockboxAddress
  fromBlock := effectiveFromBlock options cursor
  toBlock := (effectiveToBlock options (effectiveFromBlock options cursor) latestBlock).toNat

/-- The range and the deposits for which a run will write the cursor, if it will. -/
def scannedAfterCursor (run : Run) (chainId : ℕ) (file : Option BridgeLockboxCursorState) :
    Option (LogFilter × List BridgeDeposit) := do
  let cursor ← (loadBridgeCursorState file run.options chainId).toOption
  let latestBlock ← (readLatestBlockNumber run.node).toOption
  let filter := scanFilter run.options cursor latestBlock
  let fromBlock := effectiveFromBlock run.options cursor
  if effectiveToBlock run.options fromBlock latestBlock < fromBlock then none
  else do
    let deposits ← (readDeposits run.options run.node chainId filter).toOption
    if run.fault = some .scanned ∨ run.options.lockboxAddress = none then none
    else some (filter, deposits)

def scannedBatch (run : Run) (file : Option BridgeLockboxCursorState) :
    Option (LogFilter × List BridgeDeposit) := do
  let chainId := expectedChainIdForMode run.options.mode run.options.expectedChainId
  let _ ← (checkSource run.options run.node chainId).toOption
  scannedAfterCursor run chainId file

/-- What the read of a run with a cursor file does. -/
inductive ReadOutcome (run : Run) (w : World) :
    Option (LogFilter × List BridgeDeposit) → Except String (List BridgeDeposit) → World → Prop
  | idle {r : Except String (List BridgeDeposit)}
      (hnone : ∀ deposits, r = .ok deposits → deposits = []) : ReadOutcome run w none r w
  | stopped {filter : LogFilter} {latestBlock : ℕ} {e : String}
      (hrange : ScanRange run w filter latestBlock) :
      ReadOutcome run w none (.error e) { w with requests := w.requests ++ [filter] }
  | saved {filter : LogFilter} {latestBlock : ℕ} {deposits : List BridgeDeposit}
      {cursor : BridgeLockboxCursorState} (hrange : ScanRange run w filter latestBlock)
      (hfrom : cursor.lastFromBlock = filter.fromBlock) (hto : cursor.lastToBlock = filter.toBlock)
      (hscanned : cursor.lastScannedBlock = filter.toBlock) :
      ReadOutcome run w (some (filter, deposits)) (.ok deposits)
        { w with requests := w.requests ++ [filter], cursor := some cursor,
                 saves := w.saves ++ [cursor] }

theorem readAfterCursor_outcome : ReadOutcome run w (scannedAfterCursor run chainId w.cursor)
    ((readAfterCursor run chainId w).1.map Prod.fst) (readAfterCursor run chainId w).2 := by
  unfold readAfterCursor scannedAfterCursor
  rw [Txn.get_bind, Txn.bind_apply, Txn.ofExcept]
  cases hload : loadBridgeCursorState w.cursor run.options chainId with
  | error e => exact .idle (by rintro _ ⟨⟩)
  | ok cursor =>
    have hstart := loadBridgeCursorState_lastScannedBlock hload
    simp only [Txn.bind_apply, Txn.ofExcept]
    cases hlatest : readLatestBlockNumber run.node with
    | error e => exact .idle (by rintro _ ⟨⟩)
    | ok latestBlock =>
      simp only [Except.toOption, Option.bind_eq_bind, Option.bind_some]
      by_cases hempty : effectiveToBlock run.options (effectiveFromBlock run.options cursor)
          latestBlock < effectiveFromBlock run.options cursor
      · simp only [hempty, if_true]
        refine .idle ?_
        rintro deposits ⟨⟩
        rfl
      · obtain ⟨hnonempty, hwidth, hconfirmed, hbounded⟩ := effectiveToBlock_le (not_lt.mp hempty)
        have hrange : ScanRange run w (scanFilter run.options cursor latestBlock) latestBlock :=
          ⟨hlatest, rfl, hstart, hnonempty, hwidth, hconfirmed, hbounded⟩
        simp only [hempty, if_false]
        rw [queryDeposits, Txn.bind_apply, Txn.modify_bind, Txn.ofExcept]
        cases hread : readDeposits run.options run.node chainId
            (scanFilter run.options cursor latestBlock) with
        | error e =>
          rw [scanFilter] at hread
          rw [hread]
          exact .stopped hrange
        | ok deposits =>
          rw [scanFilter] at hread
          rw [hread]
          simp only [Run.stopAt, Txn.rejectIf_bind, Option.bind_some]
          by_cases hfault : run.fault = some .scanned
          · rw [if_pos hfault, if_pos (Or.inl hfault)]
            exact .stopped hrange
          · rw [if_neg hfault, saveBridgeCursorState, Txn.bind_apply]
            cases haddress : run.options.lockboxAddress with
            | none =>
              rw [if_pos (Or.inr rfl)]
              rw [scanFilter, haddress] at hrange
              exact .stopped hrange
            | some address =>
              rw [if_neg (by simp [hfault]), scanFilter, haddress]
              rw [scanFilter, haddress] at hrange
              exact .saved hrange rfl rfl rfl

theorem readStage_outcome (hcursor : run.options.cursorStatePath.isSome = true)
    (hmode : isMockMode run.options.mode = false) :
    ReadOutcome run w (scannedBatch run w.cursor) (readStage run w).1 (readStage run w).2 := by
  have hstage : readStage run = (readBridgeDepositLogs run >>= fun read => pure read.1) := by
    simp only [readStage, hmode]
    rfl
  have hrun : readStage run w =
      ((readBridgeDepositLogs run w).1.map Prod.fst, (readBridgeDepositLogs run w).2) := by
    rw [hstage, Txn.bind_apply]
    rcases readBridgeDepositLogs run w with ⟨_ | _, _⟩ <;> rfl
  rw [hrun, readBridgeDepositLogs, Txn.bind_apply, Txn.ofExcept, scannedBatch]
  cases checkSource run.options run.node _ with
  | error e => exact .idle (by rintro _ ⟨⟩)
  | ok _ =>
    simp only [hcursor, if_true]
    exact readAfterCursor_outcome

theorem readStage_mock (hmode : isMockMode run.options.mode = true) : (readStage run w).2 = w := by
  simp only [readStage, hmode, if_true]
  rfl

/-- The part of the state that only the read of a run writes. -/
def World.scans (w : World) :
    List LogFilter × Option BridgeLockboxCursorState × List BridgeLockboxCursorState :=
  (w.requests, w.cursor, w.saves)

theorem runStep_scans (hstep : RunStep w run w') : w'.scans = (readStage run w).2.scans := by
  obtain rfl := hstep
  rw [runBridgePipeline, Txn.bind_apply]
  rcases readStage run w with ⟨e | deposits, w₁⟩
  · rfl
  · exact creditStage_keeps (fun _ _ => rfl) (fun _ _ => rfl) w₁

/-- What a whole run with a cursor file does to the cursor. -/
inductive Scan (run : Run) (w w' : World) : Prop
  | idle (hrequests : w'.requests = w.requests) (hcursor : w'.cursor = w.cursor)
      (hsaves : w'.saves = w.saves)
  | stopped {filter : LogFilter} {latestBlock : ℕ} (hrange : ScanRange run w filter latestBlock)
      (hstops : Stops run w) (hrequests : w'.requests = w.requests ++ [filter])
      (hcursor : w'.cursor = w.cursor) (hsaves : w'.saves = w.saves)
  | saved {filter : LogFilter} {latestBlock : ℕ} {cursor : BridgeLockboxCursorState}
      (hrange : ScanRange run w filter latestBlock) (hfrom : cursor.lastFromBlock = filter.fromBlock)
      (hto : cursor.lastToBlock = filter.toBlock)
      (hscanned : cursor.lastScannedBlock = filter.toBlock)
      (hrequests : w'.requests = w.requests ++ [filter]) (hcursor : w'.cursor = some cursor)
      (hsaves : w'.saves = w.saves ++ [cursor])

theorem runStep_scan (hcursor : run.options.cursorStatePath.isSome = true)
    (hstep : RunStep w run w') : Scan run w w' := by
  obtain ⟨hrequests, hcursors, hsaves⟩ := by
    simpa only [World.scans, Prod.mk.injEq] using runStep_scans hstep
  cases hmode : isMockMode run.options.mode with
  | true =>
    rw [readStage_mock hmode] at hrequests hcursors hsaves
    exact .idle hrequests hcursors hsaves
  | false =>
    have houtcome := readStage_outcome (w := w) hcursor hmode
    rcases hread : readStage run w with ⟨r, w₁⟩
    rw [hread] at houtcome hrequests hcursors hsaves
    generalize scannedBatch run w.cursor = batch at houtcome
    cases houtcome with
    | idle hnone => exact .idle hrequests hcursors hsaves
    | stopped hrange =>
      exact .stopped hrange (Txn.fails_bind_of_fails ⟨_, _, hread⟩) hrequests hcursors hsaves
    | saved hrange hfrom hto hscanned =>
      exact .saved hrange hfrom hto hscanned hrequests hcursors hsaves

end range

/-! ### Sequences of runs -/

section runs

variable {run : Run} {w w' : World} {steps : List (TraceStep World Run)}

/-- The cursor is the last one written, and the ranges of the written ones tile the chain. -/
structure Scanned (w : World) : Prop where
  cursor : w.cursor = w.saves.getLast?
  tiles : Tiles BridgeLockboxCursorState.lastFromBlock BridgeLockboxCursorState.lastToBlock w.saves
  scanned : ∀ cursor ∈ w.saves, cursor.lastScannedBlock = cursor.lastToBlock

omit [Keccak] in
theorem Scanned.empty : Scanned World.empty := ⟨rfl, .nil, nofun⟩

theorem Scan.scanned (h : Scan run w w') (hw : Scanned w) : Scanned w' := by
  cases h with
  | idle hrequests hcursor hsaves | stopped hrange hstops hrequests hcursor hsaves =>
    exact ⟨by rw [hcursor, hsaves, hw.cursor], hsaves ▸ hw.tiles, hsaves ▸ hw.scanned⟩
  | saved hrange hfrom hto hscanned hrequests hcursor hsaves =>
    refine ⟨by rw [hcursor, hsaves, List.getLast?_concat], ?_, ?_⟩
    · rw [hsaves]
      refine hw.tiles.concat (by rw [hfrom, hto]; exact hrange.nonempty) fun last hlast => ?_
      have hlastScanned := hw.scanned last (List.mem_of_getLast? hlast)
      rw [hfrom, hrange.start, hw.cursor, Option.mem_def.mp hlast, effectiveFromBlock, hlastScanned]
    · rw [hsaves]
      intro cursor hmem
      rcases List.mem_append.mp hmem with hmem | hmem
      · exact hw.scanned cursor hmem
      · cases List.mem_singleton.mp hmem
        rw [hscanned, hto]

theorem trace_scanned (htrace : Trace RunStep w steps w')
    (hcursor : ∀ t ∈ steps, t.label.options.cursorStatePath.isSome = true) (hw : Scanned w) :
    Scanned w' ∧ ∀ t ∈ steps, Scan t.label t.before t.after := by
  induction htrace with
  | nil => exact ⟨hw, fun _ ht => absurd ht List.not_mem_nil⟩
  | cons hstep hrest ih =>
    rw [List.forall_mem_cons] at hcursor
    have hscan := runStep_scan hcursor.1 hstep
    obtain ⟨hw', hsteps⟩ := ih hcursor.2 (hscan.scanned hw)
    exact ⟨hw', List.forall_mem_cons.mpr ⟨hscan, hsteps⟩⟩

/-- The ranges asked for and the ranges of the written cursors. -/
def World.SameRanges (w : World) : Prop :=
  w.requests.map (fun filter => (filter.fromBlock, filter.toBlock)) =
    w.saves.map fun cursor => (cursor.lastFromBlock, cursor.lastToBlock)

theorem trace_sameRanges (htrace : Trace RunStep w steps w')
    (hscans : ∀ t ∈ steps, Scan t.label t.before t.after)
    (hreturns : ∀ t ∈ steps, ¬ Stops t.label t.before) (hw : w.SameRanges) : w'.SameRanges := by
  induction htrace with
  | nil => exact hw
  | cons hstep hrest ih =>
    rw [List.forall_mem_cons] at hscans hreturns
    refine ih hscans.2 hreturns.2 ?_
    cases hscans.1 with
    | idle hrequests hcursor hsaves =>
      rw [World.SameRanges, hrequests, hsaves]
      exact hw
    | stopped hrange hstops => exact absurd hstops hreturns.1
    | saved hrange hfrom hto hscanned hrequests hcursor hsaves =>
      rw [World.SameRanges, hrequests, hsaves, List.map_append, List.map_append, hw]
      simp [hfrom, hto]

/-- Every run asks for at most one range, which starts one above the cursor and stays below the
confirmed head and the upper bound, and writes its end to the cursor unless it stops.  The written
ranges tile the chain. -/
theorem scan_windows_tile (htrace : Trace RunStep World.empty steps w)
    (hcursor : ∀ t ∈ steps, t.label.options.cursorStatePath.isSome = true) :
    (∀ t ∈ steps, Scan t.label t.before t.after) ∧
      Tiles BridgeLockboxCursorState.lastFromBlock BridgeLockboxCursorState.lastToBlock w.saves ∧
      w.saves.Pairwise (fun a b => a.lastToBlock < b.lastFromBlock) ∧
      w.cursor.map (·.lastScannedBlock) = w.saves.getLast?.map (·.lastToBlock) ∧
      ((∀ t ∈ steps, ¬ Stops t.label t.before) → w.SameRanges) := by
  obtain ⟨hw, hscans⟩ := trace_scanned htrace hcursor .empty
  refine ⟨hscans, hw.tiles, hw.tiles.disjoint, ?_, fun hreturns =>
    trace_sameRanges htrace hscans hreturns rfl⟩
  rw [hw.cursor]
  cases hlast : w.saves.getLast? with
  | none => rfl
  | some cursor => exact congrArg some (hw.scanned cursor (List.mem_of_getLast? hlast))

end runs

/-! ### Two runs -/

/-- The ranges that were asked for after the given runs, and those of the written cursors. -/
def sampleRanges (runs : List Run) : Option (List (ℕ × ℕ) × List (ℕ × ℕ)) :=
  let _ : Keccak := keccak256
  (Trace.execute execRun runs World.empty).map fun r =>
    (r.2.requests.map fun filter => (filter.fromBlock, filter.toBlock),
      r.2.saves.map fun cursor => (cursor.lastFromBlock, cursor.lastToBlock))

omit [Keccak] in
theorem scan_windows_tile_sample :
    letI : Keccak := keccak256
    ∃ steps w, Trace RunStep World.empty steps w ∧
      steps.map (·.label) = [sampleRun (sampleNode "0x14" []) none,
        sampleRun (sampleNode "0x1e" []) none] ∧
      w.saves.map (fun cursor => (cursor.lastFromBlock, cursor.lastToBlock)) = [(1, 18), (19, 28)] ∧
      w.cursor.map (·.lastScannedBlock) = w.saves.getLast?.map (·.lastToBlock) := by
  let _ : Keccak := keccak256
  have hranges : sampleRanges [sampleRun (sampleNode "0x14" []) none,
      sampleRun (sampleNode "0x1e" []) none] = some ([(1, 18), (19, 28)], [(1, 18), (19, 28)]) := by
    decide +kernel
  rw [sampleRanges] at hranges
  obtain ⟨⟨steps, w⟩, hexec, hfacts⟩ := Option.map_eq_some_iff.mp hranges
  obtain ⟨htrace, hlabels⟩ := Trace.of_execute runStep_of_exec hexec
  have hcursor : ∀ t ∈ steps, t.label.options.cursorStatePath.isSome = true := by
    intro t ht
    have hlabel := hlabels ▸ List.mem_map_of_mem (f := TraceStep.label) ht
    simp only [List.mem_cons, List.not_mem_nil, or_false] at hlabel
    rcases hlabel with hlabel | hlabel <;> rw [hlabel] <;> rfl
  obtain ⟨-, -, -, hlast, -⟩ := scan_windows_tile htrace hcursor
  exact ⟨steps, w, htrace, hlabels, (Prod.mk.inj hfacts).2, hlast⟩

/-- A log that a reorganisation removed. -/
def sampleRemovedLog : RpcLog := ⟨"", [], "", none, none, "", none, "", true⟩

omit [Keccak] in
/-- The first run asks for a range and stops at a removed log, so the second asks for it again. -/
theorem range_asked_for_again :
    sampleRanges [sampleRun (sampleNode "0x14" [sampleRemovedLog]) none,
      sampleRun (sampleNode "0x14" []) none] = some ([(1, 18), (1, 18)], [(1, 18)]) := by
  decide +kernel

end FlowMemory.Relayer
