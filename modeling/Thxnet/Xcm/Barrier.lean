import Thxnet.Xcm.Types

/-!
# The barrier of the leafchain

`Barrier` of `xcm_config.rs`: a message is denied if one of its instructions
makes a reserve transfer to the relay chain, and otherwise let through if it
was paid for beforehand, pays for itself, or comes from the relay chain.  A
barrier may change the message: it fills in the weight to be bought.
-/

namespace Thxnet.Xcm

open Thxnet.Lib Thxnet.Frame

/-- `Properties`. -/
structure Properties where
  weightCredit : Weight
  messageId : Option Encoded
  deriving DecidableEq, Repr

/-- `ShouldExecute::should_execute`: the message and the properties as they are
left behind, if the message may be executed. -/
abbrev ShouldExecute : Type :=
  Location → Program → Weight → Properties →
    Except ProcessMessageError (Program × Properties)

/-! ## Denying -/

/-- The instruction makes a reserve transfer to the relay chain. -/
def denied : Instruction → Bool
  | .initiateReserveWithdraw _ reserve _ => reserve = .parent
  | .depositReserveAsset _ dest _ => dest = .parent
  | .transferReserveAsset _ dest _ => dest = .parent
  | _ => false

/-- The loop of `DenyReserveTransferToRelayChain`. -/
def denyLoop : Program → Except ProcessMessageError Unit
  | [] => .ok ()
  | inst :: rest => do
      ensure (denied inst = false) .unsupported
      denyLoop rest

/-- `DenyReserveTransferToRelayChain`. -/
def denyReserveTransferToRelayChain : ShouldExecute :=
  fun _ message _ properties => do
    ensure (message ≠ []) .badFormat
    denyLoop message
    return (message, properties)

/-! ## Letting through -/

/-- `TakeWeightCredit`. -/
def takeWeightCredit : ShouldExecute :=
  fun _ message maxWeight properties => do
    let credit ← okOr (properties.weightCredit.checkedSub maxWeight)
      (.overweight maxWeight)
    return (message, { properties with weightCredit := credit })

/-- `MAX_ASSETS_FOR_BUY_EXECUTION`. -/
def maxAssetsForBuyExecution : Nat := 2

/-- The instruction puts a few assets into the holding register. -/
def loadsHolding : Instruction → Bool
  | .receiveTeleportedAsset assets => assets.length ≤ maxAssetsForBuyExecution
  | .reserveAssetDeposited assets => assets.length ≤ maxAssetsForBuyExecution
  | .withdrawAsset assets => assets.length ≤ maxAssetsForBuyExecution
  | .claimAsset assets _ => assets.length ≤ maxAssetsForBuyExecution
  | _ => false

/-- The instruction is `ClearOrigin`. -/
def isClearOrigin : Instruction → Bool
  | .clearOrigin => true
  | _ => false

/-- An instruction that buys enough weight, made to buy exactly as much. -/
def buysWeight (maxWeight : Weight) :
    Instruction → Except ProcessMessageError Instruction
  | .buyExecution fees (.limited weight) =>
      if weight.allGte maxWeight = true then
        .ok (.buyExecution fees (.limited maxWeight))
      else .error (.overweight maxWeight)
  | .buyExecution fees .unlimited =>
      .ok (.buyExecution fees (.limited maxWeight))
  | _ => .error (.overweight maxWeight)

/-- `AllowTopLevelPaidExecutionFrom<Everything>`: among the first five
instructions, assets are loaded, the origin may be cleared and weight is
bought. -/
def allowTopLevelPaidExecution : ShouldExecute :=
  fun _ message maxWeight properties =>
    match message.take 5 with
    | [] => .error .badFormat
    | first :: rest => do
        ensure (loadsHolding first = true) .badFormat
        ensure (rest ≠ []) .badFormat
        match rest.dropWhile isClearOrigin with
        | [] => .error .badFormat
        | inst :: after => do
            let bought ← buysWeight maxWeight inst
            return (first :: (rest.takeWhile isClearOrigin ++ bought :: after ++
              message.drop 5), properties)

/-- `ParentOrParentsExecutivePlurality`. -/
def parentOrParentsExecutivePlurality (location : Location) : Bool :=
  match location with
  | ⟨1, []⟩ => true
  | ⟨1, [.plurality .executive _]⟩ => true
  | _ => false

/-- `AllowExplicitUnpaidExecutionFrom<ParentOrParentsExecutivePlurality>`. -/
def allowExplicitUnpaidExecution : ShouldExecute :=
  fun origin message maxWeight properties => do
    ensure (parentOrParentsExecutivePlurality origin = true) .unsupported
    match message with
    | [] => .error .badFormat
    | .unpaidExecution (.limited m) _ :: _ => do
        ensure (m.allGte maxWeight = true) (.overweight maxWeight)
        return (message, properties)
    | .unpaidExecution .unlimited _ :: _ => return (message, properties)
    | _ :: _ => .error (.overweight maxWeight)

/-- The loop of `WithComputedOrigin`: the origin after the leading instructions
that change it, at most `prefixes` of them, and how many there are. -/
def computedOrigin (universal : List Junction) :
    Nat → Location → Program → Except ProcessMessageError (Location × Nat)
  | prefixes + 1, _, .universalOrigin junction :: rest => do
      let (origin, skipped) ←
        computedOrigin universal prefixes (relativeTo [junction] universal) rest
      return (origin, skipped + 1)
  | prefixes + 1, origin, .descendOrigin who :: rest => do
      let below ← okOr (origin.appendWith who) .unsupported
      let (origin, skipped) ← computedOrigin universal prefixes below rest
      return (origin, skipped + 1)
  | _, origin, _ => .ok (origin, 0)

/-- `WithComputedOrigin`. -/
def withComputedOrigin (inner : ShouldExecute) (universal : List Junction)
    (maxPrefixes : Nat) : ShouldExecute :=
  fun origin message maxWeight properties => do
    ensure (message ≠ []) .badFormat
    let (actual, skipped) ←
      computedOrigin universal maxPrefixes origin message
    let (rest, properties) ←
      inner actual (message.drop skipped) maxWeight properties
    return (message.take skipped ++ rest, properties)

/-- A tuple of barriers lets through what one of its elements does. -/
def eitherOf (first second : ShouldExecute) : ShouldExecute :=
  fun origin message maxWeight properties =>
    match first origin message maxWeight properties with
    | .ok passed => .ok passed
    | .error _ =>
        match second origin message maxWeight properties with
        | .ok passed => .ok passed
        | .error _ => .error .unsupported

/-- `DenyThenTry`. -/
def denyThenTry (deny allow : ShouldExecute) : ShouldExecute :=
  fun origin message maxWeight properties => do
    let (message, properties) ← deny origin message maxWeight properties
    allow origin message maxWeight properties

/-- `Barrier`, on the leafchain with the given parachain id. -/
def barrier (parachainId : Nat) : ShouldExecute :=
  denyThenTry denyReserveTransferToRelayChain
    (eitherOf takeWeightCredit
      (withComputedOrigin
        (eitherOf allowTopLevelPaidExecution allowExplicitUnpaidExecution)
        [.parachain parachainId] 8))

/-! ## What has passed the barrier -/

theorem clean_of_denyLoop {message : Program}
    (h : denyLoop message = .ok ()) : ∀ i ∈ message, denied i = false := by
  induction message with
  | nil =>
      intro inst hinst
      cases hinst
  | cons inst rest ih =>
      simp only [denyLoop, do_eq_ok] at h
      intro i hi
      rcases List.mem_cons.mp hi with rfl | hi
      · exact h.1
      · exact ih h.2 i hi

/-- Every instruction a barrier lets through stood in the message, or buys
weight. -/
def Keeps (b : ShouldExecute) : Prop :=
  ∀ origin message maxWeight properties passed,
    b origin message maxWeight properties = .ok passed →
    ∀ i ∈ passed.1, i ∈ message ∨ ∃ fees limit, i = .buyExecution fees limit

theorem keeps_takeWeightCredit : Keeps takeWeightCredit := by
  intro origin message maxWeight properties passed h i hi
  simp only [takeWeightCredit, do_eq_ok] at h
  obtain ⟨_, _, rfl⟩ := h
  exact .inl hi

theorem eq_of_buysWeight {maxWeight : Weight} {inst bought : Instruction}
    (h : buysWeight maxWeight inst = .ok bought) :
    ∃ fees limit, bought = .buyExecution fees limit := by
  unfold buysWeight at h
  split at h
  · split at h
    · cases h
      exact ⟨_, _, rfl⟩
    · cases h
  · cases h
    exact ⟨_, _, rfl⟩
  · cases h

theorem keeps_allowTopLevelPaidExecution :
    Keeps allowTopLevelPaidExecution := by
  intro origin message maxWeight properties passed h i hi
  unfold allowTopLevelPaidExecution at h
  cases htake : message.take 5 with
  | nil => simp [htake] at h
  | cons first rest =>
      simp only [htake, do_eq_ok] at h
      obtain ⟨_, _, h⟩ := h
      cases hdrop : rest.dropWhile isClearOrigin with
      | nil => simp [hdrop] at h
      | cons =>
          simp only [hdrop, do_eq_ok] at h
          obtain ⟨bought, hbought, rfl⟩ := h
          -- Everything but what was bought stood in the message.
          have hwindow : ∀ i ∈ first :: rest, i ∈ message := fun i hi =>
            List.mem_of_mem_take (htake ▸ hi)
          simp only [List.mem_cons, List.mem_append, List.append_assoc,
            List.cons_append] at hi
          rcases hi with rfl | hi | rfl | hi | hi
          · exact .inl (hwindow _ List.mem_cons_self)
          · exact .inl (hwindow i (List.mem_cons_of_mem _
              ((List.takeWhile_sublist _).mem hi)))
          · exact .inr (eq_of_buysWeight hbought)
          · have hafter : i ∈ rest.dropWhile isClearOrigin := by
              rw [hdrop]
              exact List.mem_cons_of_mem _ hi
            exact .inl (hwindow i (List.mem_cons_of_mem _
              ((List.dropWhile_sublist _).mem hafter)))
          · exact .inl (List.mem_of_mem_drop hi)

theorem keeps_allowExplicitUnpaidExecution :
    Keeps allowExplicitUnpaidExecution := by
  intro origin message maxWeight properties passed h i hi
  simp only [allowExplicitUnpaidExecution, do_eq_ok] at h
  obtain ⟨_, h⟩ := h
  split at h
  · cases h
  · simp only [do_eq_ok] at h
    rw [← h.2] at hi
    exact .inl hi
  · rw [← pure_eq_ok.mp h] at hi
    exact .inl hi
  · cases h

theorem Keeps.withComputedOrigin {inner : ShouldExecute}
    (hinner : Keeps inner) (universal : List Junction) (maxPrefixes : Nat) :
    Keeps (withComputedOrigin inner universal maxPrefixes) := by
  intro origin message maxWeight properties passed h i hi
  simp only [Xcm.withComputedOrigin, do_eq_ok] at h
  obtain ⟨_, ⟨actual, skipped⟩, _, ⟨rest, properties'⟩, hrest, rfl⟩ := h
  rcases List.mem_append.mp hi with hi | hi
  · exact .inl (List.mem_of_mem_take hi)
  · exact (hinner _ _ _ _ _ hrest i hi).imp_left List.mem_of_mem_drop

theorem Keeps.eitherOf {first second : ShouldExecute} (h₁ : Keeps first)
    (h₂ : Keeps second) : Keeps (eitherOf first second) := by
  intro origin message maxWeight properties passed h
  unfold Xcm.eitherOf at h
  cases hfirst : first origin message maxWeight properties with
  | ok =>
      rw [hfirst] at h
      cases h
      exact h₁ _ _ _ _ _ hfirst
  | error e =>
      rw [hfirst] at h
      cases hsecond : second origin message maxWeight properties with
      | ok =>
          rw [hsecond] at h
          cases h
          exact h₂ _ _ _ _ _ hsecond
      | error =>
          rw [hsecond] at h
          cases h

/-- The message that the barrier lets through has no reserve transfer to the
relay chain among its own instructions, which stood in the original message or
buy weight. -/
theorem clean_of_barrier {parachainId : Nat} {origin : Location}
    {message : Program} {maxWeight : Weight} {properties : Properties}
    {passed : Program × Properties}
    (h : barrier parachainId origin message maxWeight properties =
      .ok passed) :
    ∀ i ∈ passed.1, denied i = false ∧
      (i ∈ message ∨ ∃ fees limit, i = .buyExecution fees limit) := by
  simp only [barrier, denyThenTry, denyReserveTransferToRelayChain,
    do_eq_ok] at h
  obtain ⟨_, ⟨_, ⟨_, hdeny, rfl⟩⟩, hallow⟩ := h
  have hkeeps := keeps_takeWeightCredit.eitherOf
    ((keeps_allowTopLevelPaidExecution.eitherOf
      keeps_allowExplicitUnpaidExecution).withComputedOrigin
        [.parachain parachainId] 8)
  intro i hi
  have hfrom := hkeeps _ _ _ _ _ hallow i hi
  refine ⟨?_, hfrom⟩
  rcases hfrom with hmem | ⟨_, _, rfl⟩
  · exact clean_of_denyLoop hdeny i hmem
  · rfl

end Thxnet.Xcm
