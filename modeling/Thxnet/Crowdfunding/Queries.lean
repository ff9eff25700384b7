import Thxnet.Crowdfunding.BasisPoints
import Thxnet.Crowdfunding.Counters
import Thxnet.Crowdfunding.Whitelist

/-!
# The runtime API against the calls

Two questions of the runtime API have an answer in a call: `check_eligibility`
in the check `invest` makes, and `preview_withdrawal` in `withdraw_investment`.
Each is written a second time in the API.  Here the two copies are compared.

The copy of the eligibility check reads an NFT rule differently: the call wants
one set that is owned as a whole, the API an item of every set.  So it may name
another rule than the one that fails, or none at all, and
`eligibility_agrees_iff` says when it does not.  The preview knows neither that
a paused campaign charges the penalty nor that a campaign which is neither
funding nor paused pays nothing (`preview_faithful_iff`).
-/

namespace Thxnet.Crowdfunding

open Thxnet.Lib Thxnet.Frame

variable {T : Config}

/-! ## The eligibility query -/

/-- The errors of `check_eligibility`. -/
inductive EligibilityError where
  | campaignNotFound
  | insufficientNativeBalance
  | insufficientAssetBalance
  | nftOwnershipNotMet
  | notWhitelisted
  deriving DecidableEq, Repr

/-- The error that stands for a rule. -/
def EligibilityRule.error : EligibilityRule T → EligibilityError
  | .nativeBalance _ => .insufficientNativeBalance
  | .assetBalance _ _ => .insufficientAssetBalance
  | .nftOwnership _ => .nftOwnershipNotMet
  | .accountWhitelist => .notWhitelisted

/-- Whether an item belongs to `who`. -/
def ownsItem (s : State T) (who : T.AccountId)
    (item : T.CollectionId × T.ItemId) : Bool :=
  match T.nftOwner s.world item.1 item.2 with
  | some owner => decide (owner = who)
  | none => false

/-- Whether `who` satisfies a rule, as `check_eligibility` evaluates it to find
the error. -/
def reportedPasses (s : State T) (who : T.AccountId) (campaignId : Nat) :
    EligibilityRule T → Bool
  | .nativeBalance minBalance =>
      decide (minBalance ≤ T.nativeCurrency.freeBalance s.world who)
  | .assetBalance assetId minBalance =>
      decide (minBalance ≤ T.fungibles.balance s.world assetId who)
  | .nftOwnership requiredSets =>
      requiredSets.toList.all fun set => set.toList.any (ownsItem s who)
  | .accountWhitelist => ((s.campaignWhitelist campaignId).get who).isSome

/-- The loop that finds the error, with its fallback. -/
def eligibilityError (s : State T) (who : T.AccountId) (campaignId : Nat) :
    List (EligibilityRule T) → EligibilityError
  | [] => .campaignNotFound
  | rule :: rest =>
      if reportedPasses s who campaignId rule then
        eligibilityError s who campaignId rest
      else rule.error

/-- `check_eligibility`. -/
def checkEligibility (s : State T) (campaignId : Nat) (who : T.AccountId) :
    Except EligibilityError Unit := do
  let campaign ← okOr (s.campaigns.get campaignId) .campaignNotFound
  (checkEligibilityInner s who campaignId
    campaign.eligibilityRules.toList).mapError fun _ =>
      eligibilityError s who campaignId campaign.eligibilityRules.toList

/-! ## What the checks say -/

variable {rule : EligibilityRule T}
    {after before rules : List (EligibilityRule T)} {amount id : Nat}
    {s : State T} {who : T.AccountId}

theorem checkEligibilityInner_eq_ok :
    checkEligibilityInner s who id rules = .ok () ↔
      ∀ rule ∈ rules, rulePasses s who id rule = true := by
  induction rules with
  | nil => exact iff_of_true rfl fun _ h => by cases h
  | cons rule rest ih =>
      simp only [checkEligibilityInner, do_eq_ok]
      rw [ih, List.forall_mem_cons]

/-- The error is that of the first rule the API finds unmet. -/
theorem eligibilityError_append
    (hbefore : ∀ r ∈ before, reportedPasses s who id r = true)
    (hrule : reportedPasses s who id rule = false) :
    eligibilityError s who id (before ++ rule :: after) = rule.error := by
  induction before with
  | nil => simp [eligibilityError, hrule]
  | cons r before ih =>
      obtain ⟨hr, hrest⟩ := List.forall_mem_cons.mp hbefore
      rw [List.cons_append, eligibilityError, if_pos hr]
      exact ih hrest

private theorem exists_first {α : Type} {p : α → Bool} {l : List α}
    (h : ∃ a ∈ l, p a = false) :
    ∃ before a after, l = before ++ a :: after ∧ (∀ b ∈ before, p b = true) ∧
      p a = false := by
  induction l with
  | nil =>
      obtain ⟨_, ha, _⟩ := h
      cases ha
  | cons x rest ih =>
      by_cases hx : p x = true
      · obtain ⟨a, ha, hpa⟩ := h
        have hrest : a ∈ rest := by
          rcases List.mem_cons.mp ha with rfl | ha
          · rw [hpa] at hx
            cases hx
          · exact ha
        obtain ⟨before, a', after, rfl, hbefore, ha'⟩ := ih ⟨a, hrest, hpa⟩
        exact ⟨x :: before, a', after, rfl,
          List.forall_mem_cons.mpr ⟨hx, hbefore⟩, ha'⟩
      · exact ⟨[], x, rest, rfl, by simp, Bool.eq_false_iff.mpr hx⟩

/-- Without an unmet rule the loop reaches its fallback. -/
theorem eligibilityError_of_forall
    (h : ∀ r ∈ rules, reportedPasses s who id r = true) :
    eligibilityError s who id rules = .campaignNotFound := by
  induction rules with
  | nil => rfl
  | cons r rest ih =>
      obtain ⟨hr, hrest⟩ := List.forall_mem_cons.mp h
      rw [eligibilityError, if_pos hr]
      exact ih hrest

/-! ## Where the two readings part -/

/-- Whether a rule asks for NFTs. -/
def EligibilityRule.isNft : EligibilityRule T → Bool
  | .nftOwnership _ => true
  | .nativeBalance _ => false
  | .assetBalance _ _ => false
  | .accountWhitelist => false

/-- Whether a rule asks for NFTs and `who` owns nothing of one of its sets. -/
def EligibilityRule.lacking (s : State T) (who : T.AccountId) :
    EligibilityRule T → Bool
  | .nftOwnership requiredSets =>
      requiredSets.toList.any fun set => !set.toList.any (ownsItem s who)
  | .nativeBalance _ => false
  | .assetBalance _ _ => false
  | .accountWhitelist => false

theorem EligibilityRule.isNft_of_lacking (h : rule.lacking s who = true) :
    rule.isNft = true := by
  cases rule with
  | nftOwnership => rfl
  | nativeBalance | assetBalance | accountWhitelist => cases h

theorem EligibilityRule.isNft_iff_error :
    rule.isNft = true ↔ rule.error = .nftOwnershipNotMet := by
  cases rule <;> simp [EligibilityRule.isNft, EligibilityRule.error]

/-- The API asks of an NFT rule that nothing of it is lacking, and of the others
what the call asks. -/
theorem reportedPasses_eq (hs : Listed s) (who : T.AccountId) (id : Nat)
    (rule : EligibilityRule T) :
    reportedPasses s who id rule =
      if rule.isNft then !rule.lacking s who else rulePasses s who id rule := by
  cases rule with
  | nativeBalance | assetBalance => rfl
  | nftOwnership sets =>
      show (sets.toList.all fun set => set.toList.any (ownsItem s who)) =
        !(sets.toList.any fun set => !set.toList.any (ownsItem s who))
      rw [List.not_any_eq_all_not]
      simp only [Bool.not_not]
  | accountWhitelist => exact hs.isSome_eq id who

/-- A rule that only the API finds unmet is about NFTs. -/
theorem isNft_of_reported (hs : Listed s)
    (hreport : reportedPasses s who id rule = false)
    (hpass : rule.isNft = false → rulePasses s who id rule = true) :
    rule.isNft = true := by
  by_contra hno
  have hno := Bool.eq_false_iff.mpr hno
  rw [reportedPasses_eq hs, if_neg (by simp [hno]), hpass hno] at hreport
  cases hreport

theorem reported_of_lacking (hs : Listed s) (id : Nat)
    (h : rule.lacking s who = true) : reportedPasses s who id rule = false := by
  rw [reportedPasses_eq hs, if_pos (EligibilityRule.isNft_of_lacking h), h]
  rfl

/-- The API speaks of NFTs exactly if something is lacking of an NFT rule
before which all other rules are met. -/
theorem eligibilityError_nft_iff (hs : Listed s) :
    eligibilityError s who id rules = .nftOwnershipNotMet ↔
      ∃ before rule after, rules = before ++ rule :: after ∧
        rule.lacking s who = true ∧
        ∀ r ∈ before, r.isNft = false → rulePasses s who id r = true := by
  have hread := reportedPasses_eq hs who id
  constructor
  · intro herr
    have hsome : ∃ r ∈ rules, reportedPasses s who id r = false := by
      by_contra hnone
      rw [eligibilityError_of_forall fun r hr => by
        by_contra hfail
        exact hnone ⟨r, hr, Bool.eq_false_iff.mpr hfail⟩] at herr
      cases herr
    obtain ⟨before, rule, after, rfl, hbefore, hrule⟩ := exists_first hsome
    rw [eligibilityError_append hbefore hrule] at herr
    have hkind := EligibilityRule.isNft_iff_error.mpr herr
    refine ⟨before, rule, after, rfl, ?_, ?_⟩
    · rw [hread, if_pos hkind] at hrule
      simpa using hrule
    · intro r hr hno
      have hmet := hbefore r hr
      rwa [hread, if_neg (by simp [hno])] at hmet
  · rintro ⟨before, rule, after, rfl, hlack, hothers⟩
    -- The API stops at this rule or before it, and then at an NFT rule too.
    obtain ⟨first, r, rest, hsplit, hfirst, hr⟩ := exists_first
      (l := before ++ [rule]) ⟨rule, by simp, reported_of_lacking hs id hlack⟩
    rw [List.append_cons, hsplit, List.append_assoc, List.cons_append,
      eligibilityError_append hfirst hr, ← EligibilityRule.isNft_iff_error]
    have hmem : r ∈ before ++ [rule] := by
      rw [hsplit]
      simp
    rcases List.mem_append.mp hmem with hmem | hmem
    · exact isNft_of_reported hs hr (hothers r hmem)
    · rw [List.mem_singleton.mp hmem]
      exact EligibilityRule.isNft_of_lacking hlack

/-- The API names a rule that is not about NFTs, the first unmet one, exactly if
nothing is lacking of the NFT rules before it. -/
theorem eligibilityError_other_iff (hs : Listed s)
    (hbefore : ∀ r ∈ before, rulePasses s who id r = true)
    (hrule : rulePasses s who id rule = false) (hkind : rule.isNft = false) :
    eligibilityError s who id (before ++ rule :: after) = rule.error ↔
      ∀ r ∈ before, r.lacking s who = false := by
  have hread := reportedPasses_eq hs who id
  constructor
  · intro herr r hr
    by_contra hlack
    have hlack : r.lacking s who = true := by simpa using hlack
    obtain ⟨first, r', rest, rfl, hfirst, hr'⟩ :=
      exists_first ⟨r, hr, reported_of_lacking hs id hlack⟩
    rw [List.append_assoc, List.cons_append,
      eligibilityError_append hfirst hr'] at herr
    have hkind' := isNft_of_reported hs hr' fun _ => hbefore r' (by simp)
    rw [EligibilityRule.isNft_iff_error, herr,
      ← EligibilityRule.isNft_iff_error, hkind] at hkind'
    cases hkind'
  · intro hmet
    refine eligibilityError_append (fun r hr => ?_) ?_
    · rw [hread]
      by_cases hr' : r.isNft = true
      · rw [if_pos hr', hmet r hr]
        rfl
      · rw [if_neg hr']
        exact hbefore r hr
    · rw [hread, if_neg (by simp [hkind])]
      exact hrule

/-- The two copies find the same rule: if the first unmet rule is not about
NFTs, nothing is lacking of the NFT rules before it; if it is, something is
lacking of an NFT rule before which all other rules are met. -/
def ReadsAlike (s : State T) (who : T.AccountId) (id : Nat)
    (rules : List (EligibilityRule T)) : Prop :=
  ∀ before rule after, rules = before ++ rule :: after →
    (∀ r ∈ before, rulePasses s who id r = true) →
    rulePasses s who id rule = false →
    if rule.isNft then
      ∃ before' rule' after', rules = before' ++ rule' :: after' ∧
        rule'.lacking s who = true ∧
        ∀ r ∈ before', r.isNft = false → rulePasses s who id r = true
    else ∀ r ∈ before, r.lacking s who = false

/-- So the API names the first unmet rule exactly if the copies read alike up to
it. -/
theorem eligibilityError_iff (hs : Listed s)
    (heq : rules = before ++ rule :: after)
    (hbefore : ∀ r ∈ before, rulePasses s who id r = true)
    (hrule : rulePasses s who id rule = false) :
    eligibilityError s who id rules = rule.error ↔
      if rule.isNft then
        ∃ before' rule' after', rules = before' ++ rule' :: after' ∧
          rule'.lacking s who = true ∧
          ∀ r ∈ before', r.isNft = false → rulePasses s who id r = true
      else ∀ r ∈ before, r.lacking s who = false := by
  by_cases hkind : rule.isNft = true
  · rw [if_pos hkind, EligibilityRule.isNft_iff_error.mp hkind]
    exact eligibilityError_nft_iff hs
  · rw [if_neg hkind, heq]
    exact eligibilityError_other_iff hs hbefore hrule
      (Bool.eq_false_iff.mpr hkind)

/-- What the API should answer about a campaign: what the call's own check
says, and else the first rule that this check finds unmet. -/
structure ApiAgrees (s : State T) (id : Nat) (who : T.AccountId)
    (rules : List (EligibilityRule T)) : Prop where
  ok_iff : checkEligibility s id who = .ok () ↔
    checkEligibilityInner s who id rules = .ok ()
  first_unmet : ∀ before rule after, rules = before ++ rule :: after →
    (∀ r ∈ before, rulePasses s who id r = true) →
    rulePasses s who id rule = false →
    checkEligibility s id who = .error rule.error
  found : checkEligibility s id who ≠ .error .campaignNotFound

theorem checkEligibility_of_get {c : Campaign T}
    (hget : s.campaigns.get id = some c) (who : T.AccountId) :
    checkEligibility s id who =
      (checkEligibilityInner s who id c.eligibilityRules.toList).mapError
        fun _ => eligibilityError s who id c.eligibilityRules.toList := by
  unfold checkEligibility
  rw [hget]
  rfl

/-- A rule that is unmet makes the query fail, with the error of the loop. -/
theorem checkEligibility_of_unmet {c : Campaign T}
    (hget : s.campaigns.get id = some c)
    (hmem : rule ∈ c.eligibilityRules.toList)
    (hrule : rulePasses s who id rule = false) :
    checkEligibility s id who =
      .error (eligibilityError s who id c.eligibilityRules.toList) := by
  rw [checkEligibility_of_get hget]
  cases hinner : checkEligibilityInner s who id c.eligibilityRules.toList with
  | ok =>
      rw [checkEligibilityInner_eq_ok.mp hinner rule hmem] at hrule
      cases hrule
  | error => rfl

/-- **Eligibility.**  The API agrees with the check of `invest` about an account
and a campaign exactly if the two copies read the rules alike. -/
theorem eligibility_agrees_iff {ok : State T → Action T → Prop} {s : State T}
    (hs : Reachable ok s) {id : Nat} {c : Campaign T}
    (hget : s.campaigns.get id = some c) (who : T.AccountId) :
    ApiAgrees s id who c.eligibilityRules.toList ↔
      ReadsAlike s who id c.eligibilityRules.toList := by
  have hlisted := listed_of_reachable hs
  have hunmet : ∀ before rule after,
      c.eligibilityRules.toList = before ++ rule :: after →
      rulePasses s who id rule = false →
      (checkEligibility s id who = .error rule.error ↔
        eligibilityError s who id c.eligibilityRules.toList = rule.error) := by
    intro before rule after heq hrule
    have hmem : rule ∈ c.eligibilityRules.toList := by
      rw [heq]
      simp
    rw [checkEligibility_of_unmet hget hmem hrule, Except.error.injEq]
  constructor
  · intro hagree before rule after heq hbefore hrule
    have herr := hagree.first_unmet before rule after heq hbefore hrule
    exact (eligibilityError_iff hlisted heq hbefore hrule).mp
      ((hunmet before rule after heq hrule).mp herr)
  · intro halike
    have hfirst : ∀ before rule after,
        c.eligibilityRules.toList = before ++ rule :: after →
        (∀ r ∈ before, rulePasses s who id r = true) →
        rulePasses s who id rule = false →
        checkEligibility s id who = .error rule.error := by
      intro before rule after heq hbefore hrule
      have hcond := halike before rule after heq hbefore hrule
      exact (hunmet before rule after heq hrule).mpr
        ((eligibilityError_iff hlisted heq hbefore hrule).mpr hcond)
    refine ⟨?_, hfirst, ?_⟩
    · rw [checkEligibility_of_get hget]
      exact mapError_eq_ok
    · intro hnotFound
      by_cases hall : ∀ r ∈ c.eligibilityRules.toList,
          rulePasses s who id r = true
      · rw [checkEligibility_of_get hget,
          checkEligibilityInner_eq_ok.mpr hall] at hnotFound
        cases hnotFound
      · have hsome : ∃ r ∈ c.eligibilityRules.toList,
            rulePasses s who id r = false := by simpa using hall
        obtain ⟨before, rule, after, heq, hbefore, hrule⟩ := exists_first hsome
        rw [hfirst before rule after heq hbefore hrule] at hnotFound
        cases rule <;> cases hnotFound

/-- A purse beside a collection whose items 0 belong to account 2. -/
abbrev gallery : Config :=
  { purse with
    nftOwner := fun _ _ item =>
      if item = (0 : Nat) then some (2 : Nat) else none }

/-- A campaign for owners of the items 0 and 1 of collection 1. -/
def galleryCampaign : Action gallery :=
  .call (.signed (1 : Nat)) (.createCampaign
    { fundingModel := .keepWhatYouRaise none
      fundingCurrency := .native
      deadline := 50
      hardCap := none
      minInvestment := none
      maxInvestmentPerInvestor := none
      earlyWithdrawalPenaltyBps := none }
    (some ⟨[.nftOwnership ⟨[⟨[((1 : Nat), (0 : Nat)), ((1 : Nat), (1 : Nat))],
      by decide⟩], by decide⟩], by decide⟩) none)

/-- The state with that campaign. -/
def galleryOpen : State gallery :=
  Transition.final step (State.genesis gallery (Purse.endowed (10 ^ 18)) 0)
    [galleryCampaign]

theorem galleryOpen_reachable : Reachable (fun _ _ => True) galleryOpen :=
  reachable_final ⟨_, _, rfl⟩ (fun _ _ _ => trivial) (by decide +kernel)

/-- Account 2 owns one of the two items and may not invest; the API says that
there is no such campaign. -/
theorem eligibility_misreported :
    ∃ s : State gallery, Reachable (fun _ _ => True) s ∧
      ∃ c, s.campaigns.get 0 = some c ∧
        checkEligibility s 0 (2 : Nat) = .error .campaignNotFound ∧
        ¬ ApiAgrees s 0 (2 : Nat) c.eligibilityRules.toList := by
  have hsome : (galleryOpen.campaigns.get 0).isSome = true := by decide +kernel
  obtain ⟨c, hget⟩ := Option.isSome_iff_exists.mp hsome
  have herr : checkEligibility galleryOpen 0 (2 : Nat) =
      .error .campaignNotFound := failure_eq_some.mp (by decide +kernel)
  exact ⟨galleryOpen, galleryOpen_reachable, c, hget, herr,
    fun hagree => hagree.found herr⟩

/-- About account 3, who owns neither item, it is right. -/
theorem eligibility_agrees_iff_empty_handed :
    ∃ c, galleryOpen.campaigns.get 0 = some c ∧
      ApiAgrees galleryOpen 0 (3 : Nat) c.eligibilityRules.toList := by
  obtain ⟨c, hget, hlack⟩ := exists_campaign (s := galleryOpen)
    (p := fun c => ∀ r ∈ c.eligibilityRules.toList,
      r.lacking galleryOpen (3 : Nat) = true) (by decide +kernel)
  refine ⟨c, hget,
    (eligibility_agrees_iff galleryOpen_reachable hget (3 : Nat)).mpr ?_⟩
  intro before rule after heq _ _
  have hkinds : ∀ r ∈ before ++ rule :: after, r.isNft = true := by
    intro r hr
    exact EligibilityRule.isNft_of_lacking (hlack r (heq ▸ hr))
  rw [if_pos (hkinds rule (by simp))]
  refine ⟨before, rule, after, heq, hlack rule (by rw [heq]; simp), ?_⟩
  intro r hr hno
  rw [hkinds r (by simp [hr])] at hno
  cases hno

/-! ## The withdrawal preview -/

/-- The answer of `preview_withdrawal`. -/
structure WithdrawalPreview where
  grossAmount : Nat
  penalty : Nat
  netAmount : Nat
  penaltyBps : Nat
  deriving DecidableEq, Repr

/-- The penalty rate the preview assumes. -/
def previewPenaltyBps (c : Campaign T) : Nat :=
  match c.status with
  | .funding => c.penaltyBps
  | _ => 0

/-- The penalty the preview computes from it. -/
def previewPenalty (amount penaltyBps : Nat) : Nat :=
  if 0 < penaltyBps then
    saturatingAdd 128 (saturatingMul 128 amount penaltyBps) 9999 / 10000
  else 0

/-- `preview_withdrawal`. -/
def previewWithdrawal (s : State T) (campaignId : Nat)
    (investor : T.AccountId) (amount : Nat) : Option WithdrawalPreview := do
  let campaign ← s.campaigns.get campaignId
  let investment ← (s.investments campaignId).get investor
  let remaining := investment.net
  if remaining < amount ∨ amount = 0 then none
  else
    let penaltyBps := previewPenaltyBps campaign
    let penalty := previewPenalty amount penaltyBps
    some
      { grossAmount := amount
        penalty := penalty
        netAmount := amount - penalty
        penaltyBps := penaltyBps }

/-- The two amounts `withdraw_investment` works out before it touches the
ledger. -/
structure WithdrawalQuote where
  penalty : Nat
  net : Nat

/-- `withdraw_investment` as far as the ledger: its checks, and the amounts. -/
def withdrawalQuote (s : State T) (investor : T.AccountId)
    (campaignId amount : Nat) : Except DispatchError WithdrawalQuote := do
  let campaign ← okOr (s.campaigns.get campaignId) (T.err .campaignNotFound)
  ensure (campaign.status = .funding ∨ campaign.status = .paused)
    (T.err .invalidCampaignStatus)
  ensure (amount ≠ 0) (T.err .insufficientInvestment)
  let inv ← okOr ((s.investments campaignId).get investor)
    (T.err .noInvestmentFound)
  ensure (amount ≤ inv.net) (T.err .insufficientInvestment)
  pure
    { penalty := bpsOf amount campaign.penaltyBps
      net := campaign.withdrawalNet amount }

theorem withdrawalQuote_eq_ok {q : WithdrawalQuote} :
    withdrawalQuote s who id amount = .ok q ↔
      ∃ c, s.campaigns.get id = some c ∧
        (c.status = .funding ∨ c.status = .paused) ∧ amount ≠ 0 ∧
        ∃ inv, (s.investments id).get who = some inv ∧ amount ≤ inv.net ∧
          ⟨bpsOf amount c.penaltyBps, c.withdrawalNet amount⟩ = q := by
  simp only [withdrawalQuote, do_eq_ok]

/-- The rest of `withdraw_investment` pays and burns these amounts. -/
theorem withdrawInvestment_quote_iff {w : T.World} :
    (∃ s', withdrawInvestment s (.signed who) id amount = .ok s' ∧
      s'.world = w) ↔
    ∃ q c w₁, withdrawalQuote s who id amount = .ok q ∧
      s.campaigns.get id = some c ∧
      doTransfer s.world c.config.fundingCurrency (T.campaignAccount id) who
        q.net .allowDeath = .ok w₁ ∧
      doBurn w₁ c.config.fundingCurrency (T.campaignAccount id) q.penalty
        .allowDeath = .ok w := by
  have hrecord : ∀ inv, (s.investments id).get who = some inv →
      s.investment id who = inv := by
    intro inv hinv
    rw [Books.investment, hinv]
    rfl
  constructor
  · rintro ⟨s', h, rfl⟩
    have hchecks := h
    simp only [withdrawInvestment, do_eq_ok, ensureSigned_eq_ok] at hchecks
    obtain ⟨_, hwho, c, hget, hstatus, hpos, inv, hinv, hle, _⟩ := hchecks
    cases hwho
    have hle' := hle
    rw [← hrecord inv hinv] at hle'
    obtain ⟨w₁, hpay, hburn⟩ :=
      (withdrawInvestment_iff hget hstatus hpos hle').mp ⟨s', h, rfl⟩
    exact ⟨_, c, w₁, withdrawalQuote_eq_ok.mpr
      ⟨c, hget, hstatus, hpos, inv, hinv, hle, rfl⟩, hget, hpay, hburn⟩
  · rintro ⟨q, c, w₁, hq, hget, hpay, hburn⟩
    obtain ⟨c', hget', hstatus, hpos, inv, hinv, hle, rfl⟩ :=
      withdrawalQuote_eq_ok.mp hq
    cases hget'.symm.trans hget
    rw [← hrecord inv hinv] at hle
    exact (withdrawInvestment_iff hget hstatus hpos hle).mpr ⟨w₁, hpay, hburn⟩

/-- The preview says what the call would do. -/
structure PreviewFaithful (s : State T) (id : Nat) (who : T.AccountId)
    (amount : Nat) : Prop where
  some_iff : (previewWithdrawal s id who amount).isSome = true ↔
    ∃ q, withdrawalQuote s who id amount = .ok q
  amounts : ∀ p q, previewWithdrawal s id who amount = some p →
    withdrawalQuote s who id amount = .ok q →
    p.penalty = q.penalty ∧ p.netAmount = q.net

/-- If the investor has that much in the campaign, it is funding, with a rate
the pallet does not have to clamp (or an amount for which the arithmetic
saturates either way), or it is paused and without penalty. -/
def Previewable (s : State T) (id : Nat) (who : T.AccountId)
    (amount : Nat) : Prop :=
  ∀ c inv, s.campaigns.get id = some c →
    (s.investments id).get who = some inv → amount ≠ 0 → amount ≤ inv.net →
    (c.status = .funding ∧
      (c.penaltyBps ≤ 10000 ∨ maxValue 128 / 10000 ≤ amount)) ∨
    (c.status = .paused ∧ c.penaltyBps = 0)

/-- The preview's penalty is the share rounded up, cut off at a constant. -/
theorem previewPenalty_eq (amount bps : Nat) :
    previewPenalty amount bps =
      min ((amount * bps) ⌈/⌉ 10000) (maxValue 128 / 10000) := by
  unfold previewPenalty saturatingAdd saturatingMul
  rw [Nat.ceilDiv_eq_add_pred_div]
  by_cases hzero : bps = 0
  · simp [hzero]
  · rw [if_pos (Nat.pos_of_ne_zero hzero)]
    generalize amount * bps = x
    have hmax : 10000 ≤ maxValue 128 := by decide
    generalize maxValue 128 = m at hmax ⊢
    omega

/-- It is the call's exactly if the rate is at most the whole, or the arithmetic
saturates. -/
theorem previewPenalty_eq_iff {bps : Nat} (hpos : amount ≠ 0) :
    previewPenalty amount bps = bpsOf amount bps ↔
      bps ≤ 10000 ∨ maxValue 128 / 10000 ≤ amount := by
  rw [previewPenalty_eq, bpsOf_eq]
  by_cases hle : bps ≤ 10000
  · rw [Nat.min_eq_left hle]
    exact iff_of_true rfl (.inl hle)
  · -- The call's share is the amount, the preview's is more.
    have hwhole : (amount * min bps 10000) ⌈/⌉ 10000 = amount := by
      rw [Nat.min_eq_right (by omega), Nat.ceilDiv_eq_add_pred_div]
      omega
    have hmore : amount < (amount * bps) ⌈/⌉ 10000 := by
      have hmul : amount * 10001 ≤ amount * bps :=
        Nat.mul_le_mul_left amount (by omega)
      rw [Nat.ceilDiv_eq_add_pred_div]
      omega
    rw [hwhole]
    generalize maxValue 128 / 10000 = cut
    generalize (amount * bps) ⌈/⌉ 10000 = share at hmore ⊢
    omega

theorem previewWithdrawal_eq_some {p : WithdrawalPreview} :
    previewWithdrawal s id who amount = some p ↔
      ∃ c, s.campaigns.get id = some c ∧
        ∃ inv, (s.investments id).get who = some inv ∧ amount ≠ 0 ∧
          amount ≤ inv.net ∧
          ⟨amount, previewPenalty amount (previewPenaltyBps c),
            amount - previewPenalty amount (previewPenaltyBps c),
            previewPenaltyBps c⟩ = p := by
  simp only [previewWithdrawal, Option.bind_eq_bind, Option.bind_eq_some_iff]
  refine exists_congr fun c => and_congr_right fun _ => exists_congr fun inv =>
    and_congr_right fun _ => ?_
  by_cases hnone : inv.net < amount ∨ amount = 0
  · rw [if_pos hnone]
    refine iff_of_false (fun h => by cases h) ?_
    rintro ⟨hpos, hle, _⟩
    omega
  · rw [if_neg hnone, Option.some.injEq]
    have hpos : amount ≠ 0 ∧ amount ≤ inv.net := by omega
    simp [hpos.1, hpos.2]

/-- **Preview.**  The preview of a withdrawal is faithful exactly if what is
asked for is previewable. -/
theorem preview_faithful_iff (s : State T) (id : Nat) (who : T.AccountId)
    (amount : Nat) :
    PreviewFaithful s id who amount ↔ Previewable s id who amount := by
  constructor
  · intro hfaithful c inv hget hinv hpos hle
    have hpreview := previewWithdrawal_eq_some.mpr
      ⟨c, hget, inv, hinv, hpos, hle, rfl⟩
    obtain ⟨q, hq⟩ := hfaithful.some_iff.mp (Option.isSome_iff_exists.mpr
      ⟨_, hpreview⟩)
    obtain ⟨hpenalty, _⟩ := hfaithful.amounts _ q hpreview hq
    obtain ⟨c', hget', hstatus, _, _, _, _, rfl⟩ := withdrawalQuote_eq_ok.mp hq
    cases hget'.symm.trans hget
    dsimp only at hpenalty
    rcases hstatus with hfunding | hpaused
    · refine .inl ⟨hfunding, (previewPenalty_eq_iff hpos).mp ?_⟩
      rwa [previewPenaltyBps, hfunding] at hpenalty
    · refine .inr ⟨hpaused, (bpsOf_eq_zero_iff hpos).mp ?_⟩
      rw [previewPenaltyBps, hpaused] at hpenalty
      exact hpenalty.symm
  · intro hwell
    refine ⟨?_, ?_⟩
    · rw [Option.isSome_iff_exists]
      constructor
      · rintro ⟨p, hp⟩
        obtain ⟨c, hget, inv, hinv, hpos, hle, _⟩ :=
          previewWithdrawal_eq_some.mp hp
        have hstatus : c.status = .funding ∨ c.status = .paused :=
          (hwell c inv hget hinv hpos hle).imp And.left And.left
        exact ⟨_, withdrawalQuote_eq_ok.mpr
          ⟨c, hget, hstatus, hpos, inv, hinv, hle, rfl⟩⟩
      · rintro ⟨q, hq⟩
        obtain ⟨c, hget, _, hpos, inv, hinv, hle, _⟩ :=
          withdrawalQuote_eq_ok.mp hq
        exact ⟨_, previewWithdrawal_eq_some.mpr
          ⟨c, hget, inv, hinv, hpos, hle, rfl⟩⟩
    · intro p q hp hq
      obtain ⟨c, hget, _, hpos, inv, hinv, hle, rfl⟩ :=
        withdrawalQuote_eq_ok.mp hq
      obtain ⟨c', hget', _, _, _, _, rfl⟩ := previewWithdrawal_eq_some.mp hp
      cases hget'.symm.trans hget
      have hpenalty : previewPenalty amount (previewPenaltyBps c) =
          bpsOf amount c.penaltyBps := by
        rcases hwell c inv hget hinv hpos hle with ⟨hst, hbps⟩ | ⟨hst, hbps⟩
        · rw [previewPenaltyBps, hst]
          exact (previewPenalty_eq_iff hpos).mpr hbps
        · rw [previewPenaltyBps, hst, hbps]
          rfl
      refine ⟨hpenalty, ?_⟩
      rw [Campaign.withdrawalNet, ← hpenalty]

/-- A campaign in which account 2 has invested 100, paused by root. -/
def pausedCampaign : State purse :=
  purseAfter [openCampaign, signedBy 2 (.invest 0 100),
    byRoot (.pauseCampaign 0)]

/-- The preview promises all of it, and the call burns one percent. -/
theorem preview_without_penalty :
    Reachable (fun _ _ => True) pausedCampaign ∧
      previewWithdrawal pausedCampaign 0 (2 : Nat) 100 = some ⟨100, 0, 100, 0⟩ ∧
      withdrawalQuote pausedCampaign (2 : Nat) 0 100 = .ok ⟨1, 99⟩ ∧
      ¬ PreviewFaithful pausedCampaign 0 (2 : Nat) 100 := by
  have hpreview : previewWithdrawal pausedCampaign 0 (2 : Nat) 100 =
      some ⟨100, 0, 100, 0⟩ := by decide +kernel
  have hquote : withdrawalQuote pausedCampaign (2 : Nat) 0 100 =
      .ok ⟨1, 99⟩ := by
    obtain ⟨q, hq, hamounts⟩ := succeedsWith_iff.mp (show succeedsWith
      (withdrawalQuote pausedCampaign (2 : Nat) 0 100)
      (fun q => q.penalty = 1 ∧ q.net = 99) = true by decide +kernel)
    obtain ⟨hpenalty, hnet⟩ := of_decide_eq_true hamounts
    rw [hq]
    cases q
    cases hpenalty
    cases hnet
    rfl
  refine ⟨purseAfter_reachable (fun _ _ _ => trivial) (by decide +kernel),
    hpreview, hquote, fun hfaithful => ?_⟩
  obtain ⟨hpenalty, _⟩ := hfaithful.amounts _ _ hpreview hquote
  cases hpenalty

end Thxnet.Crowdfunding
