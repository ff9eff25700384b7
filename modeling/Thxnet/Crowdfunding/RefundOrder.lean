import Thxnet.Crowdfunding.Backed
import Thxnet.Crowdfunding.Bookkeeping

/-!
# The order of refunds

A campaign that failed, or was cancelled before anything was disbursed, owes
each investor the net contribution and the creator the deposit.  In the native
currency all of it lies in one account of the balances pallet, and every claim
may kill that account: a rest below the existential deposit is destroyed, or
kept back where something still refers to the account, and whoever comes later
is not paid.

`refund_order_iff` says exactly when the order of the claims does not matter.
The claims of the parties are followed against the abstract account of
`Thxnet.Lib.Draining`, which they refine (`allPaid_iff_drain`).
-/

namespace Thxnet.Crowdfunding

open Thxnet.Lib Thxnet.Lib.Draining Thxnet.Frame

variable {T : Config}

/-! ## Claims -/

/-- Those a campaign that is over still has to pay. -/
inductive Party (A : Type) where
  | investor (who : A)
  | creator
  deriving DecidableEq

/-- The account of a party. -/
def Party.who {A : Type} (creator : A) : Party A → A
  | .investor who => who
  | .creator => creator

/-- The claim of a party. -/
def Party.request (id : Nat) (creator : T.AccountId) :
    Party T.AccountId → Action T
  | .investor who => .call (.signed who) (.claimRefund id)
  | .creator => .call (.signed creator) (.claimCreationDeposit id)

/-- What a party is owed: the net contribution or the deposit. -/
def Books.due (b : Books T) (id : Nat) (c : Campaign T) :
    Party T.AccountId → Nat
  | .investor who => (b.investment id who).net
  | .creator => c.creationDeposit

/-- The parties claim in this order, and each one receives its amount. -/
def AllPaid (id : Nat) (creator : T.AccountId)
    (amount : Party T.AccountId → Nat) :
    State T → List (Party T.AccountId) → Prop
  | _, [] => True
  | s, p :: rest =>
      ∃ s', step s (p.request id creator) = .ok s' ∧
        T.nativeCurrency.freeBalance s'.world (p.who creator) =
          T.nativeCurrency.freeBalance s.world (p.who creator) + amount p ∧
        AllPaid id creator amount s' rest

/-- The books after a party has been paid. -/
def Books.settle (b : Books T) (id : Nat) (c : Campaign T) (w : T.World) :
    Party T.AccountId → Books T
  | .investor who =>
      { b with
        world := w
        investments := b.investments.remove id who
        investorCampaigns := b.dropCampaign id who
        campaigns := b.campaigns.insert id
          { c with investorCount := c.investorCount - 1 } }
  | .creator =>
      { b with
        world := w
        campaigns := b.campaigns.insert id { c with creationDeposit := 0 } }

/-! ## A campaign that pays its debts in full -/

/-- A native campaign that is over, with nothing disbursed. -/
structure Campaign.PaysBack (c : Campaign T) : Prop where
  status : c.status = .failed ∨ c.status = .cancelled
  undisbursed : c.totalDisbursed = 0
  native : c.config.fundingCurrency = .native

variable {B : BalancesBacked T} {c : Campaign T} {l : List (Party T.AccountId)}
    {held id limit : Nat} {p : Party T.AccountId}
    {amount : Party T.AccountId → Nat} {s : State T}

theorem Campaign.PaysBack.refund (h : c.PaysBack) (inv : Investment) :
    c.refund inv = inv.net := by
  unfold Campaign.refund
  rw [if_neg (fun hboth => hboth.1 h.undisbursed)]

theorem Campaign.PaysBack.depositRequirement (h : c.PaysBack) :
    depositRequirement c = .allowDeath := by
  unfold Crowdfunding.depositRequirement
  rw [h.native]

private theorem record_of_due {b : Books T} {who : T.AccountId}
    (h : (b.investment id who).net ≠ 0) :
    ∃ inv, (b.investments id).get who = some inv := by
  cases hget : (b.investments id).get who with
  | some inv => exact ⟨inv, rfl⟩
  | none =>
      unfold Books.investment at h
      rw [hget] at h
      exact absurd rfl h

private theorem doTransfer_native {w : T.World} {source dest : T.AccountId}
    {amount : Nat} (hpos : amount ≠ 0) (req : ExistenceRequirement) :
    doTransfer w .native source dest amount req =
      T.nativeCurrency.transfer w source dest amount req := by
  unfold doTransfer transferWith
  rw [if_neg hpos]

/-- The claim of a party succeeds exactly when the transfer of what it is owed
does, and settles its debt. -/
theorem request_eq_ok (hget : s.campaigns.get id = some c) (hc : c.PaysBack)
    (hdue : s.toBooks.due id c p ≠ 0) {b : Books T} :
    (∃ s', step s (p.request id c.creator) = .ok s' ∧ s'.toBooks = b) ↔
      ∃ w, T.nativeCurrency.transfer s.world (T.campaignAccount id)
          (p.who c.creator) (s.toBooks.due id c p) .allowDeath = .ok w ∧
        s.toBooks.settle id c w p = b := by
  cases p with
  | investor who =>
      obtain ⟨inv, hinv⟩ := record_of_due hdue
      have hnet : s.toBooks.due id c (.investor who) = inv.net :=
        congrArg Investment.net (investment_eq hinv)
      rw [hnet] at hdue ⊢
      simp only [step, dispatch, Party.request, Party.who, claimRefund,
        do_eq_ok, ensureSigned_eq_ok]
      constructor
      · rintro ⟨s', ⟨who', hwho, c₁, hget₁, _, inv₁, hinv₁, _, _, w, hpay,
          rfl⟩, rfl⟩
        cases hwho
        cases hget.symm.trans hget₁
        cases hinv.symm.trans hinv₁
        rw [hc.refund, hc.native, doTransfer_native hdue] at hpay
        exact ⟨w, hpay, rfl⟩
      · rintro ⟨w, hpay, rfl⟩
        refine ⟨_, ⟨who, rfl, c, hget, hc.status, inv, hinv, hdue, ?_, w, ?_,
          rfl⟩, rfl⟩
        · rw [hc.refund]
          exact hdue
        · rw [hc.refund, hc.native, doTransfer_native hdue]
          exact hpay
  | creator =>
      have hrefundable : c.status = .completed ∨ c.status = .failed ∨
          c.status = .cancelled := .inr hc.status
      simp only [step, dispatch, Party.request, Party.who, claimCreationDeposit,
        do_eq_ok, ensureSigned_eq_ok]
      constructor
      · rintro ⟨s', ⟨who, hwho, c₁, hget₁, _, _, _, w, hpay, rfl⟩, rfl⟩
        cases hwho
        cases hget.symm.trans hget₁
        rw [hc.depositRequirement] at hpay
        exact ⟨w, hpay, rfl⟩
      · rintro ⟨w, hpay, rfl⟩
        refine ⟨_, ⟨c.creator, rfl, c, hget, rfl, hrefundable, hdue, w, ?_,
          rfl⟩, rfl⟩
        rw [hc.depositRequirement]
        exact hpay

/-! ## Following the claims -/

/-- What holds while the parties of `l` have still to be paid, out of a
sub-account that can spend `held` and loses a rest below `limit`. -/
structure Refunding (B : BalancesBacked T) (s : State T) (id : Nat)
    (c : Campaign T) (amount : Party T.AccountId → Nat)
    (l : List (Party T.AccountId)) (held limit : Nat) : Prop where
  get : s.campaigns.get id = some c
  paysBack : c.PaysBack
  sound : (B.get s.world).Sound B.rules
  spends : ((B.get s.world).info (T.campaignAccount id)).spendable B.rules =
    held
  loses : held = 0 ∨
    ((B.get s.world).info (T.campaignAccount id)).dustLimit B.rules = limit
  nodup : l.Nodup
  due : ∀ p ∈ l, s.toBooks.due id c p = amount p
  pos : ∀ p ∈ l, amount p ≠ 0
  live : ∀ p ∈ l, B.rules.existentialDeposit ≤
    ((B.get s.world).info (p.who c.creator)).data.free
  outside : ∀ p ∈ l, p.who c.creator ≠ T.campaignAccount id

/-- The campaign after a party has been paid. -/
def Campaign.settled (c : Campaign T) : Party T.AccountId → Campaign T
  | .investor _ => { c with investorCount := c.investorCount - 1 }
  | .creator => { c with creationDeposit := 0 }

theorem Campaign.PaysBack.settled (h : c.PaysBack) (p : Party T.AccountId) :
    (c.settled p).PaysBack := by
  cases p <;> exact ⟨h.status, h.undisbursed, h.native⟩

theorem settled_creator (c : Campaign T) (p : Party T.AccountId) :
    (c.settled p).creator = c.creator := by
  cases p <;> rfl

theorem settle_campaign (b : Books T) (id : Nat) (c : Campaign T) (w : T.World)
    (p : Party T.AccountId) :
    (b.settle id c w p).campaigns.get id = some (c.settled p) ∧
      (b.settle id c w p).world = w := by
  cases p <;> exact ⟨StorageMap.get_insert_self .., rfl⟩

theorem due_settle (b : Books T) (id : Nat) (c : Campaign T) (w : T.World)
    {q : Party T.AccountId} (hne : q ≠ p) :
    (b.settle id c w p).due id (c.settled p) q = b.due id c q := by
  cases p with
  | creator =>
      cases q with
      | creator => exact absurd rfl hne
      | investor => rfl
  | investor who =>
      cases q with
      | creator => rfl
      | investor who' =>
          have hwho : who' ≠ who := fun h => hne (congrArg Party.investor h)
          simp [Books.due, Books.settle, Books.investment, hwho]

/-- A covered claim is paid, and the claims after it go on with what is left. -/
theorem Refunding.pay (h : Refunding B s id c amount (p :: l) held limit)
    (hle : amount p ≤ held) :
    ∃ s', step s (p.request id c.creator) = .ok s' ∧
      T.nativeCurrency.freeBalance s'.world (p.who c.creator) =
        T.nativeCurrency.freeBalance s.world (p.who c.creator) + amount p ∧
      Refunding B s' id (c.settled p) amount l (restAfter limit held (amount p))
        limit := by
  have hp : p ∈ p :: l := List.mem_cons_self
  have hdue := h.due p hp
  have hpos := h.pos p hp
  have hne := h.outside p hp
  have hlive := h.live p hp
  have hlimit := h.loses.resolve_left (by omega)
  obtain ⟨x, hx, hsound, hdest, hothers, hspend, hkeeps⟩ :=
    Balances.transfer_covered h.sound hne.symm hpos
      (by rw [h.spends]; exact hle) (by omega) .allowDeath nofun
  rw [h.spends, hlimit] at hspend
  rw [hspend, hlimit] at hkeeps
  obtain ⟨s', hstep, hbooks⟩ := (request_eq_ok h.get h.paysBack
    (by rw [hdue]; exact hpos)).mpr ⟨B.put s.world x, by
      rw [hdue]
      exact B.transfer_eq_ok.mpr ⟨x, hx, rfl⟩, rfl⟩
  obtain ⟨hget', hworld'⟩ := settle_campaign s.toBooks id c (B.put s.world x) p
  have hworld : B.get s'.world = x := by
    rw [← B.get_put s.world x, ← hworld', ← hbooks]
  refine ⟨s', hstep, ?_, ?_⟩
  · rw [B.free, B.free, hworld]
    exact hdest
  · refine
      { get := by rw [hbooks]; exact hget'
        paysBack := h.paysBack.settled p
        sound := by rw [hworld]; exact hsound
        spends := by rw [hworld]; exact hspend
        loses := by rw [hworld]; exact hkeeps
        nodup := h.nodup.of_cons
        due := fun q hq => ?_
        pos := fun q hq => h.pos q (List.mem_cons_of_mem p hq)
        live := fun q hq => ?_
        outside := fun q hq => ?_ }
    · have hqp : q ≠ p := by
        rintro rfl
        exact (List.nodup_cons.mp h.nodup).1 hq
      rw [hbooks, due_settle _ _ _ _ hqp]
      exact h.due q (List.mem_cons_of_mem p hq)
    · rw [hworld, settled_creator]
      have hq' := List.mem_cons_of_mem p hq
      have hlive' := h.live q hq'
      by_cases hsame : q.who c.creator = p.who c.creator
      · rw [hsame, hdest]
        omega
      · rw [hothers _ (h.outside q hq') hsame]
        exact hlive'
    · rw [settled_creator]
      exact h.outside q (List.mem_cons_of_mem p hq)

theorem Refunding.refuse (h : Refunding B s id c amount (p :: l) held limit)
    (hlt : held < amount p) (s' : State T) :
    step s (p.request id c.creator) ≠ .ok s' := by
  intro hstep
  have hp : p ∈ p :: l := List.mem_cons_self
  have hdue := h.due p hp
  obtain ⟨w, hpay, _⟩ := (request_eq_ok h.get h.paysBack
    (by rw [hdue]; exact h.pos p hp)).mp ⟨s', hstep, rfl⟩
  obtain ⟨x, hx, _⟩ := B.transfer_eq_ok.mp hpay
  rw [hdue] at hx
  exact Balances.transfer_lacking (h.outside p hp).symm
    (by rw [h.spends]; exact hlt) _ x hx

/-- The claims are all paid exactly when the abstract account pays them. -/
theorem allPaid_iff_drain (h : Refunding B s id c amount l held limit) :
    AllPaid id c.creator amount s l ↔
      (drain limit held (l.map amount)).isSome := by
  induction l generalizing s c held with
  | nil => exact ⟨fun _ => rfl, fun _ => trivial⟩
  | cons p l ih =>
      rw [List.map_cons, drain]
      by_cases hle : amount p ≤ held
      · obtain ⟨s', hstep, hfree, hrest⟩ := h.pay hle
        have hih := ih hrest
        rw [settled_creator] at hih
        rw [if_pos hle, ← hih]
        constructor
        · rintro ⟨s₁, hstep₁, _, hall⟩
          cases hstep.symm.trans hstep₁
          exact hall
        · intro hall
          exact ⟨s', hstep, hfree, hall⟩
      · rw [if_neg hle]
        constructor
        · rintro ⟨s₁, hstep₁, _⟩
          exact absurd hstep₁ (h.refuse (Nat.not_le.mp hle) s₁)
        · intro hnone
          cases hnone

/-! ## Every order -/

/-- The parties of a native campaign that failed, or was cancelled with nothing
disbursed, get what they are owed in every order of their claims exactly when
the sub-account can spend it all and either one party is left or no single
amount, with the surplus of the sub-account, is below the rest that is lost.
For a sub-account that nothing else refers to, that is its balance and the
existential deposit. -/
theorem refund_order_iff (B : BalancesBacked T) {s : State T}
    (hs : AdmittedReachable s) (hsound : (B.get s.world).Sound B.rules)
    {id : Nat} {c : Campaign T} (hget : s.campaigns.get id = some c)
    (hphase : c.status = .failed ∨
      (c.status = .cancelled ∧ c.totalDisbursed = 0))
    (hnative : c.config.fundingCurrency = .native)
    {l : List (Party T.AccountId)} (hnodup : l.Nodup)
    (hl : ∀ p, p ∈ l ↔ s.toBooks.due id c p ≠ 0)
    (hlive : ∀ p ∈ l, B.rules.existentialDeposit ≤
      T.nativeCurrency.freeBalance s.world (p.who c.creator)) :
    (∀ l' : List (Party T.AccountId), l'.Perm l →
      AllPaid id c.creator (s.toBooks.due id c) s l') ↔
      Orderly
        (((B.get s.world).info (T.campaignAccount id)).dustLimit B.rules)
        (((B.get s.world).info (T.campaignAccount id)).spendable B.rules)
        (l.map (s.toBooks.due id c)) := by
  have hid := (fresh_of_reachable hs).id_lt hget
  have hpays : c.PaysBack := by
    rcases hphase with hst | ⟨hst, hzero⟩
    · have hzero := (totals_of_reachable hs hget).undisbursed
        (by rw [hst]; rfl)
      exact ⟨.inl hst, hzero, hnative⟩
    · exact ⟨.inr hst, hzero, hnative⟩
  have houtside : ∀ p ∈ l, p.who c.creator ≠ T.campaignAccount id := by
    intro p hp
    cases p with
    | creator => exact creator_outsider hs hget id hid
    | investor who =>
        obtain ⟨inv, hinv⟩ := record_of_due ((hl _).mp hp)
        exact @owner_outsider T s hs id who (by rw [hinv]; rfl) id hid
  have hstart : ∀ l' : List (Party T.AccountId), l'.Perm l →
      Refunding B s id c (s.toBooks.due id c) l' _ _ :=
    fun l' hperm =>
      { get := hget
        paysBack := hpays
        sound := hsound
        spends := rfl
        loses := .inr rfl
        nodup := hperm.nodup_iff.mpr hnodup
        due := fun _ _ => rfl
        pos := fun p hp => (hl p).mp (hperm.mem_iff.mp hp)
        live := fun p hp => by
          rw [← B.free]
          exact hlive p (hperm.mem_iff.mp hp)
        outside := fun p hp => houtside p (hperm.mem_iff.mp hp) }
  rw [← forall_perm_drain_iff
    fun p hp => Nat.pos_of_ne_zero ((hl p).mp hp)]
  exact forall_congr' fun l' => forall_congr' fun hperm =>
    allPaid_iff_drain (hstart l' hperm)

/-! ## Two failed campaigns -/

/-- A campaign with a goal of 1000 gets these investments from accounts 2 and 3,
and fails. -/
def failedWith (first second : Nat) : List (Action bank) :=
  [ signedBy 1 (.createCampaign (mockConfig (.allOrNothing 1000) .native 50)
      none none),
    signedBy 2 (.invest 0 first),
    signedBy 3 (.invest 0 second),
    byRoot (.forceFinalizeCampaign 0) ]

/-- With investments of 100 and 1 and an existential deposit of 10, the small
investor is paid when first, and not paid when last: the rest of 1 is destroyed
by the claim before. -/
theorem refund_order_matters :
    AdmittedReachable (bankAfter (failedWith 100 1)) ∧
    ∃ c : Campaign bank,
      (bankAfter (failedWith 100 1)).campaigns.get 0 = some c ∧
      c.status = .failed ∧ c.config.fundingCurrency = .native ∧
      (∀ who ∈ ([1, 2, 3] : List Nat), bankRules.existentialDeposit ≤
        bank.nativeCurrency.freeBalance
          (bankAfter (failedWith 100 1)).world who) ∧
      (Transition.exec step (bankAfter (failedWith 100 1))
        [ signedBy 3 (.claimRefund 0), signedBy 2 (.claimRefund 0),
          signedBy 1 (.claimCreationDeposit 0) ]).isOk = true ∧
      failure (Transition.exec step (bankAfter (failedWith 100 1))
        [ signedBy 1 (.claimCreationDeposit 0), signedBy 2 (.claimRefund 0),
          signedBy 3 (.claimRefund 0) ]) =
        some (.token .fundsUnavailable) := by
  refine ⟨reachable_final ⟨_, _, rfl⟩ (mock_admitted (by decide +kernel))
    (by decide +kernel), ?_⟩
  exact exists_campaign (by decide +kernel)

/-- The parties of the campaigns above. -/
def threeParties : List (Party Nat) := [.creator, .investor 2, .investor 3]

/-- With investments of 100 and 50 everybody is paid in every order. -/
theorem refund_order_iff_fifty :
    ∃ c : Campaign bank,
      (bankAfter (failedWith 100 50)).campaigns.get 0 = some c ∧
      ∀ l' : List (Party Nat), l'.Perm threeParties →
        AllPaid 0 c.creator ((bankAfter (failedWith 100 50)).toBooks.due 0 c)
          (bankAfter (failedWith 100 50)) l' := by
  obtain ⟨c, hget, hst, hcurrency, hdues, hlive, horderly⟩ :
      ∃ c : Campaign bank,
        (bankAfter (failedWith 100 50)).campaigns.get 0 = some c ∧
        c.status = .failed ∧ c.config.fundingCurrency = .native ∧
        (∀ p ∈ threeParties,
          (bankAfter (failedWith 100 50)).toBooks.due 0 c p ≠ 0) ∧
        (∀ p ∈ threeParties, bankRules.existentialDeposit ≤
          bank.nativeCurrency.freeBalance (bankAfter (failedWith 100 50)).world
            (p.who c.creator)) ∧
        Orderly
          (((bankAfter (failedWith 100 50)).world.native.info
            (bank.campaignAccount 0)).dustLimit bankRules)
          (((bankAfter (failedWith 100 50)).world.native.info
            (bank.campaignAccount 0)).spendable bankRules)
          (threeParties.map
            ((bankAfter (failedWith 100 50)).toBooks.due 0 c)) :=
    exists_campaign (by decide +kernel)
  have hs : AdmittedReachable (bankAfter (failedWith 100 50)) :=
    reachable_final ⟨_, _, rfl⟩ (mock_admitted (by decide +kernel))
      (by decide +kernel)
  have hsound : (bankAfter (failedWith 100 50)).world.native.Sound bankRules :=
    Balances.sound_of_keys (by decide +kernel) (by decide +kernel)
      (by decide +kernel)
  have hkeys : ((bankAfter (failedWith 100 50)).investments 0).keys =
      {2, 3} := by decide +kernel
  have hl : ∀ p, p ∈ threeParties ↔
      (bankAfter (failedWith 100 50)).toBooks.due 0 c p ≠ 0 := by
    intro p
    cases p with
    | creator => exact iff_of_true (by decide) (hdues .creator (by decide))
    | investor who =>
        constructor
        · exact hdues (.investor who)
        · intro hdue
          obtain ⟨inv, hinv⟩ := record_of_due hdue
          have hmem := (((bankAfter (failedWith 100 50)).investments 0).mem_keys
            who).mpr (by rw [hinv]; rfl)
          rw [hkeys] at hmem
          simpa [threeParties] using hmem
  exact ⟨c, hget, (refund_order_iff bankBacked hs hsound hget (.inl hst)
    hcurrency (by decide) hl hlive).mpr horderly⟩

end Thxnet.Crowdfunding
