import Thxnet.Proxy.Confinement
import Thxnet.Proxy.Runtimes

/-!
# The lattice of proxy types

`is_superset` is meant to say that one proxy type admits whatever another does.
In each runtime it fails to, at one pair of types: `NonTransfer` counts as a
superset of every type but `Any`, and yet leaves out a call that one of them is
there for.  On the leafchain it is the judging of identities, on the rootchain
the registrar's calls beyond `register`, `deregister` and `reserve`.  A delegate
of type `NonTransfer` gets these calls after all, by adding a delegate of the
other type.
-/

namespace Thxnet.Proxy

open Thxnet.Lib Thxnet.Frame

/-! ## What is to hold -/

/-- Where `is_superset` holds, the filters follow it exactly where there is no
leak. -/
def SupersetsSound {T C : Type} (F : InstanceFilter T C)
    (leaks : T → T → C → Bool) : Prop :=
  ∀ a b c, (F.isSuperset a b = true → F.filter b c = true →
    F.filter a c = true) ↔ leaks a b c = false

/-- Whatever extrinsics a delegate's group submits, each call they get
dispatched for the account is one that a type of this delegate admits, unless
the call leaks from such a type. -/
def DelegatesConfined {T P : Type} [DecidableEq T] [Ord T] (R : Config T P)
    (F : InstanceFilter T R.Call) (leaks : T → T → R.Call → Bool) : Prop :=
  ∀ (s : State R) (real delegate : R.AccountId) (group : R.AccountId → Prop),
    Group s real delegate group → ∀ extrinsics : List (Extrinsic R),
    (∀ x ∈ extrinsics, group x.who ∧ x.who ≠ real ∧
      Delegating R group real x.blockNumber x.extrinsicIndex) →
    ∀ p ∈ Transition.attempts (submit F) s extrinsics,
      ∀ e ∈ (apply F p.1 p.2).entries, e.caller = real →
        (∀ d ∈ s.delegates real, d.delegate = delegate →
          ∀ b, leaks d.proxyType b e.call = false) →
        ∃ d ∈ s.delegates real, d.delegate = delegate ∧
          admits F d.proxyType e.call = true

/-! ## Sets of types with `any` and `nonTransfer` -/

section Superset

variable {T C : Type} [DecidableEq T]

theorem supersetOf_iff {any nonTransfer x y : T} :
    supersetOf any nonTransfer x y = true ↔
      x = y ∨ x = any ∨ y ≠ any ∧ x = nonTransfer := by
  unfold supersetOf
  by_cases hxy : x = y
  · simp [hxy]
  · by_cases hx : x = any
    · simp [hx]
    · by_cases hy : y = any <;> simp [hxy, hx, hy]

variable {F : InstanceFilter T C} (nonTransfer : T)
  (hF : F.isSuperset = supersetOf F.default nonTransfer)

include hF

theorem ordered_of_supersetOf : F.Ordered where
  refl := by
    intro a
    rw [hF, supersetOf_iff]
    exact .inl rfl
  trans := by
    intro a b c hab hbc
    rw [hF, supersetOf_iff] at hab hbc ⊢
    grind
  top := by
    intro a ha
    rw [hF, supersetOf_iff] at ha
    grind

/-- It is enough to compare the filters of `nonTransfer` and of the types that
are not `any`. -/
theorem supersetsSound_of_supersetOf (hany : ∀ c, F.filter F.default c = true)
    {leaks : T → T → C → Bool}
    (hleak : ∀ b c, b ≠ F.default →
      (!F.filter b c || F.filter nonTransfer c) = !leaks nonTransfer b c)
    (hnone : ∀ a b c, ¬ (b ≠ F.default ∧ a = nonTransfer) →
      leaks a b c = false) : SupersetsSound F leaks := by
  intro a b c
  by_cases hab : b ≠ F.default ∧ a = nonTransfer
  · obtain ⟨hb, rfl⟩ := hab
    have hsup : F.isSuperset a b = true := by
      rw [hF, supersetOf_iff]
      exact .inr (.inr ⟨hb, rfl⟩)
    have h := hleak b c hb
    grind
  · refine ⟨fun _ => hnone a b c hab, fun _ hsup hfilter => ?_⟩
    rw [hF, supersetOf_iff] at hsup
    rcases hsup with rfl | rfl | h
    · exact hfilter
    · exact hany c
    · exact absurd h hab

end Superset

/-! ## From filters to runs -/

section Confined

variable {T P : Type} [DecidableEq T]

/-- The filter of `do_proxy` follows `is_superset` where `filter` does. -/
theorem admits_of_superset {A H : Type}
    {F : InstanceFilter T (RuntimeCall A T H P)} (hF : F.Ordered) {a b : T}
    {c : RuntimeCall A T H P} (hab : F.isSuperset a b = true)
    (hfilter : F.filter b c = true → F.filter a c = true)
    (h : admits F b c = true) : admits F a c = true := by
  -- The default type may remove all delegates, and only it is above itself.
  have hdefault : b = F.default → a = F.default := by
    rintro rfl
    exact hF.top a hab
  cases c with
  | utility | pallet => exact hfilter h
  | proxy c =>
      cases c with
      | addProxy delegate proxyType | removeProxy delegate proxyType =>
          simp only [admits] at h ⊢
          have htrans := hF.trans a b proxyType hab
          grind
      | removeProxies | killPure =>
          simp only [admits] at h ⊢
          grind
      | proxy | createPure | announce | removeAnnouncement
      | rejectAnnouncement | proxyAnnounced => exact hfilter h

theorem delegatesConfined_of_sound [Ord T] {R : Config T P}
    {F : InstanceFilter T R.Call} {leaks : T → T → R.Call → Bool}
    (hF : F.Ordered) (hsound : SupersetsSound F leaks) :
    DelegatesConfined R F leaks := by
  intro s real delegate group hgroup extrinsics hother p hp e he hcaller hleak
  obtain ⟨b, ⟨d, hd, hsup⟩, hadmits⟩ :=
    attempts_passed hF s real delegate hgroup extrinsics hother p hp e he
      hcaller
  rw [List.mem_filter, decide_eq_true_eq] at hd
  refine ⟨d, hd.1, hd.2, admits_of_superset hF hsup ?_ hadmits⟩
  exact (hsound d.proxyType b e.call).mpr (hleak d hd.1 hd.2 b) hsup

end Confined

/-! ## The two runtimes -/

section Leaks

variable {A H : Type}

/-- The call that `IdentityJudgement` admits on the leafchain and
`NonTransfer` does not. -/
def Leafchain.leaks (a b : ProxyType)
    (c : RuntimeCall A ProxyType H PalletCall) : Bool :=
  match a, b, c with
  | .nonTransfer, .identityJudgement,
      .pallet (.identity .provideJudgement _) => true
  | _, _, _ => false

/-- The calls that `Auction` admits on the rootchain and `NonTransfer` does
not. -/
def Rootchain.leaks (a b : ProxyType)
    (c : RuntimeCall A ProxyType H PalletCall) : Bool :=
  match a, b, c with
  | .nonTransfer, .auction, .pallet (.registrar call _) =>
      call != .register && call != .deregister && call != .reserve
  | _, _, _ => false

theorem Leafchain.supersetsSound :
    SupersetsSound (instanceFilter A H) leaks := by
  apply supersetsSound_of_supersetOf .nonTransfer rfl
  · intro c
    rfl
  · intro b c hb
    cases c with
    | utility => cases b <;> first | contradiction | rfl
    | proxy c => cases b <;> first | contradiction | rfl | (cases c <;> rfl)
    | pallet c =>
        cases c with
        | of pallet =>
            cases b <;> first | contradiction | (cases pallet <;> rfl)
        | identity call =>
            cases b <;> first | contradiction | (cases call <;> rfl)
  · intro a b c hab
    cases a <;> cases b <;>
      first | rfl | exact absurd ⟨(fun h => by cases h), rfl⟩ hab

theorem Rootchain.supersetsSound :
    SupersetsSound (instanceFilter A H) leaks := by
  apply supersetsSound_of_supersetOf .nonTransfer rfl
  · intro c
    rfl
  · intro b c hb
    cases c with
    | utility => cases b <;> first | contradiction | rfl
    | proxy c => cases b <;> first | contradiction | rfl | (cases c <;> rfl)
    | pallet c =>
        cases c with
        | of pallet =>
            cases b <;> first | contradiction | (cases pallet <;> rfl)
        | identity call | indices call | vesting call | registrar call =>
            cases b <;> first | contradiction | (cases call <;> rfl)
  · intro a b c hab
    cases a <;> cases b <;>
      first | rfl | exact absurd ⟨(fun h => by cases h), rfl⟩ hab

end Leaks

/-- **The proxy types of the two runtimes.**  `is_superset` and the filters
agree exactly away from the leaks, and away from them no delegate gets calls
dispatched that no type it was given admits. -/
theorem proxy_types_sound_iff (A H : Type)
    (L : Config Leafchain.ProxyType Leafchain.PalletCall)
    (R : Config Rootchain.ProxyType Rootchain.PalletCall) :
    SupersetsSound (Leafchain.instanceFilter A H) Leafchain.leaks ∧
    SupersetsSound (Rootchain.instanceFilter A H) Rootchain.leaks ∧
    DelegatesConfined L (Leafchain.instanceFilter L.AccountId L.CallHash)
      Leafchain.leaks ∧
    DelegatesConfined R (Rootchain.instanceFilter R.AccountId R.CallHash)
      Rootchain.leaks := by
  refine ⟨Leafchain.supersetsSound, Rootchain.supersetsSound, ?_, ?_⟩
  · exact delegatesConfined_of_sound
      (ordered_of_supersetOf .nonTransfer rfl)
      Leafchain.supersetsSound
  · exact delegatesConfined_of_sound
      (ordered_of_supersetOf .nonTransfer rfl)
      Rootchain.supersetsSound

/-! ## A run on a small chain -/

section Example

variable (T P : Type)

/-- A chain on which deposits cost nothing. -/
abbrev smallChain : Config T P where
  AccountId := Nat
  CallHash := Unit
  World := Unit
  decAccountId := inferInstance
  decCallHash := inferInstance
  ordAccountId := inferInstance
  currency :=
    { minimumBalance := 0
      freeBalance := fun _ _ => 0
      transfer := fun _ _ _ _ _ => .ok ()
      withdraw := fun _ _ _ _ _ => .ok ()
      reserve := fun _ _ _ => .ok ()
      unreserve := fun _ _ _ => () }
  callHash := fun _ => ()
  pureAccount := fun who _ index _ => 1000 + who + index
  derivativeAccountId := fun who index => 1000 + who + index
  execute := fun _ _ _ => .ok ()
  maxProxies := 32
  maxPending := 32
  proxyDepositBase := 0
  proxyDepositFactor := 0
  announcementDepositBase := 0
  announcementDepositFactor := 0
  batchedCallsLimit := 10
  systemIndex := 0
  proxyIndex := 29
  utilityIndex := 4

variable {T P}

/-- Account 1 has accounts 2 and 5 as delegates. -/
def delegated (t u : T) : State (smallChain T P) where
  proxies := StorageMap.empty.insert 1 (⟨[⟨2, t, 0⟩, ⟨5, u, 0⟩], by
    show 2 ≤ 32
    omega⟩, 0)
  announcements := .empty
  events := []
  world := ()
  blockNumber := 0
  extrinsicIndex := 0

/-- Account 2 makes account 3 a delegate of the given type as well, and
account 3 makes the given call. -/
def escalation (t : T) (c : P) : List (Extrinsic (smallChain T P)) :=
  [⟨1, 0, 2, .proxy (.proxy 1 none (.proxy (.addProxy 3 t 0)))⟩,
    ⟨2, 0, 3, .proxy (.proxy 1 none (.pallet c))⟩]

/-- The calls that a list of extrinsics gets dispatched for account 1. -/
def dispatchedForOne [DecidableEq T] [Ord T]
    (F : InstanceFilter T (smallChain T P).Call) (s : State (smallChain T P))
    (extrinsics : List (Extrinsic (smallChain T P))) :
    List (smallChain T P).Call :=
  ((Transition.attempts (submit F) s extrinsics).flatMap fun p =>
    (apply F p.1 p.2).entries.filter fun e => e.caller = 1).map
      Dispatched.call

theorem group_delegated (t u : T) :
    Group (delegated (P := P) t u) 1 2 (· ≠ (5 : Nat)) where
  own := by
    intro d hd hne
    rcases List.mem_cons.mp hd with rfl | hd
    · rfl
    · rw [List.mem_singleton.mp hd] at hne
      exact absurd rfl hne
  acts := by
    rintro who d hd - rfl
    cases hd
  announced := by
    intro who hwho
    cases hwho

theorem delegating_smallChain (n i : Nat) :
    Delegating (smallChain T P) (· ≠ (5 : Nat)) 1 n i where
  derivative := by
    intro (who : Nat) index _
    show (1000 + who + index : Nat) ≠ 5 ∧ (1000 + who + index : Nat) ≠ 1
    omega
  pure := by
    intro (who : Nat) proxyType index _
    show (1000 + who + index : Nat) ≠ 5 ∧ (1000 + who + index : Nat) ≠ 1
    omega

end Example

/-- A delegate of type `NonTransfer` that adds one of type `Staking` stays
within its own type, beside a delegate of type `Any`. -/
theorem proxy_types_sound_iff_staking :
    let session : (smallChain Leafchain.ProxyType Leafchain.PalletCall).Call :=
      .pallet (.of .session [])
    dispatchedForOne (Leafchain.instanceFilter Nat Unit)
        (delegated .nonTransfer .any) (escalation .staking (.of .session [])) =
      [.proxy (.addProxy 3 .staking 0), session] ∧
    ∃ d ∈ (delegated (P := Leafchain.PalletCall)
        Leafchain.ProxyType.nonTransfer .any).delegates 1, d.delegate = 2 ∧
      admits (Leafchain.instanceFilter Nat Unit) d.proxyType session =
        true := by
  refine ⟨rfl, ?_⟩
  refine (proxy_types_sound_iff Nat Unit (smallChain _ _)
    (smallChain _ _)).2.2.1 (delegated .nonTransfer .any) 1 2 _
    (group_delegated _ _) (escalation .staking (.of .session [])) ?_
    (Transition.attempt (submit (Leafchain.instanceFilter Nat Unit))
      (delegated .nonTransfer .any)
      ⟨1, 0, 2, .proxy (.proxy 1 none (.proxy (.addProxy 3 .staking 0)))⟩,
      ⟨2, 0, 3, .proxy (.proxy 1 none (.pallet (.of .session [])))⟩)
    (.tail _ (.head _)) ⟨1, .pallet (.of .session [])⟩ (.tail _ (.head _))
    rfl ?_
  · intro x hx
    simp only [escalation, List.mem_cons, List.not_mem_nil, or_false] at hx
    rcases hx with rfl | rfl
    all_goals exact ⟨by decide, by decide, delegating_smallChain _ _⟩
  · intro d hd _ b
    cases d.proxyType <;> cases b <;> rfl

/-- `NonTransfer` is a superset of `IdentityJudgement` on the leafchain and of
`Auction` on the rootchain.  It admits neither the judging of identities there
nor a swap of slots here, but its delegate gets both dispatched. -/
theorem nonTransfer_escalates :
    let judge : Leafchain.PalletCall := .identity .provideJudgement []
    let swap : Rootchain.PalletCall := .registrar .swap []
    (Leafchain.isSuperset .nonTransfer .identityJudgement = true ∧
      Leafchain.filter (A := Nat) (H := Unit) .identityJudgement
        (.pallet judge) = true ∧
      Leafchain.filter (A := Nat) (H := Unit) .nonTransfer
        (.pallet judge) = false ∧
      dispatchedForOne (Leafchain.instanceFilter Nat Unit)
          (delegated .nonTransfer .any)
          (escalation .identityJudgement judge) =
        [.proxy (.addProxy 3 .identityJudgement 0), .pallet judge]) ∧
    (Rootchain.isSuperset .nonTransfer .auction = true ∧
      Rootchain.filter (A := Nat) (H := Unit) .auction
        (.pallet swap) = true ∧
      Rootchain.filter (A := Nat) (H := Unit) .nonTransfer
        (.pallet swap) = false ∧
      dispatchedForOne (Rootchain.instanceFilter Nat Unit)
          (delegated .nonTransfer .any) (escalation .auction swap) =
        [.proxy (.addProxy 3 .auction 0), .pallet swap]) :=
  ⟨⟨rfl, rfl, rfl, rfl⟩, rfl, rfl, rfl, rfl⟩

end Thxnet.Proxy
