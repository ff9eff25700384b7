import Thxnet.Proxy.Pallet

/-!
# What delegates can do together

An account whose own key stays out of it can only be acted for by its
delegates, and its delegates can only be changed by calls made for it.  A
`Group` is one delegate with accounts that are not delegates of the account at
the start, and with everybody these can act as.  Whatever the group signs, those
of its members that become delegates have a type that lies below a type of the
one delegate, and every call dispatched for the account has passed the filter of
such a type.
-/

namespace Thxnet.Proxy

open Thxnet.Lib Thxnet.Frame

variable {T P : Type} {R : Config T P}

/-- `is_superset` is a preorder, and only the default type is above the
default. -/
structure InstanceFilter.Ordered {C : Type} (F : InstanceFilter T C) :
    Prop where
  refl : ∀ a, F.isSuperset a a = true
  trans : ∀ a b c, F.isSuperset a b = true → F.isSuperset b c = true →
    F.isSuperset a c = true
  top : ∀ a, F.isSuperset a F.default = true → a = F.default

/-- Accounts of which only `delegate` is a delegate of `real`.  They include
whoever one of them is a delegate of, and everybody who has announced calls. -/
structure Group (s : State R) (real delegate : R.AccountId)
    (group : R.AccountId → Prop) : Prop where
  own : ∀ d ∈ s.delegates real, group d.delegate → d.delegate = delegate
  acts : ∀ who, ∀ d ∈ s.delegates who, group d.delegate → group who
  announced : ∀ who, (s.announcements.get who).isSome = true → group who

/-- The account acts only through delegates: it is not the pseudonym of an
account of the group, nor a pure account that one is only making at that place
of the chain.  These belong to the group. -/
structure Delegating (R : Config T P) (group : R.AccountId → Prop)
    (real : R.AccountId) (blockNumber extrinsicIndex : Nat) : Prop where
  derivative : ∀ who index, group who →
    group (R.derivativeAccountId who index) ∧
      R.derivativeAccountId who index ≠ real
  pure : ∀ who proxyType index, group who →
    group (R.pureAccount who proxyType index (blockNumber, extrinsicIndex)) ∧
      R.pureAccount who proxyType index (blockNumber, extrinsicIndex) ≠ real

/-- What is watched: the calls that a group of accounts gets dispatched for
`real`, of which one of the group had the definitions `initial`. -/
structure Watch (R : Config T P) where
  types : InstanceFilter T R.Call
  initial : List (ProxyDefinition R.AccountId T)
  group : R.AccountId → Prop
  real : R.AccountId

namespace Watch

variable (W : Watch R)

/-- The type lies below that of one of the definitions. -/
def Derived (t : T) : Prop :=
  ∃ d ∈ W.initial, W.types.isSuperset d.proxyType t = true

/-- For whom a delegate of the group acts is in the group, and whoever of the
group acts for the account has a derived type. -/
def Permitted (who : R.AccountId) (t : T) : Prop :=
  W.group who ∧ (who = W.real → W.Derived t)

/-- The delegates of the group are permitted. -/
structure Confined (blockNumber extrinsicIndex : Nat) (s : State R) :
    Prop where
  permitted : ∀ who, ∀ d ∈ s.delegates who, W.group d.delegate →
    W.Permitted who d.proxyType
  announced : ∀ who, (s.announcements.get who).isSome = true → W.group who
  block : s.blockNumber = blockNumber
  extrinsic : s.extrinsicIndex = extrinsicIndex

variable [DecidableEq T]

/-- The origin is one of the group.  What its filter lets pass for the account,
the filter of a derived type does too. -/
def Bounded (o : RuntimeOrigin R) : Prop :=
  W.group o.caller ∧ (o.caller = W.real → ∃ t, W.Derived t ∧
    ∀ c, o.filter c = true → admits W.types t c = true)

/-- A call dispatched for the account has passed the filter of a derived
type. -/
def Passed (e : Dispatched R) : Prop :=
  e.caller = W.real → ∃ t, W.Derived t ∧ admits W.types t e.call = true

/-- The outcome of a call is as it should be. -/
abbrev Good (n i : Nat) (x : Outcome R) : Prop :=
  x.Keeps W.Passed (W.Confined n i)

end Watch

/-! ## The calls that change delegates -/

theorem mem_insertDefinition {A : Type} [Ord A] [Ord T]
    {d e : ProxyDefinition A T} {l : List (ProxyDefinition A T)} :
    e ∈ insertDefinition d l ↔ e = d ∨ e ∈ l := by
  unfold insertDefinition
  constructor
  · intro h
    rcases List.mem_append.mp h with h | h
    · exact .inr ((List.takeWhile_sublist _).mem h)
    · rcases List.mem_cons.mp h with h | h
      · exact .inl h
      · exact .inr ((List.dropWhile_sublist _).mem h)
  · rintro (rfl | h)
    · exact List.mem_append_right _ List.mem_cons_self
    · rw [← List.takeWhile_append_dropWhile
        (p := fun e => ProxyDefinition.compare e d == .lt) (l := l)] at h
      rcases List.mem_append.mp h with h | h
      · exact List.mem_append_left _ h
      · exact List.mem_append_right _ (List.mem_cons_of_mem _ h)

theorem adjustDeposit_eq {s s' : State R} {who : R.AccountId} {old new : Nat}
    (h : adjustDeposit s who old new = .ok s') :
    ∃ world, s' = { s with world := world } := by
  unfold adjustDeposit at h
  by_cases hgt : new > old
  · rw [if_pos hgt] at h
    obtain ⟨world, _, h⟩ := bind_eq_ok.mp h
    exact ⟨world, (pure_eq_ok.mp h).symm⟩
  · rw [if_neg hgt] at h
    by_cases hlt : new < old
    · rw [if_pos hlt] at h
      cases h
      exact ⟨_, rfl⟩
    · rw [if_neg hlt] at h
      cases h
      exact ⟨s.world, rfl⟩

section Steps

variable {W : Watch R} {n i : Nat} {s s' : State R}

variable {delay : Nat} {delegate who : R.AccountId} {proxyType : T}

theorem delegates_congr (h : s'.proxies.get who = s.proxies.get who) :
    s'.delegates who = s.delegates who := by
  unfold State.delegates State.proxiesOf
  rw [h]

theorem delegates_of_some {x : R.Delegates} (h : s.proxies.get who = some x) :
    s.delegates who = x.1.toList := by
  unfold State.delegates State.proxiesOf
  rw [h, Option.getD_some]

theorem delegates_of_none (h : s.proxies.get who = none) :
    s.delegates who = [] := by
  unfold State.delegates State.proxiesOf
  rw [h, Option.getD_none]
  rfl

theorem admits_addProxy [DecidableEq T] {t : T}
    (h : admits W.types t (.proxy (.addProxy delegate proxyType delay)) =
      true) : W.types.isSuperset t proxyType = true := by
  unfold admits at h
  by_contra hsup
  rw [Bool.not_eq_true] at hsup
  simp [hsup] at h

section Confined

variable (hs : W.Confined n i s)
include hs

theorem Watch.Confined.change (who : R.AccountId) (world : R.World)
    {proxies : StorageMap R.AccountId R.Delegates}
    (hother : ∀ x, x ≠ who → proxies.get x = s.proxies.get x)
    (hmem : ∀ x, proxies.get who = some x → ∀ d ∈ x.1.toList,
      d ∈ s.delegates who ∨ W.Permitted who d.proxyType) :
    W.Confined n i { s with proxies := proxies, world := world } := by
  refine ⟨fun x d hd hgroup => ?_, hs.announced, hs.block, hs.extrinsic⟩
  by_cases hx : x = who
  · subst hx
    cases hget : proxies.get x with
    | none =>
        rw [delegates_of_none hget] at hd
        cases hd
    | some y =>
        rw [delegates_of_some hget] at hd
        rcases hmem y hget d hd with hd | hd
        · exact hs.permitted x d hd hgroup
        · exact hd
  · rw [delegates_congr (hother x hx)] at hd
    exact hs.permitted x d hd hgroup

theorem Watch.Confined.frame (hproxies : s'.proxies = s.proxies)
    (hannouncements : s'.announcements = s.announcements)
    (hblock : s'.blockNumber = s.blockNumber)
    (hext : s'.extrinsicIndex = s.extrinsicIndex) : W.Confined n i s' := by
  refine ⟨fun who d hd => ?_, fun who => ?_, hblock.trans hs.block,
    hext.trans hs.extrinsic⟩
  · rw [delegates_congr (congrArg (StorageMap.get · who) hproxies)] at hd
    exact hs.permitted who d hd
  · rw [hannouncements]
    exact hs.announced who

theorem Watch.Confined.cleared (world : R.World) : W.Confined n i
    { s with proxies := s.proxies.remove who, world := world } := by
  refine hs.change who world (fun x hx => StorageMap.get_remove_ne _ hx) ?_
  intro x hx
  rw [StorageMap.get_remove_self] at hx
  cases hx

theorem addProxyDelegate_confined [DecidableEq T] [Ord T]
    {delegator delegatee : R.AccountId}
    (htype : W.Permitted delegator proxyType)
    (h : addProxyDelegate s delegator delegatee proxyType delay = .ok s') :
    W.Confined n i s' := by
  simp only [addProxyDelegate, do_eq_ok] at h
  obtain ⟨_, _, proxies, hfrom, s₁, hdep, rfl⟩ := h
  obtain ⟨world, rfl⟩ := adjustDeposit_eq hdep
  refine (hs.change delegator world
    (fun x hx => StorageMap.get_insert_ne _ _ hx) ?_).frame rfl rfl rfl rfl
  intro x hx d hd
  rw [StorageMap.get_insert_self] at hx
  cases hx
  rw [BoundedVec.toList_of_tryFrom hfrom, mem_insertDefinition] at hd
  rcases hd with rfl | hd
  · exact .inr htype
  · exact .inl hd

theorem removeProxyDelegate_confined [DecidableEq T]
    {delegator delegatee : R.AccountId}
    (h : removeProxyDelegate s delegator delegatee proxyType delay = .ok s') :
    W.Confined n i s' := by
  simp only [removeProxyDelegate, do_eq_ok] at h
  obtain ⟨⟨proxies, old⟩, hget, _, s₁, hdep, rfl⟩ := h
  obtain ⟨world, rfl⟩ := adjustDeposit_eq hdep
  by_cases hempty : (proxies.removeFirst ⟨delegatee, proxyType, delay⟩).toList
      = []
  · simp only [hempty, if_true]
    exact (hs.cleared world).frame rfl rfl rfl rfl
  · simp only [hempty, if_false]
    refine (hs.change delegator world
      (fun x hx => StorageMap.get_insert_ne _ _ hx) ?_).frame rfl rfl rfl rfl
    intro x hx d hd
    rw [StorageMap.get_insert_self] at hx
    cases hx
    rw [delegates_of_some hget]
    exact .inl (List.mem_of_mem_erase hd)

theorem createPure_confined {index : Nat}
    (hreal : Delegating R W.group W.real n i) (hwho : W.group who)
    (h : createPure s who proxyType delay index = .ok s') :
    W.Confined n i s' := by
  simp only [createPure, do_eq_ok] at h
  obtain ⟨_, bounded, _, world, _, rfl⟩ := h
  have hpure := hreal.pure who proxyType index hwho
  rw [← hs.block, ← hs.extrinsic] at hpure
  refine (hs.change _ world
    (fun x hx => StorageMap.get_insert_ne _ _ hx) ?_).frame rfl rfl rfl rfl
  exact fun _ _ _ _ => .inr ⟨hpure.1, fun h => absurd h hpure.2⟩

theorem killPure_confined {spawner : R.AccountId} {index height extIndex : Nat}
    (h : killPure s who spawner proxyType index height extIndex = .ok s') :
    W.Confined n i s' := by
  simp only [killPure, do_eq_ok] at h
  obtain ⟨_, rfl⟩ := h
  exact hs.cleared _

theorem Watch.Confined.announce (hwho : W.group who) (world : R.World)
    {announcements : StorageMap R.AccountId R.Pending}
    (hother : ∀ x, x ≠ who → announcements.get x = s.announcements.get x) :
    W.Confined n i
      { s with announcements := announcements, world := world } := by
  refine ⟨hs.permitted, fun x hx => ?_, hs.block, hs.extrinsic⟩
  by_cases heq : x = who
  · rw [heq]
    exact hwho
  · exact hs.announced x (hother x heq ▸ hx)

theorem announce_confined {account : R.AccountId} {callHash : R.CallHash}
    (hwho : W.group who) (h : announce s who account callHash = .ok s') :
    W.Confined n i s' := by
  simp only [announce, do_eq_ok] at h
  obtain ⟨_, pending, _, s₁, hdep, rfl⟩ := h
  obtain ⟨world, rfl⟩ := adjustDeposit_eq hdep
  exact (hs.announce hwho world
    fun x hx => StorageMap.get_insert_ne _ _ hx).frame rfl rfl rfl rfl

theorem editAnnouncements_confined
    {f : Announcement R.AccountId R.CallHash → Bool}
    (h : editAnnouncements s delegate f = .ok s') :
    W.group delegate ∧ W.Confined n i s' := by
  simp only [editAnnouncements, do_eq_ok] at h
  obtain ⟨⟨pending, old⟩, hget, _, s₁, hdep, rfl⟩ := h
  obtain ⟨world, rfl⟩ := adjustDeposit_eq hdep
  have hgroup := hs.announced delegate (by rw [hget]; rfl)
  refine ⟨hgroup, hs.announce hgroup world fun x hx => ?_⟩
  split
  · exact StorageMap.get_remove_ne _ hx
  · exact StorageMap.get_insert_ne _ _ hx

/-! ## Proxied calls -/

/-- The origin made for a delegate found is bounded by a derived type. -/
theorem findProxy_bounded [DecidableEq T] {account : R.AccountId}
    {force : Option T} {d : ProxyDefinition R.AccountId T}
    (hgroup : W.group delegate)
    (h : findProxy s account delegate force = .ok d) :
    W.Bounded ⟨account, admits W.types d.proxyType⟩ := by
  have hfind := okOr_eq_ok.mp h
  have hdelegate : d.delegate = delegate := by
    have := List.find?_some hfind
    simp only [Bool.and_eq_true, decide_eq_true_eq] at this
    exact this.1
  obtain ⟨haccount, hderived⟩ := hs.permitted account d
    (List.mem_of_find?_eq_some hfind) (hdelegate ▸ hgroup)
  exact ⟨haccount, fun hreal => ⟨d.proxyType, hderived hreal, fun _ hc => hc⟩⟩

end Confined

end Steps

/-! ## Whole calls -/

section Dispatch

variable [DecidableEq T] {W : Watch R} {n i : Nat}

theorem filtered_good {o : RuntimeOrigin R} {call : R.Call} {x : Outcome R}
    (ho : W.Bounded o) (hx : o.filter call = true → W.Good n i x) :
    W.Good n i (filtered o call x) := by
  refine .lift_bind fun _ h => ?_
  have hpass := ensure_eq_ok.mp h
  apply Journal.Keeps.bind (Q := fun _ => True)
  · apply Journal.Keeps.of_note
    intro hcaller
    obtain ⟨t, ht, hall⟩ := ho.2 hcaller
    exact ⟨t, ht, hall call hpass⟩
  · intro _ _
    exact hx hpass

theorem executed_good {s : State R} {x : Outcome R}
    (hs : W.Confined n i s) (hx : W.Good n i x) :
    W.Good n i (executed s x) := by
  constructor
  · exact hx.entries
  · intro s' hs'
    cases hs'
    exact (hx.recover hs).frame rfl rfl rfl rfl

theorem Watch.Bounded.addFilter {o : RuntimeOrigin R}
    (ho : W.Bounded o) (f : R.Call → Bool) : W.Bounded (o.addFilter f) := by
  refine ⟨ho.1, fun hcaller => ?_⟩
  obtain ⟨t, ht, hall⟩ := ho.2 hcaller
  refine ⟨t, ht, fun c hc => hall c ?_⟩
  exact (Bool.and_eq_true_iff.mp hc).1

section Calls

variable [Ord T] (hF : W.types.Ordered)
  (hreal : Delegating R W.group W.real n i)

include hF hreal

-- the linter does not see the uses through the other theorems of the block
set_option linter.unusedSectionVars false

mutual

theorem dispatch_good (o : RuntimeOrigin R)
    (ho : W.Bounded o) : (call : R.Call) → (s : State R) → W.Confined n i s →
      W.Good n i (dispatch W.types o call s)
  | .proxy c, s, hs => by
      unfold dispatch
      exact filtered_good ho fun hpass =>
        dispatchProxy_good o ho c s hpass hs
  | .utility c, s, hs => by
      unfold dispatch
      exact filtered_good ho fun _ => dispatchUtility_good o ho c s hs
  | .pallet c, s, hs => by
      unfold dispatch
      apply filtered_good ho
      intro _
      exact .lift_bind fun _ _ => .of_pure (hs.frame rfl rfl rfl rfl)

theorem dispatchProxy_good (o : RuntimeOrigin R)
    (ho : W.Bounded o) :
    (c : ProxyCall R.AccountId T R.CallHash R.Call) → (s : State R) →
      o.filter (.proxy c) = true → W.Confined n i s →
      W.Good n i (dispatchProxy W.types o c s)
  | .proxy account force call, s, _, hs => by
      unfold dispatchProxy
      refine .lift_bind fun d hd => .lift_bind fun _ _ => ?_
      exact executed_good hs
        (dispatch_good _ (findProxy_bounded hs ho.1 hd) call s hs)
  | .addProxy delegate proxyType delay, s, hpass, hs => by
      unfold dispatchProxy
      apply Journal.Keeps.of_lift
      intro s' h
      refine addProxyDelegate_confined hs ⟨ho.1, fun hcaller => ?_⟩ h
      obtain ⟨t, ⟨d, hd, hsup⟩, hall⟩ := ho.2 hcaller
      exact ⟨d, hd, hF.trans _ _ _ hsup (admits_addProxy (hall _ hpass))⟩
  | .removeProxy delegate proxyType delay, s, _, hs => by
      unfold dispatchProxy
      exact .of_lift fun _ h => removeProxyDelegate_confined hs h
  | .removeProxies, s, _, hs => by
      unfold dispatchProxy
      apply Journal.Keeps.of_lift
      intro s' h
      cases h
      exact hs.cleared _
  | .createPure proxyType delay index, s, _, hs => by
      unfold dispatchProxy
      exact .of_lift fun _ h => createPure_confined hs hreal ho.1 h
  | .killPure spawner proxyType index height extIndex, s, _, hs => by
      unfold dispatchProxy
      exact .of_lift fun _ h => killPure_confined hs h
  | .announce account callHash, s, _, hs => by
      unfold dispatchProxy
      exact .of_lift fun _ h => announce_confined hs ho.1 h
  | .removeAnnouncement account callHash, s, _, hs => by
      unfold dispatchProxy
      exact .of_lift fun _ h => (editAnnouncements_confined hs h).2
  | .rejectAnnouncement delegate callHash, s, _, hs => by
      unfold dispatchProxy
      exact .of_lift fun _ h => (editAnnouncements_confined hs h).2
  | .proxyAnnounced delegate account force call, s, _, hs => by
      unfold dispatchProxy
      refine .lift_bind fun d hd => .lift_bind fun s' h => ?_
      obtain ⟨hdelegate, hs'⟩ :=
        editAnnouncements_confined hs (mapError_eq_ok.mp h)
      exact executed_good hs'
        (dispatch_good _ (findProxy_bounded hs hdelegate hd) call s' hs')

theorem dispatchUtility_good (o : RuntimeOrigin R)
    (ho : W.Bounded o) : (c : UtilityCall R.Call) → (s : State R) →
      W.Confined n i s → W.Good n i (dispatchUtility W.types o c s)
  | .batch calls, s, hs => by
      unfold dispatchUtility
      exact .lift_bind fun _ _ => batch_good o ho calls s hs
  | .asDerivative index call, s, hs => by
      unfold dispatchUtility
      obtain ⟨hgroup, hne⟩ := hreal.derivative o.caller index ho.1
      exact dispatch_good _ ⟨hgroup, fun hcaller => absurd hcaller hne⟩ call s
        hs
  | .batchAll calls, s, hs => by
      unfold dispatchUtility
      exact .lift_bind fun _ _ => batchAll_good o ho calls s hs
  | .dispatchAs _, s, _ => by
      unfold dispatchUtility
      exact .of_lift fun _ h => by cases h
  | .forceBatch calls, s, hs => by
      unfold dispatchUtility
      exact .lift_bind fun _ _ => forceBatch_good o ho calls s hs
  | .withWeight _, s, _ => by
      unfold dispatchUtility
      exact .of_lift fun _ h => by cases h

theorem batch_good (o : RuntimeOrigin R)
    (ho : W.Bounded o) : (calls : List R.Call) →
      (s : State R) → W.Confined n i s → W.Good n i (batch W.types o calls s)
  | [], s, hs => by
      unfold batch
      exact .of_pure hs
  | call :: calls, s, hs => by
      unfold batch
      exact (dispatch_good o ho call s hs).bindOr hs
        fun s' hs' => batch_good o ho calls s' hs'

theorem batchAll_good (o : RuntimeOrigin R)
    (ho : W.Bounded o) : (calls : List R.Call) →
      (s : State R) → W.Confined n i s → W.Good n i (batchAll W.types o calls s)
  | [], s, hs => by
      unfold batchAll
      exact .of_pure hs
  | call :: calls, s, hs => by
      unfold batchAll
      exact (dispatch_good _ (ho.addFilter _) call s hs).bind
        fun s' hs' => batchAll_good o ho calls s' hs'

theorem forceBatch_good (o : RuntimeOrigin R)
    (ho : W.Bounded o) : (calls : List R.Call) →
      (s : State R) → W.Confined n i s →
      W.Good n i (forceBatch W.types o calls s)
  | [], s, hs => by
      unfold forceBatch
      exact .of_pure hs
  | call :: calls, s, hs => by
      unfold forceBatch
      have hx := dispatch_good o ho call s hs
      exact hx.andThen (forceBatch_good o ho calls _ (hx.recover hs))

end

end Calls

/-! ## Runs -/

/-- **Confinement.**  However the extrinsics of a group follow each other,
every call they get dispatched for the account has passed the filter of a type
below one that the group's delegate had at the start. -/
theorem attempts_passed [Ord T] (hF : F.Ordered) (s : State R)
    (real delegate : R.AccountId) {group : R.AccountId → Prop}
    (hgroup : Group s real delegate group) (extrinsics : List (Extrinsic R))
    (hother : ∀ x ∈ extrinsics, group x.who ∧ x.who ≠ real ∧
      Delegating R group real x.blockNumber x.extrinsicIndex) :
    ∀ p ∈ Transition.attempts (submit F) s extrinsics,
      ∀ e ∈ (apply F p.1 p.2).entries,
        (⟨F, (s.delegates real).filter (·.delegate = delegate), group, real⟩ :
          Watch R).Passed e := by
  let W : Watch R :=
    ⟨F, (s.delegates real).filter (·.delegate = delegate), group, real⟩
  have hgood : ∀ s' x, x ∈ extrinsics →
      W.Confined s'.blockNumber s'.extrinsicIndex s' →
      W.Good x.blockNumber x.extrinsicIndex (apply F s' x) := by
    intro s' x hx hs'
    obtain ⟨hwho, hne, hreal⟩ := hother x hx
    apply dispatch_good hF hreal
    · exact ⟨hwho, fun hcaller => absurd hcaller hne⟩
    · exact ⟨hs'.permitted, hs'.announced, rfl, rfl⟩
  have hstart : W.Confined s.blockNumber s.extrinsicIndex s := by
    refine ⟨fun who d hd hin => ⟨hgroup.acts who d hd hin, ?_⟩,
      hgroup.announced, rfl, rfl⟩
    rintro rfl
    refine ⟨d, ?_, hF.refl _⟩
    rw [List.mem_filter, decide_eq_true_eq]
    exact ⟨hd, hgroup.own d hd hin⟩
  intro p hp
  obtain ⟨hmem, hconfined⟩ := Transition.attempts_invariant
    (I := fun s' => W.Confined s'.blockNumber s'.extrinsicIndex s')
    (fun s' x s'' hx hs' h => by
      have hs'' := (hgood s' x hx hs').result s'' h
      exact ⟨hs''.permitted, hs''.announced, rfl, rfl⟩)
    hstart p hp
  exact (hgood p.1 p.2 hmem hconfined).entries

end Dispatch

end Thxnet.Proxy
