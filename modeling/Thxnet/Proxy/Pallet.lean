import Thxnet.Frame.Support
import Thxnet.Lib.Journal
import Thxnet.Lib.Listing
import Thxnet.Lib.Transition

/-!
# The proxy pallet

`pallet_proxy` of the framework, with the calls of `pallet_utility` that
dispatch further calls for their caller.  An account names delegates, each with
a type, and a delegate has calls dispatched for that account.  Every such call,
and every call inside it that is dispatched with the same origin, has to pass
the filter `do_proxy` puts on the origin.

Only signed origins occur: a proxied call always has one.  Calls of the other
pallets are given by what they do to the rest of the storage; of those that
dispatch further calls for other accounts only that effect is kept.  The base
filter of both runtimes is `Everything`.
-/

namespace Thxnet.Proxy

open Thxnet.Lib Thxnet.Frame

/-! ## Calls -/

/-- `pallet_proxy::Call`. -/
inductive ProxyCall (AccountId ProxyType CallHash RuntimeCall : Type) where
  | proxy (real : AccountId) (forceProxyType : Option ProxyType)
      (call : RuntimeCall)
  | addProxy (delegate : AccountId) (proxyType : ProxyType) (delay : Nat)
  | removeProxy (delegate : AccountId) (proxyType : ProxyType) (delay : Nat)
  | removeProxies
  | createPure (proxyType : ProxyType) (delay index : Nat)
  | killPure (spawner : AccountId) (proxyType : ProxyType)
      (index height extIndex : Nat)
  | announce (real : AccountId) (callHash : CallHash)
  | removeAnnouncement (real : AccountId) (callHash : CallHash)
  | rejectAnnouncement (delegate : AccountId) (callHash : CallHash)
  | proxyAnnounced (delegate real : AccountId)
      (forceProxyType : Option ProxyType) (call : RuntimeCall)

/-- `pallet_utility::Call`.  The origin of `dispatch_as` and the weight of
`with_weight` are left out: only root may make these two. -/
inductive UtilityCall (RuntimeCall : Type) where
  | batch (calls : List RuntimeCall)
  | asDerivative (index : Nat) (call : RuntimeCall)
  | batchAll (calls : List RuntimeCall)
  | dispatchAs (call : RuntimeCall)
  | forceBatch (calls : List RuntimeCall)
  | withWeight (call : RuntimeCall)

/-- The calls of a runtime: those of the two pallets above, and those of all
other pallets. -/
inductive RuntimeCall (AccountId ProxyType CallHash PalletCall : Type) where
  | proxy (c : ProxyCall AccountId ProxyType CallHash
      (RuntimeCall AccountId ProxyType CallHash PalletCall))
  | utility (c : UtilityCall
      (RuntimeCall AccountId ProxyType CallHash PalletCall))
  | pallet (c : PalletCall)

/-- `InstanceFilter`, and the most permissive of its instances. -/
structure InstanceFilter (ProxyType Call : Type) where
  default : ProxyType
  filter : ProxyType → Call → Bool
  isSuperset : ProxyType → ProxyType → Bool

/-! ## Types and storage -/

/-- The runtime the pallets live in. -/
structure Config (ProxyType PalletCall : Type) where
  AccountId : Type
  CallHash : Type
  World : Type
  decAccountId : DecidableEq AccountId
  decCallHash : DecidableEq CallHash
  ordAccountId : Ord AccountId
  currency : ReservableCurrency AccountId World
  callHash : RuntimeCall AccountId ProxyType CallHash PalletCall → CallHash
  pureAccount : AccountId → ProxyType → Nat → Nat × Nat → AccountId
  derivativeAccountId : AccountId → Nat → AccountId
  execute : World → AccountId → PalletCall → Except DispatchError World
  maxProxies : Nat
  maxPending : Nat
  proxyDepositBase : Nat
  proxyDepositFactor : Nat
  announcementDepositBase : Nat
  announcementDepositFactor : Nat
  batchedCallsLimit : Nat
  systemIndex : Nat
  proxyIndex : Nat
  utilityIndex : Nat

variable {T P : Type}

instance (R : Config T P) : DecidableEq R.AccountId := R.decAccountId
instance (R : Config T P) : DecidableEq R.CallHash := R.decCallHash
instance (R : Config T P) : Ord R.AccountId := R.ordAccountId

/-- The calls of the runtime. -/
abbrev Config.Call (R : Config T P) : Type :=
  RuntimeCall R.AccountId T R.CallHash P

/-- Errors of the proxy pallet. -/
inductive Error where
  | tooMany
  | notFound
  | notProxy
  | unproxyable
  | duplicate
  | noPermission
  | unannounced
  | noSelfProxy
  deriving DecidableEq, Repr

/-- An error of the proxy pallet. -/
def Config.err (R : Config T P) (e : Error) : DispatchError :=
  .module ⟨R.proxyIndex, e.ctorIdx⟩

/-- `frame_system::Error::CallFiltered`. -/
def Config.callFiltered (R : Config T P) : DispatchError :=
  .module ⟨R.systemIndex, 5⟩

/-- `pallet_utility::Error::TooManyCalls`. -/
def Config.tooManyCalls (R : Config T P) : DispatchError :=
  .module ⟨R.utilityIndex, 0⟩

/-- A delegate, what it may do and how long its calls have to be announced. -/
structure ProxyDefinition (AccountId ProxyType : Type) where
  delegate : AccountId
  proxyType : ProxyType
  delay : Nat
  deriving DecidableEq

/-- The derived order: by delegate, then type, then delay. -/
def ProxyDefinition.compare {A : Type} [Ord A] [Ord T]
    (d e : ProxyDefinition A T) : Ordering :=
  (Ord.compare d.delegate e.delegate).then
    ((Ord.compare d.proxyType e.proxyType).then (Ord.compare d.delay e.delay))

/-- A call that a delegate intends to make. -/
structure Announcement (AccountId CallHash : Type) where
  real : AccountId
  callHash : CallHash
  height : Nat
  deriving DecidableEq

/-- Events of the pallet. -/
inductive Event (AccountId ProxyType CallHash : Type) where
  | proxyExecuted (result : Except DispatchError Unit)
  | pureCreated (pure who : AccountId) (proxyType : ProxyType)
      (disambiguationIndex : Nat)
  | announced (real proxy : AccountId) (callHash : CallHash)
  | proxyAdded (delegator delegatee : AccountId) (proxyType : ProxyType)
      (delay : Nat)
  | proxyRemoved (delegator delegatee : AccountId) (proxyType : ProxyType)
      (delay : Nat)

/-- The delegates of an account, with the deposit held for them. -/
abbrev Config.Delegates (R : Config T P) : Type :=
  BoundedVec (ProxyDefinition R.AccountId T) R.maxProxies × Nat

/-- The announcements of a delegate, with the deposit held for them. -/
abbrev Config.Pending (R : Config T P) : Type :=
  BoundedVec (Announcement R.AccountId R.CallHash) R.maxPending × Nat

/-- The storage of the pallet, its events, the rest of the storage and the
place in the chain. -/
structure State (R : Config T P) where
  proxies : StorageMap R.AccountId R.Delegates
  announcements : StorageMap R.AccountId R.Pending
  events : List (Event R.AccountId T R.CallHash)
  world : R.World
  blockNumber : Nat
  extrinsicIndex : Nat

section Calls

variable {R : Config T P} (s : State R)

/-- Append an event. -/
def State.depositEvent (e : Event R.AccountId T R.CallHash) : State R :=
  { s with events := s.events ++ [e] }

/-- `Proxies::get`. -/
def State.proxiesOf (who : R.AccountId) : R.Delegates :=
  (s.proxies.get who).getD (.empty, 0)

/-- The delegates of an account. -/
def State.delegates (who : R.AccountId) :
    List (ProxyDefinition R.AccountId T) :=
  (s.proxiesOf who).1.toList

/-! ## Delegates -/

/-- `deposit`. -/
def Config.deposit (R : Config T P) (numProxies : Nat) : Nat :=
  if numProxies = 0 then 0
  else R.proxyDepositBase + R.proxyDepositFactor * numProxies

/-- Hold `new` instead of `old` on deposit. -/
def adjustDeposit (who : R.AccountId) (old new : Nat) :
    Except DispatchError (State R) :=
  if new > old then do
    let world ← R.currency.reserve s.world who (new - old)
    return { s with world := world }
  else if new < old then
    .ok { s with world := R.currency.unreserve s.world who (old - new) }
  else .ok s

/-- A definition put where it belongs in a list in order. -/
def insertDefinition {A : Type} [Ord A] [Ord T] (d : ProxyDefinition A T)
    (proxies : List (ProxyDefinition A T)) : List (ProxyDefinition A T) :=
  proxies.takeWhile (fun e => e.compare d == .lt) ++
    d :: proxies.dropWhile (fun e => e.compare d == .lt)

variable [DecidableEq T] [Ord T]

/-- `add_proxy_delegate`.  The delegates are in order, so the binary search of
the source fails exactly for a definition that is not among them. -/
def addProxyDelegate (delegator delegatee : R.AccountId) (proxyType : T)
    (delay : Nat) : Except DispatchError (State R) := do
  ensure (delegator ≠ delegatee) (R.err .noSelfProxy)
  let (proxies, deposit) := s.proxiesOf delegator
  let proxyDef : ProxyDefinition R.AccountId T := ⟨delegatee, proxyType, delay⟩
  ensure (proxyDef ∉ proxies.toList) (R.err .duplicate)
  let proxies ← okOr (BoundedVec.tryFrom
    (insertDefinition proxyDef proxies.toList)) (R.err .tooMany)
  let newDeposit := R.deposit proxies.toList.length
  let s ← adjustDeposit s delegator deposit newDeposit
  let s := { s with
    proxies := s.proxies.insert delegator (proxies, newDeposit) }
  return s.depositEvent (.proxyAdded delegator delegatee proxyType delay)

/-- `remove_proxy_delegate`. -/
def removeProxyDelegate (delegator delegatee : R.AccountId) (proxyType : T)
    (delay : Nat) : Except DispatchError (State R) := do
  let (proxies, oldDeposit) ← okOr (s.proxies.get delegator) (R.err .notFound)
  let proxyDef : ProxyDefinition R.AccountId T := ⟨delegatee, proxyType, delay⟩
  ensure (proxyDef ∈ proxies.toList) (R.err .notFound)
  let proxies := proxies.removeFirst proxyDef
  let newDeposit := R.deposit proxies.toList.length
  let s ← adjustDeposit s delegator oldDeposit newDeposit
  let s := { s with
    proxies :=
      if proxies.toList = [] then s.proxies.remove delegator
      else s.proxies.insert delegator (proxies, newDeposit) }
  return s.depositEvent (.proxyRemoved delegator delegatee proxyType delay)

/-- `remove_all_proxy_delegates`. -/
def removeAllProxyDelegates (delegator : R.AccountId) : State R :=
  { s with
    proxies := s.proxies.remove delegator
    world := R.currency.unreserve s.world delegator
      (s.proxiesOf delegator).2 }

/-- `create_pure`. -/
def createPure (who : R.AccountId) (proxyType : T) (delay index : Nat) :
    Except DispatchError (State R) := do
  let pure := R.pureAccount who proxyType index
    (s.blockNumber, s.extrinsicIndex)
  ensure ((s.proxies.get pure).isSome = false) (R.err .duplicate)
  let bounded ← okOr (BoundedVec.tryFrom [⟨who, proxyType, delay⟩])
    (R.err .tooMany)
  let deposit := R.proxyDepositBase + R.proxyDepositFactor
  let world ← R.currency.reserve s.world who deposit
  let s := { s with
    world := world
    proxies := s.proxies.insert pure (bounded, deposit) }
  return s.depositEvent (.pureCreated pure who proxyType index)

/-- `kill_pure`. -/
def killPure (who spawner : R.AccountId) (proxyType : T)
    (index height extIndex : Nat) : Except DispatchError (State R) := do
  let proxy := R.pureAccount spawner proxyType index (height, extIndex)
  ensure (proxy = who) (R.err .noPermission)
  return { s with
    proxies := s.proxies.remove who
    world := R.currency.unreserve s.world spawner (s.proxiesOf who).2 }

/-! ## Announcements -/

/-- What is held for a number of announcements. -/
def Config.announcementDeposit (R : Config T P) (len : Nat) : Nat :=
  if len = 0 then 0
  else R.announcementDepositBase + R.announcementDepositFactor * len

/-- `announce`. -/
def announce (who real : R.AccountId) (callHash : R.CallHash) :
    Except DispatchError (State R) := do
  ensure (∃ x ∈ s.delegates real, x.delegate = who) (R.err .notProxy)
  let (pending, deposit) := (s.announcements.get who).getD (.empty, 0)
  let pending ← okOr (pending.tryPush ⟨real, callHash, s.blockNumber⟩)
    (R.err .tooMany)
  let newDeposit := R.announcementDeposit pending.toList.length
  let s ← adjustDeposit s who deposit newDeposit
  let s := { s with
    announcements := s.announcements.insert who (pending, newDeposit) }
  return s.depositEvent (.announced real who callHash)

/-- `edit_announcements`: keep the announcements that satisfy `f`, of which at
least one must not. -/
def editAnnouncements (delegate : R.AccountId)
    (f : Announcement R.AccountId R.CallHash → Bool) :
    Except DispatchError (State R) := do
  let (pending, oldDeposit) ← okOr (s.announcements.get delegate)
    (R.err .notFound)
  let kept := pending.retain f
  ensure (pending.toList.length > kept.toList.length) (R.err .notFound)
  let newDeposit := R.announcementDeposit kept.toList.length
  let s ← adjustDeposit s delegate oldDeposit newDeposit
  return { s with
    announcements :=
      if kept.toList.length = 0 then s.announcements.remove delegate
      else s.announcements.insert delegate (kept, newDeposit) }

/-! ## Proxied calls -/

/-- `find_proxy`. -/
def findProxy (real delegate : R.AccountId) (forceProxyType : Option T) :
    Except DispatchError (ProxyDefinition R.AccountId T) :=
  okOr ((s.delegates real).find? fun x => x.delegate = delegate &&
    forceProxyType.all fun y => x.proxyType = y) (R.err .notProxy)

/-- The filter of `do_proxy` for a definition of the given type. -/
def admits {A H : Type} (F : InstanceFilter T (RuntimeCall A T H P))
    (t : T) (c : RuntimeCall A T H P) : Bool :=
  match c with
  | .proxy (.addProxy _ proxyType _) =>
      if F.isSuperset t proxyType = false then false else F.filter t c
  | .proxy (.removeProxy _ proxyType _) =>
      if F.isSuperset t proxyType = false then false else F.filter t c
  | .proxy .removeProxies => if t ≠ F.default then false else F.filter t c
  | .proxy (.killPure ..) => if t ≠ F.default then false else F.filter t c
  | _ => F.filter t c

/-- A signed origin and the filter on it. -/
structure RuntimeOrigin (R : Config T P) where
  caller : R.AccountId
  filter : R.Call → Bool

/-- Put one more filter on an origin. -/
def RuntimeOrigin.addFilter (o : RuntimeOrigin R) (f : R.Call → Bool) :
    RuntimeOrigin R :=
  { o with filter := fun c => o.filter c && f c }

/-- A fresh signed origin. -/
def RuntimeOrigin.signed (who : R.AccountId) : RuntimeOrigin R :=
  ⟨who, fun _ => true⟩

/-- A call that has passed the filters of its origin. -/
structure Dispatched (R : Config T P) where
  caller : R.AccountId
  call : R.Call

/-- What comes of a call: the calls dispatched on the way, and the state after
it or its error. -/
abbrev Outcome (R : Config T P) : Type :=
  Journal (Dispatched R) DispatchError (State R)

/-- `dispatch` of a runtime call: run `body` if the filter lets it pass. -/
def filtered (o : RuntimeOrigin R) (call : R.Call) (body : Outcome R) :
    Outcome R := do
  Journal.lift (ensure (o.filter call = true) R.callFiltered)
  Journal.note ⟨o.caller, call⟩
  body

/-- The end of `do_proxy`: a call that failed has left the state as it was, and
the event says so. -/
def executed (x : Outcome R) : Outcome R :=
  ⟨x.entries, .ok ((x.recover s).depositEvent
    (.proxyExecuted (x.result.map fun _ => ())))⟩

/-- The call is not `batch_all`, which may not be nested. -/
def notBatchAll (c : R.Call) : Bool :=
  match c with
  | .utility (.batchAll _) => false
  | _ => true

variable (F : InstanceFilter T R.Call)

mutual

/-- Dispatch a call. -/
def dispatch (o : RuntimeOrigin R) : R.Call → State R → Outcome R
  | .proxy c, s => filtered o (.proxy c) (dispatchProxy o c s)
  | .utility c, s => filtered o (.utility c) (dispatchUtility o c s)
  | .pallet c, s => filtered o (.pallet c) do
      let world ← Journal.lift (R.execute s.world o.caller c)
      return { s with world := world }

/-- The calls of the proxy pallet. -/
def dispatchProxy (o : RuntimeOrigin R) :
    ProxyCall R.AccountId T R.CallHash R.Call → State R → Outcome R
  | .proxy real forceProxyType call, s => do
      let d ← Journal.lift (findProxy s real o.caller forceProxyType)
      Journal.lift (ensure (d.delay = 0) (R.err .unannounced))
      executed s (dispatch ⟨real, admits F d.proxyType⟩ call s)
  | .addProxy delegate proxyType delay, s =>
      .lift (addProxyDelegate s o.caller delegate proxyType delay)
  | .removeProxy delegate proxyType delay, s =>
      .lift (removeProxyDelegate s o.caller delegate proxyType delay)
  | .removeProxies, s => .lift (.ok (removeAllProxyDelegates s o.caller))
  | .createPure proxyType delay index, s =>
      .lift (createPure s o.caller proxyType delay index)
  | .killPure spawner proxyType index height extIndex, s =>
      .lift (killPure s o.caller spawner proxyType index height extIndex)
  | .announce real callHash, s => .lift (announce s o.caller real callHash)
  | .removeAnnouncement real callHash, s =>
      .lift (editAnnouncements s o.caller fun ann =>
        ann.real ≠ real || ann.callHash ≠ callHash)
  | .rejectAnnouncement delegate callHash, s =>
      .lift (editAnnouncements s delegate fun ann =>
        ann.real ≠ o.caller || ann.callHash ≠ callHash)
  | .proxyAnnounced delegate real forceProxyType call, s => do
      let d ← Journal.lift (findProxy s real delegate forceProxyType)
      let s ← Journal.lift ((editAnnouncements s delegate fun ann =>
        ann.real ≠ real || ann.callHash ≠ R.callHash call ||
          s.blockNumber - ann.height < d.delay).mapError
        fun _ => R.err .unannounced)
      executed s (dispatch ⟨real, admits F d.proxyType⟩ call s)

/-- The calls of the utility pallet. -/
def dispatchUtility (o : RuntimeOrigin R) :
    UtilityCall R.Call → State R → Outcome R
  | .batch calls, s => do
      Journal.lift (ensure (calls.length ≤ R.batchedCallsLimit) R.tooManyCalls)
      batch o calls s
  | .asDerivative index call, s =>
      dispatch { o with caller := R.derivativeAccountId o.caller index } call s
  | .batchAll calls, s => do
      Journal.lift (ensure (calls.length ≤ R.batchedCallsLimit) R.tooManyCalls)
      batchAll o calls s
  | .dispatchAs _, _ => .lift (.error .badOrigin)
  | .forceBatch calls, s => do
      Journal.lift (ensure (calls.length ≤ R.batchedCallsLimit) R.tooManyCalls)
      forceBatch o calls s
  | .withWeight _, _ => .lift (.error .badOrigin)

/-- The calls one after the other, up to the first that fails. -/
def batch (o : RuntimeOrigin R) : List R.Call → State R → Outcome R
  | [], s => pure s
  | call :: calls, s =>
      (dispatch o call s).bindOr s fun s' => batch o calls s'

/-- All calls or none. -/
def batchAll (o : RuntimeOrigin R) : List R.Call → State R → Outcome R
  | [], s => pure s
  | call :: calls, s => do
      let s ← dispatch (o.addFilter notBatchAll) call s
      batchAll o calls s

/-- The calls one after the other, whether or not they fail. -/
def forceBatch (o : RuntimeOrigin R) : List R.Call → State R → Outcome R
  | [], s => pure s
  | call :: calls, s =>
      let x := dispatch o call s;
      x.andThen (forceBatch o calls (x.recover s))

end

/-! ## Extrinsics -/

/-- A signed call and its place in the chain. -/
structure Extrinsic (R : Config T P) where
  blockNumber : Nat
  extrinsicIndex : Nat
  who : R.AccountId
  call : R.Call

/-- What comes of an extrinsic. -/
def apply (s : State R) (x : Extrinsic R) : Outcome R :=
  dispatch F (.signed x.who) x.call
    { s with blockNumber := x.blockNumber, extrinsicIndex := x.extrinsicIndex }

/-- The state after an extrinsic, if it succeeds. -/
def submit (s : State R) (x : Extrinsic R) :
    Except DispatchError (State R) :=
  (apply F s x).result

end Calls

end Thxnet.Proxy
