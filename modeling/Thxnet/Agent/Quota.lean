import Thxnet.Agent.Mock
import Thxnet.Agent.Registry

/-!
# Quota and rate of feedbacks

What a client may say about an agent is bounded by the one authorization the
pair ever gets: by its number, until it expires or is revoked, and at most one
feedback in so many blocks.  `feedback_record` states this over the accepted
steps of a run, together with what the storage items keep of it.  An
authorization that is over is not renewed: `authorization_not_renewed`.
-/

namespace Thxnet.Agent

open Thxnet.Lib Thxnet.Frame

variable {R : Config}

/-! ## Steps of a pair -/

section Pair

variable (agentId : Nat) (client : R.AccountId)

/-- The client gives a feedback on the agent. -/
def gives : Action R → Bool
  | .call origin (.giveFeedback id _ _ _ _) =>
      id = agentId && origin = .signed client
  | _ => false

/-- The client is authorized to give feedback on the agent. -/
def authorizes : Action R → Bool
  | .call _ (.authorizeFeedback id c _ _) => id = agentId && c = client
  | _ => false

/-- The authorization is revoked. -/
def revokesAuthorization : Action R → Bool
  | .call _ (.revokeAuthorization id c) => id = agentId && c = client
  | _ => false

/-- The feedback is one of the pair. -/
def FeedbackInfo.ofPair (f : FeedbackInfo R) : Bool :=
  f.agentId = agentId && f.client = client

/-- The authorization of the pair. -/
def Books.authorizationOf (b : Books R) : Option (FeedbackAuthorization R) :=
  ((b.agentClientAuthorizations agentId).get client).bind
    b.feedbackAuthorizations.get

/-- How many feedbacks of the pair a run has recorded. -/
def recorded (t : List (State R × Action R)) : Nat :=
  t.countP fun p => gives agentId client p.2

/-- The feedbacks of the pair in a run that ends in `s`. -/
structure FeedbackRecord (t : List (State R × Action R)) (s : State R) : Prop
    where
  quota : ∀ p ∈ t, gives agentId client p.2 = true →
    ∃ auth, s.toBooks.authorizationOf agentId client = some auth ∧
      p.1.now ≤ auth.expiry ∧ recorded agentId client t ≤ auth.indexLimit
  unrevoked : t.Pairwise fun p q =>
    revokesAuthorization agentId client p.2 = true →
      gives agentId client q.2 = false
  spaced : t.Pairwise fun p q => gives agentId client p.2 = true →
    gives agentId client q.2 = true →
      p.1.now + R.feedbackRateLimitBlocks ≤ q.1.now
  indices : s.feedbackIndices agentId client = recorded agentId client t
  stored : s.feedbacks.count (FeedbackInfo.ofPair agentId client) =
    recorded agentId client t
  agentList : s.agentFeedbacks.Indexes s.feedbacks FeedbackInfo.agentId
  clientList : s.clientFeedbacks.Indexes s.feedbacks FeedbackInfo.client

end Pair

/-! ## What one step does -/

section Effects

variable {b b' : Books R} {now agentId : Nat} {client : R.AccountId}
  {a : Action R}

/-- The authorization of a pair stays as it was granted, and revoked once it
has been revoked. -/
theorem Effect.authorizationOf (hb : Sound b) (heff : Effect b now a b')
    {auth : FeedbackAuthorization R}
    (h : b.authorizationOf agentId client = some auth) :
    ∃ auth', b'.authorizationOf agentId client = some auth' ∧
      auth'.expiry = auth.expiry ∧ auth'.indexLimit = auth.indexLimit ∧
      (auth.revoked = true → auth'.revoked = true) := by
  obtain ⟨authId, hlisted, hstored⟩ := Option.bind_eq_some_iff.mp h
  unfold Books.authorizationOf
  cases heff with
  | @authorizeFeedback _ client' agentId' _ _ _ _ _ hnew =>
      have hpair : ¬ (agentId = agentId' ∧ client = client') := by
        rintro ⟨rfl, rfl⟩
        rw [hlisted] at hnew
        cases hnew
      have hid : authId ≠ b.nextAuthorizationId :=
        Nat.ne_of_lt (hb.authorizations _ _ hstored)
      refine ⟨auth, ?_, rfl, rfl, fun h => h⟩
      show ((b.agentClientAuthorizations.insert agentId' client' _ agentId).get
        client).bind (b.feedbackAuthorizations.insert _ _).get = some auth
      rw [StorageDoubleMap.get_insert_ne _ _ hpair, hlisted, Option.bind_some,
        StorageMap.get_insert_ne _ _ hid, hstored]
  | @revokeAuthorization _ _ _ authId' _ auth' _ _ _ hauth =>
      show ∃ auth₁, ((b.agentClientAuthorizations agentId).get client).bind
        (b.feedbackAuthorizations.insert authId' _).get = some auth₁ ∧ _
      rw [hlisted, Option.bind_some]
      by_cases hid : authId = authId'
      · subst hid
        rw [hstored] at hauth
        cases hauth
        exact ⟨_, StorageMap.get_insert_self _ _ _, rfl, rfl, fun _ => rfl⟩
      · exact ⟨auth, (StorageMap.get_insert_ne _ _ hid).trans hstored, rfl, rfl,
          fun h => h⟩
  | _ => exact ⟨auth, h, rfl, rfl, fun h => h⟩

theorem Effect.of_revokesAuthorization (heff : Effect b now a b')
    (h : revokesAuthorization agentId client a = true) :
    ∃ auth, b'.authorizationOf agentId client = some auth ∧
      auth.revoked = true := by
  cases heff with
  | @revokeAuthorization _ client' agentId' authId _ auth _ _ hlisted =>
      obtain ⟨rfl, rfl⟩ : agentId' = agentId ∧ client' = client := by
        simpa [revokesAuthorization] using h
      refine ⟨{ auth with revoked := true }, ?_, rfl⟩
      exact (congrArg (Option.bind · _) hlisted).trans
        (StorageMap.get_insert_self _ _ _)
  | _ => cases h

/-- What a feedback of the pair has passed, and what it leaves. -/
theorem Effect.of_gives (heff : Effect b now a b')
    (h : gives agentId client a = true) :
    (∃ auth, b.authorizationOf agentId client = some auth ∧
      auth.revoked = false ∧ now ≤ auth.expiry ∧
      b.feedbackIndices agentId client < auth.indexLimit) ∧
    RateLimited b now agentId client ∧
    (b'.lastFeedbackTimestamp agentId).get client = some now := by
  cases heff with
  | @giveFeedback who id _ _ _ _ _ _ _ authId auth _ _ _ hauth hrate _ _ _ _ _
      _ =>
      obtain ⟨rfl, rfl⟩ : id = agentId ∧ who = client := by
        simpa [gives] using h
      refine ⟨⟨auth, ?_, hauth.live, hauth.notExpired, hauth.notUsedUp⟩, hrate,
        ?_⟩
      · exact (congrArg (Option.bind · _) hauth.listed).trans hauth.stored
      · show (b.lastFeedbackTimestamp.insert id who now id).get who = some now
        rw [StorageDoubleMap.insert_self, StorageMap.get_insert_self]
  | _ => cases h

/-- The counters of a pair move with its feedbacks only. -/
theorem Effect.counted (hb : Sound b) (heff : Effect b now a b') :
    b'.feedbackIndices agentId client = b.feedbackIndices agentId client +
      (if gives agentId client a = true then 1 else 0) ∧
    b'.feedbacks.count (FeedbackInfo.ofPair agentId client) =
      b.feedbacks.count (FeedbackInfo.ofPair agentId client) +
        (if gives agentId client a = true then 1 else 0) := by
  have hrewrite : ∀ {i : Nat} {f : FeedbackInfo R},
      b.feedbacks.get i = some f →
      (b.feedbacks.insert i { f with revoked := true }).count
        (FeedbackInfo.ofPair agentId client) =
      b.feedbacks.count (FeedbackInfo.ofPair agentId client) := by
    intro i f hf
    have hcount := b.feedbacks.count_insert i { f with revoked := true }
      (FeedbackInfo.ofPair agentId client)
    rw [hf] at hcount
    exact Nat.add_right_cancel hcount
  cases heff with
  | @giveFeedback who id score _ _ hash tags uri =>
      have hcount := b.feedbacks.count_insert b.nextFeedbackId
        ⟨id, who, score, tags, uri, hash, now, false⟩
        (FeedbackInfo.ofPair agentId client)
      rw [hb.feedbacks.get_eq_none] at hcount
      simp only [gives, Bool.and_eq_true, decide_eq_true_eq,
        Origin.signed.injEq, FeedbackInfo.ofPair] at hcount ⊢
      refine ⟨?_, hcount⟩
      show Function.update b.feedbackIndices id (Function.update
        (b.feedbackIndices id) who (b.feedbackIndices id who + 1)) agentId
        client = _
      by_cases hid : agentId = id
      · subst hid
        rw [Function.update_self]
        by_cases hwho : client = who
        · subst hwho
          simp
        · rw [Function.update_of_ne hwho, if_neg (by simp [Ne.symm hwho]),
            Nat.add_zero]
      · rw [Function.update_of_ne hid, if_neg (by simp [Ne.symm hid]),
          Nat.add_zero]
  | revokeFeedback hf => exact ⟨rfl, hrewrite hf⟩
  | upholdDispute _ _ hf => exact ⟨rfl, hrewrite hf⟩
  | _ => exact ⟨rfl, rfl⟩

/-- The time of the last feedback of a pair stays until its next one. -/
theorem Effect.lastFeedback (heff : Effect b now a b')
    (hnot : gives agentId client a = false) :
    (b'.lastFeedbackTimestamp agentId).get client =
      (b.lastFeedbackTimestamp agentId).get client := by
  cases heff with
  | giveFeedback =>
      refine StorageDoubleMap.get_insert_ne _ _ ?_
      rintro ⟨rfl, rfl⟩
      simp [gives] at hnot
  | _ => rfl

theorem Effect.indexes (hb : Sound b) (heff : Effect b now a b')
    (hagent : b.agentFeedbacks.Indexes b.feedbacks FeedbackInfo.agentId)
    (hclient : b.clientFeedbacks.Indexes b.feedbacks FeedbackInfo.client) :
    b'.agentFeedbacks.Indexes b'.feedbacks FeedbackInfo.agentId ∧
    b'.clientFeedbacks.Indexes b'.feedbacks FeedbackInfo.client := by
  cases heff with
  | giveFeedback _ _ _ _ _ _ hagentList hclientList =>
      exact ⟨hagent.append hb.feedbacks hagentList,
        hclient.append hb.feedbacks hclientList⟩
  | revokeFeedback hf => exact ⟨hagent.rewrite hf rfl, hclient.rewrite hf rfl⟩
  | upholdDispute _ _ hf =>
      exact ⟨hagent.rewrite hf rfl, hclient.rewrite hf rfl⟩
  | _ => exact ⟨hagent, hclient⟩

/-- A pair that is authorized is not authorized again. -/
theorem Effect.authorizes_new (heff : Effect b now a b')
    (h : authorizes agentId client a = true) :
    (b.agentClientAuthorizations agentId).get client = none ∧
    ((b'.agentClientAuthorizations agentId).get client).isSome = true := by
  cases heff with
  | @authorizeFeedback _ client' agentId' _ _ _ _ _ hnew =>
      obtain ⟨rfl, rfl⟩ : agentId' = agentId ∧ client' = client := by
        simpa [authorizes] using h
      refine ⟨hnew, ?_⟩
      show ((b.agentClientAuthorizations.insert agentId' client' _ agentId').get
        client').isSome = true
      rw [StorageDoubleMap.insert_self, StorageMap.get_insert_self]
      rfl
  | _ => cases h

theorem Effect.authorized_stays (heff : Effect b now a b')
    (h : ((b.agentClientAuthorizations agentId).get client).isSome = true) :
    ((b'.agentClientAuthorizations agentId).get client).isSome = true := by
  cases heff with
  | @authorizeFeedback _ client' agentId' =>
      show ((b.agentClientAuthorizations.insert agentId' client' _ agentId).get
        client).isSome = true
      by_cases hid : agentId = agentId'
      · subst hid
        rw [StorageDoubleMap.insert_self]
        exact StorageMap.isSome_insert _ _ h
      · rw [StorageDoubleMap.insert_ne _ _ _ hid]
        exact h
  | _ => exact h

end Effects

/-! ## Runs -/

/-- The record of the past, with what the books keep to continue it. -/
structure PairHistory (agentId : Nat) (client : R.AccountId) (s : State R)
    (past : List (State R × Action R)) : Prop
    extends FeedbackRecord agentId client past s where
  sound : Sound s.toBooks
  clock : ∀ p ∈ past, p.1.now ≤ s.now
  last : ∀ p ∈ past, gives agentId client p.2 = true →
    ∃ last, (s.lastFeedbackTimestamp agentId).get client = some last ∧
      p.1.now ≤ last
  ended : ∀ p ∈ past, revokesAuthorization agentId client p.2 = true →
    ∃ auth, s.toBooks.authorizationOf agentId client = some auth ∧
      auth.revoked = true

namespace PairHistory

variable {agentId : Nat} {client : R.AccountId} {s s' : State R}
  {past : List (State R × Action R)} {a : Action R}

theorem genesis {s : State R} (h : Genesis s) :
    PairHistory agentId client s [] := by
  obtain ⟨world, now, rfl⟩ := h
  exact {
    sound := .genesis world
    clock := fun p hp => by cases hp
    last := fun p hp => by cases hp
    quota := fun p hp => by cases hp
    ended := fun p hp => by cases hp
    unrevoked := .nil
    spaced := .nil
    indices := rfl
    stored := StorageMap.sum_empty _
    agentList := .empty
    clientList := .empty }

theorem recorded_append (p : State R × Action R) :
    recorded agentId client (past ++ [p]) = recorded agentId client past +
      (if gives agentId client p.2 = true then 1 else 0) := by
  simp [recorded, List.countP_append, List.countP_singleton]

private theorem clock_append (h : PairHistory agentId client s past)
    {p : State R × Action R} (hp : p ∈ past ++ [(s, a)]) : p.1.now ≤ s.now := by
  rcases List.mem_append.mp hp with hp | hp
  · exact h.clock p hp
  · rw [List.mem_singleton.mp hp]

private theorem quota_step (h : PairHistory agentId client s past)
    (heff : Effect s.toBooks s.now a s'.toBooks) :
    ∀ p ∈ past ++ [(s, a)], gives agentId client p.2 = true →
      ∃ auth, s'.toBooks.authorizationOf agentId client = some auth ∧
        p.1.now ≤ auth.expiry ∧
        recorded agentId client (past ++ [(s, a)]) ≤ auth.indexLimit := by
  intro p hp hgives
  rw [recorded_append]
  by_cases hgive : gives agentId client a = true
  · -- one more: the step has checked the expiry and the number
    obtain ⟨⟨auth, hauth, _, hexpiry, hlimit⟩, _, _⟩ := heff.of_gives hgive
    obtain ⟨auth', hauth', hexp, hlim, _⟩ := heff.authorizationOf h.sound hauth
    have hnow := h.clock_append hp
    have hindex := h.indices
    rw [if_pos hgive]
    exact ⟨auth', hauth', by omega, by omega⟩
  · rcases List.mem_append.mp hp with hp | hp
    · obtain ⟨auth, hauth, hexpiry, hlimit⟩ := h.quota p hp hgives
      obtain ⟨auth', hauth', hexp, hlim, _⟩ :=
        heff.authorizationOf h.sound hauth
      rw [if_neg hgive]
      exact ⟨auth', hauth', by omega, by omega⟩
    · rw [List.mem_singleton.mp hp] at hgives
      exact absurd hgives hgive

private theorem ended_step (h : PairHistory agentId client s past)
    (heff : Effect s.toBooks s.now a s'.toBooks) :
    ∀ p ∈ past ++ [(s, a)], revokesAuthorization agentId client p.2 = true →
      ∃ auth, s'.toBooks.authorizationOf agentId client = some auth ∧
        auth.revoked = true := by
  intro p hp hrevokes
  rcases List.mem_append.mp hp with hp | hp
  · obtain ⟨auth, hauth, hrevoked⟩ := h.ended p hp hrevokes
    obtain ⟨auth', hauth', _, _, hstays⟩ := heff.authorizationOf h.sound hauth
    exact ⟨auth', hauth', hstays hrevoked⟩
  · rw [List.mem_singleton.mp hp] at hrevokes
    exact heff.of_revokesAuthorization hrevokes

private theorem last_step (h : PairHistory agentId client s past)
    (heff : Effect s.toBooks s.now a s'.toBooks) :
    ∀ p ∈ past ++ [(s, a)], gives agentId client p.2 = true →
      ∃ last, (s'.lastFeedbackTimestamp agentId).get client = some last ∧
        p.1.now ≤ last := by
  intro p hp hgives
  by_cases hgive : gives agentId client a = true
  · exact ⟨s.now, (heff.of_gives hgive).2.2, h.clock_append hp⟩
  · rcases List.mem_append.mp hp with hp | hp
    · rw [heff.lastFeedback (Bool.eq_false_iff.mpr hgive)]
      exact h.last p hp hgives
    · rw [List.mem_singleton.mp hp] at hgives
      exact absurd hgives hgive

theorem step (h : PairHistory agentId client s past)
    (hstep : step s a = .ok s') :
    PairHistory agentId client s' (past ++ [(s, a)]) := by
  have heff := step_effect hstep
  obtain ⟨hindices, hstored⟩ : _ ∧
      s'.feedbacks.count (FeedbackInfo.ofPair agentId client) = _ :=
    heff.counted h.sound
  have hlists := heff.indexes h.sound h.agentList h.clientList
  refine
    { sound := h.sound.effect heff
      clock := fun p hp => Nat.le_trans (h.clock_append hp) (step_now hstep)
      last := h.last_step heff
      quota := h.quota_step heff
      ended := h.ended_step heff
      unrevoked := ?_
      spaced := ?_
      indices := ?_
      stored := ?_
      agentList := hlists.1
      clientList := hlists.2 }
  · refine List.pairwise_append.mpr
      ⟨h.unrevoked, List.pairwise_singleton _ _, ?_⟩
    intro p hp q hq hrevokes
    rw [List.mem_singleton.mp hq]
    refine Bool.eq_false_iff.mpr fun hgive => ?_
    -- the authorization the step relied on was not revoked
    obtain ⟨auth, hauth, hrevoked⟩ := h.ended p hp hrevokes
    obtain ⟨⟨auth', hauth', hlive, _⟩, _⟩ := heff.of_gives hgive
    rw [hauth] at hauth'
    cases hauth'
    rw [hlive] at hrevoked
    cases hrevoked
  · refine List.pairwise_append.mpr ⟨h.spaced, List.pairwise_singleton _ _, ?_⟩
    intro p hp q hq hgives hgive
    rw [List.mem_singleton.mp hq] at hgive ⊢
    obtain ⟨last, hlast, hle⟩ := h.last p hp hgives
    have hrate := (heff.of_gives hgive).2.1 last hlast
    have hclock := h.clock p hp
    show p.1.now + R.feedbackRateLimitBlocks ≤ s.now
    omega
  · rw [recorded_append, ← h.indices]
    exact hindices
  · rw [recorded_append, ← h.stored]
    exact hstored

end PairHistory

/-- In every run, for every agent and client: the pair is authorized at most
once; its feedbacks are at most as many as the authorization admits, none after
the authorization has expired or has been revoked, and any two as far apart as
the rate limit demands.  The index of the pair is their number, and the lists
of the agent and the client hold exactly the ids of their feedbacks. -/
theorem feedback_record {s₀ s : State R} {t : List (State R × Action R)}
    (h0 : Genesis s₀) (hrun : Transition.Run step s₀ t s) (agentId : Nat)
    (client : R.AccountId) :
    t.countP (fun p => authorizes agentId client p.2) ≤ 1 ∧
      FeedbackRecord agentId client t s := by
  constructor
  · refine hrun.countP_le_one (I := fun _ => True)
      (P := fun s => ((s.agentClientAuthorizations agentId).get client).isSome)
      (fun _ _ _ _ _ => trivial)
      (fun s a s' _ hs hstep => (step_effect hstep).authorized_stays hs)
      (fun s a s' _ hs hstep => ?_)
      (fun s a s' _ hstep hp => ((step_effect hstep).authorizes_new hp).2)
      trivial
    refine Bool.eq_false_iff.mpr fun hp => ?_
    rw [((step_effect hstep).authorizes_new hp).1] at hs
    cases hs
  · exact (hrun.past (A := fun _ _ => True) (J := PairHistory agentId client)
      (fun s a s' past _ h hstep => h.step hstep) (fun _ _ => trivial)
      (.genesis h0)).toFeedbackRecord

/-! ### A concrete run

Account 2 gives the one feedback it may give on the agent of account 1, and
revokes it; then its authorization is revoked.
-/

/-- The requests of the run. -/
def oneFeedback : List (Action bank) :=
  [signedBy 1 (.registerAgent [] []), signedBy 1 (.authorizeFeedback 0 2 1 100),
    .nextBlock, signedBy 2 (.giveFeedback 0 80 [] [] 0), .nextBlock,
    signedBy 2 (.revokeFeedback 0), signedBy 1 (.revokeAuthorization 0 2)]

/-- The feedback counts though it has been revoked. -/
theorem feedback_record_revoked :
    FeedbackRecord (R := bank) 0 2
      (Transition.trace step bankGenesis oneFeedback) (bankAfter oneFeedback) ∧
    recorded (R := bank) 0 2 (Transition.trace step bankGenesis oneFeedback) =
      1 := by
  have hexec : Transition.exec step bankGenesis oneFeedback =
      .ok (bankAfter oneFeedback) := Transition.exec_final (by decide +kernel)
  exact ⟨(feedback_record ⟨_, _, rfl⟩ (Transition.run_of_exec hexec) 0 2).2,
    by decide +kernel⟩

/-! ## After an authorization -/

/-- The authorization of the pair is revoked, expired or used up. -/
def AuthorizationOver (s : State R) (agentId : Nat) (client : R.AccountId) :
    Prop :=
  ∃ auth, s.toBooks.authorizationOf agentId client = some auth ∧
    (auth.revoked = true ∨ auth.expiry < s.now ∨
      auth.indexLimit ≤ s.feedbackIndices agentId client)

namespace AuthorizationOver

variable {s s' : State R} {agentId : Nat} {client : R.AccountId} {a : Action R}

/-- It stays over: the grant is not rewritten, the clock does not run back, and
the index of the pair does not fall. -/
theorem step (h : AuthorizationOver s agentId client) (hs : Sound s.toBooks)
    (hstep : step s a = .ok s') : AuthorizationOver s' agentId client := by
  obtain ⟨auth, hauth, hover⟩ := h
  have heff := step_effect hstep
  obtain ⟨auth', hauth', hexpiry, hlimit, hrevoked⟩ :=
    heff.authorizationOf hs hauth
  refine ⟨auth', hauth', ?_⟩
  rcases hover with hover | hover | hover
  · exact .inl (hrevoked hover)
  · have hnow := step_now hstep
    exact .inr (.inl (by omega))
  · have hindex : s.feedbackIndices agentId client ≤
        s'.feedbackIndices agentId client :=
      Nat.le.intro (heff.counted hs).1.symm
    exact .inr (.inr (by omega))

theorem run (h : AuthorizationOver s agentId client) (hs : Sound s.toBooks)
    {t : List (State R × Action R)} (hrun : Transition.Run Agent.step s t s') :
    AuthorizationOver s' agentId client ∧ Sound s'.toBooks :=
  hrun.preserves
    (I := fun s => AuthorizationOver s agentId client ∧ Sound s.toBooks)
    (fun _ _ _ h hstep =>
      ⟨h.1.step h.2 hstep, h.2.effect (step_effect hstep)⟩) ⟨h, hs⟩

theorem gives_eq_false (h : AuthorizationOver s agentId client)
    (hstep : Agent.step s a = .ok s') : gives agentId client a = false := by
  obtain ⟨auth, hauth, hover⟩ := h
  refine Bool.eq_false_iff.mpr fun hgives => ?_
  obtain ⟨⟨auth', hauth', hlive, hexpiry, hindex⟩, _⟩ :=
    (step_effect hstep).of_gives hgives
  rw [hauth] at hauth'
  cases hauth'
  rcases hover with hover | hover | hover
  · rw [hlive] at hover
    cases hover
  · omega
  · exact absurd hindex (Nat.not_lt.mpr hover)

theorem run_gives_eq_false (h : AuthorizationOver s agentId client)
    (hs : Sound s.toBooks) {t : List (State R × Action R)}
    (hrun : Transition.Run Agent.step s t s') :
    ∀ p ∈ t, gives agentId client p.2 = false := by
  induction hrun with
  | nil =>
      intro p hp
      cases hp
  | cons hstep _ ih =>
      intro p hp
      rcases List.mem_cons.mp hp with rfl | hp
      · exact h.gives_eq_false hstep
      · exact ih (h.step hs hstep) (hs.effect (step_effect hstep)) p hp

/-- The owner cannot authorize the client anew. -/
theorem authorizeFeedback_eq_error (h : AuthorizationOver s agentId client)
    {agent : AgentInfo R} (hagent : s.agents.get agentId = some agent)
    (indexLimit expiryBlocks : Nat) :
    authorizeFeedback s (.signed agent.owner) agentId client indexLimit
      expiryBlocks = .error (R.err .authorizationAlreadyExists) := by
  obtain ⟨auth, hauth, _⟩ := h
  obtain ⟨authId, hlisted, _⟩ := Option.bind_eq_some_iff.mp hauth
  have hguard : ensure ((s.agentClientAuthorizations agentId).get client = none)
      (R.err .authorizationAlreadyExists) =
      .error (R.err .authorizationAlreadyExists) :=
    if_neg (by rw [hlisted]; exact (fun h => by cases h))
  have howned : ownedAgent s.toBooks agent.owner agentId = .ok agent :=
    ownedAgent_eq_ok.mpr ⟨hagent, rfl⟩
  show (ownedAgent s.toBooks agent.owner agentId >>= fun _ =>
    ensure _ _ >>= _) = _
  rw [howned]
  show (ensure _ _ >>= _) = _
  rw [hguard]
  rfl

end AuthorizationOver

/-- An authorization that is revoked, expired or used up is not renewed:
whatever calls the owner or anybody makes from then on, and however much time
passes, the client gives no further feedback on the agent, and an authorization
by the owner is refused because there is one. -/
theorem authorization_not_renewed {s s' : State R} {agentId : Nat}
    {client : R.AccountId} {t : List (State R × Action R)}
    (hs : Reachable (fun _ _ => True) s)
    (hover : AuthorizationOver s agentId client)
    (hrun : Transition.Run step s t s') :
    (∀ p ∈ t, gives agentId client p.2 = false) ∧
    (∀ score tags uri hash s'', step s' (.call (.signed client)
      (.giveFeedback agentId score tags uri hash)) ≠ .ok s'') ∧
    ∀ agent, s'.agents.get agentId = some agent → ∀ indexLimit expiryBlocks,
      step s' (.call (.signed agent.owner)
        (.authorizeFeedback agentId client indexLimit expiryBlocks)) =
        .error (R.err .authorizationAlreadyExists) := by
  have hsound := sound_of_reachable hs
  have hover' := (hover.run hsound hrun).1
  refine ⟨hover.run_gives_eq_false hsound hrun, ?_, ?_⟩
  · intro score tags uri hash s'' hstep
    have hgives := hover'.gives_eq_false hstep
    simp [gives] at hgives
  · intro agent hagent indexLimit expiryBlocks
    exact hover'.authorizeFeedback_eq_error hagent indexLimit expiryBlocks

/-- Account 2 is authorized on the agent of account 1. -/
def granted : List (Action bank) :=
  [signedBy 1 (.registerAgent [] []), signedBy 1 (.authorizeFeedback 0 2 1 100)]

/-- The authorization is revoked before account 2 has used it. -/
def withdrawn : State bank :=
  bankAfter (granted ++ [signedBy 1 (.revokeAuthorization 0 2)])

/-- Account 1 cannot authorize account 2 again. -/
theorem authorization_not_renewed_withdrawn :
    AuthorizationOver withdrawn 0 2 ∧
    step withdrawn (signedBy 1 (.authorizeFeedback 0 2 10 100)) =
      .error (bank.err .authorizationAlreadyExists) := by
  have hover : AuthorizationOver withdrawn 0 2 :=
    ⟨_, rfl, .inl (by decide +kernel)⟩
  obtain ⟨_, _, hrefused⟩ := authorization_not_renewed
    (bankAfter_reachable (by decide +kernel)) hover (.nil withdrawn)
  exact ⟨hover, hrefused _ rfl 10 100⟩

/-- Account 2 could give a feedback before its authorization was revoked; no
calls bring that back. -/
theorem authorization_lost :
    Reachable (fun _ _ => True) withdrawn ∧ AuthorizationOver withdrawn 0 2 ∧
    (step (bankAfter granted) (signedBy 2 (.giveFeedback 0 80 [] [] 0))).isOk =
      true ∧
    ¬ ∃ t s' s'', Transition.Run step withdrawn t s' ∧
      ∃ score tags uri hash, step s' (signedBy 2
        (.giveFeedback 0 score tags uri hash)) = .ok s'' := by
  have hreach : Reachable (fun _ _ => True) withdrawn :=
    bankAfter_reachable (by decide +kernel)
  have hover : AuthorizationOver withdrawn 0 2 :=
    ⟨_, rfl, .inl (by decide +kernel)⟩
  refine ⟨hreach, hover, by decide +kernel, ?_⟩
  rintro ⟨t, s', s'', hrun, score, tags, uri, hash, hstep⟩
  have hgives :=
    (hover.run (sound_of_reachable hreach) hrun).1.gives_eq_false hstep
  simp [gives, signedBy] at hgives

end Thxnet.Agent
