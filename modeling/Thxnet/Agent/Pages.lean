import Thxnet.Agent.Records
import Thxnet.Lib.Paging

/-!
# Reading the records page by page

The two queries for off-chain readers take a page number and a page size and
return the records at the positions of that page.  They find the positions with
32-bit arithmetic, which wraps around: a page far beyond the end can come back
to the beginning of the list.  `pages_exact_iff` says for which pages that does
not happen.
-/

namespace Thxnet.Agent

open Thxnet.Lib Thxnet.Frame

variable {R : Config} {α : Type}

/-- What the paginated queries do with the ids listed for an agent: look up
those at the positions of the page. -/
def paginated (ids : List Nat) (get : Nat → Option α) (page pageSize : Nat) :
    List (Nat × α) × Nat :=
  let totalCount := ids.length % 2 ^ 32
  let start := wrappingMul 32 page pageSize
  let stop := min (wrappingMul 32 (wrappingAdd 32 page 1) pageSize) totalCount
  let results := (List.range' start (stop - start)).filterMap fun i => do
    let id ← ids[i]?
    let info ← get id
    pure (id, info)
  (results, totalCount)

/-- `get_agent_feedbacks_paginated`. -/
def getAgentFeedbacksPaginated (b : Books R) (agentId page pageSize : Nat) :
    List (Nat × FeedbackInfo R) × Nat :=
  paginated (b.agentFeedbacks.listed agentId) b.feedbacks.get page pageSize

/-- `get_agent_validations_paginated`. -/
def getAgentValidationsPaginated (b : Books R) (agentId page pageSize : Nat) :
    List (Nat × ValidationRequest R) × Nat :=
  paginated (b.agentValidations.listed agentId) b.validationRequests.get page
    pageSize

/-! ## What a page should be -/

/-- A page holds, with their entries, exactly the elements at the positions
from `page * pageSize` up to `(page + 1) * pageSize`. -/
structure PageExact (ids : List Nat) (get : Nat → Option α)
    (page pageSize : Nat) (results : List (Nat × α)) : Prop where
  ids : results.map Prod.fst =
    window ids (page * pageSize) ((page + 1) * pageSize)
  entries : ∀ r ∈ results, get r.1 = some r.2

/-- The pages partition the list: every page is exact, any number of them that
reaches the end gives the list once, and those beyond the end are empty. -/
structure Partitions (ids : List Nat) (get : Nat → Option α) (pageSize : Nat)
    (pages : Nat → List (Nat × α)) : Prop where
  exact : ∀ page < 2 ^ 32, PageExact ids get page pageSize (pages page)
  once : ∀ n ≤ 2 ^ 32, ids.length ≤ n * pageSize →
    ((List.range n).flatMap pages).map Prod.fst = ids
  beyond : ∀ page < 2 ^ 32, ids.length ≤ page * pageSize → pages page = []

/-- The positions of the page are below `2 ^ 32`, or wrap around to positions
past the end of a list of length `n` or to none. -/
def PageFits (n page pageSize : Nat) : Prop :=
  (page + 1) * pageSize < 2 ^ 32 ∨
    min ((page + 1) * pageSize % 2 ^ 32) n ≤ page * pageSize % 2 ^ 32

/-! ## What a page is -/

section Pages

variable {ids : List Nat} {get : Nat → Option α} {page pageSize : Nat}

theorem paginated_eq (hlength : ids.length < 2 ^ 32) :
    (paginated ids get page pageSize).1 =
      withEntries get (window ids (page * pageSize % 2 ^ 32)
        ((page + 1) * pageSize % 2 ^ 32)) := by
  have hstop : wrappingMul 32 (wrappingAdd 32 page 1) pageSize =
      (page + 1) * pageSize % 2 ^ 32 := Nat.mod_mul_mod _ _ _
  have hread : ∀ i : Nat, (do
      let id ← ids[i]?
      let info ← get id
      pure (id, info) : Option (Nat × α)) =
      ids[i]?.bind fun id => (get id).map fun info => (id, info) := by
    intro i
    cases ids[i]? with
    | none => rfl
    | some id => cases hget : get id <;> simp [hget]
  unfold paginated
  simp only [hread, hstop, Nat.mod_eq_of_lt hlength]
  rw [← window_min, ← filterMap_range', withEntries, List.filterMap_filterMap]
  rfl

/-- A page whose positions wrap around is beyond the end. -/
theorem length_le_of_wraps (hlength : ids.length ≤ 2 ^ 31)
    (hsize : pageSize < 2 ^ 32) (hwraps : 2 ^ 32 ≤ (page + 1) * pageSize) :
    ids.length ≤ page * pageSize := by
  rw [Nat.add_mul, Nat.one_mul] at hwraps
  have hpage : 1 ≤ page := by
    by_contra hzero
    have hpage : page = 0 := by omega
    rw [hpage] at hwraps
    omega
  have hle : pageSize ≤ page * pageSize := Nat.le_mul_of_pos_left _ hpage
  omega

theorem page_exact_iff (hlength : ids.length ≤ 2 ^ 31)
    (hsize : pageSize < 2 ^ 32)
    (hget : ∀ id ∈ ids, (get id).isSome = true) :
    PageExact ids get page pageSize (paginated ids get page pageSize).1 ↔
      PageFits ids.length page pageSize := by
  rw [paginated_eq (by omega)]
  have hfst := @map_fst_withEntries _ _
    (window ids (page * pageSize % 2 ^ 32) ((page + 1) * pageSize % 2 ^ 32)) get
    fun id hid => hget id (mem_of_mem_window hid)
  by_cases hfits : (page + 1) * pageSize < 2 ^ 32
  · have hle : page * pageSize ≤ (page + 1) * pageSize :=
      Nat.mul_le_mul_right pageSize (Nat.le_succ page)
    refine iff_of_true ⟨?_, fun _ => get_of_mem_withEntries⟩ (.inl hfits)
    rw [hfst, Nat.mod_eq_of_lt hfits,
      Nat.mod_eq_of_lt (Nat.lt_of_le_of_lt hle hfits)]
  · have hend := length_le_of_wraps hlength hsize (Nat.le_of_not_lt hfits)
    have hempty : window ids (page * pageSize) ((page + 1) * pageSize) = [] :=
      window_eq_nil_iff.mpr ((Nat.min_le_right _ _).trans hend)
    constructor
    · intro hexact
      have hids := hexact.ids
      rw [hfst, hempty] at hids
      exact .inr (window_eq_nil_iff.mp hids)
    · rintro (hlt | hle)
      · exact absurd hlt hfits
      · refine ⟨?_, fun _ => get_of_mem_withEntries⟩
        rw [hfst, hempty]
        exact window_eq_nil_iff.mpr hle

theorem partitions_of_exact {pages : Nat → List (Nat × α)}
    (h : ∀ page < 2 ^ 32, PageExact ids get page pageSize (pages page)) :
    Partitions ids get pageSize pages := by
  refine ⟨h, fun n hn hreach => ?_, fun page hpage hend => ?_⟩
  · have hpages : ∀ page ∈ List.range n, (pages page).map Prod.fst =
        window ids (page * pageSize) ((page + 1) * pageSize) :=
      fun page hpage => (h page
        (Nat.lt_of_lt_of_le (List.mem_range.mp hpage) hn)).ids
    rw [List.map_flatMap, List.flatMap_congr hpages, flatMap_window,
      List.take_of_length_le hreach]
  · have hids := (h page hpage).ids
    rw [window_eq_nil_iff.mpr ((Nat.min_le_right _ _).trans hend)] at hids
    exact List.map_eq_nil_iff.mp hids

theorem partitions_iff (hlength : ids.length ≤ 2 ^ 31)
    (hsize : pageSize < 2 ^ 32)
    (hget : ∀ id ∈ ids, (get id).isSome = true) :
    Partitions ids get pageSize
        (fun page => (paginated ids get page pageSize).1) ↔
      ∀ page < 2 ^ 32, PageFits ids.length page pageSize := by
  constructor
  · intro hpart page hpage
    exact (page_exact_iff hlength hsize hget).mp (hpart.exact page hpage)
  · intro hfits
    exact partitions_of_exact fun page hpage =>
      (page_exact_iff hlength hsize hget).mpr (hfits page hpage)

end Pages

theorem isSome_of_listed {W : Type} {n : Nat}
    {list : StorageMap Nat (BoundedVec Nat n)} {m : StorageMap Nat W}
    {key : W → Nat} (h : list.Indexes m key) (agentId : Nat) :
    ∀ id ∈ list.listed agentId, (m.get id).isSome = true := by
  intro id hid
  obtain ⟨w, hw, _⟩ := (h.mem agentId id).mp hid
  rw [hw]
  rfl

/-- In every reachable state a page of either query is exact if and only if its
positions do not wrap around into the list, and the pages of one size partition
the list if and only if that is so for all of them. -/
theorem pages_exact_iff {ok : State R → Action R → Prop} {s : State R}
    (h : Reachable ok s) (agentId : Nat) {pageSize : Nat}
    (hsize : pageSize < 2 ^ 32) :
    ((∀ page < 2 ^ 32,
        PageExact (s.agentFeedbacks.listed agentId) s.feedbacks.get page
          pageSize (getAgentFeedbacksPaginated s.toBooks agentId page
            pageSize).1 ↔
        PageFits (s.agentFeedbacks.listed agentId).length page pageSize) ∧
      (Partitions (s.agentFeedbacks.listed agentId) s.feedbacks.get pageSize
          (fun page => (getAgentFeedbacksPaginated s.toBooks agentId page
            pageSize).1) ↔
        ∀ page < 2 ^ 32,
          PageFits (s.agentFeedbacks.listed agentId).length page pageSize)) ∧
    (∀ page < 2 ^ 32,
        PageExact (s.agentValidations.listed agentId) s.validationRequests.get
          page pageSize (getAgentValidationsPaginated s.toBooks agentId page
            pageSize).1 ↔
        PageFits (s.agentValidations.listed agentId).length page pageSize) ∧
      (Partitions (s.agentValidations.listed agentId) s.validationRequests.get
          pageSize (fun page => (getAgentValidationsPaginated s.toBooks agentId
            page pageSize).1) ↔
        ∀ page < 2 ^ 32,
          PageFits (s.agentValidations.listed agentId).length page
            pageSize) := by
  have hrec := recorded_of_reachable h
  have hfeedbacks := isSome_of_listed hrec.agentList agentId
  have hrequests := isSome_of_listed hrec.requestList agentId
  have hlength₁ := s.agentFeedbacks.length_listed_le agentId
  have hlength₂ := s.agentValidations.length_listed_le agentId
  exact ⟨⟨fun page _ => page_exact_iff (by omega) hsize hfeedbacks,
      partitions_iff (by omega) hsize hfeedbacks⟩,
    fun page _ => page_exact_iff (by omega) hsize hrequests,
    partitions_iff (by omega) hsize hrequests⟩

/-! ### One feedback, twice -/

/-- Account 2 gives feedback to the agent of account 1. -/
def praised : State bank :=
  bankAfter [signedBy 1 (.registerAgent [] []),
    signedBy 1 (.authorizeFeedback 0 2 1 100),
    signedBy 2 (.giveFeedback 0 90 [] [] 0)]

theorem praised_reachable : Reachable (fun _ _ => True) praised :=
  bankAfter_reachable (by decide +kernel)

/-- The first page of two holds the feedback. -/
theorem pages_exact_iff_first :
    PageExact (praised.agentFeedbacks.listed 0) praised.feedbacks.get 0 2
      (getAgentFeedbacksPaginated praised.toBooks 0 0 2).1 :=
  ((pages_exact_iff praised_reachable 0 (by decide)).1.1 0
    (by decide)).mpr (.inl (by decide))

/-- So does page `2 ^ 31`. -/
theorem page_wraps_around :
    Reachable (fun _ _ => True) praised ∧
      praised.agentFeedbacks.listed 0 = [0] ∧
      (getAgentFeedbacksPaginated praised.toBooks 0 (2 ^ 31) 2).1.map
        Prod.fst = [0] ∧
      ¬ PageExact (praised.agentFeedbacks.listed 0) praised.feedbacks.get
        (2 ^ 31) 2
        (getAgentFeedbacksPaginated praised.toBooks 0 (2 ^ 31) 2).1 := by
  have hpage : (getAgentFeedbacksPaginated praised.toBooks 0 (2 ^ 31) 2).1.map
      Prod.fst = [0] := by decide +kernel
  refine ⟨praised_reachable, by decide +kernel, hpage, fun hexact => ?_⟩
  have hids := hexact.ids
  rw [hpage] at hids
  exact absurd hids (by decide +kernel)

end Thxnet.Agent
