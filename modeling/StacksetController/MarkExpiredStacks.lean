import StacksetController.SortSlice
import StacksetController.Types

set_option autoImplicit false

namespace StacksetController.Core

def StackSetContainer.historyLimit (ssc : StackSetContainer) : Int :=
  match ssc.stackSet.spec.stackLifecycle.limit with
  | some limit => limit
  | none => defaultStackLifecycleLimit

-- `scaledDown` is the value `sc.ScaledDown()` has for each container when this call reads the clock.
section Candidates

variable (scaledDown : StackContainer → Bool)

def isGCCandidate (sc : StackContainer) : Bool := sc.ingressSpec.isNone || scaledDown sc

-- gcCandidates holds pointers: a candidate is kept with its position in StackContainers.
def gcCandidates (containers : List StackContainer) : List (Nat × StackContainer) :=
  containers.enum.filter fun candidate => isGCCandidate scaledDown candidate.2

end Candidates

def candidateCreation (candidate : Nat × StackContainer) : Time := candidate.2.stack.creationTimestamp

-- sort.Slice with `gcCandidates[i].Stack.CreationTimestamp.Time.Before(gcCandidates[j]...)`.
abbrev CandidateSort := SortSlice (Nat × StackContainer) (keyLess candidateCreation)

-- `sc.PendingRemoval = true` through the pointers at the given positions.
def markAt (marked : List Nat) (containers : List StackContainer) : List StackContainer :=
  containers.enum.map fun entry => if entry.1 ∈ marked then entry.2.markPendingRemoval else entry.2

def sliceBoundsPanic (high capacity : Int) : String :=
  "runtime error: slice bounds out of range [:" ++ toString high ++ "] with capacity " ++
    toString capacity

def nilPointerPanic : String := "runtime error: invalid memory address or nil pointer dereference"

-- The candidate slice is made with capacity len(StackContainers): `gcCandidates[:excessStacks]`
-- panics past the capacity, and between length and capacity it holds nil pointers, on which the
-- marking loop panics.
def markExpiredStacks (scaledDown : StackContainer → Bool) (sortSlice : CandidateSort)
    (ssc : StackSetContainer) : Except String StackSetContainer :=
  let historyLimit := ssc.historyLimit
  let candidates := gcCandidates scaledDown ssc.stackContainers
  if (candidates.length : Int) ≤ historyLimit then .ok ssc
  else
    let sorted := sortSlice.sort candidates
    let excessStacks := (candidates.length : Int) - historyLimit
    if (ssc.stackContainers.length : Int) < excessStacks then
      .error (sliceBoundsPanic excessStacks ssc.stackContainers.length)
    else if (candidates.length : Int) < excessStacks then .error nilPointerPanic
    else .ok { ssc with
      stackContainers := markAt ((sorted.take excessStacks.toNat).map Prod.fst) ssc.stackContainers }

section Marking

variable (scaledDown : StackContainer → Bool) (sortSlice : CandidateSort) (containers : List StackContainer)

theorem gcCandidates_length :
    (gcCandidates scaledDown containers).length = containers.countP (isGCCandidate scaledDown) := by
  rw [gcCandidates, ← List.countP_eq_length_filter]
  conv_rhs => rw [← List.enum_map_snd containers, List.countP_map]
  rfl

theorem gcCandidates_length_le : (gcCandidates scaledDown containers).length ≤ containers.length := by
  rw [gcCandidates_length]
  exact List.countP_le_length _

theorem mem_enum_of_mem_gcCandidates {e : Nat × StackContainer}
    (member : e ∈ gcCandidates scaledDown containers) :
    e ∈ containers.enum ∧ isGCCandidate scaledDown e.2 := by
  simpa [gcCandidates] using member

theorem enum_snd_eq {e f : Nat × StackContainer} (he : e ∈ containers.enum) (hf : f ∈ containers.enum)
    (same : e.1 = f.1) : e.2 = f.2 := by
  rw [List.mem_enum_iff_getElem?] at he hf
  rw [same] at he
  exact Option.some_injective _ (he.symm.trans hf)

theorem sorted_positions_nodup :
    ((sortSlice.sort (gcCandidates scaledDown containers)).map Prod.fst).Nodup := by
  refine ((sortSlice.perm _).map Prod.fst).nodup_iff.mpr ?_
  refine List.Sublist.nodup (List.Sublist.map Prod.fst (List.filter_sublist _)) ?_
  rw [List.enum_map_fst]
  exact List.nodup_range _

theorem mem_marked_iff {e : Nat × StackContainer} (k : Nat) (member : e ∈ containers.enum) :
    e.1 ∈ ((sortSlice.sort (gcCandidates scaledDown containers)).take k).map Prod.fst ↔
      e ∈ (sortSlice.sort (gcCandidates scaledDown containers)).take k := by
  constructor
  · intro marked
    obtain ⟨f, hf, same⟩ := List.mem_map.mp marked
    have candidate := (sortSlice.perm _).subset (List.mem_of_mem_take hf)
    have := enum_snd_eq containers (mem_enum_of_mem_gcCandidates scaledDown containers candidate).1
      member same
    rwa [← Prod.ext same this]
  · exact List.mem_map_of_mem Prod.fst

theorem prefix_positions_candidates (k : Nat) :
    ∀ i ∈ ((sortSlice.sort (gcCandidates scaledDown containers)).take k).map Prod.fst,
      ∃ sc, (i, sc) ∈ gcCandidates scaledDown containers := fun i member => by
  obtain ⟨e, early, rfl⟩ := List.mem_map.mp member
  exact ⟨e.2, (sortSlice.perm _).subset (List.mem_of_mem_take early)⟩

end Marking

section MarkAt

variable (marked : List Nat) (containers : List StackContainer)

@[simp] theorem markAt_nil : markAt [] containers = containers := by
  simp [markAt, List.enum_map_snd]

theorem zip_markAt : containers.zip (markAt marked containers) =
    containers.enum.map fun e => (e.2, if e.1 ∈ marked then e.2.markPendingRemoval else e.2) := by
  conv_lhs => rw [markAt]; enter [1]; rw [← List.enum_map_snd containers]
  rw [List.zip_map']

theorem markAt_eq_map (f : StackContainer → StackContainer)
    (agree : ∀ e ∈ containers.enum, (if e.1 ∈ marked then e.2.markPendingRemoval else e.2) = f e.2) :
    markAt marked containers = containers.map f := by
  rw [markAt]
  conv_rhs => rw [← List.enum_map_snd containers, List.map_map]
  exact List.map_congr_left agree

theorem mem_markAt {sc' : StackContainer} (member : sc' ∈ markAt marked containers) :
    ∃ e ∈ containers.enum, sc' = if e.1 ∈ marked then e.2.markPendingRemoval else e.2 := by
  simpa [markAt, eq_comm] using member

theorem map_markAt {β : Type} (f : StackContainer → β) (unchanged : ∀ sc, f sc.markPendingRemoval = f sc) :
    (markAt marked containers).map f = containers.map f := by
  rw [markAt, List.map_map]
  conv_rhs => rw [← List.enum_map_snd containers, List.map_map]
  refine List.map_congr_left fun e _ => ?_
  simp only [Function.comp_apply]
  split
  · exact unchanged _
  · rfl

variable {containers} (unmarked : ∀ sc ∈ containers, sc.pendingRemoval = false)
include unmarked

theorem pendingRemoval_markAt_entry {e : Nat × StackContainer} (member : e ∈ containers.enum) :
    (if e.1 ∈ marked then e.2.markPendingRemoval else e.2).pendingRemoval = decide (e.1 ∈ marked) := by
  have fresh := unmarked e.2 (List.snd_mem_of_mem_enum member)
  split <;> simp [*]

end MarkAt

section Expiry

variable (scaledDown : StackContainer → Bool) (sortSlice : CandidateSort) (ssc : StackSetContainer)

theorem markExpiredStacks_of_nonneg (nonnegative : 0 ≤ ssc.historyLimit) :
    markExpiredStacks scaledDown sortSlice ssc = .ok { ssc with
      stackContainers := markAt (((sortSlice.sort (gcCandidates scaledDown ssc.stackContainers)).take
        ((gcCandidates scaledDown ssc.stackContainers).length - ssc.historyLimit).toNat).map Prod.fst)
        ssc.stackContainers } := by
  have bound := gcCandidates_length_le scaledDown ssc.stackContainers
  unfold markExpiredStacks
  dsimp only
  split
  · rw [Int.toNat_eq_zero.mpr (by omega)]
    simp
  · rw [if_neg (by omega), if_neg (by omega)]

theorem markExpiredStacks_of_neg (negative : ssc.historyLimit < 0) :
    markExpiredStacks scaledDown sortSlice ssc =
      let excessStacks := ((gcCandidates scaledDown ssc.stackContainers).length : Int) - ssc.historyLimit
      .error (if (ssc.stackContainers.length : Int) < excessStacks
        then sliceBoundsPanic excessStacks ssc.stackContainers.length else nilPointerPanic) := by
  unfold markExpiredStacks
  dsimp only
  rw [if_neg (by omega)]
  split
  · rfl
  · rw [if_pos (by omega)]

theorem markExpiredStacks_returns_iff_nonneg :
    ((∃ out, markExpiredStacks scaledDown sortSlice ssc = .ok out) ↔ 0 ≤ ssc.historyLimit) ∧
    (ssc.historyLimit < 0 →
      markExpiredStacks scaledDown sortSlice ssc =
        .error (if (ssc.stackContainers.length : Int) <
            (gcCandidates scaledDown ssc.stackContainers).length - ssc.historyLimit
          then sliceBoundsPanic ((gcCandidates scaledDown ssc.stackContainers).length - ssc.historyLimit)
            ssc.stackContainers.length
          else nilPointerPanic)) := by
  refine ⟨⟨fun ⟨out, returned⟩ => ?_, fun nonnegative =>
    ⟨_, markExpiredStacks_of_nonneg scaledDown sortSlice ssc nonnegative⟩⟩, markExpiredStacks_of_neg scaledDown sortSlice ssc⟩
  by_contra negative
  rw [markExpiredStacks_of_neg scaledDown sortSlice ssc (by omega)] at returned
  cases returned

theorem historyLimit_nonneg_of_ok {out : StackSetContainer}
    (returned : markExpiredStacks scaledDown sortSlice ssc = .ok out) : 0 ≤ ssc.historyLimit := by
  by_contra negative
  rw [markExpiredStacks_of_neg scaledDown sortSlice ssc (lt_of_not_le negative)] at returned
  cases returned

theorem markExpiredStacks_ok {out : StackSetContainer}
    (returned : markExpiredStacks scaledDown sortSlice ssc = .ok out) :
    ∃ marked : List Nat, (∀ i ∈ marked, ∃ sc, (i, sc) ∈ gcCandidates scaledDown ssc.stackContainers) ∧
      out = { ssc with stackContainers := markAt marked ssc.stackContainers } := by
  have nonnegative := historyLimit_nonneg_of_ok scaledDown sortSlice ssc returned
  rw [markExpiredStacks_of_nonneg scaledDown sortSlice ssc nonnegative] at returned
  cases returned
  exact ⟨_, prefix_positions_candidates scaledDown sortSlice _ _, rfl⟩

theorem markAt_entry_of_candidates {containers : List StackContainer} {marked : List Nat}
    (candidates : ∀ i ∈ marked, ∃ sc, (i, sc) ∈ gcCandidates scaledDown containers) {e : Nat × StackContainer}
    (member : e ∈ containers.enum) :
    (if e.1 ∈ marked then e.2.markPendingRemoval else e.2) = e.2 ∨
      isGCCandidate scaledDown e.2 ∧ (if e.1 ∈ marked then e.2.markPendingRemoval else e.2) = e.2.markPendingRemoval := by
  split
  · obtain ⟨sc, candidate⟩ := candidates e.1 ‹_›
    have placed := mem_enum_of_mem_gcCandidates scaledDown _ candidate
    exact .inr ⟨enum_snd_eq _ placed.1 member rfl ▸ placed.2, rfl⟩
  · exact .inl rfl

theorem mem_markExpiredStacks {out : StackSetContainer}
    (returned : markExpiredStacks scaledDown sortSlice ssc = .ok out) {sc' : StackContainer}
    (member : sc' ∈ out.stackContainers) :
    ∃ sc ∈ ssc.stackContainers, sc' = sc ∨ isGCCandidate scaledDown sc ∧ sc' = sc.markPendingRemoval := by
  obtain ⟨marked, candidates, rfl⟩ := markExpiredStacks_ok scaledDown sortSlice ssc returned
  obtain ⟨e, inEnum, rfl⟩ := mem_markAt marked _ member
  exact ⟨e.2, List.snd_mem_of_mem_enum inEnum, markAt_entry_of_candidates scaledDown candidates inEnum⟩

end Expiry

def tiedStack (name : String) : StackContainer :=
  { (default : StackContainer) with stack := { (default : Stack) with name := name } }

def tiedWorkingSet : StackSetContainer :=
  { stackSet := { (default : StackSet) with
      spec := { (default : StackSetSpec) with stackLifecycle := { limit := some 1 } } }
    stackContainers := [tiedStack "foo-v1", tiedStack "foo-v2"] }

def negativeLimitWorkingSet : StackSetContainer :=
  { stackSet := { (default : StackSet) with
      spec := { (default : StackSetSpec) with stackLifecycle := { limit := some (-1) } } }
    stackContainers := [tiedStack "foo-v1", { tiedStack "foo-v2" with ingressSpec := some default }] }

theorem markExpiredStacks_negative_limit_panics :
    ¬ ∀ (scaledDown : StackContainer → Bool) (sortSlice : CandidateSort) (ssc : StackSetContainer),
      ∃ out, markExpiredStacks scaledDown sortSlice ssc = .ok out := by
  intro claim
  obtain ⟨out, returned⟩ := claim (fun _ => false) (.insertion candidateCreation) negativeLimitWorkingSet
  have panicked : markExpiredStacks (fun _ => false) (.insertion candidateCreation) negativeLimitWorkingSet =
      .error nilPointerPanic := rfl
  rw [panicked] at returned
  cases returned

end StacksetController.Core
