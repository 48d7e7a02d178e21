import StacksetController.MarkExpiredStacks

set_option autoImplicit false

namespace StacksetController.Core

theorem mem_take_iff_countP_lt {α β : Type} [LinearOrder β] (key : α → β) {xs : List α}
    (strict : xs.Pairwise fun a b => key a < key b) {x : α} (member : x ∈ xs) (k : Nat) :
    x ∈ xs.take k ↔ xs.countP (fun y => key y < key x) < k := by
  induction xs generalizing k with
  | nil => simp at member
  | cons y ys ih =>
    obtain ⟨above, strictRest⟩ := List.pairwise_cons.mp strict
    by_cases same : x = y
    · subst same
      have none : ys.countP (fun y => key y < key x) = 0 :=
        List.countP_eq_zero.mpr fun z hz => by simpa using le_of_lt (above z hz)
      cases k <;> simp [none]
    · have later : x ∈ ys := (List.mem_cons.mp member).resolve_left same
      have smaller : key y < key x := above x later
      cases k with
      | zero => simp
      | succ k => simp [same, smaller, ih strictRest later k]

theorem mem_take_countP_iff {α β : Type} [LinearOrder β] (key : α → β) {xs : List α}
    (sorted : xs.Pairwise fun a b => key a ≤ key b) (t : β) {x : α} (member : x ∈ xs) :
    x ∈ xs.take (xs.countP fun y => key y < t) ↔ key x < t := by
  induction xs with
  | nil => simp at member
  | cons y ys ih =>
    obtain ⟨above, sortedRest⟩ := List.pairwise_cons.mp sorted
    by_cases early : key y < t
    · simp only [List.countP_cons, early, decide_True, ite_true, List.take_succ_cons, List.mem_cons]
      rcases List.mem_cons.mp member with rfl | later
      · exact iff_of_true (.inl rfl) early
      · rw [ih sortedRest later]
        exact ⟨fun found => found.elim (fun same => same ▸ early) id, .inr⟩
    · have late : ∀ z ∈ y :: ys, ¬ key z < t := fun z hz before => early <| by
        rcases List.mem_cons.mp hz with rfl | later
        · exact before
        · exact lt_of_le_of_lt (above z later) before
      rw [List.countP_eq_zero.mpr fun z hz => by simpa using late z hz, List.take_zero]
      exact iff_of_false (List.not_mem_nil _) (late x member)

section Order

variable (scaledDown : StackContainer → Bool)

def candidatesBefore (containers : List StackContainer) (t : Time) : Nat :=
  containers.countP fun c => isGCCandidate scaledDown c && decide (c.stack.creationTimestamp < t)

def olderCandidates (containers : List StackContainer) (sc : StackContainer) : Nat :=
  candidatesBefore scaledDown containers sc.stack.creationTimestamp

def markedForRemoval (before after : List StackContainer) : List StackContainer :=
  ((before.zip after).filter (·.2.pendingRemoval)).map Prod.fst

variable (containers : List StackContainer)

theorem gcCandidates_map_creation :
    (gcCandidates scaledDown containers).map candidateCreation =
      (containers.filter (isGCCandidate scaledDown)).map (·.stack.creationTimestamp) := by
  conv_rhs => rw [← List.enum_map_snd containers, List.filter_map, List.map_map]
  rfl

theorem candidatesBefore_perm {containers' : List StackContainer} (p : containers.Perm containers') (t : Time) :
    candidatesBefore scaledDown containers t = candidatesBefore scaledDown containers' t :=
  p.countP_eq _

theorem markedForRemoval_map (f : StackContainer → StackContainer) :
    markedForRemoval containers (containers.map f) = containers.filter fun sc => (f sc).pendingRemoval := by
  induction containers with
  | nil => rfl
  | cons sc rest ih =>
    simp only [markedForRemoval, List.map_cons, List.zip_cons_cons, List.filter_cons] at ih ⊢
    split <;> simp [ih, *]

variable (sortSlice : CandidateSort)

theorem countP_sorted_before (t : Time) :
    (sortSlice.sort (gcCandidates scaledDown containers)).countP (fun e => candidateCreation e < t) =
      candidatesBefore scaledDown containers t := by
  rw [(sortSlice.perm _).countP_eq, gcCandidates, List.countP_filter, candidatesBefore]
  conv_rhs => rw [← List.enum_map_snd containers, List.countP_map]
  exact List.countP_congr fun y _ => by simp [candidateCreation, Bool.and_comm]

theorem markAt_sorted_prefix_eq (k : Nat) (select : StackContainer → Prop) [DecidablePred select]
    (selects : ∀ e ∈ sortSlice.sort (gcCandidates scaledDown containers),
      e ∈ (sortSlice.sort (gcCandidates scaledDown containers)).take k ↔ select e.2) :
    markAt (((sortSlice.sort (gcCandidates scaledDown containers)).take k).map Prod.fst) containers =
      containers.map fun sc => if isGCCandidate scaledDown sc ∧ select sc then sc.markPendingRemoval else sc := by
  apply markAt_eq_map
  intro e member
  simp only [mem_marked_iff scaledDown sortSlice containers k member]
  by_cases candidate : isGCCandidate scaledDown e.2
  · have inSorted : e ∈ sortSlice.sort (gcCandidates scaledDown containers) :=
      (sortSlice.perm _).mem_iff.mpr (List.mem_filter.mpr ⟨member, candidate⟩)
    simp [selects e inSorted, candidate]
  · have absent : e ∉ (sortSlice.sort (gcCandidates scaledDown containers)).take k := fun early => candidate
      (mem_enum_of_mem_gcCandidates scaledDown containers
        ((sortSlice.perm _).subset (List.mem_of_mem_take early))).2
    simp [absent, candidate]

theorem markAt_sorted_prefix_of_distinct
    (distinct : ((containers.filter (isGCCandidate scaledDown)).map (·.stack.creationTimestamp)).Nodup)
    (k : Nat) :
    markAt (((sortSlice.sort (gcCandidates scaledDown containers)).take k).map Prod.fst) containers =
      containers.map fun sc => if isGCCandidate scaledDown sc ∧ olderCandidates scaledDown containers sc < k
        then sc.markPendingRemoval else sc := by
  have strict : (sortSlice.sort (gcCandidates scaledDown containers)).Pairwise
      fun a b => candidateCreation a < candidateCreation b :=
    sort_strict sortSlice (by rw [gcCandidates_map_creation]; exact distinct)
  refine markAt_sorted_prefix_eq scaledDown containers sortSlice k _ fun e inSorted => ?_
  rw [mem_take_iff_countP_lt candidateCreation strict inSorted, countP_sorted_before]
  rfl

theorem markAt_sorted_prefix_of_cutoff {t : Time} {k : Nat} (cutoff : candidatesBefore scaledDown containers t = k) :
    markAt (((sortSlice.sort (gcCandidates scaledDown containers)).take k).map Prod.fst) containers =
      containers.map fun sc => if isGCCandidate scaledDown sc ∧ sc.stack.creationTimestamp < t
        then sc.markPendingRemoval else sc := by
  refine markAt_sorted_prefix_eq scaledDown containers sortSlice k _ fun e inSorted => ?_
  rw [← cutoff, ← countP_sorted_before scaledDown containers sortSlice t]
  exact mem_take_countP_iff candidateCreation (sorted_key_le candidateCreation sortSlice _) t inSorted

theorem markedForRemoval_creation (unmarked : ∀ sc ∈ containers, sc.pendingRemoval = false) (k : Nat) :
    ((markedForRemoval containers (markAt (((sortSlice.sort (gcCandidates scaledDown containers)).take k).map
        Prod.fst) containers)).map (·.stack.creationTimestamp)).Perm
      (((sortSlice.sort (gcCandidates scaledDown containers)).map candidateCreation).take k) := by
  set sorted := sortSlice.sort (gcCandidates scaledDown containers)
  have inEnum : ∀ e ∈ sorted.take k, e ∈ containers.enum := fun e early =>
    (mem_enum_of_mem_gcCandidates scaledDown containers
      ((sortSlice.perm _).subset (List.mem_of_mem_take early))).1
  have selected : markedForRemoval containers (markAt ((sorted.take k).map Prod.fst) containers) =
      (containers.enum.filter fun e => e ∈ sorted.take k).map Prod.snd := by
    rw [markedForRemoval, zip_markAt, List.filter_map, List.map_map]
    congr 1
    apply List.filter_congr
    intro e member
    simp only [Function.comp, pendingRemoval_markAt_entry _ unmarked member]
    exact decide_eq_decide.mpr (mem_marked_iff scaledDown sortSlice containers k member)
  have enumNodup : containers.enum.Nodup :=
    List.Nodup.of_map Prod.fst (by rw [List.enum_map_fst]; exact List.nodup_range _)
  have prefixNodup : (sorted.take k).Nodup :=
    ((sorted_positions_nodup scaledDown sortSlice containers).of_map _).sublist (List.take_sublist _ _)
  rw [selected, List.map_map, ← List.map_take]
  refine List.Perm.map _ ((List.perm_ext_iff_of_nodup (enumNodup.filter _) prefixNodup).mpr fun e => ?_)
  simpa using fun early => inEnum e early

end Order

section Rerun

variable (scaledDown : StackContainer → Bool) (containers : List StackContainer)

def KeepsCandidacy (f : StackContainer → StackContainer) : Prop :=
  ∀ sc, isGCCandidate scaledDown (f sc) = isGCCandidate scaledDown sc ∧
    (f sc).stack.creationTimestamp = sc.stack.creationTimestamp

variable {scaledDown} {f : StackContainer → StackContainer} (keeps : KeepsCandidacy scaledDown f)
include keeps

theorem candidateTimestamps_map :
    ((containers.map f).filter (isGCCandidate scaledDown)).map (·.stack.creationTimestamp) =
      (containers.filter (isGCCandidate scaledDown)).map (·.stack.creationTimestamp) := by
  rw [List.filter_map, List.map_map]
  exact congrArg₂ List.map (funext fun sc => (keeps sc).2)
    (List.filter_congr fun sc _ => by simp only [Function.comp_apply, (keeps sc).1])

theorem gcCandidates_length_map :
    (gcCandidates scaledDown (containers.map f)).length = (gcCandidates scaledDown containers).length := by
  rw [gcCandidates_length, gcCandidates_length, List.countP_map]
  exact List.countP_congr fun sc _ => by simp only [Function.comp_apply, (keeps sc).1]

theorem olderCandidates_map (sc : StackContainer) :
    olderCandidates scaledDown (containers.map f) (f sc) = olderCandidates scaledDown containers sc := by
  rw [olderCandidates, olderCandidates, candidatesBefore, candidatesBefore, List.countP_map]
  exact List.countP_congr fun c _ => by simp only [Function.comp_apply, (keeps c).1, (keeps c).2, (keeps sc).2]

end Rerun

theorem keepsCandidacy_mark {scaledDown : StackContainer → Bool}
    (unread : ∀ sc, scaledDown sc.markPendingRemoval = scaledDown sc) (test : StackContainer → Prop)
    [DecidablePred test] : KeepsCandidacy scaledDown fun sc => if test sc then sc.markPendingRemoval else sc := by
  intro sc
  dsimp only
  split
  · exact ⟨by simp only [isGCCandidate, StackContainer.markPendingRemoval_ingressSpec, unread], rfl⟩
  · exact ⟨rfl, rfl⟩

theorem markExpiredStacks_idempotent (scaledDown : StackContainer → Bool)
    (unread : ∀ sc, scaledDown sc.markPendingRemoval = scaledDown sc) (first second : CandidateSort)
    (ssc : StackSetContainer)
    (distinct : ((ssc.stackContainers.filter (isGCCandidate scaledDown)).map (·.stack.creationTimestamp)).Nodup)
    {out : StackSetContainer} (returned : markExpiredStacks scaledDown first ssc = .ok out) :
    markExpiredStacks scaledDown second out = .ok out := by
  have nonnegative := historyLimit_nonneg_of_ok scaledDown first ssc returned
  rw [markExpiredStacks_of_nonneg scaledDown first ssc nonnegative,
    markAt_sorted_prefix_of_distinct scaledDown ssc.stackContainers first distinct] at returned
  cases returned
  have keeps := keepsCandidacy_mark unread fun sc => isGCCandidate scaledDown sc ∧
    olderCandidates scaledDown ssc.stackContainers sc <
      ((gcCandidates scaledDown ssc.stackContainers).length - ssc.historyLimit).toNat
  have distinct' := candidateTimestamps_map ssc.stackContainers keeps ▸ distinct
  rw [markExpiredStacks_of_nonneg scaledDown second _ ?_,
    markAt_sorted_prefix_of_distinct scaledDown _ second distinct', gcCandidates_length_map _ keeps, List.map_map]
  · refine congrArg (fun cs => Except.ok { ssc with stackContainers := cs }) (List.map_congr_left fun sc _ => ?_)
    simp only [Function.comp_apply, olderCandidates_map _ keeps, (keeps sc).1,
      show ∀ cs, ({ ssc with stackContainers := cs } : StackSetContainer).historyLimit = ssc.historyLimit from
        fun _ => rfl]
    split_ifs <;> rfl
  · exact nonnegative

def agedWorkingSet : StackSetContainer :=
  { tiedWorkingSet with
    stackContainers := [tiedStack "foo-v1", { tiedStack "foo-v2" with stack.creationTimestamp := 1 }] }

theorem agedWorkingSet_rerun :
    (∀ sc : StackContainer, (fun _ => false) sc.markPendingRemoval = (fun _ : StackContainer => false) sc) ∧
    ((agedWorkingSet.stackContainers.filter (isGCCandidate fun _ => false)).map (·.stack.creationTimestamp)).Nodup ∧
    ∃ out, markExpiredStacks (fun _ => false) (.insertion candidateCreation) agedWorkingSet = .ok out ∧
      markExpiredStacks (fun _ => false) (.insertion candidateCreation) out = .ok out :=
  ⟨fun _ => rfl, by decide, _, rfl, markExpiredStacks_idempotent (fun _ => false) (fun _ => rfl)
    (.insertion candidateCreation) (.insertion candidateCreation) agedWorkingSet (by decide) rfl⟩

section TwoRuns

def RunsAgree (same : StackSetContainer → StackSetContainer → Prop) :
    Except String StackSetContainer → Except String StackSetContainer → Prop
  | .error panic, .error panic' => panic = panic'
  | .ok out, .ok out' => same out out'
  | _, _ => False

variable (scaledDown : StackContainer → Bool) (first second : CandidateSort) (ssc : StackSetContainer)

theorem markExpiredStacks_marking_order_independent (reordered : List StackContainer)
    (p : reordered.Perm ssc.stackContainers) :
    RunsAgree (fun out out' =>
        ((∃ t, candidatesBefore scaledDown ssc.stackContainers t =
            ((gcCandidates scaledDown ssc.stackContainers).length - ssc.historyLimit).toNat) →
          (markedForRemoval ssc.stackContainers out.stackContainers).Perm
            (markedForRemoval reordered out'.stackContainers)) ∧
        ((∀ sc ∈ ssc.stackContainers, sc.pendingRemoval = false) →
          ((markedForRemoval ssc.stackContainers out.stackContainers).map (·.stack.creationTimestamp)).Perm
            ((markedForRemoval reordered out'.stackContainers).map (·.stack.creationTimestamp))))
      (markExpiredStacks scaledDown first ssc)
      (markExpiredStacks scaledDown second { ssc with stackContainers := reordered }) := by
  have sameCount : (gcCandidates scaledDown reordered).length =
      (gcCandidates scaledDown ssc.stackContainers).length := by
    rw [gcCandidates_length, gcCandidates_length]
    exact p.countP_eq _
  by_cases negative : ssc.historyLimit < 0
  · rw [markExpiredStacks_of_neg scaledDown first ssc negative,
      markExpiredStacks_of_neg scaledDown second { ssc with stackContainers := reordered } negative]
    simp only [RunsAgree, sameCount, p.length_eq]
    rfl
  · have nonnegative := not_lt.mp negative
    rw [markExpiredStacks_of_nonneg scaledDown first ssc nonnegative,
      markExpiredStacks_of_nonneg scaledDown second { ssc with stackContainers := reordered } nonnegative]
    refine ⟨fun ⟨t, cutoff⟩ => ?_, fun unmarked => ?_⟩
    · have cutoff' : candidatesBefore scaledDown reordered t = ((gcCandidates scaledDown reordered).length -
          ({ ssc with stackContainers := reordered } : StackSetContainer).historyLimit).toNat := by
        rw [sameCount, candidatesBefore_perm scaledDown reordered p]
        exact cutoff
      dsimp only
      rw [markAt_sorted_prefix_of_cutoff scaledDown ssc.stackContainers first cutoff,
        markAt_sorted_prefix_of_cutoff scaledDown reordered second cutoff', markedForRemoval_map,
        markedForRemoval_map]
      exact (p.filter _).symm
    · have unmarked' : ∀ sc ∈ reordered, sc.pendingRemoval = false := fun sc member =>
        unmarked sc (p.subset member)
      have keys : ((gcCandidates scaledDown ssc.stackContainers).map candidateCreation).Perm
          ((gcCandidates scaledDown reordered).map candidateCreation) := by
        rw [gcCandidates_map_creation, gcCandidates_map_creation]
        exact (p.symm.filter _).map _
      refine (markedForRemoval_creation scaledDown ssc.stackContainers first unmarked _).trans ?_
      rw [sort_map_key_eq first second keys, ← sameCount]
      exact (markedForRemoval_creation scaledDown reordered second unmarked' _).symm

theorem tiedWorkingSet_swapped_marking :
    [tiedStack "foo-v2", tiedStack "foo-v1"].Perm tiedWorkingSet.stackContainers ∧
    RunsAgree (fun out out' =>
        ((∃ t, candidatesBefore (fun _ => false) [tiedStack "foo-v1", tiedStack "foo-v2"] t =
            ((gcCandidates (fun _ => false) [tiedStack "foo-v1", tiedStack "foo-v2"]).length -
              tiedWorkingSet.historyLimit).toNat) →
          (markedForRemoval [tiedStack "foo-v1", tiedStack "foo-v2"] out.stackContainers).Perm
            (markedForRemoval [tiedStack "foo-v2", tiedStack "foo-v1"] out'.stackContainers)) ∧
        ((∀ sc ∈ [tiedStack "foo-v1", tiedStack "foo-v2"], sc.pendingRemoval = false) →
          ((markedForRemoval [tiedStack "foo-v1", tiedStack "foo-v2"] out.stackContainers).map
              (·.stack.creationTimestamp)).Perm
            ((markedForRemoval [tiedStack "foo-v2", tiedStack "foo-v1"] out'.stackContainers).map
              (·.stack.creationTimestamp))))
      (markExpiredStacks (fun _ => false) (.insertion candidateCreation) tiedWorkingSet)
      (markExpiredStacks (fun _ => false) (.insertion candidateCreation)
        { tiedWorkingSet with stackContainers := [tiedStack "foo-v2", tiedStack "foo-v1"] }) :=
  ⟨.swap _ _ _, markExpiredStacks_marking_order_independent (fun _ => false) (.insertion candidateCreation)
    (.insertion candidateCreation) tiedWorkingSet _ (.swap _ _ _)⟩

theorem markExpiredStacks_tie_marks_by_order :
    ¬ ∀ (scaledDown : StackContainer → Bool) (first second : CandidateSort) (ssc : StackSetContainer)
        (reordered : List StackContainer), reordered.Perm ssc.stackContainers →
      RunsAgree (fun out out' => (markedForRemoval ssc.stackContainers out.stackContainers).Perm
          (markedForRemoval reordered out'.stackContainers))
        (markExpiredStacks scaledDown first ssc)
        (markExpiredStacks scaledDown second { ssc with stackContainers := reordered }) := by
  intro claim
  have runs := claim (fun _ => false) (.insertion candidateCreation) (.insertion candidateCreation)
    tiedWorkingSet [tiedStack "foo-v2", tiedStack "foo-v1"] (.swap _ _ _)
  have first : markExpiredStacks (fun _ => false) (.insertion candidateCreation) tiedWorkingSet =
      .ok { tiedWorkingSet with
        stackContainers := [(tiedStack "foo-v1").markPendingRemoval, tiedStack "foo-v2"] } := rfl
  have second : markExpiredStacks (fun _ => false) (.insertion candidateCreation)
      { tiedWorkingSet with stackContainers := [tiedStack "foo-v2", tiedStack "foo-v1"] } =
      .ok { tiedWorkingSet with
        stackContainers := [(tiedStack "foo-v2").markPendingRemoval, tiedStack "foo-v1"] } := rfl
  rw [first, second] at runs
  change [tiedStack "foo-v1"].Perm [tiedStack "foo-v2"] at runs
  have : tiedStack "foo-v1" = tiedStack "foo-v2" := List.singleton_perm_singleton.mp runs
  exact absurd this (by decide)

end TwoRuns

end StacksetController.Core
