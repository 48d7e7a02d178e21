import StacksetController.NewStack
import StacksetController.Status

set_option autoImplicit false

namespace StacksetController.Core

def StackSet.ownerReference (stackset : StackSet) : OwnerReference :=
  { apiVersion := stackset.apiVersion, kind := stackset.kind, name := stackset.name, uid := stackset.uid }

def StackContainer.identity (sc : StackContainer) : String × Labels × List OwnerReference :=
  (sc.name, sc.stack.labels, sc.stack.ownerReferences)

theorem map_name_eq (containers : List StackContainer) :
    containers.map StackContainer.name = (containers.map StackContainer.identity).map Prod.fst := by
  simp [List.map_map, Function.comp_def, StackContainer.identity]

/-- What NewStack stamps on a Stack it creates for `stackset`: a name `<stackset>-<version>` for a version
that is not empty, the version label of that version, and one owner reference to the StackSet. -/
def CreatedBy (stackset : StackSet) (sc : StackContainer) : Prop :=
  ∃ version, version ≠ "" ∧ sc.name = generateStackName stackset version ∧
    sc.stack.labels.lookup StackVersionLabelKey = some version ∧ sc.stack.ownerReferences = [stackset.ownerReference]

theorem CreatedBy.congr {stackset stackset' : StackSet} {sc sc' : StackContainer} (created : CreatedBy stackset sc)
    (name : stackset'.name = stackset.name) (owner : stackset'.ownerReference = stackset.ownerReference)
    (same : sc'.identity = sc.identity) : CreatedBy stackset' sc' := by
  obtain ⟨version, nonempty, named, labelled, owned⟩ := created
  simp only [StackContainer.identity, Prod.mk.injEq] at same
  obtain ⟨sameName, sameLabels, sameOwners⟩ := same
  refine ⟨version, nonempty, ?_, by rw [sameLabels, labelled], by rw [sameOwners, owned, owner]⟩
  rw [sameName, named, generateStackName, generateStackName, name]

theorem currentStackVersion_ne_empty (stackset : StackSet) : currentStackVersion stackset ≠ "" := by
  unfold currentStackVersion
  split
  · decide
  · assumption

theorem newStack_creates {ssc : StackSetContainer} {sc : StackContainer} {version : String} {stackset : StackSet}
    (emitted : ssc.newStack = ((some sc, version), stackset)) :
    ssc.stackByName sc.name = none ∧ version = currentStackVersion ssc.stackSet ∧
      ssc.stackSet.status.observedStackVersion ≠ version ∧ CreatedBy ssc.stackSet sc ∧
      stackset.name = ssc.stackSet.name ∧ stackset.ownerReference = ssc.stackSet.ownerReference := by
  by_cases emits : (ssc.stackByName (generateStackName ssc.stackSet (currentStackVersion ssc.stackSet))).isNone ∧
      ssc.stackSet.status.observedStackVersion ≠ currentStackVersion ssc.stackSet
  · rw [newStack_of_emits ssc emits] at emitted
    simp only [Prod.mk.injEq, Option.some.injEq] at emitted
    obtain ⟨⟨rfl, rfl⟩, rfl⟩ := emitted
    refine ⟨Option.isNone_iff_eq_none.mp emits.1, rfl, emits.2,
      ⟨_, currentStackVersion_ne_empty _, rfl, ?_, rfl⟩, rfl, rfl⟩
    rw [lookup_newStackContainer_labels, if_pos rfl]
  · rw [newStack_of_not_emits ssc emits] at emitted
    cases emitted

/-- Modelled from the spec: the writers of a StackSet's working set from one reconciliation to the next.
The controller creates the Stack NewStack emits, bumps `observedStackVersion` to the current version once
that Stack exists (section 4.1), writes the status GenerateStackSetStatus computes (section 4.5) and
deletes the Stacks MarkExpiredStacks marks; users delete Stacks and edit the StackSet's spec; and what the
working set observes of its Stacks (traffic, replicas, the fields the API server fills in) changes without
touching the names, labels and owners their creator set. -/
inductive LifecycleStep : StackSetContainer → StackSetContainer → Prop
  | create {ssc : StackSetContainer} {sc : StackContainer} {version : String} {stackset : StackSet}
      (emitted : ssc.newStack = ((some sc, version), stackset)) :
      LifecycleStep ssc { stackSet := stackset, stackContainers := ssc.stackContainers ++ [sc] }
  | observe {ssc : StackSetContainer}
      (persisted : (ssc.stackByName (generateStackName ssc.stackSet (currentStackVersion ssc.stackSet))).isSome) :
      LifecycleStep ssc { ssc with stackSet.status.observedStackVersion := currentStackVersion ssc.stackSet }
  | report {ssc : StackSetContainer} : LifecycleStep ssc { ssc with stackSet.status := ssc.generateStackSetStatus }
  | collect {ssc out : StackSetContainer} (scaledDown : StackContainer → Bool) (sortSlice : CandidateSort)
      (returned : markExpiredStacks scaledDown sortSlice ssc = .ok out) :
      LifecycleStep ssc { out with stackContainers := out.stackContainers.filter (!·.pendingRemoval) }
  | delete {ssc : StackSetContainer} {kept : List StackContainer} (sublist : kept.Sublist ssc.stackContainers) :
      LifecycleStep ssc { ssc with stackContainers := kept }
  | edit {ssc : StackSetContainer} (spec : StackSetSpec) : LifecycleStep ssc { ssc with stackSet.spec := spec }
  | refresh {ssc : StackSetContainer} {containers : List StackContainer}
      (same : containers.map StackContainer.identity = ssc.stackContainers.map StackContainer.identity) :
      LifecycleStep ssc { ssc with stackContainers := containers }

inductive ReachableWorkingSet : StackSetContainer → Prop
  | init (stackset : StackSet) : ReachableWorkingSet { stackSet := stackset, stackContainers := [] }
  | step {ssc ssc' : StackSetContainer} : ReachableWorkingSet ssc → LifecycleStep ssc ssc' → ReachableWorkingSet ssc'

namespace LifecycleStep

variable {ssc ssc' : StackSetContainer}

theorem frame (step : LifecycleStep ssc ssc') :
    ssc'.stackSet.name = ssc.stackSet.name ∧ ssc'.stackSet.ownerReference = ssc.stackSet.ownerReference ∧
      ((∃ sc version stackset, ssc.newStack = ((some sc, version), stackset) ∧
          ssc'.stackContainers = ssc.stackContainers ++ [sc]) ∨
        ((ssc'.stackContainers.map StackContainer.identity).Sublist
            (ssc.stackContainers.map StackContainer.identity) ∧
          (ssc'.stackSet.status.observedStackVersion = ssc.stackSet.status.observedStackVersion ∨
            ssc'.stackSet.status.observedStackVersion = currentStackVersion ssc'.stackSet))) := by
  cases step with
  | create emitted =>
    obtain ⟨-, -, -, -, name, owner⟩ := newStack_creates emitted
    exact ⟨name, owner, .inl ⟨_, _, _, emitted, rfl⟩⟩
  | observe => exact ⟨rfl, rfl, .inr ⟨.refl _, .inr rfl⟩⟩
  | report =>
    refine ⟨rfl, rfl, .inr ⟨.refl _, .inl ?_⟩⟩
    simp only [StackSetContainer.generateStackSetStatus_eq]
  | collect scaledDown sortSlice returned =>
    obtain ⟨marked, -, rfl⟩ := markExpiredStacks_ok scaledDown sortSlice ssc returned
    refine ⟨rfl, rfl, .inr ⟨?_, .inl rfl⟩⟩
    rw [← map_markAt marked ssc.stackContainers StackContainer.identity fun _ => rfl]
    exact (List.filter_sublist _).map _
  | delete sublist => exact ⟨rfl, rfl, .inr ⟨sublist.map _, .inl rfl⟩⟩
  | edit => exact ⟨rfl, rfl, .inr ⟨.refl _, .inl rfl⟩⟩
  | refresh same => exact ⟨rfl, rfl, .inr ⟨same ▸ .refl _, .inl rfl⟩⟩

end LifecycleStep

/-- The data model's invariants on the Stacks of a working set: distinct names, and every Stack one NewStack
created for the StackSet. -/
structure StacksWellFormed (ssc : StackSetContainer) : Prop where
  names_distinct : (ssc.stackContainers.map StackContainer.name).Nodup
  created : ∀ sc ∈ ssc.stackContainers, CreatedBy ssc.stackSet sc

namespace StacksWellFormed

variable {ssc ssc' : StackSetContainer}

theorem step (wellFormed : StacksWellFormed ssc) (step : LifecycleStep ssc ssc') : StacksWellFormed ssc' := by
  obtain ⟨name, owner, ⟨sc, version, stackset, emitted, added⟩ | ⟨kept, -⟩⟩ := step.frame
  · obtain ⟨fresh, -, -, created, -, -⟩ := newStack_creates emitted
    have unnamed : ∀ c ∈ ssc.stackContainers, c.name ≠ sc.name := fun c member same => by
      have := List.find?_eq_none.mp fresh c member
      simp [same] at this
    refine ⟨?_, fun c member => ?_⟩
    · rw [added, List.map_append, List.nodup_append]
      refine ⟨wellFormed.names_distinct, List.nodup_singleton _, fun n old new => ?_⟩
      obtain ⟨c, member, rfl⟩ := List.mem_map.mp old
      exact unnamed c member (List.mem_singleton.mp new)
    · rw [added, List.mem_append, List.mem_singleton] at member
      rcases member with old | rfl
      · exact (wellFormed.created c old).congr name owner rfl
      · exact created.congr name owner rfl
  · refine ⟨?_, fun c member => ?_⟩
    · have distinct := wellFormed.names_distinct
      rw [map_name_eq] at distinct ⊢
      exact distinct.sublist (kept.map _)
    · obtain ⟨c', member', same⟩ := List.mem_map.mp (kept.subset (List.mem_map_of_mem _ member))
      exact (wellFormed.created c' member').congr name owner same.symm

end StacksWellFormed

theorem reachable_stacks_well_formed {ssc : StackSetContainer} (reachable : ReachableWorkingSet ssc) :
    StacksWellFormed ssc ∧ (ssc.stackContainers.map fun sc => sc.stack.labels.lookup StackVersionLabelKey).Nodup := by
  have wellFormed : StacksWellFormed ssc := by
    induction reachable with
    | init stackset => exact ⟨List.nodup_nil, fun _ absent => absurd absent (List.not_mem_nil _)⟩
    | step _ step ih => exact ih.step step
  refine ⟨wellFormed, (List.nodup_map_iff_inj_on (wellFormed.names_distinct.of_map _)).mpr
    fun a member b member' same => ?_⟩
  obtain ⟨version, -, named, labelled, -⟩ := wellFormed.created a member
  obtain ⟨version', -, named', labelled', -⟩ := wellFormed.created b member'
  rw [labelled, labelled', Option.some.injEq] at same
  rw [same] at named
  exact List.inj_on_of_nodup_map wellFormed.names_distinct member member' (named.trans named'.symm)

theorem fooStackSet_created_well_formed :
    ReachableWorkingSet
        { stackSet := stackSetVersion "foo" "v1"
          stackContainers := [newStackContainer (stackSetVersion "foo" "v1") "foo-v1" "v1" none] } ∧
      StacksWellFormed
        { stackSet := stackSetVersion "foo" "v1"
          stackContainers := [newStackContainer (stackSetVersion "foo" "v1") "foo-v1" "v1" none] } ∧
      ([newStackContainer (stackSetVersion "foo" "v1") "foo-v1" "v1" none].map fun sc =>
        sc.stack.labels.lookup StackVersionLabelKey).Nodup :=
  have reachable : ReachableWorkingSet
      { stackSet := stackSetVersion "foo" "v1"
        stackContainers := [newStackContainer (stackSetVersion "foo" "v1") "foo-v1" "v1" none] } :=
    .step (.init (stackSetVersion "foo" "v1")) (.create rfl)
  ⟨reachable, reachable_stacks_well_formed reachable⟩

theorem LifecycleStep.keeps_observed {ssc ssc' : StackSetContainer} (step : LifecycleStep ssc ssc')
    (observed : ssc.stackSet.status.observedStackVersion = currentStackVersion ssc.stackSet)
    (kept : currentStackVersion ssc'.stackSet = currentStackVersion ssc.stackSet) :
    ssc'.stackSet.status.observedStackVersion = currentStackVersion ssc'.stackSet ∧
      (ssc'.stackContainers.map StackContainer.identity).Sublist (ssc.stackContainers.map StackContainer.identity) := by
  obtain ⟨-, -, ⟨sc, version, stackset, emitted, -⟩ | ⟨sublist, same | bumped⟩⟩ := step.frame
  · obtain ⟨-, rfl, unobserved, -⟩ := newStack_creates emitted
    exact absurd observed unobserved
  · exact ⟨by rw [same, observed, kept], sublist⟩
  · exact ⟨bumped, sublist⟩

theorem observed_version_never_recreated {first : StackSetContainer} {rest : List StackSetContainer}
    (run : (first :: rest).Chain' LifecycleStep)
    (observed : first.stackSet.status.observedStackVersion = currentStackVersion first.stackSet)
    (kept : ∀ ssc ∈ rest, currentStackVersion ssc.stackSet = currentStackVersion first.stackSet) :
    ∀ ssc ∈ rest, (ssc.stackContainers.map StackContainer.identity).Sublist
      (first.stackContainers.map StackContainer.identity) := by
  induction rest generalizing first with
  | nil => exact fun _ absent => absurd absent (List.not_mem_nil _)
  | cons next rest ih =>
    obtain ⟨step, run⟩ := List.chain'_cons.mp run
    obtain ⟨observed', sublist⟩ := step.keeps_observed observed (kept next (.head _))
    intro ssc member
    rcases List.mem_cons.mp member with rfl | later
    · exact sublist
    · refine (ih run observed' (fun ssc later => ?_) ssc later).trans sublist
      rw [kept ssc (.tail _ later), kept next (.head _)]

def observedFoo : StackSetContainer :=
  { stackSet := { stackSetVersion "foo" "v1" with status.observedStackVersion := "v1" }
    stackContainers := [newStackContainer (stackSetVersion "foo" "v1") "foo-v1" "v1" none] }

theorem observedFoo_deleted_stays_deleted :
    [observedFoo, { observedFoo with stackContainers := [] }].Chain' LifecycleStep ∧
      observedFoo.stackSet.status.observedStackVersion = currentStackVersion observedFoo.stackSet ∧
      (∀ ssc ∈ [{ observedFoo with stackContainers := [] }],
        currentStackVersion ssc.stackSet = currentStackVersion observedFoo.stackSet) ∧
      ∀ ssc ∈ [{ observedFoo with stackContainers := [] }],
        (ssc.stackContainers.map StackContainer.identity).Sublist (observedFoo.stackContainers.map StackContainer.identity) :=
  have run : [observedFoo, { observedFoo with stackContainers := [] }].Chain' LifecycleStep :=
    List.chain'_pair.mpr (.delete (List.nil_sublist _))
  have kept : ∀ ssc ∈ [{ observedFoo with stackContainers := [] }],
      currentStackVersion ssc.stackSet = currentStackVersion observedFoo.stackSet := fun ssc member => by
    rw [List.mem_singleton.mp member]
  ⟨run, rfl, kept, observed_version_never_recreated run rfl kept⟩

end StacksetController.Core
