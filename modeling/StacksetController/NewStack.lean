import StacksetController.Labels
import StacksetController.Text

set_option autoImplicit false

namespace StacksetController.Core

def currentStackVersion (stackset : StackSet) : String :=
  if stackset.spec.stackTemplate.spec.version = "" then defaultVersion
  else stackset.spec.stackTemplate.spec.version

def generateStackName (stackset : StackSet) (version : String) : String :=
  stackset.name ++ "-" ++ version

def sanitizeServicePorts (service : StackServiceSpec) : StackServiceSpec :=
  { service with
    ports := service.ports.map fun port => if port.protocol = "" then { port with protocol := "TCP" } else port }

/-- Modelled from the spec: `stackByName` is declared outside src/; it finds the Stack of the working set
with the given name ("If no Stack by that name exists in the working set"). -/
def StackSetContainer.stackByName (ssc : StackSetContainer) (name : String) : Option StackContainer :=
  ssc.stackContainers.find? fun sc => sc.name = name

-- The new Stack snapshots the StackSet's template; every other container field is Go's zero value.
def newStackContainer (stackset : StackSet) (stackName stackVersion : String)
    (service : Option StackServiceSpec) : StackContainer :=
  { (default : StackContainer) with
    stack := { (default : Stack) with
      name := stackName
      ns := stackset.ns
      ownerReferences :=
        [{ apiVersion := stackset.apiVersion, kind := stackset.kind, name := stackset.name, uid := stackset.uid }]
      labels := mergeLabels [AList.singleton StacksetHeritageLabelKey stackset.name, stackset.labels,
        AList.singleton StackVersionLabelKey stackVersion]
      annotations := stackset.spec.stackTemplate.annotations
      spec :=
        { replicas := stackset.spec.stackTemplate.spec.stackSpec.replicas
          horizontalPodAutoscaler := stackset.spec.stackTemplate.spec.stackSpec.horizontalPodAutoscaler
          service := service
          podTemplate := stackset.spec.stackTemplate.spec.stackSpec.podTemplate
          autoscaler := stackset.spec.stackTemplate.spec.stackSpec.autoscaler } } }

-- NewStack with the StackSet as the call leaves it: sanitizeServicePorts writes the sanitized ports
-- through the pointer to the StackSet's own template service.
def StackSetContainer.newStack (ssc : StackSetContainer) : (Option StackContainer × String) × StackSet :=
  let stackset := ssc.stackSet
  let observedStackVersion := stackset.status.observedStackVersion
  let stackVersion := currentStackVersion stackset
  let stackName := generateStackName stackset stackVersion
  if (ssc.stackByName stackName).isNone ∧ observedStackVersion ≠ stackVersion then
    let service := stackset.spec.stackTemplate.spec.stackSpec.service.map sanitizeServicePorts
    ((some (newStackContainer stackset stackName stackVersion service), stackVersion),
      { stackset with spec.stackTemplate.spec.stackSpec.service := service })
  else ((none, ""), stackset)

section Emission

variable (ssc : StackSetContainer)

theorem newStack_of_emits
    (emits : (ssc.stackByName (generateStackName ssc.stackSet (currentStackVersion ssc.stackSet))).isNone ∧
      ssc.stackSet.status.observedStackVersion ≠ currentStackVersion ssc.stackSet) :
    ssc.newStack =
      ((some (newStackContainer ssc.stackSet (generateStackName ssc.stackSet (currentStackVersion ssc.stackSet))
          (currentStackVersion ssc.stackSet)
          (ssc.stackSet.spec.stackTemplate.spec.stackSpec.service.map sanitizeServicePorts)),
        currentStackVersion ssc.stackSet),
      { ssc.stackSet with
        spec.stackTemplate.spec.stackSpec.service :=
          ssc.stackSet.spec.stackTemplate.spec.stackSpec.service.map sanitizeServicePorts }) := by
  simp only [StackSetContainer.newStack, if_pos emits]

theorem newStack_of_not_emits
    (quiet : ¬ ((ssc.stackByName (generateStackName ssc.stackSet (currentStackVersion ssc.stackSet))).isNone ∧
      ssc.stackSet.status.observedStackVersion ≠ currentStackVersion ssc.stackSet)) :
    ssc.newStack = ((none, ""), ssc.stackSet) := by
  simp only [StackSetContainer.newStack, if_neg quiet]

theorem newStack_emitted {sc : StackContainer} {version : String}
    (emitted : ssc.newStack.1 = (some sc, version)) :
    version = currentStackVersion ssc.stackSet ∧
      sc = newStackContainer ssc.stackSet (generateStackName ssc.stackSet version) version
        (ssc.stackSet.spec.stackTemplate.spec.stackSpec.service.map sanitizeServicePorts) := by
  by_cases emits : (ssc.stackByName (generateStackName ssc.stackSet (currentStackVersion ssc.stackSet))).isNone ∧
      ssc.stackSet.status.observedStackVersion ≠ currentStackVersion ssc.stackSet
  · rw [newStack_of_emits ssc emits] at emitted
    simp only [Prod.mk.injEq, Option.some.injEq] at emitted
    obtain ⟨rfl, rfl⟩ := emitted
    exact ⟨rfl, rfl⟩
  · rw [newStack_of_not_emits ssc emits] at emitted
    simp at emitted

end Emission

section Frame

theorem sanitizeServicePorts_eq_self_iff (service : StackServiceSpec) :
    sanitizeServicePorts service = service ↔ ∀ port ∈ service.ports, port.protocol ≠ "" := by
  obtain ⟨ports⟩ := service
  have keep : ∀ port : ServicePort,
      (if port.protocol = "" then { port with protocol := "TCP" } else port) = port ↔ port.protocol ≠ "" := by
    intro port
    by_cases empty : port.protocol = ""
    · simp only [empty, if_true, ne_eq, not_true_eq_false, iff_false]
      intro same
      have := congrArg ServicePort.protocol same
      simp [empty] at this
    · simp [empty]
  simp only [sanitizeServicePorts, StackServiceSpec.mk.injEq]
  conv_lhs => rhs; rw [← List.map_id ports]
  rw [List.map_inj_left]
  exact forall₂_congr fun port _ => keep port

theorem newStack_stackSet_eq_iff (ssc : StackSetContainer) :
    ssc.newStack.2 = ssc.stackSet ↔ ssc.newStack.1.1 = none ∨
      ∀ service ∈ ssc.stackSet.spec.stackTemplate.spec.stackSpec.service, ∀ port ∈ service.ports,
        port.protocol ≠ "" := by
  by_cases emits : (ssc.stackByName (generateStackName ssc.stackSet (currentStackVersion ssc.stackSet))).isNone ∧
      ssc.stackSet.status.observedStackVersion ≠ currentStackVersion ssc.stackSet
  · rw [newStack_of_emits ssc emits]
    obtain ⟨apiVersion, kind, name, ns, uid, labels, ⟨ingress, lifecycle, ⟨annotations, ⟨version, ⟨replicas, hpa,
      service, podTemplate, autoscaler⟩⟩⟩⟩, status⟩ := ssc.stackSet
    cases service with
    | none => simp
    | some service => simp [sanitizeServicePorts_eq_self_iff]
  · rw [newStack_of_not_emits ssc emits]
    simp

theorem sanitizeServicePorts_idempotent (service : StackServiceSpec) :
    sanitizeServicePorts (sanitizeServicePorts service) = sanitizeServicePorts service :=
  (sanitizeServicePorts_eq_self_iff _).mpr fun port member => by
    obtain ⟨port, -, rfl⟩ := List.mem_map.mp member
    split
    · exact show "TCP" ≠ "" by decide
    · assumption

theorem newStack_idempotent (ssc : StackSetContainer) :
    { ssc with stackSet := ssc.newStack.2 }.newStack = ssc.newStack := by
  by_cases emits : (ssc.stackByName (generateStackName ssc.stackSet (currentStackVersion ssc.stackSet))).isNone ∧
      ssc.stackSet.status.observedStackVersion ≠ currentStackVersion ssc.stackSet
  · rw [newStack_of_emits ssc emits, newStack_of_emits { ssc with stackSet := _ } ?_]
    · dsimp only
      rw [Option.map_map, show sanitizeServicePorts ∘ sanitizeServicePorts = sanitizeServicePorts from
        funext sanitizeServicePorts_idempotent]
      rfl
    · exact emits
  · rw [newStack_of_not_emits ssc emits]
    exact newStack_of_not_emits ssc emits

def unsanitizedStackSet : StackSetContainer :=
  { stackSet := { (default : StackSet) with
      name := "foo"
      spec.stackTemplate.spec :=
        { version := "v1"
          stackSpec := { (default : StackSpec) with
            service := some { ports := [{ name := "http", protocol := "", port := 80, targetPort := .int 8080 }] } } } }
    stackContainers := [] }

theorem newStack_rewrites_stackset_template : unsanitizedStackSet.newStack.2 ≠ unsanitizedStackSet.stackSet := by
  intro same
  have service := congrArg (fun stackset : StackSet => stackset.spec.stackTemplate.spec.stackSpec.service) same
  exact absurd service (by decide)

end Frame

section Naming

theorem generateStackName_collision_iff (a b : StackSet) (different : a.name ≠ b.name) :
    generateStackName a (currentStackVersion a) = generateStackName b (currentStackVersion b) ↔
      (∃ rest, b.name = a.name ++ "-" ++ rest ∧ currentStackVersion a = rest ++ "-" ++ currentStackVersion b) ∨
      ∃ rest, a.name = b.name ++ "-" ++ rest ∧ currentStackVersion b = rest ++ "-" ++ currentStackVersion a :=
  dash_join_eq_iff different

def stackSetVersion (name version : String) : StackSet :=
  { (default : StackSet) with name := name, spec.stackTemplate.spec.version := version }

theorem fooBar_stack_names_collide :
    (stackSetVersion "foo" "bar-v1").name ≠ (stackSetVersion "foo-bar" "v1").name ∧
      generateStackName (stackSetVersion "foo" "bar-v1") (currentStackVersion (stackSetVersion "foo" "bar-v1")) =
        generateStackName (stackSetVersion "foo-bar" "v1") (currentStackVersion (stackSetVersion "foo-bar" "v1")) :=
  ⟨by decide, (generateStackName_collision_iff _ _ (by decide)).mpr (.inl ⟨"bar", rfl, rfl⟩)⟩

theorem generateStackName_dash_collision :
    ¬ ∀ a b : StackSet, a.ns = b.ns → a.name ≠ b.name →
      generateStackName a (currentStackVersion a) ≠ generateStackName b (currentStackVersion b) := by
  intro claim
  exact claim (stackSetVersion "foo" "bar-v1") (stackSetVersion "foo-bar" "v1") rfl (by decide) (by decide)

end Naming

section Labels

theorem lookup_newStackContainer_labels (stackset : StackSet) (stackName stackVersion : String)
    (service : Option StackServiceSpec) (k : String) :
    (newStackContainer stackset stackName stackVersion service).stack.labels.lookup k =
      if k = StackVersionLabelKey then some stackVersion
      else (stackset.labels.lookup k).or (if k = StacksetHeritageLabelKey then some stackset.name else none) := by
  show (mergeLabels (([] ++ [AList.singleton StacksetHeritageLabelKey stackset.name]) ++ [stackset.labels] ++
    [AList.singleton StackVersionLabelKey stackVersion])).lookup k = _
  rw [lookup_mergeLabels_append, lookup_mergeLabels_append, lookup_mergeLabels_append, lookup_singleton,
    lookup_singleton]
  split <;> simp

def heritageValue (stackset : StackSet) : String :=
  (stackset.labels.lookup StacksetHeritageLabelKey).getD stackset.name

theorem lookup_emitted_labels {ssc : StackSetContainer} {sc : StackContainer} {version : String}
    (emitted : ssc.newStack.1 = (some sc, version)) :
    sc.stack.labels.lookup StackVersionLabelKey = some version ∧
      sc.stack.labels.lookup StacksetHeritageLabelKey = some (heritageValue ssc.stackSet) := by
  obtain ⟨-, rfl⟩ := newStack_emitted ssc emitted
  rw [lookup_newStackContainer_labels, lookup_newStackContainer_labels, if_pos rfl,
    if_neg (by decide), if_pos rfl, heritageValue]
  cases ssc.stackSet.labels.lookup StacksetHeritageLabelKey <;> simp

theorem newStack_selector_labels {ssc ssc' : StackSetContainer} {sc sc' : StackContainer}
    {version version' : String} (emitted : ssc.newStack.1 = (some sc, version))
    (emitted' : ssc'.newStack.1 = (some sc', version')) :
    sc.stack.labels.lookup StackVersionLabelKey = some version ∧
    sc.stack.labels.lookup StacksetHeritageLabelKey = some (heritageValue ssc.stackSet) ∧
    ((heritageValue ssc.stackSet, version) ≠ (heritageValue ssc'.stackSet, version') →
      ∃ key ∈ selectorLabels, (limitLabels sc.stack.labels selectorLabels).lookup key ≠
        (limitLabels sc'.stack.labels selectorLabels).lookup key) := by
  obtain ⟨versionLabel, heritageLabel⟩ := lookup_emitted_labels emitted
  obtain ⟨versionLabel', heritageLabel'⟩ := lookup_emitted_labels emitted'
  refine ⟨versionLabel, heritageLabel, fun apart => ?_⟩
  by_cases sameVersion : version = version'
  · refine ⟨StacksetHeritageLabelKey, by decide, ?_⟩
    simp only [lookup_limitLabels, if_pos (show StacksetHeritageLabelKey ∈ selectorLabels by decide),
      heritageLabel, heritageLabel', ne_eq, Option.some.injEq]
    exact fun same => apart (by rw [same, sameVersion])
  · refine ⟨StackVersionLabelKey, by decide, ?_⟩
    simp only [lookup_limitLabels, if_pos (show StackVersionLabelKey ∈ selectorLabels by decide),
      versionLabel, versionLabel', ne_eq, Option.some.injEq]
    exact sameVersion

def emptyWorkingSet (stackset : StackSet) : StackSetContainer := { stackSet := stackset, stackContainers := [] }

theorem foo_and_bar_selectors :
    (emptyWorkingSet (stackSetVersion "foo" "v1")).newStack.1 =
      (some (newStackContainer (stackSetVersion "foo" "v1") "foo-v1" "v1" none), "v1") ∧
    (emptyWorkingSet (stackSetVersion "bar" "v1")).newStack.1 =
      (some (newStackContainer (stackSetVersion "bar" "v1") "bar-v1" "v1" none), "v1") ∧
    ((newStackContainer (stackSetVersion "foo" "v1") "foo-v1" "v1" none).stack.labels.lookup StackVersionLabelKey =
        some "v1" ∧
      (newStackContainer (stackSetVersion "foo" "v1") "foo-v1" "v1" none).stack.labels.lookup
        StacksetHeritageLabelKey = some (heritageValue (stackSetVersion "foo" "v1")) ∧
      ((heritageValue (stackSetVersion "foo" "v1"), "v1") ≠ (heritageValue (stackSetVersion "bar" "v1"), "v1") →
        ∃ key ∈ selectorLabels,
          (limitLabels (newStackContainer (stackSetVersion "foo" "v1") "foo-v1" "v1" none).stack.labels
              selectorLabels).lookup key ≠
            (limitLabels (newStackContainer (stackSetVersion "bar" "v1") "bar-v1" "v1" none).stack.labels
              selectorLabels).lookup key)) :=
  ⟨rfl, rfl, @newStack_selector_labels (emptyWorkingSet (stackSetVersion "foo" "v1"))
    (emptyWorkingSet (stackSetVersion "bar" "v1")) _ _ _ _ rfl rfl⟩

theorem newStack_heritage_label_overridden :
    ¬ ∀ (ssc : StackSetContainer) (sc : StackContainer) (version : String), ssc.newStack.1 = (some sc, version) →
      sc.stack.labels.lookup StacksetHeritageLabelKey = some ssc.stackSet.name ∧
        sc.stack.labels.lookup StackVersionLabelKey = some version := by
  intro claim
  have heritage := (claim (emptyWorkingSet { stackSetVersion "foo" "v1" with
    labels := AList.singleton StacksetHeritageLabelKey "bar" }) _ _ rfl).1
  exact absurd heritage (by decide)

end Labels

end StacksetController.Core
