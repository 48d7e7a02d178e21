import Mathlib.Data.String.Basic
import StacksetController.SortSlice
import StacksetController.Resources

set_option autoImplicit false

namespace StacksetController.Core

-- Go's map[string]float64 of traffic weights.
abbrev WeightMap := AList (fun _ : String => Float64)

def errNoPaths : String := "invalid ingress, no paths defined"

-- The text of encoding/json's UnsupportedValueError.
def unsupportedValue (text : String) : String := "json: unsupported value: " ++ text

-- encoding/json's float encoder refuses NaN and the infinities, naming them as strconv writes them.
def encodeFloat : Float64 → Except String Float64
  | .finite value => .ok (.finite value)
  | .posInf => .error (unsupportedValue "+Inf")
  | .negInf => .error (unsupportedValue "-Inf")
  | .nan => .error (unsupportedValue "NaN")

def encodeMember (member : String × Float64) : Except String (String × Float64) := do
  let value ← encodeFloat member.2
  pure (member.1, value)

def WeightMap.members (weights : WeightMap) : List (String × Float64) :=
  weights.entries.map fun e => (e.1, e.2)

-- json.Marshal of a map[string]float64: the members sorted by key, then encoded in that order; the first
-- value JSON cannot hold ends the encoding.
def jsonMarshal (weights : WeightMap) : Except String JsonWeights :=
  ((SortSlice.insertion Prod.fst).sort weights.members).mapM encodeMember

def backendServiceName (path : HTTPIngressPath) : String := path.backend.serviceName

def backendPath (ingress : StackSetIngressSpec) (serviceName : String) : HTTPIngressPath :=
  { path := ingress.path, backend := { serviceName := serviceName, servicePort := ingress.backendPort } }

structure IngressBackends where
  paths : List HTTPIngressPath
  actualWeights : WeightMap
  desiredWeights : WeightMap

def ingressBackendsStep (ingress : StackSetIngressSpec) (backends : IngressBackends) (sc : StackContainer) :
    IngressBackends :=
  let backends :=
    if sc.actualTrafficWeight.positive then
      { backends with
        actualWeights := backends.actualWeights.insert sc.name sc.actualTrafficWeight
        paths := backends.paths ++ [backendPath ingress sc.name] }
    else backends
  if sc.desiredTrafficWeight.positive then
    { backends with desiredWeights := backends.desiredWeights.insert sc.name sc.desiredTrafficWeight }
  else backends

def ingressBackends (ingress : StackSetIngressSpec) (containers : List StackContainer) : IngressBackends :=
  containers.foldl (ingressBackendsStep ingress) { paths := [], actualWeights := ∅, desiredWeights := ∅ }

def sharedIngress (stackset : StackSet) (ingress : StackSetIngressSpec) (paths : List HTTPIngressPath)
    (actualWeightsData desiredWeightData : JsonWeights) : Ingress :=
  { metadata :=
      { name := stackset.name
        ns := stackset.ns
        labels := mergeLabels [AList.singleton StacksetHeritageLabelKey stackset.name, stackset.labels]
        annotations :=
          ((mergeLabels [ingress.annotations]).erase backendWeightsAnnotationKey).erase stackTrafficWeightsAnnotationKey
        ownerReferences :=
          [{ apiVersion := stackset.apiVersion, kind := stackset.kind, name := stackset.name, uid := stackset.uid }] }
    weightAnnotations :=
      [(backendWeightsAnnotationKey, actualWeightsData), (stackTrafficWeightsAnnotationKey, desiredWeightData)]
    rules := ingress.hosts.map fun host => { host := host, paths := paths } }

namespace StackSetContainer

def generateIngress (sortSlice : SortSlice HTTPIngressPath (keyLess backendServiceName)) (ssc : StackSetContainer) :
    Except String (Option Ingress) :=
  let stackset := ssc.stackSet
  match stackset.spec.ingress with
  | none => .ok none
  | some ingress =>
    let backends := ingressBackends ingress ssc.stackContainers
    if backends.paths.length = 0 then .error errNoPaths
    else do
      let paths := sortSlice.sort backends.paths
      let actualWeightsData ← jsonMarshal backends.actualWeights
      let desiredWeightData ← jsonMarshal backends.desiredWeights
      pure (some (sharedIngress stackset ingress paths actualWeightsData desiredWeightData))

end StackSetContainer

section Loop

variable (ingress : StackSetIngressSpec)

def backendPaths (containers : List StackContainer) : List HTTPIngressPath :=
  (containers.filter (·.actualTrafficWeight.positive)).map fun sc => backendPath ingress sc.name

-- `weights[sc.Name()] = weight` when the weight is positive.
def insertPositive (weight : StackContainer → Float64) (weights : WeightMap) (sc : StackContainer) : WeightMap :=
  if (weight sc).positive then weights.insert sc.name (weight sc) else weights

def weightMembers (weight : StackContainer → Float64) (containers : List StackContainer) :
    List (String × Float64) :=
  (containers.filter fun sc => (weight sc).positive).map fun sc => (sc.name, weight sc)

theorem foldl_ingressBackendsStep (containers : List StackContainer) (backends : IngressBackends) :
    containers.foldl (ingressBackendsStep ingress) backends =
      { paths := backends.paths ++ backendPaths ingress containers
        actualWeights := containers.foldl (insertPositive (·.actualTrafficWeight)) backends.actualWeights
        desiredWeights := containers.foldl (insertPositive (·.desiredTrafficWeight)) backends.desiredWeights } := by
  induction containers generalizing backends with
  | nil => simp [backendPaths]
  | cons sc rest ih =>
    rw [List.foldl_cons, ih]
    by_cases actual : sc.actualTrafficWeight.positive <;> by_cases desired : sc.desiredTrafficWeight.positive <;>
      simp [ingressBackendsStep, insertPositive, backendPaths, actual, desired]

theorem ingressBackends_eq (containers : List StackContainer) :
    ingressBackends ingress containers =
      { paths := backendPaths ingress containers
        actualWeights := containers.foldl (insertPositive (·.actualTrafficWeight)) ∅
        desiredWeights := containers.foldl (insertPositive (·.desiredTrafficWeight)) ∅ } := by
  simp [ingressBackends, foldl_ingressBackendsStep]

theorem backendPaths_eq_nil_iff (containers : List StackContainer) :
    backendPaths ingress containers = [] ↔ ∀ sc ∈ containers, sc.actualTrafficWeight.positive = false := by
  simp [backendPaths]

variable {containers : List StackContainer} (distinct : (containers.map StackContainer.name).Nodup)
include distinct

theorem backendPaths_keys_nodup : ((backendPaths ingress containers).map backendServiceName).Nodup := by
  simpa [backendPaths, backendServiceName, backendPath, Function.comp_def] using
    ((List.filter_sublist containers).map StackContainer.name).nodup distinct

theorem weightMembers_keys_nodup (weight : StackContainer → Float64) :
    ((weightMembers weight containers).map Prod.fst).Nodup := by
  simpa [weightMembers, Function.comp_def] using
    ((List.filter_sublist containers).map StackContainer.name).nodup distinct

omit distinct in
theorem members_foldl_insertPositive (weight : StackContainer → Float64) :
    ∀ {containers : List StackContainer} (weights : WeightMap), (containers.map StackContainer.name).Nodup →
      (∀ sc ∈ containers, sc.name ∉ weights) →
      (containers.foldl (insertPositive weight) weights).members.Perm
        (weightMembers weight containers ++ weights.members)
  | [], weights, _, _ => by simp [weightMembers]
  | sc :: rest, weights, distinct, fresh => by
    obtain ⟨notLater, distinctRest⟩ := List.nodup_cons.mp distinct
    have freshRest : ∀ sc' ∈ rest, sc'.name ∉ insertPositive weight weights sc := by
      intro sc' later
      have other : sc'.name ≠ sc.name := fun same => notLater (same ▸ List.mem_map_of_mem _ later)
      unfold insertPositive
      split
      · simpa [AList.mem_insert, other] using fresh sc' (.tail _ later)
      · exact fresh sc' (.tail _ later)
    refine (members_foldl_insertPositive weight _ distinctRest freshRest).trans ?_
    unfold insertPositive weightMembers
    by_cases positive : (weight sc).positive
    · have inserted : WeightMap.members (weights.insert sc.name (weight sc)) =
          (sc.name, weight sc) :: weights.members := by
        simp only [WeightMap.members, AList.insert_entries_of_neg (fresh sc (.head _)), List.map_cons]
      simp [positive, inserted]
    · simp [positive]

end Loop

section Json

theorem mapM_encodeMember : ∀ (members : List (String × Float64)), (∀ m ∈ members, m.2.positive) →
    members.mapM encodeMember =
      if ∃ m ∈ members, m.2 = .posInf then .error (unsupportedValue "+Inf") else .ok members
  | [], _ => rfl
  | (key, value) :: rest, positive => by
    have restPositive : ∀ m ∈ rest, m.2.positive := fun m later => positive m (.tail _ later)
    have first : value.positive := positive (key, value) (.head _)
    cases value with
    | finite v =>
      simp only [List.mapM_cons, encodeMember, encodeFloat, mapM_encodeMember rest restPositive]
      split <;> simp_all [bind, Except.bind, pure, Except.pure]
    | posInf =>
      rw [if_pos ⟨_, .head _, rfl⟩]
      rfl
    | negInf => cases first
    | nan => cases first

def jsonMembers (weight : StackContainer → Float64) (containers : List StackContainer) : JsonWeights :=
  (SortSlice.insertion Prod.fst).sort (weightMembers weight containers)

theorem mem_jsonMembers (weight : StackContainer → Float64) (containers : List StackContainer)
    (m : String × Float64) :
    m ∈ jsonMembers weight containers ↔ ∃ sc ∈ containers, (weight sc).positive ∧ (sc.name, weight sc) = m := by
  simp [jsonMembers, ((SortSlice.insertion Prod.fst).perm _).mem_iff, weightMembers, and_assoc]

theorem exists_posInf_jsonMembers (weight : StackContainer → Float64) (containers : List StackContainer) :
    (∃ m ∈ jsonMembers weight containers, m.2 = .posInf) ↔ ∃ sc ∈ containers, weight sc = .posInf := by
  simp only [mem_jsonMembers]
  constructor
  · rintro ⟨_, ⟨sc, member, -, rfl⟩, infinite⟩
    exact ⟨sc, member, infinite⟩
  · rintro ⟨sc, member, infinite⟩
    exact ⟨_, ⟨sc, member, by rw [infinite]; rfl, rfl⟩, infinite⟩

variable {containers : List StackContainer} (distinct : (containers.map StackContainer.name).Nodup)
include distinct

theorem jsonMarshal_weights (weight : StackContainer → Float64) :
    jsonMarshal (containers.foldl (insertPositive weight) ∅) =
      if ∃ sc ∈ containers, weight sc = .posInf then .error (unsupportedValue "+Inf")
      else .ok (jsonMembers weight containers) := by
  have members : WeightMap.members (containers.foldl (insertPositive weight) ∅) |>.Perm
      (weightMembers weight containers) := by
    simpa [WeightMap.members] using members_foldl_insertPositive weight ∅ distinct (by simp)
  have positive : ∀ m ∈ jsonMembers weight containers, m.2.positive := by
    intro m member
    obtain ⟨sc, -, positive, rfl⟩ := (mem_jsonMembers weight containers m).mp member
    exact positive
  unfold jsonMarshal
  rw [sort_eq_of_perm _ (.insertion Prod.fst) members
      ((members.map Prod.fst).nodup_iff.mpr (weightMembers_keys_nodup distinct weight)),
    ← jsonMembers, mapM_encodeMember _ positive]
  simp only [exists_posInf_jsonMembers]

theorem jsonMembers_perm {reordered : List StackContainer} (p : reordered.Perm containers)
    (weight : StackContainer → Float64) : jsonMembers weight reordered = jsonMembers weight containers :=
  sort_eq_of_perm _ _ ((p.filter _).map _)
    (weightMembers_keys_nodup ((p.map StackContainer.name).nodup_iff.mpr distinct) weight)

end Json

theorem backendPaths_perm (ingress : StackSetIngressSpec) {reordered containers : List StackContainer}
    (p : reordered.Perm containers) : (backendPaths ingress reordered).Perm (backendPaths ingress containers) :=
  (p.filter _).map _

theorem unsupportedValue_ne_errNoPaths : unsupportedValue "+Inf" ≠ errNoPaths := by decide

namespace StackSetContainer

variable (sortSlice : SortSlice HTTPIngressPath (keyLess backendServiceName)) (ssc : StackSetContainer)
  {ingress : StackSetIngressSpec} (present : ssc.stackSet.spec.ingress = some ingress)
  (distinct : (ssc.stackContainers.map StackContainer.name).Nodup)
include present distinct

theorem generateIngress_eq :
    ssc.generateIngress sortSlice =
      if backendPaths ingress ssc.stackContainers = [] then .error errNoPaths
      else if ∃ sc ∈ ssc.stackContainers, sc.actualTrafficWeight = .posInf then .error (unsupportedValue "+Inf")
      else if ∃ sc ∈ ssc.stackContainers, sc.desiredTrafficWeight = .posInf then .error (unsupportedValue "+Inf")
      else .ok (some (sharedIngress ssc.stackSet ingress (sortSlice.sort (backendPaths ingress ssc.stackContainers))
        (jsonMembers (·.actualTrafficWeight) ssc.stackContainers)
        (jsonMembers (·.desiredTrafficWeight) ssc.stackContainers))) := by
  unfold generateIngress
  simp only [present, ingressBackends_eq, List.length_eq_zero, jsonMarshal_weights distinct]
  split_ifs <;> rfl

end StackSetContainer

structure RoutesPositiveWeights (ingress : StackSetIngressSpec) (containers : List StackContainer)
    (result : Ingress) : Prop where
  hosts : result.rules.map (·.host) = ingress.hosts
  paths : ∀ rule ∈ result.rules, rule.paths.Perm (backendPaths ingress containers) ∧
    rule.paths.Pairwise fun a b => a.backend.serviceName < b.backend.serviceName
  weights : ∃ actualWeightsData desiredWeightData : JsonWeights,
    result.weightAnnotations =
      [(backendWeightsAnnotationKey, actualWeightsData), (stackTrafficWeightsAnnotationKey, desiredWeightData)] ∧
    actualWeightsData.Perm (weightMembers (·.actualTrafficWeight) containers) ∧
    actualWeightsData.Pairwise (fun a b => a.1 < b.1) ∧
    desiredWeightData.Perm (weightMembers (·.desiredTrafficWeight) containers) ∧
    desiredWeightData.Pairwise (fun a b => a.1 < b.1)

structure SharedIngressContract (sortSlice : SortSlice HTTPIngressPath (keyLess backendServiceName))
    (ssc : StackSetContainer) (ingress : StackSetIngressSpec) : Prop where
  no_paths : ssc.generateIngress sortSlice = .error errNoPaths ↔
    ∀ sc ∈ ssc.stackContainers, sc.actualTrafficWeight.positive = false
  infinite_weight : (∃ sc ∈ ssc.stackContainers, sc.actualTrafficWeight.positive) →
    (∃ sc ∈ ssc.stackContainers, sc.actualTrafficWeight = .posInf ∨ sc.desiredTrafficWeight = .posInf) →
    ssc.generateIngress sortSlice = .error (unsupportedValue "+Inf")
  routes : (∃ sc ∈ ssc.stackContainers, sc.actualTrafficWeight.positive) →
    (∀ sc ∈ ssc.stackContainers, sc.actualTrafficWeight ≠ .posInf ∧ sc.desiredTrafficWeight ≠ .posInf) →
    ∃ result, ssc.generateIngress sortSlice = .ok (some result) ∧
      RoutesPositiveWeights ingress ssc.stackContainers result
  order_independent : ∀ (other : SortSlice HTTPIngressPath (keyLess backendServiceName))
    (containers : List StackContainer), containers.Perm ssc.stackContainers →
    { ssc with stackContainers := containers }.generateIngress other = ssc.generateIngress sortSlice

namespace StackSetContainer

section Contract

variable (sortSlice : SortSlice HTTPIngressPath (keyLess backendServiceName)) (ssc : StackSetContainer)
  {ingress : StackSetIngressSpec} (present : ssc.stackSet.spec.ingress = some ingress)
  (distinct : (ssc.stackContainers.map StackContainer.name).Nodup)
include present distinct

theorem sharedIngress_routes (anyPositive : ∃ sc ∈ ssc.stackContainers, sc.actualTrafficWeight.positive)
    (finite : ∀ sc ∈ ssc.stackContainers, sc.actualTrafficWeight ≠ .posInf ∧ sc.desiredTrafficWeight ≠ .posInf) :
    ∃ result, ssc.generateIngress sortSlice = .ok (some result) ∧
      RoutesPositiveWeights ingress ssc.stackContainers result := by
  have paths : backendPaths ingress ssc.stackContainers ≠ [] := by
    simpa [backendPaths_eq_nil_iff] using anyPositive
  have actual : ¬ ∃ sc ∈ ssc.stackContainers, sc.actualTrafficWeight = .posInf := fun ⟨sc, member, infinite⟩ =>
    (finite sc member).1 infinite
  have desired : ¬ ∃ sc ∈ ssc.stackContainers, sc.desiredTrafficWeight = .posInf := fun ⟨sc, member, infinite⟩ =>
    (finite sc member).2 infinite
  rw [generateIngress_eq sortSlice ssc present distinct, if_neg paths, if_neg actual, if_neg desired]
  refine ⟨_, rfl, ⟨by simp [sharedIngress, Function.comp_def], ?_, ⟨_, _, rfl, ?_⟩⟩⟩
  · simp only [sharedIngress, List.mem_map]
    rintro _ ⟨host, -, rfl⟩
    exact ⟨sortSlice.perm _, sort_strict sortSlice (backendPaths_keys_nodup ingress distinct)⟩
  · exact ⟨(SortSlice.insertion Prod.fst).perm _, sort_strict _ (weightMembers_keys_nodup distinct _),
      (SortSlice.insertion Prod.fst).perm _, sort_strict _ (weightMembers_keys_nodup distinct _)⟩

theorem generateIngress_routes_positive_weights : SharedIngressContract sortSlice ssc ingress where
  no_paths := by
    rw [generateIngress_eq sortSlice ssc present distinct, ← backendPaths_eq_nil_iff ingress]
    split_ifs with noPaths <;> simp [noPaths, unsupportedValue_ne_errNoPaths]
  infinite_weight anyPositive infinite := by
    have paths : backendPaths ingress ssc.stackContainers ≠ [] := by
      simpa [backendPaths_eq_nil_iff] using anyPositive
    obtain ⟨sc, member, infinite⟩ := infinite
    rw [generateIngress_eq sortSlice ssc present distinct, if_neg paths]
    split_ifs with actual desired
    · rfl
    · rfl
    · exact absurd ⟨sc, member, infinite.resolve_left fun a => actual ⟨sc, member, a⟩⟩ desired
  routes := sharedIngress_routes sortSlice ssc present distinct
  order_independent other containers reordered := by
    have distinct' : (containers.map StackContainer.name).Nodup := (reordered.map _).nodup_iff.mpr distinct
    rw [generateIngress_eq other { ssc with stackContainers := containers } present distinct',
      generateIngress_eq sortSlice ssc present distinct]
    dsimp only
    rw [sort_eq_of_perm other sortSlice (backendPaths_perm ingress reordered)
        (backendPaths_keys_nodup ingress distinct'),
      jsonMembers_perm distinct reordered, jsonMembers_perm distinct reordered]
    simp only [backendPaths_eq_nil_iff, reordered.mem_iff]

end Contract

end StackSetContainer

def fooIngressSpec : StackSetIngressSpec :=
  { (default : StackSetIngressSpec) with hosts := ["example.org"], backendPort := .int 80, path := "/" }

def weightedWorkingSet (v1 v2 : Float64) : StackSetContainer :=
  { stackSet := { (default : StackSet) with name := "foo", spec.ingress := some fooIngressSpec }
    stackContainers :=
      [{ (default : StackContainer) with stack.name := "foo-v1", actualTrafficWeight := v1 },
       { (default : StackContainer) with stack.name := "foo-v2", actualTrafficWeight := v2 }] }

theorem weightedWorkingSet_routes :
    (weightedWorkingSet (.finite 1) (.finite 0)).stackSet.spec.ingress = some fooIngressSpec ∧
    ((weightedWorkingSet (.finite 1) (.finite 0)).stackContainers.map StackContainer.name).Nodup ∧
    SharedIngressContract (.insertion backendServiceName) (weightedWorkingSet (.finite 1) (.finite 0))
      fooIngressSpec :=
  ⟨rfl, by decide, StackSetContainer.generateIngress_routes_positive_weights _ _ rfl (by decide)⟩

theorem generateIngress_infinite_weight_fails :
    ¬ ∀ (sortSlice : SortSlice HTTPIngressPath (keyLess backendServiceName)) (ssc : StackSetContainer)
        (ingress : StackSetIngressSpec), ssc.stackSet.spec.ingress = some ingress →
      (ssc.stackContainers.map StackContainer.name).Nodup →
      (∃ sc ∈ ssc.stackContainers, sc.actualTrafficWeight.positive) →
      ∃ result, ssc.generateIngress sortSlice = .ok (some result) := by
  intro claim
  obtain ⟨result, returned⟩ := claim (.insertion backendServiceName) (weightedWorkingSet .posInf (.finite 0))
    fooIngressSpec rfl (by decide) ⟨_, .head _, rfl⟩
  have failed : (weightedWorkingSet .posInf (.finite 0)).generateIngress (.insertion backendServiceName) =
      .error (unsupportedValue "+Inf") := rfl
  rw [failed] at returned
  cases returned

end StacksetController.Core
