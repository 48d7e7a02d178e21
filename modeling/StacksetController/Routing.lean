import StacksetController.Autoscaler
import StacksetController.Ingress
import StacksetController.Service
import StacksetController.MarkExpiredStacks

set_option autoImplicit false

namespace StacksetController.Core

theorem bind_eq_ok {α β : Type} {x : Except String α} {f : α → Except String β} {b : β}
    (h : x >>= f = .ok b) : ∃ a, x = .ok a ∧ f a = .ok b := by
  cases x with
  | error e => cases h
  | ok a => exact ⟨a, rfl, h⟩

section Ports

theorem mem_servicePortsFromContainers {containers : List Container} {servicePort : ServicePort}
    (member : servicePort ∈ servicePortsFromContainers containers) :
    ∃ container ∈ containers, ∃ port ∈ container.ports, servicePort.port = port.containerPort ∧
      servicePort.targetPort = .int port.containerPort ∧ servicePort.protocol ≠ "" := by
  simp only [servicePortsFromContainers, List.mem_flatten, List.mem_map] at member
  obtain ⟨_, ⟨⟨i, container⟩, inContainers, rfl⟩, inner⟩ := member
  obtain ⟨⟨j, port⟩, inPorts, rfl⟩ := List.mem_map.mp inner
  refine ⟨container, List.snd_mem_of_mem_enum inContainers, port, List.snd_mem_of_mem_enum inPorts, ?_⟩
  dsimp only
  split
  · exact ⟨rfl, rfl, show "TCP" ≠ "" by decide⟩
  · exact ⟨rfl, rfl, ‹_›⟩

end Ports

theorem mem_backendPaths {ingress : StackSetIngressSpec} {containers : List StackContainer}
    {path : HTTPIngressPath} :
    path ∈ backendPaths ingress containers ↔
      ∃ sc ∈ containers, sc.actualTrafficWeight.positive ∧ backendPath ingress sc.name = path := by
  simp [backendPaths, and_assoc]

namespace StackSetContainer

theorem generateIngress_some {sortSlice : SortSlice HTTPIngressPath (keyLess backendServiceName)}
    {ssc : StackSetContainer} {result : Ingress} (generated : ssc.generateIngress sortSlice = .ok (some result)) :
    ∃ ingress, ssc.stackSet.spec.ingress = some ingress ∧ ∃ actualWeightsData desiredWeightData,
      result = sharedIngress ssc.stackSet ingress (sortSlice.sort (backendPaths ingress ssc.stackContainers))
        actualWeightsData desiredWeightData := by
  unfold generateIngress at generated
  dsimp only at generated
  split at generated
  · cases generated
  · rename_i ingress present
    simp only [ingressBackends_eq] at generated
    split_ifs at generated
    obtain ⟨actual, -, generated⟩ := bind_eq_ok generated
    obtain ⟨desired, -, generated⟩ := bind_eq_ok generated
    cases generated
    exact ⟨ingress, present, actual, desired, rfl⟩

end StackSetContainer

theorem generateDeployment_generation_annotation (scaledDown scaledDown' : StackContainer → Bool)
    (sc sc' : StackContainer) :
    (sc.generateDeployment scaledDown).metadata.annotations.lookup stackGenerationAnnotationKey =
        some (toString sc.stack.generation) ∧
      ((sc.generateDeployment scaledDown).metadata.annotations.lookup stackGenerationAnnotationKey =
          (sc'.generateDeployment scaledDown').metadata.annotations.lookup stackGenerationAnnotationKey ↔
        sc.stack.generation = sc'.stack.generation) := by
  have annotated : ∀ (scaledDown : StackContainer → Bool) (sc : StackContainer),
      (sc.generateDeployment scaledDown).metadata.annotations.lookup stackGenerationAnnotationKey =
        some (toString sc.stack.generation) := fun _ sc =>
    (sc.lookup_resourceMeta_annotations _).trans (if_pos rfl)
  rw [annotated, annotated]
  exact ⟨rfl, fun same => intToString_injective (Option.some.inj same), fun same => by rw [same]⟩

theorem prescaling_hpa_holds_deployment (scaledDown : StackContainer → Bool)
    (convertCustomMetrics : String → String → List AutoscalerMetrics → Except String (List MetricSpec × Labels))
    (sc : StackContainer) (active : sc.prescalingActive = true) {hpa : HPA}
    (generated : sc.generateHPA convertCustomMetrics = .ok (some hpa)) :
    ∃ m, hpa.spec.minReplicas = some m ∧ sc.prescalingReplicas ≤ m ∧
      (∀ r, (sc.generateDeployment scaledDown).replicas = some r → r ≠ 0 → r ≤ m) ∧
      (sc.prescalingReplicas ≤ hpa.spec.maxReplicas →
        (∀ minReplicas maxReplicas, sc.stack.spec.autoscalerBounds = some (some minReplicas, maxReplicas) →
          minReplicas ≤ maxReplicas) →
        m ≤ hpa.spec.maxReplicas) := by
  obtain ⟨result, bounds, rfl⟩ := StackContainer.generateHPA_bounds convertCustomMetrics sc generated
  have lifted : ∃ m, (sc.prescale result).spec.minReplicas = some m ∧ sc.prescalingReplicas ≤ m ∧
      (m = sc.prescalingReplicas ∨ result.spec.minReplicas = some m) := by
    rw [StackContainer.prescale_minReplicas]
    split_ifs with clamped
    · exact ⟨_, rfl, le_rfl, .inl rfl⟩
    · cases hm : result.spec.minReplicas with
      | none => exact absurd ⟨active, .inl hm⟩ clamped
      | some m => exact ⟨m, rfl, not_lt.mp fun below => clamped ⟨active, .inr ⟨m, hm, below⟩⟩, .inr rfl⟩
  obtain ⟨m, minimum, atLeast, origin⟩ := lifted
  refine ⟨m, minimum, atLeast, fun r written nonzero => ?_, fun fits ordered => ?_⟩
  · change sc.updatedReplicaCount scaledDown = some r at written
    rcases (StackContainer.updatedReplicaCount_spec scaledDown sc).1 with unset | zero | target
    · cases unset.symm.trans written
    · cases zero.symm.trans written
      exact absurd rfl nonzero
    · cases target.symm.trans written
      rw [StackContainer.desiredReplicaCount, if_pos active]
      exact atLeast
  · rw [StackContainer.prescale_maxReplicas] at fits ⊢
    rcases origin with rfl | original
    · exact fits
    · exact ordered m _ (by rw [bounds, original])

theorem prescaledStack_hpa_holds_deployment :
    prescaledStack.prescalingActive = true ∧
      prescaledStack.generateHPA (fun _ _ _ => .ok ([], ∅)) = .ok (some prescaledHPA) ∧
      ∃ m, prescaledHPA.spec.minReplicas = some m ∧ prescaledStack.prescalingReplicas ≤ m ∧
        (∀ r, (prescaledStack.generateDeployment fun _ => false).replicas = some r → r ≠ 0 → r ≤ m) ∧
        (prescaledStack.prescalingReplicas ≤ prescaledHPA.spec.maxReplicas →
          (∀ minReplicas maxReplicas,
            prescaledStack.stack.spec.autoscalerBounds = some (some minReplicas, maxReplicas) →
              minReplicas ≤ maxReplicas) →
          m ≤ prescaledHPA.spec.maxReplicas) :=
  ⟨rfl, rfl, prescaling_hpa_holds_deployment (fun _ => false) (fun _ _ _ => .ok ([], ∅)) prescaledStack rfl rfl⟩

/-- What serves the requests sent to an ingress backend: the Stack of that name. When the Stack carries the
ingress spec `ingressSpec` and its Service is generated, the Service has the backend's name and a port that
matches the backend port (by number or by name); when the Stack sets no service ports of its own, that port
forwards, under its own number, to a port that a container of the Deployment's pods declares. -/
structure ServedBy (scaledDown : StackContainer → Bool) (ingressSpec : Option StackSetIngressSpec)
    (backend : IngressBackend) (sc : StackContainer) : Prop where
  named : sc.name = backend.serviceName
  service_port : sc.ingressSpec = ingressSpec → ∀ service, sc.generateService = .ok service →
    service.metadata.name = backend.serviceName ∧ ∃ port ∈ service.ports,
      ((∃ n, backend.servicePort = .int n ∧ port.port = n) ∨
        ∃ name, backend.servicePort = .string name ∧ port.name = name) ∧
      ((∀ explicit ∈ sc.stack.spec.service, explicit.ports = []) →
        ∃ container ∈ (sc.generateDeployment scaledDown).template.containers, ∃ containerPort ∈ container.ports,
          port.port = containerPort.containerPort ∧ port.targetPort = .int containerPort.containerPort)

theorem generateIngress_backends_served (scaledDown : StackContainer → Bool)
    (sortSlice : SortSlice HTTPIngressPath (keyLess backendServiceName)) (ssc : StackSetContainer)
    {result : Ingress} (generated : ssc.generateIngress sortSlice = .ok (some result)) :
    ∀ rule ∈ result.rules, ∀ path ∈ rule.paths, ∃ sc ∈ ssc.stackContainers,
      sc.actualTrafficWeight.positive ∧ ServedBy scaledDown ssc.stackSet.spec.ingress path.backend sc := by
  obtain ⟨ingress, present, _, _, rfl⟩ := StackSetContainer.generateIngress_some generated
  intro rule ruleMember path pathMember
  obtain ⟨host, -, rfl⟩ := List.mem_map.mp ruleMember
  obtain ⟨sc, member, positive, rfl⟩ := mem_backendPaths.mp ((sortSlice.perm _).subset pathMember)
  refine ⟨sc, member, positive, rfl, fun carried service made => ?_⟩
  rcases sc.generateService_cases with ⟨made', matched⟩ | ⟨_, -, -, _, failed⟩
  · cases made'.symm.trans made
    obtain ⟨port, chosen, matching⟩ := matched ingress (carried.trans present)
    refine ⟨rfl, port, chosen, (portMatches_iff _ _).mp matching, fun synthesized => ?_⟩
    rw [chosenServicePorts_of_no_ports synthesized] at chosen
    obtain ⟨container, inContainers, containerPort, inPorts, number, target, -⟩ :=
      mem_servicePortsFromContainers chosen
    exact ⟨container, inContainers, containerPort, inPorts, number, target⟩
  · cases failed.symm.trans made

def servedWorkingSet : StackSetContainer :=
  { stackSet := { (default : StackSet) with name := "foo", spec.ingress := some fooIngressSpec }
    stackContainers :=
      [{ (default : StackContainer) with
          stack := { (default : Stack) with
            name := "foo-v1"
            spec.podTemplate.containers := [{ ports := [{ name := "", containerPort := 80, protocol := "" }] }] }
          ingressSpec := some fooIngressSpec
          actualTrafficWeight := .finite 1 }] }

theorem servedWorkingSet_backends_served :
    ∃ result, servedWorkingSet.generateIngress (.insertion backendServiceName) = .ok (some result) ∧
      ∀ rule ∈ result.rules, ∀ path ∈ rule.paths, ∃ sc ∈ servedWorkingSet.stackContainers,
        sc.actualTrafficWeight.positive ∧ ServedBy (fun _ => false) servedWorkingSet.stackSet.spec.ingress path.backend sc :=
  ⟨_, rfl, generateIngress_backends_served (fun _ => false) (.insertion backendServiceName) servedWorkingSet rfl⟩

theorem StackContainer.hasTraffic_of_scaledDown {scaledownTTLSeconds now : Int} {sc : StackContainer}
    (down : sc.scaledDown scaledownTTLSeconds now = true) : sc.hasTraffic = false := by
  unfold StackContainer.scaledDown at down
  simp only [Bool.and_eq_true, Bool.not_eq_true'] at down
  exact down.1

section Collection

variable (scaledDown : StackContainer → Bool) (sortSlice : CandidateSort) (ssc : StackSetContainer)

/-- What garbage collection leaves for the shared ingress: the Stacks it marks have no traffic, and an
ingress generated from the result names none of them, neither in a path nor in a weight annotation. -/
structure SparesTraffic (out : StackSetContainer) : Prop where
  marked_quiet : ∀ sc ∈ out.stackContainers, sc.pendingRemoval = true → sc.hasTraffic = false
  not_routed : ∀ (pathSort : SortSlice HTTPIngressPath (keyLess backendServiceName)) (result : Ingress),
    out.generateIngress pathSort = .ok (some result) → ∀ sc ∈ out.stackContainers, sc.pendingRemoval = true →
      (∀ rule ∈ result.rules, ∀ path ∈ rule.paths, path.backend.serviceName ≠ sc.name) ∧
      ∀ annotation ∈ result.weightAnnotations, ∀ member ∈ annotation.2, member.1 ≠ sc.name

theorem markExpiredStacks_spares_traffic
    (quiet : ∀ sc, scaledDown sc = true → sc.hasTraffic = false)
    (unmarked : ∀ sc ∈ ssc.stackContainers, sc.pendingRemoval = false)
    (exposed : ∀ sc ∈ ssc.stackContainers, sc.ingressSpec = none → sc.hasTraffic = false)
    (distinct : (ssc.stackContainers.map StackContainer.name).Nodup)
    {out : StackSetContainer} (returned : markExpiredStacks scaledDown sortSlice ssc = .ok out) :
    SparesTraffic out := by
  have spared : ∀ sc ∈ out.stackContainers, sc.pendingRemoval = true → sc.hasTraffic = false := by
    intro sc' member pending
    obtain ⟨sc, original, rfl | ⟨candidate, rfl⟩⟩ := mem_markExpiredStacks scaledDown sortSlice ssc returned member
    · rw [unmarked sc' original] at pending
      cases pending
    · simp only [isGCCandidate, Bool.or_eq_true, Option.isNone_iff_eq_none] at candidate
      exact candidate.elim (exposed sc original) (quiet sc)
  have distinct' : (out.stackContainers.map StackContainer.name).Nodup := by
    obtain ⟨marked, -, rfl⟩ := markExpiredStacks_ok scaledDown sortSlice ssc returned
    rwa [map_markAt marked _ StackContainer.name fun _ => rfl]
  have unnamed : ∀ sc ∈ out.stackContainers, sc.pendingRemoval = true → ∀ sc' ∈ out.stackContainers,
      sc'.hasTraffic = true → sc'.name ≠ sc.name := fun sc member pending sc' member' traffic same => by
    rw [List.inj_on_of_nodup_map distinct' member' member same, spared sc member pending] at traffic
    cases traffic
  refine ⟨spared, fun pathSort result generated sc member pending => ?_⟩
  obtain ⟨ingress, present, -⟩ := StackSetContainer.generateIngress_some generated
  rw [StackSetContainer.generateIngress_eq pathSort out present distinct'] at generated
  split_ifs at generated
  cases generated
  refine ⟨fun rule ruleMember path pathMember => ?_, fun annotation annotated entry entered => ?_⟩
  · obtain ⟨host, -, rfl⟩ := List.mem_map.mp ruleMember
    obtain ⟨sc', member', positive, rfl⟩ := mem_backendPaths.mp ((pathSort.perm _).subset pathMember)
    exact unnamed sc member pending sc' member' (by simp [StackContainer.hasTraffic, positive])
  · simp only [sharedIngress, List.mem_cons, List.mem_singleton, List.not_mem_nil, or_false] at annotated
    rcases annotated with rfl | rfl <;>
    · obtain ⟨sc', member', positive, rfl⟩ := (mem_jsonMembers _ _ entry).mp entered
      exact unnamed sc member pending sc' member' (by simp [StackContainer.hasTraffic, positive])

end Collection

def collectedWorkingSet : StackSetContainer :=
  { stackSet := { (default : StackSet) with
      name := "foo"
      spec := { (default : StackSetSpec) with
        ingress := some fooIngressSpec, stackLifecycle := { limit := some 0 } } }
    stackContainers :=
      [tiedStack "foo-v1",
       { tiedStack "foo-v2" with ingressSpec := some fooIngressSpec, actualTrafficWeight := .finite 1 }] }

theorem collectedWorkingSet_spares_traffic :
    (∀ sc ∈ collectedWorkingSet.stackContainers, sc.pendingRemoval = false) ∧
    (∀ sc ∈ collectedWorkingSet.stackContainers, sc.ingressSpec = none → sc.hasTraffic = false) ∧
    (collectedWorkingSet.stackContainers.map StackContainer.name).Nodup ∧
    ∃ out, markExpiredStacks (StackContainer.scaledDown 300 1000) (.insertion candidateCreation)
        collectedWorkingSet = .ok out ∧ SparesTraffic out :=
  ⟨by decide, by decide, by decide, _, rfl, markExpiredStacks_spares_traffic (StackContainer.scaledDown 300 1000)
    (.insertion candidateCreation) collectedWorkingSet (fun _ down => StackContainer.hasTraffic_of_scaledDown down)
    (by decide) (by decide) (by decide) rfl⟩

end StacksetController.Core
