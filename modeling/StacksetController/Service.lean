import StacksetController.Deployment
import StacksetController.Text

set_option autoImplicit false

namespace StacksetController.Core

-- intstr's String(): the name, or the decimal port number.
def IntOrString.text : IntOrString → String
  | .int intVal => toString intVal
  | .string strVal => strVal

def servicePortsFromContainers (containers : List Container) : List ServicePort :=
  (containers.enum.map fun (i, container) => container.ports.enum.map fun (j, port) =>
    let name := if port.name ≠ "" then port.name else "port-" ++ toString i ++ "-" ++ toString j
    let servicePort : ServicePort :=
      { name := name, protocol := port.protocol, port := port.containerPort, targetPort := .int port.containerPort }
    if servicePort.protocol = "" then { servicePort with protocol := "TCP" } else servicePort).flatten

section PortNames

-- Every container port with its container's and its own index, in the order servicePortsFromContainers
-- visits them.
def containerPorts (containers : List Container) : List (Nat × Nat × ContainerPort) :=
  (containers.enum.map fun (i, container) => container.ports.enum.map fun (j, port) => (i, j, port)).flatten

def portName (i j : Nat) (port : ContainerPort) : String :=
  if port.name ≠ "" then port.name else "port-" ++ toString i ++ "-" ++ toString j

theorem portName_of_named {i j : Nat} {port : ContainerPort} (named : port.name ≠ "") :
    portName i j port = port.name :=
  if_pos named

theorem portName_of_unnamed {i j : Nat} {port : ContainerPort} (unnamed : port.name = "") :
    portName i j port = "port-" ++ toString i ++ "-" ++ toString j :=
  if_neg (not_not.mpr unnamed)

theorem servicePortsFromContainers_names (containers : List Container) :
    (servicePortsFromContainers containers).map (·.name) =
      (containerPorts containers).map fun e => portName e.1 e.2.1 e.2.2 := by
  simp only [servicePortsFromContainers, containerPorts, List.map_flatten, List.map_map]
  congr 1
  refine List.map_congr_left fun ⟨i, container⟩ _ => ?_
  simp only [Function.comp_apply, List.map_map]
  refine List.map_congr_left fun ⟨j, port⟩ _ => ?_
  simp only [Function.comp_apply, portName]
  split <;> rfl

theorem containerPorts_positions_nodup (containers : List Container) :
    ((containerPorts containers).map fun e => (e.1, e.2.1)).Nodup := by
  have block : ∀ (i : Nat) (container : Container),
      (container.ports.enum.map fun (j, port) => (i, j, port)).map (fun e => (e.1, e.2.1)) =
        (List.range container.ports.length).map (Prod.mk i) := by
    intro i container
    rw [List.map_map, ← List.enum_map_fst, List.map_map]
    rfl
  rw [containerPorts, List.map_flatten, List.map_map]
  refine List.nodup_flatten.mpr ⟨?_, ?_⟩
  · simp only [List.mem_map, Function.comp]
    rintro _ ⟨⟨i, container⟩, -, rfl⟩
    rw [block]
    exact (List.nodup_range _).map (Prod.mk.inj_left i)
  · have apart : containers.enum.Pairwise fun a b => a.1 ≠ b.1 := by
      have positions := List.nodup_range containers.length
      rw [← List.enum_map_fst] at positions
      exact List.pairwise_map.mp positions
    refine List.pairwise_map.mpr (apart.imp ?_)
    rintro ⟨i, container⟩ ⟨i', container'⟩ different
    simp only [Function.comp, block]
    intro x first second
    obtain ⟨j, -, rfl⟩ := List.mem_map.mp first
    obtain ⟨j', -, same⟩ := List.mem_map.mp second
    exact different (Prod.mk.inj same).1.symm

theorem defaultPortName_data (i j : Nat) :
    ("port-" ++ toString i ++ "-" ++ toString j).data =
      'p' :: 'o' :: 'r' :: 't' :: '-' :: ((toString i).data ++ '-' :: (toString j).data) := by
  simp only [String.data_append, List.append_assoc]
  rfl

theorem defaultPortName_inj {i j i' j' : Nat}
    (same : "port-" ++ toString i ++ "-" ++ toString j = "port-" ++ toString i' ++ "-" ++ toString j') :
    i = i' ∧ j = j' := by
  have data := congrArg String.data same
  simp only [defaultPortName_data, List.cons.injEq, true_and] at data
  obtain ⟨first, second⟩ := append_separator_inj (dash_not_mem_toString j) (dash_not_mem_toString j') data
  exact ⟨toString_injective (String.ext first), toString_injective (String.ext second)⟩

theorem defaultPortName_ne_empty (i j : Nat) : "port-" ++ toString i ++ "-" ++ toString j ≠ "" := by
  intro empty
  have data := congrArg String.data empty
  rw [defaultPortName_data] at data
  cases data

theorem servicePortsFromContainers_names_nodup_iff (containers : List Container) :
    ((servicePortsFromContainers containers).map (·.name)).Nodup ↔
      (((containerPorts containers).filter (·.2.2.name ≠ "")).map (·.2.2.name)).Nodup ∧
      ∀ e ∈ containerPorts containers, e.2.2.name = "" →
        ∀ f ∈ containerPorts containers, f.2.2.name ≠ "port-" ++ toString e.1 ++ "-" ++ toString e.2.1 := by
  have positions := containerPorts_positions_nodup containers
  have ports : (containerPorts containers).Nodup := positions.of_map _
  rw [servicePortsFromContainers_names, List.nodup_map_iff_inj_on ports,
    List.nodup_map_iff_inj_on (ports.filter _)]
  simp only [List.mem_filter, decide_eq_true_eq]
  constructor
  · intro inj
    refine ⟨fun e ⟨member, named⟩ f ⟨member', named'⟩ same => inj e member f member'
      (by rw [portName_of_named named, portName_of_named named', same]), fun e member unnamed f member' clash => ?_⟩
    by_cases named : f.2.2.name = ""
    · exact defaultPortName_ne_empty e.1 e.2.1 (clash.symm.trans named)
    · obtain rfl := inj e member f member' (by rw [portName_of_unnamed unnamed, portName_of_named named, clash])
      exact named unnamed
  · rintro ⟨explicit, clashes⟩ e member f member' same
    by_cases unnamed : e.2.2.name = "" <;> by_cases unnamed' : f.2.2.name = ""
    · rw [portName_of_unnamed unnamed, portName_of_unnamed unnamed'] at same
      obtain ⟨first, second⟩ := defaultPortName_inj same
      exact List.inj_on_of_nodup_map positions member member' (Prod.ext first second)
    · rw [portName_of_unnamed unnamed, portName_of_named unnamed'] at same
      exact absurd same.symm (clashes e member unnamed f member')
    · rw [portName_of_named unnamed, portName_of_unnamed unnamed'] at same
      exact absurd same (clashes f member' unnamed' e member)
    · rw [portName_of_named unnamed, portName_of_named unnamed'] at same
      exact explicit e ⟨member, unnamed⟩ f ⟨member', unnamed'⟩ same

def clashingContainers : List Container :=
  [{ ports := [{ name := "port-0-1", containerPort := 8080, protocol := "" },
               { name := "", containerPort := 9090, protocol := "" }] }]

theorem servicePortsFromContainers_default_name_clash :
    ¬ ∀ containers : List Container,
      (((containerPorts containers).filter (·.2.2.name ≠ "")).map (·.2.2.name)).Nodup →
        ((servicePortsFromContainers containers).map (·.name)).Nodup := by
  intro claim
  exact absurd (claim clashingContainers (by decide)) (by decide)

end PortNames

-- The first block of getServicePorts: the Stack's own service ports, or else the containers' ports.
def chosenServicePorts (stackSpec : StackSpec) : List ServicePort :=
  match stackSpec.service with
  | some service => if service.ports.length = 0 then servicePortsFromContainers stackSpec.podTemplate.containers
      else service.ports
  | none => servicePortsFromContainers stackSpec.podTemplate.containers

-- The switch on the backend port's type inside the validation loop.
def portMatches (backendPort : IntOrString) (port : ServicePort) : Bool :=
  match backendPort with
  | .int intVal => port.port == intVal
  | .string strVal => port.name == strVal

-- The loop returns at the first matching port; past the last one it fails.
def getServicePorts (stackSpec : StackSpec) (backendPort : Option IntOrString) :
    Except String (List ServicePort) :=
  let servicePorts := chosenServicePorts stackSpec
  match backendPort with
  | some backendPort =>
    if servicePorts.any (portMatches backendPort) then .ok servicePorts
    else .error ("no service ports matching backendPort '" ++ backendPort.text ++ "'")
  | none => .ok servicePorts

theorem forall_mem_of_mapM_ok {α β : Type} {f : α → Except String β} {P : β → Prop}
    (image : ∀ a b, f a = .ok b → P b) : ∀ {xs : List α} {ys : List β}, xs.mapM f = .ok ys → ∀ y ∈ ys, P y
  | [], ys, mapped => by
    rw [List.mapM_nil] at mapped
    cases mapped
    simp
  | x :: xs, ys, mapped => by
    rw [List.mapM_cons] at mapped
    cases fx : f x with
    | error e => rw [fx] at mapped; cases mapped
    | ok b =>
      cases rest : xs.mapM f with
      | error e => rw [fx] at mapped; simp only [bind, Except.bind, rest] at mapped; cases mapped
      | ok bs =>
        rw [fx] at mapped
        simp only [bind, Except.bind, rest, pure, Except.pure, Except.ok.injEq] at mapped
        subst mapped
        intro y member
        rcases List.mem_cons.mp member with rfl | later
        · exact image x y fx
        · exact forall_mem_of_mapM_ok image rest y later

theorem portMatches_iff (backendPort : IntOrString) (port : ServicePort) :
    portMatches backendPort port = true ↔
      (∃ n, backendPort = .int n ∧ port.port = n) ∨ ∃ name, backendPort = .string name ∧ port.name = name := by
  cases backendPort <;> simp [portMatches]

theorem chosenServicePorts_of_ports {stackSpec : StackSpec} {service : StackServiceSpec}
    (present : stackSpec.service = some service) (nonempty : service.ports ≠ []) :
    chosenServicePorts stackSpec = service.ports := by
  rw [chosenServicePorts, present]
  exact if_neg (mt List.length_eq_zero.mp nonempty)

theorem chosenServicePorts_of_no_ports {stackSpec : StackSpec}
    (synthesized : ∀ service ∈ stackSpec.service, service.ports = []) :
    chosenServicePorts stackSpec = servicePortsFromContainers stackSpec.podTemplate.containers := by
  unfold chosenServicePorts
  cases spec : stackSpec.service with
  | none => rfl
  | some service => simp [synthesized service spec]

theorem getServicePorts_some (stackSpec : StackSpec) (backendPort : IntOrString) :
    getServicePorts stackSpec (some backendPort) =
      if (chosenServicePorts stackSpec).any (portMatches backendPort) then .ok (chosenServicePorts stackSpec)
      else .error ("no service ports matching backendPort '" ++ backendPort.text ++ "'") := rfl

theorem getServicePorts_none (stackSpec : StackSpec) :
    getServicePorts stackSpec none = .ok (chosenServicePorts stackSpec) := rfl

namespace StackContainer

def generateService (sc : StackContainer) : Except String Service := do
  let backendPort := sc.ingressSpec.map (·.backendPort)
  let servicePorts ← getServicePorts sc.stack.spec backendPort
  pure { metadata := sc.resourceMeta
         selector := limitLabels sc.stack.labels selectorLabels
         type := "ClusterIP"
         ports := servicePorts }

-- `createSubdomain` is declared outside src/; it is taken as given, with its own failures.
def generateIngress (createSubdomain : String → String → Except String String) (sc : StackContainer) :
    Except String (Option Ingress) :=
  match sc.ingressSpec with
  | none => .ok none
  | some ingressSpec => do
    let path : HTTPIngressPath :=
      { path := ingressSpec.path, backend := { serviceName := sc.name, servicePort := ingressSpec.backendPort } }
    let rules ← ingressSpec.hosts.mapM fun host => do
      let newHost ← createSubdomain host sc.name
      pure { host := newHost, paths := [path] }
    pure (some { metadata := { sc.resourceMeta with
                   annotations := mergeLabels [sc.resourceMeta.annotations, ingressSpec.annotations] }
                 weightAnnotations := []
                 rules := rules })

section Ports

variable (sc : StackContainer)

theorem generateService_eq :
    sc.generateService = (getServicePorts sc.stack.spec (sc.ingressSpec.map (·.backendPort))).map fun ports =>
      { metadata := sc.resourceMeta, selector := limitLabels sc.stack.labels selectorLabels, type := "ClusterIP",
        ports := ports } := by
  simp only [generateService, bind, Except.bind, pure, Except.pure]
  cases getServicePorts sc.stack.spec (sc.ingressSpec.map (·.backendPort)) <;> rfl

theorem generateIngress_backends (createSubdomain : String → String → Except String String)
    {ingress : Ingress} (generated : sc.generateIngress createSubdomain = .ok (some ingress)) :
    ∃ ingressSpec, sc.ingressSpec = some ingressSpec ∧
      ∀ rule ∈ ingress.rules, ∀ path ∈ rule.paths, path.backend.servicePort = ingressSpec.backendPort := by
  unfold generateIngress at generated
  cases spec : sc.ingressSpec with
  | none => rw [spec] at generated; cases generated
  | some ingressSpec =>
    rw [spec] at generated
    refine ⟨ingressSpec, rfl, ?_⟩
    simp only [bind, Except.bind] at generated
    split at generated
    · cases generated
    · rename_i rules mapped
      simp only [pure, Except.pure, Except.ok.injEq, Option.some.injEq] at generated
      subst generated
      refine forall_mem_of_mapM_ok (fun host rule made => ?_) mapped
      simp only [bind, Except.bind] at made
      split at made
      · cases made
      · simp only [pure, Except.pure, Except.ok.injEq] at made
        subst made
        simp

theorem generateService_cases :
    (sc.generateService = .ok
        { metadata := sc.resourceMeta, selector := limitLabels sc.stack.labels selectorLabels, type := "ClusterIP",
          ports := chosenServicePorts sc.stack.spec } ∧
      ∀ ingressSpec, sc.ingressSpec = some ingressSpec →
        ∃ port ∈ chosenServicePorts sc.stack.spec, portMatches ingressSpec.backendPort port = true) ∨
    (∃ ingressSpec, sc.ingressSpec = some ingressSpec ∧
      (∀ port ∈ chosenServicePorts sc.stack.spec, portMatches ingressSpec.backendPort port = false) ∧
      ∃ message, sc.generateService = .error message) := by
  rw [generateService_eq]
  cases spec : sc.ingressSpec with
  | none => exact .inl ⟨rfl, fun _ absent => by cases absent⟩
  | some ingressSpec =>
    simp only [Option.map_some', getServicePorts_some]
    by_cases found : (chosenServicePorts sc.stack.spec).any (portMatches ingressSpec.backendPort)
    · rw [if_pos found]
      exact .inl ⟨rfl, fun _ same => by cases same; simpa using found⟩
    · rw [if_neg found]
      exact .inr ⟨ingressSpec, rfl, by simpa using found, _, rfl⟩

/-- What GenerateService promises for the port list `P` it serves: it fails exactly when the Stack's ingress
names a backend port that no port of `P` matches (the same `Port` for an integer backend port, the same
`Name` for a string one); otherwise it returns `P`, and each backend port of the per-stack ingress is
matched by a port of `P`. -/
structure ServicePortsContract (createSubdomain : String → String → Except String String) (P : List ServicePort) :
    Prop where
  fails_iff : (∃ message, sc.generateService = .error message) ↔
    ∃ ingressSpec, sc.ingressSpec = some ingressSpec ∧ ∀ port ∈ P,
      ¬ ((∃ n, ingressSpec.backendPort = .int n ∧ port.port = n) ∨
        ∃ name, ingressSpec.backendPort = .string name ∧ port.name = name)
  returns : ∀ service, sc.generateService = .ok service → service.ports = P
  routes : ∀ service, sc.generateService = .ok service →
    ∀ ingress, sc.generateIngress createSubdomain = .ok (some ingress) → ∀ rule ∈ ingress.rules, ∀ path ∈ rule.paths,
      ∃ port ∈ P, (∃ n, path.backend.servicePort = .int n ∧ port.port = n) ∨
        ∃ name, path.backend.servicePort = .string name ∧ port.name = name

theorem servicePortsContract_chosen (createSubdomain : String → String → Except String String) :
    ServicePortsContract sc createSubdomain (chosenServicePorts sc.stack.spec) := by
  rcases generateService_cases sc with ⟨made, matched⟩ | ⟨ingressSpec, present, unmatched, message, failed⟩
  · refine ⟨iff_of_false (fun ⟨_, wrong⟩ => by cases made.symm.trans wrong) ?_,
      fun service made' => by cases made.symm.trans made'; rfl,
      fun _ _ ingress generated rule ruleMember path pathMember => ?_⟩
    · rintro ⟨ingressSpec, present, unmatched⟩
      obtain ⟨port, member, matching⟩ := matched ingressSpec present
      exact unmatched port member ((portMatches_iff _ _).mp matching)
    · obtain ⟨ingressSpec, present, routed⟩ := generateIngress_backends sc createSubdomain generated
      obtain ⟨port, member, matching⟩ := matched ingressSpec present
      rw [routed rule ruleMember path pathMember]
      exact ⟨port, member, (portMatches_iff _ _).mp matching⟩
  · refine ⟨iff_of_true ⟨message, failed⟩ ⟨ingressSpec, present, fun port member matching => ?_⟩,
      fun _ made => (nomatch failed.symm.trans made), fun _ made => (nomatch failed.symm.trans made)⟩
    have found := (portMatches_iff _ _).mpr matching
    rw [unmatched port member] at found
    cases found

theorem generateService_port_contract (createSubdomain : String → String → Except String String) :
    (∀ service, sc.stack.spec.service = some service → service.ports ≠ [] →
      ServicePortsContract sc createSubdomain service.ports) ∧
    ((∀ service ∈ sc.stack.spec.service, service.ports = []) →
      ServicePortsContract sc createSubdomain (servicePortsFromContainers sc.stack.spec.podTemplate.containers)) :=
  ⟨fun _ present nonempty => chosenServicePorts_of_ports present nonempty ▸ servicePortsContract_chosen sc createSubdomain,
    fun synthesized => chosenServicePorts_of_no_ports synthesized ▸ servicePortsContract_chosen sc createSubdomain⟩

end Ports

section Selector

variable (scaledDown : StackContainer → Bool) (sc : StackContainer)

theorem generateService_selector_eq_deployment :
    (∀ k v, (sc.generateDeployment scaledDown).selector.lookup k = some v ↔
      (k = StacksetHeritageLabelKey ∨ k = StackVersionLabelKey) ∧ sc.stack.labels.lookup k = some v) ∧
    ∀ service, sc.generateService = .ok service → service.selector = (sc.generateDeployment scaledDown).selector := by
  refine ⟨fun k v => ?_, fun service made => ?_⟩
  · simp [selectorLabels]
  · rcases generateService_cases sc with ⟨made', -⟩ | ⟨_, -, -, _, failed⟩
    · cases made'.symm.trans made
      rfl
    · cases failed.symm.trans made

end Selector

end StackContainer

end StacksetController.Core
