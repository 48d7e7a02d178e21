import StacksetController.Resources

set_option autoImplicit false

namespace StacksetController.Core

def apiVersionAppsV1 : String := "apps/v1"
def kindDeployment : String := "Deployment"

def StackSpec.autoscalerBounds (spec : StackSpec) : Option (Option Int × Int) :=
  match spec.autoscaler, spec.horizontalPodAutoscaler with
  | some autoscaler, _ => some (autoscaler.minReplicas, autoscaler.maxReplicas)
  | none, some hpa => some (hpa.minReplicas, hpa.maxReplicas)
  | none, none => none

namespace StackContainer

def hpaBase (sc : StackContainer) : HPA :=
  { kind := "HorizontalPodAutoscaler"
    apiVersion := "autoscaling/v2beta1"
    metadata := sc.resourceMeta
    spec := { scaleTargetRef := { apiVersion := apiVersionAppsV1, kind := kindDeployment, name := sc.name }
              minReplicas := none
              maxReplicas := 0
              metrics := [] } }

-- If prescaling is enabled, ensure at least `prescalingReplicas` pods.
def prescale (sc : StackContainer) (result : HPA) : HPA :=
  if sc.prescalingActive && (result.spec.minReplicas.isNone ||
      result.spec.minReplicas.any (· < sc.prescalingReplicas)) then
    { result with spec.minReplicas := some sc.prescalingReplicas }
  else result

-- `convertCustomMetrics` is declared outside src/; it is taken as given, with its own failures.
def generateHPA
    (convertCustomMetrics : String → String → List AutoscalerMetrics → Except String (List MetricSpec × Labels))
    (sc : StackContainer) : Except String (Option HPA) :=
  match sc.stack.spec.autoscaler, sc.stack.spec.horizontalPodAutoscaler with
  | none, none => .ok none
  | some autoscalerSpec, _ => do
    let (metrics, annotations) ← convertCustomMetrics sc.stacksetName sc.name autoscalerSpec.metrics
    pure (some (sc.prescale { sc.hpaBase with
      metadata.annotations := mergeLabels [sc.hpaBase.metadata.annotations, annotations]
      spec.minReplicas := autoscalerSpec.minReplicas
      spec.maxReplicas := autoscalerSpec.maxReplicas
      spec.metrics := metrics }))
  | none, some hpaSpec =>
    .ok (some (sc.prescale { sc.hpaBase with
      spec.minReplicas := hpaSpec.minReplicas
      spec.maxReplicas := hpaSpec.maxReplicas
      spec.metrics := hpaSpec.metrics }))

section Bounds

variable (convertCustomMetrics : String → String → List AutoscalerMetrics → Except String (List MetricSpec × Labels))
  (sc : StackContainer)

@[simp] theorem prescale_maxReplicas (result : HPA) :
    (sc.prescale result).spec.maxReplicas = result.spec.maxReplicas := by
  unfold prescale
  split <;> rfl

theorem prescale_minReplicas (result : HPA) :
    (sc.prescale result).spec.minReplicas =
      if sc.prescalingActive ∧ (result.spec.minReplicas = none ∨
          ∃ m, result.spec.minReplicas = some m ∧ m < sc.prescalingReplicas)
      then some sc.prescalingReplicas else result.spec.minReplicas := by
  unfold prescale
  cases h : result.spec.minReplicas with
  | none => by_cases active : sc.prescalingActive <;> simp [h, active]
  | some m =>
    by_cases active : sc.prescalingActive <;> by_cases below : m < sc.prescalingReplicas <;>
      simp [h, active, below]

theorem generateHPA_bounds {hpa : HPA} (generated : sc.generateHPA convertCustomMetrics = .ok (some hpa)) :
    ∃ result : HPA, sc.stack.spec.autoscalerBounds = some (result.spec.minReplicas, result.spec.maxReplicas) ∧
      hpa = sc.prescale result := by
  unfold generateHPA at generated
  unfold StackSpec.autoscalerBounds
  split at generated
  · cases generated
  · simp only [bind, Except.bind] at generated
    split at generated
    · cases generated
    · simp only [pure, Except.pure, Except.ok.injEq, Option.some.injEq] at generated
      rename_i autoscaler _ autoscalerEq _ _ _
      rw [autoscalerEq]
      exact ⟨_, rfl, generated.symm⟩
  · rename_i hpaSpec autoscalerEq hpaEq
    simp only [Except.ok.injEq, Option.some.injEq] at generated
    rw [autoscalerEq, hpaEq]
    exact ⟨_, rfl, generated.symm⟩

theorem generateHPA_min_le_max {hpa : HPA}
    (bounded : ∀ minReplicas maxReplicas,
      sc.stack.spec.autoscalerBounds = some (some minReplicas, maxReplicas) → minReplicas ≤ maxReplicas)
    (generated : sc.generateHPA convertCustomMetrics = .ok (some hpa)) :
    (sc.prescalingActive = true ∧ hpa.spec.maxReplicas < sc.prescalingReplicas →
      hpa.spec.minReplicas = some sc.prescalingReplicas) ∧
    (¬ (sc.prescalingActive = true ∧ hpa.spec.maxReplicas < sc.prescalingReplicas) →
      ∀ m, hpa.spec.minReplicas = some m → m ≤ hpa.spec.maxReplicas) := by
  obtain ⟨result, bounds, rfl⟩ := generateHPA_bounds convertCustomMetrics sc generated
  have within : ∀ m, result.spec.minReplicas = some m → m ≤ result.spec.maxReplicas := fun m hm =>
    bounded m _ (by rw [bounds, hm])
  rw [prescale_maxReplicas, prescale_minReplicas]
  split_ifs with clamped
  · exact ⟨fun _ => rfl, fun notAbove m same => by
      cases same
      exact not_lt.mp fun above => notAbove ⟨clamped.1, above⟩⟩
  · refine ⟨fun ⟨active, above⟩ => absurd ⟨active, ?_⟩ clamped, fun _ => within⟩
    cases hm : result.spec.minReplicas with
    | none => exact .inl rfl
    | some m => exact .inr ⟨m, rfl, lt_of_le_of_lt (within m hm) above⟩

end Bounds

end StackContainer

def prescaledStack : StackContainer :=
  { (default : StackContainer) with
    prescalingActive := true
    prescalingReplicas := 5
    stack := { (default : Stack) with
      spec.horizontalPodAutoscaler := some { minReplicas := some 1, maxReplicas := 3, metrics := [] } } }

def prescaledHPA : HPA :=
  prescaledStack.prescale { prescaledStack.hpaBase with
    spec.minReplicas := some 1
    spec.maxReplicas := 3
    spec.metrics := [] }

theorem prescaledStack_bounds_ordered : ∀ minReplicas maxReplicas,
    prescaledStack.stack.spec.autoscalerBounds = some (some minReplicas, maxReplicas) → minReplicas ≤ maxReplicas := by
  intro minReplicas maxReplicas bounds
  simp only [prescaledStack, StackSpec.autoscalerBounds, Option.some.injEq, Prod.mk.injEq] at bounds
  omega

theorem prescaledStack_bounded :
    (∀ minReplicas maxReplicas, prescaledStack.stack.spec.autoscalerBounds = some (some minReplicas, maxReplicas) →
      minReplicas ≤ maxReplicas) ∧
    prescaledStack.generateHPA (fun _ _ _ => .ok ([], ∅)) = .ok (some prescaledHPA) ∧
    (prescaledStack.prescalingActive = true ∧ prescaledHPA.spec.maxReplicas < prescaledStack.prescalingReplicas →
      prescaledHPA.spec.minReplicas = some prescaledStack.prescalingReplicas) ∧
    (¬ (prescaledStack.prescalingActive = true ∧ prescaledHPA.spec.maxReplicas < prescaledStack.prescalingReplicas) →
      ∀ m, prescaledHPA.spec.minReplicas = some m → m ≤ prescaledHPA.spec.maxReplicas) :=
  ⟨prescaledStack_bounds_ordered, rfl,
    StackContainer.generateHPA_min_le_max (fun _ _ _ => .ok ([], ∅)) prescaledStack prescaledStack_bounds_ordered rfl⟩

theorem generateHPA_prescaling_exceeds_max :
    ¬ ∀ (convertCustomMetrics : String → String → List AutoscalerMetrics → Except String (List MetricSpec × Labels))
        (sc : StackContainer) (hpa : HPA),
      (∀ minReplicas maxReplicas,
        sc.stack.spec.autoscalerBounds = some (some minReplicas, maxReplicas) → minReplicas ≤ maxReplicas) →
      sc.generateHPA convertCustomMetrics = .ok (some hpa) →
        ∀ m, hpa.spec.minReplicas = some m → m ≤ hpa.spec.maxReplicas := by
  intro claim
  exact absurd (claim (fun _ _ _ => .ok ([], ∅)) prescaledStack prescaledHPA prescaledStack_bounds_ordered rfl 5 rfl)
    (by decide)

end StacksetController.Core
