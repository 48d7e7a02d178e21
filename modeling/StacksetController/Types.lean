import Mathlib.Data.List.AList
import Mathlib.Data.Rat.Defs

set_option autoImplicit false

namespace StacksetController.Core

-- Go's map[string]string. Keys are unique; a range loop visits the entries in list order, which is
-- one of the orders Go may choose.
abbrev Labels := AList (fun _ : String => String)

-- float64 traffic weights: a finite value, kept exactly, or one of the IEEE 754 non-finite values.
inductive Float64 where
  | finite (value : ℚ)
  | posInf
  | negInf
  | nan
deriving DecidableEq, Repr, Inhabited

-- The source's `w > 0` under IEEE 754: false for NaN and for -Inf.
def Float64.positive : Float64 → Bool
  | .finite value => decide (0 < value)
  | .posInf => true
  | .negInf => false
  | .nan => false

-- metav1.Time as an instant; a nullable time (the zero time in Go) is an Option.
abbrev Time := Int

inductive IntOrString where
  | int (intVal : Int)
  | string (strVal : String)
deriving DecidableEq, Repr, Inhabited

-- The derived `default` of each record is the zero value of its Go type.
structure OwnerReference where
  apiVersion : String
  kind : String
  name : String
  uid : String
deriving DecidableEq, Repr, Inhabited

structure ContainerPort where
  name : String
  containerPort : Int
  protocol : String
deriving DecidableEq, Repr, Inhabited

structure Container where
  ports : List ContainerPort
deriving DecidableEq, Repr, Inhabited

structure PodTemplateSpec where
  labels : Labels
  containers : List Container
deriving DecidableEq, Inhabited

structure ServicePort where
  name : String
  protocol : String
  port : Int
  targetPort : IntOrString
deriving DecidableEq, Repr, Inhabited

structure StackServiceSpec where
  ports : List ServicePort
deriving DecidableEq, Repr, Inhabited

-- Metric entries are only handed on (to convertCustomMetrics, or into the HPA as they are).
structure AutoscalerMetrics where
  type : String
deriving DecidableEq, Repr, Inhabited

structure MetricSpec where
  type : String
deriving DecidableEq, Repr, Inhabited

structure Autoscaler where
  minReplicas : Option Int
  maxReplicas : Int
  metrics : List AutoscalerMetrics
deriving DecidableEq, Repr, Inhabited

structure HorizontalPodAutoscaler where
  minReplicas : Option Int
  maxReplicas : Int
  metrics : List MetricSpec
deriving DecidableEq, Repr, Inhabited

structure StackSpec where
  replicas : Option Int
  horizontalPodAutoscaler : Option HorizontalPodAutoscaler
  service : Option StackServiceSpec
  podTemplate : PodTemplateSpec
  autoscaler : Option Autoscaler
deriving DecidableEq, Inhabited

structure Stack where
  name : String
  ns : String
  uid : String
  generation : Int
  labels : Labels
  annotations : Labels
  creationTimestamp : Time
  ownerReferences : List OwnerReference
  spec : StackSpec
deriving DecidableEq, Inhabited

structure StackSetIngressSpec where
  annotations : Labels
  hosts : List String
  backendPort : IntOrString
  path : String
deriving DecidableEq, Inhabited

structure StackLifecycle where
  limit : Option Int
deriving DecidableEq, Repr, Inhabited

structure StackSpecTemplate where
  version : String
  stackSpec : StackSpec
deriving DecidableEq, Inhabited

structure StackTemplate where
  annotations : Labels
  spec : StackSpecTemplate
deriving DecidableEq, Inhabited

structure StackSetSpec where
  ingress : Option StackSetIngressSpec
  stackLifecycle : StackLifecycle
  stackTemplate : StackTemplate
deriving DecidableEq, Inhabited

structure StackSetStatus where
  «stacks» : Int
  readyStacks : Int
  stacksWithTraffic : Int
  observedStackVersion : String
deriving DecidableEq, Repr, Inhabited

structure StackSet where
  apiVersion : String
  kind : String
  name : String
  ns : String
  uid : String
  labels : Labels
  spec : StackSetSpec
  status : StackSetStatus
deriving DecidableEq, Inhabited

structure StackContainer where
  stack : Stack
  stacksetName : String
  ingressSpec : Option StackSetIngressSpec
  pendingRemoval : Bool
  actualTrafficWeight : Float64
  desiredTrafficWeight : Float64
  noTrafficSince : Option Time
  deploymentReplicas : Int
  createdReplicas : Int
  readyReplicas : Int
  updatedReplicas : Int
  desiredReplicas : Int
  stackReplicas : Int
  prescalingActive : Bool
  prescalingReplicas : Int
  prescalingDesiredTrafficWeight : Float64
  prescalingLastTrafficIncrease : Option Time
deriving DecidableEq, Inhabited

-- The StackContainers collection in the order one range loop enumerates it; a container's
-- position stands for its pointer.
structure StackSetContainer where
  stackSet : StackSet
  stackContainers : List StackContainer
deriving DecidableEq, Inhabited

def StacksetHeritageLabelKey : String := "stackset"
def StackVersionLabelKey : String := "stack-version"

/-- Modelled from the spec: `defaultVersion` is declared outside src/; the spec gives `"01"`. -/
def defaultVersion : String := "01"

/-- Modelled from the spec: `defaultStackLifecycleLimit` is declared outside src/; the spec gives 10. -/
def defaultStackLifecycleLimit : Int := 10

/-- Modelled from the spec: the annotation keys are declared outside src/; section 6 of the spec
names them. -/
def backendWeightsAnnotationKey : String := "zalando.org/backend-weights"
/-- Modelled from the spec: see `backendWeightsAnnotationKey`. -/
def stackTrafficWeightsAnnotationKey : String := "zalando.org/stack-traffic-weights"
/-- Modelled from the spec: see `backendWeightsAnnotationKey`. -/
def stackGenerationAnnotationKey : String := "stackset-controller.zalando.org/stack-generation"

/-- Modelled from the spec: `APIVersion` is declared outside src/, as the group version of the imported
zalando.org/v1 package. -/
def APIVersion : String := "zalando.org/v1"
/-- Modelled from the spec: `KindStack` is declared outside src/, as the name of the package's Stack type. -/
def KindStack : String := "Stack"

namespace StackContainer

def name (sc : StackContainer) : String := sc.stack.name
def ns (sc : StackContainer) : String := sc.stack.ns

/-- Modelled from the spec: `HasTraffic` is declared outside src/; section 4.3 defines it. -/
def hasTraffic (sc : StackContainer) : Bool :=
  sc.actualTrafficWeight.positive || sc.desiredTrafficWeight.positive

/-- Modelled from the spec: `IsReady` is declared outside src/; section 4.3 defines it. -/
def isReady (sc : StackContainer) : Bool :=
  sc.deploymentReplicas == sc.readyReplicas && sc.readyReplicas == sc.updatedReplicas &&
    decide (1 ≤ sc.deploymentReplicas)

/-- Modelled from the spec: `IsAutoscaled` is declared outside src/; section 4.3 defines it. -/
def isAutoscaled (sc : StackContainer) : Bool :=
  sc.stack.spec.autoscaler.isSome || sc.stack.spec.horizontalPodAutoscaler.isSome

/-- Modelled from the spec: `ScaledDown` is declared outside src/; section 4.3 defines it against the
current time `now`. The source reads the clock on every call, so the operations below take the
value of `ScaledDown()` as a predicate, and this is one instance of it. -/
def scaledDown (scaledownTTLSeconds now : Int) (sc : StackContainer) : Bool :=
  !sc.hasTraffic && match sc.noTrafficSince with
    | none => false
    | some since => decide (scaledownTTLSeconds ≤ now - since)

def markPendingRemoval (sc : StackContainer) : StackContainer := { sc with pendingRemoval := true }

@[simp] theorem markPendingRemoval_pendingRemoval (sc : StackContainer) :
    sc.markPendingRemoval.pendingRemoval = true := rfl

@[simp] theorem markPendingRemoval_stack (sc : StackContainer) :
    sc.markPendingRemoval.stack = sc.stack := rfl

@[simp] theorem markPendingRemoval_ingressSpec (sc : StackContainer) :
    sc.markPendingRemoval.ingressSpec = sc.ingressSpec := rfl

end StackContainer

end StacksetController.Core
