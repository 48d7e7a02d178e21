import StacksetController.Labels

set_option autoImplicit false

namespace StacksetController.Core

structure ObjectMeta where
  name : String
  ns : String
  labels : Labels
  annotations : Labels
  ownerReferences : List OwnerReference
deriving DecidableEq, Inhabited

structure Deployment where
  metadata : ObjectMeta
  replicas : Option Int
  selector : Labels
  template : PodTemplateSpec
deriving DecidableEq, Inhabited

structure Service where
  metadata : ObjectMeta
  selector : Labels
  type : String
  ports : List ServicePort
deriving DecidableEq, Inhabited

structure CrossVersionObjectReference where
  apiVersion : String
  kind : String
  name : String
deriving DecidableEq, Repr, Inhabited

structure HorizontalPodAutoscalerSpec where
  scaleTargetRef : CrossVersionObjectReference
  minReplicas : Option Int
  maxReplicas : Int
  metrics : List MetricSpec
deriving DecidableEq, Repr, Inhabited

-- autoscaling/v2beta1's HorizontalPodAutoscaler object, as GenerateHPA fills it.
structure HPA where
  kind : String
  apiVersion : String
  metadata : ObjectMeta
  spec : HorizontalPodAutoscalerSpec
deriving DecidableEq, Inhabited

structure IngressBackend where
  serviceName : String
  servicePort : IntOrString
deriving DecidableEq, Repr, Inhabited

structure HTTPIngressPath where
  path : String
  backend : IngressBackend
deriving DecidableEq, Repr, Inhabited

structure IngressRule where
  host : String
  paths : List HTTPIngressPath
deriving DecidableEq, Repr, Inhabited

-- A JSON object of weights as json.Marshal writes a map[string]float64: members in key order.
abbrev JsonWeights := List (String × Float64)

-- The two weight annotations hold JSON text in the source; here they are the objects json.Marshal
-- encodes, the float text itself left out. `metadata.annotations` holds the other annotations.
structure Ingress where
  metadata : ObjectMeta
  weightAnnotations : List (String × JsonWeights)
  rules : List IngressRule
deriving DecidableEq, Inhabited

namespace StackContainer

def resourceMeta (sc : StackContainer) : ObjectMeta :=
  let resourceLabels := mapCopy sc.stack.labels
  { name := sc.name
    ns := sc.ns
    annotations := AList.singleton stackGenerationAnnotationKey (toString sc.stack.generation)
    labels := resourceLabels
    ownerReferences := [{ apiVersion := APIVersion, kind := KindStack, name := sc.name, uid := sc.stack.uid }] }

@[simp] theorem resourceMeta_name (sc : StackContainer) : sc.resourceMeta.name = sc.stack.name := rfl

@[simp] theorem lookup_resourceMeta_labels (sc : StackContainer) (k : String) :
    sc.resourceMeta.labels.lookup k = sc.stack.labels.lookup k :=
  lookup_mapCopy _ _

@[simp] theorem lookup_resourceMeta_annotations (sc : StackContainer) (k : String) :
    sc.resourceMeta.annotations.lookup k =
      if k = stackGenerationAnnotationKey then some (toString sc.stack.generation) else none :=
  lookup_singleton _ _ _

end StackContainer

end StacksetController.Core
