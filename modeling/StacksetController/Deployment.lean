import StacksetController.Resources

set_option autoImplicit false

namespace StacksetController.Core

namespace StackContainer

def desiredReplicaCount (sc : StackContainer) : Int :=
  if sc.prescalingActive then sc.prescalingReplicas else sc.stackReplicas

-- The replica count GenerateDeployment writes, `nil` when it leaves the deployment's count alone.
def updatedReplicaCount (scaledDown : StackContainer → Bool) (sc : StackContainer) : Option Int :=
  if sc.desiredReplicaCount ≠ 0 ∧ !scaledDown sc then
    if sc.deploymentReplicas = 0 ∨ (!sc.isAutoscaled ∧ sc.desiredReplicaCount ≠ sc.deploymentReplicas) then
      some sc.desiredReplicaCount
    else none
  else if sc.deploymentReplicas ≠ 0 then some 0
  else none

def generateDeployment (scaledDown : StackContainer → Bool) (sc : StackContainer) : Deployment :=
  let stack := sc.stack
  { metadata := sc.resourceMeta
    replicas := sc.updatedReplicaCount scaledDown
    selector := limitLabels stack.labels selectorLabels
    template := templateInjectLabels stack.spec.podTemplate stack.labels }

section Replicas

variable (scaledDown : StackContainer → Bool) (sc : StackContainer)

theorem updatedReplicaCount_spec :
    (sc.updatedReplicaCount scaledDown = none ∨ sc.updatedReplicaCount scaledDown = some 0 ∨
      sc.updatedReplicaCount scaledDown = some sc.desiredReplicaCount) ∧
    (∀ r, sc.updatedReplicaCount scaledDown = some r → r ≠ 0 →
      sc.desiredReplicaCount ≠ 0 ∧ scaledDown sc = false) ∧
    (sc.desiredReplicaCount ≠ 0 → scaledDown sc = false → sc.isAutoscaled = true →
      sc.deploymentReplicas ≠ 0 → sc.updatedReplicaCount scaledDown = none) := by
  unfold updatedReplicaCount
  by_cases live : sc.desiredReplicaCount ≠ 0 ∧ scaledDown sc = false
  · have written : (sc.desiredReplicaCount ≠ 0 ∧ (!scaledDown sc) = true) := by simpa using live
    simp only [if_pos written]
    split
    · exact ⟨.inr (.inr rfl), fun r same _ => ⟨live.1, live.2⟩, fun _ _ _ _ => by simp_all⟩
    · exact ⟨.inl rfl, by simp, fun _ _ _ _ => rfl⟩
  · have written : ¬ (sc.desiredReplicaCount ≠ 0 ∧ (!scaledDown sc) = true) := by simpa using live
    simp only [if_neg written]
    split
    · exact ⟨.inr (.inl rfl), fun r same nonzero => by simp_all, fun desired fresh => absurd ⟨desired, fresh⟩ live⟩
    · exact ⟨.inl rfl, by simp, fun desired fresh => absurd ⟨desired, fresh⟩ live⟩

end Replicas

section Selector

variable (scaledDown : StackContainer → Bool) (sc : StackContainer)

@[simp] theorem lookup_generateDeployment_selector (k : String) :
    (sc.generateDeployment scaledDown).selector.lookup k =
      if k ∈ selectorLabels then sc.stack.labels.lookup k else none :=
  lookup_limitLabels _ _ _

@[simp] theorem lookup_generateDeployment_template (k : String) :
    (sc.generateDeployment scaledDown).template.labels.lookup k =
      (sc.stack.spec.podTemplate.labels.lookup k).or (sc.stack.labels.lookup k) :=
  lookup_templateInjectLabels _ _ _

theorem generateDeployment_selector_in_template_iff :
    (∀ k v, (sc.generateDeployment scaledDown).selector.lookup k = some v →
        (sc.generateDeployment scaledDown).template.labels.lookup k = some v) ↔
      ∀ k ∈ selectorLabels, ∀ v w, sc.stack.labels.lookup k = some v →
        sc.stack.spec.podTemplate.labels.lookup k = some w → w = v := by
  simp only [lookup_generateDeployment_selector, lookup_generateDeployment_template]
  constructor
  · intro contained k selector v w stackValue podValue
    have := contained k v (by simp [selector, stackValue])
    simpa [podValue] using this
  · intro agree k v selected
    by_cases selector : k ∈ selectorLabels
    · rw [if_pos selector] at selected
      cases podValue : sc.stack.spec.podTemplate.labels.lookup k with
      | none => simp [selected]
      | some w => simp [agree k selector v w selected podValue]
    · simp [selector] at selected

def shadowedStack : StackContainer :=
  { (default : StackContainer) with
    stack := { (default : Stack) with
      labels := AList.singleton StacksetHeritageLabelKey "foo"
      spec.podTemplate := { labels := AList.singleton StacksetHeritageLabelKey "other", containers := [] } } }

theorem generateDeployment_template_shadows_selector :
    ¬ ∀ (scaledDown : StackContainer → Bool) (sc : StackContainer) (k v : String),
      (sc.generateDeployment scaledDown).selector.lookup k = some v →
        (sc.generateDeployment scaledDown).template.labels.lookup k = some v := by
  intro claim
  have pod := claim (fun _ => false) shadowedStack StacksetHeritageLabelKey "foo" (by decide)
  exact absurd pod (by decide)

end Selector

end StackContainer

end StacksetController.Core
