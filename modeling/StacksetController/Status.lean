import StacksetController.MarkExpiredStacks

set_option autoImplicit false

namespace StacksetController.Core

structure PrescalingStatus where
  active : Bool
  replicas : Int
  desiredTrafficWeight : Float64
  lastTrafficIncrease : Option Time
deriving DecidableEq, Inhabited

structure StackStatus where
  actualTrafficWeight : Float64
  desiredTrafficWeight : Float64
  replicas : Int
  readyReplicas : Int
  updatedReplicas : Int
  desiredReplicas : Int
  prescaling : PrescalingStatus
  noTrafficSince : Option Time
deriving DecidableEq, Inhabited

/-- Modelled from the spec: `wrapTime` is declared outside src/. The spec gives a nullable
`noTrafficSince`: a nil time stays nil and any other is carried over. -/
def wrapTime (t : Option Time) : Option Time := t

def StackContainer.generateStackStatus (sc : StackContainer) : StackStatus :=
  let prescaling : PrescalingStatus :=
    if sc.prescalingActive then
      { active := sc.prescalingActive
        replicas := sc.prescalingReplicas
        desiredTrafficWeight := sc.prescalingDesiredTrafficWeight
        lastTrafficIncrease := wrapTime sc.prescalingLastTrafficIncrease }
    else default
  { actualTrafficWeight := sc.actualTrafficWeight
    desiredTrafficWeight := sc.desiredTrafficWeight
    replicas := sc.createdReplicas
    readyReplicas := sc.readyReplicas
    updatedReplicas := sc.updatedReplicas
    desiredReplicas := sc.desiredReplicas
    prescaling := prescaling
    noTrafficSince := wrapTime sc.noTrafficSince }

-- One turn of GenerateStackSetStatus's loop. The counters are int32 in the source; a working set
-- has far fewer than 2^31 Stacks, so they are kept as Int.
def countStack (status : StackSetStatus) (sc : StackContainer) : StackSetStatus :=
  if sc.pendingRemoval then status
  else
    let status := { status with «stacks» := status.«stacks» + 1 }
    let status := if sc.hasTraffic then { status with stacksWithTraffic := status.stacksWithTraffic + 1 } else status
    if sc.isReady then { status with readyStacks := status.readyStacks + 1 } else status

def StackSetContainer.generateStackSetStatus (ssc : StackSetContainer) : StackSetStatus :=
  ssc.stackContainers.foldl countStack
    { «stacks» := 0, readyStacks := 0, stacksWithTraffic := 0,
      observedStackVersion := ssc.stackSet.status.observedStackVersion }

theorem foldl_countStack (containers : List StackContainer) (status : StackSetStatus) :
    containers.foldl countStack status =
      { «stacks» := status.«stacks» + containers.countP (!·.pendingRemoval)
        readyStacks := status.readyStacks + containers.countP fun sc => !sc.pendingRemoval && sc.isReady
        stacksWithTraffic := status.stacksWithTraffic + containers.countP fun sc => !sc.pendingRemoval && sc.hasTraffic
        observedStackVersion := status.observedStackVersion } := by
  induction containers generalizing status with
  | nil => simp
  | cons sc rest ih =>
    rw [List.foldl_cons, ih]
    by_cases pending : sc.pendingRemoval
    · simp [countStack, pending]
    · by_cases traffic : sc.hasTraffic <;> by_cases ready : sc.isReady <;>
        simp [countStack, pending, traffic, ready, List.countP_cons] <;> omega

namespace StackSetContainer

variable (ssc : StackSetContainer)

theorem generateStackSetStatus_eq :
    ssc.generateStackSetStatus =
      { «stacks» := ssc.stackContainers.countP (!·.pendingRemoval)
        readyStacks := ssc.stackContainers.countP fun sc => !sc.pendingRemoval && sc.isReady
        stacksWithTraffic := ssc.stackContainers.countP fun sc => !sc.pendingRemoval && sc.hasTraffic
        observedStackVersion := ssc.stackSet.status.observedStackVersion } := by
  simp [generateStackSetStatus, foldl_countStack]

end StackSetContainer

end StacksetController.Core
