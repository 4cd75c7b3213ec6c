import DPUFabric.Device

/-!
# Deployments and activation authority

A deployment installs a service artifact on a device.  An activation is the
token that makes it authoritative; the token records every generation, boot
and epoch it was granted under.
-/

namespace DPUFabric

/-- The current world state a token is compared with. -/
structure AuthorityContext where
  epoch : CoordinatorEpoch := .null
  workerBoot : WorkerBootId := .null
  worker : WorkerId := .null
  deviceBoot : DeviceBootId := .null
  deviceGen : DeviceGeneration := .null
  serviceGen : ServiceGeneration := .null
  programGen : ProgramGeneration := .null
  deploymentGen : DeploymentGeneration := .null
  activationGen : ActivationGeneration := .null
  policyGen : PolicyGeneration := .null
  evidenceGen : EvidenceGeneration := .null
deriving DecidableEq, Repr

/-- An authority token captured at commit. -/
structure ActivationAuthority where
  epoch : CoordinatorEpoch := .null
  worker : WorkerId := .null
  workerBoot : WorkerBootId := .null
  device : DeviceId := .null
  deviceBoot : DeviceBootId := .null
  deviceGen : DeviceGeneration := .null
  serviceGen : ServiceGeneration := .null
  programGen : ProgramGeneration := .null
  deploymentGen : DeploymentGeneration := .null
  activationGen : ActivationGeneration := .null
  policyGen : PolicyGeneration := .null
  evidenceGen : EvidenceGeneration := .null
deriving DecidableEq, Repr

/-- `is_current`: every component equals the current one. -/
def ActivationAuthority.isCurrent
    (token : ActivationAuthority) (cur : AuthorityContext) : Bool :=
  if token.epoch ≠ cur.epoch then false
  else if token.worker ≠ cur.worker then false
  else if token.workerBoot ≠ cur.workerBoot then false
  else if token.deviceBoot ≠ cur.deviceBoot then false
  else if token.deviceGen ≠ cur.deviceGen then false
  else if token.serviceGen ≠ cur.serviceGen then false
  else if token.programGen ≠ cur.programGen then false
  else if token.deploymentGen ≠ cur.deploymentGen then false
  else if token.activationGen ≠ cur.activationGen then false
  else if token.policyGen ≠ cur.policyGen then false
  else if token.evidenceGen ≠ cur.evidenceGen then false
  else true

/-- A single activation of a deployment. -/
structure ActivationRecord where
  activationId : ActivationId := .null
  activationGen : ActivationGeneration := .null
  deploymentId : DeploymentId := .null
  deploymentGen : DeploymentGeneration := .null
  authority : ActivationAuthority := {}
  state : ActivationState := .pending
  reason : Text := text "created"
deriving DecidableEq, Repr

structure Deployment where
  deploymentId : DeploymentId := .null
  generation : DeploymentGeneration := .null
  attemptId : DeploymentAttemptId := .null
  service : ServiceId := .null
  serviceGen : ServiceGeneration := .null
  program : ProgramId := .null
  programGen : ProgramGeneration := .null
  artifact : ArtifactId := .null
  artifactGen : ArtifactGeneration := .null
  device : DeviceId := .null
  deviceGen : DeviceGeneration := .null
  deviceBoot : DeviceBootId := .null
  tenant : TenantId := .null
  isolationDomain : IsolationDomainId := .null
  resources : ResourceRequest := {}
  state : DeploymentState := .planned
  activation : Option ActivationId := none
  activationGen : ActivationGeneration := .null
  epoch : CoordinatorEpoch := .null
  workerBoot : WorkerBootId := .null
  evidenceGen : EvidenceGeneration := .null
  policyGen : PolicyGeneration := .null
  authoritative : Bool := false
  createdMs : UInt64 := 0
  updatedMs : UInt64 := 0
deriving DecidableEq, Repr

/-- The deployment lifecycle table. -/
def validDeploymentTransition (source target : DeploymentState) : Bool :=
  match source with
  | .planned =>
      target == .reserved || target == .aborted || target == .failed
  | .reserved =>
      target == .staging || target == .planned || target == .aborted ||
        target == .failed
  | .staging =>
      target == .loaded || target == .reserved || target == .aborted ||
        target == .failed
  | .loaded =>
      target == .validating || target == .staging || target == .aborted ||
        target == .failed
  | .validating =>
      target == .activating || target == .loaded || target == .failed ||
        target == .aborted || target == .revalidationRequired
  | .activating =>
      target == .active || target == .failed || target == .aborted ||
        target == .revalidationRequired || target == .degraded
  | .active =>
      target == .degraded || target == .draining ||
        target == .revalidationRequired || target == .failed ||
        target == .retired
  | .degraded =>
      target == .active || target == .draining ||
        target == .revalidationRequired || target == .failed ||
        target == .retired
  | .draining =>
      target == .retired || target == .active ||
        target == .revalidationRequired || target == .failed
  | .failed =>
      target == .planned || target == .aborted || target == .retired ||
        target == .revalidationRequired
  | .aborted => target == .planned || target == .retired
  | .retired => false
  | .revalidationRequired =>
      target == .validating || target == .active || target == .failed ||
        target == .retired || target == .draining

/-- `RETIRED` is terminal. -/
theorem not_validDeploymentTransition_of_retired (target : DeploymentState) :
    validDeploymentTransition .retired target = false :=
  rfl

end DPUFabric
