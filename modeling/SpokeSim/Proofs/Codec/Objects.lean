import SpokeSim.Object.Kind
import SpokeSim.Proofs.Codec.Timestamp

/-!
# Reading back objects

The codecs of the five kinds of objects that the simulator stores, and that of managed clusters, are
faithful, and so are those of all their parts.  Each structure is built from its own parts and names
its members apart, which is all that `Codec.Faithful.via` asks for; what is left to prove is about
the few codecs that are not put together from fields.
-/

namespace SpokeSim

open Codec Record

/-! ## Metadata -/

instance : KeptDocument.codec.Faithful where
  decode_encode k := by
    simp only [KeptDocument.codec, Json.Draft.value_ofJson]
    show (if h : k.document.isNull = false then _ else _) = _
    rw [dif_pos k.present]; rfl
  isNull_encode k := k.present

instance : OwnerReference.record.codec.Faithful := .via (by decide) fun _ => rfl

instance : ManagedFields.record.codec.Faithful := .via (by decide) fun _ => rfl

instance : ObjectMeta.codec.Faithful :=
  (.via (by decide) fun _ => rfl : ObjectMeta.record.codec.Faithful)

/-! ## Config maps, secrets and identities -/

instance : Text.Base64.codec.Faithful where
  decode_encode b := by
    show (if h : Text.isBase64 b.text.toList = true then _ else _) = _
    rw [dif_pos b.canonical]
  isNull_encode _ := rfl

instance : ConfigMap.record.codec.Faithful := .via (by decide) fun _ => rfl

instance : Secret.record.codec.Faithful := .via (by decide) fun _ => rfl

instance : LocalReference.record.codec.Faithful := .via (by decide) fun _ => rfl

instance : ObjectReference.record.codec.Faithful := .via (by decide) fun _ => rfl

instance : ServiceAccount.record.codec.Faithful := .via (by decide) fun _ => rfl

instance : RoleRef.record.codec.Faithful := .via (by decide) fun _ => rfl

instance : Subject.record.codec.Faithful := .via (by decide) fun _ => rfl

instance : ClusterRoleBinding.record.codec.Faithful := .via (by decide) fun _ => rfl

/-! ## Selectors -/

instance : SelectorRequirement.record.codec.Faithful := .via (by decide) fun _ => rfl

instance : LabelSelector.record.codec.Faithful := .via (by decide) fun _ => rfl

instance : IntOrText.codec.Faithful where
  decode_encode
    | .int n => by
      show (int32.decode (.ofJson (int32.encode n))).map IntOrText.int = _
      rw [Codec.Faithful.decode_encode]; rfl
    | .text _ => rfl
  isNull_encode
    | .int _ => rfl
    | .text _ => rfl

instance : NamedValue.record.codec.Faithful := .via (by decide) fun _ => rfl

/-! ## Volumes -/

instance : KeyToPath.record.codec.Faithful := .via (by decide) fun _ => rfl

instance : ConfigMapSource.record.codec.Faithful := .via (by decide) fun _ => rfl

instance : SecretSource.record.codec.Faithful := .via (by decide) fun _ => rfl

instance : FieldSelector.record.codec.Faithful := .via (by decide) fun _ => rfl

instance : ResourceFieldSelector.record.codec.Faithful := .via (by decide) fun _ => rfl

instance : PodFieldFile.record.codec.Faithful := .via (by decide) fun _ => rfl

instance : PodFieldsSource.record.codec.Faithful := .via (by decide) fun _ => rfl

instance : ProjectedData.record.codec.Faithful := .via (by decide) fun _ => rfl

instance : ProjectedBundle.record.codec.Faithful := .via (by decide) fun _ => rfl

instance : ProjectedFields.record.codec.Faithful := .via (by decide) fun _ => rfl

instance : ProjectedToken.record.codec.Faithful := .via (by decide) fun _ => rfl

instance : Projection.record.codec.Faithful := .via (by decide) fun _ => rfl

instance : ProjectedSource.record.codec.Faithful := .via (by decide) fun _ => rfl

instance : EmptyDirSource.record.codec.Faithful := .via (by decide) fun _ => rfl

instance : HostPathSource.record.codec.Faithful := .via (by decide) fun _ => rfl

instance : ElasticBlockStoreSource.record.codec.Faithful := .via (by decide) fun _ => rfl

instance : AzureDiskSource.record.codec.Faithful := .via (by decide) fun _ => rfl

instance : AzureFileSource.record.codec.Faithful := .via (by decide) fun _ => rfl

instance : CephFSSource.record.codec.Faithful := .via (by decide) fun _ => rfl

instance : CinderSource.record.codec.Faithful := .via (by decide) fun _ => rfl

instance : DriverSource.record.codec.Faithful := .via (by decide) fun _ => rfl

instance : FibreChannelSource.record.codec.Faithful := .via (by decide) fun _ => rfl

instance : FlexVolumeSource.record.codec.Faithful := .via (by decide) fun _ => rfl

instance : FlockerSource.record.codec.Faithful := .via (by decide) fun _ => rfl

instance : PersistentDiskSource.record.codec.Faithful := .via (by decide) fun _ => rfl

instance : GitRepoSource.record.codec.Faithful := .via (by decide) fun _ => rfl

instance : GlusterfsSource.record.codec.Faithful := .via (by decide) fun _ => rfl

instance : ISCSISource.record.codec.Faithful := .via (by decide) fun _ => rfl

instance : NFSSource.record.codec.Faithful := .via (by decide) fun _ => rfl

instance : PhotonDiskSource.record.codec.Faithful := .via (by decide) fun _ => rfl

instance : PortworxSource.record.codec.Faithful := .via (by decide) fun _ => rfl

instance : QuobyteSource.record.codec.Faithful := .via (by decide) fun _ => rfl

instance : RBDSource.record.codec.Faithful := .via (by decide) fun _ => rfl

instance : ScaleIOSource.record.codec.Faithful := .via (by decide) fun _ => rfl

instance : StorageOSSource.record.codec.Faithful := .via (by decide) fun _ => rfl

instance : VsphereDiskSource.record.codec.Faithful := .via (by decide) fun _ => rfl

instance : ClaimSource.record.codec.Faithful := .via (by decide) fun _ => rfl

instance : DataReference.record.codec.Faithful := .via (by decide) fun _ => rfl

instance : RemoteDataReference.record.codec.Faithful := .via (by decide) fun _ => rfl

instance : StorageRequirements.record.codec.Faithful := .via (by decide) fun _ => rfl

instance : ClaimSpec.record.codec.Faithful := .via (by decide) fun _ => rfl

instance : ClaimTemplate.record.codec.Faithful := .via (by decide) fun _ => rfl

instance : EphemeralSource.record.codec.Faithful := .via (by decide) fun _ => rfl

instance : Volume.record.codec.Faithful := .via (by decide) fun _ => rfl

instance : VolumeMount.record.codec.Faithful := .via (by decide) fun _ => rfl

instance : VolumeDevice.record.codec.Faithful := .via (by decide) fun _ => rfl

/-! ## Containers -/

instance : SecurityProfile.record.codec.Faithful := .via (by decide) fun _ => rfl

instance : SELinuxOptions.record.codec.Faithful := .via (by decide) fun _ => rfl

instance : WindowsOptions.record.codec.Faithful := .via (by decide) fun _ => rfl

instance : Capabilities.record.codec.Faithful := .via (by decide) fun _ => rfl

instance : SecurityContext.record.codec.Faithful := .via (by decide) fun _ => rfl

instance : PodSecurityContext.record.codec.Faithful := .via (by decide) fun _ => rfl

instance : ExecAction.record.codec.Faithful := .via (by decide) fun _ => rfl

instance : HttpGetAction.record.codec.Faithful := .via (by decide) fun _ => rfl

instance : SleepAction.record.codec.Faithful := .via (by decide) fun _ => rfl

instance : TcpSocketAction.record.codec.Faithful := .via (by decide) fun _ => rfl

instance : GrpcAction.record.codec.Faithful := .via (by decide) fun _ => rfl

instance : Hook.record.codec.Faithful := .via (by decide) fun _ => rfl

instance : Hooks.record.codec.Faithful := .via (by decide) fun _ => rfl

instance : Probe.record.codec.Faithful := .via (by decide) fun _ => rfl

instance : KeySelector.record.codec.Faithful := .via (by decide) fun _ => rfl

instance : EnvVarSource.record.codec.Faithful := .via (by decide) fun _ => rfl

instance : EnvVar.record.codec.Faithful := .via (by decide) fun _ => rfl

instance : EnvReference.record.codec.Faithful := .via (by decide) fun _ => rfl

instance : EnvFromSource.record.codec.Faithful := .via (by decide) fun _ => rfl

instance : ContainerPort.record.codec.Faithful := .via (by decide) fun _ => rfl

instance : ResourceClaim.record.codec.Faithful := .via (by decide) fun _ => rfl

instance : ResourceRequirements.record.codec.Faithful := .via (by decide) fun _ => rfl

instance : ResizePolicy.record.codec.Faithful := .via (by decide) fun _ => rfl

instance : Container.record.codec.Faithful := .via (by decide) fun _ => rfl

instance : EphemeralContainer.record.codec.Faithful := .via (by decide) fun _ => rfl

/-! ## Pods -/

instance : Toleration.record.codec.Faithful := .via (by decide) fun _ => rfl

instance : NodeSelectorTerm.record.codec.Faithful := .via (by decide) fun _ => rfl

instance : NodeSelector.record.codec.Faithful := .via (by decide) fun _ => rfl

instance : PreferredNodes.record.codec.Faithful := .via (by decide) fun _ => rfl

instance : NodeAffinity.record.codec.Faithful := .via (by decide) fun _ => rfl

instance : PodAffinityTerm.record.codec.Faithful := .via (by decide) fun _ => rfl

instance : PreferredPods.record.codec.Faithful := .via (by decide) fun _ => rfl

instance : PodAffinity.record.codec.Faithful := .via (by decide) fun _ => rfl

instance : Affinity.record.codec.Faithful := .via (by decide) fun _ => rfl

instance : SpreadConstraint.record.codec.Faithful := .via (by decide) fun _ => rfl

instance : DnsOption.record.codec.Faithful := .via (by decide) fun _ => rfl

instance : DnsConfig.record.codec.Faithful := .via (by decide) fun _ => rfl

instance : HostAlias.record.codec.Faithful := .via (by decide) fun _ => rfl

instance : PodSystem.record.codec.Faithful := .via (by decide) fun _ => rfl

instance : ReadinessGate.record.codec.Faithful := .via (by decide) fun _ => rfl

instance : PodClaimSource.record.codec.Faithful := .via (by decide) fun _ => rfl

instance : PodClaim.record.codec.Faithful := .via (by decide) fun _ => rfl

instance : SchedulingGate.record.codec.Faithful := .via (by decide) fun _ => rfl

-- A pod has more fields than instances are put together for by default.
set_option synthInstance.maxSize 256 in
instance : PodSpec.record.codec.Faithful := .via (by decide) fun _ => rfl

/-! ## Deployments -/

instance : RollingUpdate.record.codec.Faithful := .via (by decide) fun _ => rfl

instance : DeploymentStrategy.record.codec.Faithful := .via (by decide) fun _ => rfl

instance : PodTemplate.record.codec.Faithful := .via (by decide) fun _ => rfl

instance : DeploymentSpec.record.codec.Faithful := .via (by decide) fun _ => rfl

instance : DeploymentCondition.record.codec.Faithful := .via (by decide) fun _ => rfl

instance : DeploymentStatus.record.codec.Faithful := .via (by decide) fun _ => rfl

instance : Deployment.record.codec.Faithful := .via (by decide) fun _ => rfl

/-! ## Managed clusters -/

instance : ClientConfig.record.positional.Faithful := .positional (by decide) fun _ => rfl

instance : ManagedClusterSpec.record.positional.Faithful := .positional (by decide) fun _ => rfl

instance : Condition.record.positional.Faithful := .positional (by decide) fun _ => rfl

instance : ManagedClusterVersion.record.positional.Faithful := .positional (by decide) fun _ => rfl

instance : ManagedClusterStatus.record.positional.Faithful := .positional (by decide) fun _ => rfl

instance : ManagedCluster.codec.Faithful :=
  (.positional (by decide) fun _ => rfl : ManagedCluster.record.positional.Faithful)

end SpokeSim
