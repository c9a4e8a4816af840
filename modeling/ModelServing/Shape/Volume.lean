import ModelServing.Shape

/-!
# Shapes of volumes

`Shape.volume` is a volume that a pod mounts, from any of the sources that there are.
-/

namespace ModelServing.Shape

/-- The name of an object of the same namespace. -/
def localReference : Shape := record [("name", text)]

/-- Labels that objects are chosen by. -/
def labelSelector : Shape :=
  record [
    ("matchExpressions", list (record [("key", text), ("operator", text), ("values", list text)])),
    ("matchLabels", map text)]

/-- Amounts of resources by their names. -/
def quantities : Shape := map text

/-- A field of the pod. -/
def fieldSelector : Shape := record (each text ["apiVersion", "fieldPath"])

/-- An amount of a resource of a container. -/
def resourceSelector : Shape := record (each text ["containerName", "divisor", "resource"])

/-- Entries that become files. -/
def files : Shape := list (record [("key", text), ("mode", int32), ("path", text)])

/-- Fields of the pod that become files. -/
def fieldFiles : Shape :=
  list (record [
    ("fieldRef", fieldSelector), ("mode", int32), ("path", text), ("resourceFieldRef", resourceSelector)])

/-- The claim of a volume that is made for the pod. -/
def claimTemplate : Shape :=
  record [
    ("metadata", metadata),
    ("spec", record (each text ["storageClassName", "volumeAttributesClassName", "volumeMode", "volumeName"] ++ [
      ("accessModes", list text),
      ("dataSource", record (each text ["apiGroup", "kind", "name"])),
      ("dataSourceRef", record (each text ["apiGroup", "kind", "name", "namespace"])),
      ("resources", record (each quantities ["limits", "requests"])),
      ("selector", labelSelector)]))]

/-- Volumes that several sources fill together. -/
def projection : Shape :=
  record [
    ("clusterTrustBundle",
      record (each text ["name", "path", "signerName"] ++ [("labelSelector", labelSelector), ("optional", flag)])),
    ("configMap", record [("items", files), ("name", text), ("optional", flag)]),
    ("downwardAPI", record [("items", fieldFiles)]),
    ("secret", record [("items", files), ("name", text), ("optional", flag)]),
    ("serviceAccountToken", record [("audience", text), ("expirationSeconds", int64), ("path", text)])]

/-- The disks of cloud providers. -/
def cloudSources : List (String × Shape) := [
  ("awsElasticBlockStore", record (each text ["fsType", "volumeID"] ++ [("partition", int32), ("readOnly", flag)])),
  ("azureDisk", record (each text ["cachingMode", "diskName", "diskURI", "fsType", "kind"] ++ [("readOnly", flag)])),
  ("azureFile", record (each text ["secretName", "shareName"] ++ [("readOnly", flag)])),
  ("cinder", record (each text ["fsType", "volumeID"] ++ [("readOnly", flag), ("secretRef", localReference)])),
  ("gcePersistentDisk", record (each text ["fsType", "pdName"] ++ [("partition", int32), ("readOnly", flag)])),
  ("photonPersistentDisk", record (each text ["fsType", "pdID"])),
  ("vsphereVolume", record (each text ["fsType", "storagePolicyID", "storagePolicyName", "volumePath"]))]

/-- The file systems and block devices of a network. -/
def networkSources : List (String × Shape) := [
  ("cephfs", record (each text ["path", "secretFile", "user"] ++ [
    ("monitors", list text), ("readOnly", flag), ("secretRef", localReference)])),
  ("fc", record [
    ("fsType", text), ("lun", int32), ("readOnly", flag), ("targetWWNs", list text), ("wwids", list text)]),
  ("flocker", record (each text ["datasetName", "datasetUUID"])),
  ("glusterfs", record [("endpoints", text), ("path", text), ("readOnly", flag)]),
  ("iscsi", record (each text ["fsType", "initiatorName", "iqn", "iscsiInterface", "targetPortal"] ++
    each flag ["chapAuthDiscovery", "chapAuthSession", "readOnly"] ++ [
    ("lun", int32), ("portals", list text), ("secretRef", localReference)])),
  ("nfs", record [("path", text), ("readOnly", flag), ("server", text)]),
  ("portworxVolume", record [("fsType", text), ("readOnly", flag), ("volumeID", text)]),
  ("quobyte", record (each text ["group", "registry", "tenant", "user", "volume"] ++ [("readOnly", flag)])),
  ("rbd", record (each text ["fsType", "image", "keyring", "pool", "user"] ++ [
    ("monitors", list text), ("readOnly", flag), ("secretRef", localReference)])),
  ("scaleIO", record (each text ["fsType", "gateway", "protectionDomain", "storageMode", "storagePool", "system",
    "volumeName"] ++ [("readOnly", flag), ("secretRef", localReference), ("sslEnabled", flag)])),
  ("storageos", record (each text ["fsType", "volumeName", "volumeNamespace"] ++ [
    ("readOnly", flag), ("secretRef", localReference)]))]

/-- What a node or the cluster itself provides. -/
def clusterSources : List (String × Shape) := [
  ("configMap", record [("defaultMode", int32), ("items", files), ("name", text), ("optional", flag)]),
  ("csi", record [
    ("driver", text), ("fsType", text), ("nodePublishSecretRef", localReference), ("readOnly", flag),
    ("volumeAttributes", map text)]),
  ("downwardAPI", record [("defaultMode", int32), ("items", fieldFiles)]),
  ("emptyDir", record (each text ["medium", "sizeLimit"])),
  ("ephemeral", record [("volumeClaimTemplate", claimTemplate)]),
  ("flexVolume", record [
    ("driver", text), ("fsType", text), ("options", map text), ("readOnly", flag), ("secretRef", localReference)]),
  ("gitRepo", record (each text ["directory", "repository", "revision"])),
  ("hostPath", record (each text ["path", "type"])),
  ("image", record (each text ["pullPolicy", "reference"])),
  ("persistentVolumeClaim", record [("claimName", text), ("readOnly", flag)]),
  ("projected", record [("defaultMode", int32), ("sources", list projection)]),
  ("secret", record [("defaultMode", int32), ("items", files), ("optional", flag), ("secretName", text)])]

/-- A volume. -/
def volume : Shape := record (("name", text) :: cloudSources ++ networkSources ++ clusterSources)

end ModelServing.Shape
