import ModelServing.Shape.Volume

/-!
# Shapes of pods

`Shape.podTemplate` is what a pod is made from, `Shape.deploymentSpec` what is asked of a workload.
-/

namespace ModelServing.Shape

/-! ### containers -/

/-- An entry of the environment. -/
def environmentEntry : Shape :=
  record [
    ("name", text),
    ("value", text),
    ("valueFrom", record [
      ("configMapKeyRef", record [("key", text), ("name", text), ("optional", flag)]),
      ("fieldRef", fieldSelector),
      ("resourceFieldRef", resourceSelector),
      ("secretKeyRef", record [("key", text), ("name", text), ("optional", flag)])])]

/-- A source of many entries of the environment. -/
def environmentSource : Shape :=
  record [
    ("configMapRef", record [("name", text), ("optional", flag)]),
    ("prefix", text),
    ("secretRef", record [("name", text), ("optional", flag)])]

/-- The ways in which a container is called. -/
def calls : List (String × Shape) := [
  ("exec", record [("command", list text)]),
  ("httpGet", record (each text ["host", "path", "scheme"] ++ [
    ("httpHeaders", list (record (each text ["name", "value"]))), ("port", intOrText)])),
  ("tcpSocket", record [("host", text), ("port", intOrText)])]

/-- What is done when a container starts or ends. -/
def handler : Shape := record (calls ++ [("sleep", record [("seconds", int64)])])

/-- A probe of a container. -/
def probe : Shape :=
  record (calls ++ each int32
    ["failureThreshold", "initialDelaySeconds", "periodSeconds", "successThreshold", "timeoutSeconds"] ++ [
    ("grpc", record [("port", int32), ("service", text)]),
    ("terminationGracePeriodSeconds", int64)])

/-- What resources are asked for. -/
def resources : Shape :=
  record (("claims", list (record (each text ["name", "request"]))) :: each quantities ["limits", "requests"])

/-! ### security -/

/-- A profile of rules for what a process may do. -/
def profile : Shape := record (each text ["localhostProfile", "type"])

/-- The fields that pods and containers share. -/
def security : List (String × Shape) := [
  ("appArmorProfile", profile),
  ("runAsGroup", int64),
  ("runAsNonRoot", flag),
  ("runAsUser", int64),
  ("seLinuxOptions", record (each text ["level", "role", "type", "user"])),
  ("seccompProfile", profile),
  ("windowsOptions",
    record (each text ["gmsaCredentialSpec", "gmsaCredentialSpecName", "runAsUserName"] ++ [("hostProcess", flag)]))]

/-- The security of a container. -/
def containerSecurity : Shape :=
  record (security ++ each flag ["allowPrivilegeEscalation", "privileged", "readOnlyRootFilesystem"] ++ [
    ("capabilities", record (each (list text) ["add", "drop"])),
    ("procMount", text)])

/-- The security of a pod. -/
def podSecurity : Shape :=
  record (security ++ each text ["fsGroupChangePolicy", "seLinuxChangePolicy", "supplementalGroupsPolicy"] ++ [
    ("fsGroup", int64),
    ("supplementalGroups", list int64),
    ("sysctls", list (record (each text ["name", "value"])))])

/-- The fields of a container. -/
def containerFields : List (String × Shape) :=
  each text ["image", "imagePullPolicy", "name", "restartPolicy", "terminationMessagePath", "terminationMessagePolicy",
    "workingDir"] ++
  each flag ["stdin", "stdinOnce", "tty"] ++
  each (list text) ["args", "command"] ++
  each probe ["livenessProbe", "readinessProbe", "startupProbe"] ++ [
  ("env", list environmentEntry),
  ("envFrom", list environmentSource),
  ("lifecycle", record (each handler ["postStart", "preStop"])),
  ("ports", list (record (each text ["hostIP", "name", "protocol"] ++ each int32 ["containerPort", "hostPort"]))),
  ("resizePolicy", list (record (each text ["resourceName", "restartPolicy"]))),
  ("resources", resources),
  ("securityContext", containerSecurity),
  ("volumeDevices", list (record (each text ["devicePath", "name"]))),
  ("volumeMounts", list (record (("readOnly", flag) ::
    each text ["mountPath", "mountPropagation", "name", "recursiveReadOnly", "subPath", "subPathExpr"])))]

/-- A container. -/
def container : Shape := record containerFields

/-- A container that is put into a running pod. -/
def ephemeralContainer : Shape := record (("targetContainerName", text) :: containerFields)

/-! ### placement -/

/-- Nodes that are chosen by their labels and fields. -/
def nodeTerm : Shape :=
  record (each (list (record [("key", text), ("operator", text), ("values", list text)]))
    ["matchExpressions", "matchFields"])

/-- Pods that are near, or not. -/
def podTerm : Shape :=
  record (("topologyKey", text) :: each labelSelector ["labelSelector", "namespaceSelector"] ++
    each (list text) ["matchLabelKeys", "mismatchLabelKeys", "namespaces"])

/-- Which pods to be near to, or not. -/
def podAffinity : Shape :=
  record [
    ("preferredDuringSchedulingIgnoredDuringExecution",
      list (record [("podAffinityTerm", podTerm), ("weight", int32)])),
    ("requiredDuringSchedulingIgnoredDuringExecution", list podTerm)]

/-- Where a pod would rather run. -/
def affinity : Shape :=
  record (each podAffinity ["podAffinity", "podAntiAffinity"] ++ [
    ("nodeAffinity", record [
      ("preferredDuringSchedulingIgnoredDuringExecution",
        list (record [("preference", nodeTerm), ("weight", int32)])),
      ("requiredDuringSchedulingIgnoredDuringExecution", record [("nodeSelectorTerms", list nodeTerm)])])])

/-- What a pod puts up with. -/
def toleration : Shape := record (("tolerationSeconds", int64) :: each text ["effect", "key", "operator", "value"])

/-- How evenly pods are spread. -/
def spread : Shape :=
  record (each text ["nodeAffinityPolicy", "nodeTaintsPolicy", "topologyKey", "whenUnsatisfiable"] ++
    each int32 ["maxSkew", "minDomains"] ++ [("labelSelector", labelSelector), ("matchLabelKeys", list text)])

/-! ### pods -/

/-- The settings of name resolution. -/
def names : Shape :=
  record (("options", list (record (each text ["name", "value"]))) :: each (list text) ["nameservers", "searches"])

/-- What is asked of a pod. -/
def podSpec : Shape :=
  record (
    each text ["dnsPolicy", "hostname", "nodeName", "preemptionPolicy", "priorityClassName", "restartPolicy",
      "runtimeClassName", "schedulerName", "serviceAccount", "serviceAccountName", "subdomain"] ++
    each flag ["automountServiceAccountToken", "enableServiceLinks", "hostIPC", "hostNetwork", "hostPID", "hostUsers",
      "setHostnameAsFQDN", "shareProcessNamespace"] ++
    each int64 ["activeDeadlineSeconds", "terminationGracePeriodSeconds"] ++
    each (list container) ["containers", "initContainers"] ++ [
    ("affinity", affinity),
    ("dnsConfig", names),
    ("ephemeralContainers", list ephemeralContainer),
    ("hostAliases", list (record [("hostnames", list text), ("ip", text)])),
    ("imagePullSecrets", list localReference),
    ("nodeSelector", map text),
    ("os", record [("name", text)]),
    ("overhead", quantities),
    ("priority", int32),
    ("readinessGates", list (record [("conditionType", text)])),
    ("resourceClaims", list (record (each text ["name", "resourceClaimName", "resourceClaimTemplateName"]))),
    ("resources", resources),
    ("schedulingGates", list (record [("name", text)])),
    ("securityContext", podSecurity),
    ("tolerations", list toleration),
    ("topologySpreadConstraints", list spread),
    ("volumes", list volume)])

/-- What a pod is made from. -/
def podTemplate : Shape := record [("metadata", metadata), ("spec", podSpec)]

/-- What is asked of a workload. -/
def deploymentSpec : Shape :=
  record (each int32 ["minReadySeconds", "progressDeadlineSeconds", "replicas", "revisionHistoryLimit"] ++ [
    ("paused", flag),
    ("selector", labelSelector),
    ("strategy", record [
      ("rollingUpdate", record (each intOrText ["maxSurge", "maxUnavailable"])), ("type", text)]),
    ("template", podTemplate)])

end ModelServing.Shape
