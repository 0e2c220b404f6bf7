import SpeakrRunpod.Adapter.Errors
import SpeakrRunpod.Core.Json
import SpeakrRunpod.Core.Text

/-!
# Reading a pod object

`adapter/pod_mapping.py`: the public address of the wrapper, the signs of progress during warmup,
and the id of a freshly created pod, all searched for in JSON objects whose shape is RunPod's.
-/

namespace SpeakrRunpod

/-- A pod object, as `get_pod` returns it. -/
abbrev Pod := List (String × Json)

/-! ## Every object in a document -/

mutual

/-- Every object in a document, outermost first. -/
def walkDicts : Json → List Pod
  | .obj fields => fields :: walkFields fields
  | .arr items => walkItems items
  | _ => []

def walkItems : List Json → List Pod
  | [] => []
  | v :: rest => walkDicts v ++ walkItems rest

def walkFields : List (String × Json) → List Pod
  | [] => []
  | (_, v) :: rest => walkDicts v ++ walkFields rest

end

/-! ## Port discovery -/

/-- A Python `int`: a boolean is one too, and prints as one. -/
inductive PyInt
  | int (n : ℤ)
  | bool (b : Bool)
  deriving DecidableEq

namespace PyInt

/-- `isinstance(value, int)`. -/
def ofJson : Json → Option PyInt
  | .int n => some (.int n)
  | .bool b => some (.bool b)
  | _ => none

def truthy : PyInt → Bool
  | .int n => n ≠ 0
  | .bool b => b

/-- `str(value)`. -/
def text : PyInt → String
  | .int n => toString n
  | .bool b => if b then "True" else "False"

end PyInt

/-- `int(value)` of a string of digits. -/
def intOfDigits (s : String) : Except Exn PyInt :=
  match PyText.parseInt s with
  | some n => .ok (.int n)
  | none => .error (.valueError s!"invalid literal for int() with base 10: {s}")

/-- The first of the keys whose value is a non-empty string. -/
def firstText (value : Pod) : List String → Option String
  | [] => none
  | key :: keys =>
      match (Json.get value key).asStr? with
      | some s => if s ≠ "" then some s else firstText value keys
      | none => firstText value keys

mutual

/-- `_extract_public_ip`. -/
def extractPublicIp : Json → Option String
  | .obj fields =>
      match firstText fields ["publicIp", "publicIP", "ip", "host"] with
      | some ip => some ip
      | none => runtimeIp fields
  | _ => none

/-- `_extract_public_ip(value.get("runtime"))`, where that is a dictionary. -/
def runtimeIp : List (String × Json) → Option String
  | [] => none
  | (key, v) :: rest => if key = "runtime" then extractPublicIp v else runtimeIp rest

end

/-- `_extract_public_port`. -/
def extractPublicPort (value : Pod) : List String → Except Exn (Option PyInt)
  | [] => .ok none
  | key :: keys =>
      match PyInt.ofJson (Json.get value key), (Json.get value key).asStr? with
      | some n, _ => .ok (some n)
      | none, some s =>
          if PyText.isDigit s then (intOfDigits s).map some else extractPublicPort value keys
      | none, none => extractPublicPort value keys

def publicPortKeys : List String := ["publicPort", "hostPort", "externalPort"]

/-- `_mapping_from_port_mappings`. -/
def mappingFromPortMappings (pod : Pod) (wrapperPort : ℤ) :
    List (String × Json) → Except Exn (Option (String × PyInt))
  | [] => .ok none
  | (key, value) :: rest =>
      if String.ofList (key.toList.takeWhile (· ≠ '/')) ≠ toString wrapperPort then
        mappingFromPortMappings pod wrapperPort rest
      else
        match PyInt.ofJson value, value with
        | some n, _ => .ok ((extractPublicIp (.obj pod)).map fun host => (host, n))
        | none, .str s =>
            if PyText.isDigit s then
              match extractPublicIp (.obj pod) with
              | some host => (intOfDigits s).map fun n => some (host, n)
              | none => .ok none
            else mappingFromPortMappings pod wrapperPort rest
        | none, .obj fields => do
            let port ← extractPublicPort fields publicPortKeys
            let host := (extractPublicIp value).orElse fun _ => extractPublicIp (.obj pod)
            match host, port with
            | some host, some port => .ok (if port.truthy then some (host, port) else none)
            | _, _ => .ok none
        | none, _ => mappingFromPortMappings pod wrapperPort rest

/-- The private port of an entry: the first of the four spellings that is set. -/
def privatePort (item : Pod) : Json :=
  (Json.get item "privatePort").orElse <| (Json.get item "containerPort").orElse <|
    (Json.get item "internalPort").orElse (Json.get item "port")

/-- `port_item.get("isIpPublic") is False`. -/
def isPrivateIp (item : Pod) : Bool :=
  match Json.get item "isIpPublic" with
  | .bool false => true
  | _ => false

/-- `_mapping_from_ports`. -/
def mappingFromPorts (pod : Pod) (wrapperPort : ℤ) :
    List Json → Except Exn (Option (String × PyInt))
  | [] => .ok none
  | .obj item :: rest =>
      if !(privatePort item).printsAs wrapperPort || isPrivateIp item then
        mappingFromPorts pod wrapperPort rest
      else do
        let port ← extractPublicPort item publicPortKeys
        let host := (extractPublicIp (.obj item)).orElse fun _ => extractPublicIp (.obj pod)
        match host, port with
        | some host, some port =>
            if port.truthy then .ok (some (host, port)) else mappingFromPorts pod wrapperPort rest
        | _, _ => mappingFromPorts pod wrapperPort rest
  | _ :: rest => mappingFromPorts pod wrapperPort rest

/-- The loop of `extract_tcp_mapping` over the objects of the pod. -/
def mappingFromItems (pod : Pod) (wrapperPort : ℤ) :
    List Pod → Except Exn (Option (String × PyInt))
  | [] => .ok none
  | item :: rest => do
      let found ← match Json.get item "portMappings" with
        | .obj mapping => mappingFromPortMappings pod wrapperPort mapping
        | _ => .ok none
      match found with
      | some m => .ok (some m)
      | none =>
          let found ← match Json.get item "ports" with
            | .arr ports => mappingFromPorts pod wrapperPort ports
            | _ => .ok none
          match found with
          | some m => .ok (some m)
          | none => mappingFromItems pod wrapperPort rest

def extractTcpMapping (pod : Pod) (wrapperPort : ℤ) : Except Exn (Option (String × PyInt)) :=
  mappingFromItems pod wrapperPort (walkDicts (.obj pod))

/-- `f"http://{mapping[0]}:{mapping[1]}"`. -/
def mappingUrl (mapping : String × PyInt) : String :=
  "http://" ++ mapping.1 ++ ":" ++ mapping.2.text

/-! ## Warmup -/

/-- `startup_progress_fingerprint`: the lifecycle fields whose change counts as progress. -/
def startupProgressFingerprint (pod : Pod) : List Json :=
  let telState := match Json.get pod "latestTelemetry" with
    | .obj telemetry => Json.get telemetry "state"
    | _ => .null
  let podHostId := match Json.get pod "machine" with
    | .obj machine => Json.get machine "podHostId"
    | _ => .null
  let hasRuntime := match Json.get pod "runtime" with
    | .null => false
    | _ => true
  [Json.get pod "desiredStatus", Json.get pod "lastStatusChange", Json.get pod "lastStartedAt",
    Json.get pod "uptimeSeconds", Json.get pod "version", telState, podHostId, .bool hasRuntime]

/-- `value.upper() in {"RUNNING", "STARTING", "PROVISIONING"}`. -/
def isRunningStatus (s : String) : Bool :=
  ["RUNNING", "STARTING", "PROVISIONING"].contains (PyText.upper s)

def podIsExpectedRunning (pod : Pod) : Bool :=
  (walkDicts (.obj pod)).any fun item =>
    ["desiredStatus", "desired_status", "status"].any fun key =>
      match Json.get item key with
      | .str s => isRunningStatus s
      | _ => false

/-! ## The id of a created pod -/

def createdPodIdIn : List Pod → Except Exn String
  | [] => .error (.badUpstreamResponseError "RunPod create pod response did not include a pod ID")
  | item :: rest =>
      match (Json.get item "id").orElse (Json.get item "podId") with
      | .str s => if s ≠ "" then .ok s else createdPodIdIn rest
      | _ => createdPodIdIn rest

def extractCreatedPodId (payload : Json) : Except Exn String := createdPodIdIn (walkDicts payload)

/-- A created pod id is never empty. -/
theorem extractCreatedPodId_ne_empty {payload : Json} {p : String}
    (h : extractCreatedPodId payload = .ok p) : p ≠ "" := by
  rw [extractCreatedPodId] at h
  generalize walkDicts payload = items at h
  induction items with
  | nil => simp [createdPodIdIn] at h
  | cons item rest ih =>
      unfold createdPodIdIn at h
      split at h
      · split_ifs at h with hs
        · cases h
          exact hs
        · exact ih h
      · exact ih h

end SpeakrRunpod
