import Mathlib.Data.Int.Notation
import SpeakrRunpod.Adapter.Errors

/-!
# The adapter's configuration

`adapter/config.py`.  The fields are those the modelled functions read; the integers are Python's,
so a setting may be zero or negative.
-/

namespace SpeakrRunpod

structure AdapterConfig where
  runpodApiKey : String
  runpodPodId : String
  runpodTemplateId : String
  runpodGpuTypeIds : List String
  runpodGpuCount : ℤ
  runpodContainerDiskGb : ℤ
  runpodPodName : String
  runpodNetworkVolumeId : String
  runpodCloudType : String
  runpodSupportPublicIp : Bool
  runpodActivePodIdPath : String
  runpodIdleAction : String
  adapterWhisperxToken : String
  runpodWrapperPort : ℤ
  runpodReadinessTimeoutSeconds : ℤ
  runpodStuckInitTimeoutSeconds : ℤ
  runpodPollIntervalSeconds : ℤ
  runpodRequestTimeoutSeconds : ℤ
  runpodIdleStopSeconds : ℤ
  runpodRetryAfterSeconds : ℤ

namespace AdapterConfig

def templateModeEnabled (cfg : AdapterConfig) : Bool := cfg.runpodTemplateId ≠ ""

def idleAction (cfg : AdapterConfig) : String :=
  if cfg.runpodIdleAction ≠ "" then cfg.runpodIdleAction
  else if cfg.templateModeEnabled then "terminate" else "stop"

/-- `from_env()` in an empty environment. -/
def defaults : AdapterConfig where
  runpodApiKey := ""
  runpodPodId := ""
  runpodTemplateId := ""
  runpodGpuTypeIds := []
  runpodGpuCount := 1
  runpodContainerDiskGb := 0
  runpodPodName := "speakr-whisperx"
  runpodNetworkVolumeId := ""
  runpodCloudType := "SECURE"
  runpodSupportPublicIp := true
  runpodActivePodIdPath := "/tmp/speakr-runpod-active-pod-id"
  runpodIdleAction := ""
  adapterWhisperxToken := ""
  runpodWrapperPort := 9000
  runpodReadinessTimeoutSeconds := 600
  runpodStuckInitTimeoutSeconds := 300
  runpodPollIntervalSeconds := 5
  runpodRequestTimeoutSeconds := 1800
  runpodIdleStopSeconds := 30
  runpodRetryAfterSeconds := 300

/-- A configuration in template mode. -/
def template : AdapterConfig :=
  { defaults with
    runpodApiKey := "key"
    runpodTemplateId := "template"
    runpodGpuTypeIds := ["gpu"]
    adapterWhisperxToken := "token" }

end AdapterConfig

end SpeakrRunpod
