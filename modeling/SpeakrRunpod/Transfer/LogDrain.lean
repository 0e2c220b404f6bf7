import SpeakrRunpod.Adapter.Runpod
import SpeakrRunpod.Core.Interpose
import SpeakrRunpod.Core.JsonWriter
import SpeakrRunpod.Transfer.LogTail

/-!
# The drain of the log files

`drain_cloud_pod_logs` with what it sends and emits: a GET to the wrapper, whose answer is a document
that is read back, and a record for each line.  Before a pod is terminated its logs are drained; the
command `cli_drain` drains those of the pod on record.

* `fetchBundle`, `drainBundle` — what becomes of the operation that `drainCloudPodLogs` asks for.
* `carryOut` — the adapter's coroutines with that operation carried out.
* `cliDrain` — the `_run` of the command.
* `DrainWorld`, `DrainWorld.Answers` — the wrapper that is asked, and what has been emitted.
* `cli_drain_emits`, `release_drains_first` — the two callers.
-/

namespace SpeakrRunpod

open Coop
open Codec (encodeUtf8)

/-! ## What the adapter sends and emits -/

/-- The GET of `_fetch_bundle`. -/
structure BundleRequest where
  url : String
  authorization : String
  timeoutSeconds : ℤ

/-- The answer, with the texts of what `raise_for_status()` and `json()` raise. -/
structure BundleAnswer where
  status : ℕ
  body : Bytes
  statusText : String
  jsonText : String

inductive DrainOp
  | get (request : BundleRequest)
  /-- `capture_logger.info` -/
  | emit (message : String)

def DrainOp.Res : DrainOp → Type
  | .get _ => Except Exn BundleAnswer
  | .emit _ => Unit

abbrev drainInterface : Interface := ⟨DrainOp, DrainOp.Res⟩

abbrev Drain (α : Type) := Async drainInterface Exn α

namespace Drain

def get (request : BundleRequest) : Drain BundleAnswer :=
  ExceptT.mk (Prog.call (I := drainInterface) (.get request))

def emit (message : String) : Drain Unit := Async.call (I := drainInterface) (.emit message)

end Drain

def wrapperPodLogsPath : String := "/internal/pod-logs"

/-- `s.rstrip("/")`. -/
def rstripSlash (s : String) : String := String.ofList (s.toList.rdropWhile (· = '/'))

/-- What `response.json()` raises. -/
def jsonExn (text : String) : Json.LoadError → Exn
  | .invalid => .valueError text
  | .recursion container => .recursionError
      s!"maximum recursion depth exceeded while decoding a JSON {container} from a unicode string"

/-- What `_fetch_bundle` makes of an answer. -/
def readBundle (nested : ℕ) (response : BundleAnswer) : Except Exn (List (String × Json)) :=
  if ¬ (200 ≤ response.status ∧ response.status ≤ 299) then
    .error (.httpStatusError response.statusText)
  else
    match Json.loads nested response.body with
    | .error e => .error (jsonExn response.jsonText e)
    | .ok data =>
        match data.asObj? with
        | none => .error (.valueError "wrapper pod-logs response is not a JSON object")
        | some bundle => .ok bundle

/-- `_fetch_bundle`, where the stack has room for `nested` containers inside the document. -/
def fetchBundle (nested : ℕ) (baseUrl token : String) (timeoutSeconds : ℤ) :
    Drain (List (String × Json)) := do
  let response ← Drain.get
    ⟨rstripSlash baseUrl ++ wrapperPodLogsPath, "Bearer " ++ token, timeoutSeconds⟩
  Async.ofExcept (readBundle nested response)

/-- A record for each message. -/
def emitAll : List String → Drain Unit
  | [] => pure ()
  | message :: messages => do
      Drain.emit message
      emitAll messages

section Carrying

variable (cfg : AdapterConfig) (nested : ℕ) (timeoutSeconds : ℤ) (podId : String)

/-- The part of `drain_cloud_pod_logs` that talks to the wrapper. -/
def drainBundle (baseUrl : String) : Drain Unit := do
  let bundle ← fetchBundle nested baseUrl cfg.adapterWhisperxToken timeoutSeconds
  emitAll (emitCaptureLines podId (linesFromBundle bundle) none)

/-- What the adapter asks for, once its drain is carried out. -/
abbrev drainingInterface : Interface := adapterInterface.sum drainInterface

/-- Every operation is passed on, but for the one that the drain stands for. -/
def carried : (o : Op) → Prog drainingInterface (Op.Res o)
  | .podLogs url => Prog.inr (drainBundle cfg nested timeoutSeconds podId url).run
  | o => .op (.inl o) .ret

/-- A coroutine of the adapter, with the drain of this pod carried out. -/
def carryOut {α : Type} (x : Adapter α) : Async drainingInterface Exn α :=
  ExceptT.mk (x.run.handle (carried cfg nested timeoutSeconds podId))

end Carrying

/-! ## What the wrapper answers -/

/-- The text of one file, as the wrapper hands it over. -/
def LogEntry.tail (maxBytes : ℕ) : LogEntry → String
  | .absent | .unreadable => ""
  | .file content => tailUtf8Text content maxBytes

/-- `files_out`. -/
def podLogFiles (wcfg : WrapperConfig) (logs : String → LogEntry) : List LogFile :=
  allowedLogBasenames.map fun name => ⟨name, (logs name).tail wcfg.wrapperPodLogsMaxBytes⟩

/-- The document that `internal_pod_logs` returns. -/
def podLogsDoc (files : List LogFile) : Json.Doc :=
  .obj [("files", .arr (files.map fun file =>
    .obj [("name", .str file.name), ("content", .str file.content)]))]

/-- An answer of the wrapper, in this state of its log files. -/
def ServesLogs (wcfg : WrapperConfig) (logs : String → LogEntry) (request : BundleRequest)
    (answer : BundleAnswer) : Prop :=
  match internalPodLogs wcfg (some request.authorization) logs with
  | .ok files => answer.status = 200 ∧ answer.body = encodeUtf8 (podLogsDoc files).dump
  | .error e => answer.status = e.statusCode

/-- The records of the lines that the wrapper has to hand over, file by file. -/
def logRecords (wcfg : WrapperConfig) (podId : String) (logs : String → LogEntry) : List String :=
  allowedLogBasenames.flatMap fun name =>
    (PyText.splitlines ((logs name).tail wcfg.wrapperPodLogsMaxBytes)).map fun line =>
      capturePrefix podId name ++ capLine (emitLimit none) line

/-- What happens to a drain from outside, and what comes of it. -/
structure DrainWorld where
  /-- the pod on record -/
  record : String
  /-- the requests for log files, oldest first -/
  asked : List BundleRequest
  /-- the states of the log files in which the wrapper answered -/
  served : List (String → LogEntry)
  emitted : List String
  /-- the pods whose termination was asked for, with what had been emitted by then -/
  terminations : List (String × List String)

/-- What becomes of the world with an operation of the adapter. -/
def DrainWorld.Adapts (w : DrainWorld) : Prog.Exchange adapterInterface → DrainWorld → Prop
  | ⟨.load, r⟩, w' => (∀ podId, r = .ok podId → podId = w.record) ∧ w' = w
  | ⟨.graphql (.podTerminate podId), _⟩, w' =>
      w' = { w with terminations := w.terminations ++ [(podId, w.emitted)] }
  | _, w' => w' = w

/-- A request fails, or something on the way answers that it has, or the wrapper answers one that is
for its log files. -/
def DrainWorld.Drains (wcfg : WrapperConfig) (w : DrainWorld) :
    Prog.Exchange drainInterface → DrainWorld → Prop
  | ⟨.get request, r⟩, w' => match r with
      | .error _ => w' = { w with asked := w.asked ++ [request] }
      | .ok answer =>
          (¬ (200 ≤ answer.status ∧ answer.status ≤ 299) ∧
            w' = { w with asked := w.asked ++ [request] }) ∨
          ∃ baseUrl logs, request.url = baseUrl ++ wrapperPodLogsPath ∧
            ServesLogs wcfg logs request answer ∧
              w' = { w with asked := w.asked ++ [request], served := w.served ++ [logs] }
  | ⟨.emit message, _⟩, w' => w' = { w with emitted := w.emitted ++ [message] }

/-- The environment of the two programs. -/
def DrainWorld.Answers (wcfg : WrapperConfig) (w : DrainWorld) :
    Prog.Exchange drainingInterface → DrainWorld → Prop
  | ⟨.inl o, r⟩, w' => w.Adapts ⟨o, r⟩ w'
  | ⟨.inr o, r⟩, w' => w.Drains wcfg ⟨o, r⟩ w'

/-! ## The two sides together -/

lemma rstripSlash_append {s t : String} (ht : t ≠ "") (hlast : ∀ c ∈ t.toList, c ≠ '/') :
    rstripSlash (s ++ t) = s ++ t := by
  have hne : t.toList ≠ [] := by
    rwa [ne_eq, String.toList_eq_nil_iff]
  obtain ⟨front, c, hfront⟩ := (List.eq_nil_or_concat' t.toList).resolve_left hne
  rw [rstripSlash, String.toList_append, hfront, ← List.append_assoc, List.rdropWhile_concat_neg,
    List.append_assoc, ← hfront, ← String.toList_append, String.ofList_toList]
  rw [decide_eq_true_eq]
  exact hlast c (by rw [hfront]; simp)

lemma natRepr_noSlash (n : ℕ) : n.repr ≠ "" ∧ ∀ c ∈ n.repr.toList, c ≠ '/' := by
  rw [ne_eq, ← String.toList_eq_nil_iff, Nat.toList_repr]
  refine ⟨Nat.toDigits_ne_nil, ?_⟩
  rintro c hc rfl
  exact absurd (Nat.isDigit_of_mem_toDigits (by decide) (by decide) hc) (by decide)

/-- The port that is printed is not empty, and there is no `/` in it. -/
lemma PyInt.text_noSlash (n : PyInt) : n.text ≠ "" ∧ ∀ c ∈ n.text.toList, c ≠ '/' := by
  cases n with
  | bool b =>
      cases b with
      | true => simp [PyInt.text]
      | false => simp [PyInt.text]
  | int n =>
      cases n with
      | ofNat n => exact natRepr_noSlash n
      | negSucc n =>
          have htext : (PyInt.int (.negSucc n)).text.toList = '-' :: (n + 1).repr.toList := by
            show ("-" ++ (n + 1).repr).toList = _
            rw [String.toList_append]
            rfl
          rw [ne_eq, ← String.toList_eq_nil_iff, htext]
          refine ⟨List.cons_ne_nil _ _, fun c hc => ?_⟩
          rcases List.mem_cons.mp hc with rfl | hc
          · decide
          · exact (natRepr_noSlash (n + 1)).2 c hc

/-- The base URL of a pod has no `/` to be stripped. -/
lemma rstripSlash_mappingUrl (mapping : String × PyInt) :
    rstripSlash (mappingUrl mapping) = mappingUrl mapping := by
  obtain ⟨hne, hslash⟩ := mapping.2.text_noSlash
  exact rstripSlash_append hne hslash

lemma podLogsDoc_toJson (files : List LogFile) :
    (podLogsDoc files).toJson = .obj (podLogsBundle files) := by
  rw [podLogsDoc, podLogsBundle, Json.Doc.toJson, Json.Doc.toFields, Json.Doc.toFields,
    Json.Doc.toJson, Json.Doc.toJsons_eq, List.map_map]
  rfl

/-- The document nests three deep. -/
lemma podLogsDoc_fits (files : List LogFile) (nested : ℕ) :
    Json.Fits (nested + 3) (podLogsDoc files) := by
  refine .obj _ _ (by simp) ?_
  rintro _ (_ | ⟨_, ⟨⟩⟩)
  refine .arr _ _ fun d hd => ?_
  obtain ⟨file, -, rfl⟩ := List.mem_map.mp hd
  refine .obj _ _ (by simp) ?_
  rintro f hf
  rcases List.mem_cons.mp hf with rfl | hf
  · exact .str _ _
  · obtain rfl := List.mem_singleton.mp hf
    exact .str _ _

lemma readBundle_podLogs {nested : ℕ} (hnested : 2 ≤ nested) {answer : BundleAnswer}
    {files : List LogFile} (hstatus : answer.status = 200)
    (hbody : answer.body = encodeUtf8 (podLogsDoc files).dump) :
    readBundle nested answer = .ok (podLogsBundle files) := by
  obtain ⟨k, rfl⟩ := Nat.exists_eq_add_of_le' hnested
  have hloads : Json.loads (k + 2) answer.body = .ok (podLogsDoc files).toJson := by
    rw [hbody]
    exact Json.loads_dump (podLogsDoc_fits files k)
  rw [readBundle, if_neg (by rw [hstatus]; decide), hloads, podLogsDoc_toJson]
  rfl

lemma internalPodLogs_authorized {wcfg : WrapperConfig} {authorization : Option String}
    (h : authorized wcfg.adapterWhisperxToken authorization = .ok true)
    (logs : String → LogEntry) :
    internalPodLogs wcfg authorization logs = .ok (podLogFiles wcfg logs) := by
  rw [internalPodLogs, h, podLogFiles]
  refine congrArg Except.ok (List.map_congr_left fun name _ => ?_)
  cases logs name <;> rfl

/-- What is emitted of a bundle. -/
lemma emitCaptureLines_podLogs (wcfg : WrapperConfig) (podId : String) (logs : String → LogEntry) :
    emitCaptureLines podId (linesFromBundle (podLogsBundle (podLogFiles wcfg logs))) none =
      logRecords wcfg podId logs := by
  rw [linesFromBundle_podLogsBundle, emitCaptureLines, List.map_flatMap, podLogFiles,
    List.flatMap_map, logRecords]
  refine List.flatMap_congr fun name _ => ?_
  rw [List.map_map]
  rfl

/-! ## One drain -/

namespace DrainWorld

/-- A drain that is served: the records of what the wrapper handed over have been emitted. -/
def drained (w : DrainWorld) (wcfg : WrapperConfig) (podId : String) (request : BundleRequest)
    (logs : String → LogEntry) : DrainWorld :=
  { w with
    asked := w.asked ++ [request]
    served := w.served ++ [logs]
    emitted := w.emitted ++ logRecords wcfg podId logs }

/-- A drain that fails. -/
def missed (w : DrainWorld) (request : BundleRequest) : DrainWorld :=
  { w with asked := w.asked ++ [request] }

/-- What becomes of the world with a drain that is carried out. -/
def Settles (wcfg : WrapperConfig) (podId : String) (request : BundleRequest) (w : DrainWorld) :
    Except Exn Unit → DrainWorld → Prop
  | .ok (), w' => ∃ logs, w' = w.drained wcfg podId request logs
  | .error _, w' => w' = w.missed request

/-- The environment of the adapter alone. -/
def Carries (wcfg : WrapperConfig) (podId : String) (request : String → BundleRequest)
    (w : DrainWorld) : Prog.Exchange adapterInterface → DrainWorld → Prop
  | ⟨.podLogs url, r⟩, w' => w.Settles wcfg podId (request url) r w'
  | x, w' => w.Adapts x w'

end DrainWorld

section Drain

variable {wcfg : WrapperConfig} {cfg : AdapterConfig} {nested : ℕ} {timeoutSeconds : ℤ}
  {podId : String}

/-- The request for the log files behind a base URL. -/
def bundleRequest (cfg : AdapterConfig) (timeoutSeconds : ℤ) (baseUrl : String) : BundleRequest :=
  ⟨rstripSlash baseUrl ++ wrapperPodLogsPath, "Bearer " ++ cfg.adapterWhisperxToken, timeoutSeconds⟩

lemma ensures_emitAll (messages : List String) : ∀ w : DrainWorld,
    Async.Ensures (DrainWorld.Drains wcfg) (emitAll messages)
      (fun r w' => r = .ok () ∧ w' = { w with emitted := w.emitted ++ messages }) w := by
  induction messages with
  | nil =>
      intro w
      exact Async.ensures_pure ⟨rfl, by rw [List.append_nil]⟩
  | cons message messages ih =>
      intro w
      refine Async.ensures_bind (Async.ensures_call ?_)
      rintro ⟨⟩ _ rfl
      have hrest := ih { w with emitted := w.emitted ++ [message] }
      simpa using hrest

/-- **The drain is served or fails**: nothing is emitted of an answer that is not taken. -/
lemma ensures_drainBundle (hnested : 2 ≤ nested)
    (htoken : authorized wcfg.adapterWhisperxToken
      (some ("Bearer " ++ cfg.adapterWhisperxToken)) = .ok true) (url : String) (w : DrainWorld) :
    Async.Ensures (DrainWorld.Drains wcfg) (drainBundle cfg nested timeoutSeconds podId url)
      (w.Settles wcfg podId (bundleRequest cfg timeoutSeconds url)) w := by
  refine Async.ensures_bind (Async.ensures_bind ?_)
  rintro (e | answer) w' hanswer
  · exact hanswer
  · refine Async.ensures_ofExcept ?_
    obtain ⟨hstatus, rfl⟩ | ⟨_, logs, -, hserved, rfl⟩ := hanswer
    · rw [readBundle, if_pos hstatus]
      rfl
    rw [ServesLogs, internalPodLogs_authorized htoken] at hserved
    rw [readBundle_podLogs hnested hserved.1 hserved.2]
    refine (ensures_emitAll _ _).mono ?_
    rintro _ _ ⟨rfl, rfl⟩
    exact ⟨logs, by rw [emitCaptureLines_podLogs]; rfl⟩

/-- Every operation is carried out as the adapter is promised. -/
lemma ensures_carried (hnested : 2 ≤ nested)
    (htoken : authorized wcfg.adapterWhisperxToken
      (some ("Bearer " ++ cfg.adapterWhisperxToken)) = .ok true) (o : Op) (w : DrainWorld) :
    (carried cfg nested timeoutSeconds podId o).Ensures (DrainWorld.Answers wcfg)
      (fun r w' => w.Carries wcfg podId (bundleRequest cfg timeoutSeconds) ⟨o, r⟩ w') w := by
  cases o
  case podLogs url => exact Prog.ensures_inr (ensures_drainBundle hnested htoken url w)
  all_goals exact fun _ _ hx => hx

/-- The request for the log files behind the address of a pod. -/
def podLogsRequest (cfg : AdapterConfig) (timeoutSeconds : ℤ) (mapping : String × PyInt) :
    BundleRequest :=
  ⟨mappingUrl mapping ++ wrapperPodLogsPath, "Bearer " ++ cfg.adapterWhisperxToken, timeoutSeconds⟩

lemma bundleRequest_mappingUrl (mapping : String × PyInt) :
    bundleRequest cfg timeoutSeconds (mappingUrl mapping) =
      podLogsRequest cfg timeoutSeconds mapping := by
  rw [bundleRequest, rstripSlash_mappingUrl, podLogsRequest]

/-- A drain that has emitted what the wrapper handed over. -/
def DrainWorld.Emitted (wcfg : WrapperConfig) (cfg : AdapterConfig) (timeoutSeconds : ℤ)
    (podId : String) (w w' : DrainWorld) : Prop :=
  ∃ mapping logs, w' = w.drained wcfg podId (podLogsRequest cfg timeoutSeconds mapping) logs

/-- A drain that has emitted nothing, and was not answered. -/
def DrainWorld.Skipped (cfg : AdapterConfig) (timeoutSeconds : ℤ) (w w' : DrainWorld) : Prop :=
  w' = w ∨ ∃ mapping, w' = w.missed (podLogsRequest cfg timeoutSeconds mapping)

section Adapter

variable {post : Except Exn Pod → DrainWorld → Prop} {w : DrainWorld}
  {request : String → BundleRequest}

/-- The query for the pod changes nothing. -/
lemma ensures_getPod (hpost : ∀ r, post r w) :
    Async.Ensures (DrainWorld.Carries wcfg podId request) (getPod cfg podId) post w := by
  refine Async.ensures_bind (Async.ensures_bind ?_)
  rw [requireApiKey]
  split_ifs
  · exact hpost _
  · rintro (e | answer) _ rfl
    · exact hpost _
    · refine Async.ensures_ofExcept ?_
      cases graphqlResult (GraphqlCall.pod podId).dataKey answer with
      | error e => exact hpost _
      | ok payload => exact Async.ensures_ofExcept (hpost _)

end Adapter

/-- **One drain**: it says that it has succeeded where the lines have been emitted, and only there. -/
lemma ensures_drainCloudPodLogs (w : DrainWorld) :
    Async.Ensures (DrainWorld.Carries wcfg podId (bundleRequest cfg timeoutSeconds))
      (drainCloudPodLogs cfg podId)
      (fun r w' => r = .ok true ∧ w.Emitted wcfg cfg timeoutSeconds podId w' ∨
        r ≠ .ok true ∧ w.Skipped cfg timeoutSeconds w') w := by
  rw [drainCloudPodLogs]
  split_ifs
  · exact .inr ⟨nofun, .inl rfl⟩
  · refine Async.ensures_bind (Async.ensures_attempt (ensures_getPod ?_))
    rintro (e | pod)
    · show Async.Ensures _ (if e.isException then _ else _) _ _
      split_ifs
      · exact .inr ⟨nofun, .inl rfl⟩
      · exact .inr ⟨nofun, .inl rfl⟩
    · refine Async.ensures_bind (Async.ensures_ofExcept ?_)
      rcases extractTcpMapping pod cfg.runpodWrapperPort with e | _ | mapping
      · exact .inr ⟨nofun, .inl rfl⟩
      · exact .inr ⟨nofun, .inl rfl⟩
      · refine Async.ensures_bind (Async.ensures_attempt ?_)
        rintro (e | ⟨⟨⟩⟩) w' hw'
        · have hmissed : w' = w.missed (bundleRequest cfg timeoutSeconds (mappingUrl mapping)) := hw'
          rw [bundleRequest_mappingUrl] at hmissed
          show Async.Ensures _ (if e.isException then _ else _) _ _
          split_ifs
          · exact .inr ⟨nofun, .inr ⟨mapping, hmissed⟩⟩
          · exact .inr ⟨nofun, .inr ⟨mapping, hmissed⟩⟩
        · obtain ⟨logs, rfl⟩ := hw'
          exact .inl ⟨rfl, mapping, logs, by rw [bundleRequest_mappingUrl]⟩

/-- What is ensured of a coroutine is ensured where its drain is carried out. -/
lemma ensures_carryOut (hnested : 2 ≤ nested)
    (htoken : authorized wcfg.adapterWhisperxToken
      (some ("Bearer " ++ cfg.adapterWhisperxToken)) = .ok true) {α : Type} {x : Adapter α}
    {post : Except Exn α → DrainWorld → Prop} {w : DrainWorld}
    (h : Async.Ensures (DrainWorld.Carries wcfg podId (bundleRequest cfg timeoutSeconds)) x post w) :
    Async.Ensures (DrainWorld.Answers wcfg) (carryOut cfg nested timeoutSeconds podId x) post w :=
  Prog.ensures_handle (fun o w => ensures_carried hnested htoken o w) h

end Drain

/-! ## The two callers -/

section Callers

variable {wcfg : WrapperConfig} {cfg : AdapterConfig} {nested : ℕ} {timeoutSeconds : ℤ}
  {podId : String} {w w' : DrainWorld} {tr : List (Prog.Exchange drainingInterface)}

section Served

/-- The exchanges of a drain that is served. -/
def servedExchanges (request : BundleRequest) (answer : BundleAnswer) (messages : List String) :
    List (Prog.Exchange drainInterface) :=
  ⟨.get request, .ok answer⟩ :: messages.map fun message => ⟨.emit message, ()⟩

lemma runs_emitAll (messages : List String) :
    (emitAll messages).run.Runs (messages.map fun message => ⟨.emit message, ()⟩) (.ok ()) := by
  induction messages with
  | nil => exact .ret _
  | cons message messages ih => exact .op (I := drainInterface) (o := .emit message) () ih

/-- A drain that is served is carried through. -/
lemma runs_drainBundle (hnested : 2 ≤ nested) {answer : BundleAnswer} (logs : String → LogEntry)
    (hstatus : answer.status = 200)
    (hbody : answer.body = encodeUtf8 (podLogsDoc (podLogFiles wcfg logs)).dump) (url : String) :
    (drainBundle cfg nested timeoutSeconds podId url).run.Runs
      (servedExchanges (bundleRequest cfg timeoutSeconds url) answer (logRecords wcfg podId logs))
      (.ok ()) := by
  have hfetch : (fetchBundle nested url cfg.adapterWhisperxToken timeoutSeconds).run.Runs
      [⟨.get (bundleRequest cfg timeoutSeconds url), .ok answer⟩]
      (.ok (podLogsBundle (podLogFiles wcfg logs))) := by
    refine .op (I := drainInterface) (o := .get _) (.ok answer) ?_
    show (Async.ofExcept (readBundle nested answer) : Drain _).run.Runs [] _
    rw [readBundle_podLogs hnested hstatus hbody]
    exact .ret _
  refine Async.runs_bind_ok hfetch ?_
  rw [emitCaptureLines_podLogs]
  exact runs_emitAll _

lemma transcript_emits (messages : List String) : ∀ w : DrainWorld,
    Prog.Transcript (DrainWorld.Answers wcfg) w
      (messages.map fun message => (⟨.inr (.emit message), ()⟩ : Prog.Exchange drainingInterface))
      { w with emitted := w.emitted ++ messages } := by
  induction messages with
  | nil =>
      intro w
      rw [List.append_nil]
      exact .nil w
  | cons message messages ih =>
      intro w
      have hrest := ih { w with emitted := w.emitted ++ [message] }
      rw [List.append_assoc] at hrest
      exact .cons rfl hrest

end Served

end Callers

namespace DrainedOnce

/-- One file of the wrapper has a line in it. -/
def logs : String → LogEntry := fun name =>
  if name = "wrapper-stdout.log" then .file (encodeUtf8 "ready\n".toList) else .absent

def wrapper : WrapperConfig := ⟨"token", 100⟩

def pod : Json :=
  .obj [("id", .str "old"), ("runtime", .obj [("ports", .arr [.obj [("ip", .str "10.0.0.1"),
    ("isIpPublic", .bool true), ("privatePort", .int 9000), ("publicPort", .int 40000),
    ("type", .str "tcp")]])])]

def podAnswer : Except Exn HttpAnswer :=
  .ok ⟨200, "", .ok (.obj [("data", .obj [("pod", pod)])]), ""⟩

def url : String := "http://10.0.0.1:40000"

def request : BundleRequest := bundleRequest .template 10 url

def answer : BundleAnswer :=
  ⟨200, encodeUtf8 (podLogsDoc (podLogFiles wrapper logs)).dump, "", ""⟩

/-- The pod `old` is on record. -/
def world : DrainWorld := ⟨"old", [], [], [], []⟩

/-- What becomes of it. -/
def world' : DrainWorld := world.drained wrapper "old" request logs

/-- What the drain asks for and is answered. -/
def drain : List (Prog.Exchange drainingInterface) :=
  ⟨.inl (.graphql (.pod "old")), podAnswer⟩ ::
    (servedExchanges request answer (logRecords wrapper "old" logs)).map asRight

/-- What the command asks for and is answered. -/
def exchanges : List (Prog.Exchange drainingInterface) :=
  ⟨.inl .load, (.ok "old" : Except Exn String)⟩ :: drain

/-- The drain is carried out, and what else is asked for is. -/
lemma carried_drain {tr : List (Prog.Exchange adapterInterface)}
    {rest : List (Prog.Exchange drainingInterface)}
    (hrest : Prog.Carried (carried .template 2 10 "old") tr rest) :
    Prog.Carried (carried .template 2 10 "old")
      (⟨Op.graphql (.pod "old"), podAnswer⟩ :: ⟨Op.podLogs url, (.ok () : Except Exn Unit)⟩ :: tr)
      (drain ++ rest) := by
  have hbundle : (drainBundle .template 2 10 "old" url).run.Runs
      (servedExchanges request answer (logRecords wrapper "old" logs)) (.ok ()) :=
    runs_drainBundle (le_refl 2) logs rfl rfl url
  have hpod : (carried .template 2 10 "old" (.graphql (.pod "old"))).Runs
      [⟨.inl (.graphql (.pod "old")), podAnswer⟩] podAnswer :=
    .op (I := drainingInterface) (o := .inl (.graphql (.pod "old"))) podAnswer (.ret _)
  show Prog.Carried _ _ ([⟨.inl (.graphql (.pod "old")), podAnswer⟩] ++
    ((servedExchanges request answer (logRecords wrapper "old" logs)).map asRight ++ rest))
  exact .cons hpod (.cons hbundle.inr hrest)

lemma transcript_drain : Prog.Transcript (DrainWorld.Answers wrapper) world drain world' := by
  have hserves : ServesLogs wrapper logs request answer := by
    rw [ServesLogs, internalPodLogs_authorized rfl]
    exact ⟨rfl, rfl⟩
  refine .cons rfl (.cons (.inr ⟨_, logs, rfl, hserves, rfl⟩) ?_)
  rw [List.map_map]
  exact transcript_emits _ _

end DrainedOnce

section Callers

variable {wcfg : WrapperConfig} {cfg : AdapterConfig} {nested : ℕ} {timeoutSeconds : ℤ}
  {podId : String} {w w' : DrainWorld} {tr : List (Prog.Exchange drainingInterface)}

/-- The termination of a pod is asked for. -/
def DrainWorld.terminated (w : DrainWorld) (podId : String) : DrainWorld :=
  { w with terminations := w.terminations ++ [(podId, w.emitted)] }

/-- `_terminate` asks for the termination, whatever else becomes of it. -/
lemma ensures_terminate (hkey : cfg.runpodApiKey ≠ "") {request : String → BundleRequest}
    (w : DrainWorld) :
    Async.Ensures (DrainWorld.Carries wcfg podId request) (terminate cfg podId)
      (fun _ w' => w' = w.terminated podId) w := by
  have hquery : Async.Ensures (DrainWorld.Carries wcfg podId request) (terminatePod cfg podId)
      (fun _ w' => w' = w.terminated podId) w := by
    refine Async.ensures_bind (Async.ensures_bind ?_)
    rw [requireApiKey, if_neg hkey]
    rintro (e | answer) _ rfl
    · rfl
    · refine Async.ensures_ofExcept ?_
      cases graphqlResult (GraphqlCall.podTerminate podId).dataKey answer with
      | error e => rfl
      | ok payload => rfl
  have hgone : Async.Ensures (DrainWorld.Carries wcfg podId request) (terminateOrGone cfg podId)
      (fun _ w' => w' = w.terminated podId) w := by
    refine Async.ensures_bind (Async.ensures_attempt (hquery.mono ?_))
    rintro (e | ⟨⟨⟩⟩) _ rfl
    · show Async.Ensures _ (if e.isNotFound then _ else _) _ _
      split_ifs
      · exact Async.ensures_pure rfl
      · exact Async.ensures_throw rfl
    · exact Async.ensures_pure rfl
  refine Async.ensures_tryFinally (hgone.mono ?_)
  rintro r _ rfl ⟨⟩ _ rfl
  rfl

/-- The drain that comes before it is best effort: only a cancellation gets past it. -/
lemma ensures_catchDrain (w : DrainWorld) :
    Async.Ensures (DrainWorld.Carries wcfg podId (bundleRequest cfg timeoutSeconds))
      (catchException (do let _ ← drainCloudPodLogs cfg podId))
      (fun r w' => (r = .ok () ∨ r = .error .cancelledError) ∧
        (w.Emitted wcfg cfg timeoutSeconds podId w' ∨ w.Skipped cfg timeoutSeconds w')) w := by
  refine Async.ensures_bind (Async.ensures_attempt (Async.ensures_bind
    ((ensures_drainCloudPodLogs w).mono ?_)))
  intro r w' hr
  have hw' := hr.imp And.right And.right
  rcases r with e | ok
  · show Async.Ensures _ (if e.isException then _ else _) _ _
    split_ifs with he
    · exact Async.ensures_pure ⟨.inl rfl, hw'⟩
    · cases e
      case cancelledError => exact Async.ensures_throw ⟨.inr rfl, hw'⟩
      all_goals exact absurd rfl he
  · exact Async.ensures_pure ⟨.inl rfl, hw'⟩

/-- **The logs of a pod are drained before its termination is asked for**, and whatever becomes of
the drain, it is asked for; but for a cancellation. -/
theorem release_drains_first (hnested : 2 ≤ nested)
    (htoken : authorized wcfg.adapterWhisperxToken
      (some ("Bearer " ++ cfg.adapterWhisperxToken)) = .ok true)
    (hkey : cfg.runpodApiKey ≠ "") (haction : cfg.idleAction = "terminate") {r : Except Exn Unit}
    (hrun : (carryOut cfg nested timeoutSeconds podId (releasePod cfg podId)).run.Runs tr r)
    (htr : Prog.Transcript (DrainWorld.Answers wcfg) w tr w') :
    ∃ w₁, (w.Emitted wcfg cfg timeoutSeconds podId w₁ ∨ w.Skipped cfg timeoutSeconds w₁) ∧
      (w' = w₁.terminated podId ∨ r = .error .cancelledError ∧ w' = w₁) := by
  have hrelease : Async.Ensures (DrainWorld.Carries wcfg podId (bundleRequest cfg timeoutSeconds))
      (releasePod cfg podId) (fun r w' => ∃ w₁,
        (w.Emitted wcfg cfg timeoutSeconds podId w₁ ∨ w.Skipped cfg timeoutSeconds w₁) ∧
          (w' = w₁.terminated podId ∨ r = .error .cancelledError ∧ w' = w₁)) w := by
    rw [releasePod, if_pos haction]
    refine Async.ensures_bind ((ensures_catchDrain w).mono ?_)
    rintro _ w₁ ⟨rfl | rfl, hw₁⟩
    · exact (ensures_terminate hkey w₁).mono fun _ _ hw' => ⟨w₁, hw₁, .inl hw'⟩
    · exact ⟨w₁, hw₁, .inr ⟨rfl, rfl⟩⟩
  exact (ensures_carryOut hnested htoken hrelease).runs hrun htr

end Callers

namespace DrainedOnce

def terminated : Except Exn HttpAnswer := .ok ⟨200, "", .ok (.obj [("data", .obj [])]), ""⟩

/-- After the drain the pod is terminated, and its id is cleared. -/
def ending : List (Prog.Exchange adapterInterface) :=
  [⟨.graphql (.podTerminate "old"), terminated⟩, ⟨.clear "old", ()⟩]

lemma runs_releasePod : (carryOut .template 2 10 "old" (releasePod .template "old")).run.Runs
    (drain ++ ending.map asLeft) (.ok ()) := by
  have hrelease : (releasePod .template "old").run.Runs (⟨.graphql (.pod "old"), podAnswer⟩ ::
      ⟨Op.podLogs url, (.ok () : Except Exn Unit)⟩ :: ending) (.ok ()) := Prog.runs_of_follow rfl
  have hterminate : (carried .template 2 10 "old" (.graphql (.podTerminate "old"))).Runs
      [⟨.inl (.graphql (.podTerminate "old")), terminated⟩] terminated :=
    .op (I := drainingInterface) (o := .inl (.graphql (.podTerminate "old"))) terminated (.ret _)
  have hclear : (carried .template 2 10 "old" (.clear "old")).Runs [⟨.inl (.clear "old"), ()⟩] () :=
    .op (I := drainingInterface) (o := .inl (.clear "old")) () (.ret _)
  have hending : Prog.Carried (carried .template 2 10 "old") ending
      ([⟨.inl (.graphql (.podTerminate "old")), terminated⟩] ++
        ([⟨.inl (.clear "old"), ()⟩] ++ [])) :=
    .cons hterminate (.cons hclear .nil)
  exact Prog.runs_handle.mpr ⟨_, hrelease, carried_drain hending⟩

lemma transcript_releasePod : Prog.Transcript (DrainWorld.Answers wrapper) world
    (drain ++ ending.map asLeft) (world'.terminated "old") :=
  transcript_drain.append (.cons rfl (.cons rfl (.nil _)))

end DrainedOnce

/-- The line of the wrapper is emitted before the pod is terminated. -/
theorem release_drains_line : ∃ w₁,
    (DrainedOnce.world.Emitted DrainedOnce.wrapper .template 10 "old" w₁ ∨
      DrainedOnce.world.Skipped .template 10 w₁) ∧
      (DrainedOnce.world'.terminated "old" = w₁.terminated "old" ∨
        (.ok () : Except Exn Unit) = .error .cancelledError ∧
          DrainedOnce.world'.terminated "old" = w₁) :=
  release_drains_first (le_refl 2) rfl (by decide) (by decide) DrainedOnce.runs_releasePod
    DrainedOnce.transcript_releasePod

end SpeakrRunpod
