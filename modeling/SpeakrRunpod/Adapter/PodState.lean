import SpeakrRunpod.Adapter.Errors
import SpeakrRunpod.Core.Text

/-!
# The active pod id, in memory and on disk

`adapter/pod_state.py`.  `ActivePodStore` keeps the id of the pod in use in memory and in a file;
the two are separate values here, because the file can be shared by several stores and outlives
all of them.  `load` prefers the memory; `store` and `clear` write both.

The file carries what can go wrong with it: a content that cannot be read, a write that fails and
what it leaves behind, an `unlink` that fails.
-/

namespace SpeakrRunpod

/-- What is found at the path of the state file. -/
inductive FileContent
  | absent
  | text (s : String)
  /-- reading raises: an `OSError` other than `FileNotFoundError`, or a `UnicodeDecodeError` -/
  | unreadable (e : Exn)
  deriving DecidableEq

structure StateFile where
  content : FileContent
  /-- what a failing write leaves behind; `none` while writes succeed -/
  writeFault : Option FileContent
  /-- `unlink` raises an `OSError` -/
  unlinkFault : Bool
  deriving DecidableEq

/-- A state file on which every operation succeeds. -/
structure StateFile.Sound (f : StateFile) : Prop where
  writes : f.writeFault = none
  unlinks : f.unlinkFault = false
  reads : ∀ e, f.content ≠ .unreadable e

/-- `read_text(encoding="utf-8").strip()`, of a file with this text. -/
def readPodId (text : String) : String := PyText.strip (PyText.universalNewlines text)

/-- The file is there and names the pod `p`. -/
def StateFile.Holds (f : StateFile) (p : String) : Prop :=
  ∃ t, f.content = .text t ∧ readPodId t = p

instance (f : StateFile) (p : String) : Decidable (f.Holds p) :=
  match h : f.content with
  | .text t => decidable_of_iff (readPodId t = p) (by simp [StateFile.Holds, h])
  | .absent => isFalse (by simp [StateFile.Holds, h])
  | .unreadable _ => isFalse (by simp [StateFile.Holds, h])

structure ActivePodStore where
  configuredPodId : String
  activePodId : String
  /-- the path of the state file, empty where there is none -/
  path : String
  deriving DecidableEq

namespace ActivePodStore

/-- `ActivePodStore(configured_pod_id, path)`. -/
def new (configuredPodId path : String) : ActivePodStore :=
  { configuredPodId, activePodId := configuredPodId, path }

def load (s : ActivePodStore) (f : StateFile) : Except Exn String :=
  if s.activePodId ≠ "" then .ok s.activePodId
  else if s.path = "" then .ok ""
  else
    match f.content with
    | .absent => .ok ""
    | .text t => .ok (readPodId t)
    | .unreadable e => .error e

/-- `store`, up to the point where `write_text` has opened the file and so emptied it. -/
def openState (s : ActivePodStore) (f : StateFile) (podId : String) :
    ActivePodStore × StateFile :=
  if s.configuredPodId ≠ "" then (s, f)
  else
    ({ s with activePodId := podId },
      if s.path = "" then f else { f with content := f.writeFault.getD (.text "") })

/-- The rest of `store`: the text is written and the file closed. -/
def writeState (s : ActivePodStore) (f : StateFile) (podId : String) : StateFile :=
  if s.configuredPodId ≠ "" ∨ s.path = "" ∨ f.writeFault.isSome then f
  else { f with content := .text podId }

def store (s : ActivePodStore) (f : StateFile) (podId : String) : ActivePodStore × StateFile :=
  ((s.openState f podId).1, s.writeState (s.openState f podId).2 podId)

def clear (s : ActivePodStore) (f : StateFile) (podId : Option String) :
    ActivePodStore × StateFile :=
  if s.configuredPodId ≠ "" then (s, f)
  else if podId.getD "" ≠ "" ∧ s.activePodId ≠ "" ∧ podId.getD "" ≠ s.activePodId then (s, f)
  else
    ({ s with activePodId := "" },
      if s.path = "" ∨ f.unlinkFault then f else { f with content := .absent })

/-! ## What each operation leaves alone -/

section Frame

variable (s : ActivePodStore) (f : StateFile) (p : String) (q : Option String)

@[simp] theorem openState_configuredPodId :
    (s.openState f p).1.configuredPodId = s.configuredPodId := by
  unfold openState
  split <;> rfl

@[simp] theorem openState_path : (s.openState f p).1.path = s.path := by
  unfold openState
  split <;> rfl

@[simp] theorem clear_configuredPodId :
    (s.clear f q).1.configuredPodId = s.configuredPodId := by
  unfold clear
  split_ifs <;> rfl

@[simp] theorem clear_path : (s.clear f q).1.path = s.path := by
  unfold clear
  split_ifs <;> rfl

@[simp] theorem clear_writeFault : (s.clear f q).2.writeFault = f.writeFault := by
  unfold clear
  split_ifs <;> rfl

@[simp] theorem clear_unlinkFault : (s.clear f q).2.unlinkFault = f.unlinkFault := by
  unfold clear
  split_ifs <;> rfl

@[simp] theorem openState_writeFault : (s.openState f p).2.writeFault = f.writeFault := by
  unfold openState
  split_ifs <;> rfl

@[simp] theorem writeState_writeFault : (s.writeState f p).writeFault = f.writeFault := by
  unfold writeState
  split_ifs <;> rfl

@[simp] theorem openState_unlinkFault : (s.openState f p).2.unlinkFault = f.unlinkFault := by
  unfold openState
  split_ifs <;> rfl

@[simp] theorem writeState_unlinkFault : (s.writeState f p).unlinkFault = f.unlinkFault := by
  unfold writeState
  split_ifs <;> rfl

end Frame

/-! ## What `load` answers -/

variable {s : ActivePodStore} {f : StateFile} {p : String}

theorem load_memory (h : s.activePodId ≠ "") : s.load f = .ok s.activePodId := by
  rw [load, if_pos h]

/-- A configured pod id is what every `load` answers, whatever was stored or cleared before. -/
theorem load_configured (hc : s.configuredPodId ≠ "") (h : s.activePodId = s.configuredPodId) :
    s.load f = .ok s.configuredPodId := by
  rw [load_memory (by rwa [h]), h]

theorem clear_of_configured (hc : s.configuredPodId ≠ "") (q : Option String) :
    s.clear f q = (s, f) := by
  rw [clear, if_pos hc]

/-- In template mode a stored id is what `load` answers, whether or not the file could be
written. -/
theorem openState_load (hc : s.configuredPodId = "") (hp : p ≠ "") (g : StateFile) :
    (s.openState f p).1.load g = .ok p := by
  simp [openState, hc, load, hp]

/-- The same once the text is written. -/
theorem store_load (hc : s.configuredPodId = "") (hp : p ≠ "") (g : StateFile) :
    (s.store f p).1.load g = .ok p :=
  openState_load hc hp g

/-! ## What `clear` comes to -/

/-- The guard of `clear`: the memory holds another id. -/
theorem clear_of_other (h : s.activePodId ≠ "") (hp : p ≠ "") (hne : p ≠ s.activePodId) :
    s.clear f (some p) = (s, f) := by
  by_cases hc : s.configuredPodId = ""
  · rw [clear, if_neg (not_not.mpr hc), if_pos ⟨hp, h, hne⟩]
  · rw [clear, if_pos hc]

/-- The memory emptied and the file removed, as far as it can be. -/
def cleared (s : ActivePodStore) (f : StateFile) : ActivePodStore × StateFile :=
  ({ s with activePodId := "" },
    if s.path = "" ∨ f.unlinkFault then f else { f with content := .absent })

/-- A `clear` does nothing or clears. -/
theorem clear_cases (s : ActivePodStore) (f : StateFile) (q : Option String) :
    s.clear f q = (s, f) ∨ s.clear f q = s.cleared f := by
  unfold clear
  split_ifs
  · exact .inl rfl
  · exact .inl rfl
  all_goals exact .inr (by simp [cleared, *])

@[simp] theorem cleared_unlinkFault : (s.cleared f).2.unlinkFault = f.unlinkFault := by
  unfold cleared
  split_ifs <;> rfl

/-- Once the file is removed nothing is on record. -/
theorem cleared_load (hf : f.unlinkFault = false) :
    (s.cleared f).1.load (s.cleared f).2 = .ok "" := by
  by_cases hpath : s.path = ""
  · simp [cleared, load, hpath]
  · simp [cleared, load, hpath, hf]

/-- A file that cannot be removed is all that is left of the record. -/
theorem cleared_load_of_fault (hf : f.unlinkFault) (hmem : s.activePodId = "") :
    (s.cleared f).1.load (s.cleared f).2 = s.load f := by
  simp [cleared, load, hf, hmem]

/-- A `clear` that its guard does not stop takes effect. -/
theorem clear_unguarded (hc : s.configuredPodId = "") {q : Option String}
    (h : ¬ (q.getD "" ≠ "" ∧ s.activePodId ≠ "" ∧ q.getD "" ≠ s.activePodId)) :
    s.clear f q = s.cleared f := by
  rw [clear, if_neg (not_not.mpr hc), if_neg h, cleared]

/-- Clearing the id on record takes effect. -/
theorem clear_of_load (hc : s.configuredPodId = "") (h : s.load f = .ok p) :
    s.clear f (some p) = s.cleared f := by
  refine clear_unguarded hc ?_
  rintro ⟨-, hmem, hne⟩
  rw [load_memory hmem] at h
  exact hne (Except.ok.inj h).symm

/-- With an empty memory every `clear` takes effect. -/
theorem clear_of_empty (hc : s.configuredPodId = "") (h : s.activePodId = "")
    (q : Option String) : s.clear f q = s.cleared f :=
  clear_unguarded hc fun hg => hg.2.1 h

/-- Nothing on record means nothing in memory. -/
theorem memory_of_load (h : s.load f = .ok "") : s.activePodId = "" := by
  by_contra hmem
  rw [load_memory hmem] at h
  exact hmem (Except.ok.inj h)

/-- What `load` answers once the memory is empty and the file could not be removed. -/
theorem cleared_load_iff (hp : p ≠ "") :
    (s.cleared f).1.load (s.cleared f).2 = .ok p ↔
      s.path ≠ "" ∧ f.unlinkFault ∧ f.Holds p := by
  cases hf : f.unlinkFault with
  | false =>
      rw [cleared_load hf]
      simp [hp.symm]
  | true =>
      by_cases hpath : s.path = ""
      · simp [cleared, load, hpath, hp.symm]
      · cases hcontent : f.content <;>
          simp [cleared, load, hpath, hf, StateFile.Holds, hcontent, hp.symm]

end ActivePodStore

/-! ## State files on which every operation succeeds -/

namespace StateFile.Sound

variable {s : ActivePodStore} {f : StateFile}

lemma openState (h : f.Sound) (p : String) : (s.openState f p).2.Sound := by
  unfold ActivePodStore.openState
  split_ifs
  · exact h
  · exact h
  · refine ⟨h.writes, h.unlinks, fun e => ?_⟩
    simp [h.writes]

lemma writeState (h : f.Sound) (p : String) : (s.writeState f p).Sound := by
  unfold ActivePodStore.writeState
  split_ifs
  · exact h
  · exact ⟨h.writes, h.unlinks, fun e => by simp⟩

lemma clear (h : f.Sound) (q : Option String) : (s.clear f q).2.Sound := by
  unfold ActivePodStore.clear
  split_ifs
  · exact h
  · exact h
  · exact h
  · exact ⟨h.writes, h.unlinks, fun e => by simp⟩

end StateFile.Sound

end SpeakrRunpod
