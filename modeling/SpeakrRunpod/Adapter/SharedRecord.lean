import SpeakrRunpod.Adapter.PodState
import SpeakrRunpod.Adapter.Runpod

/-!
# Stores that share a state file

`clear` compares the id it is given with the one in memory.  The file may name another pod — after
a restart, or because another process has written it — and `clear` does not look.

* `ActivePodStore.Compares` — one `clear` as a compare-and-clear of the shared id.
* `SharedRecord` — several stores on one file; `Adopts` — what the deploy loop makes of a `load`.
* `loads` — the answers of a sequence of calls, which a restart may change.
* `clear_compares_iff` — when each of these laws holds.
-/

namespace SpeakrRunpod

open Coop

/-! ## One `clear` -/

namespace ActivePodStore

/-- **Compare and clear.**  `clear p` removes the file only if the file holds `p`, and leaves
`load` alone if that names something else. -/
def Compares (s : ActivePodStore) (f : StateFile) (p : String) : Prop :=
  (f.content ≠ .absent → (s.clear f (some p)).2.content = .absent → f.Holds p) ∧
    (s.load f ≠ .ok p → (s.clear f (some p)).1.load (s.clear f (some p)).2 = s.load f)

variable {s : ActivePodStore} {f : StateFile} {p : String}

/-- Without an id of its own a store answers with what the file names. -/
lemma load_file (hmem : s.activePodId = "") (hpath : s.path ≠ "") :
    s.load f = .ok p ↔ (f.content = .absent ∧ p = "") ∨ f.Holds p := by
  simp only [load, hmem, hpath, ne_eq, not_true_eq_false, if_false, StateFile.Holds]
  cases f.content <;> simp [eq_comm]

/-- Where the file stays, or held the id, nothing is lost. -/
lemma cleared_compares (hguard : ¬ (s.activePodId ≠ "" ∧ s.activePodId ≠ p))
    (hclear : s.clear f (some p) = s.cleared f)
    (h : s.path = "" ∨ f.content = .absent ∨ f.unlinkFault ∨ f.Holds p) : s.Compares f p := by
  have hmem : s.load f ≠ .ok p → s.activePodId = "" := by
    intro hload
    by_contra hmem
    have hp : s.activePodId = p := by
      by_contra hne
      exact hguard ⟨hmem, hne⟩
    exact hload (hp ▸ load_memory hmem)
  rw [Compares, hclear]
  refine ⟨fun hthere habsent => ?_, fun hload => ?_⟩
  · rcases h with h | h | h | h
    · simp [cleared, h, hthere] at habsent
    · exact absurd h hthere
    · simp [cleared, h, hthere] at habsent
    · exact h
  · rcases h with h | h | h | h
    · simp [cleared, load, h, hmem hload]
    · have hgone : (s.cleared f).2.content = .absent := by
        unfold cleared
        split_ifs
        · exact h
        · rfl
      rw [load, load, hgone, h, hmem hload]
      rfl
    · exact cleared_load_of_fault h (hmem hload)
    · by_cases hpath : s.path = ""
      · simp [cleared, load, hpath, hmem hload]
      · exact absurd ((load_file (hmem hload) hpath).mpr (.inr h)) hload

/-- **When `clear` is a compare-and-clear**: the memory holds another id, or the file is not there,
cannot be removed or holds the id. -/
theorem compares_iff (hc : s.configuredPodId = "") (hp : p ≠ "") :
    s.Compares f p ↔ (s.activePodId ≠ "" ∧ s.activePodId ≠ p) ∨ s.path = "" ∨
      f.content = .absent ∨ f.unlinkFault ∨ f.Holds p := by
  by_cases hguard : s.activePodId ≠ "" ∧ s.activePodId ≠ p
  · have hclear : s.clear f (some p) = (s, f) :=
      clear_of_other hguard.1 hp (Ne.symm hguard.2)
    refine iff_of_true ?_ (.inl hguard)
    rw [Compares, hclear]
    exact ⟨fun hthere habsent => absurd habsent hthere, fun _ => rfl⟩
  · have hclear : s.clear f (some p) = s.cleared f :=
      clear_unguarded hc fun h => hguard ⟨h.2.1, Ne.symm h.2.2⟩
    constructor
    · intro h
      by_contra hcond
      push Not at hcond
      obtain ⟨-, hpath, hthere, hfault, hholds⟩ := hcond
      have hremoved : (s.clear f (some p)).2.content = .absent := by
        rw [hclear]
        simp [cleared, hpath, hfault]
      exact hholds (h.1 hthere hremoved)
    · intro h
      exact cleared_compares hguard hclear (h.resolve_left hguard)

end ActivePodStore

/-! ## Calls -/

/-- A call of an `ActivePodStore`. -/
inductive StoreCall
  | load
  | store (podId : String)
  | clear (podId : Option String)
  deriving DecidableEq

def StoreCall.apply : StoreCall → ActivePodStore × StateFile → ActivePodStore × StateFile
  | .load, x => x
  | .store p, x => x.1.store x.2 p
  | .clear q, x => x.1.clear x.2 q

/-- What the `load` calls of a sequence answer. -/
def loads : List StoreCall → ActivePodStore × StateFile → List (Except Exn String)
  | [], _ => []
  | .load :: cs, x => x.1.load x.2 :: loads cs x
  | c :: cs, x => loads cs (c.apply x)

lemma loads_cons {c : StoreCall} (h : c ≠ .load) (cs : List StoreCall)
    (x : ActivePodStore × StateFile) : loads (c :: cs) x = loads cs (c.apply x) := by
  cases c with
  | load => exact absurd rfl h
  | store p => rfl
  | clear q => rfl

/-! ## Two processes -/

/-- The stores of several processes on one state file. -/
structure SharedRecord (ι : Type) where
  stores : ι → ActivePodStore
  file : StateFile

namespace SharedRecord

variable {ι : Type} [DecidableEq ι]

def load (s : SharedRecord ι) (i : ι) : Except Exn String := (s.stores i).load s.file

/-- A call of the process `i`. -/
def call (i : ι) (s : SharedRecord ι) (c : StoreCall) : SharedRecord ι where
  stores := Function.update s.stores i (c.apply (s.stores i, s.file)).1
  file := (c.apply (s.stores i, s.file)).2

/-- Calls of the process `i`, one after the other. -/
def calls (i : ι) (cs : List StoreCall) (s : SharedRecord ι) : SharedRecord ι :=
  cs.foldl (call i) s

/-- The calls of one process leave the memory of another one alone. -/
lemma calls_stores {i j : ι} (h : j ≠ i) (cs : List StoreCall) (s : SharedRecord ι) :
    (s.calls i cs).stores j = s.stores j := by
  induction cs generalizing s with
  | nil => rfl
  | cons c cs ih => exact (ih (s.call i c)).trans (Function.update_of_ne h _ _)

lemma calls_load (i : ι) {cs : List StoreCall} (h : ∀ c ∈ cs, c = .load) (s : SharedRecord ι) :
    s.calls i cs = s := by
  induction cs with
  | nil => rfl
  | cons c cs ih =>
      obtain ⟨rfl, hcs⟩ := List.forall_mem_cons.mp h
      have hcall : s.call i .load = s := by simp [call, StoreCall.apply]
      show (s.call i .load).calls i cs = s
      rw [hcall]
      exact ih hcs

end SharedRecord

/-- A deploy loop whose first `load` answers `r` returns the id `q` without sending anything. -/
def Adopts (cfg : AdapterConfig) (r : Except Exn String) (q : String) : Prop :=
  ∀ (rounds : ℕ) (deadline now : ℚ) (tr : List (Prog.Exchange adapterInterface))
    (out : Except Exn String), now < deadline →
    (deployFromTemplateWithRetry cfg (rounds + 1) deadline).run.Runs
      (⟨.time, now⟩ :: ⟨.load, r⟩ :: tr) out → tr = [] ∧ out = .ok q

lemma adopts_ok (cfg : AdapterConfig) {q : String} (hq : q ≠ "") : Adopts cfg (.ok q) q := by
  intro rounds deadline now tr out hnow h
  rw [deployFromTemplateWithRetry, Async.loop_succ, deployRound, bind_assoc] at h
  have hload := (Async.runs_answer (a := now) rfl rfl).mp h
  rw [if_pos hnow, bind_assoc] at hload
  have hret := (Async.runs_answer (a := q) rfl rfl).mp hload
  rw [if_pos hq] at hret
  obtain ⟨htr, hout⟩ := Prog.runs_ret.mp hret
  exact ⟨htr, hout.symm⟩

/-- **When the replacement of another process is adopted.**  A process finds the pod `x` missing
and clears it after another one has recorded `y` in its place: `y` stays recorded, and the process
adopts it, exactly where the file cannot be removed. -/
theorem adopts_replacement_iff {ι : Type} [DecidableEq ι] {i j : ι} (hij : i ≠ j)
    (cfg : AdapterConfig) {s : SharedRecord ι} (hc : (s.stores i).configuredPodId = "")
    (hpath : (s.stores i).path ≠ "") {x y : String} (hy : y ≠ "")
    (hload : s.load i = .ok x) (before : List StoreCall)
    (hfile : (s.calls j before).file.Holds y) {after : List StoreCall}
    (hafter : ∀ c ∈ after, c = .load) :
    let t := (((s.calls j before).call i (.clear (some x))).calls j after)
    (t.file.Holds y ∧ Adopts cfg (t.load i) y) ↔ (s.calls j before).file.unlinkFault := by
  intro t
  have hstore : (s.calls j before).stores i = s.stores i := SharedRecord.calls_stores hij _ _
  have hguard : ¬ ((s.stores i).activePodId ≠ "" ∧ (s.stores i).activePodId ≠ x) := by
    rintro ⟨hmem, hne⟩
    rw [SharedRecord.load, ActivePodStore.load_memory hmem] at hload
    exact hne (Except.ok.inj hload)
  have hclear : (s.stores i).clear (s.calls j before).file (some x) =
      (s.stores i).cleared (s.calls j before).file :=
    ActivePodStore.clear_unguarded hc fun h => hguard ⟨h.2.1, Ne.symm h.2.2⟩
  have ht : t = (s.calls j before).call i (.clear (some x)) := SharedRecord.calls_load j hafter _
  have htfile : t.file = ((s.stores i).cleared (s.calls j before).file).2 := by
    rw [ht, SharedRecord.call, StoreCall.apply, hstore, hclear]
  have htstore : t.stores i = ((s.stores i).cleared (s.calls j before).file).1 := by
    rw [ht, SharedRecord.call, StoreCall.apply, hstore, hclear]
    exact Function.update_self _ _ _
  constructor
  · rintro ⟨hkept, -⟩
    by_contra hfault
    obtain ⟨text, htext, -⟩ := hkept
    simp [htfile, ActivePodStore.cleared, hpath, hfault] at htext
  · intro hfault
    have hkept : t.file = (s.calls j before).file := by
      rw [htfile, ActivePodStore.cleared, if_pos (.inr hfault)]
    have hadopted : t.load i = .ok y := by
      rw [SharedRecord.load, htstore, htfile]
      exact (ActivePodStore.cleared_load_iff hy).mpr ⟨hpath, hfault, hfile⟩
    exact ⟨hkept ▸ hfile, hadopted ▸ adopts_ok cfg hy⟩

/-! ## Restarts -/

namespace ActivePodStore

/-- A fresh store on the same path. -/
def restarted (s : ActivePodStore) : ActivePodStore := .new s.configuredPodId s.path

/-- The calls that leave a memory holding `p` alone. -/
def Keeps (p : String) : StoreCall → Prop
  | .load => True
  | .store _ => False
  | .clear q => q.getD "" ≠ "" ∧ q.getD "" ≠ p

end ActivePodStore

/-- What holds at every `load` of a sequence whose calls before it satisfy `K`. -/
def AtLoads (K : StoreCall → Prop) (P : List StoreCall → Prop) (cs : List StoreCall) : Prop :=
  ∀ before after, cs = before ++ .load :: after → (∀ c ∈ before, K c) → P before

lemma atLoads_nil {K : StoreCall → Prop} {P : List StoreCall → Prop} : AtLoads K P [] :=
  fun _ _ h => by simp at h

lemma atLoads_cons {K : StoreCall → Prop} {P : List StoreCall → Prop} {c : StoreCall}
    {cs : List StoreCall} :
    AtLoads K P (c :: cs) ↔
      (c = .load → P []) ∧ (K c → AtLoads K (fun before => P (c :: before)) cs) := by
  constructor
  · intro h
    refine ⟨fun hc => h [] cs (by rw [hc]; rfl) (by simp), fun hc before after hcs hb => ?_⟩
    exact h (c :: before) after (by rw [hcs]; rfl) (List.forall_mem_cons.mpr ⟨hc, hb⟩)
  · rintro ⟨hload, hcons⟩ before after hcs hb
    cases before with
    | nil => exact hload (List.cons.inj hcs).1
    | cons b before =>
        obtain ⟨rfl, rfl⟩ := List.cons.inj hcs
        obtain ⟨hc, hb⟩ := List.forall_mem_cons.mp hb
        exact hcons hc before after rfl hb

namespace ActivePodStore

/-- At each `load` that comes before the memory changes, the file holds the id of the memory; and
it still does, because no other id has been cleared or because the file cannot be removed. -/
def Shielded (s : ActivePodStore) (f : StateFile) : List StoreCall → Prop :=
  AtLoads (Keeps s.activePodId) fun before =>
    s.path ≠ "" ∧ f.Holds s.activePodId ∧ (f.unlinkFault ∨ ∀ c ∈ before, c = .load)

variable {s : ActivePodStore} {f : StateFile} {c : StoreCall}

lemma apply_keeps (hmem : s.activePodId ≠ "") (h : Keeps s.activePodId c) :
    c.apply (s, f) = (s, f) := by
  cases c with
  | load => rfl
  | store p => exact h.elim
  | clear q =>
      cases q with
      | none => exact absurd rfl h.1
      | some p => exact clear_of_other hmem h.1 h.2

/-- What a call that does not keep the memory makes of a store depends on its configuration and on
the faults of the file only. -/
lemma apply_restarted (hc : s.configuredPodId = "") (hload : c ≠ .load)
    (h : ¬ Keeps s.activePodId c) {g : StateFile}
    (hg : g = f ∨ s.path ≠ "" ∧ f.unlinkFault = false ∧ g = { f with content := .absent }) :
    c.apply (s.restarted, g) = c.apply (s, f) := by
  obtain ⟨conf, mem, path⟩ := s
  obtain rfl : conf = "" := hc
  cases c with
  | load => exact absurd rfl hload
  | store p =>
      rcases hg with rfl | ⟨hpath, -, rfl⟩
      · rfl
      · simp [StoreCall.apply, store, openState, writeState, restarted, new, hpath]
  | clear q =>
      have hguard : ¬ (q.getD "" ≠ "" ∧ mem ≠ "" ∧ q.getD "" ≠ mem) := fun hq => h ⟨hq.1, hq.2.2⟩
      rw [StoreCall.apply, StoreCall.apply, clear_of_empty (by rfl) (by rfl),
        clear_unguarded (by rfl) hguard]
      rcases hg with rfl | ⟨hpath, hfault, rfl⟩
      · rfl
      · simp [cleared, restarted, new, hpath, hfault]

/-- The clear of another id, by a store that has forgotten its own. -/
lemma apply_keeps_restarted (hc : s.configuredPodId = "") (hload : c ≠ .load)
    (h : Keeps s.activePodId c) (g : StateFile) :
    c.apply (s.restarted, g) =
      (s.restarted, if s.path = "" ∨ g.unlinkFault then g else { g with content := .absent }) := by
  cases c with
  | load => exact absurd rfl hload
  | store p => exact h.elim
  | clear q =>
      rw [StoreCall.apply, clear_of_empty (s := s.restarted) hc hc]
      simp [cleared, restarted, new, hc]

/-- What a fresh store answers first. -/
lemma load_restarted_iff (hc : s.configuredPodId = "") (hmem : s.activePodId ≠ "") :
    s.restarted.load f = s.load f ↔ s.path ≠ "" ∧ f.Holds s.activePodId := by
  rw [load_memory hmem]
  by_cases hpath : s.path = ""
  · refine iff_of_false (fun h => ?_) fun h => h.1 hpath
    have hempty : s.restarted.load f = .ok "" := by simp [load, restarted, new, hc, hpath]
    rw [hempty] at h
    exact hmem (Except.ok.inj h).symm
  · rw [load_file (s := s.restarted) hc hpath]
    simp [hmem, hpath]

/-- Once the file has been removed, a fresh store disagrees at the first `load`. -/
lemma loads_removed (hc : s.configuredPodId = "") (hmem : s.activePodId ≠ "") (hpath : s.path ≠ "")
    (hfault : f.unlinkFault = false) (cs : List StoreCall) :
    loads cs (s.restarted, { f with content := .absent }) = loads cs (s, f) ↔
      AtLoads (Keeps s.activePodId) (fun _ => False) cs := by
  induction cs with
  | nil => exact iff_of_true rfl atLoads_nil
  | cons c cs ih =>
      rw [atLoads_cons]
      by_cases hload : c = .load
      · subst hload
        refine iff_of_false (fun h => ?_) fun h => h.1 rfl
        have hhead := (List.cons.inj h).1
        rw [load_memory hmem] at hhead
        simp [load, restarted, new, hc, Ne.symm hmem] at hhead
      · rw [loads_cons hload, loads_cons hload]
        by_cases hkeeps : Keeps s.activePodId c
        · rw [apply_keeps hmem hkeeps, apply_keeps_restarted hc hload hkeeps]
          simpa [hpath, hfault, hload, hkeeps] using ih
        · rw [apply_restarted hc hload hkeeps (.inr ⟨hpath, hfault, rfl⟩)]
          simp [hload, hkeeps]

/-- **When a restart goes unnoticed.**  A fresh store answers every `load` of a sequence of calls as
the old one would, exactly when the old one had nothing in memory or the sequence is shielded. -/
theorem loads_restarted_iff (hc : s.configuredPodId = "") (cs : List StoreCall) :
    loads cs (s.restarted, f) = loads cs (s, f) ↔ s.activePodId = "" ∨ Shielded s f cs := by
  by_cases hmem : s.activePodId = ""
  · refine iff_of_true ?_ (.inl hmem)
    obtain ⟨conf, mem, path⟩ := s
    obtain rfl : conf = "" := hc
    obtain rfl : mem = "" := hmem
    rfl
  rw [or_iff_right hmem]
  induction cs with
  | nil => exact iff_of_true rfl atLoads_nil
  | cons c cs ih =>
      rw [Shielded, atLoads_cons]
      by_cases hload : c = .load
      · subst hload
        have hhead := load_restarted_iff (f := f) hc hmem
        simp only [loads, List.cons.injEq, hhead, ih, Shielded]
        simp [Keeps, and_assoc]
      · rw [loads_cons hload, loads_cons hload]
        by_cases hkeeps : Keeps s.activePodId c
        · rw [apply_keeps hmem hkeeps, apply_keeps_restarted hc hload hkeeps]
          by_cases hpath : s.path = ""
          · simpa [hload, hkeeps, hpath, Shielded] using ih
          · cases hfault : f.unlinkFault with
            | true => simpa [hload, hkeeps, hpath, Shielded, hfault] using ih
            | false =>
                have hremoved := loads_removed hc hmem hpath hfault cs
                simpa [hload, hkeeps, hpath, hfault] using hremoved
        · rw [apply_restarted hc hload hkeeps (.inl rfl)]
          simp [hload, hkeeps]

end ActivePodStore

/-! ## The three laws -/

/-- After a restart, clearing another pod removes the record of the one in use. -/
theorem restarted_clear_removes_other :
    ¬ (ActivePodStore.new "" "/tmp/speakr-runpod-active-pod-id").Compares
      ⟨.text "current-pod", none, false⟩ "other-pod" :=
  fun h => absurd (h.1 (by decide) (by decide)) (by decide)

/-- **When `clear` compares with the shared id.**  For every store without a configured pod id:
`clear p` is a compare-and-clear, another process's replacement of a missing pod is adopted, and a
restart goes unnoticed, exactly under these conditions. -/
theorem clear_compares_iff (s : ActivePodStore) (f : StateFile) (p : String)
    (cs : List StoreCall) (cfg : AdapterConfig) (r : SharedRecord ℕ) (i j : ℕ) (x y : String)
    (before after : List StoreCall) :
    (s.configuredPodId = "" → p ≠ "" →
      (s.Compares f p ↔ (s.activePodId ≠ "" ∧ s.activePodId ≠ p) ∨ s.path = "" ∨
        f.content = .absent ∨ f.unlinkFault ∨ f.Holds p)) ∧
    (i ≠ j → (r.stores i).configuredPodId = "" → (r.stores i).path ≠ "" → y ≠ "" →
      r.load i = .ok x → (r.calls j before).file.Holds y → (∀ c ∈ after, c = .load) →
      let t := (((r.calls j before).call i (.clear (some x))).calls j after)
      ((t.file.Holds y ∧ Adopts cfg (t.load i) y) ↔ (r.calls j before).file.unlinkFault)) ∧
    (s.configuredPodId = "" →
      (loads cs (s.restarted, f) = loads cs (s, f) ↔
        s.activePodId = "" ∨ s.Shielded f cs)) := by
  refine ⟨fun hc hp => ActivePodStore.compares_iff hc hp, ?_,
    fun hc => ActivePodStore.loads_restarted_iff hc cs⟩
  intro hij hc hpath hy hload hfile hafter
  exact adopts_replacement_iff hij cfg hc hpath hy hload before hfile hafter

/-- A store that has recorded a pod. -/
def recordedStore : ActivePodStore := ⟨"", "current-pod", "/tmp/speakr-runpod-active-pod-id"⟩

/-- Two restarted processes on a file that cannot be removed. -/
def stuckRecord : SharedRecord ℕ where
  stores := fun _ => recordedStore.restarted
  file := ⟨.text "missing-pod", none, true⟩

theorem clear_compares_recorded :
    recordedStore.Compares ⟨.text "current-pod", none, false⟩ "other-pod" ∧
      (((stuckRecord.calls 1 [.store "new-pod"]).call 0 (.clear (some "missing-pod"))).calls 1
        [.load]).file.Holds "new-pod" ∧
      loads [.load, .clear (some "current-pod"), .load]
          (recordedStore.restarted, ⟨.text "current-pod", none, false⟩) =
        loads [.load, .clear (some "current-pod"), .load]
          (recordedStore, ⟨.text "current-pod", none, false⟩) := by
  have hcurrent := clear_compares_iff recordedStore ⟨.text "current-pod", none, false⟩ "other-pod"
    [.load, .clear (some "current-pod"), .load] .template stuckRecord 0 1 "missing-pod" "new-pod"
    [.store "new-pod"] [.load]
  refine ⟨(hcurrent.1 rfl (by decide)).mpr (.inl (by decide)), ?_,
    (hcurrent.2.2 rfl).mpr (.inr ?_)⟩
  · exact ((hcurrent.2.1 (by decide) rfl (by decide) (by decide) (by decide) (by decide)
      (by decide)).mpr rfl).1
  · have hholds : StateFile.Holds ⟨.text "current-pod", none, false⟩ "current-pod" := by decide
    simp [ActivePodStore.Shielded, atLoads_cons, ActivePodStore.Keeps, recordedStore, hholds]

end SpeakrRunpod
