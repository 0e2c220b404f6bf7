import Mathlib.Data.Finset.Option
import SpeakrRunpod.Adapter.CallWalk
import SpeakrRunpod.Adapter.PodState

/-!
# The address that a call returns

A call that returns an address has probed it last, and has it from the last snapshot of the pod that
it works with.

* `Record` — the record of the active pod in one adapter process, with what becomes of it.
* `currentId`, `givenUp` — the pod that a call works with, and the pods that it has done away with.
* `Verified` — where a returned address comes from.
-/

namespace SpeakrRunpod

open Coop

/-! ## The record of one process -/

/-- The store of the active pod id with its file, on which every operation succeeds. -/
structure Record where
  store : ActivePodStore
  file : StateFile
  sound : file.Sound

namespace Record

def load (r : Record) : Except Exn String := r.store.load r.file

def openState (r : Record) (p : String) : Record :=
  ⟨(r.store.openState r.file p).1, (r.store.openState r.file p).2, r.sound.openState p⟩

def writeState (r : Record) (p : String) : Record :=
  ⟨r.store, r.store.writeState r.file p, r.sound.writeState p⟩

def clear (r : Record) (p : String) : Record :=
  ⟨(r.store.clear r.file (some p)).1, (r.store.clear r.file (some p)).2, r.sound.clear (some p)⟩

/-- An idle release of the same process clears an id. -/
def ClearedByOther (r r' : Record) : Prop := ∃ p, r' = r.clear p

/-- What an operation of a call finds in the record, and what it leaves there.  While the call waits
for the manager's lock other calls may leave anything; while it holds the lock, and waits, nothing is
done to the record but that ids are cleared. -/
def Step (r : Record) : Prog.Exchange adapterInterface → Record → Prop
  | ⟨.load, answer⟩, r' => answer = r.load ∧ r' = r
  | ⟨.openState p, _⟩, r' => r' = r.openState p
  | ⟨.writeState p, _⟩, r' => r' = r.writeState p
  | ⟨.clear p, _⟩, r' => r' = r.clear p
  | ⟨.acquireLock, _⟩, r' => r'.store.configuredPodId = r.store.configuredPodId
  | ⟨.time, _⟩, r' | ⟨.note _, _⟩, r' | ⟨.releaseLock, _⟩, r' => r' = r
  | _, r' => Relation.ReflTransGen ClearedByOther r r'

lemma clear_configuredPodId (r : Record) (p : String) :
    (r.clear p).store.configuredPodId = r.store.configuredPodId :=
  ActivePodStore.clear_configuredPodId _ _ _

/-- A `clear` that takes effect leaves nothing on record. -/
lemma clear_load_of_cleared {r : Record} {p : String}
    (h : r.store.clear r.file (some p) = r.store.cleared r.file) : (r.clear p).load = .ok "" := by
  show ActivePodStore.load (r.store.clear r.file (some p)).1 (r.store.clear r.file (some p)).2 = _
  rw [h]
  exact ActivePodStore.cleared_load r.sound.unlinks

/-- A `clear` leaves what is on record, or nothing. -/
lemma clear_load (r : Record) (p : String) :
    (r.clear p).load = r.load ∨ (r.clear p).load = .ok "" := by
  rcases ActivePodStore.clear_cases r.store r.file (some p) with h | h
  · refine .inl ?_
    show ActivePodStore.load (r.store.clear r.file (some p)).1 (r.store.clear r.file (some p)).2 = _
    rw [h]
    rfl
  · exact .inr (clear_load_of_cleared h)

/-- In template mode an id that has been cleared is not on record. -/
lemma clear_load_ne {r : Record} {p : String} (hc : r.store.configuredPodId = "") (hp : p ≠ "") :
    (r.clear p).load ≠ .ok p := by
  intro h
  have hload : r.load = .ok p := by
    rcases r.clear_load p with hsame | hempty
    · rw [← hsame, h]
    · exact absurd (Except.ok.inj (h.symm.trans hempty)) hp
  have hempty := clear_load_of_cleared (ActivePodStore.clear_of_load hc hload)
  exact hp (Except.ok.inj (h.symm.trans hempty))

/-- What is done to the record while a call waits brings no id back. -/
lemma load_ne_of_cleared {r r' : Record} {q : String} (hq : q ≠ "") (h : r.load ≠ .ok q)
    (hclears : Relation.ReflTransGen ClearedByOther r r') : r'.load ≠ .ok q := by
  induction hclears with
  | refl => exact h
  | @tail r₁ r₂ _ hclear ih =>
      obtain ⟨p, rfl⟩ := hclear
      rcases r₁.clear_load p with hsame | hempty
      · rwa [hsame]
      · rw [hempty]
        exact fun heq => hq (Except.ok.inj heq).symm

lemma configuredPodId_of_cleared {r r' : Record}
    (hclears : Relation.ReflTransGen ClearedByOther r r') :
    r'.store.configuredPodId = r.store.configuredPodId := by
  induction hclears with
  | refl => rfl
  | tail _ hclear ih =>
      obtain ⟨p, rfl⟩ := hclear
      rw [clear_configuredPodId, ih]

/-- The configured id is the same throughout. -/
lemma Step.configuredPodId {r r' : Record} {x : Prog.Exchange adapterInterface} (h : r.Step x r') :
    r'.store.configuredPodId = r.store.configuredPodId := by
  obtain ⟨o, answer⟩ := x
  cases o with
  | load =>
      obtain ⟨-, rfl⟩ := h
      rfl
  | openState p =>
      obtain rfl : r' = r.openState p := h
      exact ActivePodStore.openState_configuredPodId _ _ _
  | writeState p =>
      obtain rfl : r' = r.writeState p := h
      rfl
  | clear p =>
      obtain rfl : r' = r.clear p := h
      exact r.clear_configuredPodId p
  | acquireLock => exact h
  | time | note _ | releaseLock =>
      obtain rfl : r' = r := h
      rfl
  | _ => exact configuredPodId_of_cleared h

end Record

/-! ## The pod of a call -/

/-- The id that an exchange provides: found on record, or deployed. -/
def obtained : Prog.Exchange adapterInterface → Option String
  | ⟨.load, .ok p⟩ => if p = "" then none else some p
  | ⟨.graphql (.podFindAndDeployOnDemand input), r⟩ => (deployOutcome input r).toOption
  | _ => none

/-- The id of the pod that an exchange creates. -/
def created : Prog.Exchange adapterInterface → Option String
  | ⟨.graphql (.podFindAndDeployOnDemand input), r⟩ => (deployOutcome input r).toOption
  | _ => none

/-- The id of the pod that an exchange does away with. -/
def discarded : Prog.Exchange adapterInterface → Option String
  | ⟨.graphql (.podTerminate p), _⟩ => some p
  | ⟨.clear p, _⟩ => some p
  | _ => none

/-- The pod that a call works with: the last one that was found or deployed. -/
def currentId (tr : List (Prog.Exchange adapterInterface)) : Option String :=
  (tr.filterMap obtained).getLast?

/-- The pods that a call has terminated or cleared, without having created them anew since. -/
def givenUp (tr : List (Prog.Exchange adapterInterface)) : Finset String :=
  tr.foldl (fun s x => (s \ (created x).toFinset) ∪ (discarded x).toFinset) ∅

lemma givenUp_append (tr : List (Prog.Exchange adapterInterface))
    (x : Prog.Exchange adapterInterface) :
    givenUp (tr ++ [x]) = (givenUp tr \ (created x).toFinset) ∪ (discarded x).toFinset := by
  rw [givenUp, List.foldl_append]
  rfl

lemma currentId_append_some {tr : List (Prog.Exchange adapterInterface)}
    {x : Prog.Exchange adapterInterface} {p : String} (h : obtained x = some p) :
    currentId (tr ++ [x]) = some p := by
  rw [currentId, List.filterMap_append, List.filterMap_cons_some h, List.filterMap_nil]
  exact List.getLast?_concat

lemma currentId_append_none {tr : List (Prog.Exchange adapterInterface)}
    {x : Prog.Exchange adapterInterface} (h : obtained x = none) :
    currentId (tr ++ [x]) = currentId tr := by
  rw [currentId, List.filterMap_append, List.filterMap_cons_none h, List.filterMap_nil,
    List.append_nil]
  rfl

lemma givenUp_append_of_quiet {tr : List (Prog.Exchange adapterInterface)}
    {x : Prog.Exchange adapterInterface} (hc : created x = none) (hd : discarded x = none) :
    givenUp (tr ++ [x]) = givenUp tr := by
  rw [givenUp_append, hc, hd]
  simp

/-- An id that is obtained is not empty. -/
lemma obtained_ne_empty {x : Prog.Exchange adapterInterface} {p : String}
    (h : obtained x = some p) : p ≠ "" := by
  obtain ⟨o, r⟩ := x
  cases o with
  | load =>
      rcases (r : Except Exn String) with e | q
      · cases h
      · rw [obtained] at h
        split_ifs at h with hq
        obtain rfl := Option.some.inj h
        exact hq
  | graphql call =>
      cases call with
      | podFindAndDeployOnDemand input =>
          have hr : (deployOutcome input r).toOption = some p := h
          cases hread : deployOutcome input r with
          | error e =>
              rw [hread] at hr
              cases hr
          | ok q =>
              rw [hread] at hr
              obtain rfl := Option.some.inj hr
              exact deployOutcome_ne_empty hread
      | _ => cases h
  | _ => cases h

/-! ## Where a returned address comes from -/

section Verified

variable (cfg : AdapterConfig) (tr : List (Prog.Exchange adapterInterface))

/-- The last exchange is a snapshot of the pod that the call works with. -/
def Taken (p : String) (pod : Pod) : Prop :=
  ∃ tr₀ r, tr = tr₀ ++ [⟨.graphql (.pod p), r⟩] ∧ podOutcome p r = .ok pod ∧
    currentId tr₀ = some p ∧ p ∉ givenUp tr₀

/-- Since the last snapshot, in which the pod has this mapping, the call has only read the clock. -/
def Mapped (p : String) (mapping : String × PyInt) : Prop :=
  ∃ tr₀ tr₁ pod, tr = tr₀ ++ tr₁ ∧ Taken tr₀ p pod ∧
    extractTcpMapping pod cfg.runpodWrapperPort = .ok (some mapping) ∧ ∀ x ∈ tr₁, x.1 = .time

/-- Since the last probe, at the address of this mapping, was answered as a wrapper of this version
answers, the call has done nothing but return the address. -/
def Probed (p url : String) : Prop :=
  ∃ tr₀ tr₁ mapping answer,
    tr = tr₀ ++ ⟨.health (mappingUrl mapping ++ "/health"), Except.ok answer⟩ :: tr₁ ∧
    Mapped cfg tr₀ p mapping ∧ url = mappingUrl mapping ∧ answer.status = 200 ∧
    answer.protocolHeader = some protocolVersion ∧
    ∀ x ∈ tr₁, x.1 = .note (.ready p url) ∨ x.1 = .releaseLock

/-- **The address of a verified wrapper.** -/
def Verified (url : String) : Prop := ∃ p, Probed cfg tr p url

end Verified

/-! ## What holds along a call -/

/-- The pod id that is carried along. -/
def Work.holds : Work → Option String
  | .openFile _ p | .writeFile _ p | .deployUnlock _ (.ok p) | .adopt _ _ p | .inspect p _
  | .reinspect p | .resume p | .probe p _ | .announce p _ => some p
  | .pollTime s | .pollSleep s | .pollQuery s | .pollNow s _ | .pollLate s | .pollProbe s _ =>
      some s.podId
  | _ => none

/-- The pod that has been terminated and is cleared next. -/
def Work.disposing : Work → Option String
  | .clearTerminated _ old _ => some old
  | _ => none

/-- A pod is terminated. -/
def Work.Terminating : Work → Prop
  | .terminate _ _ | .clearTerminated _ _ _ => True
  | _ => False

/-- Where the mapping or the address at hand comes from. -/
def Work.Traced (cfg : AdapterConfig) (tr : List (Prog.Exchange adapterInterface)) : Work → Prop
  | .pollNow s pod => Taken tr s.podId pod
  | .probe p mapping => Mapped cfg tr p mapping
  | .pollProbe s mapping => Mapped cfg tr s.podId mapping
  | .announce p url => ∃ mapping answer tr₀, url = mappingUrl mapping ∧
      tr = tr₀ ++ [⟨.health (mappingUrl mapping ++ "/health"), Except.ok answer⟩] ∧
      Mapped cfg tr₀ p mapping ∧ answer.status = 200 ∧
      answer.protocolHeader = some protocolVersion
  | .leave (.ok url) => Verified cfg tr url
  | _ => True

/-- What is known under the lock of the exchanges so far and of the record. -/
structure Trail (cfg : AdapterConfig) (tr : List (Prog.Exchange adapterInterface)) (work : Work)
    (record : Record) : Prop where
  held : ∀ p, work.holds = some p → p ≠ "" ∧ currentId tr = some p ∧ p ∉ givenUp tr
  unnamed : cfg.templateModeEnabled → ∀ q ∈ givenUp tr, q ≠ "" → work.disposing ≠ some q →
    record.load ≠ .ok q
  fixed : ¬ cfg.templateModeEnabled → (∃ e, work = .leave (.error e)) ∨ givenUp tr = ∅
  terminating : work.Terminating → cfg.templateModeEnabled
  opened : ∀ pu p, work = .writeFile pu p → record.store.configuredPodId = "" →
    record.store.activePodId = p
  traced : work.Traced cfg tr
  called : work.purpose ≠ some .alone

section Steps

variable {cfg : AdapterConfig} {deadline : ℚ} {tr : List (Prog.Exchange adapterInterface)}
  {work work' : Work} {x : Prog.Exchange adapterInterface} {record record' : Record}

lemma fromPod_holds {p q : String} {pod : Pod} {b : Bool} (h : Work.FromPod cfg p pod b work)
    (hq : work.holds = some q) : q = p := by
  cases h <;> first | exact (Option.some.inj hq).symm | cases hq

lemma probed_holds {p q url : String} {wait : String → Work} {verdict : Except Exn (Bool × String)}
    (hwait : ∀ detail, (wait detail).holds = some p) (h : Work.Probed p url wait verdict work)
    (hq : work.holds = some q) : q = p := by
  rcases h.leads with ⟨e, rfl⟩ | rfl | ⟨detail, rfl⟩
  · cases hq
  · exact (Option.some.inj hq).symm
  · exact Option.some.inj (hq.symm.trans (hwait detail))

/-- An id that is carried on was carried before, or has just been obtained. -/
lemma holds_step (h : Work.Moves cfg deadline work x work') {p : String}
    (hp : work'.holds = some p) :
    obtained x = some p ∨
      work.holds = some p ∧ obtained x = none ∧ created x = none ∧ discarded x = none := by
  cases h with
  | lookFound hne => exact .inl (hp ▸ if_neg hne)
  | deployLookFirst hne => exact .inl (hp ▸ if_neg hne)
  | deployLookAdopts hne => exact .inl (hp ▸ if_neg hne)
  | lockedFound hne => exact .inl (hp ▸ if_neg hne)
  | bought hread =>
      refine .inl ?_
      show Except.toOption (deployOutcome (deployInput cfg) _) = some p
      rw [hread]
      exact hp
  | inspected _ hwork =>
      obtain rfl := fromPod_holds hwork hp
      exact .inr ⟨rfl, rfl, rfl, rfl⟩
  | reinspected _ hwork =>
      obtain rfl := fromPod_holds hwork hp
      exact .inr ⟨rfl, rfl, rfl, rfl⟩
  | probed hprobed =>
      obtain rfl := probed_holds (by exact fun _ => rfl) hprobed hp
      exact .inr ⟨rfl, rfl, rfl, rfl⟩
  | pollProbed hprobed =>
      obtain rfl := probed_holds (by exact fun _ => rfl) hprobed hp
      exact .inr ⟨rfl, rfl, rfl, rfl⟩
  | _ => first | exact .inr ⟨hp, rfl, rfl, rfl⟩ | cases hp

lemma probed_not_terminating {p url : String} {wait : String → Work}
    {verdict : Except Exn (Bool × String)} (hwait : ∀ detail, ¬ (wait detail).Terminating)
    (h : Work.Probed p url wait verdict work) : ¬ work.Terminating := by
  rcases h.leads with ⟨e, rfl⟩ | rfl | ⟨detail, rfl⟩
  · exact id
  · exact id
  · exact hwait detail

/-- A pod that is terminated is terminated in template mode. -/
lemma terminating_step (hterminating : work.Terminating → cfg.templateModeEnabled)
    (h : Work.Moves cfg deadline work x work') (h' : work'.Terminating) :
    cfg.templateModeEnabled := by
  have hfrom : ∀ {p pod b}, Work.FromPod cfg p pod b work' → cfg.templateModeEnabled := by
    intro p pod b hwork
    cases hwork with
    | inactive _ hreplaces =>
        rw [replacesInactive, Bool.and_eq_true, Bool.and_eq_true] at hreplaces
        exact hreplaces.1.1
    | _ => cases h'
  cases h with
  | inspected _ hwork => exact hfrom hwork
  | reinspected _ hwork => exact hfrom hwork
  | probed hprobed => exact absurd h' (probed_not_terminating (by exact fun _ => id) hprobed)
  | pollProbed hprobed => exact absurd h' (probed_not_terminating (by exact fun _ => id) hprobed)
  | terminated => exact hterminating trivial
  | pollFires hfire =>
      rw [watchdog] at hfire
      split_ifs at hfire with hstuck
      rw [stuckInit, Bool.and_eq_true, Bool.and_eq_true, Bool.and_eq_true] at hstuck
      exact hstuck.1.1.1
  | _ => cases h'

/-- What is found on record has not been given up. -/
lemma obtained_kept (htrail : Trail cfg tr work record) (h : Work.Moves cfg deadline work x work')
    (hrecord : record.Step x record') {p : String} (hp : work'.holds = some p)
    (hobtained : obtained x = some p) : p ∉ givenUp (tr ++ [x]) := by
  have hne := obtained_ne_empty hobtained
  obtain ⟨o, r⟩ := x
  rw [givenUp_append]
  cases o with
  | load =>
      obtain ⟨hload, -⟩ := hrecord
      obtain rfl : (r : Except Exn String) = .ok p := by
        rcases (r : Except Exn String) with e | q
        · cases hobtained
        · rw [obtained] at hobtained
          split_ifs at hobtained
          exact congrArg _ (Option.some.inj hobtained)
      have hkept : p ∉ givenUp tr := by
        by_cases htemplate : cfg.templateModeEnabled
        · refine fun hmem => htrail.unnamed htemplate p hmem hne ?_ hload.symm
          cases h <;> exact nofun
        · rcases htrail.fixed htemplate with ⟨e, rfl⟩ | hempty
          · cases h
          · rw [hempty]
            exact Finset.notMem_empty p
      simpa [created, discarded] using hkept
  | graphql call =>
      cases call with
      | podFindAndDeployOnDemand input =>
          have hcreated : created ⟨.graphql (.podFindAndDeployOnDemand input), r⟩ = some p := hobtained
          rw [hcreated]
          simp [discarded]
      | _ => cases hobtained
  | _ => cases hobtained

lemma held_step (htrail : Trail cfg tr work record) (h : Work.Moves cfg deadline work x work')
    (hrecord : record.Step x record') (p : String) (hp : work'.holds = some p) :
    p ≠ "" ∧ currentId (tr ++ [x]) = some p ∧ p ∉ givenUp (tr ++ [x]) := by
  rcases holds_step h hp with hobtained | ⟨hheld, hnone, hcreated, hdiscarded⟩
  · exact ⟨obtained_ne_empty hobtained, currentId_append_some hobtained,
      obtained_kept htrail h hrecord hp hobtained⟩
  · obtain ⟨hne, hcurrent, hkept⟩ := htrail.held p hheld
    rw [currentId_append_none hnone, givenUp_append_of_quiet hcreated hdiscarded]
    exact ⟨hne, hcurrent, hkept⟩

/-- The pod that has been terminated is the one that is cleared. -/
lemma disposing_clears (h : Work.Moves cfg deadline work x work') {q : String}
    (hq : work.disposing = some q) : x = ⟨.clear q, ()⟩ := by
  cases h <;> first | cases hq; rfl | cases hq

lemma unnamed_step (htrail : Trail cfg tr work record) (htemplate : cfg.templateModeEnabled)
    (hc : record.store.configuredPodId = "") (h : Work.Moves cfg deadline work x work')
    (hrecord : record.Step x record') :
    ∀ q ∈ givenUp (tr ++ [x]), q ≠ "" → work'.disposing ≠ some q → record'.load ≠ .ok q := by
  have hunnamed := htrail.unnamed htemplate
  intro q hmem hq hdisposing'
  rw [givenUp_append] at hmem
  obtain ⟨o, r⟩ := x
  cases o with
  | clear p =>
      obtain rfl : record' = record.clear p := hrecord
      by_cases hqp : q = p
      · subst hqp
        exact Record.clear_load_ne hc hq
      · have hgiven : q ∈ givenUp tr := by simpa [created, discarded, hqp] using hmem
        have hload : record.load ≠ .ok q := by
          refine hunnamed q hgiven hq fun hdisposing => hqp ?_
          have hx := disposing_clears h hdisposing
          cases hx
          rfl
        rcases record.clear_load p with hsame | hempty
        · rwa [hsame]
        · rw [hempty]
          exact fun heq => hq (Except.ok.inj heq).symm
  | openState p =>
      obtain rfl : record' = record.openState p := hrecord
      cases h with
      | opened =>
          obtain ⟨hne, -, hkept⟩ := htrail.held p rfl
          have hload : (record.openState p).load = .ok p :=
            ActivePodStore.openState_load hc hne _
          rw [hload]
          rintro heq
          obtain rfl := Except.ok.inj heq
          exact hkept (by simpa [created, discarded] using hmem)
  | writeState p =>
      obtain rfl : record' = record.writeState p := hrecord
      cases h with
      | written =>
          obtain ⟨hne, -, hkept⟩ := htrail.held p rfl
          have hmemory := htrail.opened _ p rfl hc
          have hload : (record.writeState p).load = .ok p := by
            show record.store.load _ = .ok p
            rw [ActivePodStore.load_memory (by rwa [hmemory]), hmemory]
          rw [hload]
          rintro heq
          obtain rfl := Except.ok.inj heq
          exact hkept (by simpa [created, discarded] using hmem)
  | graphql call =>
      have hclears : Relation.ReflTransGen Record.ClearedByOther record record' := hrecord
      have hgiven : q ∈ givenUp tr := by
        cases call with
        | podTerminate p =>
            cases h with
            | terminated =>
                have hne : q ≠ p := fun hqp => hdisposing' (congrArg some hqp.symm)
                simpa [created, discarded, hne] using hmem
        | podFindAndDeployOnDemand input =>
            simp only [discarded, Option.toFinset_none, Finset.union_empty] at hmem
            exact (Finset.mem_sdiff.mp hmem).1
        | _ => simpa [created, discarded] using hmem
      refine Record.load_ne_of_cleared hq (hunnamed q hgiven hq fun hdisposing => ?_) hclears
      cases disposing_clears h hdisposing
  | load =>
      obtain ⟨-, rfl⟩ := hrecord
      refine hunnamed q (by simpa [created, discarded] using hmem) hq fun hdisposing => ?_
      cases disposing_clears h hdisposing
  | time | note _ | releaseLock =>
      obtain rfl : record' = record := hrecord
      refine hunnamed q (by simpa [created, discarded] using hmem) hq fun hdisposing => ?_
      cases disposing_clears h hdisposing
  | acquireLock => cases h
  | _ =>
      have hclears : Relation.ReflTransGen Record.ClearedByOther record record' := hrecord
      refine Record.load_ne_of_cleared hq (hunnamed q (by simpa [created, discarded] using hmem) hq
        fun hdisposing => ?_) hclears
      cases disposing_clears h hdisposing

lemma fixed_step (htrail : Trail cfg tr work record) (hfixed : ¬ cfg.templateModeEnabled)
    (h : Work.Moves cfg deadline work x work') :
    (∃ e, work' = .leave (.error e)) ∨ givenUp (tr ++ [x]) = ∅ := by
  rcases htrail.fixed hfixed with ⟨e, rfl⟩ | hempty
  · cases h
  have hquiet : ∀ {x}, discarded x = none → givenUp (tr ++ [x]) = ∅ := by
    intro x hdiscarded
    rw [givenUp_append, hempty, hdiscarded]
    simp
  cases h with
  | clearedMissing htemplate => exact absurd htemplate hfixed
  | clearedFixed _ => exact .inl ⟨_, rfl⟩
  | terminated => exact absurd (htrail.terminating trivial) hfixed
  | clearedTerminated => exact absurd (htrail.terminating trivial) hfixed
  | clearedRaises _ => exact .inl ⟨_, rfl⟩
  | _ => exact .inr (hquiet rfl)

lemma opened_step (h : Work.Moves cfg deadline work x work') (hrecord : record.Step x record')
    (pu : Purpose) (p : String) (hwork : work' = .writeFile pu p)
    (hc : record'.store.configuredPodId = "") : record'.store.activePodId = p := by
  rw [hrecord.configuredPodId] at hc
  subst hwork
  cases h with
  | opened =>
      obtain rfl : record' = record.openState p := hrecord
      show (record.store.openState record.file p).1.activePodId = p
      rw [ActivePodStore.openState, if_neg (not_not.mpr hc)]
  | inspected _ hwork => cases hwork
  | reinspected _ hwork => cases hwork
  | probed hprobed => rcases hprobed.leads with ⟨e, h⟩ | h | ⟨detail, h⟩ <;> cases h
  | pollProbed hprobed => rcases hprobed.leads with ⟨e, h⟩ | h | ⟨detail, h⟩ <;> cases h

lemma called_step (hcalled : work.purpose ≠ some .alone) (h : Work.Moves cfg deadline work x work') :
    work'.purpose ≠ some .alone := by
  cases h with
  | inspected _ hwork => cases hwork <;> exact nofun
  | reinspected _ hwork => cases hwork <;> exact nofun
  | probed hprobed => rcases hprobed.leads with ⟨e, rfl⟩ | rfl | ⟨detail, rfl⟩ <;> exact nofun
  | pollProbed hprobed => rcases hprobed.leads with ⟨e, rfl⟩ | rfl | ⟨detail, rfl⟩ <;> exact nofun
  | _ => first | exact hcalled | exact nofun

/-- What a probe that finds the wrapper healthy has been answered. -/
lemma probeVerdict_healthy {r : Except Exn HealthAnswer} {detail : String}
    (h : probeVerdict r = .ok (true, detail)) : ∃ answer, r = .ok answer ∧ answer.status = 200 ∧
      answer.protocolHeader = some protocolVersion := by
  rcases r with e | answer
  · rw [probeVerdict] at h
    split_ifs at h
    cases h
  · refine ⟨answer, rfl, ?_⟩
    rw [probeVerdict, healthVerdict] at h
    split_ifs at h with hstatus hheader
    · cases h
    · exact ⟨hstatus, not_not.mp hheader⟩
    · cases h

lemma fromPod_traced {p : String} {pod : Pod} {b : Bool} {r : Except Exn HttpAnswer}
    (hread : podOutcome p r = .ok pod) (hcurrent : currentId tr = some p) (hkept : p ∉ givenUp tr)
    (h : Work.FromPod cfg p pod b work) : work.Traced cfg (tr ++ [⟨.graphql (.pod p), r⟩]) := by
  cases h with
  | mapped hmapping =>
      exact ⟨tr ++ [⟨.graphql (.pod p), r⟩], [], pod, (List.append_nil _).symm,
        ⟨tr, r, rfl, hread, hcurrent, hkept⟩, hmapping, fun x hx => absurd hx List.not_mem_nil⟩
  | _ => trivial

lemma probed_traced {p : String} {mapping : String × PyInt} {wait : String → Work}
    {r : Except Exn HealthAnswer}
    (hwait : ∀ detail tr, (wait detail).Traced cfg tr) (hmapped : Mapped cfg tr p mapping)
    (h : Work.Probed p (mappingUrl mapping) wait (probeVerdict r) work) :
    work.Traced cfg (tr ++ [⟨.health (mappingUrl mapping ++ "/health"), r⟩]) := by
  generalize hverdict : probeVerdict r = verdict at h
  cases h with
  | raises e => trivial
  | incompatible => trivial
  | unhealthy _ => exact hwait _ _
  | healthy detail =>
      obtain ⟨answer, rfl, hstatus, hheader⟩ := probeVerdict_healthy hverdict
      exact ⟨mapping, answer, tr, rfl, rfl, hmapped, hstatus, hheader⟩

lemma traced_step (htrail : Trail cfg tr work record) (h : Work.Moves cfg deadline work x work') :
    work'.Traced cfg (tr ++ [x]) := by
  have htraced := htrail.traced
  cases h with
  | inspected hread hwork =>
      obtain ⟨-, hcurrent, hkept⟩ := htrail.held _ rfl
      exact fromPod_traced hread hcurrent hkept hwork
  | reinspected hread hwork =>
      obtain ⟨-, hcurrent, hkept⟩ := htrail.held _ rfl
      exact fromPod_traced hread hcurrent hkept hwork
  | polled hread =>
      obtain ⟨-, hcurrent, hkept⟩ := htrail.held _ rfl
      exact ⟨tr, _, rfl, hread, hcurrent, hkept⟩
  | @pollMapped s pod now since mapping _ hmapping =>
      refine ⟨tr, [⟨.time, now⟩], pod, rfl, htraced, hmapping, ?_⟩
      rintro x hx
      obtain rfl := List.mem_singleton.mp hx
      rfl
  | probed hprobed => exact probed_traced (by exact fun _ _ => trivial) htraced hprobed
  | pollProbed hprobed => exact probed_traced (by exact fun _ _ => trivial) htraced hprobed
  | @announced p url =>
      obtain ⟨mapping, answer, tr₀, hurl, rfl, hmapped, hstatus, hheader⟩ := htraced
      refine ⟨p, tr₀, [⟨.note (.ready p url), ()⟩], mapping, answer, List.append_assoc _ _ _,
        hmapped, hurl, hstatus, hheader, ?_⟩
      rintro x hx
      obtain rfl := List.mem_singleton.mp hx
      exact .inl rfl
  | deployLookAlone _ => exact absurd rfl htrail.called
  | unlockedAlone => exact absurd rfl htrail.called
  | _ => trivial

/-- **One step under the lock.** -/
theorem trail_step (hc : cfg.templateModeEnabled → record.store.configuredPodId = "")
    (htrail : Trail cfg tr work record) (h : Work.Moves cfg deadline work x work')
    (hrecord : record.Step x record') : Trail cfg (tr ++ [x]) work' record' where
  held := held_step htrail h hrecord
  unnamed htemplate := unnamed_step htrail htemplate (hc htemplate) h hrecord
  fixed hfixed := fixed_step htrail hfixed h
  terminating := terminating_step htrail.terminating h
  opened := opened_step h hrecord
  traced := traced_step htrail h
  called := called_step htrail.called h

end Steps

/-! ## Whole calls -/

/-- A call of `ensure_ready`, which need not have ended, in a process with a sound state file. -/
structure RecordedCall (cfg : AdapterConfig) where
  rounds : ℕ
  exchanges : List (Prog.Exchange adapterInterface)
  begins : (ensureReady cfg rounds).run.Begins exchanges
  record : Record
  final : Record
  recorded : Prog.Transcript Record.Step record exchanges final
  configured : record.store.configuredPodId = cfg.runpodPodId

/-- What is known of a call at each stage. -/
def StageTrail (cfg : AdapterConfig) (tr : List (Prog.Exchange adapterInterface))
    (s : Stage × Record) : Prop :=
  s.2.store.configuredPodId = cfg.runpodPodId ∧
    match s.1 with
    | .configure => tr = []
    | .start | .lock _ => givenUp tr = ∅
    | .under _ work => Trail cfg tr work s.2
    | .ended (.ok url) => Verified cfg tr url
    | .ended (.error _) => True

lemma stageTrail_step {cfg : AdapterConfig}
    (hmode : cfg.runpodPodId = "" ∨ cfg.runpodTemplateId = "")
    {tr : List (Prog.Exchange adapterInterface)} {s s' : Stage × Record}
    {x : Prog.Exchange adapterInterface} (h : StageTrail cfg tr s) (hmoves : Moves cfg s.1 x s'.1)
    (hrecord : s.2.Step x s'.2) : StageTrail cfg (tr ++ [x]) s' := by
  obtain ⟨hconfigured, htrail⟩ := h
  refine ⟨hrecord.configuredPodId.trans hconfigured, ?_⟩
  obtain ⟨stage, record⟩ := s
  obtain ⟨stage', record'⟩ := s'
  dsimp only at hmoves hrecord htrail hconfigured ⊢
  cases hmoves with
  | configured _ =>
      obtain rfl : tr = [] := htrail
      rfl
  | unconfigured _ => trivial
  | configureRaises _ => trivial
  | started now => exact (givenUp_append_of_quiet rfl rfl).trans htrail
  | lockRaises _ _ => trivial
  | locked deadline =>
      have hempty : givenUp (tr ++ [⟨.acquireLock, Except.ok ()⟩]) = ∅ :=
        (givenUp_append_of_quiet rfl rfl).trans htrail
      exact
        { held := nofun
          unnamed := fun _ q hq => absurd (hempty ▸ hq) (Finset.notMem_empty q)
          fixed := fun _ => .inr hempty
          terminating := nofun
          opened := nofun
          traced := trivial
          called := nofun }
  | under hmoves =>
      refine trail_step (fun htemplate => ?_) htrail hmoves hrecord
      rcases hmode with hpod | htemplateId
      · rw [hconfigured, hpod]
      · exact absurd htemplateId (of_decide_eq_true htemplate)
  | left deadline outcome =>
      rcases outcome with e | url
      · trivial
      · obtain ⟨p, tr₀, tr₁, mapping, answer, rfl, hmapped, hurl, hstatus, hheader, hquiet⟩ :=
          htrail.traced
        refine ⟨p, tr₀, tr₁ ++ [⟨.releaseLock, ()⟩], mapping, answer, ?_, hmapped, hurl, hstatus,
          hheader, ?_⟩
        · rw [List.append_assoc, List.cons_append]
        · intro x hx
          rcases List.mem_append.mp hx with hx | hx
          · exact hquiet x hx
          · obtain rfl := List.mem_singleton.mp hx
            exact .inr rfl

namespace RecordedCall

variable {cfg : AdapterConfig} (c : RecordedCall cfg)

/-- What the call has returned or raised. -/
def Returns (r : Except Exn String) : Prop := (ensureReady cfg c.rounds).run.Runs c.exchanges r

/-- A probe is answered 200 without the protocol header. -/
def IncompatibleAt (i : ℕ) : Prop :=
  ∃ url answer, c.exchanges[i]? = some ⟨.health url, Except.ok answer⟩ ∧ answer.status = 200 ∧
    answer.protocolHeader ≠ some protocolVersion

/-- The call raises there: all it still does is to give back the lock. -/
def RaisesAt (i : ℕ) : Prop :=
  (∀ x ∈ c.exchanges.drop (i + 1), x = ⟨.releaseLock, ()⟩) ∧
    ∀ r, c.Returns r → r = .error oldImageError

/-- A call that returns an address has it from a verified wrapper. -/
lemma verified_of_returns (hmode : cfg.runpodPodId = "" ∨ cfg.runpodTemplateId = "") {url : String}
    (h : c.Returns (.ok url)) : Verified cfg c.exchanges url := by
  have hrun := (ensureReady_runs cfg h).both c.recorded
  have htrail := hrun.invariant (StageTrail cfg) ⟨c.configured, rfl⟩
    fun tr s x s' htrail hx => stageTrail_step hmode htrail hx.1 hx.2
  exact htrail.2

/-- All that is left of a call that leaves the lock. -/
lemma after_leave {deadline : ℚ} {outcome : Except Exn String}
    {tr : List (Prog.Exchange adapterInterface)} {stage : Stage}
    (h : Prog.Transcript (Moves cfg) (.under deadline (.leave outcome)) tr stage) :
    (∀ x ∈ tr, x = ⟨.releaseLock, ()⟩) ∧ ∀ r, stage = .ended r → r = outcome := by
  cases h with
  | nil => exact ⟨fun x hx => absurd hx List.not_mem_nil, nofun⟩
  | cons hx htr =>
      cases hx with
      | under hmoves => cases hmoves
      | left _ _ =>
          cases htr with
          | nil =>
              refine ⟨fun x hx => List.mem_singleton.mp hx, fun r hr => ?_⟩
              cases hr
              rfl
          | cons hx _ => cases hx

/-- A probe that is answered without the header leaves the lock with the error. -/
lemma leaves_of_incompatible {stage stage' : Stage} {url : String} {answer : HealthAnswer}
    (hstatus : answer.status = 200) (hheader : answer.protocolHeader ≠ some protocolVersion)
    (h : Moves cfg stage ⟨.health url, Except.ok answer⟩ stage') :
    ∃ deadline, stage' = .under deadline (.leave (.error oldImageError)) := by
  have hverdict : probeVerdict (.ok answer) = .ok (false, "protocol_incompatible") := by
    rw [probeVerdict, healthVerdict, if_pos hstatus, if_pos hheader]
  have hleave : ∀ {p url wait work},
      Work.Probed p url wait (.ok (false, "protocol_incompatible")) work →
        work = .leave (.error oldImageError) := by
    intro p url wait work hprobed
    cases hprobed with
    | incompatible => rfl
    | unhealthy hdetail => exact absurd rfl hdetail
  cases h with
  | under hmoves =>
      cases hmoves with
      | probed hprobed =>
          rw [hverdict] at hprobed
          exact ⟨_, congrArg _ (hleave hprobed)⟩
      | pollProbed hprobed =>
          rw [hverdict] at hprobed
          exact ⟨_, congrArg _ (hleave hprobed)⟩

lemma raisesAt_of_incompatibleAt {i : ℕ} (h : c.IncompatibleAt i) : c.RaisesAt i := by
  obtain ⟨url, answer, hi, hstatus, hheader⟩ := h
  constructor
  · obtain ⟨stage, hrun⟩ :=
      Prog.Obeys.exists_begins (moves_total cfg) (ensureReady_through cfg c.rounds) c.begins
    obtain ⟨stage₁, stage₂, -, hmoves, hrest⟩ := hrun.at_index hi
    obtain ⟨deadline, rfl⟩ := leaves_of_incompatible hstatus hheader hmoves
    exact (after_leave hrest).1
  · intro r hr
    obtain ⟨stage₁, stage₂, -, hmoves, hrest⟩ := (ensureReady_runs cfg hr).at_index hi
    obtain ⟨deadline, rfl⟩ := leaves_of_incompatible hstatus hheader hmoves
    exact (after_leave hrest).2 r rfl

end RecordedCall

/-- **A transcription is only sent to a verified wrapper.**  In fixed-pod mode or in template mode: an
address that a call returns is that of its last snapshot and its last probe, of the pod that it works
with and has not given up; and where a probe shows another version, the call raises without doing
anything more. -/
theorem sent_to_verified_wrapper {cfg : AdapterConfig}
    (hmode : cfg.runpodPodId = "" ∨ cfg.runpodTemplateId = "") (c : RecordedCall cfg) :
    (∀ url, c.Returns (.ok url) → Verified cfg c.exchanges url) ∧
      ∀ i, c.IncompatibleAt i → c.RaisesAt i :=
  ⟨fun _ => c.verified_of_returns hmode, fun _ => c.raisesAt_of_incompatibleAt⟩

/-! ## A call that finds its pod running -/

/-- A snapshot of a running pod with a public address. -/
def runningPod : Pod :=
  [("id", .str "pod"), ("runtime", .obj [("ports", .arr [.obj [("privatePort", .int 9000),
    ("publicPort", .int 19000), ("isIpPublic", .bool true), ("type", .str "tcp"),
    ("ip", .str "1.2.3.4")]])])]

def runningAnswer : HttpAnswer where
  status := 200
  text := ""
  json := .ok (.obj [("data", .obj [("pod", .obj runningPod)])])
  errorsText := "None"

/-- A new process, with the id in its state file. -/
def restartedRecord : Record where
  store := .new "" "/state"
  file := ⟨.text "pod\n", none, false⟩
  sound := ⟨rfl, rfl, nofun⟩

def runningExchanges : List (Prog.Exchange adapterInterface) :=
  [⟨.load, Except.ok "pod"⟩, ⟨.time, (0 : ℚ)⟩, ⟨.acquireLock, Except.ok ()⟩,
    ⟨.load, Except.ok "pod"⟩, ⟨.graphql (.pod "pod"), Except.ok runningAnswer⟩,
    ⟨.health "http://1.2.3.4:19000/health", Except.ok ⟨200, some protocolVersion⟩⟩,
    ⟨.note (.ready "pod" "http://1.2.3.4:19000"), ()⟩, ⟨.releaseLock, ()⟩]

def runningCall : RecordedCall .template where
  rounds := 1
  exchanges := runningExchanges
  begins := Prog.begins_of_follow (by decide)
  record := restartedRecord
  final := restartedRecord
  recorded := .cons ⟨rfl, rfl⟩ (.cons rfl (.cons rfl (.cons ⟨rfl, rfl⟩ (.cons .refl (.cons .refl
    (.cons rfl (.cons rfl (.nil _))))))))
  configured := rfl

/-- The call returns the address of its pod. -/
theorem sent_to_verified_wrapper_running :
    runningCall.Returns (.ok "http://1.2.3.4:19000") ∧
      Verified .template runningExchanges "http://1.2.3.4:19000" := by
  have hreturns : runningCall.Returns (.ok "http://1.2.3.4:19000") :=
    Prog.runs_of_follow (by decide)
  exact ⟨hreturns, (sent_to_verified_wrapper (.inl rfl) runningCall).1 _ hreturns⟩
end SpeakrRunpod
