import SpeakrRunpod.Adapter.ManagerLogic

/-!
# A replacement is another pod

Where the manager has terminated a pod or cleared a missing one, it asks the deploy loop for a
replacement.  The loop takes any id that `load` still gives, so the answer is a new pod only if the
store could be cleared, which it cannot when `RUNPOD_POD_ID` is set.

* `freshIds` — RunPod gives every pod an id of its own.
* `NewReplacements` — every replacement in a log was deployed after the pod it replaces was given
  up, and differs from it.
* `replacement_is_new_iff` — this holds of every run exactly when `RUNPOD_POD_ID` is empty.
-/

namespace SpeakrRunpod

open Coop

/-- A deploy is answered with an id that is not among `known` and was never given before. -/
def freshIds (known : Finset String) : Policy := fun _ o r w =>
  match o, r with
  | .graphql (.podFindAndDeployOnDemand input), r =>
      match deployOutcome input r with
      | .ok q => q ∉ known ∧ .deployed q ∉ w.log
      | .error _ => True
  | _, _ => True

instance (known : Finset String) (i : TaskId) (o : Op) (r : o.Res) (w : World) :
    Decidable (freshIds known i o r w) := by
  revert r
  apply @Op.casesOn (fun o => (r : o.Res) → Decidable (freshIds known i o r w)) o
  case graphql =>
    intro call
    apply @GraphqlCall.casesOn
      (fun call => (r : (Op.graphql call).Res) → Decidable (freshIds known i (.graphql call) r w))
      call
    case podFindAndDeployOnDemand =>
      intro input r
      dsimp only [freshIds]
      exact match deployOutcome input r with
        | .ok _ => inferInstance
        | .error _ => inferInstance
    all_goals
      intros
      exact instDecidableTrue
  all_goals
    intros
    exact instDecidableTrue

/-- Since `p` was given up, a deploy has been answered with `q`. -/
def DeployedSince (p q : String) (log : List Event) : Prop :=
  ∃ l₁ l₂, log = l₁ ++ .dropped p :: l₂ ∧ .deployed q ∈ l₁

/-- Every replacement of the log is a new pod. -/
def NewReplacements : List Event → Prop
  | [] => True
  | .replaced p q :: log => (q ≠ p ∧ DeployedSince p q log) ∧ NewReplacements log
  | _ :: log => NewReplacements log

/-! ## Many calls and releases -/

/-- One call of the part of `ensure_ready` under the manager's lock, with this deadline. -/
def lockedCall (cfg : AdapterConfig) (rounds : ℕ) (deadline : ℚ) : Adapter Unit := do
  Adapter.arrive
  let _ ← withLock (readyUnderLock cfg rounds deadline)

/-- A release that starts at any moment. -/
def strayRelease (cfg : AdapterConfig) : Adapter Unit := do
  Adapter.arrive
  releaseIdlePod cfg

/-- Any number of calls, with any deadlines, and of releases. -/
def callsAndReleases (cfg : AdapterConfig) (rounds : ℕ) (deadline : ℕ → ℚ) :
    TaskId → Prog adapterInterface (Except Exn Unit)
  | .request n => (lockedCall cfg rounds (deadline n)).run
  | .idle _ => (strayRelease cfg).run

namespace Replacement

/-! ## The invariant -/

/-- The id has been in use: it was known at the start or was given by a deploy. -/
def Known (known : Finset String) (p : String) (w : World) : Prop :=
  p ∈ known ∨ .deployed p ∈ w.log

structure Inv (known : Finset String) (w : World) : Prop where
  template : w.store.configuredPodId = ""
  sound : w.file.Sound
  recorded : ∀ p, w.load = .ok p → p ≠ "" → Known known p w
  new : NewReplacements w.log

/-- What the holder of the lock may rely on. -/
structure HeldSame (w w' : World) : Prop where
  log : w.log <:+ w'.log
  load : w'.load = w.load ∨ w'.load = .ok ""

structure Rely (i : TaskId) (w w' : World) : Prop where
  lock : w'.lock = some i ↔ w.lock = some i
  held : w.lock = some i → HeldSame w w'

lemma HeldSame.trans {w₁ w₂ w₃ : World} (h₁ : HeldSame w₁ w₂) (h₂ : HeldSame w₂ w₃) :
    HeldSame w₁ w₃ where
  log := h₁.log.trans h₂.log
  load := by
    rcases h₂.load with h | h
    · rw [h]
      exact h₁.load
    · exact .inr h

lemma env_same {w w' : World} (h : World.Env w w') :
    w'.store = w.store ∧ w'.file = w.file ∧ w'.lock = w.lock ∧ w'.log = w.log := by
  cases h <;> exact ⟨rfl, rfl, rfl, rfl⟩

/-- The contract of the calls and releases. -/
def contract (known : Finset String) : Contract (system (freshIds known)) where
  inv := Inv known
  rely := Rely
  rely_refl _ _ := ⟨Iff.rfl, fun _ => ⟨List.suffix_rfl, .inl rfl⟩⟩
  rely_trans h₁ h₂ := ⟨h₂.lock.trans h₁.lock, fun h => (h₁.held h).trans (h₂.held (h₁.lock.mpr h))⟩
  env_inv {w w'} h hw := by
    obtain ⟨hs, hf, -, hl⟩ := env_same h
    have hload : w'.load = w.load := by rw [World.load, World.load, hs, hf]
    refine ⟨hs ▸ hw.template, hf ▸ hw.sound, fun p hp => ?_, hl ▸ hw.new⟩
    rw [Known, hl]
    exact hw.recorded p (hload ▸ hp)
  env_rely {w w'} h _ i := by
    obtain ⟨hs, hf, hlock, hl⟩ := env_same h
    refine ⟨by rw [hlock], fun _ => ⟨hl ▸ List.suffix_rfl, .inl ?_⟩⟩
    rw [World.load, World.load, hs, hf]

variable {known : Finset String}

/-! ## What clearing does -/

lemma load_clear {w : World} (h : Inv known w) (p : String) :
    (w.clear p).load = w.load ∨ (w.clear p).load = .ok "" := by
  rcases w.store.clear_cases w.file (some p) with he | he
  · left
    rw [World.load, World.clear, he, World.load]
  · right
    rw [World.load, World.clear, he]
    exact ActivePodStore.cleared_load h.sound.unlinks

/-- Clearing the id in use leaves nothing on record. -/
lemma load_clear_of_used {w : World} (h : Inv known w) {p : String}
    (hload : w.load = .ok p ∨ w.load = .ok "") : (w.clear p).load = .ok "" := by
  have he : w.store.clear w.file (some p) = w.store.cleared w.file := by
    rcases hload with hload | hload
    · exact ActivePodStore.clear_of_load h.template hload
    · exact ActivePodStore.clear_of_empty h.template (ActivePodStore.memory_of_load hload) _
  rw [World.load, World.clear, he]
  exact ActivePodStore.cleared_load h.sound.unlinks

lemma inv_clear {w : World} (h : Inv known w) (p : String) : Inv known (w.clear p) where
  template := by simpa [World.clear] using h.template
  sound := h.sound.clear _
  recorded q hq hne := by
    rcases load_clear h p with he | he
    · exact h.recorded q (he ▸ hq) hne
    · rw [he] at hq
      exact absurd (Except.ok.inj hq).symm hne
  new := h.new

/-! ## Logs -/

lemma Known.mono {p : String} {w w' : World} (h : Known known p w) (hlog : w.log <:+ w'.log) :
    Known known p w' := h.imp_right fun hm => hlog.subset hm

lemma deployedSince_mono {p q : String} {l l' : List Event} (h : DeployedSince p q l)
    (hl : l <:+ l') : DeployedSince p q l' := by
  obtain ⟨l₁, l₂, rfl, hq⟩ := h
  obtain ⟨l₀, rfl⟩ := hl
  exact ⟨l₀ ++ l₁, l₂, (List.append_assoc _ _ _).symm, List.mem_append_right _ hq⟩

/-- A deploy answered after `p` was given up. -/
lemma deployedSince_cons {p q : String} {l : List Event} (h : .dropped p ∈ l) :
    DeployedSince p q (.deployed q :: l) := by
  obtain ⟨l₁, l₂, rfl⟩ := List.append_of_mem h
  exact ⟨.deployed q :: l₁, l₂, rfl, List.mem_cons_self⟩

/-- The invariant after an event that is no replacement. -/
lemma Inv.logged {w w' : World} (h : Inv known w) (hstore : w'.store = w.store)
    (hfile : w'.file = w.file) (hlog : w.log <:+ w'.log) (hnew : NewReplacements w'.log) :
    Inv known w' where
  template := hstore ▸ h.template
  sound := hfile ▸ h.sound
  recorded p hp hne := by
    rw [World.load, hstore, hfile] at hp
    exact (h.recorded p hp hne).mono hlog
  new := hnew

/-! ## Calls -/

section Call

variable {n : ℕ}

lemma guar_of_holder {w w' : World} (hlock : w.lock = some (.request n))
    (h : w'.lock = w.lock) : (contract known).guar (.request n) w w' := by
  intro j hj
  refine ⟨by rw [h], fun h' => ?_⟩
  rw [hlock] at h'
  exact absurd (Option.some.inj h').symm hj

/-- The call holds the lock. -/
def Holds (known : Finset String) (n : ℕ) (w : World) : Prop :=
  Inv known w ∧ w.lock = some (.request n)

/-- The id may replace the pod `d`. -/
def Replaces (d : Option String) (q : String) (w : World) : Prop :=
  ∀ p, d = some p → q ≠ p ∧ DeployedSince p q w.log

/-- A replacement of `d` is being looked for: `d` has been given up, and what is on record may
replace it. -/
structure Seeks (known : Finset String) (n : ℕ) (d : Option String) (w : World) : Prop where
  holds : Holds known n w
  dropped : ∀ p, d = some p → Known known p w ∧ .dropped p ∈ w.log
  record : ∀ q, w.load = .ok q → q ≠ "" → Replaces d q w

/-- The pod `p` is in use. -/
structure Uses (known : Finset String) (n : ℕ) (p : String) (w : World) : Prop where
  holds : Holds known n w
  nonempty : p ≠ ""
  known : Known known p w
  load : w.load = .ok p ∨ w.load = .ok ""

/-- The id `q` has been obtained to replace `d`. -/
structure Obtained (known : Finset String) (n : ℕ) (d : Option String) (q : String) (w : World) :
    Prop where
  seeks : Seeks known n d w
  uses : Uses known n q w
  replaces : Replaces d q w

lemma holds_stays : (contract known).Stays (.request n) (Holds known n) :=
  ⟨fun h => h.1, fun h hr hinv => ⟨hinv, hr.lock.mpr h.2⟩⟩

lemma Replaces.mono {d : Option String} {q : String} {w w' : World} (h : Replaces d q w)
    (hlog : w.log <:+ w'.log) : Replaces d q w' :=
  fun p hd => ⟨(h p hd).1, deployedSince_mono (h p hd).2 hlog⟩

lemma seeks_stays (d : Option String) : (contract known).Stays (.request n) (Seeks known n d) :=
  ⟨fun h => h.holds.1, fun h hr hinv => by
    have held := hr.held h.holds.2
    refine ⟨⟨hinv, hr.lock.mpr h.holds.2⟩,
      fun p hd => ⟨(h.dropped p hd).1.mono held.log, held.log.subset (h.dropped p hd).2⟩,
      fun q hq hne => ?_⟩
    rcases held.load with he | he
    · exact (h.record q (he ▸ hq) hne).mono held.log
    · rw [he] at hq
      exact absurd (Except.ok.inj hq).symm hne⟩

lemma uses_stays (p : String) : (contract known).Stays (.request n) (Uses known n p) :=
  ⟨fun h => h.holds.1, fun h hr hinv => by
    have held := hr.held h.holds.2
    refine ⟨⟨hinv, hr.lock.mpr h.holds.2⟩, h.nonempty, h.known.mono held.log, ?_⟩
    rcases held.load with he | he
    · rw [he]
      exact h.load
    · exact .inr he⟩

lemma obtained_stays (d : Option String) (q : String) :
    (contract known).Stays (.request n) (Obtained known n d q) :=
  ⟨fun h => h.uses.holds.1, fun h hr hinv =>
    ⟨(seeks_stays d).rely h.seeks hr hinv, (uses_stays q).rely h.uses hr hinv,
      h.replaces.mono (hr.held h.uses.holds.2).log⟩⟩

/-- The pod in use can be given up. -/
lemma droppable {p : String} {w : World} (h : Uses known n p w) :
    Droppable (contract known) (.request n) (Holds known n) (Seeks known n (some p)) p w where
  before := h.holds
  clears := guar_of_holder h.holds.2 rfl
  leave := ⟨inv_clear h.holds.1 p, h.holds.2⟩
  notes := guar_of_holder h.holds.2 rfl
  seek := by
    have hload : (w.clear p).load = .ok "" := load_clear_of_used h.holds.1 h.load
    have hlog : w.log <:+ .dropped p :: w.log := List.suffix_cons _ _
    refine ⟨⟨(inv_clear h.holds.1 p).logged rfl rfl hlog h.holds.1.new, h.holds.2⟩,
      fun x hx => ?_, fun q hq hne => ?_⟩
    · cases hx
      exact ⟨h.known.mono hlog, List.mem_cons_self⟩
    · have hq : (w.clear p).load = .ok q := hq
      rw [hload] at hq
      exact absurd (Except.ok.inj hq).symm hne

/-- The reply to the deploy, and the recording of the new id. -/
lemma deployed {input : DeployInput} {d : Option String} {w w₁ : World}
    {r : Except Exn HttpAnswer} (h : Seeks known n d w) (hload : w.load = .ok "")
    (hrely : Rely (.request n) w.deploySent w₁) (hinv : Inv known w₁)
    (hp : freshIds known (.request n) (.graphql (.podFindAndDeployOnDemand input)) r w₁) :
    let w₂ := w₁.graphqlAnswered (.podFindAndDeployOnDemand input) r
    (contract known).guar (.request n) w₁ w₂ ∧
      match deployOutcome input r with
      | .error _ => Seeks known n d w₂
      | .ok q => (contract known).guar (.request n) w₂ (w₂.openState q) ∧
          (contract known).guar (.request n) (w₂.openState q) ((w₂.openState q).writeState q) ∧
          Obtained known n d q ((w₂.openState q).writeState q) := by
  have hlock : w₁.lock = some (.request n) := hrely.lock.mpr h.holds.2
  have held := hrely.held h.holds.2
  have hlog : w.log <:+ w₁.log := (List.suffix_cons _ _).trans held.log
  have hempty : w₁.load = .ok "" := by
    rcases held.load with he | he
    · rw [he]
      exact hload
    · exact he
  have hdropped : ∀ p, d = some p → Known known p w₁ ∧ .dropped p ∈ w₁.log :=
    fun p hd => ⟨(h.dropped p hd).1.mono hlog, hlog.subset (h.dropped p hd).2⟩
  cases hr : deployOutcome input r with
  | error e =>
      rw [w₁.graphqlAnswered_deploy_error hr]
      refine ⟨guar_of_holder hlock rfl,
        ⟨hinv.logged rfl rfl List.suffix_rfl hinv.new, hlock⟩, hdropped, fun q hq hne => ?_⟩
      have hq : w₁.load = .ok q := hq
      rw [hempty] at hq
      exact absurd (Except.ok.inj hq).symm hne
  | ok q =>
      rw [w₁.graphqlAnswered_deploy_ok hr]
      simp only [freshIds, hr] at hp
      have hq : q ≠ "" := deployOutcome_ne_empty hr
      have hcons : w₁.log <:+ .deployed q :: w₁.log := List.suffix_cons _ _
      have hrep : ∀ p, d = some p → q ≠ p ∧ DeployedSince p q (.deployed q :: w₁.log) := by
        intro p hd
        obtain ⟨hknown, hdrop⟩ := hdropped p hd
        refine ⟨?_, deployedSince_cons hdrop⟩
        rintro rfl
        exact hknown.elim hp.1 hp.2
      have hstored : (((w₁.deployed q).openState q).writeState q).load = .ok q :=
        ActivePodStore.store_load hinv.template hq _
      have hholds : Holds known n (((w₁.deployed q).openState q).writeState q) := by
        refine ⟨⟨?_, (hinv.sound.openState q).writeState q, fun x hx _ => ?_, hinv.new⟩, hlock⟩
        · simpa [World.openState, World.writeState, World.deployed, World.deployAnswered]
            using hinv.template
        · rw [hstored] at hx
          cases hx
          exact .inr List.mem_cons_self
      refine ⟨guar_of_holder hlock rfl, guar_of_holder hlock rfl, guar_of_holder hlock rfl,
        ⟨hholds, fun p hd => ⟨(hdropped p hd).1.mono hcons, hcons.subset (hdropped p hd).2⟩,
          fun x hx _ => ?_⟩, ⟨hholds, hq, .inr List.mem_cons_self, .inl hstored⟩, hrep⟩
      rw [hstored] at hx
      cases hx
      exact hrep

/-- The pod in use, once a terminate has failed. -/
lemma inv_terminateFailed {w : World} (h : Inv known w) (p : String) :
    Inv known (w.terminateFailed p) :=
  h.logged rfl rfl (List.suffix_cons _ _) h.new

/-- The view of a call that holds the lock. -/
def managerView (cfg : AdapterConfig) (n : ℕ) : ManagerView cfg (contract known) n where
  seek := Seeks known n
  fresh := Obtained known n
  held := Uses known n
  leave := Holds known n
  seek_stays := seeks_stays
  fresh_stays := obtained_stays
  held_stays := uses_stays
  leave_stays := holds_stays
  seek_leave h := h.holds
  held_leave h := h.holds
  fresh_seek h := h.seeks
  adopt h := h.uses
  found h hload hq :=
    ⟨h, ⟨h.holds, hq, h.holds.1.recorded _ hload hq, .inl hload⟩, h.record _ hload hq⟩
  sends h _ := ⟨guar_of_holder h.holds.2 rfl,
    h.holds.1.logged rfl rfl (List.suffix_cons _ _) h.holds.1.new⟩
  deployed h hload hrely hinv hp := deployed h hload hrely hinv hp
  replaces {p q w} h := by
    have hlog : w.log <:+ .replaced p q :: w.log := List.suffix_cons _ _
    refine ⟨guar_of_holder h.uses.holds.2 rfl,
      ⟨h.uses.holds.1.logged rfl rfl hlog ⟨h.replaces p rfl, h.uses.holds.1.new⟩,
        h.uses.holds.2⟩, h.uses.nonempty, h.uses.known.mono hlog, h.uses.load⟩
  missing {p w r e} h _ _ _ := ⟨guar_of_holder h.holds.2 rfl, droppable (w := w.reportedMissing p)
    ⟨⟨h.holds.1.logged rfl rfl List.suffix_rfl h.holds.1.new, h.holds.2⟩, h.nonempty, h.known,
      h.load⟩⟩
  terminated {p w r} h _ := by
    have hgone : Uses known n p (w.gone p) :=
      ⟨⟨h.holds.1.logged rfl rfl List.suffix_rfl h.holds.1.new, h.holds.2⟩, h.nonempty, h.known,
        h.load⟩
    have hmissing : Uses known n p (w.reportedMissing p) :=
      ⟨⟨h.holds.1.logged rfl rfl List.suffix_rfl h.holds.1.new, h.holds.2⟩, h.nonempty, h.known,
        h.load⟩
    cases hx : (GraphqlCall.podTerminate p).outcome r with
    | ok _ => exact ⟨guar_of_holder h.holds.2 rfl, droppable hgone⟩
    | error e =>
        simp only [World.terminateAnswered]
        split_ifs
        · exact ⟨guar_of_holder h.holds.2 rfl, droppable hmissing⟩
        · exact ⟨guar_of_holder h.holds.2 rfl, guar_of_holder h.holds.2 rfl,
            inv_clear (inv_terminateFailed h.holds.1 p) p, h.holds.2⟩
  serves h := ⟨guar_of_holder h.holds.2 rfl,
    h.holds.1.logged rfl rfl List.suffix_rfl h.holds.1.new, h.holds.2⟩

end Call

/-! ## Releases -/

section Release

variable {n : ℕ}

lemma inv_stays (i : TaskId) : (contract known).Stays i (Inv known) := ⟨id, fun _ _ hinv => hinv⟩

/-- A step of a release may log anything but a replacement, and it may clear. -/
lemma guar_of_release {w : World} (i : TaskId) (w' : World) (hlock : w'.lock = w.lock)
    (hlog : w.log <:+ w'.log) (hload : w'.load = w.load ∨ w'.load = .ok "") :
    (contract known).guar i w w' :=
  fun _ _ => ⟨by rw [hlock], fun _ => ⟨hlog, hload⟩⟩

lemma guar_clear {w : World} (h : Inv known w) (i : TaskId) (p : String) :
    (contract known).guar i w (w.clear p) :=
  guar_of_release i _ rfl List.suffix_rfl (load_clear h p)

lemma terminateAnswered_spec {w : World} (h : Inv known w) (i : TaskId) (p : String)
    (x : Except Exn Json) :
    (contract known).guar i w (w.terminateAnswered p x) ∧ Inv known (w.terminateAnswered p x) := by
  cases x with
  | ok _ =>
      exact ⟨guar_of_release i (w.gone p) rfl List.suffix_rfl (.inl rfl),
        h.logged rfl rfl List.suffix_rfl h.new⟩
  | error e =>
      rw [World.terminateAnswered]
      split_ifs
      · exact ⟨guar_of_release i (w.reportedMissing p) rfl List.suffix_rfl (.inl rfl),
          h.logged rfl rfl List.suffix_rfl h.new⟩
      · exact ⟨guar_of_release i (w.terminateFailed p) rfl (List.suffix_cons _ _) (.inl rfl),
          inv_terminateFailed h p⟩

lemma delivered_spec {w : World} (h : Inv known w) (n : ℕ) :
    (contract known).guar (.idle n) w (w.delivered (.idle n)) ∧
      Inv known (w.delivered (.idle n)) :=
  ⟨guar_of_release _ (w.delivered (.idle n)) rfl List.suffix_rfl (.inl rfl),
    h.logged rfl rfl List.suffix_rfl h.new⟩

/-- The view of a release. -/
def releaseView (n : ℕ) : ReleaseView (contract known) n where
  enter := Inv known
  watch := Inv known
  target _ := Inv known
  watch_stays := inv_stays _
  target_stays _ := inv_stays _
  enter_watch := id
  target_watch := id
  found h _ _ := h
  delivered h := delivered_spec h n
  polled {p w r} h _ := by
    rcases w.graphqlAnswered_pod p r with he | he <;> rw [he]
    · exact ⟨(contract known).guar_refl _ w, h⟩
    · exact ⟨guar_of_release _ (w.reportedMissing p) rfl List.suffix_rfl (.inl rfl),
        h.logged rfl rfl List.suffix_rfl h.new⟩
  terminated {p w r} h _ _ :=
    have ht := terminateAnswered_spec h (.idle n) p ((GraphqlCall.podTerminate p).outcome r)
    ⟨ht.1, guar_clear ht.2 _ p, inv_clear ht.2 p⟩
  interrupted {p w r} h _ _ _ :=
    have hd := (delivered_spec h n).2
    ⟨guar_clear hd _ p, inv_clear hd p⟩

end Release

/-! ## Runs -/

section Runs

variable {cfg : AdapterConfig} {rounds : ℕ} {deadline : ℕ → ℚ}

lemma call_parked (hkey : cfg.runpodApiKey ≠ "") {n : ℕ} {w : World}
    (h : Inv known w ∧ w.lock ≠ some (.request n)) :
    (contract known).Parked (fun _ _ _ => True) (.request n)
      (callsAndReleases cfg rounds deadline (.request n)) w := by
  have hstays : (contract known).Stays (.request n)
      fun w => Inv known w ∧ w.lock ≠ some (.request n) :=
    ⟨fun h => h.1, fun h hr hinv => ⟨hinv, fun hl => h.2 (hr.lock.mp hl)⟩⟩
  have hcall : (contract known).wpE (.request n) (lockedCall cfg rounds (deadline n))
      (fun _ => Inv known) (fun _ => Inv known) w := by
    refine (contract known).wpE_bind.mpr ((contract known).wpE_mono
      (wpE_arrive (E := fun _ => Inv known) hstays h) (fun _ w₁ h₁ => ?_) fun _ _ h₁ => h₁)
    refine (contract known).wpE_bind.mpr ?_
    refine (contract known).wpE_mono
      ((managerView cfg n).withLock_spec hkey hstays (fun {w₂} h₂ hl => ?_) (fun {w₂} h₂ => ?_) h₁)
      (fun _ _ h₂ => h₂.1) fun _ _ h₂ => h₂.1
    · refine ⟨fun j hj => ⟨?_, fun hj' => ?_⟩,
        ⟨h₂.1.logged rfl rfl List.suffix_rfl h₂.1.new, rfl⟩, fun p hd => ?_, fun q _ _ p hd => ?_⟩
      · simp [hl, Ne.symm hj]
      · simp [hl] at hj'
      · cases hd
      · cases hd
    · refine ⟨fun j hj => ⟨?_, fun hj' => ?_⟩,
        h₂.1.logged rfl rfl List.suffix_rfl h₂.1.new, by simp⟩
      · simp [h₂.2, Ne.symm hj]
      · rw [h₂.2] at hj'
        exact absurd (Option.some.inj hj').symm hj
  refine (contract known).parked_of_wp (o := .arrive) rfl rfl
    ((contract known).wp_mono (fun r w' hr => ?_) hcall)
  have hinv : Inv known w' := by cases r <;> exact hr
  exact ⟨(contract known).guar_refl _ w', hinv, trivial⟩

lemma release_parked {n : ℕ} {w : World} (h : Inv known w) :
    (contract known).Parked (fun _ _ _ => True) (.idle n)
      (callsAndReleases cfg rounds deadline (.idle n)) w := by
  have hrelease : (contract known).wpE (.idle n) (strayRelease cfg) (fun _ => Inv known)
      (fun _ => Inv known) w := by
    refine (contract known).wpE_bind.mpr ((contract known).wpE_lift.mpr ?_)
    exact (contract known).wp_mono (fun _ w₁ h₁ => (releaseView n).releaseIdlePod_spec h₁)
      ((releaseView n).wp_idle_still (p := "") (o := .arrive) trivial h)
  refine (contract known).parked_of_wp (o := .arrive) rfl rfl
    ((contract known).wp_mono (fun r w' hr => ?_) hrelease)
  have hinv : Inv known w' := by cases r <;> exact hr
  exact ⟨guar_of_release _ (w'.exit (.idle n)) rfl List.suffix_rfl (.inl rfl),
    hinv.logged rfl rfl List.suffix_rfl hinv.new, trivial⟩

/-- Without `RUNPOD_POD_ID` every replacement is a new pod. -/
theorem new_of_unset (hkey : cfg.runpodApiKey ≠ "") (hpod : cfg.runpodPodId = "") {w : World}
    (hboot : w.Boots cfg) (hfile : w.file.Sound)
    (hknown : ∀ p, w.load = .ok p → p ≠ "" → p ∈ known)
    {s : Pool adapterInterface TaskId World (Except Exn Unit)}
    (h : Pool.Reaches (system (freshIds known)) ⟨w, callsAndReleases cfg rounds deadline⟩ s) :
    NewReplacements s.world.log := by
  have hw : Inv known w :=
    ⟨hboot.configured.trans hpod, hfile, fun p hp hne => .inl (hknown p hp hne),
      by rw [hboot.log]; trivial⟩
  have htasks : ∀ i, (contract known).Parked (fun _ _ _ => True) i
      (callsAndReleases cfg rounds deadline i) w := by
    intro i
    cases i with
    | request n => exact call_parked hkey ⟨hw, by simp [hboot.lock]⟩
    | idle n => exact release_parked hw
  exact ((contract known).sound (s := ⟨w, callsAndReleases cfg rounds deadline⟩) _
    (fun _ _ _ _ _ _ => trivial) hw htasks h).1.new

end Runs

/-! ## With a configured pod id -/

section Configured

variable {policy : Policy} {cfg : AdapterConfig} {n : ℕ} {w : World}

/-- The answer of RunPod that reports a pod missing. -/
def missingAnswer : Except Exn HttpAnswer :=
  .ok { status := 200
        text := ""
        json := .ok (.obj [("errors", .arr [.str "pod not found"])])
        errorsText := "['pod not found']" }

/-- RunPod cannot be reached. -/
def unreachable : Except Exn HttpAnswer := .error (.requestError .connectError "")

lemma podOutcome_missingAnswer (p : String) :
    podOutcome p missingAnswer = .error (.runPodNotFoundError "['pod not found']") := rfl

/-- A status query by itself. -/
lemma eval_getPod (hkey : cfg.runpodApiKey ≠ "") (p : String) {r : Except Exn HttpAnswer}
    (hp : policy (.request n) (.graphql (.pod p)) r w) :
    (system policy).Eval (.request n) (getPod cfg p).run w [⟨.graphql (.pod p), r⟩]
      (podOutcome p r) (w.graphqlAnswered (.pod p) r) := by
  have hrequire : (system policy).Eval (.request n) (requireApiKey cfg).run w [] (.ok ()) w := by
    rw [requireApiKey, if_neg hkey]
    exact .ret _ w
  have hpost : (system policy).Eval (.request n) (Adapter.post (.pod p)).run w
      [⟨.graphql (.pod p), r⟩] r (w.graphqlAnswered (.pod p) r) :=
    .call_wait (I := adapterInterface) (o := .graphql (.pod p)) rfl ⟨hp, rfl⟩
  have hgraphql : (system policy).Eval (.request n) (graphql cfg (.pod p)).run w
      [⟨.graphql (.pod p), r⟩] ((GraphqlCall.pod p).outcome r)
      (w.graphqlAnswered (.pod p) r) := by
    refine .bind_ok hrequire ?_
    cases r with
    | error e => exact .bind_error hpost
    | ok answer => exact .bind_ok hpost (.ofExcept _ _)
  rw [podOutcome]
  cases hr : (GraphqlCall.pod p).outcome r with
  | error e =>
      rw [hr] at hgraphql
      exact .bind_error hgraphql
  | ok payload =>
      rw [hr] at hgraphql
      exact .bind_ok hgraphql (.ofExcept _ _)

/-- The clock is read. -/
abbrev ticked (w : World) : World := { w with readings := fun k => w.readings (k + 1) }

/-- With an id on record the deploy loop returns it at once. -/
lemma eval_deployLoop {rounds : ℕ} {deadline : ℚ} {p : String} (hload : w.load = .ok p)
    (hp : p ≠ "") (htime : w.readings 0 < deadline) :
    (system policy).Eval (.request n) (deployFromTemplateWithRetry cfg (rounds + 1) deadline).run w
      [] (.ok p) (ticked w) := by
  have hnow : (system policy).Eval (.request n) Adapter.time.run w [] (.ok (w.readings 0))
      (ticked w) := .lift_exec (I := adapterInterface) (o := .time) rfl
  have hexisting : (system policy).Eval (.request n) Adapter.load.run (ticked w) [] (.ok p)
      (ticked w) := by
    rw [← hload]
    exact .call_exec (I := adapterInterface) (o := .load) rfl
  have hround : (system policy).Eval (.request n)
      (deployRound cfg deadline "RunPod deploy did not complete").run w [] (.ok (.inr p))
      (ticked w) := by
    refine hnow.bind_ok ?_
    rw [if_pos htime]
    refine hexisting.bind_ok ?_
    rw [if_pos hp]
    exact .ret _ _
  exact .loop_leave hround

lemma eval_note (m : Note) :
    (system policy).Eval (.request n) (Adapter.note m).run w [] (.ok ()) (w.noted (.request n) m) :=
  .lift_exec (I := adapterInterface) (o := .note m) rfl

/-- The process has the configured id `p`. -/
structure Configured (p : String) (w : World) : Prop where
  configured : w.store.configuredPodId = p
  memory : w.store.activePodId = p
  nonempty : p ≠ ""

lemma Configured.load {p : String} (h : Configured p w) : w.load = .ok p := by
  rw [World.load, ActivePodStore.load_memory (h.memory ▸ h.nonempty), h.memory]

lemma Configured.clear {p : String} (h : Configured p w) : w.clear p = w := by
  rw [World.clear, ActivePodStore.clear_of_configured (h.configured ▸ h.nonempty)]

/-- The configured pod has been given up and handed back. -/
def handedBack (n : ℕ) (p : String) (w : World) : World :=
  (ticked (w.noted (.request n) (.dropped p))).noted (.request n) (.replaced p p)

/-- How a call fails that cannot query the pod it was handed back. -/
abbrev connectError : Exn := .requestError .connectError ""

/-- Clearing the configured pod does nothing, and so it replaces itself. -/
lemma eval_replaceMissingPod {rounds : ℕ} {deadline : ℚ} {p message : String}
    (hkey : cfg.runpodApiKey ≠ "") (htemplate : cfg.templateModeEnabled = true)
    (hpolicy : ∀ r w, policy (.request n) (.graphql (.pod p)) r w) (h : Configured p w)
    (htime : w.readings 0 < deadline) :
    (system policy).Eval (.request n) (replaceMissingPod cfg (rounds + 1) deadline p message).run w
      [⟨.graphql (.pod p), unreachable⟩] (.error connectError) (handedBack n p w) := by
  have hclear : (system policy).Eval (.request n) (Adapter.clear p).run w [] (.ok ()) w := by
    have hrun : (system policy).Eval (.request n) (Adapter.clear p).run w [] (.ok ())
        (w.clear p) := .lift_exec (I := adapterInterface) (o := .clear p) rfl
    rwa [h.clear] at hrun
  have hdeploy : (system policy).Eval (.request n)
      (deployFromTemplateWithRetry cfg (rounds + 1) deadline).run
      (w.noted (.request n) (.dropped p)) [] (.ok p) (ticked (w.noted (.request n) (.dropped p))) :=
    eval_deployLoop (show (w.noted (.request n) (.dropped p)).load = .ok p from h.load) h.nonempty
      htime
  have hreplace : (system policy).Eval (.request n)
      (replacePod cfg (rounds + 1) deadline p).run w [] (.ok p) (handedBack n p w) := by
    refine (eval_note (.dropped p)).bind_ok (hdeploy.bind_ok ?_)
    exact (eval_note (.replaced p p)).bind_ok (.ret _ _)
  have hpod := eval_getPod (w := handedBack n p w) hkey p (hpolicy unreachable _)
  refine hclear.bind_ok ?_
  rw [if_pos htemplate]
  exact hreplace.bind_ok hpod.bind_error

/-- A call that finds the configured pod missing is handed the same pod again. -/
lemma eval_readyUnderLock {rounds : ℕ} {deadline : ℚ} {p : String} (hkey : cfg.runpodApiKey ≠ "")
    (htemplate : cfg.templateModeEnabled = true)
    (hpolicy : ∀ r w, policy (.request n) (.graphql (.pod p)) r w) (h : Configured p w)
    (htime : w.readings 0 < deadline) :
    (system policy).Eval (.request n) (readyUnderLock cfg (rounds + 1) deadline).run w
      [⟨.graphql (.pod p), missingAnswer⟩, ⟨.graphql (.pod p), unreachable⟩]
      (.error connectError) (handedBack n p (w.reportedMissing p)) := by
  have hreplace : (system policy).Eval (.request n)
      (replaceMissingPod cfg (rounds + 1) deadline p "['pod not found']").run
      (w.reportedMissing p) [⟨.graphql (.pod p), unreachable⟩] (.error connectError)
      (handedBack n p (w.reportedMissing p)) :=
    eval_replaceMissingPod hkey htemplate hpolicy ⟨h.configured, h.memory, h.nonempty⟩ htime
  have hinspect := (eval_getPod (w := w) hkey p (hpolicy missingAnswer _)).attempt
  have hload : (system policy).Eval (.request n) Adapter.load.run w [] (.ok p) w := by
    rw [← h.load]
    exact .call_exec (I := adapterInterface) (o := .load) rfl
  refine .bind_error (hload.bind_ok ?_)
  rw [if_pos h.nonempty]
  exact hinspect.bind_ok hreplace

/-- The whole call. -/
lemma eval_withLock {rounds : ℕ} {deadline : ℚ} {p : String} (hkey : cfg.runpodApiKey ≠ "")
    (htemplate : cfg.templateModeEnabled = true)
    (hpolicy : ∀ r w, policy (.request n) (.graphql (.pod p)) r w) (h : Configured p w)
    (htime : w.readings 0 < deadline) (hlock : w.lock = none) :
    ∃ tr w', (system policy).Eval (.request n)
      (withLock (readyUnderLock cfg (rounds + 1) deadline)).run w tr (.error connectError) w' ∧
      w'.log = .replaced p p :: .dropped p :: w.log := by
  have hacquire : (system policy).Eval (.request n) Adapter.acquireLock.run w [] (.ok ())
      { w with lock := some (.request n) } :=
    .call_exec (I := adapterInterface) (o := .acquireLock) (if_pos hlock)
  have hready : (system policy).Eval (.request n) (readyUnderLock cfg (rounds + 1) deadline).run
      { w with lock := some (.request n) } _ (.error connectError) _ :=
    eval_readyUnderLock hkey htemplate hpolicy ⟨h.configured, h.memory, h.nonempty⟩ htime
  exact ⟨_, _, hacquire.bind_ok (hready.tryFinally
    (.lift_exec (I := adapterInterface) (o := .releaseLock) rfl)), rfl⟩

/-- A run in which the configured pod replaces itself. -/
lemma handedBack_reaches (hkey : cfg.runpodApiKey ≠ "") (htemplate : cfg.templateModeEnabled = true)
    (hpod : cfg.runpodPodId ≠ "") (file : StateFile) (known live : Finset String) :
    ∃ s, Pool.Reaches (system (freshIds known))
      ⟨.boot cfg file live, callsAndReleases cfg 1 fun _ => 1⟩ s ∧
      s.world.log = [.replaced cfg.runpodPodId cfg.runpodPodId, .dropped cfg.runpodPodId] := by
  obtain ⟨tr, w', heval, hlog⟩ : ∃ tr w', (system (freshIds known)).Eval (.request 0)
      (withLock (readyUnderLock cfg 1 1)).run (.boot cfg file live) tr (.error connectError) w' ∧
      w'.log = [.replaced cfg.runpodPodId cfg.runpodPodId, .dropped cfg.runpodPodId] :=
    eval_withLock hkey htemplate (fun _ _ => trivial) ⟨rfl, rfl, hpod⟩
      (show (0 : ℚ) < 1 by decide) rfl
  have hcall := heval.bind_error (f := fun _ : String => (pure () : Adapter Unit))
  have hstart := Pool.Step.task (R := system (freshIds known))
    (s := ⟨World.boot cfg file live, callsAndReleases cfg 1 fun _ => 1⟩) (.request 0)
    (o := .arrive) () rfl ⟨trivial, rfl⟩
  exact ⟨_, .head hstart (hcall.reaches _), hlog⟩

end Configured

/-- A replacement of the log is not the pod it replaces. -/
lemma new_ne {p q : String} : ∀ {log : List Event}, NewReplacements log →
    .replaced p q ∈ log → q ≠ p
  | e :: log, hnew, hmem => by
      rcases List.mem_cons.mp hmem with rfl | hmem
      · exact hnew.1.1
      · refine new_ne ?_ hmem
        cases e with
        | replaced => exact hnew.2
        | _ => exact hnew

end Replacement

/-- Both `RUNPOD_POD_ID` and `RUNPOD_TEMPLATE_ID` are set. -/
def AdapterConfig.bothIds : AdapterConfig := { AdapterConfig.template with runpodPodId := "pod" }

/-- With both ids set, a call that finds the configured pod missing clears nothing and is handed
the same pod as its own replacement; nothing is deployed. -/
theorem configured_pod_replaces_itself :
    ¬ ∀ s, Pool.Reaches (system (freshIds {"pod"}))
        ⟨.boot .bothIds ⟨.absent, none, false⟩ {"pod"}, callsAndReleases .bothIds 1 fun _ => 1⟩ s →
      NewReplacements s.world.log := by
  intro hnew
  obtain ⟨s, hs, hlog⟩ := @Replacement.handedBack_reaches .bothIds (by decide) (by decide)
    (by decide) ⟨.absent, none, false⟩ {"pod"} {"pod"}
  have hmem : .replaced "pod" "pod" ∈ s.world.log := by
    rw [hlog]
    exact List.mem_cons_self
  exact Replacement.new_ne (hnew s hs) hmem rfl

/-- **When a replacement is a new pod.**  In template mode, every replacement of every run is newly
deployed and differs from the pod it replaces exactly when `RUNPOD_POD_ID` is empty. -/
theorem replacement_is_new_iff {cfg : AdapterConfig} (hkey : cfg.runpodApiKey ≠ "")
    (htemplate : cfg.templateModeEnabled = true) :
    (∀ (known : Finset String) (rounds : ℕ) (deadline : ℕ → ℚ) (w : World)
      (s : Pool adapterInterface TaskId World (Except Exn Unit)),
      w.Boots cfg → w.file.Sound → (∀ p, w.load = .ok p → p ≠ "" → p ∈ known) →
      Pool.Reaches (system (freshIds known)) ⟨w, callsAndReleases cfg rounds deadline⟩ s →
      NewReplacements s.world.log) ↔ cfg.runpodPodId = "" := by
  constructor
  · intro hnew
    by_contra hpod
    let file : StateFile := ⟨.absent, none, false⟩
    obtain ⟨s, hs, hlog⟩ := Replacement.handedBack_reaches hkey htemplate hpod file
      {cfg.runpodPodId} ∅
    have hknown : ∀ p, (World.boot cfg file ∅).load = .ok p → p ≠ "" →
        p ∈ ({cfg.runpodPodId} : Finset String) := by
      intro p hp _
      have hload : (World.boot cfg file ∅).load = .ok cfg.runpodPodId :=
        ActivePodStore.load_memory hpod
      rw [hload] at hp
      exact Finset.mem_singleton.mpr (Except.ok.inj hp).symm
    have hfile : file.Sound := ⟨rfl, rfl, fun _ h => by cases h⟩
    have hmem : .replaced cfg.runpodPodId cfg.runpodPodId ∈ s.world.log := by
      rw [hlog]
      exact List.mem_cons_self
    exact Replacement.new_ne (hnew _ _ _ _ _ (World.boots_boot cfg file ∅) hfile hknown hs) hmem rfl
  · intro hpod known rounds deadline w s hboot hfile hknown h
    exact Replacement.new_of_unset hkey hpod hboot hfile hknown h

namespace Replacement

/-- The recorded pod `old` is reported missing, and a deploy is answered with `new`. -/
def missingPodReplaced : List (TaskId × Prog.Exchange adapterInterface) :=
  [(.request 0, ⟨.arrive, ()⟩),
    (.request 0, ⟨.graphql (.pod "old"), missingAnswer⟩),
    (.request 0, ⟨.acquireDeployLock, Except.ok ()⟩),
    (.request 0, ⟨.graphql (.podFindAndDeployOnDemand (deployInput .template)),
      jsonAnswer (.obj [("data", .obj [("podFindAndDeployOnDemand", .obj [("id", .str "new")])])])⟩),
    (.request 0, ⟨.releaseDeployLock, Except.ok ()⟩)]

def replacedRun : Option (Pool adapterInterface TaskId World (Except Exn Unit)) :=
  Pool.play (system (freshIds {"old"})) (World.reply? (freshIds {"old"})) missingPodReplaced
    ⟨.bootRecorded, callsAndReleases .template 1 fun _ => 1⟩

theorem replacedRun_isSome : replacedRun.isSome := by decide

end Replacement

theorem replacement_is_new_template :
    .replaced "old" "new" ∈
        (Replacement.replacedRun.get Replacement.replacedRun_isSome).world.log ∧
      NewReplacements (Replacement.replacedRun.get Replacement.replacedRun_isSome).world.log := by
  refine ⟨by decide, (@replacement_is_new_iff .template (by decide) rfl).mpr rfl {"old"} 1
    (fun _ => 1) .bootRecorded _ (World.boots_boot _ _ _) ⟨rfl, rfl, fun _ h => by cases h⟩ ?_
    (Pool.play_reaches World.reply?_answer (Option.some_get _).symm)⟩
  intro p hp _
  have hload : World.bootRecorded.load = .ok "old" := by decide
  rw [hload] at hp
  exact Finset.mem_singleton.mpr (Except.ok.inj hp).symm

end SpeakrRunpod
