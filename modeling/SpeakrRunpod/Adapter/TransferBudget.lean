import SpeakrRunpod.Adapter.TransferSafety

/-!
# What a transfer asks of the network, and for how long

* `Fetching`, `Cleaning` — the exchanges of the two loops of `fetch_result`, as a grammar that every
  run follows (`fetchResult_exchanges`).
* `Budgeted`, `Deletions` — what the requests of such exchanges are.
* `Stamped`, `Clocked`, `OnTime` — exchanges with the times at which they begin and end, and what it
  is for the timers of the event loop to fire on time.
* `transfer_budget` — the requests, the times, and that the cleanup does not show in the outcome.
-/

namespace SpeakrRunpod

open Coop

/-! ## Requests -/

/-- The requests for chunks, with their answers. -/
def gets (tr : List (Prog.Exchange transferInterface)) : List (ChunkRequest × GetReply) :=
  tr.filterMap fun
    | ⟨.get request, reply⟩ => some (request, reply)
    | _ => none

/-- The addresses of the deletions, with their answers. -/
def deletes (tr : List (Prog.Exchange transferInterface)) : List (String × DeleteReply) :=
  tr.filterMap fun
    | ⟨.delete url _ _ _, reply⟩ => some (url, reply)
    | _ => none

/-- The timeout of the cleanup is entered. -/
def startsCleanup : Prog.Exchange transferInterface → Bool
  | ⟨.startTimeout _, _⟩ => true
  | _ => false

/-- The exchanges before the `finally`. -/
def fetching (tr : List (Prog.Exchange transferInterface)) : List (Prog.Exchange transferInterface) :=
  tr.takeWhile fun x => !startsCleanup x

/-- The exchanges of the `finally`. -/
def cleaning (tr : List (Prog.Exchange transferInterface)) : List (Prog.Exchange transferInterface) :=
  tr.dropWhile fun x => !startsCleanup x

section Requests

variable {tr tr' : List (Prog.Exchange transferInterface)}

lemma gets_append : gets (tr ++ tr') = gets tr ++ gets tr' := by simp [gets]

lemma deletes_append : deletes (tr ++ tr') = deletes tr ++ deletes tr' := by simp [deletes]

end Requests

/-- The length of the chunk at `offset`. -/
def chunkLength (length offset : ℕ) : ℕ := min chunkSize (length - offset)

/-- The chunk came back whole. -/
def Complete (x : ChunkRequest × GetReply) : Prop :=
  ∃ piece, piece.length = x.1.limit ∧ Delivers x.1.offset piece ⟨.get x.1, x.2⟩

/-- The next request is for the same chunk, or for the next one after a complete one. -/
def NextRequest (x y : ChunkRequest × GetReply) : Prop :=
  y.1.offset = x.1.offset ∨ (Complete x ∧ y.1.offset = x.1.offset + chunkSize)

/-- What is asked of the requests for the chunks of a result. -/
structure Budgeted (url : String) (length : ℕ) (xs : List (ChunkRequest × GetReply)) : Prop where
  first : ∀ x ∈ xs.head?, x.1.offset = 0
  next : xs.IsChain NextRequest
  request : ∀ x ∈ xs, x.1.url = url ∧ x.1.offset < length ∧
    x.1.limit = min chunkSize (length - x.1.offset)
  attempts : ∀ offset, (xs.countP fun x => x.1.offset = offset) ≤ 3

/-- A failure of a deletion after which it is worth another try: an error of the request, or a
status that is neither a success nor final. -/
def DeleteReply.Retryable : DeleteReply → Prop
  | .raised fault => ∃ kind message, fault = .requestError kind message
  | .answered status none => status ∉ [204, 404, 401, 403]
  | .answered _ (some fault) => ∃ kind message, fault = .requestError kind message

/-- What is asked of the deletions. -/
inductive Deletions (url : String) : List (String × DeleteReply) → Prop
  | one (reply : DeleteReply) : Deletions url [(url, reply)]
  | two (reply reply' : DeleteReply) (h : reply.Retryable) :
      Deletions url [(url, reply), (url, reply')]

/-! ## The exchanges of the two loops -/

section Grammar

variable (call : TransferCall) (length : ℕ)

/-- The exchanges of the loop over the chunks, from an attempt at the chunk at `offset` on. -/
inductive Fetching : ℕ → ℕ → List (Prog.Exchange transferInterface) → Prop
  | stop (offset attempt : ℕ) : Fetching offset attempt []
  | late {now : ℚ} (offset attempt : ℕ) (h : call.deadline ≤ now) :
      Fetching offset attempt [⟨.monotonic, now⟩]
  | asked {offset attempt : ℕ} {now : ℚ} (reply : GetReply) (hnow : now < call.deadline)
      (hoffset : offset < length) :
      Fetching offset attempt (attemptRun call offset (chunkLength length offset) now reply)
  | complete {offset attempt : ℕ} {now : ℚ} {reply : GetReply}
      {tr : List (Prog.Exchange transferInterface)} (hnow : now < call.deadline)
      (hoffset : offset < length)
      (hcomplete : Complete
        (chunkRequest call offset (chunkLength length offset) (call.deadline - now), reply))
      (hrest : Fetching (offset + chunkSize) 1 tr) :
      Fetching offset attempt (attemptRun call offset (chunkLength length offset) now reply ++ tr)
  | retried {offset attempt : ℕ} {now : ℚ} {tr : List (Prog.Exchange transferInterface)}
      (reply : GetReply) (now' : ℚ) (cancelled : Bool) (hnow : now < call.deadline)
      (hoffset : offset < length) (hattempt : attempt < 3) (hrest : Fetching offset (attempt + 1) tr) :
      Fetching offset attempt (attemptRun call offset (chunkLength length offset) now reply ++
        ⟨.monotonic, now'⟩ ::
          ⟨.sleep (min (1 / 2 * attempt) (max 0 (call.deadline - now'))), cancelled⟩ :: tr)

/-- One deletion. -/
abbrev deletion (reply : DeleteReply) : Prog.Exchange transferInterface :=
  ⟨.delete call.url call.authorization call.requestId cleanupDeadlineSeconds, reply⟩

/-- The exchanges of the cleanup, under its timeout. -/
inductive Cleaning : List (Prog.Exchange transferInterface) → Prop
  | one (reply : DeleteReply) : Cleaning [deletion call reply]
  | pause {reply : DeleteReply} (h : reply.Retryable) (interruption : Option Interruption) :
      Cleaning [deletion call reply, ⟨.sleepWithin (1 / 10), interruption⟩]
  | two {reply : DeleteReply} (reply' : DeleteReply) (h : reply.Retryable) :
      Cleaning [deletion call reply, ⟨.sleepWithin (1 / 10), (none : Option Interruption)⟩,
        deletion call reply']

end Grammar

/-! ### What such exchanges are -/

section Grammar

variable {call : TransferCall} {length offset attempt : ℕ}
  {tr : List (Prog.Exchange transferInterface)}

@[simp] lemma gets_attempt (expected : ℕ) (now : ℚ) (reply : GetReply) :
    gets (attemptRun call offset expected now reply ++ tr) =
      (chunkRequest call offset expected (call.deadline - now), reply) :: gets tr := rfl

@[simp] lemma gets_attemptRun (expected : ℕ) (now : ℚ) (reply : GetReply) :
    gets (attemptRun call offset expected now reply) =
      [(chunkRequest call offset expected (call.deadline - now), reply)] := rfl

lemma gets_late (now : ℚ) : gets [⟨.monotonic, now⟩] = [] := rfl

lemma gets_pause (now seconds : ℚ) (cancelled : Bool) :
    gets (⟨.monotonic, now⟩ :: ⟨.sleep seconds, cancelled⟩ :: tr) = gets tr := rfl

@[simp] lemma chunkRequest_offset (expected : ℕ) (remaining : ℚ) :
    (chunkRequest call offset expected remaining).offset = offset := rfl

@[simp] lemma chunkRequest_limit (expected : ℕ) (remaining : ℚ) :
    (chunkRequest call offset expected remaining).limit = expected := rfl

@[simp] lemma chunkRequest_url (expected : ℕ) (remaining : ℚ) :
    (chunkRequest call offset expected remaining).url = call.url := rfl

lemma attemptRun_not_cleanup (expected : ℕ) (now : ℚ) (reply : GetReply) :
    ∀ x ∈ attemptRun call offset expected now reply, startsCleanup x = false := by
  intro x hx
  simp only [attemptRun, List.mem_cons, List.not_mem_nil, or_false] at hx
  rcases hx with rfl | rfl <;> rfl

/-- The loop does not clean up. -/
lemma Fetching.not_cleanup (h : Fetching call length offset attempt tr) :
    ∀ x ∈ tr, startsCleanup x = false := by
  induction h with
  | stop => simp
  | late =>
      intro x hx
      rw [List.mem_singleton.mp hx]
      rfl
  | asked => exact attemptRun_not_cleanup _ _ _
  | complete _ _ _ _ ih =>
      intro x hx
      rcases List.mem_append.mp hx with hx | hx
      · exact attemptRun_not_cleanup _ _ _ x hx
      · exact ih x hx
  | retried _ _ _ _ _ _ _ ih =>
      intro x hx
      rcases List.mem_append.mp hx with hx | hx
      · exact attemptRun_not_cleanup _ _ _ x hx
      · rcases List.mem_cons.mp hx with rfl | hx
        · rfl
        · rcases List.mem_cons.mp hx with rfl | hx
          · rfl
          · exact ih x hx

lemma Fetching.deletes (h : Fetching call length offset attempt tr) : deletes tr = [] := by
  induction h with
  | stop => rfl
  | late => rfl
  | asked => rfl
  | complete _ _ _ _ ih => exact ih
  | retried _ _ _ _ _ _ _ ih => exact ih

/-- The first request is for the chunk that the loop has come to. -/
lemma Fetching.first (h : Fetching call length offset attempt tr) :
    ∀ x ∈ (gets tr).head?, x.1.offset = offset := by
  cases h with
  | stop => simp [gets]
  | late =>
      rw [gets_late]
      simp
  | asked => simp
  | complete => simp
  | retried => simp

/-- **The requests go on from one chunk to the next**, by induction on the exchanges. -/
lemma Fetching.next (h : Fetching call length offset attempt tr) :
    (gets tr).IsChain NextRequest := by
  induction h with
  | stop => exact .nil
  | late => exact .nil
  | asked => exact .singleton _
  | complete _ _ hcomplete hrest ih =>
      rw [gets_attempt]
      refine ih.cons fun y hy => .inr ⟨hcomplete, ?_⟩
      simp [hrest.first y hy]
  | retried _ _ _ _ _ _ hrest ih =>
      rw [gets_attempt]
      refine ih.cons fun y hy => .inl ?_
      simp [hrest.first y hy]

lemma Fetching.request (h : Fetching call length offset attempt tr) :
    ∀ x ∈ gets tr, x.1.url = call.url ∧ offset ≤ x.1.offset ∧ x.1.offset < length ∧
      x.1.limit = chunkLength length x.1.offset := by
  induction h with
  | stop => simp [gets]
  | late =>
      rw [gets_late]
      simp
  | asked _ _ hoffset => simp [hoffset]
  | complete _ hoffset _ _ ih =>
      intro x hx
      rw [gets_attempt] at hx
      rcases List.mem_cons.mp hx with rfl | hx
      · simp [hoffset]
      · obtain ⟨hurl, hle, hinside⟩ := ih x hx
        exact ⟨hurl, by omega, hinside⟩
  | retried _ _ _ _ hoffset _ _ ih =>
      intro x hx
      rw [gets_attempt] at hx
      rcases List.mem_cons.mp hx with rfl | hx
      · simp [hoffset]
      · exact ih x hx

/-- **The attempts at one chunk**: what is left of the three at the chunk that the loop has come to,
three at each later one. -/
lemma Fetching.attempts (h : Fetching call length offset attempt tr) (hattempt : attempt ≤ 3) :
    ∀ o, ((gets tr).countP fun x => x.1.offset = o) ≤ if o = offset then 4 - attempt else 3 := by
  induction h with
  | stop => exact fun _ => Nat.zero_le _
  | late => exact fun _ => Nat.zero_le _
  | @asked offset =>
      intro o
      by_cases ho : o = offset
      · simp [ho]
        omega
      · simp [ho, Ne.symm ho]
  | @complete offset _ _ _ tr _ _ _ hrest ih =>
      intro o
      rw [gets_attempt, List.countP_cons, chunkRequest_offset]
      by_cases ho : o = offset
      · have hlater : ((gets tr).countP fun x => x.1.offset = offset) = 0 := by
          rw [List.countP_eq_zero]
          intro x hx
          have hle := (hrest.request x hx).2.1
          have hpos : 0 < chunkSize := by decide
          simp
          omega
        simp [ho, hlater]
        omega
      · have hcount := ih (by omega) o
        simp [ho, Ne.symm ho]
        split_ifs at hcount <;> omega
  | @retried offset attempt _ _ _ _ _ _ _ hthird _ ih =>
      intro o
      have hcount := ih hthird o
      rw [gets_attempt, List.countP_cons, chunkRequest_offset, gets_pause]
      by_cases ho : o = offset
      · simp [ho] at hcount ⊢
        omega
      · simpa [ho, Ne.symm ho] using hcount

/-- **The requests for the chunks of a result.** -/
theorem Fetching.budgeted (h : Fetching call length 0 1 tr) :
    Budgeted call.url length (gets tr) where
  first := h.first
  next := h.next
  request := fun x hx => by
    obtain ⟨hurl, -, hinside, hlimit⟩ := h.request x hx
    exact ⟨hurl, hinside, hlimit⟩
  attempts := fun o => by
    have hcount := h.attempts (by decide) o
    split_ifs at hcount <;> omega

lemma Cleaning.gets (h : Cleaning call tr) : gets tr = [] := by
  cases h <;> rfl

/-- The cleanup deletes and sleeps. -/
lemma Cleaning.under (h : Cleaning call tr) :
    ∀ x ∈ tr, (∃ reply, x = deletion call reply) ∨
      ∃ interruption : Option Interruption, x = ⟨.sleepWithin (1 / 10), interruption⟩ := by
  intro x hx
  cases h with
  | one =>
      rw [List.mem_singleton.mp hx]
      exact .inl ⟨_, rfl⟩
  | pause =>
      simp only [List.mem_cons, List.not_mem_nil, or_false] at hx
      rcases hx with rfl | rfl
      · exact .inl ⟨_, rfl⟩
      · exact .inr ⟨_, rfl⟩
  | two =>
      simp only [List.mem_cons, List.not_mem_nil, or_false] at hx
      rcases hx with rfl | rfl | rfl
      · exact .inl ⟨_, rfl⟩
      · exact .inr ⟨_, rfl⟩
      · exact .inl ⟨_, rfl⟩

lemma Cleaning.not_cleanup (h : Cleaning call tr) : ∀ x ∈ tr, startsCleanup x = false := by
  intro x hx
  rcases h.under x hx with ⟨reply, rfl⟩ | ⟨interruption, rfl⟩ <;> rfl

lemma Cleaning.deletions (h : Cleaning call tr) : Deletions call.url (deletes tr) := by
  cases h with
  | one reply => exact .one reply
  | pause => exact .one _
  | two reply' h => exact .two _ reply' h

end Grammar

/-! ## Times -/

/-- An exchange with the times at which it begins and ends. -/
structure Stamped where
  exchange : Prog.Exchange transferInterface
  start : ℚ
  finish : ℚ

/-- The clock is right, and it stands still except while the coroutine waits. -/
def Clocks (s : Stamped) : Prop :=
  match s.exchange with
  | ⟨.monotonic, (reading : ℚ)⟩ => reading = s.start ∧ s.finish = s.start
  | ⟨.startTimeout _, _⟩ => s.finish = s.start
  | _ => True

/-- The exchanges follow each other from `now` on. -/
def Clocked : ℚ → List Stamped → Prop
  | _, [] => True
  | now, s :: l => s.start = now ∧ now ≤ s.finish ∧ Clocks s ∧ Clocked s.finish l

/-- The timers of an exchange fire on time, and so does the timeout that it is under, which ends at
`limit`. -/
def EndsOnTime (limit : Option ℚ) (s : Stamped) : Prop :=
  match s.exchange with
  | ⟨.get request, _⟩ => s.finish ≤ s.start + request.within
  | ⟨.sleep seconds, _⟩ => s.finish ≤ s.start + seconds
  | ⟨.delete _ _ _ _, _⟩ | ⟨.sleepWithin _, _⟩ => ∀ t ∈ limit, s.finish ≤ t
  | _ => True

/-- The end of the timeout that the later exchanges are under. -/
def timeoutAfter (limit : Option ℚ) (s : Stamped) : Option ℚ :=
  match s.exchange with
  | ⟨.startTimeout seconds, _⟩ => some (s.start + seconds)
  | _ => limit

/-- Every timer fires on time. -/
def OnTime : Option ℚ → List Stamped → Prop
  | _, [] => True
  | limit, s :: l => EndsOnTime limit s ∧ OnTime (timeoutAfter limit s) l

/-- No request for a chunk begins at the deadline or later. -/
def Started (deadline : ℚ) (s : Stamped) : Prop :=
  match s.exchange with
  | ⟨.get _, _⟩ => s.start < deadline
  | _ => True

/-- No request for a chunk and no sleep runs past the deadline. -/
def Punctual (deadline : ℚ) (s : Stamped) : Prop :=
  match s.exchange with
  | ⟨.get _, _⟩ | ⟨.sleep _, _⟩ => s.finish ≤ deadline
  | _ => True

section Times

variable {call : TransferCall} {length offset attempt : ℕ} {limit : Option ℚ} {now : ℚ}
  {tr : List (Prog.Exchange transferInterface)} {l l' : List Stamped} {s : Stamped}

lemma Clocked.prefix : ∀ {now : ℚ} {l : List Stamped}, Clocked now (l ++ l') → Clocked now l
  | _, [], _ => trivial
  | _, _ :: _, ⟨hstart, hle, hclocks, hrest⟩ => ⟨hstart, hle, hclocks, hrest.prefix⟩

/-- What comes before an exchange has ended when it begins, and what follows is clocked as well. -/
lemma Clocked.split (h : Clocked now (l ++ s :: l')) :
    now ≤ s.start ∧ (∀ s' ∈ l, s'.finish ≤ s.start) ∧ Clocked s.start (s :: l') := by
  induction l generalizing now with
  | nil =>
      obtain rfl := h.1
      exact ⟨le_rfl, by simp, h⟩
  | cons s' l ih =>
      obtain ⟨-, hle, -, hrest⟩ := h
      obtain ⟨hstart, hbefore, hafter⟩ := ih hrest
      refine ⟨hle.trans hstart, fun s'' hs'' => ?_, hafter⟩
      rcases List.mem_cons.mp hs'' with rfl | hs''
      · exact hstart
      · exact hbefore s'' hs''

lemma OnTime.prefix : ∀ {limit : Option ℚ} {l : List Stamped}, OnTime limit (l ++ l') →
    OnTime limit l
  | _, [], _ => trivial
  | _, _ :: _, ⟨hends, hrest⟩ => ⟨hends, hrest.prefix⟩

lemma OnTime.suffix : ∀ {limit : Option ℚ} {l : List Stamped}, OnTime limit (l ++ l') →
    ∃ limit', OnTime limit' l'
  | limit, [], h => ⟨limit, h⟩
  | _, _ :: _, ⟨_, hrest⟩ => hrest.suffix

/-- One attempt: the clock is read, and the request begins at that time. -/
lemma Clocked.asked {expected : ℕ} {reading : ℚ} {reply : GetReply} (h : Clocked now l)
    (hl : l.map Stamped.exchange = attemptRun call offset expected reading reply ++ tr) :
    ∃ start finish l', l = ⟨⟨.monotonic, reading⟩, start, reading⟩ ::
        ⟨⟨.get (chunkRequest call offset expected (call.deadline - reading)), reply⟩, reading,
          finish⟩ :: l' ∧
      Clocked finish l' ∧ l'.map Stamped.exchange = tr := by
  rw [attemptRun, List.cons_append, List.cons_append, List.nil_append] at hl
  obtain ⟨⟨_, start, finish⟩, m, rfl, rfl, hm⟩ := List.map_eq_cons_iff.mp hl
  obtain ⟨⟨_, start', finish'⟩, l', rfl, rfl, hl'⟩ := List.map_eq_cons_iff.mp hm
  obtain ⟨-, -, ⟨hclock, hinstant⟩, hstart', -, -, hrest⟩ := h
  dsimp only at hclock hinstant hstart' hrest
  obtain rfl : finish = reading := hinstant.trans hclock.symm
  obtain rfl := hstart'
  exact ⟨start, finish', l', rfl, hrest, hl'⟩

/-- **No request begins at the deadline or later**, by induction on the exchanges. -/
lemma Fetching.started (h : Fetching call length offset attempt tr) :
    ∀ {l : List Stamped} {now : ℚ}, Clocked now l → l.map Stamped.exchange = tr →
      ∀ s ∈ l, Started call.deadline s := by
  induction h with
  | stop =>
      intro l now _ hl
      simp [List.map_eq_nil_iff.mp hl]
  | late =>
      intro l now _ hl s hs
      obtain ⟨s', rfl, hs'⟩ := List.map_eq_singleton_iff.mp hl
      rw [List.mem_singleton.mp hs, Started, hs']
      trivial
  | asked reply hnow _ =>
      intro l now hclocked hl s hs
      rw [← List.append_nil (attemptRun _ _ _ _ _)] at hl
      obtain ⟨start, finish, l', rfl, -, hl'⟩ := hclocked.asked hl
      rw [List.map_eq_nil_iff.mp hl'] at hs
      simp only [List.mem_cons, List.not_mem_nil, or_false] at hs
      rcases hs with rfl | rfl
      · trivial
      · exact hnow
  | complete hnow _ _ _ ih =>
      intro l now hclocked hl s hs
      obtain ⟨start, finish, l', rfl, hrest, hl'⟩ := hclocked.asked hl
      simp only [List.mem_cons] at hs
      rcases hs with rfl | rfl | hs
      · trivial
      · exact hnow
      · exact ih hrest hl' s hs
  | retried reply now' cancelled hnow _ _ _ ih =>
      intro l now hclocked hl s hs
      obtain ⟨start, finish, m, rfl, hm, hl'⟩ := hclocked.asked hl
      obtain ⟨⟨_, start', finish'⟩, m', rfl, rfl, hm'⟩ := List.map_eq_cons_iff.mp hl'
      obtain ⟨⟨_, start'', finish''⟩, l', rfl, rfl, hl''⟩ := List.map_eq_cons_iff.mp hm'
      obtain ⟨-, -, -, -, -, -, hrest⟩ := hm
      simp only [List.mem_cons] at hs
      rcases hs with rfl | rfl | rfl | rfl | hs
      · trivial
      · exact hnow
      · trivial
      · trivial
      · exact ih hrest hl'' s hs

/-- A request that begins before the deadline ends by then. -/
lemma ends_by_deadline {expected : ℕ} {reading finish : ℚ} {reply : GetReply}
    (h : EndsOnTime limit
      ⟨⟨.get (chunkRequest call offset expected (call.deadline - reading)), reply⟩, reading,
        finish⟩) : finish ≤ call.deadline := by
  have hwithin : finish ≤ reading + min 15 (call.deadline - reading) := h
  have hmin := min_le_right 15 (call.deadline - reading)
  linarith

/-- **The loop keeps the deadline**, by induction on its exchanges. -/
lemma Fetching.punctual (h : Fetching call length offset attempt tr) :
    ∀ {l : List Stamped} {now : ℚ}, Clocked now l → OnTime limit l →
      l.map Stamped.exchange = tr → ∀ s ∈ l, Punctual call.deadline s := by
  induction h with
  | stop =>
      intro l now _ _ hl
      simp [List.map_eq_nil_iff.mp hl]
  | late =>
      intro l now _ _ hl s hs
      obtain ⟨s', rfl, hs'⟩ := List.map_eq_singleton_iff.mp hl
      rw [List.mem_singleton.mp hs, Punctual, hs']
      trivial
  | asked reply hnow _ =>
      intro l now hclocked hontime hl s hs
      rw [← List.append_nil (attemptRun _ _ _ _ _)] at hl
      obtain ⟨start, finish, l', rfl, -, hl'⟩ := hclocked.asked hl
      rw [List.map_eq_nil_iff.mp hl'] at hs
      simp only [List.mem_cons, List.not_mem_nil, or_false] at hs
      rcases hs with rfl | rfl
      · trivial
      · exact ends_by_deadline hontime.2.1
  | complete hnow _ _ _ ih =>
      intro l now hclocked hontime hl s hs
      obtain ⟨start, finish, l', rfl, hrest, hl'⟩ := hclocked.asked hl
      simp only [List.mem_cons] at hs
      rcases hs with rfl | rfl | hs
      · trivial
      · exact ends_by_deadline hontime.2.1
      · exact ih hrest hontime.2.2 hl' s hs
  | @retried offset attempt _ _ reply now' cancelled hnow _ _ _ ih =>
      intro l now hclocked hontime hl s hs
      obtain ⟨start, finish, m, rfl, hm, hl'⟩ := hclocked.asked hl
      obtain ⟨⟨_, start', finish'⟩, m', rfl, rfl, hm'⟩ := List.map_eq_cons_iff.mp hl'
      obtain ⟨⟨_, start'', finish''⟩, l', rfl, rfl, hl''⟩ := List.map_eq_cons_iff.mp hm'
      obtain ⟨-, hget, -, hsleep, hrest'⟩ := hontime
      obtain ⟨hstart', -, ⟨hclock, hinstant⟩, hstart'', -, -, hrest⟩ := hm
      dsimp only at hstart' hclock hinstant hstart''
      have hby : finish ≤ call.deadline := ends_by_deadline hget
      have hslept : finish'' ≤ call.deadline := by
        have hleft : 0 ≤ call.deadline - now' := by linarith
        have hpause : finish'' ≤ start'' + max 0 (call.deadline - now') :=
          le_trans hsleep (add_le_add_right (min_le_right _ _) start'')
        rw [max_eq_right hleft] at hpause
        linarith
      simp only [List.mem_cons] at hs
      rcases hs with rfl | rfl | rfl | rfl | hs
      · trivial
      · exact hby
      · trivial
      · exact hslept
      · exact ih hrest hrest' hl'' s hs

/-- The exchanges of the cleanup end with its timeout. -/
lemma Cleaning.within (h : Cleaning call tr) {t : ℚ} (hontime : OnTime (some t) l)
    (hl : l.map Stamped.exchange = tr) :
    ∀ s ∈ l, s.finish ≤ t ∧ Punctual call.deadline s := by
  have hunder := h.under
  clear h
  induction l generalizing tr with
  | nil => simp
  | cons s l ih =>
      obtain ⟨exchange, start, finish⟩ := s
      obtain ⟨hends, hrest⟩ := hontime
      subst hl
      intro s' hs'
      rcases List.mem_cons.mp hs' with rfl | hs'
      · rcases hunder exchange List.mem_cons_self with ⟨reply, rfl⟩ | ⟨interruption, rfl⟩
        · exact ⟨hends t rfl, trivial⟩
        · exact ⟨hends t rfl, trivial⟩
      · have hafter : timeoutAfter (some t) ⟨exchange, start, finish⟩ = some t := by
          rcases hunder exchange List.mem_cons_self with ⟨reply, rfl⟩ | ⟨interruption, rfl⟩ <;> rfl
        rw [hafter] at hrest
        exact ih hrest rfl (fun x hx => hunder x (List.mem_cons_of_mem _ hx)) s' hs'

end Times

/-! ## The runs of a transfer -/

section Follows

variable {call : TransferCall} {length offset attempt : ℕ}
  {tr : List (Prog.Exchange transferInterface)}

/-- Exchanges after which the loop goes on with an attempt at the chunk at `offset`. -/
def Leads (call : TransferCall) (length offset attempt : ℕ)
    (tr : List (Prog.Exchange transferInterface)) : Prop :=
  ∀ rest, Fetching call length offset attempt rest → Fetching call length 0 1 (tr ++ rest)

lemma Leads.fetching (h : Leads call length offset attempt tr) : Fetching call length 0 1 tr := by
  simpa using h [] (.stop offset attempt)

lemma Leads.complete {now : ℚ} {reply : GetReply} (h : Leads call length offset attempt tr)
    (hnow : now < call.deadline) (hoffset : offset < length)
    (hcomplete : Complete
      (chunkRequest call offset (chunkLength length offset) (call.deadline - now), reply)) :
    Leads call length (offset + chunkSize) 1
      (tr ++ attemptRun call offset (chunkLength length offset) now reply) := by
  intro rest hrest
  rw [List.append_assoc]
  exact h _ (.complete hnow hoffset hcomplete hrest)

lemma Leads.retried {now : ℚ} (h : Leads call length offset attempt tr) (reply : GetReply)
    (now' : ℚ) (cancelled : Bool) (hnow : now < call.deadline) (hoffset : offset < length)
    (hattempt : attempt < 3) :
    Leads call length offset (attempt + 1)
      (tr ++ attemptRun call offset (chunkLength length offset) now reply ++ [⟨.monotonic, now'⟩] ++
        [⟨.sleep (min (1 / 2 * attempt) (max 0 (call.deadline - now'))), cancelled⟩]) := by
  intro rest hrest
  rw [List.append_assoc, List.append_assoc, List.append_assoc]
  exact h _ (.retried reply now' cancelled hnow hoffset hattempt hrest)

/-- What the attempts at a chunk leave behind. -/
def LeftAt (call : TransferCall) (length offset : ℕ) :
    Except Exn Bytes → List (Prog.Exchange transferInterface) → Prop
  | .ok _, tr => Leads call length (offset + chunkSize) 1 tr
  | .error _, tr => Fetching call length 0 1 tr

/-- **The attempts follow the grammar**, by induction on how many are left. -/
lemma fetchChunk_follows (call : TransferCall) {body : Bytes} (hoffset : offset < length) :
    ∀ (n attempt : ℕ) (tr : List (Prog.Exchange transferInterface)), attempt + n = 4 → 0 < n →
      Leads call length offset attempt tr →
        Async.Ensures Prog.record
          (fetchChunk call offset (chunkLength length offset) body (List.range' attempt n))
          (LeftAt call length offset) tr := by
  intro n
  induction n with
  | zero => exact fun _ _ _ hpos => absurd hpos (Nat.lt_irrefl 0)
  | succ n ih =>
      intro attempt tr hsum _ hleads
      rw [List.range'_succ]
      refine Async.ensures_bind (Transfer.ensures_monotonic ?_)
      rintro now _ rfl
      dsimp only
      by_cases hremaining : call.deadline - now ≤ 0
      · rw [if_pos hremaining]
        exact Async.ensures_throw (hleads _ (.late _ _ (by linarith)))
      have hnow : now < call.deadline := by linarith
      rw [if_neg hremaining]
      refine Async.ensures_bind (Transfer.ensures_get ?_)
      rintro reply _ rfl
      rw [List.append_assoc]
      dsimp only
      refine Async.ensures_bind (Async.ensures_ofExcept ?_)
      rcases hattempt : attemptChunk offset (chunkLength length offset) reply with e | _ | piece
      · exact hleads _ (.asked reply hnow hoffset)
      · dsimp only
        by_cases hthird : attempt = 3
        · rw [if_pos hthird]
          exact Async.ensures_throw (hleads _ (.asked reply hnow hoffset))
        rw [if_neg hthird]
        refine Async.ensures_bind (Transfer.ensures_monotonic ?_)
        rintro now' _ rfl
        refine Async.ensures_bind (Transfer.ensures_sleep ?_)
        rintro cancelled _ rfl
        have hnext := hleads.retried reply now' cancelled hnow hoffset (by omega)
        cases cancelled with
        | true => exact hnext.fetching
        | false => exact ih (attempt + 1) _ (by omega) (by omega) hnext
      · obtain ⟨hlen, hdelivers⟩ : piece.length = chunkLength length offset ∧
            Delivers offset piece ⟨.get (chunkRequest call offset (chunkLength length offset)
              (call.deadline - now)), reply⟩ :=
          attemptChunk_some hattempt
        exact Async.ensures_pure (hleads.complete hnow hoffset ⟨piece, hlen, hdelivers⟩)

/-- **The `try` follows the grammar**: the invariant of the loop over the offsets is which chunk
comes next. -/
lemma fetchBody_follows (call : TransferCall) (manifest : Manifest) :
    Async.Ensures Prog.record (fetchBody call manifest)
      (fun _ tr => Fetching call manifest.length 0 1 tr) [] := by
  refine Async.ensures_bind (Async.ensures_foldlM
    (fun offsets _ tr => ∃ k ≤ chunkCount manifest.length,
      offsets = List.range' (k * chunkSize) (chunkCount manifest.length - k) chunkSize ∧
        Leads call manifest.length (k * chunkSize) 1 tr) ?_ ?_ _ _ _ ?_)
  · rintro body tr ⟨k, -, -, hleads⟩
    dsimp only
    split_ifs
    · exact Async.ensures_throw hleads.fetching
    · exact Async.ensures_pure hleads.fetching
  · rintro offset offsets body tr ⟨k, hk, hoffsets, hleads⟩
    obtain ⟨n, hn⟩ : ∃ n, chunkCount manifest.length - k = n + 1 := by
      cases hleft : chunkCount manifest.length - k with
      | zero =>
          rw [hleft] at hoffsets
          cases hoffsets
      | succ n => exact ⟨n, rfl⟩
    rw [hn, List.range'_succ] at hoffsets
    obtain ⟨rfl, rfl⟩ := List.cons.inj hoffsets
    have hlt : k < chunkCount manifest.length := by omega
    have hinside := chunkCount_spec.1 k hlt
    refine (fetchChunk_follows call hinside 3 1 tr rfl (by decide) hleads).mono ?_
    rintro (e | body') tr' hleft
    · exact hleft
    · refine ⟨k + 1, by omega, ?_, ?_⟩
      · rw [Nat.succ_mul, show chunkCount manifest.length - (k + 1) = n by omega]
      · rw [Nat.succ_mul]
        exact hleft
  · refine ⟨0, Nat.zero_le _, ?_, fun rest hrest => ?_⟩
    · rw [chunkOffsets, Nat.zero_mul, Nat.sub_zero, chunkCount]
    · rwa [Nat.zero_mul] at hrest

lemma retryable_of_status {reply : DeleteReply} {status : Option ℕ}
    (h : deletionStatus reply = .ok status) (hends : deletionEnds status = false) :
    reply.Retryable := by
  rcases reply with (_ | _) | ⟨status', _ | _ | _⟩ <;> cases h
  · exact ⟨_, _, rfl⟩
  · simpa [deletionEnds, DeleteReply.Retryable] using hends
  · exact ⟨_, _, rfl⟩

/-- After the exchanges `before`, the cleanup has run. -/
def CleanedAfter (call : TransferCall) (before tr : List (Prog.Exchange transferInterface)) : Prop :=
  ∃ tr', tr = before ++ tr' ∧ Cleaning call tr'

lemma cleanupAttempts_follows (call : TransferCall)
    (before : List (Prog.Exchange transferInterface)) :
    Async.Ensures Prog.record (cleanupAttempts call [0, 1])
      (fun _ tr => CleanedAfter call before tr) before := by
  refine Async.ensures_bind (Transfer.ensures_delete ?_)
  rintro reply _ rfl
  refine Async.ensures_bind (Async.ensures_ofExcept ?_)
  cases hstatus : deletionStatus reply with
  | error e => exact ⟨_, rfl, .one reply⟩
  | ok status =>
      dsimp only
      cases hends : deletionEnds status with
      | true => exact Async.ensures_pure ⟨_, rfl, .one reply⟩
      | false =>
          have hretry := retryable_of_status hstatus hends
          rw [if_neg Bool.false_ne_true, if_pos rfl]
          refine Async.ensures_bind (Transfer.ensures_sleepWithin ?_)
          rintro interruption _ rfl
          cases interruption with
          | some i => exact ⟨_, List.append_assoc _ _ _, .pause hretry (some i)⟩
          | none =>
              refine Async.ensures_bind (Transfer.ensures_delete ?_)
              rintro reply' _ rfl
              have hcleaned : CleanedAfter call before
                  (before ++ [deletion call reply] ++
                    [⟨.sleepWithin (1 / 10), (none : Option Interruption)⟩] ++
                      [deletion call reply']) :=
                ⟨_, by simp only [List.append_assoc]; rfl, .two reply' hretry⟩
              refine Async.ensures_bind (Async.ensures_ofExcept ?_)
              cases deletionStatus reply' with
              | error e => exact hcleaned
              | ok status' =>
                  dsimp only
                  have hsecond : ¬ (1 : ℕ) = 0 := by decide
                  rw [if_neg hsecond]
                  split_ifs
                  · exact hcleaned
                  · exact hcleaned

/-- **The `finally` follows the grammar.** -/
lemma cleanup_follows (call : TransferCall) (before : List (Prog.Exchange transferInterface)) :
    Async.Ensures Prog.record (cleanup call)
      (fun _ tr => ∃ tr', tr = before ++ ⟨.startTimeout cleanupDeadlineSeconds, ()⟩ :: tr' ∧
        Cleaning call tr') before := by
  refine Async.ensures_bind (Transfer.ensures_startTimeout ?_)
  rintro _ rfl
  refine Async.ensures_bind (Async.ensures_attempt ((cleanupAttempts_follows call _).mono ?_))
  rintro r _ ⟨tr', rfl, hcleaning⟩
  rw [List.append_assoc]
  dsimp only
  split
  · exact Async.ensures_pure ⟨tr', rfl, hcleaning⟩
  · exact Async.ensures_pure ⟨tr', rfl, hcleaning⟩
  · exact Async.ensures_throw ⟨tr', rfl, hcleaning⟩

/-- The exchanges of a whole call: the loop, the timeout of the cleanup, the cleanup. -/
def Exchanged (call : TransferCall) (length : ℕ) (tr : List (Prog.Exchange transferInterface)) :
    Prop :=
  ∃ tr₁ tr₂, tr = tr₁ ++ ⟨.startTimeout cleanupDeadlineSeconds, ()⟩ :: tr₂ ∧
    Fetching call length 0 1 tr₁ ∧ Cleaning call tr₂

/-- **Every run of `fetch_result` follows the grammar.** -/
theorem fetchResult_exchanges {call : TransferCall} {manifest : Manifest}
    {tr : List (Prog.Exchange transferInterface)} {r : Except Exn Bytes}
    (h : (Async.tryFinally (fetchBody call manifest) (cleanup call)).run.Runs tr r) :
    Exchanged call manifest.length tr := by
  have hspec : Async.Ensures Prog.record (Async.tryFinally (fetchBody call manifest) (cleanup call))
      (fun _ tr => Exchanged call manifest.length tr) [] := by
    refine Async.ensures_tryFinally ((fetchBody_follows call manifest).mono ?_)
    intro r tr₁ hfetching
    refine (cleanup_follows call tr₁).mono ?_
    rintro (e | ⟨⟩) _ ⟨tr₂, rfl, hcleaning⟩
    · exact ⟨tr₁, tr₂, rfl, hfetching, hcleaning⟩
    · exact ⟨tr₁, tr₂, rfl, hfetching, hcleaning⟩
  have hexchanged := Prog.Ensures.runs hspec h (Prog.transcript_record tr [])
  exact hexchanged

/-- The `finally` begins where the loop ends. -/
lemma fetching_append {tr₁ : List (Prog.Exchange transferInterface)}
    (h : ∀ x ∈ tr₁, startsCleanup x = false) (seconds : ℚ)
    (tr₂ : List (Prog.Exchange transferInterface)) :
    fetching (tr₁ ++ ⟨.startTimeout seconds, ()⟩ :: tr₂) = tr₁ ∧
      cleaning (tr₁ ++ ⟨.startTimeout seconds, ()⟩ :: tr₂) = ⟨.startTimeout seconds, ()⟩ :: tr₂ := by
  have hbefore : ∀ x ∈ tr₁, (!startsCleanup x) = true := by
    intro x hx
    rw [h x hx]
    rfl
  constructor
  · rw [fetching, List.takeWhile_append_of_pos hbefore,
      List.takeWhile_cons_of_neg (by simp [startsCleanup]), List.append_nil]
  · rw [cleaning, List.dropWhile_append_of_pos hbefore]
    exact List.dropWhile_cons_of_neg (by simp [startsCleanup])

/-- **The cleanup does not show**: the outcome is what the `try` came to. -/
theorem outcome_of_fetching {call : TransferCall} {manifest : Manifest}
    {tr : List (Prog.Exchange transferInterface)} {r : Except Exn Bytes}
    (h : (Async.tryFinally (fetchBody call manifest) (cleanup call)).run.Runs tr r)
    (hcancelled : ¬ Cancelled (cleaning tr)) :
    (fetchBody call manifest).run.Runs (fetching tr) r := by
  obtain ⟨tr₁, tr', r₁, rfl, hbody, hrest⟩ := Prog.runs_bind.mp h
  obtain ⟨tr₂, tr₃, r₂, rfl, hcleanup, hreturn⟩ := Prog.runs_bind.mp hrest
  have hfetching : Fetching call manifest.length 0 1 tr₁ :=
    (Prog.Ensures.runs (fetchBody_follows call manifest) hbody (Prog.transcript_record tr₁ []) :)
  have hcleaning := Prog.Ensures.runs (cleanup_follows call []) hcleanup
    (Prog.transcript_record tr₂ [])
  have hspec := Prog.Ensures.runs (cleanup_spec call []) hcleanup (Prog.transcript_record tr₂ [])
  obtain ⟨rest, rfl, -⟩ := hcleaning
  obtain rfl : tr₃ = [] := by
    rcases r₂ with e | ⟨⟩
    · exact (Prog.runs_ret.mp hreturn).1
    · exact (Prog.runs_ret.mp hreturn).1
  rw [List.append_nil] at hcancelled ⊢
  obtain ⟨hbefore, hafter⟩ := fetching_append hfetching.not_cleanup
    cleanupDeadlineSeconds rest
  rw [List.nil_append] at hcancelled ⊢
  rw [hafter] at hcancelled
  rw [hbefore]
  rcases r₂ with e | ⟨⟩
  · exact absurd (hspec.2 e rfl).2 hcancelled
  · rw [← (Prog.runs_ret.mp hreturn).2]
    exact hbody

end Follows

section Call

variable {call : TransferCall} {length : ℕ} {now : ℚ}
  {tr₁ tr₂ : List (Prog.Exchange transferInterface)} {l : List Stamped}

/-- The requests of a whole call begin before the deadline. -/
lemma all_started (hfetching : Fetching call length 0 1 tr₁) (hcleaning : Cleaning call tr₂)
    (hl : l.map Stamped.exchange = tr₁ ++ ⟨.startTimeout cleanupDeadlineSeconds, ()⟩ :: tr₂)
    (hclocked : Clocked now l) : ∀ s ∈ l, Started call.deadline s := by
  obtain ⟨l₁, m, rfl, hl₁, hm⟩ := List.map_eq_append_iff.mp hl
  intro s hs
  rcases List.mem_append.mp hs with hs | hs
  · exact hfetching.started hclocked.prefix hl₁ s hs
  · have hmem : s.exchange ∈ _ := List.mem_map_of_mem hs
    rw [hm] at hmem
    rcases List.mem_cons.mp hmem with hs | hs
    · rw [Started, hs]
      trivial
    · rcases hcleaning.under _ hs with ⟨reply, hs⟩ | ⟨interruption, hs⟩
      · rw [Started, hs]
        trivial
      · rw [Started, hs]
        trivial

/-- The times of a whole call. -/
lemma times_kept (hfetching : Fetching call length 0 1 tr₁) (hcleaning : Cleaning call tr₂)
    (hl : l.map Stamped.exchange = tr₁ ++ ⟨.startTimeout cleanupDeadlineSeconds, ()⟩ :: tr₂)
    (hclocked : Clocked now l) (hontime : OnTime none l) :
    (∀ s ∈ l, Punctual call.deadline s) ∧ ∀ c ∈ l, startsCleanup c.exchange →
      ∀ s ∈ l, s.finish ≤ c.start + cleanupDeadlineSeconds := by
  obtain ⟨l₁, m, rfl, hl₁, hm⟩ := List.map_eq_append_iff.mp hl
  obtain ⟨⟨_, start, finish⟩, l₂, rfl, rfl, hl₂⟩ := List.map_eq_cons_iff.mp hm
  obtain ⟨-, hbefore, -, -, hinstant, -⟩ := hclocked.split
  obtain ⟨limit, -, hrest⟩ := hontime.suffix
  have hwithin := hcleaning.within hrest hl₂
  have hpos : (0 : ℚ) ≤ cleanupDeadlineSeconds := by decide
  have hinstant : finish = start := hinstant
  constructor
  · intro s hs
    rcases List.mem_append.mp hs with hs | hs
    · exact hfetching.punctual hclocked.prefix hontime.prefix hl₁ s hs
    · rcases List.mem_cons.mp hs with rfl | hs
      · trivial
      · exact (hwithin s hs).2
  · intro c hc hstarts
    obtain rfl : c = ⟨⟨.startTimeout cleanupDeadlineSeconds, ()⟩, start, finish⟩ := by
      rcases List.mem_append.mp hc with hc | hc
      · have hmem : c.exchange ∈ tr₁ := hl₁ ▸ List.mem_map_of_mem hc
        rw [hfetching.not_cleanup _ hmem] at hstarts
        cases hstarts
      · rcases List.mem_cons.mp hc with rfl | hc
        · rfl
        · have hmem : c.exchange ∈ tr₂ := hl₂ ▸ List.mem_map_of_mem hc
          rw [hcleaning.not_cleanup _ hmem] at hstarts
          cases hstarts
    intro s hs
    dsimp only at hbefore ⊢
    rcases List.mem_append.mp hs with hs | hs
    · linarith [hbefore s hs]
    · rcases List.mem_cons.mp hs with rfl | hs
      · dsimp only
        linarith
      · exact (hwithin s hs).1

end Call

/-- **The budget of a transfer.**  Whatever the network answers, the call ends.  It has sent at most
three requests for each chunk, for one chunk after another and for the next only after a complete
one, none of them begun at the deadline or later, and then one or two deletions.  If the timers fire
on time, no request for a chunk and no sleep runs past the deadline, and the cleanup takes no more
than its own.  Two calls that are answered alike until the cleanup, and not cancelled in it, come to
the same. -/
theorem transfer_budget (baseUrl authorization : String) (manifest : Manifest)
    (requestId : String) (deadline : ℚ) :
    let transfer := (fetchResult baseUrl authorization manifest requestId deadline).run
    let url := resultUrl baseUrl manifest.id
    transfer.Halts ∧
      (∀ tr r, transfer.Runs tr r →
        Budgeted url manifest.length (gets tr) ∧ Deletions url (deletes tr) ∧
          deletes (fetching tr) = [] ∧ gets (cleaning tr) = [] ∧
            ∀ now l, l.map Stamped.exchange = tr → Clocked now l →
              (∀ s ∈ l, Started deadline s) ∧
                (OnTime none l → (∀ s ∈ l, Punctual deadline s) ∧
                  ∀ c ∈ l, startsCleanup c.exchange →
                    ∀ s ∈ l, s.finish ≤ c.start + cleanupDeadlineSeconds)) ∧
      ∀ tr tr' r r', transfer.Runs tr r → transfer.Runs tr' r' → fetching tr = fetching tr' →
        ¬ Cancelled (cleaning tr) → ¬ Cancelled (cleaning tr') → r = r' := by
  have hrecord : ∀ w (x : Prog.Exchange transferInterface), ∃ w', Prog.record w x w' :=
    fun w x => ⟨w ++ [x], rfl⟩
  refine ⟨Prog.Ensures.halts hrecord
    (fetchResult_spec baseUrl authorization manifest requestId deadline), ?_, ?_⟩
  · intro tr r hrun
    obtain ⟨tr₁, tr₂, rfl, hfetching, hcleaning⟩ := fetchResult_exchanges hrun
    obtain ⟨hbefore, hafter⟩ := fetching_append hfetching.not_cleanup cleanupDeadlineSeconds tr₂
    have hgets : gets (⟨.startTimeout cleanupDeadlineSeconds, ()⟩ :: tr₂) = [] := hcleaning.gets
    have hdeletes : deletes (⟨.startTimeout cleanupDeadlineSeconds, ()⟩ :: tr₂) = deletes tr₂ := rfl
    rw [hbefore, hafter, gets_append, deletes_append, hgets, hdeletes, List.append_nil,
      hfetching.deletes, List.nil_append]
    refine ⟨hfetching.budgeted, hcleaning.deletions, rfl, rfl, fun now l hl hclocked => ?_⟩
    exact ⟨all_started hfetching hcleaning hl hclocked, times_kept hfetching hcleaning hl hclocked⟩
  · intro tr tr' r r' hrun hrun' hsame hcancelled hcancelled'
    have hbody := outcome_of_fetching hrun hcancelled
    have hbody' := outcome_of_fetching hrun' hcancelled'
    rw [hsame] at hbody
    exact hbody.unique hbody'

theorem transfer_budget_delivered :
    Budgeted "http://pod:9000/internal/asr-results/0123456789abcdef0123456789abcdef" 2
        (gets (emptyObjectRun "2")) ∧
      Deletions "http://pod:9000/internal/asr-results/0123456789abcdef0123456789abcdef"
        (deletes (emptyObjectRun "2")) := by
  have hbudget := (transfer_budget "http://pod:9000" "Bearer token" emptyObjectManifest
    "abc123def456" 1800).2.1 _ _ emptyObject_runs
  exact ⟨hbudget.1, hbudget.2.1⟩

end SpeakrRunpod
