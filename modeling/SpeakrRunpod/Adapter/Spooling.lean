import SpeakrRunpod.Adapter.Errors
import SpeakrRunpod.Core.Program
import SpeakrRunpod.Core.Text

/-!
# Spooling an upload

`spool_request_body` of `adapter/proxy.py`, against a disk that may refuse any of its operations.
What the stream and the disk raise is of any type `ε`.

* `spoolRequestBody` — the function, over the operations on its temporary file.
* `TempFile`, `disk` — the file behind a buffered handle: a write may leave bytes in the buffer, and
  closing flushes it.
* `Spooled` — all or nothing; `spooled_iff` says when it is kept.
-/

namespace SpeakrRunpod

open Coop

/-! ## The function -/

/-- `request.stream()`: the chunks, and what the stream raises after them. -/
structure BodyStream (ε : Type) where
  chunks : List Bytes
  tail : Option ε

/-- What `spool_request_body` raises: its own `HTTPException`, or what it lets through. -/
inductive SpoolError (ε : Type)
  | httpException (status : ℕ) (detail : String)
  | raised (e : ε)

/-- The operations on the temporary file. -/
inductive SpoolOp
  | namedTemporaryFile
  | write (chunk : Bytes)
  | close
  | unlink (path : String)

def SpoolOp.Res (ε : Type) : SpoolOp → Type
  | .namedTemporaryFile => Except ε String
  | .write _ | .close | .unlink _ => Except ε Unit

abbrev spoolInterface (ε : Type) : Interface := ⟨SpoolOp, SpoolOp.Res ε⟩

/-- A coroutine that spools. -/
abbrev Spool (ε α : Type) := Async (spoolInterface ε) (SpoolError ε) α

variable {ε : Type}

namespace Spool

/-- An operation that answers with a value or raises. -/
def ofAnswer {α : Type} (answer : Except ε α) : Spool ε α :=
  match answer with
  | .ok a => pure a
  | .error e => throw (.raised e)

def namedTemporaryFile : Spool ε String := do
  let answer : Except ε String ← Async.call (I := spoolInterface ε) .namedTemporaryFile
  ofAnswer answer

def write (chunk : Bytes) : Spool ε Unit := do
  let answer : Except ε Unit ← Async.call (I := spoolInterface ε) (.write chunk)
  ofAnswer answer

def close : Spool ε Unit := do
  let answer : Except ε Unit ← Async.call (I := spoolInterface ε) .close
  ofAnswer answer

def unlink (path : String) : Spool ε Unit := do
  let answer : Except ε Unit ← Async.call (I := spoolInterface ε) (.unlink path)
  ofAnswer answer

end Spool

/-- `max_bytes`. -/
def maxBytes (maxFileSizeMb : ℤ) : ℤ := if maxFileSizeMb > 0 then maxFileSizeMb * 1024 * 1024 else 0

/-- `f"Request body exceeds {max_file_size_mb} MB limit"`. -/
def exceedsDetail (maxFileSizeMb : ℤ) : String := s!"Request body exceeds {maxFileSizeMb} MB limit"

/-- The `async for` of the `try`. -/
def spoolChunks (maxFileSizeMb : ℤ) (tail : Option ε) : ℕ → List Bytes → Spool ε Unit
  | _, [] =>
      match tail with
      | none => pure ()
      | some e => throw (.raised e)
  | written, chunk :: chunks => do
      let written := written + chunk.length
      if maxBytes maxFileSizeMb ≠ 0 ∧ (written : ℤ) > maxBytes maxFileSizeMb then
        throw (.httpException 413 (exceedsDetail maxFileSizeMb))
      else do
        Spool.write chunk
        spoolChunks maxFileSizeMb tail written chunks

/-- `spool_request_body`. -/
def spoolRequestBody (request : BodyStream ε) (maxFileSizeMb : ℤ) : Spool ε String := do
  let path ← Spool.namedTemporaryFile
  match ← Async.attempt (spoolChunks maxFileSizeMb request.tail 0 request.chunks) with
  | .error e => do
      Spool.close
      Spool.unlink path
      throw e
  | .ok () => do
      Spool.close
      pure path

/-! ## The file -/

/-- The temporary file and its handle: what the file holds, and what waits in the buffer. -/
structure TempFile where
  path : String
  present : Bool
  stored : Bytes
  pending : Bytes

/-- Before the file is created. -/
def TempFile.absent : TempFile := ⟨"", false, [], []⟩

/-- What an operation does to the file.  A write hands any part of what is pending to the file, a
close all of it; either may fail after a part. -/
def disk : TempFile → Prog.Exchange (spoolInterface ε) → TempFile → Prop
  | _, ⟨.namedTemporaryFile, Except.ok path⟩, f' => f' = ⟨path, true, [], []⟩
  | f, ⟨.namedTemporaryFile, Except.error _⟩, f' => f' = f
  | f, ⟨.write chunk, Except.ok ()⟩, f' =>
      f'.path = f.path ∧ f'.present = f.present ∧ f.stored <+: f'.stored ∧
        f'.stored ++ f'.pending = f.stored ++ f.pending ++ chunk
  | f, ⟨.write chunk, Except.error _⟩, f' =>
      f'.path = f.path ∧ f'.present = f.present ∧ f.stored <+: f'.stored ∧
        f'.stored ++ f'.pending <+: f.stored ++ f.pending ++ chunk
  | f, ⟨.close, Except.ok ()⟩, f' => f' = ⟨f.path, f.present, f.stored ++ f.pending, []⟩
  | f, ⟨.close, Except.error _⟩, f' =>
      f'.path = f.path ∧ f'.present = f.present ∧ f.stored <+: f'.stored ∧
        f'.stored <+: f.stored ++ f.pending
  | f, ⟨.unlink path, Except.ok ()⟩, f' =>
      f' = if path = f.path then { f with present := false } else f
  | f, ⟨.unlink _, Except.error _⟩, f' => f' = f

/-- The disk can answer every operation with success and with failure. -/
lemma disk_total (f : TempFile) (x : Prog.Exchange (spoolInterface ε)) : ∃ f', disk f x f' := by
  obtain ⟨o, answer⟩ := x
  cases o with
  | namedTemporaryFile =>
      cases answer with
      | error e => exact ⟨f, rfl⟩
      | ok path => exact ⟨_, rfl⟩
  | write chunk =>
      cases answer with
      | error e => exact ⟨f, rfl, rfl, List.prefix_rfl, List.prefix_append _ _⟩
      | ok _ =>
          refine ⟨{ f with pending := f.pending ++ chunk }, rfl, rfl, List.prefix_rfl, ?_⟩
          rw [List.append_assoc]
  | close =>
      cases answer with
      | error e => exact ⟨f, rfl, rfl, List.prefix_rfl, List.prefix_append _ _⟩
      | ok _ => exact ⟨_, rfl⟩
  | unlink path =>
      cases answer with
      | error e => exact ⟨f, rfl⟩
      | ok _ => exact ⟨_, rfl⟩

/-! ## All or nothing -/

/-- The chunks make more than the limit. -/
def Over (maxFileSizeMb : ℤ) (chunks : List Bytes) : Prop :=
  maxFileSizeMb > 0 ∧ (chunks.flatten.length : ℤ) > maxFileSizeMb * 1024 * 1024

/-- The chunks that were to be written. -/
def written (tr : List (Prog.Exchange (spoolInterface ε))) : List Bytes :=
  tr.filterMap fun
    | ⟨.write chunk, _⟩ => some chunk
    | _ => none

/-- What an operation raised. -/
def refusal : Prog.Exchange (spoolInterface ε) → Option ε
  | ⟨.namedTemporaryFile, Except.error e⟩ => some e
  | ⟨.write _, Except.error e⟩ => some e
  | ⟨.close, Except.error e⟩ => some e
  | ⟨.unlink _, Except.error e⟩ => some e
  | _ => none

/-- The exchange after which the file is left behind: it cannot be closed, or not be removed. -/
def leaks : Prog.Exchange (spoolInterface ε) → Prop
  | ⟨.close, Except.error _⟩ => True
  | ⟨.unlink _, Except.error _⟩ => True
  | _ => False

/-- **What is asked of a run of `spool_request_body`.**  A path is returned only for a body that came
to its end within the limit, and the file holds that body.  Whatever is raised, there is no file; and
it is the 413 at the first chunk that makes too much, or what the disk or the stream raised before
that. -/
def Spooled (request : BodyStream ε) (maxFileSizeMb : ℤ)
    (tr : List (Prog.Exchange (spoolInterface ε))) : Except (SpoolError ε) String → TempFile → Prop
  | .ok path, f => f.present = true ∧ f.path = path ∧ f.stored = request.chunks.flatten ∧
      request.tail = none ∧ ¬ Over maxFileSizeMb request.chunks
  | .error (.httpException status detail), f => f.present = false ∧ status = 413 ∧
      detail = exceedsDetail maxFileSizeMb ∧
        ∃ before chunk after, request.chunks = before ++ chunk :: after ∧ written tr = before ∧
          ¬ Over maxFileSizeMb before ∧ Over maxFileSizeMb (before ++ [chunk])
  | .error (.raised e), f => f.present = false ∧ ¬ Over maxFileSizeMb (written tr) ∧
      ((∃ x ∈ tr, refusal x = some e) ∨ request.tail = some e ∧ written tr = request.chunks)

/-! ## The steps of a run -/

section Run

variable {request : BodyStream ε} {maxFileSizeMb : ℤ} {path : String}

/-- The exchanges so far, and the file. -/
abbrev SpoolState (ε : Type) := List (Prog.Exchange (spoolInterface ε)) × TempFile

/-- The disk, with the exchanges kept. -/
abbrev kept : SpoolState ε → Prog.Exchange (spoolInterface ε) → SpoolState ε → Prop :=
  Prog.recording disk

section Rules

variable {w : SpoolState ε} {post : Except (SpoolError ε) Unit → SpoolState ε → Prop}

lemma ensures_namedTemporaryFile {post : Except (SpoolError ε) String → SpoolState ε → Prop}
    (hok : ∀ path w', kept w ⟨.namedTemporaryFile, Except.ok path⟩ w' → post (.ok path) w')
    (herror : ∀ e w', kept w ⟨.namedTemporaryFile, Except.error e⟩ w' →
      post (.error (.raised e)) w') : Async.Ensures kept Spool.namedTemporaryFile post w := by
  refine Async.ensures_bind (Async.ensures_call ?_)
  rintro (e | path) w' hx
  · exact herror e w' hx
  · exact hok path w' hx

lemma ensures_write {chunk : Bytes}
    (hok : ∀ w', kept w ⟨.write chunk, Except.ok ()⟩ w' → post (.ok ()) w')
    (herror : ∀ e w', kept w ⟨.write chunk, Except.error e⟩ w' → post (.error (.raised e)) w') :
    Async.Ensures kept (Spool.write chunk) post w := by
  refine Async.ensures_bind (Async.ensures_call ?_)
  rintro (e | ⟨⟩) w' hx
  · exact herror e w' hx
  · exact hok w' hx

lemma ensures_close
    (hok : ∀ w', kept w ⟨.close, Except.ok ()⟩ w' → post (.ok ()) w')
    (herror : ∀ e w', kept w ⟨.close, Except.error e⟩ w' → post (.error (.raised e)) w') :
    Async.Ensures kept Spool.close post w := by
  refine Async.ensures_bind (Async.ensures_call ?_)
  rintro (e | ⟨⟩) w' hx
  · exact herror e w' hx
  · exact hok w' hx

lemma ensures_unlink
    (hok : ∀ w', kept w ⟨.unlink path, Except.ok ()⟩ w' → post (.ok ()) w')
    (herror : ∀ e w', kept w ⟨.unlink path, Except.error e⟩ w' → post (.error (.raised e)) w') :
    Async.Ensures kept (Spool.unlink path) post w := by
  refine Async.ensures_bind (Async.ensures_call ?_)
  rintro (e | ⟨⟩) w' hx
  · exact herror e w' hx
  · exact hok w' hx

end Rules

/-- The check of the loop. -/
lemma over_iff (chunks : List Bytes) :
    (maxBytes maxFileSizeMb ≠ 0 ∧ (chunks.flatten.length : ℤ) > maxBytes maxFileSizeMb) ↔
      Over maxFileSizeMb chunks := by
  rw [maxBytes, Over]
  split_ifs with hpos
  · constructor
    · rintro ⟨-, h⟩
      exact ⟨hpos, h⟩
    · rintro ⟨-, h⟩
      exact ⟨by omega, h⟩
  · simp [hpos]

lemma written_append_write (tr : List (Prog.Exchange (spoolInterface ε))) (chunk : Bytes)
    (answer : Except ε Unit) : written (tr ++ [⟨.write chunk, answer⟩]) = written tr ++ [chunk] := by
  simp [written]

lemma written_append_close (tr : List (Prog.Exchange (spoolInterface ε)))
    (answer : Except ε Unit) : written (tr ++ [⟨.close, answer⟩]) = written tr := by
  simp [written]

lemma written_append_unlink (tr : List (Prog.Exchange (spoolInterface ε)))
    (answer : Except ε Unit) : written (tr ++ [⟨.unlink path, answer⟩]) = written tr := by
  simp [written]

/-- The file is there, under its path, and nothing has leaked it. -/
structure Holds (path : String) (w : SpoolState ε) : Prop where
  clean : ∀ x ∈ w.1, ¬ leaks x
  path_eq : w.2.path = path
  present : w.2.present = true

/-- What the `try` leaves for the code after it. -/
def Looped (request : BodyStream ε) (maxFileSizeMb : ℤ) (path : String) :
    Except (SpoolError ε) Unit → SpoolState ε → Prop
  | .ok (), w => Holds path w ∧ w.2.stored ++ w.2.pending = request.chunks.flatten ∧
      request.tail = none ∧ ¬ Over maxFileSizeMb request.chunks
  | .error e, w => Holds path w ∧
      ∀ f, f.present = false → Spooled request maxFileSizeMb w.1 (.error e) f

lemma unleaked {tr : List (Prog.Exchange (spoolInterface ε))} {x : Prog.Exchange (spoolInterface ε)}
    (h : ∀ y ∈ tr, ¬ leaks y) (hx : ¬ leaks x) : ∀ y ∈ tr ++ [x], ¬ leaks y := by
  intro y hy
  rcases List.mem_append.mp hy with hy | hy
  · exact h y hy
  · rw [List.mem_singleton.mp hy]
    exact hx

lemma Holds.append {w : SpoolState ε} (h : Holds path w) {x : Prog.Exchange (spoolInterface ε)}
    {f : TempFile} (hx : ¬ leaks x) (hpath : f.path = w.2.path) (hpresent : f.present = w.2.present) :
    Holds path (w.1 ++ [x], f) where
  clean := unleaked h.clean hx
  path_eq := hpath.trans h.path_eq
  present := hpresent.trans h.present

/-- **The loop writes chunk after chunk**, by induction on those that are left.  The file and its
buffer hold the chunks before. -/
lemma spoolChunks_spec (request : BodyStream ε) (maxFileSizeMb : ℤ) :
    ∀ (chunks before : List Bytes) (w : SpoolState ε), request.chunks = before ++ chunks →
      Holds path w → written w.1 = before → w.2.stored ++ w.2.pending = before.flatten →
        ¬ Over maxFileSizeMb before →
          Async.Ensures kept
            (spoolChunks maxFileSizeMb request.tail before.flatten.length chunks)
            (Looped request maxFileSizeMb path) w := by
  intro chunks
  induction chunks with
  | nil =>
      intro before w hchunks hholds hwritten hcontent hover
      rw [List.append_nil] at hchunks
      subst hchunks
      unfold spoolChunks
      cases htail : request.tail with
      | none => exact Async.ensures_pure ⟨hholds, hcontent, htail, hover⟩
      | some e =>
          refine Async.ensures_throw ⟨hholds, fun f hf => ⟨hf, ?_, .inr ⟨htail, hwritten⟩⟩⟩
          rwa [hwritten]
  | cons chunk chunks ih =>
      intro before w hchunks hholds hwritten hcontent hover
      have hflatten : (before ++ [chunk]).flatten = before.flatten ++ chunk := by simp
      have hlength : before.flatten.length + chunk.length =
          (before ++ [chunk]).flatten.length := by simp
      rw [spoolChunks, hlength]
      by_cases hexceeds : Over maxFileSizeMb (before ++ [chunk])
      · rw [if_pos ((over_iff _).mpr hexceeds)]
        exact Async.ensures_throw ⟨hholds, fun f hf =>
          ⟨hf, rfl, rfl, before, chunk, chunks, hchunks, hwritten, hover, hexceeds⟩⟩
      rw [if_neg (mt (over_iff _).mp hexceeds)]
      refine Async.ensures_bind (ensures_write ?_ ?_)
      · rintro ⟨_, f⟩ ⟨rfl, hpath, hpresent, -, hstored⟩
        refine ih (before ++ [chunk]) _ (by simp [hchunks]) (hholds.append id hpath hpresent)
          ?_ ?_ hexceeds
        · rw [written_append_write, hwritten]
        · rw [hstored, hcontent, hflatten]
      · rintro e ⟨_, f⟩ ⟨rfl, hpath, hpresent, -⟩
        refine ⟨hholds.append id hpath hpresent, fun f hf => ⟨hf, ?_, .inl ?_⟩⟩
        · rwa [written_append_write, hwritten]
        · exact ⟨_, List.mem_append_right _ List.mem_cons_self, rfl⟩

/-- What has been spooled stays so when the file is removed. -/
lemma Spooled.append {tr : List (Prog.Exchange (spoolInterface ε))} {e : SpoolError ε}
    {f : TempFile} (h : Spooled request maxFileSizeMb tr (.error e) f)
    {x : Prog.Exchange (spoolInterface ε)} (hx : written (tr ++ [x]) = written tr) :
    Spooled request maxFileSizeMb (tr ++ [x]) (.error e) f := by
  cases e with
  | httpException status detail =>
      obtain ⟨hf, hstatus, hdetail, before, chunk, after, hchunks, hwritten, hover⟩ := h
      exact ⟨hf, hstatus, hdetail, before, chunk, after, hchunks, hx.trans hwritten, hover⟩
  | raised e =>
      obtain ⟨hf, hover, hfailed⟩ := h
      refine ⟨hf, hx.symm ▸ hover, ?_⟩
      rcases hfailed with ⟨y, hy, hrefused⟩ | ⟨htail, hall⟩
      · exact .inl ⟨y, List.mem_append_left _ hy, hrefused⟩
      · exact .inr ⟨htail, hx.trans hall⟩

/-- Nothing is spooled when something is raised and the file is there. -/
lemma not_spooled {tr : List (Prog.Exchange (spoolInterface ε))} {e : SpoolError ε} {f : TempFile}
    (hf : f.present = true) : ¬ Spooled request maxFileSizeMb tr (.error e) f := by
  intro h
  have habsent : f.present = false := by
    cases e with
    | httpException status detail => exact h.1
    | raised e => exact h.1
  rw [hf] at habsent
  cases habsent

/-- A run after which the file is left behind. -/
lemma leaked {tr : List (Prog.Exchange (spoolInterface ε))} {x : Prog.Exchange (spoolInterface ε)}
    {e : SpoolError ε} {f : TempFile} (hf : f.present = true) (hx : leaks x) :
    Spooled request maxFileSizeMb (tr ++ [x]) (.error e) f ↔ ∀ y ∈ tr ++ [x], ¬ leaks y :=
  iff_of_false (not_spooled hf) fun h => h x (List.mem_append_right _ List.mem_cons_self) hx

/-- **What the whole function comes to.** -/
lemma spoolRequestBody_spec (request : BodyStream ε) (maxFileSizeMb : ℤ) :
    Async.Ensures kept (spoolRequestBody request maxFileSizeMb)
      (fun r w => Spooled request maxFileSizeMb w.1 r w.2 ↔ ∀ x ∈ w.1, ¬ leaks x)
      ([], .absent) := by
  have hempty : ¬ Over maxFileSizeMb [] := by
    rintro ⟨hpos, h⟩
    simp at h
    omega
  refine Async.ensures_bind (ensures_namedTemporaryFile ?_ ?_)
  · rintro path ⟨_, _⟩ ⟨rfl, rfl⟩
    have hholds : Holds path (([] : List (Prog.Exchange (spoolInterface ε))) ++
        [⟨.namedTemporaryFile, Except.ok path⟩], ⟨path, true, [], []⟩) := by
      refine ⟨fun x hx => ?_, rfl, rfl⟩
      rw [List.mem_singleton.mp hx]
      exact id
    refine Async.ensures_bind (Async.ensures_attempt
      ((spoolChunks_spec request maxFileSizeMb request.chunks [] _ rfl hholds rfl rfl hempty).mono
        ?_))
    rintro (e | ⟨⟩) w hlooped
    · obtain ⟨hholds, hspooled⟩ := hlooped
      refine Async.ensures_bind (ensures_close ?_ ?_)
      · rintro ⟨_, _⟩ ⟨rfl, rfl⟩
        have hclosed := unleaked (x := ⟨.close, Except.ok ()⟩) hholds.clean id
        refine Async.ensures_bind (ensures_unlink ?_ ?_)
        · rintro ⟨_, f⟩ ⟨rfl, hf⟩
          have hf : f = if path = w.2.path then { w.2 with
              stored := w.2.stored ++ w.2.pending, pending := [], present := false } else _ := hf
          have hremoved : f.present = false := by
            rw [hf, if_pos hholds.path_eq.symm]
          exact iff_of_true (((hspooled f hremoved).append (written_append_close _ _)).append
            (written_append_unlink _ _)) (unleaked hclosed id)
        · rintro e' ⟨_, _⟩ ⟨rfl, rfl⟩
          exact leaked hholds.present trivial
      · rintro e' ⟨_, f⟩ ⟨rfl, -, hpresent, -⟩
        exact leaked (hpresent.trans hholds.present) trivial
    · obtain ⟨hholds, hcontent, htail, hover⟩ := hlooped
      refine Async.ensures_bind (ensures_close ?_ ?_)
      · rintro ⟨_, _⟩ ⟨rfl, rfl⟩
        refine Async.ensures_pure (iff_of_true ?_ ?_)
        · exact ⟨hholds.present, hholds.path_eq, hcontent, htail, hover⟩
        · exact unleaked hholds.clean id
      · rintro e' ⟨_, f⟩ ⟨rfl, -, hpresent, -⟩
        exact leaked (hpresent.trans hholds.present) trivial
  · rintro e ⟨_, _⟩ ⟨rfl, rfl⟩
    refine iff_of_true ⟨rfl, hempty, .inl ⟨_, List.mem_cons_self, rfl⟩⟩ fun x hx => ?_
    rw [List.mem_singleton.mp hx]
    exact id

end Run

/-- **When spooling is all or nothing.**  The function ends whatever the disk does; what is asked of
it holds exactly when the file can be closed, and removed where it is to be. -/
theorem spooled_iff (request : BodyStream ε) (maxFileSizeMb : ℤ) :
    (spoolRequestBody request maxFileSizeMb).run.Halts ∧
      ∀ tr r f, (spoolRequestBody request maxFileSizeMb).run.Runs tr r →
        Prog.Transcript disk .absent tr f →
          (Spooled request maxFileSizeMb tr r f ↔ ∀ x ∈ tr, ¬ leaks x) := by
  refine ⟨?_, fun tr r f hrun hdisk => ?_⟩
  · refine Prog.Ensures.halts (fun w x => ?_) (spoolRequestBody_spec request maxFileSizeMb)
    obtain ⟨f', hf'⟩ := disk_total w.2 x
    exact ⟨(w.1 ++ [x], f'), rfl, hf'⟩
  · have h := Prog.Ensures.runs (spoolRequestBody_spec request maxFileSizeMb) hrun (hdisk.recorded [])
    exact h

/-- Two bytes. -/
def twoBytes : BodyStream Exn := ⟨[[0x68, 0x69]], none⟩

/-- The exchanges when the file is closed with the answer given. -/
def twoBytesRun (closed : Except Exn Unit) : List (Prog.Exchange (spoolInterface Exn)) :=
  [⟨.namedTemporaryFile, Except.ok "/tmp/speakr-asr-1.request"⟩,
    ⟨.write [0x68, 0x69], Except.ok ()⟩, ⟨.close, closed⟩]

/-- The file while both bytes are in the buffer. -/
def twoBytesBuffered : TempFile := ⟨"/tmp/speakr-asr-1.request", true, [], [0x68, 0x69]⟩

lemma twoBytes_transcript {closed : Except Exn Unit} {f : TempFile}
    (h : disk twoBytesBuffered (⟨.close, closed⟩ : Prog.Exchange (spoolInterface Exn)) f) :
    Prog.Transcript disk .absent (twoBytesRun closed) f := by
  have hwrite : disk ⟨"/tmp/speakr-asr-1.request", true, [], []⟩
      (⟨.write [0x68, 0x69], Except.ok ()⟩ : Prog.Exchange (spoolInterface Exn))
        twoBytesBuffered := ⟨rfl, rfl, List.nil_prefix, rfl⟩
  exact .cons rfl (.cons hwrite (.cons h (.nil f)))

/-- **An upload that is left behind**: the disk turns out to be full when the buffer is flushed. -/
theorem full_disk_leaks :
    let full : Exn := .osError "[Errno 28] No space left on device"
    ∃ f, (spoolRequestBody twoBytes 0).run.Runs (twoBytesRun (.error full))
        (.error (.raised full)) ∧
      Prog.Transcript disk .absent (twoBytesRun (.error full)) f ∧ f.present = true ∧
        ¬ Spooled twoBytes 0 (twoBytesRun (.error full)) (.error (.raised full)) f := by
  intro full
  refine ⟨twoBytesBuffered, .op _ (.op _ (.op _ (.ret _))), ?_, rfl, not_spooled rfl⟩
  exact twoBytes_transcript ⟨rfl, rfl, List.nil_prefix, List.nil_prefix⟩

/-- The same upload on a disk with room. -/
theorem spooled_iff_room :
    Spooled twoBytes 0 (twoBytesRun (.ok ())) (.ok "/tmp/speakr-asr-1.request")
      ⟨"/tmp/speakr-asr-1.request", true, [0x68, 0x69], []⟩ := by
  have hrun : (spoolRequestBody twoBytes 0).run.Runs (twoBytesRun (.ok ()))
      (.ok "/tmp/speakr-asr-1.request") := .op _ (.op _ (.op _ (.ret _)))
  have hclose : disk twoBytesBuffered
      (⟨.close, Except.ok ()⟩ : Prog.Exchange (spoolInterface Exn))
        ⟨"/tmp/speakr-asr-1.request", true, [0x68, 0x69], []⟩ := rfl
  refine ((spooled_iff twoBytes 0).2 _ _ _ hrun (twoBytes_transcript hclose)).mpr fun x hx => ?_
  simp only [twoBytesRun, List.mem_cons, List.not_mem_nil, or_false] at hx
  rcases hx with rfl | rfl | rfl
  · exact id
  · exact id
  · exact id

end SpeakrRunpod
