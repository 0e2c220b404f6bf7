import SpeakrRunpod.Core.Cooperative
import SpeakrRunpod.Core.Text

/-!
# The tee

`runpod-image/tee_process.py`: what a child process writes on its two streams goes to the container's
streams and to two log files, which the wrapper serves.  The two copying tasks, the coroutine that
waits for them and the signal handler share an event loop with a child that does as it pleases.

* `teeStream`, `teeRun` — `_tee_stream` and `_run`.
* `TeeWorld`, `TeeWorld.Moves`, `teeRuntime` — the child, its pipes, the console and the files.
* `TeeTask`, `teePool` — the tasks of one call of `_run`.
* `tee_keeps_order` — **at any time** the console has a beginning of what was written, and the log
  nothing that the console has not.
* `tee_complete` — **when `_run` returns**, the console has all of it, and so has the log but for
  what its file did not take.
-/

namespace SpeakrRunpod

open Coop

/-! ## The two coroutines -/

/-- The two streams of the child. -/
inductive Side
  | stdout
  | stderr
  deriving DecidableEq

/-- What the operating system refuses. -/
inductive TeeError
  | osError (message : String)
  deriving DecidableEq

inductive TeeOp
  | createSubprocess
  | addSignalHandlers
  /-- `asyncio.gather` of the two copying tasks -/
  | gather
  /-- `process.wait()` -/
  | wait
  /-- a copying task is started by `gather` -/
  | started (side : Side)
  /-- the parent directory is made and the file opened for appending -/
  | openLog (side : Side)
  | read (side : Side) (limit : ℕ)
  /-- `console.buffer.write(chunk)` and `flush()` -/
  | writeConsole (side : Side) (chunk : Bytes)
  /-- `log_file.write(chunk)`, whose count is ignored -/
  | writeLog (side : Side) (chunk : Bytes)
  /-- a copying task has come to an end -/
  | finish (side : Side) (outcome : Except TeeError Unit)
  deriving DecidableEq

abbrev teeInterface : Interface :=
  ⟨TeeOp, fun
    | .wait => ℤ
    | .read _ _ => Except TeeError Bytes
    | .createSubprocess | .gather | .openLog _ | .writeConsole _ _ | .writeLog _ _ =>
        Except TeeError Unit
    | .addSignalHandlers | .started _ | .finish _ _ => Unit⟩

/-- A coroutine of the tee. -/
abbrev Tee (α : Type) := Async teeInterface TeeError α

namespace Tee

/-- An operation that may raise. -/
def fallible {α : Type} (x : Tee (Except TeeError α)) : Tee α := do
  Async.ofExcept (← x)

def createSubprocess : Tee Unit :=
  fallible (Async.call (I := teeInterface) .createSubprocess)

def addSignalHandlers : Tee Unit := Async.call (I := teeInterface) .addSignalHandlers

def gather : Tee Unit := fallible (Async.call (I := teeInterface) .gather)

def wait : Tee ℤ := Async.call (I := teeInterface) .wait

def started (side : Side) : Tee Unit := Async.call (I := teeInterface) (.started side)

def openLog (side : Side) : Tee Unit := fallible (Async.call (I := teeInterface) (.openLog side))

def read (side : Side) (limit : ℕ) : Tee Bytes :=
  fallible (Async.call (I := teeInterface) (.read side limit))

def writeConsole (side : Side) (chunk : Bytes) : Tee Unit :=
  fallible (Async.call (I := teeInterface) (.writeConsole side chunk))

def writeLog (side : Side) (chunk : Bytes) : Tee Unit :=
  fallible (Async.call (I := teeInterface) (.writeLog side chunk))

def finish (side : Side) (outcome : Except TeeError Unit) : Tee Unit :=
  Async.call (I := teeInterface) (.finish side outcome)

end Tee

/-- One round of `while chunk := await stream.read(64 * 1024)`. -/
def teeRound (side : Side) : Tee (Unit ⊕ Unit) := do
  let chunk ← Tee.read side (64 * 1024)
  if chunk = [] then pure (.inr ())
  else do
    Tee.writeConsole side chunk
    Tee.writeLog side chunk
    pure (.inl ())

/-- `_tee_stream`. -/
def teeStream (side : Side) (rounds : ℕ) : Tee Unit := do
  Tee.openLog side
  Async.loop (fun _ => teeRound side) rounds ()

/-- `_run`: the code of the child. -/
def teeRun : Tee ℤ := do
  Tee.createSubprocess
  Tee.addSignalHandlers
  Tee.gather
  Tee.wait

/-- The tasks of one call of `_run`: the call itself, and those that `gather` makes. -/
inductive TeeTask
  | run
  | tee (side : Side)
  deriving DecidableEq

/-- What a task does.  A copying task ends with a value that nobody reads. -/
def TeeTask.program (rounds : ℕ) : TeeTask → Tee ℤ
  | .run => teeRun
  | .tee side => do
      Tee.started side
      let outcome ← Async.attempt (teeStream side rounds)
      Tee.finish side outcome
      pure 0

/-! ## The child and the system -/

/-- A child process, as the event loop knows it: `process.returncode` is set when it is reaped. -/
inductive Child
  | absent
  | running
  | exited (code : ℤ)
  | reaped (code : ℤ)
  deriving DecidableEq

/-- `process.returncode`. -/
def Child.returncode : Child → Option ℤ
  | .reaped code => some code
  | _ => none

/-- What comes of the next write to the console, which writes all or raises. -/
inductive ConsoleState
  | whole
  | broken (after : ℕ) (e : TeeError)

/-- What comes of the next write to an unbuffered file, which may take a part only. -/
inductive FileState
  | whole
  | short (count : ℕ)
  | broken (e : TeeError)

/-- One stream of the child, and where it is copied to. -/
structure TeeSide where
  /-- all that was written on it -/
  written : Bytes
  /-- what is in the pipe and in the reader's buffer -/
  unread : Bytes
  /-- nobody has the other end any more -/
  closed : Bool
  console : Bytes
  consoleState : ConsoleState
  log : Bytes
  fileState : FileState
  /-- how many bytes the log file did not take -/
  lost : ℕ
  /-- how the copying task has ended -/
  outcome : Option (Except TeeError Unit)

structure TeeWorld where
  child : Child
  /-- the signal handlers are installed -/
  handlers : Bool
  /-- the copying tasks are started -/
  gathered : Bool
  side : Side → TeeSide
  /-- the states of the child in which `process.terminate()` was called -/
  terminated : List Child

namespace TeeWorld

/-- A change of one side. -/
def on (w : TeeWorld) (s : Side) (f : TeeSide → TeeSide) : TeeWorld :=
  { w with side := Function.update w.side s (f (w.side s)) }

@[simp] lemma on_side_self (w : TeeWorld) (s : Side) (f : TeeSide → TeeSide) :
    (w.on s f).side s = f (w.side s) := Function.update_self ..

lemma on_side_of_ne (w : TeeWorld) {s s' : Side} (h : s' ≠ s) (f : TeeSide → TeeSide) :
    (w.on s f).side s' = w.side s' := Function.update_of_ne h ..

/-- `_terminate_child`. -/
def terminateChild (w : TeeWorld) : TeeWorld :=
  if w.child.returncode = none then { w with terminated := w.terminated ++ [w.child] } else w

/-- What happens by itself. -/
inductive Moves : TeeWorld → TeeWorld → Prop
  /-- the child, or one of its descendants, writes -/
  | write {w : TeeWorld} (s : Side) (bs : Bytes) (hchild : w.child ≠ .absent)
      (hopen : (w.side s).closed = false) :
      Moves w (w.on s fun t => { t with written := t.written ++ bs, unread := t.unread ++ bs })
  | close {w : TeeWorld} (s : Side) (hchild : w.child ≠ .absent) :
      Moves w (w.on s fun t => { t with closed := true })
  | exit {w : TeeWorld} (code : ℤ) (hchild : w.child = .running) :
      Moves w { w with child := .exited code }
  | reap {w : TeeWorld} (code : ℤ) (hchild : w.child = .exited code) :
      Moves w { w with child := .reaped code }
  /-- `SIGINT` or `SIGTERM`, once there is a handler for it -/
  | signal {w : TeeWorld} (hhandlers : w.handlers) : Moves w w.terminateChild
  | console {w : TeeWorld} (s : Side) (state : ConsoleState) :
      Moves w (w.on s fun t => { t with consoleState := state })
  | file {w : TeeWorld} (s : Side) (state : FileState) :
      Moves w (w.on s fun t => { t with fileState := state })

/-- A write to the console. -/
def consoleWrite (w : TeeWorld) (s : Side) (chunk : Bytes) : Except TeeError Unit × TeeWorld :=
  match (w.side s).consoleState with
  | .whole => (.ok (), w.on s fun t => { t with console := t.console ++ chunk })
  | .broken after e =>
      (.error e, w.on s fun t => { t with console := t.console ++ chunk.take after })

/-- A write to the log file. -/
def logWrite (w : TeeWorld) (s : Side) (chunk : Bytes) : Except TeeError Unit × TeeWorld :=
  match (w.side s).fileState with
  | .whole => (.ok (), w.on s fun t => { t with log := t.log ++ chunk })
  | .short count =>
      (.ok (), w.on s fun t =>
        { t with log := t.log ++ chunk.take count, lost := t.lost + (chunk.length - count) })
  | .broken e => (.error e, w)

/-- The operations that do not wait. -/
def perform (w : TeeWorld) : (o : TeeOp) → Option (teeInterface.Res o × TeeWorld)
  | .addSignalHandlers => some ((), { w with handlers := true })
  | .openLog s => match (w.side s).fileState with
      | .broken e => some (.error e, w)
      | _ => some (.ok (), w)
  | .writeConsole s chunk => some (w.consoleWrite s chunk)
  | .writeLog s chunk => some (w.logWrite s chunk)
  | .finish s outcome => some ((), w.on s fun t => { t with outcome := some outcome })
  | _ => none

/-- The answers to the operations that wait. -/
inductive Answers : (o : TeeOp) → teeInterface.Res o → TeeWorld → TeeWorld → Prop
  | created {w : TeeWorld} (h : w.child = .absent) :
      Answers .createSubprocess (Except.ok ()) w { w with child := .running }
  | notCreated {w : TeeWorld} (e : TeeError) : Answers .createSubprocess (Except.error e) w w
  | started {w : TeeWorld} (s : Side) (h : w.gathered) : Answers (.started s) () w w
  /-- a part of what is there, and nothing only at the end -/
  | read {w : TeeWorld} (s : Side) (limit count : ℕ) (hcount : 0 < count) (hlimit : count ≤ limit)
      (hunread : (w.side s).unread ≠ []) :
      Answers (.read s limit) (Except.ok ((w.side s).unread.take count)) w
        (w.on s fun t => { t with unread := t.unread.drop count })
  | atEnd {w : TeeWorld} (s : Side) (limit : ℕ) (hunread : (w.side s).unread = [])
      (hclosed : (w.side s).closed) : Answers (.read s limit) (Except.ok []) w w
  | notRead {w : TeeWorld} (s : Side) (limit : ℕ) (e : TeeError) :
      Answers (.read s limit) (Except.error e) w w
  | gathered {w : TeeWorld} (h : ∀ s, (w.side s).outcome = some (.ok ())) :
      Answers .gather (Except.ok ()) w w
  /-- the exception of the first task that raises -/
  | notGathered {w : TeeWorld} (s : Side) (e : TeeError)
      (h : (w.side s).outcome = some (.error e)) : Answers .gather (Except.error e) w w
  | waited {w : TeeWorld} (code : ℤ) (h : w.child = .reaped code) : Answers .wait code w w

end TeeWorld

/-- The event loop of the tee.  Waiting for `gather` starts the copying tasks. -/
def teeRuntime : Runtime teeInterface TeeTask TeeWorld where
  exec _ o w := w.perform o
  issue _ o w := if o = .gather then { w with gathered := true } else w
  answer _ o r w w' := TeeWorld.Answers o r w w'
  exit _ w := w
  env := TeeWorld.Moves

/-- A world in which nothing has happened yet; the log files may have contents, and the console and
the files may be in any state. -/
structure TeeWorld.Fresh (before : Side → Bytes) (w : TeeWorld) : Prop where
  child : w.child = .absent
  handlers : w.handlers = false
  gathered : w.gathered = false
  terminated : w.terminated = []
  written : ∀ s, (w.side s).written = []
  unread : ∀ s, (w.side s).unread = []
  console : ∀ s, (w.side s).console = []
  log : ∀ s, (w.side s).log = before s
  lost : ∀ s, (w.side s).lost = 0
  outcome : ∀ s, (w.side s).outcome = none

/-- The call of `_run` and its tasks, before the first step of each. -/
def teePool (rounds : ℕ) (w : TeeWorld) : Pool teeInterface TeeTask TeeWorld (Except TeeError ℤ) where
  world := w
  tasks i := (i.program rounds).run

/-! ## What is kept on the way -/

namespace TeeSide

/-- **Nothing is lost on the way**: the bytes `p` have been read and are not on the console yet, the
bytes `q` are on the console and not in the log yet. -/
structure Holds (before p q : Bytes) (t : TeeSide) : Prop where
  copied : t.console ++ (p ++ t.unread) = t.written
  logged : ∃ kept, t.log = before ++ kept ∧ (kept ++ q).Sublist t.console ∧
    (kept ++ q).length + t.lost = t.console.length

/-- **Nothing is out of order.** -/
structure Ordered (before : Bytes) (t : TeeSide) : Prop where
  copied : t.console <+: t.written
  logged : ∃ kept, t.log = before ++ kept ∧ kept.Sublist t.console

section Steps

variable {before p q : Bytes} {t : TeeSide}

lemma Holds.ordered (h : t.Holds before p q) : t.Ordered before := by
  obtain ⟨kept, hlog, hsub, -⟩ := h.logged
  exact ⟨⟨_, h.copied⟩, kept, hlog, (List.sublist_append_left kept q).trans hsub⟩

/-- A chunk is read. -/
lemma Holds.read (h : t.Holds before [] []) (count : ℕ) :
    Holds before (t.unread.take count) [] { t with unread := t.unread.drop count } where
  copied := by
    rw [List.take_append_drop]
    exact h.copied
  logged := h.logged

/-- The chunk goes to the console. -/
lemma Holds.console (h : t.Holds before p []) :
    Holds before [] p { t with console := t.console ++ p } where
  copied := by
    have hcopied := h.copied
    rwa [← List.append_assoc] at hcopied
  logged := by
    obtain ⟨kept, hlog, hsub, hlength⟩ := h.logged
    rw [List.append_nil] at hsub hlength
    refine ⟨kept, hlog, List.Sublist.append hsub (List.Sublist.refl p), ?_⟩
    simp only [List.length_append]
    omega

/-- The console takes a part of the chunk, and fails. -/
lemma Holds.consoleFails (h : t.Holds before p []) (after : ℕ) :
    Ordered before { t with console := t.console ++ p.take after } where
  copied := by
    refine ⟨p.drop after ++ t.unread, ?_⟩
    rw [List.append_assoc, ← List.append_assoc (p.take after), List.take_append_drop]
    exact h.copied
  logged := by
    obtain ⟨kept, hlog, hsub, -⟩ := h.logged
    rw [List.append_nil] at hsub
    exact ⟨kept, hlog, hsub.trans (List.sublist_append_left _ _)⟩

/-- The chunk goes to the log. -/
lemma Holds.log (h : t.Holds before [] q) :
    Holds before [] [] { t with log := t.log ++ q } where
  copied := h.copied
  logged := by
    obtain ⟨kept, hlog, hsub, hlength⟩ := h.logged
    refine ⟨kept ++ q, ?_, ?_, ?_⟩
    · rw [hlog, List.append_assoc]
    · rwa [List.append_nil]
    · rwa [List.append_nil]

/-- The file takes a part of the chunk, and the rest is lost. -/
lemma Holds.logShort (h : t.Holds before [] q) (count : ℕ) :
    Holds before [] []
      { t with log := t.log ++ q.take count, lost := t.lost + (q.length - count) } where
  copied := h.copied
  logged := by
    obtain ⟨kept, hlog, hsub, hlength⟩ := h.logged
    refine ⟨kept ++ q.take count, ?_, ?_, ?_⟩
    · rw [hlog, List.append_assoc]
    · rw [List.append_nil]
      exact (List.Sublist.append (List.Sublist.refl kept) (List.take_sublist count q)).trans hsub
    · rw [List.append_nil]
      simp only [List.length_append, List.length_take] at hlength ⊢
      omega

/-- **All is in the log** where the file took all. -/
lemma Holds.complete (h : t.Holds before [] []) (hunread : t.unread = []) (hlost : t.lost = 0) :
    t.log = before ++ t.written := by
  obtain ⟨kept, hlog, hsub, hlength⟩ := h.logged
  rw [List.append_nil, hlost, Nat.add_zero] at hlength
  rw [List.append_nil] at hsub
  have hcopied := h.copied
  rw [hunread, List.append_nil, List.append_nil] at hcopied
  rw [hlog, hsub.eq_of_length hlength, hcopied]

end Steps

/-- What is true of a side whenever all tasks wait. -/
structure Inv (before : Bytes) (t : TeeSide) : Prop where
  ordered : t.Ordered before
  holds : (∀ e, t.outcome ≠ some (.error e)) → t.Holds before [] []
  ended : t.outcome = some (.ok ()) → t.closed = true ∧ t.unread = []

lemma Inv.of_holds {before : Bytes} {t : TeeSide} (h : t.Holds before [] [])
    (hended : t.outcome = some (.ok ()) → t.closed = true ∧ t.unread = []) : t.Inv before :=
  ⟨h.ordered, fun _ => h, hended⟩

end TeeSide

/-! ## The contract of the tasks -/

namespace TeeWorld

/-- What is true of the world whenever all tasks wait. -/
structure Inv (before : Side → Bytes) (w : TeeWorld) : Prop where
  side : ∀ s, (w.side s).Inv (before s)
  handlers : w.handlers → w.child ≠ .absent
  terminated : ∀ c ∈ w.terminated, c ≠ .absent ∧ c.returncode = none

variable {before : Side → Bytes} {w w' : TeeWorld}

/-- A change of one side that keeps what is true of it. -/
lemma Inv.on (h : w.Inv before) (s : Side) {f : TeeSide → TeeSide}
    (hf : (w.side s).Inv (before s) → (f (w.side s)).Inv (before s)) : (w.on s f).Inv before where
  side s' := by
    by_cases hs : s' = s
    · subst hs
      rw [on_side_self]
      exact hf (h.side s')
    · rw [on_side_of_ne w hs]
      exact h.side s'
  handlers := h.handlers
  terminated := h.terminated

/-- What happens by itself keeps the invariant. -/
lemma Moves.inv (hmove : Moves w w') (h : w.Inv before) : w'.Inv before := by
  cases hmove with
  | write s bs hchild hopen =>
      refine h.on s fun hside => ?_
      refine ⟨⟨hside.ordered.copied.trans (List.prefix_append _ _), hside.ordered.logged⟩, ?_, ?_⟩
      · intro hfine
        have hholds := hside.holds hfine
        exact ⟨by simp [← hholds.copied], hholds.logged⟩
      · intro hok
        rw [(hside.ended hok).1] at hopen
        cases hopen
  | close s hchild =>
      refine h.on s fun hside => ⟨⟨hside.ordered.copied, hside.ordered.logged⟩, ?_, ?_⟩
      · intro hfine
        have hholds := hside.holds hfine
        exact ⟨hholds.copied, hholds.logged⟩
      · exact fun hok => ⟨rfl, (hside.ended hok).2⟩
  | exit code hchild => exact ⟨h.side, fun _ => nofun, h.terminated⟩
  | reap code hchild => exact ⟨h.side, fun _ => nofun, h.terminated⟩
  | signal hhandlers =>
      rw [terminateChild]
      split_ifs with hcode
      · refine ⟨h.side, h.handlers, fun c hc => ?_⟩
        rcases List.mem_append.mp hc with hc | hc
        · exact h.terminated c hc
        · obtain rfl := List.mem_singleton.mp hc
          exact ⟨h.handlers hhandlers, hcode⟩
      · exact h
  | console s state =>
      refine h.on s fun hside => ⟨⟨hside.ordered.copied, hside.ordered.logged⟩, ?_, hside.ended⟩
      intro hfine
      have hholds := hside.holds hfine
      exact ⟨hholds.copied, hholds.logged⟩
  | file s state =>
      refine h.on s fun hside => ⟨⟨hside.ordered.copied, hside.ordered.logged⟩, ?_, hside.ended⟩
      intro hfine
      have hholds := hside.holds hfine
      exact ⟨hholds.copied, hholds.logged⟩

/-- What happens by itself ends no task. -/
lemma Moves.outcome (hmove : Moves w w') (s : Side) :
    (w'.side s).outcome = (w.side s).outcome := by
  have hon : ∀ (s' : Side) (f : TeeSide → TeeSide),
      (∀ t : TeeSide, (f t).outcome = t.outcome) →
        ((w.on s' f).side s).outcome = (w.side s).outcome := by
    intro s' f hf
    by_cases hs : s = s'
    · subst hs
      rw [on_side_self, hf]
    · rw [on_side_of_ne w hs]
  cases hmove with
  | write s' bs => exact hon s' _ fun _ => rfl
  | close s' => exact hon s' _ fun _ => rfl
  | console s' state => exact hon s' _ fun _ => rfl
  | file s' state => exact hon s' _ fun _ => rfl
  | exit code => rfl
  | reap code => rfl
  | signal =>
      rw [terminateChild]
      split_ifs <;> rfl

/-- A child that is reaped stays so, and one that is there does not go back. -/
lemma Moves.child (hmove : Moves w w') :
    (∀ code, w.child = .reaped code → w'.child = .reaped code) ∧
      (w.child ≠ .absent → w'.child ≠ .absent) := by
  cases hmove with
  | exit code hchild => exact ⟨fun _ h => Child.noConfusion (hchild.symm.trans h), fun _ => nofun⟩
  | reap code hchild => exact ⟨fun _ h => Child.noConfusion (hchild.symm.trans h), fun _ => nofun⟩
  | signal =>
      rw [terminateChild]
      split_ifs <;> exact ⟨fun _ h => h, fun h => h⟩
  | _ => exact ⟨fun _ h => h, fun h => h⟩

end TeeWorld

/-- What a task may rely on while it waits: nobody else ends a copying task, and what `_run` has seen
of the child and of the tasks stays so. -/
def TeeTask.Relies : TeeTask → TeeWorld → TeeWorld → Prop
  | .tee s, w, w' => (w'.side s).outcome = (w.side s).outcome
  | .run, w, w' =>
      (∀ s, (w.side s).outcome = some (.ok ()) → (w'.side s).outcome = some (.ok ())) ∧
        (∀ code, w.child = .reaped code → w'.child = .reaped code) ∧
          (w.child ≠ .absent → w'.child ≠ .absent)

/-- The contract of the tasks, for log files with the contents `before`. -/
def teeContract (before : Side → Bytes) : Contract teeRuntime where
  inv := TeeWorld.Inv before
  rely := TeeTask.Relies
  rely_refl i w := by
    cases i with
    | run => exact ⟨fun _ h => h, fun _ h => h, fun h => h⟩
    | tee s => rfl
  rely_trans {i _ _ _} h₁ h₂ := by
    cases i with
    | run => exact ⟨fun s h => h₂.1 s (h₁.1 s h), fun c h => h₂.2.1 c (h₁.2.1 c h),
        fun h => h₂.2.2 (h₁.2.2 h)⟩
    | tee s => exact Eq.trans h₂ h₁
  env_inv hmove h := TeeWorld.Moves.inv hmove h
  env_rely hmove _ i := by
    cases i with
    | run => exact ⟨fun s h => (TeeWorld.Moves.outcome hmove s).trans h,
        (TeeWorld.Moves.child hmove).1, (TeeWorld.Moves.child hmove).2⟩
    | tee s => exact TeeWorld.Moves.outcome hmove s

/-! ## The copying tasks -/

/-- Where a copying task is: its side holds `p` and `q`, and the task has not ended. -/
structure TeeWorld.At (before : Side → Bytes) (s : Side) (p q : Bytes) (w : TeeWorld) : Prop where
  others : ∀ s' ≠ s, (w.side s').Inv (before s')
  holds : (w.side s).Holds (before s) p q
  outcome : (w.side s).outcome = none
  handlers : w.handlers → w.child ≠ .absent
  terminated : ∀ c ∈ w.terminated, c ≠ .absent ∧ c.returncode = none

/-- A copying task has raised, and has not ended yet. -/
structure TeeWorld.Failed (before : Side → Bytes) (s : Side) (w : TeeWorld) : Prop where
  others : ∀ s' ≠ s, (w.side s').Inv (before s')
  ordered : (w.side s).Ordered (before s)
  outcome : (w.side s).outcome = none
  handlers : w.handlers → w.child ≠ .absent
  terminated : ∀ c ∈ w.terminated, c ≠ .absent ∧ c.returncode = none

section Copying

variable {before : Side → Bytes} {s : Side} {p q : Bytes} {w : TeeWorld}

lemma TeeWorld.At.failed (h : w.At before s p q) : w.Failed before s :=
  ⟨h.others, h.holds.ordered, h.outcome, h.handlers, h.terminated⟩

lemma TeeWorld.At.inv (h : w.At before s [] []) : w.Inv before where
  side s' := by
    by_cases hs : s' = s
    · subst hs
      exact .of_holds h.holds fun hok => by rw [h.outcome] at hok; cases hok
    · exact h.others s' hs
  handlers := h.handlers
  terminated := h.terminated

lemma TeeWorld.Inv.at (h : w.Inv before) (hnone : (w.side s).outcome = none) :
    w.At before s [] [] where
  others s' _ := h.side s'
  holds := (h.side s).holds fun e he => by rw [hnone] at he; cases he
  outcome := hnone
  handlers := h.handlers
  terminated := h.terminated

/-- A step of a copying task on its own side. -/
lemma TeeWorld.At.step {p' q' : Bytes} (h : w.At before s p q) {f : TeeSide → TeeSide}
    (hf : (f (w.side s)).Holds (before s) p' q') (houtcome : ∀ t, (f t).outcome = t.outcome) :
    (w.on s f).At before s p' q' where
  others s' hs := by
    rw [TeeWorld.on_side_of_ne w hs]
    exact h.others s' hs
  holds := by rwa [TeeWorld.on_side_self]
  outcome := by rw [TeeWorld.on_side_self, houtcome, h.outcome]
  handlers := h.handlers
  terminated := h.terminated

/-- A copying task waits with nothing in its hands. -/
lemma at_stays (before : Side → Bytes) (s : Side) :
    (teeContract before).Stays (.tee s) (TeeWorld.At before s [] []) where
  inv h := h.inv
  rely h hrely hinv := hinv.at (Eq.trans hrely h.outcome)

/-- The other tasks may see what a copying task does on its own side, unless it ends. -/
lemma guar_on (before : Side → Bytes) (w : TeeWorld) (s : Side) {f : TeeSide → TeeSide}
    (houtcome : ∀ t, (f t).outcome = t.outcome) :
    (teeContract before).guar (.tee s) w (w.on s f) := by
  have hsame : ∀ s', ((w.on s f).side s').outcome = (w.side s').outcome := by
    intro s'
    by_cases hs : s' = s
    · subst hs
      rw [TeeWorld.on_side_self, houtcome]
    · rw [TeeWorld.on_side_of_ne w hs]
  intro j _
  cases j with
  | run => exact ⟨fun s' h => (hsame s').trans h, fun _ h => h, fun h => h⟩
  | tee s' => exact hsame s'

/-- **A read** takes a chunk, comes to the end, or fails. -/
lemma read_spec (limit : ℕ) (h : w.At before s [] []) :
    (teeContract before).wpE (.tee s) (Tee.read s limit)
      (fun chunk w => w.At before s chunk [] ∧
        (chunk = [] → (w.side s).closed = true ∧ (w.side s).unread = []))
      (fun _ => TeeWorld.Failed before s) w := by
  refine (teeContract before).wpE_bind.mpr ((teeContract before).wpE_lift.mpr ?_)
  refine (teeContract before).wp_await (at_stays before s) rfl rfl ?_ h
  intro w₁ r w₂ h₁ hanswer
  cases hanswer with
  | read _ _ count hcount _ hunread =>
      refine ⟨guar_on before w₁ s fun _ => rfl, ?_⟩
      refine ⟨h₁.step (h₁.holds.read count) fun _ => rfl, fun hchunk => ?_⟩
      rcases List.take_eq_nil_iff.mp hchunk with hzero | hnil
      · omega
      · exact absurd hnil hunread
  | atEnd _ _ hunread hclosed =>
      exact ⟨(teeContract before).guar_refl _ w₁, h₁, fun _ => ⟨hclosed, hunread⟩⟩
  | notRead _ _ e => exact ⟨(teeContract before).guar_refl _ w₁, h₁.failed⟩

/-- **A write to the console.** -/
lemma writeConsole_spec (h : w.At before s p []) :
    (teeContract before).wpE (.tee s) (Tee.writeConsole s p)
      (fun _ => TeeWorld.At before s [] p) (fun _ => TeeWorld.Failed before s) w := by
  refine (teeContract before).wpE_bind.mpr ?_
  cases hstate : (w.side s).consoleState with
  | whole =>
      have hwrite : w.perform (.writeConsole s p) =
          some (.ok (), w.on s fun t => { t with console := t.console ++ p }) := by
        rw [TeeWorld.perform, TeeWorld.consoleWrite, hstate]
      refine (teeContract before).wpE_call hwrite (guar_on before w s fun _ => rfl) ?_
      exact h.step h.holds.console fun _ => rfl
  | broken after e =>
      have hwrite : w.perform (.writeConsole s p) =
          some (.error e, w.on s fun t => { t with console := t.console ++ p.take after }) := by
        rw [TeeWorld.perform, TeeWorld.consoleWrite, hstate]
      refine (teeContract before).wpE_call hwrite (guar_on before w s fun _ => rfl) ?_
      refine ⟨fun s' hs => ?_, ?_, ?_, h.handlers, h.terminated⟩
      · rw [TeeWorld.on_side_of_ne w hs]
        exact h.others s' hs
      · rw [TeeWorld.on_side_self]
        exact h.holds.consoleFails after
      · rw [TeeWorld.on_side_self]
        exact h.outcome

/-- **A write to the log.** -/
lemma writeLog_spec (h : w.At before s [] q) :
    (teeContract before).wpE (.tee s) (Tee.writeLog s q)
      (fun _ => TeeWorld.At before s [] []) (fun _ => TeeWorld.Failed before s) w := by
  refine (teeContract before).wpE_bind.mpr ?_
  cases hstate : (w.side s).fileState with
  | whole =>
      have hwrite : w.perform (.writeLog s q) =
          some (.ok (), w.on s fun t => { t with log := t.log ++ q }) := by
        rw [TeeWorld.perform, TeeWorld.logWrite, hstate]
      refine (teeContract before).wpE_call hwrite (guar_on before w s fun _ => rfl) ?_
      exact h.step h.holds.log fun _ => rfl
  | short count =>
      have hwrite : w.perform (.writeLog s q) = some (.ok (), w.on s fun t =>
          { t with log := t.log ++ q.take count, lost := t.lost + (q.length - count) }) := by
        rw [TeeWorld.perform, TeeWorld.logWrite, hstate]
      refine (teeContract before).wpE_call hwrite (guar_on before w s fun _ => rfl) ?_
      exact h.step (h.holds.logShort count) fun _ => rfl
  | broken e =>
      have hwrite : w.perform (.writeLog s q) = some (.error e, w) := by
        rw [TeeWorld.perform, TeeWorld.logWrite, hstate]
      exact (teeContract before).wpE_call hwrite ((teeContract before).guar_refl _ w) h.failed

/-- **One round** begins and ends with nothing in hand, or comes to the end of the stream. -/
lemma teeRound_spec (h : w.At before s [] []) :
    (teeContract before).wpE (.tee s) (teeRound s)
      (Contract.turn (fun _ => TeeWorld.At before s [] []) fun _ w =>
        w.At before s [] [] ∧ (w.side s).closed = true ∧ (w.side s).unread = [])
      (fun _ => TeeWorld.Failed before s) w := by
  refine (teeContract before).wpE_bind.mpr
    ((teeContract before).wpE_mono (read_spec _ h) ?_ fun _ _ he => he)
  rintro chunk w₁ ⟨h₁, hend⟩
  by_cases hchunk : chunk = []
  · rw [if_pos hchunk]
    subst hchunk
    exact ⟨h₁, hend rfl⟩
  · rw [if_neg hchunk]
    refine (teeContract before).wpE_bind.mpr
      ((teeContract before).wpE_mono (writeConsole_spec h₁) ?_ fun _ _ he => he)
    intro _ w₂ h₂
    refine (teeContract before).wpE_bind.mpr
      ((teeContract before).wpE_mono (writeLog_spec h₂) ?_ fun _ _ he => he)
    exact fun _ w₃ h₃ => h₃

/-- **The copying of a stream** returns at its end, with nothing in hand. -/
lemma teeStream_spec (rounds : ℕ) (h : w.At before s [] []) :
    (teeContract before).wpE (.tee s) (teeStream s rounds)
      (fun _ w => w.At before s [] [] ∧ (w.side s).closed = true ∧ (w.side s).unread = [])
      (fun _ => TeeWorld.Failed before s) w := by
  have hloop := (teeContract before).wpE_loop (fun _ : Unit => TeeWorld.At before s [] [])
    (fun _ _ h => h.inv) (fun _ _ h => teeRound_spec h) rounds () h
  refine (teeContract before).wpE_bind.mpr ((teeContract before).wpE_bind.mpr ?_)
  have hopen : w.perform (.openLog s) = some (.ok (), w) ∨
      ∃ e, w.perform (.openLog s) = some (.error e, w) := by
    rw [TeeWorld.perform]
    cases (w.side s).fileState with
    | broken e => exact .inr ⟨e, rfl⟩
    | _ => exact .inl rfl
  rcases hopen with hopen | ⟨e, hopen⟩
  · exact (teeContract before).wpE_call hopen ((teeContract before).guar_refl _ w) hloop
  · exact (teeContract before).wpE_call hopen ((teeContract before).guar_refl _ w) h.failed

/-- **A copying task ends** as its copying did. -/
lemma finish_spec (outcome : Except TeeError Unit)
    (h : Contract.outcome
      (fun _ w => TeeWorld.At before s [] [] w ∧ (w.side s).closed = true ∧ (w.side s).unread = [])
      (fun _ => TeeWorld.Failed before s) outcome w) :
    (teeContract before).wpE (.tee s) (Tee.finish s outcome) (fun _ => TeeWorld.Inv before)
      (fun _ _ => False) w := by
  have hnone : (w.side s).outcome = none := by
    cases outcome with
    | ok => exact h.1.outcome
    | error e => exact h.outcome
  refine (teeContract before).wpE_call rfl ?_ ?_
  · intro j hj
    cases j with
    | run =>
        refine ⟨fun s' h' => ?_, fun _ h => h, fun h => h⟩
        by_cases hs : s' = s
        · subst hs
          rw [hnone] at h'
          cases h'
        · exact (congrArg TeeSide.outcome (TeeWorld.on_side_of_ne w hs _)).trans h'
    | tee s' =>
        have hs : s' ≠ s := fun hs => hj (congrArg TeeTask.tee hs)
        exact congrArg TeeSide.outcome (TeeWorld.on_side_of_ne w hs _)
  · cases outcome with
    | ok u =>
        obtain ⟨hat, hclosed, hunread⟩ := h
        refine hat.inv.on s fun _ => ?_
        exact .of_holds ⟨hat.holds.copied, hat.holds.logged⟩ fun _ => ⟨hclosed, hunread⟩
    | error e =>
        refine ⟨fun s' => ?_, h.handlers, h.terminated⟩
        by_cases hs : s' = s
        · subst hs
          rw [TeeWorld.on_side_self]
          exact ⟨⟨h.ordered.copied, h.ordered.logged⟩, fun hfine => absurd rfl (hfine e), nofun⟩
        · rw [TeeWorld.on_side_of_ne w hs]
          exact h.others s' hs

end Copying

/-! ## The call of `_run` -/

/-- What `_run` has seen when it returns. -/
def TeeTask.Seen : TeeTask → Except TeeError ℤ → TeeWorld → Prop
  | .run, .ok code, w =>
      w.child = .reaped code ∧ ∀ s, (w.side s).outcome = some (.ok ())
  | _, _, _ => True

section Run

variable {before : Side → Bytes} {w : TeeWorld}

/-- What holds while `_run` waits. -/
lemma run_stays {V : TeeWorld → Prop}
    (hV : ∀ {w w'}, V w → TeeTask.Relies .run w w' → V w') :
    (teeContract before).Stays .run (fun w => w.Inv before ∧ V w) where
  inv h := h.1
  rely h hrely hinv := ⟨hinv, hV h.2 hrely⟩

/-- A change that no copying task sees. -/
lemma guar_run {w' : TeeWorld} (h : w'.side = w.side) :
    (teeContract before).guar .run w w' := by
  intro j hj
  cases j with
  | run => exact absurd rfl hj
  | tee s => exact congrArg (fun f => (f s).outcome) h

lemma createSubprocess_spec (h : w.Inv before) :
    (teeContract before).wpE .run Tee.createSubprocess
      (fun _ w => w.Inv before ∧ w.child ≠ .absent) (fun _ => TeeWorld.Inv before) w := by
  refine (teeContract before).wpE_bind.mpr ((teeContract before).wpE_lift.mpr ?_)
  refine (teeContract before).wp_await (run_stays (V := fun _ => True) fun _ _ => trivial) rfl rfl
    ?_ ⟨h, trivial⟩
  rintro w₁ r w₂ ⟨h₁, -⟩ hanswer
  cases hanswer with
  | created hchild => exact ⟨guar_run rfl, ⟨h₁.side, fun _ => nofun, h₁.terminated⟩, nofun⟩
  | notCreated e => exact ⟨(teeContract before).guar_refl _ w₁, h₁⟩

lemma gather_spec (h : w.Inv before) :
    (teeContract before).wpE .run Tee.gather
      (fun _ w => w.Inv before ∧ ∀ s, (w.side s).outcome = some (.ok ()))
      (fun _ => TeeWorld.Inv before) w := by
  refine (teeContract before).wpE_bind.mpr ((teeContract before).wpE_lift.mpr ?_)
  refine ((teeContract before).wp_wait rfl).mpr
    ⟨guar_run rfl, ⟨h.side, h.handlers, h.terminated⟩, fun w₁ r w₂ _ h₁ hanswer => ?_⟩
  cases hanswer with
  | gathered hall => exact ⟨(teeContract before).guar_refl _ w₁, h₁, hall⟩
  | notGathered s e _ => exact ⟨(teeContract before).guar_refl _ w₁, h₁⟩

lemma wait_spec (h : w.Inv before) (hall : ∀ s, (w.side s).outcome = some (.ok ())) :
    (teeContract before).wpE .run Tee.wait
      (fun code w => w.Inv before ∧ TeeTask.Seen .run (.ok code) w) (fun _ _ => False) w := by
  refine (teeContract before).wpE_lift.mpr ?_
  refine (teeContract before).wp_await (run_stays
    (V := fun w => ∀ s, (w.side s).outcome = some (.ok ()))
    fun hV hrely s => hrely.1 s (hV s)) rfl rfl ?_ ⟨h, hall⟩
  rintro w₁ r w₂ ⟨h₁, hall₁⟩ hanswer
  cases hanswer with
  | waited code hchild => exact ⟨(teeContract before).guar_refl _ w₁, h₁, hchild, hall₁⟩

/-- **The call of `_run`**, step by step. -/
lemma teeRun_spec (h : w.Inv before) :
    (teeContract before).wpE .run teeRun
      (fun code w => w.Inv before ∧ TeeTask.Seen .run (.ok code) w)
      (fun _ => TeeWorld.Inv before) w := by
  refine (teeContract before).wpE_bind.mpr
    ((teeContract before).wpE_mono (createSubprocess_spec h) ?_ fun _ _ he => he)
  rintro _ w₁ ⟨h₁, hchild⟩
  have hhandlers : teeRuntime.exec TeeTask.run .addSignalHandlers w₁ =
      some ((), { w₁ with handlers := true }) := rfl
  refine (teeContract before).wpE_bind.mpr
    ((teeContract before).wpE_call hhandlers (guar_run rfl) ?_)
  refine (teeContract before).wpE_bind.mpr ((teeContract before).wpE_mono
    (gather_spec ⟨h₁.side, fun _ => hchild, h₁.terminated⟩) ?_ fun _ _ he => he)
  rintro _ w₂ ⟨h₂, hall⟩
  exact (teeContract before).wpE_mono (wait_spec h₂ hall) (fun _ _ hw => hw) fun _ _ he => he.elim

/-- A copying task, from its start to its end. -/
lemma teeTask_spec {s : Side} (rounds : ℕ) (h : w.At before s [] []) :
    (teeContract before).wpE (.tee s) (TeeTask.program rounds (.tee s))
      (fun _ => TeeWorld.Inv before) (fun _ _ => False) w := by
  refine (teeContract before).wpE_bind.mpr ((teeContract before).wpE_lift.mpr ?_)
  refine (teeContract before).wp_await (at_stays before s) rfl rfl ?_ h
  intro w₁ r w₂ h₁ hanswer
  cases hanswer with
  | started _ hgathered =>
      refine ⟨(teeContract before).guar_refl _ w₁, ?_⟩
      refine (teeContract before).wpE_bind.mpr ((teeContract before).wpE_attempt.mpr
        ((teeContract before).wpE_mono (teeStream_spec rounds h₁) ?_ ?_))
      · intro _ w₃ h₃
        exact (teeContract before).wpE_bind.mpr ((teeContract before).wpE_mono
          (finish_spec (.ok ()) h₃) (fun _ _ hw => hw) fun _ _ he => he)
      · intro e w₃ h₃
        exact (teeContract before).wpE_bind.mpr ((teeContract before).wpE_mono
          (finish_spec (.error e) h₃) (fun _ _ hw => hw) fun _ _ he => he)

lemma TeeWorld.Fresh.inv (h : w.Fresh before) : w.Inv before where
  side s := by
    have hholds : (w.side s).Holds (before s) [] [] := by
      refine ⟨by rw [h.console, h.unread, h.written]; rfl, [], ?_, ?_, ?_⟩
      · rw [h.log, List.append_nil]
      · exact List.nil_sublist _
      · rw [h.lost, h.console]
        rfl
    exact .of_holds hholds fun hok => by rw [h.outcome] at hok; cases hok
  handlers := by
    rw [h.handlers]
    exact nofun
  terminated := by
    rw [h.terminated]
    exact nofun

/-- **In every state that is reached** the invariant holds, and `_run`, where it has returned, has
seen what it should. -/
lemma tee_reaches (h : w.Fresh before) {rounds : ℕ}
    {p : Pool teeInterface TeeTask TeeWorld (Except TeeError ℤ)}
    (hreach : Pool.Reaches teeRuntime (teePool rounds w) p) :
    p.world.Inv before ∧
      ∀ i, (teeContract before).Parked TeeTask.Seen i (p.tasks i) p.world := by
  refine (teeContract before).sound (s := teePool rounds w) TeeTask.Seen ?_ h.inv ?_ hreach
  · intro i r w₁ w₂ hseen hrely
    cases i with
    | tee s => trivial
    | run =>
        cases r with
        | error e => trivial
        | ok code => exact ⟨hrely.2.1 code hseen.1, fun s => hrely.1 s (hseen.2 s)⟩
  · intro i
    cases i with
    | run =>
        refine (teeContract before).parked_of_wp (o := .createSubprocess) rfl rfl ?_
        refine (teeContract before).wp_mono ?_ (teeRun_spec h.inv)
        rintro (e | code) w₁ h₁
        · exact ⟨(teeContract before).guar_refl _ w₁, h₁, trivial⟩
        · exact ⟨(teeContract before).guar_refl _ w₁, h₁.1, h₁.2⟩
    | tee s =>
        refine (teeContract before).parked_of_wp (o := .started s) rfl rfl ?_
        refine (teeContract before).wp_mono ?_ (teeTask_spec rounds (h.inv.at (h.outcome s)))
        rintro (e | code) w₁ h₁
        · exact h₁.elim
        · exact ⟨(teeContract before).guar_refl _ w₁, h₁, trivial⟩

end Run

/-- A world in which all that is given is taken. -/
def quietTee : TeeWorld where
  child := .absent
  handlers := false
  gathered := false
  side _ := ⟨[], [], false, [], .whole, [], .whole, 0, none⟩
  terminated := []

lemma quietTee_fresh : quietTee.Fresh fun _ => [] :=
  ⟨rfl, rfl, rfl, rfl, fun _ => rfl, fun _ => rfl, fun _ => rfl, fun _ => rfl, fun _ => rfl,
    fun _ => rfl⟩

/-- A task is answered. -/
lemma tee_step {p : Pool teeInterface TeeTask TeeWorld (Except TeeError ℤ)} {w : TeeWorld}
    (i : TeeTask) (o : TeeOp) {k : teeInterface.Res o → Prog teeInterface (Except TeeError ℤ)}
    {r : teeInterface.Res o} (hi : p.tasks i = .op o k) (h : TeeWorld.Answers o r p.world w) :
    Pool.Step teeRuntime p (p.resume teeRuntime i (k r) w) := .task i r hi h

/-- **Nothing is out of order, nothing is made up.**  However the tasks, the child and the signals
take turns, and whatever the console and the files do: the console has a beginning of what the child
wrote, and the log file, after what it had before, only bytes of the console in their order; as long
as no copying has failed, what is on the console and what is still to be read make up all that was
written, and the log falls short of the console by what its file did not take.  The child is signalled
only while its process is there and not reaped. -/
theorem tee_keeps_order (before : Side → Bytes) (w : TeeWorld) (hfresh : w.Fresh before)
    (rounds : ℕ) (p : Pool teeInterface TeeTask TeeWorld (Except TeeError ℤ))
    (hreach : Pool.Reaches teeRuntime (teePool rounds w) p) :
    (∀ s, let t := p.world.side s
      t.console <+: t.written ∧
        (∃ kept, t.log = before s ++ kept ∧ kept.Sublist t.console) ∧
        ((∀ e, t.outcome ≠ some (.error e)) →
          t.console ++ t.unread = t.written ∧
            t.log.length + t.lost = (before s).length + t.console.length)) ∧
    ∀ c ∈ p.world.terminated, c ≠ .absent ∧ c.returncode = none := by
  have hinv := (tee_reaches hfresh hreach).1
  refine ⟨fun s => ⟨(hinv.side s).ordered.copied, (hinv.side s).ordered.logged, fun hfine => ?_⟩,
    hinv.terminated⟩
  have hholds := (hinv.side s).holds hfine
  obtain ⟨kept, hlog, -, hlength⟩ := hholds.logged
  refine ⟨hholds.copied, ?_⟩
  rw [List.append_nil] at hlength
  rw [hlog, List.length_append, Nat.add_assoc, hlength]

/-- The log file takes a part of what it is given. -/
theorem tee_keeps_order_short : ∃ p : Pool teeInterface TeeTask TeeWorld (Except TeeError ℤ),
    (p.world.side .stdout).lost = 1 ∧
      ((p.world.side .stdout).console <+: (p.world.side .stdout).written ∧
        (∃ kept, (p.world.side .stdout).log = [] ++ kept ∧
          kept.Sublist (p.world.side .stdout).console) ∧
        ((∀ e, (p.world.side .stdout).outcome ≠ some (.error e)) →
          (p.world.side .stdout).console ++ (p.world.side .stdout).unread =
              (p.world.side .stdout).written ∧
            (p.world.side .stdout).log.length + (p.world.side .stdout).lost =
              0 + (p.world.side .stdout).console.length)) := by
  have hrun := Relation.ReflTransGen.single (tee_step (p := teePool 3 quietTee) .run
    .createSubprocess rfl (.created rfl))
  have hrun := hrun.tail (.env (TeeWorld.Moves.write .stdout [104, 105] (by decide) rfl))
  have hrun := hrun.tail (.env (TeeWorld.Moves.file .stdout (.short 1)))
  have hrun := hrun.tail (tee_step (.tee .stdout) (.started .stdout) rfl
    (.started .stdout rfl))
  have hrun := hrun.tail (tee_step (.tee .stdout) (.read .stdout (64 * 1024)) rfl
    (.read .stdout (64 * 1024) 2 (by decide) (by decide) (by decide)))
  exact ⟨_, rfl, (tee_keeps_order _ quietTee quietTee_fresh 3 _ hrun).1 .stdout⟩

/-- **When `_run` returns** a code, that is the code of the child, which is gone with all who could
write in its name; all they wrote is on the console; and the log file has it as well, after what it
had before, if it took every byte it was given. -/
theorem tee_complete (before : Side → Bytes) (w : TeeWorld) (hfresh : w.Fresh before)
    (rounds : ℕ) (p : Pool teeInterface TeeTask TeeWorld (Except TeeError ℤ))
    (hreach : Pool.Reaches teeRuntime (teePool rounds w) p) (code : ℤ)
    (hreturned : p.tasks .run = .ret (.ok code)) :
    p.world.child = .reaped code ∧
    ∀ s, let t := p.world.side s
      t.closed = true ∧ t.console = t.written ∧ (t.lost = 0 → t.log = before s ++ t.written) := by
  obtain ⟨hinv, hparked⟩ := tee_reaches hfresh hreach
  have hseen := hparked .run
  rw [hreturned] at hseen
  obtain ⟨hchild, hall⟩ := hseen
  refine ⟨hchild, fun s => ?_⟩
  have hholds := (hinv.side s).holds fun e he => by rw [hall s] at he; cases he
  obtain ⟨hclosed, hunread⟩ := (hinv.side s).ended (hall s)
  refine ⟨hclosed, ?_, hholds.complete hunread⟩
  have hcopied := hholds.copied
  rwa [hunread, List.append_nil, List.append_nil] at hcopied

/-- The child says hello, and exits. -/
theorem tee_complete_hello : ∃ p : Pool teeInterface TeeTask TeeWorld (Except TeeError ℤ),
    p.world.child = .reaped 0 ∧ ∀ s, let t := p.world.side s
      t.closed = true ∧ t.console = t.written ∧ (t.lost = 0 → t.log = [] ++ t.written) := by
  have hrun := Relation.ReflTransGen.single (tee_step (p := teePool 3 quietTee) .run
    .createSubprocess rfl (.created rfl))
  -- The child does all it does before anything is read.
  have hrun := hrun.tail (.env (TeeWorld.Moves.write .stdout [104, 105] (by decide) rfl))
  have hrun := hrun.tail (.env (TeeWorld.Moves.close .stdout (by decide)))
  have hrun := hrun.tail (.env (TeeWorld.Moves.close .stderr (by decide)))
  have hrun := hrun.tail (.env (TeeWorld.Moves.exit 0 rfl))
  have hrun := hrun.tail (.env (TeeWorld.Moves.reap 0 rfl))
  have hrun := hrun.tail (tee_step (.tee .stdout) (.started .stdout) rfl
    (.started .stdout rfl))
  have hrun := hrun.tail (tee_step (.tee .stdout) (.read .stdout (64 * 1024)) rfl
    (.read .stdout (64 * 1024) 2 (by decide) (by decide) (by decide)))
  have hrun := hrun.tail (tee_step (.tee .stdout) (.read .stdout (64 * 1024)) rfl
    (.atEnd .stdout (64 * 1024) rfl rfl))
  have hrun := hrun.tail (tee_step (.tee .stderr) (.started .stderr) rfl
    (.started .stderr rfl))
  have hrun := hrun.tail (tee_step (.tee .stderr) (.read .stderr (64 * 1024)) rfl
    (.atEnd .stderr (64 * 1024) rfl rfl))
  have hrun := hrun.tail (tee_step .run .gather rfl
    (.gathered (by intro s; cases s <;> rfl)))
  have hrun := hrun.tail (tee_step .run .wait rfl (.waited 0 rfl))
  exact ⟨_, tee_complete _ quietTee quietTee_fresh 3 _ hrun 0 rfl⟩

end SpeakrRunpod
