import Unchain.Lib.Utf8

/-!
The output of a background shell task.

A reader thread decodes every read of a pipe on its own and appends the text to a buffer, and a call
of `poll` or `wait` returns what the buffer has gained. What the calls return of stdout is a prefix
of the decoded stream as long as no read ends inside a character (`Apart`), and all of it when a
call reports completion, unless something was read between its consumption and its look at the
child (`Quiet`).
-/

namespace Unchain.Toolkits

open Lib.Utf8

/-! ### The task -/

/-- `_decode_bytes`. -/
def decodeBytes (value : Bytes) : List Char := (decodeReplace true value).1

/-- A buffer of the task with its offset, and its reader: what the pipe still holds or will, and
whether the thread has ended. -/
structure Output where
  buffer : List Char
  offset : Nat
  unread : Bytes
  finished : Bool

/-- One round of the reader's loop, with the bytes that the pipe gives it. -/
def Output.read (size : Nat) (o : Output) : Output :=
  { o with
    buffer := o.buffer ++ decodeBytes (o.unread.take size)
    unread := o.unread.drop size }

/-- The loop ends at the end of the pipe. -/
def Output.finish (o : Output) : Output := { o with finished := o.unread.isEmpty }

def Output.consumeIncrement (maxChars : Nat) (o : Output) : (List Char × Bool) × Output :=
  let remainder := o.buffer.drop o.offset
  if maxChars < remainder.length then
    ((remainder.take maxChars, true),
      { o with offset := o.offset + (remainder.take maxChars).length })
  else ((remainder, false), { o with offset := o.buffer.length })

inductive Stream where
  | stdout
  | stderr
  deriving DecidableEq

/-- What the reader threads and the child do while the calls run. -/
inductive Event where
  | read (stream : Stream) (size : Nat)
  | finish (stream : Stream)
  | exit
  deriving DecidableEq

def Output.after (stream : Stream) (o : Output) : Event → Output
  | .read other size => if other = stream then o.read size else o
  | .finish other => if other = stream then o.finish else o
  | .exit => o

structure Task where
  stdout : Output
  stderr : Output
  exited : Bool

def Task.after (t : Task) (events : List Event) : Task where
  stdout := events.foldl (Output.after .stdout) t.stdout
  stderr := events.foldl (Output.after .stderr) t.stderr
  exited := t.exited || events.contains .exit

/-- `_normalize_max_output_chars`, of an integer. -/
def normalizeMaxOutputChars (value : Int) : Nat := (min 100000 (max 0 value)).toNat

structure PollResult where
  stdout : List Char
  stderr : List Char
  completed : Bool
  truncated : Bool

/-- `poll`, and the end of `wait`. The first events happen between the two consumptions, the others
before the look at the child; how long the call waits is left to the run. -/
def Task.poll (maxOutputChars : Int) (first second : List Event) (t : Task) : PollResult × Task :=
  let limit := normalizeMaxOutputChars maxOutputChars
  let out := t.stdout.consumeIncrement limit
  let t := Task.after { t with stdout := out.2 } first
  let err := t.stderr.consumeIncrement limit
  let t := Task.after { t with stderr := err.2 } second
  (⟨out.1.1, err.1.1, t.exited, out.1.2 || err.1.2⟩, t)

/-- A task whose child is going to print these. -/
def Task.start (stdout stderr : Bytes) : Task :=
  ⟨⟨[], 0, stdout, false⟩, ⟨[], 0, stderr, false⟩, false⟩

/-! ### Runs -/

/-- No read of stdout ends inside a character: what is read and the rest decode apart. -/
def Apart : (unread : Bytes) → List Event → Prop
  | _, [] => True
  | unread, .read .stdout size :: events =>
    decodeBytes unread = decodeBytes (unread.take size) ++ decodeBytes (unread.drop size) ∧
      Apart (unread.drop size) events
  | unread, _ :: events => Apart unread events

/-- Nothing is read from stdout. -/
def Quiet (events : List Event) : Prop := ∀ size, .read .stdout size ∉ events

/-- A run of the readers, the child and the calls, and what the calls returned of stdout. -/
inductive Run (stdout stderr : Bytes) : Task → List Char → Prop
  | start : Run stdout stderr (.start stdout stderr) []
  | events {t text} (run : Run stdout stderr t text) (events : List Event)
      (apart : Apart t.stdout.unread events) : Run stdout stderr (t.after events) text
  | poll {t text} (run : Run stdout stderr t text) (maxOutputChars : Int)
      (first second : List Event) (apart : Apart t.stdout.unread (first ++ second)) :
      Run stdout stderr (t.poll maxOutputChars first second).2
        (text ++ (t.poll maxOutputChars first second).1.stdout)

/-- What was returned is the buffer up to the offset, and the buffer is the stream but for what the
reader has not read. -/
structure Delivering (stream : Bytes) (text : List Char) (o : Output) : Prop where
  returned : text = o.buffer.take o.offset
  offset : o.offset ≤ o.buffer.length
  decoded : o.buffer ++ decodeBytes o.unread = decodeBytes stream
  finished : o.finished = true → o.unread = []

variable {stream errors : Bytes} {text : List Char} {o : Output} {t : Task} {events : List Event}

/-- The reader leaves what was returned. -/
theorem Delivering.after (h : Delivering stream text o) (apart : Apart o.unread events) :
    Delivering stream text (events.foldl (Output.after .stdout) o) := by
  induction events generalizing o with
  | nil => exact h
  | cons event events ih =>
    cases event with
    | read other size =>
      cases other with
      | stdout =>
        refine ih ⟨?_, ?_, ?_, fun ended => ?_⟩ apart.2
        · rw [h.returned]
          exact (List.take_append_of_le_length h.offset).symm
        · exact Nat.le_trans h.offset (by simp [Output.after, Output.read])
        · rw [← h.decoded, apart.1, ← List.append_assoc]
          rfl
        · simp [Output.after, Output.read, h.finished ended]
      | stderr => exact ih h apart
    | finish other =>
      cases other with
      | stdout => exact ih ⟨h.returned, h.offset, h.decoded, List.isEmpty_iff.mp⟩ apart
      | stderr => exact ih h apart
    | exit => exact ih h apart

/-- Without a read nothing more is read. -/
theorem after_quiet (quiet : Quiet events) :
    (events.foldl (Output.after .stdout) o).unread = o.unread := by
  induction events generalizing o with
  | nil => rfl
  | cons event events ih =>
    rw [List.foldl_cons, ih fun size mem => quiet size (by simp [mem])]
    cases event with
    | read other size =>
      cases other with
      | stdout => exact absurd List.mem_cons_self (quiet size)
      | stderr => rfl
    | finish other => cases other <;> rfl
    | exit => rfl

theorem apart_of_quiet {unread : Bytes} (quiet : Quiet events) : Apart unread events := by
  induction events with
  | nil => trivial
  | cons event events ih =>
    have later := ih fun size mem => quiet size (by simp [mem])
    cases event with
    | read other size =>
      cases other with
      | stdout => exact absurd List.mem_cons_self (quiet size)
      | stderr => exact later
    | finish other => exact later
    | exit => exact later

theorem consumeIncrement_eq (maxChars : Nat) (o : Output) :
    ∃ offset, (o.consumeIncrement maxChars).2 = { o with offset := offset } := by
  simp only [Output.consumeIncrement]
  split
  · exact ⟨_, rfl⟩
  · exact ⟨_, rfl⟩

/-- A call returns what follows in the buffer, and all of it if it reports no truncation. -/
theorem Delivering.consumeIncrement (h : Delivering stream text o) (maxChars : Nat) :
    Delivering stream (text ++ (o.consumeIncrement maxChars).1.1)
        (o.consumeIncrement maxChars).2 ∧
      ((o.consumeIncrement maxChars).1.2 = false →
        text ++ (o.consumeIncrement maxChars).1.1 = o.buffer) := by
  rw [h.returned]
  simp only [Output.consumeIncrement]
  split
  · next long =>
      rw [List.length_drop] at long
      have taken : ((o.buffer.drop o.offset).take maxChars).length = maxChars := by
        rw [List.length_take, List.length_drop]
        omega
      refine ⟨⟨?_, ?_, h.decoded, h.finished⟩, nofun⟩
      · rw [taken, List.take_add]
      · simp only [taken]
        omega
  · have whole := List.take_append_drop o.offset o.buffer
    refine ⟨⟨?_, Nat.le_refl _, h.decoded, h.finished⟩, fun _ => whole⟩
    rw [whole, List.take_length]

theorem poll_stdout (maxOutputChars : Int) (first second : List Event) :
    (t.poll maxOutputChars first second).2.stdout = (first ++ second).foldl (Output.after .stdout)
      (t.stdout.consumeIncrement (normalizeMaxOutputChars maxOutputChars)).2 :=
  (List.foldl_append ..).symm

theorem Run.delivering (run : Run stream errors t text) : Delivering stream text t.stdout := by
  induction run with
  | start => exact ⟨rfl, Nat.le_refl _, rfl, nofun⟩
  | events _ events apart ih => exact ih.after apart
  | poll _ maxOutputChars first second apart ih =>
    rw [poll_stdout]
    apply (ih.consumeIncrement _).1.after
    obtain ⟨offset, eq⟩ := consumeIncrement_eq (normalizeMaxOutputChars maxOutputChars) _
    rw [eq]
    exact apart

/-- What the calls returned is a prefix of the decoded stream, and a call that reports completion
without truncation has returned all of it. -/
theorem output_delivered (run : Run stream errors t text) :
    text <+: decodeBytes stream ∧ ∀ (maxOutputChars : Int) (first second : List Event),
      Quiet (first ++ second) →
      (t.poll maxOutputChars first second).1.completed = true →
      (t.poll maxOutputChars first second).1.truncated = false →
      (t.poll maxOutputChars first second).2.stdout.finished = true →
      text ++ (t.poll maxOutputChars first second).1.stdout = decodeBytes stream := by
  have h := run.delivering
  constructor
  · rw [h.returned, ← h.decoded]
    exact (List.take_prefix _ _).trans (List.prefix_append _ _)
  · intro maxOutputChars first second quiet _ whole ended
    have all := (h.consumeIncrement _).2 (Bool.or_eq_false_iff.mp whole).1
    rw [poll_stdout] at ended
    obtain ⟨offset, eq⟩ := consumeIncrement_eq (normalizeMaxOutputChars maxOutputChars) t.stdout
    have consumed := (h.consumeIncrement (normalizeMaxOutputChars maxOutputChars)).1
    rw [eq] at consumed ended
    have read := (consumed.after (apart_of_quiet quiet)).finished ended
    rw [after_quiet quiet] at read
    rw [← h.decoded, show t.stdout.unread = [] from read]
    exact all.trans (List.append_nil _).symm

/-! ### A late read, and a cut character -/

def lateEvents : List Event := [.read .stdout 2, .finish .stdout, .exit]

/-- A child that prints and ends between the consumption and the look at it is reported completed
without its output; and a character cut by two reads is returned as two replacements. -/
theorem late_output_missed :
    let late := (Task.start [0x68, 0x69] []).poll 20000 [] lateEvents
    let cut := ((Task.start [0xC3, 0xA9] []).after [.read .stdout 1, .read .stdout 1]).poll 20000
      [] []
    (late.1.completed = true ∧ late.1.truncated = false ∧ late.2.stdout.finished = true ∧
      late.1.stdout ≠ decodeBytes [0x68, 0x69]) ∧
      ¬ cut.1.stdout <+: decodeBytes [0xC3, 0xA9] := by
  decide

/-- A poll after the same events returns the output. -/
theorem greeting_delivered :
    [] ++ (((Task.start [0x68, 0x69] []).after lateEvents).poll 20000 [] []).1.stdout =
      decodeBytes [0x68, 0x69] :=
  (output_delivered (.events .start lateEvents ⟨by decide, trivial⟩)).2 20000 [] []
    (by simp [Quiet]) rfl rfl rfl

end Unchain.Toolkits
