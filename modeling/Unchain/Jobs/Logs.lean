import Unchain.Jobs.Store

/-!
Reading the logs of a job.

A worker appends to the two logs without the job's lock, so a call may find a log longer when it
reads than when it asked for its size; `grown` is what arrives in between. Offsets count bytes,
the budget counts characters.
-/

namespace Unchain.Jobs

open Lib Lib.Utf8 Lib.Effect Python

inductive Stream where
  | stdout
  | stderr

def JobFiles.log (f : JobFiles) : Stream → Option Bytes
  | .stdout => f.stdout
  | .stderr => f.stderr

def LogCursor.offset (cursor : LogCursor) : Stream → Int
  | .stdout => cursor.stdoutOffset
  | .stderr => cursor.stderrOffset

/-- The log after `payload` has been appended; nothing to append creates no file. -/
def appendTo (log : Option Bytes) (payload : Bytes) : Option Bytes :=
  if payload.isEmpty then log else some (log.getD [] ++ payload)

/-- The worker appends to the logs. -/
def JobFiles.grow (f : JobFiles) (grown : Stream → Bytes) : JobFiles :=
  { f with
    stdout := appendTo f.stdout (grown .stdout)
    stderr := appendTo f.stderr (grown .stderr) }

structure LogChunk where
  text : List Char
  startOffset : Nat
  nextOffset : Nat
  available : Nat
  hasMore : Bool

/-- The text that a payload gives within the budget, and the bytes it stands for. -/
def decodePayload (maxChars : Nat) (flush : Bool) (payload : Bytes) : List Char × Nat :=
  let (decoded, buffered) := decodeReplace flush payload
  let text := decoded.take maxChars
  (text, if decoded.length > maxChars then (encode text).length
    else payload.length - buffered.length)

/-- `_read_log_chunk`. -/
def readLogChunk (name : String) (log : Option Bytes) (grown : Bytes) (offset maxChars : Int)
    (final : Bool) : Except PyError LogChunk :=
  let available := (log.getD []).length
  let startOffset := offset.toNat
  if offset > available then
    .error (corruptionError ("durable job log " ++ name ++ " is shorter than its persisted cursor"))
  else if maxChars ≤ 0 || startOffset ≥ available then
    .ok ⟨[], startOffset, startOffset, available, startOffset < available⟩
  else
    let readLimit := max 4 (maxChars * 4).toNat
    let payload := ((log.getD [] ++ grown).drop startOffset).take readLimit
    let reachedSnapshotEnd : Bool := startOffset + payload.length ≥ available
    let (text, consumed) := decodePayload maxChars.toNat (final && reachedSnapshotEnd) payload
    let nextOffset := startOffset + consumed
    .ok ⟨text, startOffset, nextOffset, available, nextOffset < available⟩

structure LogPage where
  stdout : List Char
  stderr : List Char
  stdoutStartOffset : Nat
  stderrStartOffset : Nat
  stdoutOffset : Nat
  stderrOffset : Nat
  stdoutAvailable : Nat
  stderrAvailable : Nat
  truncated : Bool

/-- The result of `consume_logs` on its two chunks; offsets are in UTF-8 bytes. -/
def logPage (stdout stderr : LogChunk) : LogPage where
  stdout := stdout.text
  stderr := stderr.text
  stdoutStartOffset := stdout.startOffset
  stderrStartOffset := stderr.startOffset
  stdoutOffset := stdout.nextOffset
  stderrOffset := stderr.nextOffset
  stdoutAvailable := stdout.available
  stderrAvailable := stderr.available
  truncated := stdout.hasMore || stderr.hasMore

def LogPage.text (page : LogPage) : Stream → List Char
  | .stdout => page.stdout
  | .stderr => page.stderr

/-- `consume_logs`, on logs that grow by `grown` before they are read. -/
def JobStore.consumeLogs (store : JobStore) (jobId executionId : String) (maxOutputChars : Int)
    (final : Bool) (grown : Stream → Bytes) (f : JobFiles) :
    Except PyError (LogPage × JobFiles) := do
  let limit := max 0 maxOutputChars
  let spec ← store.enter jobId f
  ensureOwner spec executionId
  let cursor ← readCursor jobId f
  let stdout ← readLogChunk "stdout.log" f.stdout (grown .stdout) cursor.stdoutOffset limit final
  let stderr ← readLogChunk "stderr.log" f.stderr (grown .stderr) cursor.stderrOffset limit final
  let nextCursor : LogCursor :=
    ⟨jobSchemaVersion, jobId, stdout.nextOffset, stderr.nextOffset, cursor.revision + 1⟩
  return (logPage stdout stderr, { f.grow grown with cursor := some nextCursor })

/-! ### Delivery of one log -/

/-- A log that is UTF-8 and may end inside a character. -/
def IsLog (log : Bytes) : Prop := ∃ cs p, Cut p ∧ log = encode cs ++ p

/-- What has been delivered of a log: its first characters, with the cursor behind their bytes;
or, once a final read has flushed the incomplete tail, all of it with U+FFFD for that tail. -/
inductive Delivered (log : Bytes) (text : List Char) (offset : Int) : Prop where
  | complete (rest : Bytes) (log_eq : log = encode text ++ rest)
      (offset_eq : offset = (encode text).length)
  | flushed (cs : List Char) (p : Bytes) (cut : Cut p) (nonempty : p ≠ [])
      (log_eq : log = encode cs ++ p) (text_eq : text = cs ++ [replacement])
      (offset_eq : offset = log.length)

/-- The cursor stands inside or behind the incomplete tail of the log. -/
def Flushed (log : Bytes) (offset : Int) : Prop :=
  ∃ cs p, Cut p ∧ p ≠ [] ∧ log = encode cs ++ p ∧ ((encode cs).length : Int) < offset

/-- The log as a reader sees it that shows an incomplete tail as U+FFFD. -/
def decodedLog (log : Bytes) : List Char := (decodeReplace true log).1

variable {cs : List Char} {p : Bytes}

theorem decodedLog_encode (cut : Cut p) : decodedLog (encode cs ++ p) = cs ++ cutText p := by
  rw [decodedLog, decodeReplace_encode true cs cut]
  rfl

/-- What the bytes behind the cursor give: their first characters, or all of them with U+FFFD
for the incomplete tail. -/
inductive Reads (cs : List Char) (p : Bytes) (text : List Char) (consumed : Nat) : Prop where
  | complete (pre : text <+: cs) (consumed_eq : consumed = (encode text).length)
  | flushed (nonempty : p ≠ []) (text_eq : text = cs ++ [replacement])
      (consumed_eq : consumed = (encode cs ++ p).length)

/-- Reading four bytes for every character of the budget finds the budget filled, or everything
that is there; only a tail at the very end can be flushed. -/
theorem decodePayload_reads (m : Nat) (flush : Bool) (cs : List Char) (cut : Cut p) :
    Reads cs p (decodePayload m flush ((encode cs ++ p).take (4 * m))).1
      (decodePayload m flush ((encode cs ++ p).take (4 * m))).2 := by
  obtain ⟨q, eq, cutQ⟩ := take_encode cs cut (4 * m)
  have pre := fitting_prefix (4 * m) cs
  generalize fitting (4 * m) cs = ds at eq pre
  rw [eq]
  simp only [decodePayload, decodeReplace_encode flush ds cutQ]
  by_cases long : (ds ++ if flush then cutText q else []).length > m
  · -- the budget is filled by complete characters
    have enough : m ≤ ds.length := by
      rw [List.length_append] at long
      have tail : (if flush then cutText q else []).length ≤ 1 := by
        cases flush
        · simp
        · simp only [if_true, cutText]
          split <;> simp
      omega
    rw [if_pos long, List.take_append_of_le_length enough]
    exact .complete ((List.take_prefix m ds).trans pre) rfl
  · rw [if_neg long, List.take_of_length_le (Nat.not_lt.mp long)]
    by_cases flushes : flush = true ∧ q ≠ []
    · -- the payload is shorter than the limit, so it is everything
      obtain ⟨rfl, nonempty⟩ := flushes
      simp only [if_true, cutText, if_neg nonempty] at long ⊢
      have short : (encode ds ++ q).length < 4 * m := by
        have bytes := length_encode_le ds
        have few := cutQ.length_lt
        rw [List.length_append] at long ⊢
        simp only [List.length_singleton] at long
        omega
      have whole : encode cs ++ p = encode ds ++ q := by
        rw [← eq, List.length_take] at short
        rw [← eq, List.take_of_length_le (by omega)]
      obtain ⟨rfl, rfl⟩ := encode_cut_injective cut cutQ whole
      exact .flushed nonempty rfl (by simp)
    · have none : (if flush then cutText q else []) = [] := by
        cases flush
        · rfl
        · simp only [true_and, not_not] at flushes
          simp [cutText, flushes]
      rw [none, List.append_nil]
      refine .complete pre ?_
      cases flush
      · simp
      · simp only [true_and, not_not] at flushes
        simp [flushes]

theorem decodePayload_complete {m : Nat} (flush : Bool) (positive : 0 < m) (c : Char)
    (cs : List Char) (cut : Cut p) :
    0 < (decodePayload m flush ((encode (c :: cs) ++ p).take (4 * m))).2 := by
  obtain ⟨q, eq, cutQ⟩ := take_encode (c :: cs) cut (4 * m)
  generalize fitting (4 * m) (c :: cs) = ds at eq
  cases ds with
  | nil =>
    -- the payload would be a cut of at least four bytes, or the whole text
    exfalso
    rw [encode_nil, List.nil_append] at eq
    have few := cutQ.length_lt
    have whole : (encode (c :: cs) ++ p).take (4 * m) = encode (c :: cs) ++ p := by
      apply List.take_of_length_le
      rw [← eq, List.length_take] at few
      omega
    rw [whole, encode_cons, List.append_assoc] at eq
    rw [← eq] at cutQ
    exact cutQ.not_char
  | cons d ds =>
    rw [eq]
    simp only [decodePayload, decodeReplace_encode flush (d :: ds) cutQ]
    have size := length_encodeChar_pos d
    by_cases long : (d :: ds ++ if flush then cutText q else []).length > m
    · rw [if_pos long]
      obtain ⟨n, rfl⟩ : ∃ n, m = n + 1 := ⟨m - 1, by omega⟩
      rw [List.cons_append, List.take_succ_cons, encode_cons, List.length_append]
      omega
    · have held : (if flush then ([] : Bytes) else q).length ≤ q.length := by
        cases flush <;> simp
      rw [if_neg long, encode_cons, List.length_append, List.length_append]
      omega

theorem decodePayload_flush {m : Nat} (positive : 0 < m) (cut : Cut p) (nonempty : encode cs ++ p ≠ []) :
    0 < (decodePayload m true ((encode cs ++ p).take (4 * m))).2 := by
  cases cs with
  | cons c cs => exact decodePayload_complete true positive c cs cut
  | nil =>
    rw [encode_nil, List.nil_append] at nonempty ⊢
    have few := cut.length_lt
    have size : 0 < p.length := List.length_pos_iff.mpr nonempty
    rw [List.take_of_length_le (by omega)]
    have decoded := decodeReplace_encode true [] cut
    rw [encode_nil, List.nil_append] at decoded
    simp only [decodePayload, decoded, cutText, if_neg nonempty]
    simp
    split <;> omega

/-- A read that stops at the limit has found a complete character. -/
theorem complete_of_long {m : Nat} (positive : 0 < m) (cut : Cut p)
    (long : 4 * m ≤ (encode cs ++ p).length) : cs ≠ [] := by
  rintro rfl
  have few := cut.length_lt
  rw [encode_nil, List.nil_append] at long
  omega

theorem decodePayload_length (m : Nat) (flush : Bool) (payload : Bytes) :
    (decodePayload m flush payload).1.length ≤ m := by
  simp only [decodePayload, List.length_take]
  omega

/-! ### One read -/

theorem getD_appendTo (log : Option Bytes) (payload : Bytes) :
    (appendTo log payload).getD [] = log.getD [] ++ payload := by
  unfold appendTo
  split
  · rename_i empty
    rw [List.isEmpty_iff.mp empty, List.append_nil]
  · rfl

/-- What the cursor promises of a log that may grow by `grown`. -/
structure MayGrow (log : Bytes) (offset : Int) (grown : Bytes) : Prop where
  valid : IsLog (log ++ grown)
  settled : Flushed log offset → grown = []

variable {text : List Char}

theorem Delivered.offset_le {log : Bytes} {offset : Int} (h : Delivered log text offset) :
    0 ≤ offset ∧ offset ≤ log.length := by
  cases h with
  | complete rest log_eq offset_eq =>
    rw [log_eq, offset_eq, List.length_append]
    omega
  | flushed cs p cut nonempty log_eq text_eq offset_eq => omega

theorem Delivered.flushed_end {log : Bytes} (cut : Cut p) (nonempty : p ≠ [])
    (log_eq : log = encode cs ++ p) : Flushed log log.length := by
  refine ⟨cs, p, cut, nonempty, log_eq, ?_⟩
  have size := List.length_pos_iff.mpr nonempty
  rw [log_eq, List.length_append]
  omega

theorem Delivered.grow {log grown : Bytes} {offset : Int} (h : Delivered log text offset)
    (ok : MayGrow log offset grown) :
    Delivered (log ++ grown) text offset := by
  cases h with
  | complete rest log_eq offset_eq =>
    exact .complete (rest ++ grown) (by rw [log_eq, List.append_assoc]) offset_eq
  | flushed cs p cut nonempty log_eq text_eq offset_eq =>
    have end_ : Flushed log offset := by
      rw [offset_eq]
      exact flushed_end cut nonempty log_eq
    rw [ok.settled end_, List.append_nil]
    exact .flushed cs p cut nonempty log_eq text_eq offset_eq

structure ChunkSpec (log grown : Bytes) (text : List Char) (offset maxChars : Int) (final : Bool)
    (chunk : LogChunk) : Prop where
  delivered : Delivered (log ++ grown) (text ++ chunk.text) chunk.nextOffset
  bounded : chunk.text.length ≤ maxChars.toNat
  progress : 0 < maxChars → (∃ c rest, log.drop offset.toNat = encodeChar c ++ rest) →
    offset < chunk.nextOffset
  drains : 0 < maxChars → final = true → offset < log.length → offset < chunk.nextOffset

/-- A read that returns nothing. -/
theorem ChunkSpec.of_idle {log grown : Bytes} {offset maxChars : Int} {final : Bool}
    (h : Delivered log text offset) (ok : MayGrow log offset grown)
    (idle : maxChars ≤ 0 ∨ (log.length : Int) ≤ offset) (hasMore : Bool) :
    ChunkSpec log grown text offset maxChars final
      ⟨[], offset.toNat, offset.toNat, log.length, hasMore⟩ := by
  obtain ⟨low, high⟩ := h.offset_le
  constructor
  · show Delivered (log ++ grown) (text ++ []) (offset.toNat : Int)
    rw [List.append_nil, Int.toNat_of_nonneg low]
    exact h.grow ok
  · exact Nat.zero_le _
  · rintro positive ⟨c, rest, there⟩
    have size := congrArg List.length there
    have char := length_encodeChar_pos c
    rw [List.length_drop, List.length_append] at size
    omega
  · intro positive _ more
    omega

theorem readLogChunk_spec (name : String) {log : Option Bytes} {grown : Bytes} {offset : Int}
    (maxChars : Int) (final : Bool) (h : Delivered (log.getD []) text offset)
    (ok : MayGrow (log.getD []) offset grown) :
    ∃ chunk, readLogChunk name log grown offset maxChars final = .ok chunk ∧
      ChunkSpec (log.getD []) grown text offset maxChars final chunk := by
  obtain ⟨low, high⟩ := h.offset_le
  unfold readLogChunk
  simp only
  rw [if_neg (by omega)]
  by_cases idle : (decide (maxChars ≤ 0) || decide (offset.toNat ≥ (log.getD []).length)) = true
  · rw [if_pos idle]
    simp only [Bool.or_eq_true, decide_eq_true_eq] at idle
    exact ⟨_, rfl, .of_idle h ok (by omega) _⟩
  rw [if_neg idle]
  simp only [Bool.or_eq_true, decide_eq_true_eq, not_or, not_le] at idle
  obtain ⟨positive, more⟩ := idle
  refine ⟨_, rfl, ?_⟩
  cases h with
  | flushed cs p cut nonempty log_eq text_eq offset_eq => omega
  | complete rest log_eq offset_eq =>
    obtain ⟨cs, p, cut, grown_eq⟩ := ok.valid
    rw [log_eq, List.append_assoc] at grown_eq
    obtain ⟨ds, rfl, behind⟩ := exists_of_encode_append cut grown_eq
    have start : offset.toNat = (encode text).length := by omega
    have window : ((log.getD [] ++ grown).drop offset.toNat).take
        (max 4 (maxChars * 4).toNat) = (encode ds ++ p).take (4 * maxChars.toNat) := by
      have limit : max 4 (maxChars * 4).toNat = 4 * maxChars.toNat := by omega
      rw [limit, start, log_eq, List.append_assoc, List.drop_left, behind]
    rw [window]
    generalize flush_eq : (final && decide (offset.toNat
      + ((encode ds ++ p).take (4 * maxChars.toNat)).length ≥ (log.getD []).length)) = flush
    have budget : 0 < maxChars.toNat := by omega
    constructor
    · -- the text and the cursor
      simp only
      have reads := decodePayload_reads maxChars.toNat flush ds cut
      rw [log_eq, List.append_assoc, behind]
      generalize decodePayload maxChars.toNat flush
        ((encode ds ++ p).take (4 * maxChars.toNat)) = result at reads ⊢
      cases reads with
      | complete pre consumed_eq =>
        obtain ⟨es, rfl⟩ := pre
        refine .complete (encode es ++ p) ?_ ?_
        · simp only [encode_append, List.append_assoc]
        · rw [consumed_eq, start, encode_append, List.length_append]
      | flushed nonempty text_eq consumed_eq =>
        refine .flushed (text ++ ds) p cut nonempty ?_ ?_ ?_
        · rw [encode_append, List.append_assoc]
        · rw [text_eq, List.append_assoc]
        · rw [consumed_eq, start, List.length_append, List.length_append, List.length_append]
    · exact decodePayload_length _ _ _
    · rintro - ⟨c, after, there⟩
      rw [start, log_eq, List.drop_left] at there
      have first : encode [c] ++ (after ++ grown) = encode ds ++ p := by
        rw [← behind, there]
        simp
      obtain ⟨es, rfl, -⟩ := exists_of_encode_append cut first
      have advance := decodePayload_complete flush budget c es cut
      simp only [List.singleton_append]
      omega
    · rintro - rfl -
      have advance : 0 < (decodePayload maxChars.toNat flush
          ((encode ds ++ p).take (4 * maxChars.toNat))).2 := by
        cases flush with
        | true =>
          apply decodePayload_flush budget cut
          rw [← behind]
          intro none
          rw [log_eq, List.append_eq_nil_iff.mp none |>.1, List.append_nil] at more
          omega
        | false =>
          have long : 4 * maxChars.toNat ≤ (encode ds ++ p).length := by
            have short := flush_eq
            rw [Bool.true_and, decide_eq_false_iff_not] at short
            have sizes := congrArg List.length behind
            have whole := congrArg List.length log_eq
            rw [List.length_append] at sizes whole
            rw [List.length_take] at short
            omega
          obtain ⟨c, es, rfl⟩ := List.exists_cons_of_ne_nil (complete_of_long budget cut long)
          exact decodePayload_complete false budget c es cut
      simp only
      omega

/-! ### Any interleaving of appends and calls -/

structure LogState where
  files : JobFiles
  returned : Stream → List Char

namespace LogState

def log (s : LogState) (stream : Stream) : Bytes := (s.files.log stream).getD []

def offset (s : LogState) (stream : Stream) : Int :=
  (s.files.cursor.map (·.offset stream)).getD 0

def append (s : LogState) (grown : Stream → Bytes) : LogState :=
  { s with files := s.files.grow grown }

/-- A call of `consume_logs`, whether it returns or raises. -/
def consume (store : JobStore) (jobId executionId : String) (maxOutputChars : Int) (final : Bool)
    (grown : Stream → Bytes) (s : LogState) : LogState :=
  match store.consumeLogs jobId executionId maxOutputChars final grown s.files with
  | .ok (page, files) => ⟨files, fun stream => s.returned stream ++ page.text stream⟩
  | .error _ => s.append grown

end LogState

/-- What the worker may append: the logs stay UTF-8 up to an incomplete tail, and a log is not
continued once a final read has flushed its tail. -/
def Appends (s : LogState) (grown : Stream → Bytes) : Prop :=
  ∀ stream, MayGrow (s.log stream) (s.offset stream) (grown stream)

inductive LogRun (store : JobStore) (jobId : String) (start : JobFiles) : LogState → Prop where
  | start : LogRun store jobId start ⟨start, fun _ => []⟩
  | append {s : LogState} (run : LogRun store jobId start s) {grown : Stream → Bytes}
      (ok : Appends s grown) : LogRun store jobId start (s.append grown)
  | consume {s : LogState} (run : LogRun store jobId start s) (executionId : String)
      (maxOutputChars : Int) (final : Bool) {grown : Stream → Bytes} (ok : Appends s grown) :
      LogRun store jobId start (s.consume store jobId executionId maxOutputChars final grown)

/-- The job can be read by its owner. -/
structure Readable (store : JobStore) (jobId executionId : String) (f : JobFiles) : Prop where
  spec : ∃ spec, store.enter jobId f = .ok spec ∧ spec.executionId = executionId
  cursor : ∃ cursor, f.cursor = some cursor ∧ cursor.validate jobId = .ok ()

/-- A job whose logs have not been read. -/
structure Unread (store : JobStore) (jobId executionId : String) (f : JobFiles) : Prop where
  readable : Readable store jobId executionId f
  logs : ∀ stream, IsLog ((f.log stream).getD [])
  offsets : ∀ cursor, f.cursor = some cursor → ∀ stream, cursor.offset stream = 0

variable {jobId : String} {store : JobStore}

theorem enter_congr {f f' : JobFiles} (manifest : f'.manifest = f.manifest) (spec : f'.spec = f.spec) :
    store.enter jobId f' = store.enter jobId f := by
  simp only [JobStore.enter, JobStore.paths, JobStore.assertStoreIdentity, JobStore.readSpec,
    manifest, spec]

variable {executionId : String}

theorem Readable.grow {f : JobFiles} (h : Readable store jobId executionId f) (grown : Stream → Bytes) :
    Readable store jobId executionId (f.grow grown) := by
  obtain ⟨spec, entered, owner⟩ := h.spec
  refine ⟨⟨spec, ?_, owner⟩, h.cursor⟩
  rw [← entered]
  exact enter_congr rfl rfl

theorem log_grow (f : JobFiles) (grown : Stream → Bytes) (stream : Stream) :
    ((f.grow grown).log stream).getD [] = (f.log stream).getD [] ++ grown stream := by
  cases stream
  · exact getD_appendTo f.stdout (grown .stdout)
  · exact getD_appendTo f.stderr (grown .stderr)

/-- What a call returns, and what it leaves. -/
structure PageSpec (s : LogState) (grown : Stream → Bytes) (maxOutputChars : Int) (final : Bool)
    (page : LogPage) (cursor : LogCursor) (stream : Stream) : Prop where
  delivered : Delivered (s.log stream ++ grown stream)
    (s.returned stream ++ page.text stream) (cursor.offset stream)
  bounded : (page.text stream).length ≤ maxOutputChars.toNat
  progress : 0 < maxOutputChars →
    (∃ c rest, (s.log stream).drop (s.offset stream).toNat = encodeChar c ++ rest) →
    s.offset stream < cursor.offset stream
  drains : 0 < maxOutputChars → final = true → s.offset stream < (s.log stream).length →
    s.offset stream < cursor.offset stream

theorem PageSpec.of_chunk {s : LogState} {grown : Stream → Bytes} {maxOutputChars : Int}
    {final : Bool} {page : LogPage} {cursor : LogCursor} {stream : Stream} {chunk : LogChunk}
    (h : ChunkSpec (s.log stream) (grown stream) (s.returned stream) (s.offset stream)
      (max 0 maxOutputChars) final chunk)
    (text : page.text stream = chunk.text) (next : cursor.offset stream = chunk.nextOffset) :
    PageSpec s grown maxOutputChars final page cursor stream where
  delivered := by
    rw [text, next]
    exact h.delivered
  bounded := by
    have bounded := h.bounded
    rw [text]
    omega
  progress positive there := by
    rw [next]
    exact h.progress (by omega) there
  drains positive final more := by
    rw [next]
    exact h.drains (by omega) final more

structure CursorValid (jobId : String) (cursor : LogCursor) : Prop where
  schema : cursor.schemaVersion = jobSchemaVersion
  job : cursor.jobId = jobId
  stdout : 0 ≤ cursor.stdoutOffset
  stderr : 0 ≤ cursor.stderrOffset
  revision : 0 ≤ cursor.revision

theorem cursor_valid_iff {cursor : LogCursor} :
    cursor.validate jobId = .ok () ↔ CursorValid jobId cursor := by
  constructor
  · intro h
    obtain ⟨schema, h⟩ := raiseIf_bind_ok h
    obtain ⟨job, h⟩ := raiseIf_bind_ok h
    rw [rejectFields_ok] at h
    simp only [negative, List.mem_cons, List.not_mem_nil, or_false, forall_eq_or_imp, forall_eq,
      decide_eq_false_iff_not, Int.not_lt] at h
    simp only [ne_eq, decide_not, Bool.not_eq_eq_eq_not, Bool.not_false, decide_eq_true_eq]
      at schema job
    exact ⟨schema, job, h.1, h.2.1, h.2.2⟩
  · rintro ⟨schema, job, stdout, stderr, revision⟩
    have numbers : rejectFields "durable job cursor" " is invalid"
        [("stdout_offset", negative cursor.stdoutOffset),
          ("stderr_offset", negative cursor.stderrOffset), ("revision", negative cursor.revision)]
        = .ok () := by
      rw [rejectFields_ok]
      simp [negative, stdout, stderr, revision]
    simp [LogCursor.validate, raiseIf, schema, job, numbers, bind, Except.bind]

theorem consumeLogs_log {maxOutputChars : Int} {final : Bool} {grown : Stream → Bytes}
    {f f' : JobFiles} {page : LogPage}
    (h : store.consumeLogs jobId executionId maxOutputChars final grown f = .ok (page, f'))
    (stream : Stream) : f'.log stream = (f.grow grown).log stream := by
  obtain ⟨spec, -, h⟩ := bind_ok h
  obtain ⟨_, -, h⟩ := bind_ok h
  obtain ⟨cursor, -, h⟩ := bind_ok h
  obtain ⟨out, -, h⟩ := bind_ok h
  obtain ⟨err, -, h⟩ := bind_ok h
  cases h
  cases stream <;> rfl

/-- Every call by the owner on logs in delivery returns the next part of each. -/
theorem consumeLogs_spec {s : LogState} (readable : Readable store jobId executionId s.files)
    (h : ∀ stream, Delivered (s.log stream) (s.returned stream) (s.offset stream))
    (maxOutputChars : Int) (final : Bool) {grown : Stream → Bytes} (ok : Appends s grown) :
    ∃ page cursor, store.consumeLogs jobId executionId maxOutputChars final grown s.files
        = .ok (page, { s.files.grow grown with cursor := some cursor }) ∧
      cursor.validate jobId = .ok () ∧
      ∀ stream, PageSpec s grown maxOutputChars final page cursor stream := by
  obtain ⟨spec, entered, owner⟩ := readable.spec
  obtain ⟨cursor, there, valid⟩ := readable.cursor
  have offsets : ∀ stream, s.offset stream = cursor.offset stream := by
    intro stream
    simp [LogState.offset, there]
  obtain ⟨out, outRead, outSpec⟩ := readLogChunk_spec "stdout.log" (max 0 maxOutputChars) final
    (h .stdout) (ok .stdout)
  obtain ⟨err, errRead, errSpec⟩ := readLogChunk_spec "stderr.log" (max 0 maxOutputChars) final
    (h .stderr) (ok .stderr)
  rw [offsets] at outRead errRead
  have own : ensureOwner spec executionId = .ok () := by simp [ensureOwner, raiseIf, owner]
  have read : readCursor jobId s.files = .ok cursor := by
    simp [readCursor, there, valid, bind, Except.bind, pure, Except.pure]
  have outChunk : readLogChunk "stdout.log" s.files.stdout (grown .stdout) cursor.stdoutOffset
      (max 0 maxOutputChars) final = .ok out := outRead
  have errChunk : readLogChunk "stderr.log" s.files.stderr (grown .stderr) cursor.stderrOffset
      (max 0 maxOutputChars) final = .ok err := errRead
  refine ⟨logPage out err,
    ⟨jobSchemaVersion, jobId, out.nextOffset, err.nextOffset, cursor.revision + 1⟩, ?_, ?_, ?_⟩
  · simp only [JobStore.consumeLogs, entered, own, read, outChunk, errChunk, bind, Except.bind,
      pure, Except.pure]
  · have nonneg := (cursor_valid_iff.mp valid).revision
    exact cursor_valid_iff.mpr ⟨rfl, rfl, Int.natCast_nonneg _, Int.natCast_nonneg _, by
      show 0 ≤ cursor.revision + 1
      omega⟩
  · intro stream
    cases stream
    · exact .of_chunk outSpec rfl rfl
    · exact .of_chunk errSpec rfl rfl

/-- The logs stay in delivery through every interleaving of appends and calls. -/
theorem LogRun.delivered {start : JobFiles} (unread : Unread store jobId executionId start)
    {s : LogState} (run : LogRun store jobId start s) :
    Readable store jobId executionId s.files ∧
      ∀ stream, Delivered (s.log stream) (s.returned stream) (s.offset stream) := by
  induction run with
  | start =>
    refine ⟨unread.readable, fun stream => ?_⟩
    obtain ⟨cursor, there, -⟩ := unread.readable.cursor
    refine .complete _ rfl ?_
    simp [LogState.offset, there, unread.offsets cursor there stream]
  | @append s run grown ok ih =>
    obtain ⟨readable, delivered⟩ := ih
    refine ⟨readable.grow grown, fun stream => ?_⟩
    have grows := (delivered stream).grow (ok stream)
    rw [LogState.log, ← log_grow] at grows
    exact grows
  | @consume s run caller maxOutputChars final grown ok ih =>
    obtain ⟨readable, delivered⟩ := ih
    by_cases own : caller = executionId
    · subst own
      obtain ⟨page, cursor, ran, valid, spec⟩ :=
        consumeLogs_spec readable delivered maxOutputChars final ok
      obtain ⟨jobSpec, entered, owner⟩ := (readable.grow grown).spec
      simp only [LogState.consume, ran]
      refine ⟨⟨⟨jobSpec, ?_, owner⟩, cursor, rfl, valid⟩, fun stream => ?_⟩
      · rw [← entered]
        exact enter_congr rfl rfl
      · have part := (spec stream).delivered
        rw [LogState.log, ← log_grow] at part
        exact part
    · -- another caller is turned away
      have raised : ∃ e, store.consumeLogs jobId caller maxOutputChars final grown s.files
          = .error e := by
        obtain ⟨jobSpec, entered, owner⟩ := readable.spec
        refine ⟨ownershipError jobSpec.jobId, ?_⟩
        have foreign : jobSpec.executionId ≠ caller := fun same => own (same ▸ owner)
        simp [JobStore.consumeLogs, entered, ensureOwner, raiseIf, foreign, bind, Except.bind]
      obtain ⟨e, raised⟩ := raised
      simp only [LogState.consume, raised]
      refine ⟨readable.grow grown, fun stream => ?_⟩
      have grows := (delivered stream).grow (ok stream)
      rw [LogState.log, ← log_grow] at grows
      exact grows

theorem Delivered.prefix_decoded {log : Bytes} {offset : Int} (valid : IsLog log)
    (h : Delivered log text offset) : text <+: decodedLog log := by
  cases h with
  | complete rest log_eq offset_eq =>
    obtain ⟨cs, p, cut, eq⟩ := valid
    rw [eq] at log_eq
    obtain ⟨es, rfl, -⟩ := exists_of_encode_append cut log_eq.symm
    rw [eq, decodedLog_encode cut, List.append_assoc]
    exact List.prefix_append _ _
  | flushed cs p cut nonempty log_eq text_eq offset_eq =>
    rw [log_eq, decodedLog_encode cut, cutText, if_neg nonempty, text_eq]

/-- The cursor counts the bytes of what has been returned, until the incomplete tail has been
flushed; then it stands at the end. -/
theorem Delivered.offset_spec {log : Bytes} {offset : Int} (valid : IsLog log)
    (h : Delivered log text offset) :
    (¬ Flushed log offset → offset = (encode text).length) ∧
      (Flushed log offset → offset = log.length ∧ text = decodedLog log) := by
  cases h with
  | complete rest log_eq offset_eq =>
    refine ⟨fun _ => offset_eq, ?_⟩
    rintro ⟨cs, p, cut, -, eq, past⟩
    rw [eq] at log_eq
    obtain ⟨es, rfl, -⟩ := exists_of_encode_append cut log_eq.symm
    rw [encode_append, List.length_append] at past
    omega
  | flushed cs p cut nonempty log_eq text_eq offset_eq =>
    have flushed : Flushed log offset := by
      rw [offset_eq]
      exact flushed_end cut nonempty log_eq
    refine ⟨fun not => absurd flushed not, fun _ => ⟨offset_eq, ?_⟩⟩
    rw [log_eq, decodedLog_encode cut, cutText, if_neg nonempty, text_eq]

theorem LogRun.valid {start : JobFiles} (unread : Unread store jobId executionId start)
    {s : LogState} (run : LogRun store jobId start s) (stream : Stream) : IsLog (s.log stream) := by
  induction run with
  | start => exact unread.logs stream
  | @append s run grown ok ih =>
    have next := (ok stream).valid
    rw [LogState.log, ← log_grow] at next
    exact next
  | @consume s run caller maxOutputChars final grown ok ih =>
    have next := (ok stream).valid
    rw [LogState.log, ← log_grow] at next
    unfold LogState.consume
    split
    · rename_i page files ran
      rw [LogState.log, (consumeLogs_log ran stream)]
      exact next
    · exact next

/-- Log consumption is exactly once, in every interleaving of appends and calls in which no log is
continued after its incomplete tail was flushed. -/
theorem logs_consumed_once {store : JobStore} {jobId executionId : String} {start : JobFiles}
    (unread : Unread store jobId executionId start) {s : LogState}
    (run : LogRun store jobId start s) :
    (∀ stream, s.returned stream <+: decodedLog (s.log stream) ∧
      (¬ Flushed (s.log stream) (s.offset stream) →
        s.offset stream = (encode (s.returned stream)).length) ∧
      (Flushed (s.log stream) (s.offset stream) →
        s.offset stream = (s.log stream).length ∧ s.returned stream = decodedLog (s.log stream))) ∧
    ∀ maxOutputChars final grown, 0 < maxOutputChars → Appends s grown →
      ∃ page cursor, store.consumeLogs jobId executionId maxOutputChars final grown s.files
          = .ok (page, { s.files.grow grown with cursor := some cursor }) ∧
        ∀ stream, ((page.text stream).length : Int) ≤ maxOutputChars ∧
          ((∃ c rest, (s.log stream).drop (s.offset stream).toNat = encodeChar c ++ rest) →
            s.offset stream < cursor.offset stream) ∧
          (final = true → s.offset stream < (s.log stream).length →
            s.offset stream < cursor.offset stream) := by
  obtain ⟨readable, delivered⟩ := run.delivered unread
  constructor
  · intro stream
    have valid := run.valid unread stream
    exact ⟨(delivered stream).prefix_decoded valid, (delivered stream).offset_spec valid⟩
  · intro maxOutputChars final grown positive ok
    obtain ⟨page, cursor, ran, -, spec⟩ :=
      consumeLogs_spec readable delivered maxOutputChars final ok
    refine ⟨page, cursor, ran, fun stream => ⟨?_, (spec stream).progress positive,
      (spec stream).drains positive⟩⟩
    have bounded := (spec stream).bounded
    omega

/-! ### A job that writes a character in two parts -/

theorem greet_readable : Readable greetStore greetJob "run-1" greetFiles :=
  ⟨⟨greetSpec, by decide +kernel, rfl⟩, ⟨⟨1, greetJob, 0, 0, 0⟩, rfl, rfl⟩⟩

theorem greet_unread : Unread greetStore greetJob "run-1" greetFiles := by
  refine ⟨greet_readable, ?_, ?_⟩
  · intro stream
    exact ⟨[], [], cut_nil, by cases stream <;> rfl⟩
  · intro cursor there stream
    cases there
    cases stream <;> rfl

/-- The job prints `hi` and two of the three bytes of the euro sign. -/
def greetOutput : Stream → Bytes
  | .stdout => encode ['h', 'i'] ++ [0xE2, 0x82]
  | .stderr => []

def nothing : Stream → Bytes := fun _ => []

def greetPrinted : LogState := LogState.append ⟨greetFiles, fun _ => []⟩ greetOutput

theorem cut_euro : Cut [0xE2, 0x82] := ⟨'€', by decide, by decide⟩

theorem greet_appends : Appends ⟨greetFiles, fun _ => []⟩ greetOutput := by
  intro stream
  constructor
  · cases stream
    · exact ⟨['h', 'i'], [0xE2, 0x82], cut_euro, rfl⟩
    · exact ⟨[], [], cut_nil, rfl⟩
  · rintro ⟨cs, p, -, -, -, past⟩
    cases stream <;> exact absurd past (by simp [LogState.offset, greetFiles, LogCursor.offset])

theorem greet_logs_consumed :
    LogRun greetStore greetJob greetFiles greetPrinted ∧
      greetPrinted.returned .stdout <+: decodedLog (greetPrinted.log .stdout) :=
  have run : LogRun greetStore greetJob greetFiles greetPrinted := .append .start greet_appends
  ⟨run, ((logs_consumed_once greet_unread run).1 .stdout).1⟩

/-- A final read flushes the two bytes, then the worker writes the third. -/
def greetContinued : LogState :=
  ((greetPrinted.consume greetStore greetJob "run-1" 10 true nothing).append
    fun | .stdout => [0xAC] | .stderr => []).consume greetStore greetJob "run-1" 10 true nothing

theorem continued_log_not_consumed_once :
    IsLog (greetPrinted.log .stdout) ∧
      decodedLog (greetContinued.log .stdout) = ['h', 'i', '€'] ∧
      greetContinued.returned .stdout = ['h', 'i', replacement, replacement] ∧
      ¬ greetContinued.returned .stdout <+: decodedLog (greetContinued.log .stdout) := by
  have decoded : decodedLog (greetContinued.log .stdout) = ['h', 'i', '€'] := by decide +kernel
  have returned : greetContinued.returned .stdout = ['h', 'i', replacement, replacement] := by
    decide +kernel
  refine ⟨⟨['h', 'i'], _, cut_euro, rfl⟩, decoded, returned, ?_⟩
  rw [decoded, returned]
  decide

end Unchain.Jobs
