import Unchain.Lib.Utf8

/-!
The pump that copies what a command prints into its log (`_LogPump`).

The pump decodes the chunks as they come, writes the text out again, and stops at the first
character that has no room. Its log and its flag depend on the stream alone, not on the chunks: the
decoder holds a cut-off character back, so every chunk is written as whole characters.
-/

namespace Unchain.Jobs

open Lib.Utf8

/-- The variables of `_copy`: the file it appends to, the bytes the decoder holds back, and its
flags. -/
structure LogPump where
  file : Bytes
  held : Bytes
  acceptingOutput : Bool
  truncated : Bool

/-- `_bounded_utf8_prefix`. -/
def boundedUtf8Prefix (payload : Bytes) (limit : Int) : Bytes :=
  if limit ≤ 0 then []
  else if payload.length ≤ limit then payload
  else encode (decodeIgnore (payload.take limit.toNat))

namespace LogPump

variable (maxBytes : Int)

def accept (pump : LogPump) (payload : Bytes) : LogPump :=
  let accepted :=
    if pump.acceptingOutput then
      boundedUtf8Prefix payload (max 0 (maxBytes - pump.file.length))
    else []
  { pump with
    file := pump.file ++ accepted
    acceptingOutput := pump.acceptingOutput && !decide (accepted.length < payload.length)
    truncated := pump.truncated || decide (accepted.length < payload.length) }

/-- One call of the decoder, and what it returns accepted. -/
def decode (final : Bool) (pump : LogPump) (chunk : Bytes) : LogPump :=
  let decoded := decodeReplace final (pump.held ++ chunk)
  accept maxBytes { pump with held := decoded.2 } (encode decoded.1)

/-- `_copy`, over the chunks that it reads before the end of the stream. -/
def copy (file : Bytes) (chunks : List Bytes) : LogPump :=
  let opened : LogPump := ⟨file, [], decide ((file.length : Int) < maxBytes), false⟩
  let drained := chunks.foldl (decode maxBytes false) opened
  decode maxBytes true drained []

/-! ### The pump against the text -/

variable {maxBytes}

def room (maxBytes : Int) (file : Bytes) : Nat := (maxBytes - file.length).toNat

/-- The pump has read a text and holds the rest back: its log has the characters that have room, and
its flags say whether these are all. -/
structure Shows (maxBytes : Int) (file : Bytes) (text : List Char) (held : Bytes) (pump : LogPump) :
    Prop where
  log : pump.file = file ++ encode (fitting (room maxBytes file) text)
  held : pump.held = held
  acceptingOutput : pump.acceptingOutput =
    (decide ((file.length : Int) < maxBytes) && !pump.truncated)
  truncated : pump.truncated = decide (room maxBytes file < (encode text).length)

theorem encode_fitting_zero (cs : List Char) : encode (fitting 0 cs) = [] :=
  List.length_eq_zero_iff.mp (Nat.le_zero.mp (length_fitting_le 0 cs))

theorem boundedUtf8Prefix_encode (cs : List Char) (limit : Int) :
    boundedUtf8Prefix (encode cs) limit = encode (fitting limit.toNat cs) := by
  unfold boundedUtf8Prefix
  split
  · rw [Int.toNat_of_nonpos (by omega), encode_fitting_zero]
  · split
    · rw [fitting_eq_self.mpr (by omega)]
    · rw [decodeIgnore_take]

/-- Some bytes are left out exactly when not all of them have room. -/
theorem length_fitting_lt {limit : Nat} {cs : List Char} :
    (encode (fitting limit cs)).length < (encode cs).length ↔ limit < (encode cs).length := by
  constructor
  · intro short
    by_contra fits
    rw [fitting_eq_self.mpr (by omega)] at short
    exact Nat.lt_irrefl _ short
  · exact Nat.lt_of_le_of_lt (length_fitting_le limit cs)

variable {file held : Bytes} {text : List Char} {pump : LogPump}

/-- Of further characters those are accepted that have room behind the text. -/
theorem Shows.accept (shows_ : Shows maxBytes file text held pump) (more : List Char) :
    Shows maxBytes file (text ++ more) held (accept maxBytes pump (encode more)) := by
  have opened := shows_.acceptingOutput
  have flag := shows_.truncated
  have log := shows_.log
  by_cases fits : (encode text).length ≤ room maxBytes file
  · rw [decide_eq_false (by omega)] at flag
    rw [flag, Bool.not_false, Bool.and_true] at opened
    rw [fitting_eq_self.mpr fits] at log
    have accepted : (if pump.acceptingOutput then
        boundedUtf8Prefix (encode more) (max 0 (maxBytes - pump.file.length)) else []) =
        encode (fitting (room maxBytes file - (encode text).length) more) := by
      rw [opened, log, List.length_append]
      unfold room at fits ⊢
      split
      · rw [boundedUtf8Prefix_encode]
        congr 2
        omega
      · rename_i full
        have none : (maxBytes - file.length).toNat - (encode text).length = 0 := by
          simp only [decide_eq_true_eq] at full
          omega
        rw [none, encode_fitting_zero]
    have short : (encode (fitting (room maxBytes file - (encode text).length) more)).length <
        (encode more).length ↔ room maxBytes file < (encode (text ++ more)).length := by
      rw [length_fitting_lt, encode_append, List.length_append]
      omega
    constructor
    · simp only [LogPump.accept, accepted]
      rw [fitting_append, if_pos fits, encode_append, log, List.append_assoc]
    · exact shows_.held
    · simp only [LogPump.accept, opened, flag, Bool.false_or]
    · simp only [LogPump.accept, accepted, flag, short, Bool.false_or]
  · rw [decide_eq_true (by omega)] at flag
    rw [flag, Bool.not_true, Bool.and_false] at opened
    have larger : room maxBytes file < (encode (text ++ more)).length := by
      rw [encode_append, List.length_append]
      omega
    constructor
    · simp only [LogPump.accept, opened, Bool.false_eq_true, if_false, List.append_nil]
      rw [fitting_append, if_neg fits, log]
    · exact shows_.held
    · simp [LogPump.accept, opened, flag]
    · simp only [LogPump.accept, flag, Bool.true_or, larger, decide_true]

/-- A call of the decoder reads on where the last one stopped. -/
theorem Shows.decode {read : Bytes} (final : Bool) (chunk : Bytes)
    (shows_ : Shows maxBytes file (decodeReplace false read).1 (decodeReplace false read).2 pump) :
    Shows maxBytes file (decodeReplace final (read ++ chunk)).1
      (decodeReplace final (read ++ chunk)).2 (decode maxBytes final pump chunk) := by
  rw [decodeReplace_append]
  have onward : Shows maxBytes file (decodeReplace false read).1
      (decodeReplace final ((decodeReplace false read).2 ++ chunk)).2
      { pump with held := (decodeReplace final ((decodeReplace false read).2 ++ chunk)).2 } :=
    ⟨shows_.log, rfl, shows_.acceptingOutput, shows_.truncated⟩
  have accepted := onward.accept (decodeReplace final ((decodeReplace false read).2 ++ chunk)).1
  rw [LogPump.decode, shows_.held]
  exact accepted

theorem shows_foldl {read : Bytes} (chunks : List Bytes)
    (shows_ : Shows maxBytes file (decodeReplace false read).1 (decodeReplace false read).2 pump) :
    Shows maxBytes file (decodeReplace false (read ++ chunks.flatten)).1
      (decodeReplace false (read ++ chunks.flatten)).2
      (chunks.foldl (LogPump.decode maxBytes false) pump) := by
  induction chunks generalizing read pump with
  | nil => simpa using shows_
  | cons chunk chunks ih =>
    have rest := ih (shows_.decode false chunk)
    rwa [List.append_assoc] at rest

theorem shows_opened (maxBytes : Int) (file : Bytes) :
    Shows maxBytes file (decodeReplace false []).1 (decodeReplace false []).2
      ⟨file, [], decide ((file.length : Int) < maxBytes), false⟩ where
  log := (List.append_nil file).symm
  held := rfl
  acceptingOutput := (Bool.and_true _).symm
  truncated := (decide_eq_false (Nat.not_lt_zero _)).symm

theorem shows_copy (maxBytes : Int) (file : Bytes) (chunks : List Bytes) :
    Shows maxBytes file (decodeReplace true chunks.flatten).1 (decodeReplace true chunks.flatten).2
      (copy maxBytes file chunks) := by
  have drained := (shows_foldl chunks (shows_opened maxBytes file)).decode true []
  rwa [List.nil_append, List.append_nil] at drained

/-- However the stream comes in chunks, what is behind the file in the end is the longest prefix of
the decoded stream, in whole characters, that has room; the flag says that it is not all. -/
theorem copy_shows_stream (maxBytes : Int) (file : Bytes) (chunks : List Bytes) :
    ∃ shown, (copy maxBytes file chunks).file = file ++ encode shown ∧
      shown <+: (decodeReplace true chunks.flatten).1 ∧
      (encode shown).length ≤ (maxBytes - file.length).toNat ∧
      (∀ cs, cs <+: (decodeReplace true chunks.flatten).1 →
        (encode cs).length ≤ (maxBytes - file.length).toNat → encode cs <+: encode shown) ∧
      ((copy maxBytes file chunks).truncated = true ↔
        (encode shown).length < (encode (decodeReplace true chunks.flatten).1).length) := by
  have copied := shows_copy maxBytes file chunks
  refine ⟨_, copied.log, fitting_prefix _ _, length_fitting_le _ _, ?_, ?_⟩
  · intro cs pre fits
    obtain ⟨rest, same⟩ := fitting_longest pre fits
    refine ⟨encode rest, ?_⟩
    rw [← encode_append, same]
    rfl
  · rw [copied.truncated, decide_eq_true_eq, length_fitting_lt]

end LogPump

end Unchain.Jobs
