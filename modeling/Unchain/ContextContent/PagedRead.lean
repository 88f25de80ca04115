import Unchain.ContextContent.Page

/-!
Paged reads make progress and lose nothing.

A read follows the request each page carries, from offset 0 on. Two facts carry the
argument. A rendered page is valid when it fits (`validate_renderPage`), and the bisection
ends on a positive number of bytes when one byte fits (`shrink_positive`): it keeps a lower
bound that fits and never lets the upper bound below one without having tried one. The
contents of the pages are then the source, cut at the offsets of the requests.
-/

namespace Unchain.ContextContent

open Lib Python Journal

variable {host : Host}

/-! ### A page that fits is valid -/

variable {data : Bytes}

theorem contentData_base64 {text : String} (decoded : Base64.decode? .standard text.toList = some data) :
    contentData (.dict [("encoding", .str "base64"), ("data_base64", .str text)]) = .ok data := by
  let c : Value := .dict [("encoding", .str "base64"), ("data_base64", .str text)]
  have dict : (!(c.isDict && (c.get "encoding").isStr)) = false := rfl
  have notText : ((c.get "encoding").eqPy (.str "utf-8") &&
      hasExactly c ["encoding", "text"]) = false := rfl
  have base64 : ((c.get "encoding").eqPy (.str "base64") &&
      hasExactly c ["encoding", "data_base64"]) = true := rfl
  have got : c.get "data_base64" = .str text := rfl
  show contentData c = _
  simp only [contentData, dict, notText, base64, got, decoded, Bool.false_eq_true, if_false, if_true]

theorem contentData_content : contentData (content data) = .ok data := by
  unfold content
  split
  · rename_i text decoded
    have object : contentData (.dict [("encoding", .str "utf-8"), ("text", .str (String.ofList text))]) =
        .ok (Utf8.encode (String.ofList text).toList) := rfl
    rw [object, String.toList_ofList, Utf8.eq_of_decode? decoded]
  · apply contentData_base64
    rw [String.toList_ofList, Base64.decode?_encode]

section Fields

variable (frame : PageFrame) (offset : Nat) (data : Bytes)

theorem renderPage_eof : (renderPage frame offset data).get "eof" =
    .bool (decide (offset + data.length ≥ frame.totalBytes)) := rfl

theorem renderPage_nextOffset : (renderPage frame offset data).get "next_offset" =
    if decide (offset + data.length ≥ frame.totalBytes) = true then .none
    else .int (offset + data.length : Nat) := rfl

theorem renderPage_nextRead : (renderPage frame offset data).get "next_read" =
    if decide (offset + data.length ≥ frame.totalBytes) = true then .none
    else readRequest frame.locator (offset + data.length) := rfl

theorem renderPage_content : (renderPage frame offset data).get "content" = content data := rfl

end Fields

variable {offset : Nat} {frame : PageFrame}

theorem checkEnd_renderPage (bounded : offset + data.length ≤ frame.totalBytes)
    (progress : data ≠ [] ∨ offset = frame.totalBytes) :
    checkEnd (renderPage frame offset data) offset data.length frame.totalBytes = .ok () := by
  unfold checkEnd
  rw [renderPage_eof, renderPage_nextOffset, renderPage_nextRead]
  by_cases eof : offset + data.length ≥ frame.totalBytes
  · simp only [decide_eq_true eof, if_true, Value.isNone]
    rw [if_neg]
    simp only [Bool.not_true, Bool.or_false, decide_eq_true_eq, not_not]
    omega
  · have nonempty : data.length ≠ 0 := by
      obtain nonempty | last := progress
      · exact fun zero => nonempty (List.length_eq_zero_iff.mp zero)
      · omega
    have ref : (renderPage frame offset data).get "ref" = .str frame.locator := rfl
    have next : requireNonnegativeInt "next_offset" (.int (offset + data.length : Nat)) =
        .ok (offset + data.length) := rfl
    simp only [Bool.false_eq_true, if_false, nonempty, ref, next, eof, bind, Except.bind,
      continues_readRequest, Bool.not_true, Bool.or_false, ne_eq, not_true_eq_false,
      decide_false]

/-- What a page needs besides fitting the budget. -/
structure PageFrame.Sound (host : Host) (frame : PageFrame) (ref : ResourceRef) : Prop where
  decodes : ∀ errorMessage,
    decodeContextContentLocator host errorMessage (.str frame.locator) = .ok (some ref)
  mime : '/' ∈ frame.mediaType.toList
  digest : isSha256 frame.sha256 = true

theorem validate_renderPage {ref : ResourceRef} (sound : frame.Sound host ref)
    (bounded : offset + data.length ≤ frame.totalBytes)
    (progress : data ≠ [] ∨ offset = frame.totalBytes)
    (source : data.length ≤ maxContextContentPageReadBytes) {length : Nat}
    (serialized : serializedLength host (renderPage frame offset data) = .ok length)
    (fits : length ≤ maxContextContentSerializedBytes) :
    validateContextContentPage host (renderPage frame offset data) =
      .ok (renderPage frame offset data) := by
  have shape : hasExactly (renderPage frame offset data) pageKeys = true := rfl
  have version : ((renderPage frame offset data).get "schema_version").eqPy
      (.str "unchain.context_content_page.v1") = true := rfl
  have trust : ((renderPage frame offset data).get "trust").eqPy (.str "UNTRUSTED_DATA") = true := rfl
  have ref : (renderPage frame offset data).get "ref" = .str frame.locator := rfl
  have mediaType : (renderPage frame offset data).get "media_type" = .str frame.mediaType := rfl
  have totalBytes : requireNonnegativeInt "total_bytes"
      ((renderPage frame offset data).get "total_bytes") = .ok frame.totalBytes := rfl
  have offsetOk : requireNonnegativeInt "offset"
      ((renderPage frame offset data).get "offset") = .ok offset := rfl
  have pageBytes : requireNonnegativeInt "page_bytes"
      ((renderPage frame offset data).get "page_bytes") = .ok data.length := rfl
  have sha256 : requireSha256 ((renderPage frame offset data).get "sha256") = .ok frame.sha256 := by
    have : (renderPage frame offset data).get "sha256" = .str frame.sha256 := rfl
    rw [this, requireSha256, if_pos sound.digest]
  have mime : frame.mediaType.toList.contains '/' = true := List.contains_iff_mem.mpr sound.mime
  have notLong : ¬ data.length > maxContextContentPageReadBytes := by omega
  have notOver : ¬ offset + data.length > frame.totalBytes := by omega
  have notLarge : ¬ length > maxContextContentSerializedBytes := by omega
  unfold validateContextContentPage
  simp only [shape, version, trust, ref, sound.decodes, mediaType, mime, totalBytes, offsetOk,
    pageBytes, sha256, renderPage_content, contentData_content,
    checkEnd_renderPage bounded progress, serialized, notOver, notLarge, notLong, bind,
    Except.bind, Bool.not_true, Bool.or_false, Bool.false_eq_true, if_false, Option.isNone_some,
    decide_false, ne_eq, not_true_eq_false]
  rfl

/-! ### The bisection -/

/-- The bisection ends on a number of bytes that fits, and on a positive one when one byte
fits. The lower bound is 0 or a number that fits; while it is 0 the upper bound is not. -/
theorem shrink_positive {fits : Nat → Except PyError Bool} {last : Nat}
    (answers : ∀ n ≤ last, ∃ b, fits n = .ok b) (one : fits 1 = .ok true) {lower upper : Nat}
    (within : upper ≤ last)
    (invariant : (lower = 0 ∧ 1 ≤ upper) ∨ (1 ≤ lower ∧ lower ≤ upper ∧ fits lower = .ok true)) :
    ∃ n, shrink fits lower upper = .ok n ∧ 1 ≤ n ∧ n ≤ upper ∧ fits n = .ok true := by
  fun_induction shrink fits lower upper with
  | case1 lower upper less candidate ih1 ih2 =>
    obtain ⟨b, answer⟩ := answers candidate (by omega)
    cases b with
    | true =>
      obtain ⟨n, found, positive, below, fit⟩ := ih1 within (Or.inr ⟨by omega, by omega, answer⟩)
      refine ⟨n, ?_, positive, below, fit⟩
      rw [answer]
      exact found
    | false =>
      have notOne : candidate ≠ 1 := by
        intro same
        rw [same, one] at answer
        cases answer
      have smaller : (lower = 0 ∧ 1 ≤ candidate - 1) ∨
          (1 ≤ lower ∧ lower ≤ candidate - 1 ∧ fits lower = .ok true) := by
        obtain ⟨zero, _⟩ | ⟨positive, _, fit⟩ := invariant
        · exact Or.inl ⟨zero, by omega⟩
        · exact Or.inr ⟨positive, by omega, fit⟩
      obtain ⟨n, found, positive, below, fit⟩ := ih2 (by omega) smaller
      refine ⟨n, ?_, positive, by omega, fit⟩
      rw [answer]
      exact found
  | case2 lower upper done =>
    obtain ⟨_, _⟩ | ⟨positive, ordered, fit⟩ := invariant
    · omega
    · exact ⟨lower, rfl, positive, ordered, fit⟩

/-! ### The size of a page -/

theorem writable_content : (content data).Writable := by
  unfold content
  split <;> simp [Value.Writable, WritableEntries]

/-- A page within a source whose size can be printed can be written. -/
theorem writable_renderPage (printable : Printable frame.totalBytes)
    (bounded : offset + data.length ≤ frame.totalBytes) :
    (renderPage frame offset data).Writable := by
  have limit : Printable 8192 := by decide
  have here : Printable offset := printable.mono (by omega)
  have bytes : Printable data.length := printable.mono (by omega)
  have next : Printable (offset + data.length : Nat) := printable.mono bounded
  simp only [renderPage, Value.Writable, WritableEntries, true_and, and_true]
  refine ⟨printable, here, bytes, ?_, writable_content, ?_⟩
  · split
    · trivial
    · exact next
  · split
    · trivial
    · simp only [readRequest, Value.Writable, WritableEntries, true_and, and_true]
      exact ⟨next, limit⟩

def pageSize (host : Host) (frame : PageFrame) (offset : Nat) (data : Bytes) : Nat :=
  ((renderPage frame offset data).json host.display).size

theorem serializedLength_renderPage (printable : Printable frame.totalBytes)
    (bounded : offset + data.length ≤ frame.totalBytes) :
    serializedLength host (renderPage frame offset data) =
      .ok (pageSize host frame offset data) := by
  rw [serializedLength, canonicalJson_of_writable (writable_renderPage printable bounded),
    Except.map, Json.length_canonical, pageSize]

/-- A page can only be measured when the size of its source can be printed. -/
theorem printable_of_serializedLength {n : Nat}
    (h : serializedLength host (renderPage frame offset data) = .ok n) :
    Printable frame.totalBytes := by
  rw [serializedLength] at h
  cases wrote : canonicalJson host.display (renderPage frame offset data) with
  | error e => rw [wrote] at h; cases h
  | ok bs =>
    have writable := writable_of_canonicalJson wrote
    simp only [renderPage, Value.Writable, WritableEntries, true_and, and_true] at writable
    exact writable.1

theorem content_nil : content [] = .dict [("encoding", .str "utf-8"), ("text", .str "")] := rfl

theorem size_content_nil_le (data : Bytes) :
    ((content []).json host.display).size ≤ ((content data).json host.display).size := by
  have names : Json.escapedSize "encoding".toList = 8 ∧ Json.escapedSize "text".toList = 4 ∧
      Json.escapedSize "data_base64".toList = 11 ∧ Json.escapedSize "utf-8".toList = 5 ∧
      Json.escapedSize "base64".toList = 6 ∧ Json.escapedSize "".toList = 0 := by decide
  rw [content_nil, content]
  split
  · simp only [Value.json, entriesJson, Json.size, Json.sizeMembers, names]
    omega
  · simp only [Value.json, entriesJson, Json.size, Json.sizeMembers, names]
    omega

theorem length_intText_mono {m n : Nat} (le : m ≤ n) :
    (Json.intText m).length ≤ (Json.intText n).length := Json.length_natText_mono le

theorem pageSize_nil_le {b : UInt8} (more : offset + 1 < frame.totalBytes) :
    pageSize host frame offset [] ≤ pageSize host frame offset [b] := by
  have zeroEof : decide (offset + ([] : Bytes).length ≥ frame.totalBytes) = false :=
    decide_eq_false (by simp only [List.length_nil]; omega)
  have oneEof : decide (offset + [b].length ≥ frame.totalBytes) = false :=
    decide_eq_false (by simp only [List.length_singleton]; omega)
  have body := @size_content_nil_le host [b]
  have next := length_intText_mono (show offset + ([] : Bytes).length ≤ offset + [b].length by simp)
  have digits : (Json.intText (([] : Bytes).length : Nat)).length =
      (Json.intText ([b].length : Nat)).length := rfl
  unfold pageSize renderPage
  simp only [zeroEof, oneEof, Bool.false_eq_true, if_false, Value.json, entriesJson, Json.size,
    Json.sizeMembers, readRequest, digits]
  omega

/-! ### One step of a read -/

/-- A durable source that can be read: its locator is decodable, its metadata is that of an
artifact, and the shortest page at every offset fits the budget. -/
structure Readable (host : Host) (ref : ResourceRef) (frame : PageFrame) (source : Bytes) : Prop
    extends frame.Sound host ref where
  encoded : encodeContextContentLocator host ref = .ok frame.locator
  total : frame.totalBytes = source.length
  oneByte : ∀ offset, offset < source.length ∨ offset = 0 →
    ∃ n ≤ maxContextContentSerializedBytes,
      serializedLength host (renderPage frame offset ((source.drop offset).take 1)) = .ok n

/-- The page that a capability returns for `n` bytes of the source. -/
def servedPage (ref : ResourceRef) (frame : PageFrame) (source : Bytes) (offset n : Nat) :
    ContentPage :=
  ⟨ref, frame.mediaType, (source.drop offset).take n, .int offset, .int source.length,
    .str frame.sha256⟩

/-- A page of the read: valid, within the budget, and with bytes unless it ends the read. -/
structure GoodPage (host : Host) (page : Value) : Prop where
  valid : validateContextContentPage host page = .ok page
  budget : ∃ n ≤ maxContextContentSerializedBytes, serializedLength host page = .ok n
  progress : page.get "eof" = .bool true ∨ ∃ n : Nat, 1 ≤ n ∧ page.get "page_bytes" = .int n

section Step

variable {ref : ResourceRef} {frame : PageFrame} {source : Bytes}

theorem Readable.printable (readable : Readable host ref frame source) :
    Printable frame.totalBytes := by
  obtain ⟨n, -, measured⟩ := readable.oneByte 0 (Or.inr rfl)
  exact printable_of_serializedLength measured

variable (host) in
theorem fits_eq (printable : Printable frame.totalBytes) (n : Nat)
    (bounded : offset + data.length ≤ frame.totalBytes) :
    fits host frame offset data n = .ok
      (decide (pageSize host frame offset (data.take n) ≤ maxContextContentSerializedBytes)) := by
  have shorter : offset + (data.take n).length ≤ frame.totalBytes := by
    have := List.length_take_le' n data
    omega
  rw [fits, serializedLength_renderPage printable shorter]
  rfl

section

variable (readable : Readable host ref frame source)

include readable

theorem goodPage_renderPage (bounded : offset + data.length ≤ frame.totalBytes)
    (progress : data ≠ [] ∨ offset = frame.totalBytes)
    (short : data.length ≤ maxContextContentPageReadBytes)
    (fit : pageSize host frame offset data ≤ maxContextContentSerializedBytes) :
    GoodPage host (renderPage frame offset data) := by
  have measured : serializedLength host (renderPage frame offset data) =
      .ok (pageSize host frame offset data) :=
    serializedLength_renderPage readable.printable bounded
  refine ⟨validate_renderPage readable.toSound bounded progress short measured fit,
    ⟨_, fit, measured⟩, ?_⟩
  obtain nonempty | last := progress
  · exact Or.inr ⟨data.length, List.length_pos_iff.mpr nonempty, rfl⟩
  · refine Or.inl ?_
    rw [renderPage_eof, decide_eq_true (by omega)]

theorem pageFields_servedPage (within : offset ≤ source.length) (n : Nat) :
    pageFields (servedPage ref frame source offset n) =
      .ok ⟨ref, frame.mediaType, (source.drop offset).take n, offset, frame.totalBytes,
        frame.sha256⟩ := by
  have bounded : ¬ offset + ((source.drop offset).take n).length > source.length := by
    rw [List.length_take, List.length_drop]
    omega
  have ordered : ¬ offset > source.length := by omega
  have digest : requireSha256 (.str frame.sha256) = .ok frame.sha256 := by
    rw [requireSha256, if_pos readable.digest]
  have offsetOk : requireNonnegativeInt "offset" (.int offset) = .ok offset := rfl
  have totalOk : requireNonnegativeInt "total_bytes" (.int source.length) = .ok source.length := rfl
  simp only [pageFields, servedPage, offsetOk, totalOk, digest, bind, Except.bind, bounded, ordered,
    decide_false, Bool.or_false, Bool.false_eq_true, if_false, readable.total]
  rfl

theorem Readable.oneByte_size (start : offset < source.length ∨ offset = 0) :
    pageSize host frame offset ((source.drop offset).take 1) ≤ maxContextContentSerializedBytes := by
  obtain ⟨n, fit, measured⟩ := readable.oneByte offset start
  have total := readable.total
  have bounded : offset + ((source.drop offset).take 1).length ≤ frame.totalBytes := by
    rw [List.length_take, List.length_drop]
    omega
  rw [serializedLength_renderPage readable.printable bounded] at measured
  cases measured
  exact fit

theorem shrink_servedPage {n : Nat} (inside : offset < source.length) (positive : 1 ≤ n)
    (large : maxContextContentSerializedBytes <
      pageSize host frame offset ((source.drop offset).take n)) :
    fits host frame offset ((source.drop offset).take n) 0 = .ok true ∧
    ∃ m, shrink (fits host frame offset ((source.drop offset).take n)) 0
        ((source.drop offset).take n).length = .ok m ∧ 1 ≤ m ∧
      pageSize host frame offset (((source.drop offset).take n).take m) ≤
        maxContextContentSerializedBytes := by
  have total := readable.total
  have oneFits := readable.oneByte_size (Or.inl inside)
  have first : ((source.drop offset).take n).take 1 = (source.drop offset).take 1 := by
    rw [List.take_take, Nat.min_eq_left positive]
  have length : ((source.drop offset).take n).length = min n (source.length - offset) := by
    rw [List.length_take, List.length_drop]
  have two : 2 ≤ ((source.drop offset).take n).length := by
    by_contra few
    have whole : ((source.drop offset).take n).take 1 = (source.drop offset).take n :=
      List.take_of_length_le (by omega)
    rw [first] at whole
    rw [whole] at oneFits
    omega
  have bounded : offset + ((source.drop offset).take n).length ≤ frame.totalBytes := by omega
  obtain ⟨b, rest, cons⟩ := List.exists_cons_of_length_pos (l := source.drop offset)
    (by rw [List.length_drop]; omega)
  have answer := fun m => fits_eq host readable.printable m bounded
  constructor
  · have noneFits : pageSize host frame offset [] ≤ maxContextContentSerializedBytes := by
      rw [cons] at oneFits
      exact (pageSize_nil_le (by omega)).trans oneFits
    rw [answer, List.take_zero, decide_eq_true noneFits]
  · have one : fits host frame offset ((source.drop offset).take n) 1 = .ok true := by
      rw [answer, first, decide_eq_true oneFits]
    obtain ⟨m, found, some, -, fit⟩ := @shrink_positive _ ((source.drop offset).take n).length
      (fun m _ => ⟨_, answer m⟩) one 0 _ le_rfl (Or.inl ⟨rfl, by omega⟩)
    refine ⟨m, found, some, ?_⟩
    rw [answer m] at fit
    simpa using fit

theorem render_servedPage {n : Nat} (start : offset < source.length ∨ (offset = 0 ∧ source = []))
    (positive : offset < source.length → 1 ≤ n) (limit : n ≤ maxContextContentPageReadBytes) :
    ∃ m, (offset < source.length → 1 ≤ m) ∧
      renderContextContentPage host (servedPage ref frame source offset n) =
        .ok (renderPage frame offset ((source.drop offset).take m)) ∧
      GoodPage host (renderPage frame offset ((source.drop offset).take m)) := by
  have total := readable.total
  have within : offset ≤ source.length := by
    obtain inside | ⟨zero, -⟩ := start <;> omega
  have bounded : ∀ m, offset + ((source.drop offset).take m).length ≤ frame.totalBytes := by
    intro m
    rw [List.length_take, List.length_drop]
    omega
  have progress : ∀ m, (offset < source.length → 1 ≤ m) →
      (source.drop offset).take m ≠ [] ∨ offset = frame.totalBytes := by
    intro m some
    obtain inside | ⟨zero, empty⟩ := start
    · refine Or.inl fun nil => ?_
      have length : ((source.drop offset).take m).length = 0 := by rw [nil]; rfl
      rw [List.length_take, List.length_drop] at length
      omega
    · exact Or.inr (by rw [zero, total, empty]; rfl)
  have short : ((source.drop offset).take n).length ≤ maxContextContentPageReadBytes :=
    (List.length_take_le n _).trans limit
  have notLong : ¬ ((source.drop offset).take n).length > maxContextContentPageReadBytes := by omega
  have full := fits_eq host readable.printable ((source.drop offset).take n).length (bounded n)
  rw [List.take_length] at full
  by_cases fit : pageSize host frame offset ((source.drop offset).take n) ≤
      maxContextContentSerializedBytes
  · have good := goodPage_renderPage readable (bounded n) (progress n positive) short fit
    refine ⟨n, positive, ?_, good⟩
    rw [decide_eq_true fit] at full
    simp only [renderContextContentPage, pageFields_servedPage readable within, readable.encoded,
      notLong, full, good.valid, bind, Except.bind, if_false, if_true]
  · obtain inside | ⟨zero, empty⟩ := start
    · obtain ⟨emptyFits, m, found, some, fitM⟩ := shrink_servedPage readable inside
        (positive inside) (not_le.mp fit)
      have prefixEq : ((source.drop offset).take n).take m = (source.drop offset).take (min m n) := by
        rw [List.take_take]
      rw [prefixEq] at fitM
      have shortM : ((source.drop offset).take (min m n)).length ≤ maxContextContentPageReadBytes := by
        have := List.length_take_le (min m n) (source.drop offset)
        omega
      have someM : offset < source.length → 1 ≤ min m n := by
        intro inside
        omega
      have good := goodPage_renderPage readable (bounded (min m n)) (progress (min m n) someM)
        shortM fitM
      refine ⟨min m n, someM, ?_, good⟩
      rw [decide_eq_false fit] at full
      simp only [renderContextContentPage, pageFields_servedPage readable within, readable.encoded,
        notLong, full, emptyFits, found, prefixEq, good.valid, bind, Except.bind, if_false, if_true,
        Bool.false_eq_true]
    · refine absurd (readable.oneByte_size (Or.inr zero)) ?_
      rw [empty, List.drop_nil, List.take_nil] at fit ⊢
      exact fit

end

end Step

/-! ### A whole read -/

/-- The arguments of the request that a page carries: the reference behind its locator, the
offset and the limit. -/
def nextRequest? (host : Host) (page : Value) : Option (ResourceRef × Nat × Nat) :=
  let arguments := (page.get "next_read").get "arguments"
  match decodeContextContentLocator host "" (arguments.get "ref"), arguments.get "offset",
      arguments.get "limit" with
  | .ok (some ref), .int offset, .int limit => some (ref, offset.toNat, limit.toNat)
  | _, _, _ => none

/-- The pages of a read that follows its requests from one of them on. A read has finitely
many pages: it ends with the page that carries no request. -/
inductive Follows (host : Host) (capability : ResourceRef → Nat → Nat → ContentPage) :
    ResourceRef × Nat × Nat → List Value → Prop where
  | last {ref : ResourceRef} {offset limit : Nat} {page : Value}
      (checked : validateCapabilityContentPage (capability ref offset limit) ref offset limit =
        .ok (capability ref offset limit))
      (rendered : renderContextContentPage host (capability ref offset limit) = .ok page)
      (ends : page.get "next_read" = .none) :
      Follows host capability (ref, offset, limit) [page]
  | next {ref : ResourceRef} {offset limit : Nat} {page : Value} {pages : List Value}
      {request : ResourceRef × Nat × Nat}
      (checked : validateCapabilityContentPage (capability ref offset limit) ref offset limit =
        .ok (capability ref offset limit))
      (rendered : renderContextContentPage host (capability ref offset limit) = .ok page)
      (carries : nextRequest? host page = some request)
      (rest : Follows host capability request pages) :
      Follows host capability (ref, offset, limit) (page :: pages)

/-- The capability serves the source: it answers a request inside it with the exact bytes at
the offset, at least one of them and at most as many as a page may hold. -/
def Serves (capability : ResourceRef → Nat → Nat → ContentPage) (ref : ResourceRef)
    (frame : PageFrame) (source : Bytes) : Prop :=
  ∀ offset ≤ source.length, ∃ n ≤ maxContextContentPageReadBytes,
    (offset < source.length → 1 ≤ n) ∧
      capability ref offset 8192 = servedPage ref frame source offset n

def Contents : List Value → Bytes → Prop
  | [], bs => bs = []
  | page :: pages, bs => ∃ data rest, contentData (page.get "content") = .ok data ∧
      Contents pages rest ∧ bs = data ++ rest

section Read

variable {ref : ResourceRef} {frame : PageFrame} {source : Bytes}

theorem checked_servedPage (readable : Readable host ref frame source) {n : Nat}
    (within : offset ≤ source.length) (positive : offset < source.length → 1 ≤ n)
    (limit : n ≤ maxContextContentPageReadBytes) :
    validateCapabilityContentPage (servedPage ref frame source offset n) ref offset 8192 =
      .ok (servedPage ref frame source offset n) := by
  have total := readable.total
  have length : ((source.drop offset).take n).length = min n (source.length - offset) := by
    rw [List.length_take, List.length_drop]
  have short : ¬ ((source.drop offset).take n).length > maxContextContentPageReadBytes := by omega
  have shortLimit : ¬ ((source.drop offset).take n).length > 8192 := short
  have nonempty : (((source.drop offset).take n).isEmpty && decide (offset < frame.totalBytes)) =
      false := by
    rw [Bool.and_eq_false_iff, List.isEmpty_eq_false_iff, ← List.length_pos_iff,
      decide_eq_false_iff_not, length]
    by_cases inside : offset < source.length
    · have := positive inside
      exact Or.inl (by omega)
    · exact Or.inr (by omega)
  simp only [validateCapabilityContentPage, pageFields_servedPage readable within, bind,
    Except.bind, ne_eq, not_true_eq_false, short, shortLimit, nonempty, decide_false, Bool.or_false,
    Bool.false_eq_true, if_false]
  rfl

theorem nextRequest?_renderPage (sound : frame.Sound host ref)
    (more : offset + data.length < frame.totalBytes) :
    nextRequest? host (renderPage frame offset data) = some (ref, offset + data.length, 8192) := by
  have request : (renderPage frame offset data).get "next_read" =
      readRequest frame.locator (offset + data.length) := by
    rw [renderPage_nextRead, decide_eq_false (by omega)]
    rfl
  have locator : ((readRequest frame.locator (offset + data.length)).get "arguments").get "ref" =
      .str frame.locator := rfl
  have here : ((readRequest frame.locator (offset + data.length)).get "arguments").get "offset" =
      .int (offset + data.length : Nat) := rfl
  have limit : ((readRequest frame.locator (offset + data.length)).get "arguments").get "limit" =
      .int 8192 := rfl
  simp only [nextRequest?, request, locator, here, limit, sound.decodes, Int.toNat_natCast]
  rfl

theorem follows_from (readable : Readable host ref frame source)
    {capability : ResourceRef → Nat → Nat → ContentPage}
    (serves : Serves capability ref frame source)
    (start : offset < source.length ∨ (offset = 0 ∧ source = [])) :
    ∃ pages, Follows host capability (ref, offset, 8192) pages ∧
      (∀ page ∈ pages, GoodPage host page) ∧ Contents pages (source.drop offset) := by
  induction left : source.length - offset using Nat.strong_induction_on generalizing offset with
  | h left ih =>
    have total := readable.total
    have within : offset ≤ source.length := by
      obtain inside | ⟨zero, -⟩ := start <;> omega
    obtain ⟨n, limit, positive, served⟩ := serves offset within
    have checked := checked_servedPage readable within positive limit
    obtain ⟨m, some, rendered, good⟩ := render_servedPage readable start positive limit
    rw [← served] at checked rendered
    have length : ((source.drop offset).take m).length = min m (source.length - offset) := by
      rw [List.length_take, List.length_drop]
    by_cases eof : offset + ((source.drop offset).take m).length ≥ frame.totalBytes
    · have ends : (renderPage frame offset ((source.drop offset).take m)).get "next_read" = .none := by
        rw [renderPage_nextRead, decide_eq_true eof]
        rfl
      refine ⟨[_], .last checked rendered ends, ?_, ?_⟩
      · intro page mem
        rw [List.mem_singleton.mp mem]
        exact good
      · refine ⟨(source.drop offset).take m, [], ?_, rfl, ?_⟩
        · rw [renderPage_content, contentData_content]
        · rw [List.append_nil, List.take_of_length_le]
          rw [List.length_drop]
          omega
    · have carries := nextRequest?_renderPage readable.toSound (not_le.mp eof)
      have inside : offset < source.length := by omega
      obtain ⟨pages, follows, goods, contents⟩ := ih
        (source.length - (offset + ((source.drop offset).take m).length)) (by omega)
        (Or.inl (by omega)) rfl
      refine ⟨_ :: pages, .next checked rendered carries follows, ?_, ?_⟩
      · intro page mem
        obtain rfl | mem := List.mem_cons.mp mem
        · exact good
        · exact goods page mem
      · refine ⟨(source.drop offset).take m, _, ?_, contents, ?_⟩
        · rw [renderPage_content, contentData_content]
        · have whole : ((source.drop offset).take m).length = m := by omega
          rw [whole, ← List.drop_drop, List.take_append_drop]

theorem nextRequest?_of_end {page : Value} (ends : page.get "next_read" = .none) :
    nextRequest? host page = none := by
  simp only [nextRequest?, ends]
  rfl

theorem Follows.unique {capability : ResourceRef → Nat → Nat → ContentPage}
    {request : ResourceRef × Nat × Nat} {pages others : List Value}
    (follows : Follows host capability request pages)
    (other : Follows host capability request others) : others = pages := by
  induction follows generalizing others with
  | last checked rendered ends =>
    cases other with
    | last checked' rendered' ends' =>
      rw [rendered] at rendered'
      cases rendered'
      rfl
    | next checked' rendered' carries' rest' =>
      rw [rendered] at rendered'
      cases rendered'
      rw [nextRequest?_of_end ends] at carries'
      cases carries'
  | next checked rendered carries rest ih =>
    cases other with
    | last checked' rendered' ends' =>
      rw [rendered] at rendered'
      cases rendered'
      rw [nextRequest?_of_end ends'] at carries
      cases carries
    | next checked' rendered' carries' rest' =>
      rw [rendered] at rendered'
      cases rendered'
      rw [carries] at carries'
      cases carries'
      rw [ih rest']

/-- Following the requests from offset 0 ends; every page is valid, within the budget and has
bytes unless it is the last one; the contents of the pages are the source. -/
theorem paged_read_returns_source (readable : Readable host ref frame source)
    {capability : ResourceRef → Nat → Nat → ContentPage}
    (serves : Serves capability ref frame source) :
    ∃ pages, (∀ others, Follows host capability (ref, 0, 8192) others ↔ others = pages) ∧
      (∀ page ∈ pages, GoodPage host page) ∧ Contents pages source := by
  have start : 0 < source.length ∨ (0 = 0 ∧ source = []) := by
    cases source with
    | nil => exact Or.inr ⟨rfl, rfl⟩
    | cons b source => exact Or.inl (Nat.succ_pos _)
  obtain ⟨pages, follows, good, contents⟩ := follows_from readable serves start
  refine ⟨pages, fun others => ⟨follows.unique, ?_⟩, good, contents⟩
  rintro rfl
  exact follows

end Read

/-! ### A read of two bytes at a time

The source is the text `h€`; both pages cut its second character. -/

def reportLocator : String :=
  "unchain://context/v1/eyJmcmFnbWVudCI6IiIsImlkIjoicmVwb3J0Iiwia2luZCI6ImFydGlmYWN0IiwicmV2aXNpb24iOjF9"

def reportSource : Bytes := [0x68, 0xE2, 0x82, 0xAC]

def reportFrame : PageFrame :=
  ⟨reportLocator, "text/plain", 4,
    "358ee4d881f41e78676c81ba54f1a4a4dc980b390a6332729757f8cba0b9b6e6"⟩

def reportCapability (ref : ResourceRef) (offset _ : Nat) : ContentPage :=
  servedPage ref reportFrame reportSource offset 2

theorem encode_reportRef : encodeContextContentLocator plainHost reportRef = .ok reportLocator := by
  decide +kernel

theorem readable_reportSource : Readable plainHost reportRef reportFrame reportSource where
  decodes errorMessage := by
    obtain ⟨-, eq⟩ := eq_of_encode encode_reportRef
    have short : (locatorText reportRef).length ≤ 1024 := (short_iff made_reportRef).mpr (by decide)
    rw [reportFrame, eq]
    exact decode_locatorText normalizes_plainHost made_reportRef (by decide) short errorMessage
  mime := by decide
  digest := by decide
  encoded := encode_reportRef
  total := rfl
  oneByte := by
    have sizes : ∀ offset < 4, pageSize plainHost reportFrame offset
        ((reportSource.drop offset).take 1) ≤ maxContextContentSerializedBytes := by
      decide +kernel
    intro offset start
    have inside : offset < 4 := by
      obtain inside | zero := start
      · exact inside
      · omega
    refine ⟨_, sizes offset inside, serializedLength_renderPage (by decide) ?_⟩
    rw [List.length_take, List.length_drop]
    simp only [reportSource, reportFrame, List.length_cons, List.length_nil]
    omega

theorem report_read_in_two_pages :
    Readable plainHost reportRef reportFrame reportSource ∧
    Serves reportCapability reportRef reportFrame reportSource ∧
    ∃ pages, (∀ others, Follows plainHost reportCapability (reportRef, 0, 8192) others ↔
        others = pages) ∧
      (∀ page ∈ pages, GoodPage plainHost page) ∧ Contents pages reportSource := by
  have serves : Serves reportCapability reportRef reportFrame reportSource := by
    intro offset _
    exact ⟨2, by decide, fun _ => by decide, rfl⟩
  exact ⟨readable_reportSource, serves, paged_read_returns_source readable_reportSource serves⟩

end Unchain.ContextContent
