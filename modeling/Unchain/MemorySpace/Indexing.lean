import Unchain.MemorySpace.Service

/-!
What the chunks of an entry hold.

The bodies of the chunks, each cut where the next one starts, are the text of the content
(`rejoin_indexBodies`). The chunks of a valid entry pass their checks unless a zero character
stands in its body (`entryChunks_checked`).
-/

namespace Unchain.MemorySpace

open Lib Lib.Utf8 Lib.Effect Journal Python

variable {host : WorkspaceHost} {spaceId : String}

/-! ### The whole body -/

theorem windows_body (body : List Char) : Windows.rejoin (vectorBodyChars - vectorBodyOverlap)
      (Windows.windows vectorBodyChars (vectorBodyChars - vectorBodyOverlap) body.length body) =
        body :=
  Windows.rejoin_windows (by decide) (by decide) (le_refl _)

theorem rejoin_indexBodies (entry : MemoryEntry) (content : Option Bytes) :
    Windows.rejoin (vectorBodyChars - vectorBodyOverlap) (indexBodies entry content) =
      bodyText entry content := by
  unfold indexBodies
  simp only
  split
  · rename_i none
    have whole := windows_body (bodyText entry content)
    rw [none] at whole
    exact whole
  · exact windows_body _

theorem mem_indexBodies {entry : MemoryEntry} {content : Option Bytes} {body : List Char}
    (mem : body ∈ indexBodies entry content) :
    body.length ≤ vectorBodyChars ∧ ∀ c ∈ body, c ∈ bodyText entry content := by
  unfold indexBodies at mem
  simp only at mem
  split at mem
  · rw [List.mem_singleton.mp mem]
    exact ⟨Nat.zero_le _, nofun⟩
  · exact ⟨Windows.length_windows mem, fun c here => Windows.mem_of_mem_windows mem here⟩

/-- The content reference is not part of what is indexed. -/
theorem entryChunks_withContent (entry : MemoryEntry) (contentRef : Option ResourceRef)
    (content : Option Bytes) : entryChunks host { entry with contentRef := contentRef } content =
      entryChunks host entry content := rfl

/-! ### Texts without a zero character -/

def NoZero (text : List Char) : Prop := '\x00' ∉ text

variable {field t : String} {maximum : Nat} {v : Value}

theorem noZero_of_required {identifier : Bool}
    (h : requiredText host.toHost maximum identifier field v = .ok t) : NoZero t.toList := by
  unfold requiredText at h
  split at h
  · simp only at h
    split at h
    · cases h
    split at h
    · cases h
    split at h
    · cases h
    rename_i clean _ _
    cases h
    simp only [Bool.or_eq_true, not_or, List.contains_iff_mem] at clean
    exact clean.2
  · cases h

theorem noZero_of_optional (h : optionalText host.toHost maximum field v = .ok t) :
    NoZero t.toList := by
  unfold optionalText at h
  split at h
  · cases h
    exact List.not_mem_nil
  · exact noZero_of_required h

theorem virtualPath_text {value path : String} (h : virtualPath host field value = .ok path) :
    path.toList.head? = some '/' ∧ NoZero path.toList := by
  obtain ⟨-, -, passed⟩ := virtualPath_eq h
  unfold checkPath at passed
  simp only at passed
  split at passed
  · cases passed
  split at passed
  · cases passed
  rename_i rooted
  simp only [Bool.or_eq_true, decide_eq_true_eq, not_or, not_not, List.contains_iff_mem] at rooted
  exact ⟨rooted.1.1.1.1.1, rooted.2⟩

theorem noZero_of_tags {tags normalized : List String}
    (h : canonicalMemoryTags host tags = .ok normalized) : ∀ tag ∈ normalized, NoZero tag.toList := by
  obtain ⟨ts, each, distinct⟩ := bind_ok h
  split at distinct
  · cases distinct
    intro tag mem
    obtain ⟨given, -, passed⟩ := mem_of_mapM each tag mem
    exact noZero_of_required passed
  · cases distinct

variable {c : Char} {cs : List Char}

theorem mem_stripChars (mem : c ∈ stripChars cs) : c ∈ cs := by
  have first := (List.dropWhile_sublist _).subset (List.mem_reverse.mp mem)
  exact (List.dropWhile_sublist _).subset (List.mem_reverse.mp first)

theorem mem_intercalate {gap : List Char} {pieces : List (List Char)}
    (mem : c ∈ gap.intercalate pieces) : c ∈ gap ∨ ∃ piece ∈ pieces, c ∈ piece := by
  induction pieces with
  | nil => cases mem
  | cons piece pieces ih =>
    cases pieces with
    | nil => exact .inr ⟨piece, by simp, by simpa [List.intercalate] using mem⟩
    | cons next rest =>
      rw [List.intercalate_cons_cons] at mem
      simp only [List.mem_append] at mem
      rcases mem with (here | here) | later
      · exact .inr ⟨piece, by simp, here⟩
      · exact .inl here
      · rcases ih later with here | ⟨p, memP, here⟩
        · exact .inl here
        · exact .inr ⟨p, List.mem_cons_of_mem _ memP, here⟩

/-- A text that starts with something visible keeps its start. -/
theorem head?_stripChars (visible : isSpace c = false) (first : cs.head? = some c) :
    (stripChars cs).head? = some c := by
  obtain ⟨rest, rfl⟩ : ∃ rest, cs = c :: rest := by
    cases cs with
    | nil => cases first
    | cons d rest =>
      cases first
      exact ⟨rest, rfl⟩
  have front : (c :: rest).dropWhile isSpace = c :: rest := by
    rw [List.dropWhile_cons_of_neg (by simp [visible])]
  rw [stripChars, front, List.head?_reverse, List.reverse_cons, List.dropWhile_append]
  cases back : rest.reverse.dropWhile isSpace with
  | nil => simp [visible]
  | cons d ds =>
    change ((d :: ds) ++ [c]).getLast? = some c
    rw [List.getLast?_append]
    rfl

theorem strip_ne_empty {s : String} (visible : isSpace c = false)
    (first : s.toList.head? = some c) : strip s ≠ "" := by
  intro empty
  have blank : stripChars s.toList = [] := by
    have := congrArg String.toList empty
    simpa [strip] using this
  have there := head?_stripChars visible first
  rw [blank] at there
  cases there

/-! ### Chunks that pass -/

section Checked

variable {entry : MemoryEntry} {content : Option Bytes}

theorem length_indexMetadata : (indexMetadata entry).length ≤ vectorMetadataChars :=
  List.length_take_le _ _

theorem indexMetadata_rooted (valid : entry.Valid host) :
    (indexMetadata entry).head? = some '/' := by
  have rooted := (virtualPath_text (passed_of_checked valid).path).1
  obtain ⟨rest, path⟩ : ∃ rest, entry.path.toList = '/' :: rest := by
    cases text : entry.path.toList with
    | nil =>
      rw [text] at rooted
      cases rooted
    | cons c rest =>
      rw [text] at rooted
      cases rooted
      exact ⟨rest, rfl⟩
  have joined (pieces : List (List Char)) :
      (['\n'].intercalate (entry.path.toList :: pieces)).head? = some '/' := by
    cases pieces with
    | nil => simp [List.intercalate, path]
    | cons p ps => simp [List.intercalate_cons_cons, path]
  unfold indexMetadata
  rw [List.head?_take, if_neg (by decide)]
  exact head?_stripChars (by decide) (joined _)

theorem noZero_indexMetadata (valid : entry.Valid host) : NoZero (indexMetadata entry) := by
  have p := passed_of_checked valid
  have path := (virtualPath_text p.path).2
  have name := noZero_of_required p.name
  have description := noZero_of_optional p.description
  have tags := noZero_of_tags p.tags
  intro mem
  have stripped := mem_stripChars (List.mem_of_mem_take mem)
  rcases mem_intercalate stripped with gap | ⟨piece, here, inside⟩
  · simp at gap
  · simp only [List.mem_cons, List.not_mem_nil, or_false] at here
    rcases here with rfl | rfl | rfl | rfl
    · exact path inside
    · exact name inside
    · exact description inside
    · rcases mem_intercalate inside with gap | ⟨tag, memTag, inTag⟩
      · simp at gap
      · obtain ⟨t, memT, rfl⟩ := List.mem_map.mp memTag
        exact tags t memT inTag

theorem strip_chunkId_ne_empty (ordinal : Nat) : strip (chunkId host entry ordinal) ≠ "" := by
  have start : "workspace-".toList = 'w' :: "orkspace-".toList := by decide
  refine strip_ne_empty (c := 'w') (by decide) ?_
  simp only [chunkId, String.toList_append, start, List.cons_append, List.head?_cons]

theorem chunk_checked (valid : entry.Valid host) (clean : NoZero (bodyText entry content))
    {body : List Char} (mem : body ∈ indexBodies entry content) (ordinal : Nat) :
    (IndexChunk.mk (chunkId host entry ordinal) entry.ref
      (String.ofList (chunkText entry body))).checked =
        .ok ⟨chunkId host entry ordinal, entry.ref, String.ofList (chunkText entry body)⟩ := by
  obtain ⟨short, inside⟩ := mem_indexBodies mem
  have rooted : (chunkText entry body).head? = some '/' := by
    unfold chunkText
    have front := indexMetadata_rooted valid
    split
    · exact front
    · rw [List.head?_append, front]
      rfl
  have size : (chunkText entry body).length ≤ maxVectorChunkChars := by
    have meta_ := @length_indexMetadata entry
    simp only [vectorMetadataChars, vectorBodyChars] at meta_ short
    unfold chunkText
    split
    · simp only [maxVectorChunkChars]
      omega
    · simp only [List.length_append, List.length_cons, maxVectorChunkChars]
      omega
  have noZero : '\x00' ∉ chunkText entry body := by
    unfold chunkText
    split
    · exact noZero_indexMetadata valid
    · intro here
      simp only [List.mem_append, List.mem_cons] at here
      rcases here with here | here | here | here
      · exact noZero_indexMetadata valid here
      · cases here
      · cases here
      · exact clean (inside _ here)
  have text : strip (String.ofList (chunkText entry body)) ≠ "" :=
    strip_ne_empty (c := '/') (by decide) (by rw [String.toList_ofList]; exact rooted)
  unfold IndexChunk.checked
  rw [if_neg (strip_chunkId_ne_empty ordinal), if_neg]
  simp only [Bool.or_eq_true, decide_eq_true_eq, not_or, List.contains_iff_mem,
    String.toList_ofList, String.length_ofList, not_lt]
  exact ⟨⟨text, noZero⟩, size⟩

theorem entryChunks_checked (valid : entry.Valid host) (clean : NoZero (bodyText entry content)) :
    (entryChunks host entry content).mapM IndexChunk.checked =
      .ok (entryChunks host entry content) := by
  have each : ∀ chunk ∈ entryChunks host entry content, chunk.checked = .ok chunk := by
    intro chunk mem
    obtain ⟨i, bound, rfl⟩ := List.mem_mapIdx.mp mem
    exact chunk_checked valid clean (List.getElem_mem bound) i
  have back := mapM_map_ok (f := IndexChunk.checked) (g := id) each
  rwa [List.map_id] at back

end Checked

end Unchain.MemorySpace
