import Unchain.Interaction.Answering
import Unchain.Python.JsonText

/-!
One answer for each interaction.

Every document of a run is bound and its journal extends those before it, so an interaction that
is answered stays answered by the same receipt. A call of `record_receipt` takes an equal answer
for its own; where answers that are equal have one canonical JSON, the receipt that is durable
has the digest of every answer whose call returned.
-/

namespace Unchain.Interaction

open Lib Lib.Process Lib.Effect Memory Python
open Lib.Utf8 (CollisionFree)

/-! ### Documents along the log -/

section Log

variable {saves earlier : List (String × Dict)} {s t : String} {state : Dict}

theorem docOf_append : docOf (saves ++ [(t, state)]) s = if t = s then state else docOf saves s := by
  rw [docOf, docOf, KeyedLog.latest_append]
  split
  · rfl
  · rfl

theorem revisionOf_append : revisionOf (saves ++ [(t, state)]) s =
    if t = s then revisionOf saves s + 1 else revisionOf saves s := by
  rw [revisionOf, revisionOf, KeyedLog.records_append]
  split
  · simp
  · rfl

/-- A session whose revision did not move has the same document. -/
theorem docOf_of_revision (before : earlier <+: saves)
    (same : revisionOf earlier s = revisionOf saves s) : docOf saves s = docOf earlier s := by
  obtain ⟨later, rfl⟩ := before
  have split : KeyedLog.records Prod.fst s (earlier ++ later) =
      KeyedLog.records Prod.fst s earlier ++ KeyedLog.records Prod.fst s later :=
    List.filter_append _ _
  have none : KeyedLog.records Prod.fst s later = [] := by
    rw [revisionOf, revisionOf, split, List.length_append] at same
    exact List.eq_nil_of_length_eq_zero (by omega)
  rw [docOf, docOf, KeyedLog.latest, KeyedLog.latest, split, none, List.append_nil]

end Log

section Runs

variable {host : RuntimeHost} {A : RecordCall → Prop} {saves : List (String × Dict)}

/-- Every save advanced the document that was stored then. -/
def Advancing (host : RuntimeHost) (A : RecordCall → Prop) (saves : List (String × Dict)) : Prop :=
  ∀ earlier s state, earlier ++ [(s, state)] <+: saves →
    Advances host A (docOf earlier s) state

/-- Every save advanced, and nobody was shown what was not stored at some time. -/
structure Sound (host : RuntimeHost) (A : RecordCall → Prop) (xs : List (SessionCall × Told))
    (w : SessionWorld) : Prop where
  advancing : Advancing host A w.saves
  seen : ∀ x ∈ xs, ∀ s doc revision, (s, doc, revision) ∈ x.2.seen →
    ∃ earlier, earlier <+: w.saves ∧ docOf earlier s = doc ∧ revisionOf earlier s = revision

theorem Advancing.append (h : Advancing host A saves) {s : String} {state : Dict}
    (advances : Advances host A (docOf saves s) state) :
    Advancing host A (saves ++ [(s, state)]) := by
  intro earlier s' state' before
  rcases List.prefix_concat_iff.mp before with same | shorter
  · obtain ⟨rfl, last⟩ := List.append_inj' same rfl
    cases last
    exact advances
  · exact h earlier s' state' shorter

variable {g g' : Told} {role : SessionCall} {s : String} {w : SessionWorld}
  {xs ys : List (SessionCall × Told)}

theorem Sound.saved (h : Sound host A (xs ++ (role, g) :: ys) w) {state : Dict} {expected : Int}
    (allowed : ∃ doc, (s, doc, expected) ∈ g.seen ∧ Advances host A doc state)
    (current : revisionOf w.saves s = expected)
    (told : ∀ s' doc revision, (s', doc, revision) ∈ g'.seen →
      (s', doc, revision) = (s, state, expected + 1) ∨ (s', doc, revision) ∈ g.seen) :
    Sound host A (xs ++ (role, g') :: ys) ⟨w.saves ++ [(s, state)]⟩ := by
  obtain ⟨doc, mem, advances⟩ := allowed
  obtain ⟨earlier, before, rfl, same⟩ := h.seen (role, g) (by simp) s doc expected mem
  have stored := docOf_of_revision before (same.trans current.symm)
  have longer : w.saves <+: w.saves ++ [(s, state)] := List.prefix_append _ _
  refine ⟨h.advancing.append (stored ▸ advances), ?_⟩
  have kept : ∀ x ∈ xs ++ (role, g) :: ys, ∀ s' doc revision, (s', doc, revision) ∈ x.2.seen →
      ∃ earlier, earlier <+: w.saves ++ [(s, state)] ∧ docOf earlier s' = doc ∧
        revisionOf earlier s' = revision := by
    intro x there s' doc revision seen
    obtain ⟨earlier, before, doc, revision⟩ := h.seen x there s' doc revision seen
    exact ⟨earlier, before.trans longer, doc, revision⟩
  intro x there s' doc revision seen
  simp only [List.mem_append, List.mem_cons] at there
  rcases there with there | rfl | there
  · exact kept x (by simp [there]) s' doc revision seen
  · rcases told s' doc revision seen with new | old
    · cases new
      refine ⟨_, List.prefix_rfl, ?_, ?_⟩
      · rw [docOf_append, if_pos rfl]
      · rw [revisionOf_append, if_pos rfl, current]
    · exact kept (role, g) (by simp) s' doc revision old
  · exact kept x (by simp [there]) s' doc revision seen

theorem Sound.told (h : Sound host A (xs ++ (role, g) :: ys) w)
    (told : ∀ s doc revision, (s, doc, revision) ∈ g'.seen →
      (docOf w.saves s = doc ∧ revisionOf w.saves s = revision) ∨ (s, doc, revision) ∈ g.seen) :
    Sound host A (xs ++ (role, g') :: ys) w := by
  refine ⟨h.advancing, ?_⟩
  intro x there s doc revision seen
  simp only [List.mem_append, List.mem_cons] at there
  rcases there with there | rfl | there
  · exact h.seen x (by simp [there]) s doc revision seen
  · rcases told s doc revision seen with ⟨stored, current⟩ | old
    · exact ⟨w.saves, List.prefix_rfl, stored, current⟩
    · exact h.seen (role, g) (by simp) s doc revision old
  · exact h.seen x (by simp [there]) s doc revision seen

theorem sound_kept : Crew.Kept (sessionSurroundings host A) (sessionWatch host A) (Sound host A) where
  start {xs w role p} h _ := by
    refine ⟨h.advancing, ?_⟩
    intro x there s doc revision seen
    rcases List.mem_cons.mp there with rfl | there
    · cases seen
    · exact h.seen x there s doc revision seen
  answer {xs ys role g w c r w'} h allowed answers := by
    cases answers with
    | loaded =>
      refine h.told fun s doc revision seen => ?_
      rcases List.mem_cons.mp seen with new | old
      · cases new
        exact .inl ⟨rfl, rfl⟩
      · exact .inr old
    | saved current =>
      refine h.saved allowed current fun s doc revision seen => ?_
      exact List.mem_cons.mp seen
    | saveLost current => exact h.saved allowed current fun _ _ _ seen => .inr seen
    | loadFailed | saveFailed | cancellation | verified | clock => exact h
  leave {xs x ys w} h := by
    refine ⟨h.advancing, fun y there => h.seen y ?_⟩
    rcases List.mem_append.mp there with there | there
    · exact List.mem_append_left _ there
    · exact List.mem_append_right _ (List.mem_cons_of_mem _ there)
  move _ moves := moves.elim

theorem sound_initial (w : SessionWorld) (empty : w.saves = []) : Sound host A [] w := by
  refine ⟨?_, by simp⟩
  intro earlier s state before
  rw [empty] at before
  simp at before

/-! ### Entries of a run -/

/-- The document of a session that was never saved is bound. -/
theorem bound_empty : Bound host A [] newInteractionJournal where
  journal := rfl
  submitted id e r found := by cases found
  validated v stored := by cases stored
  active id active := by cases active

variable {earlier : List (String × Dict)}

theorem Advancing.bound (h : Advancing host A saves) (before : earlier <+: saves) (s : String) :
    ∃ j, Bound host A (docOf earlier s) j := by
  induction earlier using List.reverseRecOn with
  | nil => exact ⟨_, bound_empty⟩
  | append_singleton earlier save ih =>
    obtain ⟨t, state⟩ := save
    obtain ⟨j, bound⟩ := ih ((List.prefix_append _ _).trans before)
    by_cases same : t = s
    · subst same
      obtain ⟨j', bound', -⟩ := h earlier t state before j bound
      exact ⟨j', by rwa [docOf_append, if_pos rfl]⟩
    · exact ⟨j, by rwa [docOf_append, if_neg same]⟩

variable {later : List (String × Dict)}

theorem Advancing.extends (h : Advancing host A saves) (before : earlier ++ later <+: saves)
    {j j' : Journal} (bound : Bound host A (docOf earlier s) j)
    (bound' : Bound host A (docOf (earlier ++ later) s) j') : Extends j j' := by
  induction later using List.reverseRecOn generalizing j' with
  | nil =>
    rw [List.append_nil] at bound'
    obtain rfl := Except.ok.inj (bound.journal.symm.trans bound'.journal)
    exact .refl j
  | append_singleton later save ih =>
    obtain ⟨t, state⟩ := save
    rw [← List.append_assoc] at before bound'
    have shorter := (List.prefix_append _ _).trans before
    obtain ⟨j₁, bound₁⟩ := h.bound shorter s
    refine (ih shorter bound₁).trans ?_
    by_cases same : t = s
    · subst same
      rw [docOf_append, if_pos rfl] at bound'
      obtain ⟨j₂, bound₂, longer⟩ := h _ t state before j₁ bound₁
      obtain rfl := Except.ok.inj (bound₂.journal.symm.trans bound'.journal)
      exact longer
    · rw [docOf_append, if_neg same] at bound'
      obtain rfl := Except.ok.inj (bound₁.journal.symm.trans bound'.journal)
      exact .refl j₁

/-- A document that was stored at some time holds the entry. -/
def Held (host : RuntimeHost) (saves : List (String × Dict)) (s id : String) (e : JournalEntry) :
    Prop :=
  ∃ earlier j, earlier <+: saves ∧
    readJournal host.interaction ((Value.dict (docOf earlier s)).get interactionJournalKey) = .ok j ∧
    j.entry id = some e

/-- The document that is stored now holds the receipt. -/
def Durable (host : RuntimeHost) (saves : List (String × Dict)) (s id : String)
    (r : InteractionReceipt) : Prop :=
  ∃ j e, readJournal host.interaction ((Value.dict (docOf saves s)).get interactionJournalKey) =
    .ok j ∧ j.entry id = some e ∧ e.receipt = some r

variable {e : JournalEntry} {id : String}

theorem Advancing.held (h : Advancing host A saves) (held : Held host saves s id e) :
    ∃ earlier j, earlier <+: saves ∧
      Bound host A (docOf earlier s) j ∧ j.entry id = some e := by
  obtain ⟨earlier, j, before, journal, found⟩ := held
  obtain ⟨j', bound⟩ := h.bound before s
  obtain rfl := Except.ok.inj (bound.journal.symm.trans journal)
  exact ⟨earlier, j', before, bound, found⟩

theorem Advancing.agree (h : Advancing host A saves) {e' : JournalEntry}
    (held : Held host saves s id e) (held' : Held host saves s id e') : e.request = e'.request ∧
      ∀ r r', e.receipt = some r → e'.receipt = some r' → r = r' := by
  -- of two stored documents, one was stored first
  suffices ordered : ∀ {earlier later : List (String × Dict)} {j j' : Journal} {e e' : JournalEntry},
      earlier <+: later → later <+: saves → Bound host A (docOf earlier s) j →
      Bound host A (docOf later s) j' → j.entry id = some e → j'.entry id = some e' →
      e.request = e'.request ∧ ∀ r, e.receipt = some r → e'.receipt = some r by
    obtain ⟨earlier, j, before, bound, found⟩ := h.held held
    obtain ⟨earlier', j', before', bound', found'⟩ := h.held held'
    rcases List.prefix_or_prefix_of_prefix before before' with first | first
    · obtain ⟨request, receipt⟩ := ordered first before' bound bound' found found'
      exact ⟨request, fun r r' given given' =>
        Option.some.inj ((receipt r given).symm.trans given')⟩
    · obtain ⟨request, receipt⟩ := ordered first before bound' bound found' found
      exact ⟨request.symm, fun r r' given given' =>
        Option.some.inj (given.symm.trans (receipt r' given'))⟩
  intro earlier later j j' e e' first before bound bound' found found'
  obtain ⟨rest, rfl⟩ := first
  obtain ⟨e₁, found₁, request, -, receipt, -⟩ := (h.extends before bound bound').entry id e found
  obtain rfl := Option.some.inj (found₁.symm.trans found')
  exact ⟨request.symm, receipt⟩

variable {r : InteractionReceipt}

theorem Advancing.durable (h : Advancing host A saves) (held : Held host saves s id e)
    (given : e.receipt = some r) : Durable host saves s id r := by
  obtain ⟨earlier, j, ⟨later, rfl⟩, bound, found⟩ := h.held held
  obtain ⟨j', bound'⟩ := h.bound List.prefix_rfl s
  obtain ⟨e', found', -, -, receipt, -⟩ := (h.extends List.prefix_rfl bound bound').entry id e found
  exact ⟨j', e', bound'.journal, found', receipt r given⟩

theorem Durable.held (h : Durable host saves s id r) (before : saves <+: later) :
    ∃ e, Held host later s id e ∧ e.receipt = some r := by
  obtain ⟨j, e, journal, found, given⟩ := h
  exact ⟨e, ⟨saves, j, before, journal, found⟩, given⟩

theorem Advancing.submitted (h : Advancing host A saves) (held : Held host saves s id e)
    (given : e.receipt = some r) : Submitted host A e.request r ∧ ReceiptFixed host.interaction r ∧
      RequestFixed host.interaction e.request := by
  obtain ⟨earlier, j, before, bound, found⟩ := h.held held
  have fixed := entryFixed bound.fixed found
  exact ⟨bound.submitted id e r found given, (fixed.receipt r given).1, fixed.request⟩

end Runs

/-! ### Digests of receipts -/

def InteractionReceipt.core (r : InteractionReceipt) : Dict :=
  [("schema_version", .int 1), ("interaction_id", .str r.interactionId),
    ("request_digest", .str r.requestDigest), ("response", r.response),
    ("response_digest", .str (strip r.responseDigest)), ("submitted_by", .str r.submittedBy)]

def InteractionReceipt.hashed (host : InteractionHost) (r : InteractionReceipt) :
    List Utf8.Bytes :=
  (canonicalJson host.display (.dict r.core)).toOption.toList

theorem InteractionReceipt.nodup_core (r : InteractionReceipt) : (Assoc.keys r.core).Nodup := by
  have same : Assoc.keys r.core = ["schema_version", "interaction_id", "request_digest", "response",
    "response_digest", "submitted_by"] := rfl
  rw [same]
  decide

variable {r : InteractionReceipt}

theorem ReceiptFixed.core {host : InteractionHost} (fixed : ReceiptFixed host r) :
    ∃ bytes, canonicalJson host.display (.dict r.core) = .ok bytes ∧
      strip r.receiptDigest = host.sha256 bytes := by
  have made := fixed.make
  obtain ⟨f1, f2, f3, f4, f5, f6, f7, f8, f9⟩ := field_receipt r
  simp only [InteractionReceipt.make, validateSchemaVersion, bind_iff, raiseIf_ok,
    exists_const, pure_iff, f1, f2, f3, f4, f5, f6, f7, f8, f9] at made
  obtain ⟨version, interactionId, interaction, requestDigest, requested, response, responded,
    responseDigest, answered, submittedBy, submitted, receiptDigest, received, receiptId, receipt,
    submittedAtMs, time, expectedResponse, responseHash, responseSame, core, cored, expected, hash,
    same, named, whole⟩ := made
  obtain rfl : interactionId = r.interactionId := congrArg (·.interactionId) whole
  obtain rfl : requestDigest = r.requestDigest := congrArg (·.requestDigest) whole
  obtain rfl : response = r.response := congrArg (·.response) whole
  obtain rfl : submittedBy = r.submittedBy := congrArg (·.submittedBy) whole
  obtain ⟨_, digestText, -, rfl⟩ := requiredText_ok answered
  cases digestText
  obtain ⟨_, receiptText, -, rfl⟩ := requiredText_ok received
  cases receiptText
  have strict := strict_of_strictJsonCopy _ responded
  have strictCore : Strict (.dict r.core) := by
    rw [strict_dict_iff]
    refine ⟨r.nodup_core, ?_⟩
    simp [InteractionReceipt.core, strict]
  rw [receiptCore, strictJsonCopy_of_strict _ _ strict] at cored
  obtain rfl : Value.dict r.core = core := Except.ok.inj cored
  simp only [digest, strictJsonCopy_of_strict _ _ strictCore, bind_iff, except_mapError_eq,
    pure_iff, Except.ok.injEq] at hash
  obtain ⟨_, rfl, bytes, wrote, rfl⟩ := hash
  exact ⟨bytes, wrote, by simpa using same⟩

theorem ReceiptFixed.digest_response {host : InteractionHost} {r' : InteractionReceipt}
    (floats : WritesFloats host.display) (fixed : ReceiptFixed host r)
    (fixed' : ReceiptFixed host r') (same : r.receiptDigest = r'.receiptDigest)
    (free : CollisionFree host.sha256 (r.hashed host ++ r'.hashed host)) :
    digest host r.response = digest host r'.response := by
  obtain ⟨bytes, wrote, hash⟩ := fixed.core
  obtain ⟨bytes', wrote', hash'⟩ := fixed'.core
  have texts : bytes = bytes' := by
    refine free bytes ?_ bytes' ?_ ?_
    · simp [InteractionReceipt.hashed, wrote, Except.toOption]
    · simp [InteractionReceipt.hashed, wrote', Except.toOption]
    · rw [← hash, ← hash', same]
  subst texts
  have response : ∀ r : InteractionReceipt, Assoc.get "response" r.core = some r.response :=
    fun _ => rfl
  have responses := canonicalJson_member floats wrote wrote' r.nodup_core r'.nodup_core (response r)
    (response r')
  have copied : ∀ {r : InteractionReceipt}, ReceiptFixed host r →
      strictJsonCopy host "$" r.response = .ok r.response := by
    intro r fixed
    have strict := strict_of_get fixed.strict "response"
    exact strictJsonCopy_of_strict _ _ strict
  rw [digest, digest, copied fixed, copied fixed']
  show (canonicalJson host.display r.response).mapError _ >>= _ =
    (canonicalJson host.display r'.response).mapError _ >>= _
  rw [responses]

/-! ### Answers that are equal -/

variable {normalized response : Value} {request : InteractionRequest} {host : RuntimeHost}

/-- An answer never names what a cancellation is recorded under. -/
theorem normalized_not_cancelled (h : normalizeInteractionResponse host request response = .ok normalized) :
    ∃ es, normalized = .dict es ∧ Assoc.get "cancelled" es = none := by
  simp only [normalizeInteractionResponse, bind_iff] at h
  obtain ⟨bound, -, contract, -, current, -, _, -, h⟩ := h
  simp only [normalizeForKind] at h
  split at h
  · simp only [normalizeHumanInputResponse, bind_iff, pure_iff] at h
    obtain ⟨_, -, answer, -, rfl⟩ := h
    exact ⟨_, rfl, rfl⟩
  · split at h
    · simp only [normalizeToolApprovalResponse, bind_iff, pure_iff] at h
      obtain ⟨_, -, _, -, _, -, _, -, rfl⟩ := h
      exact ⟨_, rfl, rfl⟩
    · split at h
      · simp only [normalizeMaxBudgetResponse, bind_iff] at h
        obtain ⟨⟨approved, rawExtra⟩, -, h⟩ := h
        split at h
        · cases h
          exact ⟨_, rfl, rfl⟩
        · obtain ⟨extra, -, h⟩ := bind_ok h
          cases h
          exact ⟨_, rfl, rfl⟩
        · cases h
      · cases h

theorem cancelled_ne_normalized
    (h : normalizeInteractionResponse host request response = .ok normalized) (reason : String) :
    (cancelledResponse reason).eqPy normalized = false := by
  obtain ⟨es, rfl, absent⟩ := normalized_not_cancelled h
  rw [cancelledResponse, Value.eqPy, Value.eqEntries, absent, Bool.false_and, Bool.and_false]

/-- Answers of the calls to one request that are equal have one digest: what is stored of the one
and what the other is normalized to. -/
def Unambiguous (host : RuntimeHost) (A : RecordCall → Prop) : Prop :=
  ∀ (request : InteractionRequest) (c c' : RecordCall) (first stored other : Value),
    A c → A c' → c.Addresses request → c'.Addresses request →
    normalizeInteractionResponse host request c.response = .ok first →
    strictJsonCopy host.interaction "$.response" first = .ok stored →
    normalizeInteractionResponse host request c'.response = .ok other →
    stored.eqPy other = true → digest host.interaction first = digest host.interaction other

/-- A call that returned got the receipt that is durable, and, unless the hash collides on the two
receipts, the durable answer has the digest of its own. -/
def SameAnswer (host : RuntimeHost) (saves : List (String × Dict)) (c : RecordCall)
    (a : DurableInteractionSnapshot) : Prop :=
  ∃ r normalized, Durable host saves c.sessionId c.interactionId r ∧ a.receipt = some r ∧
    normalizeInteractionResponse host a.request c.response = .ok normalized ∧
    ((∀ own now, buildInteractionReceipt host.interaction (.built a.request) normalized
        c.submittedBy now = .ok own →
      CollisionFree host.interaction.sha256
        (r.hashed host.interaction ++ own.hashed host.interaction)) →
      digest host.interaction r.response = digest host.interaction normalized)

section OneAnswer

variable {host : RuntimeHost} {A : RecordCall → Prop} {saves : List (String × Dict)}
  {e : JournalEntry} {g : Told}

theorem Shown.held {xs : List (SessionCall × Told)} {w : SessionWorld} (sound : Sound host A xs w)
    {role : SessionCall} (there : (role, g) ∈ xs) {s id : String} (shown : Shown host g s id e) :
    Held host w.saves s id e := by
  obtain ⟨doc, revision, j, mem, read, found⟩ := shown
  obtain ⟨earlier, before, rfl, -⟩ := sound.seen (role, g) there s doc revision mem
  exact ⟨earlier, j, before, read, found⟩

theorem digest_of_taken (floats : WritesFloats host.interaction.display)
    (unambiguous : Unambiguous host A) (advancing : Advancing host A saves) {c : RecordCall}
    (asked : A c) {r : InteractionReceipt} {normalized : Value}
    (held : Held host saves c.sessionId c.interactionId e) (given : e.receipt = some r)
    (normal : normalizeInteractionResponse host e.request c.response = .ok normalized)
    (shown : ∀ e', Shown host g c.sessionId c.interactionId e' →
      Held host saves c.sessionId c.interactionId e')
    (taken : Taken host c g e.request normalized r)
    (free : ∀ own now, buildInteractionReceipt host.interaction (.built e.request) normalized
        c.submittedBy now = .ok own →
      CollisionFree host.interaction.sha256
        (r.hashed host.interaction ++ own.hashed host.interaction)) :
    digest host.interaction r.response = digest host.interaction normalized := by
  obtain ⟨submitted, fixed, requestFixed⟩ := advancing.submitted held given
  cases taken with
  | equal same =>
    cases submitted with
    | @answer c₀ first now asked₀ addressed normal₀ built =>
      obtain ⟨-, -, copied⟩ := buildInteractionReceipt_ok requestFixed built
      have addressed' : c.Addresses e.request := by
        intro _
        obtain ⟨_, _, _, bound, found⟩ := advancing.held held
        exact (entryFixed bound.fixed found).keyed.symm
      rw [digest_copy copied]
      exact unambiguous e.request c₀ c first r.response normalized asked₀ asked addressed
        addressed' normal₀ copied normal same
    | @cancelled reason author now built =>
      obtain ⟨-, -, copied⟩ := buildInteractionReceipt_ok requestFixed built
      have strict : Strict (cancelledResponse reason) := by
        rw [cancelledResponse, strict_dict_iff]
        simp [Assoc.keys, Strict]
      rw [strictJsonCopy_of_strict _ _ strict] at copied
      rw [← Except.ok.inj copied, cancelled_ne_normalized normal] at same
      cases same
  | @replayed own now built same =>
    obtain ⟨ownFixed, -, copied⟩ := buildInteractionReceipt_ok requestFixed built
    rw [← digest_copy copied]
    exact fixed.digest_response floats ownFixed same (free own now built)
  | @written own now e' built here recorded =>
    obtain ⟨-, -, copied⟩ := buildInteractionReceipt_ok requestFixed built
    obtain ⟨-, same⟩ := advancing.agree held (shown e' here)
    rw [same r own given recorded, digest_copy copied]

/-- In a run whose equal answers have one digest each interaction has at most one durable answer,
and a call that returns gave that answer. -/
theorem one_answer_of_unambiguous (hex : HexDigests host.interaction) (keeps : KeepsReserved host)
    (floats : WritesFloats host.interaction.display) (unambiguous : Unambiguous host A)
    {crew : Crew.Crew StorePort PyError SessionResult SessionCall SessionWorld}
    (reached : Crew.Reachable (sessionSurroundings host A) (fun w => w.saves = []) crew) :
    (∀ earlier s id r r', earlier <+: crew.world.saves → Durable host earlier s id r →
      Durable host crew.world.saves s id r' → r = r') ∧
    ∀ c a, (SessionCall.recordReceipt c, Prog.ret (.interaction a)) ∈ crew.members →
      c.interactionId.isEmpty = false → SameAnswer host crew.world.saves c a := by
  have entry : ∀ call p, (sessionSurroundings host A).starts call p →
      Obeys ((sessionWatch host A).of call) (sessionWatch host A).start p
        (fun g r => call.Post host g r ∧ ∀ c, call = .recordReceipt c → A c) := by
    rintro call p ⟨rfl, asked⟩
    exact (obeys_run hex keeps call asked).mono fun _ _ post => ⟨post, asked⟩
  obtain ⟨held, watched⟩ := Crew.watched_of_reachable sound_kept entry sound_initial reached
  have sound := watched.property
  constructor
  · intro earlier s id r r' before durable durable'
    obtain ⟨e, first, given⟩ := durable.held before
    obtain ⟨e', last, given'⟩ := durable'.held List.prefix_rfl
    exact (sound.advancing.agree first last).2 r r' given given'
  · intro c a mem named
    obtain ⟨g, there, post, asked⟩ := watched.returned mem
    obtain ⟨first, last, normalized, r, agreed⟩ := post named
    have shown : ∀ e, Shown host g c.sessionId c.interactionId e →
        Held host crew.world.saves c.sessionId c.interactionId e :=
      fun e shown => shown.held sound there
    have heldLast := shown last agreed.shownLast
    have request := (sound.advancing.agree (shown first agreed.shownFirst) heldLast).1
    have normal := agreed.normal
    have taken := agreed.taken
    rw [request] at normal taken
    refine ⟨r, normalized, sound.advancing.durable heldLast agreed.recorded, agreed.receipt, ?_, ?_⟩
    · rw [agreed.request]
      exact normal
    · rw [agreed.request]
      exact digest_of_taken floats unambiguous sound.advancing (asked c rfl) heldLast
        agreed.recorded normal shown taken

end OneAnswer

/-! ### Two answers that are equal -/

def storeAnswer (w : SessionWorld) : (c : StoreCmd) → StorePort.Answer c × SessionWorld
  | .loadWithRevision s => (.ok (docOf w.saves s, revisionOf w.saves s), w)
  | .save _ s state expected =>
    if revisionOf w.saves s = expected then (.ok (expected + 1), ⟨w.saves ++ [(s, state)]⟩)
    else (.error (.raised "SessionRevisionConflictError" s), w)
  | .loadExecutionCancellation _ _ => (.ok none, w)
  | .verifyLease _ => (.ok (), w)
  | .clockMs => (.ok 0, w)

theorem storeAnswer_ok (w : SessionWorld) (c : StoreCmd) :
    StoreAnswers w c (storeAnswer w c).1 (storeAnswer w c).2 := by
  cases c with
  | loadWithRevision s => exact .loaded
  | save method s state expected =>
    simp only [storeAnswer]
    split
    · next current => exact .saved current
    · exact .saveFailed
  | loadExecutionCancellation executionId ownerId => exact .cancellation
  | verifyLease fence => exact .verified
  | clockMs => exact .clock

/-- An operation that is answered for some rounds, and nothing else with it. -/
def answered {α : Type} : Nat → StoreProg α → SessionWorld → StoreProg α × SessionWorld
  | rounds + 1, .call c k, w => answered rounds (k (storeAnswer w c).1) (storeAnswer w c).2
  | _, p, w => (p, w)

variable {A : RecordCall → Prop} {p : StoreProg SessionResult} {w : SessionWorld}

theorem reachable_answered {init : SessionWorld → Prop} {role : SessionCall}
    {others : List (SessionCall × StoreProg SessionResult)} (rounds : Nat)
    (h : Crew.Reachable (sessionSurroundings host A) init ⟨(role, p) :: others, w⟩) :
    Crew.Reachable (sessionSurroundings host A) init
      ⟨(role, (answered rounds p w).1) :: others, (answered rounds p w).2⟩ := by
  induction rounds generalizing p w with
  | zero => exact h
  | succ rounds ih =>
    cases p with
    | ret a => exact h
    | raise e => exact h
    | call c k =>
      have next : Crew.Step (sessionSurroundings host A) ⟨[] ++ (role, .call c k) :: others, w⟩
          ⟨[] ++ (role, k (storeAnswer w c).1) :: others, (storeAnswer w c).2⟩ :=
        .answer (storeAnswer_ok w c)
      exact ih (h.step next)

/-- A digest that is quick to evaluate: eight bytes of the text in hexadecimal. -/
def window (bytes : Utf8.Bytes) : String :=
  String.ofList (((bytes.drop 40).take 8).flatMap fun b =>
    [Json.hexChar (b.toNat / 16), Json.hexChar (b.toNat % 16)])

def windowHost : RuntimeHost where
  interaction :=
    { display := fun _ => "0.5", sha256 := window, repr := fun _ => "", className := fun _ => "" }
  supports := fun _ => true
  commitStrategy state _ := .ok state

theorem hexChar_hex : ∀ d < 16, Json.hexChar d ∈ "0123456789abcdef".toList := by
  decide

theorem hexDigits_window : HexDigests windowHost.interaction := by
  intro bytes c mem
  have text : (windowHost.interaction.sha256 bytes).toList =
      ((bytes.drop 40).take 8).flatMap fun b =>
      [Json.hexChar (b.toNat / 16), Json.hexChar (b.toNat % 16)] := String.toList_ofList
  rw [text] at mem
  obtain ⟨b, -, mem⟩ := List.mem_flatMap.mp mem
  have high : b.toNat / 16 < 16 := Nat.div_lt_of_lt_mul b.toNat_lt
  have low : b.toNat % 16 < 16 := Nat.mod_lt _ (by decide)
  rcases List.mem_pair.mp mem with rfl | rfl
  · exact hexChar_hex _ high
  · exact hexChar_hex _ low

theorem keepsReserved_window : KeepsReserved windowHost := by
  rintro state conversation out ⟨⟩ key -
  rfl

theorem writesFloats_window : WritesFloats windowHost.interaction.display := by
  intro x _
  show ∀ c ∈ "0.5".toList, Json.Ordinary c
  decide

def approvalRequest : InteractionRequest where
  schemaVersion := .int 1
  interactionId := "interaction_76616c222c226f63"
  sessionId := "session"
  kind := "tool_approval"
  sourceRunId := "run"
  occurrence := "call"
  payload := .dict []
  responseContract := toolApprovalResponseContract
  schemaDigest := "73223a7b22617070"
  requestDigest := "76616c222c226f63"
  createdRevision := 0
  subject := .none

def approvalPayload : Dict :=
  [("base_session_revision", .int 0), ("continuation", .dict []),
    ("interaction_ref", .dict [("interaction_id", .str approvalRequest.interactionId),
      ("request_digest", .str approvalRequest.requestDigest)]),
    ("iteration", .int 0), ("max_context_window_tokens", .int 0), ("pending_model_context", .none),
    ("provider", .str "openai"),
    ("replay_frame", .dict [("complete", .bool true), ("items", .list [])]),
    ("schema_version", .int 1), ("session_id", .str "session"), ("source_run_id", .str "run"),
    ("status", .str "awaiting_interaction"),
    ("token_state", .dict (tokenKeys.map fun key => (key, .int 0))), ("transcript", .list []),
    ("workspace_change_state", .dict [])]

def approvalCheckpoint : Value :=
  .dict (approvalPayload ++ [("checkpoint_id", .str "checkpoint_223a7b7d2c22696e"),
    ("integrity", .dict [("algorithm", .str "sha256"),
      ("payload_sha256", .str "223a7b7d2c22696e")])])

def approvalSave : SaveCall where
  sessionId := "session"
  checkpoint := approvalCheckpoint
  interactionRequest := some (.built approvalRequest)
  expectedRevision := some 0
  executionFence := none

def approvalAnswer (n : Value) : RecordCall where
  sessionId := "session"
  interactionId := approvalRequest.interactionId
  response := .dict [("approved", .bool true), ("modified_arguments", .dict [("n", n)])]
  submittedBy := "user"
  expectedRevision := none
  executionFence := none

/-- The operation is run to its end, with nothing in between. -/
def ran (call : SessionCall) (w : SessionWorld) : StoreProg SessionResult × SessionWorld :=
  answered 24 (call.run windowHost) w

abbrev WindowRun (A : RecordCall → Prop)
    (crew : Crew.Crew StorePort PyError SessionResult SessionCall SessionWorld) : Prop :=
  Crew.Reachable (sessionSurroundings windowHost A) (fun w => w.saves = []) crew

variable {members : List (SessionCall × StoreProg SessionResult)}

theorem reachable_ran (call : SessionCall) (asked : ∀ c, call = .recordReceipt c → A c)
    (h : WindowRun A ⟨members, w⟩) :
    WindowRun A ⟨(call, (ran call w).1) :: members, (ran call w).2⟩ :=
  reachable_answered 24 (h.step (.start ⟨rfl, asked⟩))

/-- One answer, however often it is given, is not ambiguous. -/
theorem unambiguous_single (c : RecordCall) : Unambiguous windowHost (· = c) := by
  rintro request _ _ first stored other rfl rfl - - normal - normal' -
  rw [Except.ok.inj (normal.symm.trans normal')]

theorem saved_reachable (A : RecordCall → Prop) : WindowRun A
    ⟨[(.saveCheckpoint approvalSave, (ran (.saveCheckpoint approvalSave) ⟨[]⟩).1)],
      (ran (.saveCheckpoint approvalSave) ⟨[]⟩).2⟩ := by
  have start : WindowRun A ⟨[], ⟨[]⟩⟩ := .init rfl
  refine reachable_ran (.saveCheckpoint approvalSave) ?_ start
  rintro c ⟨⟩

/-- The program ended with the state of an interaction. -/
def gaveInteraction : StoreProg SessionResult → Bool
  | .ret (.interaction _) => true
  | _ => false

theorem gaveInteraction_ok (h : gaveInteraction p = true) : ∃ a, p = .ret (.interaction a) := by
  cases p with
  | ret result =>
    cases result with
    | interaction a => exact ⟨a, rfl⟩
    | _ => cases h
  | raise e => cases h
  | call command k => cases h

/-- The call returned another answer than its own. -/
def tookAnother (host : RuntimeHost) (c : RecordCall) : StoreProg SessionResult → Bool
  | .ret (.interaction a) =>
    match a.receipt, normalizeInteractionResponse host a.request c.response with
    | some r, .ok normalized => decide (digest host.interaction r.response ≠
        digest host.interaction normalized)
    | _, _ => false
  | _ => false

variable {c : RecordCall}

theorem tookAnother_ok (h : tookAnother host c p = true) :
    ∃ a r normalized, p = .ret (.interaction a) ∧
      a.receipt = some r ∧ normalizeInteractionResponse host a.request c.response = .ok normalized ∧
      digest host.interaction r.response ≠ digest host.interaction normalized := by
  cases p with
  | ret result =>
    cases result with
    | interaction a =>
      rw [tookAnother] at h
      split at h
      · next r normalized receipt normal =>
          exact ⟨a, r, normalized, rfl, receipt, normal, by simpa using h⟩
      · cases h
    | _ => cases h
  | raise e => cases h
  | call command k => cases h

theorem world_of_saves {saves : List (String × Dict)} (h : w.saves = saves) : w = ⟨saves⟩ :=
  h ▸ rfl

def approvalReceipt : InteractionReceipt where
  schemaVersion := .int 1
  receiptId := "receipt_6332323666363322"
  interactionId := approvalRequest.interactionId
  requestDigest := approvalRequest.requestDigest
  response := .dict [("approved", .bool true), ("modified_arguments", .dict [("n", .int 1)]),
    ("reason", .str "")]
  responseDigest := "6e223a317d2c2272"
  submittedBy := "user"
  receiptDigest := "6332323666363322"
  submittedAtMs := 0

/-- The document of the session with the approval in its journal. -/
def approvalDocument (receipt : Option InteractionReceipt) : Dict :=
  let id := approvalRequest.interactionId
  [("interaction_journal", Journal.toDict
      ⟨some id, [(id, ⟨approvalRequest, "checkpoint_223a7b7d2c22696e", receipt, none⟩)], [id]⟩),
    ("execution_checkpoint", approvalCheckpoint)]

/-- Both runs that follow the saved checkpoint: the first answer is taken, and a second one
gets the first. -/
theorem approval_runs :
    gaveInteraction (ran (.recordReceipt (approvalAnswer (.int 1)))
      (ran (.saveCheckpoint approvalSave) ⟨[]⟩).2).1 = true ∧
    tookAnother windowHost (approvalAnswer (.bool true))
      (ran (.recordReceipt (approvalAnswer (.bool true)))
        (ran (.recordReceipt (approvalAnswer (.int 1)))
          (ran (.saveCheckpoint approvalSave) ⟨[]⟩).2).2).1 = true := by
  have saved : (ran (.saveCheckpoint approvalSave) ⟨[]⟩).2.saves =
      [("session", approvalDocument none)] := by decide +kernel
  rw [world_of_saves saved]
  have taken : (gaveInteraction (ran (.recordReceipt (approvalAnswer (.int 1)))
        ⟨[("session", approvalDocument none)]⟩).1 = true) ∧
      (ran (.recordReceipt (approvalAnswer (.int 1)))
        ⟨[("session", approvalDocument none)]⟩).2.saves = [("session", approvalDocument none),
          ("session", approvalDocument (some approvalReceipt))] := by decide +kernel
  refine ⟨taken.1, ?_⟩
  rw [world_of_saves taken.2]
  decide +kernel

/-- A call that is alone in giving its answer gets that answer. -/
theorem one_answer_single : ∃ a,
    (ran (.recordReceipt (approvalAnswer (.int 1)))
      (ran (.saveCheckpoint approvalSave) ⟨[]⟩).2).1 = .ret (.interaction a) ∧
    SameAnswer windowHost (ran (.recordReceipt (approvalAnswer (.int 1)))
      (ran (.saveCheckpoint approvalSave) ⟨[]⟩).2).2.saves (approvalAnswer (.int 1)) a := by
  have single : ∀ members p w a, WindowRun (· = approvalAnswer (.int 1))
      ⟨(.recordReceipt (approvalAnswer (.int 1)), p) :: members, w⟩ → p = .ret (.interaction a) →
      SameAnswer windowHost w.saves (approvalAnswer (.int 1)) a := by
    rintro members _ w a run rfl
    have named : (approvalAnswer (.int 1)).interactionId.isEmpty = false := by decide
    exact (one_answer_of_unambiguous hexDigits_window keepsReserved_window writesFloats_window
      (unambiguous_single _) run).2 _ a List.mem_cons_self named
  obtain ⟨a, returned⟩ := gaveInteraction_ok approval_runs.1
  have run := reachable_ran (.recordReceipt (approvalAnswer (.int 1))) (by rintro c ⟨⟩; rfl)
    (saved_reachable (· = approvalAnswer (.int 1)))
  exact ⟨a, returned, single _ _ _ a run returned⟩

/-- A run in which a call returned another answer than its own. -/
def Disagrees (host : RuntimeHost) (c : RecordCall) : Prop :=
  ∃ crew a r normalized, Crew.Reachable (sessionSurroundings host fun _ => True)
      (fun w => w.saves = []) crew ∧
    (SessionCall.recordReceipt c, Prog.ret (.interaction a)) ∈ crew.members ∧
    a.receipt = some r ∧ normalizeInteractionResponse host a.request c.response = .ok normalized ∧
    digest host.interaction r.response ≠ digest host.interaction normalized

theorem disagrees_of_run (run : WindowRun (fun _ => True) ⟨(.recordReceipt c, p) :: members, w⟩)
    (another : tookAnother windowHost c p = true) : Disagrees windowHost c := by
  obtain ⟨a, r, normalized, rfl, receipt, normal, differs⟩ := tookAnother_ok another
  exact ⟨_, a, r, normalized, run, List.mem_cons_self, receipt, normal, differs⟩

/-- After an approval with `{"n": 1}` was recorded, the call that answers with `{"n": True}` returns
that approval. -/
theorem equal_answers_differ : Disagrees windowHost (approvalAnswer (.bool true)) := by
  have any : ∀ call : SessionCall, ∀ c, call = .recordReceipt c → True := fun _ _ _ => trivial
  have first := reachable_ran (.recordReceipt (approvalAnswer (.int 1))) (any _)
    (saved_reachable fun _ => True)
  have second := reachable_ran (.recordReceipt (approvalAnswer (.bool true))) (any _) first
  exact disagrees_of_run second approval_runs.2

end Unchain.Interaction
