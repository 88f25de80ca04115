import Unchain.MemorySpace.ExactlyOnce

/-!
The workspace store over any interleaving of its clients.

A pool holds any number of calls, each at its own point. `workspace_exactly_once` is what every
run of such a pool keeps, as long as the calls are tidy: a call that is not tidy commits and then
raises, and a relation link is repeated only while its ends are current
(`repeated_link_is_refused`).
-/

namespace Unchain.MemorySpace

open Lib Lib.Effect Lib.Process Lib.Interrupted Lib.Threads Journal Python

variable {host : WorkspaceHost} {spaceId : String} {T : Type}

/-- The revisions of every entry are numbered from one, and no two active entries share a path
key. -/
structure Tables.Consistent (host : WorkspaceHost) (t : Tables) : Prop where
  numbered : ∀ id, ∃ n : Int, 0 ≤ n ∧ ∀ k, (t.revisionRow? id k).isSome ↔ 1 ≤ k ∧ k ≤ n
  alone : ∀ id id' row row', t.currentRow? id = some row → t.currentRow? id' = some row' →
    row.entry.deleted = false → row'.entry.deleted = false →
      pathKey host row.entry.path = pathKey host row'.entry.path → id = id'

theorem Tables.Sound.consistent {t : Tables} (sound : t.Sound host spaceId) : t.Consistent host where
  numbered id := by
    cases head : t.head? id with
    | none =>
      refine ⟨0, le_refl _, fun k => ?_⟩
      rw [sound.rows]
      constructor
      · rintro ⟨head', there, -⟩
        cases head.symm.trans there
      · omega
    | some h =>
      have := sound.started _ _ head
      refine ⟨h.currentRevision, by omega, fun k => ?_⟩
      rw [sound.rows]
      constructor
      · rintro ⟨head', there, within⟩
        cases head.symm.trans there
        exact within
      · exact fun within => ⟨h, head, within⟩
  alone id id' row row' current current' active active' key := by
    obtain ⟨head, there, stored⟩ := Tables.currentRow?_some current
    obtain ⟨head', there', stored'⟩ := Tables.currentRow?_some current'
    have shows := sound.shows _ _ _ there stored
    have shows' := sound.shows _ _ _ there' stored'
    refine sound.alone id id' head head' there there' (shows.deleted.trans active)
      (shows'.deleted.trans active') ?_
    rw [shows.pathKey, shows'.pathKey, key]

def clients (host : WorkspaceHost) (spaceId : String) (calls : T → WorkspaceCall) :
    Pool workspaceCalls PyError WorkspaceResult Tables T :=
  ⟨fun t => (calls t).run host spaceId, .fresh⟩

variable [DecidableEq T]

/-- The store is exactly-once in a run that led to `s`. -/
structure ExactlyOnce (host : WorkspaceHost) (spaceId : String) (calls : T → WorkspaceCall)
    (trace : List (T × Tables × Tables))
    (s : Pool workspaceCalls PyError WorkspaceResult Tables T) : Prop where
  consistent : s.world.Consistent host
  /-- What is applied moves the revision of the space by one. -/
  advances : ∀ step ∈ trace, step.2.2 = step.2.1 ∨ step.2.2.revision = step.2.1.revision + 1
  /-- A call that raised has changed nothing. -/
  raised : ∀ t e, s.programs t = .raise e → Quiet (own t trace)
  /-- A repeat of a call that returned changes nothing and comes to the same. -/
  repeated : ∀ t u r more s', s.programs t = .ret r → s.programs u = (calls u).run host spaceId →
    calls u = calls t → Run (storeService host spaceId) s more s' →
      Quiet (own u more) ∧ ∀ x, ended (s'.programs u) = some x →
        Repeats (calls u) r s.world s'.world x
  /-- Other arguments under the operation id of a call that returned raise and change nothing. -/
  reused : ∀ t u r more s', s.programs t = .ret r → s.programs u = (calls u).run host spaceId →
    requiredIdentifier host.toHost "operation_id" (.str (calls u).operationId) =
      requiredIdentifier host.toHost "operation_id" (.str (calls t).operationId) →
    Run (storeService host spaceId) s more s' →
    (calls u).payload host spaceId s'.world ≠ (calls t).payload host spaceId s'.world →
      Quiet (own u more) ∧ ∀ x, ended (s'.programs u) = some x → ∃ e, x = .error e

theorem workspace_exactly_once (normal : Normal host)
    (collisionless : Function.Injective host.sha256)
    (bound : requiredIdentifier host.toHost "space_id" (.str spaceId) = .ok spaceId)
    (calls : T → WorkspaceCall) (tidy : ∀ t, (calls t).Tidy host)
    {trace : List (T × Tables × Tables)} {s : Pool workspaceCalls PyError WorkspaceResult Tables T}
    (run : Run (storeService host spaceId) (clients host spaceId calls) trace s) :
    ExactlyOnce host spaceId calls trace s := by
  have quiet : Quiet [] := nofun
  have start (t : T) := secure_first normal bound (tidy t) (@Tables.sound_fresh host spaceId) quiet
  have agree (w w' : Tables) (h : (working host spaceId).guarantee w w') : Later host spaceId w w' :=
    h.1
  let none : T → Steps Tables := fun _ => []
  obtain ⟨secure, promised⟩ := @Run.secure _ _ _ _ _ _ _ (fun _ => working host spaceId)
    (fun _ => rfl) (fun _ _ w w' _ h => agree w w' h) _ _ _ _ run none start
  have kept : ∀ step ∈ trace, step.2.1.Sound host spaceId → step.2.2.Sound host spaceId :=
    fun step mem sound => ((promised step mem).1 sound).1
  obtain ⟨everywhere, sound⟩ := run.throughout (@Tables.sound_fresh host spaceId) kept
  have settled {t : T} {r : WorkspaceResult} (returned : s.programs t = .ret r) :
      Settled host spaceId (calls t) r s.world :=
    ((secure t).at_end (by rw [returned]; rfl) : _ ∧ Settled host spaceId (calls t) r s.world).2
  have idles (w w' : Tables) (h : (idle host spaceId).guarantee w w') : Later host spaceId w w' := by
    have same : w' = w := h
    subst same
    exact Later.refl w'
  exact {
    consistent := sound.consistent
    advances step mem := (promised step mem).2 (everywhere step mem)
    raised := fun t e raised => (secure t).at_end (x := .error e) (by rw [raised]; rfl) |>.2
    repeated := by
      intro t u r more s' returned fresh same run'
      have again := secure_again sound (same ▸ settled returned : Settled host spaceId (calls u) r _)
      obtain ⟨there, still⟩ := run'.secure_among (C := working host spaceId)
        (D := idle host spaceId) rfl rfl agree agree idles
        (fun t _ => secure t) (by rw [fresh]; exact again)
      exact ⟨still, fun x done => (there.at_end done).2⟩
    reused := by
      intro t u r more s' returned fresh same run' differs
      have other := secure_other normal collisionless bound sound (settled returned) (tidy u) same
      obtain ⟨there, still⟩ := run'.secure_among (C := working host spaceId)
        (D := idle host spaceId) rfl rfl agree agree idles
        (fun t _ => secure t) (by rw [fresh]; exact other)
      refine ⟨still, fun x done => ?_⟩
      have ended := (there.at_end done).2
      cases x with
      | error e => exact ⟨e, rfl⟩
      | ok r' => exact absurd ended differs }

/-! ### Calls that are not tidy, and relation links -/

variable (host spaceId) in
/-- The answers of the store, with an index that is never in the way. -/
def storeAnswer (t : Tables) : (c : WorkspaceCmd) → workspaceCalls.Answer c × Tables
  | .readEntry ref => (MemorySpace.readEntry spaceId ref t, t)
  | .readCurrentEntry id => (MemorySpace.readCurrentEntry host id t, t)
  | .apply request => transact (apply host spaceId request) t
  | .createLink request => transact (createLink spaceId request) t
  | .supersede _ _ => (true, t)
  | .upsert _ => (true, t)

theorem storeAnswer_allowed (t : Tables) (c : WorkspaceCmd) :
    storeService host spaceId t c (storeAnswer host spaceId t c).1
      (storeAnswer host spaceId t c).2 := by
  cases c with
  | readEntry ref | readCurrentEntry id => exact ⟨rfl, rfl⟩
  | apply request | createLink request | supersede ref deleted | upsert chunks => rfl

def letter (n : Nat) : Char := Char.ofNat (n + 97)

def letters : Utf8.Bytes → List Char
  | [] => []
  | b :: rest => letter (b.toNat / 16) :: letter (b.toNat % 16) :: letters rest

theorem letter_injective {m n : Nat} (hm : m < 16) (hn : n < 16) (eq : letter m = letter n) :
    m = n := by
  have all : ∀ i j : Fin 16, letter i = letter j → i = j := by decide
  exact congrArg Fin.val (all ⟨m, hm⟩ ⟨n, hn⟩ eq)

theorem letters_injective : Function.Injective letters := by
  intro a b eq
  induction a generalizing b with
  | nil =>
    cases b with
    | nil => rfl
    | cons => cases eq
  | cons x a ih =>
    cases b with
    | nil => cases eq
    | cons y b =>
      simp only [letters, List.cons.injEq] at eq
      obtain ⟨high, low, rest⟩ := eq
      have hx := x.toNat_lt
      have hy := y.toNat_lt
      have high := letter_injective (by omega) (by omega) high
      have low := letter_injective (by omega) (by omega) low
      have same : x = y := UInt8.toNat_inj.mp (by omega)
      rw [same, ih rest]

/-- A host for texts that are already normalised, without a vector index. -/
def letterHost : WorkspaceHost where
  toHost := plainHost
  nfkc s := s
  unquote s := s
  unprintable _ := false
  checkLinkUrl _ := .ok ()
  sha256 bytes := String.ofList (letters bytes)
  authorize := .ok
  redact := .ok
  indexed := false

theorem normal_letterHost : Normal letterHost where
  nfc := normalizes_plainHost
  nfkc _ := rfl
  printable _ h := h

theorem collisionless_letterHost : Function.Injective letterHost.sha256 :=
  fun _ _ same => letters_injective (String.ofList_injective same)

def sampleSource : ResourceRef := ⟨"context_event", "event", 1, ""⟩

def folderArgs (path operationId : String) (expected : Int) : EntryArgs :=
  ⟨path, "notes of the chat", expected, [sampleSource], operationId, none⟩

def alphaRef : ResourceRef := ⟨"memory", "memory-hdaagbdb", 1, "s"⟩

def betaRef : ResourceRef := ⟨"memory", "memory-hdaagcdb", 1, "s"⟩

def linkCalls : Fin 5 → WorkspaceCall
  | 0 => .createFolder (folderArgs "/alpha" "a1" 1)
  | 1 => .createFolder (folderArgs "/beta" "b1" 2)
  | 2 => .link ⟨alphaRef, betaRef, "about", 3, [sampleSource], "c1"⟩
  | 3 => .move ⟨alphaRef, "/gamma", 4, [sampleSource], "d1"⟩
  | 4 => .link ⟨alphaRef, betaRef, "about", 3, [sampleSource], "c1"⟩

def linkedAndMoved : Pool workspaceCalls PyError WorkspaceResult Tables (Fin 5) :=
  [0, 1, 2, 3].foldl (Pool.turn (storeAnswer letterHost "s")) (clients letterHost "s" linkCalls)

def spacedCalls (_ : Unit) : WorkspaceCall := .createFolder (folderArgs "/ alpha" "a1" 1)

/-- A link that succeeded is refused when it is repeated, and a call may raise behind its commit. -/
theorem repeated_link_is_refused :
    (∃ trace more s', Run (storeService letterHost "s") (clients letterHost "s" linkCalls) trace
        linkedAndMoved ∧
      (∃ r, ended (linkedAndMoved.programs 2) = some (.ok r)) ∧ linkCalls 4 = linkCalls 2 ∧
      linkedAndMoved.programs 4 = (linkCalls 4).run letterHost "s" ∧
      Run (storeService letterHost "s") linkedAndMoved more s' ∧
      ended (s'.programs 4) = some (.error (conflictError "entry reference is not current"))) ∧
    ∃ trace s, Run (storeService letterHost "s") (clients letterHost "s" spacedCalls) trace s ∧
      s.world ≠ .fresh ∧ ended (s.programs ()) =
        some (.error (repositoryError "entry name does not match its virtual path")) := by
  constructor
  · obtain ⟨trace, run⟩ := exists_run_turns (@storeAnswer_allowed letterHost
      "s") (clients letterHost "s" linkCalls) [0, 1, 2, 3]
    obtain ⟨more, rest⟩ := exists_run_turn (@storeAnswer_allowed letterHost "s") linkedAndMoved 4
    refine ⟨trace, more, _, run, ⟨.link ⟨"link-hdaagddb", alphaRef, betaRef, "about", 1⟩, ?_⟩, rfl,
      rfl, rest, ?_⟩
    · decide +kernel
    · decide +kernel
  · obtain ⟨trace, run⟩ := exists_run_turn (@storeAnswer_allowed letterHost
      "s") (clients letterHost "s" spacedCalls) ()
    refine ⟨trace, _, run, ?_, ?_⟩
    · decide +kernel
    · decide +kernel

theorem writeArgs_tidy_letterHost {args : WriteArgs} (named : NameKept letterHost args.path) :
    args.Tidy letterHost := by
  intro first current draft redacted prelude drafts redacts
  refine ⟨?_, fun indexed => by cases indexed⟩
  obtain ⟨path, canonical, prelude⟩ := bind_ok prelude
  obtain ⟨description, -, prelude⟩ := bind_ok prelude
  obtain ⟨expected, -, prelude⟩ := bind_ok prelude
  obtain ⟨sources, -, prelude⟩ := bind_ok prelude
  cases prelude
  obtain ⟨mediaType, -, drafts⟩ := bind_ok drafts
  obtain ⟨linkUrl, -, drafts⟩ := bind_ok drafts
  obtain ⟨tags, -, drafts⟩ := bind_ok drafts
  cases drafts
  obtain ⟨left, unchanged, redacts⟩ := bind_ok redacts
  cases unchanged
  obtain ⟨-, redacts⟩ := raiseIf_bind_ok redacts
  have normalised := normalizedDraft_path (except_mapError_ok redacts)
  have first_eq := (virtualPath_eq (canonicalEntryPath_ok canonical).1).2.1
  have again_eq := (virtualPath_eq (canonicalEntryPath_ok normalised).1).2.1
  have same : redacted.path = args.path := again_eq.trans first_eq
  exact same ▸ named

theorem linkCalls_tidy (t : Fin 5) : (linkCalls t).Tidy letterHost := by
  have named (path : String) (h : NameKept letterHost path) {p : String}
      (canonical : canonicalEntryPath letterHost path = .ok p) : NameKept letterHost p := by
    have eq : p = path := (virtualPath_eq (canonicalEntryPath_ok canonical).1).2.1
    exact eq ▸ h
  have kept (path : String) (h : requiredText letterHost.toHost 256 false "name"
      (.str (lastSegment path)) = .ok (lastSegment path)) : NameKept letterHost path := h
  match t with
  | 0 => exact writeArgs_tidy_letterHost (kept "/alpha" (by decide))
  | 1 => exact writeArgs_tidy_letterHost (kept "/beta" (by decide))
  | 2 => trivial
  | 3 => exact fun _ => named "/gamma" (kept _ (by decide))
  | 4 => trivial

theorem linkedAndMoved_exactly_once : ∃ trace,
    Run (storeService letterHost "s") (clients letterHost "s" linkCalls) trace linkedAndMoved ∧
      ExactlyOnce letterHost "s" linkCalls trace linkedAndMoved := by
  obtain ⟨trace, run⟩ := exists_run_turns (@storeAnswer_allowed letterHost
    "s") (clients letterHost "s" linkCalls) [0, 1, 2, 3]
  exact ⟨trace, run, workspace_exactly_once normal_letterHost collisionless_letterHost (by decide)
    linkCalls linkCalls_tidy run⟩

end Unchain.MemorySpace
