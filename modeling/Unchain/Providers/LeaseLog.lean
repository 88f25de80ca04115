import Unchain.Providers.RequestLease
import Mathlib.Data.List.Chain

/-!
Logs of provider request leases.

In a `LeaseLog` every record either opens a subject that the records before it admit, or advances
the current record of its subject. A subject of such a log ends once, and the subjects of a call
form one line: the retries of the primary route, or its first request and then the fallback's.
-/

namespace Unchain.Providers

open Lib Lib.Process Journal Python

/-! ### Logs of revisions -/

namespace ProviderRequestLease

/-- The record that moves a subject to `STARTED`. -/
structure Opens (r : ProviderRequestLease) : Prop where
  started : r.status = .started
  first : r.revision = 1
  certain : r.uncertaintyDiagnostic = none

/-- A durable failure of the kind that lets another subject of the call be claimed. -/
structure FailedAs (r : ProviderRequestLease) (c : FailureClassification) : Prop where
  failed : r.status = .failed
  retryable : r.retryable = true
  silent : r.visibleOutput = false
  classified : r.classification = some c

/-- `STARTED` goes to `STARTED` with uncertainty once, and from either to a terminal status. -/
structure Moves (r next : ProviderRequestLease) : Prop where
  next_revision : next.revision = r.revision + 1
  started : r.status = .started
  terminal_or_uncertain : next.status = .failed ∨ next.status = .completed ∨
    next.status = .started ∧ r.uncertaintyDiagnostic = none ∧
      next.uncertaintyDiagnostic.isSome = true

structure Advances (r next : ProviderRequestLease) : Prop extends Moves r next where
  subject_eq : next.subject = r.subject

end ProviderRequestLease

namespace ProviderRequestSubject

def reroute (s : ProviderRequestSubject) (route : ProviderRoute) (retryOrdinal : Nat) :
    ProviderRequestSubject :=
  { s with route, retryOrdinal }

structure SameCall (s t : ProviderRequestSubject) : Prop where
  attempt : s.attempt = t.attempt
  iteration : s.iteration = t.iteration
  envelopeSha256 : s.envelopeSha256 = t.envelopeSha256

end ProviderRequestSubject

open ProviderRequestLease ProviderRequestSubject

/-- `subject` failed in `log` in a way that lets another subject of its call be claimed. -/
def Spent (log : List ProviderRequestLease) (subject : ProviderRequestSubject)
    (c : FailureClassification) : Prop :=
  ∃ r ∈ log, r.subject = subject ∧ r.FailedAs c

/-- What must be durable before a subject may be claimed. -/
inductive Admitted (log : List ProviderRequestLease) (s : ProviderRequestSubject) : Prop where
  | initial (route : s.route = .primary) (ordinal : s.retryOrdinal = 0)
  | retry {n : Nat} (ordinal : s.retryOrdinal = n + 1)
      (spent : Spent log (s.reroute s.route n) .transient)
  | fallback (route : s.route = .openaiPreviousResponseFallback) (ordinal : s.retryOrdinal = 0)
      (spent : Spent log (s.reroute .primary 0) .previousResponseFallback)

abbrev latestOf (s : ProviderRequestSubject) (log : List ProviderRequestLease) :
    Option ProviderRequestLease :=
  KeyedLog.latest ProviderRequestLease.subject s log

/-- What may be stored after `log`. -/
inductive Fits (log : List ProviderRequestLease) (r : ProviderRequestLease) : Prop where
  | opens (fresh : ∀ x ∈ log, x.subject ≠ r.subject) (opens : r.Opens)
      (admitted : Admitted log r.subject)
  | advances {x : ProviderRequestLease} (current : latestOf r.subject log = some x)
      (advances : x.Advances r)

inductive LeaseLog : List ProviderRequestLease → Prop where
  | nil : LeaseLog []
  | snoc {log : List ProviderRequestLease} {r : ProviderRequestLease} (h : LeaseLog log)
      (fits : Fits log r) : LeaseLog (log ++ [r])

section Logs

variable {log : List ProviderRequestLease} {r x y : ProviderRequestLease}
  {s t : ProviderRequestSubject} {c : FailureClassification}

theorem Spent.append (h : Spent log s c) : Spent (log ++ [r]) s c := by
  obtain ⟨x, mem, facts⟩ := h
  exact ⟨x, List.mem_append_left _ mem, facts⟩

theorem LeaseLog.of_snoc (h : LeaseLog (log ++ [r])) : LeaseLog log ∧ Fits log r := by
  generalize whole : log ++ [r] = l at h
  cases h with
  | nil => simp at whole
  | snoc h fits =>
    obtain ⟨rfl, same⟩ := List.append_inj' whole rfl
    cases same
    exact ⟨h, fits⟩

theorem LeaseLog.prefix {later : List ProviderRequestLease} (h : LeaseLog (log ++ later)) :
    LeaseLog log := by
  induction later using List.reverseRecOn with
  | nil => simpa using h
  | append_singleton later r ih =>
    rw [← List.append_assoc] at h
    exact ih h.of_snoc.1

section

variable (h : LeaseLog log)

include h

theorem LeaseLog.terminal_current (mem : x ∈ log) (terminal : x.status ≠ .started) :
    latestOf x.subject log = some x := by
  induction h with
  | nil => cases mem
  | @snoc log r _ fits ih =>
    rw [latestOf, KeyedLog.latest_append]
    rw [List.mem_append, List.mem_singleton] at mem
    rcases mem with mem | rfl
    · split
      · next same =>
          cases fits with
          | opens fresh _ _ => exact absurd same.symm (fresh x mem)
          | advances current advances =>
            rw [same, ih mem] at current
            cases current
            exact absurd advances.started terminal
      · exact ih mem
    · rw [if_pos rfl]

theorem LeaseLog.terminal_unique (memX : x ∈ log) (memY : y ∈ log) (same : x.subject = y.subject)
    (terminalX : x.status ≠ .started) (terminalY : y.status ≠ .started) : x = y := by
  have currentX := h.terminal_current memX terminalX
  have currentY := h.terminal_current memY terminalY
  rw [same, currentY] at currentX
  cases currentX
  rfl

theorem LeaseLog.revision_le (mem : x ∈ log) (current : latestOf x.subject log = some y) :
    x = y ∨ x.revision < y.revision := by
  induction h generalizing y with
  | nil => cases mem
  | @snoc log r _ fits ih =>
    rw [latestOf, KeyedLog.latest_append] at current
    rw [List.mem_append, List.mem_singleton] at mem
    rcases mem with mem | rfl
    · split at current
      · next same =>
          cases current
          cases fits with
          | opens fresh _ _ => exact absurd same.symm (fresh x mem)
          | @advances z before advances =>
            rw [same] at before
            have step := advances.next_revision
            right
            rcases ih mem before with rfl | lower
            · omega
            · omega
      · exact ih mem current
    · rw [if_pos rfl] at current
      cases current
      exact Or.inl rfl

theorem LeaseLog.revision_pos (mem : x ∈ log) : 0 < x.revision := by
  induction h with
  | nil => cases mem
  | @snoc log r _ fits ih =>
    rw [List.mem_append, List.mem_singleton] at mem
    rcases mem with mem | rfl
    · exact ih mem
    · cases fits with
      | opens _ opens _ => rw [opens.first]; omega
      | advances _ advances => rw [advances.next_revision]; omega

theorem LeaseLog.opens_of_first (mem : x ∈ log) (first : x.revision = 1) : x.Opens := by
  induction h with
  | nil => cases mem
  | @snoc log r h fits ih =>
    rw [List.mem_append, List.mem_singleton] at mem
    rcases mem with mem | rfl
    · exact ih mem
    · cases fits with
      | opens _ opens _ => exact opens
      | advances current advances =>
        have positive := h.revision_pos (KeyedLog.mem_of_latest current).1
        have revision := advances.next_revision
        omega

theorem LeaseLog.opened_once (s : ProviderRequestSubject) :
    log.countP (fun r => r.subject = s ∧ r.revision = 1) ≤ 1 := by
  induction h with
  | nil => simp
  | @snoc log r h fits ih =>
    rw [List.countP_append, List.countP_singleton]
    cases fits with
    | opens fresh _ _ =>
      by_cases same : r.subject = s
      · have none : log.countP (fun r => r.subject = s ∧ r.revision = 1) = 0 := by
          rw [List.countP_eq_zero]
          intro x mem
          simpa [← same] using fun eq => absurd eq (fresh x mem)
        split <;> omega
      · simpa [same] using ih
    | advances current advances =>
      have positive := h.revision_pos (KeyedLog.mem_of_latest current).1
      have revision := advances.next_revision
      have later : ¬ (r.subject = s ∧ r.revision = 1) := by omega
      simpa [later] using ih

end

/-- The records of a subject, one after the other. -/
structure History (records : List ProviderRequestLease) : Prop where
  opens : ∀ r, records.head? = some r → r.Opens
  chain : records.IsChain Advances

theorem LeaseLog.history (h : LeaseLog log) (s : ProviderRequestSubject) :
    History (KeyedLog.records ProviderRequestLease.subject s log) := by
  induction h with
  | nil =>
    constructor
    · intro r isHead
      cases isHead
    · exact List.isChain_nil
  | @snoc log r _ fits ih =>
    rw [KeyedLog.records_append]
    split
    · next same =>
        cases fits with
        | opens fresh opens _ =>
          have none : KeyedLog.records ProviderRequestLease.subject s log = [] := by
            rw [← same]
            exact List.getLast?_eq_none_iff.mp (KeyedLog.latest_eq_none.mpr fresh)
          rw [none]
          constructor
          · rintro _ ⟨⟩
            exact opens
          · exact List.isChain_singleton _
        | @advances x current advances =>
          rw [same] at current
          constructor
          · intro y isHead
            apply ih.opens y
            cases head : (KeyedLog.records ProviderRequestLease.subject s log).head? with
            | none =>
              rw [latestOf, KeyedLog.latest, List.head?_eq_none_iff.mp head] at current
              cases current
            | some z => simpa [head] using isHead
          · rw [List.isChain_append]
            refine ⟨ih.chain, List.isChain_singleton _, ?_⟩
            rintro y last z ⟨⟩
            obtain rfl : x = y := by
              have same := current.symm.trans (Option.mem_def.mp last)
              simpa using same
            exact advances
    · exact ih

/-! ### The line of a call -/

/-- The subjects of its call that failed before `s` could be claimed: its lower ordinals, and the
primary route under a fallback. -/
structure Line (log : List ProviderRequestLease) (s : ProviderRequestSubject) : Prop where
  lower : ∀ n < s.retryOrdinal, Spent log (s.reroute s.route n) .transient
  primary : s.route = .openaiPreviousResponseFallback →
    Spent log (s.reroute .primary 0) .previousResponseFallback

theorem Line.append (h : Line log s) : Line (log ++ [r]) s := by
  constructor
  · intro n lt
    exact (h.lower n lt).append
  · intro route
    exact (h.primary route).append

theorem Admitted.line (h : Admitted log s) (lines : ∀ x ∈ log, Line log x.subject) :
    Line log s := by
  cases h with
  | initial route ordinal =>
    constructor
    · intro n lt
      omega
    · intro fallback
      rw [route] at fallback
      cases fallback
  | fallback route ordinal spent =>
    constructor
    · intro n lt
      omega
    · intro _
      exact spent
  | @retry n ordinal spent =>
    obtain ⟨x, mem, same, failed⟩ := spent
    have line := lines x mem
    rw [same] at line
    constructor
    · intro m lt
      rcases Nat.lt_or_ge m n with below | above
      · exact line.lower m below
      · obtain rfl : m = n := by omega
        exact ⟨x, mem, same, failed⟩
    · intro route
      exact line.primary route

theorem LeaseLog.line (h : LeaseLog log) (mem : x ∈ log) : Line log x.subject := by
  induction h generalizing x with
  | nil => cases mem
  | @snoc log r _ fits ih =>
    rw [List.mem_append, List.mem_singleton] at mem
    rcases mem with mem | rfl
    · exact (ih mem).append
    · cases fits with
      | opens _ _ admitted => exact (admitted.line fun x mem => ih mem).append
      | advances current advances =>
        rw [advances.subject_eq]
        exact (ih (KeyedLog.mem_of_latest current).1).append

theorem ProviderRequestSubject.SameCall.reroute_eq (h : SameCall s t) (route : ProviderRoute) (n : Nat) :
    s.reroute route n = t.reroute route n := by
  simp only [reroute, h.attempt, h.iteration, h.envelopeSha256]

theorem LeaseLog.failedAs_of_spent (h : LeaseLog log) (spent : Spent log s c) (mem : x ∈ log)
    (same : x.subject = s) (terminal : x.status ≠ .started) : x.FailedAs c := by
  obtain ⟨y, memY, sameY, failed⟩ := spent
  have started : y.status ≠ .started := by simp [failed.failed]
  rw [h.terminal_unique mem memY (same.trans sameY.symm) terminal started]
  exact failed

theorem LeaseLog.spent_unique (h : LeaseLog log) {d : FailureClassification}
    (first : Spent log s c) (second : Spent log s d) : c = d := by
  obtain ⟨x, mem, same, failed⟩ := first
  have other := h.failedAs_of_spent second mem same (by simp [failed.failed])
  have classified := failed.classified.symm.trans other.classified
  simpa using classified

/-- Only a silent retryable failure of an earlier subject is found beside a subject that may be
claimed. -/
theorem LeaseLog.failedAs_of_admitted (h : LeaseLog log) (admitted : Admitted log s)
    (fresh : ∀ y ∈ log, y.subject ≠ s) (mem : x ∈ log) (call : SameCall x.subject s)
    (terminal : x.status ≠ .started) : ∃ c, x.FailedAs c := by
  have own : Line log s := admitted.line fun y mem => h.line mem
  have line : Line log x.subject := h.line mem
  have atX : x.subject = s.reroute x.subject.route x.subject.retryOrdinal := by
    rw [← call.reroute_eq]
    rfl
  by_cases route : x.subject.route = s.route
  · rw [route] at atX
    rcases Nat.lt_trichotomy x.subject.retryOrdinal s.retryOrdinal with lt | eq | gt
    · exact ⟨_, h.failedAs_of_spent (own.lower _ lt) mem atX terminal⟩
    · rw [eq] at atX
      exact absurd atX (fresh x mem)
    · -- a later ordinal is only started after this one
      obtain ⟨y, memY, same, -⟩ := line.lower _ gt
      rw [call.reroute_eq, route] at same
      exact absurd same (fresh y memY)
  · cases routeX : x.subject.route with
    | primary =>
      have routeS : s.route = .openaiPreviousResponseFallback := by
        cases routeS : s.route with
        | primary => exact absurd (routeX.trans routeS.symm) route
        | openaiPreviousResponseFallback => rfl
      have spent := own.primary routeS
      rw [routeX] at atX
      rcases Nat.eq_zero_or_pos x.subject.retryOrdinal with zero | pos
      · rw [zero] at atX
        exact ⟨_, h.failedAs_of_spent spent mem atX terminal⟩
      · -- the primary route is left before its first retry
        have retried := line.lower 0 pos
        rw [routeX, call.reroute_eq] at retried
        cases h.spent_unique retried spent
    | openaiPreviousResponseFallback =>
      have routeS : s.route = .primary := by
        cases routeS : s.route with
        | primary => rfl
        | openaiPreviousResponseFallback => exact absurd (routeX.trans routeS.symm) route
      have spent := line.primary routeX
      rw [call.reroute_eq] at spent
      rcases Nat.eq_zero_or_pos s.retryOrdinal with zero | pos
      · obtain ⟨y, memY, same, -⟩ := spent
        rw [← routeS, ← zero] at same
        exact absurd same (fresh y memY)
      · have retried := own.lower 0 pos
        rw [routeS] at retried
        cases h.spent_unique retried spent

/-- A spent subject stands as that failure. -/
theorem LeaseLog.current_of_spent (h : LeaseLog log) (spent : Spent log s c) :
    ∃ x, latestOf s log = some x ∧ x.FailedAs c := by
  obtain ⟨x, mem, rfl, failed⟩ := spent
  exact ⟨x, h.terminal_current mem (by simp [failed.failed]), failed⟩

end Logs

end Unchain.Providers
