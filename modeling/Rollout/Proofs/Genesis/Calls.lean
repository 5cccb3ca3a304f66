import Rollout.Proofs.Action

/-!
# Calls for the genesis state

The genesis state is asked for until it is known, and no longer (`asksUntilKnown`). Until then each
call makes one request, and nothing is kept of an answer from which no genesis state is read; the
first state that is read is the answer to all later calls, which make no request.
-/

namespace Rollout.GenesisSource

open Rollout.Action

variable {s s' : Session} {count first : Nat} {known : Genesis}

/-- The session after a number of calls for the genesis state. -/
def afterCalls (s : Session) : Nat → Session
  | 0 => s
  | count + 1 => Action.genesis.after (afterCalls s count)

/-- What comes of a call after a number of others. -/
def outcome (s : Session) (count : Nat) : Except Fault Genesis :=
  Action.genesis.result (afterCalls s count)

/-- What the answer of the web to a request after a number of others is read as. -/
def reply (s : Session) (count : Nat) : Except Fault Genesis :=
  s.genesis.read { s.web with requests := s.web.requests + count }.answer

/-- The request that a call makes. -/
def inquiry (s : Session) : Deed := .access none (.request s.genesis.endpoint s.genesis.timeout)

/-- No call up to a number of them comes to a genesis state. -/
def AllFail (s : Session) (count : Nat) : Prop := ∀ k < count, ∃ fault, outcome s k = .error fault

/-- From one session to another a number of requests was made, and nothing was kept of their
answers. -/
def Waits (s s' : Session) (count : Nat) : Prop :=
  ∃ notices, s' = { s with
    notices
    deeds := s.deeds ++ List.replicate count (inquiry s)
    web.requests := s.web.requests + count }

theorem waits_zero (s : Session) : Waits s s 0 := by
  refine ⟨s.notices, ?_⟩
  rw [List.replicate_zero, List.append_nil]
  rfl

/-- One request more. -/
theorem Waits.asking (h : Waits s s' count) : Waits s (asking s') (count + 1) := by
  obtain ⟨notices, rfl⟩ := h
  have hdeeds : s.deeds ++ List.replicate (count + 1) (inquiry s) =
      s.deeds ++ List.replicate count (inquiry s) ++ [inquiry s] := by
    rw [List.replicate_succ', ← List.append_assoc]
  unfold Waits
  rw [hdeeds]
  exact ⟨_, rfl⟩

theorem Waits.genesis (h : Waits s s' count) : s'.genesis = s.genesis := by
  obtain ⟨notices, rfl⟩ := h
  rfl

theorem Waits.read (h : Waits s s' count) : s'.genesis.read s'.web.answer = reply s count := by
  obtain ⟨notices, rfl⟩ := h
  rfl

theorem Waits.asking_deeds (h : Waits s s' count) :
    (Action.asking s').deeds = s'.deeds ++ [inquiry s] := by
  obtain ⟨notices, rfl⟩ := h
  rfl

/-! ## One call -/

/-- A call after calls in vain makes one request more, and keeps the genesis state that is read from
the answer. -/
theorem Waits.call (hfetched : s.genesis.fetched = none) (h : Waits s s' count) :
    Action.genesis s' = match reply s count with
      | .ok known => .ok known { Action.asking s' with genesis.fetched := some known }
      | .error fault => .error fault (Action.asking s') := by
  have hnone : s'.genesis.fetched = none := by rw [h.genesis, hfetched]
  have hcall := genesis_of_none hnone
  rw [h.read] at hcall
  exact hcall

theorem Waits.result (hfetched : s.genesis.fetched = none) (h : Waits s s' count) :
    Action.genesis.result s' = reply s count := by
  have hnone : s'.genesis.fetched = none := by rw [h.genesis, hfetched]
  rw [genesis_result_of_none hnone, h.read]

/-! ## All calls -/

/-- While no call comes to a genesis state, each of them is one request. -/
theorem waits_of_allFail (hfetched : s.genesis.fetched = none) (h : AllFail s count) :
    Waits s (afterCalls s count) count := by
  induction count with
  | zero => exact waits_zero s
  | succ count ih =>
    have hwaits := ih fun k hk => h k (Nat.lt_succ_of_lt hk)
    obtain ⟨fault, hfault⟩ := h count (Nat.lt_succ_self count)
    rw [outcome, hwaits.result hfetched] at hfault
    have hcall := hwaits.call hfetched
    rw [hfault] at hcall
    rw [afterCalls, after_of_error hcall]
    exact hwaits.asking

/-- The first genesis state is kept with the request for it, and nothing is done after that. -/
theorem afterCalls_of_outcome (hfetched : s.genesis.fetched = none) (hfail : AllFail s first)
    (hfirst : outcome s first = .ok known) (hcount : first < count) : ∃ mid,
      Waits s mid (first + 1) ∧
        afterCalls s count = { mid with genesis.fetched := some known } := by
  induction count with
  | zero => cases hcount
  | succ count ih =>
    by_cases hlast : count = first
    · subst hlast
      have hwaits := waits_of_allFail hfetched hfail
      rw [outcome, hwaits.result hfetched] at hfirst
      have hcall := hwaits.call hfetched
      rw [hfirst] at hcall
      exact ⟨_, hwaits.asking, after_of_ok hcall⟩
    · obtain ⟨mid, hwaits, hafter⟩ := ih (by omega)
      refine ⟨mid, hwaits, ?_⟩
      rw [afterCalls, hafter]
      exact after_of_ok (genesis_of_some rfl)

/-- The genesis state is asked for until it is known. -/
structure AsksUntilKnown (s : Session) : Prop where
  /-- While no call came to a genesis state, the next one makes one request, and comes to what its
  answer is read as. -/
  asks : ∀ count, AllFail s count → outcome s count = reply s count ∧
    (afterCalls s (count + 1)).web.requests = (afterCalls s count).web.requests + 1 ∧
    (afterCalls s (count + 1)).deeds = (afterCalls s count).deeds ++ [inquiry s]
  /-- Calls in vain make their requests, and nothing else is left of them. -/
  fails : ∀ count, AllFail s count → Waits s (afterCalls s count) count
  /-- The first genesis state is kept, and nothing else of its answer. -/
  keeps : ∀ first known count, AllFail s first → outcome s first = .ok known → first < count →
    ∃ mid, Waits s mid (first + 1) ∧ afterCalls s count = { mid with genesis.fetched := some known }
  /-- Each later call comes to it and makes no request, whatever the web would answer. -/
  knows : ∀ first known count, AllFail s first → outcome s first = .ok known → first < count →
    outcome s count = .ok known ∧ afterCalls s (count + 1) = afterCalls s count ∧
    ∀ web, Action.genesis { afterCalls s count with web } =
      .ok known { afterCalls s count with web }

/-- **Asking until it is known.** However often the genesis state is called for, and whatever the
web answers, it is asked for until an answer gives it, and not again. -/
theorem asksUntilKnown (s : Session) (url : String) (timeout : Int) (nesting : Nat) :
    AsksUntilKnown { s with genesis := { url, timeout, nesting } } where
  asks count hfail := by
    have hwaits := waits_of_allFail rfl hfail
    have hcall := hwaits.call rfl
    refine ⟨hwaits.result rfl, ?_⟩
    rw [afterCalls]
    cases hreply : reply { s with genesis := { url, timeout, nesting } } count with
    | ok known =>
      rw [hreply] at hcall
      rw [after_of_ok hcall]
      exact ⟨rfl, hwaits.asking_deeds⟩
    | error fault =>
      rw [hreply] at hcall
      rw [after_of_error hcall]
      exact ⟨rfl, hwaits.asking_deeds⟩
  fails count hfail := waits_of_allFail rfl hfail
  keeps first known count hfail hfirst hcount := afterCalls_of_outcome rfl hfail hfirst hcount
  knows first known count hfail hfirst hcount := by
    obtain ⟨mid, -, hafter⟩ := afterCalls_of_outcome rfl hfail hfirst hcount
    have hknown : (afterCalls { s with genesis := { url, timeout, nesting } } count).genesis.fetched =
        some known := by rw [hafter]
    refine ⟨result_of_ok (genesis_of_some hknown), after_of_ok (genesis_of_some hknown), ?_⟩
    intro web
    exact genesis_of_some hknown

end Rollout.GenesisSource
