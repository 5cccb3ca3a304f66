import Rollout.Proofs.Registry.Log

/-!
# Agreement on addresses

All that is ever answered for a contract is one address, the one recorded in the end, and once it is
recorded the procedure of the contract is not called any more. If no procedure gets back to the
contract that it is run for, at most one call of a contract's procedure answers with an address.
-/

namespace Rollout.Registry.Command

variable {R : Session → Session → Prop} {allowed : Contract → Prop} {contract : Contract}
  {s s' : Session}

/-! ## Relations that commands keep to -/

mutual

/-- The contracts that a command resolves or records, in its procedure too. -/
def mentions : Command → List Contract
  | resolve _ contract steps _ _ => contract :: stepsMention steps
  | record contract _ => [contract]
  | _ => []

/-- The contracts that the commands of a procedure resolve or record. -/
def stepsMention : List Command → List Contract
  | [] => []
  | command :: rest => command.mentions ++ stepsMention rest

end

/-- A relation that holds across each thing that a command does with the registry for the contracts
that are allowed. -/
structure KeptBySteps (R : Session → Session → Prop) (allowed : Contract → Prop) : Prop where
  silent : ∀ {s s'}, s'.deeds = s.deeds → s'.registry = s.registry → R s s'
  finding : ∀ {contract address s}, allowed contract → R s (finding contract address s)
  opening : ∀ {contract s}, allowed contract → s.registry.get? contract = none →
    R s (opening contract s)
  answering : ∀ {contract s} (value : Value), allowed contract →
    R s { s with deeds := s.deeds ++ [.answered contract value] }
  recording : ∀ {contract} (value : Value), allowed contract →
    Action.Keeps R (recordValue contract value)

theorem KeptBySteps.settle [Action.Follows R] (h : KeptBySteps R allowed) (hc : allowed contract)
    (value : Value) : Action.Keeps R (settle contract value) := by
  refine Action.Keeps.bind (fun s => h.answering value hc) fun _ => ?_
  refine (h.recording value hc).bind fun address => ?_
  exact Action.Keeps.bind (fun s => h.silent rfl rfl) fun _ => Action.keeps_pure _

/-- What a resolution leaves if the contract has no address: its procedure is run, and what it
answers is settled. -/
theorem resolve_after_of_none {steps : List Command} {byTransaction : Bool} {fault : Option Fault}
    {answer : Value} (h : s.registry.get? contract = none) :
    ((resolve byTransaction contract steps fault answer).run).after s =
      ((runSteps steps >>= fun _ => conclude fault answer >>= settle contract).after
        (opening contract s)) := by
  rw [Action.after, run_resolve_of_none h, ← Action.bind_pure_after _ (fun a => Answer.address (some a)),
    bind_assoc]
  simp only [bind_assoc]
  rfl

mutual

/-- A relation that holds across each thing that a command does with the registry is kept to by
every command. -/
theorem KeptBySteps.run [Action.Follows R] (h : KeptBySteps R allowed) (command : Command)
    (hc : ∀ contract ∈ command.mentions, allowed contract) : Action.Keeps R command.run := by
  match command with
  | resolve byTransaction contract steps fault answer =>
    have hallowed : allowed contract := hc contract (by rw [mentions]; exact List.mem_cons_self)
    have hsteps := h.runSteps steps fun c hmem => hc c (by rw [mentions]; exact List.mem_cons_of_mem _ hmem)
    intro s
    cases hget : s.registry.get? contract with
    | some address =>
      rw [Action.after_of_ok (run_resolve_of_some hget)]
      exact h.finding hallowed
    | none =>
      rw [resolve_after_of_none hget]
      refine Action.Follows.trans (h.opening hallowed hget) ?_
      refine (hsteps.bind fun _ => Action.Keeps.bind (fun mid => ?_) (h.settle hallowed)) _
      rw [conclude_after]
      exact Action.Follows.refl mid
  | record contract value =>
    rw [Command.run]
    have hallowed : allowed contract := hc contract (by rw [mentions]; exact List.mem_cons_self)
    exact (h.recording value hallowed).bind fun _ => Action.keeps_pure _
  | get contract => exact fun s => Action.Follows.refl s
  | contains contract => exact fun s => Action.Follows.refl s
  | size => exact fun s => Action.Follows.refl s
  | predeployed => exact fun s => Action.Follows.refl s
  | entries => exact fun s => Action.Follows.refl s
  | write path => exact (write_keeps path).mono fun h' => h.silent h'.deeds_eq h'.registry_eq
  | read path => exact (read_keeps path).mono fun h' => h.silent h'.deeds_eq h'.registry_eq

theorem KeptBySteps.runSteps [Action.Follows R] (h : KeptBySteps R allowed) (steps : List Command)
    (hc : ∀ contract ∈ stepsMention steps, allowed contract) :
    Action.Keeps R (Command.runSteps steps) := by
  match steps with
  | [] => exact Action.keeps_pure ()
  | command :: rest =>
    rw [Command.runSteps]
    refine (h.run command fun c hmem => hc c ?_).bind fun result => ?_
    · rw [stepsMention]
      exact List.mem_append_left _ hmem
    · refine Action.Keeps.bind (fun s => h.silent rfl rfl) fun _ => h.runSteps rest fun c hmem => hc c ?_
      rw [stepsMention]
      exact List.mem_append_right _ hmem

end

/-! ## When procedures are called -/

/-- From one session to another, the procedure of a contract is called only while the contract has no
address, and it has one as soon as one is recorded. -/
def CalledWhileAbsent (contract : Contract) (s s' : Session) : Prop :=
  ∃ added, s'.deeds = s.deeds ++ added ∧
    (contract ∈ s'.registry.contracts ↔
      contract ∈ s.registry.contracts ∨ ∃ address, .recorded contract address ∈ added) ∧
    (contract ∈ s.registry.contracts → .called contract ∉ added) ∧
    ∀ before address after, added = before ++ .recorded contract address :: after →
      .called contract ∉ after

instance (contract : Contract) : Action.Follows (CalledWhileAbsent contract) where
  refl s := ⟨[], by simp, by simp, by simp, by simp⟩
  trans := by
    rintro s mid s' ⟨a, ha, hra, hka, hca⟩ ⟨b, hb, hrb, hkb, hcb⟩
    refine ⟨a ++ b, by rw [hb, ha, List.append_assoc], ?_, ?_, ?_⟩
    · rw [hrb, hra]
      simp only [List.mem_append, exists_or, or_assoc]
    · intro h hmem
      rcases List.mem_append.1 hmem with hmem | hmem
      · exact hka h hmem
      · exact hkb (hra.2 (Or.inl h)) hmem
    · intro before address after e
      rcases List.append_eq_append_iff.1 e with ⟨c, rfl, hb'⟩ | ⟨c, rfl, hc⟩
      · exact hcb c address after hb'
      · rcases List.cons_eq_append_iff.1 hc with ⟨rfl, hb'⟩ | ⟨c', rfl, rfl⟩
        · exact hcb [] address after hb'
        · intro hmem
          rcases List.mem_append.1 hmem with hmem | hmem
          · exact hca before address c' rfl hmem
          · exact hkb (hra.2 (Or.inr ⟨address, by simp⟩)) hmem

theorem calledWhileAbsent_of_deed {deed : Deed} (hdeeds : s'.deeds = s.deeds ++ [deed])
    (hregistry : s'.registry = s.registry) (hrecorded : ∀ address, deed ≠ .recorded contract address)
    (hcalled : contract ∈ s.registry.contracts → deed ≠ .called contract) :
    CalledWhileAbsent contract s s' := by
  refine ⟨[deed], hdeeds, ?_, ?_, ?_⟩
  · rw [hregistry]
    simp [fun address => (hrecorded address).symm]
  · intro h hmem
    exact hcalled h (List.mem_singleton.1 hmem).symm
  · intro before address after e
    rcases List.cons_eq_append_iff.1 e with ⟨-, h⟩ | ⟨c, rfl, h⟩
    · exact absurd (List.cons.inj h).1.symm (hrecorded address)
    · simp at h

theorem recordValue_calledWhileAbsent (other : Contract) (value : Value) :
    Action.Keeps (CalledWhileAbsent contract) (recordValue other value) := by
  refine recordValue_keeps fun s address next hrecord => ?_
  refine ⟨[.recorded other address], rfl, ?_, by simp, ?_⟩
  · rw [mem_contracts_of_insert? (record_eq_ok.1 hrecord).2]
    simp
  · intro before a after e
    rcases List.cons_eq_append_iff.1 e with ⟨-, h⟩ | ⟨c, rfl, h⟩
    · rw [(List.cons.inj h).2]
      simp
    · simp at h

theorem calledWhileAbsent_keptBySteps (contract : Contract) :
    KeptBySteps (CalledWhileAbsent contract) fun _ => True where
  silent hdeeds hregistry := ⟨[], by simp [hdeeds], by simp [hregistry], by simp, by simp⟩
  finding _ := calledWhileAbsent_of_deed rfl rfl (by simp) (by simp)
  opening _ absent := calledWhileAbsent_of_deed rfl rfl (by simp) fun hmem e => by
    cases e
    exact get?_eq_none_iff.1 absent hmem
  answering _ _ := calledWhileAbsent_of_deed rfl rfl (by simp) (by simp)
  recording value _ := recordValue_calledWhileAbsent _ value

/-! ## How often procedures answer with an address -/

/-- The deed that the procedure of a contract answers with an address. -/
def isAnswerFor (contract : Contract) : Deed → Bool
  | .answered other value => other = contract && (Address.read value).isOk
  | _ => false

/-- How often the procedure of a contract answers with an address. -/
def answersFor (contract : Contract) (deeds : List Deed) : Nat := deeds.countP (isAnswerFor contract)

/-- How many addresses a contract has in a session: one or none. -/
def known (contract : Contract) (s : Session) : Nat :=
  if s.registry.contains contract then 1 else 0

/-- Each answer with an address uses up the one address that a contract can get. -/
def AnsweredOnce (contract : Contract) (s s' : Session) : Prop :=
  ∃ added, s'.deeds = s.deeds ++ added ∧
    known contract s + answersFor contract added ≤ known contract s'

instance (contract : Contract) : Action.Follows (AnsweredOnce contract) where
  refl s := ⟨[], by simp, by simp [answersFor]⟩
  trans := by
    rintro s mid s' ⟨a, ha, hka⟩ ⟨b, hb, hkb⟩
    refine ⟨a ++ b, by rw [hb, ha, List.append_assoc], ?_⟩
    rw [answersFor, List.countP_append]
    rw [answersFor] at hka hkb
    omega

/-- From one session to another, nothing is done for a contract: its procedure does not answer, and
its address stays as it is. -/
def Untouched (contract : Contract) (s s' : Session) : Prop :=
  ∃ added, s'.deeds = s.deeds ++ added ∧ answersFor contract added = 0 ∧
    s'.registry.get? contract = s.registry.get? contract

instance (contract : Contract) : Action.Follows (Untouched contract) where
  refl s := ⟨[], by simp, rfl, rfl⟩
  trans := by
    rintro s mid s' ⟨a, ha, hna, hga⟩ ⟨b, hb, hnb, hgb⟩
    refine ⟨a ++ b, by rw [hb, ha, List.append_assoc], ?_, hgb.trans hga⟩
    rw [answersFor, List.countP_append]
    exact Nat.add_eq_zero_iff.2 ⟨hna, hnb⟩

theorem Untouched.answeredOnce (h : Untouched contract s s') : AnsweredOnce contract s s' := by
  obtain ⟨added, hdeeds, hnone, hget⟩ := h
  refine ⟨added, hdeeds, ?_⟩
  rw [hnone, known, known, Registry.contains, Registry.contains, hget]
  exact Nat.le_refl _

theorem untouched_of_deed {deed : Deed} (hdeeds : s'.deeds = s.deeds ++ [deed])
    (hregistry : s'.registry = s.registry) (hdeed : isAnswerFor contract deed = false) :
    Untouched contract s s' :=
  ⟨[deed], hdeeds, by simp [answersFor, hdeed], by rw [hregistry]⟩

theorem recordValue_untouched {other : Contract} (value : Value) (hne : other ≠ contract) :
    Action.Keeps (Untouched contract) (recordValue other value) := by
  refine recordValue_keeps fun s address next hrecord => ?_
  exact ⟨[.recorded other address], rfl, rfl,
    get?_insert?_other (record_eq_ok.1 hrecord).2 hne.symm⟩

/-- What is done for other contracts leaves a contract untouched. -/
theorem untouched_keptBySteps (contract : Contract) :
    KeptBySteps (Untouched contract) (· ≠ contract) where
  silent hdeeds hregistry := ⟨[], by simp [hdeeds], rfl, by rw [hregistry]⟩
  finding _ := untouched_of_deed rfl rfl rfl
  opening _ _ := untouched_of_deed rfl rfl rfl
  answering value hne := untouched_of_deed rfl rfl (by simp [isAnswerFor, hne])
  recording value hne := recordValue_untouched value hne

/-- Settling a contract that has no address uses up at most one answer. -/
theorem settle_answeredOnce {value : Value} (absent : s.registry.get? contract = none) :
    AnsweredOnce contract s ((settle contract value).after s) := by
  have hknown : known contract s = 0 := by simp [known, Registry.contains, absent]
  cases hrecord : s.registry.record contract value with
  | error fault =>
    rw [Action.after_of_error (settle_of_error hrecord)]
    refine ⟨[.answered contract value], rfl, ?_⟩
    -- without an address in place, only a value that stands for none can be refused
    have hread : (Address.read value).isOk = false := by
      cases hread : Address.read value with
      | error _ => rfl
      | ok address =>
        have hok := record_eq_ok.2 ⟨hread, insert?_of_none absent⟩
        rw [hrecord] at hok
        cases hok
    simp [answersFor, isAnswerFor, hread, hknown]
  | ok r =>
    obtain ⟨address, next⟩ := r
    rw [Action.after_of_ok (settle_of_ok hrecord)]
    refine ⟨[.answered contract value, .recorded contract address], rfl, ?_⟩
    have hcontains : next.contains contract = true :=
      contains_iff.2 (mem_contracts_of_get? (get?_insert?_same (record_eq_ok.1 hrecord).2))
    have hanswers : answersFor contract
        [.answered contract value, .recorded contract address] ≤ 1 := by
      rw [answersFor, List.countP_cons]
      have hlast : List.countP (isAnswerFor contract) [.recorded contract address] = 0 := rfl
      rw [hlast]
      split <;> omega
    rw [hknown, known, if_pos hcontains]
    omega

mutual

/-- No procedure in a command resolves or records the contract that it is run for, neither directly
nor through the procedures of the contracts that it resolves. -/
def SelfFree : Command → Prop
  | resolve _ contract steps _ _ => contract ∉ stepsMention steps ∧ StepsSelfFree steps
  | _ => True

/-- No procedure in the commands of a procedure gets back to the contract that it is run for. -/
def StepsSelfFree : List Command → Prop
  | [] => True
  | command :: rest => command.SelfFree ∧ StepsSelfFree rest

end

theorem recordValue_answeredOnce (value : Value) :
    Action.Keeps (AnsweredOnce contract) (recordValue contract value) := by
  refine recordValue_keeps fun s address next hrecord => ?_
  refine ⟨[.recorded contract address], rfl, ?_⟩
  have hcontains : next.contains contract = true :=
    contains_iff.2 (mem_contracts_of_get? (get?_insert?_same (record_eq_ok.1 hrecord).2))
  have hknown : known contract s ≤ 1 := by
    rw [known]
    split <;> omega
  have hanswers : answersFor contract [.recorded contract address] = 0 := rfl
  have hknown' : known contract { s with
      registry := next, deeds := s.deeds ++ [.recorded contract address] } = 1 := by
    rw [known, if_pos hcontains]
  rw [hanswers, hknown']
  exact hknown

mutual

/-- If no procedure gets back to the contract that it is run for, each answer with an address is the
one that its contract gets. -/
theorem SelfFree.run_keeps {command : Command} (h : command.SelfFree) (contract : Contract) :
    Action.Keeps (AnsweredOnce contract) command.run := by
  have hothers := untouched_keptBySteps contract
  match command with
  | resolve byTransaction other steps fault answer =>
    rw [SelfFree] at h
    intro s
    cases hget : s.registry.get? other with
    | some address =>
      rw [Action.after_of_ok (run_resolve_of_some hget)]
      have hfinding : Untouched contract s (finding other address s) :=
        untouched_of_deed rfl rfl rfl
      exact hfinding.answeredOnce
    | none =>
      rw [resolve_after_of_none hget]
      have hopening : Untouched contract s (opening other s) := untouched_of_deed rfl rfl rfl
      by_cases e : other = contract
      · subst e
        -- nothing is done for the contract until its own procedure answers
        have hsteps := hothers.runSteps steps (fun c hc e => h.1 (e ▸ hc)) (opening other s)
        refine Action.Follows.trans hopening.answeredOnce ?_
        refine Action.after_bind hsteps.answeredOnce fun _ mid hmid => ?_
        have hconclude := conclude_after fault answer mid
        refine Action.after_bind (by rw [hconclude]; exact Action.Follows.refl mid)
          fun value mid' hmid' => ?_
        rw [Action.after_of_ok hmid'] at hconclude
        rw [hconclude]
        rw [Action.after_of_ok hmid] at hsteps
        obtain ⟨-, -, -, hkept⟩ := Action.Follows.trans hopening hsteps
        exact settle_answeredOnce (hkept.trans hget)
      · refine Action.Follows.trans hopening.answeredOnce ?_
        refine (StepsSelfFree.runSteps_keeps h.2 contract).bind (fun _ => ?_) _
        refine Action.Keeps.bind (fun mid => ?_) fun value => ?_
        · rw [conclude_after]
          exact Action.Follows.refl mid
        · exact (hothers.settle e value).mono Untouched.answeredOnce
  | record other value =>
    rw [run]
    refine Action.Keeps.bind ?_ fun _ => Action.keeps_pure _
    by_cases e : other = contract
    · exact e ▸ recordValue_answeredOnce value
    · exact (recordValue_untouched value e).mono Untouched.answeredOnce
  | get _ => exact fun s => Action.Follows.refl s
  | contains _ => exact fun s => Action.Follows.refl s
  | size => exact fun s => Action.Follows.refl s
  | predeployed => exact fun s => Action.Follows.refl s
  | entries => exact fun s => Action.Follows.refl s
  | write path =>
    exact (write_keeps path).mono fun h' =>
      (hothers.silent h'.deeds_eq h'.registry_eq).answeredOnce
  | read path =>
    exact (read_keeps path).mono fun h' =>
      (hothers.silent h'.deeds_eq h'.registry_eq).answeredOnce

theorem StepsSelfFree.runSteps_keeps {steps : List Command} (h : StepsSelfFree steps)
    (contract : Contract) : Action.Keeps (AnsweredOnce contract) (runSteps steps) := by
  match steps with
  | [] => exact Action.keeps_pure ()
  | command :: rest =>
    rw [StepsSelfFree] at h
    rw [runSteps]
    refine (h.1.run_keeps contract).bind fun result => ?_
    refine Action.Keeps.bind (fun s => ?_) fun _ => h.2.runSteps_keeps contract
    exact ((untouched_keptBySteps contract).silent rfl rfl).answeredOnce

end

/-! ## Runs -/

/-- The entries of the resolutions and records that commands complete, run one after the other, each
of them whether or not a fault ends the ones before it. -/
def eachCompleted : List Command → Session → List (Contract × Address)
  | [], _ => []
  | command :: rest, s => command.completed s ++ eachCompleted rest (command.run.after s)

theorem runEach_appends (commands : List Command) (s : Session) :
    s.registry.Appends (eachCompleted commands s) (runEach commands s).registry := by
  induction commands generalizing s with
  | nil => exact .nil s.registry
  | cons command rest ih => exact (run_appends command s).trans (ih (command.run.after s))

theorem runEach_keeps [Action.Follows R] {commands : List Command}
    (h : ∀ command ∈ commands, Action.Keeps R command.run) (s : Session) :
    R s (runEach commands s) := by
  induction commands generalizing s with
  | nil => exact Action.Follows.refl s
  | cons command rest ih =>
    refine Action.Follows.trans (h command List.mem_cons_self s) ?_
    exact ih (fun other hmem => h other (List.mem_cons_of_mem command hmem)) _

/-- What a run does for the contracts, given the deeds that it adds. -/
structure Agreement (commands : List Command) (s : Session) (added : List Deed) : Prop where
  /-- All that is answered for a contract is the address that is recorded in the end. -/
  answers : ∀ entry ∈ eachCompleted commands s,
    (runEach commands s).registry.get? entry.1 = some entry.2
  /-- A contract has an address in the end if it had one or if one was recorded. -/
  recorded : ∀ contract, contract ∈ (runEach commands s).registry.contracts ↔
    contract ∈ s.registry.contracts ∨ ∃ address, .recorded contract address ∈ added
  /-- No procedure is called for a contract that had an address. -/
  supplied : ∀ contract ∈ s.registry.contracts, .called contract ∉ added
  /-- No procedure is called for a contract after its address was recorded. -/
  called : ∀ before contract address after,
    added = before ++ .recorded contract address :: after → .called contract ∉ after
  /-- At most one procedure of a contract answers with an address, if none gets back to the contract
  that it is run for. -/
  answered : (∀ command ∈ commands, command.SelfFree) → ∀ contract, answersFor contract added ≤ 1

/-- **The registry agrees with itself.** Whatever the commands of a run do, and wherever they fail,
there is one address for each contract, and each is deployed at most once. -/
theorem runEach_agreement (commands : List Command) (s : Session) :
    ∃ added, (runEach commands s).deeds = s.deeds ++ added ∧ Agreement commands s added := by
  have hcalled : ∀ contract, CalledWhileAbsent contract s (runEach commands s) := fun contract =>
    runEach_keeps (fun command _ => (calledWhileAbsent_keptBySteps contract).run command
      fun _ _ => trivial) s
  obtain ⟨added, hdeeds, -⟩ := hcalled .hotShot
  -- the deeds that are added are the same for each contract
  have hcalled' : ∀ contract, (contract ∈ (runEach commands s).registry.contracts ↔
        contract ∈ s.registry.contracts ∨ ∃ address, .recorded contract address ∈ added) ∧
      (contract ∈ s.registry.contracts → .called contract ∉ added) ∧
      ∀ before address after, added = before ++ .recorded contract address :: after →
        .called contract ∉ after := by
    intro contract
    obtain ⟨added', hdeeds', h⟩ := hcalled contract
    rwa [List.append_cancel_left (hdeeds.symm.trans hdeeds')]
  refine ⟨added, hdeeds, (runEach_appends commands s).agrees, fun contract => (hcalled' contract).1,
    fun contract => (hcalled' contract).2.1,
    fun before contract address after => (hcalled' contract).2.2 before address after, ?_⟩
  intro hfree contract
  obtain ⟨added', hdeeds', h⟩ :=
    runEach_keeps (fun command hmem => (hfree command hmem).run_keeps contract) s
  obtain rfl := List.append_cancel_left (hdeeds.symm.trans hdeeds')
  have hknown : known contract (runEach commands s) ≤ 1 := by
    rw [known]
    split <;> omega
  exact Nat.le_trans (Nat.le_add_left _ _) (Nat.le_trans h hknown)

end Rollout.Registry.Command
