import Rollout.Proofs.Registry.Resolve
import Rollout.Registry.Command

/-!
# The registry as a log

A command completes resolutions and records, those of its procedure before its own
(`Command.completed`). Whatever a command does and however it ends, it adds to the registry exactly
the contracts that it completes for the first time, in the order of their completion
(`Command.run_appends`): the registry is a log that is only ever added to.
-/

namespace Rollout.Registry

variable {registry next : Registry} {contract : Contract} {address : Address}

/-! ## First entries -/

/-- The entries of a log whose contracts are not known yet when they come. -/
def firstOf (known : List Contract) : List (Contract × Address) → List (Contract × Address)
  | [] => []
  | entry :: rest =>
    if entry.1 ∈ known then firstOf known rest
    else entry :: firstOf (known ++ [entry.1]) rest

theorem firstOf_append (known : List Contract) (a b : List (Contract × Address)) :
    firstOf known (a ++ b) =
      firstOf known a ++ firstOf (known ++ (firstOf known a).map (·.1)) b := by
  induction a generalizing known with
  | nil => simp [firstOf]
  | cons entry rest ih =>
    simp only [List.cons_append, firstOf]
    split
    · exact ih known
    · rw [ih]
      simp [List.append_assoc]

/-- No contract has two first entries, and none that was known has one. -/
theorem nodup_append_firstOf {known : List Contract} (h : known.Nodup)
    (log : List (Contract × Address)) : (known ++ (firstOf known log).map (·.1)).Nodup := by
  induction log generalizing known with
  | nil => simpa [firstOf] using h
  | cons entry rest ih =>
    rw [firstOf]
    split
    · exact ih h
    · next unknown =>
      have hknown : (known ++ [entry.1]).Nodup := by
        refine List.nodup_append.2 ⟨h, by simp, ?_⟩
        intro a ha b hb e
        rw [List.mem_singleton.1 hb] at e
        exact unknown (e ▸ ha)
      have hrest := ih hknown
      rwa [List.append_assoc] at hrest

/-! ## Registries that grow out of another one -/

/-- A registry grows out of another one: entries are only added at the end, none for a contract that
has one, and the contracts supplied in advance stay the same. -/
structure GrowsTo (registry next : Registry) : Prop where
  addresses : registry.addresses <+: next.addresses
  predeployed : next.predeployed = registry.predeployed
  nodup : registry.contracts.Nodup → next.contracts.Nodup

theorem GrowsTo.refl (registry : Registry) : registry.GrowsTo registry :=
  ⟨List.prefix_rfl, rfl, id⟩

theorem GrowsTo.trans {a b c : Registry} (hab : a.GrowsTo b) (hbc : b.GrowsTo c) : a.GrowsTo c :=
  ⟨hab.addresses.trans hbc.addresses, hbc.predeployed.trans hab.predeployed,
    fun h => hbc.nodup (hab.nodup h)⟩

theorem get?_of_prefix (h : registry.addresses <+: next.addresses)
    (hget : registry.get? contract = some address) : next.get? contract = some address := by
  obtain ⟨added, e⟩ := h
  rw [Registry.get?] at hget ⊢
  rw [← e, List.lookup_append, hget]
  rfl

theorem GrowsTo.get? (h : registry.GrowsTo next) (hget : registry.get? contract = some address) :
    next.get? contract = some address :=
  get?_of_prefix h.addresses hget

/-! ## Registries to which a log is added -/

/-- A registry is another one with the first entries of a log added at its end; it agrees with all
entries of the log. -/
structure Appends (registry : Registry) (log : List (Contract × Address)) (next : Registry) :
    Prop where
  addresses : next.addresses = registry.addresses ++ firstOf registry.contracts log
  agrees : ∀ entry ∈ log, next.get? entry.1 = some entry.2
  predeployed : next.predeployed = registry.predeployed

theorem Appends.growsTo {log : List (Contract × Address)} (h : registry.Appends log next) :
    registry.GrowsTo next where
  addresses := h.addresses ▸ List.prefix_append _ _
  predeployed := h.predeployed
  nodup hnodup := by
    rw [Registry.contracts, h.addresses, List.map_append]
    exact nodup_append_firstOf hnodup log

theorem Appends.nil (registry : Registry) : registry.Appends [] registry :=
  ⟨by simp [firstOf], by simp, rfl⟩

theorem Appends.trans {a b c : Registry} {log log' : List (Contract × Address)}
    (hab : a.Appends log b) (hbc : b.Appends log' c) : a.Appends (log ++ log') c := by
  refine ⟨?_, ?_, hbc.predeployed.trans hab.predeployed⟩
  · have hcontracts : b.contracts = a.contracts ++ (firstOf a.contracts log).map (·.1) := by
      rw [contracts, hab.addresses, List.map_append, contracts]
    rw [hbc.addresses, hab.addresses, hcontracts, firstOf_append, List.append_assoc]
  · intro entry hentry
    rcases List.mem_append.1 hentry with h | h
    · exact hbc.growsTo.get? (hab.agrees entry h)
    · exact hbc.agrees entry h

/-- An entry that the registry holds already adds nothing. -/
theorem Appends.known (h : registry.get? contract = some address) :
    registry.Appends [(contract, address)] registry :=
  ⟨by rw [firstOf, if_pos (mem_contracts_of_get? h), firstOf, List.append_nil], by simpa using h,
    rfl⟩

/-- Inserting an address adds the entry if it is the first one of its contract. -/
theorem Appends.insert? (h : registry.insert? contract address = some next) :
    registry.Appends [(contract, address)] next := by
  have hget := get?_insert?_same h
  rcases insert?_cases h with ⟨absent, rfl⟩ | ⟨present, rfl⟩
  · exact ⟨by rw [firstOf, if_neg (get?_eq_none_iff.1 absent), firstOf], by simpa using hget, rfl⟩
  · exact .known present

/-- A registry of supplied addresses has one entry for each contract. -/
theorem recordAll_growsTo {supply : Supply} (h : registry.recordAll supply = .ok next) :
    registry.GrowsTo next := by
  induction supply generalizing registry with
  | nil =>
    rw [recordAll] at h
    exact Except.ok.inj h ▸ .refl registry
  | cons entry rest ih =>
    obtain ⟨contract, value⟩ := entry
    rw [recordAll] at h
    split at h
    · exact ih h
    · cases hrecord : registry.record contract value with
      | error fault => rw [hrecord] at h; exact absurd h (by simp [bind, Except.bind])
      | ok r =>
        obtain ⟨address, mid⟩ := r
        rw [hrecord] at h
        exact (Appends.insert? (record_eq_ok.1 hrecord).2).growsTo.trans (ih h)

theorem ofSupply_eq_ok {supply : Supply} (h : ofSupply supply = .ok registry) :
    registry.contracts.Nodup ∧ registry.predeployed = registry.contracts := by
  rw [ofSupply] at h
  cases hall : ({} : Registry).recordAll supply with
  | error fault => rw [hall] at h; exact absurd h (by simp [bind, Except.bind])
  | ok filled =>
    rw [hall] at h
    obtain rfl := Except.ok.inj h
    exact ⟨(recordAll_growsTo hall).nodup (by simp [contracts]), rfl⟩

/-! ## What commands complete -/

namespace Command

/-- The entry of a contract whose resolution or record is answered with an address. -/
def entryOf (contract : Contract) : EStateM.Result Fault Session Answer → List (Contract × Address)
  | .ok (.address (some address)) _ => [(contract, address)]
  | _ => []

mutual

/-- The entries of the resolutions and records that a command completes in a session, in the order of
their completion: those of its procedure, if it is run, before its own. -/
def completed : Command → Session → List (Contract × Address)
  | resolve byTransaction contract steps fault answer, s =>
    (if s.registry.contains contract then [] else stepsCompleted steps (opening contract s))
      ++ entryOf contract ((resolve byTransaction contract steps fault answer).run s)
  | record contract value, s => entryOf contract ((record contract value).run s)
  | _, _ => []

/-- The entries that the commands of a procedure complete, up to the first that a fault ends. -/
def stepsCompleted : List Command → Session → List (Contract × Address)
  | [], _ => []
  | command :: rest, s =>
    command.completed s ++
      match command.run s with
      | .ok answer mid => stepsCompleted rest ((command.complete answer).after mid)
      | .error _ _ => []

end

variable {s s' mid : Session} {command inner : Command} {steps rest : List Command}
  {byTransaction : Bool} {fault : Option Fault} {answer : Value}

/-! ## One step -/

theorem run_resolve_of_some (h : s.registry.get? contract = some address) :
    (resolve byTransaction contract steps fault answer).run s =
      .ok (.address (some address)) (finding contract address s) := by
  rw [run, Action.bind_of_ok (resolve_of_some h)]
  rfl

/-- A contract that has no address is resolved by its procedure: its commands, its own end, and the
record of its answer. -/
theorem run_resolve_of_none (h : s.registry.get? contract = none) :
    (resolve byTransaction contract steps fault answer).run s =
      (do
        runSteps steps
        let value ← conclude fault answer
        let address ← settle contract value
        return .address (some address) : Action Answer) (opening contract s) := by
  rw [run]
  have h' : ∀ g : Address → Action Answer, (Registry.resolve contract (do
      runSteps steps
      conclude fault answer) >>= g) s =
      (((do runSteps steps; conclude fault answer) >>= settle contract) >>= g) (opening contract s) := by
    intro g
    show EStateM.bind _ g s = EStateM.bind _ g _
    rw [EStateM.bind, resolve_of_none h, EStateM.bind]
  rw [h', bind_assoc, bind_assoc]

theorem conclude_after (fault : Option Fault) (answer : Value) (s : Session) :
    (conclude fault answer).after s = s := by
  cases fault <;> rfl

/-- Settling a contract adds at most the entry with which it ends. -/
theorem settle_appends (contract : Contract) (value : Value) (s : Session) :
    let answered : Action Answer := do return .address (some (← settle contract value))
    s.registry.Appends (entryOf contract (answered s)) (answered.after s).registry := by
  intro answered
  cases hrecord : s.registry.record contract value with
  | error fault =>
    have h : answered s = _ := Action.bind_of_error (settle_of_error hrecord)
    rw [Action.after_of_error h, h]
    exact .nil s.registry
  | ok r =>
    obtain ⟨address, next⟩ := r
    have h : answered s = _ := Action.bind_of_ok (settle_of_ok hrecord)
    rw [Action.after, h]
    exact .insert? (record_eq_ok.1 hrecord).2

theorem recordValue_appends (contract : Contract) (value : Value) (s : Session) :
    s.registry.Appends (entryOf contract ((record contract value).run s))
      (((record contract value).run).after s).registry := by
  rw [run]
  cases hrecord : s.registry.record contract value with
  | error fault =>
    have h := Action.bind_of_error (f := fun a => (pure (.address (some a)) : Action Answer))
      (recordValue_of_error hrecord)
    rw [Action.after_of_error h, h]
    exact .nil s.registry
  | ok r =>
    obtain ⟨address, next⟩ := r
    have h := Action.bind_of_ok (f := fun a => (pure (.address (some a)) : Action Answer))
      (recordValue_of_ok hrecord)
    rw [Action.after, h]
    exact .insert? (record_eq_ok.1 hrecord).2

theorem appends_of_eq (h : s'.registry = s.registry) : s.registry.Appends [] s'.registry :=
  h ▸ .nil s.registry

theorem write_keeps (path : Option File.Path) : Action.Keeps OnlyPublishes (write path).run := by
  rw [run]
  refine Action.keeps_get.bind fun session => ?_
  exact (publish_keeps session.registry.entries path).bind fun _ => Action.keeps_pure _

theorem read_keeps (path : String) : Action.Keeps OnlyPublishes (read path).run := by
  rw [run]
  refine Action.Keeps.bind (fun s => ?_) fun addresses => ?_
  · exact (load_after path s).symm ▸ Action.Follows.refl s
  · exact (Action.keeps_ofExcept _).bind fun registry => Action.keeps_pure _

mutual

/-- However a command ends, it adds to the registry exactly what it completes for the first time. -/
theorem run_appends (command : Command) (s : Session) :
    s.registry.Appends (command.completed s) (command.run.after s).registry := by
  match command with
  | resolve byTransaction contract steps fault answer =>
    rw [completed]
    cases hget : s.registry.get? contract with
    | some address =>
      have hrun : (resolve byTransaction contract steps fault answer).run s = _ :=
        run_resolve_of_some hget
      rw [Action.after_of_ok hrun, hrun, if_pos (contains_iff.2 (mem_contracts_of_get? hget))]
      exact .known hget
    | none =>
      have hrun : (resolve byTransaction contract steps fault answer).run s = _ :=
        run_resolve_of_none hget
      have hnot : ¬ s.registry.contains contract = true :=
        fun h => get?_eq_none_iff.1 hget (contains_iff.1 h)
      have hsteps := runSteps_appends steps (opening contract s)
      rw [if_neg hnot, Action.after, hrun]
      cases h : runSteps steps (opening contract s) with
      | error stop mid =>
        rw [Action.after_of_error h] at hsteps
        rw [Action.bind_of_error h]
        exact hsteps.trans (.nil _)
      | ok _ mid =>
        rw [Action.after_of_ok h] at hsteps
        rw [Action.bind_of_ok h]
        cases fault with
        | some stop => exact hsteps.trans (.nil _)
        | none =>
          exact hsteps.trans (settle_appends contract answer mid)
  | record contract value =>
    rw [completed]
    exact recordValue_appends contract value s
  | get contract => exact appends_of_eq rfl
  | contains contract => exact appends_of_eq rfl
  | size => exact appends_of_eq rfl
  | predeployed => exact appends_of_eq rfl
  | entries => exact appends_of_eq rfl
  | write path => exact appends_of_eq (write_keeps path s).registry_eq
  | read path => exact appends_of_eq (read_keeps path s).registry_eq

theorem runSteps_appends (steps : List Command) (s : Session) :
    s.registry.Appends (stepsCompleted steps s) ((runSteps steps).after s).registry := by
  match steps with
  | [] => exact appends_of_eq rfl
  | command :: rest =>
    have hcommand := run_appends command s
    rw [stepsCompleted, runSteps]
    cases h : command.run s with
    | error stop mid =>
      rw [Action.after_of_error h] at hcommand
      rw [Action.after_of_error (Action.bind_of_error h)]
      exact hcommand.trans (.nil _)
    | ok result mid =>
      rw [Action.after_of_ok h] at hcommand
      have hrest := runSteps_appends rest ((command.complete result).after mid)
      rw [Action.after, Action.bind_of_ok h]
      exact hcommand.trans hrest

end

/-! ## The steps of a run -/

mutual

/-- Running a command in one session runs another command in another session on the way. -/
inductive Runs : Command → Session → Command → Session → Prop where
  /-- A command is itself run. -/
  | self (command : Command) (s : Session) : Runs command s command s
  /-- The commands of the procedure of a contract are run if the contract has no address. -/
  | procedure {byTransaction : Bool} {contract : Contract} {steps : List Command}
      {fault : Option Fault} {answer : Value} {s at' : Session} {inner : Command}
      (absent : s.registry.get? contract = none)
      (run : StepsRun steps (opening contract s) inner at') :
      Runs (.resolve byTransaction contract steps fault answer) s inner at'

/-- Running the commands of a procedure runs another command on the way. -/
inductive StepsRun : List Command → Session → Command → Session → Prop where
  /-- The first command is run. -/
  | head {command inner : Command} {rest : List Command} {s at' : Session}
      (run : Runs command s inner at') : StepsRun (command :: rest) s inner at'
  /-- The later commands are run if the first one ends with a result. -/
  | tail {command inner : Command} {rest : List Command} {s mid at' : Session} {result : Answer}
      (first : command.run s = .ok result mid)
      (run : StepsRun rest ((command.complete result).after mid) inner at') :
      StepsRun (command :: rest) s inner at'

end

/-- The session after commands that are run one after the other, each of them whether or not a fault
ends the ones before it. -/
def runEach : List Command → Session → Session
  | [], s => s
  | command :: rest, s => runEach rest (command.run.after s)

/-- Running commands one after the other runs another command on the way. -/
inductive EachRuns : List Command → Session → Command → Session → Prop where
  /-- The first command is run. -/
  | head {command inner : Command} {rest : List Command} {s at' : Session}
      (run : Runs command s inner at') : EachRuns (command :: rest) s inner at'
  /-- The later commands are run, however the first one ends. -/
  | tail {command inner : Command} {rest : List Command} {s at' : Session}
      (run : EachRuns rest (command.run.after s) inner at') :
      EachRuns (command :: rest) s inner at'

theorem run_growsTo (command : Command) (s : Session) :
    s.registry.GrowsTo (command.run.after s).registry :=
  (run_appends command s).growsTo

mutual

theorem Runs.growsTo {command inner : Command} {s at' : Session} (h : Runs command s inner at') :
    s.registry.GrowsTo at'.registry := by
  match h with
  | .self _ _ => exact .refl s.registry
  | .procedure _ run => exact run.growsTo

theorem StepsRun.growsTo {steps : List Command} {inner : Command} {s at' : Session}
    (h : StepsRun steps s inner at') : s.registry.GrowsTo at'.registry := by
  match h with
  | .head run => exact run.growsTo
  | .tail first run => exact (Action.after_of_ok first ▸ run_growsTo _ s).trans run.growsTo

end

theorem EachRuns.growsTo {commands : List Command} {inner : Command} {s at' : Session}
    (h : EachRuns commands s inner at') : s.registry.GrowsTo at'.registry := by
  induction h with
  | head run => exact run.growsTo
  | tail _ ih => exact (run_growsTo _ _).trans ih

/-! ## Resolutions that fail -/

/-- Why the resolution of a contract without address fails in a session: a fault ends it, its
procedure ends with a fault of its own, the answer of the procedure stands for no address, or the
commands of the procedure have left the contract at another address. -/
def Fails (contract : Contract) (steps : List Command) (fault : Option Fault) (answer : Value)
    (s : Session) (result : EStateM.Result Fault Session Answer) : Prop :=
  (∃ stop at', result = .error stop at') ∨ fault ≠ none ∨
    (∀ address, Address.read answer ≠ .ok address) ∨
    ∃ address other, Address.read answer = .ok address ∧ other ≠ address ∧
      ((runSteps steps).after (opening contract s)).registry.get? contract = some other

/-- A resolution that fails leaves the registry as the commands of its procedure left it. -/
theorem Fails.registry_eq
    (failed : Fails contract steps fault answer s
      ((resolve byTransaction contract steps fault answer).run s))
    (absent : s.registry.get? contract = none) :
    (((resolve byTransaction contract steps fault answer).run).after s).registry =
      ((runSteps steps).after (opening contract s)).registry := by
  have hrun : (resolve byTransaction contract steps fault answer).run s = _ :=
    run_resolve_of_none absent
  unfold Fails at failed
  rw [hrun] at failed
  rw [Action.after, hrun]
  cases h : runSteps steps (opening contract s) with
  | error stop mid =>
    rw [Action.after_of_error h, Action.bind_of_error h]
  | ok _ mid =>
    rw [Action.after_of_ok h] at failed ⊢
    rw [Action.bind_of_ok h] at failed ⊢
    cases fault with
    | some stop => rfl
    | none =>
      rw [show conclude none answer = pure answer from rfl, pure_bind] at failed ⊢
      cases hrecord : mid.registry.record contract answer with
      | error stop => rw [Action.bind_of_error (settle_of_error hrecord)]
      | ok r =>
        obtain ⟨address, next⟩ := r
        rw [Action.bind_of_ok (settle_of_ok hrecord)] at failed
        obtain ⟨hread, hinsert⟩ := record_eq_ok.1 hrecord
        rcases failed with ⟨stop, at', e⟩ | hfault | hnone | ⟨a, other, ha, hne, hother⟩
        · cases e
        · exact absurd rfl hfault
        · exact absurd hread (hnone address)
        · obtain rfl : address = a := Except.ok.inj (hread.symm.trans ha)
          rcases insert?_cases hinsert with ⟨hget, -⟩ | ⟨hget, -⟩
          · rw [hget] at hother
            cases hother
          · rw [hget] at hother
            exact absurd (Option.some.inj hother).symm hne

/-- What a step of a run does to a registry, given the registry with which the run began. -/
structure LogStep (registry : Registry) (command : Command) (s : Session) : Prop where
  /-- The entries that the step completes for the first time are added, in their order. -/
  addresses : (command.run.after s).registry.addresses =
    s.registry.addresses ++ firstOf s.registry.contracts (command.completed s)
  /-- A resolution that fails adds nothing but what its procedure added. -/
  failed : ∀ byTransaction contract steps fault answer,
    command = .resolve byTransaction contract steps fault answer →
    s.registry.get? contract = none →
    Fails contract steps fault answer s (command.run s) →
    (command.run.after s).registry = ((runSteps steps).after (opening contract s)).registry
  /-- No contract occurs twice. -/
  nodup : (command.run.after s).registry.contracts.Nodup
  /-- A recorded address stays as it is. -/
  get? : ∀ contract address, s.registry.get? contract = some address →
    (command.run.after s).registry.get? contract = some address
  /-- The text of a recorded address is its own checksum form. -/
  text : ∀ entry ∈ (command.run.after s).registry.addresses,
    (Address.read (.text entry.2.text)).map Address.text = .ok entry.2.text
  /-- The contracts supplied in advance are those with which the run began. -/
  predeployed : (command.run.after s).registry.predeployed = registry.contracts

end Command

end Rollout.Registry
