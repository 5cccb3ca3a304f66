import Rollout.Proofs.Abi.Parameters
import Rollout.Proofs.Consent

/-!
# Showing what will be sent

Where transactions are not signed without asking, the arguments of a constructor are shown before the
first question, and the second question is asked if the zero address is among them. If no two arguments
are called the same, each has its line, in their order, and none of them is kept from the second
question; if two are, lines are missing (`Client.deploy_shows_arguments`). That they are called the same
is up to the interface: an input may be called as the argument at another position would be without a
name (`Client.not_every_argument_shown`).
-/

namespace Rollout.Client

open Rollout.Action Consent

variable {s : Session} {contract : Contract} {interface : Value} {bytecode : Octets}
  {arguments : List Value} {parameters : Abi.Parameters}

/-- The session in which the creation of a contract is told of, its parameters are shown and the first
question is asked. -/
def opened (contract : Contract) (parameters : Abi.Parameters) (s : Session) : Session :=
  prompted ("Deploy " ++ contract.artifact) (listed contract parameters (announced contract s))

/-- How a creation shows parameters and asks, once or, where the parameters are doubtful, twice. -/
structure Informs (contract : Contract) (interface : Value) (bytecode : Octets)
    (arguments : List Value) (parameters : Abi.Parameters) (doubtful : Prop) (s : Session) :
    Prop where
  /-- The input ends where the first answer is needed. -/
  ended : firstLine? s.input = none →
    deploy contract interface bytecode arguments s =
      .error .endOfInput (opened contract parameters s)
  /-- The first answer declines. -/
  refused : ∀ line rest, firstLine? s.input = some (line, rest) → declines line = true →
    deploy contract interface bytecode arguments s =
      .error .refusal { opened contract parameters s with
        input := rest
        notices := (opened contract parameters s).notices ++ "Aborting deployment!\n" }
  /-- The first answer does not decline, and the second question is asked. -/
  doubted : ∀ line rest, firstLine? s.input = some (line, rest) → declines line = false →
    doubtful → deploy contract interface bytecode arguments s =
      (do
        ask "Zero Address detected for deployment parameter; Continue?"
        proceed contract interface bytecode arguments)
        { opened contract parameters s with input := rest }
  /-- The first answer does not decline, and there is no second question. -/
  granted : ∀ line rest, firstLine? s.input = some (line, rest) → declines line = false →
    ¬ doubtful → deploy contract interface bytecode arguments s =
      proceed contract interface bytecode arguments
        { opened contract parameters s with input := rest }

/-- Whatever the parameters are that are shown, the second question is asked just if one of them is the
zero address. -/
theorem informs_of_parameters (contract : Contract) (bytecode : Octets)
    (hasks : s.client.autosign = false)
    (hparameters : Abi.constructorParameters interface arguments = .ok parameters) :
    Informs contract interface bytecode arguments parameters
      (∃ parameter ∈ parameters, Address.ofValue parameter.2 = .ok .zero) s := by
  have hsigns : (announced contract s).client.autosign = false := hasks
  have hdeploy : deploy contract interface bytecode arguments s =
      (askAll (questions contract.artifact parameters) >>= fun _ =>
        proceed contract interface bytecode arguments)
          (listed contract parameters (announced contract s)) := by
    rw [deploy_eq_preface]
    refine bind_eq_bind ?_
    rw [preface_eq, consent_of_ok contract hsigns hparameters]
  have hnext : deploy contract interface bytecode arguments s =
      (ask ("Deploy " ++ contract.artifact) >>= fun _ =>
        askAll (questions contract.artifact parameters).tail >>= fun _ =>
          proceed contract interface bytecode arguments)
            (listed contract parameters (announced contract s)) := by
    rw [hdeploy, questions, askAll, bind_assoc, List.tail_cons]
  have hinput : (listed contract parameters (announced contract s)).input = s.input := rfl
  refine ⟨?ended, ?refused, ?doubted, ?granted⟩
  case ended =>
    intro hline
    rw [hnext, bind_of_error (ask_of_none (hinput ▸ hline)), opened]
  case refused =>
    intro line rest hline hno
    rw [hnext, bind_of_error (ask_of_declines (hinput ▸ hline) hno)]
    rfl
  case doubted =>
    intro line rest hline hyes hzero
    rw [hnext, bind_of_ok (ask_of_consents (hinput ▸ hline) hyes), questions,
      if_pos (any_isZeroValue_iff.2 hzero), List.tail_cons, askAll, askAll, bind_assoc]
    rfl
  case granted =>
    intro line rest hline hyes hzero
    rw [hnext, bind_of_ok (ask_of_consents (hinput ▸ hline) hyes), questions,
      if_neg fun h => hzero (any_isZeroValue_iff.1 h), List.tail_cons, askAll]
    rfl

/-- The zero address is among the parameters just if it is among the arguments. -/
theorem exists_zero_labelled_iff (inputs : List Fields) (arguments : List Value) :
    (∃ parameter ∈ Abi.labelled inputs arguments, Address.ofValue parameter.2 = .ok .zero) ↔
      ∃ argument ∈ arguments, Address.ofValue argument = .ok .zero := by
  have hvalues : (Abi.labelled inputs arguments).map Prod.snd =
      arguments.map Abi.parameterValue := by
    have hsnd : ((Abi.labels inputs arguments).zip arguments).map Prod.snd = arguments :=
      List.map_snd_zip (by simp [Abi.labels, Abi.labelsFrom])
    rw [Abi.labelled, List.map_map]
    calc ((Abi.labels inputs arguments).zip arguments).map (Abi.parameterValue ∘ Prod.snd)
        = (((Abi.labels inputs arguments).zip arguments).map Prod.snd).map Abi.parameterValue :=
          (List.map_map).symm
      _ = arguments.map Abi.parameterValue := by rw [hsnd]
  have hmem : (∃ parameter ∈ Abi.labelled inputs arguments,
      Address.ofValue parameter.2 = .ok .zero) ↔
        ∃ value ∈ (Abi.labelled inputs arguments).map Prod.snd, Address.ofValue value = .ok .zero := by
    simp only [List.mem_map, exists_exists_and_eq_and]
  rw [hmem, hvalues]
  simp only [List.mem_map, exists_exists_and_eq_and, Abi.ofValue_parameterValue]

/-- **Every argument is shown** where no two are called the same, one line for each and in their order,
and the second question is asked just if one of them stands for the zero address. Where two arguments are
called the same, fewer parameters are shown than there are arguments. -/
theorem deploy_shows_arguments {inputs : List Fields} (h : Abi.Constructs interface inputs)
    (contract : Contract) (bytecode : Octets) (arguments : List Value)
    (hasks : s.client.autosign = false) :
    ((Abi.labels inputs arguments).Nodup →
      Informs contract interface bytecode arguments (Abi.labelled inputs arguments)
        (∃ argument ∈ arguments, Address.ofValue argument = .ok .zero) s) ∧
    (¬ (Abi.labels inputs arguments).Nodup →
      ∃ parameters : Abi.Parameters, parameters.length < arguments.length ∧
        Informs contract interface bytecode arguments parameters
          (∃ parameter ∈ parameters, Address.ofValue parameter.2 = .ok .zero) s) := by
  obtain ⟨parameters, hparameters, hall, hfewer⟩ := h.exists_parameters arguments
  have hinforms := informs_of_parameters contract bytecode hasks hparameters
  refine ⟨fun hnodup => ?_, fun hnodup => ⟨parameters, hfewer hnodup, hinforms⟩⟩
  rw [hall hnodup, propext (exists_zero_labelled_iff inputs arguments)] at hinforms
  exact hinforms

/-- An interface with nothing but a constructor, whose inputs are called by these names. -/
def taking (names : List String) : Value :=
  .list [.record [("type", .text "constructor"),
    ("inputs", .list (names.map fun name => .record [("name", .text name)]))]]

theorem constructs_taking (names : List String) :
    Abi.Constructs (taking names) (names.map fun name => [("name", .text name)]) := by
  refine ⟨⟨[_], rfl, ?_⟩, ?_⟩
  · rw [List.map_map]
    rfl
  · intro input hinput name hname
    obtain ⟨s, -, rfl⟩ := List.mem_map.1 hinput
    exact .inr ⟨s, (Option.some.inj hname).symm⟩

/-- A session in which nothing is signed without asking, with nothing to read. -/
def unattended : Session := { client := { autosign := false } }

/-- The arguments of a proxy are both shown, and those of inputs called alike are not. -/
theorem deploy_shows_implementation :
    Abi.Constructs (taking ["implementation", "_data"])
      [[("name", .text "implementation")], [("name", .text "_data")]] ∧
    unattended.client.autosign = false ∧
    (Abi.labels [[("name", .text "implementation")], [("name", .text "_data")]]
      [.octets (List.replicate 20 0), .octets [1]]).Nodup ∧
    Informs .lightClientProxy (taking ["implementation", "_data"]) []
      [.octets (List.replicate 20 0), .octets [1]]
      (Abi.labelled [[("name", .text "implementation")], [("name", .text "_data")]]
        [.octets (List.replicate 20 0), .octets [1]])
      (∃ argument ∈ [.octets (List.replicate 20 0), .octets [1]], Address.ofValue argument = .ok .zero)
      unattended ∧
    ∃ parameters : Abi.Parameters, parameters.length < 2 ∧
      Informs .hotShot (taking ["arg1", ""]) [] [.octets (List.replicate 20 0), .octets [1]] parameters
        (∃ parameter ∈ parameters, Address.ofValue parameter.2 = .ok .zero) unattended :=
  ⟨constructs_taking _, rfl, by decide,
    (deploy_shows_arguments (constructs_taking ["implementation", "_data"]) .lightClientProxy [] _
      rfl).1 (by decide),
    (deploy_shows_arguments (constructs_taking ["arg1", ""]) .hotShot []
      [.octets (List.replicate 20 0), .octets [1]] rfl).2 (by decide)⟩

/-- Not every argument is shown: the first of two is hidden by the second if its input is called as an
argument at the second's position is. -/
theorem not_every_argument_shown : ¬ ∀ (interface : Value) (inputs : List Fields)
    (contract : Contract) (bytecode : Octets) (arguments : List Value) (s : Session),
    Abi.Constructs interface inputs → s.client.autosign = false →
      Informs contract interface bytecode arguments (Abi.labelled inputs arguments)
        (∃ argument ∈ arguments, Address.ofValue argument = .ok .zero) s := by
  intro h
  have hclaimed := (h _ _ .hotShot [] [.octets (List.replicate 20 0), .octets [1]] unattended
    (constructs_taking ["arg1", ""]) rfl).ended rfl
  have hparameters : Abi.constructorParameters (taking ["arg1", ""])
      [.octets (List.replicate 20 0), .octets [1]] = .ok [(.text "arg1", .text "0x01")] := by rfl
  have hended := (informs_of_parameters .hotShot [] (s := unattended) rfl hparameters).ended rfl
  rw [hended] at hclaimed
  have hnotices := congrArg Session.notices (EStateM.Result.error.inj hclaimed).2
  have hlisting := (String.append_right_inj _).1 ((String.append_left_inj _).1 hnotices)
  revert hlisting
  decide

end Rollout.Client
