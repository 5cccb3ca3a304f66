import Rollout.Proofs.Abi.Call

/-!
# Calls that are refused

Where the functions of an interface take parameters, a call is encoded for a function of its name that
takes the arguments, or refused as one that does not fit the contract (`ListsFunctions.ends`). Two faults
come out all the same. A call without arguments may be tried on a function that does not list its inputs,
which counts as one without inputs but cannot be gone through (`not_always_refused`); and the encoder
reads the inputs of events and errors of the name, whatever they are.
-/

namespace Rollout.Abi

variable {interface : Value} {entries functions : List Fields} {function : Fields} {name : String}
  {arguments : List Value} {contract : Option Contract} {octets : Octets} {fault : Fault}

/-- The functions of a name. -/
def functionsOf (entries : List Fields) (name : String) : List Fields :=
  entries.filter fun entry => hasType "function" entry && hasName name entry

/-- Octets are a call of a function: it takes as many inputs as there are arguments, of kinds that accept
them, and the octets start with its selector. -/
def IsCallOf (function : Fields) (name : String) (arguments : List Value) (octets : Octets) : Prop :=
  ∃ inputs texts, inputsOf function = .list inputs ∧ inputs.length = arguments.length ∧
    inputs.mapM kindText = .ok texts ∧
    (∀ text value, (text, value) ∈ texts.zip arguments → textAccepts text value = true) ∧
      octets.take 4 = selector (signature name texts)

/-- The inputs of an event or an error of a name cannot be read, with a fault. -/
def MisreadsOther (entries : List Fields) (name : String) (arguments : List Value) (fault : Fault) :
    Prop :=
  ∃ entry ∈ entries, (hasType "event" entry = true ∨ hasType "error" entry = true) ∧
    hasName name entry = true ∧ takes arguments entry = .error fault

/-- How the encoding of a call can end. -/
inductive Ends (contract : Option Contract) (entries : List Fields) (name : String)
    (arguments : List Value) : Except Fault Octets → Prop where
  | encoded {function : Fields} {octets : Octets} : function ∈ functionsOf entries name →
    IsCallOf function name arguments octets → Ends contract entries name arguments (.ok octets)
  | refused {cause : Cause} : cause.family = .initialization →
    Ends contract entries name arguments (.error (.deployment cause contract))
  | lacking : arguments = [] → LacksInputs (functionsOf entries name) →
    Ends contract entries name arguments (.error .fieldMissing)
  | misread {fault : Fault} : isRefusal fault = false → MisreadsOther entries name arguments fault →
    Ends contract entries name arguments (.error fault)

theorem isCallOf_of_takes {texts : List String} (h : TakesParameters function)
    (htexts : kindTexts function = .ok texts) (htakes : takes arguments function = .ok true)
    (hoctets : octets.take 4 = selector (signature name texts)) :
    IsCallOf function name arguments octets := by
  obtain ⟨inputs, hinputs, -⟩ := h
  have hkinds : inputs.mapM kindText = .ok texts := by
    unfold kindTexts at htexts
    rw [hinputs] at htexts
    exact htexts
  rw [takes_eq htexts] at htakes
  obtain ⟨hlength, haccept⟩ := Bool.and_eq_true_iff.1 (Except.ok.inj htakes)
  refine ⟨inputs, texts, hinputs, ?_, hkinds, ?_, hoctets⟩
  · rw [← length_of_mapM hkinds]
    exact beq_iff_eq.1 hlength
  · intro text value hmem
    exact List.all_eq_true.1 haccept (text, value) hmem

/-- Octets are put together for a function that takes the arguments, since nothing else of the name
may. -/
theorem isCallOf_of_callData? (h : TakesParameters function)
    (hfunction : function ∈ functionsOf entries name) (htakes : takes arguments function = .ok true)
    (hdata : callData? entries name arguments = .ok (some octets)) :
    IsCallOf function name arguments octets := by
  obtain ⟨hmem, hnamed⟩ := List.mem_filter.1 hfunction
  obtain ⟨htype, hname⟩ := Bool.and_eq_true_iff.1 hnamed
  have hcandidate : function ∈ entries.filter fun entry => isNamedKind entry && hasName name entry := by
    simp [hmem, isNamedKind_iff.2 (.inl htype), hname]
  unfold callData? at hdata
  obtain ⟨selectors, -, hdata⟩ := except_bind_eq_ok.1 hdata
  dsimp only at hdata
  split at hdata
  · cases hdata
  · obtain ⟨candidates, hcandidates, hdata⟩ := except_bind_eq_ok.1 hdata
    have hchosen := (mem_of_filterM hcandidates).2 ⟨hcandidate, htakes⟩
    split at hdata
    · next entry =>
      obtain rfl := List.mem_singleton.1 hchosen
      obtain ⟨texts, htexts, hdata⟩ := except_bind_eq_ok.1 hdata
      obtain ⟨encoded, -, hoctets⟩ := Option.map_eq_some_iff.1 (Except.ok.inj hdata)
      refine isCallOf_of_takes h htexts htakes ?_
      rw [← hoctets, ← length_selector (signature name texts), List.take_left]
    · cases hdata

theorem ListsFunctions.parameters_functionsOf (h : ListsFunctions interface entries) :
    ∀ function ∈ functionsOf entries name, TakesParameters function := by
  intro function hfunction
  obtain ⟨hmem, hnamed⟩ := List.mem_filter.1 hfunction
  exact h.parameters function hmem (Bool.and_eq_true_iff.1 hnamed).1

/-- The arguments are checked first, and then the octets are put together. -/
theorem ListsFunctions.encodeCall_eq (h : ListsFunctions interface entries) :
    encodeCall contract interface name arguments =
      (checkArguments contract (functionsOf entries name) arguments).bind fun _ =>
        match callData? entries name arguments with
        | .ok (some octets) => .ok octets
        | .ok none => .error (.deployment (.notEncodable name noReason) contract)
        | .error fault => .error
          (if isRefusal fault then .deployment (.notEncodable name noReason) contract else fault) := by
  unfold encodeCall
  rw [h.entriesOf_eq]
  rfl

theorem ListsFunctions.ends (h : ListsFunctions interface entries) (contract : Option Contract)
    (name : String) (arguments : List Value) :
    Ends contract entries name arguments (encodeCall contract interface name arguments) := by
  have hcheck : Checked contract (functionsOf entries name) arguments _ :=
    checked h.parameters_functionsOf contract arguments
  rw [h.encodeCall_eq]
  generalize checkArguments contract (functionsOf entries name) arguments = check at hcheck ⊢
  cases hcheck with
  | refused hfamily => exact .refused hfamily
  | lacking hempty hlacks => exact .lacking hempty hlacks
  | @taken function hfunction htakes =>
    simp only [Except.bind]
    cases hdata : callData? entries name arguments with
    | ok octets? =>
      cases octets? with
      | none => exact .refused rfl
      | some octets =>
        exact .encoded hfunction
          (isCallOf_of_callData? (h.parameters_functionsOf function hfunction) hfunction htakes hdata)
    | error fault =>
      by_cases hrefusal : isRefusal fault = true
      · simp only [hrefusal, if_true]
        exact .refused rfl
      · simp only [hrefusal]
        rcases h.callData?_eq_error hdata with rfl | hmisreads
        · exact absurd rfl hrefusal
        · exact .misread (by simpa using hrefusal) hmisreads

/-- A call of a legible interface is encoded, or it is said that it does not fit the contract. -/
theorem encodeCall_eq_error (h : Legible interface) (hsome : arguments ≠ [])
    (hcall : encodeCall contract interface name arguments = .error fault) :
    ∃ cause, fault = .deployment cause contract ∧ cause.family = .initialization := by
  obtain ⟨entries, hlists⟩ := h
  have hends := hlists.toListsFunctions.ends contract name arguments
  rw [hcall] at hends
  cases hends with
  | refused hfamily => exact ⟨_, rfl, hfamily⟩
  | lacking hempty _ => exact absurd hempty hsome
  | misread _ hmisreads =>
    obtain ⟨entry, hentry, -, -, htakes⟩ := hmisreads
    obtain ⟨b, hb⟩ := (hlists.parameters entry hentry).exists_takes arguments
    rw [htakes] at hb
    cases hb

/-- **Calls are encoded or refused**, unless they have no arguments and the first function that takes none
does not list its inputs, or the inputs of an event or an error of the name cannot be read. In the former
case the inputs are indeed missing. -/
theorem encodeCall_ends (h : ListsFunctions interface entries) (contract : Option Contract)
    (name : String) (arguments : List Value) :
    Ends contract entries name arguments (encodeCall contract interface name arguments) ∧
      (arguments = [] → LacksInputs (functionsOf entries name) →
        encodeCall contract interface name arguments = .error .fieldMissing) := by
  refine ⟨h.ends contract name arguments, ?_⟩
  rintro rfl hlacks
  rw [h.encodeCall_eq, checkArguments_of_lacksInputs h.parameters_functionsOf hlacks]
  rfl

/-- A function of no inputs that does not list them. -/
def unlisted : Fields := [("name", .text "f"), ("type", .text "function")]

/-- A function of one input. -/
def listed : Fields := [("name", .text "f"), ("type", .text "function"),
  ("inputs", .list [.record [("name", .text "a"), ("type", .text "uint8")]])]

theorem takesParameters_unlisted : TakesParameters unlisted := ⟨[], rfl, by simp⟩

theorem takesParameters_listed : TakesParameters listed := by
  refine ⟨_, rfl, ?_⟩
  intro input hinput
  obtain rfl := List.mem_singleton.1 hinput
  refine .plain rfl (by decide) ?_
  intro name hname
  exact ⟨"a", (Option.some.inj hname).symm⟩

/-- An overloaded name, called with an argument and without. -/
theorem encodeCall_ends_of_unlisted :
    let interface := Value.list [.record unlisted, .record listed]
    ListsFunctions interface [unlisted, listed] ∧
    Ends (some .lightClientProxy) [unlisted, listed] "f" [.integer 7]
      (encodeCall (some .lightClientProxy) interface "f" [.integer 7]) ∧
    LacksInputs (functionsOf [unlisted, listed] "f") ∧
    encodeCall (some .lightClientProxy) interface "f" [] = .error .fieldMissing := by
  intro interface
  have hlists : ListsFunctions interface [unlisted, listed] := by
    refine ⟨rfl, ?_⟩
    simp [takesParameters_unlisted, takesParameters_listed]
  have hlacks : LacksInputs (functionsOf [unlisted, listed] "f") := ⟨unlisted, rfl, rfl⟩
  exact ⟨hlists, (encodeCall_ends hlists _ _ _).1, hlacks, (encodeCall_ends hlists _ _ _).2 rfl hlacks⟩

/-- A call that cannot be encoded is not always refused as one that does not fit the contract: a function
that does not list its inputs is taken for one without inputs, and then its inputs are missing. -/
theorem not_always_refused : ¬ ∀ (interface : Value) (entries : List Fields) (name : String)
    (arguments : List Value) (fault : Fault), ListsFunctions interface entries →
      encodeCall (some .lightClientProxy) interface name arguments = .error fault →
        ∃ cause, fault = .deployment cause (some .lightClientProxy) ∧
          cause.family = .initialization := by
  intro h
  have hlists : ListsFunctions (.list [.record unlisted]) [unlisted] := by
    refine ⟨rfl, ?_⟩
    simp [takesParameters_unlisted]
  have hcall : encodeCall (some .lightClientProxy) (.list [.record unlisted]) "f" [] =
      .error .fieldMissing := rfl
  obtain ⟨cause, hcause, -⟩ := h _ _ _ _ _ hlists hcall
  cases hcause

end Rollout.Abi
