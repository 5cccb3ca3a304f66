import Rollout.Proofs.Abi.Legible

/-!
# The check of the arguments

Before a call is encoded its arguments are checked against the functions of its name, all of which take
parameters. The check finds a function that takes the arguments, or none (`checked`); but it cannot go
through the inputs of a function that does not list them, and it tries to where a call has no arguments
(`LacksInputs`).
-/

namespace Rollout.Abi

variable {functions : List Fields} {function : Fields} {texts : List String}
  {arguments inputs : List Value} {contract : Option Contract}

/-! ## One function -/

/-- Tells whether values are arguments of the kinds that texts name, one of each. -/
def textsAccept (texts : List String) (values : List Value) : Bool :=
  texts.length == values.length && (texts.zip values).all fun (text, value) => textAccepts text value

theorem takes_eq {entry : Fields} (h : kindTexts entry = .ok texts) (arguments : List Value) :
    takes arguments entry = .ok (textsAccept texts arguments) := by
  rw [takes, h]
  rfl

/-- Inputs fit values just if the kinds of the inputs accept them. -/
theorem fits_eq (hall : ∀ input ∈ inputs, IsParameter input)
    (htexts : inputs.mapM kindText = .ok texts) (values : List Value) :
    fits inputs values =
      .ok ((texts.zip values).all fun (text, value) => textAccepts text value) := by
  induction inputs generalizing texts values with
  | nil =>
    cases htexts
    rfl
  | cons input rest ih =>
    obtain ⟨hinput, hrest⟩ := List.forall_mem_cons.1 hall
    rw [List.mapM_cons] at htexts
    obtain ⟨text, htext, hmore⟩ := except_bind_eq_ok.1 htexts
    obtain ⟨others, hothers, hpure⟩ := except_bind_eq_ok.1 hmore
    obtain rfl : text :: others = texts := Except.ok.inj hpure
    cases values with
    | nil => rfl
    | cons value values =>
      obtain ⟨fields, rfl, htitle⟩ := hinput.exists_fields
      have hlater := ih hrest hothers values
      unfold fits
      simp only [htext, bind, Except.bind, List.zip_cons_cons, List.all_cons]
      cases textAccepts text value with
      | false => rfl
      | true =>
        simp only [fieldsOf, if_true]
        cases hname : Fields.get? fields "name" with
        | none => exact hlater
        | some name =>
          obtain ⟨s, rfl⟩ := htitle name hname
          exact hlater

/-- Tells whether a function takes a number of inputs. -/
def hasCount (count : Nat) (function : Fields) : Bool :=
  match inputsOf function with
  | .list inputs => inputs.length == count
  | _ => false

theorem TakesParameters.hasCount_eq (h : TakesParameters function)
    (htexts : kindTexts function = .ok texts) (count : Nat) :
    hasCount count function = (texts.length == count) := by
  obtain ⟨inputs, hinputs, -⟩ := h
  unfold kindTexts at htexts
  rw [hinputs] at htexts
  have hlength : texts.length = inputs.length := length_of_mapM htexts
  unfold hasCount
  rw [hinputs, hlength]

theorem get?_of_has_eq_false {name : String} (h : function.has name = false) :
    function.get? name = none := by
  unfold Fields.has at h
  simpa using h

/-- A function that does not list its inputs takes none. -/
theorem has_of_hasCount {count : Nat} (h : hasCount count function = true) (hcount : count ≠ 0) :
    function.has "inputs" = true := by
  cases hlacks : function.has "inputs" with
  | true => rfl
  | false =>
    unfold hasCount inputsOf at h
    rw [get?_of_has_eq_false hlacks] at h
    exact absurd (beq_iff_eq.1 h).symm hcount

theorem TakesParameters.exists_listed (h : TakesParameters function)
    (hhas : function.has "inputs" = true) :
    ∃ inputs, function.get? "inputs" = some (.list inputs) ∧
      ∀ input ∈ inputs, IsParameter input := by
  obtain ⟨inputs, hinputs, hall⟩ := h
  obtain ⟨value, hvalue⟩ := Option.isSome_iff_exists.1 hhas
  obtain rfl : value = .list inputs := by
    unfold inputsOf at hinputs
    rw [hvalue] at hinputs
    exact hinputs
  exact ⟨inputs, hvalue, hall⟩

/-- A function that lists as many inputs as there are arguments is the one to be called if it takes the
arguments, and passed over if it does not. -/
theorem anyFits_cons (h : TakesParameters function) (htexts : kindTexts function = .ok texts)
    (hcount : hasCount arguments.length function = true) (hhas : function.has "inputs" = true)
    (rest : List Fields) : anyFits arguments (function :: rest) =
      if textsAccept texts arguments then .ok true else anyFits arguments rest := by
  obtain ⟨inputs, hget, hall⟩ := h.exists_listed hhas
  have hmap : inputs.mapM kindText = .ok texts := by
    unfold kindTexts inputsOf at htexts
    rw [hget] at htexts
    exact htexts
  rw [anyFits, textsAccept, ← h.hasCount_eq htexts, hcount]
  simp only [hget, elementsOf, Value.elements?, bind, Except.bind, fits_eq hall hmap, Bool.true_and]
  rfl

/-! ## The functions of a name -/

/-- The first function that takes no inputs does not list them. -/
def LacksInputs (functions : List Fields) : Prop :=
  ∃ function, functions.find? (hasCount 0) = some function ∧ function.has "inputs" = false

theorem filterM_hasCount (h : ∀ function ∈ functions, TakesParameters function) (count : Nat) :
    functions.filterM (fun function => do
      return (← elementsOf (inputsOf function)).length == count) =
        .ok (functions.filter (hasCount count)) := by
  refine filterM_of_ok fun function hfunction => ?_
  obtain ⟨inputs, hinputs, -⟩ := h function hfunction
  unfold hasCount
  rw [hinputs]
  rfl

/-- The arguments are taken by one of the functions, or by none of them, unless the first one cannot be
gone through. -/
theorem anyFits_cases (h : ∀ function ∈ functions,
      TakesParameters function ∧ hasCount arguments.length function = true)
    (hhead : ∀ function, arguments = [] → functions.head? = some function →
      function.has "inputs" = true) :
    (anyFits arguments functions = .ok true ∧
      ∃ function ∈ functions, takes arguments function = .ok true) ∨
    anyFits arguments functions = .ok false := by
  induction functions with
  | nil => exact .inr rfl
  | cons function rest ih =>
    obtain ⟨⟨hparameters, hcount⟩, hrest⟩ := List.forall_mem_cons.1 h
    have hhas : function.has "inputs" = true := by
      by_cases hempty : arguments = []
      · exact hhead function hempty rfl
      · exact has_of_hasCount hcount (by simpa using hempty)
    obtain ⟨texts, htexts⟩ := hparameters.exists_kindTexts
    have htakes := takes_eq htexts arguments
    rw [anyFits_cons hparameters htexts hcount hhas]
    cases haccept : textsAccept texts arguments with
    | true => exact .inl ⟨rfl, function, List.mem_cons_self, haccept ▸ htakes⟩
    | false =>
      have hsome : arguments ≠ [] := by
        rintro rfl
        rw [hparameters.hasCount_eq htexts] at hcount
        rw [List.length_eq_zero_iff.1 (beq_iff_eq.1 hcount)] at haccept
        cases haccept
      rcases ih hrest fun _ hempty => absurd hempty hsome with
        ⟨htrue, other, hother, htaken⟩ | hfalse
      · exact .inl ⟨htrue, other, List.mem_cons_of_mem function hother, htaken⟩
      · exact .inr hfalse

/-- How the check of arguments ends. -/
inductive Checked (contract : Option Contract) (functions : List Fields) (arguments : List Value) :
    Except Fault Unit → Prop where
  | taken {function : Fields} : function ∈ functions → takes arguments function = .ok true →
    Checked contract functions arguments (.ok ())
  | refused {cause : Cause} : cause.family = .initialization →
    Checked contract functions arguments (.error (.deployment cause contract))
  | lacking : arguments = [] → LacksInputs functions →
    Checked contract functions arguments (.error .fieldMissing)

/-- What the check comes to, once it is known which functions take as many arguments. -/
theorem checkArguments_cons {first : Fields} {rest : List Fields}
    (h : ∀ function ∈ first :: rest, TakesParameters function) (contract : Option Contract)
    (arguments : List Value) : ∃ cause, cause.family = .initialization ∧
      checkArguments contract (first :: rest) arguments =
        (anyFits arguments ((first :: rest).filter (hasCount arguments.length))).bind fun b =>
          if b then .ok () else .error (.deployment cause contract) := by
  refine ⟨.noOverload ((first.get? "name").getD .null).shown arguments.length, rfl, ?_⟩
  unfold checkArguments
  rw [filterM_hasCount h]
  rfl

theorem anyFits_of_lacksInputs (h : LacksInputs functions) :
    anyFits [] (functions.filter (hasCount 0)) = .error .fieldMissing := by
  obtain ⟨function, hfind, hlacks⟩ := h
  obtain ⟨rest, hfilter⟩ := List.head?_eq_some_iff.1 (List.head?_filter.trans hfind)
  rw [hfilter]
  unfold anyFits
  rw [get?_of_has_eq_false hlacks]

theorem checkArguments_of_lacksInputs (h : ∀ function ∈ functions, TakesParameters function)
    (hlacks : LacksInputs functions) (contract : Option Contract) :
    checkArguments contract functions [] = .error .fieldMissing := by
  cases functions with
  | nil =>
    obtain ⟨function, hfind, -⟩ := hlacks
    cases hfind
  | cons first rest =>
    obtain ⟨cause, -, hcheck⟩ := checkArguments_cons h contract []
    rw [hcheck, List.length_nil, anyFits_of_lacksInputs hlacks]
    rfl

theorem checked (h : ∀ function ∈ functions, TakesParameters function) (contract : Option Contract)
    (arguments : List Value) :
    Checked contract functions arguments (checkArguments contract functions arguments) := by
  by_cases hlacking : arguments = [] ∧ LacksInputs functions
  · obtain ⟨rfl, hlacks⟩ := hlacking
    rw [checkArguments_of_lacksInputs h hlacks]
    exact .lacking rfl hlacks
  · cases functions with
    | nil => exact .refused rfl
    | cons first rest =>
      obtain ⟨cause, hfamily, hcheck⟩ := checkArguments_cons h contract arguments
      have hsized : ∀ function ∈ (first :: rest).filter (hasCount arguments.length),
          TakesParameters function ∧ hasCount arguments.length function = true := by
        intro function hfunction
        obtain ⟨hmem, hcount⟩ := List.mem_filter.1 hfunction
        exact ⟨h function hmem, hcount⟩
      have hhead : ∀ function, arguments = [] →
          ((first :: rest).filter (hasCount arguments.length)).head? = some function →
            function.has "inputs" = true := by
        rintro function rfl hfirst
        rw [List.head?_filter] at hfirst
        cases hlacks : function.has "inputs" with
        | true => rfl
        | false => exact absurd ⟨rfl, function, hfirst, hlacks⟩ hlacking
      rw [hcheck]
      rcases anyFits_cases hsized hhead with ⟨htrue, function, hfunction, htakes⟩ | hfalse
      · rw [htrue]
        exact .taken (List.mem_filter.1 hfunction).1 htakes
      · rw [hfalse]
        exact .refused hfamily

end Rollout.Abi
