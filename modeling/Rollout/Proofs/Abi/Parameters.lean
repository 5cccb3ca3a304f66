import Mathlib.Data.List.Nodup
import Rollout.Abi.Parameters
import Rollout.Proofs.Address

/-!
# The names of arguments

The argument of a constructor is called by the name of its input, or else by its position (`Abi.label`).
If no two arguments are called the same, the parameters are the arguments one by one; if two are, there
are fewer parameters than arguments (`Abi.Constructs.exists_parameters`). The octets among the arguments
become text, which stands for the same address (`Abi.ofValue_parameterValue`).
-/

namespace Rollout.Abi

variable {interface value : Value} {entries inputs : List Fields} {arguments : List Value}
  {parameters : Parameters} {known : List String} {name : String} {pairs : List (String × Value)}

theorem ofValue_parameterValue {address : Address} :
    Address.ofValue (parameterValue value) = .ok address ↔ Address.ofValue value = .ok address := by
  cases value with
  | octets o =>
    have hdigits : ∀ c ∈ Hex.dropMark (Hex.text o).toList, Hex.isDigit c = true := by
      rw [Hex.dropMark_text]
      exact fun c hc => Hex.isDigit_of_mem_encode hc
    rw [parameterValue, Address.ofValue_text_eq_ok_iff hdigits, Hex.dropMark_text, Address.ofValue,
      Address.ofParts_eq_ok_iff, Address.ofDigits?_eq_some_iff]
  | _ => rfl

/-! ## Parameters with names -/

/-- Parameters that are called by these texts, in this order. -/
def Parameters.Called (parameters : Parameters) (known : List String) : Prop :=
  parameters.map Prod.fst = known.map .text

namespace Parameters

theorem Called.length_eq (h : parameters.Called known) : parameters.length = known.length := by
  rw [← List.length_map Prod.fst, h, List.length_map]

/-- A new name is put at the end. -/
theorem set_of_not_mem (h : parameters.Called known) (hname : name ∉ known) (value : Value) :
    parameters.set (.text name) value = parameters ++ [(.text name, value)] := by
  induction parameters generalizing known with
  | nil => rfl
  | cons parameter rest ih =>
    cases known with
    | nil => cases h
    | cons first known =>
      obtain ⟨key, old⟩ := parameter
      obtain ⟨hkey, hrest⟩ := List.cons.inj h
      obtain rfl : key = .text first := hkey
      have hother : sameName (.text first) (.text name) = false := by
        simp only [sameName, decide_eq_false_iff_not]
        rintro rfl
        exact hname List.mem_cons_self
      rw [set, hother, ih hrest fun hmem => hname (List.mem_cons_of_mem _ hmem)]
      rfl

/-- A name that is there keeps its place. -/
theorem set_of_mem (h : parameters.Called known) (hname : name ∈ known) (value : Value) :
    (parameters.set (.text name) value).Called known := by
  induction parameters generalizing known with
  | nil =>
    cases known with
    | nil => cases hname
    | cons first known => cases h
  | cons parameter rest ih =>
    cases known with
    | nil => cases hname
    | cons first known =>
      obtain ⟨key, old⟩ := parameter
      obtain ⟨hkey, hrest⟩ := List.cons.inj h
      obtain rfl : key = .text first := hkey
      rw [set]
      by_cases hsame : first = name
      · rw [if_pos (by simpa [sameName] using hsame)]
        exact h
      · have hmem : name ∈ known := by
          rcases List.mem_cons.1 hname with rfl | hmem
          · exact absurd rfl hsame
          · exact hmem
        rw [if_neg (by simpa [sameName] using hsame)]
        exact congrArg (Value.text first :: ·) (ih hrest hmem)

/-- Gives names their values, one after another. -/
def setAll (parameters : Parameters) : List (String × Value) → Parameters
  | [] => parameters
  | (name, value) :: rest => (parameters.set (.text name) value).setAll rest

theorem called_append (h : parameters.Called known) (name : String) (value : Value) :
    Called (parameters ++ [(.text name, value)]) (known ++ [name]) := by
  rw [Called, List.map_append, h, List.map_append]
  rfl

/-- Names that are all different are put at the end, in their order. -/
theorem setAll_of_nodup (h : parameters.Called known) (hnodup : (known ++ pairs.map Prod.fst).Nodup) :
    parameters.setAll pairs = parameters ++ pairs.map fun pair => (.text pair.1, pair.2) := by
  induction pairs generalizing parameters known with
  | nil => exact (List.append_nil _).symm
  | cons pair rest ih =>
    obtain ⟨name, value⟩ := pair
    have hname : name ∉ known := fun hmem =>
      (List.disjoint_of_nodup_append hnodup) hmem List.mem_cons_self
    have hrest : ((known ++ [name]) ++ rest.map Prod.fst).Nodup := by
      rw [List.append_assoc]
      exact hnodup
    rw [setAll, set_of_not_mem h hname, ih (called_append h name value) hrest, List.append_assoc]
    rfl

theorem length_setAll_le (h : parameters.Called known) :
    (parameters.setAll pairs).length ≤ parameters.length + pairs.length := by
  induction pairs generalizing parameters known with
  | nil => exact Nat.le_refl _
  | cons pair rest ih =>
    obtain ⟨name, value⟩ := pair
    rw [setAll, List.length_cons]
    by_cases hname : name ∈ known
    · have hset := set_of_mem h hname value
      have hle := ih hset
      rw [hset.length_eq, ← h.length_eq] at hle
      omega
    · have hle := ih (called_append h name value)
      rw [set_of_not_mem h hname]
      rw [List.length_append, List.length_singleton] at hle
      omega

/-- If two names are the same, there are fewer parameters than names with values. -/
theorem length_setAll_lt (h : parameters.Called known) (hknown : known.Nodup)
    (hnodup : ¬ (known ++ pairs.map Prod.fst).Nodup) :
    (parameters.setAll pairs).length < parameters.length + pairs.length := by
  induction pairs generalizing parameters known with
  | nil =>
    rw [List.map_nil, List.append_nil] at hnodup
    exact absurd hknown hnodup
  | cons pair rest ih =>
    obtain ⟨name, value⟩ := pair
    rw [setAll, List.length_cons]
    by_cases hname : name ∈ known
    · have hset := set_of_mem h hname value
      have hle : ((parameters.set (.text name) value).setAll rest).length ≤
          (parameters.set (.text name) value).length + rest.length := length_setAll_le hset
      rw [hset.length_eq, ← h.length_eq] at hle
      omega
    · have hmore : (known ++ [name]).Nodup :=
        List.nodup_append.2 ⟨hknown, List.nodup_singleton name, by
          rintro a ha b hb rfl
          exact hname (List.mem_singleton.1 hb ▸ ha)⟩
      have hlt := ih (called_append h name value) hmore (by
        rw [List.append_assoc]
        exact hnodup)
      rw [set_of_not_mem h hname]
      rw [List.length_append, List.length_singleton] at hlt
      omega

end Parameters

/-! ## The inputs of a constructor -/

/-- An interface whose constructor takes these inputs, each with a text for its name or without name.
Without a constructor there are no inputs. -/
structure Constructs (interface : Value) (inputs : List Fields) : Prop where
  entries : ∃ entries : List Fields, interface = .list (entries.map .record) ∧
    ((entries.find? (hasType "constructor")).map inputsOf).getD (.list []) =
      .list (inputs.map .record)
  names : ∀ input ∈ inputs, ∀ name, input.get? "name" = some name →
    name = .null ∨ ∃ s, name = .text s

/-- What the argument at a position is called: the name of the input there, or else the position. -/
def label (inputs : List Fields) (position : Nat) : String :=
  match (inputs[position]?).bind fun input => input.get? "name" with
  | some (.text name) => if name.isEmpty then "arg" ++ toString position else name
  | _ => "arg" ++ toString position

/-- What arguments are called, from a position on. -/
def labelsFrom (inputs : List Fields) (position count : Nat) : List String :=
  (List.range' position count).map (label inputs)

/-- What the arguments of a constructor are called. -/
def labels (inputs : List Fields) (arguments : List Value) : List String :=
  labelsFrom inputs 0 arguments.length

/-- The arguments of a constructor with what they are called, as they are shown. -/
def labelled (inputs : List Fields) (arguments : List Value) : Parameters :=
  ((labels inputs arguments).zip arguments).map fun (name, argument) =>
    (.text name, parameterValue argument)

theorem constructorEntry?_eq (entries : List Fields) :
    constructorEntry? (entries.map .record) = .ok (entries.find? (hasType "constructor")) := by
  induction entries with
  | nil => rfl
  | cons entry rest ih =>
    rw [List.map_cons, constructorEntry?, List.find?_cons]
    simp only [fieldsOf, bind, Except.bind]
    cases hasType "constructor" entry with
    | true => rfl
    | false => exact ih

theorem parameterName_eq (h : Constructs interface inputs) (position : Nat) :
    parameterName (.list (inputs.map .record)) position = .ok (.text (label inputs position)) := by
  have hinput : inputName? (.list (inputs.map .record)) position =
      .ok ((inputs[position]?).bind fun input => input.get? "name") := by
    simp only [inputName?, elementsOf, Value.elements?, List.getElem?_map, bind, Except.bind]
    cases inputs[position]? with
    | none => rfl
    | some input => rfl
  rw [parameterName, hinput, label]
  simp only [bind, Except.bind]
  cases hinputs : inputs[position]? with
  | none => rfl
  | some input =>
    rw [Option.bind_some]
    cases hname : input.get? "name" with
    | none => rfl
    | some name =>
      rcases h.names input (List.mem_of_getElem? hinputs) name hname with rfl | ⟨s, rfl⟩
      · rfl
      · have hvacant : (Value.text s).isVacant = s.isEmpty := rfl
        simp only [hvacant]
        cases s.isEmpty <;> rfl

theorem nameArguments_eq (h : Constructs interface inputs) (position : Nat) (arguments : List Value)
    (parameters : Parameters) :
    nameArguments (.list (inputs.map .record)) position arguments parameters =
      .ok (parameters.setAll
        ((labelsFrom inputs position arguments.length).zip (arguments.map parameterValue))) := by
  induction arguments generalizing position parameters with
  | nil => rfl
  | cons argument rest ih =>
    rw [nameArguments, parameterName_eq h position]
    exact ih (position + 1) _

theorem Constructs.constructorParameters_eq (h : Constructs interface inputs)
    (arguments : List Value) : constructorParameters interface arguments =
      .ok (Parameters.setAll []
        ((labels inputs arguments).zip (arguments.map parameterValue))) := by
  obtain ⟨entries, rfl, hinputs⟩ := h.entries
  rw [constructorParameters]
  simp only [elementsOf, Value.elements?, constructorEntry?_eq, bind, Except.bind, hinputs]
  exact nameArguments_eq h 0 arguments []

/-- **The parameters of a constructor** are its arguments one by one just if no two are called the
same. -/
theorem Constructs.exists_parameters (h : Constructs interface inputs) (arguments : List Value) :
    ∃ parameters, constructorParameters interface arguments = .ok parameters ∧
      ((labels inputs arguments).Nodup → parameters = labelled inputs arguments) ∧
      (¬ (labels inputs arguments).Nodup → parameters.length < arguments.length) := by
  have hlength : (labels inputs arguments).length = arguments.length := by
    simp [labels, labelsFrom]
  have hnames : ((labels inputs arguments).zip (arguments.map parameterValue)).map Prod.fst =
      labels inputs arguments := List.map_fst_zip (by simp [hlength])
  have hcalled : Parameters.Called [] [] := rfl
  refine ⟨_, h.constructorParameters_eq arguments, fun hnodup => ?_, fun hnodup => ?_⟩
  · rw [Parameters.setAll_of_nodup hcalled (by rwa [hnames]), labelled, List.nil_append,
      List.zip_map_right, List.map_map]
    rfl
  · have hlt := Parameters.length_setAll_lt hcalled List.nodup_nil (by rwa [hnames])
    simpa [hlength] using hlt

end Rollout.Abi
