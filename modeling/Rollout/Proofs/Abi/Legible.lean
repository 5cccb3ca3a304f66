import Rollout.Abi.Call
import Rollout.Proofs.Except

/-!
# Legible interfaces

Nothing promises that the interface in a document has the shape that its readers expect. Where it is
legible, that is, where each entry takes inputs that are parameters, the encoder of calls meets no fault
but that of a signature without a UTF-8 form (`Lists.callData?_cases`); and where also each function
has a selector of its own and the constructor takes the right number of arguments, the data of a creation
are put together or refused by the encoder (`Creatable.creationData_eq_error`).
-/

namespace Rollout.Abi

variable {interface input : Value} {entries : List Fields} {entry fields : Fields} {inputs : List Value}
  {arguments : List Value} {count : Nat} {fault : Fault}

/-! ## Parameters -/

/-- What stands for the name of a parameter is a text. -/
def HasTitle (fields : Fields) : Prop :=
  ∀ name, fields.get? "name" = some name → ∃ s, name = .text s

/-- A value describes a parameter: a record with a type, and with the parameters that it consists of if
it is a tuple. -/
inductive IsParameter : Value → Prop where
  | plain {fields : Fields} {type : String} : fields.get? "type" = some (.text type) →
    "tuple".toList.isPrefixOf type.toList = false → HasTitle fields → IsParameter (.record fields)
  | tuple {fields : Fields} {type : String} {components : List Value} :
    fields.get? "type" = some (.text type) → fields.get? "components" = some (.list components) →
    (∀ component ∈ components, IsParameter component) → HasTitle fields →
    IsParameter (.record fields)

theorem depth_le_of_mem {items : List Value} {item : Value} (h : item ∈ items) :
    depth item ≤ depthAll items := by
  induction items with
  | nil => cases h
  | cons first rest ih =>
    unfold depthAll
    rcases List.mem_cons.1 h with rfl | h
    · omega
    · have hrest := ih h
      omega

theorem depth_le_of_get? {name : String} {value : Value} (h : fields.get? name = some value) :
    depth value ≤ depthFields fields := by
  induction fields with
  | nil => cases h
  | cons field rest ih =>
    obtain ⟨key, first⟩ := field
    unfold depthFields
    rw [Fields.get?_cons] at h
    by_cases hkey : name = key
    · rw [if_pos hkey] at h
      obtain rfl := Option.some.inj h
      omega
    · rw [if_neg hkey] at h
      have hrest := ih h
      omega

/-- A parameter has a text for its kind as soon as one looks deep enough. -/
theorem IsParameter.exists_kindTextTo (h : IsParameter input) {fuel : Nat}
    (hfuel : depth input < fuel) : ∃ text, kindTextTo fuel input = .ok text := by
  induction h generalizing fuel with
  | @plain fields type htype hplain _ =>
    obtain ⟨fuel, rfl⟩ : ∃ n, fuel = n + 1 := ⟨fuel - 1, by omega⟩
    refine ⟨type, ?_⟩
    unfold kindTextTo
    simp only [fieldsOf, bind, Except.bind, htype, hplain]
    rfl
  | @tuple fields type components htype hcomponents _ _ ih =>
    obtain ⟨fuel, rfl⟩ : ∃ n, fuel = n + 1 := ⟨fuel - 1, by omega⟩
    have hdepth := depth_le_of_get? hcomponents
    unfold depth at hdepth hfuel
    have hbelow : ∀ component ∈ components, ∃ text, kindTextTo fuel component = .ok text := by
      intro component hcomponent
      have hle := depth_le_of_mem hcomponent
      exact ih component hcomponent (by omega)
    obtain ⟨texts, htexts⟩ := exists_mapM hbelow
    by_cases htuple : "tuple".toList.isPrefixOf type.toList = true
    · refine ⟨"(" ++ ",".intercalate texts ++ ")" ++ String.ofList (type.toList.drop 5), ?_⟩
      unfold kindTextTo
      simp only [fieldsOf, bind, Except.bind, htype, htuple, hcomponents, elementsOf,
        Value.elements?, htexts]
      rfl
    · refine ⟨type, ?_⟩
      unfold kindTextTo
      simp only [fieldsOf, bind, Except.bind, htype, htuple]
      rfl

theorem IsParameter.exists_kindText (h : IsParameter input) :
    ∃ text, kindText input = .ok text := h.exists_kindTextTo (Nat.lt_succ_self _)

theorem IsParameter.exists_fields (h : IsParameter input) :
    ∃ fields : Fields, input = .record fields ∧ HasTitle fields := by
  cases h with
  | plain _ _ htitle => exact ⟨_, rfl, htitle⟩
  | tuple _ _ _ htitle => exact ⟨_, rfl, htitle⟩

/-! ## Entries -/

/-- An entry takes inputs that are parameters. -/
def TakesParameters (entry : Fields) : Prop :=
  ∃ inputs, inputsOf entry = .list inputs ∧ ∀ input ∈ inputs, IsParameter input

theorem TakesParameters.exists_kindTexts (h : TakesParameters entry) :
    ∃ texts, kindTexts entry = .ok texts := by
  obtain ⟨inputs, hinputs, hall⟩ := h
  obtain ⟨texts, htexts⟩ := exists_mapM fun input hinput => (hall input hinput).exists_kindText
  refine ⟨texts, ?_⟩
  unfold kindTexts
  rw [hinputs]
  exact htexts

/-- A function has a selector, unless its signature has no UTF-8 form. -/
theorem TakesParameters.selectorOf_cases (h : TakesParameters entry) :
    (∃ octets, selectorOf entry = .ok octets) ∨ selectorOf entry = .error .unencodable := by
  obtain ⟨texts, htexts⟩ := h.exists_kindTexts
  simp only [selectorOf, htexts, bind, Except.bind]
  split
  · exact .inl ⟨_, rfl⟩
  · exact .inr rfl

theorem TakesParameters.exists_takes (h : TakesParameters entry) (arguments : List Value) :
    ∃ b, takes arguments entry = .ok b := by
  obtain ⟨texts, htexts⟩ := h.exists_kindTexts
  unfold takes
  rw [htexts]
  exact ⟨_, rfl⟩

/-! ## Interfaces -/

/-- An interface lists entries, each of which takes inputs that are parameters. -/
structure Lists (interface : Value) (entries : List Fields) : Prop where
  value : interface = .list (entries.map .record)
  parameters : ∀ entry ∈ entries, TakesParameters entry

/-- An interface is legible if it lists some entries. -/
def Legible (interface : Value) : Prop := ∃ entries, Lists interface entries

/-- An interface lists entries, and those that are functions take inputs that are parameters. -/
structure ListsFunctions (interface : Value) (entries : List Fields) : Prop where
  value : interface = .list (entries.map .record)
  parameters : ∀ entry ∈ entries, hasType "function" entry = true → TakesParameters entry

theorem Lists.toListsFunctions (h : Lists interface entries) : ListsFunctions interface entries where
  value := h.value
  parameters entry hentry _ := h.parameters entry hentry

theorem ListsFunctions.entriesOf_eq (h : ListsFunctions interface entries) :
    entriesOf interface = .ok entries := by
  have hfields : (entries.map Value.record).mapM fieldsOf = .ok entries := by
    clear h
    induction entries with
    | nil => rfl
    | cons entry rest ih =>
      rw [List.map_cons, List.mapM_cons, ih]
      rfl
  unfold entriesOf
  rw [h.value]
  exact hfields

/-- The signature of a function has no UTF-8 form, or the functions have selectors. -/
theorem ListsFunctions.selectors_cases (h : ListsFunctions interface entries) :
    (entries.filter (hasType "function")).mapM selectorOf = .error .unencodable ∨
      ∃ selectors, (entries.filter (hasType "function")).mapM selectorOf = .ok selectors := by
  cases hselectors : (entries.filter (hasType "function")).mapM selectorOf with
  | ok selectors => exact .inr ⟨selectors, rfl⟩
  | error fault =>
    obtain ⟨entry, hentry, hfault⟩ := exists_error_of_mapM hselectors
    obtain ⟨hmem, htype⟩ := List.mem_filter.1 hentry
    rcases (h.parameters entry hmem htype).selectorOf_cases with ⟨octets, hoctets⟩ | hunencodable
    · rw [hoctets] at hfault
      cases hfault
    · rw [hunencodable] at hfault
      exact .inl (congrArg Except.error (Except.error.inj hfault).symm)

theorem Lists.entriesOf_eq (h : Lists interface entries) : entriesOf interface = .ok entries :=
  h.toListsFunctions.entriesOf_eq

/-- How deep the readers of an interface follow the components of parameters. -/
def readableDepth : Nat := 64

/-- An interface can be read throughout: it lists entries that take parameters, each function, event and
error is called by a name, and the parameters are no deeper in each other than readers follow them. -/
structure Readable (interface : Value) (entries : List Fields) : Prop
    extends Lists interface entries where
  names : ∀ entry ∈ entries, isNamedKind entry = true →
    ∃ name, entry.get? "name" = some (.text name) ∧ Text.isWellFormed name.toList = true
  shallow : depth interface ≤ readableDepth

/-- An interface is one with which a contract can be created: it can be read, each entry has a type, each
function has a selector of its own, and a constructor takes the given number of arguments. -/
structure Creatable (count : Nat) (interface : Value) (entries : List Fields) : Prop
    extends Readable interface entries where
  types : ∀ entry ∈ entries, entry.has "type" = true
  selectors : ∃ selectors, (entries.filter (hasType "function")).mapM selectorOf = .ok selectors ∧
    distinct selectors = true
  constructors : ∀ entry ∈ entries, hasType "constructor" entry = true →
    ∃ inputs, inputsOf entry = .list inputs ∧ inputs.length = count

theorem Creatable.checkCreatable_eq (h : Creatable count interface entries) :
    checkCreatable interface = .ok () := by
  have hfields : (entries.map Value.record).mapM Value.fields? = some entries := by
    clear h
    induction entries with
    | nil => rfl
    | cons entry rest ih =>
      rw [List.map_cons, List.mapM_cons, ih]
      rfl
  have htypes : (entries.all fun entry => entry.has "type") = true := List.all_eq_true.2 h.types
  obtain ⟨selectors, hselectors, hdistinct⟩ := h.selectors
  unfold checkCreatable
  rw [h.value]
  simp only [Value.items?, hfields, htypes, if_true, hselectors, bind, Except.bind, hdistinct]

/-- If the data of a creation cannot be put together, the encoder refuses the arguments. -/
theorem Creatable.creationData_eq_error {code : Octets} (h : Creatable count interface entries)
    (hcount : arguments.length = count)
    (hdata : creationData interface code arguments = .error fault) : fault = refused := by
  unfold creationData at hdata
  rw [h.entriesOf_eq] at hdata
  simp only [bind, Except.bind] at hdata
  split at hdata
  · cases hdata
  · next entry hone =>
    have hmem : entry ∈ entries ∧ hasType "constructor" entry = true := by
      have hfilter : entry ∈ entries.filter (hasType "constructor") := by simp [hone]
      exact List.mem_filter.1 hfilter
    obtain ⟨inputs, hinputs, hlength⟩ := h.constructors entry hmem.1 hmem.2
    obtain ⟨inputs', hinputs', hall⟩ := h.parameters entry hmem.1
    obtain rfl : inputs = inputs' := Value.list.inj (hinputs.symm.trans hinputs')
    obtain ⟨texts, htexts⟩ := exists_mapM fun input hinput => (hall input hinput).exists_kindText
    have helements : elementsOf (inputsOf entry) = .ok inputs := by rw [hinputs]; rfl
    rw [helements] at hdata
    simp only [hlength, hcount, if_true, htexts] at hdata
    -- whatever the kinds and the arguments are, there is one way to refuse them
    split at hdata
    · exact (Except.error.inj hdata).symm
    · split at hdata
      · split at hdata
        · cases hdata
        · exact (Except.error.inj hdata).symm
      · exact (Except.error.inj hdata).symm
  · exact (Except.error.inj hdata).symm

/-! ## Calls -/

/-- An entry that a name may stand for is a function, an event or an error. -/
theorem isNamedKind_iff : isNamedKind entry = true ↔
    hasType "function" entry = true ∨ hasType "event" entry = true ∨
      hasType "error" entry = true := by
  simp [isNamedKind, or_assoc]

/-- If something goes wrong while a call is encoded, it is that the signature of a function has no UTF-8
form, or that the inputs of an event or an error of the name cannot be read. -/
theorem ListsFunctions.callData?_eq_error (h : ListsFunctions interface entries) {name : String}
    (hdata : callData? entries name arguments = .error fault) :
    fault = .unencodable ∨ ∃ entry ∈ entries,
      (hasType "event" entry = true ∨ hasType "error" entry = true) ∧
        hasName name entry = true ∧ takes arguments entry = .error fault := by
  obtain hunencodable | ⟨selectors, hselectors⟩ := h.selectors_cases
  · rw [callData?, hunencodable] at hdata
    exact .inl (Except.error.inj hdata).symm
  unfold callData? at hdata
  simp only [hselectors, bind, Except.bind] at hdata
  refine .inr ?_
  split at hdata
  · cases hdata
  · rcases filterM_cases (entries.filter fun entry => isNamedKind entry && hasName name entry)
      (takes arguments) with hall | ⟨entry, hentry, other, htakes, hfails⟩
    · obtain ⟨candidates, hcandidates, hmem⟩ := exists_filterM hall
      simp only [hcandidates] at hdata
      split at hdata
      · next entry =>
        -- the kinds of the one candidate were read when the arguments were tried on it
        obtain ⟨texts, htexts, -⟩ := except_bind_eq_ok.1 ((hmem entry).1 (by simp)).2
        rw [htexts] at hdata
        cases hdata
      · cases hdata
    · simp only [hfails] at hdata
      obtain rfl := Except.error.inj hdata
      obtain ⟨hentry, hnamed⟩ := List.mem_filter.1 hentry
      obtain ⟨hkind, hname⟩ := Bool.and_eq_true_iff.1 hnamed
      refine ⟨entry, hentry, ?_, hname, htakes⟩
      rcases isNamedKind_iff.1 hkind with hfunction | hother
      · obtain ⟨b, hb⟩ := (h.parameters entry hentry hfunction).exists_takes arguments
        rw [htakes] at hb
        cases hb
      · exact hother

/-- Nothing goes wrong while a call of a legible interface is encoded, but that the signature of a
function has no UTF-8 form. -/
theorem Lists.callData?_cases (h : Lists interface entries) (name : String)
    (arguments : List Value) : (∃ octets?, callData? entries name arguments = .ok octets?) ∨
      callData? entries name arguments = .error .unencodable := by
  cases hdata : callData? entries name arguments with
  | ok octets? => exact .inl ⟨octets?, rfl⟩
  | error fault =>
    rcases h.toListsFunctions.callData?_eq_error hdata with rfl | ⟨entry, hentry, -, -, htakes⟩
    · exact .inr rfl
    · obtain ⟨b, hb⟩ := (h.parameters entry hentry).exists_takes arguments
      rw [htakes] at hb
      cases hb

end Rollout.Abi
