import Mathlib.Data.List.Nodup
import Rollout.Proofs.Abi.Check
import Rollout.Proofs.Octets

/-!
# The octets of a call

In an interface of well-formed entries, a call of the only function of a name is encoded just if the
function takes the arguments and the call is unambiguous: no two functions have the same selector, and no
event or error of the name takes the arguments, too (`WellFormed.encodeCall_eq_ok_iff`). Natural numbers
are encoded word for word, so that they can be read back from the octets (`encode_naturals`,
`map_wordAt`).
-/

namespace Rollout.Abi

variable {interface : Value} {entries : List Fields} {function : Fields} {texts : List String}
  {name : String} {arguments inputs values : List Value} {contract : Option Contract} {octets : Octets}

/-! ## Which calls are encoded -/

/-- An interface lists well-formed entries: each has a type, inputs that are parameters, and a list of
them if it is a function. -/
structure WellFormed (interface : Value) (entries : List Fields) : Prop
    extends Lists interface entries where
  types : ∀ entry ∈ entries, entry.has "type" = true
  inputs : ∀ entry ∈ entries, hasType "function" entry = true → entry.has "inputs" = true

/-- No other entry can be meant by a call of a function, and no function is mistaken for another: each
has a selector, of its own. -/
structure Unambiguous (entries : List Fields) (name : String) (arguments : List Value) : Prop where
  selectors : ∃ selectors, (entries.filter (hasType "function")).mapM selectorOf = .ok selectors ∧
    selectors.Nodup
  others : ∀ entry ∈ entries, hasType "event" entry = true ∨ hasType "error" entry = true →
    hasName name entry = true → takes arguments entry = .ok false

/-- There is one function of a name, and its inputs are of these kinds. -/
structure Declares (entries : List Fields) (name : String) (function : Fields) (texts : List String) :
    Prop where
  only : entries.filter (fun entry => hasType "function" entry && hasName name entry) = [function]
  kinds : kindTexts function = .ok texts

theorem distinct_eq_true_iff (selectors : List Octets) :
    distinct selectors = true ↔ selectors.Nodup := by
  induction selectors with
  | nil => simp [distinct]
  | cons octets rest ih => simp [distinct, ih]

theorem Declares.mem (h : Declares entries name function texts) :
    function ∈ entries ∧ hasType "function" function = true ∧ hasName name function = true := by
  have hmem : function ∈ entries.filter fun entry =>
      hasType "function" entry && hasName name entry := by
    rw [h.only]
    exact List.mem_singleton_self function
  simpa using List.mem_filter.1 hmem

/-- The arguments of the only function of a name are checked by the kinds of its inputs. -/
theorem WellFormed.checkArguments_eq_ok_iff (h : WellFormed interface entries)
    (hdeclares : Declares entries name function texts) (contract : Option Contract)
    (arguments : List Value) :
    checkArguments contract [function] arguments = .ok () ↔ textsAccept texts arguments = true := by
  obtain ⟨hmem, htype, -⟩ := hdeclares.mem
  have hparameters := h.parameters function hmem
  have hall : ∀ other ∈ [function], TakesParameters other := by simpa using hparameters
  obtain ⟨cause, -, hcheck⟩ := checkArguments_cons hall contract arguments
  rw [hcheck]
  by_cases hcount : hasCount arguments.length function = true
  · rw [List.filter_cons_of_pos hcount, List.filter_nil, anyFits_cons hparameters hdeclares.kinds hcount
      (h.inputs function hmem htype)]
    cases textsAccept texts arguments with
    | true => simp [Except.bind]
    | false => simp [Except.bind, anyFits, pure, Except.pure]
  · rw [List.filter_cons_of_neg hcount]
    rw [hparameters.hasCount_eq hdeclares.kinds, Bool.not_eq_true] at hcount
    simp [Except.bind, anyFits, pure, Except.pure, textsAccept, hcount]

/-- An entry has one type. -/
theorem hasType_unique {entry : Fields} {type other : String} (h : hasType type entry = true)
    (h' : hasType other entry = true) : type = other := by
  unfold hasType at h h'
  split at h
  · next s hs =>
    rw [hs] at h'
    have htype : s = type := by simpa using h
    have hother : s = other := by simpa using h'
    exact htype.symm.trans hother
  · cases h

/-- What a call may mean is the function, and nothing else just if no event or error of its name takes
the arguments. -/
theorem WellFormed.exists_candidates (h : WellFormed interface entries)
    (hdeclares : Declares entries name function texts) (haccept : textsAccept texts arguments = true) :
    ∃ candidates, (entries.filter fun entry => isNamedKind entry && hasName name entry).filterM
        (takes arguments) = .ok candidates ∧ function ∈ candidates ∧
      (candidates = [function] ↔ ∀ entry ∈ entries,
        hasType "event" entry = true ∨ hasType "error" entry = true → hasName name entry = true →
          takes arguments entry = .ok false) := by
  let taken : Fields → Bool := fun entry => (takes arguments entry).toOption.getD false
  have htaken : ∀ entry ∈ entries, takes arguments entry = .ok (taken entry) := by
    intro entry hentry
    obtain ⟨b, hb⟩ := (h.parameters entry hentry).exists_takes arguments
    simp only [taken, hb]
    rfl
  obtain ⟨hmem, htype, hnamed⟩ := hdeclares.mem
  have hfunction : taken function = true := by
    have htakes := htaken function hmem
    rw [takes_eq hdeclares.kinds, haccept] at htakes
    exact (Except.ok.inj htakes).symm
  have hin : ∀ entry ∈ entries, isNamedKind entry = true → hasName name entry = true →
      taken entry = true →
        entry ∈ (entries.filter fun entry => isNamedKind entry && hasName name entry).filter taken := by
    intro entry hentry hkind hname htrue
    simp [List.mem_filter, hentry, hkind, hname, htrue]
  refine ⟨_, filterM_of_ok fun entry hentry => htaken entry (List.mem_filter.1 hentry).1,
    hin function hmem (isNamedKind_iff.2 (.inl htype)) hnamed hfunction, ?_⟩
  constructor
  · intro hone entry hentry hother hname
    rw [htaken entry hentry]
    cases htrue : taken entry with
    | false => rfl
    | true =>
      -- an entry that takes the arguments, too, would be the function
      have hentry' := hin entry hentry (isNamedKind_iff.2 (.inr hother)) hname htrue
      rw [hone] at hentry'
      obtain rfl := List.mem_singleton.1 hentry'
      rcases hother with hevent | herror
      · exact absurd (hasType_unique hevent htype) (by decide)
      · exact absurd (hasType_unique herror htype) (by decide)
  · intro hothers
    have hsame : ∀ entry ∈ entries, (taken entry && (isNamedKind entry && hasName name entry)) =
        (taken entry && (hasType "function" entry && hasName name entry)) := by
      intro entry hentry
      cases hname : hasName name entry with
      | false => simp
      | true =>
        by_cases hother : hasType "event" entry = true ∨ hasType "error" entry = true
        · have hfalse := hothers entry hentry hother hname
          rw [htaken entry hentry] at hfalse
          rw [Except.ok.inj hfalse]
          rfl
        · rw [not_or, Bool.not_eq_true, Bool.not_eq_true] at hother
          simp [isNamedKind, hother.1, hother.2]
    rw [List.filter_filter, List.filter_congr hsame, ← List.filter_filter, hdeclares.only]
    exact List.filter_cons_of_pos hfunction

/-- The arguments have an encoding by the kinds that texts name, and with the selector before it they are
these octets. -/
def Encodes (name : String) (texts : List String) (arguments : List Value) (octets : Octets) : Prop :=
  ∃ kinds encoded, texts.mapM (fun text => Kind.ofText? text.toList) = some kinds ∧
    encodeArguments kinds arguments = some encoded ∧
      octets = selector (signature name texts) ++ encoded

theorem encodes_iff : Encodes name texts arguments octets ↔
    (((texts.mapM fun text => Kind.ofText? text.toList).bind fun kinds =>
      encodeArguments kinds arguments).map fun encoded =>
        selector (signature name texts) ++ encoded) = some octets := by
  simp only [Encodes, Option.map_eq_some_iff, Option.bind_eq_some_iff]
  constructor
  · rintro ⟨kinds, encoded, hkinds, hencoded, hoctets⟩
    exact ⟨encoded, ⟨kinds, hkinds, hencoded⟩, hoctets.symm⟩
  · rintro ⟨encoded, ⟨kinds, hkinds, hencoded⟩, hoctets⟩
    exact ⟨kinds, encoded, hkinds, hencoded, hoctets.symm⟩

/-- A call of functions that have these selectors is unambiguous just if they are distinct and nothing
else can be meant. -/
theorem unambiguous_iff {selectors : List Octets}
    (h : (entries.filter (hasType "function")).mapM selectorOf = .ok selectors) :
    Unambiguous entries name arguments ↔ distinct selectors = true ∧ ∀ entry ∈ entries,
      hasType "event" entry = true ∨ hasType "error" entry = true → hasName name entry = true →
        takes arguments entry = .ok false := by
  rw [distinct_eq_true_iff]
  constructor
  · rintro ⟨⟨others, hsame, hnodup⟩, hnone⟩
    obtain rfl : selectors = others := Except.ok.inj (h.symm.trans hsame)
    exact ⟨hnodup, hnone⟩
  · rintro ⟨hnodup, hnone⟩
    exact ⟨⟨selectors, h, hnodup⟩, hnone⟩

theorem WellFormed.callData?_eq_some_iff (h : WellFormed interface entries)
    (hdeclares : Declares entries name function texts) (hsome : arguments ≠ [])
    (hname : name ≠ "fallback" ∧ name ≠ "constructor")
    (haccept : textsAccept texts arguments = true) :
    callData? entries name arguments = .ok (some octets) ↔
      Unambiguous entries name arguments ∧ Encodes name texts arguments octets := by
  obtain hunencodable | ⟨selectors, hselectors⟩ := h.toListsFunctions.selectors_cases
  · -- without selectors nothing is encoded, and no call is unambiguous
    refine iff_of_false (fun hsuccess => ?_) fun ⟨hclear, _⟩ => ?_
    · rw [callData?, hunencodable] at hsuccess
      cases hsuccess
    · obtain ⟨selectors, hselectors, -⟩ := hclear.selectors
      rw [hunencodable] at hselectors
      cases hselectors
  obtain ⟨candidates, hcandidates, hfunction, hothers⟩ := h.exists_candidates hdeclares haccept
  have htypes : (entries.any fun entry => !entry.has "type") = false := by
    simpa using h.types
  have hinputs : ((entries.filter (hasType "function")).any fun entry => !entry.has "inputs") =
      false := by
    simpa using h.inputs
  have hrefused : (false = true ∨ false = true ∨ !distinct selectors ∨ name = "fallback" ∨
      name = "constructor" ∨ (arguments.isEmpty ∧ (List.filter (hasName name)
        (List.filter (hasType "function") entries)).length ≠ 1)) ↔ ¬ distinct selectors = true := by
    simp [hname, hsome]
  rw [callData?, unambiguous_iff hselectors, ← hothers]
  simp only [hselectors, hcandidates, htypes, hinputs, bind, Except.bind]
  by_cases hdistinct : distinct selectors = true
  · rw [if_neg (hrefused.not.2 (not_not.2 hdistinct))]
    by_cases hone : candidates = [function]
    · rw [hone, encodes_iff]
      simp only [hdeclares.kinds, hdistinct, true_and, pure, Except.pure, Except.ok.injEq]
    · refine iff_of_false (fun hsuccess => ?_) fun hcall => hone hcall.1.2
      split at hsuccess
      · next entry =>
        obtain rfl := List.mem_singleton.1 hfunction
        exact hone rfl
      · cases hsuccess
  · rw [if_pos (hrefused.2 hdistinct)]
    exact iff_of_false (by simp [pure, Except.pure]) fun hcall => hdistinct hcall.1.1

/-- **Which calls are encoded.** A call of the only function of a name is encoded just if the function
takes the arguments, the call is unambiguous, and the arguments have an encoding; the selector comes
before it. -/
theorem WellFormed.encodeCall_eq_ok_iff (h : WellFormed interface entries)
    (hdeclares : Declares entries name function texts) (hsome : arguments ≠ [])
    (hname : name ≠ "fallback" ∧ name ≠ "constructor") :
    encodeCall contract interface name arguments = .ok octets ↔
      textsAccept texts arguments = true ∧ Unambiguous entries name arguments ∧
        Encodes name texts arguments octets := by
  have hcheck := h.checkArguments_eq_ok_iff hdeclares contract arguments
  rw [encodeCall, h.entriesOf_eq, ← hcheck]
  simp only [bind, Except.bind, hdeclares.only]
  cases hchecked : checkArguments contract [function] arguments with
  | error fault => simp
  | ok _ =>
    have hdata : callData? entries name arguments = .ok (some octets) ↔
        Unambiguous entries name arguments ∧ Encodes name texts arguments octets :=
      h.callData?_eq_some_iff hdeclares hsome hname (hcheck.1 hchecked)
    rw [← hdata]
    rcases h.callData?_cases name arguments with ⟨octets?, hfound⟩ | hunencodable
    · rw [hfound]
      cases octets? with
      | none => simp
      | some found => simp
    · simp [hunencodable, isRefusal]

/-! ## Natural numbers, word for word -/

/-- An integer is a natural number of a number of bits. -/
def Within (bits : Nat) (n : Int) : Prop := 0 ≤ n ∧ n < 2 ^ bits

theorem Within.mono {bits more : Nat} {n : Int} (h : Within bits n) (hle : bits ≤ more) :
    Within more n := by
  have hpow : (2 : Int) ^ bits ≤ 2 ^ more := by
    exact_mod_cast Nat.pow_le_pow_right (by decide : 0 < 2) hle
  exact ⟨h.1, Int.lt_of_lt_of_le h.2 hpow⟩

theorem within_of_forall₂ {sizes : List Nat} {numbers : List Int} {bits : Nat}
    (h : List.Forall₂ Within sizes numbers) (hbits : ∀ size ∈ sizes, size ≤ bits) :
    ∀ n ∈ numbers, Within bits n := by
  induction h with
  | nil => simp
  | cons hfirst _ ih =>
    obtain ⟨hsize, hrest⟩ := List.forall_mem_cons.1 hbits
    exact List.forall_mem_cons.2 ⟨hfirst.mono hsize, ih hrest⟩

theorem Kind.accepts_uint_iff {bits : Nat} {n : Int} :
    (Kind.uint bits).accepts (.integer n) = true ↔ Within bits n := by
  unfold accepts Within
  rw [Bool.and_eq_true, decide_eq_true_iff, decide_eq_true_iff]
  exact Iff.rfl

theorem Kind.acceptsEach_uint_iff {bits : List Nat} {numbers : List Int} :
    Kind.acceptsEach (bits.map .uint) (numbers.map .integer) = true ↔
      List.Forall₂ Within bits numbers := by
  induction bits generalizing numbers with
  | nil =>
    cases numbers with
    | nil => simp [acceptsEach]
    | cons n numbers => simp [acceptsEach]
  | cons size bits ih =>
    cases numbers with
    | nil => simp [acceptsEach]
    | cons n numbers =>
      rw [List.map_cons, List.map_cons, acceptsEach, Bool.and_eq_true, accepts_uint_iff, ih,
        List.forall₂_cons]

theorem Kind.encodeEach_uint {bits : List Nat} {numbers : List Int}
    (h : bits.length = numbers.length) :
    Kind.encodeEach (bits.map .uint) (numbers.map .integer) =
      some (numbers.map fun n => ⟨false, word n⟩) := by
  induction bits generalizing numbers with
  | nil =>
    cases numbers with
    | nil => simp [encodeEach]
    | cons n numbers => cases h
  | cons size bits ih =>
    cases numbers with
    | nil => cases h
    | cons n numbers =>
      have hrest := ih (Nat.succ.inj h)
      simp only [List.map_cons, encodeEach, encode, hrest, isDynamic]
      rfl

theorem Kind.anyDynamic_uint (bits : List Nat) : Kind.anyDynamic (bits.map .uint) = false := by
  induction bits with
  | nil => simp [anyDynamic]
  | cons size bits ih => simp [anyDynamic, isDynamic, ih]

/-- Parts that do not stand in the tail are put one after the other. -/
theorem join_of_head {parts : List Part} (h : ∀ part ∈ parts, part.isTail = false) :
    join parts = parts.flatMap (·.octets) := by
  have hjoin : ∀ distance, joinFrom distance parts = (parts.flatMap (·.octets), []) := by
    intro distance
    induction parts with
    | nil => rfl
    | cons part rest ih =>
      obtain ⟨hpart, hrest⟩ := List.forall_mem_cons.1 h
      simp [joinFrom, hpart, ih hrest]
  simp [join, hjoin]

/-- A tuple of natural numbers before another one is encoded in one word for each. -/
theorem encodeArguments_naturals {bits : List Nat} {numbers : List Int} {size : Nat} {last : Int}
    (h : bits.length = numbers.length) :
    encodeArguments [.tuple (bits.map .uint), .uint size]
        [.tuple (numbers.map .integer), .integer last] = some ((numbers ++ [last]).flatMap word) := by
  have htuple : (Kind.tuple (bits.map .uint)).encode (.tuple (numbers.map .integer)) =
      some (numbers.flatMap word) := by
    simp only [Kind.encode, Value.items?, Kind.encodeEach_uint h, bind, Option.bind]
    rw [join_of_head (by simp), List.flatMap_map]
    rfl
  rw [encodeArguments, Kind.encodeEach, Kind.encodeEach, Kind.encodeEach, htuple, Kind.encode]
  simp only [Kind.isDynamic, Kind.anyDynamic_uint, bind, Option.bind, pure, Option.map]
  rw [join_of_head (by simp)]
  simp

/-- The number in a word of a call, the words being counted behind the selector. -/
def wordAt (call : Octets) (i : Nat) : Int :=
  Octets.toNat ((call.drop (4 + wordSize * i)).take wordSize)

theorem toNat_word {n : Int} (h : Within 256 n) : (Octets.toNat (word n) : Int) = n := by
  obtain ⟨hnonneg, hlt⟩ := h
  have hword : (n % Int.pow 2 (8 * wordSize)).toNat = n.toNat :=
    congrArg Int.toNat (Int.emod_eq_of_lt hnonneg hlt)
  have hbound : n.toNat < 256 ^ 32 := by
    have hpow : (256 : Nat) ^ 32 = 2 ^ 256 := by norm_num
    rw [hpow]
    omega
  rw [word, hword, Octets.toNat_ofNat, wordSize, Nat.mod_eq_of_lt hbound, Int.toNat_of_nonneg hnonneg]

theorem take_drop_flatMap_word (numbers : List Int) {i : Nat} (h : i < numbers.length) :
    ((numbers.flatMap word).drop (wordSize * i)).take wordSize = word numbers[i] := by
  induction numbers generalizing i with
  | nil => cases h
  | cons n numbers ih =>
    have hlength : (word n).length = wordSize := length_word n
    cases i with
    | zero =>
      rw [List.flatMap_cons, Nat.mul_zero, List.drop_zero, ← hlength, List.take_left]
      rfl
    | succ i =>
      have hdrop : wordSize * (i + 1) = (word n).length + wordSize * i := by
        rw [hlength]
        ring
      rw [List.flatMap_cons, hdrop, ← List.drop_drop, List.drop_left, ih (Nat.lt_of_succ_lt_succ h)]
      rfl

/-- Numbers that are encoded behind a selector are read back. -/
theorem map_wordAt {selector : Octets} {numbers : List Int} (hselector : selector.length = 4)
    (h : ∀ n ∈ numbers, Within 256 n) :
    (List.range numbers.length).map (wordAt (selector ++ numbers.flatMap word)) = numbers := by
  refine List.ext_getElem (by simp) fun i hi hi' => ?_
  have hword := take_drop_flatMap_word numbers hi'
  rw [List.getElem_map, List.getElem_range, wordAt, ← hselector, ← List.drop_drop, List.drop_left,
    hword, toNat_word (h _ (List.getElem_mem hi'))]

theorem length_selector (text : String) : (selector text).length = 4 := by
  rw [selector, List.length_take, Keccak.length_keccak256]
  rfl

end Rollout.Abi
