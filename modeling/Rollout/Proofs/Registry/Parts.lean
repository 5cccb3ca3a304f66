import Mathlib.Data.List.Induction
import Mathlib.Logic.Relation
import Rollout.Proofs.Registry.RoundTrip
import Rollout.Proofs.Text.Lines

/-!
# Reading a registry in parts

The lines of a text are read one after the other, and what a line does depends on the lines before it
only through the addresses that they gave. So a text of two parts is read as its second part on top of its
first one (`readLines_append`), and lines that say nothing can stand anywhere (`load_compositional`).
-/

namespace Rollout.Registry

variable {path text text' : String} {number : Nat} {lines : List (List Char)} {line : List Char}
  {known addresses : List (Contract × Address)} {fault : Fault}

/-! ## One map over another -/

/-- A map of addresses is a first one overridden by a second one: the contracts of the first one keep their
places and new ones come behind them, and the second one decides where both have an address. -/
structure Overridden (first second whole : List (Contract × Address)) : Prop where
  places : whole.map (·.1) =
    first.map (·.1) ++ (second.map (·.1)).filter fun contract => contract ∉ first.map (·.1)
  lookup : ∀ contract, whole.lookup contract = (second.lookup contract).or (first.lookup contract)

theorem map_fst_setAddress (known : List (Contract × Address)) (contract : Contract)
    (address : Address) : (setAddress known contract address).map (·.1) =
      if contract ∈ known.map (·.1) then known.map (·.1) else known.map (·.1) ++ [contract] := by
  by_cases h : contract ∈ known.map (·.1)
  · rw [if_pos h, map_fst_setAddress_of_mem h]
  · rw [if_neg h, setAddress_of_not_mem h, List.map_append]
    rfl

/-- Addresses that are set one after another on top of others override them. -/
theorem overridden_setAll (known pairs : List (Contract × Address)) :
    Overridden known (setAll [] pairs) (setAll known pairs) where
  places := by
    induction pairs using List.reverseRecOn with
    | nil => simp [setAll]
    | append_singleton pairs pair ih =>
      have hlast : ∀ others, setAll others (pairs ++ [pair]) =
          setAddress (setAll others pairs) pair.1 pair.2 := by
        intro others
        rw [setAll, List.foldl_append]
        rfl
      rw [hlast, hlast, map_fst_setAddress, map_fst_setAddress, ih]
      by_cases hset : pair.1 ∈ (setAll [] pairs).map (·.1)
      · by_cases hknown : pair.1 ∈ known.map (·.1) <;> simp_all
      · by_cases hknown : pair.1 ∈ known.map (·.1) <;> simp_all
  lookup contract := by
    rw [lookup_setAll, lookup_setAll]
    cases (addressesOf pairs contract).getLast? <;> rfl

/-! ## Line by line -/

/-- The contract and the address of a line that says something, if its value is an address. -/
def entryAddress? (entry : Contract × List Char) : Option (Contract × Address) :=
  (Address.ofValue (.text (String.ofList entry.2))).toOption.map fun address => (entry.1, address)

/-- Lines are read just if every line that says something has an address; the addresses are then set one
after another. -/
theorem readLines_eq_ok_iff : readLines path number lines known = .ok addresses ↔
    ∃ pairs, (lines.filterMap lineEntry?).mapM entryAddress? = some pairs ∧
      addresses = setAll known pairs := by
  induction lines generalizing number known with
  | nil =>
    simp [readLines, setAll, eq_comm]
  | cons line rest ih =>
    unfold readLines
    cases hentry : lineEntry? line with
    | none =>
      rw [List.filterMap_cons_none hentry]
      exact ih
    | some entry =>
      obtain ⟨contract, value⟩ := entry
      rw [List.filterMap_cons_some hentry, List.mapM_cons]
      cases haddress : Address.ofValue (.text (String.ofList value)) with
      | error flaw => simp [entryAddress?, haddress, Except.toOption]
      | ok address =>
        have hfirst : entryAddress? (contract, value) = some (contract, address) := by
          simp [entryAddress?, haddress, Except.toOption]
        simp only [haddress, hfirst, ih, Option.bind_eq_bind, Option.bind_some, Option.bind_eq_some_iff,
          Option.pure_def, Option.some.injEq]
        constructor
        · rintro ⟨pairs, hpairs, rfl⟩
          exact ⟨_, ⟨pairs, hpairs, rfl⟩, rfl⟩
        · rintro ⟨_, ⟨pairs, hpairs, rfl⟩, rfl⟩
          exact ⟨pairs, hpairs, rfl⟩

/-- Lines are read one part after the other. -/
theorem readLines_append (path : String) (number : Nat) (first second : List (List Char))
    (known : List (Contract × Address)) : readLines path number (first ++ second) known =
      (readLines path number first known).bind
        (readLines path (number + first.length) second) := by
  induction first generalizing number known with
  | nil => rfl
  | cons line rest ih =>
    have hnumber : number + (line :: rest).length = number + 1 + rest.length := by
      rw [List.length_cons]
      omega
    rw [hnumber, List.cons_append]
    unfold readLines
    cases lineEntry? line with
    | none => exact ih _ _
    | some entry =>
      cases haddress : Address.ofValue (.text (String.ofList entry.2)) with
      | error flaw => simp [haddress, Except.bind]
      | ok address =>
        simp only [haddress]
        exact ih _ _

/-- Lines that cannot be read fail at a line that is the same wherever the lines stand and whatever was read
before them. -/
theorem readLines_eq_error (h : readLines path number lines known = .error fault) :
    ∃ contract value passed, ∀ path number known, readLines path number lines known =
      .error (.deployment (.invalidEntry value path (number + passed)) (some contract)) := by
  induction lines generalizing number known with
  | nil => cases h
  | cons line rest ih =>
    unfold readLines at h ⊢
    cases hentry : lineEntry? line with
    | none =>
      rw [hentry] at h
      obtain ⟨contract, value, passed, hrest⟩ := ih h
      refine ⟨contract, value, passed + 1, fun path number known => ?_⟩
      rw [hrest path (number + 1) known]
      have hnumber : number + 1 + passed = number + (passed + 1) := by omega
      rw [hnumber]
    | some entry =>
      obtain ⟨contract, value⟩ := entry
      rw [hentry] at h
      cases haddress : Address.ofValue (.text (String.ofList value)) with
      | error flaw =>
        refine ⟨contract, String.ofList value, 0, fun path number known => ?_⟩
        simp only [haddress]
        rfl
      | ok address =>
        simp only [haddress] at h
        obtain ⟨contract', value', passed, hrest⟩ := ih h
        refine ⟨contract', value', passed + 1, fun path number known => ?_⟩
        simp only [haddress]
        rw [hrest path (number + 1)]
        have hnumber : number + 1 + passed = number + (passed + 1) := by omega
        rw [hnumber]

/-! ## Lines that say nothing -/

/-- A line says nothing. -/
inductive IsIdle : List Char → Prop where
  | blank {line : List Char} : (∀ c ∈ line, Text.isBlank c = true) → IsIdle line
  | comment {blanks rest : List Char} : (∀ c ∈ blanks, Text.isBlank c = true) →
    IsIdle (blanks ++ '#' :: rest)
  | unassigned {line : List Char} : '=' ∉ line → IsIdle line
  | unknown {name value : List Char} : '=' ∉ name →
    (∀ contract : Contract, Text.strip name ≠ contract.variableName.toList) →
    IsIdle (name ++ '=' :: value)
  | unset {name value : List Char} : '=' ∉ name → (∀ c ∈ value, Text.isBlank c = true) →
    IsIdle (name ++ '=' :: value)

theorem IsIdle.entry_eq_none (h : IsIdle line) : lineEntry? line = none := by
  cases h with
  | blank hblank =>
    unfold lineEntry?
    rw [Text.strip_eq_nil_of_blank hblank]
    rfl
  | comment hblanks =>
    unfold lineEntry?
    rw [Text.strip_append (by decide), Text.stripLeft_of_blank hblanks]
    rfl
  | unassigned hline =>
    have hsplit : Text.splitFirst? '=' (Text.strip line) = none :=
      Text.splitFirst?_of_not_mem fun h => hline (Text.mem_of_mem_strip h)
    unfold lineEntry?
    simp [hsplit]
  | @unknown name value hname hunknown =>
    have hnone : Contract.ofVariable? (String.ofList (Text.strip name)) = none := by
      unfold Contract.ofVariable?
      rw [List.find?_eq_none]
      intro contract _ hcontract
      refine hunknown contract ?_
      rw [of_decide_eq_true hcontract, String.toList_ofList]
    rw [lineEntry?_assignment hname, hnone]
    simp
  | @unset name value hname hvalue =>
    rw [lineEntry?_assignment hname, Text.strip_eq_nil_of_blank hvalue]
    simp

/-! ## Texts in files -/

/-- A text can be inserted into by idle lines, one after another. -/
def InsertsIdle (text text' : String) : Prop :=
  ∃ line, IsIdle line ∧ Text.Unbroken line ∧ Text.Inserts line text.toList text'.toList

/-- A file that holds a text. -/
structure Source (text : String) where
  path : String
  session : Session
  holds : session.files.read path = .ok (Utf8.encode text)

/-- The addresses in the file. -/
def Source.load (source : Source text) : EStateM.Result Fault Session (List (Contract × Address)) :=
  Registry.load source.path source.session

theorem Source.load_eq (source : Source text) : source.load = Action.ofExcept
    (readLines source.path 1 (Text.linesOf text.toList) []) source.session := by
  have hget : (get : Action Session) source.session = .ok source.session source.session := rfl
  rw [Source.load, Registry.load, Action.bind_of_ok hget, File.Tree.readText_eq source.holds]
  rfl

theorem Source.load_eq_ok {source : Source text} {s : Session} :
    source.load = .ok addresses s ↔
      readLines source.path 1 (Text.linesOf text.toList) [] = .ok addresses ∧ source.session = s := by
  rw [source.load_eq, Action.ofExcept_eq_ok]

theorem Source.load_eq_error {source : Source text} {s : Session} :
    source.load = .error fault s ↔
      readLines source.path 1 (Text.linesOf text.toList) [] = .error fault ∧ source.session = s := by
  rw [source.load_eq, Action.ofExcept_eq_error]

/-- What is read of a text of two parts, given what is read of each part. -/
structure ReadsInTurn {first second : String} (one : Source first) (two : Source second)
    (whole : Source (first ++ second)) : Prop where
  /-- Where both parts are read, the second one overrides the first one. -/
  both : ∀ known addresses s s', one.load = .ok known s → two.load = .ok addresses s' →
    ∃ all, whole.load = .ok all whole.session ∧ Overridden known addresses all ∧
      (all.map (·.1)).Nodup
  /-- A line of the first part that holds no address is told as it is told of the part. -/
  firstFails : ∀ fault s, one.load = .error fault s → ∃ contract value number,
    fault = .deployment (.invalidEntry value one.path number) (some contract) ∧
      whole.load = .error (.deployment (.invalidEntry value whole.path number) (some contract))
        whole.session
  /-- If only the second part has such a line, its number counts the lines of the first part, too. -/
  secondFails : ∀ known s fault s', one.load = .ok known s → two.load = .error fault s' →
    ∃ contract value number,
      fault = .deployment (.invalidEntry value two.path number) (some contract) ∧
        whole.load = .error (.deployment (.invalidEntry value whole.path
          (number + (Text.linesOf first.toList).length)) (some contract)) whole.session

theorem readsInTurn {first second : String} (one : Source first) (two : Source second)
    (whole : Source (first ++ second)) (h : first = "" ∨ first.toList.getLast? = some '\n') :
    ReadsInTurn one two whole := by
  have hlines : Text.linesOf (first ++ second).toList =
      Text.linesOf first.toList ++ Text.linesOf second.toList := by
    rw [String.toList_append]
    refine Text.linesOf_append (h.imp_left ?_) _
    rintro rfl
    rfl
  refine ⟨?both, ?firstFails, ?secondFails⟩
  case both =>
    intro known addresses s s' hone htwo
    obtain ⟨pairs, hpairs, hknown⟩ := readLines_eq_ok_iff.1 (Source.load_eq_ok.1 hone).1
    obtain ⟨later, hlater, rfl⟩ := readLines_eq_ok_iff.1 (Source.load_eq_ok.1 htwo).1
    have hwhole : readLines whole.path 1 (Text.linesOf (first ++ second).toList) [] =
        .ok (setAll known later) := by
      rw [hlines, readLines_append, readLines_eq_ok_iff.2 ⟨pairs, hpairs, hknown⟩]
      exact readLines_eq_ok_iff.2 ⟨later, hlater, rfl⟩
    exact ⟨_, Source.load_eq_ok.2 ⟨hwhole, rfl⟩, overridden_setAll known later,
      nodup_readLines hwhole List.nodup_nil⟩
  case firstFails =>
    intro fault s hone
    obtain ⟨contract, value, passed, hfails⟩ := readLines_eq_error (Source.load_eq_error.1 hone).1
    refine ⟨contract, value, 1 + passed, ?_, Source.load_eq_error.2 ⟨?_, rfl⟩⟩
    · exact Except.error.inj ((Source.load_eq_error.1 hone).1.symm.trans (hfails _ _ _))
    · rw [hlines, readLines_append, hfails]
      rfl
  case secondFails =>
    intro known s fault s' hone htwo
    obtain ⟨pairs, hpairs, hknown⟩ := readLines_eq_ok_iff.1 (Source.load_eq_ok.1 hone).1
    obtain ⟨contract, value, passed, hfails⟩ := readLines_eq_error (Source.load_eq_error.1 htwo).1
    refine ⟨contract, value, 1 + passed, ?_, Source.load_eq_error.2 ⟨?_, rfl⟩⟩
    · exact Except.error.inj ((Source.load_eq_error.1 htwo).1.symm.trans (hfails _ _ _))
    · rw [hlines, readLines_append, readLines_eq_ok_iff.2 ⟨pairs, hpairs, hknown⟩]
      have hnumber : 1 + (Text.linesOf first.toList).length + passed =
          1 + passed + (Text.linesOf first.toList).length := by omega
      rw [← hnumber]
      exact hfails _ _ _

/-- Idle lines that are inserted change nothing about what the lines of a text say. -/
theorem said_of_insertsIdle (h : Relation.ReflTransGen InsertsIdle text text') :
    (Text.linesOf text'.toList).filterMap lineEntry? =
      (Text.linesOf text.toList).filterMap lineEntry? := by
  induction h with
  | refl => rfl
  | tail _ hlast ih =>
    obtain ⟨line, hidle, hunbroken, hinserts⟩ := hlast
    rw [hinserts.filterMap_linesOf rfl hidle.entry_eq_none hunbroken, ih]

/-- **Reading a registry in parts.** A text of two parts, the first of which ends a line, is read as the
second part on top of the first one; and lines that say nothing can be inserted into a text, wherever lines
end and however they do, without changing what is read. -/
theorem load_compositional :
    (∀ {first second : String} (one : Source first) (two : Source second)
      (whole : Source (first ++ second)), first = "" ∨ first.toList.getLast? = some '\n' →
        ReadsInTurn one two whole) ∧
    ∀ {text text' : String} (source : Source text) (source' : Source text'),
      Relation.ReflTransGen InsertsIdle text text' → ∀ addresses,
        source'.load = .ok addresses source'.session ↔
          source.load = .ok addresses source.session := by
  refine ⟨readsInTurn, fun {text text'} source source' hinserts addresses => ?_⟩
  have hsaid := said_of_insertsIdle hinserts
  rw [Source.load_eq_ok, Source.load_eq_ok, readLines_eq_ok_iff, readLines_eq_ok_iff, hsaid]
  simp

/-- A file that holds just the text. -/
def Source.of (text : String) : Source text where
  path := "deploy.env"
  session := { files := ⟨[(["deploy.env"], .file (Utf8.encode text))]⟩ }
  holds := rfl

/-- A text whose second part has a line without an address, and its first part below a comment. -/
theorem load_compositional_of_comment :
    let first := "ESPRESSO_SEQUENCER_HOTSHOT_ADDRESS=0x1111111111111111111111111111111111111111\n"
    let second := "ESPRESSO_SEQUENCER_PLONK_VERIFIER_ADDRESS=0x2222"
    let commented := "# addresses\r\n" ++ first
    first.toList.getLast? = some '\n' ∧
    ReadsInTurn (.of first) (.of second) (.of (first ++ second)) ∧
    InsertsIdle first commented ∧
    ∀ addresses, (Source.of commented).load = .ok addresses (Source.of commented).session ↔
      (Source.of first).load = .ok addresses (Source.of first).session := by
  intro first second commented
  have hlast : first.toList.getLast? = some '\n' := by decide
  have hcomment : IsIdle ([] ++ "# addresses".toList) := .comment (by simp)
  have hunbroken : Text.Unbroken "# addresses".toList := ⟨by decide, by decide⟩
  have hinserts : Text.Inserts "# addresses".toList first.toList commented.toList := by
    rw [String.toList_append]
    show Text.Inserts _ ([] ++ first.toList)
      ([] ++ "# addresses".toList ++ ['\r', '\n'] ++ first.toList)
    exact .between (.inl rfl) (by decide)
  have hidle : InsertsIdle first commented := ⟨_, hcomment, hunbroken, hinserts⟩
  exact ⟨hlast, load_compositional.1 _ _ _ (.inr hlast), hidle,
    load_compositional.2 _ _ (.single hidle)⟩

end Rollout.Registry
