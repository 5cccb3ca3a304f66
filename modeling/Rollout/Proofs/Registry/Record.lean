import Rollout.Proofs.Address
import Rollout.Proofs.Registry.Publish
import Rollout.Proofs.Text.Lines
import Rollout.Registry.Record

/-!
# Reading a registry back

The text of a registry is plain text of one line for each contract (`toList_write`), and is read as
the addresses of the registry, in the order of the lines (`read_write`). Each line is read by itself
(`lineEntry?_lineOf`); since no contract has two lines, no line takes back what another one said. A registry that was
published to a file is read from the file (`publish_eq_ok`).
-/

namespace Rollout

/-! ## Characters of a line -/

theorem Contract.isVisible_of_mem_variableName {contract : Contract} {c : Char}
    (h : c ∈ contract.variableName.toList) : Text.isVisible c = true ∧ c ≠ '=' := by
  have hall : (contract.variableName.toList.all fun c => Text.isVisible c && c != '=') = true := by
    cases contract <;> decide
  have hc := List.all_eq_true.1 hall c h
  rw [Bool.and_eq_true, bne_iff_ne] at hc
  exact hc

theorem Contract.head?_variableName (contract : Contract) :
    contract.variableName.toList.head? = some 'E' := by
  cases contract <;> decide

theorem Hex.isVisible_of_isDigit {c : Char} (h : isDigit c = true) : Text.isVisible c = true := by
  rw [isDigit, digit?] at h
  simp only [Text.isVisible, Bool.and_eq_true, decide_eq_true_eq]
  split at h
  · next hc =>
    have hlow : 48 ≤ c.toNat := hc.1
    have hhigh : c.toNat ≤ 57 := hc.2
    omega
  · split at h
    · next hc =>
      have hlow : 97 ≤ c.toNat := hc.1
      have hhigh : c.toNat ≤ 102 := hc.2
      omega
    · split at h
      · next hc =>
        have hlow : 65 ≤ c.toNat := hc.1
        have hhigh : c.toNat ≤ 70 := hc.2
        omega
      · cases h

theorem Address.isVisible_of_mem_text {address : Address} {c : Char}
    (h : c ∈ address.text.toList) : Text.isVisible c = true := by
  rw [toList_text] at h
  rcases List.mem_cons.1 h with rfl | h
  · rfl
  · rcases List.mem_cons.1 h with rfl | h
    · rfl
    · exact Hex.isVisible_of_isDigit (isDigit_of_mem_withChecksum h)

theorem Address.isVacant_text (address : Address) : (Value.text address.text).isVacant = false := by
  rw [Value.isVacant, Bool.eq_false_iff, Ne, String.isEmpty_iff]
  intro hempty
  have hlist := address.toList_text
  rw [hempty] at hlist
  cases hlist

theorem Contract.rank_le_trans {α : Type} (contractOf : α → Contract) (a b c : α)
    (hab : decide ((contractOf a).rank ≤ (contractOf b).rank) = true)
    (hbc : decide ((contractOf b).rank ≤ (contractOf c).rank) = true) :
    decide ((contractOf a).rank ≤ (contractOf c).rank) = true := by
  simp only [decide_eq_true_eq] at hab hbc ⊢
  omega

theorem Contract.rank_le_total {α : Type} (contractOf : α → Contract) (a b : α) :
    (decide ((contractOf a).rank ≤ (contractOf b).rank) ||
      decide ((contractOf b).rank ≤ (contractOf a).rank)) = true := by
  simp only [Bool.or_eq_true, decide_eq_true_eq]
  omega

/-- Items that are sorted by the ranks of their contracts stand in the order of the ranks. -/
theorem Contract.pairwise_rank {α : Type} (contractOf : α → Contract) (items : List α) :
    (items.mergeSort fun a b => (contractOf a).rank ≤ (contractOf b).rank).Pairwise fun a b =>
      decide ((contractOf a).rank ≤ (contractOf b).rank) = true :=
  List.pairwise_mergeSort (Contract.rank_le_trans contractOf) (Contract.rank_le_total contractOf) items

theorem Contract.rank_injective {a b : Contract} (h : a.rank = b.rank) : a = b := by
  revert h; cases a <;> cases b <;> decide

theorem Contract.variableName_lt {a b : Contract} (h : a.rank < b.rank) :
    a.variableName < b.variableName := by
  revert h; cases a <;> cases b <;> decide

/-- Where items with different contracts are sorted by the ranks of the contracts, the names of the
variables strictly increase. -/
theorem Contract.pairwise_variableName {α : Type} (contractOf : α → Contract) {items : List α}
    (hnodup : (items.map contractOf).Nodup) :
    (items.mergeSort fun a b => (contractOf a).rank ≤ (contractOf b).rank).Pairwise fun a b =>
      (contractOf a).variableName < (contractOf b).variableName := by
  have hdistinct : ((items.mergeSort fun a b =>
      (contractOf a).rank ≤ (contractOf b).rank).map contractOf).Nodup :=
    ((List.mergeSort_perm items _).map contractOf).nodup_iff.2 hnodup
  refine ((Contract.pairwise_rank contractOf items).and (List.pairwise_map.1 hdistinct)).imp fun {a b} h => ?_
  have hle : (contractOf a).rank ≤ (contractOf b).rank := of_decide_eq_true h.1
  exact Contract.variableName_lt (Nat.lt_of_le_of_ne hle fun e => h.2 (Contract.rank_injective e))

namespace Registry

/-- The line of a contract and its address. -/
def lineOf (pair : Contract × Address) : RegistryEntry := ⟨pair.1, pair.2.text⟩

/-- The addresses of a registry in the order of the lines. -/
def sorted (registry : Registry) : List (Contract × Address) :=
  registry.addresses.mergeSort fun a b => a.1.rank ≤ b.1.rank

/-- Contracts with their addresses in the order of the lines; those of one contract keep their order. -/
def inOrder (pairs : List (Contract × Address)) : List (Contract × Address) :=
  pairs.mergeSort fun a b => a.1.rank ≤ b.1.rank

/-- Gives contracts their addresses, one after another. -/
def setAll (known pairs : List (Contract × Address)) : List (Contract × Address) :=
  pairs.foldl (fun known pair => setAddress known pair.1 pair.2) known

theorem toList_text_lineOf (pair : Contract × Address) :
    (lineOf pair).text.toList = pair.1.variableName.toList ++ '=' :: pair.2.text.toList := by
  rw [RegistryEntry.text, String.toList_append, String.toList_append, List.append_assoc]
  rfl

theorem isVisible_of_mem_lineOf {pair : Contract × Address} {c : Char}
    (h : c ∈ (lineOf pair).text.toList) : Text.isVisible c = true := by
  rw [toList_text_lineOf] at h
  rcases List.mem_append.1 h with h | h
  · exact (Contract.isVisible_of_mem_variableName h).1
  · rcases List.mem_cons.1 h with rfl | h
    · rfl
    · exact Address.isVisible_of_mem_text h

/-! ## One line -/

/-- What a line with an equals sign says: the name stands before the first one, and a number sign counts
only in front of it. -/
theorem lineEntry?_assignment {name : List Char} (hname : '=' ∉ name) (value : List Char) :
    lineEntry? (name ++ '=' :: value) =
      if (Text.stripLeft name).head? = some '#' then none
      else (Contract.ofVariable? (String.ofList (Text.strip name))).bind fun contract =>
        if (Text.strip value).isEmpty then none else some (contract, Text.strip value) := by
  have hhead : (Text.stripLeft name ++ '=' :: Text.stripRight value).head? = some '#' ↔
      (Text.stripLeft name).head? = some '#' := by
    cases Text.stripLeft name with
    | nil => simp
    | cons c rest => rfl
  have hbefore : '=' ∉ Text.stripLeft name := fun h => hname (Text.mem_of_mem_stripLeft h)
  unfold lineEntry?
  rw [Text.strip_append (by decide)]
  simp only [hhead, Text.splitFirst?_append hbefore, Option.bind_eq_bind, Option.bind_some,
    Text.strip_stripLeft, Text.strip_stripRight]
  rfl

theorem lineEntry?_variable (contract : Contract) (value : List Char) :
    lineEntry? (contract.variableName.toList ++ '=' :: value) =
      if (Text.strip value).isEmpty then none else some (contract, Text.strip value) := by
  have hvisible : ∀ c ∈ contract.variableName.toList, Text.isVisible c = true :=
    fun _ h => (Contract.isVisible_of_mem_variableName h).1
  have hname : '=' ∉ contract.variableName.toList :=
    fun h => (Contract.isVisible_of_mem_variableName h).2 rfl
  have hfirst : (Text.stripLeft contract.variableName.toList).head? ≠ some '#' := by
    rw [Text.stripLeft, Text.dropWhile_isBlank_eq_self hvisible, Contract.head?_variableName]
    decide
  rw [lineEntry?_assignment hname, if_neg hfirst, Text.strip_eq_self hvisible, String.ofList_toList,
    Contract.ofVariable?_variableName]
  rfl

/-- A line is read as the contract and the address that it was written for. -/
theorem lineEntry?_lineOf (pair : Contract × Address) :
    lineEntry? (lineOf pair).text.toList = some (pair.1, pair.2.text.toList) := by
  have hvalue : Text.strip pair.2.text.toList = pair.2.text.toList :=
    Text.strip_eq_self fun _ h => Address.isVisible_of_mem_text h
  have hfull : pair.2.text.toList.isEmpty = false := by
    rw [Address.toList_text]
    rfl
  rw [toList_text_lineOf, lineEntry?_variable, hvalue, hfull]
  rfl

/-! ## One line after another -/

theorem setAddress_of_not_mem {known : List (Contract × Address)} {contract : Contract}
    (h : contract ∉ known.map (·.1)) (address : Address) :
    setAddress known contract address = known ++ [(contract, address)] := by
  induction known with
  | nil => rfl
  | cons pair rest ih =>
    obtain ⟨other, old⟩ := pair
    rw [List.map_cons, List.mem_cons, not_or] at h
    rw [setAddress, if_neg (Ne.symm h.1), ih h.2]
    rfl

theorem not_mem_of_nodup {known rest : List (Contract × Address)} {pair : Contract × Address}
    (h : ((known ++ pair :: rest).map (·.1)).Nodup) : pair.1 ∉ known.map (·.1) := by
  intro hmem
  rw [List.map_append, List.nodup_append] at h
  exact h.2.2 _ hmem _ (List.mem_map_of_mem List.mem_cons_self) rfl

/-- Different contracts that have no address yet are added to what is known. -/
theorem setAll_of_nodup {known pairs : List (Contract × Address)}
    (h : ((known ++ pairs).map (·.1)).Nodup) : setAll known pairs = known ++ pairs := by
  induction pairs generalizing known with
  | nil => exact (List.append_nil known).symm
  | cons pair rest ih =>
    rw [setAll, List.foldl_cons, setAddress_of_not_mem (not_mem_of_nodup h), ← setAll, ih (by rwa [List.append_assoc]),
      List.append_assoc]
    rfl

/-- Lines give the contracts their addresses, one after another. -/
theorem readLines_lineOf (path : String) (number : Nat) (known pairs : List (Contract × Address)) :
    readLines path number (pairs.map fun pair => (lineOf pair).text.toList) known =
      .ok (setAll known pairs) := by
  induction pairs generalizing number known with
  | nil => rfl
  | cons pair rest ih =>
    rw [List.map_cons, readLines, lineEntry?_lineOf]
    simp only [String.ofList_toList, Address.ofValue_text]
    rw [ih]
    rfl

/-! ## The whole text -/

theorem sorted_perm (registry : Registry) : registry.sorted.Perm registry.addresses :=
  List.mergeSort_perm _ _

theorem sortEntries_lineOf (pairs : List (Contract × Address)) :
    sortEntries (pairs.map lineOf) = (inOrder pairs).map lineOf := by
  rw [inOrder, List.map_mergeSort (s := fun a b => decide (a.contract.rank ≤ b.contract.rank))]
  · rfl
  · intro a _ b _
    rfl

theorem entries_eq (registry : Registry) : registry.entries = registry.sorted.map lineOf :=
  sortEntries_lineOf registry.addresses

theorem pairwise_inOrder (pairs : List (Contract × Address)) :
    (inOrder pairs).Pairwise fun a b => decide (a.1.rank ≤ b.1.rank) = true :=
  Contract.pairwise_rank (·.1) pairs

theorem inOrder_sorted (registry : Registry) : inOrder registry.sorted = registry.sorted :=
  List.mergeSort_of_pairwise (pairwise_inOrder registry.addresses)

/-- Contracts and their addresses are written as their lines, in order. -/
theorem toList_write_lineOf (pairs : List (Contract × Address)) :
    (write (pairs.map lineOf)).toList =
      ((inOrder pairs).map fun pair => (lineOf pair).text.toList).flatMap fun line =>
        line ++ ['\n'] := by
  rw [write, sortEntries_lineOf, String.toList_join]
  simp only [List.flatMap_map, String.toList_append]
  rfl

/-- A registry is written as the lines of its addresses, in order. -/
theorem toList_write (registry : Registry) :
    (write registry.entries).toList =
      (registry.sorted.map fun pair => (lineOf pair).text.toList).flatMap fun line =>
        line ++ ['\n'] := by
  rw [entries_eq, toList_write_lineOf, inOrder_sorted]

/-- **Reading lines back.** The lines of contracts and their addresses are read one after another, in
order. -/
theorem read_write_lineOf (pairs : List (Contract × Address)) (path : String) :
    read path (write (pairs.map lineOf)).toList = .ok (setAll [] (inOrder pairs)) := by
  rw [read, toList_write_lineOf, Text.lines_flatMap, readLines_lineOf]
  intro line hline hbreak
  obtain ⟨pair, -, rfl⟩ := List.mem_map.1 hline
  exact Text.ne_of_isVisible (isVisible_of_mem_lineOf hbreak) (by decide) rfl

theorem setAll_sorted {registry : Registry} (h : registry.contracts.Nodup) :
    setAll [] registry.sorted = registry.sorted :=
  setAll_of_nodup ((registry.sorted_perm.map _).nodup_iff.2 h)

/-- **Reading a registry back.** The text of a registry is read as its addresses. -/
theorem read_write {registry : Registry} (h : registry.contracts.Nodup) (path : String) :
    read path (write registry.entries).toList = .ok registry.sorted := by
  rw [entries_eq, read_write_lineOf, inOrder_sorted, setAll_sorted h]

/-- The text of lines consists of visible characters and line feeds. -/
theorem isVisible_of_mem_write {pairs : List (Contract × Address)} {c : Char}
    (h : c ∈ (write (pairs.map lineOf)).toList) : Text.isVisible c = true ∨ c = '\n' := by
  rw [toList_write_lineOf] at h
  obtain ⟨line, hline, hc⟩ := List.mem_flatMap.1 h
  obtain ⟨pair, -, rfl⟩ := List.mem_map.1 hline
  rcases List.mem_append.1 hc with hc | hc
  · exact Or.inl (isVisible_of_mem_lineOf hc)
  · exact Or.inr (List.mem_singleton.1 hc)

/-- The text of lines that a file holds is read as it was written. -/
theorem readText_of_write {pairs : List (Contract × Address)} {tree : File.Tree} {path : String}
    (h : tree.read path = .ok (Utf8.encode (write (pairs.map lineOf)))) :
    tree.readText path = .ok (write (pairs.map lineOf)).toList := by
  refine File.Tree.readText_of_read h fun hreturn => ?_
  rcases isVisible_of_mem_write hreturn with h | h
  · exact absurd h (by decide)
  · exact absurd h (by decide)

/-- Lines are loaded from the file that holds their text. -/
theorem load_lineOf {pairs : List (Contract × Address)} {path : String} {s : Session}
    (h : s.files.read path = .ok (Utf8.encode (write (pairs.map lineOf)))) :
    load path s = .ok (setAll [] (inOrder pairs)) s := by
  have hget : (get : Action Session) s = .ok s s := rfl
  rw [load, Action.bind_of_ok hget, readText_of_write h]
  refine (Action.bind_of_ok rfl).trans ?_
  rw [read_write_lineOf]
  rfl

/-- A registry is loaded from the file that holds its text. -/
theorem load_of_read {registry : Registry} {path : String} {s : Session}
    (hnodup : registry.contracts.Nodup)
    (h : s.files.read path = .ok (Utf8.encode (write registry.entries))) :
    load path s = .ok registry.sorted s := by
  rw [entries_eq] at h
  rw [load_lineOf h, inOrder_sorted, setAll_sorted hnodup]

/-! ## Supplying what was read -/

/-- Addresses that were sorted are in the order of the lines already. -/
theorem entries_of_sorted (registry : Registry) (predeployed : List Contract) :
    (Registry.mk registry.sorted predeployed).entries = registry.entries := by
  rw [entries_eq, entries_eq]
  exact congrArg (List.map lineOf) (inOrder_sorted registry)

/-- The address of a contract that has none yet is recorded as it is. -/
theorem record_text {registry : Registry} {contract : Contract} (h : contract ∉ registry.contracts)
    (address : Address) :
    registry.record contract (.text address.text) =
      .ok (address, { registry with addresses := registry.addresses ++ [(contract, address)] }) :=
  record_eq_ok.2 ⟨Address.read_text address, insert?_of_none (get?_eq_none_iff.2 h)⟩

/-- Addresses of different contracts that have none yet are recorded as they are. -/
theorem recordAll_toSupply {registry : Registry} {addresses : List (Contract × Address)}
    (h : ((registry.addresses ++ addresses).map (·.1)).Nodup) :
    registry.recordAll (toSupply addresses) =
      .ok { registry with addresses := registry.addresses ++ addresses } := by
  induction addresses generalizing registry with
  | nil =>
    rw [List.append_nil]
    rfl
  | cons entry rest ih =>
    have hrecord := record_text (not_mem_of_nodup h) entry.2
    show registry.recordAll ((entry.1, .text entry.2.text) :: toSupply rest) = _
    rw [recordAll, Address.isVacant_text]
    simp only [hrecord, bind, Except.bind, Bool.false_eq_true, if_false]
    rw [ih]
    · rw [List.append_assoc]
      rfl
    · rwa [List.append_assoc]

/-- Addresses of different contracts make up a registry in which all of them are supplied. -/
theorem ofSupply_toSupply {addresses : List (Contract × Address)}
    (h : (addresses.map (·.1)).Nodup) :
    ofSupply (toSupply addresses) = .ok ⟨addresses, addresses.map (·.1)⟩ := by
  have hall : ({} : Registry).recordAll (toSupply addresses) = .ok _ := recordAll_toSupply h
  rw [ofSupply, hall]
  rfl

/-! ## Publishing -/

/-- The text that a registry was published as: the end of the output, or what is read from the
file. -/
def PublishedAs (text : String) (s : Session) : Option File.Path → Session → Prop
  | none, s' => s'.output = s.output ++ text
  | some path, s' => s'.files.readText path.text = .ok text.toList

/-- A registry that is published is in the output, or can be read from the file. -/
theorem publish_eq_ok {registry : Registry} {path : Option File.Path} {s s' : Session}
    (h : publish registry.entries path s = .ok () s') :
    PublishedAs (write registry.entries) s path s' := by
  cases path with
  | none =>
    cases h
    rfl
  | some path =>
    obtain ⟨hstores, -⟩ := publish_stores h
    rw [entries_eq] at hstores ⊢
    exact readText_of_write hstores.read

end Registry

end Rollout
