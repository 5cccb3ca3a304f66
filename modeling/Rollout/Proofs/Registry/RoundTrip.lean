import Rollout.Proofs.Registry.Last
import Rollout.Proofs.Script

/-!
# Writing and reading are inverse

Lines are sorted before they are written, and lines of one contract keep their order. So what is written
depends only on the addresses that each contract has in the list, from the first to the last, and what is
read back is the last of them, contract by contract in the order of the lines. A registry that is read
back is made up of the same lines (`publish_inverse`).
-/

namespace Rollout.Registry

variable {pairs other known : List (Contract × Address)} {contract : Contract} {address : Address}
  {registry next : Registry}

/-! ## Sorting -/

/-- Sorting keeps the order of what belongs to one contract. -/
theorem filter_mergeSort {α : Type} (contractOf : α → Contract) (items : List α)
    (contract : Contract) :
    (items.mergeSort fun a b => (contractOf a).rank ≤ (contractOf b).rank).filter
        (fun item => contractOf item = contract) =
      items.filter fun item => contractOf item = contract := by
  -- what belongs to one contract is sorted as it stands, and so a part of the sorted items
  have hsorted : (items.filter fun item => contractOf item = contract).Pairwise fun a b =>
      decide ((contractOf a).rank ≤ (contractOf b).rank) = true := by
    refine List.pairwise_of_forall_mem_list fun a ha b hb => ?_
    have hcontract : contractOf a = contract := by simpa using (List.mem_filter.1 ha).2
    have hcontract' : contractOf b = contract := by simpa using (List.mem_filter.1 hb).2
    simp [hcontract, hcontract']
  have hpart := List.sublist_mergeSort (Contract.rank_le_trans contractOf)
    (Contract.rank_le_total contractOf) hsorted List.filter_sublist
  have hfilter := hpart.filter fun item => decide (contractOf item = contract)
  rw [List.filter_filter] at hfilter
  simp only [Bool.and_self] at hfilter
  refine (hfilter.eq_of_length ?_).symm
  exact ((List.mergeSort_perm items _).filter _).length_eq.symm

theorem rank_head_le {α : Type} {contractOf : α → Contract} {first item : α} {items : List α}
    (hsorted : (first :: items).Pairwise fun a b => (contractOf a).rank ≤ (contractOf b).rank)
    (hitem : item ∈ first :: items) : (contractOf first).rank ≤ (contractOf item).rank := by
  rcases List.mem_cons.1 hitem with rfl | hitem
  · exact Nat.le_refl _
  · exact List.rel_of_pairwise_cons hsorted hitem

/-- Items that are sorted are determined by what belongs to each contract. -/
theorem eq_of_filter_eq {α : Type} (contractOf : α → Contract) {items others : List α}
    (hitems : items.Pairwise fun a b => (contractOf a).rank ≤ (contractOf b).rank)
    (hothers : others.Pairwise fun a b => (contractOf a).rank ≤ (contractOf b).rank)
    (h : ∀ contract, items.filter (fun item => contractOf item = contract) =
      others.filter fun item => contractOf item = contract) : items = others := by
  induction items generalizing others with
  | nil =>
    cases others with
    | nil => rfl
    | cons b others => simpa using h (contractOf b)
  | cons a items ih =>
    cases others with
    | nil => simpa using h (contractOf a)
    | cons b others =>
      have hsame : contractOf a = contractOf b := by
        have ha : a ∈ b :: others := by
          have hmem : a ∈ (a :: items).filter fun item => contractOf item = contractOf a := by simp
          rw [h] at hmem
          exact (List.mem_filter.1 hmem).1
        have hb : b ∈ a :: items := by
          have hmem : b ∈ (b :: others).filter fun item => contractOf item = contractOf b := by simp
          rw [← h] at hmem
          exact (List.mem_filter.1 hmem).1
        exact Contract.rank_injective
          (Nat.le_antisymm (rank_head_le hitems hb) (rank_head_le hothers ha))
      have hfirst := h (contractOf a)
      rw [List.filter_cons_of_pos (by simp), List.filter_cons_of_pos (by simp [hsame])] at hfirst
      obtain ⟨rfl, -⟩ := List.cons.inj hfirst
      have hrest : items = others := by
        refine ih hitems.of_cons hothers.of_cons fun contract => ?_
        have hcontract := h contract
        by_cases hmine : contractOf a = contract
        · rw [List.filter_cons_of_pos (by simpa using hmine),
            List.filter_cons_of_pos (by simpa using hmine)] at hcontract
          exact (List.cons.inj hcontract).2
        · rwa [List.filter_cons_of_neg (by simpa using hmine),
            List.filter_cons_of_neg (by simpa using hmine)] at hcontract
      rw [hrest]

/-- The addresses that a list has for a contract, from the first to the last. -/
def addressesOf (pairs : List (Contract × Address)) (contract : Contract) : List Address :=
  (pairs.filter fun pair => pair.1 = contract).map (·.2)

theorem addressesOf_inOrder (pairs : List (Contract × Address)) (contract : Contract) :
    addressesOf (inOrder pairs) contract = addressesOf pairs contract :=
  congrArg (List.map Prod.snd) (filter_mergeSort Prod.fst pairs contract)

theorem filter_eq_map_addressesOf (pairs : List (Contract × Address)) (contract : Contract) :
    pairs.filter (fun pair => pair.1 = contract) =
      (addressesOf pairs contract).map fun address => (contract, address) := by
  rw [addressesOf, List.map_map]
  refine (List.map_id _).symm.trans (List.map_congr_left fun pair hpair => ?_)
  have hcontract : pair.1 = contract := by simpa using (List.mem_filter.1 hpair).2
  exact Prod.ext hcontract rfl

/-- What is written depends only on the addresses that each contract has, in their order. -/
theorem write_congr (h : ∀ contract, addressesOf other contract = addressesOf pairs contract) :
    write (other.map lineOf) = write (pairs.map lineOf) := by
  have hle : ∀ pairs : List (Contract × Address),
      (inOrder pairs).Pairwise fun a b => a.1.rank ≤ b.1.rank := fun pairs =>
    (pairwise_inOrder pairs).imp of_decide_eq_true
  have hsame : inOrder other = inOrder pairs := by
    refine eq_of_filter_eq Prod.fst (hle other) (hle pairs) fun contract => ?_
    rw [filter_eq_map_addressesOf, filter_eq_map_addressesOf, addressesOf_inOrder,
      addressesOf_inOrder, h]
  rw [write, write, sortEntries_lineOf, sortEntries_lineOf, hsame]

/-! ## Addresses one after another -/

theorem lookup_setAll (known pairs : List (Contract × Address)) (contract : Contract) :
    (setAll known pairs).lookup contract =
      (addressesOf pairs contract).getLast?.or (known.lookup contract) := by
  induction pairs generalizing known with
  | nil => rfl
  | cons pair rest ih =>
    rw [setAll, List.foldl_cons, ← setAll, ih]
    by_cases hpair : pair.1 = contract
    · subst hpair
      have hfilter : addressesOf (pair :: rest) pair.1 = pair.2 :: addressesOf rest pair.1 := by
        simp [addressesOf]
      rw [lookup_setAddress_same, hfilter, List.getLast?_cons]
      cases (addressesOf rest pair.1).getLast? <;> rfl
    · have hfilter : addressesOf (pair :: rest) contract = addressesOf rest contract := by
        simp [addressesOf, hpair]
      rw [lookup_setAddress_other (Ne.symm hpair), hfilter]

theorem map_fst_setAddress_of_mem (h : contract ∈ known.map (·.1)) (address : Address) :
    (setAddress known contract address).map (·.1) = known.map (·.1) := by
  induction known with
  | nil => cases h
  | cons pair rest ih =>
    obtain ⟨first, old⟩ := pair
    rw [setAddress]
    by_cases hfirst : first = contract
    · rw [if_pos hfirst]
      rfl
    · have hrest : contract ∈ rest.map (·.1) := by
        rcases List.mem_cons.1 h with rfl | hrest
        · exact absurd rfl hfirst
        · exact hrest
      rw [if_neg hfirst, List.map_cons, ih hrest]
      rfl

/-- Where addresses come in the order of the lines, no contract is put before an earlier one. -/
theorem pairwise_setAll (hknown : (known.map (·.1)).Pairwise fun a b => a.rank < b.rank)
    (hpairs : pairs.Pairwise fun a b => a.1.rank ≤ b.1.rank)
    (hle : ∀ first ∈ known.map (·.1), ∀ pair ∈ pairs, first.rank ≤ pair.1.rank) :
    ((setAll known pairs).map (·.1)).Pairwise fun a b => a.rank < b.rank := by
  induction pairs generalizing known with
  | nil => exact hknown
  | cons pair rest ih =>
    obtain ⟨hfirst, hrest⟩ := List.pairwise_cons.1 hpairs
    rw [setAll, List.foldl_cons, ← setAll]
    by_cases hmem : pair.1 ∈ known.map (·.1)
    · refine ih ?_ hrest fun first hin later hlater => ?_
      · rwa [map_fst_setAddress_of_mem hmem]
      · rw [map_fst_setAddress_of_mem hmem] at hin
        exact hle first hin later (List.mem_cons_of_mem _ hlater)
    · rw [setAddress_of_not_mem hmem]
      refine ih ?_ hrest fun first hin later hlater => ?_
      · rw [List.map_append]
        refine List.pairwise_append.2 ⟨hknown, List.pairwise_singleton _ _, fun first hin last hlast => ?_⟩
        obtain rfl := List.mem_singleton.1 hlast
        refine Nat.lt_of_le_of_ne (hle first hin pair List.mem_cons_self) fun hrank => hmem ?_
        have hsame : first = pair.1 := Contract.rank_injective hrank
        rwa [← hsame]
      · rw [List.map_append] at hin
        rcases List.mem_append.1 hin with hin | hin
        · exact hle first hin later (List.mem_cons_of_mem _ hlater)
        · obtain rfl := List.mem_singleton.1 hin
          exact hfirst later hlater

/-! ## Registries that can come about -/

/-- A registry is made up of supplied addresses, and addresses are recorded in it. -/
inductive Reachable : Registry → Prop where
  /-- Addresses are supplied in advance. -/
  | supplied {supply : Supply} {registry : Registry} : ofSupply supply = .ok registry →
    Reachable registry
  /-- The address that a value stands for is recorded. -/
  | recorded {registry next : Registry} {contract : Contract} {value : Value} {address : Address} :
    Reachable registry → registry.record contract value = .ok (address, next) → Reachable next

/-- No contract has two addresses. -/
theorem Reachable.nodup (h : Reachable registry) : registry.contracts.Nodup := by
  induction h with
  | supplied hsupply => exact (ofSupply_eq_ok hsupply).1
  | recorded _ hrecord ih => exact (Appends.insert? (record_eq_ok.1 hrecord).2).growsTo.nodup ih

/-- What grows out of a registry comes about by recording. -/
theorem Reachable.growsTo (h : Reachable registry) (hgrows : registry.GrowsTo next) :
    Reachable next := by
  obtain ⟨added, hadded⟩ := hgrows.addresses
  have hnodup := hgrows.nodup h.nodup
  rw [contracts, ← hadded] at hnodup
  have hnext : next = { registry with addresses := registry.addresses ++ added } := by
    rw [hadded, ← hgrows.predeployed]
  rw [hnext]
  clear hnext hgrows hadded
  induction added generalizing registry with
  | nil =>
    rw [List.append_nil]
    exact h
  | cons pair rest ih =>
    have hrecord := record_text (not_mem_of_nodup hnodup) pair.2
    have hrest := ih (h.recorded hrecord) (by rwa [List.append_assoc])
    rwa [List.append_assoc] at hrest

/-- Commands leave a registry that can come about, however they end. -/
theorem Reachable.run {s : Session} (h : Reachable s.registry) (command : Command) :
    Reachable (command.run.after s).registry :=
  h.growsTo (command.run_growsTo s)

/-! ## Writing and reading -/

/-- Lines are written as a text from which the last address of each contract is read back. -/
structure LinesReadBack (pairs : List (Contract × Address)) (path : File.Path) (s : Session) :
    Prop where
  /-- The lines are published where a file can be written. -/
  published : CanWrite path s → ∃ s', publish (pairs.map lineOf) (some path) s = .ok () s'
  /-- The file holds the same text as is printed without a path. -/
  stored : ∀ s', publish (pairs.map lineOf) (some path) s = .ok () s' →
    s'.files.read path.text = .ok (Utf8.encode (write (pairs.map lineOf)))
  printed : publish (pairs.map lineOf) none s =
    .ok () { s with output := s.output ++ write (pairs.map lineOf) }
  /-- The order of the lines of different contracts does not count. -/
  reordered : ∀ other, (∀ contract, addressesOf other contract = addressesOf pairs contract) →
    write (other.map lineOf) = write (pairs.map lineOf)
  /-- Each contract is read back with its last address, in the order of the variables' names. -/
  loaded : ∀ s', publish (pairs.map lineOf) (some path) s = .ok () s' →
    ∃ addresses, load path.text s' = .ok addresses s' ∧
      (∀ contract, addresses.lookup contract = (addressesOf pairs contract).getLast?) ∧
      addresses.Pairwise fun a b => a.1.variableName < b.1.variableName

/-- A registry is read back from the file that it is published to: supplied in advance, the addresses
that are read make up a registry of the same lines. -/
def RegistryReadsBack (registry : Registry) (path : File.Path) (s : Session) : Prop :=
  ∀ s', publish registry.entries (some path) s = .ok () s' →
    ∃ addresses again, load path.text s' = .ok addresses s' ∧
      ofSupply (toSupply addresses) = .ok again ∧ again.entries = registry.entries

theorem linesReadBack (pairs : List (Contract × Address)) (path : File.Path) (s : Session) :
    LinesReadBack pairs path s where
  published hcan := by
    obtain ⟨s', hwrite⟩ := hcan.writeFile rfl (write (pairs.map lineOf))
    exact ⟨_, publish_of_writeFile hwrite⟩
  stored s' hpublish := (publish_stores hpublish).1.read
  printed := rfl
  reordered other h := write_congr h
  loaded s' hpublish := by
    refine ⟨_, load_lineOf (publish_stores hpublish).1.read, fun contract => ?_, ?_⟩
    · rw [lookup_setAll, addressesOf_inOrder]
      cases (addressesOf pairs contract).getLast? <;> rfl
    · have hle : (inOrder pairs).Pairwise fun a b => a.1.rank ≤ b.1.rank :=
        (pairwise_inOrder pairs).imp of_decide_eq_true
      have hincreasing : ((setAll [] (inOrder pairs)).map (·.1)).Pairwise fun a b =>
          a.rank < b.rank := pairwise_setAll .nil hle (by simp)
      exact (List.pairwise_map.1 hincreasing).imp Contract.variableName_lt

theorem registryReadsBack (h : registry.contracts.Nodup) (path : File.Path) (s : Session) :
    RegistryReadsBack registry path s := by
  intro s' hpublish
  have hload : load path.text s' = .ok registry.sorted s' :=
    load_of_read h (publish_stores hpublish).1.read
  have hsorted : (registry.sorted.map (·.1)).Nodup := (registry.sorted_perm.map _).nodup_iff.2 h
  exact ⟨_, _, hload, ofSupply_toSupply hsorted, registry.entries_of_sorted _⟩

/-- **Writing and reading are inverse**, for any lines and for any registry that can come about. -/
theorem publish_inverse (path : File.Path) (s : Session) :
    (∀ pairs, LinesReadBack pairs path s) ∧
      ∀ registry, Reachable registry → RegistryReadsBack registry path s :=
  ⟨fun pairs => linesReadBack pairs path s, fun _ h => registryReadsBack h.nodup path s⟩

/-- A registry with an address that is supplied is read back from a file at an absolute path, which can
be written although none of the directories above it stands. -/
theorem publish_inverse_of_supplied :
    CanWrite (.ofText "/tmp/records/deploy.env") {} ∧
    Reachable ⟨[(.hotShot, .filled 1)], [.hotShot]⟩ ∧
    (∀ pairs, LinesReadBack pairs (.ofText "/tmp/records/deploy.env") {}) ∧
    RegistryReadsBack ⟨[(.hotShot, .filled 1)], [.hotShot]⟩
      (.ofText "/tmp/records/deploy.env") {} := by
  have hsupply : ofSupply (toSupply [(.hotShot, .filled 1)]) =
      .ok ⟨[(.hotShot, .filled 1)], [.hotShot]⟩ := ofSupply_toSupply (by simp)
  have hinverse := publish_inverse (.ofText "/tmp/records/deploy.env") {}
  exact ⟨⟨_, rfl⟩, .supplied hsupply, hinverse.1, hinverse.2 _ (.supplied hsupply)⟩

end Rollout.Registry
