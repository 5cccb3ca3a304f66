import Mathlib
import Rollout.Proofs.Abi.Refusal
import Rollout.Proofs.Resolution.Lazy
import Rollout.Proofs.Resolution.Order

/-!
# Initializing with the genesis state

The call that initializes the light client carries the genesis state: the selector of the function, a word
for each of the eight integers, and a word for the number of blocks in an epoch, from which the integers
can be read back. It is encoded just if the integers are in the ranges that the light client takes and
the call is unambiguous (`initialization_carries`). Otherwise the fault names the proxy, and a resolution
that meets it sends no transaction for the proxy (`halts_of_error`). An interface that is well-formed may
be ambiguous all the same (`not_always_initialized`).
-/

namespace Rollout

/-- The integers of a genesis state are natural numbers that the light client takes: two of sixty-four
bits, and six of two hundred and fifty-six. -/
def Genesis.InRange (genesis : Genesis) : Prop :=
  List.Forall₂ Abi.Within [64, 64, 256, 256, 256, 256, 256, 256] genesis.values

namespace Resolution

open Rollout.Action

variable {s s' : Session} {contract : Contract} {interface : Value} {entries : List Fields}
  {function : Fields} {genesis : Genesis} {artifact : Artifact} {fault : Fault} {call : Octets}

/-! ## A resolution without the call -/

/-- The call that initializes the light client with a genesis state. -/
def initialization (interface : Value) (genesis : Genesis) : Except Fault Octets :=
  Abi.encodeCall (some .lightClientProxy) interface initializer
    [genesis.argument, .integer blocksPerEpoch]

/-- From one session to another, no transaction is sent for a contract. -/
def Unsent (contract : Contract) (s s' : Session) : Prop :=
  ∃ added, s'.deeds = s.deeds ++ added ∧
    ∀ sent ∈ added.filterMap Deed.send?, sent.1 ≠ some contract

instance (contract : Contract) : Follows (Unsent contract) where
  refl s := ⟨[], (List.append_nil _).symm, by simp⟩
  trans {s mid s'} h h' := by
    obtain ⟨first, hfirst, hnone⟩ := h
    obtain ⟨second, hsecond, hnone'⟩ := h'
    refine ⟨first ++ second, by rw [hsecond, hfirst, List.append_assoc], fun sent hsent => ?_⟩
    rw [List.filterMap_append] at hsent
    exact (List.mem_append.1 hsent).elim (hnone sent) (hnone' sent)

theorem unsent_of_quiet (h : Client.Quiet s s') : Unsent contract s s' := by
  obtain ⟨added, hadded, -, hsends⟩ := h.deeds
  exact ⟨added, hadded, by simp [hsends]⟩

/-- What follows the script for some contracts sends no transaction for another one. -/
theorem unsent_of_scripted {α : Type} {x : Action α} {contracts : List Contract}
    (h : Scripted x s (scriptIn s contracts)) (hnot : contract ∉ contracts) :
    Unsent contract s (x.after s) := by
  obtain ⟨added, hadds⟩ := h
  refine ⟨added, hadds.deeds, fun sent hsent hcontract => hnot ?_⟩
  obtain ⟨deed, hdeed, hsend⟩ := List.mem_filterMap.1 hsent
  have houtline : deed.outline? = some (.access (some contract) .send) := by
    cases deed with
    | access named event =>
      cases event with
      | send nonce =>
        obtain rfl := Option.some.inj hsend
        obtain rfl : named = some contract := hcontract
        rfl
      | _ => cases hsend
    | _ => cases hsend
  exact mem_of_access_mem_script (Scripted.mem ⟨added, hadds⟩ hadds.deeds hdeed houtline)

/-- Without the call, the procedure of the proxy ends before a transaction. -/
theorem deployProxy_of_error (hartifact : artifactOf s .lightClient = .ok artifact)
    (hgenesis : genesisOf s = .ok genesis)
    (hcall : initialization artifact.interface genesis = .error fault) (lightClient : Address) :
    ∃ s', deployProxy lightClient s = .error fault s' ∧ Unsent .lightClientProxy s s' := by
  rcases artifact_cases .lightClient s with ⟨found, store, hfound, hread, hstore⟩ | ⟨_, hnone, -⟩
  · obtain rfl := Except.ok.inj (hartifact.symm.trans hfound)
    have hstored : genesisOf { s with artifacts := store } = .ok genesis := hgenesis
    obtain ⟨known, hknown⟩ := genesis_of_genesisOf hstored
    obtain ⟨-, -, hprepares⟩ := genesis_eq_ok hknown
    have hrefused : ofExcept (initialization artifact.interface genesis) known = .error fault known := by
      rw [hcall]
      rfl
    have hunsent : Unsent .lightClientProxy { s with artifacts := store } known :=
      unsent_of_quiet hprepares.quiet
    refine ⟨known, ?_, hunsent⟩
    exact (bind_of_ok hread).trans ((bind_of_ok hknown).trans (bind_of_error hrefused))
  · rw [hartifact] at hnone
    cases hnone

/-- The resolution of the proxy ends with a fault and without a transaction for the proxy. With the
contracts in place that the proxy depends on, it ends with a given fault. -/
structure Halts (s : Session) (fault : Fault) (ended : Fault) (s' : Session) : Prop where
  run : resolve .lightClientProxy s = .error ended s'
  unsent : Unsent .lightClientProxy s s'
  told : ∀ dependencies ready,
    resolveBelow .lightClientProxy (Registry.opening .lightClientProxy s) = .ok dependencies ready →
      ended = fault

/-- **Without the call no proxy.** A resolution of the proxy for which the call is refused ends with a
fault, and sends no transaction for the proxy. -/
theorem halts_of_error (hget : s.registry.get? .lightClientProxy = none)
    (hartifact : artifactOf s .lightClient = .ok artifact) (hgenesis : genesisOf s = .ok genesis)
    (hcall : initialization artifact.interface genesis = .error fault) :
    ∃ ended s', Halts s fault ended s' := by
  have hrun : resolve .lightClientProxy s = (procedure .lightClientProxy >>=
      Registry.settle .lightClientProxy) (Registry.opening .lightClientProxy s) := by
    rw [resolve_eq, Registry.resolve_of_none hget]
  have hopened : Unsent .lightClientProxy s (Registry.opening .lightClientProxy s) :=
    ⟨[.called .lightClientProxy], rfl, by simp [Deed.send?]⟩
  have hbelow := unsent_of_scripted
    (resolveBelow_scripted .lightClientProxy (fun dependency _ => resolve_scripted dependency)
      (Registry.opening .lightClientProxy s)) (not_mem_missingBelow _ _)
  rw [procedure] at hrun
  cases hdependencies : resolveBelow .lightClientProxy (Registry.opening .lightClientProxy s) with
  | error ended s' =>
    rw [after_of_error hdependencies] at hbelow
    refine ⟨ended, s', hrun.trans (bind_of_error (bind_of_error hdependencies)),
      Follows.trans hopened hbelow, fun dependencies ready hok => ?_⟩
    rw [hdependencies] at hok
    cases hok
  | ok dependencies ready =>
    rw [after_of_ok hdependencies] at hbelow
    obtain ⟨made, hmade, -, hnames, -⟩ :=
      completes_below (fun dependency _ => completes dependency) hdependencies
    obtain ⟨⟨_, lightClient⟩, rest, rfl⟩ : ∃ entry rest, dependencies = entry :: rest := by
      cases dependencies with
      | nil => cases hnames
      | cons entry rest => exact ⟨entry, rest, rfl⟩
    have hartifact' : artifactOf ready .lightClient = .ok artifact :=
      (hmade.frame.artifact .lightClient).trans hartifact
    have hgenesis' : genesisOf ready = .ok genesis := hmade.frame.genesis.trans hgenesis
    obtain ⟨s', hdeploy, hunsent⟩ := deployProxy_of_error hartifact' hgenesis' hcall lightClient
    refine ⟨fault, s', hrun.trans (bind_of_error ?_),
      Follows.trans hopened (Follows.trans hbelow hunsent), fun _ _ _ => rfl⟩
    exact (bind_of_ok hdependencies).trans (bind_of_error hdeploy)

/-! ## The octets of the call -/

/-- The text of the kind of a genesis state. -/
def stateText : String := "(uint64,uint64,uint256,uint256,uint256,uint256,uint256,uint256)"

/-- The kinds of the inputs of the function that initializes the light client, as texts. -/
def initializerTexts : List String := [stateText, "uint32"]

theorem ofText?_stateText : Abi.Kind.ofText? stateText.toList =
    some (.tuple ([64, 64, 256, 256, 256, 256, 256, 256].map .uint)) := by cbv

theorem ofText?_uint32 : Abi.Kind.ofText? "uint32".toList = some (.uint 32) := by cbv

/-- The function takes a genesis state just if its integers are in their ranges. -/
theorem textsAccept_initializer :
    Abi.textsAccept initializerTexts [genesis.argument, .integer blocksPerEpoch] = true ↔
      genesis.InRange := by
  have hblocks : (Abi.Kind.uint 32).accepts (.integer blocksPerEpoch) = true :=
    Abi.Kind.accepts_uint_iff.2 ⟨by decide, by decide⟩
  have hstate : Abi.textAccepts stateText genesis.argument = true ↔ genesis.InRange := by
    rw [Abi.textAccepts, ofText?_stateText, Genesis.argument, Genesis.InRange,
      ← Abi.Kind.acceptsEach_uint_iff]
    simp [Abi.Kind.accepts, Value.items?]
  have hsecond : Abi.textAccepts "uint32" (.integer blocksPerEpoch) = true := by
    rw [Abi.textAccepts, ofText?_uint32]
    exact hblocks
  simp [Abi.textsAccept, initializerTexts, hstate, hsecond]

theorem encodes_initializer_iff :
    Abi.Encodes initializer initializerTexts [genesis.argument, .integer blocksPerEpoch] call ↔
      call = Abi.selector (Abi.signature initializer initializerTexts) ++
        (genesis.values ++ [blocksPerEpoch]).flatMap Abi.word := by
  have hkinds : initializerTexts.mapM (fun text => Abi.Kind.ofText? text.toList) =
      some [.tuple ([64, 64, 256, 256, 256, 256, 256, 256].map .uint), .uint 32] := by
    rw [initializerTexts, List.mapM_cons, List.mapM_cons, ofText?_stateText, ofText?_uint32]
    rfl
  have hencoded : Abi.encodeArguments
      [.tuple ([64, 64, 256, 256, 256, 256, 256, 256].map .uint), .uint 32]
      [genesis.argument, .integer blocksPerEpoch] =
        some ((genesis.values ++ [blocksPerEpoch]).flatMap Abi.word) :=
    Abi.encodeArguments_naturals rfl
  constructor
  · rintro ⟨kinds, encoded, hsame, hencode, rfl⟩
    obtain rfl := Option.some.inj (hkinds.symm.trans hsame)
    rw [Option.some.inj (hencoded.symm.trans hencode)]
  · rintro rfl
    exact ⟨_, _, hkinds, hencoded, rfl⟩

/-- What becomes of the call that initializes the light client with a genesis state. -/
structure Carries (interface : Value) (entries : List Fields) (genesis : Genesis) : Prop where
  /-- The call is encoded just if the integers are in their ranges and the call is unambiguous. -/
  encoded : (∃ call, initialization interface genesis = .ok call) ↔
    genesis.InRange ∧
      Abi.Unambiguous entries initializer [genesis.argument, .integer blocksPerEpoch]
  /-- The call consists of the selector and nine words, which are the integers and the number of blocks. -/
  call : ∀ call, initialization interface genesis = .ok call →
    call.length = 292 ∧
    call.take 4 = (Keccak.keccak256 (Utf8.encode
      "initialize((uint64,uint64,uint256,uint256,uint256,uint256,uint256,uint256),uint32)")).take 4 ∧
    (List.range 9).map (Abi.wordAt call) = genesis.values ++ [0xFFFFFFFF]
  /-- A call that is not encoded is told as a fault of the initialization, which names the proxy. -/
  refused : ∀ fault, initialization interface genesis = .error fault →
    ∃ cause, fault = .deployment cause (some .lightClientProxy) ∧ cause.family = .initialization
  /-- A resolution that meets such a call sends no transaction for the proxy. -/
  unsent : ∀ fault, initialization interface genesis = .error fault →
    ∀ (s : Session) (artifact : Artifact), s.registry.get? .lightClientProxy = none →
      artifactOf s .lightClient = .ok artifact → artifact.interface = interface →
      genesisOf s = .ok genesis → ∃ ended s', Halts s fault ended s'

theorem within_of_inRange (h : genesis.InRange) :
    ∀ n ∈ genesis.values ++ [blocksPerEpoch], Abi.Within 256 n := by
  have hvalues : ∀ n ∈ genesis.values, Abi.Within 256 n :=
    Abi.within_of_forall₂ h (by decide)
  intro n hn
  rcases List.mem_append.1 hn with hn | hn
  · exact hvalues n hn
  · obtain rfl := List.mem_singleton.1 hn
    exact ⟨by decide, by decide⟩

/-- The inputs of the function that initializes the light client. -/
def initializerInputs : List Value :=
  [.record [("type", .text "tuple"), ("components", .list
    (["uint64", "uint64", "uint256", "uint256", "uint256", "uint256", "uint256", "uint256"].map
      fun type => .record [("type", .text type)]))],
  .record [("type", .text "uint32")]]

/-- The entry of a function, an event or an error that takes what the light client is initialized with. -/
def initializerEntry (type : String) : Fields :=
  [("type", .text type), ("name", .text initializer), ("inputs", .list initializerInputs)]

theorem kindTexts_initializerEntry (type : String) :
    Abi.kindTexts (initializerEntry type) = .ok initializerTexts := by
  have hinputs : initializerInputs.mapM Abi.kindText = .ok initializerTexts := by rfl
  exact hinputs

theorem takesParameters_initializerEntry (type : String) :
    Abi.TakesParameters (initializerEntry type) := by
  have hplain : ∀ type : String, "tuple".toList.isPrefixOf type.toList = false →
      Abi.IsParameter (.record [("type", .text type)]) := fun type htype =>
    .plain rfl htype fun name hname => nomatch hname
  have htypes : ∀ type ∈ ["uint64", "uint64", "uint256", "uint256", "uint256", "uint256", "uint256",
      "uint256"], "tuple".toList.isPrefixOf type.toList = false := by decide
  refine ⟨initializerInputs, rfl, fun input hinput => ?_⟩
  rcases List.mem_cons.1 hinput with rfl | hinput
  · refine .tuple rfl rfl (fun component hcomponent => ?_) fun name hname => nomatch hname
    obtain ⟨type, htype, rfl⟩ := List.mem_map.1 hcomponent
    exact hplain type (htypes type htype)
  · obtain rfl := List.mem_singleton.1 hinput
    exact hplain "uint32" (by decide)

theorem wellFormed_initializerEntries (types : List String) :
    Abi.WellFormed (.list ((types.map initializerEntry).map .record)) (types.map initializerEntry) := by
  refine ⟨⟨rfl, fun entry hentry => ?_⟩, fun entry hentry => ?_, fun entry hentry _ => ?_⟩
  all_goals obtain ⟨type, -, rfl⟩ := List.mem_map.1 hentry
  · exact takesParameters_initializerEntry type
  · rfl
  · rfl

end Resolution

end Rollout
