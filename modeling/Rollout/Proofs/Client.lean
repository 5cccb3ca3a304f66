import Rollout.Client
import Rollout.Proofs.Chain.Receipt
import Rollout.Proofs.Script

/-!
# What creating a contract does

The creation of a contract follows one script whatever the contract, its interface and its arguments
are (`Client.deploy_scripted`). If it ends with a result, one transaction was sent, and the result is
the address that the receipt of this transaction names (`Client.Creates`).
-/

namespace Rollout

open Rollout.Action

variable {s s' mid : Session} {contract : Contract} {address : Address}

/-- The number at the chain and the data of the transaction that a deed completes, with the contract
that it creates. -/
def Deed.build? : Deed → Option (Option Contract × Int × Octets)
  | access contract (.build _ nonce _ data) => some (contract, nonce, data)
  | _ => none

/-- The number at the chain of the transaction that a deed broadcasts, with the contract that it
creates. -/
def Deed.send? : Deed → Option (Option Contract × Int)
  | access contract (.send nonce) => some (contract, nonce)
  | _ => none

/-- The hash of the transaction the receipt of which a deed waits for, with the contract that it
creates. -/
def Deed.receipt? : Deed → Option (Option Contract × Octets)
  | access contract (.receipt hash _) => some (contract, hash)
  | _ => none

namespace Client

/-! ## Asking for consent -/

/-- Only the input and the notices change. -/
def OnlyConverses (s s' : Session) : Prop := s' = { s with input := s'.input, notices := s'.notices }

instance : Follows OnlyConverses where
  refl s := rfl
  trans {s mid s'} h h' := by
    rw [OnlyConverses] at h h' ⊢
    rw [h', h]

theorem OnlyConverses.client_eq (h : OnlyConverses s s') : s'.client = s.client := by
  rw [OnlyConverses] at h
  rw [h]

theorem scripted_of_onlyConverses {α : Type} {x : Action α} (h : Keeps OnlyConverses x)
    (s : Session) : Scripted x s [] := by
  refine scripted_nil ?_ ?_
  · rw [h s]
  · rw [h s]

theorem notice_keeps (text : String) : Keeps OnlyConverses (notice text) := fun _ => rfl

theorem readLine_keeps : Keeps OnlyConverses readLine := by
  intro s
  refine after_bind (Follows.refl s) fun a mid hget => ?_
  cases hget
  cases hinput : s.input with
  | nil => exact Follows.refl s
  | cons c rest => rfl

theorem ask_keeps (question : String) : Keeps OnlyConverses (Consent.ask question) := by
  refine Keeps.bind (fun _ => rfl) fun _ => readLine_keeps.bind fun answer => ?_
  refine keeps_ite ?_ (keeps_pure _)
  exact (notice_keeps _).bind fun _ => keeps_throw _

theorem showParameters_keeps (name : String) (parameters : Abi.Parameters) :
    Keeps OnlyConverses (Consent.showParameters name parameters) := by
  refine keeps_ite (notice_keeps _) ((notice_keeps _).bind fun _ => ?_)
  refine Keeps.bind (keeps_forIn _ (fun item b => ?_) _) fun _ => keeps_pure _
  exact (notice_keeps _).bind fun _ => keeps_pure _

theorem askCreation_keeps (name : String) (parameters : Abi.Parameters) :
    Keeps OnlyConverses (Consent.askCreation name parameters) := by
  refine (showParameters_keeps name parameters).bind fun _ => (ask_keeps _).bind fun _ => ?_
  exact keeps_ite (ask_keeps _) (keeps_pure _)

theorem consent_keeps (contract : Contract) (interface : Value) (arguments : List Value) :
    Keeps OnlyConverses (consent contract interface arguments) := by
  refine keeps_get.bind fun session => keeps_ite (keeps_pure _) ?_
  exact (keeps_ofExcept _).bind fun parameters => askCreation_keeps _ _

/-! ## Concluding -/

/-- What a creation ends with is kept as a creation of the contract. -/
theorem conclude_eq_ok {hash : Octets} {receipt : Chain.Receipt} :
    conclude contract hash receipt s = .ok address s' ↔
      createdContract contract hash receipt = .ok address ∧
        s' = { s with creations := s.creations ++ [(contract, address)] } := by
  rw [conclude, bind_eq_ok]
  constructor
  · rintro ⟨created, mid, hresult, hkept⟩
    obtain ⟨hcreated, rfl⟩ := ofExcept_eq_ok.1 hresult
    cases hkept
    exact ⟨hcreated, rfl⟩
  · rintro ⟨hcreated, rfl⟩
    exact ⟨address, s, ofExcept_eq_ok.2 ⟨hcreated, rfl⟩, rfl⟩

/-- However a creation is concluded, nothing is done and the node is not accessed. -/
theorem conclude_after (contract : Contract) (hash : Octets) (receipt : Chain.Receipt) (s : Session) :
    (conclude contract hash receipt).after s =
      { s with creations := ((conclude contract hash receipt).after s).creations } := by
  rw [conclude, ofExcept_bind_after]
  split <;> rfl

theorem conclude_scripted (contract : Contract) (hash : Octets) (receipt : Chain.Receipt)
    (s : Session) : Scripted (conclude contract hash receipt) s [] :=
  scripted_nil (by rw [conclude_after]) (by rw [conclude_after])

/-! ## Errors of the network -/

variable {α : Type} {action : Action α} {cause : String → Cause} {named : Option Contract}

theorem naming_after (s : Session) : (naming cause named action).after s = action.after s := by
  cases h : action s with
  | ok a mid => exact (after_of_ok (tryCatch_of_ok h)).trans (after_of_ok h).symm
  | error fault mid =>
    have hcatch : naming cause named action s = .error _ mid := tryCatch_of_error h
    rw [after_of_error hcatch, after_of_error h]

theorem naming_eq_ok {a : α} : naming cause named action s = .ok a s' ↔ action s = .ok a s' := by
  cases h : action s with
  | ok b mid =>
    have hcatch : naming cause named action s = .ok b mid := tryCatch_of_ok h
    rw [hcatch]
  | error fault mid =>
    have hcatch : naming cause named action s = _ := tryCatch_of_error h
    rw [hcatch]
    constructor
    · intro h'
      cases h'
    · intro h'
      cases h'

theorem queryCode_after (address : String) (s : Session) : (queryCode address).after s =
    accessing none .code (.code address) s := by
  rw [queryCode, bind_after fun _ _ => rfl, naming_after, access_after]

theorem scripted_naming {script : List Outline} (h : Scripted action s script) :
    Scripted (naming cause named action) s script :=
  h.congr (naming_after s) fun _ _ => naming_eq_ok.1

/-! ## The script of a transaction -/

/-- What a transaction that creates a contract does, in outline: the node is asked for its chain only
if the chain is not known yet. -/
def creationScript (contract : Contract) (chainKnown : Bool) : List Outline :=
  [.access (some contract) .constructor, .access (some contract) .nonce]
    ++ (if chainKnown then [] else [.access (some contract) .chainId])
    ++ [.access (some contract) .build, .access (some contract) .send,
      .access (some contract) .receipt]

theorem assemble_scripted (contract : Contract) (interface : Value) (bytecode : Octets)
    (arguments : List Value) (s : Session) :
    Scripted (assemble contract interface bytecode arguments) s
      [.access (some contract) .constructor] := by
  refine (scripted_log rfl rfl s).nil_bind fun _ mid _ => ?_
  refine (scripted_ofExcept _ mid).nil_bind fun data mid _ => ?_
  exact (scripted_access _ _ _ mid).bind_nil fun _ mid => scripted_pure data mid

theorem queryChainId_scripted (named : Option Contract) (s : Session) :
    Scripted (queryChainId named) s
      (if s.client.chainId.isSome then [] else [.access named .chainId]) := by
  refine scripted_get ?_
  cases s.client.chainId with
  | some number => exact scripted_pure number s
  | none =>
    refine (scripted_naming (scripted_access _ _ _ s)).bind_nil fun _ mid => ?_
    exact scripted_nil rfl rfl

theorem broadcast_scripted (contract : Contract) (data : Octets) (s : Session) :
    Scripted (broadcast contract data) s ([.access (some contract) .nonce]
      ++ ((if s.client.chainId.isSome then [] else [.access (some contract) .chainId])
      ++ [.access (some contract) .build, .access (some contract) .send])) := by
  refine scripted_get ((scripted_access _ _ _ s).bind fun _ mid hnonce => ?_)
  obtain ⟨-, rfl⟩ := access_eq_ok.1 hnonce
  refine scripted_get ((queryChainId_scripted _ _).bind fun chain mid _ => ?_)
  refine (scripted_access _ _ _ mid).bind fun _ mid _ => ?_
  refine (scripted_access _ _ _ mid).bind_nil fun _ mid => ?_
  exact scripted_nil rfl rfl

theorem awaitReceipt_scripted (contract : Contract) (hash : Octets) (s : Session) :
    Scripted (awaitReceipt contract hash) s [.access (some contract) .receipt] := by
  refine scripted_get ((scripted_access _ _ _ s).bind_nil fun _ mid => scripted_get ?_)
  cases mid.node.receipt? hash with
  | some receipt => exact scripted_pure receipt mid
  | none => exact scripted_ofExcept (.error _) mid

/-- The transaction that creates a contract: what is done between the checks before it and those
of its receipt. -/
def transact (contract : Contract) (interface : Value) (bytecode : Octets)
    (arguments : List Value) : Action (Octets × Chain.Receipt) := do
  let data ← assemble contract interface bytecode arguments
  let hash ← broadcast contract data
  return (hash, ← awaitReceipt contract hash)

theorem deploy_eq (contract : Contract) (interface : Value) (bytecode : Octets)
    (arguments : List Value) : deploy contract interface bytecode arguments = (do
      Action.notice
        ("\nTransacting " ++ contract.artifact ++ " creation from " ++ (← get).client.account)
      consent contract interface arguments
      Action.ofExcept (Abi.checkCreatable interface)
      let result ← naming .transactionFailed (some contract)
        (transact contract interface bytecode arguments)
      conclude contract result.1 result.2) := rfl

theorem transact_scripted (contract : Contract) (interface : Value) (bytecode : Octets)
    (arguments : List Value) (s : Session) :
    Scripted (transact contract interface bytecode arguments) s
      (creationScript contract s.client.chainId.isSome) := by
  have hscript : creationScript contract s.client.chainId.isSome =
      [.access (some contract) .constructor] ++ ([.access (some contract) .nonce]
        ++ ((if s.client.chainId.isSome then [] else [.access (some contract) .chainId])
        ++ [.access (some contract) .build, .access (some contract) .send])
        ++ [.access (some contract) .receipt]) := by
    simp [creationScript]
  rw [hscript]
  refine (assemble_scripted contract interface bytecode arguments s).bind fun data mid hdata => ?_
  obtain ⟨_, _, hlog, hlogged⟩ := bind_eq_ok.1 hdata
  cases hlog
  obtain ⟨_, _, hcreation, hconstructor⟩ := bind_eq_ok.1 hlogged
  obtain ⟨-, rfl⟩ := ofExcept_eq_ok.1 hcreation
  obtain ⟨_, _, haccess, hpure⟩ := bind_eq_ok.1 hconstructor
  obtain ⟨-, rfl⟩ := access_eq_ok.1 haccess
  cases hpure
  refine (broadcast_scripted contract data _).bind fun hash mid _ => ?_
  exact (awaitReceipt_scripted contract hash mid).bind_nil fun _ mid => scripted_pure _ mid

/-- **The script of a creation.** However the creation of a contract ends, it follows the script of
its transaction. -/
theorem deploy_scripted (contract : Contract) (interface : Value) (bytecode : Octets)
    (arguments : List Value) (s : Session) :
    Scripted (deploy contract interface bytecode arguments) s
      (creationScript contract s.client.chainId.isSome) := by
  rw [deploy_eq]
  refine scripted_get ?_
  refine (scripted_of_onlyConverses (notice_keeps _) s).nil_bind fun _ mid hnotice => ?_
  cases hnotice
  have hconsent := consent_keeps contract interface arguments
  refine (scripted_of_onlyConverses hconsent _).nil_bind fun _ asked hok => ?_
  have hclient := (after_of_ok hok ▸ hconsent _ : OnlyConverses _ asked).client_eq
  refine (scripted_ofExcept _ asked).nil_bind fun _ checked hcheck => ?_
  obtain ⟨-, rfl⟩ := ofExcept_eq_ok.1 hcheck
  rw [show s.client = asked.client from hclient.symm]
  refine (scripted_naming (transact_scripted contract interface bytecode arguments _)).bind_nil ?_
  exact fun result mid => conclude_scripted contract result.1 result.2 mid

/-! ## What stays as it is -/

/-- Only the conversation, the deeds, what the node counts, the chain of the client and the created
contracts change. -/
def OnlyTransacts (s s' : Session) : Prop :=
  s' = { s with
    input := s'.input, notices := s'.notices, deeds := s'.deeds, creations := s'.creations
    node := { s.node with sent := s'.node.sent, accesses := s'.node.accesses }
    client := { s.client with chainId := s'.client.chainId } }

instance : Follows OnlyTransacts where
  refl s := rfl
  trans {s mid s'} h h' := by
    rw [OnlyTransacts] at h h' ⊢
    rw [h', h]

theorem OnlyConverses.onlyTransacts (h : OnlyConverses s s') : OnlyTransacts s s' := by
  rw [OnlyConverses] at h
  rw [h]
  rfl

/-- A relation holds across each thing that the transaction of a contract does. -/
structure KeptByTransaction (R : Session → Session → Prop) (contract : Contract) : Prop where
  /-- Telling of what is done. -/
  notices : ∀ (s : Session) (notices : String), R s { s with notices }
  /-- Beginning the transaction of the contract. -/
  begins : ∀ (s : Session) (interface : Value) (bytecode : Octets) (arguments : List Value),
    R s { s with deeds := s.deeds ++ [.began contract interface bytecode arguments] }
  /-- Accessing the node for the contract. -/
  accesses : ∀ (s : Session) (step : Chain.Step) (event : Event),
    R s (accessing (some contract) step event s)
  /-- Counting the transaction that was broadcast. -/
  counts : ∀ s : Session, R s { s with node.sent := s.node.sent + 1 }
  /-- Keeping the number of the chain. -/
  learns : ∀ (s : Session) (number : Int), R s { s with client.chainId := some number }

/-- A relation holds across each thing that the creation of a contract does once there is consent. -/
structure KeptByProceeding (R : Session → Session → Prop) (contract : Contract) : Prop
    extends KeptByTransaction R contract where
  /-- Keeping that the contract was created. -/
  concludes : ∀ (s : Session) (address : Address),
    R s { s with creations := s.creations ++ [(contract, address)] }

/-- A relation holds across each thing that the creation of a contract does. -/
structure KeptByCreation (R : Session → Session → Prop) (contract : Contract) : Prop
    extends KeptByProceeding R contract where
  /-- Asking for consent, and telling of what is done. -/
  converses : ∀ {s s'}, OnlyConverses s s' → R s s'
  notices _ _ := converses rfl

/-- Asking for the number of the chain keeps to what accessing the node and learning the number do. -/
theorem queryChainId_keeps {R : Session → Session → Prop} [Follows R] {named : Option Contract}
    (haccess : Keeps R (Action.access named .chainId .chainId))
    (hlearn : ∀ (s : Session) (number : Int), R s { s with client.chainId := some number }) :
    Keeps R (queryChainId named) := by
  refine keeps_get.bind fun session => ?_
  cases session.client.chainId with
  | some number => exact keeps_pure number
  | none =>
    refine Keeps.bind (fun s => ?_) fun _ => keeps_get.bind fun session => ?_
    · rw [naming_after]
      exact haccess s
    · exact Keeps.bind (keeps_modify fun s => hlearn s _) fun _ => keeps_pure _

namespace KeptByTransaction

variable {R : Session → Session → Prop}

theorem access (h : KeptByTransaction R contract) (step : Chain.Step) (event : Event) :
    Keeps R (Action.access (some contract) step event) := by
  intro s
  rw [access_after]
  exact h.accesses s step event

variable [Follows R]

theorem queryChainId (h : KeptByTransaction R contract) :
    Keeps R (Client.queryChainId (some contract)) :=
  queryChainId_keeps (h.access _ _) h.learns

theorem broadcast (h : KeptByTransaction R contract) (data : Octets) :
    Keeps R (Client.broadcast contract data) := by
  refine keeps_get.bind fun session => (h.access _ _).bind fun _ => ?_
  refine keeps_get.bind fun session => h.queryChainId.bind fun chain => ?_
  refine (h.access _ _).bind fun _ => (h.access _ _).bind fun _ => ?_
  refine Keeps.bind (keeps_modify h.counts) fun _ => keeps_get.bind fun session => ?_
  exact Keeps.bind (keeps_modify fun s => h.notices s _) fun _ => keeps_pure _

/-- A relation that holds across each thing that the transaction of a contract does is kept to by the
whole transaction, however it ends. -/
theorem transact (h : KeptByTransaction R contract) (interface : Value) (bytecode : Octets)
    (arguments : List Value) :
    Keeps R (Client.transact contract interface bytecode arguments) := by
  refine Keeps.bind ?_ fun data => (h.broadcast data).bind fun hash => ?_
  · refine Keeps.bind (fun s => h.begins s interface bytecode arguments) fun _ => ?_
    exact (keeps_ofExcept _).bind fun data => (h.access _ _).bind fun _ => keeps_pure _
  · refine Keeps.bind ?_ fun receipt => keeps_pure _
    refine keeps_get.bind fun session => (h.access _ _).bind fun _ => keeps_get.bind fun waited => ?_
    cases waited.node.receipt? hash with
    | some receipt => exact keeps_pure receipt
    | none => exact keeps_throw _

end KeptByTransaction

theorem KeptByProceeding.conclude {R : Session → Session → Prop} [Follows R]
    (h : KeptByProceeding R contract) (hash : Octets) (receipt : Chain.Receipt) :
    Keeps R (Client.conclude contract hash receipt) :=
  (keeps_ofExcept _).bind fun address =>
    Keeps.bind (keeps_modify fun s => h.concludes s address) fun _ => keeps_pure _

/-- A relation that holds across each thing that the creation of a contract does is kept to by the
whole creation, however it ends. -/
theorem KeptByCreation.deploy {R : Session → Session → Prop} [Follows R]
    (h : KeptByCreation R contract) (interface : Value) (bytecode : Octets)
    (arguments : List Value) :
    Keeps R (Client.deploy contract interface bytecode arguments) := by
  rw [deploy_eq]
  refine keeps_get.bind fun session => ((notice_keeps _).mono h.converses).bind fun _ => ?_
  refine ((consent_keeps _ _ _).mono h.converses).bind fun _ => ?_
  refine (keeps_ofExcept _).bind fun _ => Keeps.bind (fun s => ?_) fun result =>
    h.toKeptByProceeding.conclude _ _
  rw [naming_after]
  exact h.toKeptByTransaction.transact interface bytecode arguments s

/-! ## How often a contract is created -/

/-- An action that answers with an address has created a contract there, and nothing else; one that
fails has created nothing. -/
structure CreatesOnce (contract : Contract) (x : Action Address) : Prop where
  ok : ∀ {s address s'}, x s = .ok address s' →
    s'.creations = s.creations ++ [(contract, address)]
  error : ∀ {s fault s'}, x s = .error fault s' → s'.creations = s.creations

/-- What is done before a creation creates nothing. -/
theorem CreatesOnce.after_keeps {β : Type} {x : Action β} {f : β → Action Address}
    (hx : Keeps (Unchanged Session.creations) x) (hf : ∀ b, CreatesOnce contract (f b)) :
    CreatesOnce contract (x >>= f) where
  ok {s address s'} h := by
    obtain ⟨b, mid, hfirst, hsecond⟩ := bind_eq_ok.1 h
    have hkept : mid.creations = s.creations := after_of_ok hfirst ▸ hx s
    rw [(hf b).ok hsecond, hkept]
  error {s fault s'} h := by
    cases hfirst : x s with
    | ok b mid =>
      have hkept : mid.creations = s.creations := after_of_ok hfirst ▸ hx s
      rw [bind_of_ok hfirst] at h
      rw [(hf b).error h, hkept]
    | error first mid =>
      rw [bind_of_error hfirst] at h
      cases h
      exact after_of_error hfirst ▸ hx s

theorem OnlyConverses.creations (h : OnlyConverses s s') : Unchanged Session.creations s s' := by
  rw [OnlyConverses] at h
  rw [Unchanged, h]

theorem conclude_createsOnce (hash : Octets) (receipt : Chain.Receipt) :
    CreatesOnce contract (conclude contract hash receipt) where
  ok h := by
    obtain ⟨-, rfl⟩ := conclude_eq_ok.1 h
    rfl
  error {s fault s'} h := by
    rw [conclude] at h
    cases hresult : createdContract contract hash receipt with
    | ok address =>
      rw [hresult] at h
      cases h
    | error first =>
      rw [hresult] at h
      cases h
      rfl

/-- The creation of a contract creates it once if it answers with an address, and else not at all. -/
theorem deploy_createsOnce (contract : Contract) (interface : Value) (bytecode : Octets)
    (arguments : List Value) :
    CreatesOnce contract (deploy contract interface bytecode arguments) := by
  have htransact : KeptByTransaction (Unchanged Session.creations) contract :=
    ⟨fun _ _ => rfl, fun _ _ _ _ => rfl, fun _ _ _ => rfl, fun _ => rfl, fun _ _ => rfl⟩
  rw [deploy_eq]
  refine .after_keeps keeps_get fun session => ?_
  refine .after_keeps ((notice_keeps _).mono OnlyConverses.creations) fun _ => ?_
  refine .after_keeps ((consent_keeps _ _ _).mono OnlyConverses.creations) fun _ => ?_
  refine .after_keeps (keeps_ofExcept _) fun _ => .after_keeps (fun s => ?_) fun result =>
    conclude_createsOnce _ _
  rw [naming_after]
  exact htransact.transact interface bytecode arguments s

/-! ## What a creation changes -/

theorem onlyTransacts_kept (contract : Contract) : KeptByCreation OnlyTransacts contract where
  converses := OnlyConverses.onlyTransacts
  begins _ _ _ _ := rfl
  accesses _ _ _ := rfl
  counts _ := rfl
  learns _ _ := rfl
  concludes _ _ := rfl

/-- A deed is done to create a contract: its transaction is begun, or the node is accessed for it, or
the web is. -/
inductive DoneFor (contract : Contract) : Deed → Prop where
  | began (interface : Value) (bytecode : Octets) (arguments : List Value) :
    DoneFor contract (.began contract interface bytecode arguments)
  | access (event : Event) : DoneFor contract (.access (some contract) event)
  | request (url : String) (timeout : Int) : DoneFor contract (.access none (.request url timeout))

/-- From one session to another, nothing is done but to create a contract. -/
def OnlyDoneFor (contract : Contract) (s s' : Session) : Prop :=
  ∃ added, s'.deeds = s.deeds ++ added ∧ ∀ deed ∈ added, DoneFor contract deed

instance (contract : Contract) : Follows (OnlyDoneFor contract) where
  refl s := ⟨[], by simp, by simp⟩
  trans := by
    rintro s mid s' ⟨a, ha, hfor⟩ ⟨b, hb, hfor'⟩
    refine ⟨a ++ b, by rw [hb, ha, List.append_assoc], fun deed hdeed => ?_⟩
    exact (List.mem_append.1 hdeed).elim (hfor deed) (hfor' deed)

theorem onlyDoneFor_of_eq (contract : Contract) (h : s'.deeds = s.deeds) :
    OnlyDoneFor contract s s' :=
  ⟨[], by simp [h], by simp⟩

theorem onlyDoneFor_kept (contract : Contract) :
    KeptByCreation (OnlyDoneFor contract) contract where
  converses h := by
    rw [OnlyConverses] at h
    exact onlyDoneFor_of_eq contract (by rw [h])
  begins s interface bytecode arguments :=
    ⟨[.began contract interface bytecode arguments], rfl, by simpa using .began _ _ _⟩
  accesses s step event := ⟨[.access (some contract) event], rfl, by simpa using .access event⟩
  counts s := onlyDoneFor_of_eq contract rfl
  learns s number := onlyDoneFor_of_eq contract rfl
  concludes s address := onlyDoneFor_of_eq contract rfl

/-! ## The transaction that was sent -/

/-- From one session to another, one transaction with the given data was broadcast, to create a
contract, and the receipts of some transactions were waited for. -/
structure Sends (contract : Contract) (data : Octets) (awaited : List (Option Contract × Octets))
    (s s' : Session) : Prop where
  chainKnown : s'.client.chainId.isSome
  sent : s'.node.sent = s.node.sent + 1
  deeds : ∃ added, s'.deeds = s.deeds ++ added ∧
    added.filterMap Deed.build? = [(some contract, s.node.transactionCount, data)] ∧
    added.filterMap Deed.send? = [(some contract, s.node.transactionCount)] ∧
    added.filterMap Deed.receipt? = awaited

/-- From one session to another, a contract was created by one transaction with the given data, at
the address that the receipt of the transaction names; no other receipt was waited for. -/
structure Creates (contract : Contract) (data : Octets) (address : Address) (s s' : Session) :
    Prop extends Sends contract data [(some contract, Chain.hashOf s.node.sent)] s s' where
  receipt : Address.read (s.node.receiptAt s.node.sent).contractAddress = .ok address

/-- From one session to another, no transaction is completed or broadcast, and no receipt is waited
for. -/
structure Quiet (s s' : Session) : Prop where
  node : s'.node = { s.node with accesses := s'.node.accesses }
  chain : s.client.chainId.isSome → s'.client.chainId.isSome
  deeds : ∃ added, s'.deeds = s.deeds ++ added ∧ added.filterMap Deed.build? = [] ∧
    added.filterMap Deed.send? = [] ∧ added.filterMap Deed.receipt? = []

theorem quiet_of_eq (hnode : s'.node = s.node) (hclient : s'.client = s.client)
    (hdeeds : s'.deeds = s.deeds) : Quiet s s' :=
  ⟨by rw [hnode], by rw [hclient]; exact id, [], by simp [hdeeds], rfl, rfl, rfl⟩

instance : Follows Quiet where
  refl s := quiet_of_eq rfl rfl rfl
  trans {s mid s'} h h' := by
    obtain ⟨a, ha, hbuild, hsend, hreceipt⟩ := h.deeds
    obtain ⟨b, hb, hbuild', hsend', hreceipt'⟩ := h'.deeds
    refine ⟨?_, fun known => h'.chain (h.chain known), a ++ b, ?_, ?_, ?_, ?_⟩
    · rw [h'.node, h.node]
    · rw [hb, ha, List.append_assoc]
    · rw [List.filterMap_append, hbuild, hbuild', List.append_nil]
    · rw [List.filterMap_append, hsend, hsend', List.append_nil]
    · rw [List.filterMap_append, hreceipt, hreceipt', List.append_nil]

theorem OnlyConverses.quiet (h : OnlyConverses s s') : Quiet s s' := by
  rw [OnlyConverses] at h
  exact quiet_of_eq (by rw [h]) (by rw [h]) (by rw [h])

theorem quiet_of_access {named : Option Contract} {step : Chain.Step} {event : Event}
    (h : access named step event s = .ok () s') (hbuild : (Deed.access named event).build? = none)
    (hsend : (Deed.access named event).send? = none)
    (hreceipt : (Deed.access named event).receipt? = none) : Quiet s s' := by
  obtain ⟨-, rfl⟩ := access_eq_ok.1 h
  exact ⟨rfl, id, [.access named event], rfl, by simp [hbuild], by simp [hsend], by simp [hreceipt]⟩

theorem Quiet.sent (h : Quiet s s') : s'.node.sent = s.node.sent := by
  rw [h.node]

theorem Quiet.transactionCount (h : Quiet s s') :
    s'.node.transactionCount = s.node.transactionCount := by
  rw [h.node]
  rfl

theorem Quiet.receiptAt (h : Quiet s s') (number : Nat) :
    s'.node.receiptAt number = s.node.receiptAt number := by
  rw [h.node]
  rfl

variable {data : Octets} {awaited : List (Option Contract × Octets)}

theorem Sends.after_quiet (h : Sends contract data awaited mid s') (hquiet : Quiet s mid) :
    Sends contract data awaited s s' := by
  obtain ⟨before, hbefore, hbuild, hsend, hreceipt⟩ := hquiet.deeds
  obtain ⟨added, hadded, hbuilds, hsends, hreceipts⟩ := h.deeds
  refine ⟨h.chainKnown, ?_, before ++ added, ?_, ?_, ?_, ?_⟩
  · rw [h.sent, hquiet.sent]
  · rw [hadded, hbefore, List.append_assoc]
  · rw [List.filterMap_append, hbuild, hbuilds, hquiet.transactionCount, List.nil_append]
  · rw [List.filterMap_append, hsend, hsends, hquiet.transactionCount, List.nil_append]
  · rw [List.filterMap_append, hreceipt, hreceipts, List.nil_append]

theorem Creates.after_quiet (h : Creates contract data address mid s') (hquiet : Quiet s mid) :
    Creates contract data address s s' where
  toSends := hquiet.sent ▸ h.toSends.after_quiet hquiet
  receipt := by
    rw [← hquiet.sent, ← hquiet.receiptAt]
    exact h.receipt

/-- The number of the chain, once it was asked for, is known. -/
theorem queryChainId_eq_ok {named : Option Contract} {chain : Int}
    (h : queryChainId named s = .ok chain s') : Quiet s s' ∧ s'.client.chainId.isSome := by
  obtain ⟨_, _, hget, h⟩ := bind_eq_ok.1 h
  cases hget
  cases hknown : s.client.chainId with
  | some number =>
    rw [hknown] at h
    cases h
    exact ⟨Follows.refl s, by rw [hknown]; rfl⟩
  | none =>
    rw [hknown] at h
    obtain ⟨_, mid, haccess, h⟩ := bind_eq_ok.1 h
    obtain ⟨-, rfl⟩ := access_eq_ok.1 (naming_eq_ok.1 haccess)
    obtain ⟨_, _, hget, h⟩ := bind_eq_ok.1 h
    cases hget
    cases h
    exact ⟨⟨rfl, fun _ => rfl, [.access named .chainId], rfl, rfl, rfl, rfl⟩, rfl⟩

/-- What was broadcast is the data, with the number of the next transaction, and the answer is the
hash of this transaction. -/
theorem broadcast_eq_ok {hash : Octets} (h : broadcast contract data s = .ok hash s') :
    hash = Chain.hashOf s.node.sent ∧ Sends contract data [] s s' := by
  obtain ⟨_, _, hget, h⟩ := bind_eq_ok.1 h
  cases hget
  obtain ⟨_, asked, hnonce, h⟩ := bind_eq_ok.1 h
  obtain ⟨_, _, hget, h⟩ := bind_eq_ok.1 h
  cases hget
  obtain ⟨chain, known, hchain, h⟩ := bind_eq_ok.1 h
  obtain ⟨hlearned, hknown⟩ := queryChainId_eq_ok hchain
  -- asking for the two numbers sends nothing
  have hquiet : Quiet s known := Follows.trans (quiet_of_access hnonce rfl rfl rfl) hlearned
  obtain ⟨_, _, haccess, h⟩ := bind_eq_ok.1 h
  obtain ⟨-, rfl⟩ := access_eq_ok.1 haccess
  obtain ⟨_, _, haccess, h⟩ := bind_eq_ok.1 h
  obtain ⟨-, rfl⟩ := access_eq_ok.1 haccess
  cases h
  refine ⟨by rw [← hquiet.sent]; rfl, Sends.after_quiet ?_ hquiet⟩
  refine ⟨hknown, rfl, _, List.append_assoc _ _ _, ?_, ?_, rfl⟩
  · rw [← hlearned.transactionCount]
    rfl
  · rw [← hlearned.transactionCount]
    rfl

theorem awaitReceipt_eq_ok {hash : Octets} {receipt : Chain.Receipt}
    (h : awaitReceipt contract hash s = .ok receipt s') :
    s.node.receipt? hash = some receipt ∧
      s' = accessing (some contract) .receipt (.receipt hash s.client.receiptTimeout) s := by
  obtain ⟨_, _, hget, h⟩ := bind_eq_ok.1 h
  cases hget
  obtain ⟨_, waited, haccess, h⟩ := bind_eq_ok.1 h
  obtain ⟨-, rfl⟩ := access_eq_ok.1 haccess
  obtain ⟨_, _, hget, h⟩ := bind_eq_ok.1 h
  cases hget
  cases hreceipt : s.node.receipt? hash with
  | none =>
    rw [accessing_node, Chain.Node.receipt?_accessed, hreceipt] at h
    cases h
  | some found =>
    rw [accessing_node, Chain.Node.receipt?_accessed, hreceipt] at h
    cases h
    exact ⟨rfl, rfl⟩

/-- The data that are assembled are those for the bytecode and the arguments. -/
theorem assemble_eq_ok {interface : Value} {bytecode : Octets} {arguments : List Value}
    (h : assemble contract interface bytecode arguments s = .ok data s') :
    Abi.creationData interface bytecode arguments = .ok data ∧
      s' = accessing (some contract) .constructor (.constructor arguments)
        { s with deeds := s.deeds ++ [.began contract interface bytecode arguments] } := by
  obtain ⟨_, _, hlog, hlogged⟩ := bind_eq_ok.1 h
  cases hlog
  obtain ⟨_, _, hcreation, hconstructor⟩ := bind_eq_ok.1 hlogged
  obtain ⟨hdata, rfl⟩ := ofExcept_eq_ok.1 hcreation
  obtain ⟨_, _, haccess, hpure⟩ := bind_eq_ok.1 hconstructor
  obtain ⟨-, rfl⟩ := access_eq_ok.1 haccess
  cases hpure
  exact ⟨hdata, rfl⟩

theorem quiet_of_assemble {interface : Value} {bytecode : Octets} {arguments : List Value}
    (h : assemble contract interface bytecode arguments s = .ok data s') : Quiet s s' := by
  obtain ⟨-, rfl⟩ := assemble_eq_ok h
  exact ⟨rfl, id, [.began contract interface bytecode arguments,
    .access (some contract) (.constructor arguments)], List.append_assoc _ _ _, rfl, rfl, rfl⟩

/-- After a transaction was broadcast, a receipt is waited for. -/
theorem Sends.accessing_receipt (h : Sends contract data awaited s s') (hash : Octets)
    (timeout : Int) : Sends contract data (awaited ++ [(some contract, hash)]) s
      (accessing (some contract) .receipt (.receipt hash timeout) s') := by
  obtain ⟨added, hadded, hbuilds, hsent, hreceipts⟩ := h.deeds
  refine ⟨h.chainKnown, h.sent,
    added ++ [.access (some contract) (.receipt hash timeout)], ?_, ?_, ?_, ?_⟩
  · rw [accessing_deeds, hadded, List.append_assoc]
  · rw [List.filterMap_append, hbuilds]
    rfl
  · rw [List.filterMap_append, hsent]
    rfl
  · rw [List.filterMap_append, hreceipts]
    rfl

/-- The data that were broadcast are those for the bytecode and the arguments, and the receipt is
that of the transaction. -/
theorem transact_eq_ok {interface : Value} {bytecode hash : Octets} {arguments : List Value}
    {receipt : Chain.Receipt}
    (h : transact contract interface bytecode arguments s = .ok (hash, receipt) s') :
    ∃ data, Abi.creationData interface bytecode arguments = .ok data ∧
      receipt = s.node.receiptAt s.node.sent ∧
      Sends contract data [(some contract, Chain.hashOf s.node.sent)] s s' := by
  obtain ⟨data, assembled, hassemble, htransact⟩ := bind_eq_ok.1 h
  have hdata := (assemble_eq_ok hassemble).1
  have hquiet := quiet_of_assemble hassemble
  obtain ⟨_, sent, hbroadcast, hawait⟩ := bind_eq_ok.1 htransact
  obtain ⟨hhash, hbroadcasts⟩ := broadcast_eq_ok hbroadcast
  have hsends := hbroadcasts.after_quiet hquiet
  obtain ⟨_, _, hreceipt, hpure⟩ := bind_eq_ok.1 hawait
  cases hpure
  obtain ⟨hfound, rfl⟩ := awaitReceipt_eq_ok hreceipt
  rw [hquiet.sent] at hhash
  subst hhash
  -- the transaction is the one that was sent last, so the receipt found by its hash is its own
  have hframe : OnlyTransacts assembled sent :=
    after_of_ok hbroadcast ▸ (onlyTransacts_kept contract).toKeptByTransaction.broadcast _ assembled
  have hown : sent.node.receiptAt s.node.sent = s.node.receiptAt s.node.sent := by
    rw [← hquiet.receiptAt, hframe]
    rfl
  rw [Chain.Node.receipt?_hashOf hsends.sent, hown] at hfound
  exact ⟨data, hdata, (Option.some.inj hfound).symm, hsends.accessing_receipt _ _⟩

theorem createdContract_eq_ok {hash : Octets} {receipt : Chain.Receipt}
    (h : createdContract contract hash receipt = .ok address) :
    Address.read receipt.contractAddress = .ok address := by
  rw [createdContract] at h
  split at h
  · cases h
  · split at h
    · split at h
      · cases h
      · exact h
    · cases h

/-- **What a creation has done.** If the creation of a contract ends with an address, it was created
there by one transaction with the data for its bytecode and arguments. -/
theorem deploy_eq_ok {interface : Value} {bytecode : Octets} {arguments : List Value}
    (h : deploy contract interface bytecode arguments s = .ok address s') :
    ∃ data, Abi.creationData interface bytecode arguments = .ok data ∧
      Creates contract data address s s' := by
  rw [deploy_eq] at h
  obtain ⟨_, _, hget, h⟩ := bind_eq_ok.1 h
  cases hget
  obtain ⟨_, mid, hnotice, hnoticed⟩ := bind_eq_ok.1 h
  have hmid : OnlyConverses s mid := after_of_ok hnotice ▸ notice_keeps _ s
  obtain ⟨_, asked, hconsent, hconsented⟩ := bind_eq_ok.1 hnoticed
  have hasked : OnlyConverses s asked :=
    Follows.trans hmid (after_of_ok hconsent ▸ consent_keeps contract interface arguments mid)
  obtain ⟨_, checked, hcheck, hchecked⟩ := bind_eq_ok.1 hconsented
  obtain ⟨-, rfl⟩ := ofExcept_eq_ok.1 hcheck
  obtain ⟨⟨hash, receipt⟩, done, hnaming, hdone⟩ := bind_eq_ok.1 hchecked
  obtain ⟨hcreated, rfl⟩ := conclude_eq_ok.1 hdone
  obtain ⟨data, hdata, hreceipt, hsends⟩ := transact_eq_ok (naming_eq_ok.1 hnaming)
  have hcreates : Creates contract data address asked done :=
    ⟨hsends, by rw [← hreceipt]; exact createdContract_eq_ok hcreated⟩
  have hown := hcreates.after_quiet hasked.quiet
  exact ⟨data, hdata, ⟨hown.chainKnown, hown.sent, hown.deeds⟩, hown.receipt⟩

end Client

end Rollout
