import Rollout.Proofs.Client.Memory
import Rollout.Proofs.Consent

/-!
# Plans

The deeds by which a contract is created are known before the first of them is done: they follow from
the contract, the node and the client (`Creation.plan`). A plan is carried out up to the first deed
that is refused, and there is a result exactly if none is (`Action.Executes`).
-/

namespace Rollout

open Rollout.Action

variable {α β : Type} {s s' mid : Session}

namespace Chain.Node

variable {node : Node} {deed : Deed} {plan p q : List Deed}

/-- What is done of a plan: the deeds up to the first one that is refused, and this one. -/
def performed (node : Node) : List Deed → List Deed
  | [] => []
  | deed :: rest =>
    if node.refusal? deed = none then deed :: (node.afterDeed deed).performed rest else [deed]

/-- Nothing of a plan is refused. -/
def Allows (node : Node) : List Deed → Prop
  | [] => True
  | deed :: rest => node.refusal? deed = none ∧ (node.afterDeed deed).Allows rest

theorem performed_of_allows (h : node.Allows plan) : node.performed plan = plan := by
  induction plan generalizing node with
  | nil => rfl
  | cons deed rest ih => rw [performed, if_pos h.1, ih h.2]

theorem allows_append :
    node.Allows (p ++ q) ↔ node.Allows p ∧ (node.afterDeeds p).Allows q := by
  induction p generalizing node with
  | nil => simp [Allows, afterDeeds]
  | cons deed rest ih =>
    rw [List.cons_append, Allows, Allows, ih, afterDeeds, afterDeeds, List.foldl_cons, and_assoc]

theorem performed_append_of_allows (h : node.Allows p) :
    node.performed (p ++ q) = p ++ (node.afterDeeds p).performed q := by
  induction p generalizing node with
  | nil => rfl
  | cons deed rest ih =>
    rw [List.cons_append, performed, if_pos h.1, ih h.2, afterDeeds, afterDeeds, List.foldl_cons]
    rfl

/-- After a refusal nothing more is done. -/
theorem performed_append_of_not_allows (h : ¬node.Allows p) :
    node.performed (p ++ q) = node.performed p := by
  induction p generalizing node with
  | nil => exact absurd trivial h
  | cons deed rest ih =>
    rw [List.cons_append, performed, performed]
    by_cases hdeed : node.refusal? deed = none
    · rw [if_pos hdeed, if_pos hdeed, ih fun hrest => h ⟨hdeed, hrest⟩]
    · rw [if_neg hdeed, if_neg hdeed]

theorem performed_prefix (node : Node) (plan : List Deed) : node.performed plan <+: plan := by
  induction plan generalizing node with
  | nil => exact List.prefix_rfl
  | cons deed rest ih =>
    rw [performed]
    split
    · exact (List.prefix_cons_inj deed).2 (ih _)
    · exact (List.prefix_cons_inj deed).2 List.nil_prefix

/-- What is refused is the last thing that is done, and the plan is not allowed. -/
theorem performed_stops {before after : List Deed} {fault : Fault}
    (hsplit : node.performed plan = before ++ deed :: after)
    (hrefused : (node.afterDeeds before).refusal? deed = some fault) :
    after = [] ∧ ¬node.Allows plan := by
  induction plan generalizing node before with
  | nil => simp [performed] at hsplit
  | cons first rest ih =>
    rw [performed] at hsplit
    cases before with
    | nil =>
      have hfirst : node.refusal? deed = some fault := hrefused
      by_cases htaken : node.refusal? first = none
      · rw [if_pos htaken] at hsplit
        obtain ⟨rfl, -⟩ := List.cons.inj hsplit
        rw [htaken] at hfirst
        cases hfirst
      · rw [if_neg htaken] at hsplit
        obtain ⟨rfl, rfl⟩ := List.cons.inj hsplit
        exact ⟨rfl, fun h => htaken h.1⟩
    | cons other before =>
      by_cases htaken : node.refusal? first = none
      · rw [if_pos htaken] at hsplit
        obtain ⟨rfl, hrest⟩ := List.cons.inj hsplit
        obtain ⟨hlast, hforbidden⟩ := ih hrest hrefused
        exact ⟨hlast, fun h => hforbidden h.2⟩
      · rw [if_neg htaken] at hsplit
        simp at hsplit

end Chain.Node

namespace Action

variable {x : Action α} {f : α → Action β} {plan p q : List Deed}

/-- An action carries out a plan up to the first deed that is refused, and does not end with a result
if one is. -/
structure Performs (x : Action α) (s : Session) (plan : List Deed) : Prop where
  deeds : (x.after s).deeds = s.deeds ++ s.node.performed plan
  node : (x.after s).node = s.node.afterDeeds (s.node.performed plan)
  allows : (∃ a s', x s = .ok a s') → s.node.Allows plan

/-- An action is given up before anything is done, or carries out a plan. -/
def Attempts (x : Action α) (s : Session) (plan : List Deed) : Prop :=
  (∃ fault s', x s = .error fault s' ∧ s'.deeds = s.deeds ∧ s'.node = s.node) ∨ Performs x s plan

/-- An action carries out a plan, and can fail only by a refusal. -/
structure Executes (x : Action α) (s : Session) (plan : List Deed) : Prop
    extends Performs x s plan where
  returns : s.node.Allows plan → ∃ a s', x s = .ok a s'

/-- In a sequence one plan is carried out after the other. -/
theorem Executes.bind (hx : Executes x s p)
    (hf : ∀ a mid, x s = .ok a mid → Executes (f a) mid q) : Executes (x >>= f) s (p ++ q) := by
  have hdeeds := hx.deeds
  have hnode := hx.node
  cases h : x s with
  | error fault mid =>
    have hforbidden : ¬s.node.Allows p := fun hallowed => by
      obtain ⟨a, s', hok⟩ := hx.returns hallowed
      rw [h] at hok
      cases hok
    have hbind := bind_of_error (f := f) h
    have hafter : (x >>= f).after s = x.after s := by
      rw [after_of_error hbind, after_of_error h]
    refine ⟨⟨?_, ?_, ?_⟩, fun hallowed => ?_⟩
    · rw [hafter, hdeeds, Chain.Node.performed_append_of_not_allows hforbidden]
    · rw [hafter, hnode, Chain.Node.performed_append_of_not_allows hforbidden]
    · rintro ⟨_, _, hok⟩
      rw [hbind] at hok
      cases hok
    · exact absurd (Chain.Node.allows_append.1 hallowed).1 hforbidden
  | ok a mid =>
    have hallowed : s.node.Allows p := hx.allows ⟨a, mid, h⟩
    have hsecond := hf a mid h
    have hbind : (x >>= f) s = f a mid := bind_of_ok h
    have hafter : (x >>= f).after s = (f a).after mid := by rw [after, hbind]; rfl
    rw [after_of_ok h, Chain.Node.performed_of_allows hallowed] at hdeeds hnode
    have hallows := hsecond.allows
    have hreturns := hsecond.returns
    rw [hnode] at hallows hreturns
    refine ⟨⟨?_, ?_, ?_⟩, ?_⟩
    · rw [hafter, hsecond.deeds, hdeeds, hnode, Chain.Node.performed_append_of_allows hallowed,
        List.append_assoc]
    · rw [hafter, hsecond.node, hnode, Chain.Node.performed_append_of_allows hallowed,
        Chain.Node.afterDeeds_append]
    · rw [hbind]
      exact fun hok => Chain.Node.allows_append.2 ⟨hallowed, hallows hok⟩
    · rw [hbind]
      exact fun h => hreturns (Chain.Node.allows_append.1 h).2

/-- An action that always ends with a result, and does nothing to the node, carries out the empty
plan. -/
theorem executes_nil (hok : ∃ a s', x s = .ok a s' ∧ s'.deeds = s.deeds ∧ s'.node = s.node) :
    Executes x s [] := by
  obtain ⟨a, s', h, hdeeds, hnode⟩ := hok
  refine ⟨⟨?_, ?_, fun _ => trivial⟩, fun _ => ⟨a, s', h⟩⟩
  · rw [after_of_ok h, hdeeds, Chain.Node.performed, List.append_nil]
  · rw [after_of_ok h, hnode]
    rfl

theorem executes_pure (a : α) (s : Session) : Executes (pure a : Action α) s [] :=
  executes_nil ⟨a, s, rfl, rfl, rfl⟩

theorem Executes.bind_nil (hx : Executes x s p)
    (hf : ∀ a mid, x s = .ok a mid → Executes (f a) mid []) : Executes (x >>= f) s p := by
  have h := hx.bind hf
  rwa [List.append_nil] at h

theorem executes_get {f : Session → Action β} (h : Executes (f s) s plan) :
    Executes (get >>= f) s plan :=
  ⟨⟨h.deeds, h.node, h.allows⟩, h.returns⟩

/-- An action that does one thing carries it out, whether it is refused or not. -/
theorem executes_of_deed {deed : Deed} (hdeeds : (x.after s).deeds = s.deeds ++ [deed])
    (hnode : (x.after s).node = s.node.afterDeed deed)
    (hreturns : (∃ a s', x s = .ok a s') ↔ s.node.refusal? deed = none) : Executes x s [deed] := by
  have hperformed : s.node.performed [deed] = [deed] := by
    rw [Chain.Node.performed]
    split <;> rfl
  refine ⟨⟨?_, ?_, fun hok => ⟨hreturns.1 hok, trivial⟩⟩, fun h => hreturns.2 h.1⟩
  · rw [hperformed, hdeeds]
  · rw [hperformed, hnode]
    rfl

/-- A plan is carried out by a sequence the second part of which does nothing to the node. -/
theorem Performs.bind_silent (h : Performs x s plan)
    (hdeeds : ∀ a mid, ((f a).after mid).deeds = mid.deeds)
    (hnode : ∀ a mid, ((f a).after mid).node = mid.node) : Performs (x >>= f) s plan := by
  have hsame : ((x >>= f).after s).deeds = (x.after s).deeds ∧
      ((x >>= f).after s).node = (x.after s).node := by
    cases hx : x s with
    | error fault mid =>
      rw [after_of_error hx, after_of_error (bind_of_error hx)]
      exact ⟨rfl, rfl⟩
    | ok a mid =>
      have hafter : (x >>= f).after s = (f a).after mid := by rw [after, bind_of_ok hx]; rfl
      rw [after_of_ok hx, hafter]
      exact ⟨hdeeds a mid, hnode a mid⟩
  refine ⟨?_, ?_, ?_⟩
  · rw [hsame.1, h.deeds]
  · rw [hsame.2, h.node]
  · rintro ⟨_, _, hok⟩
    obtain ⟨a, mid, hx, -⟩ := bind_eq_ok.1 hok
    exact h.allows ⟨a, mid, hx⟩

theorem Performs.map (h : Performs x s plan) (g : α → β) :
    Performs (x >>= fun a => pure (g a)) s plan :=
  h.bind_silent (fun _ _ => rfl) fun _ _ => rfl

theorem Attempts.map (h : Attempts x s plan) (g : α → β) :
    Attempts (x >>= fun a => pure (g a)) s plan := by
  obtain ⟨fault, s', hx, hdeeds, hnode⟩ | hperforms := h
  · exact .inl ⟨fault, s', bind_of_error hx, hdeeds, hnode⟩
  · exact .inr (hperforms.map g)

/-- What is attempted in one session is attempted in another where the same is done. -/
theorem Attempts.congr {y : Action α} {t : Session} (h : Attempts y t plan) (hrun : x s = y t)
    (hdeeds : t.deeds = s.deeds) (hnode : t.node = s.node) : Attempts x s plan := by
  have hafter : x.after s = y.after t := by rw [after, after, hrun]
  obtain ⟨fault, s', hy, hdeeds', hnode'⟩ | hperforms := h
  · exact .inl ⟨fault, s', hrun.trans hy, hdeeds'.trans hdeeds, hnode'.trans hnode⟩
  · refine .inr ⟨?_, ?_, fun hok => ?_⟩
    · rw [hafter, hperforms.deeds, hdeeds, hnode]
    · rw [hafter, hperforms.node, hnode]
    · exact hnode ▸ hperforms.allows (hrun ▸ hok)

theorem executes_access {named : Option Contract} {step : Chain.Step} {event : Event}
    (hstep : (Deed.access named event).step? = some step) (hsend : step ≠ .send) (s : Session) :
    Executes (access named step event) s [.access named event] := by
  refine executes_of_deed ?_ ?_ ?_
  · rw [access_after, accessing_deeds]
  · rw [access_after, accessing_node, Chain.Node.afterDeed_of_ne hstep hsend]
  · rw [Chain.Node.refusal?_access, hstep]
    exact ⟨fun ⟨_, _, h⟩ => (access_eq_ok.1 h).1, fun h => ⟨(), _, access_of_none h⟩⟩

theorem executes_send {named : Option Contract} {nonce : Int} (s : Session) :
    Executes (send named nonce) s [.access named (.send nonce)] := by
  refine executes_of_deed ?_ ?_ ⟨fun ⟨_, _, h⟩ => ?_, fun h => ?_⟩
  · rw [send_after]
  · rw [send_after]
  · obtain ⟨_, _, haccess, -⟩ := bind_eq_ok.1 h
    exact (access_eq_ok.1 haccess).1
  · exact ⟨_, _, (bind_of_ok (access_of_none h)).trans rfl⟩

end Action

namespace Client

/-! ## The plan of a creation -/

/-- A contract that is to be created. -/
structure Creation where
  /-- The contract. -/
  contract : Contract
  /-- The interface of the contract. -/
  interface : Value
  /-- The bytecode of the contract, without references to libraries. -/
  bytecode : Octets
  /-- The arguments of the constructor. -/
  arguments : List Value

/-- The accesses by which a transaction is completed and broadcast: the number of the chain is asked
for only if it is not known. -/
def broadcastEvents (data : Octets) (s : Session) : List Event :=
  [.nonce s.client.account] ++ (if s.client.chainId.isSome then [] else [.chainId])
    ++ [.build s.client.account s.node.transactionCount (s.client.chainId.getD s.node.chainId) data,
      .send s.node.transactionCount]

namespace Creation

/-- The accesses by which a contract is created, given the data of its transaction. -/
def events (creation : Creation) (data : Octets) (s : Session) : List Event :=
  [.constructor creation.arguments] ++ broadcastEvents data s
    ++ [.receipt (Chain.hashOf s.node.sent) s.client.receiptTimeout]

/-- The beginning of the transaction by which a contract is created. -/
def beginning (creation : Creation) : Deed :=
  .began creation.contract creation.interface creation.bytecode creation.arguments

/-- Creates a contract. -/
def run (creation : Creation) : Action Address :=
  deploy creation.contract creation.interface creation.bytecode creation.arguments

/-- What the creation of a contract does from the beginning of the transaction to its receipt. -/
def transact (creation : Creation) : Action (Octets × Chain.Receipt) :=
  Client.transact creation.contract creation.interface creation.bytecode creation.arguments

/-- What the creation of a contract does before the beginning of the transaction. -/
def ask (creation : Creation) : Action Unit :=
  preface creation.contract creation.interface creation.arguments

/-- The deeds by which a contract is created. There are data for its transaction only if the interface
takes the arguments. -/
def plan (creation : Creation) (s : Session) : List Deed :=
  creation.beginning ::
    match Abi.creationData creation.interface creation.bytecode creation.arguments with
    | .error _ => []
    | .ok data => (creation.events data s).map (.access (some creation.contract))

end Creation

variable {contract : Contract} {interface : Value} {bytecode data hash : Octets}
  {arguments : List Value} {named : Option Contract} {cause : String → Cause}

theorem executes_naming {x : Action α} {plan : List Deed} (h : Executes x s plan) :
    Executes (naming cause named x) s plan := by
  refine ⟨⟨?_, ?_, ?_⟩, ?_⟩
  · rw [naming_after, h.deeds]
  · rw [naming_after, h.node]
  · simpa only [naming_eq_ok] using h.allows
  · simpa only [naming_eq_ok] using h.returns

theorem queryChainId_executes (named : Option Contract) (s : Session) :
    Executes (queryChainId named) s
      (if s.client.chainId.isSome then [] else [.access named .chainId]) := by
  cases hknown : s.client.chainId with
  | some number => exact executes_nil ⟨number, s, queryChainId_of_some hknown, rfl, rfl⟩
  | none =>
    refine executes_get ?_
    rw [hknown]
    refine (executes_naming (executes_access rfl (by decide) s)).bind_nil fun _ mid _ => ?_
    exact executes_nil ⟨_, _, rfl, rfl, rfl⟩

theorem queryCode_executes (address : String) (s : Session) :
    Executes (queryCode address) s [.access none (.code address)] := by
  refine (executes_naming (executes_access rfl (by decide) s)).bind_nil fun _ mid _ => ?_
  exact executes_nil ⟨_, _, rfl, rfl, rfl⟩

theorem broadcast_executes (contract : Contract) (data : Octets) (s : Session) :
    Executes (broadcast contract data) s
      ((broadcastEvents data s).map (.access (some contract))) := by
  have hplan : (broadcastEvents data s).map (Deed.access (some contract)) =
      [.access (some contract) (.nonce s.client.account)]
        ++ ((if s.client.chainId.isSome then [] else [.access (some contract) .chainId])
        ++ ([.access (some contract) (.build s.client.account s.node.transactionCount
            (s.client.chainId.getD s.node.chainId) data)]
          ++ [.access (some contract) (.send s.node.transactionCount)])) := by
    cases hknown : s.client.chainId <;> simp [broadcastEvents, hknown]
  rw [hplan]
  refine executes_get ((executes_access rfl (by decide) s).bind fun _ mid hnonce => ?_)
  obtain ⟨-, rfl⟩ := access_eq_ok.1 hnonce
  refine executes_get ((queryChainId_executes _ _).bind fun chain known hchain => ?_)
  obtain ⟨rfl, -⟩ := queryChainId_answer hchain
  refine (executes_access rfl (by decide) known).bind fun _ mid _ => ?_
  rw [← bind_assoc]
  refine Executes.bind_nil (executes_send mid) fun _ sent _ => ?_
  exact executes_nil ⟨_, _, rfl, rfl, rfl⟩

theorem assemble_executes (contract : Contract) (interface : Value) (bytecode : Octets)
    (arguments : List Value) (s : Session) :
    Executes (assemble contract interface bytecode arguments) s
      ([.began contract interface bytecode arguments]
        ++ match Abi.creationData interface bytecode arguments with
          | .error _ => []
          | .ok _ => [.access (some contract) (.constructor arguments)]) := by
  rw [assemble, ← bind_assoc]
  refine Executes.bind (executes_of_deed ?_ ?_ ?_) fun data mid hbegun => ?_
  · cases Abi.creationData interface bytecode arguments <;> rfl
  · rw [Chain.Node.afterDeed_of_none rfl]
    cases Abi.creationData interface bytecode arguments <;> rfl
  · rw [Chain.Node.refusal?]
    cases Abi.creationData interface bytecode arguments with
    | error fault =>
      refine iff_of_false (fun hreturns => ?_) (Option.some_ne_none fault)
      obtain ⟨_, _, hok⟩ := hreturns
      cases hok
    | ok data => exact iff_of_true ⟨data, _, rfl⟩ rfl
  · obtain ⟨_, _, -, hdata⟩ := bind_eq_ok.1 hbegun
    rw [(ofExcept_eq_ok.1 hdata).1]
    exact (executes_access rfl (by decide) mid).bind_nil fun _ mid _ => executes_pure data mid

/-- A receipt that there is can be waited for. -/
theorem awaitReceipt_executes (contract : Contract) {receipt : Chain.Receipt}
    (h : s.node.receipt? hash = some receipt) : Executes (awaitReceipt contract hash) s
      [.access (some contract) (.receipt hash s.client.receiptTimeout)] := by
  refine executes_get ((executes_access rfl (by decide) s).bind_nil fun _ mid hwait => ?_)
  obtain ⟨-, rfl⟩ := access_eq_ok.1 hwait
  refine executes_get ?_
  rw [accessing_node, Chain.Node.receipt?_accessed, h]
  exact executes_pure receipt _

/-- There is a receipt of a transaction that was broadcast. -/
theorem broadcast_taken (h : broadcast contract data s = .ok hash s') :
    hash = Chain.hashOf s.node.sent ∧ s'.client.receiptTimeout = s.client.receiptTimeout ∧
      ∃ receipt, s'.node.receipt? hash = some receipt := by
  have hframe : OnlyTransacts s s' :=
    after_of_ok h ▸ (onlyTransacts_kept contract).toKeptByTransaction.broadcast data s
  obtain ⟨rfl, hsends⟩ := broadcast_eq_ok h
  exact ⟨rfl, by rw [hframe], _, Chain.Node.receipt?_hashOf hsends.sent⟩

theorem Creation.transact_executes (creation : Creation) (s : Session) :
    Executes creation.transact s (creation.plan s) := by
  obtain ⟨contract, interface, bytecode, arguments⟩ := creation
  have hassemble := assemble_executes contract interface bytecode arguments s
  cases hdata : Abi.creationData interface bytecode arguments with
  | error fault =>
    -- without data nothing follows the beginning of the transaction
    rw [hdata] at hassemble
    rw [Creation.plan, hdata]
    refine hassemble.bind_nil fun data mid hok => ?_
    have hdata' := (assemble_eq_ok hok).1
    rw [hdata] at hdata'
    cases hdata'
  | ok data =>
    have hplan : Creation.plan ⟨contract, interface, bytecode, arguments⟩ s =
        ([.began contract interface bytecode arguments]
          ++ [.access (some contract) (.constructor arguments)])
        ++ ((broadcastEvents data s).map (.access (some contract))
          ++ [.access (some contract) (.receipt (Chain.hashOf s.node.sent)
            s.client.receiptTimeout)]) := by
      rw [Creation.plan, hdata]
      simp [Creation.events, Creation.beginning]
    rw [hdata] at hassemble
    rw [hplan]
    refine hassemble.bind fun data' mid hok => ?_
    obtain ⟨hdata', hmid⟩ := assemble_eq_ok hok
    obtain rfl := Except.ok.inj (hdata.symm.trans hdata')
    -- assembling the data changes nothing that the plan reads
    have hevents : broadcastEvents data s = broadcastEvents data mid := by subst hmid; rfl
    have hsent : s.node.sent = mid.node.sent := by subst hmid; rfl
    have hwaits : s.client.receiptTimeout = mid.client.receiptTimeout := by subst hmid; rfl
    rw [hevents, hsent, hwaits]
    refine (broadcast_executes contract data mid).bind fun hash sent hbroadcast => ?_
    obtain ⟨rfl, htimeout, receipt, hreceipt⟩ := broadcast_taken hbroadcast
    rw [← htimeout]
    exact (awaitReceipt_executes contract hreceipt).bind_nil fun _ mid _ => executes_pure _ mid

/-! ## When a contract is created -/

theorem createdContract_eq_ok_iff {receipt : Chain.Receipt} {address : Address} :
    createdContract contract hash receipt = .ok address ↔
      (∃ status, receipt.status = some status ∧ status.EqualsOne) ∧
        Address.read receipt.contractAddress = .ok address := by
  rw [createdContract]
  cases receipt.status with
  | none => simp
  | some status =>
    simp only [Option.some.injEq, exists_eq_left', ← Chain.Receipt.succeeded_iff]
    by_cases hsucceeded : Chain.Receipt.succeeded status = true
    · by_cases hvacant : receipt.contractAddress.isVacant = true
      · have hread : Address.read receipt.contractAddress ≠ .ok address := fun h => by
          rw [Address.isVacant_of_read h] at hvacant
          cases hvacant
        simp [hsucceeded, hvacant, hread]
      · simp [hsucceeded, hvacant]
    · simp [hsucceeded]

namespace Creation

/-- There is consent to a creation: transactions are signed without asking, or the input has an answer
to each question, and none declines. -/
inductive Agreed (creation : Creation) (s : Session) : Prop where
  /-- Nothing is asked. -/
  | signs : s.client.autosign = true → Agreed creation s
  /-- The questions are answered by the next lines of the input. -/
  | answers {parameters : Abi.Parameters} {answers : List (List Char)} {left : List Char} :
    s.client.autosign = false →
    Abi.constructorParameters creation.interface creation.arguments = .ok parameters →
    Consent.Reads s.input answers left →
    answers.length = (Consent.questions creation.contract.artifact parameters).length →
    (∀ answer ∈ answers, Consent.declines answer = false) → Agreed creation s

/-- There is consent to a creation, the interface takes the arguments, no access is refused, and the
receipt of the transaction has a status equal to one and names an address. -/
structure Succeeds (creation : Creation) (s : Session) (address : Address) : Prop where
  agreed : creation.Agreed s
  creatable : Abi.checkCreatable creation.interface = .ok ()
  encodes : ∃ data,
    Abi.creationData creation.interface creation.bytecode creation.arguments = .ok data
  allowed : s.node.Allows (creation.plan s)
  succeeded : ∃ status, (s.node.receiptAt s.node.sent).status = some status ∧ status.EqualsOne
  names : Address.read (s.node.receiptAt s.node.sent).contractAddress = .ok address

variable {creation : Creation} {address : Address} {asked : Session}

theorem plan_congr (hnode : s'.node = s.node) (hclient : s'.client = s.client) :
    creation.plan s' = creation.plan s := by
  simp only [plan, events, broadcastEvents, hnode, hclient]

theorem ask_keeps (creation : Creation) : Keeps OnlyConverses creation.ask :=
  keeps_get.bind fun _ => (notice_keeps _).bind fun _ => consent_keeps _ _ _

/-- Questions are answered exactly if there is consent. -/
theorem ask_eq_ok_iff : (∃ asked, creation.ask s = .ok () asked) ↔ creation.Agreed s := by
  constructor
  · rintro ⟨asked, hask⟩
    cases hsigns : s.client.autosign with
    | true => exact .signs hsigns
    | false =>
      obtain ⟨answers, hends⟩ :=
        preface_ends creation.contract creation.interface creation.arguments hsigns
      rw [← ask, hask] at hends
      cases hends with
      | granted hshows hgranted =>
        have hreads := hgranted.reads
        rw [hshows.only] at hreads
        exact .answers hsigns hshows.parameters hreads hgranted.all hgranted.consents
  · intro hagreed
    cases hagreed with
    | signs hsigns => exact ⟨_, preface_of_autosign hsigns⟩
    | answers hsigns hparameters hreads hall hconsents =>
      exact preface_of_reads hsigns hparameters hreads hall hconsents

/-- With consent, and with an interface that can be used, the transaction is begun. -/
theorem run_of_ask (hask : creation.ask s = .ok () asked)
    (hcheck : Abi.checkCreatable creation.interface = .ok ()) : creation.run s =
      (naming .transactionFailed (some creation.contract) creation.transact >>= fun result =>
        conclude creation.contract result.1 result.2) asked := by
  rw [run, deploy_eq_preface, ← ask, bind_of_ok hask, proceed, hcheck]
  rfl

/-- A creation is given up before its transaction is begun, and then nothing is done; or there is
consent, and the transaction is begun. -/
theorem run_cases (creation : Creation) (s : Session) :
    (∃ fault s', creation.run s = .error fault s' ∧ OnlyConverses s s') ∨
      ∃ asked, creation.ask s = .ok () asked ∧
        Abi.checkCreatable creation.interface = .ok () := by
  have hkeeps := creation.ask_keeps s
  cases hask : creation.ask s with
  | error fault asked =>
    rw [after_of_error hask] at hkeeps
    refine .inl ⟨fault, asked, ?_, hkeeps⟩
    rw [run, deploy_eq_preface, ← ask, bind_of_error hask]
  | ok _ asked =>
    rw [after_of_ok hask] at hkeeps
    cases hcheck : Abi.checkCreatable creation.interface with
    | ok _ => exact .inr ⟨asked, rfl, rfl⟩
    | error fault =>
      refine .inl ⟨fault, asked, ?_, hkeeps⟩
      rw [run, deploy_eq_preface, ← ask, bind_of_ok hask, proceed, hcheck]
      rfl

/-- **What a creation does.** A creation is given up before its transaction is begun, and then nothing
is done; or what is planned is done up to the first refusal. -/
theorem run_attempts (creation : Creation) (s : Session) :
    Attempts creation.run s (creation.plan s) := by
  obtain ⟨fault, s', hrun, hkeeps⟩ | ⟨asked, hask, hcheck⟩ := creation.run_cases s
  · exact .inl ⟨fault, s', hrun, by rw [hkeeps], by rw [hkeeps]⟩
  have hkeeps : OnlyConverses s asked := after_of_ok hask ▸ creation.ask_keeps s
  have hnode : asked.node = s.node := by rw [hkeeps]
  have hdeeds : asked.deeds = s.deeds := by rw [hkeeps]
  have hexecutes : Executes (naming .transactionFailed (some creation.contract) creation.transact)
      asked (creation.plan asked) := executes_naming (creation.transact_executes asked)
  rw [plan_congr hnode hkeeps.client_eq] at hexecutes
  have hperforms := hexecutes.toPerforms.bind_silent (f := fun result =>
    conclude creation.contract result.1 result.2) (fun _ _ => by rw [conclude_after])
    fun _ _ => by rw [conclude_after]
  exact .congr (.inr hperforms) (run_of_ask hask hcheck) hdeeds hnode

/-- **When a contract is created.** The creation of a contract ends with an address exactly if it
succeeds there. -/
theorem run_eq_ok_iff : (∃ s', creation.run s = .ok address s') ↔ creation.Succeeds s address := by
  constructor
  · rintro ⟨s', hrun⟩
    obtain ⟨fault, s', hrefused, -⟩ | ⟨asked, hask, hcheck⟩ := creation.run_cases s
    · rw [hrun] at hrefused
      cases hrefused
    · have hkeeps : OnlyConverses s asked := after_of_ok hask ▸ creation.ask_keeps s
      have hnode : asked.node = s.node := by rw [hkeeps]
      rw [run_of_ask hask hcheck] at hrun
      obtain ⟨result, done, hnaming, hcreated⟩ := bind_eq_ok.1 hrun
      have htransact := naming_eq_ok.1 hnaming
      obtain ⟨data, hdata, hreceipt, -⟩ := transact_eq_ok htransact
      have hallowed := (creation.transact_executes asked).allows ⟨result, done, htransact⟩
      rw [plan_congr hnode hkeeps.client_eq, hnode] at hallowed
      obtain ⟨hsucceeded, hnames⟩ := createdContract_eq_ok_iff.1 (conclude_eq_ok.1 hcreated).1
      rw [hreceipt, hnode] at hsucceeded hnames
      exact ⟨ask_eq_ok_iff.1 ⟨asked, hask⟩, hcheck, ⟨data, hdata⟩, hallowed, hsucceeded, hnames⟩
  · intro h
    obtain ⟨asked, hask⟩ := ask_eq_ok_iff.2 h.agreed
    have hkeeps : OnlyConverses s asked := after_of_ok hask ▸ creation.ask_keeps s
    have hnode : asked.node = s.node := by rw [hkeeps]
    have hplan : creation.plan asked = creation.plan s := plan_congr hnode hkeeps.client_eq
    have hallowed := h.allowed
    rw [← hplan, ← hnode] at hallowed
    obtain ⟨⟨hash, receipt⟩, s', htransact⟩ := (creation.transact_executes asked).returns hallowed
    obtain ⟨-, -, hreceipt, -⟩ := transact_eq_ok htransact
    rw [hnode] at hreceipt
    subst hreceipt
    have hcreated : createdContract creation.contract hash (s.node.receiptAt s.node.sent) =
        .ok address := createdContract_eq_ok_iff.2 ⟨h.succeeded, h.names⟩
    have hconcluded : conclude creation.contract hash (s.node.receiptAt s.node.sent) s' =
        .ok address { s' with creations := s'.creations ++ [(creation.contract, address)] } :=
      conclude_eq_ok.2 ⟨hcreated, rfl⟩
    exact ⟨_, (run_of_ask hask h.creatable).trans
      ((bind_of_ok (naming_eq_ok.2 htransact)).trans hconcluded)⟩

end Creation

end Client

end Rollout
