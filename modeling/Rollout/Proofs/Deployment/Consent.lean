import Rollout.Proofs.Client.Rounds
import Rollout.Proofs.Deployment.Output

/-!
# No broadcast without consent

Where transactions are not signed without asking, deployments and sequences of requests hold rounds:
whatever is broadcast is broadcast in a round in which every question is answered by a line of its own,
and no answer declines. Where one declines, or where the input ends, nothing more is done
(`act_consented`).
-/

namespace Rollout.Deployment

open Rollout.Action Resolution Client

variable {s s' mid : Session} {round : Round} {rounds : List Round}

/-! ## What is done beside rounds -/

theorem access_aside {named : Option Contract} {step : Chain.Step} {event : Event}
    (h : (Deed.access named event).isAside) : Keeps Aside (access named step event) := by
  intro s
  rw [access_after]
  exact aside_of_deed rfl rfl rfl h

theorem queryCode_aside (address : String) : Keeps Aside (queryCode address) := by
  intro s
  rw [queryCode_after]
  exact aside_of_deed rfl rfl rfl rfl

theorem queryChainId_aside : Keeps Aside (queryChainId none) :=
  queryChainId_keeps (access_aside rfl) fun _ _ => ⟨rfl, rfl, [], by simp, by simp⟩

theorem genesis_aside : Keeps Aside Action.genesis := by
  refine keeps_get.bind fun session => ?_
  cases session.genesis.fetched with
  | some genesis => exact keeps_pure genesis
  | none =>
    refine Keeps.bind (keeps_modify fun s => aside_of_eq rfl rfl rfl) fun _ => ?_
    refine Keeps.bind (fun s => aside_of_deed rfl rfl rfl rfl) fun answer => ?_
    refine (keeps_ofExcept _).bind fun genesis => ?_
    exact Keeps.bind (keeps_modify fun s => aside_of_eq rfl rfl rfl) fun _ => keeps_pure _

/-- All that a deployment does before the registry is published is done in rounds, or beside them. -/
theorem consults_heldByParts : HeldByParts fun _ x s => Consults x s where
  toComposes := consults_composes
  notices _ _ := consults_of_aside (aside_of_eq rfl rfl rfl)
  creates contract interface bytecode arguments s :=
    run_consults ⟨contract, interface, bytecode, arguments⟩ s
  reads contract s := by
    refine consults_composes.get (consults_composes.bind (consults_composes.ofExcept _ s) ?_)
    intro found mid hfound
    obtain ⟨-, rfl⟩ := ofExcept_eq_ok.1 hfound
    exact consults_of_aside (aside_of_eq rfl rfl rfl)
  fetches s := consults_of_aside (genesis_aside s)
  inquires address s := consults_of_aside (queryCode_aside address s)
  enters _ _ := consults_of_aside (aside_of_eq rfl rfl rfl)
  finds hget := by
    refine consults_of_aside ?_
    rw [after_of_ok (resolve_of_get? hget)]
    exact aside_of_deed rfl rfl rfl rfl
  opens _ _ := consults_of_aside (aside_of_deed rfl rfl rfl rfl)
  settles contract value s := by
    refine consults_of_aside ?_
    cases hrecord : s.registry.record contract value with
    | error fault =>
      rw [after_of_error (Registry.settle_of_error hrecord)]
      exact aside_of_deed rfl rfl rfl rfl
    | ok r =>
      rw [after_of_ok (Registry.settle_of_ok hrecord)]
      exact ⟨rfl, rfl, _, rfl, by simp [Deed.isAside]⟩

/-! ## Requests -/

/-- A request is a round, or done beside rounds. -/
theorem act_consults (request : Request) (s : Session) : Consults request.act s := by
  cases request with
  | chainId => exact consults_composes.map (consults_of_aside (queryChainId_aside s)) _
  | code address => exact consults_composes.map (consults_of_aside (queryCode_aside address s)) _
  | create creation => exact consults_composes.map (run_consults creation s) _
  | createFromBytecode contract bytecode =>
    exact consults_composes.map (run_consults ⟨contract, .list [], bytecode, []⟩ s) _
  | createFromArtifact contract arguments =>
    exact consults_composes.map (consults_heldByParts.deployArtifact contract arguments s) _

/-- Runs an action, and survives some of the faults with which it may end. -/
def surviving (survives : Fault → Bool) (action : Action Unit) : Action Unit :=
  tryCatch action fun fault => if survives fault then pure () else throw fault

/-- Makes requests one after another, until one of them ends with a fault that is not survived. -/
def inTurn (survives : Fault → Bool) : List Request → Action Unit
  | [] => pure ()
  | request :: rest => do
    surviving survives do
      let _ ← request.act
      return ()
    inTurn survives rest

variable {survives : Fault → Bool} {x : Action Unit} {fault : Fault}

theorem surviving_of_ok (h : x s = .ok () s') : surviving survives x s = .ok () s' :=
  tryCatch_of_ok h

theorem surviving_of_error (h : x s = .error fault s') : surviving survives x s =
    if survives fault then .ok () s' else .error fault s' := by
  have hcatch : surviving survives x s =
      (if survives fault then pure () else throw fault : Action Unit) s' := tryCatch_of_error h
  rw [hcatch]
  split <;> rfl

theorem surviving_after (s : Session) : (surviving survives x).after s = x.after s := by
  cases h : x s with
  | ok _ mid => rw [after_of_ok (surviving_of_ok h), after_of_ok h]
  | error fault mid =>
    rw [after_of_error h, after, surviving_of_error h]
    cases survives fault <;> rfl

/-- Whoever survives faults, but neither a refusal nor the end of the input, holds the same rounds. -/
theorem surviving_consults (ends : ∀ fault, fault.isUnwilling → survives fault = false)
    (hx : Consults x s) : Consults (surviving survives x) s := by
  intro hasks
  obtain ⟨rounds, hholds⟩ := hx hasks
  refine ⟨rounds, ?_, fun hsplit hresult hfault => ?_⟩
  · rw [surviving_after]
    exact hholds.held
  · obtain ⟨hlast, hx⟩ := hholds.halts hsplit hresult hfault
    refine ⟨hlast, ?_⟩
    rw [surviving_of_error hx, ends _ hfault]
    rfl

theorem inTurn_consults (ends : ∀ fault, fault.isUnwilling → survives fault = false)
    (requests : List Request) (s : Session) : Consults (inTurn survives requests) s := by
  induction requests generalizing s with
  | nil => exact consults_composes.pure () s
  | cons request rest ih =>
    refine consults_composes.bind ?_ fun _ mid _ => ih mid
    exact surviving_consults ends (consults_composes.map (act_consults request s) _)

/-- A request changes no more than the procedure of a contract does. -/
theorem act_onlyDeploys (request : Request) : Keeps OnlyDeploys request.act := by
  cases request with
  | chainId =>
    refine Keeps.bind (keeps_get.bind fun session => ?_) fun _ => keeps_pure _
    cases session.client.chainId with
    | some number => exact keeps_pure number
    | none =>
      refine Keeps.bind (fun s => ?_) fun _ => keeps_get.bind fun session => ?_
      · rw [naming_after, access_after]
        rfl
      · exact Keeps.bind (keeps_modify fun s => rfl) fun _ => keeps_pure _
  | code address =>
    refine Keeps.bind (Keeps.bind (fun s => ?_) fun _ => keeps_get.bind fun _ => keeps_pure _)
      fun _ => keeps_pure _
    rw [naming_after, access_after]
    rfl
  | create creation =>
    refine Keeps.bind ?_ fun _ => keeps_pure _
    exact (onlyDeploys_kept creation.contract).toKeptByCreation.deploy _ _ _
  | createFromBytecode contract bytecode =>
    exact ((onlyDeploys_kept contract).toKeptByCreation.deploy _ _ _).bind fun _ => keeps_pure _
  | createFromArtifact contract arguments =>
    exact ((onlyDeploys_kept contract).deployArtifact arguments).bind fun _ => keeps_pure _

theorem inTurn_onlyDeploys (survives : Fault → Bool) (requests : List Request) :
    Keeps OnlyDeploys (inTurn survives requests) := by
  induction requests with
  | nil => exact keeps_pure ()
  | cons request rest ih =>
    refine Keeps.bind (fun s => ?_) fun _ => ih
    rw [surviving_after]
    exact (act_onlyDeploys request).bind (fun _ => keeps_pure _) s

/-! ## Jobs -/

/-- What can be done with a client that asks. -/
inductive Job where
  /-- To run a deployment. -/
  | run (deployment : Deployment)
  /-- To make requests one after another, and to survive some of the faults with which they end. -/
  | request (survives : Fault → Bool) (requests : List Request)

namespace Job

/-- Tells whether a job goes on after a fault. -/
def goesOn : Job → Fault → Bool
  | run _ => fun _ => false
  | request survives _ => survives

/-- What is done for a job. -/
def act : Job → Action Unit
  | run deployment => deployment.run
  | request survives requests => inTurn survives requests

/-- The part of a job in which contracts are created. -/
def work : Job → Action Unit
  | run deployment => deployment.prepare
  | request survives requests => inTurn survives requests

variable {job : Job}

theorem work_consults (ends : ∀ fault, fault.isUnwilling → job.goesOn fault = false)
    (s : Session) : Consults job.work s := by
  cases job with
  | run deployment => exact consults_heldByParts.prepare deployment s
  | request survives requests => exact inTurn_consults ends requests s

/-- Nothing is written in the work of a job. -/
theorem work_keepsFiles (job : Job) (s : Session) :
    (job.work.after s).files = s.files ∧ (job.work.after s).output = s.output := by
  cases job with
  | run deployment => exact prepare_keepsFiles deployment s
  | request survives requests =>
    have hframe : OnlyDeploys s _ := inTurn_onlyDeploys survives requests s
    have hwork : (Job.request survives requests).work.after s =
        (inTurn survives requests).after s := rfl
    rw [hwork, hframe]
    exact ⟨rfl, rfl⟩

/-- A job fails where its work does, and tells of it unless the user declines. -/
theorem act_of_error (h : job.work s = .error fault mid) : ∃ s', job.act s = .error fault s' ∧
    (s' = mid ∨ fault ≠ .refusal ∧ s' = aborted mid) := by
  cases job with
  | request survives requests => exact ⟨mid, h, .inl rfl⟩
  | run deployment =>
    have hsteps : deployment.steps s = .error fault mid := by
      rw [steps_eq_prepare]
      exact bind_of_error h
    refine ⟨_, run_of_error hsteps, ?_⟩
    split
    · exact .inl rfl
    · next hne => exact .inr ⟨hne, rfl⟩

theorem publish_aside (deployment : Deployment) : Keeps Aside deployment.publish := by
  refine keeps_get.bind fun session => (Registry.publish_keeps _ _).mono fun {s s'} h => ?_
  rw [Registry.OnlyPublishes] at h
  rw [h]
  exact aside_of_eq rfl rfl rfl

/-- Once its work is done, a job creates nothing. -/
theorem act_of_ok (h : job.work s = .ok () mid) : Aside mid (job.act.after s) := by
  cases job with
  | request survives requests =>
    have hafter : (Job.request survives requests).act.after s = mid := after_of_ok h
    rw [hafter]
    exact Follows.refl mid
  | run deployment =>
    have hprepare : deployment.prepare s = .ok () mid := h
    have hsteps : deployment.steps s = (deployment.publish >>= fun _ => enter .written) mid := by
      rw [steps_eq_prepare, bind_of_ok hprepare]
    have hrest : Aside mid ((deployment.publish >>= fun _ => enter .written).after mid) :=
      (publish_aside deployment).bind (fun _ s => aside_of_eq rfl rfl rfl) mid
    show Aside mid (deployment.run.after s)
    cases hpublish : (deployment.publish >>= fun _ => enter .written) mid with
    | ok _ written =>
      rw [after_of_ok hpublish] at hrest
      rw [after_of_ok (run_of_steps (hsteps.trans hpublish))]
      exact Follows.trans hrest (aside_of_eq rfl rfl rfl)
    | error fault stopped =>
      rw [after_of_error hpublish] at hrest
      rw [after_of_error (run_of_error (hsteps.trans hpublish))]
      refine Follows.trans hrest ?_
      split
      · exact Follows.refl stopped
      · exact aside_of_eq rfl rfl rfl

end Job

/-! ## Consent -/

/-- Nothing is done after what was asked in a round, but that it may be told that a deployment was
aborted. -/
structure Ceases (s : Session) (round : Round) (s' : Session) : Prop where
  ends : s' = round.asked ∨ s' = aborted round.asked
  deeds : s'.deeds = round.begun.deeds
  registry : s'.registry = round.begun.registry
  files : s'.files = s.files
  output : s'.output = s.output

/-- What the rounds of a job are to the whole of it. -/
structure Consented (job : Job) (s : Session) (rounds : List Round) : Prop where
  held : Rounds s rounds (job.act.after s)
  /-- Each line that is read is an answer in one round. -/
  reads : Consent.Reads s.input (rounds.flatMap Round.answers) (job.act.after s).input
  /-- Whatever is broadcast is broadcast in a round, for its contract, once every question of the
  round is answered and no answer is an `n`. -/
  consents : ∀ before deed after,
    (job.act.after s).deeds = s.deeds ++ (before ++ deed :: after) → deed.send?.isSome →
      ∃ round ∈ rounds, round.Granted ∧ (∃ parameters, round.Agreed parameters) ∧
        round.Does (s.deeds ++ before) deed ∧ deed.contract? = some round.creation.contract
  /-- The first answer that is an `n`, once it is stripped and lower-cased, is the end of everything. -/
  refused : ∀ before round after, rounds = before ++ round :: after → ∀ answer ∈ round.answers,
    (Text.strip answer).map Char.toLower = ['n'] → after = [] ∧ round.Declined ∧
      job.act s = .error .refusal round.asked ∧ Ceases s round round.asked
  /-- So is the end of the input. -/
  ended : ∀ before round after, rounds = before ++ round :: after → round.Unanswered →
    after = [] ∧ ∃ s', job.act s = .error .endOfInput s' ∧ Ceases s round s'

variable {job : Job} {before after : List Round}

/-- A job has the rounds of its work, and ends where they do. -/
theorem exists_rounds (asks : s.client.autosign = false)
    (ends : ∀ fault, fault.isUnwilling → job.goesOn fault = false) :
    ∃ rounds, Holds job.work s rounds ∧ Rounds s rounds (job.act.after s) := by
  obtain ⟨rounds, hholds⟩ := Job.work_consults ends s asks
  refine ⟨rounds, hholds, ?_⟩
  have hheld := hholds.held
  cases hwork : job.work s with
  | ok _ mid =>
    rw [after_of_ok hwork] at hheld
    have hrest : Rounds mid [] (job.act.after s) := .nil (Job.act_of_ok hwork)
    exact rounds.append_nil ▸ hheld.append hrest
  | error fault mid =>
    rw [after_of_error hwork] at hheld
    obtain ⟨s', hact, hends⟩ := Job.act_of_error hwork
    have hrest : Rounds mid [] s' := by
      obtain rfl | ⟨-, rfl⟩ := hends
      · exact .nil (Follows.refl s')
      · exact .nil (aside_of_eq rfl rfl rfl)
    rw [after_of_error hact]
    exact rounds.append_nil ▸ hheld.append hrest

/-- Where consent is not given in a round, the job ends with it. -/
theorem ceases_of_halt (hholds : Holds job.work s rounds)
    (hsplit : rounds = before ++ round :: after) {fault : Fault}
    (hresult : round.result = .error fault) (hfault : fault.isUnwilling) :
    after = [] ∧ ∃ s', job.act s = .error fault s' ∧ Ceases s round s' ∧
      (fault = .refusal → s' = round.asked) := by
  obtain ⟨hlast, hwork⟩ := hholds.halts hsplit hresult hfault
  obtain ⟨s', hact, hends⟩ := Job.act_of_error hwork
  obtain ⟨hfiles, houtput⟩ := job.work_keepsFiles s
  rw [after_of_error hwork] at hfiles houtput
  have hkeeps := round.asked_keeps
  rw [OnlyConverses] at hkeeps
  have hdeeds : round.asked.deeds = round.begun.deeds := by rw [hkeeps]
  have hregistry : round.asked.registry = round.begun.registry := by rw [hkeeps]
  refine ⟨hlast, s', hact, ?_⟩
  obtain rfl | ⟨hne, rfl⟩ := hends
  · exact ⟨⟨.inl rfl, hdeeds, hregistry, hfiles, houtput⟩, fun _ => rfl⟩
  · exact ⟨⟨.inr rfl, hdeeds, hregistry, hfiles, houtput⟩, fun h => absurd h hne⟩

/-- **No broadcast without consent.** Where transactions are not signed without asking, whatever a
deployment or a sequence of requests broadcasts was consented to by lines of the input that are
answers to the questions about this contract, and to no others. The first answer that declines is the
end of everything, and so is the end of the input where an answer is needed. -/
theorem act_consented (job : Job) (s : Session) (asks : s.client.autosign = false)
    (ends : ∀ fault, fault.isUnwilling → job.goesOn fault = false) :
    ∃ rounds, Consented job s rounds := by
  obtain ⟨rounds, hholds, hrounds⟩ := exists_rounds asks ends
  refine ⟨rounds, hrounds, hrounds.reads, ?_, ?_, ?_⟩
  · intro before deed after hsplit hsend
    obtain ⟨round, hmem, hdoes, hresult, hcontract⟩ := hrounds.sends hsplit hsend
    have hgranted := (hrounds.held round hmem).granted hresult
    exact ⟨round, hmem, hgranted, hgranted.agreed, hdoes, hcontract⟩
  · intro before round after hsplit answer hanswer hno
    have hheld := hrounds.held round (hsplit ▸ List.mem_append_right _ List.mem_cons_self)
    obtain ⟨hresult, hdeclined⟩ := Inquiry.declines hheld hanswer ((Consent.declines_iff answer).2 hno)
    obtain ⟨hlast, s', hact, hceases, hasked⟩ := ceases_of_halt hholds hsplit hresult rfl
    obtain rfl := hasked rfl
    exact ⟨hlast, hdeclined, hact, hceases⟩
  · intro before round after hsplit hunanswered
    have hheld := hrounds.held round (hsplit ▸ List.mem_append_right _ List.mem_cons_self)
    have hresult := Inquiry.runsDry hheld hunanswered
    obtain ⟨hlast, s', hact, hceases, -⟩ := ceases_of_halt hholds hsplit hresult rfl
    exact ⟨hlast, s', hact, hceases⟩

/-- The user consents once, and then declines. -/
def wavering : Session := { client.autosign := false, input := "yes\nN\n".toList }

/-- Two contracts are to be created. -/
def twice : Job := .request (fun _ => false)
  [.createFromBytecode .hotShot [0x60], .createFromBytecode .plonkVerifier [0x60]]

/-- The first contract is created, and the second one is not. -/
theorem act_consented_of_wavering : wavering.client.autosign = false ∧
    (∀ fault, fault.isUnwilling → twice.goesOn fault = false) ∧
    (∃ s', twice.act wavering = .error .refusal s' ∧ s'.node.sent = 1) ∧
    ∃ rounds, Consented twice wavering rounds := by
  have ends : ∀ fault : Fault, fault.isUnwilling → twice.goesOn fault = false := fun _ _ => rfl
  have hends : (match twice.act wavering with
      | .error .refusal s' => s'.node.sent == 1
      | _ => false) = true := by decide +kernel
  have hrefused : ∃ s', twice.act wavering = .error .refusal s' ∧ s'.node.sent = 1 := by
    split at hends
    · next s' hact => exact ⟨s', hact, by simpa using hends⟩
    · cases hends
  exact ⟨rfl, ends, hrefused, act_consented twice wavering rfl ends⟩

end Rollout.Deployment
