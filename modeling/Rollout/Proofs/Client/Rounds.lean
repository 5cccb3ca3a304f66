import Rollout.Proofs.Client.Discipline
import Rollout.Proofs.Deployment.Parts

/-!
# Rounds of asking

Where transactions are not signed without asking, each creation of a contract is a round: questions
are asked, the next lines of the input are taken as their answers, and a transaction is begun only
once all of them are answered without declining. Between the rounds nothing is read and nothing is
broadcast (`Rounds`). The round in which an answer declines, or the input ends, is the last one
(`Consults`).
-/

namespace Rollout

/-- A deed is done beside the creation of contracts. -/
def Deed.isAside : Deed → Bool
  | access _ (.request _ _) | access none .chainId | access none (.code _) | called _ | answered _ _
  | found _ _ | recorded _ _ => true
  | _ => false

theorem Deed.send?_of_isAside {deed : Deed} (h : deed.isAside) : deed.send? = none := by
  cases deed with
  | access named event =>
    revert h
    cases named <;> cases event <;> simp [isAside, send?]
  | _ => rfl

/-- Consent is declined, or not given as the input ends. -/
def Fault.isUnwilling : Fault → Bool
  | .refusal | .endOfInput => true
  | _ => false

namespace Client

open Rollout.Action

variable {α β : Type} {s s' mid : Session} {contract : Contract} {interface : Value}
  {arguments : List Value}

/-! ## A round -/

/-- A creation for which consent is asked. -/
structure Round where
  /-- What is to be created. -/
  creation : Creation
  /-- The session in which the round begins. -/
  begun : Session
  /-- The lines of the input that are read in the round. -/
  answers : List (List Char)

namespace Round

/-- The session in which nothing more is asked. -/
def asked (round : Round) : Session := round.creation.ask.after round.begun

/-- The session that the round leaves. -/
def ended (round : Round) : Session := round.creation.run.after round.begun

/-- How asking ends. -/
def result (round : Round) : Except Fault Unit :=
  match round.creation.ask round.begun with
  | .ok _ _ => .ok ()
  | .error fault _ => .error fault

/-- The questions of a round are answered by the lines that are read in it, as far as they are asked. -/
def Held (round : Round) : Prop :=
  Inquiry round.creation.contract round.creation.interface round.creation.arguments round.begun
    round.result round.answers round.asked

/-- A round is held wherever a contract is created. -/
theorem exists_held (creation : Creation) (h : s.client.autosign = false) :
    ∃ answers, Held ⟨creation, s, answers⟩ := by
  obtain ⟨answers, hends⟩ :=
    preface_ends creation.contract creation.interface creation.arguments h
  refine ⟨answers, ?_⟩
  rw [Held, result, asked, after]
  rw [← Creation.ask] at hends
  cases hask : creation.ask s with
  | ok _ asked =>
    rw [hask] at hends
    exact hends
  | error fault asked =>
    rw [hask] at hends
    exact hends

variable {round : Round} {fault : Fault}

theorem asked_keeps (round : Round) : OnlyConverses round.begun round.asked :=
  round.creation.ask_keeps round.begun

theorem run_of_result (h : round.result = .error fault) :
    round.creation.run round.begun = .error fault round.asked := by
  rw [result] at h
  cases hask : round.creation.ask round.begun with
  | ok _ asked =>
    rw [hask] at h
    cases h
  | error other asked =>
    rw [hask] at h
    cases h
    rw [Creation.run, deploy_eq_preface, ← Creation.ask, bind_of_error hask, Round.asked,
      after_of_error hask]

theorem run_of_result_ok (h : round.result = .ok ()) :
    round.creation.run round.begun = proceed round.creation.contract round.creation.interface
      round.creation.bytecode round.creation.arguments round.asked := by
  rw [result] at h
  cases hask : round.creation.ask round.begun with
  | ok _ asked =>
    rw [Creation.run, deploy_eq_preface, ← Creation.ask, bind_of_ok hask, Round.asked,
      after_of_ok hask]
  | error fault asked =>
    rw [hask] at h
    cases h

end Round

/-- Whatever is read when questions are asked stands in their answers. -/
theorem Inquiry.reads {r : Except Fault Unit} {answers : List (List Char)}
    (h : Inquiry contract interface arguments s r answers s') :
    Consent.Reads s.input answers s'.input := by
  cases h with
  | granted hshows hgranted =>
    have hreads := hgranted.reads
    rwa [hshows.only] at hreads
  | declined hshows hdeclined =>
    have hreads := hdeclined.reads
    rwa [hshows.only] at hreads
  | unanswered hshows hunanswered =>
    have hreads := hunanswered.reads
    rwa [hshows.only] at hreads
  | untold _ => exact .nil s.input

/-- Once there is consent, the creation of a contract reads nothing. -/
theorem unchangedInput_kept (contract : Contract) :
    KeptByProceeding (Unchanged Session.input) contract where
  notices _ _ := rfl
  begins _ _ _ _ := rfl
  accesses _ _ _ := rfl
  counts _ := rfl
  learns _ _ := rfl
  concludes _ _ := rfl

namespace Round

variable {round : Round}

/-- Once nothing more is asked, a round only transacts, and reads nothing; a broadcast in it is that of
its contract. -/
theorem ended_of_asked (round : Round) : round.ended.input = round.asked.input ∧
    ∃ during, round.ended.deeds = round.asked.deeds ++ during ∧
      (during ≠ [] → round.result = .ok ()) ∧
      ∀ deed ∈ during, deed.send?.isSome → deed.contract? = some round.creation.contract := by
  cases hresult : round.result with
  | error fault =>
    have hended : round.ended = round.asked := after_of_error (run_of_result hresult)
    rw [hended]
    exact ⟨rfl, [], (List.append_nil _).symm, by simp, by simp⟩
  | ok _ =>
    have hrun : round.creation.run round.begun = proceed round.creation.contract
        round.creation.interface round.creation.bytecode round.creation.arguments round.asked :=
      run_of_result_ok hresult
    have hended : round.ended = (proceed round.creation.contract round.creation.interface
        round.creation.bytecode round.creation.arguments).after round.asked := by
      rw [ended, after, hrun]
      rfl
    obtain ⟨during, hduring, hfor⟩ := (onlyDoneFor_kept round.creation.contract).proceed
      round.creation.interface round.creation.bytecode round.creation.arguments round.asked
    rw [hended]
    refine ⟨(unchangedInput_kept _).proceed _ _ _ round.asked, during, hduring, fun _ => rfl, ?_⟩
    intro deed hdeed hsend
    cases hfor deed hdeed with
    | began interface bytecode arguments => cases hsend
    | access event => rfl
    | request url timeout => cases hsend

end Round

/-! ## How a round ends -/

/-- Every question is answered, and no answer declines. -/
def Grants (contract : Contract) (interface : Value) (arguments : List Value) (s : Session)
    (answers : List (List Char)) (s' : Session) : Prop :=
  ∃ parameters shown, Shows interface arguments parameters s shown ∧
    Consent.Granted (Consent.questions contract.artifact parameters) answers shown s'

/-- The last answer declines, and the questions after it are not asked. -/
def Declines (contract : Contract) (interface : Value) (arguments : List Value) (s : Session)
    (answers : List (List Char)) (s' : Session) : Prop :=
  ∃ parameters shown before last, Shows interface arguments parameters s shown ∧
    Consent.Declined (Consent.questions contract.artifact parameters) before last shown s' ∧
    answers = before ++ [last]

/-- The input ends where a question is to be answered. -/
def RunsDry (contract : Contract) (interface : Value) (arguments : List Value) (s : Session)
    (answers : List (List Char)) (s' : Session) : Prop :=
  ∃ parameters shown, Shows interface arguments parameters s shown ∧
    Consent.Unanswered (Consent.questions contract.artifact parameters) answers shown s'

namespace Inquiry

variable {r : Except Fault Unit} {answers : List (List Char)} {answer : List Char}

theorem grants (h : Inquiry contract interface arguments s (.ok ()) answers s') :
    Grants contract interface arguments s answers s' := by
  cases h with
  | granted hshows hgranted => exact ⟨_, _, hshows, hgranted⟩

theorem declines (h : Inquiry contract interface arguments s r answers s')
    (hanswer : answer ∈ answers) (hdeclines : Consent.declines answer = true) :
    r = .error .refusal ∧ Declines contract interface arguments s answers s' := by
  cases h with
  | granted hshows hgranted =>
    rw [hgranted.consents answer hanswer] at hdeclines
    cases hdeclines
  | declined hshows hdeclined => exact ⟨rfl, _, _, _, _, hshows, hdeclined, rfl⟩
  | unanswered hshows hunanswered =>
    rw [hunanswered.consents answer hanswer] at hdeclines
    cases hdeclines
  | untold _ => cases hanswer

theorem runsDry (h : Inquiry contract interface arguments s r answers s')
    (hdry : RunsDry contract interface arguments s answers s') : r = .error .endOfInput := by
  obtain ⟨parameters, shown, hshows, hunanswered⟩ := hdry
  cases h with
  | granted hshows' hgranted =>
    obtain rfl := Except.ok.inj (hshows.parameters.symm.trans hshows'.parameters)
    exact absurd hgranted.all (Nat.ne_of_lt hunanswered.within)
  | declined hshows' hdeclined =>
    have hconsents := hunanswered.consents _ (List.mem_append_right _ List.mem_cons_self)
    rw [hdeclined.declines] at hconsents
    cases hconsents
  | unanswered _ _ => rfl
  | untold hparameters =>
    rw [hshows.parameters] at hparameters
    cases hparameters

end Inquiry

namespace Round

/-- Every question of a round is answered, and no answer declines. -/
def Granted (round : Round) : Prop :=
  Grants round.creation.contract round.creation.interface round.creation.arguments round.begun
    round.answers round.asked

/-- The last answer of a round declines, and the questions after it are not asked. -/
def Declined (round : Round) : Prop :=
  Declines round.creation.contract round.creation.interface round.creation.arguments round.begun
    round.answers round.asked

/-- The input ends where a question of a round is to be answered. -/
def Unanswered (round : Round) : Prop :=
  RunsDry round.creation.contract round.creation.interface round.creation.arguments round.begun
    round.answers round.asked

variable {round : Round}

theorem Held.granted (h : round.Held) (hresult : round.result = .ok ()) : round.Granted := by
  rw [Held, hresult] at h
  exact h.grants

/-- There is one answer in a round, or there are two if the zero address is among the parameters of the
constructor, and no answer is the letter `n` once it is stripped and lower-cased. -/
structure Agreed (round : Round) (parameters : Abi.Parameters) : Prop where
  shows : Abi.constructorParameters round.creation.interface round.creation.arguments =
    .ok parameters
  twice : (∃ parameter ∈ parameters, Address.ofValue parameter.2 = .ok .zero) →
    round.answers.length = 2
  once : (¬ ∃ parameter ∈ parameters, Address.ofValue parameter.2 = .ok .zero) →
    round.answers.length = 1
  answers : ∀ answer ∈ round.answers, (Text.strip answer).map Char.toLower ≠ ['n']

theorem Granted.agreed (h : round.Granted) : ∃ parameters, round.Agreed parameters := by
  obtain ⟨parameters, shown, hshows, hgranted⟩ := h
  have hall := hgranted.all
  rw [Consent.questions] at hall
  refine ⟨parameters, hshows.parameters, fun hzero => ?_, fun hzero => ?_, fun answer hanswer => ?_⟩
  · rwa [if_pos (Consent.any_isZeroValue_iff.2 hzero)] at hall
  · rwa [if_neg fun h => hzero (Consent.any_isZeroValue_iff.1 h)] at hall
  · rw [Ne, ← Consent.declines_iff, hgranted.consents answer hanswer]
    exact Bool.false_ne_true

end Round

/-! ## Rounds one after another -/

/-- From one session to another, nothing is read, and nothing is done to create a contract. -/
structure Aside (s s' : Session) : Prop where
  input : s'.input = s.input
  autosign : s'.client.autosign = s.client.autosign
  deeds : ∃ added, s'.deeds = s.deeds ++ added ∧ ∀ deed ∈ added, deed.isAside

instance : Follows Aside where
  refl s := ⟨rfl, rfl, [], by simp, by simp⟩
  trans := by
    rintro s mid s' ⟨hinput, hsigns, a, ha, haside⟩ ⟨hinput', hsigns', b, hb, haside'⟩
    refine ⟨hinput'.trans hinput, hsigns'.trans hsigns, a ++ b, ?_, fun deed hdeed => ?_⟩
    · rw [hb, ha, List.append_assoc]
    · exact (List.mem_append.1 hdeed).elim (haside deed) (haside' deed)

theorem aside_of_eq (hinput : s'.input = s.input) (hclient : s'.client = s.client)
    (hdeeds : s'.deeds = s.deeds) : Aside s s' :=
  ⟨hinput, by rw [hclient], [], by simp [hdeeds], by simp⟩

theorem aside_of_deed {deed : Deed} (hinput : s'.input = s.input) (hclient : s'.client = s.client)
    (hdeeds : s'.deeds = s.deeds ++ [deed]) (h : deed.isAside) : Aside s s' :=
  ⟨hinput, by rw [hclient], [deed], hdeeds, by simpa using h⟩

/-- From one session to another, rounds are held one after another. -/
inductive Rounds : Session → List Round → Session → Prop where
  /-- No round is held. -/
  | nil {s s' : Session} : Aside s s' → Rounds s [] s'
  /-- A round is held, and then others are. -/
  | cons {s s' : Session} {round : Round} {rest : List Round} :
    Aside s round.begun → round.Held → Rounds round.ended rest s' → Rounds s (round :: rest) s'

variable {rounds more : List Round}

theorem Rounds.after_aside (haside : Aside s mid) (h : Rounds mid rounds s') :
    Rounds s rounds s' := by
  cases h with
  | nil haside' => exact .nil (Follows.trans haside haside')
  | cons haside' hheld hrest => exact .cons (Follows.trans haside haside') hheld hrest

theorem Rounds.append (h : Rounds s rounds mid) (h' : Rounds mid more s') :
    Rounds s (rounds ++ more) s' := by
  induction h with
  | nil haside => exact h'.after_aside haside
  | cons haside hheld _ ih => exact .cons haside hheld (ih h')

theorem Round.ended_autosign (round : Round) :
    round.ended.client.autosign = round.begun.client.autosign := by
  have hframe : OnlyTransacts round.begun round.ended :=
    (onlyTransacts_kept round.creation.contract).deploy _ _ _ round.begun
  rw [hframe]

theorem Rounds.autosign_eq (h : Rounds s rounds s') :
    s'.client.autosign = s.client.autosign := by
  induction h with
  | nil haside => exact haside.autosign
  | cons haside _ _ ih => rw [ih, Round.ended_autosign, haside.autosign]

/-- No line of the input is read in two rounds, and none outside of them. -/
theorem Rounds.reads (h : Rounds s rounds s') :
    Consent.Reads s.input (rounds.flatMap Round.answers) s'.input := by
  induction h with
  | nil haside => exact haside.input ▸ .nil _
  | @cons s s' round rest haside hheld _ ih =>
    rw [List.flatMap_cons, ← haside.input]
    refine Consent.Reads.append ?_ ih
    exact round.ended_of_asked.1 ▸ hheld.reads

theorem Rounds.held (h : Rounds s rounds s') : ∀ round ∈ rounds, round.Held := by
  induction h with
  | nil _ => simp
  | cons _ hheld _ ih =>
    intro round hround
    rcases List.mem_cons.1 hround with rfl | hround
    · exact hheld
    · exact ih round hround

theorem Rounds.deeds (h : Rounds s rounds s') : ∃ added, s'.deeds = s.deeds ++ added := by
  induction h with
  | nil haside =>
    obtain ⟨added, hadded, -⟩ := haside.deeds
    exact ⟨added, hadded⟩
  | @cons s s' round rest haside _ _ ih =>
    obtain ⟨added, hadded, -⟩ := haside.deeds
    obtain ⟨-, during, hduring, -⟩ := round.ended_of_asked
    obtain ⟨tail, htail⟩ := ih
    have hasked : round.asked.deeds = round.begun.deeds := by rw [round.asked_keeps]
    refine ⟨added ++ (during ++ tail), ?_⟩
    rw [htail, hduring, hasked, hadded]
    simp only [List.append_assoc]

/-- A deed is done in a round after all that was asked in it. -/
structure Round.Does (round : Round) (before : List Deed) (deed : Deed) : Prop where
  asked : round.asked.deeds <+: before
  ended : before ++ [deed] <+: round.ended.deeds

/-- What stands in a sequence of two parts stands in the first or in the second one. -/
theorem cut_append {γ : Type} {before after a b : List γ} {deed : γ}
    (h : before ++ deed :: after = a ++ b) :
    (∃ rest, a = before ++ deed :: rest) ∨ ∃ rest, before = a ++ rest ∧ rest ++ deed :: after = b := by
  rcases List.append_eq_append_iff.1 h with ⟨rest, ha, hb⟩ | ⟨rest, hbefore, hb⟩
  · cases rest with
    | nil => exact .inr ⟨[], by simpa using ha.symm, by simpa using hb⟩
    | cons first rest =>
      obtain ⟨rfl, rfl⟩ := List.cons.inj hb
      exact .inl ⟨rest, ha⟩
  · exact .inr ⟨rest, hbefore, hb.symm⟩

/-- Whatever is broadcast is broadcast in a round, in which there is consent, for its contract. -/
theorem Rounds.sends (h : Rounds s rounds s') {before after : List Deed} {deed : Deed}
    (hsplit : s'.deeds = s.deeds ++ (before ++ deed :: after)) (hsend : deed.send?.isSome) :
    ∃ round ∈ rounds, round.Does (s.deeds ++ before) deed ∧ round.result = .ok () ∧
      deed.contract? = some round.creation.contract := by
  induction h generalizing before with
  | nil haside =>
    obtain ⟨added, hadded, haside⟩ := haside.deeds
    obtain rfl := List.append_cancel_left (hadded.symm.trans hsplit)
    rw [Deed.send?_of_isAside (haside deed (by simp))] at hsend
    cases hsend
  | @cons s s' round rest haside hheld hrest ih =>
    obtain ⟨added, hadded, haside⟩ := haside.deeds
    obtain ⟨-, during, hduring, hgranted, hfor⟩ := round.ended_of_asked
    obtain ⟨tail, htail⟩ := hrest.deeds
    have hasked : round.asked.deeds = s.deeds ++ added := by rw [round.asked_keeps, hadded]
    have hended : round.ended.deeds = s.deeds ++ (added ++ during) := by
      rw [hduring, hasked, List.append_assoc]
    have hparts : before ++ deed :: after = added ++ (during ++ tail) := by
      have hdeeds : s.deeds ++ (before ++ deed :: after) = s.deeds ++ (added ++ (during ++ tail)) := by
        rw [← hsplit, htail, hended]
        simp only [List.append_assoc]
      exact List.append_cancel_left hdeeds
    rcases cut_append hparts with ⟨cut, rfl⟩ | ⟨cut, rfl, hcut⟩
    · rw [Deed.send?_of_isAside (haside deed (by simp))] at hsend
      cases hsend
    · rcases cut_append hcut with ⟨last, rfl⟩ | ⟨last, rfl, hlast⟩
      · -- the broadcast is in this round
        refine ⟨round, List.mem_cons_self, ⟨?_, ?_⟩, hgranted (by simp), hfor deed (by simp) hsend⟩
        · rw [hasked, ← List.append_assoc]
          exact List.prefix_append _ _
        · rw [hended]
          exact ⟨last, by simp⟩
      · have hlater : s'.deeds = round.ended.deeds ++ (last ++ deed :: after) := by rw [htail, hlast]
        obtain ⟨later, hmem, hdoes, hresult, hcontract⟩ := ih hlater
        have hbefore : round.ended.deeds ++ last = s.deeds ++ (added ++ (during ++ last)) := by
          rw [hended]
          simp only [List.append_assoc]
        exact ⟨later, List.mem_cons_of_mem _ hmem, hbefore ▸ hdoes, hresult, hcontract⟩

/-! ## Where rounds end -/

variable {x : Action α} {f : α → Action β} {fault : Fault}

/-- Rounds are held in an action, and the one in which consent is not given is the last one, with which
the action ends. -/
structure Holds (x : Action α) (s : Session) (rounds : List Round) : Prop where
  held : Rounds s rounds (x.after s)
  halts : ∀ {before after : List Round} {round : Round} {fault : Fault},
    rounds = before ++ round :: after → round.result = .error fault → fault.isUnwilling →
      after = [] ∧ x s = .error fault round.asked

/-- Where transactions are not signed without asking, an action holds a round for each of its
creations. -/
def Consults (x : Action α) (s : Session) : Prop :=
  s.client.autosign = false → ∃ rounds, Holds x s rounds

theorem consults_of_aside (h : Aside s (x.after s)) : Consults x s :=
  fun _ => ⟨[], .nil h, by simp⟩

theorem consults_composes : Composes fun _ x s => Consults x s where
  ofExcept r s := consults_of_aside (by rw [ofExcept_after]; exact Follows.refl s)
  congr {α x y s} hx hrun hasks := by
    obtain ⟨rounds, hholds⟩ := hx hasks
    have hafter : y.after s = x.after s := by rw [after, after, hrun]
    exact ⟨rounds, hafter ▸ hholds.held, fun hsplit hresult hfault =>
      hrun ▸ hholds.halts hsplit hresult hfault⟩
  bind {α β x f s} hx hf hasks := by
    obtain ⟨rounds, hholds⟩ := hx hasks
    have hrounds := hholds.held
    cases h : x s with
    | error fault mid =>
      have hbind := bind_of_error (f := f) h
      have hafter : (x >>= f).after s = x.after s := by rw [after_of_error hbind, after_of_error h]
      refine ⟨rounds, hafter ▸ hrounds, fun hsplit hresult hfault => ?_⟩
      obtain ⟨hlast, hx⟩ := hholds.halts hsplit hresult hfault
      exact ⟨hlast, bind_of_error hx⟩
    | ok a mid =>
      rw [after_of_ok h] at hrounds
      obtain ⟨more, hmore⟩ := hf a mid h (hrounds.autosign_eq.trans hasks)
      have hbind : (x >>= f) s = f a mid := bind_of_ok h
      have hafter : (x >>= f).after s = (f a).after mid := by rw [after, hbind]; rfl
      refine ⟨rounds ++ more, hafter ▸ hrounds.append hmore.held, ?_⟩
      intro before after round fault hsplit hresult hfault
      rw [hbind]
      rcases cut_append hsplit.symm with ⟨rest, hrest⟩ | ⟨rest, -, hrest⟩
      · -- the first part has ended with a result, so consent was given in each of its rounds
        have hx := (hholds.halts hrest hresult hfault).2
        rw [h] at hx
        cases hx
      · exact hmore.halts hrest.symm hresult hfault

/-- The creation of a contract holds one round. -/
theorem run_consults (creation : Creation) (s : Session) : Consults creation.run s := by
  intro hasks
  obtain ⟨answers, hheld⟩ := Round.exists_held creation hasks
  have hround : Rounds s [⟨creation, s, answers⟩] (creation.run.after s) :=
    .cons (Follows.refl s) hheld (.nil (Follows.refl _))
  refine ⟨[⟨creation, s, answers⟩], hround, fun {before after round fault} hsplit hresult _ => ?_⟩
  cases before with
  | nil =>
    obtain ⟨rfl, rfl⟩ := List.cons.inj hsplit
    have hrun := Round.run_of_result hresult
    exact ⟨rfl, hrun⟩
  | cons first rest => simp at hsplit

end Client

end Rollout
