import Rollout.Proofs.Address
import Rollout.Proofs.Client

/-!
# Asking and being answered

Before a contract is created its parameters are shown, and one question is asked, or two if the zero
address is among the parameters (`Consent.questions`). Each question takes the next line of the
input. Either every question is answered without declining, or an answer declines and nothing more is
asked, or the input ends where an answer is needed (`Client.preface_ends`). Until then nothing but
the input and the notices has changed, so all that a creation does to the node comes afterwards
(`Client.deploy_eq_preface`).
-/

namespace Rollout

open Rollout.Action

variable {s s' : Session}

namespace Consent

theorem toLower_eq_n_iff (c : Char) : c.toLower = 'n' ↔ c = 'n' ∨ c = 'N' := by
  constructor
  · intro h
    change (if _ : c.val ≥ 'A'.val ∧ c.val ≤ 'Z'.val then Char.mk _ _ else c) = 'n' at h
    split at h
    · have hval : c.val + 32 = 'n'.val := congrArg Char.val h
      have hupper : c.val = 'n'.val - 32 := by
        rw [← hval]
        simp
      exact .inr (Char.ext hupper)
    · exact .inl h
  · rintro (rfl | rfl) <;> rfl

/-- An answer declines just if it is the letter `n` once it is stripped and lower-cased. -/
theorem declines_iff (answer : List Char) :
    declines answer = true ↔ (Text.strip answer).map Char.toLower = ['n'] := by
  simp only [declines, Bool.or_eq_true, decide_eq_true_eq, List.map_eq_singleton_iff,
    toLower_eq_n_iff]
  constructor
  · rintro (h | h)
    · exact ⟨'n', h, .inl rfl⟩
    · exact ⟨'N', h, .inr rfl⟩
  · rintro ⟨c, h, rfl | rfl⟩
    · exact .inl h
    · exact .inr h

/-! ## Lines -/

/-- The first line of an input, and what follows it. An input that has ended has none. -/
def firstLine? : List Char → Option (List Char × List Char)
  | [] => none
  | input => some (input.takeWhile (· != '\n'), (input.dropWhile (· != '\n')).drop 1)

/-- From an input some lines are read, one after another, and the rest is left. -/
inductive Reads : List Char → List (List Char) → List Char → Prop where
  /-- Nothing is read. -/
  | nil (input : List Char) : Reads input [] input
  /-- The first line is read, and then others are. -/
  | cons {input line rest left : List Char} {lines : List (List Char)} :
    firstLine? input = some (line, rest) → Reads rest lines left → Reads input (line :: lines) left

theorem Reads.append {input mid left : List Char} {lines more : List (List Char)}
    (h : Reads input lines mid) (h' : Reads mid more left) : Reads input (lines ++ more) left := by
  induction h with
  | nil input => exact h'
  | cons hline _ ih => exact .cons hline (ih h')

theorem readLine_of_none (h : firstLine? s.input = none) :
    readLine s = .error .endOfInput s ∧ s.input = [] := by
  have hinput : s.input = [] := by
    cases hinput : s.input with
    | nil => rfl
    | cons c rest =>
      rw [hinput] at h
      cases h
  refine ⟨(bind_of_ok rfl).trans ?_, hinput⟩
  rw [hinput]
  rfl

theorem readLine_of_some {line rest : List Char} (h : firstLine? s.input = some (line, rest)) :
    readLine s = .ok line { s with input := rest } := by
  refine (bind_of_ok rfl).trans ?_
  cases hinput : s.input with
  | nil =>
    rw [hinput] at h
    cases h
  | cons c more =>
    rw [hinput] at h
    cases h
    rfl

/-! ## Questions -/

/-- What is written when a question is asked. -/
def prompt (question : String) : String := question ++ " Y/N? "

/-- What is written when questions are asked one after another. -/
def prompts : List String → String
  | [] => ""
  | question :: rest => prompt question ++ prompts rest

/-- The questions that are asked before a contract is created. -/
def questions (name : String) (parameters : Abi.Parameters) : List String :=
  ("Deploy " ++ name) ::
    if parameters.any fun (_, value) => Address.isZeroValue value then
      ["Zero Address detected for deployment parameter; Continue?"]
    else []

theorem any_isZeroValue_iff {parameters : Abi.Parameters} :
    (parameters.any fun (_, value) => Address.isZeroValue value) = true ↔
      ∃ parameter ∈ parameters, Address.ofValue parameter.2 = .ok .zero := by
  simp only [List.any_eq_true, Address.isZeroValue_iff]

/-- Asks questions one after another. -/
def askAll : List String → Action Unit
  | [] => pure ()
  | question :: rest => do
    ask question
    askAll rest

theorem askCreation_eq (name : String) (parameters : Abi.Parameters) :
    askCreation name parameters = (do
      showParameters name parameters
      askAll (questions name parameters)) := by
  rw [askCreation, questions]
  refine congrArg _ (funext fun _ => ?_)
  rw [askAll]
  refine congrArg _ (funext fun _ => ?_)
  split
  · exact bind_pure_unit.symm
  · rfl

/-- Some of the questions, in their order, were asked and answered. -/
structure Asked (questions : List String) (answers : List (List Char)) (closing : String)
    (s s' : Session) : Prop where
  /-- Each answer is the next line of the input. -/
  reads : Reads s.input answers s'.input
  /-- The questions are written, and nothing else changes. -/
  only : s' = { s with input := s'.input, notices := s.notices ++ prompts questions ++ closing }

/-- Every question is answered, and no answer declines. -/
structure Granted (questions : List String) (answers : List (List Char)) (s s' : Session) : Prop
    extends Asked questions answers "" s s' where
  all : answers.length = questions.length
  consents : ∀ answer ∈ answers, declines answer = false

/-- An answer declines, before which none does, and the questions after it are not asked. -/
structure Declined (questions : List String) (answers : List (List Char)) (last : List Char)
    (s s' : Session) : Prop
    extends Asked (questions.take (answers.length + 1)) (answers ++ [last]) "Aborting deployment!\n"
      s s' where
  within : answers.length < questions.length
  consents : ∀ answer ∈ answers, declines answer = false
  declines : declines last = true

/-- No answer declines, but the input ends where the next one is needed. -/
structure Unanswered (questions : List String) (answers : List (List Char)) (s s' : Session) : Prop
    extends Asked (questions.take (answers.length + 1)) answers "" s s' where
  within : answers.length < questions.length
  consents : ∀ answer ∈ answers, declines answer = false
  ended : s'.input = []

variable {questions asked : List String} {question : String} {answers : List (List Char)}
  {line rest : List Char} {closing : String}

/-- The session in which a question is written. -/
def prompted (question : String) (s : Session) : Session :=
  { s with notices := s.notices ++ prompt question }

/-- The session in which a question is answered, with what is left of the input. -/
def answered (question : String) (rest : List Char) (s : Session) : Session :=
  { prompted question s with input := rest }

/-- One more question is asked before others. -/
theorem Asked.cons (hline : firstLine? s.input = some (line, rest))
    (h : Asked asked answers closing (answered question rest s) s') :
    Asked (question :: asked) (line :: answers) closing s s' := by
  refine ⟨.cons hline h.reads, h.only.trans ?_⟩
  simp only [answered, prompted, prompts, String.append_assoc]

theorem ask_eq (question : String) (s : Session) : ask question s = (do
    let answer ← readLine
    if declines answer then
      notice "Aborting deployment!"
      throw Fault.refusal) (prompted question s) := rfl

theorem ask_of_none (h : firstLine? s.input = none) :
    ask question s = .error .endOfInput (prompted question s) := by
  have hprompted : firstLine? (prompted question s).input = none := h
  rw [ask_eq, bind_of_error (readLine_of_none hprompted).1]

theorem ask_of_declines (h : firstLine? s.input = some (line, rest)) (hno : declines line = true) :
    ask question s = .error .refusal
      { answered question rest s with
        notices := s.notices ++ prompt question ++ "Aborting deployment!\n" } := by
  have hprompted : firstLine? (prompted question s).input = some (line, rest) := h
  rw [ask_eq, bind_of_ok (readLine_of_some hprompted), if_pos hno]
  rfl

theorem ask_of_consents (h : firstLine? s.input = some (line, rest)) (hyes : declines line = false) :
    ask question s = .ok () (answered question rest s) := by
  have hprompted : firstLine? (prompted question s).input = some (line, rest) := h
  rw [ask_eq, bind_of_ok (readLine_of_some hprompted), hyes]
  rfl

/-- **How questions end.** Questions that are asked one after another are all answered without
declining, or end at the first answer that declines, or end where the input does. -/
theorem askAll_ends (questions : List String) (s : Session) :
    match askAll questions s with
    | .ok _ s' => ∃ answers, Granted questions answers s s'
    | .error fault s' => (fault = .refusal ∧ ∃ answers last, Declined questions answers last s s') ∨
        (fault = .endOfInput ∧ ∃ answers, Unanswered questions answers s s') := by
  induction questions generalizing s with
  | nil =>
    refine ⟨[], ⟨.nil s.input, ?_⟩, rfl, nofun⟩
    simp [prompts]
  | cons question rest ih =>
    cases hline : firstLine? s.input with
    | none =>
      rw [askAll, bind_of_error (ask_of_none hline)]
      refine Or.inr ⟨rfl, [], ⟨.nil s.input, ?_⟩, by simp, nofun, (readLine_of_none hline).2⟩
      simp [prompts, prompted]
    | some found =>
      obtain ⟨line, left⟩ := found
      cases hanswer : declines line with
      | true =>
        rw [askAll, bind_of_error (ask_of_declines hline hanswer)]
        refine Or.inl ⟨rfl, [], line, ⟨.cons hline (.nil left), ?_⟩, by simp, nofun, hanswer⟩
        simp [prompts, answered, prompted]
      | false =>
        rw [askAll, bind_of_ok (ask_of_consents hline hanswer)]
        have hall : ∀ {answers : List (List Char)},
            (∀ answer ∈ answers, declines answer = false) →
              ∀ answer ∈ line :: answers, declines answer = false := by
          intro answers hanswers answer hmem
          rcases List.mem_cons.1 hmem with rfl | hmem
          · exact hanswer
          · exact hanswers answer hmem
        have hrest := ih (answered question left s)
        cases hrun : askAll rest (answered question left s) with
        | ok _ s' =>
          rw [hrun] at hrest
          obtain ⟨answers, hgranted⟩ := hrest
          exact ⟨line :: answers, hgranted.toAsked.cons hline, congrArg (· + 1) hgranted.all,
            hall hgranted.consents⟩
        | error fault s' =>
          rw [hrun] at hrest
          rcases hrest with ⟨hfault, answers, last, hdeclined⟩ | ⟨hfault, answers, hunanswered⟩
          · exact Or.inl ⟨hfault, line :: answers, last, hdeclined.toAsked.cons hline,
              Nat.succ_lt_succ hdeclined.within, hall hdeclined.consents, hdeclined.declines⟩
          · exact Or.inr ⟨hfault, line :: answers, hunanswered.toAsked.cons hline,
              Nat.succ_lt_succ hunanswered.within, hall hunanswered.consents, hunanswered.ended⟩

/-- Questions are all answered without declining where the input has the answers. -/
theorem askAll_of_reads {left : List Char} (hreads : Reads s.input answers left)
    (hall : answers.length = questions.length)
    (hconsents : ∀ answer ∈ answers, declines answer = false) :
    ∃ s', askAll questions s = .ok () s' := by
  induction questions generalizing s answers with
  | nil => exact ⟨s, rfl⟩
  | cons question rest ih =>
    cases hreads with
    | nil => cases hall
    | @cons _ line after _ lines hline hreads =>
      have hask : ask question s = .ok () (answered question after s) :=
        ask_of_consents hline (hconsents line List.mem_cons_self)
      have hreads' : Reads (answered question after s).input lines left := hreads
      obtain ⟨s', hrest⟩ := ih hreads' (Nat.succ.inj hall)
        fun answer hanswer => hconsents answer (List.mem_cons_of_mem _ hanswer)
      exact ⟨s', by rw [askAll, bind_of_ok hask, hrest]⟩

/-! ## Showing parameters -/

/-- A parameter as it is shown. -/
def shownLine (parameter : Value × Value) : String :=
  "\t" ++ parameter.1.shown ++ "=" ++ parameter.2.shown ++ "\n"

/-- Parameters as they are shown. -/
def listing (name : String) (parameters : Abi.Parameters) : String :=
  if parameters.isEmpty then "(i) No constructor parameters for " ++ name ++ "\n"
  else "Constructor parameters for " ++ name ++ "\n" ++ String.join (parameters.map shownLine)

theorem forIn_notice_eq (parameters : Abi.Parameters) (s : Session) :
    (forIn parameters PUnit.unit fun (parameter : Value × Value) _ => do
      notice ("\t" ++ parameter.1.shown ++ "=" ++ parameter.2.shown)
      pure (ForInStep.yield PUnit.unit) : Action PUnit) s =
        .ok () { s with notices := s.notices ++ String.join (parameters.map shownLine) } := by
  induction parameters generalizing s with
  | nil => simp [String.join_nil, pure, EStateM.pure]
  | cons parameter rest ih =>
    rw [List.forIn_cons, List.map_cons, String.join_cons, ← String.append_assoc]
    exact ih { s with notices := s.notices ++ shownLine parameter }

/-- The parameters are written, and nothing else changes. -/
theorem showParameters_eq (name : String) (parameters : Abi.Parameters) (s : Session) :
    showParameters name parameters s =
      .ok () { s with notices := s.notices ++ listing name parameters } := by
  rw [showParameters, listing]
  split
  · rfl
  · have hshown := forIn_notice_eq parameters
      { s with notices := s.notices ++ ("Constructor parameters for " ++ name ++ "\n") }
    rw [← String.append_assoc]
    exact (bind_of_ok rfl).trans ((bind_of_ok hshown).trans rfl)

end Consent

namespace Client

open Consent

variable {contract : Contract} {interface : Value} {bytecode : Octets} {arguments : List Value}

/-! ## The two parts of a creation -/

/-- What the creation of a contract does before the node is accessed: it tells of the creation, and
asks for consent. -/
def preface (contract : Contract) (interface : Value) (arguments : List Value) : Action Unit := do
  notice ("\nTransacting " ++ contract.artifact ++ " creation from " ++ (← get).client.account)
  consent contract interface arguments

/-- What the creation of a contract does once there is consent. -/
def proceed (contract : Contract) (interface : Value) (bytecode : Octets)
    (arguments : List Value) : Action Address := do
  Action.ofExcept (Abi.checkCreatable interface)
  let result ← naming .transactionFailed (some contract)
    (transact contract interface bytecode arguments)
  conclude contract result.1 result.2

theorem deploy_eq_preface (contract : Contract) (interface : Value) (bytecode : Octets)
    (arguments : List Value) : deploy contract interface bytecode arguments = (do
      preface contract interface arguments
      proceed contract interface bytecode arguments) := by
  simp only [deploy_eq, preface, proceed, bind_assoc]

/-- A relation that holds across each thing that the creation of a contract does once there is consent
is kept to by all of this, however it ends. -/
theorem KeptByProceeding.proceed {R : Session → Session → Prop} [Follows R]
    (h : KeptByProceeding R contract) (interface : Value) (bytecode : Octets)
    (arguments : List Value) : Keeps R (Client.proceed contract interface bytecode arguments) := by
  refine (keeps_ofExcept _).bind fun _ => Keeps.bind (fun s => ?_) fun result => h.conclude _ _
  rw [naming_after]
  exact h.toKeptByTransaction.transact interface bytecode arguments s

/-- The parameters of a constructor are shown, and only the notices change. -/
structure Shows (interface : Value) (arguments : List Value) (parameters : Abi.Parameters)
    (s shown : Session) : Prop where
  parameters : Abi.constructorParameters interface arguments = .ok parameters
  only : shown = { s with notices := shown.notices }

/-- How asking for consent to the creation of a contract ends: with all the questions answered, or
with a fault. -/
inductive Inquiry (contract : Contract) (interface : Value) (arguments : List Value) (s : Session) :
    Except Fault Unit → List (List Char) → Session → Prop where
  /-- Every question is answered, and no answer declines. -/
  | granted {parameters : Abi.Parameters} {shown s' : Session} {answers : List (List Char)} :
    Shows interface arguments parameters s shown →
    Granted (questions contract.artifact parameters) answers shown s' →
    Inquiry contract interface arguments s (.ok ()) answers s'
  /-- An answer declines. -/
  | declined {parameters : Abi.Parameters} {shown s' : Session} {answers : List (List Char)}
    {last : List Char} : Shows interface arguments parameters s shown →
    Declined (questions contract.artifact parameters) answers last shown s' →
    Inquiry contract interface arguments s (.error .refusal) (answers ++ [last]) s'
  /-- The input ends where an answer is needed. -/
  | unanswered {parameters : Abi.Parameters} {shown s' : Session} {answers : List (List Char)} :
    Shows interface arguments parameters s shown →
    Unanswered (questions contract.artifact parameters) answers shown s' →
    Inquiry contract interface arguments s (.error .endOfInput) answers s'
  /-- The parameters cannot be told, so nothing is asked. -/
  | untold {fault : Fault} {notices : String} :
    Abi.constructorParameters interface arguments = .error fault →
    Inquiry contract interface arguments s (.error fault) [] { s with notices }

/-- The session in which the creation of a contract is told of. -/
def announced (contract : Contract) (s : Session) : Session :=
  { s with
    notices := s.notices
      ++ ("\nTransacting " ++ contract.artifact ++ " creation from " ++ s.client.account ++ "\n") }

theorem preface_eq (contract : Contract) (interface : Value) (arguments : List Value)
    (s : Session) : preface contract interface arguments s =
      consent contract interface arguments (announced contract s) := rfl

/-- Nothing is asked where transactions are signed without asking. -/
theorem preface_of_autosign (h : s.client.autosign = true) :
    preface contract interface arguments s = .ok () (announced contract s) := by
  have hsigns : (announced contract s).client.autosign = true := h
  rw [preface_eq]
  refine (bind_of_ok rfl).trans ?_
  rw [hsigns]
  rfl

theorem consent_of_error {fault : Fault} (h : s.client.autosign = false)
    (hparameters : Abi.constructorParameters interface arguments = .error fault) :
    consent contract interface arguments s = .error fault s := by
  refine (bind_of_ok rfl).trans ?_
  rw [h, hparameters]
  rfl

/-- The session in which parameters are shown. -/
def listed (contract : Contract) (parameters : Abi.Parameters) (s : Session) : Session :=
  { s with notices := s.notices ++ listing contract.artifact parameters }

theorem consent_of_ok (contract : Contract) {parameters : Abi.Parameters}
    (h : s.client.autosign = false)
    (hparameters : Abi.constructorParameters interface arguments = .ok parameters) :
    consent contract interface arguments s =
      askAll (questions contract.artifact parameters) (listed contract parameters s) := by
  refine (bind_of_ok rfl).trans ?_
  rw [h, hparameters]
  show Consent.askCreation contract.artifact parameters s = _
  rw [askCreation_eq, bind_of_ok (showParameters_eq contract.artifact parameters s), listed]

/-- **How asking for consent ends.** Where transactions are not signed without asking, consent is
given to the creation of a contract in answer to each question, or a fault ends the creation before
the node is accessed. -/
theorem preface_ends (contract : Contract) (interface : Value) (arguments : List Value)
    (h : s.client.autosign = false) : ∃ answers,
    match preface contract interface arguments s with
    | .ok _ s' => Inquiry contract interface arguments s (.ok ()) answers s'
    | .error fault s' => Inquiry contract interface arguments s (.error fault) answers s' := by
  have hasks : (announced contract s).client.autosign = false := h
  cases hparameters : Abi.constructorParameters interface arguments with
  | error fault =>
    rw [preface_eq, consent_of_error hasks hparameters]
    exact ⟨[], .untold hparameters⟩
  | ok parameters =>
    have hshows : Shows interface arguments parameters s
        (listed contract parameters (announced contract s)) := ⟨hparameters, rfl⟩
    have hends := askAll_ends (questions contract.artifact parameters)
      (listed contract parameters (announced contract s))
    rw [preface_eq, consent_of_ok contract hasks hparameters]
    cases hrun : askAll (questions contract.artifact parameters)
        (listed contract parameters (announced contract s)) with
    | ok _ s' =>
      rw [hrun] at hends
      obtain ⟨answers, hgranted⟩ := hends
      exact ⟨answers, .granted hshows hgranted⟩
    | error fault s' =>
      rw [hrun] at hends
      rcases hends with ⟨rfl, answers, last, hdeclined⟩ | ⟨rfl, answers, hunanswered⟩
      · exact ⟨answers ++ [last], .declined hshows hdeclined⟩
      · exact ⟨answers, .unanswered hshows hunanswered⟩

/-- Consent is given where the input has an answer to each question, and none declines. -/
theorem preface_of_reads {parameters : Abi.Parameters} {answers : List (List Char)}
    {left : List Char} (h : s.client.autosign = false)
    (hparameters : Abi.constructorParameters interface arguments = .ok parameters)
    (hreads : Reads s.input answers left)
    (hall : answers.length = (questions contract.artifact parameters).length)
    (hconsents : ∀ answer ∈ answers, declines answer = false) :
    ∃ s', preface contract interface arguments s = .ok () s' := by
  have hasks : (announced contract s).client.autosign = false := h
  have hreads' : Reads (listed contract parameters (announced contract s)).input answers left :=
    hreads
  obtain ⟨s', hask⟩ := askAll_of_reads hreads' hall hconsents
  exact ⟨s', by rw [preface_eq, consent_of_ok contract hasks hparameters, hask]⟩

end Client

end Rollout
