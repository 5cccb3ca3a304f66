import Rollout.Proofs.Action
import Rollout.Proofs.Genesis
import Rollout.Proofs.Json.Parser
import Rollout.Proofs.Text.Utf8

/-!
# What comes of an answer

Whatever the web gives to the request for the genesis state, a response or an error of its own, a
genesis state is had or the deployment gives up for the lack of one (`genesis_ends`). There are two
exceptions: neither an integer over the limit in the body of a response nor lists and records that are
too deep in each other are an error of the web.
-/

namespace Rollout

namespace GenesisSource

variable {source : GenesisSource} {answer : Except Fault Response} {response : Response}

/-- What the web gives to a request: a response, or an error of its own. -/
inductive Answers : Except Fault Response → Prop where
  /-- A response, whatever its status and its body. -/
  | response (response : Response) : Answers (.ok response)
  /-- An error of the web. -/
  | report {kind : ReportKind} (text : String) :
    kind.isFromWeb = true → Answers (.error (.report kind text))

/-- A genesis state is had, or the deployment gives up for the lack of one. -/
inductive Settles : Except Fault Genesis → Prop where
  /-- A genesis state is had. -/
  | had (genesis : Genesis) : Settles (.ok genesis)
  /-- There is none, and the contract that needs it is named. -/
  | unavailable {cause : Cause} :
    cause.family = .genesis → Settles (.error (.deployment cause (some .lightClientProxy)))

/-- The body of a response holds an integer over the limit, for which it is refused. -/
structure Overflows (source : GenesisSource) (response : Response) (count : Nat) : Prop where
  /-- The status is no error. -/
  status : response.statusError? source.endpoint = none
  /-- The integer is what the body is refused for. -/
  refused : ∃ flaw, Json.parseBody source.nesting response.body = .error flaw ∧
    flaw.problem = .tooLong count
  /-- The digits of the integer stand in the text of the body. -/
  oversized : Json.Oversized (Json.bodyText response.body) count

/-- The body of a response holds lists and records deeper in each other than is read, for which it is
refused. -/
structure Overreaches (source : GenesisSource) (response : Response) : Prop where
  /-- The status is no error. -/
  status : response.statusError? source.endpoint = none
  /-- The depth is what the body is refused for. -/
  refused : ∃ flaw, Json.parseBody source.nesting response.body = .error flaw ∧
    flaw.problem = .tooDeep
  /-- More brackets are opened in the text of the body than may be in each other. -/
  openings : source.nesting < Json.openings (Json.bodyText response.body)

/-- How asking for the genesis state ends. -/
inductive Ends (source : GenesisSource) (answer : Except Fault Response) :
    Except Fault Genesis → Prop where
  /-- With a genesis state or for the lack of one. -/
  | settled {outcome : Except Fault Genesis} : Settles outcome → Ends source answer outcome
  /-- With the refusal of an integer over the limit. -/
  | overflow {response : Response} {count : Nat} :
    answer = .ok response → source.Overflows response count →
    Ends source answer (.error (.invalidValue (Literal.Flaw.tooLong count).message))
  /-- With the refusal of lists and records that are too deep in each other. -/
  | nested {response : Response} : answer = .ok response → source.Overreaches response →
    Ends source answer (.error .tooDeep)

theorem settles_refuse {cause : Cause} (h : cause.family = .genesis) :
    Settles (Genesis.refuse cause) := .unavailable h

/-- A value is a genesis state or is refused as one. -/
theorem settles_ofValue (value : Value) : Settles (Genesis.ofValue value) := by
  cases value with
  | record fields =>
    rcases Genesis.ofValue_cases fields with
      ⟨-, genesis, hread⟩ | ⟨_, _, _, cause, -, -, -, hblames, hrefused⟩
    · rw [hread]
      exact .had genesis
    · rw [hrefused]
      exact .unavailable hblames.family
  | _ => exact settles_refuse rfl

/-- What a response gives is a value, an error of the web, or the refusal of an integer over the
limit or of what is too deep. -/
theorem gives_cases (source : GenesisSource) (response : Response) :
    (∃ value, source.gives response = .ok value) ∨
      (∃ kind text, kind.isFromWeb = true ∧ source.gives response = .error (.report kind text)) ∨
      (∃ count, source.Overflows response count ∧
        source.gives response = .error (.invalidValue (Literal.Flaw.tooLong count).message)) ∨
      source.Overreaches response ∧ source.gives response = .error .tooDeep := by
  unfold gives Response.value
  cases hstatus : response.statusError? source.endpoint with
  | some text => exact .inr (.inl ⟨_, _, rfl, rfl⟩)
  | none =>
    cases hbody : Json.parseBody source.nesting response.body with
    | ok value => exact .inl ⟨value, rfl⟩
    | error flaw =>
      right
      dsimp only
      split
      · next count hcount =>
        refine .inr (.inl ⟨count, ?_, ?_⟩)
        · exact ⟨hstatus, ⟨flaw, hbody, hcount⟩, Json.oversized_of_parse hbody hcount⟩
        · simp only [hcount, Json.Flaw.message, Json.Problem.message]
      · next hdeep =>
        refine .inr (.inr ⟨⟨hstatus, ⟨flaw, hbody, hdeep⟩, ?_⟩, rfl⟩)
        exact Json.lt_openings_of_parse hbody hdeep
      · exact .inl ⟨.invalidJson, flaw.message, rfl, rfl⟩

/-- An error of the web is told as the lack of a genesis state. -/
theorem read_of_report {kind : ReportKind} {text : String} (hkind : kind.isFromWeb = true)
    (h : answer.bind source.gives = .error (.report kind text)) :
    source.read answer = Genesis.refuse (.genesisUnreachable text) := by
  have hvalue : source.valueOf answer = Genesis.refuse (.genesisUnreachable text) := by
    unfold valueOf
    rw [h]
    exact if_pos hkind
  unfold read
  rw [hvalue]
  rfl

/-- What a response gives is read as it is, but for an error of the web. -/
theorem read_of_gives {fault : Fault} (h : source.gives response = .error fault)
    (hreport : ∀ kind text, fault ≠ .report kind text) :
    source.read (.ok response) = .error fault := by
  have hvalue : source.valueOf (.ok response) = .error fault := by
    have hgives : (Except.ok response : Except Fault Response).bind source.gives = .error fault := h
    unfold valueOf
    split
    · next value hvalue => cases hgives.symm.trans hvalue
    · next kind text hvalue =>
      exact absurd (Except.error.inj (hgives.symm.trans hvalue)) (hreport kind text)
    · next other _ hvalue =>
      exact congrArg Except.error (Except.error.inj (hvalue.symm.trans hgives))
  unfold read
  rw [hvalue]
  rfl

theorem read_of_value {value : Value} (h : source.gives response = .ok value) :
    source.read (.ok response) = Genesis.ofValue value := by
  have hvalue : source.valueOf (.ok response) = .ok value := by
    unfold valueOf
    rw [Except.bind, h]
  unfold read
  rw [hvalue]
  rfl

/-- However an answer is read, it settles the matter, unless an integer in it is over the limit or what
is in it is too deep. -/
theorem read_ends (h : Answers answer) : Ends source answer (source.read answer) := by
  cases h with
  | response response =>
    rcases source.gives_cases response with
      ⟨value, hvalue⟩ | ⟨kind, text, hkind, hvalue⟩ | ⟨count, hoverflows, hvalue⟩ |
        ⟨hoverreaches, hvalue⟩
    · rw [read_of_value hvalue]
      exact .settled (settles_ofValue value)
    · have hread : source.read (.ok response) = Genesis.refuse (.genesisUnreachable text) :=
        read_of_report hkind hvalue
      rw [hread]
      exact .settled (settles_refuse rfl)
    · rw [read_of_gives hvalue nofun]
      exact .overflow rfl hoverflows
    · rw [read_of_gives hvalue nofun]
      exact .nested rfl hoverreaches
  | report text hkind =>
    rw [read_of_report hkind rfl]
    exact .settled (settles_refuse rfl)

variable {s : Session}

/-- The request for the genesis state takes too long. -/
def timedOut : Session := { web := { answers := [.error (.report .requestTimeout "timed out")] } }

/-- One digit more than an integer may have. -/
def overlong : List Char := List.replicate (Literal.digitLimit + 1) '1'

theorem overlong_overlong : Json.Overlong overlong where
  digit := by simp [overlong, Text.isAsciiDigit]
  head := by simp [overlong, Literal.digitLimit]
  limit := by simp [overlong]

/-- A record that holds these digits in a field. -/
def overlongText : List Char := '\x7b' :: Json.Overlong.field "viewNum".toList overlong

/-- A response with the record. -/
def overlongResponse : Response := { body := Utf8.encode (String.ofList overlongText) }

/-- The orchestrator serves the record. -/
def overflowing : Session where
  web := { answers := [.ok overlongResponse] }
  genesis := { url := "http://orchestrator:40001" }

theorem bodyText_overlongText :
    Json.bodyText (Utf8.encode (String.ofList overlongText)) = overlongText := by
  obtain ⟨rest, hrest⟩ : ∃ rest, overlongText = '\x7b' :: '"' :: 'v' :: 'i' :: rest := ⟨_, rfl⟩
  have hencode : Utf8.encode (String.ofList overlongText) =
      0x7B :: 0x22 :: 0x76 :: 0x69 :: rest.flatMap String.utf8EncodeChar := by
    rw [Utf8.encode_eq, String.toList_ofList, hrest]
    rfl
  have hdecode := Utf8.decode_encode (String.ofList overlongText)
  rw [String.toList_ofList] at hdecode
  unfold Json.bodyText
  rw [hencode] at hdecode ⊢
  have hencoding : Json.encodingOf?
      (List.take 4 (0x7B :: 0x22 :: 0x76 :: 0x69 :: rest.flatMap String.utf8EncodeChar)) =
        some (.utf8, 0) := rfl
  rw [if_neg (by simp), hencoding]
  show (Utf8.decode _).toOption.getD _ = _
  rw [List.drop_zero, hdecode]
  rfl

/-- A record with an integer over the limit is refused for the integer, and not as a genesis state.
-/
theorem result_of_overlong {name digits : List Char} (hfetched : s.genesis.fetched = none)
    (hanswer : s.web.answer = .ok response)
    (hstatus : response.statusError? s.genesis.endpoint = none)
    (hbody : Json.bodyText response.body = '\x7b' :: Json.Overlong.field name digits)
    (hname : Json.IsPlain name) (hdigits : Json.Overlong digits) (hnesting : 0 < s.genesis.nesting) :
    Action.genesis.result s =
      .error (.invalidValue (Literal.Flaw.tooLong digits.length).message) := by
  obtain ⟨flaw, hflaw, hproblem⟩ := hdigits.exists_refusal hname hnesting
  have hvalue : s.genesis.gives response =
      .error (.invalidValue (Literal.Flaw.tooLong digits.length).message) := by
    unfold gives Response.value
    simp only [hstatus, Json.parseBody, hbody, hflaw, hproblem, Json.Flaw.message,
      Json.Problem.message]
  rw [Action.genesis_result_of_none hfetched, hanswer]
  exact read_of_gives hvalue nofun

theorem isPlain_viewNum : Json.IsPlain "viewNum".toList := by
  have hall : "viewNum".toList.all
      (fun c => c != '"' && c != '\\' && decide (0x1F < c.toNat)) = true := by decide
  intro c hc
  simpa [and_assoc] using List.all_eq_true.1 hall c hc

theorem overflowing_result : Action.genesis.result overflowing =
    .error (.invalidValue (Literal.Flaw.tooLong overlong.length).message) := by
  have hanswer : overflowing.web.answer = .ok overlongResponse := rfl
  have hstatus : overlongResponse.statusError? overflowing.genesis.endpoint = none := rfl
  exact result_of_overlong rfl hanswer hstatus bodyText_overlongText isPlain_viewNum
    overlong_overlong (by decide)

end GenesisSource

end Rollout
