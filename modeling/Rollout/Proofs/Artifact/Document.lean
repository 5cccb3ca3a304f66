import Rollout.Proofs.Artifact
import Rollout.Proofs.File.Way

/-!
# What comes of a document

What stands at the path of a contract's document decides what comes of loading it, and there is one
way for each thing that can stand there (`load_eq_iff`): nothing, a directory, octets that are no
text, text that is no document, a document that is too deep, one without the parts of an artifact, or an
artifact.
-/

namespace Rollout.Artifact

open File (Node Problem Tree)

variable {nesting : Nat} {files : Tree} {path : String} {contract : Contract} {content : Octets}
  {document value : Value} {parts : Fields} {fault : Fault} {code : Except Fault Bytecode}
  {result : Except Fault Artifact}

/-! ## Bytecode -/

/-- What a record of bytecode says about references: what it holds if it holds anything, else none. -/
inductive Refers (parts : Fields) : Value → Prop where
  /-- The record holds something. -/
  | said {references : Value} (hreferences : parts.get? "linkReferences" = some references)
      (hfilled : references.isVacant = false) : Refers parts references
  /-- The record holds nothing. -/
  | unsaid (hvacant : ∀ references, parts.get? "linkReferences" = some references →
      references.isVacant = true) : Refers parts (.record [])

/-- What comes of the part of a document that is to be the bytecode of a contract. -/
inductive CodeOf (contract : Contract) : Value → Except Fault Bytecode → Prop where
  /-- It is a text. -/
  | plain (object : String) :
      CodeOf contract (.text object) (.ok { object, contract := some contract })
  /-- It is a record with a text. -/
  | linked {parts : Fields} {object : String} {references : Value}
      (hobject : parts.get? "object" = some (.text object)) (hrefers : Refers parts references) :
      CodeOf contract (.record parts) (.ok { object, references, contract := some contract })
  /-- It is neither. -/
  | absent {value : Value} (htext : ∀ object, value ≠ .text object)
      (hrecord : ∀ parts, value = .record parts →
        ∀ object, Fields.get? parts "object" ≠ some (.text object)) :
      CodeOf contract value (.error (.deployment .noBytecode (some contract)))

theorem bytecodeOf_of_object {object : String} {references : Value}
    (hobject : parts.get? "object" = some (.text object)) (hrefers : Refers parts references) :
    bytecodeOf contract (.record parts) = .ok { object, references, contract := some contract } := by
  simp only [bytecodeOf, hobject]
  cases hrefers with
  | said hreferences hfilled => simp [hreferences, hfilled]
  | unsaid hvacant =>
    cases hsaid : parts.get? "linkReferences" with
    | none => rfl
    | some said => simp [hvacant said hsaid]

theorem bytecodeOf_of_absent (htext : ∀ object, value ≠ .text object)
    (hrecord : ∀ parts, value = .record parts →
      ∀ object, Fields.get? parts "object" ≠ some (.text object)) :
    bytecodeOf contract value = .error (.deployment .noBytecode (some contract)) := by
  cases value with
  | text object => exact absurd rfl (htext object)
  | record parts =>
    have hnone := hrecord parts rfl
    unfold bytecodeOf
    dsimp only
    split
    · next object hobject => exact absurd hobject (hnone object)
    · rfl
  | _ => rfl

theorem exists_refers (parts : Fields) : ∃ references, Refers parts references := by
  cases hsaid : parts.get? "linkReferences" with
  | none => exact ⟨_, .unsaid (by simp [hsaid])⟩
  | some said =>
    cases hvacant : said.isVacant with
    | true => exact ⟨_, .unsaid (by simp [hsaid, hvacant])⟩
    | false => exact ⟨_, .said hsaid hvacant⟩

theorem bytecodeOf_eq_iff : bytecodeOf contract value = code ↔ CodeOf contract value code := by
  constructor
  · rintro rfl
    cases value with
    | text object => exact .plain object
    | record parts =>
      by_cases hobject : ∃ object, Fields.get? parts "object" = some (.text object)
      · obtain ⟨object, hobject⟩ := hobject
        obtain ⟨references, hrefers⟩ := exists_refers parts
        rw [bytecodeOf_of_object hobject hrefers]
        exact .linked hobject hrefers
      · have hrecord : ∀ others, Value.record parts = .record others →
            ∀ object, Fields.get? others "object" ≠ some (.text object) := by
          rintro _ ⟨⟩ object h
          exact hobject ⟨object, h⟩
        rw [bytecodeOf_of_absent (by simp) hrecord]
        exact .absent (by simp) hrecord
    | _ =>
      refine .absent ?_ ?_ <;> simp
  · intro h
    cases h with
    | plain object => rfl
    | linked hobject hrefers => exact bytecodeOf_of_object hobject hrefers
    | absent htext hrecord => exact bytecodeOf_of_absent htext hrecord

/-! ## Documents -/

/-- What comes of the document of a contract. -/
inductive Yields (contract : Contract) (path : String) : Value → Except Fault Artifact → Prop where
  /-- It is a record with an interface and something that is to be bytecode. -/
  | complete {fields : Fields} {interface value : Value} {code : Except Fault Bytecode}
      (hinterface : fields.get? "abi" = some interface) (hvalue : fields.get? "bytecode" = some value)
      (hcode : CodeOf contract value code) : Yields contract path (.record fields)
        (code.map fun bytecode => { contract, interface, bytecode })
  /-- It is none. -/
  | incomplete {document : Value} (hparts : ∀ fields, document = .record fields →
      Fields.get? fields "abi" = none ∨ Fields.get? fields "bytecode" = none) :
      Yields contract path document (.error (.deployment (.artifactIncomplete path) (some contract)))

theorem ofDocument_of_parts {fields : Fields} {interface value : Value}
    (hinterface : fields.get? "abi" = some interface) (hvalue : fields.get? "bytecode" = some value) :
    ofDocument contract path (.record fields) =
      (bytecodeOf contract value).map fun bytecode => { contract, interface, bytecode } := by
  simp only [ofDocument, hinterface, hvalue]
  cases bytecodeOf contract value <;> rfl

theorem ofDocument_of_incomplete (hparts : ∀ fields, document = .record fields →
      Fields.get? fields "abi" = none ∨ Fields.get? fields "bytecode" = none) :
    ofDocument contract path document =
      .error (.deployment (.artifactIncomplete path) (some contract)) := by
  cases document with
  | record fields =>
    simp only [ofDocument]
    split
    · next interface value hinterface hvalue =>
      rcases hparts fields rfl with hnone | hnone
      · rw [hinterface] at hnone; cases hnone
      · rw [hvalue] at hnone; cases hnone
    · rfl
  | _ => rfl

theorem ofDocument_eq_iff :
    ofDocument contract path document = result ↔ Yields contract path document result := by
  constructor
  · rintro rfl
    by_cases hparts : ∃ fields interface value, document = .record fields ∧
        Fields.get? fields "abi" = some interface ∧ Fields.get? fields "bytecode" = some value
    · obtain ⟨fields, interface, value, rfl, hinterface, hvalue⟩ := hparts
      rw [ofDocument_of_parts hinterface hvalue]
      exact .complete hinterface hvalue (bytecodeOf_eq_iff.1 rfl)
    · have hnone : ∀ fields, document = .record fields →
          Fields.get? fields "abi" = none ∨ Fields.get? fields "bytecode" = none := by
        intro fields hrecord
        rw [Option.eq_none_iff_forall_ne_some, Option.eq_none_iff_forall_ne_some]
        by_contra hsome
        push Not at hsome
        obtain ⟨⟨interface, hinterface⟩, value, hvalue⟩ := hsome
        exact hparts ⟨fields, interface, value, hrecord, hinterface, hvalue⟩
      rw [ofDocument_of_incomplete hnone]
      exact .incomplete hnone
  · intro h
    cases h with
    | complete hinterface hvalue hcode =>
      rw [ofDocument_of_parts hinterface hvalue, bytecodeOf_eq_iff.2 hcode]
    | incomplete hparts => exact ofDocument_of_incomplete hparts

/-! ## Files -/

/-- A text leads to nothing. -/
inductive Absent (path : String) : Fault → Prop where
  /-- Nothing stands there, or somewhere on the way. -/
  | missing : Absent path (.file ⟨.missing, path⟩)
  /-- A file stands on the way. -/
  | notDirectory : Absent path (.file ⟨.notDirectory, path⟩)
  /-- There is no such place. -/
  | unspeakable : Absent path (.invalidValue "embedded null byte")

/-- What comes of loading the artifact of a contract, by what the path of its document leads to. -/
inductive Reads (nesting : Nat) (contract : Contract) (path : String) :
    Except Fault Node → Except Fault Artifact → Prop where
  /-- There is no document. -/
  | missing {fault : Fault} (habsent : Absent path fault) : Reads nesting contract path (.error fault)
      (.error (.deployment (.artifactMissing path) (some contract)))
  /-- A directory stands in its place. -/
  | directory : Reads nesting contract path (.ok .directory)
      (.error (.deployment (.artifactUnreadable path (Problem.mk .isDirectory path).message)
        (some contract)))
  /-- The octets of the file are no text. -/
  | undecodable {content : Octets} {flaw : Utf8.Flaw} (hdecode : Utf8.decode content = .error flaw) :
      Reads nesting contract path (.ok (.file content))
        (.error (.deployment (.artifactUnreadable path flaw.message) (some contract)))
  /-- The text of the file is no document. -/
  | unparsed {content : Octets} {text : List Char} {flaw : Json.Flaw}
      (hdecode : Utf8.decode content = .ok text)
      (hparse : Json.parse nesting (Text.normalizeLineEnds text) = .error flaw)
      (hproblem : flaw.problem ≠ .tooDeep) :
      Reads nesting contract path (.ok (.file content))
        (.error (.deployment (.artifactUnreadable path flaw.message) (some contract)))
  /-- Lists and records lie too deep in each other in the text of the file. -/
  | nested {content : Octets} {text : List Char} {flaw : Json.Flaw}
      (hdecode : Utf8.decode content = .ok text)
      (hparse : Json.parse nesting (Text.normalizeLineEnds text) = .error flaw)
      (hproblem : flaw.problem = .tooDeep) :
      Reads nesting contract path (.ok (.file content)) (.error .tooDeep)
  /-- The file holds a document. -/
  | document {content : Octets} {text : List Char} {document : Value}
      {result : Except Fault Artifact} (hdecode : Utf8.decode content = .ok text)
      (hparse : Json.parse nesting (Text.normalizeLineEnds text) = .ok document)
      (hyields : Yields contract path document result) :
      Reads nesting contract path (.ok (.file content)) result

/-- An artifact of a contract, or a fault that tells that there is none. -/
def Answers (contract : Contract) : Except Fault Artifact → Prop
  | .ok artifact => artifact.contract = contract ∧ artifact.bytecode.contract = some contract
  | .error fault => ∃ cause, fault = .deployment cause (some contract) ∧ cause.family = .artifact

theorem Yields.answers (h : Yields contract path document result) : Answers contract result := by
  cases h with
  | complete hinterface hvalue hcode =>
    cases hcode with
    | plain object => exact ⟨rfl, rfl⟩
    | linked hobject hrefers => exact ⟨rfl, rfl⟩
    | absent htext hrecord => exact ⟨_, rfl, rfl⟩
  | incomplete hparts => exact ⟨_, rfl, rfl⟩

/-- What stands at a path is no text in which lists and records lie deeper in each other than is read. -/
def Within (nesting : Nat) (found : Except Fault Node) : Prop :=
  ∀ content text flaw, found = .ok (.file content) → Utf8.decode content = .ok text →
    Json.parse nesting (Text.normalizeLineEnds text) = .error flaw → flaw.problem ≠ .tooDeep

theorem Answers.ne_tooDeep (h : Answers contract result) : result ≠ .error .tooDeep := by
  rintro rfl
  obtain ⟨cause, hcause, -⟩ := h
  cases hcause

/-- Whatever stands at the path, loading the artifact of a contract blames no other contract, unless the
document is too deep. -/
theorem Reads.answers {found : Except Fault Node} (h : Reads nesting contract path found result)
    (hdeep : result ≠ .error .tooDeep) : Answers contract result := by
  cases h with
  | missing habsent => exact ⟨_, rfl, rfl⟩
  | directory => exact ⟨_, rfl, rfl⟩
  | undecodable hdecode => exact ⟨_, rfl, rfl⟩
  | unparsed hdecode hparse hproblem => exact ⟨_, rfl, rfl⟩
  | nested hdecode hparse hproblem => exact absurd rfl hdeep
  | document hdecode hparse hyields => exact hyields.answers

theorem Reads.ne_tooDeep {found : Except Fault Node} (h : Reads nesting contract path found result)
    (hwithin : Within nesting found) : result ≠ .error .tooDeep := by
  cases h with
  | nested hdecode hparse hproblem => exact absurd hproblem (hwithin _ _ _ rfl hdecode hparse)
  | document hdecode hparse hyields => exact hyields.answers.ne_tooDeep
  | _ => simp

/-- A path that is not too long leads to something, or to nothing. -/
theorem absent_of_short {path : File.Path} (hspelled : path.Spelled) (hshort : Tree.Short path)
    (hlook : files.look path.text = .error fault) : Absent path.text fault := by
  rw [Tree.look] at hlook
  cases hlocate : files.locate path.text with
  | ok place =>
    rw [hlocate] at hlook
    simp only [bind, Except.bind] at hlook
    split at hlook
    · cases hlook
    · cases hlook
      exact .missing
  | error other =>
    rw [hlocate] at hlook
    obtain rfl : other = fault := Except.error.inj hlook
    by_cases hclean : path.Clean
    · rcases Tree.locate_eq_error_of_short hspelled hclean hshort hlocate with rfl | ⟨rfl, -⟩
      · exact .missing
      · exact .notDirectory
    · have hnull : path.text.toList.contains '\x00' = true := by
        rw [File.Path.Clean] at hclean
        simpa using hclean
      rw [Tree.locate, if_pos hnull] at hlocate
      cases hlocate
      exact .unspeakable

theorem holds_of_absent (hlook : files.look path = .error fault) (habsent : Absent path fault) :
    files.holds path = .ok false := by
  rw [Tree.holds, hlook]
  cases habsent <;> rfl

theorem load_of_absent (hlook : files.look path = .error fault) (habsent : Absent path fault)
    (contract : Contract) :
    load nesting files contract path = .error (.deployment (.artifactMissing path) (some contract)) := by
  unfold load
  rw [holds_of_absent hlook habsent]
  rfl

theorem holds_of_look {node : Node} (hlook : files.look path = .ok node) :
    files.holds path = .ok true := by
  rw [Tree.holds, hlook]

theorem load_of_directory (hlook : files.look path = .ok .directory) (contract : Contract) :
    load nesting files contract path = .error
      (.deployment (.artifactUnreadable path (Problem.mk .isDirectory path).message)
        (some contract)) := by
  rw [load_of_holds (holds_of_look hlook), documentAt, Tree.readText, Tree.read, hlook]
  rfl

theorem load_of_undecodable {flaw : Utf8.Flaw} (hlook : files.look path = .ok (.file content))
    (hdecode : Utf8.decode content = .error flaw) (contract : Contract) :
    load nesting files contract path =
      .error (.deployment (.artifactUnreadable path flaw.message) (some contract)) := by
  rw [load_of_holds (holds_of_look hlook), documentAt, Tree.readText, Tree.read, hlook]
  simp only [bind, Except.bind, pure, Except.pure, hdecode]
  rfl

theorem documentAt_of_text {text : List Char} (hlook : files.look path = .ok (.file content))
    (hdecode : Utf8.decode content = .ok text) : documentAt nesting files path =
      (Json.parse nesting (Text.normalizeLineEnds text)).mapError faultOf := by
  rw [documentAt, Tree.readText, Tree.read, hlook]
  simp only [bind, Except.bind, pure, Except.pure, hdecode]

theorem load_of_unparsed {text : List Char} {flaw : Json.Flaw}
    (hlook : files.look path = .ok (.file content)) (hdecode : Utf8.decode content = .ok text)
    (hparse : Json.parse nesting (Text.normalizeLineEnds text) = .error flaw)
    (hproblem : flaw.problem ≠ .tooDeep) (contract : Contract) :
    load nesting files contract path =
      .error (.deployment (.artifactUnreadable path flaw.message) (some contract)) := by
  have hfault : faultOf flaw = .invalidValue flaw.message := by
    unfold faultOf
    split
    · next hdeep => exact absurd hdeep hproblem
    · rfl
  rw [load_of_holds (holds_of_look hlook), documentAt_of_text hlook hdecode, hparse]
  simp only [Except.mapError, hfault]
  rfl

theorem load_of_nested {text : List Char} {flaw : Json.Flaw}
    (hlook : files.look path = .ok (.file content)) (hdecode : Utf8.decode content = .ok text)
    (hparse : Json.parse nesting (Text.normalizeLineEnds text) = .error flaw)
    (hproblem : flaw.problem = .tooDeep) (contract : Contract) :
    load nesting files contract path = .error .tooDeep := by
  rw [load_of_holds (holds_of_look hlook), documentAt_of_text hlook hdecode, hparse]
  simp only [Except.mapError, faultOf, hproblem]

theorem load_of_document {text : List Char}
    (hlook : files.look path = .ok (.file content)) (hdecode : Utf8.decode content = .ok text)
    (hparse : Json.parse nesting (Text.normalizeLineEnds text) = .ok document) (contract : Contract) :
    load nesting files contract path = ofDocument contract path document := by
  rw [load_of_holds (holds_of_look hlook), documentAt_of_text hlook hdecode, hparse]
  rfl

/-- Loading an artifact comes to just one thing, which what stands at the path decides. -/
theorem load_eq_iff (habsent : ∀ fault, files.look path = .error fault → Absent path fault) :
    load nesting files contract path = result ↔
      Reads nesting contract path (files.look path) result := by
  constructor
  · rintro rfl
    cases hlook : files.look path with
    | error fault =>
      rw [load_of_absent hlook (habsent fault hlook)]
      exact .missing (habsent fault hlook)
    | ok node =>
      cases node with
      | directory =>
        rw [load_of_directory hlook]
        exact .directory
      | file content =>
        cases hdecode : Utf8.decode content with
        | error flaw =>
          rw [load_of_undecodable hlook hdecode]
          exact .undecodable hdecode
        | ok text =>
          cases hparse : Json.parse nesting (Text.normalizeLineEnds text) with
          | error flaw =>
            by_cases hproblem : flaw.problem = .tooDeep
            · rw [load_of_nested hlook hdecode hparse hproblem]
              exact .nested hdecode hparse hproblem
            · rw [load_of_unparsed hlook hdecode hparse hproblem]
              exact .unparsed hdecode hparse hproblem
          | ok document =>
            rw [load_of_document hlook hdecode hparse]
            exact .document hdecode hparse (ofDocument_eq_iff.1 rfl)
  · intro h
    cases hlook : files.look path with
    | error fault =>
      rw [hlook] at h
      cases h with
      | missing habsent => exact load_of_absent hlook habsent contract
    | ok node =>
      rw [hlook] at h
      cases h with
      | directory => exact load_of_directory hlook contract
      | undecodable hdecode => exact load_of_undecodable hlook hdecode contract
      | unparsed hdecode hparse hproblem =>
        exact load_of_unparsed hlook hdecode hparse hproblem contract
      | nested hdecode hparse hproblem =>
        exact load_of_nested hlook hdecode hparse hproblem contract
      | document hdecode hparse hyields =>
        rw [load_of_document hlook hdecode hparse]
        exact ofDocument_eq_iff.2 hyields

end Rollout.Artifact
