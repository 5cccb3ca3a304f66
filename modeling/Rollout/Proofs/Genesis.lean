import Mathlib.Data.List.Forall2
import Rollout.Genesis
import Rollout.Proofs.Number.Literal

/-!
# Reading the genesis state

The genesis state is read from a record without loss: the integers come back whichever form each of
them is written in, and a record in which one is missing or not to be read is refused for the first
such field (`readsFields`).
-/

namespace Rollout

/-- Going through a list gives the results of its steps in their order. -/
theorem mapM_eq_ok_iff {α β ε : Type} {items : List α} {f : α → Except ε β} {results : List β} :
    items.mapM f = .ok results ↔ List.Forall₂ (fun item b => f item = .ok b) items results := by
  induction items generalizing results with
  | nil => cases results <;> simp [pure, Except.pure]
  | cons item items ih =>
    rw [List.mapM_cons, except_bind_eq_ok]
    constructor
    · rintro ⟨b, hb, hmore⟩
      obtain ⟨others, hothers, hpure⟩ := except_bind_eq_ok.1 hmore
      obtain rfl : b :: others = results := Except.ok.inj hpure
      exact .cons hb (ih.1 hothers)
    · intro h
      cases h with
      | cons hb hothers => exact ⟨_, hb, except_bind_eq_ok.2 ⟨_, ih.2 hothers, rfl⟩⟩

namespace Genesis

variable {fields : Fields} {value : Value} {name : String} {genesis : Genesis} {n : Int}

/-! ## The integer of a field -/

/-- A value is read as an integer: it is the integer, or a text that is a literal with blanks around
it. -/
inductive Spells : Value → Int → Prop where
  /-- The integer itself. -/
  | integer (n : Int) : Spells (.integer n) n
  /-- A literal with blanks around it. -/
  | text {s : String} {n : Int} : Literal.Holds s.toList n → Spells (.text s) n

/-- The forms in which an integer is written. -/
inductive Written : Value → Int → Prop where
  /-- As an integer. -/
  | integer (n : Int) : Written (.integer n) n
  /-- In decimal digits, with blanks around them. -/
  | decimal {s : String} {left right : List Char} {n : Int} :
    n.natAbs < 10 ^ Literal.digitLimit → s.toList = left ++ (toString n).toList ++ right →
    (∀ c ∈ left, Text.isBlank c = true) → (∀ c ∈ right, Text.isBlank c = true) →
    Written (.text s) n
  /-- In hexadecimal digits of either letter case behind a mark, with blanks around them. -/
  | hexadecimal {s : String} {left mark digits right : List Char} {n : Nat} :
    mark ∈ Literal.writtenMarks → digits.map Hex.lower = Nat.toDigits 16 n →
    s.toList = left ++ (mark ++ digits) ++ right →
    (∀ c ∈ left, Text.isBlank c = true) → (∀ c ∈ right, Text.isBlank c = true) →
    Written (.text s) n

theorem Written.spells (h : Written value n) : Spells value n := by
  cases h with
  | integer => exact .integer n
  | decimal hlimit htext hleft hright =>
    exact .text ⟨_, _, _, htext, hleft, hright, Literal.spells_toString hlimit⟩
  | hexadecimal hmark hdigits htext hleft hright =>
    exact .text ⟨_, _, _, htext, hleft, hright, Literal.spells_toDigits hmark hdigits⟩

/-- The integer of a field is what its value spells. -/
theorem integerOf_eq_ok_iff : integerOf value = .ok n ↔ Spells value n := by
  constructor
  · intro h
    unfold integerOf at h
    split at h
    · obtain rfl := Except.ok.inj h
      exact .integer _
    · next s =>
      rw [except_mapError_eq_ok] at h
      exact .text (Literal.read_strip_eq_ok_iff.1 h)
    · cases h
  · intro h
    cases h with
    | integer => rfl
    | text h =>
      show Except.mapError _ _ = _
      rw [except_mapError_eq_ok]
      exact Literal.read_strip_eq_ok_iff.2 h

/-- A field holds an integer in one of the forms in which it is written. -/
def WrittenIn (fields : Fields) (name : String) (n : Int) : Prop :=
  ∃ value, fields.get? name = some value ∧ Written value n

/-- A field gives an integer: it is there, and its value spells the integer. -/
def Gives (fields : Fields) (name : String) (n : Int) : Prop :=
  ∃ value, fields.get? name = some value ∧ Spells value n

theorem field_eq_ok_iff : field fields name = .ok n ↔ Gives fields name n := by
  constructor
  · intro h
    unfold field at h
    split at h
    · cases h
    · next value hvalue =>
      split at h
      · next m hm =>
        obtain rfl := Except.ok.inj h
        exact ⟨value, hvalue, integerOf_eq_ok_iff.1 hm⟩
      · cases h
  · rintro ⟨value, hvalue, hspells⟩
    unfold field
    simp only [hvalue, integerOf_eq_ok_iff.2 hspells]

/-- A field that gives no integer is blamed: it is missing, or its value spells none. -/
inductive Blames (fields : Fields) (name : String) : Cause → Prop where
  /-- The field is missing. -/
  | missing : fields.get? name = none → Blames fields name (.genesisFieldMissing name)
  /-- The value of the field spells no integer. -/
  | invalid {value : Value} {text : String} :
    fields.get? name = some value → (∀ n, ¬ Spells value n) → integerOf value = .error text →
    Blames fields name (.genesisFieldInvalid name text)

/-- A field gives an integer, or is blamed. -/
theorem field_cases (fields : Fields) (name : String) :
    (∃ n, field fields name = .ok n) ∨ ∃ cause, Blames fields name cause ∧
      field fields name = .error (.deployment cause (some .lightClientProxy)) := by
  cases hvalue : fields.get? name with
  | none =>
    right
    refine ⟨_, .missing hvalue, ?_⟩
    unfold field
    simp only [hvalue]
    rfl
  | some value =>
    cases hread : integerOf value with
    | ok n =>
      left
      exact ⟨n, field_eq_ok_iff.2 ⟨value, hvalue, integerOf_eq_ok_iff.1 hread⟩⟩
    | error text =>
      have hnone : ∀ n, ¬ Spells value n := by
        intro n hspells
        rw [integerOf_eq_ok_iff.2 hspells] at hread
        cases hread
      right
      refine ⟨_, .invalid hvalue hnone hread, ?_⟩
      unfold field
      simp only [hvalue, hread]
      rfl

/-! ## The record -/

theorem values_injective {a b : Genesis} (h : a.values = b.values) : a = b := by
  cases a
  cases b
  simpa [values] using h

/-- The fields of a record are gone through in their order. -/
theorem map_values_ofValue (fields : Fields) :
    (ofValue (.record fields)).map values = fieldNames.mapM (field fields) := by
  unfold ofValue fieldNames
  simp only [List.mapM_cons, List.mapM_nil, except_map_bind, bind_assoc, pure_bind]
  rfl

theorem ofValue_eq_ok_iff : ofValue (.record fields) = .ok genesis ↔
    List.Forall₂ (Gives fields) fieldNames genesis.values := by
  have hfields : fieldNames.mapM (field fields) = .ok genesis.values ↔
      List.Forall₂ (Gives fields) fieldNames genesis.values := by
    rw [mapM_eq_ok_iff]
    simp only [field_eq_ok_iff]
  rw [← hfields, ← map_values_ofValue, except_map_eq_ok]
  constructor
  · intro h
    exact ⟨genesis, h, rfl⟩
  · rintro ⟨other, h, hvalues⟩
    rwa [values_injective hvalues] at h

theorem Blames.family {cause : Cause} (h : Blames fields name cause) : cause.family = .genesis := by
  cases h <;> rfl

/-- A cause tells a name between quotes. -/
def Names (cause : Cause) (name : String) : Prop :=
  ∃ front rear, cause.message = front ++ "'" ++ name ++ "'" ++ rear

theorem Blames.names {cause : Cause} (h : Blames fields name cause) : Names cause name := by
  cases h with
  | missing =>
    have hfront : "genesis response is missing '" = "genesis response is missing " ++ "'" := by
      decide
    refine ⟨"genesis response is missing ", "", ?_⟩
    calc (Cause.genesisFieldMissing name).message
        = "genesis response is missing '" ++ name ++ "'" := rfl
      _ = "genesis response is missing " ++ "'" ++ name ++ "'" :=
        congrArg (fun front => front ++ name ++ "'") hfront
      _ = "genesis response is missing " ++ "'" ++ name ++ "'" ++ "" := String.append_empty.symm
  | @invalid value text =>
    have hfront : "genesis field '" = "genesis field " ++ "'" := by decide
    have hrear : "' is invalid: " = "'" ++ " is invalid: " := by decide
    refine ⟨"genesis field ", " is invalid: " ++ text, ?_⟩
    calc (Cause.genesisFieldInvalid name text).message
        = "genesis field '" ++ name ++ "' is invalid: " ++ text := rfl
      _ = "genesis field " ++ "'" ++ name ++ ("'" ++ " is invalid: ") ++ text :=
        congrArg₂ (fun front rear => front ++ name ++ rear ++ text) hfront hrear
      _ = "genesis field " ++ "'" ++ name ++ "'" ++ (" is invalid: " ++ text) := by
        rw [← String.append_assoc, ← String.append_assoc]

/-- A record is read, or its first field that gives no integer is blamed. -/
theorem ofValue_cases (fields : Fields) :
    ((∀ name ∈ fieldNames, ∃ n, Gives fields name n) ∧
      ∃ genesis, ofValue (.record fields) = .ok genesis) ∨
    ∃ before name after cause, fieldNames = before ++ name :: after ∧
      (∀ earlier ∈ before, ∃ n, Gives fields earlier n) ∧ (∀ n, ¬ Gives fields name n) ∧
      Blames fields name cause ∧
      ofValue (.record fields) = .error (.deployment cause (some .lightClientProxy)) := by
  have hmap := map_values_ofValue fields
  rcases mapM_cases fieldNames (field fields) with
    hall | ⟨before, name, after, fault, hnames, hbefore, hname, hfails⟩
  · left
    obtain ⟨results, hresults⟩ := exists_mapM hall
    rw [hresults] at hmap
    obtain ⟨genesis, hgenesis, -⟩ := except_map_eq_ok.1 hmap
    refine ⟨fun name hmem => ?_, genesis, hgenesis⟩
    obtain ⟨n, hn⟩ := hall name hmem
    exact ⟨n, field_eq_ok_iff.1 hn⟩
  · right
    rcases field_cases fields name with ⟨n, hn⟩ | ⟨cause, hblames, hfault⟩
    · rw [hname] at hn
      cases hn
    obtain rfl := Except.error.inj (hname.symm.trans hfault)
    refine ⟨before, name, after, cause, hnames, ?_, ?_, hblames, ?_⟩
    · intro earlier hearlier
      obtain ⟨n, hn⟩ := hbefore earlier hearlier
      exact ⟨n, field_eq_ok_iff.1 hn⟩
    · intro n hgives
      rw [field_eq_ok_iff.2 hgives] at hname
      cases hname
    · rw [hfails] at hmap
      cases hread : ofValue (.record fields) with
      | ok genesis =>
        rw [hread] at hmap
        cases hmap
      | error other =>
        rw [hread] at hmap
        exact congrArg Except.error (Except.error.inj hmap)

/-- A record is read without loss, or refused for its first field that gives no integer. -/
structure ReadsFields (fields : Fields) : Prop where
  /-- Integers come back in the order of the fields, in whichever form each of them is written. -/
  written : ∀ genesis, List.Forall₂ (WrittenIn fields) fieldNames genesis.values →
    ofValue (.record fields) = .ok genesis
  /-- Nothing but what the fields give is read. -/
  exact : ∀ genesis, ofValue (.record fields) = .ok genesis ↔
    List.Forall₂ (Gives fields) fieldNames genesis.values
  /-- If a field gives no integer, the first such field is blamed. -/
  refused : (∃ name ∈ fieldNames, ∀ n, ¬ Gives fields name n) →
    ∃ before name after cause, fieldNames = before ++ name :: after ∧
      (∀ earlier ∈ before, ∃ n, Gives fields earlier n) ∧ (∀ n, ¬ Gives fields name n) ∧
      Blames fields name cause ∧ cause.family = .genesis ∧ Names cause name ∧
      ofValue (.record fields) = .error (.deployment cause (some .lightClientProxy))

/-- The genesis state is read from records without loss. -/
theorem readsFields (fields : Fields) : ReadsFields fields where
  written genesis h := by
    refine ofValue_eq_ok_iff.2 (h.imp ?_)
    rintro name n ⟨value, hvalue, hwritten⟩
    exact ⟨value, hvalue, hwritten.spells⟩
  exact genesis := ofValue_eq_ok_iff
  refused := by
    rintro ⟨missing, hmem, hmissing⟩
    rcases ofValue_cases fields with
      ⟨hall, -⟩ | ⟨before, name, after, cause, hnames, hbefore, hname, hblames, hrefused⟩
    · obtain ⟨n, hgives⟩ := hall missing hmem
      exact absurd hgives (hmissing n)
    · exact ⟨before, name, after, cause, hnames, hbefore, hname, hblames, hblames.family,
        hblames.names, hrefused⟩

end Genesis

end Rollout
