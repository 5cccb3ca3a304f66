import Rollout.Bytecode
import Rollout.Proofs.Except

/-!
# The name of the library behind a placeholder

A placeholder is told by the first name that the references have for it, or else by itself
(`Naming`). The names are tried in turn, and a name without a UTF-8 form has no placeholder to
compare; where one comes before the name that is looked for, nothing is told (`Misnamed`). These are
all the cases (`firstNamed_cases`).
-/

namespace Rollout

namespace LibraryName

@[simp]
theorem read_text (library : LibraryName) : read library.text = .ok library :=
  dif_pos library.isWellFormed

theorem read_of_illFormed {text : String} (h : Text.isWellFormed text.toList = false) :
    read text = .error .unencodable :=
  dif_neg (by simp [h])

end LibraryName

namespace Bytecode

variable {found : List Char} {names : List String} {bytecode : Bytecode}

/-! ## The shape of references -/

/-- Link references as a compiler writes them: for each source and each library in it the places in
the bytecode. -/
def Declared : Value → Prop
  | .null => True
  | .record sources => ∀ source ∈ sources, ∃ names, source.2 = .record names ∧
      ∀ name ∈ names, ∃ places, name.2 = .list places ∧
        ∀ place ∈ places, ∃ fields, place = .record fields ∧
          ∀ field ∈ fields, ∃ n, field.2 = .integer n
  | _ => False

/-- The names of the libraries that bytecode expects have a UTF-8 form, as far as they can be told. -/
def Encodable (bytecode : Bytecode) : Prop :=
  ∀ names, bytecode.libraries = .ok names → ∀ name ∈ names, Text.isWellFormed name.toList = true

/-- With references as a compiler writes them, the names of the libraries can be told. -/
theorem exists_libraries (h : Declared bytecode.references) :
    ∃ names, bytecode.libraries = .ok names := by
  rw [libraries]
  split
  · exact ⟨[], rfl⟩
  · cases hreferences : bytecode.references with
    | null => simp_all [Value.isVacant]
    | record sources =>
      rw [hreferences] at h
      refine exists_bind (exists_mapM fun entry hentry => ?_) fun names => ⟨names.flatten, rfl⟩
      obtain ⟨source, value⟩ := entry
      obtain ⟨fields, rfl, -⟩ := h _ hentry
      exact ⟨_, rfl⟩
    | _ => rw [hreferences] at h; exact h.elim

/-- If the names of the libraries cannot be told, the references are to blame. -/
theorem fault_of_libraries {fault : Fault} (h : bytecode.libraries = .error fault) :
    fault = .wrongType ∨ fault = .notRecord := by
  rw [libraries] at h
  split at h
  · cases h
  · split at h
    · next sources _ =>
      rcases except_bind_eq_error.1 h with hnames | ⟨names, -, hpure⟩
      · obtain ⟨entry, -, hentry⟩ := exists_error_of_mapM hnames
        cases helements : entry.2.elements? with
        | some elements =>
          simp only [namesIn, helements] at hentry
          cases hentry
        | none =>
          simp only [namesIn, helements] at hentry
          exact .inl (Except.error.inj hentry).symm
      · cases hpure
    · exact .inr (Except.error.inj h).symm

/-! ## The name that is told -/

/-- What is told for a placeholder: the first of the names that has it, or else the placeholder
itself. -/
inductive Naming (names : List String) (found : List Char) : String → Prop where
  /-- The placeholder is that of a name, and of none before it. -/
  | known {before : List LibraryName} {library : LibraryName} {after : List String} :
    names = before.map (·.text) ++ library.text :: after → placeholder library = found →
    (∀ other ∈ before, placeholder other ≠ found) → Naming names found library.text
  /-- No name has the placeholder. -/
  | unknown {libraries : List LibraryName} : names = libraries.map (·.text) →
    (∀ library ∈ libraries, placeholder library ≠ found) → Naming names found (String.ofList found)

/-- One of the names has no UTF-8 form, and none before it has the placeholder. -/
def Misnamed (names : List String) (found : List Char) : Prop :=
  ∃ (before : List LibraryName) (text : String) (after : List String),
    names = before.map (·.text) ++ text :: after ∧ Text.isWellFormed text.toList = false ∧
      ∀ other ∈ before, placeholder other ≠ found

theorem Naming.cons {library : LibraryName} {told : String} (h : Naming names found told)
    (hother : placeholder library ≠ found) : Naming (library.text :: names) found told := by
  cases h with
  | known hnames hfound hbefore =>
    exact .known (by rw [hnames]; rfl) hfound (List.forall_mem_cons.2 ⟨hother, hbefore⟩)
  | unknown hnames hothers =>
    exact .unknown (by rw [hnames]; rfl) (List.forall_mem_cons.2 ⟨hother, hothers⟩)

theorem Misnamed.cons {library : LibraryName} (h : Misnamed names found)
    (hother : placeholder library ≠ found) : Misnamed (library.text :: names) found := by
  obtain ⟨before, text, after, rfl, htext, hbefore⟩ := h
  exact ⟨library :: before, text, after, rfl, htext, List.forall_mem_cons.2 ⟨hother, hbefore⟩⟩

/-- Going through the names tells what the placeholder is called, or stops at a name without a UTF-8
form. -/
theorem firstNamed_cases (found : List Char) (names : List String) :
    (∃ told, firstNamed found names = .ok told ∧ Naming names found told) ∨
      firstNamed found names = .error .unencodable ∧ Misnamed names found := by
  induction names with
  | nil =>
    have hnames : [] = ([] : List LibraryName).map (·.text) := rfl
    exact .inl ⟨_, rfl, .unknown hnames (by simp)⟩
  | cons text rest ih =>
    cases hform : Text.isWellFormed text.toList with
    | false =>
      refine .inr ⟨?_, [], text, rest, rfl, hform, by simp⟩
      rw [firstNamed, LibraryName.read_of_illFormed hform]
      rfl
    | true =>
      obtain ⟨library, rfl⟩ : ∃ library : LibraryName, library.text = text := ⟨⟨text, hform⟩, rfl⟩
      have hstep : firstNamed found (library.text :: rest) =
          if placeholder library = found then .ok library.text else firstNamed found rest := by
        rw [firstNamed, LibraryName.read_text]
        rfl
      rw [hstep]
      by_cases hfound : placeholder library = found
      · have hnames : library.text :: rest =
            ([] : List LibraryName).map (·.text) ++ library.text :: rest := rfl
        rw [if_pos hfound]
        exact .inl ⟨_, rfl, .known hnames hfound (by simp)⟩
      · rw [if_neg hfound]
        refine ih.imp (fun ⟨told, hfirst, hnaming⟩ => ⟨told, hfirst, hnaming.cons hfound⟩) ?_
        exact fun ⟨hfirst, hmisnamed⟩ => ⟨hfirst, hmisnamed.cons hfound⟩

/-- Nothing can be told for a placeholder: the references are to blame, or one of the names. -/
inductive Untold (bytecode : Bytecode) (found : List Char) : Fault → Prop where
  /-- The names of the libraries cannot be read off the references. -/
  | unread {fault : Fault} : bytecode.libraries = .error fault → Untold bytecode found fault
  /-- A name without a UTF-8 form comes before the name of the placeholder. -/
  | misnamed {names : List String} : bytecode.libraries = .ok names → Misnamed names found →
    Untold bytecode found .unencodable

/-- What is told for a placeholder, if anything can be told. -/
theorem expected_cases (bytecode : Bytecode) (found : List Char) :
    (∃ told names, bytecode.expected found = .ok told ∧ bytecode.libraries = .ok names ∧
      Naming names found told) ∨
      ∃ fault, bytecode.expected found = .error fault ∧ Untold bytecode found fault := by
  cases hlibraries : bytecode.libraries with
  | error fault =>
    refine .inr ⟨fault, ?_, .unread hlibraries⟩
    rw [expected, hlibraries]
    rfl
  | ok names =>
    have hexpected : bytecode.expected found = firstNamed found names := by
      rw [expected, hlibraries]
      rfl
    rw [hexpected]
    rcases firstNamed_cases found names with ⟨told, htold, hnaming⟩ | ⟨hfault, hmisnamed⟩
    · exact .inl ⟨told, names, htold, rfl, hnaming⟩
    · exact .inr ⟨_, hfault, .misnamed hlibraries hmisnamed⟩

/-- With references as a compiler writes them and names that have a UTF-8 form, something can be
told. -/
theorem not_untold {fault : Fault} (hdeclared : Declared bytecode.references)
    (hencodable : bytecode.Encodable) : ¬ Untold bytecode found fault := by
  intro h
  cases h with
  | unread hfault =>
    obtain ⟨names, hnames⟩ := exists_libraries hdeclared
    rw [hnames] at hfault
    cases hfault
  | misnamed hnames hmisnamed =>
    obtain ⟨before, text, after, rfl, htext, -⟩ := hmisnamed
    have hform := hencodable _ hnames text (List.mem_append_right _ List.mem_cons_self)
    rw [htext] at hform
    cases hform

theorem exists_expected (hdeclared : Declared bytecode.references) (hencodable : bytecode.Encodable)
    (found : List Char) : ∃ told, bytecode.expected found = .ok told := by
  rcases bytecode.expected_cases found with ⟨told, names, htold, -⟩ | ⟨fault, -, huntold⟩
  · exact ⟨told, htold⟩
  · exact absurd huntold (not_untold hdeclared hencodable)

/-- What cannot be told is no reason for which a deployment gives up. -/
theorem Untold.ne_deployment {fault : Fault} (h : Untold bytecode found fault) (cause : Cause)
    (contract : Option Contract) : fault ≠ .deployment cause contract := by
  cases h with
  | unread hfault => rcases fault_of_libraries hfault with rfl | rfl <;> simp
  | misnamed => simp

end Bytecode

end Rollout
