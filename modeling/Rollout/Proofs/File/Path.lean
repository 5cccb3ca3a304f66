import Rollout.File.Path

/-!
# The text of a path

The text of a path spells its root and its names. The text of a directory above a path is a first
part of the text of the path, unless it is the working directory (`IsAbove.text_prefix`). Between the
slashes of the text stand the names of the path, and nothing else but parts that lead nowhere
(`Spelled.splitAll_text`). The text has no characters but those of the text that spells the path,
slashes and points (`mem_text_ofText`).
-/

namespace Rollout

namespace Text

theorem splitAll_eq_splitOn (c : Char) (text : List Char) : splitAll c text = text.splitOn c := by
  induction text with
  | nil => rfl
  | cons x rest ih =>
    rw [splitAll, ih, List.splitOn_cons_eq_if_modifyHead]
    cases hrest : rest.splitOn c with
    | nil => exact absurd hrest (List.splitOn_ne_nil c rest)
    | cons part parts => simp [List.modifyHead]

/-- A part of a longer text is empty, or it is one of the rest, perhaps with the first character. -/
theorem mem_splitAll_cons {c x : Char} {rest part : List Char} (h : part ∈ splitAll c (x :: rest)) :
    part = [] ∨ part ∈ splitAll c rest ∨ x ≠ c ∧ ∃ first ∈ splitAll c rest, part = x :: first := by
  rw [splitAll] at h
  cases hrest : splitAll c rest with
  | nil => exact absurd hrest (splitAll_ne_nil c rest)
  | cons first others =>
    rw [hrest] at h
    dsimp only at h
    split at h
    · exact (List.mem_cons.1 h).imp_right Or.inl
    · next hne =>
      rcases List.mem_cons.1 h with rfl | h
      · exact Or.inr (Or.inr ⟨hne, first, List.mem_cons_self, rfl⟩)
      · exact Or.inr (Or.inl (List.mem_cons_of_mem _ h))

theorem not_mem_of_mem_splitAll {c : Char} {text part : List Char} (h : part ∈ splitAll c text) :
    c ∉ part := by
  induction text generalizing part with
  | nil =>
    rw [splitAll, List.mem_singleton] at h
    simp [h]
  | cons x rest ih =>
    rcases mem_splitAll_cons h with rfl | h | ⟨hne, first, hfirst, rfl⟩
    · simp
    · exact ih h
    · rw [List.mem_cons, not_or]
      exact ⟨Ne.symm hne, ih hfirst⟩

theorem subset_of_mem_splitAll {c : Char} {text part : List Char} (h : part ∈ splitAll c text) :
    part ⊆ text := by
  induction text generalizing part with
  | nil =>
    rw [splitAll, List.mem_singleton] at h
    simp [h]
  | cons x rest ih =>
    rcases mem_splitAll_cons h with rfl | h | ⟨-, first, hfirst, rfl⟩
    · simp
    · exact List.subset_cons_of_subset x (ih h)
    · exact List.cons_subset_cons x (ih hfirst)

end Text

namespace File

namespace Path

variable {path parent : Path}

/-- A path is that of a directory in which another one ends, or of one above it. -/
def IsAbove (parent path : Path) : Prop :=
  parent.root = path.root ∧ parent.names <+: path.names.dropLast

theorem IsAbove.trans {mid : Path} (h : parent.IsAbove mid) (h' : mid.IsAbove path) :
    parent.IsAbove path :=
  ⟨h.1.trans h'.1, h.2.trans ((List.dropLast_prefix _).trans h'.2)⟩

/-- A text is that of a directory above a path. -/
def TextAbove (path : Path) (text : String) : Prop :=
  ∃ parent : Path, parent.IsAbove path ∧ text = parent.text

/-- The root and the names of a path, spelled one after the other. -/
def spelling (path : Path) : List Char :=
  path.root.toList ++ ['/'].intercalate (path.names.map String.toList)

theorem toList_text (path : Path) :
    path.text.toList = if path.spelling = [] then ['.'] else path.spelling := by
  have hspelling : (path.root ++ "/".intercalate path.names).toList = path.spelling := by
    rw [String.toList_append, String.toList_intercalate]
    rfl
  unfold text
  split
  · next hempty =>
    rw [hempty] at hspelling
    exact (if_pos hspelling.symm).symm
  · next hne =>
    rw [hspelling, if_neg]
    intro hnil
    rw [hnil, String.toList_eq_nil_iff] at hspelling
    exact hne hspelling

theorem prefix_intercalate {α : Type} (sep : List α) (a b : List (List α)) :
    sep.intercalate a <+: sep.intercalate (a ++ b) := by
  induction a with
  | nil => exact List.nil_prefix
  | cons first rest ih =>
    cases rest with
    | nil =>
      cases b with
      | nil => exact List.prefix_rfl
      | cons next others =>
        show sep.intercalate [first] <+: sep.intercalate (first :: next :: others)
        rw [List.intercalate_cons_cons, List.append_assoc]
        simp [List.intercalate]
    | cons second others =>
      show sep.intercalate (first :: second :: others) <+:
        sep.intercalate (first :: second :: (others ++ b))
      rw [List.intercalate_cons_cons, List.intercalate_cons_cons]
      exact (List.prefix_append_right_inj _).2 ih

/-- The text of a directory above a path is a first part of the text of the path, unless it is the
working directory. -/
theorem IsAbove.text_prefix (h : parent.IsAbove path) :
    parent.text.toList = ['.'] ∨ parent.text.toList <+: path.text.toList := by
  obtain ⟨hroot, hnames⟩ := h
  obtain ⟨names, hnames⟩ := hnames.trans path.names.dropLast_prefix
  have hspelling : parent.spelling <+: path.spelling := by
    rw [spelling, spelling, hroot, ← hnames, List.map_append]
    exact (List.prefix_append_right_inj _).2 (prefix_intercalate _ _ _)
  rw [toList_text, toList_text]
  split
  · exact Or.inl rfl
  · next hne =>
    have hne' : path.spelling ≠ [] := fun e => hne (List.prefix_nil.1 (e ▸ hspelling))
    rw [if_neg hne']
    exact Or.inr hspelling

/-- A path has no NUL in its text. -/
def Clean (path : Path) : Prop := '\x00' ∉ path.text.toList

theorem IsAbove.clean (h : parent.IsAbove path) (hclean : path.Clean) : parent.Clean := by
  intro hmem
  rcases h.text_prefix with hdot | hstarts
  · rw [hdot] at hmem
    exact absurd (List.mem_singleton.1 hmem) (by decide)
  · exact hclean (hstarts.subset hmem)

theorem text_ne_empty (path : Path) : path.text ≠ "" := by
  intro hempty
  have htext := path.toList_text
  rw [hempty] at htext
  split at htext
  · cases htext
  · next hne => exact hne htext.symm

/-- The text of a directory above a path is no longer than the text of the path. -/
theorem IsAbove.utf8ByteSize_le (h : parent.IsAbove path) :
    parent.text.utf8ByteSize ≤ path.text.utf8ByteSize := by
  rcases h.text_prefix with hdot | ⟨rest, hrest⟩
  · have htext : parent.text = "." := String.toList_inj.1 hdot
    have hsize : path.text.utf8ByteSize ≠ 0 := fun hzero =>
      path.text_ne_empty (String.utf8ByteSize_eq_zero_iff.1 hzero)
    rw [htext]
    exact Nat.one_le_iff_ne_zero.2 hsize
  · have htext : path.text = parent.text ++ String.ofList rest := by
      rw [← String.toList_inj, String.toList_append, String.toList_ofList, hrest]
    rw [htext, String.utf8ByteSize_append]
    exact Nat.le_add_right _ _

/-! ## The names in the text of a path -/

/-- A path is one that is spelled by a text: its root consists of slashes, and its names are neither
empty nor have slashes. -/
structure Spelled (path : Path) : Prop where
  root : ∀ c ∈ path.root.toList, c = '/'
  names : ∀ name ∈ path.names, name ≠ "" ∧ '/' ∉ name.toList

theorem mem_rootOf {text : List Char} {c : Char} (h : c ∈ (rootOf text).toList) : c = '/' := by
  rw [rootOf] at h
  split at h <;> simp_all

theorem spelled_ofText (text : String) : (ofText text).Spelled where
  root _ := mem_rootOf
  names name h := by
    obtain ⟨part, hpart, rfl⟩ := List.mem_map.1 h
    obtain ⟨hmem, hkept⟩ := List.mem_filter.1 hpart
    refine ⟨?_, ?_⟩
    · intro hempty
      rw [String.ofList_eq_empty_iff] at hempty
      simp [hempty] at hkept
    · rw [String.toList_ofList]
      exact Text.not_mem_of_mem_splitAll hmem

theorem mem_of_mem_intercalate {α : Type} {sep x : α} {parts : List (List α)}
    (h : x ∈ [sep].intercalate parts) : x = sep ∨ ∃ part ∈ parts, x ∈ part := by
  induction parts with
  | nil => cases h
  | cons first rest ih =>
    cases rest with
    | nil =>
      rw [List.intercalate_singleton] at h
      exact Or.inr ⟨first, List.mem_cons_self, h⟩
    | cons second others =>
      rw [List.intercalate_cons_cons, List.mem_append, List.mem_append, List.mem_singleton] at h
      rcases h with (hfirst | hsep) | hothers
      · exact Or.inr ⟨first, List.mem_cons_self, hfirst⟩
      · exact Or.inl hsep
      · exact (ih hothers).imp_right fun ⟨part, hpart, hx⟩ =>
          ⟨part, List.mem_cons_of_mem _ hpart, hx⟩

/-- The text of a path has no character but those of the text that spells it, slashes and points. -/
theorem mem_text_ofText {text : String} {c : Char} (h : c ∈ (ofText text).text.toList) :
    c = '.' ∨ c = '/' ∨ c ∈ text.toList := by
  rw [toList_text] at h
  split at h
  · exact Or.inl (List.mem_singleton.1 h)
  · rw [spelling, List.mem_append] at h
    rcases h with hroot | hnames
    · exact Or.inr (Or.inl (mem_rootOf hroot))
    · rcases mem_of_mem_intercalate hnames with rfl | ⟨part, hpart, hc⟩
      · exact Or.inr (Or.inl rfl)
      · obtain ⟨name, hname, rfl⟩ := List.mem_map.1 hpart
        obtain ⟨chars, hchars, rfl⟩ := List.mem_map.1 hname
        rw [String.toList_ofList] at hc
        exact Or.inr (Or.inr (Text.subset_of_mem_splitAll (List.mem_filter.1 hchars).1 hc))

/-- A path has no NUL in its text if it is spelled by a text that has none. -/
theorem clean_ofText {text : String} (h : '\x00' ∉ text.toList) : (ofText text).Clean := by
  intro hmem
  rcases mem_text_ofText hmem with hpoint | hslash | hnull
  · exact absurd hpoint (by decide)
  · exact absurd hslash (by decide)
  · exact h hnull

theorem IsAbove.spelled (h : parent.IsAbove path) (hspelled : path.Spelled) : parent.Spelled where
  root := h.1 ▸ hspelled.root
  names name hname := hspelled.names name (List.dropLast_subset _ (h.2.subset hname))

theorem Spelled.child (h : path.Spelled) {name : String} (hname : name ≠ "" ∧ '/' ∉ name.toList) :
    (path.child name).Spelled where
  root := h.root
  names other hother := by
    rcases List.mem_append.1 hother with hbefore | hlast
    · exact h.names other hbefore
    · rw [List.mem_singleton.1 hlast]
      exact hname

/-- The parts between the slashes of a text that starts with slashes: an empty one for each of these
slashes, and then the parts of the rest. -/
theorem splitOn_slashes {slashes : List Char} (h : ∀ c ∈ slashes, c = '/') (rest : List Char) :
    (slashes ++ rest).splitOn '/' = slashes.map (fun _ => []) ++ rest.splitOn '/' := by
  induction slashes with
  | nil => rfl
  | cons c others ih =>
    obtain rfl : c = '/' := h c List.mem_cons_self
    have hrest := List.splitOn_append_cons_self (a := '/') [] (others ++ rest)
    rw [List.splitOn_nil] at hrest
    rw [List.cons_append, List.map_cons, List.cons_append, ← ih fun d hd => h d (List.mem_cons_of_mem _ hd)]
    exact hrest

theorem Spelled.intercalate_eq_nil (h : path.Spelled)
    (hnil : ['/'].intercalate (path.names.map String.toList) = []) : path.names = [] := by
  cases hnames : path.names with
  | nil => rfl
  | cons name rest =>
    have hname := (h.names name (by rw [hnames]; exact List.mem_cons_self)).1
    rw [hnames, List.map_cons] at hnil
    have hstarts := prefix_intercalate ['/'] [name.toList] (rest.map String.toList)
    rw [List.singleton_append, hnil, List.intercalate_singleton, List.prefix_nil,
      String.toList_eq_nil_iff] at hstarts
    exact absurd hstarts hname

/-- Between the slashes of the text of a path stand its names, and before them at most parts that
lead nowhere. -/
theorem Spelled.splitAll_text (h : path.Spelled) : ∃ idle : List (List Char),
    (∀ part ∈ idle, part = [] ∨ part = ['.']) ∧
      Text.splitAll '/' path.text.toList = idle ++ path.names.map String.toList := by
  rw [Text.splitAll_eq_splitOn, toList_text]
  split
  · next hempty =>
    obtain ⟨-, hnil⟩ := List.append_eq_nil_iff.1 hempty
    rw [h.intercalate_eq_nil hnil]
    exact ⟨[['.']], by simp, by decide⟩
  · have hslashes := splitOn_slashes h.root (['/'].intercalate (path.names.map String.toList))
    have hidle : ∀ part ∈ path.root.toList.map fun _ => ([] : List Char),
        part = [] ∨ part = ['.'] := by
      intro part hpart
      obtain ⟨_, -, rfl⟩ := List.mem_map.1 hpart
      exact Or.inl rfl
    rw [spelling, hslashes]
    cases hnames : path.names with
    | nil =>
      refine ⟨path.root.toList.map (fun _ => []) ++ [[]], ?_, by simp⟩
      exact List.forall_mem_append.2 ⟨hidle, by simp⟩
    | cons name rest =>
      rw [← hnames, List.splitOn_intercalate]
      · exact ⟨_, hidle, rfl⟩
      · intro part hpart
        obtain ⟨other, hother, rfl⟩ := List.mem_map.1 hpart
        exact (h.names other hother).2
      · simp [hnames]

theorem Spelled.head?_intercalate (h : path.Spelled) :
    (['/'].intercalate (path.names.map String.toList)).head? ≠ some '/' := by
  cases hnames : path.names with
  | nil => simp [List.intercalate]
  | cons name rest =>
    obtain ⟨hne, hslash⟩ := h.names name (by rw [hnames]; exact List.mem_cons_self)
    obtain ⟨c, cs, hchars⟩ := List.exists_cons_of_ne_nil (mt String.toList_eq_nil_iff.1 hne)
    have hstarts : name.toList <+: ['/'].intercalate (name.toList :: rest.map String.toList) := by
      have h := prefix_intercalate ['/'] [name.toList] (rest.map String.toList)
      rwa [List.intercalate_singleton, List.singleton_append] at h
    obtain ⟨others, hothers⟩ := hstarts
    rw [List.map_cons, ← hothers, hchars]
    rintro ⟨⟩
    exact hslash (hchars ▸ List.mem_cons_self)

/-- The text of a path starts with a slash exactly if the path has a root. -/
theorem Spelled.head?_text (h : path.Spelled) :
    path.text.toList.head? = some '/' ↔ path.root ≠ "" := by
  rw [toList_text]
  constructor
  · intro hhead hroot
    have hspelling : path.spelling = ['/'].intercalate (path.names.map String.toList) := by
      rw [spelling, hroot]
      rfl
    split at hhead
    · cases hhead
    · exact h.head?_intercalate (hspelling ▸ hhead)
  · intro hroot
    obtain ⟨c, cs, hchars⟩ := List.exists_cons_of_ne_nil (mt String.toList_eq_nil_iff.1 hroot)
    obtain rfl : c = '/' := h.root c (hchars ▸ List.mem_cons_self)
    rw [spelling, hchars]
    rfl

end Path

end File

end Rollout
