import Mathlib.Data.List.Induction
import Rollout.Proofs.Except
import Rollout.Proofs.File.Overwrite

/-!
# The way of a path

The names of a path lead to a place that does not depend on what stands in a tree (`placeOf`). The
text of the path is followed to this place just if directories stand all the way and nothing is too
long (`locate_eq_ok_iff`). If it cannot be followed although nothing is too long, then nothing stands
somewhere on the way, or a file (`locate_eq_error_of_short`).
-/

namespace Rollout.File.Tree

variable {tree : Tree} {path parent : Path} {place start : Place} {names : List String}
  {name : String} {trouble : Trouble}

/-! ## Where names lead -/

/-- The place to which a name leads from a directory. -/
def step (place : Place) (name : String) : Place :=
  if name = "" ∨ name = "." then place
  else if name = ".." then above place
  else place ++ [name]

/-- The place to which names lead, one after the other. -/
def reach (start : Place) (names : List String) : Place := names.foldl step start

/-- The place to which a path leads. -/
def placeOf (path : Path) : Place := reach (startOf path) path.names

theorem reach_concat (start : Place) (names : List String) (name : String) :
    reach start (names ++ [name]) = step (reach start names) name := by
  rw [reach, List.foldl_append]
  rfl

theorem enter_eq (place : Place) (name : String) : enter place name =
    if nameLimit < name.utf8ByteSize then .error .nameTooLong else .ok (step place name) := by
  unfold enter step
  by_cases hidle : name = "" ∨ name = "."
  · have hshort : ¬ nameLimit < name.utf8ByteSize := by
      rcases hidle with rfl | rfl <;> decide
    rw [if_pos hidle, if_pos hidle, if_neg hshort]
  · rw [if_neg hidle, if_neg hidle]
    by_cases hup : name = ".."
    · subst hup
      rfl
    · rw [if_neg hup, if_neg hup]

/-! ## Following names -/

/-- The place to which a name leads from a place, if a directory stands there. -/
def advance (tree : Tree) (place : Place) (name : String) : Except Trouble Place :=
  match tree.at? place with
  | none => .error .missing
  | some (.file _) => .error .notDirectory
  | some .directory => enter place name

theorem follow_cons (tree : Tree) (start : Place) (name : String) (rest : List String) :
    tree.follow start (name :: rest) = tree.advance start name >>= fun next => tree.follow next rest := by
  rw [follow, advance]
  cases tree.at? start with
  | none => rfl
  | some found =>
    cases found with
    | file content => rfl
    | directory =>
      dsimp only
      cases enter start name <;> rfl

/-- The last name is followed from the place to which the names before it lead. -/
theorem follow_append_singleton (tree : Tree) (start : Place) (names : List String) (name : String) :
    tree.follow start (names ++ [name]) =
      tree.follow start names >>= fun place => tree.advance place name := by
  induction names generalizing start with
  | nil =>
    rw [List.nil_append, follow_cons]
    show (tree.advance start name >>= fun next => .ok next) = tree.advance start name
    cases tree.advance start name <;> rfl
  | cons first rest ih =>
    rw [List.cons_append, follow_cons, follow_cons]
    cases tree.advance start first with
    | error trouble => rfl
    | ok next => exact ih next

theorem advance_eq_ok_iff {next : Place} : tree.advance place name = .ok next ↔
    tree.at? place = some .directory ∧ name.utf8ByteSize ≤ nameLimit ∧ next = step place name := by
  rw [advance]
  cases tree.at? place with
  | none => simp
  | some found =>
    cases found with
    | file content => simp
    | directory =>
      dsimp only
      rw [enter_eq]
      by_cases hlimit : nameLimit < name.utf8ByteSize
      · simp [hlimit, Nat.not_le_of_lt hlimit]
      · simp [hlimit, Nat.le_of_not_lt hlimit, eq_comm]

theorem prefix_iff_dropLast {front names : List String} :
    front <+: names ↔ front = names ∨ front <+: names.dropLast := by
  rcases List.eq_nil_or_concat names with rfl | ⟨init, last, rfl⟩
  · simp
  · rw [List.concat_eq_append, List.dropLast_concat, List.prefix_concat_iff]

theorem prefix_dropLast_concat (names : List String) (name : String) :
    names <+: (names ++ [name]).dropLast := by
  simp only [List.dropLast_concat, List.prefix_rfl]

/-- Names are followed just if none is too long and directories stand all the way. -/
theorem follow_eq_ok_iff (hstart : tree.at? start = some .directory) :
    tree.follow start names = .ok place ↔
      place = reach start names ∧ (∀ name ∈ names, name.utf8ByteSize ≤ nameLimit) ∧
        ∀ front, front <+: names.dropLast → tree.at? (reach start front) = some .directory := by
  induction names using List.reverseRecOn generalizing place with
  | nil =>
    rw [follow, Except.ok.injEq]
    constructor
    · rintro rfl
      refine ⟨rfl, by simp, fun front hfront => ?_⟩
      rw [List.dropLast_nil, List.prefix_nil] at hfront
      rw [hfront]
      exact hstart
    · rintro ⟨rfl, -, -⟩
      rfl
  | append_singleton names name ih =>
    rw [follow_append_singleton, List.dropLast_concat, reach_concat, List.forall_mem_append,
      except_bind_eq_ok]
    constructor
    · rintro ⟨mid, hmid, hlast⟩
      obtain ⟨rfl, hshort, hway⟩ := ih.1 hmid
      obtain ⟨hat, hlimit, rfl⟩ := advance_eq_ok_iff.1 hlast
      refine ⟨rfl, ⟨hshort, by simpa using hlimit⟩, fun front hfront => ?_⟩
      rcases prefix_iff_dropLast.1 hfront with rfl | hfront
      · exact hat
      · exact hway front hfront
    · rintro ⟨rfl, ⟨hshort, hlimit⟩, hway⟩
      refine ⟨reach start names, ih.2 ⟨rfl, hshort, fun front hfront => ?_⟩, ?_⟩
      · exact hway front (prefix_iff_dropLast.2 (Or.inr hfront))
      · exact advance_eq_ok_iff.2 ⟨hway names List.prefix_rfl, by simpa using hlimit, rfl⟩

/-- What keeps names from being followed. -/
inductive Blocked (tree : Tree) (start : Place) (names : List String) : Trouble → Prop where
  /-- Nothing stands somewhere on the way. -/
  | missing {front : List String} (hfront : front <+: names.dropLast)
      (hat : tree.at? (reach start front) = none) : Blocked tree start names .missing
  /-- A file stands somewhere on the way. -/
  | notDirectory {front : List String} {content : Octets} (hfront : front <+: names.dropLast)
      (hat : tree.at? (reach start front) = some (.file content)) :
      Blocked tree start names .notDirectory
  /-- A name is too long. -/
  | nameTooLong {name : String} (hname : name ∈ names) (hlimit : nameLimit < name.utf8ByteSize) :
      Blocked tree start names .nameTooLong

theorem Blocked.concat (h : Blocked tree start names trouble) (name : String) :
    Blocked tree start (names ++ [name]) trouble := by
  have hlonger : ∀ {front : List String}, front <+: names.dropLast →
      front <+: (names ++ [name]).dropLast := by
    intro front hfront
    rw [List.dropLast_concat]
    exact prefix_iff_dropLast.2 (Or.inr hfront)
  cases h with
  | missing hfront hat => exact .missing (hlonger hfront) hat
  | notDirectory hfront hat => exact .notDirectory (hlonger hfront) hat
  | nameTooLong hname hlimit => exact .nameTooLong (List.mem_append_left _ hname) hlimit

/-- A name that does not lead on from the place of the names before it is blocked. -/
theorem blocked_of_advance (h : tree.advance (reach start names) name = .error trouble) :
    Blocked tree start (names ++ [name]) trouble := by
  have hlast : names <+: (names ++ [name]).dropLast := prefix_dropLast_concat names name
  rw [advance] at h
  cases hat : tree.at? (reach start names) with
  | none =>
    rw [hat] at h
    cases h
    exact .missing hlast hat
  | some found =>
    rw [hat] at h
    cases found with
    | file content =>
      cases h
      exact .notDirectory hlast hat
    | directory =>
      dsimp only at h
      rw [enter_eq] at h
      split at h
      · next hlimit =>
        cases h
        exact .nameTooLong (List.mem_append_right _ (List.mem_singleton_self name)) hlimit
      · cases h

/-- Names that cannot be followed are blocked. -/
theorem blocked_of_follow (hstart : tree.at? start = some .directory)
    (h : tree.follow start names = .error trouble) : Blocked tree start names trouble := by
  induction names using List.reverseRecOn generalizing trouble with
  | nil => cases h
  | append_singleton names name ih =>
    rw [follow_append_singleton, except_bind_eq_error] at h
    rcases h with hbefore | ⟨mid, hmid, hlast⟩
    · exact (ih hbefore).concat name
    · obtain ⟨rfl, -, -⟩ := (follow_eq_ok_iff hstart).1 hmid
      exact blocked_of_advance hlast

/-! ## Locating a path -/

/-- Neither the text of a path nor a name on it is too long. -/
structure Short (path : Path) : Prop where
  text : path.text.utf8ByteSize < textLimit
  names : ∀ name ∈ path.names, name.utf8ByteSize ≤ nameLimit

theorem Short.above (h : Short path) (habove : parent.IsAbove path) : Short parent where
  text := Nat.lt_of_le_of_lt habove.utf8ByteSize_le h.text
  names name hname := h.names name (List.dropLast_subset _ (habove.2.subset hname))

theorem placeOf_of_isAbove (h : parent.IsAbove path) :
    placeOf parent = reach (startOf path) parent.names := by
  rw [placeOf, startOf, startOf, h.1]

/-- A path leads to its place just if it is not too long and directories stand all the way. -/
theorem locate_eq_ok_iff (hspelled : path.Spelled) (hclean : path.Clean) :
    tree.locate path.text = .ok place ↔ place = placeOf path ∧ Short path ∧
      ∀ parent : Path, parent.IsAbove path → tree.at? (placeOf parent) = some .directory := by
  have hway : (∀ parent : Path, parent.IsAbove path → tree.at? (placeOf parent) = some .directory) ↔
      ∀ front, front <+: path.names.dropLast →
        tree.at? (reach (startOf path) front) = some .directory := by
    constructor
    · intro h front hfront
      have habove : Path.IsAbove ⟨path.root, front⟩ path := ⟨rfl, hfront⟩
      rw [← placeOf_of_isAbove habove]
      exact h _ habove
    · intro h parent habove
      rw [placeOf_of_isAbove habove]
      exact h parent.names habove.2
  rw [hway]
  constructor
  · intro h
    obtain ⟨-, -, htext⟩ := admits_of_locate h
    rw [locate_text hspelled hclean htext] at h
    obtain ⟨hplace, hnames, hdirectories⟩ :=
      (follow_eq_ok_iff (at?_startOf tree path)).1 (except_mapError_eq_ok.1 h)
    exact ⟨hplace, ⟨htext, hnames⟩, hdirectories⟩
  · rintro ⟨rfl, ⟨htext, hnames⟩, hdirectories⟩
    rw [locate_text hspelled hclean htext, except_mapError_eq_ok]
    exact (follow_eq_ok_iff (at?_startOf tree path)).2 ⟨rfl, hnames, hdirectories⟩

/-- A path that is not too long but leads nowhere is one on whose way nothing stands, or a file. -/
theorem locate_eq_error_of_short (hspelled : path.Spelled) (hclean : path.Clean) (hshort : Short path)
    {fault : Fault} (h : tree.locate path.text = .error fault) :
    fault = .file ⟨.missing, path.text⟩ ∨ fault = .file ⟨.notDirectory, path.text⟩ ∧
      ∃ parent : Path, parent.IsAbove path ∧
        ∃ content, tree.at? (placeOf parent) = some (.file content) := by
  rw [locate_text hspelled hclean hshort.text] at h
  cases hfollow : tree.follow (startOf path) path.names with
  | ok place => rw [hfollow] at h; cases h
  | error trouble =>
    rw [hfollow] at h
    cases h
    cases blocked_of_follow (at?_startOf tree path) hfollow with
    | missing hfront hat => exact Or.inl rfl
    | @notDirectory front content hfront hat =>
      have habove : Path.IsAbove ⟨path.root, front⟩ path := ⟨rfl, hfront⟩
      rw [← placeOf_of_isAbove habove] at hat
      exact Or.inr ⟨rfl, _, habove, content, hat⟩
    | nameTooLong hname hlimit => exact absurd (hshort.names _ hname) (Nat.not_le_of_lt hlimit)

end Rollout.File.Tree
