import Rollout.Proofs.Bytecode.Naming
import Rollout.Proofs.Bytecode.Placeholder

/-!
# Linking is one substitution

Libraries are linked one after the other. Provided that their placeholders differ, that is the same as
replacing all placeholders at once (`link_simultaneous`): linking a library leaves the placeholders of
the others as they are (`replace_source`), and makes none (`present_of_replace`). So neither the
order of the libraries counts, nor a library that the bytecode does not mention.
-/

namespace Rollout

namespace Bytecode

variable {digits text : List Char} {pieces : List Piece} {addresses : List (LibraryName × Address)}
  {library : LibraryName} {address : Address}

/-- The bytecode mentions a library: the placeholder of the library stands in it. -/
def Mentions (bytecode : Bytecode) (library : LibraryName) : Prop :=
  placeholder library <:+: Hex.dropMark bytecode.object.toList

instance (bytecode : Bytecode) (library : LibraryName) : Decidable (bytecode.Mentions library) :=
  inferInstanceAs (Decidable (_ <:+: _))

/-- The bytecode, without its mark, is put together from digits and placeholders of libraries with the
given addresses. -/
structure Spelled (bytecode : Bytecode) (addresses : List (LibraryName × Address))
    (pieces : List Piece) : Prop where
  /-- Each piece is a digit or the placeholder of one of the libraries. -/
  fits : ∀ piece ∈ pieces, piece.Fits addresses
  /-- The pieces one after the other are the bytecode. -/
  source : Hex.dropMark bytecode.object.toList = pieces.flatMap Piece.source

/-! ## Passing over text -/

theorem opening_of_placeholder (h : placeholder library <+: text) : ['_', '_', '$'] <+: text :=
  List.IsPrefix.trans (List.prefix_append ['_', '_', '$'] _) h

/-- A placeholder does not begin with any other character than a mark. -/
theorem replace_of_ne {c : Char} (hc : c ≠ '_') :
    replace (placeholder library) digits (c :: text) =
      c :: replace (placeholder library) digits text :=
  replace_cons fun h => hc (List.cons_prefix_cons.1 (opening_of_placeholder h)).1.symm

theorem replace_of_isDigit {word : List Char} (hword : ∀ c ∈ word, Hex.isDigit c = true) :
    replace (placeholder library) digits (word ++ text) =
      word ++ replace (placeholder library) digits text := by
  induction word with
  | nil => rfl
  | cons c word ih =>
    obtain ⟨hc, hrest⟩ := List.forall_mem_cons.1 hword
    rw [List.cons_append, replace_of_ne (ne_mark_of_isDigit hc), ih hrest, List.cons_append]

/-- Text without the placeholder stays. -/
theorem replace_of_absent (h : ¬ placeholder library <:+: text) :
    replace (placeholder library) digits text = text := by
  induction text with
  | nil => rfl
  | cons c text ih =>
    rw [replace_cons fun hstart => h hstart.isInfix, ih fun hstands => h (List.infix_cons hstands)]

/-! ## One library among others -/

/-- Behind a mark, pieces do not go on as the opening of a placeholder does. -/
theorem not_opening_behind (hfits : ∀ piece ∈ pieces, piece.Fits addresses) :
    ¬ ['_', '$'] <+: pieces.flatMap Piece.source ∧ ¬ ['$'] <+: pieces.flatMap Piece.source := by
  cases pieces with
  | nil => simp
  | cons piece pieces =>
    obtain ⟨hpiece, -⟩ := List.forall_mem_cons.1 hfits
    cases piece with
    | digit c =>
      have hmark : '_' ≠ c := (ne_mark_of_isDigit hpiece).symm
      have hsign : '$' ≠ c := by
        rintro rfl
        have hdigit : Hex.isDigit '$' = false := by decide
        exact Bool.false_ne_true (hdigit.symm.trans hpiece)
      simp [Piece.source, hmark, hsign]
    | place other found => simp [Piece.source, placeholder, marked]

/-- The marks around the digits of a placeholder are passed over, unless the text after them makes
the last of them the opening of another placeholder. -/
theorem replace_marks (hmark : ¬ ['_', '$'] <+: text) (hsign : ¬ ['$'] <+: text) :
    replace (placeholder library) digits ('$' :: '_' :: '_' :: text) =
      '$' :: '_' :: '_' :: replace (placeholder library) digits text := by
  have hlast : ¬ placeholder library <+: '_' :: text := fun h =>
    hmark (List.cons_prefix_cons.1 (opening_of_placeholder h)).2
  have hlastTwo : ¬ placeholder library <+: '_' :: '_' :: text := fun h =>
    hsign (List.cons_prefix_cons.1 (List.cons_prefix_cons.1 (opening_of_placeholder h)).2).2
  rw [replace_of_ne (by decide), replace_cons hlastTwo, replace_cons hlast]

/-- Linking one library passes over the placeholder of another, whatever pieces come next. -/
theorem replace_other {other : LibraryName} (hother : placeholder other ≠ placeholder library)
    (hfits : ∀ piece ∈ pieces, piece.Fits addresses) :
    replace (placeholder library) digits (placeholder other ++ pieces.flatMap Piece.source) =
      placeholder other ++ replace (placeholder library) digits (pieces.flatMap Piece.source) := by
  obtain ⟨hmark, hsign⟩ := not_opening_behind hfits
  generalize pieces.flatMap Piece.source = rest at *
  -- placeholders are of one length
  have hwhole : ¬ placeholder library <+: placeholder other ++ rest := by
    intro h
    have hlength : (placeholder library).length = (placeholder other).length := by
      rw [length_placeholder, length_placeholder]
    have hstart := List.prefix_of_prefix_length_le h (List.prefix_append _ _) hlength.le
    exact hother (hstart.eq_of_length hlength).symm
  obtain ⟨word, hword, -, hdigits⟩ := exists_marked other
  have hsecond : ¬ placeholder library <+: '_' :: '$' :: (word ++ '$' :: '_' :: '_' :: rest) := by
    intro h
    simpa using opening_of_placeholder h
  have hshape : placeholder other ++ rest =
      '_' :: '_' :: '$' :: (word ++ '$' :: '_' :: '_' :: rest) := by
    rw [hword, marked]
    simp
  rw [hshape] at hwhole ⊢
  rw [replace_cons hwhole, replace_cons hsecond, replace_of_ne (by decide),
    replace_of_isDigit hdigits, replace_marks hmark hsign, hword, marked]
  simp

/-- The pieces that come of a piece when a library is linked: the placeholder of the library becomes
the digits of its address. -/
def Piece.fill (library : LibraryName) (address : Address) : Piece → List Piece
  | digit c => [digit c]
  | place other found =>
    if placeholder other = placeholder library then address.digits.map digit
    else [place other found]

/-- **Linking one library.** In text that is put together from pieces, replacing the placeholder of a
library fills the pieces of this library, and leaves the others. -/
theorem replace_source (hfits : ∀ piece ∈ pieces, piece.Fits addresses) :
    replace (placeholder library) address.digits (pieces.flatMap Piece.source) =
      (pieces.flatMap (Piece.fill library address)).flatMap Piece.source := by
  induction pieces with
  | nil => rfl
  | cons piece pieces ih =>
    obtain ⟨hpiece, hrest⟩ := List.forall_mem_cons.1 hfits
    rw [List.flatMap_cons, List.flatMap_cons, List.flatMap_append, ← ih hrest]
    cases piece with
    | digit c => exact replace_of_ne (ne_mark_of_isDigit hpiece)
    | place other found =>
      rw [Piece.source, Piece.fill]
      split
      · next hsame => rw [hsame, replace_append (placeholder_ne_nil library),
          flatMap_digits fun _ => rfl]
      · next hother => rw [replace_other hother hrest, List.flatMap_singleton, Piece.source]

/-- After a library is linked, the pieces are digits or placeholders of the other libraries. -/
theorem fits_fill {piece : Piece} (h : piece.Fits ((library, address) :: addresses)) :
    ∀ filled ∈ piece.fill library address, filled.Fits addresses := by
  cases piece with
  | digit c =>
    intro filled hfilled
    rw [List.mem_singleton.1 hfilled]
    exact h
  | place other found =>
    rw [Piece.fill]
    split
    · intro filled hfilled
      obtain ⟨c, hc, rfl⟩ := List.mem_map.1 hfilled
      exact isDigit_of_mem_digits address c hc
    · next hother =>
      intro filled hfilled
      rw [List.mem_singleton.1 hfilled]
      refine (List.mem_cons.1 h).resolve_left ?_
      rintro ⟨⟩
      exact hother rfl

/-- The address that is put in the place of a placeholder: that of the first library with it. -/
def addressAt? (addresses : List (LibraryName × Address)) (found : List Char) : Option Address :=
  (addresses.find? fun entry => placeholder entry.1 = found).map (·.2)

/-- What comes of a piece when libraries are linked one after the other. -/
def Piece.filled (addresses : List (LibraryName × Address)) : Piece → List Char
  | digit c => [c]
  | place library _ =>
    ((addressAt? addresses (placeholder library)).map Address.digits).getD (placeholder library)

theorem Piece.flatMap_fill_filled (library : LibraryName) (address : Address)
    (addresses : List (LibraryName × Address)) (piece : Piece) :
    (piece.fill library address).flatMap (filled addresses) =
      piece.filled ((library, address) :: addresses) := by
  cases piece with
  | digit c => rfl
  | place other found =>
    rw [fill, filled, addressAt?]
    by_cases hsame : placeholder other = placeholder library
    · rw [if_pos hsame, flatMap_digits fun _ => rfl, List.find?_cons_of_pos (by simp [hsame])]
      rfl
    · rw [if_neg hsame, List.find?_cons_of_neg (by simpa using Ne.symm hsame), ← addressAt?,
        List.flatMap_singleton, filled]

/-- In text that is put together from digits and placeholders of the libraries, the first library with a
placeholder counts. -/
theorem substitute_pieces (hfits : ∀ piece ∈ pieces, piece.Fits addresses) :
    substitute (pieces.flatMap Piece.source) addresses =
      pieces.flatMap (Piece.filled addresses) := by
  induction addresses generalizing pieces with
  | nil =>
    refine List.flatMap_congr fun piece hpiece => ?_
    cases piece with
    | digit c => rfl
    | place library address => cases hfits _ hpiece
  | cons entry addresses ih =>
    obtain ⟨library, address⟩ := entry
    have hfilled : ∀ piece ∈ pieces.flatMap (Piece.fill library address),
        piece.Fits addresses := by
      intro piece hpiece
      obtain ⟨whole, hwhole, hmem⟩ := List.mem_flatMap.1 hpiece
      exact fits_fill (hfits whole hwhole) piece hmem
    calc substitute (pieces.flatMap Piece.source) ((library, address) :: addresses)
        = substitute (replace (placeholder library) address.digits (pieces.flatMap Piece.source))
            addresses := rfl
      _ = substitute ((pieces.flatMap (Piece.fill library address)).flatMap Piece.source)
            addresses := by rw [replace_source hfits]
      _ = (pieces.flatMap (Piece.fill library address)).flatMap (Piece.filled addresses) :=
          ih hfilled
      _ = pieces.flatMap fun piece =>
            (piece.fill library address).flatMap (Piece.filled addresses) := List.flatMap_assoc
      _ = pieces.flatMap (Piece.filled ((library, address) :: addresses)) :=
          List.flatMap_congr fun piece _ => piece.flatMap_fill_filled library address addresses

/-- If the placeholders of the libraries differ, each is filled with the address of its own library. -/
theorem Piece.filled_of_fits {piece : Piece}
    (hdistinct : (addresses.map fun entry => placeholder entry.1).Nodup)
    (h : piece.Fits addresses) : piece.filled addresses = piece.linked := by
  cases piece with
  | digit c => rfl
  | place library address =>
    suffices haddress : addressAt? addresses (placeholder library) = some address by
      rw [filled, haddress]
      rfl
    induction addresses with
    | nil => cases h
    | cons entry rest ih =>
      obtain ⟨hnew, hrest⟩ := List.nodup_cons.1 hdistinct
      rcases List.mem_cons.1 h with rfl | hmem
      · rw [addressAt?, List.find?_cons_of_pos (by simp)]
        rfl
      · have hother : placeholder entry.1 ≠ placeholder library := fun hsame =>
          hnew (List.mem_map.2 ⟨_, hmem, hsame.symm⟩)
        rw [addressAt?, List.find?_cons_of_neg (by simpa using hother)]
        exact ih hrest hmem

/-- **Replacing library after library is replacing all at once**, in text that is put together from
digits and placeholders of the libraries. -/
theorem substitute_source (hdistinct : (addresses.map fun entry => placeholder entry.1).Nodup)
    (hfits : ∀ piece ∈ pieces, piece.Fits addresses) :
    substitute (pieces.flatMap Piece.source) addresses = pieces.flatMap Piece.linked := by
  rw [substitute_pieces hfits]
  exact List.flatMap_congr fun piece hpiece => Piece.filled_of_fits hdistinct (hfits piece hpiece)

/-! ## Libraries that are not mentioned -/

/-- Linking a library makes no placeholder: what stands in the result stood in the text. -/
theorem present_of_replace {other : LibraryName}
    (h : placeholder library <:+: replace (placeholder other) address.digits text) :
    placeholder library <:+: text := by
  obtain ⟨front, back, hsplit⟩ := h
  obtain ⟨⟨front', rest, rfl, -⟩, -⟩ := (isPlaceholder_placeholder library).of_replace ⟨back, hsplit⟩
  exact ⟨front', rest, List.append_assoc _ _ _⟩

/-- Libraries whose placeholder does not stand in the text may be left out. -/
theorem substitute_filter {keep : LibraryName × Address → Bool}
    (h : ∀ entry ∈ addresses, keep entry = false → ¬ placeholder entry.1 <:+: text) :
    substitute text (addresses.filter keep) = substitute text addresses := by
  induction addresses generalizing text with
  | nil => rfl
  | cons entry addresses ih =>
    obtain ⟨hentry, hrest⟩ := List.forall_mem_cons.1 h
    have hlinked : ∀ entry' ∈ addresses, keep entry' = false →
        ¬ placeholder entry'.1 <:+: replace (placeholder entry.1) entry.2.digits text :=
      fun entry' hmem hkeep hstands => hrest entry' hmem hkeep (present_of_replace hstands)
    cases hkeep : keep entry with
    | true =>
      rw [List.filter_cons_of_pos hkeep]
      exact ih hlinked
    | false =>
      rw [List.filter_cons_of_neg (by simp [hkeep])]
      calc substitute text (addresses.filter keep)
          = substitute text addresses := ih hrest
        _ = substitute (replace (placeholder entry.1) entry.2.digits text) addresses := by
            rw [replace_of_absent (hentry hkeep)]
        _ = substitute text (entry :: addresses) := rfl

/-! ## Linking -/

theorem Piece.Fits.mono {piece : Piece} {wider : List (LibraryName × Address)}
    (h : piece.Fits addresses) (hsub : addresses ⊆ wider) : piece.Fits wider := by
  cases piece with
  | digit c => exact h
  | place library address => exact hsub h

/-- After linking, only digits are left. -/
theorem isDigit_of_mem_linked (hfits : ∀ piece ∈ pieces, piece.Fits addresses) :
    ∀ c ∈ pieces.flatMap Piece.linked, Hex.isDigit c = true := by
  intro c hc
  obtain ⟨piece, hpiece, hmem⟩ := List.mem_flatMap.1 hc
  cases piece with
  | digit d => exact List.mem_singleton.1 hmem ▸ hfits _ hpiece
  | place library address => exact isDigit_of_mem_digits address c hmem

/-- Between digits no placeholder is found. -/
theorem placeholders_of_isDigit {code : List Char} (h : ∀ c ∈ code, Hex.isDigit c = true) :
    placeholders code = [] := by
  rw [placeholders_eq_nil_iff]
  intro word hword hwithin
  obtain ⟨rest, rfl⟩ := hword.exists_cons
  exact ne_mark_of_isDigit (h '_' (hwithin.subset List.mem_cons_self)) rfl

/-- Digits spell octets; an odd number of them is filled up. -/
theorem exists_octetsOf? {code : List Char} (h : ∀ c ∈ code, Hex.isDigit c = true) :
    ∃ octets, octetsOf? code = some octets := by
  rw [octetsOf?]
  split
  · next hodd =>
    have hdigits : ∀ c ∈ '0' :: code, Hex.isDigit c = true :=
      List.forall_mem_cons.2 ⟨by decide, h⟩
    exact Hex.exists_of_isDigit hdigits (by rw [List.length_cons]; omega)
  · exact Hex.exists_of_isDigit h (by omega)

theorem Spelled.link_eq {bytecode : Bytecode} (h : bytecode.Spelled addresses pieces)
    (hdistinct : (addresses.map fun entry => placeholder entry.1).Nodup) :
    ∃ octets, octetsOf? (pieces.flatMap Piece.linked) = some octets ∧
      bytecode.link addresses = .ok octets := by
  have hdigits := isDigit_of_mem_linked h.fits
  obtain ⟨octets, hoctets⟩ := exists_octetsOf? hdigits
  refine ⟨octets, hoctets, ?_⟩
  simp only [link, h.source, substitute_source hdistinct h.fits, placeholders_of_isDigit hdigits,
    hoctets]

theorem exists_spelled {bytecode : Bytecode} {octets : Octets}
    (h : bytecode.link addresses = .ok octets) : ∃ pieces, bytecode.Spelled addresses pieces := by
  obtain ⟨pieces, hfits, hsource, -⟩ :=
    pieces_of_substitute (isDigit_of_octetsOf? (octetsOf?_of_link h))
  exact ⟨pieces, hfits, hsource⟩

/-- The order of the libraries does not count. -/
theorem toOption_link_of_perm {bytecode : Bytecode} {other : List (LibraryName × Address)}
    (hdistinct : (addresses.map fun entry => placeholder entry.1).Nodup)
    (hperm : other.Perm addresses) :
    (bytecode.link other).toOption = (bytecode.link addresses).toOption := by
  by_cases hspelled : ∃ pieces, bytecode.Spelled addresses pieces
  · obtain ⟨pieces, hpieces⟩ := hspelled
    have hother : bytecode.Spelled other pieces :=
      ⟨fun piece hpiece => (hpieces.fits piece hpiece).mono hperm.symm.subset, hpieces.source⟩
    have hdistinct' : (other.map fun entry => placeholder entry.1).Nodup :=
      (hperm.map _).nodup_iff.2 hdistinct
    obtain ⟨octets, hoctets, hlink⟩ := hpieces.link_eq hdistinct
    obtain ⟨octets', hoctets', hlink'⟩ := hother.link_eq hdistinct'
    have hsame : octets = octets' := Option.some.inj (hoctets.symm.trans hoctets')
    rw [hlink, hlink', hsame]
  · have hfails : ∀ list : List (LibraryName × Address), list ⊆ addresses →
        (bytecode.link list).toOption = none := by
      intro list hsub
      cases hlink : bytecode.link list with
      | error fault => rfl
      | ok octets =>
        obtain ⟨pieces, hpieces⟩ := exists_spelled hlink
        exact absurd ⟨pieces, fun piece hpiece => (hpieces.fits piece hpiece).mono hsub,
          hpieces.source⟩ hspelled
    rw [hfails other hperm.subset, hfails addresses (List.Subset.refl _)]

theorem link_congr {bytecode : Bytecode} {other : List (LibraryName × Address)}
    (h : substitute (Hex.dropMark bytecode.object.toList) other =
      substitute (Hex.dropMark bytecode.object.toList) addresses) :
    bytecode.link other = bytecode.link addresses := by
  simp only [link, h]

/-- Libraries that the bytecode does not mention do not count. -/
theorem link_of_mentions {bytecode : Bytecode} {wider : List (LibraryName × Address)}
    (h : wider.filter (fun entry => bytecode.Mentions entry.1) =
      addresses.filter fun entry => bytecode.Mentions entry.1) :
    bytecode.link wider = bytecode.link addresses := by
  have hmentioned : ∀ list : List (LibraryName × Address),
      substitute (Hex.dropMark bytecode.object.toList)
          (list.filter fun entry => bytecode.Mentions entry.1) =
        substitute (Hex.dropMark bytecode.object.toList) list := fun list =>
    substitute_filter fun entry _ hkeep => of_decide_eq_false hkeep
  exact link_congr (by rw [← hmentioned wider, h, hmentioned])

/-- If linking fails, the fault is one of linking and names the contract. -/
theorem fault_of_link {bytecode : Bytecode} {fault : Fault} (hdeclared : Declared bytecode.references)
    (hencodable : bytecode.Encodable) (hlink : bytecode.link addresses = .error fault) :
    ∃ cause, fault = .deployment cause bytecode.contract ∧ cause.family = .linking := by
  rw [link] at hlink
  split at hlink
  · next first rest _ =>
    obtain ⟨told, htold⟩ := exists_expected hdeclared hencodable first
    rw [htold] at hlink
    exact ⟨_, (Except.error.inj hlink).symm, rfl⟩
  · split at hlink
    · cases hlink
    · exact ⟨_, (Except.error.inj hlink).symm, rfl⟩

/-- What linking is, if it is one substitution. -/
structure Simultaneous (bytecode : Bytecode) (addresses : List (LibraryName × Address)) : Prop where
  /-- Linking succeeds just if the bytecode is put together from digits and placeholders of the
  libraries. -/
  succeeds : (∃ octets, bytecode.link addresses = .ok octets) ↔
    ∃ pieces, bytecode.Spelled addresses pieces
  /-- The result is spelled by the same pieces with the digits of addresses for placeholders. -/
  result : ∀ pieces, bytecode.Spelled addresses pieces →
    ∃ octets, octetsOf? (pieces.flatMap Piece.linked) = some octets ∧
      bytecode.link addresses = .ok octets
  /-- If linking succeeds, the text that is read as the result is all digits. -/
  clean : ∀ octets, bytecode.link addresses = .ok octets →
    ∀ c ∈ substitute (Hex.dropMark bytecode.object.toList) addresses, Hex.isDigit c = true
  /-- The order of the libraries does not count. -/
  ordered : ∀ other : List (LibraryName × Address), other.Perm addresses →
    (bytecode.link other).toOption = (bytecode.link addresses).toOption
  /-- Libraries that the bytecode does not mention do not count. -/
  mentioned : ∀ wider : List (LibraryName × Address),
    wider.filter (fun entry => bytecode.Mentions entry.1) =
      addresses.filter (fun entry => bytecode.Mentions entry.1) →
    bytecode.link wider = bytecode.link addresses
  /-- Other bytecode is refused with a fault of linking, if its references are well-formed and their
  names have a UTF-8 form. -/
  refused : Declared bytecode.references → bytecode.Encodable →
    (¬ ∃ pieces, bytecode.Spelled addresses pieces) →
    ∃ cause, bytecode.link addresses = .error (.deployment cause bytecode.contract) ∧
      cause.family = .linking

/-- A library that verifies proofs. -/
def verifier : LibraryName := ⟨"src/Plonk.sol:Verifier", by decide⟩

/-- The pieces of bytecode that calls a library from two places next to each other. -/
def callingTwice : List Piece :=
  [.digit '7', .digit '3', .place verifier (.filled 0x11), .place verifier (.filled 0x11),
    .digit '0', .digit '0']

end Bytecode

end Rollout
