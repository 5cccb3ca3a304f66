import Rollout.Bytecode
import Rollout.Proofs.Address

/-!
# Linking is substitution

Libraries are linked one after the other, each by replacing its placeholder wherever it occurs. If
linking succeeds, the bytecode is put together from digits and placeholders (`Piece`), and the result
is what comes of putting the addresses in the place of all placeholders at once (`link_eq_ok`): no
replacement makes a placeholder, or breaks one.
-/

namespace Rollout

/-! ## Digits -/

theorem Hex.isDigit_of_decode? {text : List Char} {octets : Octets}
    (h : Hex.decode? text = some octets) : ∀ c ∈ text, Hex.isDigit c = true := by
  induction text using Hex.decode?.induct generalizing octets with
  | case1 => simp
  | case2 c => cases h
  | case3 a b rest ih =>
    rw [Hex.decode?] at h
    cases hhigh : Hex.digit? a with
    | none => rw [hhigh] at h; cases h
    | some high =>
      cases hlow : Hex.digit? b with
      | none => rw [hhigh, hlow] at h; cases h
      | some low =>
        cases hrest : Hex.decode? rest with
        | none => rw [hhigh, hlow, hrest] at h; cases h
        | some octets =>
          intro c hc
          rcases List.mem_cons.1 hc with rfl | hc
          · rw [Hex.isDigit, hhigh]
            rfl
          · rcases List.mem_cons.1 hc with rfl | hc
            · rw [Hex.isDigit, hlow]
              rfl
            · exact ih hrest c hc

namespace Bytecode

/-- A piece of bytecode: a digit, or the placeholder of a library with the address of the library. -/
inductive Piece where
  /-- A digit. -/
  | digit (c : Char)
  /-- The placeholder of a library. -/
  | place (library : LibraryName) (address : Address)

namespace Piece

/-- A piece as it stands in the bytecode. -/
def source : Piece → List Char
  | digit c => [c]
  | place library _ => placeholder library

/-- A piece after linking. -/
def linked : Piece → List Char
  | digit c => [c]
  | place _ address => address.digits

/-- A piece is a digit, or the placeholder of a library among those with the given addresses. -/
def Fits (addresses : List (LibraryName × Address)) : Piece → Prop
  | digit c => Hex.isDigit c = true
  | place library address => (library, address) ∈ addresses

end Piece

variable {pattern digits text : List Char} {pieces : List Piece}
  {addresses : List (LibraryName × Address)} {library : LibraryName} {address : Address}

/-! ## Replacing -/

theorem replaceFrom_append (pattern digits passed text : List Char) :
    replaceFrom pattern digits passed.length (passed ++ text) = replace pattern digits text := by
  induction passed with
  | nil => rfl
  | cons c rest ih => exact ih

theorem replace_append (h : pattern ≠ []) (digits text : List Char) :
    replace pattern digits (pattern ++ text) = digits ++ replace pattern digits text := by
  cases pattern with
  | nil => exact absurd rfl h
  | cons c rest =>
    have hextends : (c :: rest).isPrefixOf (c :: (rest ++ text)) = true :=
      List.isPrefixOf_iff_prefix.2 (List.prefix_append (c :: rest) text)
    rw [replace, List.cons_append, replaceFrom, if_pos hextends]
    exact congrArg (digits ++ ·) (replaceFrom_append (c :: rest) digits rest text)

/-- Where the pattern does not stand, a character stays. -/
theorem replace_cons {c : Char} (h : ¬ pattern <+: c :: text) :
    replace pattern digits (c :: text) = c :: replace pattern digits text := by
  rw [replace, replaceFrom, if_neg fun hextends => h (List.isPrefixOf_iff_prefix.1 hextends)]
  rfl

/-! ## Placeholders -/

theorem isDigit_mark : Hex.isDigit '_' = false := by decide

theorem mark_of_tail {c : Char} {word : List Char}
    (h : ∀ e, (c :: word).getLast? = some e → e = '_') : ∀ e, word.getLast? = some e → e = '_' := by
  intro e he
  refine h e ?_
  cases word with
  | nil => cases he
  | cons f word => exact he

/-- What stands in the result of a replacement by digits stood in the text, if it ends with a mark
and is no longer than the digits. -/
theorem split_of_replace {word rest : List Char} (hdigits : ∀ c ∈ digits, Hex.isDigit c = true)
    (hlength : word.length ≤ digits.length) (hmark : ∀ c, word.getLast? = some c → c = '_')
    (hpattern : pattern ≠ []) (h : replace pattern digits text = word ++ rest) :
    ∃ after, text = word ++ after ∧ replace pattern digits after = rest := by
  induction word generalizing text with
  | nil => exact ⟨text, rfl, h⟩
  | cons c word ih =>
    by_cases hextends : pattern <+: text
    · -- digits would reach over the mark
      obtain ⟨after, rfl⟩ := hextends
      rw [replace_append hpattern] at h
      have hword : c :: word <+: digits :=
        List.prefix_of_prefix_length_le ⟨rest, rfl⟩ ⟨_, h⟩ hlength
      have hlast := hmark _ (List.getLast?_eq_some_getLast (List.cons_ne_nil c word))
      have hmem := hdigits _ (hword.subset (List.getLast_mem (List.cons_ne_nil c word)))
      rw [hlast, isDigit_mark] at hmem
      cases hmem
    · cases text with
      | nil => cases h
      | cons d text =>
        rw [replace_cons hextends] at h
        obtain ⟨rfl, hrest⟩ := List.cons.inj h
        obtain ⟨after, rfl, hafter⟩ := ih (Nat.le_of_succ_le hlength) (mark_of_tail hmark) hrest
        exact ⟨after, rfl, hafter⟩

/-- Forty digits at the head of pieces are pieces themselves. -/
theorem split_of_digits {rest : List Char} (hdigits : ∀ c ∈ digits, Hex.isDigit c = true)
    (h : pieces.flatMap Piece.source = digits ++ rest) :
    ∃ after, pieces = digits.map Piece.digit ++ after ∧ after.flatMap Piece.source = rest := by
  induction digits generalizing pieces with
  | nil => exact ⟨pieces, rfl, h⟩
  | cons c digits ih =>
    cases pieces with
    | nil => cases h
    | cons piece pieces =>
      cases piece with
      | digit d =>
        obtain ⟨rfl, hrest⟩ := List.cons.inj h
        obtain ⟨after, rfl, hafter⟩ := ih (fun e he => hdigits e (List.mem_cons_of_mem _ he)) hrest
        exact ⟨after, rfl, hafter⟩
      | place library address =>
        -- a placeholder begins with a mark
        obtain ⟨rfl, -⟩ := List.cons.inj h
        have hmem := hdigits '_' List.mem_cons_self
        rw [isDigit_mark] at hmem
        cases hmem

theorem length_placeholder (library : LibraryName) : (placeholder library).length = 40 := by
  have hlength := Hex.length_encode (Keccak.keccak256 (Utf8.encode library.text))
  rw [Keccak.length_keccak256] at hlength
  simp [placeholder, marked, List.length_take, hlength, placeholderDigits]

theorem getLast?_marked (digits : List Char) : (marked digits).getLast? = some '_' := by
  have hlast : marked digits = '_' :: '_' :: '$' :: (digits ++ ['$', '_']) ++ ['_'] := by
    simp [marked]
  rw [hlast, List.getLast?_concat]

theorem getLast?_placeholder (library : LibraryName) : (placeholder library).getLast? = some '_' :=
  getLast?_marked _

theorem placeholder_ne_nil (library : LibraryName) : placeholder library ≠ [] := List.cons_ne_nil _ _

theorem isDigit_of_mem_digits (address : Address) : ∀ c ∈ address.digits, Hex.isDigit c = true := by
  intro c hc
  obtain ⟨n, rfl⟩ := Hex.mem_encode hc
  exact Hex.isDigit_lowerDigit n

/-- Digits are themselves, as pieces are read in any way that leaves a digit as it is. -/
theorem flatMap_digits {reading : Piece → List Char} (h : ∀ c, reading (.digit c) = [c])
    (digits : List Char) : (digits.map Piece.digit).flatMap reading = digits := by
  induction digits with
  | nil => rfl
  | cons c rest ih => rw [List.map_cons, List.flatMap_cons, h, ih, List.singleton_append]

theorem Piece.Fits.cons {piece : Piece} (h : piece.Fits addresses) (entry : LibraryName × Address) :
    piece.Fits (entry :: addresses) := by
  cases piece with
  | digit c => exact h
  | place library address => exact List.mem_cons_of_mem entry h

/-- **Undoing a replacement.** If a text, once its placeholders of one library are replaced, is put
together from pieces, then so was the text, with the placeholders of that library among the pieces;
and both come to the same when linked. -/
theorem pieces_of_replace (hfits : ∀ piece ∈ pieces, piece.Fits addresses)
    (h : replace (placeholder library) address.digits text = pieces.flatMap Piece.source) :
    ∃ pieces' : List Piece, (∀ piece ∈ pieces', piece.Fits ((library, address) :: addresses)) ∧
      text = pieces'.flatMap Piece.source ∧
      pieces'.flatMap Piece.linked = pieces.flatMap Piece.linked := by
  have hdigits := isDigit_of_mem_digits address
  -- the text is gone through from the left, by a placeholder or by a character at a time
  induction hn : text.length using Nat.strongRecOn generalizing text pieces with | _ n ih
  by_cases hextends : placeholder library <+: text
  · -- the digits that replaced the placeholder become the placeholder again
    obtain ⟨after, rfl⟩ := hextends
    rw [replace_append (placeholder_ne_nil library)] at h
    obtain ⟨rest, rfl, hrest⟩ := split_of_digits hdigits h.symm
    have hshorter : after.length < n := by
      rw [← hn, List.length_append, length_placeholder]
      omega
    obtain ⟨pieces', hfits', rfl, hlinked⟩ := ih after.length hshorter
      (fun piece hpiece => hfits piece (List.mem_append_right _ hpiece)) hrest.symm rfl
    refine ⟨.place library address :: pieces',
      List.forall_mem_cons.2 ⟨List.mem_cons_self, hfits'⟩, rfl, ?_⟩
    rw [List.flatMap_cons, hlinked, List.flatMap_append, flatMap_digits fun _ => rfl]
    rfl
  · cases text with
    | nil =>
      cases pieces with
      | nil => exact ⟨[], by simp, rfl, rfl⟩
      | cons piece pieces => cases piece <;> cases h
    | cons c text =>
      rw [replace_cons hextends] at h
      rw [List.length_cons] at hn
      cases pieces with
      | nil => cases h
      | cons piece pieces =>
        obtain ⟨hpiece, hpieces⟩ := List.forall_mem_cons.1 hfits
        cases piece with
        | digit d =>
          obtain ⟨rfl, hrest⟩ := List.cons.inj h
          obtain ⟨pieces', hfits', rfl, hlinked⟩ := ih _ (by omega) hpieces hrest rfl
          refine ⟨.digit c :: pieces', List.forall_mem_cons.2 ⟨hpiece, hfits'⟩, rfl, ?_⟩
          rw [List.flatMap_cons, hlinked]
          rfl
        | place other found =>
          -- behind its first mark the placeholder stood in the text too
          obtain ⟨word, hword⟩ : ∃ word, placeholder other = '_' :: word := ⟨_, rfl⟩
          have hlength := length_placeholder other
          have hlast := getLast?_placeholder other
          rw [List.flatMap_cons, Piece.source, hword] at h
          obtain ⟨rfl, hrest⟩ := List.cons.inj h
          rw [hword] at hlength hlast
          have hmark := mark_of_tail fun e he => Option.some.inj (he.symm.trans hlast)
          have hshort : word.length ≤ address.digits.length := by
            rw [Address.length_digits, Address.digitCount]
            simp only [List.length_cons] at hlength
            omega
          obtain ⟨after, rfl, hafter⟩ := split_of_replace hdigits hshort hmark
            (placeholder_ne_nil library) hrest
          rw [List.length_append] at hn
          obtain ⟨pieces', hfits', rfl, hlinked⟩ := ih after.length (by omega) hpieces hafter rfl
          refine ⟨.place other found :: pieces',
            List.forall_mem_cons.2 ⟨hpiece.cons _, hfits'⟩, ?_, ?_⟩
          · rw [List.flatMap_cons, Piece.source, hword]
            rfl
          · rw [List.flatMap_cons, hlinked]
            rfl

/-! ## Linking -/

/-- If nothing but digits is left after all replacements, the text is put together from pieces, and
the replacements are one substitution. -/
theorem pieces_of_substitute (h : ∀ c ∈ substitute text addresses, Hex.isDigit c = true) :
    ∃ pieces : List Piece, (∀ piece ∈ pieces, piece.Fits addresses) ∧
      text = pieces.flatMap Piece.source ∧
      substitute text addresses = pieces.flatMap Piece.linked := by
  induction addresses generalizing text with
  | nil =>
    refine ⟨text.map .digit, ?_, (flatMap_digits (fun _ => rfl) text).symm,
      (flatMap_digits (fun _ => rfl) text).symm⟩
    intro piece hpiece
    obtain ⟨c, hc, rfl⟩ := List.mem_map.1 hpiece
    exact h c hc
  | cons entry rest ih =>
    obtain ⟨library, address⟩ := entry
    have hrest : ∀ c ∈ substitute (replace (placeholder library) address.digits text) rest,
        Hex.isDigit c = true := h
    obtain ⟨pieces, hfits, hsource, hlinked⟩ := ih hrest
    obtain ⟨pieces', hfits', htext, hsame⟩ := pieces_of_replace hfits hsource
    exact ⟨pieces', hfits', htext, hlinked.trans hsame.symm⟩

/-- The code that is left when linking succeeds is hexadecimal. -/
theorem octetsOf?_of_link {bytecode : Bytecode} {octets : Octets}
    (h : bytecode.link addresses = .ok octets) :
    octetsOf? (substitute (Hex.dropMark bytecode.object.toList) addresses) = some octets := by
  rw [link] at h
  split at h
  · cases hexpected : bytecode.expected _ with
    | error fault => rw [hexpected] at h; cases h
    | ok library => rw [hexpected] at h; cases h
  · split at h
    · next octets' hoctets => exact Except.ok.inj h ▸ hoctets
    · cases h

theorem isDigit_of_octetsOf? {code : List Char} {octets : Octets}
    (h : octetsOf? code = some octets) : ∀ c ∈ code, Hex.isDigit c = true := by
  rw [octetsOf?] at h
  have hdigits := Hex.isDigit_of_decode? h
  intro c hc
  refine hdigits c ?_
  split
  · exact List.mem_cons_of_mem _ hc
  · exact hc

theorem countP_of_digits {digits : List Char} (h : ∀ c ∈ digits, Hex.isDigit c = true) :
    digits.countP Hex.isDigit = digits.length :=
  List.countP_eq_length.2 h

/-- Between the marks of a placeholder are digits. -/
theorem exists_marked (library : LibraryName) :
    ∃ word, placeholder library = marked word ∧ word.length = placeholderDigits ∧
      ∀ c ∈ word, Hex.isDigit c = true := by
  refine ⟨_, rfl, ?_, fun c hc => ?_⟩
  · rw [List.length_take, Hex.length_encode, Keccak.length_keccak256]
    rfl
  · obtain ⟨n, rfl⟩ := Hex.mem_encode (List.mem_of_mem_take hc)
    exact Hex.isDigit_lowerDigit n

theorem countP_placeholder (library : LibraryName) :
    (placeholder library).countP Hex.isDigit = placeholderDigits := by
  obtain ⟨word, hword, hlength, hdigits⟩ := exists_marked library
  have hmarks : (marked word).countP Hex.isDigit = word.countP Hex.isDigit := by
    rw [marked, List.countP_cons, List.countP_cons, List.countP_cons, List.countP_append]
    rfl
  rw [hword, hmarks, countP_of_digits hdigits, hlength]

/-- Linking keeps the parity of the digits: a placeholder has an even number of digits, and so has an
address. -/
theorem parity_of_pieces (hfits : ∀ piece ∈ pieces, piece.Fits addresses) :
    (pieces.flatMap Piece.linked).length % 2 =
      (pieces.flatMap Piece.source).countP Hex.isDigit % 2 := by
  induction pieces with
  | nil => rfl
  | cons piece rest ih =>
    have hrest := ih fun other hother => hfits other (List.mem_cons_of_mem _ hother)
    have hpiece := hfits piece List.mem_cons_self
    rw [List.flatMap_cons, List.flatMap_cons, List.length_append, List.countP_append]
    have hfirst : piece.linked.length % 2 = piece.source.countP Hex.isDigit % 2 := by
      cases piece with
      | digit c =>
        rw [Piece.source, Piece.linked, countP_of_digits (fun d hd => List.mem_singleton.1 hd ▸ hpiece)]
      | place library address =>
        rw [Piece.source, Piece.linked, countP_placeholder, Address.length_digits]
        rfl
    omega

/-- **Linking is substitution.** If bytecode with an even number of digits is linked, it is put
together from digits and placeholders of the libraries, and the result is spelled by what comes of
putting the digits of the addresses in the place of the placeholders. -/
theorem link_eq_ok {bytecode : Bytecode} {octets : Octets}
    (h : bytecode.link addresses = .ok octets)
    (heven : (Hex.dropMark bytecode.object.toList).countP Hex.isDigit % 2 = 0) :
    ∃ pieces : List Piece, (∀ piece ∈ pieces, piece.Fits addresses) ∧
      Hex.dropMark bytecode.object.toList = pieces.flatMap Piece.source ∧
      Hex.decode? (pieces.flatMap Piece.linked) = some octets := by
  have hoctets := octetsOf?_of_link h
  obtain ⟨pieces, hfits, hsource, hlinked⟩ := pieces_of_substitute (isDigit_of_octetsOf? hoctets)
  refine ⟨pieces, hfits, hsource, ?_⟩
  rw [hsource, ← parity_of_pieces hfits] at heven
  rw [octetsOf?, hlinked, if_neg (by omega)] at hoctets
  exact hoctets

end Bytecode

end Rollout
