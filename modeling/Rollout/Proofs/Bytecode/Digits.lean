import Rollout.Proofs.Bytecode.Simultaneous

/-!
# Linking keeps the digits

Octets are linked digit for digit: if the text is whole octets, the digits of the result are those of
the text with the addresses put in, in lower case (`link_keepsDigits`). Hence the result is half as long
as the text, and an address stands at half the offset of its placeholder. An odd number of digits is no
whole octets; it is not refused but filled up in front, so that the digits of the result are shifted
against the text (`not_always_whole`).
-/

namespace Rollout

namespace Bytecode

variable {pattern digits text front back : List Char} {pieces : List Piece}
  {addresses : List (LibraryName × Address)} {library other : LibraryName} {address : Address}
  {bytecode : Bytecode} {octets : Octets}

/-! ## Lengths -/

/-- A replacement that is as long as the pattern keeps the length of a text. -/
theorem length_replace (hpattern : pattern ≠ []) (hlength : digits.length = pattern.length)
    (text : List Char) : (replace pattern digits text).length = text.length := by
  induction hn : text.length using Nat.strongRecOn generalizing text with | _ n ih
  by_cases hextends : pattern <+: text
  · obtain ⟨after, rfl⟩ := hextends
    have hpos : 0 < pattern.length := List.length_pos_of_ne_nil hpattern
    rw [List.length_append] at hn
    rw [replace_append hpattern, List.length_append, ih after.length (by omega) after rfl, hlength, hn]
  · cases text with
    | nil => exact hn ▸ rfl
    | cons c text =>
      rw [List.length_cons] at hn
      rw [replace_cons hextends, List.length_cons, ih text.length (by omega) text rfl, hn]

/-- Linking keeps the length of a text: a placeholder is as long as the digits of an address. -/
theorem length_substitute (text : List Char) (addresses : List (LibraryName × Address)) :
    (substitute text addresses).length = text.length := by
  induction addresses generalizing text with
  | nil => rfl
  | cons entry addresses ih =>
    have hlength := length_digits_eq entry.2 entry.1
    calc (substitute text (entry :: addresses)).length
        = (substitute (replace (placeholder entry.1) entry.2.digits text) addresses).length := rfl
      _ = (replace (placeholder entry.1) entry.2.digits text).length := ih _
      _ = text.length := length_replace (placeholder_ne_nil entry.1) hlength text

/-! ## Where a placeholder stands -/

/-- No placeholder begins within another one, whatever pieces come next. -/
theorem not_opening_within {tail : List Char} (hfits : ∀ piece ∈ pieces, piece.Fits addresses)
    (hsplit : placeholder other ++ pieces.flatMap Piece.source = front ++ tail) (hfront : front ≠ [])
    (hlength : front.length < 40) : ¬ ['_', '_', '$'] <+: tail := by
  obtain ⟨hmark, hsign⟩ := not_opening_behind hfits
  generalize pieces.flatMap Piece.source = rest at *
  obtain ⟨word, hword, hcount, hdigits⟩ := exists_marked other
  have hshape : placeholder other ++ rest =
      '_' :: '_' :: '$' :: (word ++ '$' :: '_' :: '_' :: rest) := by
    rw [hword, marked]
    simp
  rw [hshape] at hsplit
  intro hopening
  -- the characters before the opening are taken off one by one as far as the digits
  obtain _ | ⟨_, _ | ⟨_, _ | ⟨_, passed⟩⟩⟩ := front
  · exact hfront rfl
  · obtain ⟨-, rfl⟩ := List.cons.inj hsplit
    simp at hopening
  · obtain ⟨-, hsplit⟩ := List.cons.inj hsplit
    obtain ⟨-, rfl⟩ := List.cons.inj hsplit
    simp at hopening
  · obtain ⟨-, hsplit⟩ := List.cons.inj hsplit
    obtain ⟨-, hsplit⟩ := List.cons.inj hsplit
    obtain ⟨-, hsplit⟩ := List.cons.inj hsplit
    rcases List.append_eq_append_iff.1 hsplit with ⟨marks, rfl, hmarks⟩ | ⟨later, rfl, htail⟩
    · -- the opening begins at one of the marks behind the digits
      obtain _ | ⟨_, _ | ⟨_, _ | ⟨_, more⟩⟩⟩ := marks
      · obtain rfl := hmarks
        simp at hopening
      · obtain ⟨-, rfl⟩ := List.cons.inj hmarks
        exact hsign (by simpa using hopening)
      · obtain ⟨-, hmarks⟩ := List.cons.inj hmarks
        obtain ⟨-, rfl⟩ := List.cons.inj hmarks
        exact hmark (by simpa using hopening)
      · simp only [List.length_cons, List.length_append, hcount, placeholderDigits] at hlength
        omega
    · cases later with
      | nil =>
        obtain rfl := htail
        simp at hopening
      | cons c later =>
        obtain rfl := htail
        obtain rfl : '_' = c := (List.cons_prefix_cons.1 hopening).1
        exact ne_mark_of_isDigit (hdigits _ (List.mem_append_right _ List.mem_cons_self)) rfl

/-- Where a placeholder stands in text that is put together from pieces, it is one of them. -/
theorem exists_place (hfits : ∀ piece ∈ pieces, piece.Fits addresses)
    (h : pieces.flatMap Piece.source = front ++ (placeholder library ++ back)) :
    ∃ before other found after, pieces = before ++ Piece.place other found :: after ∧
      before.flatMap Piece.source = front ∧ placeholder other = placeholder library := by
  induction pieces generalizing front with
  | nil => simp [placeholder_ne_nil] at h
  | cons piece pieces ih =>
    obtain ⟨hpiece, hrest⟩ := List.forall_mem_cons.1 hfits
    cases piece with
    | digit c =>
      cases front with
      | nil =>
        obtain ⟨rfl, -⟩ := List.cons.inj h
        exact absurd rfl (ne_mark_of_isDigit hpiece)
      | cons d front =>
        obtain ⟨rfl, hlater⟩ := List.cons.inj h
        obtain ⟨before, other, found, after, rfl, rfl, hsame⟩ := ih hrest hlater
        exact ⟨.digit c :: before, other, found, after, rfl, rfl, hsame⟩
    | place other found =>
      have hparts : placeholder other ++ pieces.flatMap Piece.source =
          front ++ (placeholder library ++ back) := h
      by_cases hlong : 40 ≤ front.length
      · -- the placeholder comes later than this piece
        obtain ⟨rest, rfl⟩ : placeholder other <+: front :=
          List.prefix_of_prefix_length_le ⟨_, hparts⟩ (List.prefix_append _ _)
            (by rwa [length_placeholder])
        rw [List.append_assoc] at hparts
        obtain ⟨before, next, address, after, rfl, rfl, hsame⟩ :=
          ih hrest (List.append_cancel_left hparts)
        exact ⟨.place other found :: before, next, address, after, rfl, rfl, hsame⟩
      · by_cases hstart : front = []
        · rw [hstart, List.nil_append] at hparts
          have hsame := (List.append_inj hparts (by rw [length_placeholder, length_placeholder])).1
          exact ⟨[], other, found, pieces, rfl, hstart.symm, hsame⟩
        · have hopening : ['_', '_', '$'] <+: placeholder library ++ back :=
            opening_of_placeholder (List.prefix_append _ back)
          exact absurd hopening (not_opening_within hrest hparts hstart (by omega))

/-! ## Linking -/

/-- The text of bytecode without its mark. -/
def body (bytecode : Bytecode) : List Char := Hex.dropMark bytecode.object.toList

/-- Linking succeeds just if what is left after all replacements spells octets. -/
theorem link_eq_ok_iff : bytecode.link addresses = .ok octets ↔
    octetsOf? (substitute bytecode.body addresses) = some octets := by
  refine ⟨octetsOf?_of_link, fun hoctets => ?_⟩
  have hclean := placeholders_of_isDigit (isDigit_of_octetsOf? hoctets)
  rw [body] at hoctets hclean
  simp only [link, hclean, hoctets]

/-- What linking does to the digits of bytecode. -/
structure KeepsDigits (bytecode : Bytecode) (addresses : List (LibraryName × Address)) : Prop where
  /-- A text of whole octets is linked just to the octets that are written with the digits of the text,
  the addresses put in, in lower case. -/
  whole : bytecode.body.length % 2 = 0 → ∀ octets, bytecode.link addresses = .ok octets ↔
    Hex.encode octets = (substitute bytecode.body addresses).map Hex.lower
  /-- There are half as many octets as the text has characters. -/
  half : bytecode.body.length % 2 = 0 → ∀ octets, bytecode.link addresses = .ok octets →
    2 * octets.length = bytecode.body.length
  /-- An address stands at half the offset of its placeholder. -/
  placed : bytecode.body.length % 2 = 0 → ∀ octets, bytecode.link addresses = .ok octets →
    ∀ front library back address, bytecode.body = front ++ (placeholder library ++ back) →
      addressAt? addresses (placeholder library) = some address →
      ((Hex.encode octets).drop front.length).take 40 = address.digits ∧
        (front.length % 2 = 0 → (octets.drop (front.length / 2)).take 20 = address.octets)
  /-- An odd number of digits is filled up with a zero in front. -/
  odd : bytecode.body.length % 2 = 1 → ∀ octets, bytecode.link addresses = .ok octets ↔
    Hex.encode octets = '0' :: (substitute bytecode.body addresses).map Hex.lower
  /-- A text that is not hexadecimal with the addresses put in is refused with a fault of linking, if
  the references are well-formed and their names have a UTF-8 form. -/
  refused : Declared bytecode.references → bytecode.Encodable →
    (∃ c ∈ substitute bytecode.body addresses, Hex.isDigit c = false) →
    ∃ cause, bytecode.link addresses = .error (.deployment cause bytecode.contract) ∧
      cause.family = .linking

/-- What is put in at the offset of a placeholder is the address of the library. -/
theorem substitute_placed (hfits : ∀ piece ∈ pieces, piece.Fits addresses)
    (hplace : pieces.flatMap Piece.source = front ++ (placeholder library ++ back))
    (haddress : addressAt? addresses (placeholder library) = some address) :
    ((substitute (pieces.flatMap Piece.source) addresses).drop front.length).take 40 =
      address.digits := by
  obtain ⟨before, other, found, after, rfl, rfl, hsame⟩ := exists_place hfits hplace
  have hbefore : ∀ piece ∈ before, piece.Fits addresses := fun piece hpiece =>
    hfits piece (List.mem_append_left _ hpiece)
  have hput : (Piece.place other found).filled addresses = address.digits := by
    rw [Piece.filled, hsame, haddress]
    rfl
  have hoffset : (before.flatMap (Piece.filled addresses)).length =
      (before.flatMap Piece.source).length := by
    rw [← substitute_pieces hbefore, length_substitute]
  have hdigits : address.digits.length = 40 := address.length_digits
  rw [substitute_pieces hfits, List.flatMap_append, List.flatMap_cons, hput, ← hoffset,
    List.drop_left, ← hdigits, List.take_left]

/-- **Linking keeps the digits** of a text of whole octets, whatever the libraries; an odd number of
digits is filled up in front. -/
theorem link_keepsDigits (bytecode : Bytecode) (addresses : List (LibraryName × Address)) :
    KeepsDigits bytecode addresses := by
  have hlength := length_substitute bytecode.body addresses
  have hwhole : bytecode.body.length % 2 = 0 → ∀ octets, bytecode.link addresses = .ok octets ↔
      Hex.encode octets = (substitute bytecode.body addresses).map Hex.lower := by
    intro heven octets
    rw [link_eq_ok_iff, octetsOf?, if_neg (by omega), Hex.decode?_eq_some_iff]
  refine ⟨hwhole, ?half, ?placed, ?odd, ?refused⟩
  case half =>
    intro heven octets hlink
    have hdigits := congrArg List.length ((hwhole heven octets).1 hlink)
    rwa [Hex.length_encode, List.length_map, hlength] at hdigits
  case placed =>
    intro heven octets hlink front library back address hplace haddress
    obtain ⟨pieces, hpieces⟩ := exists_spelled hlink
    have hsource : bytecode.body = pieces.flatMap Piece.source := hpieces.source
    have hput := substitute_placed hpieces.fits (hsource ▸ hplace) haddress
    rw [← hsource] at hput
    have hdigits : ((Hex.encode octets).drop front.length).take 40 = address.digits := by
      rw [(hwhole heven octets).1 hlink, ← List.map_drop, ← List.map_take, hput, Address.digits,
        Hex.map_lower_encode]
    refine ⟨hdigits, fun hfront => Hex.encode_injective ?_⟩
    have hoffset : 2 * (front.length / 2) = front.length := by omega
    rw [Hex.encode_take, Hex.encode_drop, hoffset, hdigits, Address.digits]
  case odd =>
    intro hodd octets
    have hzero : Hex.lower '0' = '0' := by decide
    rw [link_eq_ok_iff, octetsOf?, if_pos (by omega), Hex.decode?_eq_some_iff, List.map_cons, hzero]
  case refused =>
    rintro hdeclared hencodable ⟨c, hc, hdigit⟩
    cases hlink : bytecode.link addresses with
    | ok octets =>
      have hdigits := isDigit_of_octetsOf? (link_eq_ok_iff.1 hlink)
      rw [hdigits c hc] at hdigit
      cases hdigit
    | error fault =>
      obtain ⟨cause, rfl, hfamily⟩ := fault_of_link hdeclared hencodable hlink
      exact ⟨cause, rfl, hfamily⟩

/-- Bytecode is not always linked digit for digit or refused: three digits are linked as four, so that
the octets are others than those with which the bytecode begins. -/
theorem not_always_whole : ¬ ∀ (bytecode : Bytecode) (addresses : List (LibraryName × Address)) (octets),
    bytecode.link addresses = .ok octets →
      Hex.encode octets = (substitute bytecode.body addresses).map Hex.lower := by
  intro h
  have hlink : Bytecode.link { object := "0x608" } [] = .ok [0x06, 0x08] := by rfl
  have hdigits := h _ _ _ hlink
  revert hdigits
  decide

end Bytecode

end Rollout
