import Rollout.Number.Literal
import Rollout.Proofs.Hex
import Rollout.Proofs.Text.Lines

/-!
# Numerals

A numeral is the digits of a base with single underscores between them (`Numeral`). A text is read
as a magnitude just if it is a numeral with blanks behind it (`magnitude_eq_ok_iff`), and a number
is read back from the digits with which it is written (`exists_counts`).
-/

namespace Rollout

namespace Literal

variable {base : Base} {c : Char} {text body rest whole : List Char} {counts : List Nat} {n : Nat}

/-! ## Digits -/

/-- No blank is a digit. -/
theorem digitValue?_of_isBlank (h : Text.isBlank c = true) : Text.digitValue? c = none := by
  have hblanks : ∀ code ∈ Text.blanks, Text.digitValue? (Char.ofNat code) = none := by decide
  have hcode : c.toNat ∈ Text.blanks := by simpa [Text.isBlank] using h
  have hblank := hblanks c.toNat hcode
  rwa [Char.ofNat_toNat] at hblank

theorem digit?_of_isBlank (h : Text.isBlank c = true) (base : Base) : base.digit? c = none := by
  have hhex : ∀ code ∈ Text.blanks, Hex.digit? (Char.ofNat code) = none := by decide
  have hcode : c.toNat ∈ Text.blanks := by simpa [Text.isBlank] using h
  have hblank := hhex c.toNat hcode
  rw [Char.ofNat_toNat] at hblank
  unfold Base.digit?
  rw [digitValue?_of_isBlank h]
  cases base with
  | ten => rfl
  | sixteen => exact hblank

theorem isBlank_of_digit? {d : Nat} (h : base.digit? c = some d) : Text.isBlank c = false := by
  by_contra hblank
  rw [digit?_of_isBlank (by simpa using hblank) base] at h
  cases h

/-- The digits of a base with single underscores between them, and what each digit counts. -/
inductive Numeral (base : Base) : List Char → List Nat → Prop where
  /-- One digit. -/
  | last {c : Char} {d : Nat} : base.digit? c = some d → Numeral base [c] [d]
  /-- A digit before others. -/
  | digit {c : Char} {d : Nat} {text : List Char} {counts : List Nat} :
    base.digit? c = some d → Numeral base text counts → Numeral base (c :: text) (d :: counts)
  /-- A digit before others, and an underscore between. -/
  | spaced {c : Char} {d : Nat} {text : List Char} {counts : List Nat} :
    base.digit? c = some d → Numeral base text counts →
    Numeral base (c :: '_' :: text) (d :: counts)

/-- The number to which digits add up behind others. -/
def Base.extend (base : Base) (value : Nat) (counts : List Nat) : Nat :=
  counts.foldl (fun n d => n * base.value + d) value

/-- The number that digits spell. -/
def Base.number (base : Base) (counts : List Nat) : Nat := base.extend 0 counts

theorem Numeral.exists_head (h : Numeral base text counts) :
    ∃ c d rest, text = c :: rest ∧ base.digit? c = some d := by
  cases h with
  | last hc => exact ⟨_, _, _, rfl, hc⟩
  | digit hc _ => exact ⟨_, _, _, rfl, hc⟩
  | spaced hc _ => exact ⟨_, _, _, rfl, hc⟩

/-- Every character of a numeral is a digit or an underscore. -/
theorem Numeral.forall_mem {p : Char → Prop} (h : Numeral base text counts)
    (hdigit : ∀ c d, base.digit? c = some d → p c) (hunderscore : p '_') : ∀ c ∈ text, p c := by
  induction h with
  | last hc => simpa using hdigit _ _ hc
  | digit hc _ ih => exact List.forall_mem_cons.2 ⟨hdigit _ _ hc, ih⟩
  | spaced hc _ ih =>
    exact List.forall_mem_cons.2 ⟨hdigit _ _ hc, List.forall_mem_cons.2 ⟨hunderscore, ih⟩⟩

/-- Nothing in a numeral is a blank. -/
theorem Numeral.isBlank_eq_false (h : Numeral base text counts) :
    ∀ c ∈ text, Text.isBlank c = false :=
  h.forall_mem (fun _ _ hc => isBlank_of_digit? hc) (by decide)

theorem digit?_underscore (base : Base) : base.digit? '_' = none := by
  cases base <;> decide

theorem ne_underscore {d : Nat} (h : base.digit? c = some d) : c ≠ '_' := by
  rintro rfl
  rw [digit?_underscore] at h
  cases h

/-! ## Reading a run of digits -/

/-- A text does not go on with a numeral. -/
def Stops (base : Base) (text : List Char) : Prop :=
  ∀ c rest, text = c :: rest → c ≠ '_' ∧ base.digit? c = none

theorem run_of_digit {d : Nat} (hc : base.digit? c = some d) (value count : Nat)
    (afterUnderscore : Bool) (rest : List Char) :
    run base value count afterUnderscore (c :: rest) =
      run base (value * base.value + d) (count + 1) false rest := by
  rw [run, if_neg (ne_underscore hc)]
  simp only [hc]

theorem run_of_stops (h : Stops base rest) (value count : Nat) :
    run base value count false rest = ⟨value, count, true, rest⟩ := by
  cases rest with
  | nil => rfl
  | cons c rest =>
    obtain ⟨hc, hdigit⟩ := h c rest rfl
    rw [run, if_neg hc]
    simp only [hdigit]
    rfl

/-- A numeral is read to its end. -/
theorem run_of_numeral (h : Numeral base text counts) (hstops : Stops base rest)
    (value count : Nat) : run base value count false (text ++ rest) =
      ⟨base.extend value counts, count + counts.length, true, rest⟩ := by
  induction h generalizing value count with
  | last hc =>
    rw [List.singleton_append, run_of_digit hc, run_of_stops hstops]
    rfl
  | digit hc _ ih =>
    rw [List.cons_append, run_of_digit hc, ih, List.length_cons, Nat.add_right_comm]
    rfl
  | @spaced c d text counts hc hrest ih =>
    obtain ⟨next, value', later, rfl, hnext⟩ := hrest.exists_head
    have hskip : run base (value * base.value + d) (count + 1) false
        ('_' :: next :: later ++ rest) = run base (value * base.value + d) (count + 1) false (next :: later ++ rest) := by
      rw [List.cons_append, run, if_pos rfl, if_neg (by simp), List.cons_append, run_of_digit hnext,
        run_of_digit hnext]
    rw [List.cons_append, run_of_digit hc, hskip, ih, List.length_cons, Nat.add_right_comm]
    rfl

/-- What is read as a run of digits, well separated, is a numeral. -/
theorem exists_numeral_of_run (value count : Nat) {d : Nat} (hc : base.digit? c = some d)
    (hseparated : (run base value count false (c :: text)).isSeparated = true) :
    ∃ body counts, Numeral base body counts ∧
      c :: text = body ++ (run base value count false (c :: text)).rest ∧
      (run base value count false (c :: text)).value = base.extend value counts ∧
      (run base value count false (c :: text)).count = count + counts.length := by
  rw [run_of_digit hc] at hseparated ⊢
  induction hn : text.length using Nat.strongRecOn generalizing c d text value count with | _ n ih
  cases text with
  | nil => exact ⟨[c], [d], .last hc, rfl, rfl, rfl⟩
  | cons e text =>
    by_cases hunderscore : e = '_'
    · subst hunderscore
      rw [run, if_pos rfl, if_neg (by simp)] at hseparated ⊢
      cases text with
      | nil => cases hseparated
      | cons f text =>
        cases hf : base.digit? f with
        | none =>
          rw [run] at hseparated
          split at hseparated
          · cases hseparated
          · simp [hf] at hseparated
        | some next =>
          rw [run_of_digit hf] at hseparated ⊢
          simp only [List.length_cons] at hn
          obtain ⟨body, counts, hbody, htext, hvalue, hcount⟩ :=
            ih text.length (by omega) _ _ hf hseparated rfl
          refine ⟨c :: '_' :: body, d :: counts, .spaced hc hbody, ?_, hvalue, ?_⟩
          · rw [List.cons_append, List.cons_append, ← htext]
          · rw [hcount, List.length_cons]
            omega
    · cases he : base.digit? e with
      | none =>
        have hstops : Stops base (e :: text) := by
          rintro _ _ ⟨⟩
          exact ⟨hunderscore, he⟩
        rw [run_of_stops hstops]
        exact ⟨[c], [d], .last hc, rfl, rfl, rfl⟩
      | some next =>
        rw [run_of_digit he] at hseparated ⊢
        rw [List.length_cons] at hn
        obtain ⟨body, counts, hbody, htext, hvalue, hcount⟩ :=
          ih text.length (by omega) _ _ he hseparated rfl
        refine ⟨c :: body, d :: counts, .digit hc hbody, ?_, hvalue, ?_⟩
        · rw [List.cons_append, ← htext]
        · rw [hcount, List.length_cons]
          omega

/-! ## Reading a magnitude -/

/-- A numeral is no longer than the limit of its base. -/
def Base.Keeps (base : Base) (counts : List Nat) : Prop := base = .ten → counts.length ≤ digitLimit

theorem text_isBlank_of_isBlank (h : isBlank c = true) : Text.isBlank c = true := by
  rw [isBlank, Bool.and_eq_true] at h
  exact h.1

/-- A text without sign is read just if it is a numeral with blanks behind it. -/
theorem magnitude_eq_ok_iff : magnitude base whole text = .ok n ↔
    ∃ body counts blanks, text = body ++ blanks ∧ Numeral base body counts ∧ base.Keeps counts ∧
      (∀ c ∈ blanks, isBlank c = true) ∧ n = base.number counts := by
  constructor
  · intro h
    rw [magnitude] at h
    split at h
    · cases h
    · next hform =>
      obtain ⟨hhead, hseparated⟩ := not_or.1 hform
      split at h
      · cases h
      · next hlimit =>
        split at h
        · cases h
        · next hrest =>
          obtain ⟨hcount, hblank⟩ := not_or.1 hrest
          cases text with
          | nil => exact absurd rfl hcount
          | cons c text =>
            cases hc : base.digit? c with
            | none =>
              have hstops : Stops base (c :: text) := by
                rintro _ _ ⟨⟩
                exact ⟨fun hsame => hhead (by simp [hsame]), hc⟩
              rw [run_of_stops hstops] at hcount
              exact absurd rfl hcount
            | some d =>
              obtain ⟨body, counts, hbody, htext, hvalue, hlength⟩ :=
                exists_numeral_of_run 0 0 hc (by simpa using hseparated)
              refine ⟨body, counts, _, htext, hbody, ?_, ?_, ?_⟩
              · intro hten
                by_contra hlong
                exact hlimit ⟨hten, by omega⟩
              · simpa using hblank
              · rw [← Except.ok.inj h, hvalue]
                rfl
  · rintro ⟨body, counts, blanks, rfl, hbody, hkeeps, hblanks, rfl⟩
    have hstops : Stops base blanks := by
      rintro c rest rfl
      have hblank := text_isBlank_of_isBlank (hblanks c List.mem_cons_self)
      refine ⟨?_, digit?_of_isBlank hblank base⟩
      rintro rfl
      revert hblank
      decide
    obtain ⟨c, d, later, rfl, hc⟩ := hbody.exists_head
    have hlength : counts.length ≠ 0 := by
      cases hbody <;> simp
    have hhead : ¬ (c :: later ++ blanks).head? = some '_' := by
      simpa using ne_underscore hc
    rw [magnitude]
    rw [run_of_numeral hbody hstops]
    rw [if_neg (by simpa using ne_underscore hc), if_neg, if_neg]
    · rfl
    · simpa [hlength] using hblanks
    · rintro ⟨hten, hlong : digitLimit < 0 + counts.length⟩
      have hshort := hkeeps hten
      omega

/-- A numeral is read as its number. -/
theorem magnitude_of_numeral (h : Numeral base text counts) (hkeeps : base.Keeps counts)
    (whole : List Char) : magnitude base whole text = .ok (base.number counts) :=
  magnitude_eq_ok_iff.2 ⟨text, counts, [], by simp, h, hkeeps, by simp, rfl⟩

/-! ## Written numbers -/

theorem Base.number_append (base : Base) (counts : List Nat) (d : Nat) :
    base.number (counts ++ [d]) = base.number counts * base.value + d := by
  rw [Base.number, Base.extend, List.foldl_append]
  rfl

theorem digit?_digitChar {d : Nat} (h : d < base.value) :
    base.digit? (Nat.digitChar d) = some d := by
  have hall : ∀ d < 16, Hex.digit? (Nat.digitChar d) = some d ∧
      Text.digitValue? (Nat.digitChar d) = if d < 10 then some d else none := by decide
  cases base with
  | ten =>
    have hd : d < 10 := h
    unfold Base.digit?
    rw [(hall d (by omega)).2, if_pos hd]
  | sixteen =>
    obtain ⟨hhex, hten⟩ := hall d h
    unfold Base.digit?
    rw [hten]
    by_cases hd : d < 10
    · rw [if_pos hd]
    · rw [if_neg hd]
      exact hhex

/-- The digits with which a number is written count what they should, and add up to it. -/
theorem exists_counts (base : Base) (n : Nat) : ∃ counts,
    (Nat.toDigits base.value n).map base.digit? = counts.map some ∧ base.number counts = n := by
  have hbase : 1 < base.value := by cases base <;> decide
  induction n using Nat.strongRecOn with | _ n ih
  by_cases hsmall : n < base.value
  · refine ⟨[n], ?_, ?_⟩
    · rw [Nat.toDigits_of_lt_base hsmall, List.map_singleton, digit?_digitChar hsmall]
      rfl
    · simp [Base.number, Base.extend]
  · have hpos : 0 < n := by omega
    obtain ⟨counts, hcounts, hnumber⟩ := ih (n / base.value) (Nat.div_lt_self hpos hbase)
    have hlast : n % base.value < base.value := Nat.mod_lt _ (by omega)
    refine ⟨counts ++ [n % base.value], ?_, ?_⟩
    · rw [Nat.toDigits_of_base_le hbase (by omega), List.map_append, hcounts, List.map_append,
        List.map_singleton, List.map_singleton, digit?_digitChar hlast]
    · rw [Base.number_append, hnumber, Nat.div_add_mod']

/-- Digits without underscores are a numeral. -/
theorem Numeral.of_digits (hne : text ≠ []) (h : text.map base.digit? = counts.map some) :
    Numeral base text counts := by
  induction text generalizing counts with
  | nil => exact absurd rfl hne
  | cons c rest ih =>
    cases counts with
    | nil => cases h
    | cons d counts =>
      obtain ⟨hc, hrest⟩ := List.cons.inj h
      by_cases hend : rest = []
      · subst hend
        obtain rfl : counts = [] := List.map_eq_nil_iff.1 hrest.symm
        exact .last hc
      · exact .digit hc (ih hend hrest)

/-- The letter case of a digit does not count. -/
theorem digit?_lower (c : Char) : Base.sixteen.digit? (Hex.lower c) = Base.sixteen.digit? c := by
  rcases Hex.lower_eq_self_or c with h | h
  · rw [h]
  · simp only [List.mem_cons, List.not_mem_nil, or_false] at h
    rcases h with rfl | rfl | rfl | rfl | rfl | rfl <;> rfl

end Literal

end Rollout
