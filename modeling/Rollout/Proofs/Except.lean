/-!
# Results and faults

Steps that may end with a fault, one after the other, succeed if each of them does.
-/

namespace Rollout

variable {α β ε : Type}

theorem except_bind_eq_ok {x : Except ε α} {f : α → Except ε β} {b : β} :
    (x >>= f) = .ok b ↔ ∃ a, x = .ok a ∧ f a = .ok b := by
  cases x with
  | error fault =>
    show Except.error fault = _ ↔ _
    simp
  | ok a =>
    show f a = _ ↔ _
    simp

theorem except_bind_eq_error {x : Except ε α} {f : α → Except ε β} {fault : ε} :
    (x >>= f) = .error fault ↔ x = .error fault ∨ ∃ a, x = .ok a ∧ f a = .error fault := by
  cases x with
  | error other =>
    show Except.error other = _ ↔ _
    simp
  | ok a =>
    show f a = _ ↔ _
    simp

theorem except_map_eq_ok {x : Except ε α} {f : α → β} {b : β} :
    x.map f = .ok b ↔ ∃ a, x = .ok a ∧ f a = b := by
  cases x with
  | error fault => simp [Except.map]
  | ok a => simp [Except.map]

theorem except_mapError_eq_ok {ε' : Type} {x : Except ε α} {f : ε → ε'} {a : α} :
    x.mapError f = .ok a ↔ x = .ok a := by
  cases x with
  | error fault =>
    show Except.error (f fault) = _ ↔ _
    simp
  | ok b =>
    show Except.ok b = _ ↔ _
    simp

theorem except_toOption_eq_some {x : Except ε α} {a : α} : x.toOption = some a ↔ x = .ok a := by
  cases x with
  | error fault => simp [Except.toOption]
  | ok b => simp [Except.toOption]

theorem except_map_bind {γ : Type} (x : Except ε α) (f : α → Except ε β) (g : β → γ) :
    (x >>= f).map g = x >>= fun a => (f a).map g := by
  cases x <;> rfl

theorem exists_bind {x : Except ε α} {f : α → Except ε β} (hx : ∃ a, x = .ok a)
    (hf : ∀ a, ∃ b, f a = .ok b) : ∃ b, x >>= f = .ok b := by
  obtain ⟨a, rfl⟩ := hx
  exact hf a

/-- Going through a list succeeds if each step does. -/
theorem exists_mapM {items : List α} {f : α → Except ε β}
    (h : ∀ item ∈ items, ∃ b, f item = .ok b) : ∃ results, items.mapM f = .ok results := by
  induction items with
  | nil => exact ⟨[], rfl⟩
  | cons item items ih =>
    obtain ⟨⟨b, hb⟩, hrest⟩ := List.forall_mem_cons.1 h
    obtain ⟨results, hresults⟩ := ih hrest
    exact ⟨b :: results, by rw [List.mapM_cons, hb, hresults]; rfl⟩

/-- Going through a list takes each step, or ends with the fault of the first step that fails. -/
theorem mapM_cases (items : List α) (f : α → Except ε β) :
    (∀ item ∈ items, ∃ b, f item = .ok b) ∨ ∃ before item after fault,
      items = before ++ item :: after ∧ (∀ earlier ∈ before, ∃ b, f earlier = .ok b) ∧
        f item = .error fault ∧ items.mapM f = .error fault := by
  induction items with
  | nil => exact .inl (by simp)
  | cons item items ih =>
    cases hitem : f item with
    | error fault =>
      refine .inr ⟨[], item, items, fault, rfl, by simp, hitem, ?_⟩
      rw [List.mapM_cons, hitem]
      rfl
    | ok b =>
      rcases ih with hall | ⟨before, other, after, fault, rfl, hbefore, hother, hfails⟩
      · exact .inl (List.forall_mem_cons.2 ⟨⟨b, hitem⟩, hall⟩)
      · refine .inr ⟨item :: before, other, after, fault, rfl,
          List.forall_mem_cons.2 ⟨⟨b, hitem⟩, hbefore⟩, hother, ?_⟩
        rw [List.mapM_cons, hitem, hfails]
        rfl

/-- If going through a list fails, one of the steps does. -/
theorem exists_error_of_mapM {items : List α} {f : α → Except ε β} {fault : ε}
    (h : items.mapM f = .error fault) : ∃ item ∈ items, f item = .error fault := by
  rcases mapM_cases items f with hall | ⟨before, item, after, other, rfl, -, hitem, hfails⟩
  · obtain ⟨results, hresults⟩ := exists_mapM hall
    rw [hresults] at h
    cases h
  · rw [hfails] at h
    obtain rfl := Except.error.inj h
    exact ⟨item, List.mem_append_right before List.mem_cons_self, hitem⟩

/-- Choosing from a list by decisions that succeed is filtering it. -/
theorem filterM_of_ok {items : List α} {p : α → Except ε Bool} {q : α → Bool}
    (h : ∀ item ∈ items, p item = .ok (q item)) : items.filterM p = .ok (items.filter q) := by
  have haux : ∀ kept, List.filterAuxM p items kept = .ok ((items.filter q).reverse ++ kept) := by
    induction items with
    | nil => exact fun kept => rfl
    | cons item rest ih =>
      obtain ⟨hitem, hrest⟩ := List.forall_mem_cons.1 h
      intro kept
      rw [List.filterAuxM, hitem]
      refine (ih hrest _).trans ?_
      cases hq : q item with
      | true => simp [List.filter_cons_of_pos hq]
      | false => simp [hq]
  rw [List.filterM, haux, List.append_nil]
  exact congrArg Except.ok (List.reverse_reverse _)

/-- Going through a list keeps its length. -/
theorem length_of_mapM {items : List α} {f : α → Except ε β} {results : List β}
    (h : items.mapM f = .ok results) : results.length = items.length := by
  induction items generalizing results with
  | nil =>
    cases h
    rfl
  | cons item rest ih =>
    rw [List.mapM_cons] at h
    obtain ⟨b, -, hmore⟩ := except_bind_eq_ok.1 h
    obtain ⟨others, hothers, hpure⟩ := except_bind_eq_ok.1 hmore
    obtain rfl : b :: others = results := Except.ok.inj hpure
    rw [List.length_cons, ih hothers, List.length_cons]

/-- Choosing from a list makes each decision, or ends with the fault of one. -/
theorem filterM_cases (items : List α) (p : α → Except ε Bool) :
    (∀ item ∈ items, ∃ b, p item = .ok b) ∨
      ∃ item ∈ items, ∃ fault, p item = .error fault ∧ items.filterM p = .error fault := by
  have haux : (∀ item ∈ items, ∃ b, p item = .ok b) ∨ ∃ item ∈ items, ∃ fault,
      p item = .error fault ∧ ∀ kept, List.filterAuxM p items kept = .error fault := by
    induction items with
    | nil => exact .inl (by simp)
    | cons item rest ih =>
      cases hitem : p item with
      | error fault =>
        refine .inr ⟨item, List.mem_cons_self, fault, hitem, fun kept => ?_⟩
        rw [List.filterAuxM, hitem]
        rfl
      | ok b =>
        rcases ih with hall | ⟨other, hother, fault, hfault, hfails⟩
        · exact .inl (List.forall_mem_cons.2 ⟨⟨b, hitem⟩, hall⟩)
        · refine .inr ⟨other, List.mem_cons_of_mem item hother, fault, hfault, fun kept => ?_⟩
          rw [List.filterAuxM, hitem]
          exact hfails _
  rcases haux with hall | ⟨item, hmem, fault, hfault, hfails⟩
  · exact .inl hall
  · refine .inr ⟨item, hmem, fault, hfault, ?_⟩
    rw [List.filterM, hfails]
    rfl

/-- Choosing from a list succeeds if each decision does, and takes just what was decided for. -/
theorem exists_filterM {items : List α} {p : α → Except ε Bool}
    (h : ∀ item ∈ items, ∃ b, p item = .ok b) :
    ∃ results, items.filterM p = .ok results ∧
      ∀ item, item ∈ results ↔ item ∈ items ∧ p item = .ok true := by
  let decision : α → Bool := fun item => (p item).toOption.getD false
  have hp : ∀ item ∈ items, p item = .ok (decision item) := by
    intro item hitem
    obtain ⟨b, hb⟩ := h item hitem
    simp only [decision, hb]
    rfl
  refine ⟨items.filter decision, filterM_of_ok hp, fun item => ?_⟩
  rw [List.mem_filter]
  refine and_congr_right fun hmem => ?_
  rw [hp item hmem]
  simp

theorem mem_of_filterM {items results : List α} {p : α → Except ε Bool} {item : α}
    (h : items.filterM p = .ok results) :
    item ∈ results ↔ item ∈ items ∧ p item = .ok true := by
  rcases filterM_cases items p with hall | ⟨other, -, fault, -, hfails⟩
  · obtain ⟨others, hothers, hmem⟩ := exists_filterM hall
    rw [hothers] at h
    rw [← Except.ok.inj h, hmem]
  · rw [hfails] at h
    cases h

end Rollout
