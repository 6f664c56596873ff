import Mathlib.Data.List.Forall2
/-!
# Lists one member after the other

What it means that a function with failures was applied to every member of a list: each member gave
its result, or one of them gave the failure. Where a list is cut that is taken for as long as a
condition holds. And what the members of a list lead to when each of them goes on from where the one
before it led.
-/

namespace PocketSql

section Spans

variable {α : Type} {p : α → Bool} {front back : List α}

theorem takeWhile_append_of_head? (hfront : ∀ member ∈ front, p member = true)
    (hback : back.head?.any p = false) : (front ++ back).takeWhile p = front := by
  rw [List.takeWhile_append_of_pos hfront]
  cases back with
  | nil => rw [List.takeWhile_nil, List.append_nil]
  | cons member rest =>
      rw [List.takeWhile_cons_of_neg (by simpa using hback), List.append_nil]

theorem dropWhile_append_of_head? (hfront : ∀ member ∈ front, p member = true)
    (hback : back.head?.any p = false) : (front ++ back).dropWhile p = back := by
  rw [List.dropWhile_append_of_pos hfront]
  cases back with
  | nil => rfl
  | cons member rest => exact List.dropWhile_cons_of_neg (by simpa using hback)

theorem head?_dropWhile_any (p : α → Bool) (list : List α) :
    (list.dropWhile p).head?.any p = false := by
  have h := List.head?_dropWhile_not p list
  cases hhead : (list.dropWhile p).head? with
  | none => rfl
  | some member =>
      rw [hhead] at h
      exact h

end Spans

/-- The members of a list lead from one value to another, each by the relation. -/
inductive Path {α β : Type} (R : α → β → β → Prop) : List α → β → β → Prop where
  | nil {value : β} : Path R [] value value
  | cons {member : α} {rest : List α} {first middle last : β} (hfirst : R member first middle)
      (hrest : Path R rest middle last) : Path R (member :: rest) first last

namespace Path

variable {α β : Type} {R : α → β → β → Prop} {front back list : List α} {first middle last : β}

theorem single {member : α} (h : R member first last) : Path R [member] first last :=
  .cons h .nil

/-- Members that lead nowhere. -/
theorem of_forall {value : β} (h : ∀ member ∈ list, R member value value) :
    Path R list value value := by
  induction list with
  | nil => exact .nil
  | cons member list ih =>
      obtain ⟨hmember, hlist⟩ := List.forall_mem_cons.mp h
      exact .cons hmember (ih hlist)

theorem append (hfront : Path R front first middle) (hback : Path R back middle last) :
    Path R (front ++ back) first last := by
  induction hfront with
  | nil => exact hback
  | cons hfirst _ ih => exact .cons hfirst (ih hback)

theorem of_append (h : Path R (front ++ back) first last) :
    ∃ middle, Path R front first middle ∧ Path R back middle last := by
  induction front generalizing first with
  | nil => exact ⟨first, .nil, h⟩
  | cons member front ih =>
      obtain _ | ⟨hfirst, hrest⟩ := h
      obtain ⟨middle, hfront, hback⟩ := ih hrest
      exact ⟨middle, .cons hfirst hfront, hback⟩

theorem forall_mem (h : Path R list first last) : ∀ member ∈ list, ∃ a b, R member a b := by
  induction h with
  | nil => simp
  | cons hfirst _ ih => exact List.forall_mem_cons.mpr ⟨⟨_, _, hfirst⟩, ih⟩

/-- What every member preserves holds at the end, and where each member began. -/
theorem invariant {I : β → Prop} (hstep : ∀ {member a b}, R member a b → I a → I b)
    (h : Path R list first last) (hfirst : I first) :
    I last ∧ ∀ member ∈ list, ∃ a b, R member a b ∧ I a := by
  induction h with
  | nil => exact ⟨hfirst, by simp⟩
  | cons hmember _ ih =>
      obtain ⟨hlast, hrest⟩ := ih (hstep hmember hfirst)
      exact ⟨hlast, List.forall_mem_cons.mpr ⟨⟨_, _, hmember, hfirst⟩, hrest⟩⟩

/-- The members lead from one view of the values to another. -/
theorem map {γ : Type} {S : α → γ → γ → Prop} (view : β → γ)
    (hstep : ∀ {member a b}, R member a b → S member (view a) (view b))
    (h : Path R list first last) : Path S list (view first) (view last) := by
  induction h with
  | nil => exact .nil
  | cons hmember _ ih => exact .cons (hstep hmember) ih

/-- Members that lead nowhere can be left out. -/
theorem of_filter {p : α → Bool} (hother : ∀ member value, p member = false → R member value value)
    (h : Path R (list.filter p) first last) : Path R list first last := by
  induction list generalizing first with
  | nil => exact h
  | cons member list ih =>
      cases hmember : p member with
      | false =>
          rw [List.filter_cons_of_neg (by simp [hmember])] at h
          exact .cons (hother member first hmember) (ih h)
      | true =>
          rw [List.filter_cons_of_pos hmember] at h
          obtain _ | ⟨hfirst, hrest⟩ := h
          exact .cons hfirst (ih hrest)

/-- Where every member leads by a path of its own, the paths are one. -/
theorem flatMap {γ : Type} {S : γ → β → β → Prop} {f : α → List γ}
    (hpath : ∀ {member a b}, R member a b → Path S (f member) a b) (h : Path R list first last) :
    Path S (list.flatMap f) first last := by
  induction h with
  | nil => exact .nil
  | cons hfirst _ ih => exact (hpath hfirst).append ih

/-- What can only begin with certain members has begun if one of them was among them. -/
theorem iff_exists {P : β → Prop} {Q : α → Prop}
    (hstep : ∀ {member a b}, R member a b → (P b ↔ P a ∨ Q member))
    (h : Path R list first last) : P last ↔ P first ∨ ∃ member ∈ list, Q member := by
  induction h with
  | nil => simp
  | cons hfirst _ ih =>
      rw [ih, hstep hfirst, or_assoc, List.exists_mem_cons_iff]

end Path

variable {α β ε : Type} {f : α → Except ε β}

theorem eq_ok_of_toOption {result : Except ε α} {value : α} (h : result.toOption = some value) :
    result = .ok value := by
  cases result with
  | error e => cases h
  | ok found => exact congrArg Except.ok (Option.some.inj h)

theorem map_eq_ok_iff {g : α → β} {result : Except ε α} {value : β} :
    result.map g = .ok value ↔ ∃ inner, result = .ok inner ∧ g inner = value := by
  cases result with
  | error e => simp [Except.map]
  | ok found => simp [Except.map]

theorem map_eq_error_iff {g : α → β} {result : Except ε α} {e : ε} :
    result.map g = .error e ↔ result = .error e := by
  cases result with
  | error e' => simp [Except.map]
  | ok found => simp [Except.map]

theorem mapError_eq_ok_iff {δ : Type} {g : ε → δ} {result : Except ε α} {value : α} :
    result.mapError g = .ok value ↔ result = .ok value := by
  cases result with
  | error e => simp [Except.mapError]
  | ok found => simp [Except.mapError]

theorem mapError_eq_error_iff {δ : Type} {g : ε → δ} {result : Except ε α} {e : δ} :
    result.mapError g = .error e ↔ ∃ inner, result = .error inner ∧ g inner = e := by
  cases result with
  | error e' => simp [Except.mapError]
  | ok found => simp [Except.mapError]

theorem eq_error_of_bind {g : α → Except ε β} {result : Except ε α} {e : ε}
    (h : (result >>= g) = .error e) :
    result = .error e ∨ ∃ value, result = .ok value ∧ g value = .error e := by
  cases result with
  | error e' =>
      cases h
      exact .inl rfl
  | ok value => exact .inr ⟨value, rfl, h⟩

theorem mapM_eq_ok_iff {list : List α} {results : List β} :
    list.mapM f = .ok results ↔
      List.Forall₂ (fun member result => f member = .ok result) list results := by
  induction list generalizing results with
  | nil =>
      constructor
      · intro h
        cases h
        exact .nil
      · intro h
        cases h
        rfl
  | cons member list ih =>
      rw [List.mapM_cons]
      cases hmember : f member with
      | error e =>
          constructor
          · intro h
            cases h
          · intro h
            cases h with
            | cons hfirst _ => cases hmember.symm.trans hfirst
      | ok first =>
          cases hlist : list.mapM f with
          | error e =>
              constructor
              · intro h
                cases h
              · intro h
                cases h with
                | cons _ hrest => cases hlist.symm.trans (ih.mpr hrest)
          | ok rest =>
              constructor
              · intro h
                cases h
                exact .cons hmember (ih.mp hlist)
              · intro h
                cases h with
                | cons hfirst hrest =>
                    cases hmember.symm.trans hfirst
                    cases hlist.symm.trans (ih.mpr hrest)
                    rfl

theorem exists_of_mem_mapM {list : List α} {results : List β} (h : list.mapM f = .ok results) :
    ∀ result ∈ results, ∃ member ∈ list, f member = .ok result := by
  have hall := mapM_eq_ok_iff.mp h
  clear h
  induction hall with
  | nil => simp
  | cons hfirst _ ih =>
      intro result hresult
      rcases List.mem_cons.mp hresult with rfl | hresult
      · exact ⟨_, List.mem_cons_self, hfirst⟩
      · obtain ⟨member, hmember, hf⟩ := ih result hresult
        exact ⟨member, List.mem_cons_of_mem _ hmember, hf⟩

theorem exists_ok_of_mem {list : List α} {results : List β} (h : list.mapM f = .ok results) :
    ∀ member ∈ list, ∃ result, f member = .ok result := by
  have hall := mapM_eq_ok_iff.mp h
  clear h
  induction hall with
  | nil => simp
  | cons hfirst _ ih => exact List.forall_mem_cons.mpr ⟨⟨_, hfirst⟩, ih⟩

theorem forall₂_image_iff {g : β → α} {P : β → Prop} {list : List α} {results : List β} :
    List.Forall₂ (fun member result => g result = member ∧ P result) list results ↔
      results.map g = list ∧ ∀ result ∈ results, P result := by
  induction results generalizing list with
  | nil => simp [eq_comm]
  | cons result results ih =>
      cases list with
      | nil => simp
      | cons member list =>
          rw [List.forall₂_cons, ih, List.map_cons, List.cons.injEq, List.forall_mem_cons]
          tauto

/-- The first failure is the one that counts, whatever stands behind it. -/
theorem mapM_of_first_error {front back : List α} {member : α} {e : ε}
    (hfront : ∀ other ∈ front, ∃ result, f other = .ok result) (h : f member = .error e) :
    (front ++ member :: back).mapM f = .error e := by
  induction front with
  | nil =>
      rw [List.nil_append, List.mapM_cons, h]
      rfl
  | cons other front ih =>
      obtain ⟨⟨result, hother⟩, hothers⟩ := List.forall_mem_cons.mp hfront
      rw [List.cons_append, List.mapM_cons, hother, ih hothers]
      rfl

/-- A failure is that of the first member that fails. -/
theorem mapM_eq_error_iff {list : List α} {e : ε} :
    list.mapM f = .error e ↔ ∃ front member back, list = front ++ member :: back ∧
      (∀ other ∈ front, ∃ result, f other = .ok result) ∧ f member = .error e := by
  constructor
  · intro h
    induction list with
    | nil => cases h
    | cons member list ih =>
        cases hmember : f member with
        | error e' =>
            rw [List.mapM_cons, hmember] at h
            cases h
            exact ⟨[], member, list, rfl, by simp, hmember⟩
        | ok first =>
            have hlist : list.mapM f = .error e := by
              rw [List.mapM_cons, hmember] at h
              cases hlist : list.mapM f with
              | error e' =>
                  rw [hlist] at h
                  exact h
              | ok rest =>
                  rw [hlist] at h
                  cases h
            obtain ⟨front, failed, back, rfl, hfront, hfailed⟩ := ih hlist
            exact ⟨member :: front, failed, back, rfl,
              List.forall_mem_cons.mpr ⟨⟨first, hmember⟩, hfront⟩, hfailed⟩
  · rintro ⟨front, member, back, rfl, hfront, hmember⟩
    exact mapM_of_first_error hfront hmember

theorem exists_of_mapM_eq_error {list : List α} {e : ε} (h : list.mapM f = .error e) :
    ∃ member ∈ list, f member = .error e := by
  obtain ⟨front, member, back, rfl, _, hmember⟩ := mapM_eq_error_iff.mp h
  exact ⟨member, List.mem_append_right front List.mem_cons_self, hmember⟩

/-- A loop that fails does so in one of its steps. -/
theorem exists_of_foldlM_eq_error {g : β → α → Except ε β} {list : List α} {first : β} {e : ε}
    (h : list.foldlM g first = .error e) :
    ∃ member ∈ list, ∃ state, g state member = .error e := by
  induction list generalizing first with
  | nil => cases h
  | cons member list ih =>
      rw [List.foldlM_cons] at h
      obtain hmember | ⟨next, _, hlist⟩ := eq_error_of_bind h
      · exact ⟨member, List.mem_cons_self, first, hmember⟩
      · obtain ⟨failed, hfailed, hstep⟩ := ih hlist
        exact ⟨failed, List.mem_cons_of_mem member hfailed, hstep⟩

theorem exists_mapM_of_forall₂ {R : α → β → Prop} {list : List α}
    (h : ∀ member ∈ list, ∃ result, f member = .ok result ∧ R member result) :
    ∃ results, list.mapM f = .ok results ∧ List.Forall₂ R list results := by
  induction list with
  | nil => exact ⟨[], rfl, .nil⟩
  | cons member list ih =>
      obtain ⟨⟨first, hfirst, hR⟩, hothers⟩ := List.forall_mem_cons.mp h
      obtain ⟨rest, hrest, hall⟩ := ih hothers
      refine ⟨first :: rest, ?_, .cons hR hall⟩
      rw [List.mapM_cons, hfirst, hrest]
      rfl

theorem exists_mapM_of_forall {P : β → Prop} {list : List α}
    (h : ∀ member ∈ list, ∃ result, f member = .ok result ∧ P result) :
    ∃ results, list.mapM f = .ok results ∧ ∀ result ∈ results, P result := by
  obtain ⟨results, hresults, hall⟩ := exists_mapM_of_forall₂ (R := fun _ => P) h
  refine ⟨results, hresults, fun result hresult => ?_⟩
  have hboth : List.Forall₂ (fun result _ => P result ∧ True) results list :=
    hall.flip.imp fun _ _ hP => ⟨hP, trivial⟩
  exact ((List.forall₂_and_left _ _).mp hboth).1 result hresult

end PocketSql
